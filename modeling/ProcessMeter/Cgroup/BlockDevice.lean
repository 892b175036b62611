import ProcessMeter.Number.Numeral
import ProcessMeter.Probe

/-!
# Names of block devices

Accounting files give a block device by its major and minor number. The directory of devices
knows its name: the `DEVNAME` of its description, or else the name that its link points to. A
device without a known name goes by the token that gave it.
-/

namespace ProcessMeter

/-- A block device as an accounting file gives it. -/
structure BlockDevice where
  /-- The number of the driver. -/
  major : Nat
  /-- The number among the devices of the driver. -/
  minor : Nat
  /-- The token that gives both. -/
  token : Text
  deriving DecidableEq, Repr

/-- Reads two 32-bit numbers around the first colon. -/
def BlockDevice.read? (token : Text) : Option BlockDevice :=
  match Text.cut ':' token with
  | none => none
  | some (major, minor) =>
    match Numeral.read32 major, Numeral.read32 minor with
    | .ok major, .ok minor => some { major, minor, token }
    | _, _ => none

/-- Where names of block devices are looked up. -/
structure DeviceDirectory where
  /-- The directory of devices; without one no name is known. -/
  directory : Option Path
  deriving DecidableEq, Repr

namespace DeviceDirectory

/-- No names. -/
def absent : DeviceDirectory := ⟨none⟩

/-- The names known below `rootfs`, or none. -/
def ofRoot (rootfs : Path) (enabled : Bool) : DeviceDirectory :=
  ⟨if enabled then some (Path.below rootfs "/sys/dev/block".toList) else none⟩

/-- The name that the description of a device gives: its first `DEVNAME`, unless that is blank. -/
def describedName? (description : Text) : Option Text :=
  match (Text.lines description).findSome? (Text.dropStart? "DEVNAME=".toList) with
  | none => none
  | some value =>
    let name := Text.trim value
    if name.isEmpty then none else some name

/-- The name of the device with the given numbers. -/
def find? (names : DeviceDirectory) (tree : FileTree) (major minor : Nat) : Option Text :=
  match names.directory with
  | none => none
  | some directory =>
    let place := Path.join directory (Numeral.write major ++ ':' :: Numeral.write minor)
    let described :=
      match tree.readText (Path.join place "uevent".toList) with
      | .ok description => describedName? description
      | .error _ => none
    match described with
    | some name => some name
    | none =>
      match tree.readLink place with
      | .ok target => Path.fileName? target
      | .error _ => none

/-- The name of a device, or its token if the name is not known. -/
def name {ε : Type} (names : DeviceDirectory) (device : BlockDevice) : Probe ε Text := do
  let tree ← Probe.files
  match names.find? tree device.major device.minor with
  | some name => pure name
  | none =>
    Probe.log .trace s!"could not resolve name of block device {String.ofList device.token}"
    pure device.token

end DeviceDirectory

end ProcessMeter
