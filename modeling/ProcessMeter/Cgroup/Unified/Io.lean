import ProcessMeter.Cgroup.BlockDevice
import ProcessMeter.Cgroup.IoCount
import ProcessMeter.Cgroup.Pressure
import ProcessMeter.Text.Map

/-!
# Block devices of version 2

A line of the `io` controller lists devices and figures. Devices with equal figures share a line,
so every device on it has all of its figures. A line without figures says nothing.
-/

namespace ProcessMeter

namespace Unified

/-- The input and output of one device. -/
structure IoDevice where
  /-- What was read. -/
  read : IoCount
  /-- What was written. -/
  write : IoCount
  /-- What was discarded. -/
  discarded : IoCount
  deriving DecidableEq, Repr

namespace IoDevice

/-- Nothing moved. -/
def zero : IoDevice := ⟨.zero, .zero, .zero⟩

/-- The device with the figure of one key. Unknown keys do not count. -/
def withFigure (key : Text) (figure : Nat) (device : IoDevice) : IoDevice :=
  if key = "rbytes".toList then { device with read.bytes := figure }
  else if key = "wbytes".toList then { device with write.bytes := figure }
  else if key = "rios".toList then { device with read.operations := figure }
  else if key = "wios".toList then { device with write.operations := figure }
  else if key = "dbytes".toList then { device with discarded.bytes := figure }
  else if key = "dios".toList then { device with discarded.operations := figure }
  else device

end IoDevice

/-- What a word on a line of the `io` controller says. -/
inductive IoWord where
  /-- A figure of the devices on the line. -/
  | figure (key : Text) (value : Nat)
  /-- A device. -/
  | device (device : BlockDevice)
  /-- Nothing. -/
  | idle
  deriving DecidableEq, Repr

/-- Reads one word. A word with `=` is a figure, another one with a colon a device. -/
def IoWord.read (line : Nat) (word : Text) : Except StatError IoWord :=
  match Text.cut '=' word with
  | some (key, value) =>
    match Numeral.read64 value with
    | .ok n => .ok (.figure key n)
    | .error cause => .error (.invalidKeyValue key value line cause)
  | none =>
    if word.elem ':' then
      match BlockDevice.read? word with
      | some found => .ok (.device found)
      | none => .error (.invalidDevice word line)
    else .ok .idle

/-- What the words of a line have said so far. -/
structure IoLine where
  /-- The names of the devices, in order. -/
  names : List Text
  /-- The figures. -/
  figures : IoDevice
  /-- Whether there was a figure. -/
  hasFigures : Bool
  deriving DecidableEq, Repr

namespace IoLine

/-- Before the first word. -/
def start : IoLine := ⟨[], .zero, false⟩

/-- Takes in the words of a line in order. -/
def takeWords (nameOf : BlockDevice → Probe ReadFailure Text) (number : Nat) :
    IoLine → List Text → Probe ReadFailure IoLine
  | line, [] => pure line
  | line, word :: rest =>
    match IoWord.read number word with
    | .error error => Probe.fail (.malformed error)
    | .ok .idle => takeWords nameOf number line rest
    | .ok (.figure key value) =>
      takeWords nameOf number
        { line with figures := line.figures.withFigure key value, hasFigures := true } rest
    | .ok (.device device) => do
      let name ← nameOf device
      takeWords nameOf number { line with names := line.names ++ [name] } rest

/-- The devices with those of one more line. -/
def addTo (line : IoLine) (devices : TextMap IoDevice) : TextMap IoDevice :=
  if line.hasFigures then
    line.names.foldl (fun devices name => devices.insert name line.figures) devices
  else devices

end IoLine

/-- Takes in one line of the `io` controller. -/
def takeIoLine (nameOf : BlockDevice → Probe ReadFailure Text) (number : Nat) (text : Text)
    (devices : TextMap IoDevice) : Probe ReadFailure (TextMap IoDevice) := do
  let line ← IoLine.takeWords nameOf number .start (Text.words text)
  pure (line.addTo devices)

/-- Reads the devices of the `io` controller under the names that `nameOf` gives them. -/
def readIoLines (nameOf : BlockDevice → Probe ReadFailure Text) (lines : Lines) :
    Probe ReadFailure (TextMap IoDevice) :=
  Lines.carry (fun failure => Probe.fail (.file failure)) (takeIoLine nameOf) 1 .empty lines

/-- The `io` controller of a cgroup. -/
structure Io where
  /-- The devices by name. -/
  devices : TextMap IoDevice
  /-- The waiting for input and output. -/
  pressure : Option Pressure
  deriving DecidableEq, Repr

/-- Reads the `io` controller in a cgroup directory. The devices must be there. -/
def Io.read (directory : Path) (names : DeviceDirectory) : Probe PathFailure Io := do
  let devices ← Stat.readWith (Path.join directory "io.stat".toList) (readIoLines names.name)
  let pressure ← Pressure.read (Path.join directory "io.pressure".toList)
  pure { devices, pressure }

end Unified

end ProcessMeter
