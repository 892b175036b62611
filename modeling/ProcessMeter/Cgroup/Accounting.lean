import ProcessMeter.Cgroup.Reading

/-!
# Cgroup accounting

The accounting of a host knows its mounts and reads the cgroup of any of its processes.
Controllers are read one by one; one that is missing or malformed is left out and leaves the
others as they are.
-/

namespace ProcessMeter

namespace Cgroup

/-- How cgroups are read. -/
structure Settings where
  /-- Where the root file system of the host is visible. -/
  rootfs : Path := ['/']
  /-- Whether processes in a root cgroup are left out. -/
  skipRoot : Bool := true
  /-- A path to be used for every process instead of its own. -/
  fixedPath : Option Path := none
  /-- Whether block devices go by their names. -/
  nameDevices : Bool := true
  deriving DecidableEq, Repr

/-- What is needed to read the cgroups of a host. -/
structure Accounting where
  /-- Where the cgroups of processes are. -/
  locator : Locator
  /-- The names of block devices. -/
  devices : DeviceDirectory
  /-- The units in which the kernel counts. -/
  units : HostUnits
  deriving DecidableEq, Repr

/-- The mounts of the first process, or one's own if its mount table does not open. -/
def findMounts (rootfs : Path) : Probe CgroupFailure CgroupMounts := do
  let first := Path.below rootfs "/proc/1/mountinfo".toList
  match ← Probe.attempt (CgroupMounts.readTable first rootfs) with
  | .ok mounts => pure mounts
  | .error (.cannotOpen path failure) =>
    Probe.log .debug
      ((MountFailure.cannotOpen path failure).message ++
        ", falling back to the reader's own mount table")
    let own := Path.below rootfs "/proc/self/mountinfo".toList
    (CgroupMounts.readTable own rootfs).mapFailure .mounts
  | .error failure => Probe.fail (.mounts failure)

/-- Whether the hierarchy mounted at a path has controllers. -/
def hasControllers (tree : FileTree) (mountPoint : Path) : Bool :=
  match tree.readText (Path.join mountPoint "cgroup.controllers".toList) with
  | .ok controllers => !(Text.trim controllers).isEmpty
  | .error _ => false

/-- A controller, or none if it cannot be read. -/
def optional {ε α : Type} (controller : Probe PathFailure α) : Probe ε (Option α) := do
  match ← Probe.attempt controller with
  | .ok value => pure (some value)
  | .error failure =>
    if failure.isGone then
      Probe.log .debug s!"{Path.display failure.path} does not exist. Skipping controller."
    else Probe.log .warn ("dropping cgroup controller: " ++ failure.message)
    pure none

namespace Accounting

/-- The accounting of the host whose root file system the settings name. -/
def ofSettings (units : HostUnits) (settings : Settings) : Probe CgroupFailure Accounting := do
  let tree ← Probe.files
  match tree.readDirectory settings.rootfs with
  | .error failure => Probe.fail (.unreadableRoot settings.rootfs failure)
  | .ok _ =>
    let mounts ← findMounts settings.rootfs
    pure {
      locator := {
        rootfs := settings.rootfs
        mounts
        skipRoot := settings.skipRoot
        fixedPath := settings.fixedPath
        unifiedHasControllers :=
          match mounts.unified with
          | some unified => hasControllers tree unified.mountPoint
          | none => false }
      devices := .ofRoot settings.rootfs settings.nameDevices
      units }

/-- The version that governs a process. -/
def version (accounting : Accounting) (pid : Nat) : Probe CgroupFailure CgroupVersion := do
  let entries ← accounting.locator.membership pid
  pure (accounting.locator.version entries)

/-- A subsystem of a placement, if it is placed and can be read. -/
def subsystem {ε α : Type} (placement : CgroupPlacement) (name : String)
    (read : Path → Probe PathFailure α) : Probe ε (Option α) :=
  match placement.subsystem? name.toList with
  | none => pure none
  | some location => optional (read location.directory)

/-- The subsystems of a placement. -/
def readLegacy {ε : Type} (accounting : Accounting) (placement : CgroupPlacement) :
    Probe ε CgroupReading := do
  let cpu ← subsystem placement "cpu" Legacy.Cpu.read
  let cpuTime ← subsystem placement "cpuacct" (Legacy.CpuTime.read accounting.units)
  let memory ← subsystem placement "memory" Legacy.Memory.read
  let blockIo ← subsystem placement "blkio" fun d => Legacy.BlockIo.read d accounting.devices
  let pids ← subsystem placement "pids" PidsStat.read
  pure (.ofControllers placement.path (.v1 { cpu, cpuTime, memory, blockIo, pids }))

/-- The controllers at a location of the unified hierarchy. -/
def readUnified {ε : Type} (accounting : Accounting) (location : CgroupLocation) :
    Probe ε CgroupReading := do
  let cpu ← optional (Unified.Cpu.read location.directory)
  let memory ← optional (Unified.Memory.read location.directory)
  let io ← optional (Unified.Io.read location.directory accounting.devices)
  let pids ← optional (PidsStat.read location.directory)
  pure (.ofControllers location.path (.v2 { cpu, memory, io, pids }))

/-- The word for a version in log records. -/
def versionWord : CgroupVersion → String
  | .v1 => "V1"
  | .v2 => "V2"
  | .hybrid => "Hybrid"

/-- The cgroup of a process. -/
def read (accounting : Accounting) (pid : Nat) : Probe CgroupFailure CgroupReading := do
  let placement ← accounting.locator.locate pid
  let reading ← match placement with
    | .v1 _ => accounting.readLegacy placement
    | .v2 location => accounting.readUnified location
  Probe.log .trace
    s!"read {versionWord reading.version} cgroup `{Path.display reading.path}` of process {pid}"
  pure reading

end Accounting

end Cgroup

end ProcessMeter
