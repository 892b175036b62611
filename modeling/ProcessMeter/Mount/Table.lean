import ProcessMeter.Mount.Record
import ProcessMeter.Stat.File
import ProcessMeter.Text.Map

/-!
# Cgroup mounts

The cgroup file systems are found in a mount table: the unified hierarchy by its type, and each
older hierarchy by the subsystems among its options. Where several mounts carry the same
hierarchy or subsystem the first one counts.
-/

namespace ProcessMeter

/-- The mount of a cgroup hierarchy. -/
structure CgroupMount where
  /-- Where it is mounted, below the root file system in use. -/
  mountPoint : Path
  /-- The cgroup that is mounted, as a path within the hierarchy. -/
  root : Text
  deriving DecidableEq, Repr

/-- The mounted cgroup hierarchies. -/
structure CgroupMounts where
  /-- The unified hierarchy. -/
  unified : Option CgroupMount
  /-- The older hierarchies by subsystem. -/
  subsystems : TextMap CgroupMount
  deriving DecidableEq, Repr

/-- Why no cgroup mounts are known. -/
inductive MountFailure where
  /-- The mount table does not open. -/
  | cannotOpen (path : Path) (failure : FileFailure)
  /-- A line of the mount table cannot be read. -/
  | cannotReadLine (path : Path) (failure : FileFailure)
  /-- A line of the mount table is malformed. -/
  | malformed (path : Path) (error : MountLineError)
  /-- The mount table lists no cgroup hierarchy. -/
  | noCgroups (path : Path)
  deriving DecidableEq, Repr

/-- The wording of the failure. -/
def MountFailure.message : MountFailure → String
  | .cannotOpen path failure =>
    s!"failed to open file `{Path.display path}`: " ++ failure.message
  | .cannotReadLine path failure =>
    s!"failed to read line for file `{Path.display path}`: " ++ failure.message
  | .malformed path error =>
    s!"failed to parse line in file `{Path.display path}`: " ++ error.message
  | .noCgroups path => s!"no cgroup mounts found in file `{Path.display path}`"

namespace MountRecord

/-- Options of an older cgroup hierarchy that name no subsystem. -/
def plainOptions : List Text :=
  ["rw", "ro", "noprefix", "xattr", "clone_children", "cpuset_v2_mode"].map String.toList

/-- The start of the option that names a hierarchy without controllers. -/
def namedHierarchy : Text := "name=".toList

/-- Whether an option names a subsystem. -/
def isSubsystem (option : Text) : Bool :=
  !plainOptions.contains option && (!option.elem '=' || Text.startsWith namedHierarchy option)

/-- The subsystems that a record names. -/
def subsystems (record : MountRecord) : List Text := record.optionList.filter isSubsystem

/-- Whether the record is of the unified hierarchy. -/
def isUnified (record : MountRecord) : Bool := record.fileSystem == "cgroup2".toList

/-- Whether the record is of an older hierarchy. -/
def isLegacy (record : MountRecord) : Bool := record.fileSystem == "cgroup".toList

/-- The mount that a record describes, seen below `rootfs`. -/
def cgroupMount (rootfs : Path) (record : MountRecord) : CgroupMount where
  mountPoint := Path.below rootfs record.decodedMountPoint
  root := record.decodedRoot

end MountRecord

namespace CgroupMounts

/-- No mounts. -/
def none : CgroupMounts := ⟨Option.none, .empty⟩

/-- Whether no hierarchy is mounted. -/
def isEmpty (mounts : CgroupMounts) : Bool := mounts.unified.isNone && mounts.subsystems.isEmpty

/-- The mounts with those of one more record. -/
def add (rootfs : Path) (record : MountRecord) (mounts : CgroupMounts) : CgroupMounts :=
  if record.isUnified then
    { mounts with unified := mounts.unified.or (some (record.cgroupMount rootfs)) }
  else if record.isLegacy then
    { mounts with
      subsystems := record.subsystems.foldl
        (fun found name => found.insertNew name (record.cgroupMount rootfs)) mounts.subsystems }
  else mounts

/-- Takes a line of the mount table at `path` in. Blank lines do not count. -/
def takeLine (path rootfs : Path) (line : Text) (mounts : CgroupMounts) :
    Probe MountFailure CgroupMounts :=
  if (Text.trim line).isEmpty then pure mounts
  else
    match MountRecord.read (Text.trimEnd line) with
    | .error error => Probe.fail (.malformed path error)
    | .ok record => do
      if record.isUnified && mounts.unified.isNone then
        Probe.log .debug
          (s!"Found `cgroup2` mount point with root `{String.ofList record.root}`: " ++
            String.ofList record.mountPoint)
      pure (mounts.add rootfs record)

/-- Reads the cgroup mounts of the mount table at `path`, seen below `rootfs`. -/
def readTable (path rootfs : Path) : Probe MountFailure CgroupMounts := do
  let tree ← Probe.files
  match tree.openFile path with
  | .error failure => Probe.fail (.cannotOpen path failure)
  | .ok opened =>
    let mounts ← Lines.carry (fun failure => Probe.fail (.cannotReadLine path failure))
      (fun _ line mounts => takeLine path rootfs line mounts) 1 .none (Lines.ofOpened opened)
    if mounts.isEmpty then Probe.fail (.noCgroups path) else pure mounts

end CgroupMounts

end ProcessMeter
