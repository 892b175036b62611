import ProcessMeter.Cgroup.Failure
import ProcessMeter.Cgroup.Membership

/-!
# Where the cgroups of a process are

The membership of a process names cgroups within hierarchies; the mounts say where these
hierarchies are. Together they give the directories that hold the accounting files. A hierarchy
mounted from a cgroup below its root shows paths without that cgroup, so the mounted cgroup is
taken off the front of the path.
-/

namespace ProcessMeter

/-- The versions of cgroup accounting. -/
inductive CgroupVersion where
  /-- A hierarchy for each subsystem. -/
  | v1
  /-- The unified hierarchy. -/
  | v2
  /-- Controllers in both. -/
  | hybrid
  deriving DecidableEq, Repr

/-- A cgroup and where its hierarchy is mounted. -/
structure CgroupLocation where
  /-- The mount point of the hierarchy. -/
  mountPoint : Path
  /-- The path of the cgroup below the mount point, with one leading slash. -/
  path : Path
  deriving DecidableEq, Repr

/-- The directory of the accounting files. -/
def CgroupLocation.directory (location : CgroupLocation) : Path :=
  Path.below location.mountPoint location.path

/-- The cgroups of a process. -/
inductive CgroupPlacement where
  /-- One per subsystem. -/
  | v1 (controllers : TextMap CgroupLocation)
  /-- The one of the unified hierarchy. -/
  | v2 (location : CgroupLocation)
  deriving DecidableEq, Repr

namespace CgroupPlacement

/-- The version of the placement. -/
def version : CgroupPlacement → CgroupVersion
  | .v1 _ => .v1
  | .v2 _ => .v2

/-- The cgroup of a subsystem. -/
def subsystem? : CgroupPlacement → Text → Option CgroupLocation
  | .v1 controllers, name => controllers.get? name
  | .v2 _, _ => none

/-- The path that stands for the cgroup of the process: of several subsystems that of `cpu`, else
of `memory`, else of the first by name. -/
def path : CgroupPlacement → Path
  | .v2 location => location.path
  | .v1 controllers =>
    let preferred := (controllers.get? "cpu".toList).or (controllers.get? "memory".toList)
    match preferred.or controllers.values.head? with
    | some location => location.path
    | none => ['/']

end CgroupPlacement

namespace Cgroup

/-- The name of a cgroup: the last name of its path, empty for the root. -/
def id (path : Path) : Text := (Path.fileName? path).getD []

/-- The path without the slashes at its end. -/
def trimSlashes (path : Path) : Path := Text.trimEndWhile (· == '/') path

/-- The path with one leading slash and none at its end. -/
def canonical (path : Path) : Path := '/' :: trimSlashes (path.dropWhile (· == '/'))

/-- A path within a hierarchy as seen below the mounted cgroup `root`. A path outside `root` is
left as it is. -/
def belowMountRoot (root path : Path) : Path :=
  if root = ['/'] then path
  else
    match Text.dropStart? (trimSlashes root) path with
    | some [] => []
    | some ('/' :: rest) => '/' :: rest
    | _ => path

/-- What is needed to place processes in cgroups. -/
structure Locator where
  /-- Where the root file system of the host is visible. -/
  rootfs : Path
  /-- The mounted hierarchies. -/
  mounts : CgroupMounts
  /-- Whether root cgroups are left out. -/
  skipRoot : Bool
  /-- A path to be used for every process instead of its own. -/
  fixedPath : Option Path
  /-- Whether the unified hierarchy has controllers. -/
  unifiedHasControllers : Bool
  deriving DecidableEq, Repr

namespace Locator

/-- The membership file of a process. -/
def membershipFile (locator : Locator) (pid : Nat) : Path :=
  Path.below locator.rootfs ("/proc/".toList ++ Numeral.write pid ++ "/cgroup".toList)

/-- The version that governs a process with the given membership. -/
def version (locator : Locator) (entries : List Membership) : CgroupVersion :=
  let unified := entries.any Membership.isUnified
  let legacy := entries.any fun e => !e.isUnified && e.accountsForResource
  if unified && legacy && locator.unifiedHasControllers then .hybrid
  else if unified && !legacy then .v2
  else .v1

/-- Reads the membership of a process. -/
def membership (locator : Locator) (pid : Nat) : Probe CgroupFailure (List Membership) :=
  (Stat.read (locator.membershipFile pid) Membership.readAll).mapFailure (.membership pid)

/-- The cgroup at `path` of a mounted hierarchy. -/
def location (locator : Locator) (mount : CgroupMount) (path : Path) : CgroupLocation where
  mountPoint := mount.mountPoint
  path := canonical (locator.fixedPath.getD (belowMountRoot mount.root path))

/-- Whether a cgroup is left out as a root cgroup. -/
def skips (locator : Locator) (location : CgroupLocation) : Bool :=
  locator.skipRoot && location.path == ['/']

/-- The cgroup of the unified hierarchy. -/
def placeUnified (locator : Locator) (pid : Nat) (entries : List Membership) :
    Except CgroupFailure CgroupPlacement :=
  match locator.mounts.unified with
  | none => .error (.notMounted "cgroup2".toList)
  | some mount =>
    let path :=
      match entries.find? Membership.isUnified with
      | some entry => entry.path
      | none => ['/']
    let location := locator.location mount path
    if locator.skips location then .error (.inRoot pid location.path)
    else .ok (.v2 location)

/-- The names of subsystems with the path of their cgroup, line by line. -/
def subsystemPaths (entries : List Membership) : List (Text × Path) :=
  (entries.filter fun e => !e.isUnified).flatMap fun e => e.controllers.map fun c => (c, e.path)

/-- The subsystems that are placed. A later line for the same subsystem replaces an earlier one. -/
def placeSubsystems (locator : Locator) (paths : List (Text × Path)) : TextMap CgroupLocation :=
  paths.foldl
    (fun found (name, path) =>
      match locator.mounts.subsystems.get? name with
      | none => found
      | some mount =>
        let location := locator.location mount path
        if locator.skips location then found else found.insert name location)
    .empty

/-- Whether some mounted subsystem is left out for its root cgroup. -/
def skipsSome (locator : Locator) (paths : List (Text × Path)) : Bool :=
  paths.any fun (name, path) =>
    match locator.mounts.subsystems.get? name with
    | none => false
    | some mount => locator.skips (locator.location mount path)

/-- The cgroups of the older hierarchies. -/
def placeLegacy (locator : Locator) (pid : Nat) (entries : List Membership) :
    Except CgroupFailure CgroupPlacement :=
  let paths := subsystemPaths entries
  let controllers := locator.placeSubsystems paths
  if !controllers.isEmpty then .ok (.v1 controllers)
  else if locator.skipsSome paths then .error (.inRoot pid ['/'])
  else .error (.notMounted "cgroup".toList)

/-- The cgroups of a process with the given membership. -/
def place (locator : Locator) (pid : Nat) (entries : List Membership) :
    Except CgroupFailure CgroupPlacement :=
  match locator.version entries with
  | .hybrid => .error (.hybrid pid)
  | .v2 => locator.placeUnified pid entries
  | .v1 => locator.placeLegacy pid entries

/-- Writes a log record for each subsystem that is not mounted. -/
def noteUnmounted (locator : Locator) : List (Text × Path) → Probe CgroupFailure Unit
  | [] => pure ()
  | (name, _) :: rest => do
    if (locator.mounts.subsystems.get? name).isNone then
      Probe.log .debug s!"no mount point for cgroup subsystem `{String.ofList name}`, skipping"
    noteUnmounted locator rest

/-- The cgroups of a process. -/
def locate (locator : Locator) (pid : Nat) : Probe CgroupFailure CgroupPlacement := do
  let entries ← locator.membership pid
  if locator.version entries = .v1 then locator.noteUnmounted (subsystemPaths entries)
  Probe.ofExcept (locator.place pid entries)

end Locator

end Cgroup

end ProcessMeter
