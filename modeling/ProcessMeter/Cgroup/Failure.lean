import ProcessMeter.Mount.Table

/-!
# Failures of cgroup accounting
-/

namespace ProcessMeter

/-- Why the cgroup of a process is not accounted for. -/
inductive CgroupFailure where
  /-- The process is in a root cgroup, and those are left out. -/
  | inRoot (pid : Nat) (path : Path)
  /-- The cgroups of the process cannot be read. -/
  | membership (pid : Nat) (failure : PathFailure)
  /-- The process has controllers in the unified and in an older hierarchy. -/
  | hybrid (pid : Nat)
  /-- The hierarchy of the process is not mounted. -/
  | notMounted (controller : Text)
  /-- The mounts are not known. -/
  | mounts (failure : MountFailure)
  /-- The root file system cannot be listed. -/
  | unreadableRoot (path : Path) (failure : FileFailure)
  deriving DecidableEq, Repr

namespace CgroupFailure

/-- The wording of the failure. -/
def message : CgroupFailure → String
  | .inRoot pid path => s!"process {pid} is in the root cgroup `{Path.display path}`"
  | .membership pid failure =>
    s!"failed to resolve cgroup paths of process {pid}: " ++ failure.message
  | .hybrid pid => s!"process {pid} uses controllers in both the v1 and v2 hierarchies"
  | .notMounted controller =>
    s!"no mount point found for cgroup controller `{String.ofList controller}`"
  | .mounts failure => failure.message
  | .unreadableRoot path failure =>
    s!"root filesystem `{Path.display path}` is not readable: " ++ failure.message

/-- Whether the failure means that the process is gone. -/
def meansProcessGone : CgroupFailure → Bool
  | .membership _ failure => failure.isGone
  | _ => false

end CgroupFailure

end ProcessMeter
