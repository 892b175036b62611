import ProcessMeter.Cgroup.Failure

/-!
# Failures of sampling
-/

namespace ProcessMeter

/-- Why a process is not sampled. -/
inductive ProcessFailure where
  /-- The process does not exist, or it ended while it was read. -/
  | notFound (pid : Nat)
  /-- A file of the process cannot be read. -/
  | unreadable (failure : PathFailure)
  /-- A source of facts is malformed. -/
  | malformed (path : Path) (reason : String)
  /-- The cgroup of the process is not accounted for. -/
  | cgroup (failure : CgroupFailure)
  /-- A pattern is malformed. -/
  | badPattern (pattern : Text)
  /-- The processes cannot be listed. -/
  | cannotList (path : Path) (failure : FileFailure)
  deriving DecidableEq, Repr

namespace ProcessFailure

/-- The wording of the failure. -/
def message : ProcessFailure → String
  | .notFound pid => s!"process {pid} not found"
  | .unreadable failure => failure.message
  | .malformed path reason => s!"malformed `{Path.display path}`: " ++ reason
  | .cgroup failure => "failed to read cgroup accounting: " ++ failure.message
  | .badPattern pattern => s!"invalid process pattern `{String.ofList pattern}`"
  | .cannotList path failure =>
    s!"failed to list processes in `{Path.display path}`: " ++ failure.message

/-- The failure to read a file of a process; if the file is gone, so is the process. -/
def ofFile (pid : Nat) (failure : PathFailure) : ProcessFailure :=
  if failure.isGone then .notFound pid else .unreadable failure

/-- The failure to read the cgroup of a process. -/
def ofCgroup (pid : Nat) (failure : CgroupFailure) : ProcessFailure :=
  if failure.meansProcessGone then .notFound pid else .cgroup failure

/-- Whether the process is gone. -/
def isGone : ProcessFailure → Bool
  | .notFound _ => true
  | _ => false

end ProcessFailure

end ProcessMeter
