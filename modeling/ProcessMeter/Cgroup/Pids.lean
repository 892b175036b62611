import ProcessMeter.Stat.Scalar
import ProcessMeter.Stat.File

/-!
# Tasks in a cgroup

Both versions of cgroup accounting count tasks in the same files.
-/

namespace ProcessMeter

/-- The tasks of a cgroup. -/
structure PidsStat where
  /-- The number of tasks. -/
  current : Nat
  /-- The most tasks allowed, if there is a limit. -/
  limit : Option Nat
  deriving DecidableEq, Repr

/-- Reads the task counts in a cgroup directory. The limit may be missing. -/
def PidsStat.read (directory : Path) : Probe PathFailure PidsStat := do
  let current ← Stat.read (Path.join directory "pids.current".toList) Scalar.readNumber
  let limit ← Stat.readOptional (Path.join directory "pids.max".toList) Scalar.readLimit
  pure { current, limit := limit.join }

end ProcessMeter
