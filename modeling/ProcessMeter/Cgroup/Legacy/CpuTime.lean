import ProcessMeter.Host
import ProcessMeter.Stat.Scalar

/-!
# Processor times of version 1

The `cpuacct` subsystem adds up processor time: in nanoseconds for the cgroup and for each
processor, and in clock ticks for user and kernel mode.
-/

namespace ProcessMeter

namespace Legacy

/-- Processor time by mode. -/
structure ModeTimes where
  /-- In user mode. -/
  user : Duration
  /-- In kernel mode. -/
  system : Duration
  deriving DecidableEq, Repr

/-- The keys of the file of times by mode. -/
def ModeTimes.table (units : HostUnits) : KeyTable ModeTimes where
  fields := [
    ("user".toList, fun v s => { s with user := units.ticks v }),
    ("system".toList, fun v s => { s with system := units.ticks v })]

/-- Reads the file of times by mode. -/
def ModeTimes.readLines (units : HostUnits) : LineReader ModeTimes :=
  (table units).read ⟨.zero, .zero⟩

/-- Numbers on line 1, one after the other. -/
def readNumbers : List Text → Except StatError (List Nat)
  | [] => .ok []
  | word :: rest =>
    match Scalar.number 1 word with
    | .error error => .error error
    | .ok n => (readNumbers rest).map (n :: ·)

/-- Reads the times of the processors in the order of their numbers. -/
def readProcessorTimes : LineReader (List Duration) := Scalar.readFirst fun line =>
  (readNumbers (Text.words line)).map fun times => times.map .ofNanos

/-- The `cpuacct` subsystem of a cgroup. -/
structure CpuTime where
  /-- The processor time of all tasks. -/
  total : Duration
  /-- The time by mode. -/
  modes : Option ModeTimes
  /-- The time by processor. -/
  processors : Option (List Duration)
  deriving DecidableEq, Repr

/-- Reads the `cpuacct` subsystem in a cgroup directory. Only the total must be there. -/
def CpuTime.read (units : HostUnits) (directory : Path) : Probe PathFailure CpuTime := do
  let file (name : String) := Path.join directory name.toList
  let total ← Stat.read (file "cpuacct.usage") Scalar.readNumber
  let modes ← Stat.readOptional (file "cpuacct.stat") (ModeTimes.readLines units)
  let processors ← Stat.readOptional (file "cpuacct.usage_percpu") readProcessorTimes
  pure { total := .ofNanos total, modes, processors }

end Legacy

end ProcessMeter
