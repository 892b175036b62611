import ProcessMeter.Cgroup.Pressure
import ProcessMeter.Stat.KeyValue

/-!
# Processor time of version 2

The `cpu` controller adds up processor time, throttles by a quota for each period, and reports
pressure. Times are in microseconds. Without the controller a cgroup still reports its times.
-/

namespace ProcessMeter

namespace Unified

/-- The processor time of a cgroup. -/
structure CpuStat where
  /-- In user and kernel mode together. -/
  usage : Duration
  /-- In user mode. -/
  user : Duration
  /-- In kernel mode. -/
  system : Duration
  /-- The periods that have passed. -/
  periods : Nat
  /-- The periods in which the cgroup was throttled. -/
  throttledPeriods : Nat
  /-- The time for which it was throttled. -/
  throttledTime : Duration
  /-- The periods in which it went beyond its quota. -/
  bursts : Nat
  /-- The time that it used beyond its quota. -/
  burstTime : Duration
  deriving DecidableEq, Repr

/-- The record before anything is read. -/
def CpuStat.zero : CpuStat := ⟨.zero, .zero, .zero, 0, 0, .zero, 0, .zero⟩

/-- The keys of the times. -/
def CpuStat.table : KeyTable CpuStat where
  fields := [
    ("usage_usec".toList, fun v s => { s with usage := .ofMicros v }),
    ("user_usec".toList, fun v s => { s with user := .ofMicros v }),
    ("system_usec".toList, fun v s => { s with system := .ofMicros v }),
    ("nr_periods".toList, fun v s => { s with periods := v }),
    ("nr_throttled".toList, fun v s => { s with throttledPeriods := v }),
    ("throttled_usec".toList, fun v s => { s with throttledTime := .ofMicros v }),
    ("nr_bursts".toList, fun v s => { s with bursts := v }),
    ("burst_usec".toList, fun v s => { s with burstTime := .ofMicros v })]

/-- Reads the times. -/
def CpuStat.readLines : LineReader CpuStat := table.read .zero

/-- The processor time that a cgroup may use. -/
structure CpuLimit where
  /-- The time allowed in a period; none if unlimited. -/
  quota : Option Duration
  /-- The length of a period. -/
  period : Duration
  deriving DecidableEq, Repr

/-- The length of a period that is not given: a tenth of a second. -/
def CpuLimit.usualPeriod : Duration := .ofMicros 100000

/-- Reads a quota or `max`, then a period. Both may be missing. -/
def CpuLimit.readLine (line : Text) : Except StatError CpuLimit :=
  match Text.words line with
  | [] => .ok ⟨none, usualPeriod⟩
  | quota :: rest =>
    match Scalar.limit 1 quota with
    | .error error => .error error
    | .ok quota =>
      match rest with
      | [] => .ok ⟨quota.map .ofMicros, usualPeriod⟩
      | period :: _ =>
        match Scalar.number 1 period with
        | .error error => .error error
        | .ok period => .ok ⟨quota.map .ofMicros, .ofMicros period⟩

/-- Reads the limit from the first line. -/
def CpuLimit.readLines : LineReader CpuLimit := Scalar.readFirst readLine

/-- The `cpu` controller of a cgroup. -/
structure Cpu where
  /-- The times. -/
  stat : CpuStat
  /-- The limit, if the controller is in use. -/
  limit : Option CpuLimit
  /-- The weight against other cgroups. -/
  weight : Option Nat
  /-- The waiting for a processor. -/
  pressure : Option Pressure
  deriving DecidableEq, Repr

/-- Reads the `cpu` controller in a cgroup directory. Only the times must be there. -/
def Cpu.read (directory : Path) : Probe PathFailure Cpu := do
  let file (name : String) := Path.join directory name.toList
  let stat ← Stat.read (file "cpu.stat") CpuStat.readLines
  let limit ← Stat.readOptional (file "cpu.max") CpuLimit.readLines
  let weight ← Stat.readOptional (file "cpu.weight") Scalar.readNumber
  let pressure ← Pressure.read (file "cpu.pressure")
  pure { stat, limit, weight, pressure }

end Unified

end ProcessMeter
