import ProcessMeter.Stat.KeyValue
import ProcessMeter.Stat.Scalar
import ProcessMeter.Stat.File

/-!
# Processor shares of version 1

The `cpu` subsystem divides processor time: by shares, and by a quota for each period. A process
that has used up its quota is throttled until the period ends.
-/

namespace ProcessMeter

namespace Legacy

/-- The settings of the fair scheduler. -/
structure Scheduling where
  /-- The length of a period. -/
  period : Option Duration
  /-- The processor time allowed in a period; none if unlimited. -/
  quota : Option Duration
  /-- The weight against other cgroups. -/
  shares : Nat
  deriving DecidableEq, Repr

/-- How often and how long the cgroup was throttled. -/
structure Throttling where
  /-- The periods that have passed. -/
  periods : Nat
  /-- The periods in which the cgroup was throttled. -/
  throttledPeriods : Nat
  /-- The time for which it was throttled. -/
  throttledTime : Duration
  deriving DecidableEq, Repr

/-- The keys of the throttling file; its times are in nanoseconds. -/
def Throttling.table : KeyTable Throttling where
  fields := [
    ("nr_periods".toList, fun v s => { s with periods := v }),
    ("nr_throttled".toList, fun v s => { s with throttledPeriods := v }),
    ("throttled_time".toList, fun v s => { s with throttledTime := .ofNanos v })]

/-- Reads the throttling file. -/
def Throttling.readLines : LineReader Throttling := table.read ⟨0, 0, .zero⟩

/-- The `cpu` subsystem of a cgroup. -/
structure Cpu where
  /-- The settings of the fair scheduler. -/
  scheduling : Scheduling
  /-- The throttling, if it is accounted for. -/
  throttling : Option Throttling
  deriving DecidableEq, Repr

/-- The time that a quota in microseconds allows; a negative one stands for no limit. -/
def quotaTime (quota : Int) : Option Duration :=
  if 0 ≤ quota then some (.ofMicros quota.toNat) else none

/-- Reads the `cpu` subsystem in a cgroup directory. Only the shares must be there. -/
def Cpu.read (directory : Path) : Probe PathFailure Cpu := do
  let file (name : String) := Path.join directory name.toList
  let shares ← Stat.read (file "cpu.shares") Scalar.readNumber
  let period ← Stat.readOptional (file "cpu.cfs_period_us") Scalar.readNumber
  let quota ← Stat.readOptional (file "cpu.cfs_quota_us") Scalar.readSigned
  let throttling ← Stat.readOptional (file "cpu.stat") Throttling.readLines
  pure {
    scheduling := { period := period.map .ofMicros, quota := quota.bind quotaTime, shares }
    throttling }

end Legacy

end ProcessMeter
