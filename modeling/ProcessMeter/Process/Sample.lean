import ProcessMeter.Cgroup.Reading
import ProcessMeter.Process.Network
import ProcessMeter.Process.Record

/-!
# Samples

A sample is one observation of a process. What it used since the observation before is derived
from both; a process that took over the number of another one has nothing before it.
-/

namespace ProcessMeter

/-- The processor time of a process. -/
structure ProcessCpu where
  /-- In user mode. -/
  user : Duration
  /-- In kernel mode. -/
  system : Duration
  /-- In both. -/
  total : Duration
  /-- The share of a processor since the previous sample. -/
  share : Option Double
  /-- The share of all processors since the previous sample. -/
  hostShare : Option Double
  deriving DecidableEq, Repr

/-- The memory of a process in octets. -/
structure ProcessMemory where
  /-- Its address space. -/
  size : Nat
  /-- What of that is in memory. -/
  resident : Nat
  /-- What of that is shared. -/
  shared : Nat
  /-- The resident part as a share of the physical memory. -/
  share : Option Double
  deriving DecidableEq, Repr

/-- The use of storage since the previous sample. -/
structure StorageRate where
  /-- The octets read in a second. -/
  read : Double
  /-- The octets written in a second. -/
  written : Double
  deriving DecidableEq, Repr

/-- What is read of a process once its identity is known. -/
structure ProcessMetrics where
  /-- The time of its start as read with the counters. -/
  startTime : Nat
  /-- Its user. -/
  uid : Option Nat
  /-- Its processor time. -/
  cpu : ProcessCpu
  /-- Its memory. -/
  memory : ProcessMemory
  /-- Its input and output, if it can be read. -/
  io : Option IoCounters
  /-- The network counters of its namespace, if they were asked for and can be read. -/
  network : Option NetworkCounters
  deriving DecidableEq, Repr

/-- One observation of a process. -/
structure ProcessSample where
  /-- Which process it is. -/
  identity : ProcessIdentity
  /-- Its user. -/
  uid : Option Nat
  /-- Its processor time. -/
  cpu : ProcessCpu
  /-- Its memory. -/
  memory : ProcessMemory
  /-- The arguments of its command line. -/
  arguments : List Text
  /-- The environment variables that were asked for. -/
  environment : TextMap Text
  /-- Its input and output. -/
  io : Option IoCounters
  /-- Its use of storage since the previous sample. -/
  storageRate : Option StorageRate
  /-- The network counters of its namespace. -/
  network : Option NetworkCounters
  /-- Its cgroup. -/
  cgroup : Option CgroupReading
  /-- When it was observed. -/
  time : Moment
  deriving DecidableEq, Repr

/-- What is known of the host while processes are sampled. -/
structure HostCapacity where
  /-- The physical memory, if it is known. -/
  memoryTotal : Option Nat
  /-- The number of processors. -/
  processors : Nat
  deriving DecidableEq, Repr

namespace ProcessSample

/-- The arguments on one line. -/
def commandLine (sample : ProcessSample) : Text := Text.join [' '] sample.arguments

/-- The use of storage between two samples, if both know their counters and time has passed. -/
def rateSince? (sample previous : ProcessSample) (elapsed : Duration) : Option StorageRate :=
  match sample.io, previous.io with
  | some current, some earlier =>
    match Usage.perSecond earlier.readBytes current.readBytes elapsed,
      Usage.perSecond earlier.writtenBytes current.writtenBytes elapsed with
    | some read, some written => some ⟨read, written⟩
    | _, _ => none
  | _, _ => none

/-- The processor time with the shares since an earlier reading, if time has passed. -/
def cpuSince (cpu previous : ProcessCpu) (elapsed : Duration) (processors : Nat) : ProcessCpu :=
  match Usage.processorTime previous.total cpu.total elapsed processors with
  | some usage => { cpu with share := some usage.share, hostShare := some usage.hostShare }
  | none => cpu

/-- The cgroup with its usage since an earlier reading, if there is one. -/
def cgroupSince (cgroup previous : Option CgroupReading) (elapsed : Duration)
    (processors : Nat) : Option CgroupReading :=
  match cgroup, previous with
  | some current, some earlier => some (current.since earlier elapsed processors)
  | current, _ => current

/-- The sample with everything that follows from an earlier one, `elapsed` before. -/
def after (sample previous : ProcessSample) (elapsed : Duration) (capacity : HostCapacity) :
    ProcessSample :=
  { sample with
    cpu := cpuSince sample.cpu previous.cpu elapsed capacity.processors
    storageRate := (sample.rateSince? previous elapsed).or sample.storageRate
    cgroup := cgroupSince sample.cgroup previous.cgroup elapsed capacity.processors }

/-- The sample with its share of the physical memory. -/
def withMemoryShare (sample : ProcessSample) (capacity : HostCapacity) : ProcessSample :=
  { sample with
    memory := { sample.memory with
      share := capacity.memoryTotal.bind fun total =>
        Usage.fraction sample.memory.resident total } }

/-- The sample with all that is derived from the host and from the previous sample. Nothing is
derived from a sample of another process, nor from one of a later time. -/
def derive (sample : ProcessSample) (previous : Option ProcessSample) (capacity : HostCapacity) :
    ProcessSample :=
  let sample := sample.withMemoryShare capacity
  match previous with
  | none => sample
  | some previous =>
    if previous.identity.isSame sample.identity then
      match sample.time.since previous.time with
      | some elapsed => sample.after previous elapsed capacity
      | none => sample
    else sample

end ProcessSample

end ProcessMeter
