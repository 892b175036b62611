import ProcessMeter.Cgroup.Pressure
import ProcessMeter.Stat.KeyValue

/-!
# Memory of version 2

The `memory` controller reports the memory and swap in use with their limits, a breakdown of what
the memory holds, how often limits were met, and pressure.
-/

namespace ProcessMeter

namespace Unified

/-- What the memory of a cgroup holds: octets, and page faults as counts. -/
structure MemoryStat where
  anon : Nat
  /-- File pages, shared memory among them. -/
  file : Nat
  kernelStack : Nat
  pageTables : Nat
  slab : Nat
  sock : Nat
  shmem : Nat
  fileMapped : Nat
  /-- File pages that differ from the disk. -/
  fileDirty : Nat
  /-- File pages on their way to the disk. -/
  fileWriteback : Nat
  activeAnon : Nat
  inactiveAnon : Nat
  activeFile : Nat
  inactiveFile : Nat
  unevictable : Nat
  pageFaults : Nat
  /-- The page faults that needed the disk. -/
  majorPageFaults : Nat
  deriving DecidableEq, Repr

/-- The record before anything is read. -/
def MemoryStat.zero : MemoryStat := ⟨0, 0, 0, 0, 0, 0, 0, 0, 0, 0, 0, 0, 0, 0, 0, 0, 0⟩

/-- The keys of the breakdown. -/
def MemoryStat.table : KeyTable MemoryStat where
  fields := [
    ("anon".toList, fun v s => { s with anon := v }),
    ("file".toList, fun v s => { s with file := v }),
    ("kernel_stack".toList, fun v s => { s with kernelStack := v }),
    ("pagetables".toList, fun v s => { s with pageTables := v }),
    ("slab".toList, fun v s => { s with slab := v }),
    ("sock".toList, fun v s => { s with sock := v }),
    ("shmem".toList, fun v s => { s with shmem := v }),
    ("file_mapped".toList, fun v s => { s with fileMapped := v }),
    ("file_dirty".toList, fun v s => { s with fileDirty := v }),
    ("file_writeback".toList, fun v s => { s with fileWriteback := v }),
    ("active_anon".toList, fun v s => { s with activeAnon := v }),
    ("inactive_anon".toList, fun v s => { s with inactiveAnon := v }),
    ("active_file".toList, fun v s => { s with activeFile := v }),
    ("inactive_file".toList, fun v s => { s with inactiveFile := v }),
    ("unevictable".toList, fun v s => { s with unevictable := v }),
    ("pgfault".toList, fun v s => { s with pageFaults := v }),
    ("pgmajfault".toList, fun v s => { s with majorPageFaults := v })]

/-- Reads the breakdown. -/
def MemoryStat.readLines : LineReader MemoryStat := table.read .zero

/-- How often limits were met. -/
structure MemoryEvents where
  /-- Memory was reclaimed although the cgroup is below its protection. -/
  low : Nat
  /-- The cgroup was throttled for its usage. -/
  high : Nat
  /-- The usage was about to go beyond the limit. -/
  max : Nat
  /-- The memory ran out. -/
  outOfMemory : Nat
  /-- A process was killed because the memory ran out. -/
  kills : Nat
  deriving DecidableEq, Repr

/-- The keys of the events. -/
def MemoryEvents.table : KeyTable MemoryEvents where
  fields := [
    ("low".toList, fun v s => { s with low := v }),
    ("high".toList, fun v s => { s with high := v }),
    ("max".toList, fun v s => { s with max := v }),
    ("oom".toList, fun v s => { s with outOfMemory := v }),
    ("oom_kill".toList, fun v s => { s with kills := v })]

/-- Reads the events. -/
def MemoryEvents.readLines : LineReader MemoryEvents := table.read ⟨0, 0, 0, 0, 0⟩

/-- The `memory` controller of a cgroup. -/
structure Memory where
  /-- The octets in use. -/
  usage : Nat
  /-- The most octets allowed. -/
  limit : Option Nat
  /-- The octets above which the cgroup is throttled. -/
  high : Option Nat
  /-- The swap in use. -/
  swapUsage : Option Nat
  /-- The most swap allowed. -/
  swapLimit : Option Nat
  /-- What the memory holds. -/
  stat : MemoryStat
  /-- How often limits were met. -/
  events : Option MemoryEvents
  /-- The waiting for memory. -/
  pressure : Option Pressure
  deriving DecidableEq, Repr

/-- Reads the `memory` controller in a cgroup directory. The usage and the breakdown must be
there. -/
def Memory.read (directory : Path) : Probe PathFailure Memory := do
  let file (name : String) := Path.join directory name.toList
  let usage ← Stat.read (file "memory.current") Scalar.readNumber
  let stat ← Stat.read (file "memory.stat") MemoryStat.readLines
  let limit ← Stat.readOptional (file "memory.max") Scalar.readLimit
  let high ← Stat.readOptional (file "memory.high") Scalar.readLimit
  let swapUsage ← Stat.readOptional (file "memory.swap.current") Scalar.readNumber
  let swapLimit ← Stat.readOptional (file "memory.swap.max") Scalar.readLimit
  let events ← Stat.readOptional (file "memory.events") MemoryEvents.readLines
  let pressure ← Pressure.read (file "memory.pressure")
  pure {
    usage, limit := limit.join, high := high.join, swapUsage, swapLimit := swapLimit.join, stat
    events, pressure }

end Unified

end ProcessMeter
