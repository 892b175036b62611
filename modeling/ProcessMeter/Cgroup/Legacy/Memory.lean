import ProcessMeter.Stat.KeyValue
import ProcessMeter.Stat.Scalar
import ProcessMeter.Stat.File

/-!
# Memory of version 1

The `memory` subsystem reports one family of files for user memory, one for memory with swap and
one for kernel memory, and a breakdown of what the memory holds.
-/

namespace ProcessMeter

namespace Legacy

/-- One family of memory files. -/
structure MemoryFamily where
  /-- The octets in use. -/
  usage : Nat
  /-- The most octets ever in use. -/
  peak : Option Nat
  /-- The most octets allowed. -/
  limit : Option Nat
  /-- How often the limit was hit. -/
  failures : Option Nat
  deriving DecidableEq, Repr

/-- Reads the family of files with the given start of their names. It is not accounted for if the
file of its usage is missing. -/
def MemoryFamily.read? (directory : Path) (family : String) :
    Probe PathFailure (Option MemoryFamily) := do
  let file (name : String) := Path.join directory (family.toList ++ '.' :: name.toList)
  match ← Stat.readOptional (file "usage_in_bytes") Scalar.readNumber with
  | none => pure none
  | some usage =>
    let peak ← Stat.readOptional (file "max_usage_in_bytes") Scalar.readNumber
    let limit ← Stat.readOptional (file "limit_in_bytes") Scalar.readNumber
    let failures ← Stat.readOptional (file "failcnt") Scalar.readNumber
    pure (some { usage, peak, limit, failures })

/-- What the memory of a cgroup holds: octets, and page faults as counts. -/
structure MemoryStat where
  cache : Nat
  rss : Nat
  rssHuge : Nat
  shmem : Nat
  mappedFile : Nat
  dirty : Nat
  writeback : Nat
  swap : Nat
  pageFaults : Nat
  majorPageFaults : Nat
  activeAnon : Nat
  inactiveAnon : Nat
  activeFile : Nat
  inactiveFile : Nat
  unevictable : Nat
  /-- The least limit of the cgroup and its ancestors. -/
  hierarchicalLimit : Nat
  /-- The cache of the cgroup and all below it. -/
  totalCache : Nat
  /-- The anonymous memory of the cgroup and all below it. -/
  totalRss : Nat
  deriving DecidableEq, Repr

/-- The record before anything is read. -/
def MemoryStat.zero : MemoryStat := ⟨0, 0, 0, 0, 0, 0, 0, 0, 0, 0, 0, 0, 0, 0, 0, 0, 0, 0⟩

/-- The keys of the breakdown. -/
def MemoryStat.table : KeyTable MemoryStat where
  fields := [
    ("cache".toList, fun v s => { s with cache := v }),
    ("rss".toList, fun v s => { s with rss := v }),
    ("rss_huge".toList, fun v s => { s with rssHuge := v }),
    ("shmem".toList, fun v s => { s with shmem := v }),
    ("mapped_file".toList, fun v s => { s with mappedFile := v }),
    ("dirty".toList, fun v s => { s with dirty := v }),
    ("writeback".toList, fun v s => { s with writeback := v }),
    ("swap".toList, fun v s => { s with swap := v }),
    ("pgfault".toList, fun v s => { s with pageFaults := v }),
    ("pgmajfault".toList, fun v s => { s with majorPageFaults := v }),
    ("active_anon".toList, fun v s => { s with activeAnon := v }),
    ("inactive_anon".toList, fun v s => { s with inactiveAnon := v }),
    ("active_file".toList, fun v s => { s with activeFile := v }),
    ("inactive_file".toList, fun v s => { s with inactiveFile := v }),
    ("unevictable".toList, fun v s => { s with unevictable := v }),
    ("hierarchical_memory_limit".toList, fun v s => { s with hierarchicalLimit := v }),
    ("total_cache".toList, fun v s => { s with totalCache := v }),
    ("total_rss".toList, fun v s => { s with totalRss := v })]

/-- Reads the breakdown. -/
def MemoryStat.readLines : LineReader MemoryStat := table.read .zero

/-- The `memory` subsystem of a cgroup. -/
structure Memory where
  /-- User memory. -/
  memory : MemoryFamily
  /-- Memory with swap, if swap is accounted for. -/
  withSwap : Option MemoryFamily
  /-- Kernel memory, if it is accounted for. -/
  kernel : Option MemoryFamily
  /-- What the memory holds. -/
  stat : MemoryStat
  deriving DecidableEq, Repr

/-- Reads the `memory` subsystem in a cgroup directory. The usage of user memory and the
breakdown must be there. -/
def Memory.read (directory : Path) : Probe PathFailure Memory := do
  match ← MemoryFamily.read? directory "memory" with
  | none =>
    Probe.fail ⟨Path.join directory "memory.usage_in_bytes".toList, .file .missingEntity⟩
  | some memory =>
    let withSwap ← MemoryFamily.read? directory "memory.memsw"
    let kernel ← MemoryFamily.read? directory "memory.kmem"
    let stat ← Stat.read (Path.join directory "memory.stat".toList) MemoryStat.readLines
    pure { memory, withSwap, kernel, stat }

end Legacy

end ProcessMeter
