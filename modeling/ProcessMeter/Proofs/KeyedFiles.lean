import ProcessMeter.Cgroup.Legacy.Cpu
import ProcessMeter.Cgroup.Legacy.CpuTime
import ProcessMeter.Cgroup.Legacy.Memory
import ProcessMeter.Cgroup.Unified.Cpu
import ProcessMeter.Cgroup.Unified.Memory
import ProcessMeter.Process.Record
import ProcessMeter.Proofs.KeyedLines

/-!
# What the keys of each file mean

For every kind of file with keys and values, the record is written out as a function of the values
of its keys: which key a field comes from, in which unit, and what it is without the key. The tables
read exactly these records.
-/

namespace ProcessMeter

namespace KeyTable

/-- The number of a key, zero without one. -/
def count (values : Text → Option Nat) (key : String) : Nat := (values key.toList).getD 0

/-- The time of a key in its unit, none without one. -/
def time (unit : Nat → Duration) (values : Text → Option Nat) (key : String) : Duration :=
  ((values key.toList).map unit).getD .zero

variable {values : Text → Option Nat}

/-- Without a value the count is zero, -/
@[simp] theorem count_none (key : String) : count (fun _ => none) key = 0 := rfl

/-- and the time is empty. -/
@[simp] theorem time_none (unit : Nat → Duration) (key : String) :
    time unit (fun _ => none) key = .zero := rfl

/-- Assigning one key changes the count of that key only, -/
@[simp] theorem count_update (changed key : String) (n : Nat) :
    count (Function.update values changed.toList (some n)) key =
      if key = changed then n else count values key := by
  by_cases h : key = changed
  · simp [count, h]
  · simp [count, h, Function.update_of_ne (mt String.toList_inj.mp h)]

/-- and the time of that key only. -/
@[simp] theorem time_update (unit : Nat → Duration) (changed key : String) (n : Nat) :
    time unit (Function.update values changed.toList (some n)) key =
      if key = changed then unit n else time unit values key := by
  by_cases h : key = changed
  · simp [time, h]
  · simp [time, h, Function.update_of_ne (mt String.toList_inj.mp h)]

end KeyTable

open KeyTable

namespace Unified

/-- The processor times that values of keys stand for. -/
def CpuStat.ofValues (values : Text → Option Nat) : CpuStat where
  usage := time .ofMicros values "usage_usec"
  user := time .ofMicros values "user_usec"
  system := time .ofMicros values "system_usec"
  periods := count values "nr_periods"
  throttledPeriods := count values "nr_throttled"
  throttledTime := time .ofMicros values "throttled_usec"
  bursts := count values "nr_bursts"
  burstTime := time .ofMicros values "burst_usec"

/-- The processor statistics of version 2 hold the values of their keys, -/
theorem CpuStat.table_decodes : table.Decodes zero ofValues where
  format := rfl
  lenient _ _ _ := rfl
  words := by decide
  start := rfl
  effect := by simp [table, ofValues, -String.reduceToList]

/-- The breakdown of memory that values of keys stand for. -/
def MemoryStat.ofValues (values : Text → Option Nat) : MemoryStat where
  anon := count values "anon"
  file := count values "file"
  kernelStack := count values "kernel_stack"
  pageTables := count values "pagetables"
  slab := count values "slab"
  sock := count values "sock"
  shmem := count values "shmem"
  fileMapped := count values "file_mapped"
  fileDirty := count values "file_dirty"
  fileWriteback := count values "file_writeback"
  activeAnon := count values "active_anon"
  inactiveAnon := count values "inactive_anon"
  activeFile := count values "active_file"
  inactiveFile := count values "inactive_file"
  unevictable := count values "unevictable"
  pageFaults := count values "pgfault"
  majorPageFaults := count values "pgmajfault"

/-- and so do the memory statistics, -/
theorem MemoryStat.table_decodes : table.Decodes zero ofValues where
  format := rfl
  lenient _ _ _ := rfl
  words := by decide
  start := rfl
  effect := by simp [table, ofValues, -String.reduceToList]

/-- The events that values of keys stand for. -/
def MemoryEvents.ofValues (values : Text → Option Nat) : MemoryEvents where
  low := count values "low"
  high := count values "high"
  max := count values "max"
  outOfMemory := count values "oom"
  kills := count values "oom_kill"

/-- and so do the memory events. -/
theorem MemoryEvents.table_decodes : table.Decodes ⟨0, 0, 0, 0, 0⟩ ofValues where
  format := rfl
  lenient _ _ _ := rfl
  words := by decide
  start := rfl
  effect := by simp [table, ofValues, -String.reduceToList]

end Unified

namespace Legacy

/-- The throttling that values of keys stand for. -/
def Throttling.ofValues (values : Text → Option Nat) : Throttling where
  periods := count values "nr_periods"
  throttledPeriods := count values "nr_throttled"
  throttledTime := time .ofNanos values "throttled_time"

/-- The throttling statistics of version 1 hold the values of their keys. -/
theorem Throttling.table_decodes : table.Decodes ⟨0, 0, .zero⟩ ofValues where
  format := rfl
  lenient _ _ _ := rfl
  words := by decide
  start := rfl
  effect := by simp [table, ofValues, -String.reduceToList]

/-- The times by mode that values of keys stand for. -/
def ModeTimes.ofValues (units : HostUnits) (values : Text → Option Nat) : ModeTimes where
  user := time units.ticks values "user"
  system := time units.ticks values "system"

/-- The keys of the times by mode are the same in all units. -/
theorem ModeTimes.table_keys (units : HostUnits) :
    (table units).keys = ["user".toList, "system".toList] := rfl

/-- The times by mode hold the values of their keys, in the units of the host. -/
theorem ModeTimes.table_decodes (units : HostUnits) :
    (table units).Decodes ⟨.zero, .zero⟩ (ofValues units) where
  format := rfl
  lenient _ _ _ := rfl
  words := by
    rw [table_keys]
    decide
  start := rfl
  effect := by simp [table, ofValues, -String.reduceToList]

/-- The breakdown of memory that values of keys stand for. -/
def MemoryStat.ofValues (values : Text → Option Nat) : MemoryStat where
  cache := count values "cache"
  rss := count values "rss"
  rssHuge := count values "rss_huge"
  shmem := count values "shmem"
  mappedFile := count values "mapped_file"
  dirty := count values "dirty"
  writeback := count values "writeback"
  swap := count values "swap"
  pageFaults := count values "pgfault"
  majorPageFaults := count values "pgmajfault"
  activeAnon := count values "active_anon"
  inactiveAnon := count values "inactive_anon"
  activeFile := count values "active_file"
  inactiveFile := count values "inactive_file"
  unevictable := count values "unevictable"
  hierarchicalLimit := count values "hierarchical_memory_limit"
  totalCache := count values "total_cache"
  totalRss := count values "total_rss"

/-- The memory statistics of version 1 hold the values of their keys. -/
theorem MemoryStat.table_decodes : table.Decodes zero ofValues where
  format := rfl
  lenient _ _ _ := rfl
  words := by decide
  start := rfl
  effect := by simp [table, ofValues, -String.reduceToList]

end Legacy

/-- The counters that values of keys stand for. -/
def IoCounters.ofValues (values : Text → Option Nat) : IoCounters where
  readCharacters := count values "rchar:"
  writtenCharacters := count values "wchar:"
  readCalls := count values "syscr:"
  writeCalls := count values "syscw:"
  readBytes := count values "read_bytes:"
  writtenBytes := count values "write_bytes:"
  cancelledBytes := count values "cancelled_write_bytes:"

/-- The counters of input and output hold the values of their keys. -/
theorem IoCounters.table_decodes : table.Decodes zero ofValues where
  format := rfl
  lenient _ _ _ := rfl
  words := by decide
  start := rfl
  effect := by simp [table, ofValues, -String.reduceToList]

/-- The owner that values of keys stand for: none if the number is out of the range of users. -/
def ProcessOwner.ofValues (values : Text → Option Nat) : ProcessOwner where
  uid := (values "Uid:".toList).filter (· ≤ Numeral.max32)

/-- The owner of a process is the first value behind its key. -/
theorem ProcessOwner.table_decodes : table.Decodes ⟨none⟩ ofValues where
  format := rfl
  lenient _ _ _ := rfl
  words := by decide
  start := rfl
  effect := by simp [table, ofValues, Option.filter]

/-- The physical memory that values of keys stand for, in units of 1024 octets. -/
def Host.Memory.ofValues (values : Text → Option Nat) : Host.Memory where
  total := min (count values "MemTotal:" * 1024) Numeral.max64
  available := min (count values "MemAvailable:" * 1024) Numeral.max64

/-- The memory of the host is given in units of 1024 octets. -/
theorem Host.Memory.table_decodes : table.Decodes ⟨0, 0⟩ ofValues where
  format := rfl
  lenient _ _ _ := rfl
  words := by decide
  start := rfl
  effect := by simp [table, ofValues, scaled, -String.reduceToList]

/-- The kinds of files with keys and values. -/
inductive KeyedFile where
  | unifiedCpu
  | unifiedMemory
  | unifiedMemoryEvents
  | legacyThrottling
  | legacyModes (units : HostUnits)
  | legacyMemory
  | processIo
  | processOwner
  | hostMemory
  deriving DecidableEq, Repr

namespace KeyedFile

/-- What a file holds. -/
abbrev Record : KeyedFile → Type
  | .unifiedCpu => Unified.CpuStat
  | .unifiedMemory => Unified.MemoryStat
  | .unifiedMemoryEvents => Unified.MemoryEvents
  | .legacyThrottling => Legacy.Throttling
  | .legacyModes _ => Legacy.ModeTimes
  | .legacyMemory => Legacy.MemoryStat
  | .processIo => IoCounters
  | .processOwner => ProcessOwner
  | .hostMemory => Host.Memory

/-- The table of known keys. -/
def table : (file : KeyedFile) → KeyTable file.Record
  | .unifiedCpu => Unified.CpuStat.table
  | .unifiedMemory => Unified.MemoryStat.table
  | .unifiedMemoryEvents => Unified.MemoryEvents.table
  | .legacyThrottling => Legacy.Throttling.table
  | .legacyModes units => Legacy.ModeTimes.table units
  | .legacyMemory => Legacy.MemoryStat.table
  | .processIo => IoCounters.table
  | .processOwner => ProcessOwner.table
  | .hostMemory => Host.Memory.table

/-- Reads a file. -/
def readLines : (file : KeyedFile) → LineReader file.Record
  | .unifiedCpu => Unified.CpuStat.readLines
  | .unifiedMemory => Unified.MemoryStat.readLines
  | .unifiedMemoryEvents => Unified.MemoryEvents.readLines
  | .legacyThrottling => Legacy.Throttling.readLines
  | .legacyModes units => Legacy.ModeTimes.readLines units
  | .legacyMemory => Legacy.MemoryStat.readLines
  | .processIo => IoCounters.readLines
  | .processOwner => ProcessOwner.readLines
  | .hostMemory => Host.Memory.readLines

/-- The record that values of keys stand for. -/
def ofValues : (file : KeyedFile) → (Text → Option Nat) → file.Record
  | .unifiedCpu => Unified.CpuStat.ofValues
  | .unifiedMemory => Unified.MemoryStat.ofValues
  | .unifiedMemoryEvents => Unified.MemoryEvents.ofValues
  | .legacyThrottling => Legacy.Throttling.ofValues
  | .legacyModes units => Legacy.ModeTimes.ofValues units
  | .legacyMemory => Legacy.MemoryStat.ofValues
  | .processIo => IoCounters.ofValues
  | .processOwner => ProcessOwner.ofValues
  | .hostMemory => Host.Memory.ofValues

/-- Every file is read with its table, which decodes the record of its values. -/
theorem exists_decodes (file : KeyedFile) :
    ∃ fresh, file.readLines = file.table.read fresh ∧ file.table.Decodes fresh file.ofValues := by
  cases file with
  | unifiedCpu => exact ⟨_, rfl, Unified.CpuStat.table_decodes⟩
  | unifiedMemory => exact ⟨_, rfl, Unified.MemoryStat.table_decodes⟩
  | unifiedMemoryEvents => exact ⟨_, rfl, Unified.MemoryEvents.table_decodes⟩
  | legacyThrottling => exact ⟨_, rfl, Legacy.Throttling.table_decodes⟩
  | legacyModes units => exact ⟨_, rfl, Legacy.ModeTimes.table_decodes units⟩
  | legacyMemory => exact ⟨_, rfl, Legacy.MemoryStat.table_decodes⟩
  | processIo => exact ⟨_, rfl, IoCounters.table_decodes⟩
  | processOwner => exact ⟨_, rfl, ProcessOwner.table_decodes⟩
  | hostMemory => exact ⟨_, rfl, Host.Memory.table_decodes⟩

/-- A file that lists statements of different keys gives the record of their values, or the first
bad value is reported. -/
private theorem readLines_encode (file : KeyedFile) {text : Text} {statements : List Statement}
    (hlists : file.table.Lists 1 (Text.rawLines text) statements)
    (honce : (statements.map Statement.key).Nodup) :
    file.readLines (Lines.ofBytes (Text.encode text)) =
      outcome file.ofValues (fun _ => none) statements := by
  obtain ⟨fresh, hread, hdecodes⟩ := file.exists_decodes
  rw [hread, hdecodes.read_encode hlists honce]

end KeyedFile

end ProcessMeter
