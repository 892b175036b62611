import ProcessMeter.Proofs.SpelledControllers

/-!
# Every record has a spelling

The records of accounting files are made of numbers of 64 bits, of times that are such numbers of
their units, and of averages that are given by decimals. Each of them is spelled by some file.
-/

namespace ProcessMeter

/-- The time is a number of 64 bits in a unit. -/
def Duration.CountsIn (unit : Nat → Duration) (time : Duration) : Prop :=
  ∃ n ≤ Numeral.max64, time = unit n

/-- Some word is read as the number. -/
def Double.IsGiven (x : Double) : Prop := ∃ word, Text.IsWord word ∧ Double.read word = .ok x

namespace Scalar

/-- A number that fits can be spelled. -/
theorem exists_spellsNumber {n : Nat} (h : n ≤ Numeral.max64) : ∃ text, SpellsNumber text n :=
  ⟨_, h, rfl⟩

/-- A limit that fits can be spelled. -/
theorem exists_spellsLimit {limit : Option Nat} (h : ∀ n ∈ limit, n ≤ Numeral.max64) :
    ∃ text, SpellsLimit text limit :=
  ⟨_, h, rfl⟩

/-- A time in whole units can be spelled. -/
theorem exists_spellsTime {unit : Nat → Duration} {time : Duration} (h : time.CountsIn unit) :
    ∃ text, SpellsTime unit text time := by
  obtain ⟨n, hn, rfl⟩ := h
  exact ⟨_, n, ⟨hn, rfl⟩, rfl⟩

end Scalar

namespace KeyTable

/-- The values that figures give to their keys. -/
def assigned (figures : List (String × Nat)) (key : Text) : Option Nat :=
  (figures.map fun figure => (figure.1.toList, figure.2)).lookup key

/-- The first pair of a key gives its value. -/
theorem assigned_cons (name : String) (n : Nat) (rest : List (String × Nat)) (key : String) :
    assigned ((name, n) :: rest) key.toList =
      if key = name then some n else assigned rest key.toList := by
  by_cases h : key = name
  · simp [assigned, h]
  · have hne : (key.toList == name.toList) = false :=
      beq_eq_false_iff_ne.mpr (mt String.toList_inj.mp h)
    simp [assigned, List.lookup_cons, hne, h]

/-- Read as a count, a key has the value of its first pair. -/
@[simp] theorem count_assigned_cons (name : String) (n : Nat) (rest : List (String × Nat))
    (key : String) : count (assigned ((name, n) :: rest)) key =
      if key = name then n else count (assigned rest) key := by
  rw [count, assigned_cons]
  split <;> rfl

/-- Read as a time, a key has the value of its first pair in the unit. -/
@[simp] theorem time_assigned_cons (unit : Nat → Duration) (name : String) (n : Nat)
    (rest : List (String × Nat)) (key : String) : time unit (assigned ((name, n) :: rest)) key =
      if key = name then unit n else time unit (assigned rest) key := by
  rw [time, assigned_cons]
  split <;> rfl

/-- Figures of all keys are spelled by a line for each of them. -/
theorem Decodes.exists_spells {σ : Type} {table : KeyTable σ} {fresh record : σ}
    {ofValues : (Text → Option Nat) → σ} (hdecodes : table.Decodes fresh ofValues)
    (honce : table.keys.Nodup) (figures : List (String × Nat))
    (hkeys : figures.map (fun figure => figure.1.toList) = table.keys)
    (hfits : ∀ figure ∈ figures, figure.2 ≤ Numeral.max64)
    (hrecord : ofValues (assigned figures) = record) :
    ∃ text, table.Spells ofValues text record := by
  subst hrecord
  have hpairs : (figures.map fun figure => (figure.1.toList, figure.2)).map Prod.fst =
      table.keys := by
    rw [List.map_map]
    exact hkeys
  refine ⟨_, spells_print ofValues (fun pair hpair => ?_) (hpairs ▸ honce) ?_⟩
  · have hkey : pair.1 ∈ table.keys := hpairs ▸ List.mem_map_of_mem hpair
    exact ⟨hkey, hdecodes.words _ hkey⟩
  · exact List.forall_mem_map.mpr hfits

end KeyTable

namespace Unified

/-- The times are in microseconds, and the counts are numbers of 64 bits. -/
structure CpuStat.Fits (stat : CpuStat) : Prop where
  times : ∀ time ∈ [stat.usage, stat.user, stat.system, stat.throttledTime, stat.burstTime],
    time.CountsIn .ofMicros
  counts : ∀ n ∈ [stat.periods, stat.throttledPeriods, stat.bursts], n ≤ Numeral.max64

/-- Processor statistics of version 2 that fit can be spelled, -/
theorem CpuStat.Fits.exists_spells {stat : CpuStat} (h : stat.Fits) :
    ∃ text, table.Spells ofValues text stat := by
  obtain ⟨times, counts⟩ := h
  simp only [List.forall_mem_cons] at times counts
  obtain ⟨⟨usage, husage, husageEq⟩, ⟨user, huser, huserEq⟩, ⟨system, hsystem, hsystemEq⟩,
    ⟨throttled, hthrottled, hthrottledEq⟩, ⟨burst, hburst, hburstEq⟩, -⟩ := times
  obtain ⟨hperiods, hthrottledPeriods, hbursts, -⟩ := counts
  refine table_decodes.exists_spells (by decide) [("usage_usec", usage), ("user_usec", user),
    ("system_usec", system), ("nr_periods", stat.periods), ("nr_throttled", stat.throttledPeriods),
    ("throttled_usec", throttled), ("nr_bursts", stat.bursts), ("burst_usec", burst)] rfl
    (by simp [*]) ?_
  simp [ofValues, ← husageEq, ← huserEq, ← hsystemEq, ← hthrottledEq, ← hburstEq]

/-- The lines of the breakdown. -/
def MemoryStat.figures (stat : MemoryStat) : List (String × Nat) := [
  ("anon", stat.anon),
  ("file", stat.file),
  ("kernel_stack", stat.kernelStack),
  ("pagetables", stat.pageTables),
  ("slab", stat.slab),
  ("sock", stat.sock),
  ("shmem", stat.shmem),
  ("file_mapped", stat.fileMapped),
  ("file_dirty", stat.fileDirty),
  ("file_writeback", stat.fileWriteback),
  ("active_anon", stat.activeAnon),
  ("inactive_anon", stat.inactiveAnon),
  ("active_file", stat.activeFile),
  ("inactive_file", stat.inactiveFile),
  ("unevictable", stat.unevictable),
  ("pgfault", stat.pageFaults),
  ("pgmajfault", stat.majorPageFaults)]

/-- The figures are numbers of 64 bits. -/
def MemoryStat.Fits (stat : MemoryStat) : Prop := ∀ figure ∈ stat.figures, figure.2 ≤ Numeral.max64

/-- and so can memory statistics, -/
theorem MemoryStat.Fits.exists_spells {stat : MemoryStat} (h : stat.Fits) :
    ∃ text, table.Spells ofValues text stat :=
  table_decodes.exists_spells (by decide) stat.figures rfl h (by simp [ofValues, figures])

/-- The lines of the events. -/
def MemoryEvents.figures (events : MemoryEvents) : List (String × Nat) := [
  ("low", events.low),
  ("high", events.high),
  ("max", events.max),
  ("oom", events.outOfMemory),
  ("oom_kill", events.kills)]

/-- The counts are numbers of 64 bits. -/
def MemoryEvents.Fits (events : MemoryEvents) : Prop :=
  ∀ figure ∈ events.figures, figure.2 ≤ Numeral.max64

/-- and so can memory events. -/
theorem MemoryEvents.Fits.exists_spells {events : MemoryEvents} (h : events.Fits) :
    ∃ text, table.Spells ofValues text events :=
  table_decodes.exists_spells (by decide) events.figures rfl h (by simp [ofValues, figures])

/-- The times are in microseconds. -/
structure CpuLimit.Fits (limit : CpuLimit) : Prop where
  quota : ∀ time ∈ limit.quota, time.CountsIn .ofMicros
  period : limit.period.CountsIn .ofMicros

/-- A processor limit that fits can be spelled. -/
theorem CpuLimit.Fits.exists_spells {limit : CpuLimit} (h : limit.Fits) :
    ∃ text, Spells text limit := by
  obtain ⟨quota, period⟩ := limit
  obtain ⟨hquota, n, hn, rfl : period = _⟩ := h
  cases quota with
  | none => exact ⟨_, none, n, by simp, hn, rfl, rfl⟩
  | some time =>
    obtain ⟨m, hm, rfl⟩ := hquota time rfl
    exact ⟨_, some m, n, by simpa using hm, hn, rfl, rfl⟩

/-- Every device goes by its token, and its figures are numbers of 64 bits. -/
theorem IoDevice.exists_spells {devices : TextMap IoDevice}
    (h : ∀ e ∈ devices.entries, BlockDevice.IsToken e.1 ∧ e.2.Fits) :
    ∃ text, Spells text devices :=
  ⟨_, devices.entries, .refl _, h, rfl⟩

end Unified

namespace Legacy

/-- The counts are numbers of 64 bits, and the time is in nanoseconds. -/
structure Throttling.Fits (throttling : Throttling) : Prop where
  periods : throttling.periods ≤ Numeral.max64
  throttledPeriods : throttling.throttledPeriods ≤ Numeral.max64
  throttledTime : throttling.throttledTime.CountsIn .ofNanos

/-- Throttling statistics of version 1 that fit can be spelled, -/
theorem Throttling.Fits.exists_spells {throttling : Throttling} (h : throttling.Fits) :
    ∃ text, table.Spells ofValues text throttling := by
  obtain ⟨hperiods, hthrottled, n, hn, htime⟩ := h
  refine table_decodes.exists_spells (by decide) [("nr_periods", throttling.periods),
    ("nr_throttled", throttling.throttledPeriods), ("throttled_time", n)] rfl (by simp [*]) ?_
  simp [ofValues, ← htime]

/-- The times are in clock ticks. -/
structure ModeTimes.Fits (units : HostUnits) (times : ModeTimes) : Prop where
  user : times.user.CountsIn units.ticks
  system : times.system.CountsIn units.ticks

/-- and so can times by mode, in the units of the host, -/
theorem ModeTimes.Fits.exists_spells {units : HostUnits} {times : ModeTimes}
    (h : times.Fits units) : ∃ text, (table units).Spells (ofValues units) text times := by
  obtain ⟨⟨user, huser, huserEq⟩, ⟨system, hsystem, hsystemEq⟩⟩ := h
  refine (table_decodes units).exists_spells (by rw [table_keys]; decide)
    [("user", user), ("system", system)] rfl (by simp [*]) ?_
  simp [ofValues, ← huserEq, ← hsystemEq]

/-- The lines of the breakdown. -/
def MemoryStat.figures (stat : MemoryStat) : List (String × Nat) := [
  ("cache", stat.cache),
  ("rss", stat.rss),
  ("rss_huge", stat.rssHuge),
  ("shmem", stat.shmem),
  ("mapped_file", stat.mappedFile),
  ("dirty", stat.dirty),
  ("writeback", stat.writeback),
  ("swap", stat.swap),
  ("pgfault", stat.pageFaults),
  ("pgmajfault", stat.majorPageFaults),
  ("active_anon", stat.activeAnon),
  ("inactive_anon", stat.inactiveAnon),
  ("active_file", stat.activeFile),
  ("inactive_file", stat.inactiveFile),
  ("unevictable", stat.unevictable),
  ("hierarchical_memory_limit", stat.hierarchicalLimit),
  ("total_cache", stat.totalCache),
  ("total_rss", stat.totalRss)]

/-- The figures are numbers of 64 bits. -/
def MemoryStat.Fits (stat : MemoryStat) : Prop := ∀ figure ∈ stat.figures, figure.2 ≤ Numeral.max64

/-- and so can memory statistics. -/
theorem MemoryStat.Fits.exists_spells {stat : MemoryStat} (h : stat.Fits) :
    ∃ text, table.Spells ofValues text stat :=
  table_decodes.exists_spells (by decide) stat.figures rfl h (by simp [ofValues, figures])

/-- A quota in microseconds is a signed number of 64 bits. -/
theorem exists_spellsQuota {quota : Option Duration}
    (h : ∀ time ∈ quota, ∃ n ≤ 0x7FFFFFFFFFFFFFFF, time = .ofMicros n) :
    ∃ text, SpellsQuota text quota := by
  cases quota with
  | none => exact ⟨_, none, by simp, rfl, rfl⟩
  | some time =>
    obtain ⟨n, hn, rfl⟩ := h time rfl
    exact ⟨_, some n, by simpa using hn, rfl, rfl⟩

/-- Times of processors in whole nanoseconds can be spelled. -/
theorem exists_spellsProcessorTimes {times : List Duration}
    (h : ∀ time ∈ times, time.CountsIn .ofNanos) : ∃ text, SpellsProcessorTimes text times := by
  refine ⟨_, times.map Duration.nanos, fun n hn => ?_, ?_, rfl⟩
  · obtain ⟨time, htime, rfl⟩ := List.mem_map.mp hn
    obtain ⟨m, hm, rfl⟩ := h time htime
    exact hm
  · rw [List.map_map]
    exact (List.map_id times).symm

/-- The figures are numbers of 64 bits. -/
structure DeviceColumn.Fits (column : DeviceColumn) : Prop where
  read : column.read ≤ Numeral.max64
  write : column.write ≤ Numeral.max64
  total : column.total ≤ Numeral.max64

/-- Counters of devices can be spelled if they fit and the devices go by their tokens. -/
theorem DeviceColumn.exists_spells (columns : TextMap DeviceColumn)
    (h : ∀ e ∈ columns.entries, BlockDevice.IsToken e.1 ∧ e.2.Fits) :
    ∃ text, Spells text columns := by
  refine ⟨_, columns.entries, fun _ => [], columns.total DeviceColumn.total, .refl _,
    fun e he => ?_, rfl⟩
  obtain ⟨htoken, hread, hwrite, htotal⟩ := h e he
  exact ⟨htoken, hread, hwrite, htotal, by simp [AreOthers]⟩

end Legacy

/-- The averages are given by words, and the total is in microseconds. -/
structure Stall.Fits (stall : Stall) : Prop where
  average10 : stall.average10.IsGiven
  average60 : stall.average60.IsGiven
  average300 : stall.average300.IsGiven
  total : stall.total.CountsIn .ofMicros

/-- Both kinds of waiting can be written. -/
structure Pressure.Fits (pressure : Pressure) : Prop where
  some : pressure.some.Fits
  full : ∀ stall ∈ pressure.full, stall.Fits

namespace Pressure

/-- Figures of waiting that fit can be spelled on a line of either kind. -/
theorem exists_isStallLine (kind : String) {stall : Stall} (h : stall.Fits) :
    ∃ line, IsStallLine kind line stall := by
  obtain ⟨⟨average10, hword10, hread10⟩, ⟨average60, hword60, hread60⟩,
    ⟨average300, hword300, hread300⟩, total, htotal, htotalEq⟩ := h
  exact ⟨_, average10, average60, average300, total, hword10, hread10, hword60, hread60, hword300,
    hread300, htotal, htotalEq, rfl⟩

/-- A pressure file can be spelled, with and without the line about all tasks. -/
theorem Fits.exists_spells {pressure : Pressure} (h : pressure.Fits) :
    ∃ text, Spells text pressure := by
  obtain ⟨stall, full⟩ := pressure
  obtain ⟨line, hline⟩ := exists_isStallLine "some" h.some
  cases full with
  | none => exact ⟨line, line, hline, rfl⟩
  | some full =>
    obtain ⟨more, hmore⟩ := exists_isStallLine "full" (h.full full rfl)
    exact ⟨line ++ more, line, hline, more, hmore, rfl⟩

end Pressure

end ProcessMeter
