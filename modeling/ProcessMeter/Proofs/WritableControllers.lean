import ProcessMeter.Proofs.WritableFiles
import ProcessMeter.Proofs.WritableRecords

/-!
# Whatever controllers report is written and read back

For every report of controllers whose records have spellings there are files that spell it,
whichever optional parts are there. So for every cgroup of either version there is a directory that
is read as exactly this cgroup.
-/

namespace ProcessMeter

open Probe Cgroup FileTree

/-- The counts are numbers of 64 bits. -/
structure PidsStat.Fits (pids : PidsStat) : Prop where
  current : pids.current ≤ Numeral.max64
  limit : ∀ n ∈ pids.limit, n ≤ Numeral.max64

namespace Unified

/-- Every part has a spelling. -/
structure Cpu.Fits (cpu : Cpu) : Prop where
  stat : cpu.stat.Fits
  limit : ∀ limit ∈ cpu.limit, limit.Fits
  weight : ∀ n ∈ cpu.weight, n ≤ Numeral.max64
  pressure : ∀ pressure ∈ cpu.pressure, pressure.Fits

/-- Every part has a spelling. -/
structure Memory.Fits (memory : Memory) : Prop where
  usage : memory.usage ≤ Numeral.max64
  limit : ∀ n ∈ memory.limit, n ≤ Numeral.max64
  high : ∀ n ∈ memory.high, n ≤ Numeral.max64
  swapUsage : ∀ n ∈ memory.swapUsage, n ≤ Numeral.max64
  swapLimit : ∀ n ∈ memory.swapLimit, n ≤ Numeral.max64
  stat : memory.stat.Fits
  events : ∀ events ∈ memory.events, events.Fits
  pressure : ∀ pressure ∈ memory.pressure, pressure.Fits

/-- Every part has a spelling, with the devices going by their tokens. -/
structure Io.Fits (io : Io) : Prop where
  devices : ∀ e ∈ io.devices.entries, BlockDevice.IsToken e.1 ∧ e.2.Fits
  pressure : ∀ pressure ∈ io.pressure, pressure.Fits

end Unified

namespace Legacy

/-- Every part has a spelling. The quota is a signed number of 64 bits in microseconds. -/
structure Cpu.Fits (cpu : Cpu) : Prop where
  shares : cpu.scheduling.shares ≤ Numeral.max64
  period : ∀ time ∈ cpu.scheduling.period, time.CountsIn .ofMicros
  quota : ∀ time ∈ cpu.scheduling.quota, ∃ n ≤ 0x7FFFFFFFFFFFFFFF, time = .ofMicros n
  throttling : ∀ throttling ∈ cpu.throttling, throttling.Fits

/-- Every part has a spelling. -/
structure CpuTime.Fits (units : HostUnits) (time : CpuTime) : Prop where
  total : time.total.CountsIn .ofNanos
  modes : ∀ modes ∈ time.modes, modes.Fits units
  processors : ∀ times ∈ time.processors, ∀ time ∈ times, time.CountsIn .ofNanos

/-- The figures are numbers of 64 bits. -/
structure MemoryFamily.Fits (figures : MemoryFamily) : Prop where
  usage : figures.usage ≤ Numeral.max64
  peak : ∀ n ∈ figures.peak, n ≤ Numeral.max64
  limit : ∀ n ∈ figures.limit, n ≤ Numeral.max64
  failures : ∀ n ∈ figures.failures, n ≤ Numeral.max64

/-- Every part has a spelling. -/
structure Memory.Fits (m : Memory) : Prop where
  memory : m.memory.Fits
  withSwap : ∀ figures ∈ m.withSwap, figures.Fits
  kernel : ∀ figures ∈ m.kernel, figures.Fits
  stat : m.stat.Fits

/-- Every device goes by its token and has a spelling, and the total adds them up in 64 bits. -/
structure BlockIo.Fits (blockIo : BlockIo) : Prop where
  devices : ∀ e ∈ blockIo.devices.entries,
    BlockDevice.IsToken e.1 ∧ e.2.octets.Fits ∧ e.2.operations.Fits
  total : blockIo.total = ⟨blockIo.devices.total fun d => d.total.bytes,
    blockIo.devices.total fun d => d.total.operations⟩
  sums : blockIo.total.bytes ≤ Numeral.max64 ∧ blockIo.total.operations ≤ Numeral.max64

end Legacy

namespace Cgroup

namespace Controller

/-- The names of the files of a controller, in which the units have no part. -/
def fileNames (c : Controller) : List Text := (c.uses .usual).map FileUse.name

end Controller

end Cgroup

/-- Numbers of processes that fit can be written to the files of their controller. -/
theorem PidsStat.Fits.writable {pids : PidsStat} (h : pids.Fits) :
    Writable ["pids.current".toList, "pids.max".toList] fun tree => pids.WrittenIn tree ['/'] :=
  ((Writable.spells "pids.current".toList (Scalar.exists_spellsNumber h.current)).and
    (Writable.spellsLimit "pids.max".toList (Scalar.exists_spellsLimit h.limit))
    (by decide)).imp fun _ ⟨current, limit⟩ => ⟨current, limit⟩

namespace Unified

/-- The processor controller of version 2 can be written, -/
theorem Cpu.Fits.writable {cpu : Cpu} (h : cpu.Fits) :
    Writable Controller.unifiedCpu.fileNames fun tree => cpu.WrittenIn tree ['/'] := by
  have hstat := Writable.spells "cpu.stat".toList h.stat.exists_spells
  have hlimit := Writable.spellsOptional "cpu.max".toList fun limit hlimit =>
    (h.limit limit hlimit).exists_spells
  have hweight := Writable.spellsOptional "cpu.weight".toList fun n hn =>
    Scalar.exists_spellsNumber (h.weight n hn)
  have hpressure := Writable.spellsOptional "cpu.pressure".toList fun pressure hpressure =>
    (h.pressure pressure hpressure).exists_spells
  exact (((hstat.and hlimit (by decide)).and hweight (by decide)).and hpressure (by decide)).imp
    fun _ ⟨⟨⟨stat, limit⟩, weight⟩, pressure⟩ => ⟨stat, limit, weight, pressure⟩

/-- and so can the memory controller, -/
theorem Memory.Fits.writable {memory : Memory} (h : memory.Fits) :
    Writable Controller.unifiedMemory.fileNames fun tree => memory.WrittenIn tree ['/'] := by
  have hlimit (name : String) {limit : Option Nat} (h : ∀ n ∈ limit, n ≤ Numeral.max64) :=
    Writable.spellsLimit name.toList (Scalar.exists_spellsLimit h)
  have husage := Writable.spells "memory.current".toList (Scalar.exists_spellsNumber h.usage)
  have hstat := Writable.spells "memory.stat".toList h.stat.exists_spells
  have hswap := Writable.spellsOptional "memory.swap.current".toList fun n hn =>
    Scalar.exists_spellsNumber (h.swapUsage n hn)
  have hevents := Writable.spellsOptional "memory.events".toList fun events hevents =>
    (h.events events hevents).exists_spells
  have hpressure := Writable.spellsOptional "memory.pressure".toList fun pressure hpressure =>
    (h.pressure pressure hpressure).exists_spells
  have hlimits := (hlimit "memory.max" h.limit).and (hlimit "memory.high" h.high) (by decide)
  have hswaps := hswap.and (hlimit "memory.swap.max" h.swapLimit) (by decide)
  have hrest := hevents.and hpressure (by decide)
  refine ((((husage.and hstat (by decide)).and hlimits (by decide)).and hswaps (by decide)).and
    hrest (by decide)).imp ?_
  rintro tree ⟨⟨⟨⟨usage, stat⟩, limit, high⟩, swapUsage, swapLimit⟩, events, pressure⟩
  exact ⟨usage, limit, high, swapUsage, swapLimit, stat, events, pressure⟩

/-- and so can the device controller. -/
theorem Io.Fits.writable {io : Io} (h : io.Fits) :
    Writable Controller.unifiedIo.fileNames fun tree => io.WrittenIn tree ['/'] := by
  have hdevices := Writable.spells "io.stat".toList (IoDevice.exists_spells h.devices)
  have hpressure := Writable.spellsOptional "io.pressure".toList fun pressure hpressure =>
    (h.pressure pressure hpressure).exists_spells
  exact (hdevices.and hpressure (by decide)).imp
    fun _ ⟨devices, pressure⟩ => ⟨devices, pressure⟩

end Unified

namespace Legacy

/-- The processor subsystem of version 1 can be written, -/
theorem Cpu.Fits.writable {cpu : Cpu} (h : cpu.Fits) :
    Writable Controller.legacyCpu.fileNames fun tree => cpu.WrittenIn tree ['/'] := by
  have hshares := Writable.spells "cpu.shares".toList (Scalar.exists_spellsNumber h.shares)
  have hperiod := Writable.spellsOptional "cpu.cfs_period_us".toList fun time htime =>
    Scalar.exists_spellsTime (h.period time htime)
  have hquota := Writable.spellsLimit "cpu.cfs_quota_us".toList (exists_spellsQuota h.quota)
  have hthrottling := Writable.spellsOptional "cpu.stat".toList fun throttling hthrottling =>
    (h.throttling throttling hthrottling).exists_spells
  exact (((hshares.and hperiod (by decide)).and hquota (by decide)).and hthrottling
    (by decide)).imp
      fun _ ⟨⟨⟨shares, period⟩, quota⟩, throttling⟩ => ⟨shares, period, quota, throttling⟩

/-- and so can that of processor times, in the units of the host, -/
theorem CpuTime.Fits.writable {units : HostUnits} {time : CpuTime} (h : time.Fits units) :
    Writable Controller.legacyCpuTime.fileNames fun tree => time.WrittenIn units tree ['/'] := by
  have htotal := Writable.spells "cpuacct.usage".toList (Scalar.exists_spellsTime h.total)
  have hmodes := Writable.spellsOptional "cpuacct.stat".toList fun modes hmodes =>
    (h.modes modes hmodes).exists_spells
  have hprocessors := Writable.spellsOptional "cpuacct.usage_percpu".toList fun times htimes =>
    exists_spellsProcessorTimes (h.processors times htimes)
  exact ((htotal.and hmodes (by decide)).and hprocessors (by decide)).imp
    fun _ ⟨⟨total, modes⟩, processors⟩ => ⟨total, modes, processors⟩

/-- A family that is not accounted for lacks its usage. -/
theorem MemoryFamily.writable (family : String) (need : Need) (figures : Option MemoryFamily)
    (h : ∀ f ∈ figures, f.Fits) :
    Writable ((Controller.familyUses family need).map FileUse.name) fun tree =>
      WrittenIn tree ['/'] family figures := by
  cases figures with
  | none => exact (Writable.absent _).mono (by simp [Controller.familyUses])
  | some figures =>
    obtain ⟨usage, peak, limit, failures⟩ := h figures rfl
    have hdetail (name : String) {value : Option Nat} (h : ∀ n ∈ value, n ≤ Numeral.max64) :=
      Writable.spellsOptional (Controller.familyFile family name) fun n hn =>
        Scalar.exists_spellsNumber (h n hn)
    have husage := Writable.spells (Controller.familyFile family "usage_in_bytes")
      (Scalar.exists_spellsNumber usage)
    exact husage.and ((hdetail "max_usage_in_bytes" peak).and ((hdetail "limit_in_bytes" limit).and
      (hdetail "failcnt" failures) (by simp [Controller.familyFile]))
      (by simp [Controller.familyFile])) (by simp [Controller.familyFile])

/-- and so can the memory subsystem, -/
theorem Memory.Fits.writable {m : Memory} (h : m.Fits) :
    Writable Controller.legacyMemory.fileNames fun tree => m.WrittenIn tree ['/'] := by
  have hmemory := MemoryFamily.writable "memory" .required (some m.memory)
    (by simpa using h.memory)
  have hwithSwap := MemoryFamily.writable "memory.memsw" .optional m.withSwap h.withSwap
  have hkernel := MemoryFamily.writable "memory.kmem" .optional m.kernel h.kernel
  have hstat := Writable.spells "memory.stat".toList h.stat.exists_spells
  exact (hmemory.and (hwithSwap.and (hkernel.and hstat (by decide)) (by decide)) (by decide)).imp
    fun _ ⟨memory, withSwap, kernel, stat⟩ => ⟨memory, withSwap, kernel, stat⟩

/-- and so can the block device subsystem. -/
theorem BlockIo.Fits.writable {blockIo : BlockIo} (h : blockIo.Fits) :
    Writable Controller.legacyBlockIo.fileNames fun tree => blockIo.WrittenIn tree ['/'] := by
  have hoctets := Writable.spells "blkio.throttle.io_service_bytes".toList
    (DeviceColumn.exists_spells (blockIo.devices.mapValues BlockIoDevice.octets)
      (List.forall_mem_map.mpr fun e he => ⟨(h.devices e he).1, (h.devices e he).2.1⟩))
  have hoperations := Writable.spells "blkio.throttle.io_serviced".toList
    (DeviceColumn.exists_spells (blockIo.devices.mapValues BlockIoDevice.operations)
      (List.forall_mem_map.mpr fun e he => ⟨(h.devices e he).1, (h.devices e he).2.2⟩))
  exact (hoctets.and hoperations (by decide)).imp
    fun _ ⟨octets, operations⟩ => ⟨octets, operations, h.total, h.sums⟩

end Legacy

namespace Cgroup

namespace Controller

/-- What a controller can report. -/
def Fits (units : HostUnits) : (c : Controller) → c.Report → Prop
  | .legacyCpu => Legacy.Cpu.Fits
  | .legacyCpuTime => Legacy.CpuTime.Fits units
  | .legacyMemory => Legacy.Memory.Fits
  | .legacyBlockIo => Legacy.BlockIo.Fits
  | .legacyPids => PidsStat.Fits
  | .unifiedCpu => Unified.Cpu.Fits
  | .unifiedMemory => Unified.Memory.Fits
  | .unifiedIo => Unified.Io.Fits
  | .unifiedPids => PidsStat.Fits

variable {units : HostUnits} {c : Controller}

/-- Every report that fits can be written to the files of its controller. -/
private theorem writtenIn_writable {report : c.Report} (h : c.Fits units report) :
    Writable c.fileNames fun tree => c.WrittenIn units tree ['/'] report := by
  cases c with
  | legacyCpu => exact Legacy.Cpu.Fits.writable h
  | legacyCpuTime => exact Legacy.CpuTime.Fits.writable h
  | legacyMemory => exact Legacy.Memory.Fits.writable h
  | legacyBlockIo => exact Legacy.BlockIo.Fits.writable h
  | legacyPids => exact PidsStat.Fits.writable h
  | unifiedCpu => exact Unified.Cpu.Fits.writable h
  | unifiedMemory => exact Unified.Memory.Fits.writable h
  | unifiedIo => exact Unified.Io.Fits.writable h
  | unifiedPids => exact PidsStat.Fits.writable h

/-- Every controller needs a file, which can be left out. -/
private theorem lacks_writable (units : HostUnits) (c : Controller) :
    Writable c.fileNames fun tree => c.Lacks units tree ['/'] := by
  have hneeded : ∃ use ∈ c.uses units, use.need = .required ∧ use.name ∈ c.fileNames := by
    cases c <;> exact ⟨_, List.mem_cons_self, rfl, List.mem_cons_self⟩
  obtain ⟨use, huse, hneed, hnamed⟩ := hneeded
  have habsent := (Writable.absent use.name).imp
    fun tree htree => (⟨use, huse, hneed, htree⟩ : c.Lacks units tree ['/'])
  refine habsent.mono fun name hname => ?_
  rw [List.mem_singleton.mp hname]
  exact hnamed

/-- Every controller can be written or left out. -/
theorem written_writable (units : HostUnits) {report : Option c.Report}
    (h : ∀ r ∈ report, c.Fits units r) :
    Writable c.fileNames fun tree => c.Written units tree ['/'] report := by
  cases report with
  | none => exact c.lacks_writable units
  | some report => exact writtenIn_writable (h report rfl)

end Controller

end Cgroup

/-- What the controllers of version 2 can report. -/
structure UnifiedControllers.Fits (controllers : UnifiedControllers) : Prop where
  cpu : ∀ cpu ∈ controllers.cpu, cpu.Fits
  memory : ∀ memory ∈ controllers.memory, memory.Fits
  io : ∀ io ∈ controllers.io, io.Fits
  pids : ∀ pids ∈ controllers.pids, pids.Fits

/-- The controllers of version 2 have files of different names. -/
theorem UnifiedControllers.Fits.exists_written {controllers : UnifiedControllers}
    (h : controllers.Fits) (units : HostUnits) :
    ∃ tree, controllers.WrittenIn units tree ['/'] := by
  have hcpu := Controller.unifiedCpu.written_writable units h.cpu
  have hmemory := Controller.unifiedMemory.written_writable units h.memory
  have hio := Controller.unifiedIo.written_writable units h.io
  have hpids := Controller.unifiedPids.written_writable units h.pids
  have hall := hcpu.and (hmemory.and (hio.and hpids (by decide)) (by decide)) (by decide)
  obtain ⟨tree, cpu, memory, io, pids⟩ := hall.exists_tree (by decide)
  exact ⟨tree, cpu, memory, io, pids⟩

/-- What the subsystems of version 1 can report. -/
structure LegacyControllers.Fits (units : HostUnits) (controllers : LegacyControllers) : Prop where
  cpu : ∀ cpu ∈ controllers.cpu, cpu.Fits
  cpuTime : ∀ time ∈ controllers.cpuTime, time.Fits units
  memory : ∀ m ∈ controllers.memory, m.Fits
  blockIo : ∀ blockIo ∈ controllers.blockIo, blockIo.Fits
  pids : ∀ pids ∈ controllers.pids, pids.Fits

/-- The subsystems of version 1 are all placed in the root directory. -/
def CgroupPlacement.together : CgroupPlacement :=
  .v1 (["cpu", "cpuacct", "memory", "blkio", "pids"].foldl
    (fun placed name => placed.insert name.toList ⟨['/'], ['/']⟩) .empty)

/-- The subsystems of version 1 have files of different names too. -/
theorem LegacyControllers.Fits.exists_written {units : HostUnits} {controllers : LegacyControllers}
    (h : controllers.Fits units) : ∃ tree, controllers.WrittenAt units tree .together := by
  have hcpu := Controller.legacyCpu.written_writable units h.cpu
  have hcpuTime := Controller.legacyCpuTime.written_writable units h.cpuTime
  have hmemory := Controller.legacyMemory.written_writable units h.memory
  have hblockIo := Controller.legacyBlockIo.written_writable units h.blockIo
  have hpids := Controller.legacyPids.written_writable units h.pids
  have hall := hcpu.and (hcpuTime.and (hmemory.and (hblockIo.and hpids (by decide)) (by decide))
    (by decide)) (by decide)
  obtain ⟨tree, cpu, cpuTime, memory, blockIo, pids⟩ := hall.exists_tree (by decide)
  exact ⟨tree, cpu, cpuTime, memory, blockIo, pids⟩

namespace Cgroup

namespace Accounting

variable {accounting : Accounting}

/-- Whatever the controllers of a version can report, there are files that spell it. Where block
devices go by their tokens, controllers are read exactly as they are written: each of them with
every value and every optional part that is there, and without those that are not. -/
theorem writable_and_readBack {ε : Type} (hdevices : accounting.devices = .absent) :
    (∀ controllers : UnifiedControllers, controllers.Fits →
      ∃ tree, controllers.WrittenIn accounting.units tree ['/']) ∧
    (∀ controllers : LegacyControllers, controllers.Fits accounting.units →
      ∃ tree, controllers.WrittenAt accounting.units tree .together) ∧
    ∀ w : World,
      (∀ (location : CgroupLocation) (controllers : UnifiedControllers),
        controllers.WrittenIn accounting.units w.files location.directory →
        (accounting.readUnified location : Probe ε CgroupReading).outcome w =
          .ok (.ofControllers location.path (.v2 controllers))) ∧
      ∀ (placement : CgroupPlacement) (controllers : LegacyControllers),
        controllers.WrittenAt accounting.units w.files placement →
        (accounting.readLegacy placement : Probe ε CgroupReading).outcome w =
          .ok (.ofControllers placement.path (.v1 controllers)) :=
  ⟨fun _ h => h.exists_written _, fun _ h => h.exists_written, fun _ =>
    ⟨fun _ _ h => outcome_readUnified_of_written hdevices h,
      fun _ _ h => outcome_readLegacy_of_written hdevices h⟩⟩

section TwoVersions

open KernelSampler

/-- A cgroup of version 2 with `cpu` and `io`, and one of version 1 with `cpu` and a quota. -/
private def bothVersions : World := ⟨kernelTree [
  (["u".toList, "cpu.stat".toList], .file (Text.encode "usage_usec 5\n".toList)),
  (["u".toList, "cpu.max".toList], .file (Text.encode "max 100000\n".toList)),
  (["u".toList, "io.stat".toList],
    .file (Text.encode "8:0 rbytes=1 wbytes=2 rios=3 wios=4 dbytes=5 dios=6\n".toList)),
  (["l".toList, "cpu.shares".toList], .file (Text.encode "512\n".toList)),
  (["l".toList, "cpu.cfs_quota_us".toList], .file (Text.encode "-1\n".toList))], ⟨0⟩⟩

/-- An accounting that looks up no names of devices. -/
private def plainAccounting : Accounting where
  locator := {
    rootfs := "/".toList
    mounts := { unified := none, subsystems := .empty }
    skipRoot := true
    fixedPath := none
    unifiedHasControllers := false }
  devices := .absent
  units := .usual

/-- What is written for version 2. -/
private def writtenUnified : UnifiedControllers where
  cpu := some {
    stat := { Unified.CpuStat.zero with usage := .ofMicros 5 }
    limit := some ⟨none, .ofMicros 100000⟩
    weight := none
    pressure := none }
  memory := none
  io := some {
    devices := TextMap.empty.insert "8:0".toList ⟨⟨1, 3⟩, ⟨2, 4⟩, ⟨5, 6⟩⟩
    pressure := none }
  pids := none

/-- What is written for version 1. -/
private def writtenLegacy : LegacyControllers where
  cpu := some {
    scheduling := { period := none, quota := none, shares := 512 }
    throttling := none }
  cpuTime := none
  memory := none
  blockIo := none
  pids := none

/-- The report of version 2 fits. -/
private theorem fitsUnified : writtenUnified.Fits := by
  have hzero : (Duration.zero).CountsIn .ofMicros := ⟨0, by decide, rfl⟩
  have hstat : Unified.CpuStat.Fits { Unified.CpuStat.zero with usage := .ofMicros 5 } :=
    ⟨by simpa [Unified.CpuStat.zero, hzero] using ⟨5, by decide, rfl⟩, by decide⟩
  have hlimit : Unified.CpuLimit.Fits ⟨none, .ofMicros 100000⟩ :=
    ⟨by simp, 100000, by decide, rfl⟩
  refine ⟨?_, by simp [writtenUnified], ?_, by simp [writtenUnified]⟩
  · rintro cpu ⟨⟩
    exact ⟨hstat, by simpa using hlimit, by simp, by simp⟩
  · rintro io ⟨⟩
    refine ⟨?_, by simp⟩
    rintro e (_ | ⟨_, ⟨⟩⟩)
    exact ⟨⟨8, 0, by decide⟩, by unfold Unified.IoDevice.Fits; decide⟩

/-- The report of version 1 fits. -/
private theorem fitsLegacy : writtenLegacy.Fits .usual := by
  refine ⟨?_, by simp [writtenLegacy], by simp [writtenLegacy], by simp [writtenLegacy],
    by simp [writtenLegacy]⟩
  rintro cpu ⟨⟩
  exact ⟨by decide, by simp, by simp, by simp⟩

/-- Some controllers of both versions are written and read back. -/
theorem writable_and_readBack_some :
    (∃ tree, writtenUnified.WrittenIn .usual tree ['/']) ∧
    (∃ tree, writtenLegacy.WrittenAt .usual tree .together) ∧
    (plainAccounting.readUnified ⟨"/".toList, "/u".toList⟩ :
        Probe CgroupFailure CgroupReading).outcome bothVersions =
      .ok (.ofControllers "/u".toList (.v2 writtenUnified)) ∧
    (plainAccounting.readLegacy
        (.v1 (TextMap.empty.insert "cpu".toList ⟨"/".toList, "/l".toList⟩)) :
        Probe CgroupFailure CgroupReading).outcome bothVersions =
      .ok (.ofControllers "/l".toList (.v1 writtenLegacy)) := by
  have hstat : bothVersions.files.Spells "/u/cpu.stat".toList
      (Unified.CpuStat.table.Spells Unified.CpuStat.ofValues)
      { Unified.CpuStat.zero with usage := .ofMicros 5 } := by
    have hrecord : { Unified.CpuStat.zero with usage := .ofMicros 5 } =
        Unified.CpuStat.ofValues fun key => [("usage_usec".toList, 5)].lookup key := by
      decide
    rw [hrecord]
    exact ⟨_, by decide +kernel,
      KeyTable.spells_print _ (by decide) (by decide) (by decide)⟩
  have hlimit : bothVersions.files.Spells "/u/cpu.max".toList Unified.CpuLimit.Spells
      ⟨none, .ofMicros 100000⟩ :=
    ⟨_, by decide +kernel, none, 100000, by simp, by decide, rfl, rfl⟩
  have hdevices : bothVersions.files.Spells "/u/io.stat".toList Unified.IoDevice.Spells
      (TextMap.empty.insert "8:0".toList ⟨⟨1, 3⟩, ⟨2, 4⟩, ⟨5, 6⟩⟩) :=
    ⟨_, by decide +kernel, [("8:0".toList, ⟨⟨1, 3⟩, ⟨2, 4⟩, ⟨5, 6⟩⟩)], .refl _,
      by simpa [Unified.IoDevice.Fits] using ⟨⟨8, 0, by decide⟩, by decide⟩, rfl⟩
  have hshares : bothVersions.files.Spells "/l/cpu.shares".toList Scalar.SpellsNumber 512 :=
    ⟨_, by decide +kernel, by decide, rfl⟩
  have hquota : bothVersions.files.Spells "/l/cpu.cfs_quota_us".toList Legacy.SpellsQuota none :=
    ⟨_, by decide +kernel, none, by simp, rfl, rfl⟩
  have habsent : ∀ path ∈ ["/u/cpu.weight", "/u/cpu.pressure", "/u/memory.current",
      "/u/io.pressure", "/u/pids.current", "/l/cpu.cfs_period_us", "/l/cpu.stat"].map String.toList,
      bothVersions.files.Absent path := by
    unfold FileTree.Absent
    decide +kernel
  obtain ⟨hwriteUnified, hwriteLegacy, hread⟩ :=
    @writable_and_readBack plainAccounting CgroupFailure rfl
  obtain ⟨hunified, hlegacy⟩ := hread bothVersions
  refine ⟨hwriteUnified _ fitsUnified, hwriteLegacy _ fitsLegacy, ?_, ?_⟩
  · refine hunified ⟨"/".toList, "/u".toList⟩ writtenUnified ⟨?_, ?_, ?_, ?_⟩
    · exact ⟨hstat, hlimit, habsent _ (by decide), habsent _ (by decide)⟩
    · exact ⟨_, List.mem_cons_self, rfl, habsent _ (by decide)⟩
    · exact ⟨hdevices, habsent _ (by decide)⟩
    · exact ⟨_, List.mem_cons_self, rfl, habsent _ (by decide)⟩
  · refine hlegacy (.v1 (TextMap.empty.insert "cpu".toList ⟨"/".toList, "/l".toList⟩)) writtenLegacy
      ⟨?_, rfl, rfl, rfl, rfl⟩
    exact ⟨hshares, habsent _ (by decide), Or.inr hquota, habsent _ (by decide)⟩

end TwoVersions

end Accounting

end Cgroup

end ProcessMeter
