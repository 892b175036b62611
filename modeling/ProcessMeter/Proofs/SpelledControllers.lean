import ProcessMeter.Proofs.ControllerIsolation
import ProcessMeter.Proofs.SpelledDevices

/-!
# Controllers are read as they were written

For every controller a relation says how the files in its directory spell what it reports. A
controller that is not there lacks a file that has to be there; an optional part lacks its file, and
a limit may also be written as none. Whatever controllers are written, reading them gives them back.
-/

namespace ProcessMeter

open Probe Cgroup

namespace Scalar

/-- A time in whole units, on a line of its own. -/
def SpellsTime (unit : Nat → Duration) (text : Text) (time : Duration) : Prop :=
  ∃ n, SpellsNumber text n ∧ time = unit n

end Scalar

namespace FileTree

variable {α : Type}

/-- The path leads to a file that spells the value. -/
def Spells (tree : FileTree) (path : Path) (spells : Text → α → Prop) (a : α) : Prop :=
  ∃ text, tree.openFile path = .ok (.content (Text.encode text)) ∧ spells text a

/-- A value that may be missing: then the path leads to nothing. -/
def SpellsOptional (tree : FileTree) (path : Path) (spells : Text → α → Prop) : Option α → Prop
  | none => tree.Absent path
  | some a => tree.Spells path spells a

/-- A limit: none is spelled as such, or the path leads to nothing. -/
def SpellsLimit (tree : FileTree) (path : Path) (spells : Text → Option α → Prop)
    (limit : Option α) : Prop :=
  (limit = none ∧ tree.Absent path) ∨ tree.Spells path spells limit

end FileTree

namespace Stat

variable {α : Type} {path : Path} {w : World}

/-- A file that spells a value is read as this value. -/
theorem outcome_readWith_of_spells {reader : Lines → Probe ReadFailure α} {a : α}
    {spells : Text → α → Prop}
    (hreader : ∀ {text}, spells text a →
      (reader (Lines.ofBytes (Text.encode text))).outcome w = .ok a)
    (h : w.files.Spells path spells a) : (readWith path reader).outcome w = .ok a := by
  obtain ⟨text, hopen, htext⟩ := h
  have hlines : (openLines path).outcome w = .ok (Lines.ofBytes (Text.encode text)) := by
    rw [outcome_openLines, hopen]
    rfl
  rw [readWith, outcome_bind_of_ok hlines]
  exact outcome_mapFailure_eq_ok.mpr (hreader htext)

variable {reader : LineReader α} {spells : Text → α → Prop}

/-- A file that spells a value is read as that value. -/
theorem outcome_read_of_spells {a : α} (hreader : LineReader.Undoes reader spells)
    (h : w.files.Spells path spells a) : (read path reader).outcome w = .ok a := by
  refine outcome_readWith_of_spells (fun htext => ?_) h
  rw [outcome_ofExcept, hreader htext]
  rfl

/-- A file that is read is there. -/
private theorem outcome_readOptional_of_read {a : α} (h : (read path reader).outcome w = .ok a) :
    (readOptional path reader).outcome w = .ok (some a) := by
  rw [readOptional, outcome_attempt_bind, h]
  rfl

/-- An optional file is absent, or is read as the value that it spells. -/
theorem outcome_readOptional_of_spells {value : Option α}
    (hreader : LineReader.Undoes reader spells) (h : w.files.SpellsOptional path spells value) :
    (readOptional path reader).outcome w = .ok value := by
  cases value with
  | none => exact outcome_readOptional_of_absent h
  | some a => exact outcome_readOptional_of_read (outcome_read_of_spells hreader h)

/-- A limit is read back, where an absent file stands for none. -/
theorem exists_outcome_readOptional_limit {reader : LineReader (Option α)} {limit : Option α}
    {spells : Text → Option α → Prop} (hreader : LineReader.Undoes reader spells)
    (h : w.files.SpellsLimit path spells limit) :
    ∃ found, (readOptional path reader).outcome w = .ok found ∧ found.join = limit := by
  rcases h with ⟨rfl, habsent⟩ | hspells
  · exact ⟨none, outcome_readOptional_of_absent habsent, rfl⟩
  · exact ⟨some limit, outcome_readOptional_of_read (outcome_read_of_spells hreader hspells), rfl⟩

/-- A number of units is read back. -/
theorem exists_outcome_read_time {unit : Nat → Duration} {time : Duration}
    (h : w.files.Spells path (Scalar.SpellsTime unit) time) :
    ∃ n, (read path Scalar.readNumber).outcome w = .ok n ∧ unit n = time := by
  obtain ⟨text, hopen, n, hn, rfl⟩ := h
  exact ⟨n, outcome_read_of_spells Scalar.readNumber_undoes ⟨text, hopen, hn⟩, rfl⟩

/-- An optional time is read from a file that may spell it. -/
theorem exists_outcome_readOptional_time {unit : Nat → Duration} {time : Option Duration}
    (h : w.files.SpellsOptional path (Scalar.SpellsTime unit) time) :
    ∃ found, (readOptional path Scalar.readNumber).outcome w = .ok found ∧
      found.map unit = time := by
  cases time with
  | none => exact ⟨none, outcome_readOptional_of_absent h, rfl⟩
  | some time =>
    obtain ⟨n, hread, rfl⟩ := exists_outcome_read_time h
    exact ⟨some n, outcome_readOptional_of_read hread, rfl⟩

/-- A quota is read back, where an absent file or a negative number stands for none. -/
theorem exists_outcome_readOptional_quota {quota : Option Duration}
    (h : w.files.SpellsLimit path Legacy.SpellsQuota quota) :
    ∃ found, (readOptional path Scalar.readSigned).outcome w = .ok found ∧
      found.bind Legacy.quotaTime = quota := by
  rcases h with ⟨rfl, habsent⟩ | ⟨text, hopen, htext⟩
  · exact ⟨none, outcome_readOptional_of_absent habsent, rfl⟩
  · obtain ⟨n, hread, htime⟩ := Legacy.exists_readSigned_of_spellsQuota htext
    have hspells : w.files.Spells path
        (fun text n => Scalar.readSigned (Lines.ofBytes (Text.encode text)) = .ok n) n :=
      ⟨text, hopen, hread⟩
    exact ⟨some n, outcome_readOptional_of_read (outcome_read_of_spells id hspells), htime⟩

end Stat

namespace Pressure

variable {path : Path} {w : World}

/-- A pressure file is read back if the kernel offers one. -/
theorem outcome_read_of_spells {pressure : Option Pressure}
    (h : w.files.SpellsOptional path Spells pressure) :
    (read path).outcome w = .ok pressure := by
  rw [read, outcome_attempt_bind, Stat.outcome_readOptional_of_spells readLines_undoes h]
  cases pressure <;> rfl

end Pressure

/-- The files of tasks. -/
structure PidsStat.WrittenIn (tree : FileTree) (directory : Path) (pids : PidsStat) : Prop where
  /-- The number of tasks. -/
  current : tree.Spells (Path.join directory "pids.current".toList) Scalar.SpellsNumber pids.current
  /-- The limit. -/
  limit : tree.SpellsLimit (Path.join directory "pids.max".toList) Scalar.SpellsLimit pids.limit

/-- The numbers of processes are read as they are written. -/
theorem PidsStat.WrittenIn.outcome_read {w : World} {directory : Path} {pids : PidsStat}
    (h : pids.WrittenIn w.files directory) : (PidsStat.read directory).outcome w = .ok pids := by
  obtain ⟨limit, hlimit, hjoin⟩ :=
    Stat.exists_outcome_readOptional_limit Scalar.readLimit_undoes h.limit
  rw [PidsStat.read,
    outcome_bind_of_ok (Stat.outcome_read_of_spells Scalar.readNumber_undoes h.current),
    outcome_bind_of_ok hlimit, hjoin]
  rfl

namespace Unified

variable {tree : FileTree} {directory : Path} {w : World}

/-- The files of the `cpu` controller. -/
structure Cpu.WrittenIn (tree : FileTree) (directory : Path) (cpu : Cpu) : Prop where
  /-- The times. -/
  stat : tree.Spells (Path.join directory "cpu.stat".toList)
    (CpuStat.table.Spells CpuStat.ofValues) cpu.stat
  /-- The limit. -/
  limit : tree.SpellsOptional (Path.join directory "cpu.max".toList) CpuLimit.Spells cpu.limit
  /-- The weight. -/
  weight : tree.SpellsOptional (Path.join directory "cpu.weight".toList) Scalar.SpellsNumber
    cpu.weight
  /-- The waiting for a processor. -/
  pressure : tree.SpellsOptional (Path.join directory "cpu.pressure".toList) Pressure.Spells
    cpu.pressure

/-- The processor controller of version 2 is read as it is written, -/
theorem Cpu.WrittenIn.outcome_read {cpu : Cpu} (h : cpu.WrittenIn w.files directory) :
    (Cpu.read directory).outcome w = .ok cpu := by
  rw [Cpu.read,
    outcome_bind_of_ok (Stat.outcome_read_of_spells CpuStat.readLines_undoes h.stat),
    outcome_bind_of_ok (Stat.outcome_readOptional_of_spells CpuLimit.readLines_undoes h.limit),
    outcome_bind_of_ok (Stat.outcome_readOptional_of_spells Scalar.readNumber_undoes h.weight),
    outcome_bind_of_ok (Pressure.outcome_read_of_spells h.pressure)]
  rfl

/-- The files of the `memory` controller. -/
structure Memory.WrittenIn (tree : FileTree) (directory : Path) (memory : Memory) : Prop where
  /-- The octets in use. -/
  usage : tree.Spells (Path.join directory "memory.current".toList) Scalar.SpellsNumber
    memory.usage
  /-- The most octets allowed. -/
  limit : tree.SpellsLimit (Path.join directory "memory.max".toList) Scalar.SpellsLimit
    memory.limit
  /-- The octets above which the cgroup is throttled. -/
  high : tree.SpellsLimit (Path.join directory "memory.high".toList) Scalar.SpellsLimit memory.high
  /-- The swap in use. -/
  swapUsage : tree.SpellsOptional (Path.join directory "memory.swap.current".toList)
    Scalar.SpellsNumber memory.swapUsage
  /-- The most swap allowed. -/
  swapLimit : tree.SpellsLimit (Path.join directory "memory.swap.max".toList) Scalar.SpellsLimit
    memory.swapLimit
  /-- What the memory holds. -/
  stat : tree.Spells (Path.join directory "memory.stat".toList)
    (MemoryStat.table.Spells MemoryStat.ofValues) memory.stat
  /-- How often limits were met. -/
  events : tree.SpellsOptional (Path.join directory "memory.events".toList)
    (MemoryEvents.table.Spells MemoryEvents.ofValues) memory.events
  /-- The waiting for memory. -/
  pressure : tree.SpellsOptional (Path.join directory "memory.pressure".toList) Pressure.Spells
    memory.pressure

/-- and so is the memory controller, -/
theorem Memory.WrittenIn.outcome_read {memory : Memory} (h : memory.WrittenIn w.files directory) :
    (Memory.read directory).outcome w = .ok memory := by
  obtain ⟨limit, hlimit, hlimitEq⟩ :=
    Stat.exists_outcome_readOptional_limit Scalar.readLimit_undoes h.limit
  obtain ⟨high, hhigh, hhighEq⟩ :=
    Stat.exists_outcome_readOptional_limit Scalar.readLimit_undoes h.high
  obtain ⟨swapLimit, hswap, hswapEq⟩ :=
    Stat.exists_outcome_readOptional_limit Scalar.readLimit_undoes h.swapLimit
  rw [Memory.read,
    outcome_bind_of_ok (Stat.outcome_read_of_spells Scalar.readNumber_undoes h.usage),
    outcome_bind_of_ok (Stat.outcome_read_of_spells MemoryStat.readLines_undoes h.stat),
    outcome_bind_of_ok hlimit, outcome_bind_of_ok hhigh,
    outcome_bind_of_ok (Stat.outcome_readOptional_of_spells Scalar.readNumber_undoes h.swapUsage),
    outcome_bind_of_ok hswap,
    outcome_bind_of_ok (Stat.outcome_readOptional_of_spells
      MemoryEvents.readLines_undoes h.events),
    outcome_bind_of_ok (Pressure.outcome_read_of_spells h.pressure), hlimitEq, hhighEq, hswapEq]
  rfl

/-- The files of the `io` controller. -/
structure Io.WrittenIn (tree : FileTree) (directory : Path) (io : Io) : Prop where
  /-- The devices. -/
  devices : tree.Spells (Path.join directory "io.stat".toList) IoDevice.Spells io.devices
  /-- The waiting for input and output. -/
  pressure : tree.SpellsOptional (Path.join directory "io.pressure".toList) Pressure.Spells
    io.pressure

/-- and so is the device controller. -/
theorem Io.WrittenIn.outcome_read {io : Io} (h : io.WrittenIn w.files directory) :
    (Io.read directory .absent).outcome w = .ok io := by
  rw [Io.read,
    outcome_bind_of_ok (Stat.outcome_readWith_of_spells
      (fun htext => IoDevice.outcome_readIoLines htext w) h.devices),
    outcome_bind_of_ok (Pressure.outcome_read_of_spells h.pressure)]
  rfl

end Unified

namespace Legacy

variable {tree : FileTree} {directory : Path} {w : World}

/-- The files of the `cpu` subsystem. -/
structure Cpu.WrittenIn (tree : FileTree) (directory : Path) (cpu : Cpu) : Prop where
  /-- The weight. -/
  shares : tree.Spells (Path.join directory "cpu.shares".toList) Scalar.SpellsNumber
    cpu.scheduling.shares
  /-- The length of a period. -/
  period : tree.SpellsOptional (Path.join directory "cpu.cfs_period_us".toList)
    (Scalar.SpellsTime .ofMicros) cpu.scheduling.period
  /-- The processor time allowed in a period. -/
  quota : tree.SpellsLimit (Path.join directory "cpu.cfs_quota_us".toList) SpellsQuota
    cpu.scheduling.quota
  /-- The throttling. -/
  throttling : tree.SpellsOptional (Path.join directory "cpu.stat".toList)
    (Throttling.table.Spells Throttling.ofValues) cpu.throttling

/-- The processor subsystem of version 1 is read as it is written, -/
theorem Cpu.WrittenIn.outcome_read {cpu : Cpu} (h : cpu.WrittenIn w.files directory) :
    (Cpu.read directory).outcome w = .ok cpu := by
  obtain ⟨period, hperiod, hperiodEq⟩ := Stat.exists_outcome_readOptional_time h.period
  obtain ⟨quota, hquota, hquotaEq⟩ := Stat.exists_outcome_readOptional_quota h.quota
  rw [Cpu.read,
    outcome_bind_of_ok (Stat.outcome_read_of_spells Scalar.readNumber_undoes h.shares),
    outcome_bind_of_ok hperiod, outcome_bind_of_ok hquota,
    outcome_bind_of_ok (Stat.outcome_readOptional_of_spells
      Throttling.readLines_undoes h.throttling), hperiodEq, hquotaEq]
  rfl

/-- The files of the `cpuacct` subsystem. -/
structure CpuTime.WrittenIn (units : HostUnits) (tree : FileTree) (directory : Path)
    (time : CpuTime) : Prop where
  /-- The time of all tasks. -/
  total : tree.Spells (Path.join directory "cpuacct.usage".toList) (Scalar.SpellsTime .ofNanos)
    time.total
  /-- The time by mode. -/
  modes : tree.SpellsOptional (Path.join directory "cpuacct.stat".toList)
    ((ModeTimes.table units).Spells (ModeTimes.ofValues units)) time.modes
  /-- The time by processor. -/
  processors : tree.SpellsOptional (Path.join directory "cpuacct.usage_percpu".toList)
    SpellsProcessorTimes time.processors

/-- and so is that of processor times. -/
theorem CpuTime.WrittenIn.outcome_read {units : HostUnits} {time : CpuTime}
    (h : time.WrittenIn units w.files directory) :
    (CpuTime.read units directory).outcome w = .ok time := by
  obtain ⟨total, htotal, htotalEq⟩ := Stat.exists_outcome_read_time h.total
  rw [CpuTime.read, outcome_bind_of_ok htotal,
    outcome_bind_of_ok (Stat.outcome_readOptional_of_spells
      (ModeTimes.readLines_undoes units) h.modes),
    outcome_bind_of_ok (Stat.outcome_readOptional_of_spells
      readProcessorTimes_undoes h.processors), htotalEq]
  rfl

/-- The files of a family of memory figures. A family that is not accounted for has no usage. -/
def MemoryFamily.WrittenIn (tree : FileTree) (directory : Path) (family : String) :
    Option MemoryFamily → Prop
  | none => tree.Absent (Path.join directory (Controller.familyFile family "usage_in_bytes"))
  | some figures =>
    tree.Spells (Path.join directory (Controller.familyFile family "usage_in_bytes"))
      Scalar.SpellsNumber figures.usage ∧
    tree.SpellsOptional (Path.join directory (Controller.familyFile family "max_usage_in_bytes"))
      Scalar.SpellsNumber figures.peak ∧
    tree.SpellsOptional (Path.join directory (Controller.familyFile family "limit_in_bytes"))
      Scalar.SpellsNumber figures.limit ∧
    tree.SpellsOptional (Path.join directory (Controller.familyFile family "failcnt"))
      Scalar.SpellsNumber figures.failures

/-- A family of memory files is read as it is written, or as missing. -/
theorem MemoryFamily.outcome_read?_of_written {family : String} {figures : Option MemoryFamily}
    (h : WrittenIn w.files directory family figures) :
    (read? directory family).outcome w = .ok figures := by
  cases figures with
  | none =>
    rw [read?]
    exact outcome_bind_of_ok (Stat.outcome_readOptional_of_absent h) _
  | some figures =>
    obtain ⟨husage, hpeak, hlimit, hfailures⟩ := h
    have husage : w.files.SpellsOptional _ Scalar.SpellsNumber (some figures.usage) := husage
    have hread {name : String} {value : Option Nat}
        (h : w.files.SpellsOptional (Path.join directory (Controller.familyFile family name))
          Scalar.SpellsNumber value) :
        (Stat.readOptional (Path.join directory (family.toList ++ '.' :: name.toList))
          Scalar.readNumber).outcome w = .ok value :=
      Stat.outcome_readOptional_of_spells Scalar.readNumber_undoes h
    rw [read?, outcome_bind_of_ok (hread husage)]
    dsimp only
    rw [outcome_bind_of_ok (hread hpeak), outcome_bind_of_ok (hread hlimit),
      outcome_bind_of_ok (hread hfailures)]
    rfl

/-- The files of the `memory` subsystem. -/
structure Memory.WrittenIn (tree : FileTree) (directory : Path) (m : Memory) : Prop where
  /-- User memory. -/
  memory : MemoryFamily.WrittenIn tree directory "memory" (some m.memory)
  /-- Memory with swap. -/
  withSwap : MemoryFamily.WrittenIn tree directory "memory.memsw" m.withSwap
  /-- Kernel memory. -/
  kernel : MemoryFamily.WrittenIn tree directory "memory.kmem" m.kernel
  /-- What the memory holds. -/
  stat : tree.Spells (Path.join directory "memory.stat".toList)
    (MemoryStat.table.Spells MemoryStat.ofValues) m.stat

/-- The memory subsystem of version 1 is read as it is written. -/
theorem Memory.WrittenIn.outcome_read {m : Memory} (h : m.WrittenIn w.files directory) :
    (Memory.read directory).outcome w = .ok m := by
  rw [Memory.read, outcome_bind_of_ok (MemoryFamily.outcome_read?_of_written h.memory)]
  dsimp only
  rw [outcome_bind_of_ok (MemoryFamily.outcome_read?_of_written h.withSwap),
    outcome_bind_of_ok (MemoryFamily.outcome_read?_of_written h.kernel),
    outcome_bind_of_ok (Stat.outcome_read_of_spells MemoryStat.readLines_undoes h.stat)]
  rfl

/-- The files of the `blkio` subsystem. The total adds up those of the devices, and is made of
numbers of 64 bits. -/
structure BlockIo.WrittenIn (tree : FileTree) (directory : Path) (blockIo : BlockIo) : Prop where
  /-- The octets of the devices. -/
  octets : tree.Spells (Path.join directory "blkio.throttle.io_service_bytes".toList)
    DeviceColumn.Spells (blockIo.devices.mapValues BlockIoDevice.octets)
  /-- The operations of the devices. -/
  operations : tree.Spells (Path.join directory "blkio.throttle.io_serviced".toList)
    DeviceColumn.Spells (blockIo.devices.mapValues BlockIoDevice.operations)
  /-- The total is the sum over the devices. -/
  total : blockIo.total = ⟨blockIo.devices.total fun d => d.total.bytes,
    blockIo.devices.total fun d => d.total.operations⟩
  /-- The total is made of numbers of 64 bits. -/
  fits : blockIo.total.bytes ≤ Numeral.max64 ∧ blockIo.total.operations ≤ Numeral.max64

/-- The block device subsystem of version 1 is read as it is written. -/
theorem BlockIo.WrittenIn.outcome_read {blockIo : BlockIo}
    (h : blockIo.WrittenIn w.files directory) :
    (BlockIo.read directory .absent).outcome w = .ok blockIo := by
  have hcolumn {name : String} {columns : TextMap DeviceColumn}
      (h : w.files.Spells (Path.join directory name.toList) DeviceColumn.Spells columns) :=
    Stat.outcome_readWith_of_spells (fun htext => DeviceColumn.outcome_readLines htext w) h
  have htotal : grandTotal blockIo.devices = blockIo.total := h.total.symm
  have hfits : (decide (blockIo.total.bytes ≤ Numeral.max64) &&
      decide (blockIo.total.operations ≤ Numeral.max64)) = true := by
    simp [h.fits]
  rw [BlockIo.read, outcome_bind_of_ok (hcolumn h.octets),
    outcome_bind_of_ok (hcolumn h.operations), merge_mapValues]
  dsimp only
  rw [htotal, if_pos hfits]
  rfl

end Legacy

namespace Cgroup

namespace Controller

/-- How the files in a directory spell what a controller reports. -/
def WrittenIn (units : HostUnits) (tree : FileTree) (directory : Path) :
    (c : Controller) → c.Report → Prop
  | .legacyCpu => Legacy.Cpu.WrittenIn tree directory
  | .legacyCpuTime => Legacy.CpuTime.WrittenIn units tree directory
  | .legacyMemory => Legacy.Memory.WrittenIn tree directory
  | .legacyBlockIo => Legacy.BlockIo.WrittenIn tree directory
  | .legacyPids => PidsStat.WrittenIn tree directory
  | .unifiedCpu => Unified.Cpu.WrittenIn tree directory
  | .unifiedMemory => Unified.Memory.WrittenIn tree directory
  | .unifiedIo => Unified.Io.WrittenIn tree directory
  | .unifiedPids => PidsStat.WrittenIn tree directory

/-- A file that the controller cannot do without is absent. -/
def Lacks (units : HostUnits) (tree : FileTree) (directory : Path) (c : Controller) : Prop :=
  ∃ use ∈ c.uses units, use.need = .required ∧ tree.Absent (use.path directory)

/-- The files in a directory spell what the controller reports, or lack what it needs. -/
def Written (units : HostUnits) (tree : FileTree) (directory : Path) (c : Controller) :
    Option c.Report → Prop
  | none => c.Lacks units tree directory
  | some report => c.WrittenIn units tree directory report

variable {units : HostUnits} {c : Controller} {directory : Path} {w : World}

/-- Every controller is read as it is written in its directory. -/
private theorem outcome_read_of_writtenIn {report : c.Report}
    (h : c.WrittenIn units w.files directory report) :
    (c.read units .absent directory).outcome w = .ok report := by
  cases c with
  | legacyCpu => exact Legacy.Cpu.WrittenIn.outcome_read h
  | legacyCpuTime => exact Legacy.CpuTime.WrittenIn.outcome_read h
  | legacyMemory => exact Legacy.Memory.WrittenIn.outcome_read h
  | legacyBlockIo => exact Legacy.BlockIo.WrittenIn.outcome_read h
  | legacyPids => exact PidsStat.WrittenIn.outcome_read h
  | unifiedCpu => exact Unified.Cpu.WrittenIn.outcome_read h
  | unifiedMemory => exact Unified.Memory.WrittenIn.outcome_read h
  | unifiedIo => exact Unified.Io.WrittenIn.outcome_read h
  | unifiedPids => exact PidsStat.WrittenIn.outcome_read h

/-- A controller that lacks a file fails. -/
private theorem fails_of_lacks (h : c.Lacks units w.files directory) :
    (c.read units .absent directory).Fails w := by
  obtain ⟨use, huse, hneed, habsent⟩ := h
  by_contra hfails
  have hmet := ((c.reads units .absent directory).not_fails_iff w).mp hfails use huse
  rw [FileUse.Met, hneed] at hmet
  exact hmet.not_absent habsent

/-- A controller is reported as it is written. -/
theorem outcome_optional_of_written {ε : Type} {report : Option c.Report}
    (h : c.Written units w.files directory report) :
    (optional (c.read units .absent directory) : Probe ε (Option c.Report)).outcome w =
      .ok report := by
  cases report with
  | none =>
    obtain ⟨failure, hfailure⟩ := fails_of_lacks h
    rw [outcome_optional, hfailure]
  | some report =>
    rw [outcome_optional, outcome_read_of_writtenIn h]

/-- A controller is written where it is placed, and is not there if it is not placed. -/
def WrittenAt (units : HostUnits) (tree : FileTree) (placement : CgroupPlacement) (c : Controller)
    (report : Option c.Report) : Prop :=
  match c.directory? placement with
  | none => report = none
  | some directory => c.Written units tree directory report

/-- A subsystem of version 1 is read as it is written where it is placed, or as missing. -/
private theorem outcome_subsystem_of_written {ε : Type} {placement : CgroupPlacement}
    {name : String} (hname : c.subsystem? = some name) {report : Option c.Report}
    (h : c.WrittenAt units w.files placement report) :
    (Accounting.subsystem placement name (c.read units .absent) :
      Probe ε (Option c.Report)).outcome w = .ok report := by
  have hdirectory : c.directory? placement =
      (placement.subsystem? name.toList).map CgroupLocation.directory := by
    cases placement <;> simp [directory?, hname, CgroupPlacement.subsystem?]
  rw [WrittenAt, hdirectory] at h
  rw [Accounting.subsystem]
  cases hlocation : placement.subsystem? name.toList with
  | none =>
    rw [hlocation] at h
    obtain rfl : report = none := h
    rfl
  | some location =>
    rw [hlocation] at h
    exact outcome_optional_of_written h

end Controller

end Cgroup

/-- The controllers of version 2 are written in a directory. -/
structure UnifiedControllers.WrittenIn (units : HostUnits) (tree : FileTree) (directory : Path)
    (controllers : UnifiedControllers) : Prop where
  cpu : Controller.unifiedCpu.Written units tree directory controllers.cpu
  memory : Controller.unifiedMemory.Written units tree directory controllers.memory
  io : Controller.unifiedIo.Written units tree directory controllers.io
  pids : Controller.unifiedPids.Written units tree directory controllers.pids

/-- The subsystems of version 1 are written where they are placed. -/
structure LegacyControllers.WrittenAt (units : HostUnits) (tree : FileTree)
    (placement : CgroupPlacement) (controllers : LegacyControllers) : Prop where
  cpu : Controller.legacyCpu.WrittenAt units tree placement controllers.cpu
  cpuTime : Controller.legacyCpuTime.WrittenAt units tree placement controllers.cpuTime
  memory : Controller.legacyMemory.WrittenAt units tree placement controllers.memory
  blockIo : Controller.legacyBlockIo.WrittenAt units tree placement controllers.blockIo
  pids : Controller.legacyPids.WrittenAt units tree placement controllers.pids

namespace Cgroup

namespace Accounting

variable {accounting : Accounting}

/-- The controllers of version 2 are read exactly as they are written. -/
theorem outcome_readUnified_of_written {ε : Type} (hdevices : accounting.devices = .absent)
    {w : World} {location : CgroupLocation} {controllers : UnifiedControllers}
    (h : controllers.WrittenIn accounting.units w.files location.directory) :
    (accounting.readUnified location : Probe ε CgroupReading).outcome w =
      .ok (.ofControllers location.path (.v2 controllers)) := by
  rw [readUnified, hdevices]
  refine (outcome_bind_of_ok (Controller.outcome_optional_of_written h.cpu) _).trans ?_
  refine (outcome_bind_of_ok (Controller.outcome_optional_of_written h.memory) _).trans ?_
  refine (outcome_bind_of_ok (Controller.outcome_optional_of_written h.io) _).trans ?_
  exact outcome_bind_of_ok (Controller.outcome_optional_of_written h.pids) _

/-- The subsystems of version 1 are read exactly as they are written. -/
theorem outcome_readLegacy_of_written {ε : Type} (hdevices : accounting.devices = .absent)
    {w : World} {placement : CgroupPlacement} {controllers : LegacyControllers}
    (h : controllers.WrittenAt accounting.units w.files placement) :
    (accounting.readLegacy placement : Probe ε CgroupReading).outcome w =
      .ok (.ofControllers placement.path (.v1 controllers)) := by
  have hsubsystem {c : Controller} {name : String} (hname : c.subsystem? = some name)
      {report : Option c.Report} (h : c.WrittenAt accounting.units w.files placement report) :
      (subsystem placement name (c.read accounting.units .absent) :
        Probe ε (Option c.Report)).outcome w = .ok report :=
    Controller.outcome_subsystem_of_written hname h
  rw [readLegacy, hdevices]
  refine (outcome_bind_of_ok (hsubsystem rfl h.cpu) _).trans ?_
  refine (outcome_bind_of_ok (hsubsystem rfl h.cpuTime) _).trans ?_
  refine (outcome_bind_of_ok (hsubsystem rfl h.memory) _).trans ?_
  refine (outcome_bind_of_ok (hsubsystem rfl h.blockIo) _).trans ?_
  exact outcome_bind_of_ok (hsubsystem rfl h.pids) _

end Accounting

end Cgroup

end ProcessMeter
