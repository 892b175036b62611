import ProcessMeter.Proofs.FileReads

/-!
# The files of each controller

Each controller has its files, required or optional, in its own directory. One table lists them with
what they may contain. A controller is read exactly if its files are as the table wants them, and
what is read depends on these files only. An optional file may be missing, and a pressure file may
also be one that the kernel shows and does not support. Block devices are also named by the
directory of devices, but a device without a name is no obstacle.
-/

namespace ProcessMeter

open Probe

namespace DeviceDirectory

/-- Two file trees agree on what the directory of devices says about each device. -/
def AgreesOn (names : DeviceDirectory) (tree tree' : FileTree) : Prop :=
  ∀ directory, names.directory = some directory → ∀ major minor : Nat,
    let place := Path.join directory (Numeral.write major ++ ':' :: Numeral.write minor)
    tree.readLink place = tree'.readLink place ∧
      tree.readText (Path.join place "uevent".toList) =
        tree'.readText (Path.join place "uevent".toList)

variable {names : DeviceDirectory} {ε : Type} {w w' : World}

/-- A device always has a name: its token if need be. -/
theorem succeeds_name (device : BlockDevice) :
    (names.name device : Probe ε Text).Succeeds w ↔ True := by
  refine iff_of_true ?_ trivial
  unfold Succeeds
  rw [name, outcome_bind_of_ok (outcome_files w)]
  split
  · exact ⟨_, rfl⟩
  · exact ⟨_, outcome_bind_of_ok (outcome_log w _ _) _⟩

/-- A device has the same name in trees that agree on the devices. -/
theorem name_endsAlike (h : names.AgreesOn w.files w'.files) (device : BlockDevice) :
    (names.name device : Probe ε Text).EndsAlike w w' := by
  have hfind : names.find? w.files device.major device.minor =
      names.find? w'.files device.major device.minor := by
    unfold find?
    cases hdirectory : names.directory with
    | none => rfl
    | some directory =>
      obtain ⟨hlink, hdescription⟩ := h directory hdirectory device.major device.minor
      dsimp only at hlink hdescription ⊢
      rw [hlink, hdescription]
  rw [EndsAlike, name, outcome_bind_of_ok (outcome_files w), outcome_bind_of_ok (outcome_files w'),
    hfind]
  split <;> rfl

end DeviceDirectory

namespace Cgroup

/-- When a file of a controller has to be there. -/
inductive Need where
  /-- The controller cannot be read without the file. -/
  | required
  /-- The file may be missing. -/
  | optional
  /-- The file may be missing, or the kernel may not support it. -/
  | ifSupported
  /-- The file may be missing, and is not asked for where the one of the given name is missing. -/
  | beside (other : Text)

/-- A file of a controller. -/
structure FileUse where
  /-- The name of the file in the directory of the controller. -/
  name : Text
  /-- When it has to be there. -/
  need : Need
  /-- The contents that can be parsed. -/
  accepts : Lines → Prop

namespace FileUse

variable {α : Type}

/-- A file that has to be there. -/
def required (name : Text) (reader : LineReader α) : FileUse :=
  ⟨name, .required, LineReader.Accepts reader⟩

/-- A file that may be missing. -/
def optional (name : Text) (reader : LineReader α) : FileUse :=
  ⟨name, .optional, LineReader.Accepts reader⟩

/-- A pressure file. -/
def pressure (name : Text) : FileUse := ⟨name, .ifSupported, LineReader.Accepts Pressure.readLines⟩

/-- Where the file is. -/
def path (use : FileUse) (directory : Path) : Path := Path.join directory use.name

/-- The file is no obstacle: it can be read and parsed, or it may be missing and is, or it may be
unsupported and is, or it is not consulted. -/
def Met (use : FileUse) (tree : FileTree) (directory : Path) : Prop :=
  match use.need with
  | .required => tree.Holds (use.path directory) use.accepts
  | .optional => tree.Missing (use.path directory) ∨ tree.Holds (use.path directory) use.accepts
  | .ifSupported =>
    tree.Missing (use.path directory) ∨ tree.Unsupported (use.path directory) ∨
      tree.Holds (use.path directory) use.accepts
  | .beside other =>
    tree.Missing (Path.join directory other) ∨ tree.Missing (use.path directory) ∨
      tree.Holds (use.path directory) use.accepts

end FileUse

/-- The controllers of both versions. -/
inductive Controller where
  | legacyCpu
  | legacyCpuTime
  | legacyMemory
  | legacyBlockIo
  | legacyPids
  | unifiedCpu
  | unifiedMemory
  | unifiedIo
  | unifiedPids
  deriving DecidableEq, Repr

namespace Controller

/-- What a controller reports. -/
abbrev Report : Controller → Type
  | .legacyCpu => Legacy.Cpu
  | .legacyCpuTime => Legacy.CpuTime
  | .legacyMemory => Legacy.Memory
  | .legacyBlockIo => Legacy.BlockIo
  | .unifiedCpu => Unified.Cpu
  | .unifiedMemory => Unified.Memory
  | .unifiedIo => Unified.Io
  | .legacyPids | .unifiedPids => PidsStat

/-- Reads a controller in a cgroup directory. -/
def read (units : HostUnits) (names : DeviceDirectory) (directory : Path) :
    (c : Controller) → Probe PathFailure c.Report
  | .legacyCpu => Legacy.Cpu.read directory
  | .legacyCpuTime => Legacy.CpuTime.read units directory
  | .legacyMemory => Legacy.Memory.read directory
  | .legacyBlockIo => Legacy.BlockIo.read directory names
  | .legacyPids => PidsStat.read directory
  | .unifiedCpu => Unified.Cpu.read directory
  | .unifiedMemory => Unified.Memory.read directory
  | .unifiedIo => Unified.Io.read directory names
  | .unifiedPids => PidsStat.read directory

/-- The name of a file in a family of memory figures of version 1. -/
def familyFile (family name : String) : Text := family.toList ++ '.' :: name.toList

/-- What a family of memory figures has beside the usage. -/
def familyDetails (family : String) (need : Need) : List FileUse :=
  ["max_usage_in_bytes", "limit_in_bytes", "failcnt"].map fun name =>
    ⟨familyFile family name, need, LineReader.Accepts Scalar.readNumber⟩

/-- The files of a family of memory figures. The others are consulted only where the file of the
usage is there. -/
def familyUses (family : String) (need : Need) : List FileUse :=
  let usage := familyFile family "usage_in_bytes"
  ⟨usage, need, LineReader.Accepts Scalar.readNumber⟩ :: familyDetails family (.beside usage)

/-- A throttle file of block devices: each line gives a figure, or is blank or a grand total. -/
def throttleUse (name : String) : FileUse where
  name := name.toList
  need := .required
  accepts := Lines.EachFrom
    (fun number text => ∃ line, Legacy.DeviceColumn.readLine number text = .ok line) 1

/-- The file of block devices of version 2: each word of each line can be parsed. -/
def ioUse : FileUse where
  name := "io.stat".toList
  need := .required
  accepts := Lines.EachFrom
    (fun number text =>
      ∀ word ∈ Text.words text, ∃ said, Unified.IoWord.read number word = .ok said) 1

/-- The files of a controller. -/
def uses (units : HostUnits) : Controller → List FileUse
  | .legacyCpu => [
    .required "cpu.shares".toList Scalar.readNumber,
    .optional "cpu.cfs_period_us".toList Scalar.readNumber,
    .optional "cpu.cfs_quota_us".toList Scalar.readSigned,
    .optional "cpu.stat".toList Legacy.Throttling.readLines]
  | .legacyCpuTime => [
    .required "cpuacct.usage".toList Scalar.readNumber,
    .optional "cpuacct.stat".toList (Legacy.ModeTimes.readLines units),
    .optional "cpuacct.usage_percpu".toList Legacy.readProcessorTimes]
  | .legacyMemory =>
    familyUses "memory" .required ++
      (familyUses "memory.memsw" .optional ++
        (familyUses "memory.kmem" .optional ++
          [.required "memory.stat".toList Legacy.MemoryStat.readLines]))
  | .legacyBlockIo => [
    throttleUse "blkio.throttle.io_service_bytes",
    throttleUse "blkio.throttle.io_serviced"]
  | .unifiedCpu => [
    .required "cpu.stat".toList Unified.CpuStat.readLines,
    .optional "cpu.max".toList Unified.CpuLimit.readLines,
    .optional "cpu.weight".toList Scalar.readNumber,
    .pressure "cpu.pressure".toList]
  | .unifiedMemory => [
    .required "memory.current".toList Scalar.readNumber,
    .required "memory.stat".toList Unified.MemoryStat.readLines,
    .optional "memory.max".toList Scalar.readLimit,
    .optional "memory.high".toList Scalar.readLimit,
    .optional "memory.swap.current".toList Scalar.readNumber,
    .optional "memory.swap.max".toList Scalar.readLimit,
    .optional "memory.events".toList Unified.MemoryEvents.readLines,
    .pressure "memory.pressure".toList]
  | .unifiedIo => [
    ioUse,
    .pressure "io.pressure".toList]
  | .legacyPids | .unifiedPids => [
    .required "pids.current".toList Scalar.readNumber,
    .optional "pids.max".toList Scalar.readLimit]

/-- The directory of devices as far as a controller consults it. -/
def devices (names : DeviceDirectory) : Controller → DeviceDirectory
  | .legacyBlockIo | .unifiedIo => names
  | _ => .absent

end Controller

/-- Two file trees have the same files of the given uses in a directory. -/
def AgreeOn (uses : List FileUse) (directory : Path) (tree tree' : FileTree) : Prop :=
  ∀ use ∈ uses, tree.openFile (use.path directory) = tree'.openFile (use.path directory)

/-- A reading depends on the given files in a directory, and on nothing else but the names of
devices: whether it fails is a matter of these files alone. -/
structure Reads {α : Type} (names : DeviceDirectory) (uses : List FileUse) (directory : Path)
    (x : Probe PathFailure α) : Prop where
  /-- It fails unless every file is met. -/
  not_fails_iff (w : World) : ¬ x.Fails w ↔ ∀ use ∈ uses, use.Met w.files directory
  /-- It ends alike in file trees that agree on the files and the devices. -/
  endsAlike {w w' : World} (hnames : names.AgreesOn w.files w'.files)
    (huses : AgreeOn uses directory w.files w'.files) : x.EndsAlike w w'

namespace Reads

variable {α β : Type} {names : DeviceDirectory} {directory : Path}

/-- A value uses no file. -/
theorem pure (a : α) : Reads names [] directory (Pure.pure a) where
  not_fails_iff w := by simp [Probe.Fails]
  endsAlike _ _ := endsAlike_pure a

/-- An overflow uses no file. -/
theorem overflow : Reads names [] directory (Probe.overflow : Probe PathFailure α) where
  not_fails_iff w := by simp [Probe.Fails]
  endsAlike _ _ := endsAlike_overflow

/-- A sequence of two readings depends on the files of both. -/
theorem bind {uses more : List FileUse} {x : Probe PathFailure α} {f : α → Probe PathFailure β}
    (hx : Reads names uses directory x) (hnever : x.NeverOverflows)
    (hf : ∀ a, Reads names more directory (f a)) :
    Reads names (uses ++ more) directory (x >>= f) where
  not_fails_iff w := by
    rw [not_fails_bind hnever fun a _ => (hf a).not_fails_iff w, hx.not_fails_iff,
      List.forall_mem_append]
  endsAlike hnames huses := by
    obtain ⟨huses, hmore⟩ := List.forall_mem_append.mp huses
    exact (hx.endsAlike hnames huses).bind fun a => (hf a).endsAlike hnames hmore

/-- A reading of one file. -/
private theorem of_succeeds {use : FileUse} {x : Probe PathFailure α} (hnever : x.NeverOverflows)
    (hsucceeds : ∀ w, x.Succeeds w ↔ use.Met w.files directory)
    (halike : ∀ {w w'}, names.AgreesOn w.files w'.files →
      w.files.openFile (use.path directory) = w'.files.openFile (use.path directory) →
      x.EndsAlike w w') :
    Reads names [use] directory x where
  not_fails_iff w := by rw [hnever.not_fails_iff, hsucceeds, List.forall_mem_singleton]
  endsAlike hnames huses := halike hnames (huses use List.mem_cons_self)

variable {f : α → Probe PathFailure β} {more : List FileUse}

/-- A sequence starts with a file that has to be there. -/
theorem required (name : Text) {reader : LineReader α}
    (hf : ∀ a, Reads names more directory (f a)) :
    Reads names (.required name reader :: more) directory
      (Stat.read (Path.join directory name) reader >>= f) :=
  bind
    (of_succeeds (Stat.read_neverOverflows _ _) (fun _ => Stat.succeeds_read)
      fun _ huse => Stat.read_endsAlike huse reader)
    (Stat.read_neverOverflows _ _) hf

/-- A sequence starts with a file that may be missing. -/
theorem optional (name : Text) {reader : LineReader α} (hreader : LineReader.Honest reader)
    {f : Option α → Probe PathFailure β} (hf : ∀ a, Reads names more directory (f a)) :
    Reads names (.optional name reader :: more) directory
      (Stat.readOptional (Path.join directory name) reader >>= f) :=
  bind
    (of_succeeds (Stat.readOptional_neverOverflows _ _)
      (fun _ => Stat.succeeds_readOptional hreader)
      fun _ huse => Stat.readOptional_endsAlike huse reader)
    (Stat.readOptional_neverOverflows _ _) hf

/-- A sequence starts with a pressure file. -/
theorem pressureFile (name : Text) {f : Option Pressure → Probe PathFailure β}
    (hf : ∀ a, Reads names more directory (f a)) :
    Reads names (.pressure name :: more) directory
      (Pressure.read (Path.join directory name) >>= f) :=
  bind
    (of_succeeds (Pressure.read_neverOverflows _) (fun _ => Pressure.succeeds_read)
      fun _ huse => Pressure.read_endsAlike huse)
    (Pressure.read_neverOverflows _) hf

/-- A sequence starts with a file whose lines are read with the names of devices. -/
theorem ofLines (use : FileUse) (huse : use.need = .required)
    {reader : Lines → Probe ReadFailure α} (hnever : ∀ lines, (reader lines).NeverOverflows)
    (hsucceeds : ∀ lines w, (reader lines).Succeeds w ↔ use.accepts lines)
    (halike : ∀ lines {w w'}, names.AgreesOn w.files w'.files → (reader lines).EndsAlike w w')
    (hf : ∀ a, Reads names more directory (f a)) :
    Reads names (use :: more) directory (Stat.readWith (use.path directory) reader >>= f) := by
  refine bind (of_succeeds (Stat.readWith_neverOverflows _ hnever) (fun w => ?_) ?_)
    (Stat.readWith_neverOverflows _ hnever) hf
  · rw [Stat.succeeds_readWith fun lines => hsucceeds lines w, FileUse.Met, huse]
  · exact fun hnames hfile => Stat.readWith_endsAlike hfile fun lines => halike lines hnames

end Reads

end Cgroup

open Cgroup Cgroup.Controller Cgroup.Reads

/-- The numbers of processes are read from the files of their controller. -/
theorem PidsStat.reads (units : HostUnits) (names : DeviceDirectory) (directory : Path) :
    Reads names (uses units .legacyPids) directory (PidsStat.read directory) := by
  refine required _ fun current => ?_
  exact optional _ (Scalar.readFirst_honest _) fun limit => Reads.pure _

namespace Unified

variable (units : HostUnits) (names : DeviceDirectory) (directory : Path)

/-- The processor controller of version 2 reads its own files. -/
theorem Cpu.reads : Reads names (uses units .unifiedCpu) directory (Cpu.read directory) := by
  refine required _ fun stat => ?_
  refine optional _ (Scalar.readFirst_honest _) fun limit => ?_
  refine optional _ (Scalar.readFirst_honest _) fun weight => ?_
  exact pressureFile _ fun pressure => Reads.pure _

/-- The memory controller of version 2 reads its own files. -/
theorem Memory.reads :
    Reads names (uses units .unifiedMemory) directory (Memory.read directory) := by
  refine required _ fun usage => ?_
  refine required _ fun stat => ?_
  refine optional _ (Scalar.readFirst_honest _) fun limit => ?_
  refine optional _ (Scalar.readFirst_honest _) fun high => ?_
  refine optional _ (Scalar.readFirst_honest _) fun swapUsage => ?_
  refine optional _ (Scalar.readFirst_honest _) fun swapLimit => ?_
  refine optional _ (KeyTable.read_honest _ _) fun events => ?_
  exact pressureFile _ fun pressure => Reads.pure _

/-- The words of a line are read exactly if each of them can be parsed. -/
private theorem IoLine.succeeds_takeWords {number : Nat} {line : IoLine} {words : List Text}
    {w : World} :
    (takeWords names.name number line words).Succeeds w ↔
      ∀ word ∈ words, ∃ said, IoWord.read number word = .ok said := by
  induction words generalizing line with
  | nil => simpa [takeWords] using succeeds_pure line
  | cons word rest ih =>
    rw [takeWords, List.forall_mem_cons]
    split
    · next error herror => simp [herror, Succeeds]
    · next hword => simp [hword, ih]
    · next key value hword => simp [hword, ih]
    · next device hword =>
      rw [succeeds_bind fun name => ih, names.succeeds_name]
      simp [hword]

/-- The words of a line about devices depend on the devices only. -/
private theorem IoLine.takeWords_endsAlike {w w' : World}
    (hnames : names.AgreesOn w.files w'.files) {number : Nat} {line : IoLine}
    {words : List Text} : (takeWords names.name number line words).EndsAlike w w' := by
  induction words generalizing line with
  | nil => exact endsAlike_pure line
  | cons word rest ih =>
    rw [takeWords]
    split
    · exact endsAlike_fail _
    · exact ih
    · exact ih
    · exact (names.name_endsAlike hnames _).bind fun name => ih

/-- The device controller of version 2 reads its own files. -/
theorem Io.reads : Reads names (uses units .unifiedIo) directory (Io.read directory names) := by
  refine ofLines ioUse rfl (fun lines => ?_) (fun lines w => ?_) (fun lines {_ _} hnames => ?_)
    fun devices => pressureFile _ fun pressure => Reads.pure _
  · exact readIoLines_neverOverflows names lines
  · refine succeeds_carry (fun f => by simp [Succeeds]) (fun number text devices => ?_) 1 _ lines
    exact (succeeds_bind fun line => succeeds_pure _).trans (by simp [IoLine.succeeds_takeWords])
  · refine endsAlike_carry (fun _ => endsAlike_fail _) (fun number text _ => ?_) 1 _ lines
    exact (IoLine.takeWords_endsAlike names hnames).bind fun line => endsAlike_pure _

end Unified

namespace Legacy

variable (units : HostUnits) (names : DeviceDirectory) (directory : Path)

/-- The processor subsystem of version 1 reads its own files. -/
theorem Cpu.reads : Reads names (uses units .legacyCpu) directory (Cpu.read directory) := by
  refine required _ fun shares => ?_
  refine optional _ (Scalar.readFirst_honest _) fun period => ?_
  refine optional _ (Scalar.readFirst_honest _) fun quota => ?_
  exact optional _ (KeyTable.read_honest _ _) fun throttling => Reads.pure _

/-- The subsystem of processor times reads its own files. -/
theorem CpuTime.reads :
    Reads names (uses units .legacyCpuTime) directory (CpuTime.read units directory) := by
  refine required _ fun total => ?_
  refine optional _ (KeyTable.read_honest _ _) fun modes => ?_
  exact optional _ (Scalar.readFirst_honest _) fun processors => Reads.pure _

section Family

variable {family : String} {w : World}

/-- The file that says whether a family is accounted for. -/
private abbrev usageFile (family : String) : Path :=
  Path.join directory (familyFile family "usage_in_bytes")

/-- Details are not consulted without a usage. -/
private theorem details_met_of_missing (h : w.files.Missing (usageFile directory family)) :
    ∀ use ∈ familyDetails family (.beside (familyFile family "usage_in_bytes")),
      use.Met w.files directory := by
  simp [familyDetails, FileUse.Met, h]

/-- Beside a usage the details are ordinary optional files. -/
private theorem details_met_of_present (h : ¬ w.files.Missing (usageFile directory family)) :
    (∀ use ∈ familyDetails family (.beside (familyFile family "usage_in_bytes")),
      use.Met w.files directory) ↔
      ∀ use ∈ familyDetails family .optional, use.Met w.files directory := by
  simp [familyDetails, FileUse.Met, FileUse.path, h]

namespace MemoryFamily

/-- Reads the details of a family whose usage is known. -/
private def readDetails (directory : Path) (family : String) (usage : Nat) :
    Probe PathFailure (Option MemoryFamily) := do
  let file (name : String) := Path.join directory (familyFile family name)
  let peak ← Stat.readOptional (file "max_usage_in_bytes") Scalar.readNumber
  let limit ← Stat.readOptional (file "limit_in_bytes") Scalar.readNumber
  let failures ← Stat.readOptional (file "failcnt") Scalar.readNumber
  pure (some { usage, peak, limit, failures })

/-- A family is read by its usage first, and by its other files if there is one. -/
private theorem read?_eq :
    read? directory family =
      Stat.readOptional (usageFile directory family) Scalar.readNumber >>= fun usage =>
        match usage with
        | none => pure none
        | some usage => readDetails directory family usage := rfl

/-- The other files of a family are those beside its usage. -/
private theorem readDetails_reads (usage : Nat) :
    Reads names (familyDetails family .optional) directory
      (readDetails directory family usage) := by
  refine optional _ (Scalar.readFirst_honest _) fun peak => ?_
  refine optional _ (Scalar.readFirst_honest _) fun limit => ?_
  exact optional _ (Scalar.readFirst_honest _) fun failures => Reads.pure _

/-- Without its usage a family is left out. -/
private theorem outcome_read?_of_missing (h : w.files.Missing (usageFile directory family)) :
    (read? directory family).outcome w = .ok none := by
  have husage := Stat.outcome_readOptional_of_missing Scalar.readNumber_honest h
  rw [read?_eq, outcome_bind_of_ok husage, outcome_pure]

/-- A family with a usage is accounted for. -/
private theorem exists_usage_of_present (h : ¬ w.files.Missing (usageFile directory family))
    {usage : Option Nat}
    (husage : (Stat.readOptional (usageFile directory family) Scalar.readNumber).outcome w =
      .ok usage) : ∃ n, usage = some n := by
  rw [Stat.outcome_readOptional_of_present Scalar.readNumber_honest h] at husage
  cases hread : (Stat.read (usageFile directory family) Scalar.readNumber).outcome w with
  | error fault => simp [hread, Except.map] at husage
  | ok n => exact ⟨n, by simpa [hread, Except.map] using husage.symm⟩

/-- An optional family reads its own files. -/
theorem read?_reads :
    Reads names (familyUses family .optional) directory (read? directory family) where
  not_fails_iff w := by
    rw [familyUses, List.forall_mem_cons]
    by_cases hmissing : w.files.Missing (usageFile directory family)
    · refine iff_of_true ?_ ⟨Or.inl hmissing, details_met_of_missing directory hmissing⟩
      simp [Fails, outcome_read?_of_missing directory hmissing]
    · rw [details_met_of_present directory hmissing, read?_eq,
        not_fails_bind (Stat.readOptional_neverOverflows _ _) fun usage husage => ?_,
        (Stat.readOptional_neverOverflows _ _).not_fails_iff,
        Stat.succeeds_readOptional Scalar.readNumber_honest]
      · exact Iff.rfl
      · obtain ⟨n, rfl⟩ := exists_usage_of_present directory hmissing husage
        exact (readDetails_reads names directory n).not_fails_iff w
  endsAlike hnames huses := by
    obtain ⟨husage, hdetails⟩ := List.forall_mem_cons.mp huses
    refine (Stat.readOptional_endsAlike husage _).bind fun usage => ?_
    cases usage with
    | none => exact endsAlike_pure _
    | some usage =>
      refine (readDetails_reads names directory usage).endsAlike hnames ?_
      simpa [AgreeOn, familyDetails, FileUse.path] using hdetails

/-- Reads a family that has to be accounted for. -/
private def readRequired (directory : Path) (family : String) (failure : PathFailure) :
    Probe PathFailure MemoryFamily := do
  match ← read? directory family with
  | none => Probe.fail failure
  | some found => pure found

/-- A family with a usage that is read is there. -/
private theorem exists_family_of_present (h : ¬ w.files.Missing (usageFile directory family))
    {found : Option MemoryFamily} (hfound : (read? directory family).outcome w = .ok found) :
    ∃ memory, found = some memory := by
  rw [read?_eq] at hfound
  obtain ⟨usage, husage, hfound⟩ := outcome_bind_eq_ok.mp hfound
  obtain ⟨n, rfl⟩ := exists_usage_of_present directory h husage
  obtain ⟨peak, -, hfound⟩ := outcome_bind_eq_ok.mp hfound
  obtain ⟨limit, -, hfound⟩ := outcome_bind_eq_ok.mp hfound
  obtain ⟨failures, -, hfound⟩ := outcome_bind_eq_ok.mp hfound
  exact ⟨_, (Except.ok.inj hfound).symm⟩

/-- Reading the family that has to be there never overflows. -/
private theorem readRequired_neverOverflows (failure : PathFailure) :
    (readRequired directory family failure).NeverOverflows := by
  refine (read?_neverOverflows directory family).bind fun found => ?_
  cases found with
  | none => exact neverOverflows_fail _
  | some memory => exact neverOverflows_pure _

/-- The family that has to be there reads its own files. -/
private theorem readRequired_reads (failure : PathFailure) :
    Reads names (familyUses family .required) directory
      (readRequired directory family failure) where
  not_fails_iff w := by
    have hread : ¬ (read? directory family).Fails w ↔ _ :=
      (read?_reads names directory).not_fails_iff w
    rw [familyUses, List.forall_mem_cons] at hread ⊢
    by_cases hmissing : w.files.Missing (usageFile directory family)
    · refine iff_of_false (not_not_intro ⟨failure, ?_⟩) fun h =>
        Stat.not_failsAs_of_holds Scalar.readNumber_honest h.1 _ hmissing
      rw [readRequired, outcome_bind_of_ok (outcome_read?_of_missing directory hmissing),
        outcome_fail]
    · rw [readRequired,
        not_fails_bind (read?_neverOverflows directory family) fun found hfound => ?_, hread,
        and_true]
      · exact and_congr_left' (or_iff_right hmissing)
      · obtain ⟨memory, rfl⟩ := exists_family_of_present directory hmissing hfound
        simp [Fails]
  endsAlike hnames huses := by
    obtain ⟨husage, hdetails⟩ := List.forall_mem_cons.mp huses
    have hfamily := (read?_reads names directory).endsAlike hnames
      (List.forall_mem_cons.mpr ⟨husage, hdetails⟩)
    refine hfamily.bind fun found => ?_
    cases found with
    | none => exact endsAlike_fail _
    | some memory => exact endsAlike_pure _

end MemoryFamily

/-- A family that has to be there comes first. -/
private theorem Memory.read_eq :
    Memory.read directory = (do
      let memory ← MemoryFamily.readRequired directory "memory"
        ⟨Path.join directory "memory.usage_in_bytes".toList, .file .missingEntity⟩
      let withSwap ← MemoryFamily.read? directory "memory.memsw"
      let kernel ← MemoryFamily.read? directory "memory.kmem"
      let stat ← Stat.read (Path.join directory "memory.stat".toList) MemoryStat.readLines
      pure { memory, withSwap, kernel, stat }) := by
  rw [Memory.read, MemoryFamily.readRequired, bind_assoc]
  refine congrArg _ (funext fun found => ?_)
  cases found <;> rfl

/-- The memory subsystem of version 1 reads its own files. -/
theorem Memory.reads :
    Reads names (uses units .legacyMemory) directory (Memory.read directory) := by
  rw [Memory.read_eq]
  refine (MemoryFamily.readRequired_reads names directory _).bind
    (MemoryFamily.readRequired_neverOverflows _ _) fun memory => ?_
  refine (MemoryFamily.read?_reads names directory).bind
    (MemoryFamily.read?_neverOverflows _ _) fun withSwap => ?_
  refine (MemoryFamily.read?_reads names directory).bind
    (MemoryFamily.read?_neverOverflows _ _) fun kernel => ?_
  exact required _ fun stat => Reads.pure _

end Family

namespace DeviceColumn

/-- A throttle file is read exactly if each of its lines can be parsed. -/
private theorem succeeds_readLines {lines : Lines} {w : World} :
    (readLines names.name lines).Succeeds w ↔
      lines.EachFrom (fun number text => ∃ line, readLine number text = .ok line) 1 := by
  refine succeeds_carry (fun f => by simp [Succeeds]) (fun number text columns => ?_) 1 _ lines
  unfold takeLine
  split
  · next error herror => simp [Succeeds, herror]
  · next hline => simp [Succeeds, hline]
  · next device operation value hline =>
    rw [succeeds_bind fun name => succeeds_pure _, names.succeeds_name]
    simp [hline]

/-- The lines about throttled operations depend on the devices only. -/
private theorem readLines_endsAlike {lines : Lines} {w w' : World}
    (hnames : names.AgreesOn w.files w'.files) : (readLines names.name lines).EndsAlike w w' := by
  refine endsAlike_carry (fun _ => endsAlike_fail _) (fun number text columns => ?_) 1 _ lines
  unfold takeLine
  split
  · exact endsAlike_fail _
  · exact endsAlike_pure _
  · exact (names.name_endsAlike hnames _).bind fun name => endsAlike_pure _

/-- A sequence starts with a throttle file. -/
private theorem readWith_reads {α : Type} (name : String) {more : List FileUse}
    {f : TextMap DeviceColumn → Probe PathFailure α} (hf : ∀ a, Reads names more directory (f a)) :
    Reads names (throttleUse name :: more) directory
      (Stat.readWith (Path.join directory name.toList) (readLines names.name) >>= f) :=
  ofLines (throttleUse name) rfl (readLines_neverOverflows names)
    (fun _ _ => succeeds_readLines names)
    (fun _ {_ _} hnames => readLines_endsAlike names hnames) hf

end DeviceColumn

/-- The block device subsystem of version 1 reads its own files, and the names of devices. -/
theorem BlockIo.reads :
    Reads names (uses units .legacyBlockIo) directory (BlockIo.read directory names) := by
  refine DeviceColumn.readWith_reads names directory _ fun bytes => ?_
  refine DeviceColumn.readWith_reads names directory _ fun operations => ?_
  dsimp only
  split
  · exact Reads.pure _
  · exact Reads.overflow

end Legacy

/-- The reading of every controller depends on its own files, and on the directory of devices where
that is consulted. -/
theorem Cgroup.Controller.reads (units : HostUnits) (names : DeviceDirectory) (directory : Path)
    (c : Controller) :
    Reads (c.devices names) (c.uses units) directory (c.read units names directory) := by
  cases c with
  | legacyCpu => exact Legacy.Cpu.reads units _ directory
  | legacyCpuTime => exact Legacy.CpuTime.reads units _ directory
  | legacyMemory => exact Legacy.Memory.reads units _ directory
  | legacyBlockIo => exact Legacy.BlockIo.reads units names directory
  | legacyPids => exact PidsStat.reads units _ directory
  | unifiedCpu => exact Unified.Cpu.reads units _ directory
  | unifiedMemory => exact Unified.Memory.reads units _ directory
  | unifiedIo => exact Unified.Io.reads units names directory
  | unifiedPids => exact PidsStat.reads units _ directory

end ProcessMeter
