import ProcessMeter.Proofs.KernelSampler
import ProcessMeter.Proofs.MountTables
import ProcessMeter.Proofs.RootExclusion
import ProcessMeter.Proofs.SpelledDevices

/-!
# First mounts

The records of a mount table are gone through in order. The first one of the unified hierarchy says
where that is, and for each subsystem the first one that binds it says where it is found. What is
found does not change with what comes behind it, nor with mounts of other kinds.
-/

namespace ProcessMeter

open Text

namespace Text

/-- The test for a beginning finds exactly the beginnings. -/
theorem startsWith_iff {start t : Text} : startsWith start t = true ↔ start <+: t := by
  rw [startsWith, Option.isSome_iff_exists]
  simp only [dropStart?_eq_some]
  exact exists_congr fun _ => eq_comm

/-- A line end is blank. -/
theorem trimEnd_chomp (line : Text) : trimEnd (chomp line) = trimEnd line := by
  have hreverse : (chomp line).reverse.dropWhile isBlank = line.reverse.dropWhile isBlank := by
    unfold chomp
    split
    · next rest h =>
      rw [h, List.reverse_reverse]
      rfl
    · next rest _ h =>
      rw [h, List.reverse_reverse]
      rfl
    · rfl
  exact congrArg List.reverse hreverse

/-- A text is blank exactly if nothing is left without the white space at its end. -/
private theorem trim_eq_nil_iff_trimEnd {t : Text} : trim t = [] ↔ trimEnd t = [] :=
  trim_eq_nil_iff.trans trimEnd_eq_nil_iff.symm

end Text

section First

variable {σ α β : Type} {step : σ → α → σ} {p q : α → Prop} [DecidablePred p] [DecidablePred q]
  {value : α → β}

/-- If what is known stays and is added where it is missing, then what comes first is known. -/
theorem foldl_first (known : σ → Option β)
    (hstep : ∀ s a, known (step s a) = (known s).or (if p a then some (value a) else none))
    (xs : List α) (s : σ) :
    known (xs.foldl step s) = (known s).or ((xs.find? fun a => p a).map value) := by
  induction xs generalizing s with
  | nil => simp
  | cons x rest ih =>
    rw [List.foldl_cons, ih, hstep, Option.or_assoc, List.find?_cons]
    by_cases h : p x <;> simp [h]

/-- What comes first is the same without the elements that are never meant. -/
theorem find?_filter_of_imp (hpq : ∀ a, p a → q a) (xs : List α) :
    (xs.filter fun a => q a).find? (fun a => p a) = xs.find? fun a => p a := by
  rw [List.find?_filter]
  congr
  funext a
  by_cases ha : p a <;> simp [ha, hpq]

end First

namespace MountRecord

/-- The option names a subsystem: it is none of the others, and if it has a value then it is the
name of a hierarchy. -/
def NamesSubsystem (option : Text) : Prop :=
  option ∉ ["rw", "ro", "noprefix", "xattr", "clone_children", "cpuset_v2_mode"].map String.toList ∧
    ('=' ∉ option ∨ "name=".toList <+: option)

instance : DecidablePred NamesSubsystem := fun _ => inferInstanceAs (Decidable (_ ∧ _))

/-- An option names a subsystem exactly if it passes the test for one. -/
theorem isSubsystem_iff {option : Text} : isSubsystem option = true ↔ NamesSubsystem option := by
  have hnames : NamesSubsystem option ↔
      option ∉ plainOptions ∧ ('=' ∉ option ∨ namedHierarchy <+: option) := Iff.rfl
  simp [hnames, isSubsystem, startsWith_iff]

/-- The record binds the subsystem. -/
def Binds (record : MountRecord) (name : Text) : Prop :=
  record.fileSystem = "cgroup".toList ∧ name ∈ record.optionList ∧ NamesSubsystem name

instance (record : MountRecord) (name : Text) : Decidable (record.Binds name) :=
  inferInstanceAs (Decidable (_ ∧ _))

/-- A mount binds the subsystems among its options, if it is of version 1. -/
theorem binds_iff {record : MountRecord} {name : Text} :
    record.Binds name ↔ record.isLegacy = true ∧ name ∈ record.subsystems := by
  simp [Binds, isLegacy, MountRecord.subsystems, isSubsystem_iff]

/-- The record is of the unified hierarchy. -/
def Unifies (record : MountRecord) : Prop := record.fileSystem = "cgroup2".toList

instance : DecidablePred Unifies := fun _ => inferInstanceAs (Decidable (_ = _))

/-- A mount carries the unified hierarchy exactly if it is of version 2. -/
theorem unifies_iff {record : MountRecord} : record.Unifies ↔ record.isUnified = true := by
  simp [Unifies, isUnified]

/-- The record is of a cgroup hierarchy. -/
def OfCgroup (record : MountRecord) : Prop :=
  record.fileSystem = "cgroup2".toList ∨ record.fileSystem = "cgroup".toList

instance : DecidablePred OfCgroup := fun _ => inferInstanceAs (Decidable (_ ∨ _))

/-- A mount of the unified hierarchy is one of cgroups, -/
theorem Unifies.ofCgroup {record : MountRecord} (h : record.Unifies) : record.OfCgroup := .inl h

/-- and so is one that binds a subsystem. -/
theorem Binds.ofCgroup {record : MountRecord} {name : Text} (h : record.Binds name) :
    record.OfCgroup := .inr h.1

/-- The records on lines in order. -/
def onLines (lines : List Text) : List MountRecord :=
  lines.filterMap fun line => (read (trimEnd line)).toOption

/-- A line is blank or describes a mount. -/
def Legible (line : Text) : Prop := trim line = [] ∨ ∃ record, read (trimEnd line) = .ok record

/-- Where all lines are legible their records are read. -/
theorem readLines_eq_onLines (path : Path) {rawLines : List Text}
    (hlegible : ∀ line ∈ rawLines.map chomp, Legible line) :
    readLines path (rawLines.map .ok) = .ok (onLines (rawLines.map chomp)) := by
  induction rawLines with
  | nil => rfl
  | cons line rest ih =>
    obtain ⟨hline, hrest⟩ := List.forall_mem_cons.mp hlegible
    have ih := ih hrest
    simp only [Legible, trim_eq_nil_iff_trimEnd, trimEnd_chomp] at hline
    simp only [List.map_cons, readLines, onLines, List.filterMap_cons, trimEnd_chomp,
      List.isEmpty_iff, trim_eq_nil_iff_trimEnd]
    rcases hline with hblank | ⟨record, hrecord⟩
    · rw [if_pos hblank, hblank]
      exact ih
    · have hne : trimEnd line ≠ [] := fun hnil => by
        rw [hnil] at hrecord
        cases hrecord
      rw [if_neg hne, hrecord, ih]
      rfl

end MountRecord

namespace CgroupMounts

open MountRecord

variable {rootfs : Path} {mounts : CgroupMounts} {records : List MountRecord}

/-- Among mounts of records those are known that come first. -/
structure AreFirst (rootfs : Path) (records : List MountRecord) (mounts : CgroupMounts) : Prop where
  /-- The unified hierarchy is where the first record has it. -/
  unified : mounts.unified = (records.find? fun record => record.Unifies).map (cgroupMount rootfs)
  /-- Just those subsystems are known that some record binds. -/
  keys : ∀ name, name ∈ mounts.subsystems.keys ↔ ∃ record ∈ records, record.Binds name
  /-- Each is where the first record that binds it has it. -/
  subsystems : ∀ name, mounts.subsystems.get? name =
    (records.find? fun record => record.Binds name).map (cgroupMount rootfs)

/-- Of all records that bring a hierarchy the first one counts. -/
theorem areFirst_ofRecords (rootfs : Path) (records : List MountRecord) :
    AreFirst rootfs records (ofRecords rootfs records) := by
  have hunified : (ofRecords rootfs records).unified =
      (records.find? fun record => record.Unifies).map (cgroupMount rootfs) := by
    refine foldl_first (p := fun record => record.Unifies) CgroupMounts.unified
      (fun mounts record => ?_) records CgroupMounts.none
    simp only [unified_add, unifies_iff]
  have hsubsystems (name : Text) : (ofRecords rootfs records).subsystems.get? name =
      (records.find? fun record => record.Binds name).map (cgroupMount rootfs) := by
    refine foldl_first (p := fun record => record.Binds name)
      (fun mounts => mounts.subsystems.get? name) (fun mounts record => ?_) records
      CgroupMounts.none
    simp only [get?_add, binds_iff]
  refine ⟨hunified, fun name => ?_, hsubsystems⟩
  rw [TextMap.mem_keys_iff, hsubsystems, Option.isSome_map, List.find?_isSome]
  simp

namespace AreFirst

variable {mounts' : CgroupMounts} {more : List MountRecord}

/-- There is one collection of first mounts only. -/
theorem unique (h : AreFirst rootfs records mounts) (h' : AreFirst rootfs records mounts') :
    mounts = mounts' := by
  have hunified : mounts.unified = mounts'.unified := h.unified.trans h'.unified.symm
  have hsubsystems : mounts.subsystems = mounts'.subsystems :=
    TextMap.ext_get? fun name => (h.subsystems name).trans (h'.subsystems name).symm
  cases mounts
  cases mounts'
  simp_all

/-- No mounts are known exactly if there is no record of a hierarchy. -/
theorem isEmpty_iff (h : AreFirst rootfs records mounts) :
    mounts.isEmpty = true ↔ ∀ record ∈ records, ¬ record.Unifies ∧ ∀ name, ¬ record.Binds name := by
  rw [CgroupMounts.isEmpty, Bool.and_eq_true, Option.isNone_iff_eq_none, TextMap.isEmpty_iff,
    h.unified]
  simp only [h.subsystems, Option.map_eq_none_iff, List.find?_eq_none, decide_eq_true_eq]
  constructor
  · rintro ⟨hunified, hsubsystems⟩ record hrecord
    exact ⟨hunified record hrecord, fun name => hsubsystems name record hrecord⟩
  · intro hnone
    exact ⟨fun record hrecord => (hnone record hrecord).1,
      fun name record hrecord => (hnone record hrecord).2 name⟩

/-- Records of other file systems do not matter. -/
theorem of_filter (h : AreFirst rootfs (records.filter fun record => record.OfCgroup) mounts) :
    AreFirst rootfs records mounts where
  unified := by rw [h.unified, find?_filter_of_imp fun _ => Unifies.ofCgroup]
  keys name := by
    rw [h.keys]
    constructor
    · rintro ⟨record, hrecord, hname⟩
      exact ⟨record, (List.mem_filter.mp hrecord).1, hname⟩
    · rintro ⟨record, hrecord, hname⟩
      exact ⟨record, List.mem_filter.mpr ⟨hrecord, by simpa using hname.ofCgroup⟩, hname⟩
  subsystems name := by rw [h.subsystems, find?_filter_of_imp fun _ => Binds.ofCgroup]

/-- What is known stays known with more records behind. -/
theorem append (h : AreFirst rootfs records mounts)
    (h' : AreFirst rootfs (records ++ more) mounts') :
    (∀ mount, mounts.unified = some mount → mounts'.unified = some mount) ∧
      ∀ name mount, mounts.subsystems.get? name = some mount →
        mounts'.subsystems.get? name = some mount := by
  constructor
  · intro mount hmount
    rw [h.unified] at hmount
    rw [h'.unified, List.find?_append, Option.map_or, hmount, Option.some_or]
  · intro name mount hmount
    rw [h.subsystems] at hmount
    rw [h'.subsystems, List.find?_append, Option.map_or, hmount, Option.some_or]

end AreFirst

/-- The file at a path holds a mount table each of whose lines is legible. -/
structure HoldsTable (path : Path) (w : World) (text : Text) : Prop where
  content : w.files.openFile path = .ok (.content (encode text))
  legible : ∀ line ∈ lines text, Legible line

section Tables

variable {path : Path} {w w' : World} {text other : Text}

/-- The result of reading a table: the mounts that come first, if there are any. -/
private theorem exists_areFirst (rootfs : Path) (h : HoldsTable path w text) :
    ∃ mounts, AreFirst rootfs (onLines (lines text)) mounts ∧
      (readTable path rootfs).outcome w =
        if mounts.isEmpty then .error (.failed (.noCgroups path)) else .ok mounts := by
  refine ⟨ofRecords rootfs (onLines (lines text)), areFirst_ofRecords rootfs _, ?_⟩
  have hrecords : readLines path (Lines.ofText text) = .ok (onLines (lines text)) :=
    readLines_eq_onLines path h.legible
  rw [outcome_readTable, h.content]
  simp only [Lines.ofOpened, Lines.ofBytes_encode, hrecords]

/-- Mounts are missing exactly if no line brings any. -/
private theorem readTable_eq_noCgroups_iff (h : HoldsTable path w text) :
    (readTable path rootfs).outcome w = .error (.failed (.noCgroups path)) ↔
      ∀ record ∈ onLines (lines text), ¬ record.Unifies ∧ ∀ name, ¬ record.Binds name := by
  obtain ⟨mounts, hfirst, hread⟩ := exists_areFirst rootfs h
  rw [hread, ← hfirst.isEmpty_iff]
  split <;> simp [*]

/-- Tables with the same records of hierarchies are read alike. -/
private theorem readTable_of_filter (h : HoldsTable path w text) (h' : HoldsTable path w' other)
    (hsame : (onLines (lines other)).filter (fun record => record.OfCgroup) =
      (onLines (lines text)).filter fun record => record.OfCgroup) :
    (readTable path rootfs).outcome w' = (readTable path rootfs).outcome w := by
  obtain ⟨mounts, hfirst, hread⟩ := exists_areFirst rootfs h
  obtain ⟨mounts', hfirst', hread'⟩ := exists_areFirst rootfs h'
  have hfiltered := areFirst_ofRecords rootfs
    ((onLines (lines text)).filter fun record => record.OfCgroup)
  have hmounts : mounts' = mounts := by
    rw [hfirst.unique hfiltered.of_filter]
    rw [← hsame] at hfiltered ⊢
    exact hfirst'.unique hfiltered.of_filter
  rw [hread, hread', hmounts]

/-- More lines behind a table in which mounts are found do not change these. -/
private theorem exists_of_append {more : List Text} {mounts : CgroupMounts}
    (h : HoldsTable path w text) (h' : HoldsTable path w' other)
    (hlines : lines other = lines text ++ more)
    (hread : (readTable path rootfs).outcome w = .ok mounts) :
    ∃ mounts', (readTable path rootfs).outcome w' = .ok mounts' ∧
      (∀ mount, mounts.unified = some mount → mounts'.unified = some mount) ∧
      ∀ name mount, mounts.subsystems.get? name = some mount →
        mounts'.subsystems.get? name = some mount := by
  have hrecords : onLines (lines other) = onLines (lines text) ++ onLines more := by
    rw [hlines, onLines, List.filterMap_append]
    rfl
  obtain ⟨found, hfirst, hfound⟩ := exists_areFirst rootfs h
  obtain ⟨mounts', hfirst', hread'⟩ := exists_areFirst rootfs h'
  rw [hrecords] at hfirst'
  rw [hread] at hfound
  split at hfound
  · cases hfound
  · next hsome =>
    obtain rfl := Except.ok.inj hfound
    have hsome' : ¬ mounts'.isEmpty = true := by
      rw [hfirst'.isEmpty_iff]
      intro hnone
      exact hsome (hfirst.isEmpty_iff.mpr fun record hrecord =>
        hnone record (List.mem_append_left _ hrecord))
    rw [if_neg hsome'] at hread'
    exact ⟨mounts', hread', hfirst.append hfirst'⟩

/-- **First mounts.** No mounts are found in a table exactly if it has no record of a hierarchy.
Otherwise those are found that come first. Blank lines and mounts of other file systems make no
difference, and what is found stays with more lines behind. -/
theorem readTable_first (path rootfs : Path) (w : World) (text : Text)
    (h : HoldsTable path w text) :
    let read (w : World) := (readTable path rootfs).outcome w
    let records := onLines (lines text)
    (read w = .error (.failed (.noCgroups path)) ↔
        ∀ record ∈ records, ¬ record.Unifies ∧ ∀ name, ¬ record.Binds name) ∧
      ((∃ record ∈ records, record.Unifies ∨ ∃ name, record.Binds name) →
        ∃ mounts, read w = .ok mounts ∧ AreFirst rootfs records mounts) ∧
      (∀ w' other, HoldsTable path w' other →
        (onLines (lines other)).filter (fun record => record.OfCgroup) =
          records.filter (fun record => record.OfCgroup) → read w' = read w) ∧
      ∀ w' other more, HoldsTable path w' other → lines other = lines text ++ more →
        ∀ mounts, read w = .ok mounts → ∃ mounts', read w' = .ok mounts' ∧
          (∀ mount, mounts.unified = some mount → mounts'.unified = some mount) ∧
          ∀ name mount, mounts.subsystems.get? name = some mount →
            mounts'.subsystems.get? name = some mount := by
  intro read records
  refine ⟨readTable_eq_noCgroups_iff h, ?_, fun w' other h' => readTable_of_filter h h',
    fun w' other more h' hlines mounts => exists_of_append h h' hlines⟩
  rintro ⟨record, hrecord, hcgroup⟩
  obtain ⟨mounts, hfirst, hread⟩ := exists_areFirst rootfs h
  have hsome : ¬ mounts.isEmpty = true := by
    rw [hfirst.isEmpty_iff]
    intro hnone
    obtain ⟨hunifies, hbinds⟩ := hnone record hrecord
    exact hcgroup.elim hunifies fun ⟨name, hname⟩ => hbinds name hname
  exact ⟨mounts, hread.trans (if_neg hsome), hfirst⟩

open KernelSampler in
/-- The processor controller is mounted twice, once together with its accounting, and so is the
unified hierarchy. -/
theorem readTable_first_twice :
    let path : Path := "/proc/1/mountinfo".toList
    let text := "1 0 0:1 / /a\\040b rw - cgroup c rw,cpu,cpuacct\n\n".toList ++
      "2 0 0:2 /job /c rw - cgroup c rw,cpu,name=s\n".toList ++
      "3 0 0:3 / /u rw - cgroup2 c rw\n4 0 0:3 / /v rw - cgroup2 c rw\n".toList
    let w : World := ⟨kernelTree [(Text.items '/' "proc/1/mountinfo".toList,
      .file (Text.encode text))], ⟨0⟩⟩
    HoldsTable path w text ∧ ∃ mounts, (readTable path "/host".toList).outcome w = .ok mounts ∧
      AreFirst "/host".toList (onLines (lines text)) mounts ∧
      mounts.unified = some ⟨"/host/u".toList, "/".toList⟩ ∧
      mounts.subsystems.get? "cpu".toList = some ⟨"/host/a b".toList, "/".toList⟩ ∧
      mounts.subsystems.get? "name=s".toList = some ⟨"/host/c".toList, "/job".toList⟩ := by
  intro path text w
  have hcontent : w.files.openFile path = .ok (.content (encode text)) := by decide +kernel
  have hlines : lines text = ["1 0 0:1 / /a\\040b rw - cgroup c rw,cpu,cpuacct".toList, [],
      "2 0 0:2 /job /c rw - cgroup c rw,cpu,name=s".toList,
      "3 0 0:3 / /u rw - cgroup2 c rw".toList, "4 0 0:3 / /v rw - cgroup2 c rw".toList] := by
    decide +kernel
  have htable : HoldsTable path w text := by
    refine ⟨hcontent, ?_⟩
    have hlegible : ∀ line ∈ lines text, trim line = [] ∨
        (MountRecord.read (trimEnd line)).toOption.isSome := by
      rw [hlines]
      decide +kernel
    intro line hline
    refine (hlegible line hline).imp_right fun hsome => ?_
    cases hread : MountRecord.read (trimEnd line) with
    | error error => simp [hread, Except.toOption] at hsome
    | ok record => exact ⟨record, rfl⟩
  have hrecord : ∃ record ∈ onLines (lines text), record.Unifies := by
    rw [hlines]
    decide +kernel
  obtain ⟨record, hrecord, hunifies⟩ := hrecord
  obtain ⟨mounts, hread, hfirst⟩ := (readTable_first path "/host".toList w text htable).2.1
    ⟨record, hrecord, .inl hunifies⟩
  refine ⟨htable, mounts, hread, hfirst, ?_⟩
  rw [hfirst.unified, hfirst.subsystems, hfirst.subsystems, hlines]
  decide +kernel

end Tables

end CgroupMounts

end ProcessMeter
