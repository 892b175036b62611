import ProcessMeter.Proofs.BatchAlone
import ProcessMeter.Proofs.StateGrammar

/-!
# The state line that the kernel prints

The kernel prints the state of a process as its number, its name in parentheses, a letter, and
numbers. The name is whatever octets the process has chosen. Read back, the line gives the identity
of the process, whatever parentheses, blanks or line feeds its name holds. Two things are in the
way: a name that is not UTF-8, and a parent or group that is negative. A process that shows one of
them has no identity, and it is missing wherever processes are listed.
-/

namespace ProcessMeter

/-- What the kernel prints on the state line of a process behind its name, and its number. -/
structure StateLine where
  /-- The number of the process. -/
  pid : Nat
  /-- What it is doing. -/
  letter : Char
  /-- The number of its parent. -/
  parent : Int
  /-- The number of its group, which is negative once it has left it. -/
  group : Int
  /-- Its session, its terminal, the group in front there, and its flags. -/
  (session terminal foreground flags : Int)
  /-- Its page faults and those of its children, without and with the need to load a page. -/
  (faults childFaults loads childLoads : Int)
  /-- Its clock ticks in user mode. -/
  userTicks : Nat
  /-- Its clock ticks in kernel mode. -/
  systemTicks : Nat
  /-- The ticks of its children in both modes, its priority, and its nice value. -/
  (childUserTicks childSystemTicks priority nice : Int)
  /-- The number of its threads. -/
  threads : Nat
  /-- The time until its next alarm. -/
  alarm : Int
  /-- The time of its start. -/
  startTime : Nat
  /-- The numbers that follow. -/
  more : List Int
  letter_isAlpha : letter.isAlpha = true
  parent_lt : parent < 0x80000000
  group_lt : group < 0x80000000
  userTicks_le : userTicks ≤ Numeral.max64
  systemTicks_le : systemTicks ≤ Numeral.max64
  threads_le : threads ≤ Numeral.max64
  startTime_le : startTime ≤ Numeral.max64

namespace StateLine

variable (line : StateLine)

/-- The fields behind the name. -/
def fields : List Text :=
  [[line.letter], Numeral.writeSigned line.parent, Numeral.writeSigned line.group] ++
    [line.session, line.terminal, line.foreground, line.flags, line.faults, line.childFaults,
      line.loads, line.childLoads].map Numeral.writeSigned ++
    [Numeral.write line.userTicks, Numeral.write line.systemTicks] ++
    [line.childUserTicks, line.childSystemTicks, line.priority, line.nice].map
      Numeral.writeSigned ++
    [Numeral.write line.threads, Numeral.writeSigned line.alarm, Numeral.write line.startTime] ++
    line.more.map Numeral.writeSigned

/-- What stands before the name. -/
def opening : Text := Numeral.write line.pid ++ " (".toList

/-- What stands behind the name. -/
def closing : Text := ')' :: (line.fields.flatMap (' ' :: ·) ++ ['\n'])

/-- The line of a process with the given name. -/
def print (name : List UInt8) : List UInt8 :=
  Text.encode line.opening ++ (name ++ Text.encode line.closing)

/-- The record of a process with this line and name, if its parent and group are numbers. -/
def record (name : Text) : ProcessRecord where
  name
  state := .ofLetter line.letter
  parent := line.parent.toNat
  group := line.group.toNat
  userTicks := line.userTicks
  systemTicks := line.systemTicks
  threads := line.threads
  startTime := line.startTime

/-- The identity of a process with this line and name. -/
def identity (name : Text) : ProcessIdentity where
  pid := line.pid
  name
  state := .ofLetter line.letter
  parent := line.parent.toNat
  group := line.group.toNat
  threads := line.threads
  startTime := line.startTime

/-- A property of the letter and of all printed numbers is one of all fields. -/
private theorem forall_mem_fields {p : Text → Prop} (hletter : p [line.letter])
    (hwrite : ∀ n, p (Numeral.write n)) (hsigned : ∀ n, p (Numeral.writeSigned n)) :
    ∀ field ∈ line.fields, p field := by
  simp [fields, or_imp, forall_and, hletter, hwrite, hsigned]

/-- The letter of a state is one of ASCII. -/
private theorem toNat_letter : 65 ≤ line.letter.toNat ∧ line.letter.toNat ≤ 122 := by
  rcases Bool.or_eq_true_iff.mp line.letter_isAlpha with hupper | hlower
  · obtain ⟨hlow, hhigh⟩ : 65 ≤ line.letter.val ∧ line.letter.val ≤ 90 :=
      of_decide_eq_true hupper
    have hle : line.letter.toNat ≤ 90 := UInt32.le_iff_toNat_le.mp hhigh
    exact ⟨UInt32.le_iff_toNat_le.mp hlow, hle.trans (by decide)⟩
  · obtain ⟨hlow, hhigh⟩ : 97 ≤ line.letter.val ∧ line.letter.val ≤ 122 :=
      (Bool.and_eq_true_iff.mp hlower).imp of_decide_eq_true of_decide_eq_true
    have hle : 97 ≤ line.letter.toNat := UInt32.le_iff_toNat_le.mp hlow
    exact ⟨le_trans (by decide) hle, UInt32.le_iff_toNat_le.mp hhigh⟩

/-- The fields behind the name are words, -/
private theorem isWord_of_mem_fields : ∀ field ∈ line.fields, Text.IsWord field := by
  refine line.forall_mem_fields ⟨by simp, ?_⟩ Numeral.isWord_write Numeral.isWord_writeSigned
  intro c hc
  obtain rfl := List.mem_singleton.mp hc
  have hletter := line.toNat_letter
  simp only [Text.isBlank, Bool.or_eq_false_iff, Bool.and_eq_false_iff, decide_eq_false_iff_not,
    beq_eq_false_iff_ne]
  omega

/-- and they are ASCII, -/
private theorem isAscii_of_mem_fields : ∀ field ∈ line.fields, Text.IsAscii field := by
  refine line.forall_mem_fields ?_ Numeral.isAscii_write Numeral.isAscii_writeSigned
  intro c hc
  obtain rfl := List.mem_singleton.mp hc
  have hletter := line.toNat_letter
  omega

/-- and none has a closing parenthesis. -/
private theorem parenthesis_not_mem_fields : ∀ field ∈ line.fields, ')' ∉ field := by
  refine line.forall_mem_fields ?_ (fun n hmem => ?_) (fun n hmem => ?_)
  · intro hmem
    have hletter := line.letter_isAlpha
    rw [← List.mem_singleton.mp hmem] at hletter
    exact absurd hletter (by decide)
  · exact Numeral.not_mem_write (by decide) n hmem
  · exact absurd (Numeral.isDigit_of_mem_writeSigned hmem) (by decide)

/-- The text behind the name is ASCII. -/
private theorem isAscii_closing : Text.IsAscii line.closing := by
  refine List.forall_mem_cons.mpr ⟨by decide, Text.IsAscii.append ?_ (by decide)⟩
  intro c hc
  obtain ⟨field, hfield, hc⟩ := List.mem_flatMap.mp hc
  rcases List.mem_cons.mp hc with rfl | hc
  · decide
  · exact line.isAscii_of_mem_fields field hfield c hc

/-- Only the name can make the line ill-formed as a text. -/
theorem decode?_print (name : List UInt8) :
    Text.decode? (line.print name) =
      (Text.decode? name).map fun text => line.opening ++ (text ++ line.closing) :=
  Text.decode?_between line.opening line.isAscii_closing (by simp [closing]) name

/-- The name is found whatever stands in it, since there are no parentheses outside. -/
private theorem splitName?_print (name : Text) :
    ProcessRecord.splitName? (line.opening ++ (name ++ ')' :: line.fields.flatMap (' ' :: ·))) =
      some (name, line.fields.flatMap (' ' :: ·)) := by
  have hopening : '(' ∉ Numeral.write line.pid ++ [' '] := by
    intro hmem
    rcases List.mem_append.mp hmem with hmem | hmem
    · exact Numeral.not_mem_write (by decide) _ hmem
    · simp at hmem
  have hclosing : ')' ∉ line.fields.flatMap (' ' :: ·) := by
    intro hmem
    obtain ⟨field, hfield, hmem⟩ := List.mem_flatMap.mp hmem
    rcases List.mem_cons.mp hmem with hmem | hmem
    · exact absurd hmem (by decide)
    · exact line.parenthesis_not_mem_fields field hfield hmem
  rw [ProcessRecord.splitName?_eq_some_iff]
  exact ⟨Numeral.write line.pid ++ [' '], by simp [opening], hopening, hclosing⟩

/-- The line feed at the end does not count. -/
private theorem trimEnd_print (name : Text) :
    Text.trimEnd (line.opening ++ (name ++ line.closing)) =
      line.opening ++ (name ++ ')' :: line.fields.flatMap (' ' :: ·)) := by
  have hbreak : Text.isBlank '\n' = true := by decide
  have htrim := Text.trimEnd_append_flatMap_blank (line.opening ++ (name ++ [')']))
    line.isWord_of_mem_fields (by simp [fields]) hbreak
  simpa [closing] using htrim

/-- A line is read back whatever the name, unless the parent or the group is negative. -/
theorem read_print (name : Text) :
    ProcessRecord.read (line.opening ++ (name ++ line.closing)) =
      if line.parent < 0 then
        .error (.invalidValue (Numeral.writeSigned line.parent) 1 .invalidDigit)
      else if line.group < 0 then
        .error (.invalidValue (Numeral.writeSigned line.group) 1 .invalidDigit)
      else .ok (line.record name) := by
  have hwords := Text.words_flatMap_blank line.isWord_of_mem_fields
  unfold ProcessRecord.read
  simp only [line.trimEnd_print, line.splitName?_print, hwords]
  have hfields : line.fields = [line.letter] :: line.fields.tail := rfl
  have hlength : ¬ line.fields.length < ProcessRecord.leastFields := by
    simp [fields, ProcessRecord.leastFields]
  have hparent : Scalar.number32 1 (ProcessRecord.field line.fields 1) = _ :=
    Scalar.number32_writeSigned 1 line.parent_lt
  have hgroup : Scalar.number32 1 (ProcessRecord.field line.fields 2) = _ :=
    Scalar.number32_writeSigned 1 line.group_lt
  have huser : Scalar.number 1 (ProcessRecord.field line.fields 11) = _ :=
    Scalar.number_write 1 line.userTicks_le
  have hsystem : Scalar.number 1 (ProcessRecord.field line.fields 12) = _ :=
    Scalar.number_write 1 line.systemTicks_le
  have hthreads : Scalar.number 1 (ProcessRecord.field line.fields 17) = _ :=
    Scalar.number_write 1 line.threads_le
  have hstart : Scalar.number 1 (ProcessRecord.field line.fields 19) = _ :=
    Scalar.number_write 1 line.startTime_le
  rw [hfields]
  dsimp only
  rw [← hfields, if_neg hlength, hparent, hgroup, huser, hsystem, hthreads, hstart]
  by_cases hnoParent : line.parent < 0
  · rw [if_pos hnoParent, if_pos hnoParent]
    rfl
  · rw [if_neg hnoParent, if_neg hnoParent]
    by_cases hnoGroup : line.group < 0
    · rw [if_pos hnoGroup, if_pos hnoGroup]
      rfl
    · rw [if_neg hnoGroup, if_neg hnoGroup]
      rfl

/-- The state file of the process holds this line with the given name. -/
def IsShown (name : List UInt8) (rootfs : Path) (w : World) : Prop :=
  w.files.readBytes (Procfs.file rootfs line.pid "stat") = .ok (line.print name)

/-- The line with the given name can be read: the name is a text, and nothing is negative. -/
structure IsReadable (name : List UInt8) (text : Text) : Prop where
  /-- The name is UTF-8. -/
  decoded : Text.decode? name = some text
  /-- The number of the parent is not negative. -/
  parent_nonneg : 0 ≤ line.parent
  /-- Nor is the number of the group. -/
  group_nonneg : 0 ≤ line.group

/-- What stands in the way of the identity, of several things the first. -/
def obstacle (path : Path) (name : List UInt8) : ProcessFailure :=
  if Text.decode? name = none then .unreadable ⟨path, .file .notUtf8⟩
  else
    let culprit := if line.parent < 0 then line.parent else line.group
    .malformed path
      (StatError.invalidValue (Numeral.writeSigned culprit) 1 .invalidDigit).message

variable {line : StateLine} {name : List UInt8} {rootfs : Path} {w : World}

/-- The line is read as a text exactly if the name is one. -/
theorem IsShown.outcome_readText (h : line.IsShown name rootfs w) :
    (Stat.readText (Procfs.file rootfs line.pid "stat")).outcome w =
      match Text.decode? name with
      | some text => .ok (line.opening ++ (text ++ line.closing))
      | none =>
        .error (.failed ⟨Procfs.file rootfs line.pid "stat", .file .notUtf8⟩) := by
  rw [Stat.outcome_readText, FileTree.readText, h]
  simp only [decode?_print]
  cases Text.decode? name <;> rfl

/-- A line that can be read gives the identity that it describes. -/
theorem IsShown.outcome_identity_of_isReadable (h : line.IsShown name rootfs w) {text : Text}
    (hreadable : line.IsReadable name text) :
    (Procfs.identity rootfs line.pid).outcome w = .ok (line.identity text) := by
  have htext := h.outcome_readText
  rw [hreadable.decoded] at htext
  have hrecord : (Procfs.record rootfs line.pid).outcome w = .ok (line.record text) := by
    rw [Procfs.record, Probe.outcome_bind_of_ok (Probe.outcome_mapFailure_eq_ok.mpr htext),
      read_print, if_neg (by have := hreadable.parent_nonneg; omega),
      if_neg (by have := hreadable.group_nonneg; omega)]
    rfl
  exact Probe.outcome_bind_of_ok hrecord _

/-- Any other line gives no identity, but the failure at its first obstacle. -/
theorem IsShown.outcome_identity_of_not_isReadable (h : line.IsShown name rootfs w)
    (hnot : ¬ ∃ text, line.IsReadable name text) :
    (Procfs.identity rootfs line.pid).outcome w =
      .error (.failed (line.obstacle (Procfs.file rootfs line.pid "stat") name)) := by
  refine Probe.outcome_bind_eq_error.mpr (Or.inl ?_)
  have htext := h.outcome_readText
  cases hname : Text.decode? name with
  | none =>
    rw [hname] at htext
    rw [Procfs.record, Probe.outcome_bind, Probe.outcome_mapFailure, htext, obstacle, if_pos hname]
    rfl
  | some text =>
    rw [hname] at htext
    have hdecoded : ¬ Text.decode? name = none := by simp [hname]
    rw [Procfs.record, Probe.outcome_bind_of_ok (Probe.outcome_mapFailure_eq_ok.mpr htext),
      read_print, obstacle, if_neg hdecoded]
    by_cases hparent : line.parent < 0
    · simp [hparent]
    · have hgroup : line.group < 0 := by
        by_contra hgroup
        exact hnot ⟨text, hname, by omega, by omega⟩
      simp [hparent, hgroup]

/-- The identity is read exactly if the line can be read, and then it is the one of the line. -/
theorem IsShown.outcome_identity_eq_ok (h : line.IsShown name rootfs w)
    {identity : ProcessIdentity} :
    (Procfs.identity rootfs line.pid).outcome w = .ok identity ↔
      ∃ text, line.IsReadable name text ∧ identity = line.identity text := by
  constructor
  · intro hidentity
    by_cases hreadable : ∃ text, line.IsReadable name text
    · obtain ⟨text, htext⟩ := hreadable
      rw [h.outcome_identity_of_isReadable htext] at hidentity
      exact ⟨text, htext, (Except.ok.inj hidentity).symm⟩
    · simp [h.outcome_identity_of_not_isReadable hreadable] at hidentity
  · rintro ⟨text, htext, rfl⟩
    exact h.outcome_identity_of_isReadable htext

end StateLine

namespace KernelSampler

variable {k : KernelSampler} {w : World}

/-- Listing the processes whose names pass gives exactly those that have an identity. -/
theorem mem_listMatching_iff {filter : NameFilter} (hfilter : filter.isEmpty = false)
    {pids : List Nat} (hpids : (Procfs.pids k.rootfs).outcome w = .ok pids)
    {identities : List ProcessIdentity}
    (h : (k.listMatching filter).outcome w = .ok identities) {identity : ProcessIdentity} :
    identity ∈ identities ↔ identity.pid ∈ pids ∧
      (Procfs.identity k.rootfs identity.pid).outcome w = .ok identity ∧
      filter.passes identity.name = true := by
  rw [k.outcome_listMatching w filter hfilter hpids, Except.ok.injEq] at h
  rw [← h, List.mem_filterMap]
  constructor
  · rintro ⟨pid, hpid, hidentity⟩
    obtain rfl := k.pid_of_identityAlone? w filter hidentity
    exact ⟨hpid, (k.identityAlone?_eq_some w filter).mp hidentity⟩
  · rintro ⟨hpid, hidentity⟩
    exact ⟨identity.pid, hpid, (k.identityAlone?_eq_some w filter).mpr hidentity⟩

/-- A process whose state line the kernel prints has an identity exactly if its name is UTF-8 and
neither its parent nor its group is negative. The name makes no difference to anything else in the
identity. Where processes can be listed, those that have an identity that passes are listed, and no
others. -/
theorem identity_of_shown_iff {k : KernelSampler} {w : World} {line : StateLine}
    {name : List UInt8} (h : line.IsShown name k.rootfs w) :
    (∀ identity, (Procfs.identity k.rootfs line.pid).outcome w = .ok identity ↔
      ∃ text, line.IsReadable name text ∧ identity = line.identity text) ∧
    ((¬ ∃ text, line.IsReadable name text) →
      (Procfs.identity k.rootfs line.pid).outcome w =
        .error (.failed (line.obstacle (Procfs.file k.rootfs line.pid "stat") name))) ∧
    ∀ filter : NameFilter, filter.isEmpty = false →
      ∀ pids, (Procfs.pids k.rootfs).outcome w = .ok pids → line.pid ∈ pids →
        ∃ identities, (k.listMatching filter).outcome w = .ok identities ∧
          ∀ identity : ProcessIdentity, identity.pid = line.pid →
            (identity ∈ identities ↔ ∃ text, line.IsReadable name text ∧
              identity = line.identity text ∧ filter.passes text = true) := by
  refine ⟨fun identity => h.outcome_identity_eq_ok, h.outcome_identity_of_not_isReadable, ?_⟩
  intro filter hfilter pids hpids hlisted
  have hlist := k.outcome_listMatching w filter hfilter hpids
  refine ⟨_, hlist, fun identity hpid => ?_⟩
  rw [mem_listMatching_iff hfilter hpids hlist, hpid, and_iff_right hlisted,
    h.outcome_identity_eq_ok]
  constructor
  · rintro ⟨⟨text, htext, rfl⟩, hpasses⟩
    exact ⟨text, htext, rfl, hpasses⟩
  · rintro ⟨text, htext, rfl, hpasses⟩
    exact ⟨⟨text, htext, rfl⟩, hpasses⟩

/-- The line of a worker with the given number and group. -/
private def worker (pid : Nat) (group : Int) (hgroup : group < 0x80000000) : StateLine where
  pid := pid
  letter := 'S'
  parent := 1
  group := group
  session := 1
  terminal := 0
  foreground := -1
  flags := 4194560
  faults := 120
  childFaults := 0
  loads := 3
  childLoads := 0
  userTicks := 250
  systemTicks := 50
  childUserTicks := 0
  childSystemTicks := 0
  priority := 20
  nice := 0
  threads := 4
  alarm := 0
  startTime := 7654
  more := [10240, 300]
  letter_isAlpha := by decide
  parent_lt := by decide
  group_lt := hgroup
  userTicks_le := by decide
  systemTicks_le := by decide
  threads_le := by decide
  startTime_le := by decide

/-- A world that shows some lines, each with a name. -/
private def showing (lines : List (StateLine × List UInt8)) : World where
  files := lines.foldl (fun tree (line, name) =>
    tree.put ["proc".toList, Numeral.write line.pid, "stat".toList] (.file (line.print name)))
    .empty
  now := ⟨0⟩

/-- A name may end its line and begin one of another process: the process is still listed under its
own number. -/
theorem identity_of_shown_iff_confusing :
    let line := worker 7 7 (by decide)
    let name := "é) Z 0 0\n1 (init".toList
    let w := showing [(line, Text.encode name)]
    line.IsShown (Text.encode name) ['/'] w ∧
      (Procfs.identity ['/'] 7).outcome w = .ok (line.identity name) ∧
      ∃ identities, ((plain ['/'] false).listMatching everyName).outcome w = .ok identities ∧
        line.identity name ∈ identities := by
  intro line name w
  have hshown : line.IsShown (Text.encode name) ['/'] w := by
    show w.files.readBytes _ = _
    decide +kernel
  have hreadable : line.IsReadable (Text.encode name) name :=
    ⟨by decide +kernel, by decide, by decide⟩
  have hpids : (Procfs.pids ['/']).outcome w = .ok [7] := by decide +kernel
  obtain ⟨hidentity, -, hlisting⟩ :=
    identity_of_shown_iff (k := plain ['/'] false) hshown
  refine ⟨hshown, (hidentity _).mpr ⟨name, hreadable, rfl⟩, ?_⟩
  obtain ⟨identities, hlist, hmem⟩ :=
    hlisting everyName (by decide) [7] hpids List.mem_cons_self
  exact ⟨identities, hlist, (hmem _ rfl).mpr ⟨name, hreadable, rfl, by decide +kernel⟩⟩

/-- A name of one octet that starts no character, or a group that has been left, hides a process:
it has no identity, and it is not listed by a filter that every name passes. -/
theorem identity_of_shown_hidden :
    let octet := worker 7 7 (by decide)
    let leaver := worker 8 (-1) (by decide)
    let w := showing [(octet, [0xFF]), (leaver, Text.encode "worker".toList)]
    octet.IsShown [0xFF] ['/'] w ∧ leaver.IsShown (Text.encode "worker".toList) ['/'] w ∧
      (Procfs.identity ['/'] 7).outcome w =
        .error (.failed (.unreadable ⟨"/proc/7/stat".toList, .file .notUtf8⟩)) ∧
      (Procfs.identity ['/'] 8).outcome w =
        .error (.failed (.malformed "/proc/8/stat".toList
          "invalid value at line 1: '-1': invalid digit found in string")) ∧
      (Procfs.pids ['/']).outcome w = .ok [7, 8] ∧
      ((plain ['/'] false).listMatching everyName).outcome w = .ok [] := by
  intro octet leaver w
  have hoctet : octet.IsShown [0xFF] ['/'] w := by
    show w.files.readBytes _ = _
    decide +kernel
  have hleaver : leaver.IsShown (Text.encode "worker".toList) ['/'] w := by
    show w.files.readBytes _ = _
    decide +kernel
  have hnames : w.files.readDirectory (Procfs.root ['/']) = .ok ["7".toList, "8".toList] := by
    decide +kernel
  have hpids : (Procfs.pids ['/']).outcome w = .ok [7, 8] :=
    Procfs.outcome_pids_of_ascending hnames (by decide)
  refine ⟨hoctet, hleaver, by decide +kernel, by decide +kernel, hpids, ?_⟩
  rw [(plain ['/'] false).outcome_listMatching w everyName (by decide) hpids]
  decide +kernel

end KernelSampler

end ProcessMeter
