import Mathlib.Data.List.TakeWhile
import ProcessMeter.Cgroup.Accounting
import ProcessMeter.Proofs.EncodedText
import ProcessMeter.Proofs.KernelSampler
import ProcessMeter.Proofs.KeyedLines
import ProcessMeter.Proofs.MountTables
import ProcessMeter.Proofs.OctalEscapes
import ProcessMeter.Proofs.SpelledFiles

/-!
# Printed mounts are read back

The kernel prints the fields of a mount with one space between them. In three of the fields it
escapes space, tab, line feed and backslash. The reader takes any white space for the end of a
field, however much there is. So what is read back depends on the white space that is printed as it
is, and on the source, which may be empty.
-/

namespace ProcessMeter

namespace Text

/-- A character of a path as the kernel prints it. -/
def escapeChar : Char → Text
  | ' ' => "\\040".toList
  | '\t' => "\\011".toList
  | '\n' => "\\012".toList
  | '\\' => "\\134".toList
  | c => [c]

/-- A path as the kernel prints it. -/
def escape (t : Text) : Text := t.flatMap escapeChar

/-- White space that is printed as it is. -/
def isStray (c : Char) : Bool := isBlank c && (c != ' ' && c != '\t' && c != '\n')

/-- There is nothing to escape in the empty text. -/
@[simp] theorem escape_nil : escape [] = [] := rfl

/-- Each character is escaped on its own. -/
theorem escape_cons (c : Char) (t : Text) : escape (c :: t) = escapeChar c ++ escape t := rfl

/-- Two texts are escaped one after the other. -/
theorem escape_append (s t : Text) : escape (s ++ t) = escape s ++ escape t := List.flatMap_append

/-- The characters that are escaped. -/
private def escaped : List Char := [' ', '\t', '\n', '\\']

/-- A character is one of the four that the kernel escapes, or it is printed as it is. -/
private theorem escapeChar_cases (c : Char) :
    c ∈ escaped ∨ c ≠ '\\' ∧ isStray c = isBlank c ∧ escapeChar c = [c] := by
  by_cases h : c ∈ escaped
  · exact Or.inl h
  · simp only [escaped, List.mem_cons, List.not_mem_nil, or_false, not_or] at h
    obtain ⟨hspace, htab, hbreak, hbackslash⟩ := h
    refine Or.inr ⟨hbackslash, by simp [isStray, hspace, htab, hbreak], ?_⟩
    unfold escapeChar
    split <;> first | contradiction | rfl

/-- The four escapes are words with a backslash. -/
private theorem of_mem_escaped :
    ∀ c ∈ escaped, IsWord (escapeChar c) ∧ '\\' ∈ escapeChar c ∧ isStray c = false := by
  decide

section Decoding

/-- A printed character has its octets escaped or as they are. -/
private theorem isEscaping_escapeChar (c : Char) :
    IsEscaping (String.utf8EncodeChar c) (encode (escapeChar c)) := by
  rcases escapeChar_cases c with hescaped | ⟨hc, -, hplain⟩
  · simp only [escaped, List.mem_cons, List.not_mem_nil, or_false] at hescaped
    rcases hescaped with rfl | rfl | rfl | rfl
    · exact .escaped 0x20 .nil
    · exact .escaped 0x09 .nil
    · exact .escaped 0x0A .nil
    · exact .escaped 0x5C .nil
  · have hchar : String.utf8EncodeChar c = encode [c] := by rw [encode_cons, encode_nil,
      List.append_nil]
    rw [hplain, hchar]
    refine .refl fun b hb hbackslash => ?_
    rw [hbackslash] at hb
    exact hc (List.mem_singleton.mp (backslash_mem_of_mem_encode hb)).symm

/-- What the kernel escapes is decoded again. -/
theorem decodeEscapes_escape (t : Text) : decodeEscapes (escape t) = t := by
  refine decodeEscapes_of_isEscaping ?_
  induction t with
  | nil => exact .nil
  | cons c t ih =>
    rw [escape_cons, encode_append, encode_cons]
    exact (isEscaping_escapeChar c).append ih

end Decoding

section Splitting

/-- The text up to its first white space that is printed as it is. -/
def beforeStray (t : Text) : Text := t.takeWhile fun c => !isStray c

/-- The text from there on. -/
def fromStray (t : Text) : Text := t.dropWhile fun c => !isStray c

/-- Both parts together are the text. -/
theorem beforeStray_append_fromStray (t : Text) : beforeStray t ++ fromStray t = t :=
  List.takeWhile_append_dropWhile

/-- Nothing is cut off a text without such white space, and only of that. -/
theorem beforeStray_eq_self {t : Text} : beforeStray t = t ↔ ∀ c ∈ t, isStray c = false := by
  simp [beforeStray, List.takeWhile_eq_self_iff]

/-- Stray white space is printed as it is, and anything else without white space. -/
private theorem escapeChar_of_isStray {c : Char} (h : isStray c = true) :
    escapeChar c = [c] ∧ isBlank c = true := by
  rcases escapeChar_cases c with hescaped | ⟨-, hblank, hplain⟩
  · rw [(of_mem_escaped c hescaped).2.2] at h
    cases h
  · exact ⟨hplain, by rw [← hblank, h]⟩

/-- A character that is not stray is printed as a word. -/
private theorem isWord_escapeChar {c : Char} (h : isStray c = false) : IsWord (escapeChar c) := by
  rcases escapeChar_cases c with hescaped | ⟨-, hblank, hplain⟩
  · exact (of_mem_escaped c hescaped).1
  · rw [hplain]
    exact ⟨by simp, by simp [← hblank, h]⟩

/-- All white space in what is printed is stray. -/
private theorem isStray_of_mem_escape {t : Text} {c : Char} (hc : c ∈ escape t)
    (hblank : isBlank c = true) : isStray c = true := by
  obtain ⟨d, -, hc⟩ := List.mem_flatMap.mp hc
  cases hstray : isStray d with
  | true =>
    rw [(escapeChar_of_isStray hstray).1, List.mem_singleton] at hc
    rw [hc, hstray]
  | false =>
    rw [(isWord_escapeChar hstray).2 c hc] at hblank
    cases hblank

/-- A text without stray white space is printed as a word. -/
theorem isWord_escape {t : Text} (hne : t ≠ []) (h : ∀ c ∈ t, isStray c = false) :
    IsWord (escape t) := by
  constructor
  · obtain ⟨c, rest, rfl⟩ := List.exists_cons_of_ne_nil hne
    rw [escape_cons]
    exact List.append_ne_nil_of_left_ne_nil (isWord_escapeChar (h c List.mem_cons_self)).1 _
  · intro c hc
    obtain ⟨d, hd, hc⟩ := List.mem_flatMap.mp hc
    exact (isWord_escapeChar (h d hd)).2 c hc

/-- White space that is printed as it is ends the first word. -/
theorem words_escape {t : Text} (hne : beforeStray t ≠ []) :
    words (escape t) = escape (beforeStray t) :: words (escape (fromStray t)) := by
  have hbefore : ∀ c ∈ beforeStray t, isStray c = false := by
    intro c hc
    simpa using List.mem_takeWhile_imp hc
  have hword := isWord_escape hne hbefore
  have hapart : ∀ c ∈ (escape (fromStray t)).head?, isBlank c = true := by
    cases hfrom : fromStray t with
    | nil => simp
    | cons d rest =>
      have hstray : isStray d = true := by
        have hhead := List.head?_dropWhile_not (fun c => !isStray c) t
        rw [fromStray] at hfrom
        simpa [hfrom] using hhead
      obtain ⟨hplain, hblank⟩ := escapeChar_of_isStray hstray
      simp [escape_cons, hplain, hblank]
  rw [← words_word_append hword hapart, ← escape_append, beforeStray_append_fromStray]

/-- Texts with a space in front of each hold their words. -/
private theorem words_append_flatMap (first : Text) (fields : List Text) :
    words (first ++ fields.flatMap (' ' :: ·)) = words first ++ fields.flatMap words := by
  induction fields generalizing first with
  | nil => simp
  | cons field rest ih =>
    rw [List.flatMap_cons, List.cons_append, words_append_cons (by decide), ih,
      List.flatMap_cons]

/-- A text that is all stray white space is printed without words. -/
theorem words_escape_eq_nil {t : Text} :
    words (escape t) = [] ↔ ∀ c ∈ t, isStray c = true := by
  induction t with
  | nil => exact iff_of_true rfl (by simp)
  | cons c t ih =>
    cases hstray : isStray c with
    | true =>
      obtain ⟨hplain, hblank⟩ := escapeChar_of_isStray hstray
      have hwords : words (escape (c :: t)) = words (escape t) := by
        rw [escape_cons, hplain]
        exact words_append_cons hblank [] _
      simp [hwords, ih, hstray]
    | false =>
      have hne : beforeStray (c :: t) ≠ [] := by simp [beforeStray, hstray]
      simp [words_escape hne, hstray]

end Splitting

/-- A field of a line with single spaces between its fields, unlike the separator. -/
structure IsField (t : Text) : Prop where
  ne_nil : t ≠ []
  space : ' ' ∉ t
  lineBreak : '\n' ∉ t
  ne_dash : t ≠ ['-']

/-- Line feeds are escaped. -/
private theorem break_not_mem_escape (t : Text) : '\n' ∉ escape t :=
  fun hc => absurd (isStray_of_mem_escape hc (by decide)) (by decide)

/-- An absolute path is printed as a field, whatever white space it has. -/
private theorem isField_escape {p : Path} (h : Path.isAbsolute p = true) : IsField (escape p) := by
  have hspace : ' ' ∉ escape p := fun hc =>
    absurd (isStray_of_mem_escape hc (by decide)) (by decide)
  have hbreak := break_not_mem_escape p
  obtain ⟨rest, rfl⟩ : ∃ rest, p = '/' :: rest := by
    unfold Path.isAbsolute at h
    split at h
    · exact ⟨_, rfl⟩
    · cases h
  exact ⟨List.cons_ne_nil _ _, hspace, hbreak, fun heq => absurd (List.cons.inj heq).1 (by decide)⟩

/-- A word other than the separator is a field. -/
private theorem isField_of_isWord {t : Text} (h : IsWord t ∧ t ≠ ['-']) : IsField t :=
  ⟨h.1.1, fun hc => absurd (h.1.2 _ hc) (by decide), h.1.not_mem_break, h.2⟩

/-- No separator starts in a text without spaces. -/
private theorem cutText_append {t : Text} (h : ' ' ∉ t) (rest : Text) :
    cutText MountRecord.separator (t ++ rest) =
      (cutText MountRecord.separator rest).map fun halves => (t ++ halves.1, halves.2) := by
  induction t with
  | nil => simp
  | cons c t ih =>
    obtain ⟨hc, ht⟩ := not_or.mp (mt List.mem_cons.mpr h)
    have hnone : dropStart? MountRecord.separator (c :: (t ++ rest)) = none := if_neg hc
    rw [List.cons_append, cutText, hnone, ih ht]
    cases cutText MountRecord.separator rest <;> rfl

/-- A field is not taken for the separator, whatever follows it. -/
private theorem cutText_field {field : Text} (h : IsField field) (rest : Text) :
    cutText MountRecord.separator (' ' :: (field ++ rest)) =
      (cutText MountRecord.separator rest).map fun halves =>
        (' ' :: field ++ halves.1, halves.2) := by
  obtain ⟨hne, hspace, -, hdash⟩ := h
  have hnone : dropStart? MountRecord.separator (' ' :: (field ++ rest)) = none := by
    change dropStart? "- ".toList (field ++ rest) = none
    obtain ⟨c, field, rfl⟩ := List.exists_cons_of_ne_nil hne
    by_cases hc : c = '-'
    · subst hc
      obtain ⟨d, field, rfl⟩ := List.exists_cons_of_ne_nil (mt (congrArg ('-' :: ·)) hdash)
      have hd : ' ' ≠ d := by
        rintro rfl
        simp at hspace
      exact if_neg hd
    · exact if_neg (Ne.symm hc)
  rw [cutText, hnone, cutText_append hspace]
  cases cutText MountRecord.separator rest <;> rfl

/-- The first separator is found behind the fields. -/
theorem cutText_fields {first : Text} (hfirst : ' ' ∉ first) {fields : List Text}
    (h : ∀ field ∈ fields, IsField field) (behind : Text) :
    cutText MountRecord.separator
        (first ++ (fields.flatMap (' ' :: ·) ++ (MountRecord.separator ++ behind))) =
      some (first ++ fields.flatMap (' ' :: ·), behind) := by
  have hfields : cutText MountRecord.separator
      (fields.flatMap (' ' :: ·) ++ (MountRecord.separator ++ behind)) =
        some (fields.flatMap (' ' :: ·), behind) := by
    induction fields with
    | nil => rfl
    | cons field rest ih =>
      obtain ⟨hfield, hrest⟩ := List.forall_mem_cons.mp h
      rw [List.flatMap_cons, List.cons_append, List.cons_append, List.append_assoc,
        cutText_field hfield, ih hrest]
      rfl
  rw [cutText_append hfirst, hfields]
  rfl

end Text

open Probe

/-- A mount as the kernel knows it. Paths and source are free; what is printed without escapes has
no white space, and no field before the separator looks like one. -/
structure PrintedMount where
  mountId : Nat
  parentId : Nat
  major : Nat
  minor : Nat
  root : Text
  mountPoint : Path
  options : Text
  optionalFields : List Text
  fileSystem : Text
  source : Text
  superOptions : Text
  root_absolute : Path.isAbsolute root = true
  mountPoint_absolute : Path.isAbsolute mountPoint = true
  options_plain : Text.IsWord options ∧ options ≠ ['-']
  optionalFields_plain : ∀ field ∈ optionalFields, Text.IsWord field ∧ field ≠ ['-']
  fileSystem_word : Text.IsWord fileSystem
  superOptions_word : Text.IsWord superOptions

namespace PrintedMount

open Text

variable (m : PrintedMount)

/-- The device, as major and minor number. -/
def device : Text := Numeral.write m.major ++ ':' :: Numeral.write m.minor

/-- The fields behind the number of the mount. -/
def fields : List Text :=
  Numeral.write m.parentId :: m.device :: escape m.root :: escape m.mountPoint :: m.options ::
    m.optionalFields

/-- What stands behind the separator. -/
def behind : Text := m.fileSystem ++ ' ' :: (escape m.source ++ ' ' :: m.superOptions)

/-- The line of the mount in a mount table. -/
def print : Text :=
  Numeral.write m.mountId ++ (m.fields.flatMap (' ' :: ·) ++ (MountRecord.separator ++ m.behind))

/-- Nothing of the source is left between white space. -/
def LacksSource : Prop := ∀ c ∈ m.source, isStray c = true

instance : Decidable m.LacksSource := inferInstanceAs (Decidable (∀ c ∈ m.source, _ = true))

/-- The paths have no white space but what is escaped, and behind the first word of the source
stands what the super options are. -/
structure IsLegible : Prop where
  root : ∀ c ∈ m.root, isStray c = false
  mountPoint : ∀ c ∈ m.mountPoint, isStray c = false
  superOptions : ∀ word ∈ (words (escape m.source))[1]?, word = m.superOptions

/-- A record tells where the mount is and what it is. -/
structure Tells (record : MountRecord) : Prop where
  root : record.decodedRoot = m.root
  mountPoint : record.decodedMountPoint = m.mountPoint
  fileSystem : record.fileSystem = m.fileSystem
  superOptions : record.superOptions = m.superOptions

/-- The numbers of the device are one word. -/
private theorem isWord_device : IsWord m.device := by
  refine ⟨by simp [device], List.forall_mem_append.mpr ⟨(Numeral.isWord_write _).2, ?_⟩⟩
  exact List.forall_mem_cons.mpr ⟨by decide, (Numeral.isWord_write _).2⟩

/-- What is printed before the root and between the paths and the separator are fields. -/
private theorem isField_of_mem_fields : ∀ field ∈ m.fields, IsField field := by
  have hnumber (n : Nat) : Numeral.write n ≠ ['-'] := fun heq =>
    Numeral.not_mem_write (show '-'.isDigit = false by decide) n (by simp [heq])
  have hdevice : m.device ≠ ['-'] := fun heq => absurd (heq ▸ (by simp [device] : ':' ∈ m.device))
    (by decide)
  simp only [fields, List.forall_mem_cons]
  exact ⟨isField_of_isWord ⟨Numeral.isWord_write _, hnumber _⟩,
    isField_of_isWord ⟨m.isWord_device, hdevice⟩, isField_escape m.root_absolute,
    isField_escape m.mountPoint_absolute, isField_of_isWord m.options_plain,
    fun field hfield => isField_of_isWord (m.optionalFields_plain field hfield)⟩

/-- The line is cut at its separator. -/
private theorem cutText_print :
    cutText MountRecord.separator m.print =
      some (Numeral.write m.mountId ++ m.fields.flatMap (' ' :: ·), m.behind) :=
  cutText_fields (Numeral.not_mem_write (by decide) _) m.isField_of_mem_fields m.behind

/-- The words before the separator are the fields, with those of the two paths among them. -/
private theorem words_front :
    words (Numeral.write m.mountId ++ m.fields.flatMap (' ' :: ·)) =
      Numeral.write m.mountId :: Numeral.write m.parentId :: m.device ::
        (words (escape m.root) ++
          (words (escape m.mountPoint) ++ m.options :: m.optionalFields)) := by
  have hoptional : m.optionalFields.flatMap words = m.optionalFields := by
    rw [List.flatMap_congr fun field hfield => (m.optionalFields_plain field hfield).1.words_eq]
    exact List.flatMap_singleton' _
  rw [words_append_flatMap, fields]
  simp only [List.flatMap_cons, hoptional, (Numeral.isWord_write _).words_eq,
    m.isWord_device.words_eq, m.options_plain.1.words_eq, List.singleton_append]

/-- The words behind the separator are the file system, those of the source and the options. -/
private theorem words_behind :
    words m.behind = m.fileSystem :: (words (escape m.source) ++ [m.superOptions]) := by
  rw [behind, words_append_cons (by decide), words_append_cons (by decide),
    m.fileSystem_word.words_eq, m.superOptions_word.words_eq]
  rfl

/-- An absolute path is printed as a first word, and further ones for what follows stray white
space. -/
private theorem words_path {p : Path} (h : Path.isAbsolute p = true) :
    words (escape p) = escape (beforeStray p) :: words (escape (fromStray p)) := by
  refine words_escape ?_
  unfold Path.isAbsolute at h
  split at h
  · simp [beforeStray, show isStray '/' = false by decide]
  · cases h

/-- Behind three words stands what the root is up to stray white space, and then the mount point, if
there was none. -/
private theorem exists_words_front :
    ∃ place optionalFields, words (Numeral.write m.mountId ++ m.fields.flatMap (' ' :: ·)) =
        Numeral.write m.mountId :: Numeral.write m.parentId :: m.device ::
          escape (beforeStray m.root) :: place :: optionalFields ∧
      ((∀ c ∈ m.root, isStray c = false) → place = escape (beforeStray m.mountPoint)) := by
  rw [m.words_front, words_path m.root_absolute, words_path m.mountPoint_absolute]
  cases hmore : words (escape (fromStray m.root)) with
  | nil => exact ⟨_, _, rfl, fun _ => rfl⟩
  | cons word more =>
    refine ⟨_, _, rfl, fun hroot => ?_⟩
    have hnone : fromStray m.root = [] := by
      simpa [fromStray, List.dropWhile_eq_nil_iff] using hroot
    rw [hnone] at hmore
    cases hmore

/-- A mount without a source lacks a field. -/
theorem read_print_of_lacksSource (h : m.LacksSource) :
    MountRecord.read m.print = .error (.missingBehind .superOptions m.print) := by
  obtain ⟨place, optionalFields, hfront, -⟩ := m.exists_words_front
  have hbehind : words m.behind = [m.fileSystem, m.superOptions] := by
    rw [words_behind, words_escape_eq_nil.mpr h]
    rfl
  rw [MountRecord.read, m.cutText_print]
  simp only [hfront, hbehind]

/-- A mount with a source is read with its type, and its record tells where and what it is exactly
if it is legible. -/
theorem exists_read_print (h : ¬ m.LacksSource) :
    ∃ record, MountRecord.read m.print = .ok record ∧ record.fileSystem = m.fileSystem ∧
      (m.Tells record ↔ m.IsLegible) := by
  obtain ⟨place, optionalFields, hfront, hplace⟩ := m.exists_words_front
  obtain ⟨source, more, hsource⟩ := List.exists_cons_of_ne_nil (mt words_escape_eq_nil.mp h)
  obtain ⟨superOptions, rest, hsuper⟩ := List.exists_cons_of_ne_nil
    (List.append_ne_nil_of_right_ne_nil more (List.cons_ne_nil m.superOptions []))
  have hbehind : words m.behind = m.fileSystem :: source :: superOptions :: rest := by
    rw [words_behind, hsource, List.cons_append, hsuper]
  refine ⟨⟨Numeral.write m.mountId, Numeral.write m.parentId, m.device, escape (beforeStray m.root),
    place, optionalFields, m.fileSystem, source, superOptions⟩, ?_, rfl, ?_⟩
  · rw [MountRecord.read, m.cutText_print]
    simp only [hfront, hbehind]
  · have hread (p : Path) : decodeEscapes (escape (beforeStray p)) = p ↔
        ∀ c ∈ p, isStray c = false := by
      rw [decodeEscapes_escape, beforeStray_eq_self]
    have hoptions : superOptions = m.superOptions ↔
        ∀ word ∈ (words (escape m.source))[1]?, word = m.superOptions := by
      rw [hsource]
      cases more with
      | nil => simp [← (List.cons.inj hsuper).1]
      | cons word more => simp [← (List.cons.inj hsuper).1]
    constructor
    · rintro ⟨hroot, hmountPoint, -, hsuperOptions⟩
      have hroot := (hread _).mp hroot
      rw [MountRecord.decodedMountPoint, hplace hroot] at hmountPoint
      exact ⟨hroot, (hread _).mp hmountPoint, hoptions.mp hsuperOptions⟩
    · rintro ⟨hroot, hmountPoint, hsuperOptions⟩
      refine ⟨(hread _).mpr hroot, ?_, rfl, hoptions.mpr hsuperOptions⟩
      rw [MountRecord.decodedMountPoint, hplace hroot]
      exact (hread _).mpr hmountPoint

/-- The record of the mount with nothing lost. -/
def record : MountRecord where
  mountId := Numeral.write m.mountId
  parentId := Numeral.write m.parentId
  device := m.device
  root := escape m.root
  mountPoint := escape m.mountPoint
  optionalFields := m.options :: m.optionalFields
  fileSystem := m.fileSystem
  source := escape m.source
  superOptions := m.superOptions

/-- A printed line tells the record that it was printed from. -/
theorem tells_record : m.Tells m.record :=
  ⟨decodeEscapes_escape _, decodeEscapes_escape _, rfl, rfl⟩

/-- The mount is of a cgroup hierarchy. -/
def IsCgroup : Prop := m.record.isUnified = true ∨ m.record.isLegacy = true

/-- A record that tells what the mount is, if that is a cgroup hierarchy, adds what the mount does.
-/
private theorem add_eq {record : MountRecord} (hsystem : record.fileSystem = m.fileSystem)
    (htells : m.IsCgroup → m.Tells record) (rootfs : Path) (found : CgroupMounts) :
    found.add rootfs record = found.add rootfs m.record := by
  have hunified : record.isUnified = m.record.isUnified := by
    rw [MountRecord.isUnified, MountRecord.isUnified, hsystem]
    rfl
  have hlegacy : record.isLegacy = m.record.isLegacy := by
    rw [MountRecord.isLegacy, MountRecord.isLegacy, hsystem]
    rfl
  have hmount (h : m.Tells record) : record.cgroupMount rootfs = m.record.cgroupMount rootfs := by
    rw [MountRecord.cgroupMount, MountRecord.cgroupMount, h.root, h.mountPoint,
      m.tells_record.root, m.tells_record.mountPoint]
  have hsubsystems (h : m.Tells record) : record.subsystems = m.record.subsystems := by
    rw [MountRecord.subsystems, MountRecord.optionList, h.superOptions]
    rfl
  unfold CgroupMounts.add
  rw [hunified, hlegacy]
  split
  · next h => rw [hmount (htells (Or.inl h))]
  · split
    · next h => rw [hmount (htells (Or.inr h)), hsubsystems (htells (Or.inr h))]
    · rfl

/-- A mount table with one line for each mount. -/
def printTable (mounts : List PrintedMount) : Text := mounts.flatMap fun m => m.print ++ ['\n']

/-- A printed line has no line feed. -/
private theorem break_not_mem_print : '\n' ∉ m.print := by
  have hfields : '\n' ∉ m.fields.flatMap (' ' :: ·) := by
    intro hc
    obtain ⟨field, hfield, hc⟩ := List.mem_flatMap.mp hc
    have hc := (List.mem_cons.mp hc).resolve_left (by decide)
    exact (m.isField_of_mem_fields field hfield).lineBreak hc
  have hbehind : '\n' ∉ m.behind := by
    simp [behind, m.fileSystem_word.not_mem_break, m.superOptions_word.not_mem_break,
      break_not_mem_escape]
  have hseparator : '\n' ∉ MountRecord.separator := by decide
  simp [print, (Numeral.isWord_write _).not_mem_break, hfields, hseparator, hbehind]

/-- The super options end the line, so nothing but its line feed is cut off. -/
private theorem trimEnd_print : trimEnd (m.print ++ ['\n']) = m.print := by
  have hend : m.print = Numeral.write m.mountId ++ (m.fields.flatMap (' ' :: ·) ++
      (MountRecord.separator ++ (m.fileSystem ++ ' ' :: escape m.source))) ++
        [m.superOptions].flatMap (' ' :: ·) := by
    simp [print, behind]
  rw [hend, List.append_assoc _ _ ['\n']]
  exact trimEnd_append_flatMap_blank _ (by simpa using m.superOptions_word) (by simp) (by decide)

/-- A printed line is not blank. -/
private theorem isEmpty_trim_print : (trim (m.print ++ ['\n'])).isEmpty = false := by
  obtain ⟨c, rest, hwrite⟩ := List.exists_cons_of_ne_nil (Numeral.isWord_write m.mountId).1
  have hc : isBlank c = false := (Numeral.isWord_write m.mountId).2 c (by simp [hwrite])
  have hprint : m.print ≠ [] := by simp [print, hwrite]
  have hstart : trimStart (m.print ++ ['\n']) = m.print ++ ['\n'] := by
    simp [trimStart, print, hwrite, hc]
  rw [trim, hstart, m.trimEnd_print]
  simpa using hprint

/-- A table is read by its first line and then by the lines behind it. -/
private theorem readLines_printTable_cons (path : Path) (rest : List PrintedMount) :
    MountRecord.readLines path (Lines.ofText (printTable (m :: rest))) =
      match MountRecord.read m.print with
      | .error error => .error (.malformed path error)
      | .ok record =>
        (MountRecord.readLines path (Lines.ofText (printTable rest))).map (record :: ·) := by
  have hlines : Lines.ofText (printTable (m :: rest)) =
      .ok (m.print ++ ['\n']) :: Lines.ofText (printTable rest) := by
    rw [Lines.ofText, printTable, List.flatMap_cons, List.append_assoc, List.singleton_append,
      rawLines_append_break m.break_not_mem_print]
    rfl
  cases hread : MountRecord.read m.print <;>
    simp [hlines, MountRecord.readLines, m.isEmpty_trim_print, m.trimEnd_print, hread]

/-- The first mount without a source is where reading the table ends. -/
private theorem readLines_of_lacksSource (path : Path) {front behind : List PrintedMount}
    (hfront : ∀ other ∈ front, ¬ other.LacksSource) (h : m.LacksSource) :
    MountRecord.readLines path (Lines.ofText (printTable (front ++ m :: behind))) =
      .error (.malformed path (.missingBehind .superOptions m.print)) := by
  induction front with
  | nil => rw [List.nil_append, readLines_printTable_cons, m.read_print_of_lacksSource h]
  | cons other front ih =>
    obtain ⟨hother, hrest⟩ := List.forall_mem_cons.mp hfront
    obtain ⟨record, hread, -⟩ := other.exists_read_print hother
    rw [List.cons_append, readLines_printTable_cons, hread, ih hrest]
    rfl

/-- Where every mount has a source, each has a record. Taken together these say what the mounts are,
if those of cgroup hierarchies are legible. -/
private theorem exists_records (path rootfs : Path) {mounts : List PrintedMount}
    (hsources : ∀ m ∈ mounts, ¬ m.LacksSource) (hlegible : ∀ m ∈ mounts, m.IsCgroup → m.IsLegible) :
    ∃ records, MountRecord.readLines path (Lines.ofText (printTable mounts)) = .ok records ∧
      ∀ found : CgroupMounts, records.foldl (fun mounts record => mounts.add rootfs record) found =
        (mounts.map record).foldl (fun mounts record => mounts.add rootfs record) found := by
  induction mounts with
  | nil => exact ⟨[], rfl, fun _ => rfl⟩
  | cons m rest ih =>
    obtain ⟨hm, hrest⟩ := List.forall_mem_cons.mp hsources
    obtain ⟨hmlegible, hrestlegible⟩ := List.forall_mem_cons.mp hlegible
    obtain ⟨records, hrecords, hfound⟩ := ih hrest hrestlegible
    obtain ⟨record, hread, hsystem, htells⟩ := m.exists_read_print hm
    refine ⟨record :: records, ?_, fun found => ?_⟩
    · rw [readLines_printTable_cons, hread, hrecords]
      rfl
    · rw [List.map_cons, List.foldl_cons, List.foldl_cons,
        m.add_eq hsystem (fun h => htells.mpr (hmlegible h)), hfound]

end PrintedMount

namespace PrintedMount

/-- The first of some mounts that lacks a source. -/
def LacksSourceFirst (m : PrintedMount) (mounts : List PrintedMount) : Prop :=
  ∃ front behind, mounts = front ++ m :: behind ∧ (∀ other ∈ front, ¬ other.LacksSource) ∧
    m.LacksSource

end PrintedMount

namespace CgroupMounts

open Text PrintedMount

variable {path rootfs : Path} {w : World} {mounts : List PrintedMount}

/-- The hierarchies among mounts, seen below `rootfs`. -/
def ofMounts (rootfs : Path) (mounts : List PrintedMount) : CgroupMounts :=
  ofRecords rootfs (mounts.map PrintedMount.record)

/-- A path leads to the table of some mounts. -/
def IsTable (path : Path) (mounts : List PrintedMount) (w : World) : Prop :=
  w.files.openFile path = .ok (.content (encode (printTable mounts)))

instance : Decidable (IsTable path mounts w) := inferInstanceAs (Decidable (_ = _))

/-- A line whose source is empty makes the table malformed, unless a line before it already does. -/
theorem outcome_readTable_of_lacksSource {m : PrintedMount} (htable : IsTable path mounts w)
    (hfirst : m.LacksSourceFirst mounts) :
    (readTable path rootfs).outcome w =
      .error (.failed (.malformed path (.missingBehind .superOptions m.print))) := by
  obtain ⟨front, behind, rfl, hfront, h⟩ := hfirst
  rw [outcome_readTable, htable]
  simp only [Lines.ofOpened, Lines.ofBytes_encode, m.readLines_of_lacksSource path hfront h]

/-- Where all sources are there and the lines of cgroups are legible, the mounts are read as they
were printed. -/
theorem outcome_readTable_of_legible (htable : IsTable path mounts w)
    (hsources : ∀ m ∈ mounts, ¬ m.LacksSource) (hlegible : ∀ m ∈ mounts, m.IsCgroup → m.IsLegible) :
    (readTable path rootfs).outcome w =
      if (ofMounts rootfs mounts).isEmpty then .error (.failed (.noCgroups path))
      else .ok (ofMounts rootfs mounts) := by
  obtain ⟨records, hrecords, hfound⟩ := exists_records path rootfs hsources hlegible
  have hmounts : ofRecords rootfs records = ofMounts rootfs mounts := hfound .none
  rw [outcome_readTable, htable]
  simp only [Lines.ofOpened, Lines.ofBytes_encode, hrecords, hmounts]

end CgroupMounts

namespace Cgroup

variable {units : HostUnits} {settings : Settings} {names : List Text} {w : World}

/-- The mount table of the first process. -/
def firstTable (rootfs : Path) : Path := Path.below rootfs "/proc/1/mountinfo".toList

/-- A malformed table of the first process keeps the accounting from being set up. -/
theorem outcome_ofSettings_of_malformed {path : Path} {error : MountLineError}
    (hroot : w.files.readDirectory settings.rootfs = .ok names)
    (h : (CgroupMounts.readTable (firstTable settings.rootfs) settings.rootfs).outcome w =
      .error (.failed (.malformed path error))) :
    (Accounting.ofSettings units settings).outcome w =
      .error (.failed (.mounts (.malformed path error))) := by
  have hfind : (findMounts settings.rootfs).outcome w =
      .error (.failed (.mounts (.malformed path error))) := by
    rw [firstTable] at h
    rw [findMounts, outcome_attempt_bind, h]
    rfl
  rw [Accounting.ofSettings, outcome_bind_of_ok (outcome_files w), hroot]
  exact outcome_bind_eq_error.mpr (Or.inl hfind)

/-- The accounting is set up with the mounts in the table of the first process. -/
theorem exists_accounting_of_mounts {mounts : CgroupMounts}
    (hroot : w.files.readDirectory settings.rootfs = .ok names)
    (h : (CgroupMounts.readTable (firstTable settings.rootfs) settings.rootfs).outcome w =
      .ok mounts) :
    ∃ accounting, (Accounting.ofSettings units settings).outcome w = .ok accounting ∧
      accounting.locator.mounts = mounts := by
  have hfind : (findMounts settings.rootfs).outcome w = .ok mounts := by
    rw [firstTable] at h
    rw [findMounts, outcome_attempt_bind, h]
    rfl
  rw [Accounting.ofSettings, outcome_bind_of_ok (outcome_files w), hroot]
  dsimp only
  rw [outcome_bind_of_ok hfind]
  exact ⟨_, rfl, rfl⟩

end Cgroup

/-- A printed mount is read unless nothing is left of its source, and then with its type. It is
found where it is exactly if its paths have no white space but what is escaped. A mount without a
source, whatever it is, makes its table malformed, so that no accounting is set up. Without such a
mount, the hierarchies are those that are mounted, if these are legible. -/
theorem printedMounts_readBack (mounts : List PrintedMount) :
    (∀ m ∈ mounts,
      (m.LacksSource →
        MountRecord.read m.print = .error (.missingBehind .superOptions m.print)) ∧
      (¬ m.LacksSource → ∃ record, MountRecord.read m.print = .ok record ∧
        record.fileSystem = m.fileSystem ∧ (m.Tells record ↔ m.IsLegible))) ∧
    (∀ (path rootfs : Path) (w : World), CgroupMounts.IsTable path mounts w →
      (∀ m : PrintedMount, m.LacksSourceFirst mounts →
        (CgroupMounts.readTable path rootfs).outcome w =
          .error (.failed (.malformed path (.missingBehind .superOptions m.print)))) ∧
      ((∀ m ∈ mounts, ¬ m.LacksSource) → (∀ m ∈ mounts, m.IsCgroup → m.IsLegible) →
        (CgroupMounts.readTable path rootfs).outcome w =
          if (CgroupMounts.ofMounts rootfs mounts).isEmpty then .error (.failed (.noCgroups path))
          else .ok (CgroupMounts.ofMounts rootfs mounts))) ∧
    ∀ (units : HostUnits) (settings : Cgroup.Settings) (w : World) (names : List Text),
      w.files.readDirectory settings.rootfs = .ok names →
      CgroupMounts.IsTable (Cgroup.firstTable settings.rootfs) mounts w →
      (∀ m : PrintedMount, m.LacksSourceFirst mounts →
        (Cgroup.Accounting.ofSettings units settings).outcome w =
          .error (.failed (.mounts (.malformed (Cgroup.firstTable settings.rootfs)
            (.missingBehind .superOptions m.print))))) ∧
      ((∀ m ∈ mounts, ¬ m.LacksSource) → (∀ m ∈ mounts, m.IsCgroup → m.IsLegible) →
        (CgroupMounts.ofMounts settings.rootfs mounts).isEmpty = false →
        ∃ accounting, (Cgroup.Accounting.ofSettings units settings).outcome w = .ok accounting ∧
          accounting.locator.mounts = CgroupMounts.ofMounts settings.rootfs mounts) := by
  refine ⟨fun m _ => ⟨m.read_print_of_lacksSource, m.exists_read_print⟩, ?_, ?_⟩
  · intro path rootfs w htable
    exact ⟨fun m => CgroupMounts.outcome_readTable_of_lacksSource htable,
      CgroupMounts.outcome_readTable_of_legible htable⟩
  · intro units settings w names hroot htable
    refine ⟨fun m hfirst => ?_, fun hsources hlegible hsome => ?_⟩
    · exact Cgroup.outcome_ofSettings_of_malformed hroot
        (CgroupMounts.outcome_readTable_of_lacksSource htable hfirst)
    · refine Cgroup.exists_accounting_of_mounts hroot ?_
      rw [CgroupMounts.outcome_readTable_of_legible htable hsources hlegible, hsome]
      rfl

section Tables

open KernelSampler CgroupMounts Cgroup PrintedMount

/-- A mount of the root of a file system. -/
private def mounted (mountPoint : Path) (fileSystem source : Text)
    (h : Path.isAbsolute mountPoint = true) (hsystem : Text.IsWord fileSystem) : PrintedMount where
  mountId := 36
  parentId := 35
  major := 0
  minor := 30
  root := "/".toList
  mountPoint
  options := "rw".toList
  optionalFields := ["shared:7".toList]
  fileSystem
  source
  superOptions := "rw".toList
  root_absolute := rfl
  mountPoint_absolute := h
  options_plain := by decide
  optionalFields_plain := by decide
  fileSystem_word := hsystem
  superOptions_word := by decide

/-- The unified hierarchy at a mount point. -/
private def hierarchyAt (mountPoint : Path) (h : Path.isAbsolute mountPoint = true) :
    PrintedMount :=
  mounted mountPoint "cgroup2".toList "none".toList h (by decide)

/-- A file system in memory with a source of one's own. -/
private def scratch (source : Text) : PrintedMount :=
  mounted "/mnt/my files".toList "tmpfs".toList source rfl (by decide)

/-- A kernel whose first process has some mounts. -/
private def showingMounts (mounts : List PrintedMount) : World := ⟨kernelTree [
  (Text.items '/' "proc/1/mountinfo".toList, .file (Text.encode (printTable mounts)))], ⟨0⟩⟩

private def cgroups : PrintedMount := hierarchyAt "/sys/fs/cgroup".toList rfl

private def ordinary : List PrintedMount :=
  [scratch "my files".toList, hierarchyAt "/sys/fs/c group".toList rfl]

/-- Spaces in paths and sources do no harm. -/
theorem printedMounts_readBack_spaces :
    ∃ accounting,
      (Accounting.ofSettings .usual {}).outcome (showingMounts ordinary) = .ok accounting ∧
      accounting.locator.mounts.unified = some ⟨"/sys/fs/c group".toList, "/".toList⟩ := by
  obtain ⟨-, -, hsettings⟩ := printedMounts_readBack ordinary
  have htable : IsTable (firstTable "/".toList) ordinary (showingMounts ordinary) := by
    decide +kernel
  obtain ⟨-, hfound⟩ := hsettings .usual {} (showingMounts ordinary) ["proc".toList]
    (by decide +kernel) htable
  have hsources : ∀ m ∈ ordinary, ¬ m.LacksSource := by decide +kernel
  have hlegible : ∀ m ∈ ordinary, m.IsLegible := by
    rw [ordinary, List.forall_mem_cons, List.forall_mem_singleton]
    exact ⟨⟨by decide, by decide, by decide⟩, ⟨by decide, by decide, by decide⟩⟩
  obtain ⟨accounting, haccounting, hmounts⟩ :=
    hfound hsources (fun m hm _ => hlegible m hm) (by decide +kernel)
  exact ⟨accounting, haccounting, by rw [hmounts]; decide +kernel⟩

/-- A file system in memory whose source is empty keeps the hierarchy beside it from being found. A
no-break space in its mount point misplaces a hierarchy. -/
theorem printedMounts_not_readBack :
    (scratch []).print = "36 35 0:30 / /mnt/my\\040files rw shared:7 - tmpfs  rw".toList ∧
    MountRecord.read (scratch []).print =
      .error (.missingBehind .superOptions (scratch []).print) ∧
    ((Accounting.ofSettings .usual {}).outcome (showingMounts [cgroups])).isOk = true ∧
    (Accounting.ofSettings .usual {}).outcome (showingMounts [cgroups, scratch []]) =
      .error (.failed (.mounts (.malformed "/proc/1/mountinfo".toList
        (.missingBehind .superOptions (scratch []).print)))) ∧
    (MountRecord.read (hierarchyAt "/cg\u00a0x".toList rfl).print).map
      MountRecord.decodedMountPoint = .ok "/cg".toList := by
  refine ⟨?_, ?_, ?_, ?_, ?_⟩ <;> decide +kernel

end Tables

end ProcessMeter
