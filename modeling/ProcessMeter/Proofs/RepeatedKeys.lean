import Mathlib.Tactic.IntervalCases
import ProcessMeter.Proofs.ConsideredPairs
import ProcessMeter.Proofs.KeyedFiles

/-!
# Keys that a file states twice

Of the files with keys and values, each line states at most one key, the lines with unknown keys
do not count, and no known key may be stated twice. Reading stops where the last known key has
been found, so a repetition is found exactly where it stands before that. Where it stands behind,
the file is read as if it ended there.
-/

namespace ProcessMeter

namespace Text

/-- The line starts with the key and the value behind it. -/
def States (key value line : Text) : Prop := ∃ more, words line = key :: value :: more

/-- The line starts with the key and some value behind it. -/
def StatesKey (key line : Text) : Prop := ∃ value, States key value line

/-- A line states a key if that is its first word and another one stands behind it. -/
theorem statesKey_iff {key line : Text} :
    StatesKey key line ↔ (words line).head? = some key ∧ 2 ≤ (words line).length := by
  unfold StatesKey States
  match words line with
  | [] => simp
  | [_] => simp
  | first :: value :: more => simp [eq_comm]

instance (key line : Text) : Decidable (StatesKey key line) :=
  decidable_of_iff _ statesKey_iff.symm

end Text

open Text

/-- Where each line holds one pair of words, the pair that counts is what the line states. -/
theorem KeyFormat.mem_considered_plain {key value line : Text} :
    (key, value) ∈ plain.considered line ↔ States key value line := by
  rw [← pairs_eq_considered, States]
  match hwords : words line with
  | [] => simp [pairs, plain, hwords, couples]
  | [_] => simp [pairs, plain, hwords, couples]
  | first :: second :: more => simp [pairs, plain, hwords, couples, eq_comm]

/-- In the plain layout a line has one pair at most, so any two are related. -/
private theorem KeyFormat.pairwise_considered_plain (R : Text × Text → Text × Text → Prop)
    (line : Text) : (plain.considered line).Pairwise R := by
  have hlength : (plain.considered line).length ≤ 1 := by
    rw [← pairs_eq_considered]
    simp [pairs, plain]
  generalize plain.considered line = pairs at hlength
  rcases pairs with _ | ⟨pair, _ | ⟨other, rest⟩⟩
  · exact List.Pairwise.nil
  · exact List.pairwise_singleton R pair
  · simp at hlength

namespace KeyFormat

variable (format : KeyFormat)

/-- The lines behind are counted on from those in front. -/
theorem stated_append (number : Nat) (front behind : List Text) :
    format.stated number (front ++ behind) =
      format.stated number front ++ format.stated (number + front.length) behind := by
  simp [stated, List.zipIdx_append]

/-- The first lines state what the whole file states on them. -/
theorem take_stated (number count : Nat) (lines : List Text) :
    (format.stated number lines).take count = format.stated number (lines.take count) := by
  induction lines generalizing number count with
  | nil => simp
  | cons line rest ih =>
    cases count with
    | zero => rfl
    | succ count => simp only [stated_cons, List.take_succ_cons, ih]

/-- Each line states something, be it nothing at all. -/
@[simp] theorem length_stated (number : Nat) (lines : List Text) :
    (format.stated number lines).length = lines.length := by
  simp [stated]

/-- Line by line, what is stated are the pairs that count. -/
theorem map_flatten_stated (number : Nat) (lines : List Text) :
    (format.stated number lines).flatten.map (fun s => (s.key, s.value)) =
      lines.flatMap format.considered := by
  induction lines generalizing number with
  | nil => rfl
  | cons line rest ih =>
    have hline : (format.considered line).map
        ((fun s : Statement => (s.key, s.value)) ∘ fun p => ⟨number, p.1, p.2⟩) =
        format.considered line := List.map_id _
    rw [stated_cons, List.flatten_cons, List.map_append, ih, List.flatMap_cons, List.map_map]
    exact congrArg (· ++ _) hline

/-- Statements carry the numbers of their lines. -/
theorem line_of_mem_stated {number : Nat} {lines : List Text} {s : Statement}
    (h : s ∈ (format.stated number lines).flatten) :
    number ≤ s.line ∧ s.line < number + lines.length := by
  induction lines generalizing number with
  | nil => simp at h
  | cons line rest ih =>
    rw [stated_cons, List.flatten_cons, List.mem_append] at h
    rcases h with h | h
    · obtain ⟨pair, -, rfl⟩ := List.mem_map.mp h
      simp
    · have hrest := ih h
      simp only [List.length_cons]
      omega

end KeyFormat

namespace KeyTable

variable {σ : Type} {table : KeyTable σ}

/-- What lines state about known keys are numbers, and no known key is stated twice. -/
structure StatesOnce (table : KeyTable σ) (lines : List Text) : Prop where
  /-- The values of known keys are numbers of 64 bits. -/
  numbers : ∀ line ∈ lines, ∀ key ∈ table.keys, ∀ value, States key value line →
    ∃ n, Numeral.read64 value = .ok n
  /-- Two lines do not state the same known key. -/
  once : lines.Pairwise fun line line' =>
    ∀ key ∈ table.keys, ¬ (StatesKey key line ∧ StatesKey key line')

/-- Every known key is stated on some of the lines. -/
def StatesAll (table : KeyTable σ) (lines : List Text) : Prop :=
  ∀ key ∈ table.keys, ∃ line ∈ lines, StatesKey key line

instance (table : KeyTable σ) (lines : List Text) : Decidable (table.StatesAll lines) :=
  inferInstanceAs (Decidable (∀ key ∈ table.keys, ∃ line ∈ lines, StatesKey key line))

/-- A table of a file that has one pair on a line, no key twice, and may have unknown keys. -/
structure IsListing (table : KeyTable σ) : Prop where
  /-- A line holds one key and its value, and no key may repeat. -/
  format : table.format = .plain
  /-- Unknown keys are passed over. -/
  lenient : ∀ key value line, table.unknown key value line = .ok ()
  /-- No known key is listed twice. -/
  keys_nodup : table.keys.Nodup
  /-- There is a known key. -/
  keys_ne_nil : table.keys ≠ []

/-- A statement of a listing is fine if its key is unknown, or new with a number that fits. -/
theorem IsListing.not_offends_iff (h : table.IsListing) {earlier : List Statement} {s : Statement} :
    (∀ error, ¬ table.Offends earlier s error) ↔
      (s.key ∈ table.keys →
        (∃ n, Numeral.read64 s.value = .ok n) ∧ s.key ∉ earlier.map Statement.key) := by
  have hrepeats : table.format.repeats = false := by rw [h.format]; rfl
  constructor
  · intro hfine hknown
    cases hvalue : Numeral.read64 s.value with
    | error cause => exact absurd (.notNumber hknown hvalue) (hfine _)
    | ok n => exact ⟨⟨n, rfl⟩, fun hmem => hfine _ (.repeated hknown hvalue hrepeats hmem)⟩
  · rintro hfine error (⟨_, hanswer⟩ | ⟨hknown, hbad⟩ | ⟨hknown, _, _, hmem⟩)
    · simp [h.lenient] at hanswer
    · obtain ⟨⟨n, hvalue⟩, -⟩ := hfine hknown
      simp [hvalue] at hbad
    · exact (hfine hknown).2 hmem

/-- One more statement leaves the file clean exactly if it does not offend. -/
theorem clean_concat_iff {statements : List Statement} {s : Statement} :
    table.Clean (statements ++ [s]) ↔
      table.Clean statements ∧ ∀ error, ¬ table.Offends statements s error :=
  ⟨fun h => ⟨fun front t hbegins => h front t (hbegins.trans (List.prefix_append _ _)),
    h statements s List.prefix_rfl⟩, fun h => h.1.concat h.2⟩

/-- Statements are without offence if the values of known keys are numbers and no known key occurs
twice. -/
theorem IsListing.clean_iff (h : table.IsListing) (statements : List Statement) :
    table.Clean statements ↔
      (∀ s ∈ statements, s.key ∈ table.keys → ∃ n, Numeral.read64 s.value = .ok n) ∧
        statements.Pairwise fun s t => t.key ∈ table.keys → s.key ≠ t.key := by
  induction statements using List.reverseRecOn with
  | nil => simp [Clean]
  | append_singleton statements s ih =>
    rw [clean_concat_iff, ih, h.not_offends_iff, List.pairwise_append]
    simp only [List.forall_mem_append, List.mem_singleton, forall_eq, List.mem_map, not_exists,
      not_and, List.pairwise_singleton, true_and]
    grind

namespace IsListing

variable (h : table.IsListing)
include h

/-- Lines are without offence if what they state are numbers, each key once. -/
theorem clean_stated_iff (number : Nat) (lines : List Text) :
    table.Clean (table.format.stated number lines).flatten ↔ table.StatesOnce lines := by
  let R (p q : Text × Text) : Prop := q.1 ∈ table.keys → p.1 ≠ q.1
  have hpairs := table.format.map_flatten_stated number lines
  have hnumbers : (∀ s ∈ (table.format.stated number lines).flatten, s.key ∈ table.keys →
      ∃ n, Numeral.read64 s.value = .ok n) ↔
      ∀ p ∈ lines.flatMap table.format.considered, p.1 ∈ table.keys →
        ∃ n, Numeral.read64 p.2 = .ok n := by
    rw [← hpairs, List.forall_mem_map]
  have honce : (table.format.stated number lines).flatten.Pairwise
      (fun s t => t.key ∈ table.keys → s.key ≠ t.key) ↔
      (lines.flatMap table.format.considered).Pairwise R := by
    rw [← hpairs, List.pairwise_map]
  rw [h.clean_iff, hnumbers, honce, h.format, List.pairwise_flatMap]
  constructor
  · rintro ⟨hnumbers, -, honce⟩
    refine ⟨fun line hline key hkey value hstates => ?_, honce.imp ?_⟩
    · exact hnumbers (key, value)
        (List.mem_flatMap.mpr ⟨line, hline, KeyFormat.mem_considered_plain.mpr hstates⟩) hkey
    · rintro line line' hapart key hkey ⟨⟨value, hstates⟩, value', hstates'⟩
      exact hapart (key, value) (KeyFormat.mem_considered_plain.mpr hstates) (key, value')
        (KeyFormat.mem_considered_plain.mpr hstates') hkey rfl
  · rintro ⟨hnumbers, honce⟩
    refine ⟨?_, fun line _ => KeyFormat.pairwise_considered_plain R line, honce.imp ?_⟩
    · rintro ⟨key, value⟩ hmem hkey
      obtain ⟨line, hline, hpair⟩ := List.mem_flatMap.mp hmem
      exact hnumbers line hline key hkey value (KeyFormat.mem_considered_plain.mp hpair)
    · rintro line line' hapart ⟨key, value⟩ hpair ⟨key', value'⟩ hpair' hkey rfl
      exact hapart key hkey ⟨⟨value, KeyFormat.mem_considered_plain.mp hpair⟩, value',
        KeyFormat.mem_considered_plain.mp hpair'⟩

/-- Nothing is left to read behind lines that state every known key. -/
theorem isFull_stated_iff (number : Nat) (lines : List Text) :
    table.IsFull (table.format.stated number lines).flatten ↔ table.StatesAll lines := by
  have hrepeats : table.format.repeats = false := by rw [h.format]; rfl
  have hkeys : (table.format.stated number lines).flatten.map Statement.key =
      (lines.flatMap table.format.considered).map Prod.fst := by
    rw [← table.format.map_flatten_stated number lines, List.map_map]
    rfl
  rw [IsFull, and_iff_right hrepeats, hkeys, h.format]
  refine forall₂_congr fun key _ => ?_
  simp only [List.mem_map, List.mem_flatMap, StatesKey, ← KeyFormat.mem_considered_plain]
  constructor
  · rintro ⟨⟨key, value⟩, ⟨line, hline, hpair⟩, rfl⟩
    exact ⟨line, hline, value, hpair⟩
  · rintro ⟨line, hline, value, hpair⟩
    exact ⟨(key, value), ⟨line, hline, hpair⟩, rfl⟩

/-- The statements of a file are those of its lines, counted from one. -/
theorem statements_eq (text : Text) :
    table.format.statements text = table.format.stated 1 (rawLines text) := by
  rw [KeyFormat.statements, h.format]
  rfl

/-- What is read are the first lines of the file. -/
theorem exists_take_of_readsUpTo {text : Text} {front : List (List Statement)}
    (hstop : table.ReadsUpTo (table.format.statements text) front) :
    ∃ count ≤ (rawLines text).length,
      front = table.format.stated 1 ((rawLines text).take count) := by
  have hbegins := hstop.begins
  rw [h.statements_eq] at hbegins
  refine ⟨front.length, ?_, ?_⟩
  · simpa using hbegins.length_le
  · rw [← KeyFormat.take_stated]
    exact List.prefix_iff_eq_take.mp hbegins

omit h in
/-- What the first lines state once, fewer lines state once. -/
private theorem StatesOnce.take_of_le {lines : List Text} {count count' : Nat}
    (honce : table.StatesOnce (lines.take count')) (hle : count ≤ count') :
    table.StatesOnce (lines.take count) := by
  have hsub : lines.take count <+: lines.take count' := List.take_prefix_take_left hle
  exact ⟨fun line hline => honce.numbers line (hsub.subset hline),
    honce.once.sublist hsub.sublist⟩

/-- Reading does not go beyond lines that state every known key, nor beyond the end of the file. -/
private theorem count_le {text : Text} {count count' : Nat}
    (hcount : count ≤ (rawLines text).length)
    (hstop : table.ReadsUpTo (table.format.statements text)
      (table.format.stated 1 ((rawLines text).take count)))
    (hend : (rawLines text).length ≤ count' ∨ table.StatesAll ((rawLines text).take count')) :
    count ≤ count' := by
  rcases hend with hend | hall
  · omega
  · by_contra hgt
    have hshort : table.format.stated 1 ((rawLines text).take count') <+:
        table.format.stated 1 ((rawLines text).take count) := by
      rw [← KeyFormat.take_stated, ← KeyFormat.take_stated]
      exact List.take_prefix_take_left (by omega)
    have hne : table.format.stated 1 ((rawLines text).take count') ≠
        table.format.stated 1 ((rawLines text).take count) := by
      intro heq
      have hlength := congrArg List.length heq
      simp only [KeyFormat.length_stated, List.length_take] at hlength
      omega
    exact hstop.earliest _ hshort hne ((h.isFull_stated_iff 1 _).mpr hall)

/-- A file is read exactly if the lines state each known key at most once, as numbers, up to its
end or to where every known key has been stated. -/
theorem exists_record_iff (fresh : σ) (text : Text) :
    (∃ record, table.read fresh (Lines.ofBytes (encode text)) = .ok record) ↔
      ∃ count, table.StatesOnce ((rawLines text).take count) ∧
        ((rawLines text).length ≤ count ∨ table.StatesAll ((rawLines text).take count)) := by
  obtain ⟨front, hstop, hreads⟩ := exists_reads h.keys_nodup h.keys_ne_nil fresh text
  obtain ⟨count, hcount, rfl⟩ := h.exists_take_of_readsUpTo hstop
  generalize table.read fresh (Lines.ofBytes (encode text)) = result at hreads
  constructor
  · rintro ⟨record, rfl⟩
    cases hreads with
    | record hclean =>
      refine ⟨count, (h.clean_stated_iff 1 _).mp hclean, ?_⟩
      rcases hstop.stops with hend | hfull
      · left
        have hlength := congrArg List.length hend
        rw [h.statements_eq, KeyFormat.length_stated, KeyFormat.length_stated,
          List.length_take] at hlength
        omega
      · right
        exact (h.isFull_stated_iff 1 _).mp hfull
  · rintro ⟨count', honce, hend⟩
    have hle : count ≤ count' := h.count_le hcount hstop hend
    have hclean : table.Clean (table.format.stated 1 ((rawLines text).take count)).flatten :=
      (h.clean_stated_iff 1 _).mpr (StatesOnce.take_of_le honce hle)
    cases hreads with
    | failure hsplit _ hoffends => exact absurd hoffends (hclean _ _ hsplit _)
    | record => exact ⟨_, rfl⟩

end IsListing

/-- A complaint about a known key on one of the first lines: that it is stated again, or that its
value is no number of 64 bits. -/
inductive Complains (table : KeyTable σ) (last : Nat) : StatError → Prop
  | again {key : Text} {line : Nat} (known : key ∈ table.keys) (within : line ≤ last) :
    Complains table last (.duplicateField key line)
  | notNumber {key value : Text} {line : Nat} {cause : NumeralError} (known : key ∈ table.keys)
    (within : line ≤ last) : Complains table last (.invalidKeyValue key value line cause)

/-- A file that is not read is refused for a known key. If there is something wrong with the first
lines, the key is on one of these. -/
theorem IsListing.exists_complaint (h : table.IsListing) (fresh : σ) {text : Text}
    (hbad : ∀ record, table.read fresh (Lines.ofBytes (encode text)) ≠ .ok record) {last : Nat}
    (hlast : ¬ table.StatesOnce ((rawLines text).take last)) :
    ∃ error, table.read fresh (Lines.ofBytes (encode text)) = .error (.malformed error) ∧
      table.Complains last error := by
  obtain ⟨upTo, hstop, hreads⟩ := exists_reads h.keys_nodup h.keys_ne_nil fresh text
  generalize table.read fresh (Lines.ofBytes (encode text)) = result at hbad hreads ⊢
  cases hreads with
  | record => exact absurd rfl (hbad _)
  | @failure front s error hsplit hclean hoffends =>
    have hwithin : s.line ≤ last := by
      by_contra hbeyond
      let first := (table.format.stated 1 ((rawLines text).take last)).flatten
      have hfirst : first <+: (table.format.statements text).flatten := by
        rw [h.statements_eq]
        have hsplit := table.format.stated_append 1 ((rawLines text).take last)
          ((rawLines text).drop last)
        rw [List.take_append_drop] at hsplit
        rw [hsplit, List.flatten_append]
        exact List.prefix_append _ _
      have hall : front ++ [s] <+: (table.format.statements text).flatten := by
        obtain ⟨behind, hbehind⟩ := hstop.begins
        rw [← hbehind, List.flatten_append]
        exact hsplit.trans (List.prefix_append _ _)
      have hnot : s ∉ first := by
        intro hmem
        have hline := (table.format.line_of_mem_stated hmem).2
        rw [List.length_take] at hline
        omega
      have hlength : first.length ≤ front.length := by
        by_contra hlonger
        have hinside : front ++ [s] <+: first :=
          List.prefix_of_prefix_length_le hall hfirst (by simp; omega)
        exact hnot (hinside.subset (by simp))
      have hbefore : first <+: front := List.prefix_of_prefix_length_le hfirst
        ((List.prefix_append _ _).trans hall) hlength
      have hfine : table.Clean first := fun front t hbegins =>
        hclean front t (hbegins.trans hbefore)
      exact hlast ((h.clean_stated_iff 1 _).mp hfine)
    refine ⟨error, rfl, ?_⟩
    cases hoffends with
    | rejected _ hanswer => simp [h.lenient] at hanswer
    | notNumber hknown => exact .notNumber hknown hwithin
    | repeated hknown => exact .again hknown hwithin

end KeyTable

namespace KeyedFile

open KeyTable

/-- All files of keys and values are listings. -/
theorem table_isListing (file : KeyedFile) : file.table.IsListing := by
  obtain ⟨fresh, -, hdecodes⟩ := file.exists_decodes
  have hmodes (units : HostUnits) :
      (legacyModes units).table.keys = ["user".toList, "system".toList] :=
    Legacy.ModeTimes.table_keys units
  refine ⟨hdecodes.format, hdecodes.lenient, ?_, ?_⟩
  · cases file with
    | legacyModes units =>
      rw [hmodes]
      decide
    | _ => decide
  · cases file with
    | legacyModes units =>
      rw [hmodes]
      decide
    | _ => decide

/-- The line of the given number, counted from zero, states the key. -/
def StatesAt (text : Text) (number : Nat) (key : Text) : Prop :=
  ∃ line, (rawLines text)[number]? = some line ∧ StatesKey key line

/-- Lines that state each key once do not reach the second line that states some key. -/
private theorem le_of_statesOnce {σ : Type} {table : KeyTable σ} {text : Text} {key : Text}
    (hkey : key ∈ table.keys) {i j : Nat} (hij : i < j) (hi : StatesAt text i key)
    (hj : StatesAt text j key) {count : Nat}
    (honce : table.StatesOnce ((rawLines text).take count)) : count ≤ j := by
  obtain ⟨line, hline, hstates⟩ := hi
  obtain ⟨line', hline', hstates'⟩ := hj
  by_contra hgt
  have hi' : ((rawLines text).take count)[i]? = some line := by
    rw [List.getElem?_take_of_lt (by omega), hline]
  have hj' : ((rawLines text).take count)[j]? = some line' := by
    rw [List.getElem?_take_of_lt (by omega), hline']
  obtain ⟨hilt, rfl⟩ := List.getElem?_eq_some_iff.mp hi'
  obtain ⟨hjlt, rfl⟩ := List.getElem?_eq_some_iff.mp hj'
  exact List.pairwise_iff_getElem.mp honce.once i j hilt hjlt hij key hkey ⟨hstates, hstates'⟩

/-- **Repeated keys.** A file is read exactly if its lines state each known key at most once, as
numbers, up to its end or to a line by which every known key has been stated. So if two lines state
one known key, the second of them is not reached, or the file is refused for a known key on it or
before: because of the repetition, unless there is a value before that is no number. -/
theorem readLines_repeated (file : KeyedFile) (text : Text) :
    let read := file.readLines (Lines.ofBytes (encode text))
    let front (count : Nat) := (rawLines text).take count
    ((∃ record, read = .ok record) ↔
      ∃ count, file.table.StatesOnce (front count) ∧
        ((rawLines text).length ≤ count ∨ file.table.StatesAll (front count))) ∧
    ∀ key ∈ file.table.keys, ∀ i j, i < j → StatesAt text i key → StatesAt text j key →
      (∀ count, file.table.StatesOnce (front count) → count ≤ j) ∧
      ((∀ count ≤ j, file.table.StatesOnce (front count) → ¬ file.table.StatesAll (front count)) →
        ∃ error, read = .error (.malformed error) ∧ file.table.Complains (j + 1) error) := by
  intro read front
  obtain ⟨fresh, hread, -⟩ := file.exists_decodes
  have hlisting := file.table_isListing
  have hiff := hlisting.exists_record_iff fresh text
  rw [← hread] at hiff
  refine ⟨hiff, fun key hkey i j hij hi hj => ?_⟩
  have hlt : j < (rawLines text).length := by
    obtain ⟨line', hline', -⟩ := hj
    exact (List.getElem?_eq_some_iff.mp hline').1
  have hbefore : ∀ count, file.table.StatesOnce (front count) → count ≤ j := fun count =>
    le_of_statesOnce hkey hij hi hj
  refine ⟨hbefore, fun hopen => ?_⟩
  have hbad : ∀ record, file.table.read fresh (Lines.ofBytes (encode text)) ≠ .ok record := by
    intro record hrecord
    rw [← hread] at hrecord
    obtain ⟨count, honce, hend⟩ := hiff.mp ⟨record, hrecord⟩
    have hle := hbefore count honce
    rcases hend with hend | hall
    · omega
    · exact hopen count hle honce hall
  have hlast : ¬ file.table.StatesOnce ((rawLines text).take (j + 1)) := fun honce =>
    absurd (hbefore (j + 1) honce) (by omega)
  obtain ⟨error, herror, hcomplains⟩ := hlisting.exists_complaint fresh hbad hlast
  exact ⟨error, (congrFun hread _).trans herror, hcomplains⟩

/-- The key `user` comes again while `system` is missing, so the file is refused. -/
theorem readLines_repeated_user :
    let text := "user 1\nuser 2\nsystem 3\n".toList
    "user".toList ∈ (legacyModes .usual).table.keys ∧ 0 < 1 ∧ StatesAt text 0 "user".toList ∧
      StatesAt text 1 "user".toList ∧
      (∀ count ≤ 1, (legacyModes .usual).table.StatesOnce ((rawLines text).take count) →
        ¬ (legacyModes .usual).table.StatesAll ((rawLines text).take count)) ∧
      ∃ error,
        (legacyModes .usual).readLines (Lines.ofBytes (encode text)) = .error (.malformed error) ∧
        (legacyModes .usual).table.Complains 2 error := by
  intro text
  have hkey : "user".toList ∈ (legacyModes .usual).table.keys := by decide
  have hfirst : StatesAt text 0 "user".toList := ⟨"user 1\n".toList, by decide, by decide⟩
  have hsecond : StatesAt text 1 "user".toList := ⟨"user 2\n".toList, by decide, by decide⟩
  have hopen : ∀ count ≤ 1, (legacyModes .usual).table.StatesOnce ((rawLines text).take count) →
      ¬ (legacyModes .usual).table.StatesAll ((rawLines text).take count) := by
    intro count hcount _
    interval_cases count <;> decide
  obtain ⟨-, hrepeated⟩ := readLines_repeated (legacyModes .usual) text
  exact ⟨hkey, Nat.zero_lt_one, hfirst, hsecond, hopen,
    (hrepeated _ hkey 0 1 Nat.zero_lt_one hfirst hsecond).2 hopen⟩

/-- The key `user` comes again where both keys are known, and the file is read nevertheless. -/
theorem readLines_repeated_unseen :
    let text := "user 1\nsystem 2\nuser 3\n".toList
    "user".toList ∈ (legacyModes .usual).table.keys ∧ StatesAt text 0 "user".toList ∧
      StatesAt text 2 "user".toList ∧
      (legacyModes .usual).readLines (Lines.ofBytes (encode text)) =
        .ok { user := HostUnits.usual.ticks 1, system := HostUnits.usual.ticks 2 } := by
  intro text
  refine ⟨by decide, ⟨"user 1\n".toList, by decide, by decide⟩,
    ⟨"user 3\n".toList, by decide, by decide⟩, ?_⟩
  rw [Lines.ofBytes_encode]
  decide

end KeyedFile

end ProcessMeter
