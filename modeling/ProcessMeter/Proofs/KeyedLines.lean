import Mathlib.Data.List.Perm.Subperm
import Mathlib.Data.List.TakeWhile
import Mathlib.Logic.Function.Basic
import ProcessMeter.Proofs.EncodedText
import ProcessMeter.Proofs.Printed
import ProcessMeter.Stat.KeyValue

/-!
# Files of keys and values, whatever the order

A file of keys and values states some of the known keys, each once, on lines in any order with
foreign lines between them. A table that reads such a file takes the statements in one by one. It
may stop before the end, but only where no statement is left.
-/

namespace ProcessMeter

/-- A pair that a file states. -/
structure Statement where
  /-- The number of the line. -/
  line : Nat
  /-- The key. -/
  key : Text
  /-- What stands for its value. -/
  value : Text
  deriving DecidableEq, Repr

namespace Text

/-- What holds of all characters of a text is decided by going through the text. -/
instance decidableForallMem (t : Text) (p : Char → Prop) [DecidablePred p] :
    Decidable (∀ c ∈ t, p c) :=
  List.decidableBAll p t

/-- What holds of the character that there may be is decided by looking at it. -/
instance decidableForallMemOption (found : Option Char) (p : Char → Prop) [DecidablePred p] :
    Decidable (∀ c ∈ found, p c) :=
  Option.decidableForallMem found

instance (t : Text) : Decidable (IsWord t) :=
  inferInstanceAs (Decidable (t ≠ [] ∧ ∀ c ∈ t, isBlank c = false))

/-- All characters are blanks. -/
def IsBlankText (t : Text) : Prop := ∀ c ∈ t, isBlank c = true

instance (t : Text) : Decidable (IsBlankText t) :=
  inferInstanceAs (Decidable (∀ c ∈ t, isBlank c = true))

/-- Only blanks are cut off completely, at one end or at both. -/
theorem trimEnd_eq_nil_iff {t : Text} : trimEnd t = [] ↔ IsBlankText t := by
  simp [trimEnd, trimEndWhile, IsBlankText]

/-- Nothing is left of a text without white space around it exactly if it is blank. -/
theorem trim_eq_nil_iff {t : Text} : trim t = [] ↔ IsBlankText t := by
  rw [trim, trimEnd_eq_nil_iff, trimStart]
  constructor
  · intro h
    have hnil : t.dropWhile isBlank = [] := by
      apply List.eq_nil_iff_forall_not_mem.mpr
      intro c hc
      have hhead := List.head_dropWhile_not isBlank (List.ne_nil_of_mem hc)
      rw [h _ (List.head_mem _)] at hhead
      contradiction
    exact List.dropWhile_eq_nil_iff.mp hnil
  · intro h c hc
    exact h c ((List.dropWhile_suffix isBlank).subset hc)

/-- What stands behind a character that is no blank stays where it is. -/
theorem trimStart_append_cons {c : Char} (hc : isBlank c = false) (s t : Text) :
    trimStart (s ++ c :: t) = trimStart s ++ c :: t := by
  rw [trimStart, trimStart]
  induction s with
  | nil => simp [hc]
  | cons d s ih =>
    rw [List.cons_append, List.dropWhile_cons, List.dropWhile_cons]
    split
    · exact ih
    · rfl

/-- Blanks in front of a text are cut off, and nothing else. -/
theorem trimStart_blank_append {lead name : Text} (hlead : IsBlankText lead)
    (hname : ∀ c ∈ name.head?, isBlank c = false) : trimStart (lead ++ name) = name := by
  rw [trimStart]
  induction lead with
  | nil =>
    cases name with
    | nil => rfl
    | cons c name => simp [hname c rfl]
  | cons c lead ih =>
    obtain ⟨hc, hrest⟩ := List.forall_mem_cons.mp hlead
    rw [List.cons_append, List.dropWhile_cons_of_pos hc]
    exact ih hrest

/-- A line whose first word is a key and whose second word is a value: blanks may stand in front of
the key, one or more stand behind it, and more words may follow. -/
inductive IsPairLine (key value : Text) : Text → Prop
  | intro {lead gap behind : Text} (lead_blank : IsBlankText lead) (gap_blank : IsBlankText gap)
    (gap_ne_nil : gap ≠ []) (behind_apart : ∀ c ∈ behind.head?, isBlank c = true) :
    IsPairLine key value (lead ++ (key ++ (gap ++ (value ++ behind))))

/-- Blanks in front of a text hold no words. -/
theorem words_blank_append {lead : Text} (h : IsBlankText lead) (t : Text) :
    words (lead ++ t) = words t := by
  induction lead with
  | nil => rfl
  | cons c lead ih =>
    obtain ⟨hc, hlead⟩ := List.forall_mem_cons.mp h
    rw [List.cons_append, ← ih hlead]
    exact words_append_cons hc [] _

/-- A word in front of a blank, or of nothing, is the first word. -/
theorem words_word_append {word rest : Text} (hword : IsWord word)
    (hrest : ∀ c ∈ rest.head?, isBlank c = true) : words (word ++ rest) = word :: words rest := by
  cases rest with
  | nil =>
    rw [List.append_nil, hword.words_eq]
    rfl
  | cons c rest =>
    have hc : isBlank c = true := hrest c rfl
    rw [words_append_cons hc, hword.words_eq]
    exact congrArg (word :: ·) (words_append_cons hc [] rest).symm

/-- The words of such a line are the key, the value and what follows. -/
theorem IsPairLine.words_eq {key value line : Text} (h : IsPairLine key value line)
    (hkey : IsWord key) (hvalue : IsWord value) :
    ∃ more, words line = key :: value :: more := by
  obtain @⟨lead, gap, behind, hlead, hgap, hne, hbehind⟩ := h
  have hapart : ∀ c ∈ (gap ++ (value ++ behind)).head?, isBlank c = true := by
    obtain ⟨c, gap, rfl⟩ := List.exists_cons_of_ne_nil hne
    simpa using hgap c List.mem_cons_self
  refine ⟨words behind, ?_⟩
  rw [words_blank_append hlead, words_word_append hkey hapart, words_blank_append hgap,
    words_word_append hvalue hbehind]

end Text

namespace KeyTable

variable {σ : Type}

/-- The known keys. -/
def keys (table : KeyTable σ) : List Text := table.fields.map Prod.fst

/-- A known key has an effect, and it is that of one of its fields. -/
theorem exists_lookup_of_mem_keys {table : KeyTable σ} {key : Text} (h : key ∈ table.keys) :
    ∃ effect, table.fields.lookup key = some effect ∧ (key, effect) ∈ table.fields := by
  cases hlookup : table.fields.lookup key with
  | none =>
    obtain ⟨field, hfield, rfl⟩ := List.mem_map.mp h
    simpa using List.lookup_eq_none_iff.mp hlookup field hfield
  | some effect =>
    obtain ⟨front, behind, hfields, -⟩ := List.lookup_eq_some_iff.mp hlookup
    exact ⟨effect, rfl, by simp [hfields]⟩

/-- An unknown key has no effect. -/
theorem lookup_of_not_mem_keys {table : KeyTable σ} {key : Text} (h : key ∉ table.keys) :
    table.fields.lookup key = none := by
  refine List.lookup_eq_none_iff.mpr fun field hfield => ?_
  rw [bne_iff_ne]
  rintro rfl
  exact h (List.mem_map_of_mem hfield)

/-- Where known keys are seen once each, counting them is enough to see that none is missing. -/
theorem subset_seen_of_isComplete {table : KeyTable σ} {progress : Progress σ}
    (hnodup : progress.seen.Nodup) (hsubset : progress.seen ⊆ table.keys)
    (hcomplete : table.isComplete progress = true) : table.keys ⊆ progress.seen := by
  have hlength : progress.seen.length = table.keys.length := by
    simpa [keys, isComplete] using (Bool.and_eq_true_iff.mp hcomplete).2
  exact ((hnodup.subperm hsubset).perm_of_length_le (Nat.le_of_eq hlength.symm)).symm.subset

/-- What lines state about the known keys, where `number` is the number of the first line. On every
other line the first word, if there is one, is no known key. -/
inductive Lists (table : KeyTable σ) : (number : Nat) → List Text → List Statement → Prop
  | nil (number : Nat) : Lists table number [] []
  | foreign {number : Nat} {line : Text} {rest : List Text} {statements : List Statement}
    (unknown : ∀ first ∈ (Text.words line).head?, first ∉ table.keys)
    (tail : Lists table (number + 1) rest statements) :
    Lists table number (line :: rest) statements
  | states {number : Nat} {key value line : Text} {rest : List Text}
    {statements : List Statement} (known : key ∈ table.keys) (word : Text.IsWord value)
    (pair : Text.IsPairLine key value line) (tail : Lists table (number + 1) rest statements) :
    Lists table number (line :: rest) (⟨number, key, value⟩ :: statements)

/-- The record after statements, where `values` are those known before them. The first value that is
no number is reported. -/
def outcome (assigned : (Text → Option Nat) → σ) (values : Text → Option Nat) :
    List Statement → Except ReadFailure σ
  | [] => .ok (assigned values)
  | s :: rest =>
    match Numeral.read64 s.value with
    | .ok n => outcome assigned (Function.update values s.key (some n)) rest
    | .error cause => .error (.malformed (.invalidKeyValue s.key s.value s.line cause))

/-- The statements say what the values of the keys are, as numbers of 64 bits in any spelling, and
no other key has one. -/
structure Assigns (statements : List Statement) (values : Text → Option Nat) : Prop where
  /-- Every value is a number. -/
  stated : ∀ s ∈ statements, ∃ n, Numeral.read64 s.value = .ok n ∧ values s.key = some n
  /-- Other keys have no value. -/
  unstated : ∀ key, key ∉ statements.map Statement.key → values key = none

section Outcome

variable {assigned : (Text → Option Nat) → σ} {before : Text → Option Nat}

/-- Numbers that are stated once are all assigned. -/
private theorem outcome_of_stated {statements : List Statement} {values : Text → Option Nat}
    (hstated : ∀ s ∈ statements, ∃ n, Numeral.read64 s.value = .ok n ∧ values s.key = some n)
    (hbefore : ∀ key, key ∉ statements.map Statement.key → values key = before key) :
    outcome assigned before statements = .ok (assigned values) := by
  induction statements generalizing before with
  | nil =>
    rw [outcome, show values = before from funext fun key => hbefore key List.not_mem_nil]
  | cons s rest ih =>
    obtain ⟨⟨n, hread, hvalue⟩, hrest⟩ := List.forall_mem_cons.mp hstated
    simp only [outcome, hread]
    refine ih hrest fun key hkey => ?_
    by_cases heq : key = s.key
    · rw [heq, hvalue, Function.update_self]
    · rw [Function.update_of_ne heq]
      exact hbefore key (by simp [heq, hkey])

/-- Statements of numbers assign them, in any order. -/
theorem Assigns.outcome_eq {statements : List Statement} {values : Text → Option Nat}
    (h : Assigns statements values) :
    outcome assigned (fun _ => none) statements = .ok (assigned values) :=
  outcome_of_stated h.stated h.unstated

end Outcome

/-- A table reads a record off the values of its keys: nothing is known of `fresh`, and each key
changes the record in what depends on its value. -/
structure Decodes (table : KeyTable σ) (fresh : σ) (assigned : (Text → Option Nat) → σ) :
    Prop where
  /-- A line holds one key and its value. -/
  format : table.format = .plain
  /-- Unknown keys are passed over. -/
  lenient : ∀ key value line, table.unknown key value line = .ok ()
  /-- Every key is a word. -/
  words : ∀ key ∈ table.keys, Text.IsWord key
  /-- The record without any value. -/
  start : assigned (fun _ => none) = fresh
  /-- The value of a key goes where the key belongs. -/
  effect : ∀ field ∈ table.fields, ∀ (n : Nat) (values : Text → Option Nat),
    field.2 n (assigned values) = assigned (Function.update values field.1 (some n))

namespace Decodes

variable {table : KeyTable σ} {fresh : σ} {assigned : (Text → Option Nat) → σ}

/-- A foreign line changes nothing. -/
private theorem takeAll_foreign (h : table.Decodes fresh assigned) {line : Text}
    (hline : ∀ first ∈ (Text.words line).head?, first ∉ table.keys) (number : Nat)
    (progress : Progress σ) :
    table.takeAll number progress (table.format.pairs line) = .ok progress := by
  simp only [h.format, KeyFormat.pairs, KeyFormat.plain, List.drop_zero, Bool.false_eq_true,
    if_false]
  match hwords : Text.words line with
  | [] => rfl
  | [_] => rfl
  | first :: value :: rest =>
    have hunknown := lookup_of_not_mem_keys (hline first (by simp [hwords]))
    simp [KeyFormat.couples, takeAll, take, hunknown, h.lenient]

/-- A line that states a key not seen yet is taken in. -/
private theorem takeAll_states (h : table.Decodes fresh assigned) {key value line : Text}
    (hknown : key ∈ table.keys) (hword : Text.IsWord value)
    (hpair : Text.IsPairLine key value line) (number : Nat) {seen : List Text}
    (hseen : key ∉ seen) (values : Text → Option Nat) :
    table.takeAll number ⟨seen, assigned values⟩ (table.format.pairs line) =
      match Numeral.read64 value with
      | .ok n => .ok ⟨key :: seen, assigned (Function.update values key (some n))⟩
      | .error cause => .error (.invalidKeyValue key value number cause) := by
  obtain ⟨more, hwords⟩ := hpair.words_eq (h.words key hknown) hword
  obtain ⟨effect, hlookup, hmem⟩ := exists_lookup_of_mem_keys hknown
  have heffect (n : Nat) : effect n (assigned values) = _ := h.effect _ hmem n values
  simp only [h.format, KeyFormat.pairs, KeyFormat.plain, List.drop_zero, Bool.false_eq_true,
    if_false, hwords, KeyFormat.couples, List.take_succ_cons, List.take_zero, takeAll, take,
    hlookup]
  cases Numeral.read64 value with
  | error cause => rfl
  | ok n => simp [hseen, heffect]

/-- Where every key has been seen, no statement is left. -/
private theorem eq_nil_of_isComplete {number : Nat} {lines : List Text}
    {statements : List Statement} (hlists : table.Lists number lines statements)
    {progress : Progress σ} (hnodup : progress.seen.Nodup) (hsubset : progress.seen ⊆ table.keys)
    (hapart : ∀ s ∈ statements, s.key ∉ progress.seen)
    (hcomplete : table.isComplete progress = true) : statements = [] := by
  have hknown : ∀ s ∈ statements, s.key ∈ table.keys := by
    clear hapart
    induction hlists with
    | nil => simp
    | foreign _ _ ih => exact ih
    | states known _ _ _ ih => exact List.forall_mem_cons.mpr ⟨known, ih⟩
  refine List.eq_nil_iff_forall_not_mem.mpr fun s hs => hapart s hs ?_
  exact subset_seen_of_isComplete hnodup hsubset hcomplete (hknown s hs)

/-- Lines are read as far as they state anything, by induction on what they state. The keys seen are
known ones, each counted once, and none of them is stated again. -/
private theorem readFrom_eq (h : table.Decodes fresh assigned) {number : Nat} {lines : List Text}
    {statements : List Statement} (hlists : table.Lists number lines statements)
    (honce : (statements.map Statement.key).Nodup) {seen : List Text} (hnodup : seen.Nodup)
    (hsubset : seen ⊆ table.keys) (hapart : ∀ s ∈ statements, s.key ∉ seen)
    (values : Text → Option Nat) :
    table.readFrom number ⟨seen, assigned values⟩ (lines.map .ok) =
      outcome assigned values statements := by
  induction hlists generalizing seen values with
  | nil => rfl
  | foreign unknown tail ih =>
    rw [List.map_cons, readFrom, h.takeAll_foreign unknown]
    dsimp only
    split
    · next hcomplete =>
      rw [eq_nil_of_isComplete tail hnodup hsubset hapart hcomplete]
      rfl
    · exact ih honce hnodup hsubset hapart values
  | @states number key value line rest statements known word pair tail ih =>
    obtain ⟨hkey, honce⟩ := List.nodup_cons.mp honce
    obtain ⟨hkeySeen, hapart⟩ := List.forall_mem_cons.mp hapart
    rw [List.map_cons, readFrom, h.takeAll_states known word pair number hkeySeen, outcome]
    cases Numeral.read64 value with
    | error cause => rfl
    | ok n =>
      have hnodup : (key :: seen).Nodup := List.nodup_cons.mpr ⟨hkeySeen, hnodup⟩
      have hsubset : key :: seen ⊆ table.keys := List.cons_subset.mpr ⟨known, hsubset⟩
      have hapart : ∀ s ∈ statements, s.key ∉ key :: seen := by
        intro s hs hmem
        rcases List.mem_cons.mp hmem with rfl | hmem
        · exact hkey (List.mem_map.mpr ⟨s, hs, rfl⟩)
        · exact hapart s hs hmem
      dsimp only
      split
      · next hcomplete =>
        rw [eq_nil_of_isComplete tail hnodup hsubset hapart hcomplete]
        rfl
      · exact ih honce hnodup hsubset hapart _

/-- A file that states each key at most once is read as its statements say. -/
theorem read_encode (h : table.Decodes fresh assigned) {text : Text}
    {statements : List Statement} (hlists : table.Lists 1 (Text.rawLines text) statements)
    (honce : (statements.map Statement.key).Nodup) :
    table.read fresh (Lines.ofBytes (Text.encode text)) =
      outcome assigned (fun _ => none) statements := by
  rw [Lines.ofBytes_encode, Lines.ofText, read, h.format, ← h.start]
  exact h.readFrom_eq hlists honce List.nodup_nil (List.nil_subset _)
    (fun _ _ => List.not_mem_nil) _

end Decodes

end KeyTable

end ProcessMeter
