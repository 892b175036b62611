import Mathlib.Data.List.Infix
import ProcessMeter.Proofs.KeyedLines

/-!
# What a reader of keys and values goes through

Each line behind the header states some pairs, which depend on its words and on the layout alone. A
table takes the statements in file order. The first one that offends against those before it is
reported, and where keys may not repeat, the line that completes the known keys is the last one that
is read. Whatever the layout and the table, this is all that a reader does.
-/

namespace ProcessMeter

namespace KeyFormat

/-- The pairs that count on a line. The first words of the line hold none. Where a character joins
key and value, they are the words with that character, cut at its first occurrence, and if a line
holds one pair, only the first word is asked. Otherwise key and value are two words in a row, and
an odd last word is left out. -/
def considered (format : KeyFormat) (line : Text) : List (Text × Text) :=
  let tokens := (Text.words line).drop format.headerWords
  match format.separator with
  | some c =>
    ((if format.manyPerLine then tokens else tokens.take 1).filter (c ∈ ·)).map fun token =>
      (token.takeWhile (· ≠ c), (token.dropWhile (· ≠ c)).tail)
  | none =>
    let count := tokens.length / 2
    (List.range (if format.manyPerLine then count else min 1 count)).map fun i =>
      (tokens.getD (2 * i) [], tokens.getD (2 * i + 1) [])

/-- The couples of a list are its tokens taken two by two. -/
private theorem couples_eq (tokens : List Text) :
    couples tokens = (List.range (tokens.length / 2)).map fun i =>
      (tokens.getD (2 * i) [], tokens.getD (2 * i + 1) []) := by
  fun_induction couples tokens with
  | case1 key value rest ih =>
    have hlength : (key :: value :: rest).length / 2 = rest.length / 2 + 1 := by
      simp only [List.length_cons]
      omega
    have hnext (i : Nat) : (key :: value :: rest).getD (2 * (i + 1)) [] = rest.getD (2 * i) [] ∧
        (key :: value :: rest).getD (2 * (i + 1) + 1) [] = rest.getD (2 * i + 1) [] := by
      rw [show 2 * (i + 1) = 2 * i + 1 + 1 by omega]
      exact ⟨rfl, rfl⟩
    rw [hlength, List.range_succ_eq_map, List.map_cons, List.map_map, ih]
    refine congrArg _ (List.map_congr_left fun i _ => ?_)
    obtain ⟨hkey, hvalue⟩ := hnext i
    exact Prod.ext hkey.symm hvalue.symm
  | case2 tokens hshort =>
    match tokens, hshort with
    | [], _ => rfl
    | [token], _ => simp
    | key :: value :: rest, hshort => exact absurd rfl (hshort key value rest)

/-- The pairs that are read off a line are those that count. -/
theorem pairs_eq_considered (format : KeyFormat) (line : Text) :
    format.pairs line = format.considered line := by
  unfold pairs considered
  cases format.separator with
  | some c =>
    dsimp only
    rw [← List.filterMap_eq_map, ← List.filterMap_eq_filter, List.filterMap_filterMap]
    refine List.filterMap_congr fun token _ => ?_
    by_cases hmem : c ∈ token <;> simp [Text.cut_eq, Option.guard, hmem]
  | none =>
    dsimp only
    rw [couples_eq]
    cases format.manyPerLine with
    | true => rfl
    | false => simp [← List.map_take, List.take_range]

/-- What lines state, line by line, where the first line has the given number. -/
def stated (format : KeyFormat) (number : Nat) (lines : List Text) : List (List Statement) :=
  (lines.zipIdx number).map fun (line, number) =>
    (format.considered line).map fun (key, value) => ⟨number, key, value⟩

/-- What a file states, line by line. The lines behind the header are numbered from 1 on. -/
def statements (format : KeyFormat) (text : Text) : List (List Statement) :=
  format.stated 1 ((Text.rawLines text).drop format.headerLines)

/-- Without lines nothing is stated. -/
@[simp] theorem stated_nil (format : KeyFormat) (number : Nat) : format.stated number [] = [] := rfl

/-- Each line states its pairs under its own number. -/
theorem stated_cons (format : KeyFormat) (number : Nat) (line : Text) (rest : List Text) :
    format.stated number (line :: rest) =
      (format.considered line).map (fun (key, value) => ⟨number, key, value⟩) ::
        format.stated (number + 1) rest := rfl

end KeyFormat

namespace KeyTable

variable {σ : Type}

/-- What is wrong with a statement behind earlier ones. -/
inductive Offends (table : KeyTable σ) (earlier : List Statement) (s : Statement) :
    StatError → Prop
  /-- The key is not known, and unknown keys like this one are not passed over. -/
  | rejected {error : StatError} (unknown : s.key ∉ table.keys)
    (answer : table.unknown s.key s.value s.line = .error error) : Offends table earlier s error
  /-- The value of a known key is no number of 64 bits. -/
  | notNumber {cause : NumeralError} (known : s.key ∈ table.keys)
    (value : Numeral.read64 s.value = .error cause) :
    Offends table earlier s (.invalidKeyValue s.key s.value s.line cause)
  /-- A known key has a number again, where no key may repeat. -/
  | repeated {n : Nat} (known : s.key ∈ table.keys) (value : Numeral.read64 s.value = .ok n)
    (once : table.format.repeats = false) (before : s.key ∈ earlier.map Statement.key) :
    Offends table earlier s (.duplicateField s.key s.line)

/-- No statement offends against those before it. -/
def Clean (table : KeyTable σ) (statements : List Statement) : Prop :=
  ∀ front s, front ++ [s] <+: statements → ∀ error, ¬ table.Offends front s error

/-- The record with what a statement says about a known key. -/
def assign (table : KeyTable σ) (record : σ) (s : Statement) : σ :=
  match table.fields.lookup s.key, Numeral.read64 s.value with
  | some effect, .ok n => effect n record
  | _, _ => record

/-- What comes of statements: the first offence, or the record with all of them. -/
inductive Reads (table : KeyTable σ) (fresh : σ) (statements : List Statement) :
    Except ReadFailure σ → Prop
  | failure {front : List Statement} {s : Statement} {error : StatError}
    (split : front ++ [s] <+: statements) (clean : table.Clean front)
    (offends : table.Offends front s error) :
    Reads table fresh statements (.error (.malformed error))
  | record (clean : table.Clean statements) :
    Reads table fresh statements (.ok (statements.foldl table.assign fresh))

/-- No key may repeat, and every known key occurs. -/
def IsFull (table : KeyTable σ) (statements : List Statement) : Prop :=
  table.format.repeats = false ∧ ∀ key ∈ table.keys, key ∈ statements.map Statement.key

/-- The lines that are read: as far as the end of the file, or of the first line by whose end
nothing is left to read. -/
structure ReadsUpTo (table : KeyTable σ) (lines front : List (List Statement)) : Prop where
  /-- Lines are read from the start. -/
  begins : front <+: lines
  /-- Reading stops where the file ends or nothing is left to read. -/
  stops : front = lines ∨ table.IsFull front.flatten
  /-- It did not stop earlier. -/
  earliest : ∀ shorter, shorter <+: front → shorter ≠ front → ¬ table.IsFull shorter.flatten

section Uniqueness

variable {table : KeyTable σ} {earlier : List Statement} {s : Statement}

/-- A statement offends in one way only. -/
theorem Offends.unique {error error' : StatError} (h : table.Offends earlier s error)
    (h' : table.Offends earlier s error') : error = error' := by
  cases h with
  | rejected unknown answer =>
    cases h' with
    | rejected _ answer' => exact Except.error.inj (answer.symm.trans answer')
    | notNumber known => exact absurd known unknown
    | repeated known => exact absurd known unknown
  | notNumber known value =>
    cases h' with
    | rejected unknown => exact absurd known unknown
    | notNumber _ value' => rw [Except.error.inj (value.symm.trans value')]
    | repeated _ value' => simp [value] at value'
  | repeated known value =>
    cases h' with
    | rejected unknown => exact absurd known unknown
    | notNumber _ value' => simp [value] at value'
    | repeated => rfl

/-- There is one first offence at most. -/
private theorem first_unique {statements front front' : List Statement} {s s' : Statement}
    {error error' : StatError} (hfront : front ++ [s] <+: statements) (hclean : table.Clean front)
    (h : table.Offends front s error) (hfront' : front' ++ [s'] <+: statements)
    (hclean' : table.Clean front') (h' : table.Offends front' s' error') :
    front ++ [s] = front' ++ [s'] := by
  rcases Nat.lt_trichotomy front.length front'.length with hlt | heq | hgt
  · have hshort : front ++ [s] <+: front' :=
      List.prefix_of_prefix_length_le hfront ((List.prefix_append _ _).trans hfront')
        (by simpa using Nat.succ_le_of_lt hlt)
    exact absurd h (hclean' front s hshort error)
  · have hsame : front ++ [s] <+: front' ++ [s'] :=
      List.prefix_of_prefix_length_le hfront hfront' (by simp [heq])
    exact hsame.eq_of_length (by simp [heq])
  · have hshort : front' ++ [s'] <+: front :=
      List.prefix_of_prefix_length_le hfront' ((List.prefix_append _ _).trans hfront)
        (by simpa using Nat.succ_le_of_lt hgt)
    exact absurd h' (hclean front' s' hshort error')

/-- One thing only comes of statements. -/
theorem Reads.unique {fresh : σ} {statements : List Statement}
    {result result' : Except ReadFailure σ}
    (h : table.Reads fresh statements result) (h' : table.Reads fresh statements result') :
    result = result' := by
  cases h with
  | @failure front s error hfront hclean hoffends =>
    cases h' with
    | @failure front' s' error' hfront' hclean' hoffends' =>
      have hsame := first_unique hfront hclean hoffends hfront' hclean' hoffends'
      obtain ⟨rfl, hs⟩ := List.append_inj' hsame rfl
      obtain rfl := List.singleton_inj.mp hs
      rw [hoffends.unique hoffends']
    | record hall => exact absurd hoffends (hall front s hfront error)
  | record hall =>
    cases h' with
    | @failure front s error hfront _ hoffends => exact absurd hoffends (hall front s hfront error)
    | record => rfl

/-- Reading stops at one place only. -/
theorem ReadsUpTo.unique {lines front front' : List (List Statement)}
    (h : table.ReadsUpTo lines front) (h' : table.ReadsUpTo lines front') : front = front' := by
  have hshorter {short long : List (List Statement)} (hs : table.ReadsUpTo lines short)
      (hl : table.ReadsUpTo lines long) (hle : short <+: long) : short = long := by
    by_contra hne
    rcases hs.stops with hend | hfull
    · exact hne (hle.eq_of_length_le (hend ▸ hl.begins.length_le))
    · exact hl.earliest short hle hne hfull
  rcases Nat.le_total front.length front'.length with hle | hle
  · exact hshorter h h' (List.prefix_of_prefix_length_le h.begins h'.begins hle)
  · exact (hshorter h' h
      (List.prefix_of_prefix_length_le h'.begins h.begins hle)).symm

end Uniqueness

section Steps

variable {table : KeyTable σ} {fresh : σ} {taken : List Statement} {progress : Progress σ}

/-- The progress after statements none of which offends. -/
structure Progress.Represents (table : KeyTable σ) (fresh : σ) (taken : List Statement)
    (progress : Progress σ) : Prop where
  /-- No statement offends against those before it. -/
  clean : table.Clean taken
  /-- A key that was seen is counted once. -/
  seen_nodup : progress.seen.Nodup
  /-- The keys seen are the known ones that were stated. -/
  mem_seen : ∀ key, key ∈ progress.seen ↔ key ∈ table.keys ∧ key ∈ taken.map Statement.key
  /-- The record has all that was stated. -/
  record_eq : progress.record = taken.foldl table.assign fresh

open Progress

/-- One more statement that does not offend leaves the statements clean. -/
theorem Clean.concat (h : table.Clean taken) {s : Statement}
    (hs : ∀ error, ¬ table.Offends taken s error) : table.Clean (taken ++ [s]) := by
  intro front t hbegins error
  rcases List.prefix_concat_iff.mp hbegins with heq | hshort
  · obtain ⟨rfl, ht⟩ := List.append_inj' heq rfl
    obtain rfl := List.singleton_inj.mp ht
    exact hs error
  · exact h front t hshort error

/-- At the start nothing is taken. -/
theorem represents_start : Represents table fresh [] ⟨[], fresh⟩ where
  clean front s hbegins := by simp at hbegins
  seen_nodup := List.nodup_nil
  mem_seen key := by simp
  record_eq := rfl

/-- A statement that offends is reported. -/
theorem take_of_offends (h : Represents table fresh taken progress) {s : Statement}
    {error : StatError} (hoffends : table.Offends taken s error) :
    table.take s.line progress (s.key, s.value) = .error error := by
  cases hoffends with
  | rejected hunknown hanswer => simp [take, lookup_of_not_mem_keys hunknown, hanswer]
  | notNumber hknown hvalue =>
    obtain ⟨effect, hlookup, -⟩ := exists_lookup_of_mem_keys hknown
    simp [take, hlookup, hvalue]
  | repeated hknown hvalue honce hbefore =>
    obtain ⟨effect, hlookup, -⟩ := exists_lookup_of_mem_keys hknown
    have hseen : s.key ∈ progress.seen := (h.mem_seen _).mpr ⟨hknown, hbefore⟩
    simp [take, hlookup, hvalue, hseen, honce]

/-- A statement about a known key that does not offend is a number, and it is new where no key may
repeat. -/
private theorem exists_take_of_known (h : Represents table fresh taken progress) {s : Statement}
    (hknown : s.key ∈ table.keys) (hfine : ∀ error, ¬ table.Offends taken s error) :
    ∃ progress', table.take s.line progress (s.key, s.value) = .ok progress' ∧
      Represents table fresh (taken ++ [s]) progress' := by
  obtain ⟨effect, hlookup, -⟩ := exists_lookup_of_mem_keys hknown
  cases hvalue : Numeral.read64 s.value with
  | error cause => exact absurd (.notNumber hknown hvalue) (hfine _)
  | ok n =>
    have hrecord : effect n progress.record = (taken ++ [s]).foldl table.assign fresh := by
      simp [assign, hlookup, hvalue, h.record_eq]
    by_cases hseen : s.key ∈ progress.seen
    · have hbefore : s.key ∈ taken.map Statement.key := ((h.mem_seen _).mp hseen).2
      have hrepeats : table.format.repeats = true := by
        by_contra hno
        exact hfine _ (.repeated hknown hvalue (Bool.not_eq_true _ ▸ hno) hbefore)
      refine ⟨⟨progress.seen, effect n progress.record⟩,
        by simp [take, hlookup, hvalue, hseen, hrepeats], h.clean.concat hfine, h.seen_nodup,
        fun key => ?_, hrecord⟩
      rw [h.mem_seen]
      grind
    · refine ⟨⟨s.key :: progress.seen, effect n progress.record⟩,
        by simp [take, hlookup, hvalue, hseen], h.clean.concat hfine,
        List.nodup_cons.mpr ⟨hseen, h.seen_nodup⟩, fun key => ?_, hrecord⟩
      rw [List.mem_cons, h.mem_seen]
      grind

/-- A statement that does not offend is taken in. -/
theorem exists_take_of_fine (h : Represents table fresh taken progress) {s : Statement}
    (hfine : ∀ error, ¬ table.Offends taken s error) :
    ∃ progress', table.take s.line progress (s.key, s.value) = .ok progress' ∧
      Represents table fresh (taken ++ [s]) progress' := by
  by_cases hknown : s.key ∈ table.keys
  · exact exists_take_of_known h hknown hfine
  · have hlookup := lookup_of_not_mem_keys hknown
    cases hanswer : table.unknown s.key s.value s.line with
    | error error => exact absurd (.rejected hknown hanswer) (hfine error)
    | ok =>
      refine ⟨progress, by simp [take, hlookup, hanswer], h.clean.concat hfine, h.seen_nodup,
        fun key => ?_, by simp [assign, hlookup, h.record_eq]⟩
      have hne : key ∈ table.keys → key ≠ s.key := by
        rintro hmem rfl
        exact hknown hmem
      rw [h.mem_seen]
      grind

/-- The statements of a line are taken in up to the first one that offends. -/
theorem takeAll_cases (h : Represents table fresh taken progress) {number : Nat}
    {line : List Statement} (hline : ∀ s ∈ line, s.line = number) :
    (∃ front s error, front ++ [s] <+: line ∧ table.Clean (taken ++ front) ∧
      table.Offends (taken ++ front) s error ∧
      table.takeAll number progress (line.map fun s => (s.key, s.value)) = .error error) ∨
    ∃ progress',
      table.takeAll number progress (line.map fun s => (s.key, s.value)) = .ok progress' ∧
      Represents table fresh (taken ++ line) progress' := by
  induction line generalizing taken progress with
  | nil => exact .inr ⟨progress, rfl, by simpa using h⟩
  | cons s rest ih =>
    obtain ⟨rfl, hrest⟩ := List.forall_mem_cons.mp hline
    by_cases hoffends : ∃ error, table.Offends taken s error
    · left
      obtain ⟨error, hoffends⟩ := hoffends
      refine ⟨[], s, error, ⟨rest, rfl⟩, by simpa using h.clean, by simpa using hoffends, ?_⟩
      simp [takeAll, take_of_offends h hoffends]
    · obtain ⟨next, htake, hnext⟩ := exists_take_of_fine h (not_exists.mp hoffends)
      have hall : table.takeAll s.line progress ((s :: rest).map fun s => (s.key, s.value)) =
          table.takeAll s.line next (rest.map fun s => (s.key, s.value)) := by
        simp [takeAll, htake]
      rcases ih hnext hrest with
        ⟨front, t, error, hbegins, hclean, hoffends, hresult⟩ | ⟨progress', hresult, hprogress⟩
      · left
        refine ⟨s :: front, t, error, ?_, ?_, ?_, hall.trans hresult⟩
        · exact (List.prefix_cons_inj s).mpr hbegins
        · simpa using hclean
        · simpa using hoffends
      · exact .inr ⟨progress', hall.trans hresult, by simpa using hprogress⟩

/-- Nothing is left to read exactly if no key may repeat and every known key was stated. -/
theorem isComplete_iff (hkeys : table.keys.Nodup) (h : Represents table fresh taken progress) :
    table.isComplete progress = true ↔ table.IsFull taken := by
  have hsubset : progress.seen ⊆ table.keys := fun key hkey => ((h.mem_seen key).mp hkey).1
  constructor
  · intro hcomplete
    have hall := subset_seen_of_isComplete h.seen_nodup hsubset hcomplete
    exact ⟨by simpa using (Bool.and_eq_true_iff.mp hcomplete).1,
      fun key hkey => ((h.mem_seen key).mp (hall hkey)).2⟩
  · rintro ⟨hrepeats, hstated⟩
    have hall : table.keys ⊆ progress.seen := fun key hkey =>
      (h.mem_seen key).mpr ⟨hkey, hstated key hkey⟩
    have hlength : progress.seen.length = table.keys.length :=
      Nat.le_antisymm (h.seen_nodup.subperm hsubset).length_le (hkeys.subperm hall).length_le
    simpa [isComplete, hrepeats, keys] using hlength

end Steps

section Lines

variable {table : KeyTable σ} {fresh : σ}

/-- Where nothing full was read so far, reading goes on to some line. -/
theorem exists_readsUpTo {done : List (List Statement)}
    (hopen : ∀ shorter, shorter <+: done → shorter ≠ done → ¬ table.IsFull shorter.flatten)
    (rest : List (List Statement)) :
    ∃ front, done <+: front ∧ table.ReadsUpTo (done ++ rest) front := by
  induction rest generalizing done with
  | nil => exact ⟨done, List.prefix_rfl, by simp, .inl (by simp), hopen⟩
  | cons line rest ih =>
    by_cases hfull : table.IsFull done.flatten
    · exact ⟨done, List.prefix_rfl, List.prefix_append _ _, .inr hfull, hopen⟩
    · have hopen' : ∀ shorter, shorter <+: done ++ [line] → shorter ≠ done ++ [line] →
          ¬ table.IsFull shorter.flatten := by
        intro shorter hbegins hne
        rcases List.prefix_concat_iff.mp hbegins with heq | hshorter
        · exact absurd heq hne
        · by_cases hdone : shorter = done
          · exact hdone ▸ hfull
          · exact hopen shorter hshorter hdone
      obtain ⟨front, hfront, hreads⟩ := ih hopen'
      refine ⟨front, (List.prefix_append _ _).trans hfront, ?_⟩
      simpa using hreads

/-- Lines behind those read so far are read on, by induction on the lines left. What was read has no
offence and is nowhere full. -/
private theorem exists_readFrom (hkeys : table.keys.Nodup) {done : List (List Statement)}
    {progress : Progress σ} (h : Progress.Represents table fresh done.flatten progress)
    (hopen : ∀ shorter, shorter <+: done → ¬ table.IsFull shorter.flatten) (number : Nat)
    (lines : List Text) :
    ∃ front, table.ReadsUpTo (done ++ table.format.stated number lines) front ∧
      table.Reads fresh front.flatten (table.readFrom number progress (lines.map .ok)) := by
  induction lines generalizing done progress number with
  | nil =>
    refine ⟨done, ⟨by simp, .inl (by simp), fun shorter hshorter _ => hopen shorter hshorter⟩, ?_⟩
    rw [List.map_nil, readFrom, h.record_eq]
    exact .record h.clean
  | cons text rest ih =>
    let line : List Statement := (table.format.considered text).map fun (key, value) =>
      ⟨number, key, value⟩
    have hstated : table.format.stated number (text :: rest) =
        line :: table.format.stated (number + 1) rest := KeyFormat.stated_cons ..
    have hpairs : table.format.pairs text = line.map fun s => (s.key, s.value) := by
      rw [KeyFormat.pairs_eq_considered, List.map_map]
      exact (List.map_id _).symm
    have hline : ∀ s ∈ line, s.line = number := by
      intro s hs
      obtain ⟨pair, -, rfl⟩ := List.mem_map.mp hs
      rfl
    have hstrict : ∀ shorter, shorter <+: done ++ [line] → shorter ≠ done ++ [line] →
        ¬ table.IsFull shorter.flatten := by
      intro shorter hbegins hne
      exact hopen shorter ((List.prefix_concat_iff.mp hbegins).resolve_left hne)
    have hflatten : (done ++ [line]).flatten = done.flatten ++ line := by simp
    have hlines : done ++ table.format.stated number (text :: rest) =
        done ++ [line] ++ table.format.stated (number + 1) rest := by simp [hstated]
    rw [List.map_cons, readFrom, hpairs, hlines]
    rcases takeAll_cases h hline with
      ⟨front, s, error, hbegins, hclean, hoffends, hresult⟩ | ⟨progress', hresult, hprogress⟩
    · obtain ⟨upTo, hextends, hreads⟩ := exists_readsUpTo hstrict
        (table.format.stated (number + 1) rest)
      refine ⟨upTo, hreads, ?_⟩
      have hsplit : done.flatten ++ front ++ [s] <+: upTo.flatten := by
        obtain ⟨more, rfl⟩ := hextends
        obtain ⟨behind, hbehind⟩ := hbegins
        exact ⟨behind ++ more.flatten, by simp [← hbehind]⟩
      rw [hresult]
      exact .failure hsplit hclean hoffends
    · rw [hresult]
      rw [← hflatten] at hprogress
      dsimp only
      split
      · next hcomplete =>
        have hfull := (isComplete_iff hkeys hprogress).mp hcomplete
        refine ⟨done ++ [line], ⟨List.prefix_append _ _, .inr hfull, hstrict⟩, ?_⟩
        rw [hprogress.record_eq]
        exact .record hprogress.clean
      · next hcomplete =>
        refine ih hprogress ?_ (number + 1)
        intro shorter hbegins hfull
        rcases List.prefix_concat_iff.mp hbegins with rfl | hshorter
        · exact hcomplete ((isComplete_iff hkeys hprogress).mpr hfull)
        · exact hopen shorter hshorter hfull

/-- The header of lines that can be read is skipped. -/
theorem skipHeader_ok (count : Nat) (lines : List Text) :
    skipHeader count (lines.map .ok) = .ok ((lines.drop count).map .ok) := by
  induction count generalizing lines with
  | zero => rfl
  | succ count ih =>
    cases lines with
    | nil => rfl
    | cons line rest => exact ih rest

/-- What reading a file comes to: the first offence up to where it stops, or the record. -/
theorem exists_reads (hkeys : table.keys.Nodup) (hsome : table.keys ≠ []) (fresh : σ)
    (text : Text) :
    ∃ front, table.ReadsUpTo (table.format.statements text) front ∧
      table.Reads fresh front.flatten (table.read fresh (Lines.ofBytes (Text.encode text))) := by
  have hopen : ∀ shorter, shorter <+: [] → ¬ table.IsFull shorter.flatten := by
    rintro shorter hbegins ⟨-, hall⟩
    obtain rfl := List.prefix_nil.mp hbegins
    obtain ⟨key, rest, heq⟩ := List.exists_cons_of_ne_nil hsome
    simpa using hall key (heq ▸ List.mem_cons_self)
  rw [Lines.ofBytes_encode, Lines.ofText, read, skipHeader_ok]
  exact exists_readFrom hkeys represents_start hopen 1 _

end Lines

/-- **Reading, pair by pair.** A table with distinct known keys, at least one, ends on a file in
exactly what its statements come to, up to the line where reading stops: the statements count in
the order of the file, and the first one that offends decides. -/
theorem read_eq_iff_reads (table : KeyTable σ) (hkeys : table.keys.Nodup) (hsome : table.keys ≠ [])
    (fresh : σ) (text : Text) (result : Except ReadFailure σ) :
    table.read fresh (Lines.ofBytes (Text.encode text)) = result ↔
      ∃ front, table.ReadsUpTo (table.format.statements text) front ∧
        table.Reads fresh front.flatten result := by
  obtain ⟨front, hstop, hreads⟩ := exists_reads hkeys hsome fresh text
  constructor
  · rintro rfl
    exact ⟨front, hstop, hreads⟩
  · rintro ⟨front', hstop', hreads'⟩
    obtain rfl := hstop.unique hstop'
    exact hreads.unique hreads'

/-- Two figures, each joined to its key, on lines of their own. Every line gives the name of a
device first, and a heading stands above. -/
def twoFigures : KeyTable (Nat × Nat) where
  format :=
    { separator := some '=', headerLines := 1, headerWords := 1, repeats := false,
      manyPerLine := false }
  fields := [("alpha".toList, fun n figures => (n, figures.2)),
    ("beta".toList, fun n figures => (figures.1, n))]

/-- Only the first word behind the name counts, and what follows the line that completes the figures
is not read. -/
theorem read_eq_iff_reads_twoFigures :
    twoFigures.keys.Nodup ∧ twoFigures.keys ≠ [] ∧
      let text := "alpha=0\nsda alpha=+1 beta=5\nsda x beta=7\nsda beta=2\nsda alpha=3\n".toList
      ∃ front, twoFigures.ReadsUpTo (twoFigures.format.statements text) front ∧
        twoFigures.Reads (0, 0) front.flatten (.ok (1, 2)) := by
  have hkeys : twoFigures.keys.Nodup := by decide
  have hsome : twoFigures.keys ≠ [] := by decide
  refine ⟨hkeys, hsome, (read_eq_iff_reads twoFigures hkeys hsome (0, 0) _ _).mp ?_⟩
  rw [Lines.ofBytes_encode]
  decide

end KeyTable

end ProcessMeter
