import ProcessMeter.Process.Network
import ProcessMeter.Proofs.KeyedLines
import ProcessMeter.Proofs.StateGrammar

/-!
# Rows of network tables

A row of a network table gives the name of an interface, a colon and sixteen counters or more. This
file says which lines are rows and what is wrong with the others, and that a line is read exactly if
it is a row.
-/

namespace ProcessMeter

open Text

namespace Scalar

/-- Words are read as numbers exactly if each of them is one. -/
theorem mapM_number_eq_ok_iff {line : Nat} {words : List Text} {ns : List Nat} :
    words.mapM (number line) = .ok ns ↔ List.Forall₂ IsCount words ns := by
  induction words generalizing ns with
  | nil =>
    rw [List.mapM_nil, List.forall₂_nil_left_iff]
    exact ⟨fun h => (Except.ok.inj h).symm, fun h => h ▸ rfl⟩
  | cons word rest ih =>
    rw [List.mapM_cons, List.forall₂_cons_left_iff]
    constructor
    · intro h
      cases hword : number line word with
      | error error => simp [hword, bind, Except.bind] at h
      | ok n =>
        cases hrest : rest.mapM (number line) with
        | error error => simp [hword, hrest, bind, Except.bind] at h
        | ok ms =>
          simp only [hword, hrest] at h
          exact ⟨n, ms, number_eq_ok_iff.mp hword, ih.mp hrest, (Except.ok.inj h).symm⟩
    · rintro ⟨n, ms, hword, hrest, rfl⟩
      rw [number_eq_ok_iff.mpr hword, ih.mpr hrest]
      rfl

end Scalar

/-- Words are all numbers, or one of them is none. -/
private theorem counts_or (words : List Text) :
    (∃ ns, List.Forall₂ IsCount words ns) ∨ ∃ word ∈ words, ∀ n, ¬ IsCount word n := by
  induction words with
  | nil => exact Or.inl ⟨[], .nil⟩
  | cons word rest ih =>
    by_cases hword : ∃ n, IsCount word n
    · obtain ⟨n, hn⟩ := hword
      rcases ih with ⟨ns, hns⟩ | ⟨other, hmem, hnone⟩
      · exact Or.inl ⟨n :: ns, .cons hn hns⟩
      · exact Or.inr ⟨other, List.mem_cons_of_mem _ hmem, hnone⟩
    · exact Or.inr ⟨word, List.mem_cons_self, fun n hn => hword ⟨n, hn⟩⟩

namespace InterfaceCounters

/-- Counters are formed from their sixteen columns, and further columns are left aside. -/
theorem ofColumns?_eq_some_iff {columns : List Nat} {s : InterfaceCounters} :
    ofColumns? columns = some s ↔ ∃ more, columns = s.columns ++ more := by
  constructor
  · intro h
    unfold ofColumns? at h
    split at h
    · obtain rfl := Option.some.inj h
      exact ⟨_, rfl⟩
    · cases h
  · rintro ⟨more, rfl⟩
    rfl

/-- Sixteen columns are enough, and fewer are not. -/
theorem exists_ofColumns?_iff {columns : List Nat} :
    (∃ s, ofColumns? columns = some s) ↔ 16 ≤ columns.length := by
  constructor
  · rintro ⟨s, hs⟩
    obtain ⟨more, rfl⟩ := ofColumns?_eq_some_iff.mp hs
    simp [InterfaceCounters.columns]
  · intro h
    match columns, h with
    | _ :: _ :: _ :: _ :: _ :: _ :: _ :: _ :: _ :: _ :: _ :: _ :: _ :: _ :: _ :: _ :: _, _ =>
      exact ⟨_, rfl⟩

end InterfaceCounters

namespace NetworkCounters

/-- The line gives the counters of the interface: blanks, the name, a colon and at least sixteen
numbers of 64 bits between blanks. -/
inductive IsRow : Text → Text → InterfaceCounters → Prop where
  | intro {lead name figures : Text} {counters : InterfaceCounters} {more : List Nat}
    (lead_blank : IsBlankText lead) (name_first : ∀ c ∈ name.head?, isBlank c = false)
    (name_colon : ':' ∉ name)
    (counts : List.Forall₂ IsCount (words figures) (counters.columns ++ more)) :
    IsRow (lead ++ (name ++ ':' :: figures)) name counters

/-- What can be wrong with a line that gives no counters. -/
inductive IsMalformed : Text → Prop where
  /-- There is no colon. -/
  | colonless {line : Text} (colon : ':' ∉ line) : IsMalformed line
  /-- Behind the first colon stands a word that is no number of 64 bits. -/
  | nonsense {before figures word : Text} (colon : ':' ∉ before) (mem : word ∈ words figures)
    (word_count : ∀ n, ¬ IsCount word n) : IsMalformed (before ++ ':' :: figures)
  /-- Behind the first colon stand fewer than sixteen words. -/
  | few {before figures : Text} (colon : ':' ∉ before) (length : (words figures).length < 16) :
    IsMalformed (before ++ ':' :: figures)

/-- The characters that are left without the white space around a line are characters of it. -/
private theorem mem_of_mem_trim {line : Text} {c : Char} (h : c ∈ trim line) : c ∈ line := by
  have hend : c ∈ trimStart line := by
    rw [trim, trimEnd, trimEndWhile, List.mem_reverse] at h
    exact List.mem_reverse.mp (List.dropWhile_subset _ h)
  exact List.dropWhile_subset _ hend

/-- Cutting the blanks off a line changes what stands before its first colon only by the blanks in
front, and behind it the words stay. -/
private theorem cut_trim {before : Text} (hcolon : ':' ∉ before) (figures : Text) :
    cut ':' (trim (before ++ ':' :: figures)) = some (trimStart before, trimEnd figures) := by
  have htrim : trim (before ++ ':' :: figures) = trimStart before ++ ':' :: trimEnd figures := by
    rw [trim, trimStart_append_cons (by decide), trimEnd_append_cons (by decide)]
  have hfront : ':' ∉ trimStart before := fun h => hcolon (List.dropWhile_subset _ h)
  rw [htrim, cut_append_cons hfront]

variable {number : Nat} {line : Text}

/-- A row is read as its name and its counters. -/
theorem IsRow.readLine_eq {name : Text} {counters : InterfaceCounters}
    (h : IsRow line name counters) : readLine number line = .ok (name, counters) := by
  obtain ⟨hlead, hfirst, hcolon, hcounts⟩ := h
  rename_i lead figures more
  have hbefore : ':' ∉ lead ++ name := by
    intro hmem
    rcases List.mem_append.mp hmem with hmem | hmem
    · exact absurd (hlead _ hmem) (by decide)
    · exact hcolon hmem
  have hcut := cut_trim hbefore figures
  rw [trimStart_blank_append hlead hfirst, List.append_assoc] at hcut
  have hcolumns : InterfaceCounters.ofColumns? (counters.columns ++ more) = some counters :=
    InterfaceCounters.ofColumns?_eq_some_iff.mpr ⟨more, rfl⟩
  rw [readLine, hcut]
  simp only [words_trimEnd, Scalar.mapM_number_eq_ok_iff.mpr hcounts, hcolumns]

/-- A malformed line is refused. -/
theorem IsMalformed.readLine_eq (h : IsMalformed line) (number : Nat) :
    ∃ error, readLine number line = .error error := by
  cases h with
  | colonless hcolon =>
    have hcut : cut ':' (trim line) = Option.none :=
      cut_eq_none_iff.mpr fun hmem => hcolon (mem_of_mem_trim hmem)
    simp only [readLine, hcut]
    exact ⟨_, rfl⟩
  | @nonsense before figures word hcolon hmem hword =>
    simp only [readLine, cut_trim hcolon, words_trimEnd]
    cases hread : (words figures).mapM (Scalar.number number) with
    | error error => exact ⟨_, rfl⟩
    | ok columns =>
      -- every word would be a number
      have hcounts := Scalar.mapM_number_eq_ok_iff.mp hread
      obtain ⟨i, hi, rfl⟩ := List.mem_iff_getElem.mp hmem
      have hlength := hcounts.length_eq
      exact absurd (hcounts.get hi (hlength ▸ hi)) (hword _)
  | @few before figures hcolon hfew =>
    simp only [readLine, cut_trim hcolon, words_trimEnd]
    cases hread : (words figures).mapM (Scalar.number number) with
    | error error => exact ⟨_, rfl⟩
    | ok columns =>
      have hlength := (Scalar.mapM_number_eq_ok_iff.mp hread).length_eq
      dsimp only
      cases hcolumns : InterfaceCounters.ofColumns? columns with
      | none => exact ⟨_, rfl⟩
      | some counters =>
        have henough := InterfaceCounters.exists_ofColumns?_iff.mp ⟨counters, hcolumns⟩
        omega

/-- Every line is a row or malformed. -/
theorem row_or_malformed (line : Text) :
    (∃ name counters, IsRow line name counters) ∨ IsMalformed line := by
  cases hcut : cut ':' line with
  | none => exact Or.inr (.colonless (cut_eq_none_iff.mp hcut))
  | some parts =>
    obtain ⟨before, figures⟩ := parts
    obtain ⟨rfl, hcolon⟩ := cut_eq_some_iff.mp hcut
    rcases counts_or (words figures) with ⟨columns, hcounts⟩ | ⟨word, hmem, hword⟩
    · by_cases henough : 16 ≤ columns.length
      · obtain ⟨counters, hcounters⟩ := InterfaceCounters.exists_ofColumns?_iff.mpr henough
        obtain ⟨more, rfl⟩ := InterfaceCounters.ofColumns?_eq_some_iff.mp hcounters
        -- the blanks in front of the name are split off
        have hsplit : before = before.takeWhile isBlank ++ trimStart before :=
          (List.takeWhile_append_dropWhile).symm
        have hlead : IsBlankText (before.takeWhile isBlank) := fun c hc => List.mem_takeWhile_imp hc
        have hfirst : ∀ c ∈ (trimStart before).head?, isBlank c = false := by
          intro c hc
          have hkept := List.head?_dropWhile_not isBlank before
          rw [trimStart] at hc
          rw [hc] at hkept
          simpa using hkept
        have hname : ':' ∉ trimStart before := fun hmem => hcolon (List.dropWhile_subset _ hmem)
        have hrow := IsRow.intro hlead hfirst hname hcounts
        rw [← List.append_assoc, ← hsplit] at hrow
        exact Or.inl ⟨_, _, hrow⟩
      · have hlength := hcounts.length_eq
        exact Or.inr (.few hcolon (by omega))
    · exact Or.inr (.nonsense hcolon hmem hword)

/-- A row is not blank, since it has a colon. -/
theorem IsRow.not_isBlankText {name : Text} {counters : InterfaceCounters}
    (h : IsRow line name counters) : ¬ IsBlankText line := by
  intro hblank
  obtain ⟨-, -, -, -⟩ := h
  exact absurd (hblank ':' (by simp)) (by decide)

/-- A line is read exactly if it is a row. -/
theorem readLine_eq_ok_iff (number : Nat) {name : Text} {counters : InterfaceCounters} :
    readLine number line = .ok (name, counters) ↔ IsRow line name counters := by
  constructor
  · intro h
    rcases row_or_malformed line with ⟨name', counters', hrow⟩ | hbad
    · rw [hrow.readLine_eq] at h
      cases h
      exact hrow
    · obtain ⟨error, herror⟩ := hbad.readLine_eq number
      cases h.symm.trans herror
  · exact IsRow.readLine_eq

end NetworkCounters

end ProcessMeter
