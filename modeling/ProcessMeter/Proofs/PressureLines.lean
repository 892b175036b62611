import ProcessMeter.Cgroup.Pressure
import ProcessMeter.Proofs.CoalescedDevices
import ProcessMeter.Proofs.StateGrammar

/-!
# Lines of pressure files

Behind its first word a line of a pressure file gives up to four figures, each as a key, `=` and a
value. Of several figures for one key the last one counts, and a figure that the line does not give
is zero. The first word with a known key but no such figure is reported. All other words are passed
over.
-/

namespace ProcessMeter

open Text
open Unified (HasKey)

namespace Pressure

/-- The averages of a line. -/
inductive Average where
  | ten
  | sixty
  | threeHundred

namespace Average

/-- The key of an average. -/
def key : Average → Text
  | ten => "avg10".toList
  | sixty => "avg60".toList
  | threeHundred => "avg300".toList

/-- The average among the figures of a line. -/
def of : Average → Stall → Double
  | ten, stall => stall.average10
  | sixty, stall => stall.average60
  | threeHundred, stall => stall.average300

/-- The figures with this average replaced. -/
def put (x : Double) (stall : Stall) : Average → Stall
  | ten => { stall with average10 := x }
  | sixty => { stall with average60 := x }
  | threeHundred => { stall with average300 := x }

/-- An average that was stored is found. -/
@[simp] theorem of_put_self (average : Average) (x : Double) (stall : Stall) :
    average.of (average.put x stall) = x := by
  cases average <;> rfl

/-- Storing an average keeps the others, -/
theorem of_put_of_ne {average other : Average} (h : other ≠ average) (x : Double)
    (stall : Stall) : other.of (average.put x stall) = other.of stall := by
  cases average <;> cases other <;> first | rfl | exact absurd rfl h

/-- and it keeps the total. -/
@[simp] theorem total_put (average : Average) (x : Double) (stall : Stall) :
    (average.put x stall).total = stall.total := by
  cases average <;> rfl

/-- Storing the total keeps the averages. -/
@[simp] theorem of_total (average : Average) (stall : Stall) (total : Duration) :
    average.of { stall with total } = average.of stall := by
  cases average <;> rfl

/-- Different averages have different keys. -/
theorem key_injective {average other : Average} (h : average.key = other.key) :
    average = other := by
  cases average <;> cases other <;> first | rfl | exact absurd h (by decide)

end Average

/-- The key of the time waited in all. -/
def totalKey : Text := "total".toList

/-- No average has the key of the total. -/
theorem Average.key_ne_totalKey (average : Average) : average.key ≠ totalKey := by
  cases average <;> decide

/-- The word gives the average: behind its first `=` stands a decimal. -/
def GivesAverage (average : Average) (word : Text) (x : Double) : Prop :=
  ∃ value, word = average.key ++ '=' :: value ∧ Double.read value = .ok x

/-- The word gives the time waited: behind its first `=` stands a number of 64 bits, and the time is
that many microseconds. -/
def GivesTotal (word : Text) (total : Duration) : Prop :=
  ∃ value micros, word = totalKey ++ '=' :: value ∧ IsCount value micros ∧
    total.nanos = micros * 10 ^ 3

/-- The word has the key of a figure. -/
def HasFigure (word : Text) : Prop :=
  (∃ average : Average, HasKey average.key word) ∨ HasKey totalKey word

/-- A word with the key of a figure gives that figure. -/
structure IsSoundWord (word : Text) : Prop where
  average : ∀ average : Average, HasKey average.key word → ∃ x, GivesAverage average word x
  total : HasKey totalKey word → ∃ total, GivesTotal word total

/-- What is wrong with a word, as a complaint about the line of a number. -/
inductive WordFault (word : Text) : (Nat → StatError) → Prop where
  /-- What stands behind the first `=` is no decimal. -/
  | average (average : Average) {value : Text} {cause : DecimalError}
    (key : cut '=' word = .some (average.key, value))
    (value_faulty : Double.read value = .error cause) :
    WordFault word fun number => .invalidFloat average.key value number cause
  /-- What stands behind the first `=` is no number of 64 bits. -/
  | total {value : Text} {cause : NumeralError} (key : cut '=' word = .some (totalKey, value))
    (value_faulty : Numeral.read64 value = .error cause) :
    WordFault word fun number => .invalidValue value number cause

section Word

variable {word : Text} {number : Nat} {stall stall' : Stall} {error : StatError}

/-- A word has a key if that stands in front of its first `=`. -/
theorem hasKey_iff {key : Text} :
    HasKey key word ↔ ∃ value, cut '=' word = Option.some (key, value) := by
  simp only [cut_eq_some_iff, HasKey]
  constructor
  · rintro ⟨hkey, value, hword⟩
    exact ⟨value, hword, hkey⟩
  · rintro ⟨value, hword, hkey⟩
    exact ⟨hkey, value, hword⟩

/-- An average is read from a word with its key. -/
theorem takeWord_average {average : Average} {value : Text}
    (h : cut '=' word = .some (average.key, value)) :
    takeWord number stall word =
      (Pressure.average number average.key value).map fun x => average.put x stall := by
  cases average <;> simp only [takeWord, h] <;> rfl

/-- The time waited is read from a word with its key. -/
theorem takeWord_total {value : Text} (h : cut '=' word = .some (totalKey, value)) :
    takeWord number stall word =
      (Scalar.number number value).map fun n => { stall with total := .ofMicros n } := by
  simp only [takeWord, h]
  rfl

/-- Other words are passed over. -/
theorem takeWord_foreign (h : ¬ HasFigure word) : takeWord number stall word = .ok stall := by
  obtain ⟨haverage, htotal⟩ := not_or.mp h
  cases hcut : cut '=' word with
  | none => simp [takeWord, hcut]
  | some pair =>
    obtain ⟨key, value⟩ := pair
    have hkey : HasKey key word := hasKey_iff.mpr ⟨value, hcut⟩
    have hten : key ≠ "avg10".toList := by
      rintro rfl
      exact haverage ⟨.ten, hkey⟩
    have hsixty : key ≠ "avg60".toList := by
      rintro rfl
      exact haverage ⟨.sixty, hkey⟩
    have hthree : key ≠ "avg300".toList := by
      rintro rfl
      exact haverage ⟨.threeHundred, hkey⟩
    have hall : key ≠ "total".toList := by
      rintro rfl
      exact htotal hkey
    simp only [takeWord, hcut, if_neg hten, if_neg hsixty, if_neg hthree, if_neg hall]

/-- A word has the key of an average, that of the time waited, or neither. -/
theorem word_cases (word : Text) :
    (∃ (average : Average) (value : Text), cut '=' word = .some (average.key, value)) ∨
      (∃ value, cut '=' word = .some (totalKey, value)) ∨ ¬ HasFigure word := by
  by_cases h : HasFigure word
  · rcases h with ⟨average, h⟩ | h
    · exact .inl ⟨average, hasKey_iff.mp h⟩
    · exact .inr (.inl (hasKey_iff.mp h))
  · exact .inr (.inr h)

/-- A word is refused if it is at fault, whatever was read before. -/
theorem takeWord_eq_error_iff : takeWord number stall word = .error error ↔
    ∃ complaint, WordFault word complaint ∧ error = complaint number := by
  constructor
  · intro h
    rcases word_cases word with ⟨average, value, hcut⟩ | ⟨value, hcut⟩ | hforeign
    · rw [takeWord_average hcut, Pressure.average] at h
      cases hread : Double.read value with
      | ok x => simp [hread, Except.map] at h
      | error cause =>
        refine ⟨_, .average average hcut hread, ?_⟩
        simpa [hread, Except.map] using h.symm
    · rw [takeWord_total hcut, Scalar.number] at h
      cases hread : Numeral.read64 value with
      | ok n => simp [hread, Except.map] at h
      | error cause =>
        refine ⟨_, .total hcut hread, ?_⟩
        simpa [hread, Except.map] using h.symm
    · rw [takeWord_foreign hforeign] at h
      cases h
  · rintro ⟨complaint, hfault, rfl⟩
    cases hfault with
    | average average hcut hread =>
      simp [takeWord_average hcut, Pressure.average, hread, Except.map]
    | total hcut hread => simp [takeWord_total hcut, Scalar.number, hread, Except.map]

/-- What a word that is accepted does: it gives one figure or nothing. -/
theorem takeWord_eq_ok (h : takeWord number stall word = .ok stall') :
    (∃ (average : Average) (x : Double), GivesAverage average word x ∧
      stall' = average.put x stall) ∨
    (∃ total, GivesTotal word total ∧ stall' = { stall with total }) ∨
    (¬ HasFigure word ∧ stall' = stall) := by
  rcases word_cases word with ⟨average, value, hcut⟩ | ⟨value, hcut⟩ | hforeign
  · rw [takeWord_average hcut, Pressure.average] at h
    cases hread : Double.read value with
    | error cause => simp [hread, Except.map] at h
    | ok x =>
      refine .inl ⟨average, x, ⟨value, (cut_eq_some_iff.mp hcut).1, hread⟩, ?_⟩
      simpa [hread, Except.map] using h.symm
  · rw [takeWord_total hcut] at h
    cases hread : Scalar.number number value with
    | error cause => simp [hread, Except.map] at h
    | ok n =>
      have hcount : IsCount value n := Scalar.number_eq_ok_iff.mp hread
      have hgives : GivesTotal word (.ofMicros n) :=
        ⟨value, n, (cut_eq_some_iff.mp hcut).1, hcount, rfl⟩
      refine .inr (.inl ⟨.ofMicros n, hgives, ?_⟩)
      simpa [hread, Except.map] using h.symm
  · rw [takeWord_foreign hforeign] at h
    exact .inr (.inr ⟨hforeign, (Except.ok.inj h).symm⟩)

/-- A word that gives an average has its key. -/
theorem GivesAverage.hasKey {average : Average} {x : Double} (h : GivesAverage average word x) :
    HasKey average.key word := by
  obtain ⟨value, hword, -⟩ := h
  exact ⟨by cases average <;> decide, value, hword⟩

/-- A word that gives the total has the key of the total. -/
theorem GivesTotal.hasKey {total : Duration} (h : GivesTotal word total) :
    HasKey totalKey word := by
  obtain ⟨value, n, hword, -⟩ := h
  exact ⟨by decide, value, hword⟩

/-- A word gives an average one value only. -/
theorem GivesAverage.unique {average : Average} {x y : Double} (h : GivesAverage average word x)
    (h' : GivesAverage average word y) : x = y := by
  obtain ⟨value, rfl, hx⟩ := h
  obtain ⟨value', heq, hy⟩ := h'
  obtain rfl : value = value' := by simpa using heq
  exact Except.ok.inj (hx.symm.trans hy)

/-- A word gives one total only. -/
theorem GivesTotal.unique {total total' : Duration} (h : GivesTotal word total)
    (h' : GivesTotal word total') : total = total' := by
  obtain ⟨value, n, rfl, hn, htotal⟩ := h
  obtain ⟨value', n', heq, hn', htotal'⟩ := h'
  obtain rfl : value = value' := by simpa using heq
  obtain rfl := hn.unique hn'
  cases total
  cases total'
  exact congrArg Duration.mk (htotal.trans htotal'.symm)

/-- Only a word with the key of a figure can be at fault. -/
theorem WordFault.hasFigure {complaint : Nat → StatError} (h : WordFault word complaint) :
    HasFigure word := by
  cases h with
  | average average hcut => exact .inl ⟨average, hasKey_iff.mpr ⟨_, hcut⟩⟩
  | total hcut => exact .inr (hasKey_iff.mpr ⟨_, hcut⟩)

/-- A word is sound if nothing is wrong with it. -/
theorem isSoundWord_iff : IsSoundWord word ↔ ∀ complaint, ¬ WordFault word complaint := by
  constructor
  · rintro ⟨haverage, htotal⟩ complaint hfault
    cases hfault with
    | average average hcut hread =>
      obtain ⟨x, value, hword, hx⟩ := haverage average (hasKey_iff.mpr ⟨_, hcut⟩)
      obtain rfl : _ = value := by simpa [hword] using (cut_eq_some_iff.mp hcut).1.symm
      simp [hx] at hread
    | total hcut hread =>
      obtain ⟨total, value, n, hword, hcount, -⟩ := htotal (hasKey_iff.mpr ⟨_, hcut⟩)
      obtain rfl : _ = value := by simpa [hword] using (cut_eq_some_iff.mp hcut).1.symm
      have hn : Numeral.read64 _ = .ok n := Numeral.readUpTo_eq_ok_iff.mpr hcount
      simp [hn] at hread
  · intro hnone
    constructor
    · intro average hkey
      obtain ⟨value, hcut⟩ := hasKey_iff.mp hkey
      cases hread : Double.read value with
      | ok x => exact ⟨x, value, (cut_eq_some_iff.mp hcut).1, hread⟩
      | error cause => exact absurd (.average average hcut hread) (hnone _)
    · intro hkey
      obtain ⟨value, hcut⟩ := hasKey_iff.mp hkey
      cases hread : Numeral.read64 value with
      | ok n =>
        have hcount : IsCount value n := Numeral.readUpTo_eq_ok_iff.mp hread
        exact ⟨.ofMicros n, value, n, (cut_eq_some_iff.mp hcut).1, hcount, rfl⟩
      | error cause => exact absurd (.total hcut hread) (hnone _)

end Word

/-- What a line gives for each figure: the last word with its key, and zero without one. -/
structure Follows (words : List Text) (stall : Stall) : Prop where
  average : ∀ average : Average,
    LastTells (HasKey average.key) (GivesAverage average) words .zero (average.of stall)
  total : LastTells (HasKey totalKey) GivesTotal words .zero stall.total

section Words

variable {words : List Text} {number : Nat} {stall stall' : Stall} {error : StatError}

/-- The words are taken one after the other. -/
theorem takeWords_eq_foldlM :
    takeWords number stall words = words.foldlM (takeWord number) stall := by
  induction words generalizing stall with
  | nil => rfl
  | cons word words ih =>
    rw [List.foldlM_cons, takeWords]
    cases takeWord number stall word with
    | ok stall => exact ih
    | error error => rfl

/-- A word without the key of a figure may stand anywhere. -/
theorem takeWords_insert {word : Text} {before behind : List Text} (h : ¬ HasFigure word) :
    takeWords number stall (before ++ word :: behind) =
      takeWords number stall (before ++ behind) := by
  have hword (stall : Stall) : takeWord number stall word = pure stall := takeWord_foreign h
  simp only [takeWords_eq_foldlM, List.foldlM_append, List.foldlM_cons, hword, pure_bind]

/-- The first word at fault is reported. -/
theorem takeWords_eq_error_iff : takeWords number stall words = .error error ↔
    ∃ complaint, FirstTells WordFault words complaint ∧ error = complaint number := by
  rw [takeWords_eq_foldlM, ← firstTells_map]
  exact foldlM_eq_error_iff fun _ _ _ => takeWord_eq_error_iff

/-- A word with the key of an average gives that average, and other words keep it. -/
theorem average_of_takeWord {average : Average} {word : Text}
    (h : takeWord number stall word = .ok stall') :
    (HasKey average.key word → GivesAverage average word (average.of stall')) ∧
      (¬ HasKey average.key word → average.of stall' = average.of stall) := by
  rcases takeWord_eq_ok h with ⟨other, x, hgives, rfl⟩ | ⟨total, hgives, rfl⟩ | ⟨hforeign, rfl⟩
  · constructor
    · intro hkey
      obtain rfl := Average.key_injective (hkey.unique hgives.hasKey)
      rw [Average.of_put_self]
      exact hgives
    · intro hkey
      apply Average.of_put_of_ne
      rintro rfl
      exact hkey hgives.hasKey
  · constructor
    · intro hkey
      exact absurd (hkey.unique hgives.hasKey) average.key_ne_totalKey
    · intro _
      exact average.of_total stall total
  · constructor
    · intro hkey
      exact absurd (.inl ⟨average, hkey⟩) hforeign
    · intro _
      rfl

/-- A word with the key of the time waited gives that time, and other words keep it. -/
theorem total_of_takeWord {word : Text} (h : takeWord number stall word = .ok stall') :
    (HasKey totalKey word → GivesTotal word stall'.total) ∧
      (¬ HasKey totalKey word → stall'.total = stall.total) := by
  rcases takeWord_eq_ok h with ⟨average, x, hgives, rfl⟩ | ⟨total, hgives, rfl⟩ | ⟨hforeign, rfl⟩
  · constructor
    · intro hkey
      exact absurd (hgives.hasKey.unique hkey) average.key_ne_totalKey
    · intro _
      exact average.total_put x stall
  · constructor
    · intro _
      exact hgives
    · intro hkey
      exact absurd hgives.hasKey hkey
  · constructor
    · intro hkey
      exact absurd (.inr hkey) hforeign
    · intro _
      rfl

/-- Words leave one set of figures only. -/
theorem Follows.unique (h : Follows words stall) (h' : Follows words stall') : stall = stall' := by
  have haverage (average : Average) : average.of stall = average.of stall' := by
    refine (h.average average).unique ?_ (h'.average average)
    exact fun _ _ _ => GivesAverage.unique
  have htotal : stall.total = stall'.total := by
    refine h.total.unique ?_ h'.total
    exact fun _ _ _ => GivesTotal.unique
  have h10 := haverage .ten
  have h60 := haverage .sixty
  have h300 := haverage .threeHundred
  cases stall
  cases stall'
  simp_all [Average.of]

/-- The words of a line are accepted if they are sound, and then they give what follows from
them. -/
theorem takeWords_eq_ok_iff : takeWords number .none words = .ok stall ↔
    (∀ word ∈ words, IsSoundWord word) ∧ Follows words stall := by
  have hrefused : (∃ error, takeWords number .none words = .error error) ↔
      ∃ word ∈ words, ∃ complaint, WordFault word complaint := by
    rw [← exists_firstTells_iff]
    constructor
    · rintro ⟨error, h⟩
      obtain ⟨complaint, hfirst, -⟩ := takeWords_eq_error_iff.mp h
      exact ⟨complaint, hfirst⟩
    · rintro ⟨complaint, hfirst⟩
      exact ⟨_, takeWords_eq_error_iff.mpr ⟨complaint, hfirst, rfl⟩⟩
  have hsound : (∀ word ∈ words, IsSoundWord word) ↔
      ¬ ∃ error, takeWords number .none words = .error error := by
    simp [hrefused, isSoundWord_iff]
  have hfollows {stall : Stall} (h : takeWords number .none words = .ok stall) :
      Follows words stall := by
    rw [takeWords_eq_foldlM] at h
    constructor
    · intro average
      have hzero : average.of .none = .zero := by cases average <;> rfl
      rw [← hzero]
      refine lastTells_of_foldlM average.of ?_ ?_ h
      · exact fun _ _ _ hword => (average_of_takeWord hword).1
      · exact fun _ _ _ hword => (average_of_takeWord hword).2
    · refine lastTells_of_foldlM Stall.total ?_ ?_ h
      · exact fun _ _ _ hword => (total_of_takeWord hword).1
      · exact fun _ _ _ hword => (total_of_takeWord hword).2
  constructor
  · intro h
    exact ⟨hsound.mpr (by simp [h]), hfollows h⟩
  · rintro ⟨hwords, hstall⟩
    -- no word is at fault, and what is read follows from the words as well
    cases h : takeWords number .none words with
    | ok stall' => rw [(hfollows h).unique hstall]
    | error error => exact absurd ⟨error, h⟩ (hsound.mp hwords)

end Words

end Pressure

end ProcessMeter
