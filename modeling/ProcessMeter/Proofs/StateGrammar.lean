import Mathlib.Data.List.Forall2
import Mathlib.Data.List.Induction
import ProcessMeter.Proofs.Printed

/-!
# Which texts are state lines

A state line has a name in parentheses and fields behind it. The name may hold parentheses, blanks
and line feeds, so it ends at the last closing parenthesis of the line, and the fields are counted
from there. This file says which texts are read, what the record of such a text holds, and what is
reported of the others. What a process chooses as its name is seen in the name only.
-/

namespace ProcessMeter

namespace Numeral

/-- The text is the number in decimal digits. A plus sign may stand in front of them, and so may
zeros. -/
def Spells (t : Text) (n : Nat) : Prop :=
  ∃ digits, (t = digits ∨ t = '+' :: digits) ∧ digits ≠ [] ∧ (∀ c ∈ digits, c.isDigit = true) ∧
    n = Nat.ofDigitChars 10 digits 0

/-- A digit is a decimal digit of ASCII, with the value that it is written for. -/
private theorem digit?_eq (c : Char) :
    digit? c = if c.isDigit then some (c.toNat - '0'.toNat) else none := by
  have hdigit : c.isDigit = true ↔ '0' ≤ c ∧ c ≤ '9' := by
    simp only [Char.isDigit, Bool.and_eq_true, decide_eq_true_eq]
    rfl
  simp only [digit?, hdigit]

/-- Reading further digits makes no value smaller. -/
private theorem le_ofDigitChars (value : Nat) (digits : Text) :
    value ≤ Nat.ofDigitChars 10 digits value := by
  induction digits generalizing value with
  | nil => simp
  | cons c rest ih =>
    rw [Nat.ofDigitChars_cons]
    have hrest := ih (10 * value + (c.toNat - '0'.toNat))
    omega

/-- The digits read so far never exceed those of the whole number, so it does not matter that the
bound is checked at each of them. -/
private theorem readDigits_eq_ok_iff {bound value n : Nat} {excess : NumeralError} {t : Text}
    (hvalue : value ≤ bound) :
    readDigits bound excess value t = .ok n ↔
      (∀ c ∈ t, c.isDigit = true) ∧ n = Nat.ofDigitChars 10 t value ∧ n ≤ bound := by
  induction t generalizing value with
  | nil =>
    simp only [readDigits, Except.ok.injEq, Nat.ofDigitChars_nil]
    constructor
    · rintro rfl
      exact ⟨by simp, rfl, hvalue⟩
    · rintro ⟨-, rfl, -⟩
      rfl
  | cons c rest ih =>
    rw [readDigits, digit?_eq]
    by_cases hdigit : c.isDigit = true
    · rw [if_pos hdigit]
      dsimp only
      rw [Nat.mul_comm value 10, Nat.ofDigitChars_cons]
      by_cases hnext : 10 * value + (c.toNat - '0'.toNat) ≤ bound
      · rw [if_pos hnext, ih hnext, List.forall_mem_cons, and_iff_right hdigit]
      · have hle := le_ofDigitChars (10 * value + (c.toNat - '0'.toNat)) rest
        rw [if_neg hnext]
        refine iff_of_false (by simp) ?_
        rintro ⟨-, rfl, hn⟩
        exact hnext (Nat.le_trans hle hn)
    · simp [hdigit]

/-- A text is read as a number exactly if it spells one that is not too large. -/
theorem readUpTo_eq_ok_iff {bound n : Nat} {t : Text} :
    readUpTo bound t = .ok n ↔ Spells t n ∧ n ≤ bound := by
  have hplus : '+'.isDigit = false := by decide
  unfold readUpTo
  split
  · simp [Spells]
  · refine iff_of_false (by simp) ?_
    rintro ⟨⟨digits, hsign | hsign, hne, hdigits, -⟩, -⟩
    · subst hsign
      simp [hplus] at hdigits
    · exact hne (List.cons.inj hsign).2.symm
  · next rest hrest =>
    rw [readDigits_eq_ok_iff (Nat.zero_le _)]
    constructor
    · rintro ⟨hdigits, rfl, hn⟩
      exact ⟨⟨rest, .inr rfl, fun hnil => hrest (hnil ▸ rfl), hdigits, rfl⟩, hn⟩
    · rintro ⟨⟨digits, hsign | hsign, hne, hdigits, rfl⟩, hn⟩
      · subst hsign
        simp [hplus] at hdigits
      · obtain rfl := (List.cons.inj hsign).2
        exact ⟨hdigits, rfl, hn⟩
  · next hnil hlone hsigned =>
    rw [readDigits_eq_ok_iff (Nat.zero_le _)]
    constructor
    · rintro ⟨hdigits, rfl, hn⟩
      exact ⟨⟨t, .inl rfl, hnil, hdigits, rfl⟩, hn⟩
    · rintro ⟨⟨digits, rfl | rfl, hne, hdigits, rfl⟩, hn⟩
      · exact ⟨hdigits, rfl, hn⟩
      · exact absurd rfl (hsigned digits)

end Numeral

/-- The word is a number of 64 bits. -/
def IsCount (word : Text) (n : Nat) : Prop := Numeral.Spells word n ∧ n ≤ Numeral.max64

/-- A word is read as a number exactly if it is one that fits. -/
theorem Scalar.number_eq_ok_iff {line n : Nat} {word : Text} :
    number line word = .ok n ↔ IsCount word n := by
  rw [IsCount, ← Numeral.readUpTo_eq_ok_iff, number, Numeral.read64]
  cases Numeral.readUpTo Numeral.max64 word <;> simp

/-- A word is one number only. -/
theorem IsCount.unique {word : Text} {m n : Nat} (hm : IsCount word m) (hn : IsCount word n) :
    m = n := by
  have hread : Scalar.number 0 word = .ok m := Scalar.number_eq_ok_iff.mpr hm
  exact Except.ok.inj (hread.symm.trans (Scalar.number_eq_ok_iff.mpr hn))

namespace Text

/-- Blanks at the end are no words. -/
theorem words_trimEnd (t : Text) : words (trimEnd t) = words t := by
  rw [trimEnd]
  induction t using List.reverseRecOn with
  | nil => rfl
  | append_singleton t c ih =>
    rw [trimEndWhile_concat]
    by_cases hc : isBlank c = true
    · have hnone : words (t ++ [c]) = words t ++ words [] := words_append_cons hc t []
      rw [if_pos hc, ih, hnone]
      exact (List.append_nil _).symm
    · rw [if_neg hc]

/-- What stands before a character that is no blank stays where it is. -/
theorem trimEnd_append_cons {c : Char} (hc : isBlank c = false) (s t : Text) :
    trimEnd (s ++ c :: t) = s ++ c :: trimEnd t := by
  rw [trimEnd, trimEnd]
  induction t using List.reverseRecOn with
  | nil =>
    rw [trimEndWhile_concat, if_neg (by simp [hc])]
    rfl
  | append_singleton t d ih =>
    have hassoc : s ++ c :: (t ++ [d]) = (s ++ c :: t) ++ [d] := by simp
    rw [hassoc, trimEndWhile_concat, trimEndWhile_concat]
    by_cases hd : isBlank d = true
    · rw [if_pos hd, if_pos hd, ih]
    · rw [if_neg hd, if_neg hd, hassoc]

/-- Blanks are cut off at once. -/
theorem trimEnd_trimEnd (t : Text) : trimEnd (trimEnd t) = trimEnd t :=
  trimEndWhile_eq_self fun _ => eq_false_of_getLast?_trimEndWhile

/-- The words of a text have letters. -/
theorem ne_nil_of_mem_words {word t : Text} (h : word ∈ words t) : word ≠ [] := by
  simpa using (List.mem_filter.mp h).2

end Text

namespace ProcessRecord

/-- The text has the shape of a state line: the name is what stands between its first opening and
its last closing parenthesis, and the fields, at least twenty, are the words behind that. -/
def IsLineOf (line name : Text) (fields : List Text) : Prop :=
  ∃ before behind, line = before ++ '(' :: (name ++ ')' :: behind) ∧ '(' ∉ before ∧
    ')' ∉ behind ∧ fields = Text.words behind ∧ 20 ≤ fields.length

/-- The places of the numbers in the order in which they are read, each with the largest number that
it may hold. -/
def numberPlaces : List (Nat × Nat) :=
  [(1, Numeral.max32), (2, Numeral.max32), (11, Numeral.max64), (12, Numeral.max64),
    (17, Numeral.max64), (19, Numeral.max64)]

/-- At the place stands the number. -/
def Holds (fields : List Text) (place : Nat × Nat) (n : Nat) : Prop :=
  ∃ value, fields[place.1]? = some value ∧ Numeral.Spells value n ∧ n ≤ place.2

/-- The record holds what the fields behind its name say. -/
structure Says (fields : List Text) (r : ProcessRecord) : Prop where
  /-- The state is the first character of the first field. -/
  state : ∃ letter rest, fields[0]? = some (letter :: rest) ∧ r.state = .ofLetter letter
  /-- The numbers stand at their places. -/
  numbers : List.Forall₂ (Holds fields) numberPlaces
    [r.parent, r.group, r.userTicks, r.systemTicks, r.threads, r.startTime]

/-- The value is the first one that is no number, or one too large for its place. -/
def FirstBad (fields : List Text) (places : List (Nat × Nat)) (value : Text)
    (cause : NumeralError) : Prop :=
  ∃ earlier place later, places = earlier ++ place :: later ∧
    (∀ fine ∈ earlier, ∃ n, Holds fields fine n) ∧
    fields[place.1]? = some value ∧ Numeral.readUpTo place.2 value = .error cause

/-- What is wrong with the text. -/
inductive Refused (line : Text) : StatError → Prop where
  /-- It does not have the shape of a state line. -/
  | shape (misshapen : ¬ ∃ name fields, IsLineOf line name fields) :
    Refused line (.unexpectedFormat line 1)
  /-- It has the shape, but one of its numbers is bad. -/
  | number {name : Text} {fields : List Text} {value : Text} {cause : NumeralError}
    (shaped : IsLineOf line name fields) (bad : FirstBad fields numberPlaces value cause) :
    Refused line (.invalidValue value 1 cause)

section Name

variable {line name before behind : Text}

/-- The last separator is found before a text without it. -/
private theorem cutLast_eq_some_iff {separator : Char} :
    cutLast separator line = some (before, behind) ↔
      line = before ++ separator :: behind ∧ separator ∉ behind := by
  simp only [cutLast, Option.map_eq_some_iff, Prod.exists, Prod.mk.injEq, Text.cut_eq_some_iff]
  constructor
  · rintro ⟨back, front, ⟨hline, hback⟩, rfl, rfl⟩
    refine ⟨?_, by simpa using hback⟩
    rw [← line.reverse_reverse, hline]
    simp
  · rintro ⟨rfl, hbehind⟩
    exact ⟨behind.reverse, before.reverse, ⟨by simp, by simpa using hbehind⟩, by simp, by simp⟩

/-- The name stands between the first opening and the last closing parenthesis. -/
theorem splitName?_eq_some_iff :
    splitName? line = some (name, behind) ↔
      ∃ before, line = before ++ '(' :: (name ++ ')' :: behind) ∧ '(' ∉ before ∧ ')' ∉ behind := by
  unfold splitName?
  split
  · next hcut =>
    refine iff_of_false (by simp) ?_
    rintro ⟨before, rfl, -, -⟩
    exact Text.cut_eq_none_iff.mp hcut (by simp)
  · next front inside hcut =>
    obtain ⟨rfl, hfront⟩ := Text.cut_eq_some_iff.mp hcut
    rw [cutLast_eq_some_iff]
    constructor
    · rintro ⟨rfl, hbehind⟩
      exact ⟨front, rfl, hfront, hbehind⟩
    · rintro ⟨before, hline, hbefore, hbehind⟩
      have hsame := (Text.cut_append_cons hfront inside).symm.trans
        (hline ▸ Text.cut_append_cons hbefore (name ++ ')' :: behind))
      exact ⟨(Prod.mk.inj (Option.some.inj hsame)).2, hbehind⟩

end Name

section Numbers

variable {fields : List Text} {places : List (Nat × Nat)}

/-- The number at a place. -/
private def numberAt (fields : List Text) (place : Nat × Nat) : Except StatError Nat :=
  (Numeral.readUpTo place.2 (field fields place.1)).mapError
    (.invalidValue (field fields place.1) 1)

/-- A field of 32 bits is the number at its place. -/
private theorem number32_field (place : Nat) :
    Scalar.number32 1 (field fields place) = numberAt fields (place, Numeral.max32) := by
  rw [Scalar.number32, numberAt, Numeral.read32]
  cases Numeral.readUpTo Numeral.max32 (field fields place) <;> rfl

/-- A field of 64 bits is the number at its place. -/
private theorem number_field (place : Nat) :
    Scalar.number 1 (field fields place) = numberAt fields (place, Numeral.max64) := by
  rw [Scalar.number, numberAt, Numeral.read64]
  cases Numeral.readUpTo Numeral.max64 (field fields place) <;> rfl

/-- The number at a place is read. -/
private theorem numberAt_of_holds {place : Nat × Nat} {n : Nat} (h : Holds fields place n) :
    numberAt fields place = .ok n := by
  obtain ⟨value, hvalue, hspells⟩ := h
  have hfield : field fields place.1 = value := by simp [field, hvalue]
  rw [numberAt, hfield, Numeral.readUpTo_eq_ok_iff.mpr hspells]
  rfl

/-- A field that is no number of its size is reported. -/
private theorem numberAt_of_bad {place : Nat × Nat} {value : Text} {cause : NumeralError}
    (hvalue : fields[place.1]? = some value)
    (hbad : Numeral.readUpTo place.2 value = .error cause) :
    numberAt fields place = .error (.invalidValue value 1 cause) := by
  have hfield : field fields place.1 = value := by simp [field, hvalue]
  rw [numberAt, hfield, hbad]
  rfl

/-- The numbers at all places are read. -/
private theorem mapM_of_holds {ns : List Nat} (h : List.Forall₂ (Holds fields) places ns) :
    places.mapM (numberAt fields) = .ok ns := by
  induction h with
  | nil => rfl
  | cons hplace _ ih =>
    rw [List.mapM_cons, numberAt_of_holds hplace, ih]
    rfl

/-- The first number that is bad is reported. -/
private theorem FirstBad.mapM_eq {value : Text} {cause : NumeralError}
    (h : FirstBad fields places value cause) :
    places.mapM (numberAt fields) = .error (.invalidValue value 1 cause) := by
  obtain ⟨earlier, place, later, rfl, hearlier, hvalue, hbad⟩ := h
  induction earlier with
  | nil =>
    rw [List.nil_append, List.mapM_cons, numberAt_of_bad hvalue hbad]
    rfl
  | cons first earlier ih =>
    obtain ⟨⟨n, hfirst⟩, hrest⟩ := List.forall_mem_cons.mp hearlier
    rw [List.cons_append, List.mapM_cons, numberAt_of_holds hfirst, ih hrest]
    rfl

/-- Of fields that exist, all are numbers, or one is the first that is bad. -/
private theorem places_cases (h : ∀ place ∈ places, place.1 < fields.length) :
    (∃ ns, List.Forall₂ (Holds fields) places ns) ∨
      ∃ value cause, FirstBad fields places value cause := by
  induction places with
  | nil => exact .inl ⟨[], .nil⟩
  | cons place rest ih =>
    obtain ⟨hplace, hrest⟩ := List.forall_mem_cons.mp h
    have hvalue := List.getElem?_eq_getElem hplace
    cases hread : Numeral.readUpTo place.2 fields[place.1] with
    | error cause => exact .inr ⟨_, cause, [], place, rest, rfl, by simp, hvalue, hread⟩
    | ok n =>
      have hholds : Holds fields place n := ⟨_, hvalue, Numeral.readUpTo_eq_ok_iff.mp hread⟩
      rcases ih hrest with ⟨ns, hns⟩ | ⟨value, cause, earlier, culprit, later, rfl, hearlier, hbad⟩
      · exact .inl ⟨n :: ns, .cons hholds hns⟩
      · exact .inr ⟨value, cause, place :: earlier, culprit, later, rfl,
          List.forall_mem_cons.mpr ⟨⟨n, hholds⟩, hearlier⟩, hbad⟩

end Numbers

section Line

variable {text name : Text} {fields : List Text} {r : ProcessRecord} {error : StatError}

/-- A line of this shape has one name and these fields only. -/
theorem IsLineOf.splitName?_eq (h : IsLineOf text name fields) :
    ∃ behind, splitName? text = some (name, behind) ∧ fields = Text.words behind := by
  obtain ⟨before, behind, hline, hbefore, hbehind, hfields, -⟩ := h
  exact ⟨behind, splitName?_eq_some_iff.mpr ⟨before, hline, hbefore, hbehind⟩, hfields⟩

/-- A line has twenty fields at least. -/
theorem IsLineOf.length_le (h : IsLineOf text name fields) : 20 ≤ fields.length := by
  obtain ⟨before, behind, -, -, -, -, hlength⟩ := h
  exact hlength

/-- The first field of a line has a first character. -/
theorem IsLineOf.exists_letter (h : IsLineOf text name fields) :
    ∃ letter rest more, fields = (letter :: rest) :: more := by
  obtain ⟨behind, -, hfields⟩ := h.splitName?_eq
  have hlength := h.length_le
  cases hcases : fields with
  | nil => simp [hcases] at hlength
  | cons word more =>
    have hword : word ∈ Text.words behind := by
      rw [← hfields, hcases]
      exact List.mem_cons_self
    obtain ⟨letter, rest, rfl⟩ := List.exists_cons_of_ne_nil (Text.ne_nil_of_mem_words hword)
    exact ⟨letter, rest, more, rfl⟩

/-- The record of a name, a letter and the numbers at their places. -/
private def ofNumbers (name : Text) (letter : Char) (ns : List Nat) : ProcessRecord where
  name
  state := .ofLetter letter
  parent := ns.getD 0 0
  group := ns.getD 1 0
  userTicks := ns.getD 2 0
  systemTicks := ns.getD 3 0
  threads := ns.getD 4 0
  startTime := ns.getD 5 0

/-- A text with the shape of a line is read number by number. -/
private theorem IsLineOf.read_eq (h : IsLineOf (Text.trimEnd text) name fields) {letter : Char}
    {rest : Text} {more : List Text} (hfields : fields = (letter :: rest) :: more) :
    read text = ofNumbers name letter <$> numberPlaces.mapM (numberAt fields) := by
  have hlength : ¬ fields.length < leastFields := Nat.not_lt.mpr h.length_le
  obtain ⟨behind, hsplit, hwords⟩ := h.splitName?_eq
  simp only [read, hsplit, ← hwords]
  rw [hfields]
  dsimp only
  rw [← hfields, if_neg hlength]
  -- the six numbers are read one after the other, which is a loop over their places
  simp only [number32_field, number_field, numberPlaces, List.mapM_cons, List.mapM_nil, bind_assoc,
    pure_bind, map_bind, map_pure]
  rfl

/-- A line is read as the record of what it says. -/
private theorem IsLineOf.read_of_says (h : IsLineOf (Text.trimEnd text) r.name fields)
    (hsaid : Says fields r) : read text = .ok r := by
  obtain ⟨letter, rest, more, hfields⟩ := h.exists_letter
  obtain ⟨first, others, hfirst, hstate⟩ := hsaid.state
  rw [hfields, List.getElem?_cons_zero] at hfirst
  obtain ⟨rfl, -⟩ := List.cons.inj (Option.some.inj hfirst)
  rw [h.read_eq hfields, mapM_of_holds hsaid.numbers]
  simp [ofNumbers, ← hstate]

/-- Without the shape of a line nothing is read. -/
private theorem read_of_misshapen (h : ¬ ∃ name fields, IsLineOf (Text.trimEnd text) name fields) :
    read text = .error (.unexpectedFormat (Text.trimEnd text) 1) := by
  unfold read
  dsimp only
  split
  · rfl
  · next name behind hsplit =>
    obtain ⟨before, hline, hbefore, hbehind⟩ := splitName?_eq_some_iff.mp hsplit
    have hfew : (Text.words behind).length < leastFields := by
      by_contra henough
      exact h ⟨name, _, before, behind, hline, hbefore, hbehind, rfl, Nat.not_lt.mp henough⟩
    split
    · rw [if_pos hfew]
    · rfl

/-- A text is refused for what is wrong with it. -/
private theorem Refused.read_eq (h : Refused (Text.trimEnd text) error) :
    read text = .error error := by
  cases h with
  | shape misshapen => exact read_of_misshapen misshapen
  | number shaped bad =>
    obtain ⟨letter, rest, more, hfields⟩ := shaped.exists_letter
    rw [shaped.read_eq hfields, bad.mapM_eq]
    rfl

/-- The numbers of a line are those of a record, or one of them is bad. -/
private theorem IsLineOf.cases (h : IsLineOf text name fields) :
    (∃ r : ProcessRecord, r.name = name ∧ Says fields r) ∨
      ∃ value cause, FirstBad fields numberPlaces value cause := by
  have hplaces : ∀ place ∈ numberPlaces, place.1 < 20 := by decide
  have hexists : ∀ place ∈ numberPlaces, place.1 < fields.length := fun place hplace =>
    Nat.lt_of_lt_of_le (hplaces place hplace) h.length_le
  refine (places_cases hexists).imp_left ?_
  rintro ⟨ns, hns⟩
  obtain ⟨letter, rest, more, rfl⟩ := h.exists_letter
  refine ⟨ofNumbers name letter ns, rfl, ⟨letter, rest, rfl, rfl⟩, ?_⟩
  have hlength : ns.length = 6 := hns.length_eq.symm
  match ns, hlength with
  | [_, _, _, _, _, _], _ => exact hns

/-- A text is read as a record that it says, or something is wrong with it. -/
private theorem text_cases (text : Text) :
    (∃ r fields, IsLineOf (Text.trimEnd text) r.name fields ∧ Says fields r) ∨
      ∃ error, Refused (Text.trimEnd text) error := by
  by_cases hshape : ∃ name fields, IsLineOf (Text.trimEnd text) name fields
  · obtain ⟨name, fields, hline⟩ := hshape
    rcases hline.cases with ⟨r, rfl, hsaid⟩ | ⟨value, cause, hbad⟩
    · exact .inl ⟨r, fields, hline, hsaid⟩
    · exact .inr ⟨_, .number hline hbad⟩
  · exact .inr ⟨_, .shape hshape⟩

/-- A text is read as a record exactly if it is a line whose fields say the record. -/
theorem read_eq_ok_iff :
    read text = .ok r ↔ ∃ fields, IsLineOf (Text.trimEnd text) r.name fields ∧ Says fields r := by
  constructor
  · intro hread
    rcases text_cases text with ⟨other, fields, hline, hsaid⟩ | ⟨error, hrefused⟩
    · obtain rfl := Except.ok.inj (hread.symm.trans (hline.read_of_says hsaid))
      exact ⟨fields, hline, hsaid⟩
    · cases hread.symm.trans hrefused.read_eq
  · rintro ⟨fields, hline, hsaid⟩
    exact hline.read_of_says hsaid

end Line

end ProcessRecord

end ProcessMeter
