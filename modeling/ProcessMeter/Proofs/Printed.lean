import Mathlib.Data.List.Basic
import ProcessMeter.Number.Numeral
import ProcessMeter.Proofs.EncodedText
import ProcessMeter.Proofs.Presence

/-!
# Printed lines are read back

The kernel prints lines of words with single blanks between them, in ASCII but for the names that
users choose. Read again, a line is cut into the same words, and each number is the one that was
printed. Octets that are no ASCII are decoded on their own, since no character reaches over an ASCII
octet.
-/

namespace ProcessMeter

namespace Text

section Octets

/-- An ASCII octet continues no character. -/
private theorem isTail_of_ascii {b : UInt8} (h : b < 0x80) : isTail b = false := by
  simp only [isTail, Bool.and_eq_false_iff, decide_eq_false_iff_not]
  exact Or.inl (UInt8.not_le.mpr h)

/-- No character of two octets ends with an ASCII octet, -/
private theorem isPair_of_ascii (a : UInt8) {b : UInt8} (h : b < 0x80) : isPair a b = false := by
  simp [isPair, isTail_of_ascii h]

/-- no character of three octets has one in the middle, -/
private theorem startsThree_of_ascii (a : UInt8) {b : UInt8} (h : b < 0x80) :
    startsThree a b = false := by
  have h₁ : ¬ (0xA0 : UInt8) ≤ b := by grind
  have h₂ : ¬ (0x80 : UInt8) ≤ b := by grind
  simp [startsThree, isTail_of_ascii h, h₁, h₂]

/-- and neither has a character of four. -/
private theorem startsFour_of_ascii (a : UInt8) {b : UInt8} (h : b < 0x80) :
    startsFour a b = false := by
  have h₁ : ¬ (0x90 : UInt8) ≤ b := by grind
  have h₂ : ¬ (0x80 : UInt8) ≤ b := by grind
  simp [startsFour, isTail_of_ascii h, h₁, h₂]

/-- An ASCII octet is a character of its own. -/
theorem decode?_cons_of_ascii {a : UInt8} (h : a < 0x80) (rest : List UInt8) :
    decode? (a :: rest) = (decode? rest).map (Char.ofNat a.toNat :: ·) := by
  rw [decode?.eq_def]
  exact if_pos h

/-- What stands before an ASCII octet is decoded on its own. -/
theorem decode?_append_cons_of_ascii (front : List UInt8) {a : UInt8} (h : a < 0x80)
    (rest : List UInt8) :
    decode? (front ++ a :: rest) =
      (decode? front).bind fun t => (decode? (a :: rest)).map (t ++ ·) := by
  have htail := isTail_of_ascii h
  have hpair := isPair_of_ascii (h := h)
  have hthree := startsThree_of_ascii (h := h)
  have hfour := startsFour_of_ascii (h := h)
  fun_induction decode? front with
  | case1 => simp
  | case2 x r hx ih =>
    rw [List.cons_append, decode?_cons_of_ascii hx, ih]
    simp [Option.map_bind, Option.bind_map, Function.comp_def]
  | case3 x hx =>
    rw [List.cons_append, decode?.eq_def]
    simp only [hx, hpair, hthree, hfour, if_false, Bool.false_and, List.nil_append,
      Bool.false_eq_true]
    rcases rest with _ | ⟨c, _ | ⟨d, rest⟩⟩ <;> rfl
  | case4 x hx y r hy ih =>
    rw [List.cons_append, decode?.eq_def]
    simp [hx, hy, ih, Option.map_bind, Option.bind_map, Function.comp_def]
  | case5 x hx y hy =>
    rw [List.cons_append, decode?.eq_def]
    simp only [hx, hy, htail, if_false, Bool.and_false, List.nil_append, List.cons_append,
      Bool.false_eq_true]
    cases rest <;> rfl
  | case6 x hx y hy z r hz ih =>
    rw [List.cons_append, decode?.eq_def]
    simp [hx, hy, hz, ih, Option.map_bind, Option.bind_map, Function.comp_def]
  | case7 x hx y hy z hz =>
    rw [List.cons_append, decode?.eq_def]
    simp [hx, hy, hz, htail]
  | case8 x hx y hy z hz u r hu ih =>
    rw [List.cons_append, decode?.eq_def]
    simp [hx, hy, hz, hu, ih, Option.map_bind, Option.bind_map, Function.comp_def]
  | case9 x hx y hy z hz u r hu =>
    rw [List.cons_append, decode?.eq_def]
    simp [hx, hy, hz, hu]

/-- All characters are ASCII. -/
def IsAscii (t : Text) : Prop := ∀ c ∈ t, c.toNat < 0x80

instance (t : Text) : Decidable (IsAscii t) :=
  List.decidableBAll (fun c : Char => c.toNat < 0x80) t

/-- Two ASCII texts in a row are ASCII. -/
theorem IsAscii.append {s t : Text} (hs : IsAscii s) (ht : IsAscii t) : IsAscii (s ++ t) := by
  intro c hc
  rcases List.mem_append.mp hc with hc | hc
  · exact hs c hc
  · exact ht c hc

/-- The octet of an ASCII character is an ASCII octet. -/
private theorem ofNat_lt_of_ascii {c : Char} (h : c.toNat < 0x80) : UInt8.ofNat c.toNat < 0x80 := by
  rw [UInt8.lt_iff_toNat_lt, UInt8.toNat_ofNat']
  exact Nat.lt_of_le_of_lt (Nat.mod_le _ _) h

/-- An ASCII character is encoded by one octet. -/
private theorem utf8EncodeChar_of_ascii {c : Char} (h : c.toNat < 0x80) :
    String.utf8EncodeChar c = [UInt8.ofNat c.toNat] := by
  rw [String.utf8EncodeChar]
  exact if_pos (Nat.le_of_lt_succ h)

/-- Encoded characters in front of other octets are decoded on their own. -/
theorem decode?_encode_append (t : Text) (rest : List UInt8) :
    decode? (encode t ++ rest) = (decode? rest).map (t ++ ·) := by
  induction t with
  | nil => simp
  | cons c t ih =>
    rw [encode_cons, List.append_assoc, decode?_utf8EncodeChar_append, ih, Option.map_map]
    rfl

/-- Octets between two texts are decoded on their own, if the second text is ASCII and not empty. -/
theorem decode?_between (front : Text) {back : Text} (hback : IsAscii back) (hne : back ≠ [])
    (octets : List UInt8) :
    decode? (encode front ++ (octets ++ encode back)) =
      (decode? octets).map fun t => front ++ (t ++ back) := by
  have hwhole := decode?_encode back
  obtain ⟨c, rest, rfl⟩ := List.exists_cons_of_ne_nil hne
  have hc := (List.forall_mem_cons.mp hback).1
  have hencode : encode (c :: rest) = UInt8.ofNat c.toNat :: encode rest := by
    rw [encode_cons, utf8EncodeChar_of_ascii hc, List.singleton_append]
  rw [decode?_encode_append, hencode, decode?_append_cons_of_ascii _ (ofNat_lt_of_ascii hc),
    ← hencode, hwhole]
  cases decode? octets <;> rfl

end Octets

section Words

/-- A word: a text without blanks that is not empty. -/
def IsWord (t : Text) : Prop := t ≠ [] ∧ ∀ c ∈ t, isBlank c = false

/-- A blank separates the words before it from the words behind it. -/
theorem words_append_cons {blank : Char} (hblank : isBlank blank = true) (s t : Text) :
    words (s ++ blank :: t) = words s ++ words t := by
  rw [words, splitWhere_append hblank, List.filter_append]
  rfl

/-- A text without separators is one piece. -/
private theorem splitWhere_of_forall_not {p : Char → Bool} {t : Text}
    (h : ∀ c ∈ t, p c = false) : splitWhere p t = [t] := by
  induction t with
  | nil => rfl
  | cons c rest ih =>
    obtain ⟨hc, hrest⟩ := List.forall_mem_cons.mp h
    simp [splitWhere, hc, ih hrest]

/-- A word is the only word of itself. -/
theorem IsWord.words_eq {t : Text} (h : IsWord t) : words t = [t] := by
  simp [words, splitWhere_of_forall_not h.2, h.1]

/-- Words with a blank in front of each are read back. -/
theorem words_flatMap_blank {parts : List Text} (h : ∀ part ∈ parts, IsWord part) :
    words (parts.flatMap (' ' :: ·)) = parts := by
  have hlead : ∀ t, words (' ' :: t) = words t := words_append_cons (by decide) []
  induction parts with
  | nil => rfl
  | cons part rest ih =>
    obtain ⟨hpart, hrest⟩ := List.forall_mem_cons.mp h
    rw [List.flatMap_cons, List.cons_append, hlead]
    cases rest with
    | nil => simpa using hpart.words_eq
    | cons other more =>
      rw [List.flatMap_cons, List.cons_append, words_append_cons (by decide), hpart.words_eq,
        ← hlead, ← List.cons_append, ← List.flatMap_cons, ih hrest]
      rfl

/-- The first separator is found behind a text without it. -/
theorem cut_append_cons {separator : Char} {t : Text} (h : separator ∉ t) (rest : Text) :
    cut separator (t ++ separator :: rest) = some (t, rest) := by
  induction t with
  | nil => simp [cut]
  | cons c t ih =>
    obtain ⟨hc, ht⟩ := not_or.mp (mt List.mem_cons.mpr h)
    simp [cut, Ne.symm hc, ih ht]

/-- A cut is at the first occurrence of the separator. -/
theorem cut_eq (separator : Char) (t : Text) :
    cut separator t =
      if separator ∈ t then some (t.takeWhile (· ≠ separator), (t.dropWhile (· ≠ separator)).tail)
      else none := by
  induction t with
  | nil => rfl
  | cons c rest ih =>
    by_cases hc : c = separator
    · simp [cut, hc]
    · by_cases hmem : separator ∈ rest <;> simp [cut, ih, hc, hmem, Ne.symm hc]

/-- A text cannot be cut exactly if the separator does not occur. -/
theorem cut_eq_none_iff {separator : Char} {t : Text} : cut separator t = none ↔ separator ∉ t := by
  simp [cut_eq]

/-- A cut finds the first separator. -/
theorem cut_eq_some_iff {separator : Char} {t before behind : Text} :
    cut separator t = some (before, behind) ↔
      t = before ++ separator :: behind ∧ separator ∉ before := by
  constructor
  · intro h
    induction t generalizing before with
    | nil => simp [cut] at h
    | cons c rest ih =>
      by_cases hc : c = separator
      · obtain ⟨rfl, rfl⟩ : [] = before ∧ rest = behind := by simpa [cut, hc] using h
        exact ⟨by rw [hc]; rfl, List.not_mem_nil⟩
      · rw [cut, if_neg hc, Option.map_eq_some_iff] at h
        obtain ⟨⟨front, back⟩, hcut, heq⟩ := h
        obtain ⟨rfl, rfl⟩ := Prod.mk.inj heq
        obtain ⟨rfl, hnot⟩ := ih hcut
        exact ⟨rfl, by simp [hnot, Ne.symm hc]⟩
  · rintro ⟨rfl, hnot⟩
    exact cut_append_cons hnot behind

/-- A blank at the end of a line of words is cut off, and nothing else. -/
theorem trimEnd_append_flatMap_blank (front : Text) {parts : List Text}
    (h : ∀ part ∈ parts, IsWord part) (hne : parts ≠ []) {blank : Char}
    (hblank : isBlank blank = true) :
    trimEnd (front ++ (parts.flatMap (' ' :: ·) ++ [blank])) =
      front ++ parts.flatMap (' ' :: ·) := by
  obtain ⟨init, part, rfl⟩ := (List.eq_nil_or_concat' parts).resolve_left hne
  obtain ⟨hpart, hletters⟩ := h part (by simp)
  obtain ⟨before, last, rfl⟩ := (List.eq_nil_or_concat' part).resolve_left hpart
  have hlast : isBlank last = false := hletters last (by simp)
  have hline : front ++ (init ++ [before ++ [last]]).flatMap (' ' :: ·) =
      front ++ init.flatMap (' ' :: ·) ++ ' ' :: before ++ [last] := by
    simp
  rw [← List.append_assoc, hline]
  rw [trimEnd, trimEndWhile_concat, if_pos hblank, trimEndWhile_concat, if_neg (by simp [hlast])]

end Words

end Text

namespace Numeral

/-- The digits of a number with a minus sign in front of a negative one. -/
def writeSigned (n : Int) : Text :=
  if n < 0 then '-' :: write n.natAbs else write n.natAbs

/-- A number is written in digits and the sign. -/
theorem isDigit_of_mem_writeSigned {n : Int} {c : Char} (h : c ∈ writeSigned n) :
    c = '-' ∨ c.isDigit = true := by
  unfold writeSigned at h
  split at h
  · exact (List.mem_cons.mp h).imp_right isDigit_of_mem_write
  · exact Or.inr (isDigit_of_mem_write h)

/-- A digit that is written is read back. -/
private theorem digit?_digitChar {d : Nat} (h : d < 10) : digit? d.digitChar = some d := by
  have hall : ∀ d < 10, digit? d.digitChar = some d := by decide
  exact hall d h

/-- A last digit multiplies what was read by ten and is added, unless that is out of range. -/
private theorem readDigits_append_singleton (bound : Nat) (excess : NumeralError) (value : Nat)
    (t : Text) {d : Nat} (hd : d < 10) :
    readDigits bound excess value (t ++ [d.digitChar]) =
      (readDigits bound excess value t).bind fun n =>
        if n * 10 + d ≤ bound then .ok (n * 10 + d) else .error excess := by
  induction t generalizing value with
  | nil => simp [readDigits, digit?_digitChar hd, Except.bind]
  | cons c rest ih =>
    rw [List.cons_append, readDigits, readDigits]
    cases digit? c with
    | none => rfl
    | some digit =>
      dsimp only
      split
      · exact ih _
      · rfl

/-- The digits of a number within the bound are read back. -/
private theorem readDigits_write {n bound : Nat} (excess : NumeralError) (h : n ≤ bound) :
    readDigits bound excess 0 (write n) = .ok n := by
  induction n using Nat.strongRecOn with
  | ind n ih =>
    have hlast : n % 10 < 10 := Nat.mod_lt _ (by decide)
    rw [write, Nat.toDigits_eq_if (by decide)]
    split
    · next hn => simp [readDigits, digit?_digitChar hn, h]
    · next hn =>
      have hquotient := ih (n / 10) (by omega) (by omega)
      have hn : n / 10 * 10 + n % 10 = n := by omega
      rw [write] at hquotient
      rw [readDigits_append_singleton bound excess 0 _ hlast, hquotient]
      simp [Except.bind, hn, h]

/-- A number within the bound is read back. -/
theorem readUpTo_write {n bound : Nat} (h : n ≤ bound) : readUpTo bound (write n) = .ok n := by
  have hplus : '+' ∉ write n := not_mem_write (by decide) n
  have hread := readDigits_write .tooLarge h
  unfold readUpTo
  split
  · next hnil => exact absurd hnil Nat.toDigits_ne_nil
  · next hone => simp [hone] at hplus
  · next hsign => simp [hsign] at hplus
  · exact hread

/-- A number with its sign is read back if it is not negative. -/
theorem readUpTo_writeSigned {n : Int} {bound : Nat} (hn : 0 ≤ n) (h : n ≤ bound) :
    readUpTo bound (writeSigned n) = .ok n.toNat := by
  have habs : n.natAbs = n.toNat := by omega
  rw [writeSigned, if_neg (by omega), habs]
  exact readUpTo_write (by omega)

/-- A minus sign is no digit of an unsigned number. -/
theorem readUpTo_writeSigned_of_neg {n : Int} {bound : Nat} (hn : n < 0) :
    readUpTo bound (writeSigned n) = .error .invalidDigit := by
  rw [writeSigned, if_pos hn]
  rfl

/-- A number is written in decimal digits. -/
private theorem toNat_of_mem_write {n : Nat} {c : Char} (h : c ∈ write n) :
    48 ≤ c.toNat ∧ c.toNat ≤ 57 := by
  have hdigit := isDigit_of_mem_write h
  simp only [Char.isDigit, Bool.and_eq_true, decide_eq_true_eq, ge_iff_le,
    UInt32.le_iff_toNat_le] at hdigit
  exact hdigit

/-- No digit is white space. -/
private theorem isBlank_of_mem_write {n : Nat} {c : Char} (h : c ∈ write n) :
    Text.isBlank c = false := by
  have hrange := toNat_of_mem_write h
  simp only [Text.isBlank, Bool.or_eq_false_iff, Bool.and_eq_false_iff, decide_eq_false_iff_not,
    beq_eq_false_iff_ne]
  omega

/-- A number is written as one word, -/
theorem isWord_write (n : Nat) : Text.IsWord (write n) :=
  ⟨Nat.toDigits_ne_nil, fun _ => isBlank_of_mem_write⟩

/-- with a sign as well. -/
theorem isWord_writeSigned (n : Int) : Text.IsWord (writeSigned n) := by
  unfold writeSigned
  split
  · refine ⟨by simp, List.forall_mem_cons.mpr ⟨by decide, (isWord_write _).2⟩⟩
  · exact isWord_write _

/-- A number is written in ASCII, -/
theorem isAscii_write (n : Nat) : Text.IsAscii (write n) := by
  intro c hc
  have hrange := toNat_of_mem_write hc
  omega

/-- with a sign as well. -/
theorem isAscii_writeSigned (n : Int) : Text.IsAscii (writeSigned n) := by
  unfold writeSigned
  split
  · exact List.forall_mem_cons.mpr ⟨by decide, isAscii_write _⟩
  · exact isAscii_write _

end Numeral

namespace Scalar

/-- A number that fits is read back. -/
theorem number_write (line : Nat) {n : Nat} (h : n ≤ Numeral.max64) :
    number line (Numeral.write n) = .ok n := by
  rw [number, Numeral.read64, Numeral.readUpTo_write h]

/-- A signed number of 32 bits is read back unless it is negative. -/
theorem number32_writeSigned (line : Nat) {n : Int} (h : n < 0x80000000) :
    number32 line (Numeral.writeSigned n) =
      if n < 0 then .error (.invalidValue (Numeral.writeSigned n) line .invalidDigit)
      else .ok n.toNat := by
  rw [number32, Numeral.read32]
  by_cases hn : n < 0
  · rw [Numeral.readUpTo_writeSigned_of_neg hn, if_pos hn]
  · have hmax : n ≤ (Numeral.max32 : Int) := by
      rw [Numeral.max32]
      omega
    rw [Numeral.readUpTo_writeSigned (by omega) hmax, if_neg hn]

end Scalar

end ProcessMeter
