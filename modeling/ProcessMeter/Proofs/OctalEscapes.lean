import Mathlib.Data.Nat.Find
import ProcessMeter.Mount.Record
import ProcessMeter.Proofs.EncodedText

/-!
# Octal escapes are undone

Any octet of a text may be written as a backslash and three octal digits, and a backslash has to be.
Whichever octets are written so, decoding gives the text back. A backslash without three octal
digits of an octet behind it stands for itself, wherever it is.
-/

namespace ProcessMeter

namespace Text

/-- The octet of an octal digit. -/
def octalDigit (n : Nat) : UInt8 := UInt8.ofNat (0x30 + n)

/-- An octet as a backslash and three octal digits. -/
def octalEscape (b : UInt8) : List UInt8 :=
  [0x5C, octalDigit (b.toNat / 64), octalDigit (b.toNat / 8 % 8), octalDigit (b.toNat % 8)]

/-- The octets with those at the chosen positions escaped. -/
def escapeAt (chosen : Nat → Bool) (octets : List UInt8) : List UInt8 :=
  octets.zipIdx.flatMap fun (b, i) => if chosen i then octalEscape b else [b]

/-- The chosen positions are those of all backslashes, and maybe more. -/
def CoversBackslashes (chosen : Nat → Bool) (octets : List UInt8) : Prop :=
  ∀ i, octets[i]? = some 0x5C → chosen i = true

instance (chosen : Nat → Bool) (octets : List UInt8) :
    Decidable (CoversBackslashes chosen octets) :=
  decidable_of_iff (∀ i < octets.length, octets[i]? = some 0x5C → chosen i = true)
    ⟨fun h i hi => h i (List.getElem?_eq_some_iff.mp hi).1 hi, fun h i _ => h i⟩

/-- The octets of a character are all chosen, or none of them is. -/
def IsWhole (chosen : Nat → Bool) (t : Text) : Prop :=
  ∀ front c behind, t = front ++ c :: behind →
    ∀ i < c.utf8Size, chosen ((encode front).length + i) = chosen (encode front).length

/-- The text starts with three octal digits of a number up to 255. -/
def StartsOctal (t : Text) : Prop :=
  ∃ x y z : Nat, x < 8 ∧ y < 8 ∧ z < 8 ∧ (x * 8 + y) * 8 + z ≤ 255 ∧
    ∃ behind, t = x.digitChar :: y.digitChar :: z.digitChar :: behind

section Digits

/-- An octal digit that is written is read back. -/
theorem octalDigit?_octalDigit {n : Nat} (h : n < 8) : octalDigit? (octalDigit n) = some n := by
  have hoctet : (octalDigit n).toNat = 0x30 + n := by
    rw [octalDigit, UInt8.toNat_ofNat', Nat.mod_eq_of_lt (by omega)]
  have hrange : 0x30 ≤ octalDigit n ∧ octalDigit n ≤ 0x37 := by
    simp only [UInt8.le_iff_toNat_le, hoctet, UInt8.reduceToNat]
    omega
  rw [octalDigit?, if_pos hrange, hoctet, Nat.add_sub_cancel_left]

/-- An octet is read as an octal digit exactly if it is written for that digit. -/
theorem octalDigit?_eq_some_iff {b : UInt8} {n : Nat} :
    octalDigit? b = some n ↔ n < 8 ∧ b = octalDigit n := by
  constructor
  · intro h
    unfold octalDigit? at h
    split at h
    · next hrange =>
      have hlow : 0x30 ≤ b.toNat := UInt8.le_iff_toNat_le.mp hrange.1
      have hhigh : b.toNat ≤ 0x37 := UInt8.le_iff_toNat_le.mp hrange.2
      obtain rfl := Option.some.inj h
      refine ⟨by omega, ?_⟩
      rw [octalDigit, Nat.add_sub_cancel' hlow, UInt8.ofNat_toNat]
    · cases h
  · rintro ⟨hn, rfl⟩
    exact octalDigit?_octalDigit hn

/-- Three octets are read as an octet exactly if they are octal digits of a number up to 255. -/
theorem octalByte?_eq_some_iff {a b c value : UInt8} :
    octalByte? a b c = some value ↔
      ∃ x y z : Nat, x < 8 ∧ y < 8 ∧ z < 8 ∧ a = octalDigit x ∧ b = octalDigit y ∧
        c = octalDigit z ∧ (x * 8 + y) * 8 + z ≤ 255 ∧
          value = UInt8.ofNat ((x * 8 + y) * 8 + z) := by
  constructor
  · intro h
    unfold octalByte? at h
    split at h
    · next x y z hfirst hsecond hthird =>
      obtain ⟨hx, rfl⟩ := octalDigit?_eq_some_iff.mp hfirst
      obtain ⟨hy, rfl⟩ := octalDigit?_eq_some_iff.mp hsecond
      obtain ⟨hz, rfl⟩ := octalDigit?_eq_some_iff.mp hthird
      dsimp only at h
      split at h
      · next hvalue =>
        exact ⟨x, y, z, hx, hy, hz, rfl, rfl, rfl, by omega, (Option.some.inj h).symm⟩
      · cases h
    · cases h
  · rintro ⟨x, y, z, hx, hy, hz, rfl, rfl, rfl, hvalue, rfl⟩
    simp only [octalByte?, octalDigit?_octalDigit hx, octalDigit?_octalDigit hy,
      octalDigit?_octalDigit hz]
    rw [if_pos (by omega)]

/-- The digits of an escaped octet are those of the octet. -/
theorem octalByte?_of_escape (b : UInt8) :
    octalByte? (octalDigit (b.toNat / 64)) (octalDigit (b.toNat / 8 % 8))
      (octalDigit (b.toNat % 8)) = some b := by
  have hb : b.toNat < 256 := b.toNat_lt
  have hvalue : (b.toNat / 64 * 8 + b.toNat / 8 % 8) * 8 + b.toNat % 8 = b.toNat := by omega
  refine octalByte?_eq_some_iff.mpr ⟨_, _, _, by omega, by omega, by omega, rfl, rfl, rfl, ?_, ?_⟩
  · omega
  · rw [hvalue, UInt8.ofNat_toNat]

end Digits

section Decoding

/-- An octet that is no backslash stands for itself. -/
theorem decodeEscapedBytes_cons_of_ne {b : UInt8} (h : b ≠ 0x5C) (rest : List UInt8) :
    decodeEscapedBytes (b :: rest) = b :: decodeEscapedBytes rest := by
  rw [decodeEscapedBytes.eq_def]
  simp only [h, if_false]

/-- A backslash and three digits stand for the octet that the digits give. -/
theorem decodeEscapedBytes_escaped {x y z value : UInt8} (h : octalByte? x y z = some value)
    (rest : List UInt8) :
    decodeEscapedBytes (0x5C :: x :: y :: z :: rest) = value :: decodeEscapedBytes rest := by
  rw [decodeEscapedBytes.eq_def]
  simp [h]

/-- A backslash without three such digits behind it stands for itself. -/
theorem decodeEscapedBytes_literal {rest : List UInt8}
    (h : ∀ x y z behind, rest = x :: y :: z :: behind → octalByte? x y z = none) :
    decodeEscapedBytes (0x5C :: rest) = 0x5C :: decodeEscapedBytes rest := by
  rw [decodeEscapedBytes.eq_def]
  simp only [if_true]
  split
  · next x y z behind =>
    rw [h x y z behind rfl]
  · rfl

/-- Octets, and the same with some of them escaped. -/
inductive IsEscaping : (octets raw : List UInt8) → Prop
  | nil : IsEscaping [] []
  | plain {b : UInt8} {octets raw : List UInt8} (hb : b ≠ 0x5C) (rest : IsEscaping octets raw) :
    IsEscaping (b :: octets) (b :: raw)
  | escaped (b : UInt8) {octets raw : List UInt8} (rest : IsEscaping octets raw) :
    IsEscaping (b :: octets) (octalEscape b ++ raw)

/-- Escapes are undone, whichever octets are escaped. -/
theorem IsEscaping.decode {octets raw : List UInt8} (h : IsEscaping octets raw) :
    decodeEscapedBytes raw = octets := by
  induction h with
  | nil => rfl
  | plain hb _ ih => rw [decodeEscapedBytes_cons_of_ne hb, ih]
  | escaped b _ ih => rw [octalEscape, List.cons_append, List.cons_append, List.cons_append,
      List.cons_append, List.nil_append, decodeEscapedBytes_escaped (octalByte?_of_escape b), ih]

/-- Each octet is escaped if its place is chosen. -/
theorem escapeAt_cons (chosen : Nat → Bool) (b : UInt8) (rest : List UInt8) :
    escapeAt chosen (b :: rest) =
      (if chosen 0 then octalEscape b else [b]) ++ escapeAt (fun i => chosen (i + 1)) rest := by
  rw [escapeAt, escapeAt, List.zipIdx_cons', List.flatMap_cons, List.flatMap_map]
  rfl

/-- The positions of octets behind others are counted from there. -/
theorem escapeAt_append (chosen : Nat → Bool) (front behind : List UInt8) :
    escapeAt chosen (front ++ behind) =
      escapeAt chosen front ++ escapeAt (fun i => chosen (front.length + i)) behind := by
  have hbehind : behind.zipIdx front.length =
      behind.zipIdx.map fun (b, i) => (b, front.length + i) := List.zipIdx_eq_map_add
  rw [escapeAt, escapeAt, escapeAt, List.zipIdx_append, List.flatMap_append, Nat.zero_add, hbehind,
    List.flatMap_map]

/-- Escaping octets at places that cover all backslashes is an escaping of them. -/
theorem isEscaping_escapeAt {chosen : Nat → Bool} {octets : List UInt8}
    (h : CoversBackslashes chosen octets) : IsEscaping octets (escapeAt chosen octets) := by
  induction octets generalizing chosen with
  | nil => exact .nil
  | cons b rest ih =>
    have hrest : IsEscaping rest (escapeAt (fun i => chosen (i + 1)) rest) :=
      ih fun i hi => h (i + 1) hi
    rw [escapeAt_cons]
    split
    · exact .escaped b hrest
    · next hb =>
      have hplain : b ≠ 0x5C := fun heq => hb (h 0 (by rw [heq]; rfl))
      exact .plain hplain hrest

/-- Without backslashes nothing has to be escaped. -/
theorem IsEscaping.refl {octets : List UInt8} (h : ∀ b ∈ octets, b ≠ 0x5C) :
    IsEscaping octets octets := by
  induction octets with
  | nil => exact .nil
  | cons b rest ih =>
    obtain ⟨hb, hrest⟩ := List.forall_mem_cons.mp h
    exact .plain hb (ih hrest)

/-- Two escapings in a row are an escaping of both. -/
theorem IsEscaping.append {front front' behind behind' : List UInt8} (h : IsEscaping front front')
    (h' : IsEscaping behind behind') : IsEscaping (front ++ behind) (front' ++ behind') := by
  induction h with
  | nil => exact h'
  | plain hb _ ih => exact .plain hb ih
  | escaped b _ ih =>
    rw [List.cons_append, List.append_assoc]
    exact .escaped b ih

/-- Only a backslash has the octet of a backslash in it. -/
theorem backslash_mem_of_mem_encode {t : Text} (h : 0x5C ∈ encode t) : '\\' ∈ t :=
  mem_of_mem_encode (by decide) h

/-- A text without backslashes is decoded as any other. -/
theorem decodeEscapes_eq (t : Text) :
    decodeEscapes t = decodeLossy (decodeEscapedBytes (encode t)) := by
  unfold decodeEscapes
  split
  · rfl
  · next hnone =>
    have hplain : ∀ b ∈ encode t, b ≠ 0x5C := by
      rintro b hb rfl
      exact hnone (backslash_mem_of_mem_encode hb)
    rw [(IsEscaping.refl hplain).decode, decodeLossy_encode]

/-- A text with some octets escaped is decoded to the text. -/
theorem decodeEscapes_of_isEscaping {t raw : Text} (h : IsEscaping (encode t) (encode raw)) :
    decodeEscapes raw = t := by
  rw [decodeEscapes_eq, h.decode, decodeLossy_encode]

end Decoding

section Literal

/-- A backslash is no octal digit. -/
private theorem octalByte?_of_backslash {x y z : UInt8} (h : 0x5C ∈ [x, y, z]) :
    octalByte? x y z = none := by
  have hdigit : ∀ n < 8, (0x5C : UInt8) ≠ octalDigit n := by decide
  cases hvalue : octalByte? x y z with
  | none => rfl
  | some value =>
    obtain ⟨i, j, k, hi, hj, hk, rfl, rfl, rfl, -⟩ := octalByte?_eq_some_iff.mp hvalue
    simp [hdigit i hi, hdigit j hj, hdigit k hk] at h

/-- No escape reaches across a backslash behind its own. -/
private theorem decodeEscapedBytes_append_backslash (front behind : List UInt8) :
    decodeEscapedBytes (front ++ 0x5C :: behind) =
      decodeEscapedBytes front ++ decodeEscapedBytes (0x5C :: behind) := by
  fun_induction decodeEscapedBytes front with
  | case1 => rfl
  | case2 x y z rest value hvalue ih =>
    simp only [List.cons_append] at ih ⊢
    rw [decodeEscapedBytes_escaped hvalue, ih]
  | case3 x y z rest hnone ih =>
    simp only [List.cons_append] at ih ⊢
    rw [decodeEscapedBytes_literal ?_, ih]
    rintro x' y' z' rest' ⟨⟩
    exact hnone
  | case4 few hfew ih =>
    rw [List.cons_append, decodeEscapedBytes_literal ?_, ih, List.cons_append]
    intro x y z rest heq
    -- the backslash is among the next three octets
    refine octalByte?_of_backslash ?_
    match few with
    | [] => simp [(List.cons.inj heq).1]
    | [_] => simp [(List.cons.inj (List.cons.inj heq).2).1]
    | [_, _] => simp [(List.cons.inj (List.cons.inj (List.cons.inj heq).2).2).1]
    | x :: y :: z :: more => exact absurd rfl (hfew x y z more)
  | case5 b rest hb ih =>
    rw [List.cons_append, decodeEscapedBytes_cons_of_ne hb, ih, List.cons_append]

/-- A backslash continues no character. -/
private theorem isTail_backslash : isTail 0x5C = false := by decide

/-- No character of two octets ends with a backslash, -/
private theorem not_isPair_backslash (a : UInt8) : isPair a 0x5C = false := by
  simp [isPair, isTail_backslash]

/-- no character of three has one in the middle, -/
private theorem not_startsThree_backslash (a : UInt8) : startsThree a 0x5C = false := by
  simp [startsThree, isTail_backslash]

/-- and neither has a character of four. -/
private theorem not_startsFour_backslash (a : UInt8) : startsFour a 0x5C = false := by
  simp [startsFour, isTail_backslash]

/-- No ill-formed part reaches across a backslash. -/
private theorem decodeLossy_append_backslash (front behind : List UInt8) :
    decodeLossy (front ++ 0x5C :: behind) = decodeLossy front ++ '\\' :: decodeLossy behind := by
  have hbackslash : decodeLossy (0x5C :: behind) = '\\' :: decodeLossy behind := by
    rw [decodeLossy.eq_def]
    rfl
  fun_induction decodeLossy front with
  | case1 => exact hbackslash
  | case2 a rest hascii ih =>
    rw [List.cons_append, decodeLossy.eq_def]
    simp [hascii, ih]
  -- a part that is cut off by the end is cut off by a backslash
  | case3 a hascii =>
    rw [List.cons_append, decodeLossy.eq_def]
    simp [hascii, not_isPair_backslash, not_startsThree_backslash, not_startsFour_backslash,
      hbackslash]
  | case6 a hascii b hpair hstart =>
    rw [List.cons_append, decodeLossy.eq_def]
    simp [hascii, hpair, hstart, isTail_backslash, hbackslash]
  | case9 a hascii b hpair hstart d hthree hfour =>
    rw [List.cons_append, decodeLossy.eq_def]
    simp [hascii, hpair, hstart, hthree, hfour, isTail_backslash, hbackslash]
  -- what is seen of the other parts is in front of it
  | case4 a hascii b rest hpair ih =>
    rw [List.cons_append, decodeLossy.eq_def]
    simp [hascii, hpair, ih]
  | case5 a hascii b rest hpair hstart ih =>
    simp only [List.cons_append] at ih ⊢
    rw [decodeLossy.eq_def]
    simp only [hascii, hpair, hstart, ih, Bool.false_eq_true, if_true, if_false]
  | case7 a hascii b hpair hstart d rest hthree ih =>
    simp only [List.cons_append] at ih ⊢
    rw [decodeLossy.eq_def]
    simp only [hascii, hpair, hstart, hthree, ih, Bool.false_eq_true, if_true, if_false]
  | case8 a hascii b hpair hstart d rest hthree hfour ih =>
    simp only [List.cons_append] at ih ⊢
    rw [decodeLossy.eq_def]
    simp only [hascii, hpair, hstart, hthree, hfour, ih, Bool.false_eq_true, if_true, if_false]
  | case10 a hascii b hpair hstart d hthree hfour e rest htail ih =>
    simp only [List.cons_append] at ih ⊢
    rw [decodeLossy.eq_def]
    simp only [hascii, hpair, hstart, hthree, hfour, htail, ih, Bool.false_eq_true, if_true,
      if_false]
  | case11 a hascii b hpair hstart d hthree hfour e rest htail ih =>
    simp only [List.cons_append] at ih ⊢
    rw [decodeLossy.eq_def]
    simp only [hascii, hpair, hstart, hthree, hfour, htail, ih, Bool.false_eq_true, if_false]

/-- An ASCII octet in front is a character. -/
theorem exists_cons_of_encode_eq_cons {t : Text} {b : UInt8} {rest : List UInt8} (hb : b < 0x80)
    (h : encode t = b :: rest) : ∃ t', t = Char.ofNat b.toNat :: t' ∧ encode t' = rest := by
  cases t with
  | nil => cases h
  | cons c t =>
    rw [encode_cons] at h
    rcases utf8EncodeChar_cases c with ⟨a, -, hencode, hchar⟩ | hlarge
    · rw [hencode, List.singleton_append] at h
      obtain ⟨rfl, hrest⟩ := List.cons.inj h
      exact ⟨t, by rw [hchar], hrest⟩
    · obtain ⟨a, more, hencode⟩ :=
        List.exists_cons_of_ne_nil (String.utf8EncodeChar_ne_nil (c := c))
      rw [hencode, List.cons_append] at h
      obtain ⟨rfl, -⟩ := List.cons.inj h
      have hlarge := hlarge a (by rw [hencode]; exact List.mem_cons_self)
      exact absurd hb (UInt8.not_lt.mpr hlarge)

/-- Octal digits behind a backslash are those of the text. -/
private theorem startsOctal_of_encode {t : Text} {a b c value : UInt8} {behind : List UInt8}
    (h : encode t = a :: b :: c :: behind) (hvalue : octalByte? a b c = some value) :
    StartsOctal t := by
  have hdigit : ∀ n < 8, octalDigit n < 0x80 ∧ Char.ofNat (octalDigit n).toNat = n.digitChar := by
    decide
  obtain ⟨x, y, z, hx, hy, hz, rfl, rfl, rfl, hle, -⟩ := octalByte?_eq_some_iff.mp hvalue
  obtain ⟨t, rfl, hsecond⟩ := exists_cons_of_encode_eq_cons (hdigit x hx).1 h
  obtain ⟨t, rfl, hthird⟩ := exists_cons_of_encode_eq_cons (hdigit y hy).1 hsecond
  obtain ⟨t, rfl, -⟩ := exists_cons_of_encode_eq_cons (hdigit z hz).1 hthird
  rw [(hdigit x hx).2, (hdigit y hy).2, (hdigit z hz).2]
  exact ⟨x, y, z, hx, hy, hz, hle, t, rfl⟩

/-- A backslash without three octal digits of an octet behind it stands for itself. -/
theorem decodeEscapes_literal (front : Text) {behind : Text} (h : ¬ StartsOctal behind) :
    decodeEscapes (front ++ '\\' :: behind) =
      decodeEscapes front ++ '\\' :: decodeEscapes behind := by
  have hoctets : encode (front ++ '\\' :: behind) = encode front ++ 0x5C :: encode behind :=
    encode_append front ('\\' :: behind)
  have hliteral : decodeEscapedBytes (0x5C :: encode behind) =
      0x5C :: decodeEscapedBytes (encode behind) := by
    refine decodeEscapedBytes_literal fun x y z rest heq => ?_
    cases hvalue : octalByte? x y z with
    | none => rfl
    | some value => exact absurd (startsOctal_of_encode heq hvalue) h
  rw [decodeEscapes_eq, decodeEscapes_eq, decodeEscapes_eq, hoctets,
    decodeEscapedBytes_append_backslash, hliteral, decodeLossy_append_backslash]

end Literal

section Whole

/-- Where every position is chosen, every octet is escaped. -/
private theorem escapeAt_of_all {chosen : Nat → Bool} {octets : List UInt8}
    (h : ∀ i < octets.length, chosen i = true) :
    escapeAt chosen octets = octets.flatMap octalEscape := by
  induction octets generalizing chosen with
  | nil => rfl
  | cons b rest ih =>
    have hrest : ∀ i < rest.length, chosen (i + 1) = true := fun i hi =>
      h (i + 1) (by simpa using hi)
    rw [escapeAt_cons, if_pos (h 0 (by simp)), ih hrest, List.flatMap_cons]

/-- Where no position is chosen, nothing is escaped. -/
private theorem escapeAt_of_none {chosen : Nat → Bool} {octets : List UInt8}
    (h : ∀ i < octets.length, chosen i = false) : escapeAt chosen octets = octets := by
  induction octets generalizing chosen with
  | nil => rfl
  | cons b rest ih =>
    have hfirst : ¬ chosen 0 = true := by simp [h 0 (by simp)]
    have hrest : ∀ i < rest.length, chosen (i + 1) = false := fun i hi =>
      h (i + 1) (by simpa using hi)
    rw [escapeAt_cons, if_neg hfirst, ih hrest, List.singleton_append]

/-- Escapes are ASCII. -/
private theorem ascii_of_mem_escapes {octets : List UInt8} :
    ∀ a ∈ octets.flatMap octalEscape, a < 0x80 := by
  intro a ha
  obtain ⟨b, -, ha⟩ := List.mem_flatMap.mp ha
  have hdigit : ∀ n < 8, octalDigit n < 0x80 := by decide
  have hb : b.toNat < 256 := b.toNat_lt
  simp only [octalEscape, List.mem_cons, List.not_mem_nil, or_false] at ha
  rcases ha with rfl | rfl | rfl | rfl
  · decide
  · exact hdigit _ (by omega)
  · exact hdigit _ (by omega)
  · exact hdigit _ (by omega)

/-- An ASCII octet is the encoding of its character. -/
private theorem utf8EncodeChar_ascii {b : UInt8} (h : b < 0x80) :
    String.utf8EncodeChar (Char.ofNat b.toNat) = [b] := by
  have hall : ∀ n < 128, String.utf8EncodeChar (Char.ofNat n) = [UInt8.ofNat n] := by decide
  rw [hall b.toNat (UInt8.lt_iff_toNat_lt.mp h), UInt8.ofNat_toNat]

/-- ASCII octets are a text, and what follows them is one if the whole is. -/
private theorem exists_encode_ascii_append {front : List UInt8} (h : ∀ b ∈ front, b < 0x80)
    (behind : List UInt8) :
    (∃ raw, encode raw = front ++ behind) ↔ ∃ raw, encode raw = behind := by
  induction front with
  | nil => rfl
  | cons b front ih =>
    obtain ⟨hb, hfront⟩ := List.forall_mem_cons.mp h
    rw [List.cons_append, ← ih hfront]
    constructor
    · rintro ⟨raw, hraw⟩
      obtain ⟨rest, -, hrest⟩ := exists_cons_of_encode_eq_cons hb hraw
      exact ⟨rest, hrest⟩
    · rintro ⟨rest, hrest⟩
      exact ⟨Char.ofNat b.toNat :: rest, by rw [encode_cons, utf8EncodeChar_ascii hb, hrest,
        List.singleton_append]⟩

/-- What follows a character is a text if the whole is. -/
private theorem exists_encode_char_append (c : Char) (behind : List UInt8) :
    (∃ raw, encode raw = String.utf8EncodeChar c ++ behind) ↔ ∃ raw, encode raw = behind := by
  constructor
  · rintro ⟨raw, hraw⟩
    have hdecode := decode?_encode raw
    rw [hraw, decode?_utf8EncodeChar_append] at hdecode
    obtain ⟨rest, -, rfl⟩ := Option.map_eq_some_iff.mp hdecode
    rw [encode_cons] at hraw
    exact ⟨rest, List.append_cancel_left hraw⟩
  · rintro ⟨rest, rfl⟩
    exact ⟨c :: rest, encode_cons c rest⟩

/-- Octets that are not all treated alike: up to some point they are. -/
private theorem exists_first_change {chosen : Nat → Bool} {octets : List UInt8}
    (h : ¬ ∀ i < octets.length, chosen i = chosen 0) :
    ∃ front b rest, octets = front ++ b :: rest ∧ front ≠ [] ∧
      (∀ i < front.length, chosen i = chosen 0) ∧ chosen front.length ≠ chosen 0 := by
  have hsome : ∃ j, j < octets.length ∧ chosen j ≠ chosen 0 := by
    simpa only [not_forall, exists_prop] using h
  obtain ⟨hlt, hne⟩ := Nat.find_spec hsome
  have hlength : (octets.take (Nat.find hsome)).length = Nat.find hsome := by
    rw [List.length_take, Nat.min_eq_left (Nat.le_of_lt hlt)]
  refine ⟨octets.take (Nat.find hsome), octets[Nat.find hsome], octets.drop (Nat.find hsome + 1),
    ?_, ?_, ?_, ?_⟩
  · rw [← List.drop_eq_getElem_cons, List.take_append_drop]
  · intro hnil
    rw [hnil, List.length_nil] at hlength
    rw [← hlength] at hne
    exact hne rfl
  · intro i hi
    rw [hlength] at hi
    exact not_not.mp fun hi' => Nat.find_min hsome hi ⟨Nat.lt_trans hi hlt, hi'⟩
  · rwa [hlength]

/-- A character that is escaped in part is no part of a text: its first octets are broken off, or
the others do not start a character. -/
private theorem not_exists_encode_mixed {chosen : Nat → Bool} {c : Char} (behind : List UInt8)
    (h : ¬ ∀ i < (String.utf8EncodeChar c).length, chosen i = chosen 0) :
    ¬ ∃ raw, encode raw = escapeAt chosen (String.utf8EncodeChar c) ++ behind := by
  rintro ⟨raw, hraw⟩
  obtain ⟨front, b, rest, hsplit, hfront, hbefore, hne⟩ := exists_first_change h
  rw [hsplit, escapeAt_append, escapeAt_cons, Nat.add_zero, List.append_assoc] at hraw
  cases hfirst : chosen 0 with
  | true =>
    have hplain : ¬ chosen front.length = true := fun h => hne (h.trans hfirst.symm)
    rw [escapeAt_of_all fun i hi => (hbefore i hi).trans hfirst, if_neg hplain] at hraw
    obtain ⟨more, hmore⟩ := (exists_encode_ascii_append ascii_of_mem_escapes _).mp ⟨raw, hraw⟩
    have htail : isTail b = true := isTail_of_mem_behind hsplit hfront b List.mem_cons_self
    have hdecode := decode?_encode more
    rw [hmore, List.singleton_append, List.cons_append, decode?_tail htail] at hdecode
    cases hdecode
  | false =>
    have hescaped : chosen front.length = true := by
      rw [hfirst] at hne
      simpa using hne
    rw [escapeAt_of_none fun i hi => (hbefore i hi).trans hfirst, if_pos hescaped] at hraw
    have hdecode := decode?_encode raw
    rw [hraw, octalEscape, List.cons_append, List.cons_append,
      decode?_brokenOff hsplit hfront (List.cons_ne_nil b rest) (by decide)] at hdecode
    cases hdecode

/-- A character is part of a text if its octets are all escaped or none is, and otherwise not. -/
private theorem exists_encode_escapeAt_append (chosen : Nat → Bool) (c : Char)
    (behind : List UInt8) :
    (∃ raw, encode raw = escapeAt chosen (String.utf8EncodeChar c) ++ behind) ↔
      (∀ i < c.utf8Size, chosen i = chosen 0) ∧ ∃ raw, encode raw = behind := by
  rw [← String.length_utf8EncodeChar c]
  by_cases hwhole : ∀ i < (String.utf8EncodeChar c).length, chosen i = chosen 0
  · rw [and_iff_right hwhole]
    cases hfirst : chosen 0 with
    | true =>
      rw [escapeAt_of_all fun i hi => (hwhole i hi).trans hfirst]
      exact exists_encode_ascii_append ascii_of_mem_escapes behind
    | false =>
      rw [escapeAt_of_none fun i hi => (hwhole i hi).trans hfirst]
      exact exists_encode_char_append c behind
  · exact iff_of_false (not_exists_encode_mixed behind hwhole) fun h => hwhole h.1

/-- Escaped octets are a text exactly if no character is escaped in part. -/
theorem exists_encode_escapeAt_iff (chosen : Nat → Bool) (t : Text) :
    (∃ raw, encode raw = escapeAt chosen (encode t)) ↔ IsWhole chosen t := by
  induction t generalizing chosen with
  | nil =>
    refine iff_of_true ⟨[], rfl⟩ fun front c behind h => ?_
    simp at h
  | cons c t ih =>
    rw [encode_cons, escapeAt_append, exists_encode_escapeAt_append, ih]
    constructor
    · rintro ⟨hfirst, hrest⟩ front d behind heq i hi
      cases front with
      | nil =>
        obtain ⟨rfl, -⟩ := List.cons.inj heq
        simpa using hfirst i hi
      | cons first front =>
        obtain ⟨rfl, hbehind⟩ := List.cons.inj heq
        simpa [encode_cons, Nat.add_assoc] using hrest front d behind hbehind i hi
    · intro h
      refine ⟨fun i hi => by simpa using h [] c t rfl i hi, fun front d behind heq i hi => ?_⟩
      simpa [encode_cons, Nat.add_assoc] using h (c :: front) d behind (by rw [heq]; rfl) i hi

end Whole

end Text

namespace MountRecord

open Text

/-- **Octal escapes.** Whichever octets of a text are escaped, every backslash among them, decoding
gives the text back, in the root and in the mount point of a record. What is escaped is a text
itself exactly if no character is escaped in part. A backslash without three octal digits of an
octet behind it stands for itself, between what the rest of the field says. -/
theorem decoded_escapeAt :
    (∀ (chosen : Nat → Bool) (t : Text), CoversBackslashes chosen (encode t) →
      decodeLossy (decodeEscapedBytes (escapeAt chosen (encode t))) = t ∧
      ((∃ raw, encode raw = escapeAt chosen (encode t)) ↔ IsWhole chosen t) ∧
      ∀ record : MountRecord,
        (encode record.root = escapeAt chosen (encode t) → record.decodedRoot = t) ∧
        (encode record.mountPoint = escapeAt chosen (encode t) → record.decodedMountPoint = t)) ∧
    ∀ front behind : Text, ¬ StartsOctal behind → ∀ record : MountRecord,
      (record.root = front ++ '\\' :: behind →
        record.decodedRoot = decodeEscapes front ++ '\\' :: decodeEscapes behind) ∧
      (record.mountPoint = front ++ '\\' :: behind →
        record.decodedMountPoint = decodeEscapes front ++ '\\' :: decodeEscapes behind) := by
  constructor
  · intro chosen t hcovers
    have hescaping := isEscaping_escapeAt hcovers
    have hdecode {raw : Text} (h : encode raw = escapeAt chosen (encode t)) :
        decodeEscapes raw = t :=
      decodeEscapes_of_isEscaping (h ▸ hescaping)
    refine ⟨?_, exists_encode_escapeAt_iff chosen t, fun record => ⟨hdecode, hdecode⟩⟩
    rw [hescaping.decode, decodeLossy_encode]
  · intro front behind hbehind record
    have hliteral := decodeEscapes_literal front hbehind
    refine ⟨fun h => ?_, fun h => ?_⟩
    · rw [decodedRoot, h, hliteral]
    · rw [decodedMountPoint, h, hliteral]

/-- In the root a backslash in front of digits, a space, both octets of a character and the last
backslash are escaped. In the mount point the digits behind the backslashes give no octet. -/
theorem decoded_escapeAt_adjacent :
    let t := "/\\101 é\\".toList
    let chosen : Nat → Bool := fun i => i = 1 || 5 ≤ i
    let record : MountRecord :=
      { mountId := "36".toList, parentId := "35".toList, device := "0:30".toList,
        root := "/\\134101\\040\\303\\251\\134".toList, mountPoint := "/x\\8\\400".toList,
        optionalFields := ["rw".toList], fileSystem := "tmpfs".toList, source := "none".toList,
        superOptions := "rw".toList }
    CoversBackslashes chosen (encode t) ∧ encode record.root = escapeAt chosen (encode t) ∧
      record.decodedRoot = t ∧ ¬ StartsOctal "400".toList ∧
      record.decodedMountPoint = "/x\\8\\400".toList := by
  intro t chosen record
  have hcovers : CoversBackslashes chosen (encode t) := by decide
  have hroot : encode record.root = escapeAt chosen (encode t) := by decide
  have hliteral : ¬ StartsOctal "400".toList := by
    rintro ⟨x, y, z, hx, hy, hz, hle, behind, heq⟩
    have hfour : ∀ x < 8, '4' = x.digitChar → x = 4 := by decide
    have hx := hfour x hx (List.cons.inj heq).1
    omega
  have hdecoded := (decoded_escapeAt.1 chosen t hcovers).2.2 record
  have hkept := decoded_escapeAt.2 "/x\\8".toList "400".toList hliteral record
  exact ⟨hcovers, hroot, hdecoded.1 hroot, hliteral, (hkept.2 rfl).trans (by decide)⟩

end MountRecord

end ProcessMeter
