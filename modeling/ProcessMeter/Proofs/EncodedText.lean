import ProcessMeter.Stat.Lines

/-!
# Encoded text is read back

The octets of a text in UTF-8 are decoded to that text, strictly and leniently. A line feed is the
only character with the octet of a line feed in it, so the lines of the octets are the lines of the
text.
-/

namespace ProcessMeter

namespace Text

section Octets

variable {a b d : UInt8}

/-- An octet is ASCII by its number. -/
private theorem ascii_iff : a < 0x80 ↔ a.toNat < 0x80 := by
  simp [UInt8.lt_iff_toNat_lt]

/-- An octet continues a character by its number. -/
private theorem isTail_iff : isTail b = true ↔ 0x80 ≤ b.toNat ∧ b.toNat ≤ 0xBF := by
  simp [isTail, UInt8.le_iff_toNat_le]

/-- Two octets are a character if the first can start one and the second continues it. -/
private theorem isPair_iff :
    isPair a b = true ↔ (0xC2 ≤ a.toNat ∧ a.toNat ≤ 0xDF) ∧ isTail b = true := by
  simp [isPair, UInt8.le_iff_toNat_le]

/-- Two octets start a character of three unless there is a shorter encoding, or none at all. -/
private theorem startsThree_iff :
    startsThree a b = true ↔
      (0xE0 ≤ a.toNat ∧ a.toNat ≤ 0xEF) ∧ isTail b = true ∧
        (a.toNat = 0xE0 → 0xA0 ≤ b.toNat) ∧ (a.toNat = 0xED → b.toNat ≤ 0x9F) := by
  have he0 : a = 0xE0 ↔ a.toNat = 0xE0 := UInt8.toNat_inj.symm
  have hed : a = 0xED ↔ a.toNat = 0xED := UInt8.toNat_inj.symm
  simp only [startsThree, Bool.or_eq_true, Bool.and_eq_true, beq_iff_eq, decide_eq_true_eq,
    UInt8.le_iff_toNat_le, UInt8.reduceToNat, isTail_iff, he0, hed]
  omega

/-- Two octets start a character of four unless there is a shorter encoding, or none at all. -/
private theorem startsFour_iff :
    startsFour a b = true ↔
      (0xF0 ≤ a.toNat ∧ a.toNat ≤ 0xF4) ∧ isTail b = true ∧
        (a.toNat = 0xF0 → 0x90 ≤ b.toNat) ∧ (a.toNat = 0xF4 → b.toNat ≤ 0x8F) := by
  have hf0 : a = 0xF0 ↔ a.toNat = 0xF0 := UInt8.toNat_inj.symm
  have hf4 : a = 0xF4 ↔ a.toNat = 0xF4 := UInt8.toNat_inj.symm
  simp only [startsFour, Bool.or_eq_true, Bool.and_eq_true, beq_iff_eq, decide_eq_true_eq,
    UInt8.le_iff_toNat_le, UInt8.reduceToNat, isTail_iff, hf0, hf4]
  omega

/-- An octet by its number. -/
private theorem toNat_octet {n : Nat} (h : n < 256) : (UInt8.ofNat n).toNat = n := by
  rw [UInt8.toNat_ofNat', Nat.mod_eq_of_lt h]

/-- A number that stands for a character is the number of this character. -/
private theorem toNat_ofNat {n : Nat} (h : n.isValidChar) : (Char.ofNat n).toNat = n := by
  rw [Char.ofNat, dif_pos h]
  rfl

/-- A character of two octets is not ASCII, -/
private theorem le_toNat_pairChar (h : isPair a b = true) : 0x80 ≤ (pairChar a b).toNat := by
  rw [isPair_iff, isTail_iff] at h
  have hvalid : ((a.toNat - 0xC0) * 64 + (b.toNat - 0x80)).isValidChar := Or.inl (by omega)
  rw [pairChar, toNat_ofNat hvalid]
  omega

/-- nor is one of three, -/
private theorem le_toNat_tripleChar (h : startsThree a b = true) (hd : isTail d = true) :
    0x80 ≤ (tripleChar a b d).toNat := by
  rw [startsThree_iff, isTail_iff] at h
  rw [isTail_iff] at hd
  have hvalid :
      (((a.toNat - 0xE0) * 64 + (b.toNat - 0x80)) * 64 + (d.toNat - 0x80)).isValidChar := by
    unfold Nat.isValidChar
    omega
  rw [tripleChar, toNat_ofNat hvalid]
  omega

/-- nor is one of four. -/
private theorem le_toNat_quadrupleChar {e : UInt8} (h : startsFour a b = true)
    (hd : isTail d = true) (he : isTail e = true) : 0x80 ≤ (quadrupleChar a b d e).toNat := by
  rw [startsFour_iff, isTail_iff] at h
  rw [isTail_iff] at hd he
  have hvalid : ((((a.toNat - 0xF0) * 64 + (b.toNat - 0x80)) * 64 + (d.toNat - 0x80)) * 64 +
      (e.toNat - 0x80)).isValidChar := by
    unfold Nat.isValidChar
    omega
  rw [quadrupleChar, toNat_ofNat hvalid]
  omega

/-- An ASCII character of octets that are decoded leniently is one of the octets. -/
theorem mem_of_mem_decodeLossy {c : Char} (hc : c.toNat < 0x80) {octets : List UInt8}
    (h : c ∈ decodeLossy octets) : UInt8.ofNat c.toNat ∈ octets := by
  have hreplacement : c ≠ replacement := by
    rintro rfl
    exact absurd hc (by decide)
  have hne {d : Char} (hd : 0x80 ≤ d.toNat) : c ≠ d := by
    rintro rfl
    omega
  fun_induction decodeLossy octets with
  | case1 => simp at h
  | case2 a rest ha ih =>
    rcases List.mem_cons.mp h with rfl | h
    · have hvalid : a.toNat.isValidChar := Or.inl (by rw [ascii_iff] at ha; omega)
      rw [toNat_ofNat hvalid, UInt8.ofNat_toNat]
      exact List.mem_cons_self
    · exact List.mem_cons_of_mem _ (ih h)
  | case3 a ha => exact absurd (List.mem_singleton.mp h) hreplacement
  | case4 a ha b rest hpair ih =>
    have hrest := (List.mem_cons.mp h).resolve_left (hne (le_toNat_pairChar hpair))
    simp [ih hrest]
  | case5 a ha b rest hpair hstart ih =>
    have hrest := (List.mem_cons.mp h).resolve_left hreplacement
    exact List.mem_cons_of_mem _ (ih hrest)
  | case6 a ha b hpair hstart => exact absurd (List.mem_singleton.mp h) hreplacement
  | case7 a ha b hpair hstart d rest hthree ih =>
    obtain ⟨hthree, hd⟩ := Bool.and_eq_true_iff.mp hthree
    have hrest := (List.mem_cons.mp h).resolve_left (hne (le_toNat_tripleChar hthree hd))
    simp [ih hrest]
  | case8 a ha b hpair hstart d rest hthree hfour ih =>
    have hrest := (List.mem_cons.mp h).resolve_left hreplacement
    exact List.mem_cons_of_mem _ (List.mem_cons_of_mem _ (ih hrest))
  | case9 a ha b hpair hstart d hthree hfour =>
    exact absurd (List.mem_singleton.mp h) hreplacement
  | case10 a ha b hpair hstart d hthree hfour e rest he ih =>
    obtain ⟨hfour, hd⟩ : startsFour a b = true ∧ isTail d = true := by simpa using hfour
    have hrest := (List.mem_cons.mp h).resolve_left (hne (le_toNat_quadrupleChar hfour hd he))
    simp [ih hrest]
  | case11 a ha b hpair hstart d hthree hfour e rest he ih =>
    have hrest := (List.mem_cons.mp h).resolve_left hreplacement
    simp only [List.mem_cons] at ih ⊢
    exact .inr (.inr (.inr (ih hrest)))

end Octets

/-- The octets of a character: one of ASCII, or a first one followed by one, two or three others. -/
private inductive IsEncoding (c : Char) : List UInt8 → Prop
  | one {a : UInt8} (first : a < 0x80) (char : Char.ofNat a.toNat = c) : IsEncoding c [a]
  | two {a b : UInt8} (first : ¬ a < 0x80) (pair : isPair a b = true) (char : pairChar a b = c) :
    IsEncoding c [a, b]
  | three {a b d : UInt8} (first : ¬ a < 0x80) (noPair : isPair a b = false)
    (start : startsThree a b = true) (tail : isTail d = true) (char : tripleChar a b d = c) :
    IsEncoding c [a, b, d]
  | four {a b d e : UInt8} (first : ¬ a < 0x80) (noPair : isPair a b = false)
    (noThree : startsThree a b = false) (start : startsFour a b = true) (tail : isTail d = true)
    (last : isTail e = true) (char : quadrupleChar a b d e = c) : IsEncoding c [a, b, d, e]

/-- A character is encoded by octets of one of the four shapes. -/
private theorem isEncoding_utf8EncodeChar (c : Char) : IsEncoding c (String.utf8EncodeChar c) := by
  have hvalid : c.toNat < 0xD800 ∨ 0xDFFF < c.toNat ∧ c.toNat < 0x110000 := c.valid
  have hchar : ∀ n, n = c.toNat → Char.ofNat n = c := by
    rintro n rfl
    exact Char.ofNat_toNat c
  have hval : c.val.toNat = c.toNat := rfl
  rw [String.utf8EncodeChar]
  simp only [hval]
  generalize c.toNat = v at hvalid hchar
  have hone := toNat_octet (n := v)
  have htail := toNat_octet (show v % 64 + 128 < 256 by omega)
  have hmiddle := toNat_octet (show v / 64 % 64 + 128 < 256 by omega)
  have hearly := toNat_octet (show v / 4096 % 64 + 128 < 256 by omega)
  have htwo := toNat_octet (show v / 64 % 32 + 192 < 256 by omega)
  have hthree := toNat_octet (show v / 4096 % 16 + 224 < 256 by omega)
  have hfour := toNat_octet (show v / 262144 % 8 + 240 < 256 by omega)
  split
  · refine .one ?_ ?_
    · rw [ascii_iff, hone (by omega)]
      omega
    · rw [hone (by omega), hchar v rfl]
  · split
    · refine .two ?_ ?_ ?_
      · rw [ascii_iff, htwo]
        omega
      · rw [isPair_iff, isTail_iff, htwo, htail]
        omega
      · rw [pairChar, htwo, htail]
        exact hchar _ (by omega)
    · split
      · refine .three ?_ ?_ ?_ ?_ ?_
        · rw [ascii_iff, hthree]
          omega
        · rw [Bool.eq_false_iff, ne_eq, isPair_iff, hthree]
          omega
        · rw [startsThree_iff, isTail_iff, hthree, hmiddle]
          omega
        · rw [isTail_iff, htail]
          omega
        · rw [tripleChar, hthree, hmiddle, htail]
          exact hchar _ (by omega)
      · refine .four ?_ ?_ ?_ ?_ ?_ ?_ ?_
        · rw [ascii_iff, hfour]
          omega
        · rw [Bool.eq_false_iff, ne_eq, isPair_iff, hfour]
          omega
        · rw [Bool.eq_false_iff, ne_eq, startsThree_iff, hfour]
          omega
        · rw [startsFour_iff, isTail_iff, hfour, hearly]
          omega
        · rw [isTail_iff, hmiddle]
          omega
        · rw [isTail_iff, htail]
          omega
        · rw [quadrupleChar, hfour, hearly, hmiddle, htail]
          exact hchar _ (by omega)

/-- An encoded character is decoded first, strictly. -/
theorem decode?_utf8EncodeChar_append (c : Char) (rest : List UInt8) :
    decode? (String.utf8EncodeChar c ++ rest) = (decode? rest).map (c :: ·) := by
  have hencoding := isEncoding_utf8EncodeChar c
  generalize String.utf8EncodeChar c = octets at hencoding
  cases hencoding with
  | one first char =>
    rw [List.cons_append, decode?.eq_def]
    simp [first, char]
  | two first pair char =>
    rw [List.cons_append, decode?.eq_def]
    simp [first, pair, char]
  | three first noPair start tail char =>
    rw [List.cons_append, decode?.eq_def]
    simp [first, noPair, start, tail, char]
  | four first noPair noThree start tail last char =>
    rw [List.cons_append, decode?.eq_def]
    simp [first, noPair, noThree, start, tail, last, char]

/-- An encoded character is decoded first, leniently. -/
theorem decodeLossy_utf8EncodeChar_append (c : Char) (rest : List UInt8) :
    decodeLossy (String.utf8EncodeChar c ++ rest) = c :: decodeLossy rest := by
  have hencoding := isEncoding_utf8EncodeChar c
  generalize String.utf8EncodeChar c = octets at hencoding
  cases hencoding with
  | one first char =>
    rw [List.cons_append, decodeLossy.eq_def]
    simp [first, char]
  | two first pair char =>
    rw [List.cons_append, decodeLossy.eq_def]
    simp [first, pair, char]
  | three first noPair start tail char =>
    rw [List.cons_append, decodeLossy.eq_def]
    simp [first, noPair, start, tail, char]
  | four first noPair noThree start tail last char =>
    rw [List.cons_append, decodeLossy.eq_def]
    simp [first, noPair, noThree, start, tail, last, char]

/-- A character is its own octet if it is ASCII, and has no ASCII octet otherwise. -/
theorem utf8EncodeChar_cases (c : Char) :
    (∃ a : UInt8, a < 0x80 ∧ String.utf8EncodeChar c = [a] ∧ Char.ofNat a.toNat = c) ∨
      ∀ b ∈ String.utf8EncodeChar c, 0x80 ≤ b := by
  have htail {b : UInt8} (hb : isTail b = true) : 0x80 ≤ b :=
    of_decide_eq_true (Bool.and_eq_true_iff.mp hb).1
  have hencoding := isEncoding_utf8EncodeChar c
  generalize String.utf8EncodeChar c = octets at hencoding
  cases hencoding with
  | one first char => exact Or.inl ⟨_, first, rfl, char⟩
  | two first pair char =>
    have hb := htail (isPair_iff.mp pair).2
    exact Or.inr (by simp [UInt8.not_lt.mp first, hb])
  | three first noPair start tail char =>
    have hb := htail (startsThree_iff.mp start).2.1
    exact Or.inr (by simp [UInt8.not_lt.mp first, hb, htail tail])
  | four first noPair noThree start tail last char =>
    have hb := htail (startsFour_iff.mp start).2.1
    exact Or.inr (by simp [UInt8.not_lt.mp first, hb, htail tail, htail last])

/-- An ASCII octet is only in its own character. -/
theorem eq_of_mem_utf8EncodeChar {c : Char} {b : UInt8} (hb : b < 0x80)
    (h : b ∈ String.utf8EncodeChar c) : c = Char.ofNat b.toNat := by
  rcases utf8EncodeChar_cases c with ⟨a, -, hencode, hchar⟩ | hlarge
  · rw [hencode, List.mem_singleton] at h
    rw [← hchar, h]
  · exact absurd hb (UInt8.not_lt.mpr (hlarge b h))

/-- An octet that continues a character does not start one. -/
theorem decode?_tail {a : UInt8} (h : isTail a = true) (rest : List UInt8) :
    decode? (a :: rest) = none := by
  rw [isTail_iff] at h
  have hfirst : ¬ a < 0x80 := by
    rw [ascii_iff]
    omega
  have hpair (b : UInt8) : isPair a b = false := by
    rw [Bool.eq_false_iff, ne_eq, isPair_iff]
    omega
  have hthree (b : UInt8) : startsThree a b = false := by
    rw [Bool.eq_false_iff, ne_eq, startsThree_iff]
    omega
  have hfour (b : UInt8) : startsFour a b = false := by
    rw [Bool.eq_false_iff, ne_eq, startsFour_iff]
    omega
  rw [decode?.eq_def]
  rcases rest with _ | ⟨b, _ | ⟨d, _ | ⟨e, rest⟩⟩⟩ <;> simp [hfirst, hpair, hthree, hfour]

/-- A character that is broken off by an ASCII octet is none. -/
theorem decode?_brokenOff {c : Char} {front behind : List UInt8}
    (h : String.utf8EncodeChar c = front ++ behind) (hfront : front ≠ []) (hbehind : behind ≠ [])
    {x : UInt8} (hx : x < 0x80) (rest : List UInt8) : decode? (front ++ x :: rest) = none := by
  have htail : isTail x = false := by
    rw [ascii_iff] at hx
    rw [Bool.eq_false_iff, ne_eq, isTail_iff]
    omega
  have hpair (a : UInt8) : isPair a x = false := by simp [isPair, htail]
  have hthree (a : UInt8) : startsThree a x = false := by
    rw [Bool.eq_false_iff, ne_eq, startsThree_iff, htail]
    simp
  have hfour (a : UInt8) : startsFour a x = false := by
    rw [Bool.eq_false_iff, ne_eq, startsFour_iff, htail]
    simp
  have hencoding := isEncoding_utf8EncodeChar c
  rw [h] at hencoding
  -- `front` holds the first one to three octets of the character
  rcases front with _ | ⟨a, _ | ⟨b, _ | ⟨d, _ | ⟨e, front⟩⟩⟩⟩
  · exact absurd rfl hfront
  · have hfirst : ¬ a < 0x80 := by
      cases hencoding with
      | one => exact absurd rfl hbehind
      | two first | three first | four first => exact first
    rw [List.singleton_append, decode?.eq_def]
    rcases rest with _ | ⟨b, _ | ⟨d, rest⟩⟩ <;> simp [hfirst, hpair, hthree, hfour]
  · have hstart : ¬ a < 0x80 ∧ isPair a b = false := by
      cases hencoding with
      | two => exact absurd rfl hbehind
      | three first noPair | four first noPair => exact ⟨first, noPair⟩
    rw [List.cons_append, List.singleton_append, decode?.eq_def]
    rcases rest with _ | ⟨d, rest⟩ <;> simp [hstart, htail]
  · have hstart : ¬ a < 0x80 ∧ isPair a b = false ∧ startsThree a b = false := by
      cases hencoding with
      | three => exact absurd rfl hbehind
      | four first noPair noThree => exact ⟨first, noPair, noThree⟩
    rw [List.cons_append, List.cons_append, List.singleton_append, decode?.eq_def]
    simp [hstart, htail]
  · simp only [List.cons_append] at hencoding
    generalize hmore : front ++ behind = more at hencoding
    cases hencoding
    exact absurd (List.append_eq_nil_iff.mp hmore).2 hbehind

/-- Behind its first octet a character is continued. -/
theorem isTail_of_mem_behind {c : Char} {front behind : List UInt8}
    (h : String.utf8EncodeChar c = front ++ behind) (hfront : front ≠ []) :
    ∀ b ∈ behind, isTail b = true := by
  have hencoding := isEncoding_utf8EncodeChar c
  obtain ⟨a, front, rfl⟩ := List.exists_cons_of_ne_nil hfront
  suffices hall : ∀ b ∈ front ++ behind, isTail b = true from
    fun b hb => hall b (List.mem_append_right front hb)
  rw [h, List.cons_append] at hencoding
  generalize front ++ behind = octets at hencoding
  cases hencoding with
  | one => simp
  | two _ pair => simpa using (isPair_iff.mp pair).2
  | three _ _ start tail => simpa [tail] using (startsThree_iff.mp start).2.1
  | four _ _ _ start tail last => simpa [tail, last] using (startsFour_iff.mp start).2.1

/-- The empty text has no octets. -/
@[simp] theorem encode_nil : encode [] = [] := rfl

/-- A text is encoded character by character. -/
theorem encode_cons (c : Char) (t : Text) :
    encode (c :: t) = String.utf8EncodeChar c ++ encode t := rfl

/-- An ASCII octet of a text is one of its characters. -/
theorem mem_of_mem_encode {t : Text} {b : UInt8} (hb : b < 0x80) (h : b ∈ encode t) :
    Char.ofNat b.toNat ∈ t := by
  obtain ⟨c, hc, hmem⟩ := List.mem_flatMap.mp h
  exact eq_of_mem_utf8EncodeChar hb hmem ▸ hc

/-- Two texts are encoded one after the other. -/
theorem encode_append (s t : Text) : encode (s ++ t) = encode s ++ encode t := List.flatMap_append

/-- An encoded text is decoded to itself. -/
@[simp] theorem decode?_encode (t : Text) : decode? (encode t) = some t := by
  induction t with
  | nil => rfl
  | cons c t ih => rw [encode_cons, decode?_utf8EncodeChar_append, ih, Option.map_some]

/-- An encoded text loses nothing when it is decoded with replacements. -/
@[simp] theorem decodeLossy_encode (t : Text) : decodeLossy (encode t) = t := by
  induction t with
  | nil => rfl
  | cons c t ih => rw [encode_cons, decodeLossy_utf8EncodeChar_append, ih]

end Text

namespace Lines

/-- Octets without a line feed belong to the first line. -/
private theorem splitBytes_append {octets : List UInt8} (hne : octets ≠ [])
    (h : ∀ b ∈ octets, b ≠ 0x0A) (rest : List UInt8) :
    splitBytes (octets ++ rest) =
      match splitBytes rest with
      | [] => [octets]
      | line :: lines => (octets ++ line) :: lines := by
  induction octets with
  | nil => exact absurd rfl hne
  | cons b octets ih =>
    obtain ⟨hb, hoctets⟩ := List.forall_mem_cons.mp h
    rw [List.cons_append, splitBytes, if_neg hb]
    cases octets with
    | nil =>
      rw [List.nil_append]
      cases splitBytes rest <;> rfl
    | cons next more =>
      rw [ih (by simp) hoctets]
      cases splitBytes rest <;> rfl

/-- The lines of the octets are the octets of the lines. -/
private theorem splitBytes_encode (t : Text) :
    splitBytes (Text.encode t) = (Text.rawLines t).map Text.encode := by
  induction t with
  | nil => rfl
  | cons c t ih =>
    rw [Text.encode_cons, Text.rawLines]
    by_cases hc : c = '\n'
    · subst hc
      have hbreak : String.utf8EncodeChar '\n' = [0x0A] := by decide
      rw [hbreak, List.singleton_append, splitBytes, if_pos rfl, if_pos rfl, ih]
      rfl
    · have hoctets : ∀ b ∈ String.utf8EncodeChar c, b ≠ 0x0A := by
        rintro b hb rfl
        exact hc (Text.eq_of_mem_utf8EncodeChar (by decide) hb)
      rw [splitBytes_append String.utf8EncodeChar_ne_nil hoctets, ih, if_neg hc]
      cases Text.rawLines t <;> simp [Text.encode_cons]

/-- The lines of an encoded text are those of the text. -/
@[simp] theorem ofBytes_encode (t : Text) : ofBytes (Text.encode t) = ofText t := by
  rw [ofBytes, ofText, splitBytes_encode, List.map_map]
  refine List.map_congr_left fun line _ => ?_
  simp [decodeLine]

/-- The plain loop over lines is the general one without anything to ask. -/
theorem foldLines_eq_carry {σ : Type} (step : Nat → Text → σ → Except StatError σ) (state : σ)
    (lines : Lines) :
    foldLines step state lines =
      carry (fun failure => .error (.file failure))
        (fun number text state => (step number text state).mapError .malformed) 1 state lines := by
  unfold foldLines
  congr
  funext number text state
  cases step number text state <;> rfl

/-- The lines of a text are taken in one after the other, with their numbers. -/
theorem foldLines_ofText {σ : Type} (step : Nat → Text → σ → Except StatError σ) (state : σ)
    (t : Text) :
    foldLines step state (ofText t) =
      (((Text.rawLines t).zipIdx 1).foldlM (fun state line => step line.2 line.1 state)
        state).mapError .malformed := by
  have hcarry (number : Nat) (state : σ) (lines : List Text) :
      carry (fun failure => .error (.file failure))
        (fun number text state => (step number text state).mapError .malformed) number state
        (lines.map .ok) =
      ((lines.zipIdx number).foldlM (fun state line => step line.2 line.1 state) state).mapError
        ReadFailure.malformed := by
    induction lines generalizing number state with
    | nil => rfl
    | cons line lines ih =>
      rw [List.map_cons, carry, List.zipIdx_cons, List.foldlM_cons]
      cases step number line state with
      | ok state => exact ih (number + 1) state
      | error error => rfl
  rw [foldLines_eq_carry, ofText]
  exact hcarry 1 state _

end Lines

end ProcessMeter
