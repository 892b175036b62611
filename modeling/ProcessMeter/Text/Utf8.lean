import ProcessMeter.Text.Basic

/-!
# UTF-8

Files are sequences of octets. `Text.decode?` accepts exactly the well-formed sequences, and
`Text.decodeLossy` reads any sequence, with U+FFFD in place of each maximal ill-formed part.
-/

namespace ProcessMeter

namespace Text

/-- The octets of a text in UTF-8. -/
def encode (t : Text) : List UInt8 := t.flatMap String.utf8EncodeChar

/-- The number of octets of a text in UTF-8. -/
def byteLength (t : Text) : Nat := t.foldr (fun c length => c.utf8Size + length) 0

/-- An octet that continues a character. -/
def isTail (b : UInt8) : Bool := 0x80 ≤ b && b ≤ 0xBF

/-- Two octets that start a character of three. -/
def startsThree (a b : UInt8) : Bool :=
  (a == 0xE0 && 0xA0 ≤ b && b ≤ 0xBF) || (0xE1 ≤ a && a ≤ 0xEC && isTail b) ||
    (a == 0xED && 0x80 ≤ b && b ≤ 0x9F) || (0xEE ≤ a && a ≤ 0xEF && isTail b)

/-- Two octets that start a character of four. -/
def startsFour (a b : UInt8) : Bool :=
  (a == 0xF0 && 0x90 ≤ b && b ≤ 0xBF) || (0xF1 ≤ a && a ≤ 0xF3 && isTail b) ||
    (a == 0xF4 && 0x80 ≤ b && b ≤ 0x8F)

/-- Two octets that are a character. -/
def isPair (a b : UInt8) : Bool := 0xC2 ≤ a && a ≤ 0xDF && isTail b

/-- The character of two octets. -/
def pairChar (a b : UInt8) : Char := Char.ofNat ((a.toNat - 0xC0) * 64 + (b.toNat - 0x80))

/-- The character of three octets. -/
def tripleChar (a b c : UInt8) : Char :=
  Char.ofNat (((a.toNat - 0xE0) * 64 + (b.toNat - 0x80)) * 64 + (c.toNat - 0x80))

/-- The character of four octets. -/
def quadrupleChar (a b c d : UInt8) : Char :=
  Char.ofNat
    ((((a.toNat - 0xF0) * 64 + (b.toNat - 0x80)) * 64 + (c.toNat - 0x80)) * 64 +
      (d.toNat - 0x80))

/-- The text that the octets encode, if they are well formed. -/
def decode? : List UInt8 → Option Text
  | [] => some []
  | a :: r =>
    if a < 0x80 then (decode? r).map (Char.ofNat a.toNat :: ·)
    else
      match r with
      | [] => none
      | b :: r =>
        if isPair a b then (decode? r).map (pairChar a b :: ·)
        else
          match r with
          | [] => none
          | c :: r =>
            if startsThree a b && isTail c then (decode? r).map (tripleChar a b c :: ·)
            else
              match r with
              | [] => none
              | d :: r =>
                if startsFour a b && isTail c && isTail d then
                  (decode? r).map (quadrupleChar a b c d :: ·)
                else none

/-- The character that stands for an ill-formed part. -/
def replacement : Char := '\uFFFD'

/-- The text that the octets encode, each maximal ill-formed part replaced by U+FFFD. A part is
the longest start of a character that its next octet fails to continue, or one octet that can
start none. -/
def decodeLossy : List UInt8 → Text
  | [] => []
  | a :: r =>
    if a < 0x80 then Char.ofNat a.toNat :: decodeLossy r
    else
      match r with
      | [] => [replacement]
      | b :: s =>
        if isPair a b then pairChar a b :: decodeLossy s
        else if !startsThree a b && !startsFour a b then replacement :: decodeLossy (b :: s)
        else
          match s with
          | [] => [replacement]
          | c :: t =>
            if startsThree a b && isTail c then tripleChar a b c :: decodeLossy t
            else if !(startsFour a b && isTail c) then replacement :: decodeLossy (c :: t)
            else
              match t with
              | [] => [replacement]
              | d :: u =>
                if isTail d then quadrupleChar a b c d :: decodeLossy u
                else replacement :: decodeLossy (d :: u)

/-- The pieces of an octet sequence between the octets `separator`, empty ones included. -/
def splitBytes (separator : UInt8) : List UInt8 → List (List UInt8)
  | [] => [[]]
  | b :: rest =>
    if b = separator then [] :: splitBytes separator rest
    else
      match splitBytes separator rest with
      | [] => [[b]]
      | piece :: pieces => (b :: piece) :: pieces

end Text

end ProcessMeter
