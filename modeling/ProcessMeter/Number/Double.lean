import ProcessMeter.Number.Numeral

/-!
# Double precision numbers

A double is kept as its bits, so equal doubles are equal values and signs of zero and of
not-a-number are not lost. A decimal text denotes a rational number, and the double nearest to it
is its value; of two equally near doubles the one with the even significand is taken. The rounding
is done in exact arithmetic on natural numbers.
-/

namespace ProcessMeter

/-- Why a text is no decimal number. -/
inductive DecimalError where
  /-- There are no characters. -/
  | empty
  /-- The characters do not follow the grammar of decimals. -/
  | invalid
  deriving DecidableEq, Repr

/-- The wording of the cause. -/
def DecimalError.message : DecimalError → String
  | .empty => "cannot parse float from empty string"
  | .invalid => "invalid float literal"

/-- A double precision number by its bits: sign, eleven bits of exponent, and 52 of significand. -/
structure Double where
  /-- The bits. -/
  bits : UInt64
  deriving DecidableEq, Repr, Inhabited

namespace Double

/-- The bits of positive infinity. -/
def infinityBits : Nat := 0x7FF * Nat.pow 2 52

/-- The bits of the quiet not-a-number. -/
def nanBits : Nat := 0x7FF8 * Nat.pow 2 48

/-- `num / den` rounded to a natural number, a half going to the even neighbour. -/
def roundHalfEven (num den : Nat) : Nat :=
  let quotient := num / den
  let twice := 2 * (num % den)
  if den < twice || (twice == den && quotient % 2 == 1) then quotient + 1 else quotient

/-- The integer part of the binary logarithm of `num / den`. -/
def floorLog2 (num den : Nat) : Int :=
  let guess : Int := (Nat.log2 num : Int) - Nat.log2 den
  let atLeast (e : Int) : Bool :=
    if 0 ≤ e then den * Nat.pow 2 e.toNat ≤ num else den ≤ num * Nat.pow 2 (-e).toNat
  if atLeast guess then guess else guess - 1

/-- The bits of the double nearest to the positive number `num / den`. -/
def bitsOfRatio (num den : Nat) : Nat :=
  let q : Int := max (floorLog2 num den - 52) (-1074)
  let significand :=
    if 0 ≤ q then roundHalfEven num (den * Nat.pow 2 q.toNat)
    else roundHalfEven (num * Nat.pow 2 (-q).toNat) den
  min (((q + 1074).toNat) * Nat.pow 2 52 + significand) infinityBits

/-- The bits of the double nearest to `mantissa * 10 ^ exponent`. Numbers with more than 310
digits before the point are infinite, and those below `10 ^ -326` vanish. -/
def bitsOfDecimal (mantissa : Nat) (exponent : Int) : Nat :=
  let magnitude : Int := exponent + (Nat.toDigits 10 mantissa).length
  if mantissa = 0 || magnitude < -326 then 0
  else if 310 < magnitude then infinityBits
  else if 0 ≤ exponent then bitsOfRatio (mantissa * Nat.pow 10 exponent.toNat) 1
  else bitsOfRatio mantissa (Nat.pow 10 (-exponent).toNat)

/-- A decimal text as it stands: its sign and what follows the sign. -/
inductive Decimal where
  /-- `inf` or `infinity` in any case. -/
  | infinity (negative : Bool)
  /-- `nan` in any case. -/
  | nan (negative : Bool)
  /-- The digits as one number, scaled by a power of ten. -/
  | finite (negative : Bool) (mantissa : Nat) (exponent : Int)
  deriving DecidableEq, Repr

/-- The number that a run of digits denotes. -/
def digitsValue (digits : Text) : Nat :=
  digits.foldl (fun value c => value * 10 + (c.toNat - '0'.toNat)) 0

/-- Whether a character is an ASCII digit. -/
def isDigit (c : Char) : Bool := (Numeral.digit? c).isSome

/-- The power of ten that an exponent part gives, `0` if the part is missing. -/
def exponentPart? : Text → Option Int
  | [] => some 0
  | c :: rest =>
    if c = 'e' ∨ c = 'E' then
      let (negative, digits) :=
        match rest with
        | '+' :: digits => (false, digits)
        | '-' :: digits => (true, digits)
        | digits => (false, digits)
      if digits.isEmpty || !digits.all isDigit then none
      else some (if negative then -(digitsValue digits : Int) else digitsValue digits)
    else none

/-- The number without its sign: digits with an optional point among them, at least one digit,
then an optional exponent. -/
def unsignedDecimal? (negative : Bool) (t : Text) : Option Decimal :=
  let whole := t.takeWhile isDigit
  let behind := t.dropWhile isDigit
  let (fraction, behind) :=
    match behind with
    | '.' :: rest => (rest.takeWhile isDigit, rest.dropWhile isDigit)
    | rest => ([], rest)
  if whole.isEmpty && fraction.isEmpty then none
  else
    (exponentPart? behind).map fun e =>
      .finite negative (digitsValue (whole ++ fraction)) (e - fraction.length)

/-- Reads the grammar of decimals. -/
def Decimal.read (t : Text) : Except DecimalError Decimal :=
  match t with
  | [] => .error .empty
  | c :: rest =>
    let negative := c == '-'
    let body := if c == '-' || c == '+' then rest else t
    match unsignedDecimal? negative body with
    | some d => .ok d
    | none =>
      let word := Text.toLowerAscii body
      if word = "inf".toList ∨ word = "infinity".toList then .ok (.infinity negative)
      else if word = "nan".toList then .ok (.nan negative)
      else .error .invalid

/-- The bits of the double nearest to a decimal. -/
def Decimal.bits : Decimal → Nat
  | .infinity negative => (if negative then Nat.pow 2 63 else 0) + infinityBits
  | .nan negative => (if negative then Nat.pow 2 63 else 0) + nanBits
  | .finite negative mantissa exponent =>
    (if negative then Nat.pow 2 63 else 0) + bitsOfDecimal mantissa exponent

/-- Reads a decimal text as the nearest double. -/
def read (t : Text) : Except DecimalError Double :=
  (Decimal.read t).map fun d => ⟨UInt64.ofNat d.bits⟩

/-- Positive zero. -/
def zero : Double := ⟨0⟩

/-- The double as a machine number. -/
def toFloat (x : Double) : Float := Float.ofBits x.bits

/-- The bits of a machine number. -/
def ofFloat (x : Float) : Double := ⟨x.toBits⟩

/-- The rank of a double in the total order of bit patterns: negative numbers below positive ones,
`-0.0` just below `0.0`, and not-a-number beyond the infinities on the side of its sign. -/
def rank (x : Double) : Int :=
  let bits := x.bits.toNat
  if bits < Nat.pow 2 63 then bits else -((bits - Nat.pow 2 63 : Nat) : Int) - 1

/-- The machine number nearest to a 64-bit number. -/
def ofNat64 (n : Nat) : Float := (UInt64.ofNat n).toFloat

end Double

end ProcessMeter
