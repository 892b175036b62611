import ProcessMeter.Number.Double

/-!
# Shortest decimals

The shortest decimal of a double is the one with the fewest digits that still reads back as that
double; of several the nearest is taken, and of two equally near ones the even one. The search
compares exact numbers: it tries one digit, then two, and so on, and at each length it tests the
two decimals around the double.
-/

namespace ProcessMeter

namespace Double

/-- A finite double without its sign: `significand * 2 ^ exponent`. -/
def parts (x : Double) : Nat × Int :=
  let fraction := x.bits.toNat % Nat.pow 2 52
  let exponent : Nat := x.bits.toNat / Nat.pow 2 52 % Nat.pow 2 11
  if exponent = 0 then (fraction, -1074) else (Nat.pow 2 52 + fraction, (exponent : Int) - 1075)

/-- Whether the sign bit is set. -/
def isNegative (x : Double) : Bool := Nat.pow 2 63 ≤ x.bits.toNat

/-- Whether the double is a number other than the infinities. -/
def isFinite (x : Double) : Bool := x.bits.toNat / Nat.pow 2 52 % Nat.pow 2 11 != 2047

/-- The interval of numbers that read as a double, together with the double: the lower end, the
double and the upper end over a common denominator, and whether the ends belong to it. -/
structure Neighbourhood where
  /-- The lower end. -/
  low : Nat
  /-- The double itself. -/
  value : Nat
  /-- The upper end. -/
  high : Nat
  /-- The denominator of all three. -/
  denominator : Nat
  /-- Whether the ends read as the double. -/
  closed : Bool
  deriving DecidableEq, Repr

/-- The neighbourhood of a positive finite double. -/
def neighbourhood (x : Double) : Neighbourhood :=
  let (m, q) := x.parts
  let isPower := m = Nat.pow 2 52 ∧ -1074 < q
  let low := if isPower then 4 * m - 1 else 4 * m - 2
  let high := 4 * m + 2
  let closed := m % 2 == 0
  let e := q - 2
  if 0 ≤ e then
    let scale := Nat.pow 2 e.toNat
    ⟨low * scale, 4 * m * scale, high * scale, 1, closed⟩
  else ⟨low, 4 * m, high, Nat.pow 2 (-e).toNat, closed⟩

/-- Whether `digits * 10 ^ exponent` lies in a neighbourhood. -/
def Neighbourhood.holds (n : Neighbourhood) (digits : Nat) (exponent : Int) : Bool :=
  let (num, den) :=
    if 0 ≤ exponent then (digits * Nat.pow 10 exponent.toNat * n.denominator, 1)
    else (digits * n.denominator, Nat.pow 10 (-exponent).toNat)
  if n.closed then n.low * den ≤ num && num ≤ n.high * den
  else n.low * den < num && num < n.high * den

/-- The decimals of a grid just below and just above a neighbourhood's double: the digits below,
and twice the distance to it against the width of the grid. -/
def Neighbourhood.below (n : Neighbourhood) (exponent : Int) : Nat × Ordering :=
  let (num, den) :=
    if 0 ≤ exponent then (n.value, n.denominator * Nat.pow 10 exponent.toNat)
    else (n.value * Nat.pow 10 (-exponent).toNat, n.denominator)
  (num / den, compare (2 * (num % den)) den)

/-- The digits and exponent of the best decimal on a grid, if one lies in the neighbourhood. -/
def Neighbourhood.onGrid? (n : Neighbourhood) (exponent : Int) : Option (Nat × Int) :=
  let (digits, side) := n.below exponent
  let low := n.holds digits exponent && digits != 0
  let high := n.holds (digits + 1) exponent
  if low && high then
    match side with
    | .lt => some (digits, exponent)
    | .gt => some (digits + 1, exponent)
    | .eq => some (if digits % 2 = 0 then digits else digits + 1, exponent)
  else if low then some (digits, exponent)
  else if high then some (digits + 1, exponent)
  else none

/-- The power of ten just above the double: the number of its digits before the point. -/
def Neighbourhood.magnitude (n : Neighbourhood) : Int :=
  if n.denominator ≤ n.value then (Nat.toDigits 10 (n.value / n.denominator)).length
  else
    let zeros := (List.range 400).find? (fun k => n.denominator ≤ n.value * Nat.pow 10 (k + 1))
    0 - Int.ofNat (zeros.getD 0)

/-- The shortest decimal of a positive finite double, as digits and a power of ten. -/
def shortest (x : Double) : Nat × Int :=
  let n := x.neighbourhood
  let found := (List.range 17).findSome? fun k => n.onGrid? (n.magnitude - Int.ofNat (k + 1))
  found.getD (0, 0)

/-- Digits without their trailing zeros, which move into the exponent. -/
def stripZeros : (fuel : Nat) → Nat → Int → Nat × Int
  | 0, digits, exponent => (digits, exponent)
  | fuel + 1, digits, exponent =>
    if digits != 0 && digits % 10 = 0 then stripZeros fuel (digits / 10) (exponent + 1)
    else (digits, exponent)

/-- The text of a decimal: positional from `10 ^ -5` up to `10 ^ 16`, with a power of ten
elsewhere. -/
def writeDecimal (digits : Nat) (exponent : Int) : Text :=
  let text := Numeral.write digits
  let point : Int := text.length + exponent
  let zeros (n : Int) : Text := List.replicate n.toNat '0'
  if 0 ≤ exponent ∧ point ≤ 16 then text ++ zeros exponent ++ ".0".toList
  else if 0 < point ∧ point ≤ 16 then text.take point.toNat ++ '.' :: text.drop point.toNat
  else if -5 < point ∧ point ≤ 0 then "0.".toList ++ zeros (-point) ++ text
  else
    let power := point - 1
    let powerText :=
      if power < 0 then '-' :: Numeral.write power.natAbs else Numeral.write power.toNat
    let tail := if text.length = 1 then [] else '.' :: text.drop 1
    text.take 1 ++ tail ++ 'e' :: powerText

/-- The text of a finite double by its shortest decimal. -/
def write (x : Double) : Text :=
  let sign := if x.isNegative then ['-'] else []
  if x.bits.toNat % Nat.pow 2 63 = 0 then sign ++ "0.0".toList
  else
    let (digits, exponent) := (⟨UInt64.ofNat (x.bits.toNat % Nat.pow 2 63)⟩ : Double).shortest
    let (digits, exponent) := stripZeros 20 digits exponent
    sign ++ writeDecimal digits exponent

end Double

end ProcessMeter
