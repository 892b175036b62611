import ProcessMeter.Text.Basic

/-!
# Integer numerals

Counters are written in decimal. A numeral may carry a plus sign; only ASCII digits count. A
numeral is read from left to right, so of a stray character and an overflow the one that comes
first decides the cause of the refusal.
-/

namespace ProcessMeter

/-- Why a text is no integer of the wanted range. -/
inductive NumeralError where
  /-- There are no characters. -/
  | empty
  /-- A character is no digit, or a sign stands alone. -/
  | invalidDigit
  /-- The number is above the range. -/
  | tooLarge
  /-- The number is below the range. -/
  | tooSmall
  deriving DecidableEq, Repr

/-- The wording of the cause. -/
def NumeralError.message : NumeralError → String
  | .empty => "cannot parse integer from empty string"
  | .invalidDigit => "invalid digit found in string"
  | .tooLarge => "number too large to fit in target type"
  | .tooSmall => "number too small to fit in target type"

namespace Numeral

/-- The value of an ASCII digit. -/
def digit? (c : Char) : Option Nat :=
  if '0' ≤ c ∧ c ≤ '9' then some (c.toNat - '0'.toNat) else none

/-- The number that the digits continue from `value`, if it never exceeds `bound`. -/
def readDigits (bound : Nat) (excess : NumeralError) (value : Nat) :
    Text → Except NumeralError Nat
  | [] => .ok value
  | c :: rest =>
    match digit? c with
    | none => .error .invalidDigit
    | some d =>
      let next := value * 10 + d
      if next ≤ bound then readDigits bound excess next rest else .error excess

/-- The largest 32-bit number. -/
def max32 : Nat := 0xFFFFFFFF

/-- The largest 64-bit number. -/
def max64 : Nat := 0xFFFFFFFFFFFFFFFF

/-- Reads a number from `0` to `bound`. -/
def readUpTo (bound : Nat) (t : Text) : Except NumeralError Nat :=
  match t with
  | [] => .error .empty
  | ['+'] => .error .invalidDigit
  | '+' :: rest => readDigits bound .tooLarge 0 rest
  | digits => readDigits bound .tooLarge 0 digits

/-- Reads an unsigned 64-bit number. -/
def read64 (t : Text) : Except NumeralError Nat := readUpTo max64 t

/-- Reads an unsigned 32-bit number. -/
def read32 (t : Text) : Except NumeralError Nat := readUpTo max32 t

/-- Reads a signed 64-bit number. -/
def readSigned64 (t : Text) : Except NumeralError Int :=
  match t with
  | ['-'] => .error .invalidDigit
  | '-' :: rest => (readDigits 0x8000000000000000 .tooSmall 0 rest).map fun n => -(n : Int)
  | other => (readUpTo 0x7FFFFFFFFFFFFFFF other).map Int.ofNat

/-- The digits of a number. -/
def write (n : Nat) : Text := Nat.toDigits 10 n

end Numeral

end ProcessMeter
