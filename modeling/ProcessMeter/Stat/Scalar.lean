import ProcessMeter.Stat.Lines

/-!
# Files with one value

Many accounting files hold one number on their first line. A limit may also be the word `max`,
which stands for no limit.
-/

namespace ProcessMeter

namespace Scalar

/-- An unsigned 64-bit number on the given line. -/
def number (line : Nat) (value : Text) : Except StatError Nat :=
  match Numeral.read64 value with
  | .ok n => .ok n
  | .error cause => .error (.invalidValue value line cause)

/-- An unsigned 32-bit number on the given line. -/
def number32 (line : Nat) (value : Text) : Except StatError Nat :=
  match Numeral.read32 value with
  | .ok n => .ok n
  | .error cause => .error (.invalidValue value line cause)

/-- A limit: a number, or `max` for none. -/
def limit (line : Nat) (value : Text) : Except StatError (Option Nat) :=
  if value = "max".toList then .ok none else (number line value).map some

/-- Reads the first line with `parse`. -/
def readFirst {α : Type} (parse : Text → Except StatError α) : LineReader α := fun lines =>
  match lines.first with
  | .error failure => .error (.file failure)
  | .ok line =>
    match parse line with
    | .ok a => .ok a
    | .error error => .error (.malformed error)

/-- Reads a file that holds a 64-bit number. -/
def readNumber : LineReader Nat := readFirst fun line => number 1 (Text.trim line)

/-- Reads a file that holds a signed 64-bit number. -/
def readSigned : LineReader Int := readFirst fun line =>
  let value := Text.trim line
  match Numeral.readSigned64 value with
  | .ok n => .ok n
  | .error cause => .error (.invalidValue value 1 cause)

/-- Reads a file that holds a limit. -/
def readLimit : LineReader (Option Nat) := readFirst fun line => limit 1 (Text.trim line)

end Scalar

end ProcessMeter
