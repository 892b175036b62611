import ProcessMeter.Pattern.NamedSet

/-!
# Sets of characters in patterns

The short and the bracketed names of sets, of all scripts or of ASCII alone.
-/

namespace ProcessMeter

/-- The digits, the blanks or the characters of words. -/
inductive Shorthand where
  | digit
  | blank
  | word
  deriving DecidableEq, Repr

namespace CodePoints

/-- The decimal digits of all scripts. -/
def decimalDigits : CodePoints := (Formula.categories ["Nd"]).points

/-- The blanks of all scripts. -/
def blanks : CodePoints := (Formula.property "White_Space").points

/-- The characters of words of all scripts. -/
def wordCharacters : CodePoints := Formula.word.points

/-- The set of a shorthand. -/
def ofShorthand (unicode : Bool) : Shorthand → CodePoints
  | .digit => if unicode then decimalDigits else ofText "30-39"
  | .blank => if unicode then blanks else ofText "9-D 20"
  | .word => if unicode then wordCharacters else ofText "30-39 41-5A 5F 61-7A"

/-- Whether a character belongs to words. A missing one does not. -/
def isWordCharacter (unicode : Bool) (c : Option Char) : Bool :=
  match c with
  | Option.none => false
  | some c => (ofShorthand unicode .word).has c.toNat

/-- The classes of ASCII characters by name. -/
def asciiClasses : List (String × String) := [
  ("alnum", "30-39 41-5A 61-7A"),
  ("alpha", "41-5A 61-7A"),
  ("ascii", "0-7F"),
  ("blank", "9 20"),
  ("cntrl", "0-1F 7F"),
  ("digit", "30-39"),
  ("graph", "21-7E"),
  ("lower", "61-7A"),
  ("print", "20-7E"),
  ("punct", "21-2F 3A-40 5B-60 7B-7E"),
  ("space", "9-D 20"),
  ("upper", "41-5A"),
  ("word", "30-39 41-5A 5F 61-7A"),
  ("xdigit", "30-39 41-46 61-66")]

/-- The class of ASCII characters with the given name. -/
def asciiClass? (name : Text) : Option CodePoints :=
  (asciiClasses.lookup (String.ofList name)).map ofText

end CodePoints

end ProcessMeter
