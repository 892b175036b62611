import ProcessMeter.Number.Shortest
import ProcessMeter.Text.Map
import ProcessMeter.Time

/-!
# Documents

Reports are documents of nested lists and objects. They are written as JSON with two blanks for
each level, one item on a line. Numbers that JSON cannot express are written as `null`.
-/

namespace ProcessMeter

/-- A structured report. -/
inductive Document where
  /-- Nothing. -/
  | null
  /-- A whole number. -/
  | number (n : Nat)
  /-- A double. -/
  | decimal (x : Double)
  /-- A text. -/
  | text (t : Text)
  /-- Items in order. -/
  | list (items : List Document)
  /-- Fields in order. -/
  | object (fields : List (Text × Document))
  deriving Inhabited

namespace Document

/-- A field. -/
def field (name : String) (value : Document) : Text × Document := (name.toList, value)

/-- The document of something that may be missing. -/
def optional {α : Type} (f : α → Document) : Option α → Document
  | some a => f a
  | none => .null

/-- The document of a number that may be missing. -/
def optionalNumber (n : Option Nat) : Document := optional .number n

/-- The document of a double that may be missing. -/
def optionalDecimal (x : Option Double) : Document := optional .decimal x

/-- The document of a map. -/
def ofMap {α : Type} (f : α → Document) (m : TextMap α) : Document :=
  .object (m.entries.map fun (name, value) => (name, f value))

/-- The document of a span of time. -/
def ofDuration (d : Duration) : Document :=
  .object [field "secs" (.number d.wholeSeconds), field "nanos" (.number d.subsecNanos)]

/-- The document of a moment, if that does not lie before the epoch. -/
def ofMoment? (t : Moment) : Option Document :=
  if t.nanos < 0 then none
  else some (.object [
    field "secs_since_epoch" (.number (t.nanos.toNat / nanosPerSecond)),
    field "nanos_since_epoch" (.number (t.nanos.toNat % nanosPerSecond))])

/-- A hexadecimal digit. -/
def hexDigit (n : Nat) : Char := (Nat.toDigits 16 n).headD '0'

/-- A character within a quoted text. -/
def quoteChar (c : Char) : Text :=
  if c = '"' then ['\\', '"']
  else if c = '\\' then ['\\', '\\']
  else if c = '\x08' then ['\\', 'b']
  else if c = '\x0C' then ['\\', 'f']
  else if c = '\n' then ['\\', 'n']
  else if c = '\r' then ['\\', 'r']
  else if c = '\t' then ['\\', 't']
  else if c.toNat < 0x20 then
    "\\u00".toList ++ [hexDigit (c.toNat / 16), hexDigit (c.toNat % 16)]
  else [c]

/-- A text in quotes. -/
def quote (t : Text) : Text := '"' :: t.flatMap quoteChar ++ ['"']

/-- A line break, with the blanks for a level. -/
def newline (level : Nat) : Text := '\n' :: List.replicate (2 * level) ' '

mutual

/-- The text of a document at a level of nesting. -/
def write (level : Nat) : Document → Text
  | .null => "null".toList
  | .number n => Numeral.write n
  | .decimal x => if x.isFinite then x.write else "null".toList
  | .text t => quote t
  | .list [] => "[]".toList
  | .list (item :: items) =>
    '[' :: newline (level + 1) ++ write (level + 1) item ++ writeItems (level + 1) items ++
      newline level ++ [']']
  | .object [] => ['\x7b', '\x7d']
  | .object (f :: fields) =>
    '\x7b' :: newline (level + 1) ++ quote f.1 ++ ": ".toList ++ write (level + 1) f.2 ++
      writeFields (level + 1) fields ++ newline level ++ ['\x7d']

/-- The text of the items behind the first one. -/
def writeItems (level : Nat) : List Document → Text
  | [] => []
  | item :: items => ',' :: newline level ++ write level item ++ writeItems level items

/-- The text of the fields behind the first one. -/
def writeFields (level : Nat) : List (Text × Document) → Text
  | [] => []
  | f :: fields =>
    ',' :: newline level ++ quote f.1 ++ ": ".toList ++ write level f.2 ++ writeFields level fields

end

/-- The document as JSON. -/
def toJson (d : Document) : Text := write 0 d

end Document

end ProcessMeter
