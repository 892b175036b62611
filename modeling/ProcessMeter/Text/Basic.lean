/-!
# Text

Accounting files are read as lists of characters. This file holds the cuts that every record
format is made of: words between blanks, pieces between separators, and the part before and
behind the first separator.
-/

namespace ProcessMeter

/-- A run of characters: a line, a token, a name or a path. -/
abbrev Text := List Char

namespace Text

/-- The characters that separate words: the Unicode property `White_Space`. -/
def isBlank (c : Char) : Bool :=
  let n := c.toNat
  (9 ≤ n && n ≤ 13) || n == 0x20 || n == 0x85 || n == 0xA0 || n == 0x1680 ||
    (0x2000 ≤ n && n ≤ 0x200A) || n == 0x2028 || n == 0x2029 || n == 0x202F || n == 0x205F ||
    n == 0x3000

/-- The text without its leading blanks. -/
def trimStart (t : Text) : Text := t.dropWhile isBlank

/-- The text without the trailing characters that satisfy `p`. -/
def trimEndWhile (p : Char → Bool) (t : Text) : Text := (t.reverse.dropWhile p).reverse

/-- The text without its trailing blanks. -/
def trimEnd (t : Text) : Text := trimEndWhile isBlank t

/-- The text without blanks at either end. -/
def trim (t : Text) : Text := trimEnd (trimStart t)

/-- The pieces between the characters that satisfy `p`, empty pieces included. -/
def splitWhere (p : Char → Bool) : Text → List Text
  | [] => [[]]
  | c :: rest =>
    if p c then [] :: splitWhere p rest
    else
      match splitWhere p rest with
      | [] => [[c]]
      | piece :: pieces => (c :: piece) :: pieces

/-- The pieces between the occurrences of `separator`, empty pieces included. -/
def split (separator : Char) (t : Text) : List Text := splitWhere (· == separator) t

/-- The non-empty pieces between the occurrences of `separator`. -/
def items (separator : Char) (t : Text) : List Text :=
  (split separator t).filter fun piece => !piece.isEmpty

/-- The maximal runs of characters that are no blanks. -/
def words (t : Text) : List Text :=
  (splitWhere isBlank t).filter fun piece => !piece.isEmpty

/-- The text before and behind the first occurrence of `separator`. -/
def cut (separator : Char) : Text → Option (Text × Text)
  | [] => none
  | c :: rest =>
    if c = separator then some ([], rest)
    else (cut separator rest).map fun (before, behind) => (c :: before, behind)

/-- The text behind `start`, if the text begins with it. -/
def dropStart? : (start : Text) → Text → Option Text
  | [], t => some t
  | _ :: _, [] => none
  | c :: start, d :: t => if c = d then dropStart? start t else none

/-- Whether the text begins with `start`. -/
def startsWith (start t : Text) : Bool := (dropStart? start t).isSome

/-- Whether `part` occurs somewhere in the text. -/
def contains (part : Text) : Text → Bool
  | [] => part.isEmpty
  | c :: rest => startsWith part (c :: rest) || contains part rest

/-- The text before and behind the first occurrence of the text `separator`. -/
def cutText (separator : Text) : Text → Option (Text × Text)
  | [] => (dropStart? separator []).map fun behind => ([], behind)
  | c :: rest =>
    match dropStart? separator (c :: rest) with
    | some behind => some ([], behind)
    | none => (cutText separator rest).map fun (before, behind) => (c :: before, behind)

/-- One line without its line feed, nor the carriage return just before it. -/
def chomp (line : Text) : Text :=
  match line.reverse with
  | '\n' :: '\r' :: rest => rest.reverse
  | '\n' :: rest => rest.reverse
  | _ => line

/-- The lines of a text, each with the line feed that ends it. -/
def rawLines : Text → List Text
  | [] => []
  | c :: rest =>
    if c = '\n' then [c] :: rawLines rest
    else
      match rawLines rest with
      | [] => [[c]]
      | line :: lines => (c :: line) :: lines

/-- The lines of a text without their line ends. -/
def lines (t : Text) : List Text := (rawLines t).map chomp

/-- The letters `A` to `Z` in lower case, other characters unchanged. -/
def toLowerAscii (t : Text) : Text := t.map Char.toLower

/-- The text that joins `parts` with `separator` between them. -/
def join (separator : Text) (parts : List Text) : Text := (parts.intersperse separator).flatten

end Text

end ProcessMeter
