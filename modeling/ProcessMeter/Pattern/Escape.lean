import ProcessMeter.Pattern.Flags
import ProcessMeter.Pattern.Regex

/-!
# Escapes

What a backslash makes of the characters behind it: a plain character, a character by its number,
a set by its name, or a test of the position. Without the flag for all scripts a set is a set of
octets. A set of octets that holds more than ASCII would split characters, so it is refused; that
meets every negated set.
-/

namespace ProcessMeter

namespace Pattern

/-- What an escape or a plain character stands for. -/
inductive Atom where
  /-- A character. `octet` says whether it was given by two hexadecimal digits. -/
  | char (c : Char) (octet : Bool)
  /-- A test of the position. -/
  | look (test : Look)
  /-- A set of characters. -/
  | set (set : CodePoints)

/-- The set with the case variants that the flags ask for. -/
def withCase (flags : Flags) (set : CodePoints) : CodePoints :=
  if flags.ignoreCase then
    if flags.unicode then set.foldCase else set.foldCaseAscii
  else set

/-- The complement of a set, if asked for and allowed by the flags. -/
def negatedIf? (flags : Flags) (negated : Bool) (set : CodePoints) : Option CodePoints :=
  if negated && !flags.unicode then none else some (set.negatedIf negated)

/-- Characters that a backslash makes plain because they have a meaning of their own. -/
def metaCharacters : Text := "\\.+*?()|[]\x7b\x7d^$#&-~".toList

/-- Whether a backslash may stand before a character without changing it. -/
def isEscapable (c : Char) : Bool :=
  metaCharacters.elem c ||
    (c.toNat < 128 && !c.isAlphanum && c != '<' && c != '>')

/-- The character with the given number, if there is one. -/
def charOf? (n : Nat) : Option Char := if n.isValidChar then some (Char.ofNat n) else none

/-- The character whose number some hexadecimal digits denote. -/
def hexChar? (digits : Text) : Option Char :=
  if digits.all fun d => (CodePoints.hexDigit? d).isSome then charOf? (CodePoints.hexValue digits)
  else none

/-- A character given by its number, behind the letter that says how many digits follow. -/
def hexEscape? (flags : Flags) (digits : Nat) (t : Text) : Option (Atom × Text) :=
  match skip flags t with
  | '\x7b' :: rest =>
    match collect flags (· == '\x7d') rest with
    | (number, _ :: rest) =>
      if number.isEmpty then none
      else (hexChar? number).map fun c => (.char c false, skip flags rest)
    | (_, []) => none
  | rest =>
    match collectExactly flags digits rest with
    | some (number, rest) => (hexChar? number).map fun c => (.char c (digits == 2), rest)
    | none => none

/-- The set that the text between the braces of a property stands for, and whether the complement
is meant. -/
def propertySet? (text : Text) : Option (Bool × CodePoints) :=
  match Text.cutText "!=".toList text with
  | some (name, value) => (CodePoints.valued? name value).map fun s => (true, s)
  | none =>
    match (Text.cut ':' text).or (Text.cut '=' text) with
    | some (name, value) => (CodePoints.valued? name value).map fun s => (false, s)
    | none => (CodePoints.named? text).map fun s => (false, s)

/-- The set that a name stands for under the flags. -/
def nameAtom? (flags : Flags) (negated : Bool) (name : Text) : Option Atom :=
  if flags.unicode then
    (propertySet? name).map fun (inverted, set) =>
      .set ((withCase flags set).negatedIf (negated != inverted))
  else none

/-- A property behind `\p` or `\P`: one letter, or a name in braces. -/
def propertyEscape? (flags : Flags) (negated : Bool) (t : Text) : Option (Atom × Text) :=
  match skip flags t with
  | [] => none
  | '\x7b' :: rest =>
    match collect flags (· == '\x7d') rest with
    | (name, _ :: rest) => (nameAtom? flags negated name).map fun atom => (atom, rest)
    | (_, []) => none
  | c :: rest =>
    if c = '\\' then none
    else (nameAtom? flags negated [c]).map fun atom => (atom, skip flags rest)

/-- A digit, blank or word character, or any other. -/
def shorthandAtom? (flags : Flags) (shorthand : Shorthand) (negated : Bool) : Option Atom :=
  (negatedIf? flags negated (.ofShorthand flags.unicode shorthand)).map .set

/-- The kinds of word edges by name. -/
def wordEdge? (unicode : Bool) (name : Text) : Option Look :=
  if name = "start".toList then some (.wordStart unicode)
  else if name = "end".toList then some (.wordEnd unicode)
  else if name = "start-half".toList then some (.wordStartHalf unicode)
  else if name = "end-half".toList then some (.wordEndHalf unicode)
  else none

/-- The kind of word edge behind `\b`, which may be named in braces. Braces that do not start like
a name belong to a repetition. -/
def wordEdgeEscape? (flags : Flags) (t : Text) : Option (Atom × Text) :=
  let plain : Option (Atom × Text) := some (.look (.wordEdge flags.unicode), t)
  let isName (c : Char) : Bool := c.isAlpha || c == '-'
  match t with
  | '\x7b' :: inside =>
    match skip flags inside with
    | [] => none
    | c :: rest =>
      if isName c then
        match collect flags (fun c => !isName c) (c :: rest) with
        | (name, '\x7d' :: rest) =>
          (wordEdge? flags.unicode name).map fun edge => (.look edge, rest)
        | _ => none
      else plain
  | _ => plain

/-- What stands behind a backslash. -/
def escape? (flags : Flags) : Text → Option (Atom × Text)
  | [] => none
  | c :: rest =>
    let u := flags.unicode
    let shorthand (s : Shorthand) (negated : Bool) : Option (Atom × Text) :=
      (shorthandAtom? flags s negated).map fun atom => (atom, rest)
    let char (c : Char) : Option (Atom × Text) := some (.char c false, rest)
    if c.isDigit then none
    else if c = 'x' then hexEscape? flags 2 rest
    else if c = 'u' then hexEscape? flags 4 rest
    else if c = 'U' then hexEscape? flags 8 rest
    else if c = 'p' then propertyEscape? flags false rest
    else if c = 'P' then propertyEscape? flags true rest
    else if c = 'd' then shorthand .digit false
    else if c = 'D' then shorthand .digit true
    else if c = 's' then shorthand .blank false
    else if c = 'S' then shorthand .blank true
    else if c = 'w' then shorthand .word false
    else if c = 'W' then shorthand .word true
    else if isEscapable c then char c
    else if c = 'a' then char '\x07'
    else if c = 'f' then char '\x0C'
    else if c = 't' then char '\t'
    else if c = 'n' then char '\n'
    else if c = 'r' then char '\r'
    else if c = 'v' then char '\x0B'
    else if c = 'A' then some (.look .start, rest)
    else if c = 'z' then some (.look .finish, rest)
    else if c = 'b' then wordEdgeEscape? flags rest
    else if c = 'B' then some (.look (.noWordEdge u), rest)
    else if c = '<' then some (.look (.wordStart u), rest)
    else if c = '>' then some (.look (.wordEnd u), rest)
    else none

/-- What a character stands for by itself. -/
def charRegex? (flags : Flags) (c : Char) (octet : Bool) : Option Regex :=
  if flags.unicode then
    let set := withCase flags (.single c.toNat)
    some (if set = .single c.toNat then .literal [c] else .ofSet false set)
  else if octet && 0x80 ≤ c.toNat then none
  else if flags.ignoreCase && c.isAlpha then
    some (.ofSet true (CodePoints.single c.toNat).foldCaseAscii)
  else some (.literal [c])

/-- The expression of an atom. -/
def atomRegex? (flags : Flags) : Atom → Option Regex
  | .look test => some (.look test)
  | .set set => some (.ofSet (!flags.unicode) set)
  | .char c octet => charRegex? flags c octet

end Pattern

end ProcessMeter
