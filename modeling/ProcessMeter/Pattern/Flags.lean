import ProcessMeter.Text.Basic

/-!
# Flags of patterns

Letters in a pattern switch flags on and off. The flag `x` makes blanks and comments in the
pattern count for nothing, nearly everywhere, so reading a pattern starts with leaving them out.
-/

namespace ProcessMeter

namespace Pattern

/-- The flags that are in force at a place of a pattern. -/
structure Flags where
  /-- Letters stand for all their case variants. -/
  ignoreCase : Bool := false
  /-- `^` and `$` stand for the ends of lines. -/
  multiLine : Bool := false
  /-- A dot stands for a line feed too. -/
  dotAll : Bool := false
  /-- Repetitions prefer fewer times, and with a question mark more times. -/
  swapEager : Bool := false
  /-- Sets are sets of characters of all scripts, and not of octets. -/
  unicode : Bool := true
  /-- A carriage return may end lines. -/
  carriageReturn : Bool := false
  /-- Blanks and comments in the pattern do not count. -/
  spaced : Bool := false
  deriving DecidableEq, Repr

/-- Leaves out blanks and comments. `comment` says whether a comment is open. -/
def dropSpace (comment : Bool) : Text → Text
  | [] => []
  | c :: rest =>
    if comment then dropSpace (c != '\n') rest
    else if Text.isBlank c then dropSpace false rest
    else if c = '#' then dropSpace true rest
    else c :: rest

/-- Leaves out what does not count under the flags. -/
def skip (flags : Flags) (t : Text) : Text := if flags.spaced then dropSpace false t else t

/-- The character that stands first when blanks and one number sign are left out. -/
def peek (flags : Flags) (t : Text) : Option Char :=
  if flags.spaced then
    let visible :=
      match Text.trimStart t with
      | '#' :: rest => Text.trimStart rest
      | rest => rest
    (if visible.isEmpty then t else visible).head?
  else t.head?

/-- The characters before the first that `stop` holds of, with nothing that does not count between
them, and the rest from that character on. -/
def collect (flags : Flags) (stop : Char → Bool) (t : Text) : Text × Text :=
  go false t
where
  /-- Goes on. `comment` says whether a comment is open. -/
  go (comment : Bool) : Text → Text × Text
    | [] => ([], [])
    | c :: rest =>
      if comment then go (c != '\n') rest
      else if flags.spaced && Text.isBlank c then go false rest
      else if flags.spaced && c = '#' then go true rest
      else if stop c then ([], c :: rest)
      else
        let (taken, rest) := go false rest
        (c :: taken, rest)

/-- Exactly `n` characters, with nothing that does not count between or behind them. -/
def collectExactly (flags : Flags) : (n : Nat) → Text → Option (Text × Text)
  | 0, t => some ([], t)
  | _ + 1, [] => none
  | n + 1, c :: rest =>
    (collectExactly flags n (skip flags rest)).map fun (taken, rest) => (c :: taken, rest)

/-- A flag that is switched: its letter. -/
def setFlag? (flags : Flags) (letter : Char) (value : Bool) : Option Flags :=
  if letter = 'i' then some { flags with ignoreCase := value }
  else if letter = 'm' then some { flags with multiLine := value }
  else if letter = 's' then some { flags with dotAll := value }
  else if letter = 'U' then some { flags with swapEager := value }
  else if letter = 'u' then some { flags with unicode := value }
  else if letter = 'R' then some { flags with carriageReturn := value }
  else if letter = 'x' then some { flags with spaced := value }
  else none

/-- Reads flags up to the colon or parenthesis that ends them. `seen` holds the letters and
hyphens so far, latest first. -/
def flags? (flags : Flags) (seen : List Char) : Text → Option (Flags × List Char × Char × Text)
  | [] => none
  | c :: rest =>
    if c = ':' || c = ')' then
      if seen.head? = some '-' then none else some (flags, seen, c, rest)
    else if seen.contains c then none
    else if c = '-' then flags? flags (c :: seen) rest
    else
      match setFlag? flags c (!seen.contains '-') with
      | none => none
      | some flags => flags? flags (c :: seen) rest

end Pattern

end ProcessMeter
