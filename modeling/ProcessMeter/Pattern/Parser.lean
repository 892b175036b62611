import ProcessMeter.Number.Numeral
import ProcessMeter.Pattern.Automaton
import ProcessMeter.Pattern.Bracket
import ProcessMeter.Pattern.Build

/-!
# The grammar of patterns

Patterns are written with groups, alternatives, repetitions, bracketed sets, escapes and inline
flags. Every step of the parser takes at least one character. A pattern that is well formed is
refused all the same if an automaton for it would be too large.
-/

namespace ProcessMeter

namespace Pattern

/-! ## Groups -/

/-- Whether a character may stand in the name of a group. -/
def isNameCharacter (first : Bool) (c : Char) : Bool :=
  let letter := Formula.alphabetic.points.has c.toNat
  if first then c == '_' || letter
  else
    c == '_' || c == '.' || c == '[' || c == ']' || letter ||
      (Formula.categories ["Nd", "Nl", "No"]).points.has c.toNat

/-- The name of a group up to the angle bracket that ends it. -/
def groupName? (t : Text) : Option (Text × Text) :=
  match Text.cut '>' t with
  | some (c :: others, rest) =>
    if isNameCharacter true c && others.all (isNameCharacter false) then some (c :: others, rest)
    else none
  | _ => none

/-- Opens a group whose name follows. -/
def openNamed? (build : Build) (t : Text) : Option (Build × Text) :=
  (groupName? t).bind fun (name, rest) => (build.enterNamed? name).map fun build => (build, rest)

/-- Sets flags, for a group or for the rest of the innermost one. -/
def openFlags? (build : Build) (t : Text) : Option (Build × Text) :=
  match flags? build.flags [] t with
  | none => none
  | some (flags, seen, closing, rest) =>
    if closing = ':' then some (build.enter flags none, rest)
    else if seen.isEmpty then none
    else some (build.setFlags flags, rest)

/-- What stands behind an opening parenthesis. Tests of what precedes or follows are refused. -/
def openGroup? (build : Build) (t : Text) : Option (Build × Text) :=
  match skip build.flags t with
  | '?' :: 'P' :: '<' :: rest => openNamed? build rest
  | '?' :: '<' :: '=' :: _ => none
  | '?' :: '<' :: '!' :: _ => none
  | '?' :: '<' :: rest => openNamed? build rest
  | '?' :: rest => openFlags? build rest
  | rest => some (build.enterNext, rest)

/-! ## Repetitions -/

/-- A question mark, if one follows, and the rest. -/
def takeShort : Text → Bool × Text
  | '?' :: rest => (true, rest)
  | rest => (false, rest)

/-- Repeats the latest item as the mark before `t` says. -/
def repeatPlain? (build : Build) (least : Nat) (most : Option Nat) (t : Text) :
    Option (Build × Text) :=
  let (short, rest) := takeShort t
  (build.repeat? least most short).map fun build => (build, rest)

/-- A decimal number with blanks around it. The number is missing if there are no digits. -/
def decimal? (flags : Flags) (t : Text) : Option (Option Nat × Text) :=
  let (digits, rest) := collect flags (fun c => !c.isDigit) (Text.trimStart t)
  let rest := skip flags (Text.trimStart rest)
  if digits.isEmpty then some (none, rest)
  else
    match Numeral.read32 digits with
    | .ok n => some (some n, rest)
    | .error _ => none

/-- The limits of a repetition in braces, behind the opening one. -/
def limits? (flags : Flags) (t : Text) : Option (Nat × Option Nat × Text) :=
  match decimal? flags (skip flags t) with
  | some (some least, '\x7d' :: rest) => some (least, some least, rest)
  | some (some least, ',' :: rest) =>
    match skip flags rest with
    | '\x7d' :: rest => some (least, none, rest)
    | rest =>
      match decimal? flags rest with
      | some (some most, '\x7d' :: rest) =>
        if least ≤ most then some (least, some most, rest) else none
      | _ => none
  | _ => none

/-- A repetition in braces, behind the opening one. -/
def repeatCounted? (build : Build) (t : Text) : Option (Build × Text) :=
  (limits? build.flags t).bind fun (least, most, rest) =>
    repeatPlain? build least most (skip build.flags rest)

/-! ## Patterns -/

/-- What a dot stands for. -/
def dotRegex? (flags : Flags) : Option Regex :=
  if !flags.unicode then none
  else if flags.dotAll then some (.ofSet false .full)
  else if flags.carriageReturn then some (.ofSet false (CodePoints.ofText "A D").complement)
  else some (.ofSet false (CodePoints.single 0xA).complement)

/-- The test that a caret stands for. -/
def caret (flags : Flags) : Look :=
  if !flags.multiLine then .start else if flags.carriageReturn then .lineStartCr else .lineStart

/-- The test that a dollar sign stands for. -/
def dollar (flags : Flags) : Look :=
  if !flags.multiLine then .finish else if flags.carriageReturn then .lineEndCr else .lineEnd

/-- One step of a pattern that is not at its end. -/
def step? (build : Build) (c : Char) (rest : Text) : Option (Build × Text) :=
  let flags := build.flags
  let item (regex : Regex) : Build × Text := (build.push regex 0, rest)
  if c = '(' then openGroup? build rest
  else if c = ')' then build.leave?.map fun build => (build, rest)
  else if c = '|' then some (build.nextBranch, rest)
  else if c = '[' then
    (openBracket? flags ⟨{}, []⟩ rest).bind fun (set, body) =>
      (bracketed? flags (body.length + 1) set body).map fun (set, depth, rest) =>
        (build.push (.ofSet (!flags.unicode) set) depth, rest)
  else if c = '?' then repeatPlain? build 0 (some 1) rest
  else if c = '*' then repeatPlain? build 0 none rest
  else if c = '+' then repeatPlain? build 1 none rest
  else if c = '\x7b' then repeatCounted? build rest
  else if c = '\\' then
    (escape? flags rest).bind fun (atom, rest) =>
      (atomRegex? flags atom).map fun regex => (build.push regex 0, rest)
  else if c = '.' then (dotRegex? flags).map item
  else if c = '^' then some (item (.look (caret flags)))
  else if c = '$' then some (item (.look (dollar flags)))
  else (charRegex? flags c false).map item

/-- Reads a pattern in at most `steps` steps. -/
def build? : (steps : Nat) → Build → Text → Option Build
  | 0, _, _ => none
  | steps + 1, build, t =>
    match skip build.flags t with
    | [] => some build
    | c :: rest => (step? build c rest).bind fun (build, rest) => build? steps build rest

/-- The regular expression that a pattern describes, unless it is malformed, nested too deep or
too large. -/
def parse? (t : Text) : Option Regex :=
  ((build? (t.length + 1) {} t).bind Build.finish?).filter Regex.fits

end Pattern

end ProcessMeter
