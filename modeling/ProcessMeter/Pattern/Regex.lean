import ProcessMeter.Pattern.CharSet
import ProcessMeter.Text.Utf8

/-!
# Regular expressions

What patterns describe. The functions `Regex.ofSet`, `Regex.repeating`, `Regex.sequence` and
`Regex.choice` build expressions in a normal form: what takes nothing is left out, neighbouring
characters are one literal, a choice between characters is one set, and what all branches of a
choice start with stands before it.
-/

namespace ProcessMeter

/-- A test of a position that takes no character. -/
inductive Look where
  /-- The start of the text. -/
  | start
  /-- The end of the text. -/
  | finish
  /-- The start of a line. -/
  | lineStart
  /-- The end of a line. -/
  | lineEnd
  /-- The start of a line, where a carriage return may end lines too. -/
  | lineStartCr
  /-- The end of a line, where a carriage return may end lines too. -/
  | lineEndCr
  /-- A start or end of a word. -/
  | wordEdge (unicode : Bool)
  /-- Neither a start nor an end of a word. -/
  | noWordEdge (unicode : Bool)
  /-- A start of a word. -/
  | wordStart (unicode : Bool)
  /-- An end of a word. -/
  | wordEnd (unicode : Bool)
  /-- No word before the position. -/
  | wordStartHalf (unicode : Bool)
  /-- No word behind the position. -/
  | wordEndHalf (unicode : Bool)
  deriving DecidableEq, Repr

/-- A regular expression. -/
inductive Regex where
  /-- Takes nothing. -/
  | empty
  /-- Takes the characters one after the other. -/
  | literal (text : Text)
  /-- Takes one character of a set. `octets` says whether it is a set of octets, which then hold
  ASCII only. -/
  | chars (octets : Bool) (set : CodePoints)
  /-- Takes nothing where a test holds. -/
  | look (test : Look)
  /-- Takes what the body takes, at least `least` times and at most `most` times. `eager` says
  whether more times are preferred, which makes no difference to whether there is a match. -/
  | repeated (least : Nat) (most : Option Nat) (eager : Bool) (body : Regex)
  /-- Takes what the body takes, which is remembered as the group with the given number. -/
  | group (index : Nat) (body : Regex)
  /-- Takes what the first takes, then what the second takes. -/
  | cat (first second : Regex)
  /-- Takes what either takes. -/
  | alt (first second : Regex)
  deriving DecidableEq, Repr

namespace Regex

/-- The expression that takes nothing and never holds. -/
def never : Regex := chars true []

/-- The number of octets of the character with the given number. -/
def octetCount (n : Nat) : Nat := (Char.ofNat n).utf8Size

/-- The least number of octets that an expression takes, unless it takes a character of an empty
set. -/
def minLength : Regex → Option Nat
  | empty => some 0
  | literal text => some (Text.byteLength text)
  | chars _ set => set.head?.map fun range => octetCount range.1
  | look _ => some 0
  | repeated least _ _ body => body.minLength.map (· * least)
  | group _ body => body.minLength
  | cat first second =>
    match first.minLength, second.minLength with
    | some a, some b => some (a + b)
    | _, _ => none
  | alt first second =>
    match first.minLength, second.minLength with
    | some a, some b => some (min a b)
    | _, _ => none

/-- Whether an expression takes no octets wherever it holds. One that never holds does not count. -/
def takesNothing : Regex → Bool
  | empty => true
  | literal text => text.isEmpty
  | chars _ _ => false
  | look _ => true
  | repeated _ most _ body => most.isSome && body.takesNothing
  | group _ body => body.takesNothing
  | cat first second => first.takesNothing && second.takesNothing
  | alt first second => first.takesNothing && second.takesNothing

/-- Whether every match starts at the start of the text, as far as can be seen from the tests
that come first. -/
def startsAtStart : Regex → Bool
  | look test => test = .start
  | repeated least _ _ body => 0 < least && body.startsAtStart
  | group _ body => body.startsAtStart
  | cat first second =>
    first.startsAtStart || (first.takesNothing && second.startsAtStart)
  | alt first second => first.startsAtStart && second.startsAtStart
  | _ => false

/-- Whether every match ends at the end of the text, as far as can be seen from the tests that
come last. -/
def endsAtEnd : Regex → Bool
  | look test => test = .finish
  | repeated least _ _ body => 0 < least && body.endsAtEnd
  | group _ body => body.endsAtEnd
  | cat first second =>
    second.endsAtEnd || (second.takesNothing && first.endsAtEnd)
  | alt first second => first.endsAtEnd && second.endsAtEnd
  | _ => false

/-! ## Normal form -/

/-- One character of a set. -/
def ofSet (octets : Bool) (set : CodePoints) : Regex :=
  match set with
  | [] => never
  | [(low, high)] => if low = high then literal [Char.ofNat low] else chars octets set
  | _ => chars octets set

/-- A body repeated. What takes no octet is needed at most once. -/
def repeating (least : Nat) (most : Option Nat) (eager : Bool) (body : Regex) : Regex :=
  let (least, most) :=
    if body.takesNothing then (min least 1, some (min (most.getD 1) 1)) else (least, most)
  if least = 0 ∧ most = some 0 then empty
  else if least = 1 ∧ most = some 1 then body
  else repeated least most eager body

/-- The parts of a sequence. -/
def parts : Regex → List Regex
  | empty => []
  | cat first second => first :: second.parts
  | r => [r]

/-- One more part before others. Two literals become one. -/
def joinLiteral (r : Regex) (others : List Regex) : List Regex :=
  match r, others with
  | literal text, literal text' :: others => literal (text ++ text') :: others
  | r, others => r :: others

/-- The parts with neighbouring literals as one. -/
def joinLiterals (rs : List Regex) : List Regex := rs.foldr joinLiteral []

/-- Some expressions one after the other, as they are. -/
def chain : List Regex → Regex
  | [] => empty
  | [r] => r
  | r :: rest => cat r (chain rest)

/-- Some expressions one after the other. -/
def sequence (rs : List Regex) : Regex := chain (joinLiterals (rs.flatMap parts))

/-- The branches of a choice. -/
def branches : Regex → List Regex
  | alt first second => first :: second.branches
  | r => [r]

/-- One of some expressions, as they are. -/
def options : List Regex → Regex
  | [] => never
  | [r] => r
  | r :: rest => alt r (options rest)

/-- The code point of a literal of one character. -/
def singleton? : Regex → Option Nat
  | literal [c] => some c.toNat
  | _ => none

/-- The set of an expression that takes one character. -/
def set? : Regex → Option CodePoints
  | chars _ set => some set
  | _ => none

/-- What two lists start with in common. -/
def commonStart : List Regex → List Regex → List Regex
  | a :: as, b :: bs => if a = b then a :: commonStart as bs else []
  | _, _ => []

/-- What all branches start with, if all are sequences. -/
def sharedStart : List Regex → List Regex
  | [] => []
  | first :: others =>
    if (first :: others).all fun r => 2 ≤ r.parts.length then
      others.foldl (fun shared r => commonStart shared r.parts) first.parts
    else []

/-- One of at least two branches, none of which is a choice. What all branches start with is taken
out up to `steps` times. -/
def choiceOf : (steps : Nat) → List Regex → Regex
  | _, [] => never
  | _, [r] => r
  | 0, rs => options rs
  | steps + 1, rs =>
    match rs.mapM singleton? with
    | some points => ofSet false (.ofList points)
    | none =>
      match rs.mapM set? with
      | some sets => ofSet false (sets.foldl .union .none)
      | none =>
        match sharedStart rs with
        | [] => options rs
        | shared =>
          let rest := rs.map fun r => sequence (r.parts.drop shared.length)
          sequence (shared ++ [choiceOf steps (rest.flatMap branches)])

/-- One of some expressions. Every time that a common start is taken out, the first branch gets
shorter. -/
def choice (rs : List Regex) : Regex :=
  let rs := rs.flatMap branches
  choiceOf ((rs.head?.map fun r => r.parts.length).getD 0 + 1) rs

end Regex

end ProcessMeter
