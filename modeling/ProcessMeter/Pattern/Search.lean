import ProcessMeter.Pattern.Parser

/-!
# Matches in a text

A regular expression leads from positions of a text to positions of it. A set of positions is a
number, whose bits are the positions, and the paths of an expression are one such set for each
position. So a sequence composes paths, a choice joins them, and a repetition closes them; the
cost does not depend on how repetitions are nested. `Regex.reach` gives the positions that can be
reached from a set of positions, and there is a match if any position is reached from any.
-/

namespace ProcessMeter

/-- Whether a test holds between the characters `before` and `behind`; one of them is missing at
an end of the text. -/
def Look.holds (before behind : Option Char) : Look → Bool
  | .start => before.isNone
  | .finish => behind.isNone
  | .lineStart => before.isNone || before == some '\n'
  | .lineEnd => behind.isNone || behind == some '\n'
  | .lineStartCr =>
    before.isNone || before == some '\n' || (before == some '\r' && behind != some '\n')
  | .lineEndCr =>
    behind.isNone || behind == some '\r' || (behind == some '\n' && before != some '\r')
  | .wordEdge u => isWord u before != isWord u behind
  | .noWordEdge u => isWord u before == isWord u behind
  | .wordStart u => !isWord u before && isWord u behind
  | .wordEnd u => isWord u before && !isWord u behind
  | .wordStartHalf u => !isWord u before
  | .wordEndHalf u => !isWord u behind
where
  /-- Whether a character belongs to words. -/
  isWord (unicode : Bool) (c : Option Char) : Bool := CodePoints.isWordCharacter unicode c

/-- The positions of a text: the characters before and behind each. -/
abbrev Positions := List (Option Char × Option Char)

namespace Positions

/-- The positions behind `before`, for the characters that follow. -/
def startingAt (before : Option Char) : Text → Positions
  | [] => [(before, none)]
  | c :: rest => (before, some c) :: startingAt (some c) rest

/-- The positions of a text. -/
def ofText (t : Text) : Positions := startingAt none t

end Positions

/-- A set of positions. Position `i` is in it if bit `i` is set. -/
abbrev Places := Nat

namespace Places

/-- The positions that satisfy a test. -/
def satisfying (test : Option Char × Option Char → Bool) : Positions → Places
  | [] => 0
  | position :: rest => 2 * satisfying test rest + if test position then 1 else 0

/-- The positions before a character that satisfies a test. -/
def before (test : Char → Bool) (text : Positions) : Places :=
  satisfying (fun position => position.2.any test) text

/-- The places behind one character. `marked` are the positions before a character that fits. -/
def step (marked places : Places) : Places := (places &&& marked) <<< 1

/-- The places behind several characters. `marked` are for each the positions before one that
fits. -/
def stepAll (marked : List Places) (places : Places) : Places :=
  marked.foldl (fun places marked => step marked places) places

/-- For each character of a word the positions before it. -/
def ofWord (word : Text) (text : Positions) : List Places :=
  word.map fun c => before (· == c) text

/-- The positions before a character of a set. -/
def ofSet (set : CodePoints) (text : Positions) : Places := before (fun c => set.has c.toNat) text

/-- The positions where a test holds. -/
def ofLook (test : Look) (text : Positions) : Places :=
  satisfying (fun (before, behind) => test.holds before behind) text

end Places

/-- For each position the places that it leads to. -/
abbrev Paths := Array Places

namespace Paths

/-- The paths that stay where they are, for a text with `n` positions. -/
def stay (n : Nat) : Paths := (Array.range n).map (1 <<< ·)

/-- The paths of one step. -/
def ofStep (n : Nat) (step : Places → Places) : Paths := (stay n).map step

/-- Where a set of places leads to. -/
def image (paths : Paths) (places : Places) : Places :=
  (List.range paths.size).foldl
    (fun reached i => if places.testBit i then reached ||| paths.getD i 0 else reached) 0

/-- First one, then the other. -/
def andThen (a b : Paths) : Paths := a.map b.image

/-- Either of two. -/
def either (a b : Paths) : Paths := Array.zipWith (· ||| ·) a b

/-- The paths repeated exactly `k` times. -/
def power (paths : Paths) (k : Nat) : Paths :=
  if k = 0 then stay paths.size
  else
    let half := power paths (k / 2)
    let even := half.andThen half
    if k % 2 = 0 then even else even.andThen paths

/-- The paths repeated any number of times. Paths lead forwards, so what a position leads to is
known once the later positions are closed. -/
def closure (paths : Paths) : Paths :=
  (List.range paths.size).foldr
    (fun i closed => closed.setIfInBounds i ((1 <<< i) ||| closed.image (paths.getD i 0)))
    (stay paths.size)

/-- Where a set of places leads to in any number of steps. -/
def spread (paths : Paths) (places : Places) : Places :=
  (List.range paths.size).foldl
    (fun reached i => if reached.testBit i then reached ||| paths.getD i 0 else reached) places

end Paths

namespace Regex

/-- The paths of an expression. A text with `n` positions leaves room for fewer than `n` steps
forwards, so more than `n` repetitions lead nowhere else than `n` do. -/
def paths (text : Positions) : Regex → Paths
  | empty => .stay text.length
  | literal word => .ofStep text.length (Places.stepAll (Places.ofWord word text))
  | chars _ set => .ofStep text.length (Places.step (Places.ofSet set text))
  | look test => .ofStep text.length (Places.ofLook test text &&& ·)
  | repeated least most _ body =>
    let paths := body.paths text
    let start := paths.power (min least text.length)
    match most with
    | none => start.andThen paths.closure
    | some most =>
      start.andThen
        ((Paths.either (.stay text.length) paths).power (min (most - least) text.length))
  | group _ body => body.paths text
  | cat first second => (first.paths text).andThen (second.paths text)
  | alt first second => (first.paths text).either (second.paths text)

/-- The places that an expression leads to. -/
def reach (text : Positions) : Regex → Places → Places
  | empty, places => places
  | literal word, places => Places.stepAll (Places.ofWord word text) places
  | chars _ set, places => Places.step (Places.ofSet set text) places
  | look test, places => Places.ofLook test text &&& places
  | repeated least most _ body, places =>
    let paths := body.paths text
    let start := (min least text.length).repeat paths.image places
    match most with
    | none => paths.spread start
    | some most =>
      (min (most - least) text.length).repeat (fun places => places ||| paths.image places) start
  | group _ body, places => reach text body places
  | cat first second, places => reach text second (reach text first places)
  | alt first second, places => reach text first places ||| reach text second places

/-- Whether some part of the text is taken by the expression. -/
def isMatch (r : Regex) (t : Text) : Bool :=
  let text := Positions.ofText t
  r.reach text (Nat.pow 2 text.length - 1) != 0

end Regex

/-- The test that a pattern stands for as a regular expression, unless it is malformed. -/
def Pattern.test? (pattern : Text) : Option (Text → Bool) := (parse? pattern).map Regex.isMatch

end ProcessMeter
