import ProcessMeter.Pattern.Regex
import Std.Data.HashMap

/-!
# Sizes of automata

A pattern is refused if an automaton for it would be too large. The automaton works on octets, so
a set of characters becomes as many states as its characters need octets with, and a counted
repetition becomes as many copies of its body. The size is counted for searching forwards and for
searching backwards, state by state, without building the automaton.

A set searched forwards shares the states for equal ends of characters, one searched backwards
those for equal starts. Shared states are found in a table with a limited number of places, where
a new state drives out the older one at its place, so what is shared depends on the numbers of the
states before.
-/

namespace ProcessMeter

/-- The size of an automaton. -/
structure AutomatonSize where
  /-- The number of states. The next state gets this number. -/
  states : Nat := 0
  /-- The octets that the states need beyond their fixed size. -/
  links : Nat := 0
  deriving DecidableEq, Repr

namespace AutomatonSize

/-- The octets of a state without its links. -/
def stateOctets : Nat := 32

/-- The most octets that an automaton may need. -/
def limit : Nat := 10 * 1024 * 1024

/-- Whether an automaton is too large. -/
def isOver (size : AutomatonSize) : Bool := limit < size.states * stateOctets + size.links

/-- Some more states, with nothing else. -/
def add (size : AutomatonSize) (states : Nat) : AutomatonSize :=
  { size with states := size.states + states }

/-- Some more links of a state that leads to several others without an octet. -/
def fork (size : AutomatonSize) (links : Nat) : AutomatonSize :=
  { size with links := size.links + 4 * links }

/-- One more state that chooses by ranges of octets. -/
def choose (size : AutomatonSize) (ranges : Nat) : AutomatonSize :=
  ⟨size.states + 1, size.links + 8 * ranges⟩

end AutomatonSize

namespace Octets

/-- The numbers at which the encodings of characters get longer, or leave out numbers. -/
def borders : List Nat := [0x7F, 0x7FF, 0xD7FF, 0xFFFF]

/-- Where a range has to be split so that its characters differ in whole blocks of `unit`. -/
def blockEnd? (low high unit : Nat) : Option Nat :=
  if low / unit = high / unit then none
  else if low % unit ≠ 0 then some (low / unit * unit + (unit - 1))
  else if high % unit ≠ unit - 1 then some (high / unit * unit - 1)
  else none

/-- The last number of the first part of a range, if the encodings of the range are not the
product of ranges of octets. -/
def splitAt? (low high : Nat) : Option Nat :=
  match borders.find? fun border => low ≤ border && border < high with
  | some border => some border
  | none => if high ≤ 0x7F then none else [0x40, 0x1000, 0x40000].findSome? (blockEnd? low high)

/-- The octets of the character with the given number. -/
def ofNumber (n : Nat) : List Nat := (Text.encode [Char.ofNat n]).map UInt8.toNat

/-- The encodings of a range of characters as products of ranges of octets, in order. -/
def ofRange (low high : Nat) : List (List (Nat × Nat)) :=
  match splitAt? low high with
  | none => [(ofNumber low).zip (ofNumber high)]
  | some cut =>
    if low ≤ cut ∧ cut < high then ofRange low cut ++ ofRange (cut + 1) high
    else [(ofNumber low).zip (ofNumber high)]
  termination_by high - low

/-- The encodings of a set of characters as products of ranges of octets, in order. -/
def ofSet (set : CodePoints) : List (List (Nat × Nat)) :=
  (set.inter [(0, 0xD7FF), (0xE000, CodePoints.last)]).flatMap fun (low, high) => ofRange low high

/-- One more number in a hash. -/
def hashStep (hash : UInt64) (n : Nat) : UInt64 := (hash ^^^ n.toUInt64) * 1099511628211

/-- The hash of some numbers. -/
def hash (numbers : List Nat) : UInt64 := numbers.foldl hashStep 14695981039346656037

/-- The place of some numbers in a table. -/
def place (places : UInt64) (numbers : List Nat) : UInt64 := hash numbers % places

end Octets

/-! ## Sets searched forwards -/

/-- A link of a state: a range of octets, and the state that it leads to. -/
structure OctetLink where
  /-- The first octet. -/
  low : Nat
  /-- The last octet. -/
  high : Nat
  /-- The number of the state behind them. -/
  next : Nat
  deriving DecidableEq, Repr

/-- A state that is not finished: its links, latest first, and a range whose end is open. -/
structure OpenState where
  /-- The finished links. -/
  links : List OctetLink := []
  /-- The open range. -/
  range? : Option (Nat × Nat) := none

/-- An automaton under construction, with the table of the states that can be shared. -/
structure SharedStates where
  /-- The size so far. -/
  size : AutomatonSize
  /-- For some places of the table the links and the number of a state. -/
  table : Std.HashMap UInt64 (List OctetLink × Nat) := {}

namespace SharedStates

/-- The number of places of the table. -/
def places : UInt64 := 10000

/-- The number of a state with some links, which is a new one unless the table has it. -/
def state (shared : SharedStates) (links : List OctetLink) : Nat × SharedStates :=
  let place := Octets.place places (links.flatMap fun link => [link.low, link.high, link.next])
  match shared.table[place]?.filter (·.1 = links) with
  | some (_, number) => (number, shared)
  | none =>
    let number := shared.size.states
    (number, ⟨shared.size.choose links.length, shared.table.insert place (links, number)⟩)

end SharedStates

namespace OpenState

/-- The links when the open range leads to `next`. -/
def close (state : OpenState) (next : Nat) : List OctetLink :=
  match state.range? with
  | some (low, high) => ⟨low, high, next⟩ :: state.links
  | none => state.links

/-- Finishes open states, the last one first, the last of which leads to `target`. Gives the
number of the first. -/
def finish (states : List OpenState) (target : Nat) (shared : SharedStates) :
    Nat × SharedStates :=
  states.foldr (fun state (next, shared) => shared.state (state.close next).reverse)
    (target, shared)

/-- How many open states have the ranges of one more encoding. -/
def shareCount : List OpenState → List (Nat × Nat) → Nat
  | state :: states, range :: ranges =>
    if state.range? = some range then shareCount states ranges + 1 else 0
  | _, _ => 0

/-- Adds one more encoding to open states, of which the first is the start. -/
def addEncoding (target : Nat) (states : List OpenState) (shared : SharedStates)
    (encoding : List (Nat × Nat)) : List OpenState × SharedStates :=
  let count := shareCount states encoding
  let (next, shared) := finish (states.drop (count + 1)) target shared
  let here := (states.drop count).head?.getD {}
  let new := (encoding.drop count).map fun range => { range? := some range : OpenState }
  match new with
  | [] => (states, shared)
  | first :: new =>
    (states.take count ++ { first with links := here.close next } :: new, shared)

/-- The size with a set of characters searched forwards, given by its encodings. -/
def addSet (encodings : List (List (Nat × Nat))) (size : AutomatonSize) : AutomatonSize :=
  let target := size.states
  let start : List OpenState × SharedStates :=
    ([{}], { size := size.add 1 })
  let (states, shared) := encodings.foldl
    (fun (states, shared) encoding => addEncoding target states shared encoding) start
  (finish states target shared).2.size

end OpenState

/-! ## Sets searched backwards -/

/-- An automaton under construction, with the table of the states that can be shared. A state is
known by what it leads to and its range of octets. -/
structure SharedSteps where
  /-- The size so far. -/
  size : AutomatonSize
  /-- For some places of the table the link and the number of a state. -/
  table : Std.HashMap UInt64 (OctetLink × Nat) := {}

namespace SharedSteps

/-- The number of places of the table. -/
def places : UInt64 := 1000

/-- The number of a state with one link, which is a new one unless the table has it. -/
def state (shared : SharedSteps) (link : OctetLink) : Nat × SharedSteps :=
  let place := Octets.place places [link.next, link.low, link.high]
  match shared.table[place]?.filter (·.1 = link) with
  | some (_, number) => (number, shared)
  | none =>
    let number := shared.size.states
    (number, ⟨shared.size.add 1, shared.table.insert place (link, number)⟩)

/-- Adds the states of one encoding, of which the first octet is found last, and a link to it. -/
def addEncoding (target : Nat) (shared : SharedSteps) (encoding : List (Nat × Nat)) :
    SharedSteps :=
  let (_, shared) := encoding.foldl
    (fun (next, shared) (low, high) => SharedSteps.state shared ⟨low, high, next⟩)
    (target, shared)
  { shared with size := shared.size.fork 1 }

/-- The size with a set of characters searched backwards, given by its encodings. -/
def addSet (encodings : List (List (Nat × Nat))) (size : AutomatonSize) : AutomatonSize :=
  (encodings.foldl (addEncoding (size.states + 1)) { size := size.add 2 }).size

end SharedSteps

/-! ## Words -/

/-- The words between the empty ones. Empty words at the start count once. -/
def wordRuns (words : List (List Nat)) : List (List (List Nat)) :=
  match words with
  | [] :: rest => [] :: runs (rest.dropWhile List.isEmpty)
  | words => runs words
where
  /-- The words between the empty ones. -/
  runs : List (List Nat) → List (List (List Nat))
    | [] => [[]]
    | [] :: rest => [] :: runs rest
    | word :: rest =>
      match runs rest with
      | [] => [[word]]
      | run :: runs => (word :: run) :: runs

/-- The words behind each first octet. -/
def wordsBehind (words : List (List Nat)) : List (List (List Nat)) :=
  (words.filterMap List.head?).eraseDups.map fun octet =>
    (words.filter fun word => word.head? == some octet).map List.tail

/-- The size with the states of a tree of words. The words have at most `depth` octets. A word
that ends within others splits the ones before it from the ones behind it. -/
def addWords : (depth : Nat) → List (List Nat) → AutomatonSize → AutomatonSize
  | 0, _, size => size
  | depth + 1, words, size =>
    let runs := wordRuns words
    let size := (size.add 1).fork (runs.length - 1)
    runs.foldl
      (fun size run =>
        match wordsBehind run with
        | [] => size
        | groups =>
          groups.foldl
            (fun size group =>
              if group.all List.isEmpty then size else addWords depth group size)
            (((if groups.length = 1 then size.add 1 else size.choose groups.length)).fork 1))
      size

/-! ## Expressions -/

/-- An automaton so far. `forks` says whether its last state leads to several others without an
octet, so that one more link is needed to go on from it. -/
structure AutomatonPart where
  /-- The size. -/
  size : AutomatonSize
  /-- Whether the last state forks. -/
  forks : Bool

namespace AutomatonPart

/-- The size when something follows. -/
def link (part : AutomatonPart) : AutomatonSize :=
  if part.forks then part.size.fork 1 else part.size

/-- A part that is the next states. -/
abbrev Step := AutomatonSize → AutomatonPart

/-- A part of some states that lead on one by one. -/
def line (states : Nat) : Step := fun size => ⟨size.add states, false⟩

/-- First one part, then the other. -/
def andThen (first second : Step) : Step := fun size =>
  let before := first size
  let behind := second before.size
  { behind with size := { behind with forks := before.forks }.link }

/-- Goes on with a part `n` times, but stops when the automaton is too large. -/
def iterate (next : AutomatonPart → AutomatonPart) : (n : Nat) → AutomatonPart → AutomatonPart
  | 0, part => part
  | n + 1, part => if part.size.isOver then part else iterate next n (next part)

/-- A part exactly `n` times. -/
def copies (body : Step) (n : Nat) : Step :=
  match n with
  | 0 => line 1
  | n + 1 => fun size => iterate (fun part => andThen (fun _ => part) body size) n (body size)

/-- A part that can be left out. -/
def optional (body : Step) : Step := fun size =>
  ⟨((body (size.add 1)).link.add 1).fork 2, false⟩

/-- A part any number of times. `takesSome` says whether it always takes an octet. -/
def anyNumber (takesSome : Bool) (body : Step) : Step := fun size =>
  if takesSome then ⟨(body (size.add 1)).link.fork 1, true⟩
  else ⟨((body size).link.add 3).fork 4, false⟩

/-- A part at least once. -/
def atLeastOnce (body : Step) : Step := fun size => ⟨((body size).link.add 1).fork 1, true⟩

/-- A part at least `least` times. -/
def atLeast (takesSome : Bool) (least : Nat) (body : Step) : Step :=
  match least with
  | 0 => anyNumber takesSome body
  | 1 => atLeastOnce body
  | n + 2 => andThen (copies body (n + 1)) (atLeastOnce body)

/-- A part at least `least` times, and `more` times more at most. -/
def bounded (least more : Nat) (body : Step) : Step := fun size =>
  let start := copies body least size
  let last := iterate
    (fun part => body ((part.link.add 1).fork 2))
    more { start with size := start.size.add 1 }
  ⟨last.link, false⟩

/-- A part repeated. -/
def repeated (takesSome : Bool) (least : Nat) (most : Option Nat) (body : Step) : Step :=
  match most with
  | none => atLeast takesSome least body
  | some most =>
    if least = 0 ∧ most = 1 then optional body
    else if least = most then copies body least
    else bounded least (most - least) body

/-- A branch of a choice: its octets if it is a literal, and its part. -/
structure Branch where
  /-- The octets of a literal. -/
  word? : Option (List Nat)
  /-- The part. -/
  step : Step

/-- Adds the remaining branches of a choice. -/
def others (branches : List Branch) (size : AutomatonSize) : AutomatonSize :=
  branches.foldl (fun size branch => (branch.step size).link.fork 1) size

/-- One of some branches. Words alone share what they start with. -/
def oneOf : List Branch → Step
  | [] => line 1
  | [branch] => branch.step
  | first :: second :: rest => fun size =>
    match (first :: second :: rest).mapM Branch.word? with
    | some words =>
      let depth := (words.map List.length).foldl max 0
      ⟨addWords (depth + 1) words (size.add 1), false⟩
    | none =>
      ⟨others rest (((second.step (first.step size).link).link.add 2).fork 2), false⟩

end AutomatonPart

namespace Regex

open AutomatonPart in
/-- The branches of an expression as parts of an automaton. -/
def automatonBranches (backwards : Bool) : Regex → List Branch
  | empty => [⟨none, line 1⟩]
  | literal text =>
    let octets := (Text.encode text).map UInt8.toNat
    [⟨some (if backwards then octets.reverse else octets), line octets.length⟩]
  | chars octets set =>
    if octets || CodePoints.isAscii set then
      [⟨none, fun size => ⟨(size.add 1).choose set.length, false⟩⟩]
    else
      let encodings := Octets.ofSet set
      [⟨none, fun size =>
        ⟨if backwards then SharedSteps.addSet encodings size
          else OpenState.addSet encodings size, false⟩⟩]
  | look _ => [⟨none, line 1⟩]
  | repeated least most _ body =>
    let takesSome := body.minLength.any (0 < ·)
    let step := oneOf (automatonBranches backwards body)
    [⟨none, AutomatonPart.repeated takesSome least most step⟩]
  | group _ body =>
    let step := oneOf (automatonBranches backwards body)
    [⟨none, if backwards then step else andThen (line 1) (andThen step (line 1))⟩]
  | cat first second =>
    let first := oneOf (automatonBranches backwards first)
    let second := oneOf (automatonBranches backwards second)
    [⟨none, if backwards then andThen second first else andThen first second⟩]
  | alt first second =>
    automatonBranches backwards first ++ automatonBranches backwards second

open AutomatonPart in
/-- The size of the automaton that searches for an expression everywhere in a text, forwards or
backwards. It starts with a loop over octets unless matches only start where the search does. -/
def automatonSize (backwards : Bool) (r : Regex) : AutomatonSize :=
  let fixed := if backwards then r.endsAtEnd else r.startsAtStart
  let skip : Step :=
    if fixed then line 1
    else anyNumber true fun size => ⟨(size.add 1).choose 1, false⟩
  let body := oneOf (r.automatonBranches backwards)
  let whole := if backwards then body else andThen (line 1) (andThen body (line 1))
  (andThen skip (andThen whole (line 1)) {}).size

/-- Whether an expression is a choice between so many words that it needs no automaton. -/
def isWordList (r : Regex) : Bool :=
  let words := r.branches
  3000 ≤ words.length && words.all fun word => word matches literal _

/-- Whether the automata of an expression are small enough. -/
def fits (r : Regex) : Bool :=
  r.isWordList || (!(r.automatonSize false).isOver && !(r.automatonSize true).isOver)

end Regex

end ProcessMeter
