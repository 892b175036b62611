import ProcessMeter.Pattern.Escape

/-!
# Bracketed sets

Sets in brackets hold characters, ranges, named classes and other sets, and join them with the
operations `&&`, `--` and `~~`, which group to the left. Open brackets are kept on a stack, so
nesting costs no recursion.
-/

namespace ProcessMeter

namespace Pattern

/-- An operation between the two sides of a bracketed set. -/
inductive SetOp where
  | inter
  | diff
  | symDiff
  deriving DecidableEq, Repr

/-- A set that is being read, with the number of its items and the depth of its nesting. -/
structure SetItems where
  /-- The items so far. -/
  set : CodePoints := []
  /-- How many items there are. -/
  count : Nat := 0
  /-- The depth of the deepest item. -/
  depth : Nat := 0

namespace SetItems

/-- The items with one more. -/
def add (items : SetItems) (set : CodePoints) (depth : Nat) : SetItems :=
  ⟨items.set.union set, items.count + 1, max items.depth depth⟩

/-- The items with one more character. -/
def addChar (items : SetItems) (c : Char) : SetItems := items.add (.single c.toNat) 0

/-- The depth of the items taken together. -/
def totalDepth (items : SetItems) : Nat :=
  if 2 ≤ items.count then items.depth + 1 else items.depth

end SetItems

/-- What is open while a bracketed set is read. -/
inductive SetFrame where
  /-- A bracket, with the items around it. -/
  | bracket (outer : SetItems) (negated : Bool)
  /-- An operation, with its left side. -/
  | operation (op : SetOp) (left : CodePoints) (depth : Nat)

/-- A set that is being read. -/
structure SetBuild where
  /-- The items of the innermost side. -/
  items : SetItems
  /-- What is open, innermost first. -/
  frames : List SetFrame

/-- Both sides of an operation taken together. -/
def SetOp.apply (flags : Flags) (op : SetOp) (left right : CodePoints) : CodePoints :=
  let left := withCase flags left
  let right := withCase flags right
  match op with
  | .inter => left.inter right
  | .diff => left.diff right
  | .symDiff => left.symDiff right

/-- The set of the innermost side together with an operation that waits for it. -/
def closeSide (flags : Flags) (build : SetBuild) : CodePoints × Nat × List SetFrame :=
  match build.frames with
  | .operation op left depth :: frames =>
    (op.apply flags left build.items.set, max depth build.items.totalDepth + 1, frames)
  | frames => (build.items.set, build.items.totalDepth, frames)

/-- Hyphens at the start of a set, which are characters. -/
def leadingHyphens (flags : Flags) (items : SetItems) (t : Text) : SetItems × Text :=
  let (others, rest) := collect flags (· != '-') t
  (others.foldl SetItems.addChar items, rest)

/-- What stands behind an opening bracket: a caret, leading hyphens, and a leading closing
bracket that counts as a character. -/
def openBracket? (flags : Flags) (build : SetBuild) (t : Text) : Option (SetBuild × Text) :=
  let (negated, body) :=
    match skip flags t with
    | '^' :: rest => (true, skip flags rest)
    | rest => (false, rest)
  let (items, body) := leadingHyphens flags {} body
  let (items, body) :=
    match body with
    | ']' :: rest =>
      if items.count = 0 then (items.addChar ']', skip flags rest) else (items, body)
    | _ => (items, body)
  if body.isEmpty then none
  else some (⟨items, .bracket build.items negated :: build.frames⟩, body)

/-- The name of a class of ASCII characters such as `[:digit:]`, behind its opening bracket, and
whether it is negated. -/
def asciiClass? (t : Text) : Option (Bool × CodePoints × Text) :=
  match t with
  | ':' :: rest =>
    let (negated, rest) :=
      match rest with
      | '^' :: rest => (true, rest)
      | rest => (false, rest)
    let name := rest.takeWhile (· != ':')
    match rest.dropWhile (· != ':') with
    | ':' :: ']' :: rest =>
      (CodePoints.asciiClass? name).map fun set => (negated, set, rest)
    | _ => none
  | _ => none

/-- One character or escape within a bracketed set. -/
def setAtom? (flags : Flags) : Text → Option (Atom × Text)
  | [] => none
  | c :: rest => if c = '\\' then escape? flags rest else some (.char c false, rest)

/-- Whether a character can be a member of a set under the flags. -/
def canBeMember (flags : Flags) (c : Char) : Bool := flags.unicode || c.toNat < 0x80

/-- The set of a single item. -/
def itemSet? (flags : Flags) : Atom → Option CodePoints
  | .char c _ => if canBeMember flags c then some (.single c.toNat) else none
  | .set set => some set
  | .look _ => none

/-- The set of a range. -/
def rangeSet? (flags : Flags) : Atom → Atom → Option CodePoints
  | .char low _, .char high _ =>
    if low ≤ high && canBeMember flags high then some [(low.toNat, high.toNat)] else none
  | _, _ => none

/-- A member of a bracketed set: a character, a shorthand, or a range. -/
def setMember? (flags : Flags) (t : Text) : Option (CodePoints × Text) :=
  match setAtom? flags t with
  | none => none
  | some (first, rest) =>
    match skip flags rest with
    | [] => none
    | c :: behind =>
      let next := peek flags behind
      if c = '-' && next ≠ some ']' && next ≠ some '-' then
        match setAtom? flags (skip flags behind) with
        | none => none
        | some (second, rest) => (rangeSet? flags first second).map fun set => (set, rest)
      else (itemSet? flags first).map fun set => (set, c :: behind)

/-- One step of a bracketed set. The last component is the finished set. -/
def setStep? (flags : Flags) (build : SetBuild) (t : Text) :
    Option (SetBuild × Text × Option (CodePoints × Nat)) :=
  let operation (op : SetOp) (rest : Text) :
      Option (SetBuild × Text × Option (CodePoints × Nat)) :=
    let (set, depth, frames) := closeSide flags build
    some (⟨{}, .operation op set depth :: frames⟩, rest, none)
  match skip flags t with
  | [] => none
  | '[' :: rest =>
    match (if build.frames.isEmpty then none else asciiClass? rest) with
    | some (negated, set, rest) =>
      (negatedIf? flags negated (withCase flags set)).map fun set =>
        ({ build with items := build.items.add set 0 }, rest, none)
    | none => (openBracket? flags build rest).map fun (build, rest) => (build, rest, none)
  | ']' :: rest =>
    let (set, depth, frames) := closeSide flags build
    match frames with
    | .bracket outer negated :: frames =>
      match negatedIf? flags negated (withCase flags set) with
      | none => none
      | some set =>
        if frames.isEmpty then some (⟨outer, frames⟩, rest, some (set, depth + 1))
        else some (⟨outer.add set (depth + 1), frames⟩, rest, none)
    | _ => none
  | '&' :: '&' :: rest => operation .inter rest
  | '-' :: '-' :: rest => operation .diff rest
  | '~' :: '~' :: rest => operation .symDiff rest
  | c :: rest =>
    (setMember? flags (c :: rest)).map fun (set, rest) =>
      ({ build with items := build.items.add set 0 }, rest, none)

/-- Reads a bracketed set in at most `steps` steps. -/
def bracketed? (flags : Flags) :
    (steps : Nat) → SetBuild → Text → Option (CodePoints × Nat × Text)
  | 0, _, _ => none
  | steps + 1, build, t =>
    match setStep? flags build t with
    | none => none
    | some (_, rest, some (set, depth)) => some (set, depth, rest)
    | some (build, rest, none) => bracketed? flags steps build rest

end Pattern

end ProcessMeter
