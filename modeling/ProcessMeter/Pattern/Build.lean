import ProcessMeter.Pattern.Flags
import ProcessMeter.Pattern.Regex

/-!
# Patterns under construction

A pattern is read from left to right. What has been read is a stack of open groups, each with the
alternatives that are finished and the items of the one that is not, so nesting costs no
recursion. The depth of nesting is counted as items are made, and an item that is too deep is
refused at once, since nothing makes a pattern less deep.
-/

namespace ProcessMeter

namespace Pattern

/-- The deepest nesting of a pattern. -/
def maxDepth : Nat := 250

/-- One item of a sequence. -/
structure Part where
  /-- What it takes. -/
  regex : Regex
  /-- The depth of its nesting. -/
  depth : Nat
  /-- Whether it only sets flags, so that it cannot be repeated. -/
  setsFlags : Bool := false

namespace Part

/-- The depth of some items taken together. Several are one level deeper than the deepest. -/
def depthOf : List Part → Nat
  | [] => 0
  | [part] => part.depth
  | parts => (parts.map Part.depth).foldl max 0 + 1

/-- Some items one after the other. -/
def sequence (parts : List Part) : Part :=
  ⟨Regex.sequence (parts.map Part.regex), depthOf parts, false⟩

/-- One of some alternatives. -/
def choice (parts : List Part) : Part :=
  match parts with
  | [part] => part
  | _ => ⟨Regex.choice (parts.map Part.regex), depthOf parts, false⟩

end Part

/-- A group that is open. -/
structure GroupFrame where
  /-- The items before the group, latest first. -/
  parts : List Part
  /-- The alternatives before those, latest first. -/
  branches : List Part
  /-- The flags outside the group. -/
  flags : Flags
  /-- The number of the group, if it is remembered. -/
  index? : Option Nat

/-- A pattern that is being read. -/
structure Build where
  /-- The items of the current alternative, latest first. -/
  parts : List Part := []
  /-- The finished alternatives of the innermost group, latest first. -/
  branches : List Part := []
  /-- The flags in force. -/
  flags : Flags := {}
  /-- The open groups, innermost first. -/
  frames : List GroupFrame := []
  /-- The number of remembered groups so far. -/
  groups : Nat := 0
  /-- The names of groups so far. -/
  names : List Text := []

namespace Build

/-- The current alternative as one. -/
def branch (build : Build) : Part := .sequence build.parts.reverse

/-- Everything in the innermost group as one. -/
def body (build : Build) : Part := .choice (build.branch :: build.branches).reverse

/-- The pattern with one more item. -/
def push (build : Build) (regex : Regex) (depth : Nat) : Build :=
  { build with parts := ⟨regex, depth, false⟩ :: build.parts }

/-- The pattern with other flags from here on. -/
def setFlags (build : Build) (flags : Flags) : Build :=
  { build with flags, parts := ⟨.empty, 0, true⟩ :: build.parts }

/-- The pattern with its current alternative finished. -/
def nextBranch (build : Build) : Build :=
  { build with parts := [], branches := build.branch :: build.branches }

/-- Opens a group. -/
def enter (build : Build) (flags : Flags) (index? : Option Nat) : Build :=
  { build with
    parts := [], branches := [], flags
    frames := ⟨build.parts, build.branches, build.flags, index?⟩ :: build.frames }

/-- Opens a group that is remembered. -/
def enterNext (build : Build) : Build :=
  { build with groups := build.groups + 1 }.enter build.flags (some (build.groups + 1))

/-- Opens a group with a name, unless the name is taken. -/
def enterNamed? (build : Build) (name : Text) : Option Build :=
  if build.names.contains name then none
  else some { build with names := name :: build.names }.enterNext

/-- Closes the innermost group. -/
def leave? (build : Build) : Option Build :=
  match build.frames with
  | [] => none
  | frame :: frames =>
    let body := build.body
    let regex :=
      match frame.index? with
      | some index => .group index body.regex
      | none => body.regex
    if maxDepth ≤ body.depth then none
    else some { build with
      parts := ⟨regex, body.depth + 1, false⟩ :: frame.parts
      branches := frame.branches
      flags := frame.flags
      frames }

/-- Repeats the latest item. `short` says whether a question mark follows. -/
def repeat? (build : Build) (least : Nat) (most : Option Nat) (short : Bool) : Option Build :=
  match build.parts with
  | [] => none
  | part :: parts =>
    if part.setsFlags || maxDepth ≤ part.depth then none
    else
      let eager := short == build.flags.swapEager
      some { build with
        parts := ⟨.repeating least most eager part.regex, part.depth + 1, false⟩ :: parts }

/-- The finished expression, unless a group is open or the nesting is too deep. -/
def finish? (build : Build) : Option Regex :=
  let body := build.body
  if build.frames.isEmpty && body.depth ≤ maxDepth then some body.regex else none

end Build

end Pattern

end ProcessMeter
