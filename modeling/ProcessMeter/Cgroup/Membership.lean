import ProcessMeter.Stat.Scalar

/-!
# Cgroup membership

The kernel lists the cgroups of a process one hierarchy a line: the number of the hierarchy, its
controllers, and the path of the cgroup within it. The unified hierarchy has the number 0 and
lists no controllers.
-/

namespace ProcessMeter

/-- The cgroup of a process in one hierarchy. -/
structure Membership where
  /-- The number of the hierarchy. -/
  hierarchy : Nat
  /-- The controllers bound to the hierarchy, named hierarchies as `name=…`. -/
  controllers : List Text
  /-- The path of the cgroup within the hierarchy. -/
  path : Path
  deriving DecidableEq, Repr

namespace Membership

/-- Whether this is the line of the unified hierarchy. -/
def isUnified (entry : Membership) : Bool := entry.hierarchy == 0 && entry.controllers.isEmpty

/-- Whether the hierarchy has a controller that accounts for a resource. -/
def accountsForResource (entry : Membership) : Bool :=
  entry.controllers.any fun controller => !Text.startsWith "name=".toList controller

/-- The three fields of a line; the path may hold further colons. -/
def fields? (line : Text) : Option (Text × Text × Text) :=
  match Text.cut ':' line with
  | none => none
  | some (hierarchy, rest) =>
    (Text.cut ':' rest).map fun (controllers, path) => (hierarchy, controllers, path)

/-- Reads one line without its line feed. -/
def readLine (number : Nat) (line : Text) : Except StatError Membership :=
  match fields? line with
  | none => .error (.unexpectedFormat line number)
  | some (hierarchy, controllers, path) =>
    match Scalar.number number hierarchy with
    | .error error => .error error
    | .ok hierarchy => .ok { hierarchy, controllers := Text.items ',' controllers, path }

/-- Takes one line in. Empty lines do not count. -/
def takeLine (number : Nat) (line : Text) (found : List Membership) :
    Except StatError (List Membership) :=
  let content := Text.trimEndWhile (· == '\n') line
  if content.isEmpty then .ok found
  else
    match readLine number content with
    | .ok entry => .ok (found ++ [entry])
    | .error error => .error error

/-- Reads the membership file of a process. -/
def readAll : LineReader (List Membership) := Lines.foldLines takeLine []

end Membership

end ProcessMeter
