import ProcessMeter.Text.Basic

/-!
# Paths

A path is a text. Joining appends, so nothing is normalised: `..` stays, and an empty relative
path leaves a trailing slash. `Path.below` relocates an absolute path under another root, which
keeps a path taken from a kernel file inside that root.
-/

namespace ProcessMeter

/-- A path as it is written. -/
abbrev Path := Text

/-- A part of a path between slashes. -/
inductive Component where
  /-- The root, of a path with a leading slash. -/
  | root
  /-- The leading `.` of a relative path. -/
  | current
  /-- The parent, `..`. -/
  | parent
  /-- A name. -/
  | name (text : Text)
  deriving DecidableEq, Repr

/-- The component of a piece between slashes that names something. -/
def Component.ofPiece (piece : Text) : Component :=
  if piece = ['.', '.'] then .parent else .name piece

namespace Path

/-- Whether a piece between slashes names nothing: it is empty or `.`. -/
def isIdle (piece : Text) : Bool := piece == [] || piece == ['.']

/-- The components of a path: repeated slashes, trailing slashes and inner `.` do not count. -/
def components (p : Path) : List Component :=
  let pieces := Text.split '/' p
  let start : List Component :=
    match pieces with
    | [] :: _ :: _ => [.root]
    | ['.'] :: _ => [.current]
    | _ => []
  start ++ (pieces.filter fun piece => !isIdle piece).map Component.ofPiece

/-- Whether the path starts at the root. -/
def isAbsolute : Path → Bool
  | '/' :: _ => true
  | _ => false

/-- The path `rel` seen from the directory `base`. An absolute `rel` stands for itself. -/
def join (base rel : Path) : Path :=
  if isAbsolute rel then rel
  else
    match base.getLast? with
    | none => rel
    | some '/' => base ++ rel
    | some _ => base ++ '/' :: rel

/-- An absolute path without its root, nor the idle pieces at either end; a relative path as it
is. -/
def withoutRoot : Path → Path
  | '/' :: rest =>
    let pieces := (Text.split '/' rest).dropWhile isIdle
    Text.join ['/'] (pieces.reverse.dropWhile isIdle).reverse
  | relative => relative

/-- The path `p` of a host whose root file system is visible at `rootfs`. -/
def below (rootfs p : Path) : Path := join rootfs (withoutRoot p)

/-- The last name of a path; none if the path has no name or ends in `..`. -/
def fileName? (p : Path) : Option Text :=
  match ((Text.split '/' p).filter fun piece => !isIdle piece).getLast? with
  | some ['.', '.'] => none
  | last => last

/-- The path as text for people. -/
def display (p : Path) : String := String.ofList p

end Path

end ProcessMeter
