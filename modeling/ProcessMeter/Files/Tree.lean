import ProcessMeter.Files.Failure
import ProcessMeter.Files.Path
import ProcessMeter.Text.Utf8

/-!
# File trees

A file tree is what is seen of the file system at one moment: directories, files with their
octets, and symbolic links with their targets. Paths are followed as the kernel follows them,
link by link, with at most forty links on the way. Some entries are there and cannot be had: the
system answers an error number when they are opened, or when they are read.
-/

namespace ProcessMeter

/-- What a name in a directory stands for. -/
inductive Entry where
  /-- A file with its content. -/
  | file (content : List UInt8)
  /-- A directory. -/
  | directory
  /-- A symbolic link with its target as written. -/
  | link (target : Path)
  /-- What the system does not open. It answers an error number, as it does for everything below. -/
  | closed (number : Nat)
  /-- A file that opens, but reading it is answered with an error number of the system. -/
  | unreadable (number : Nat)
  deriving DecidableEq, Repr

/-- The entries below a root directory by the names that lead to them. The parents of an entry
are entries themselves. -/
structure FileTree where
  /-- The entries; the root is not listed. -/
  entries : List (List Text × Entry)
  /-- No chain of names leads to two entries. -/
  distinct : (entries.map Prod.fst).Nodup
  deriving DecidableEq, Repr

/-- An opened file: a sequence of octets, or what opens but cannot be read. -/
inductive Opened where
  /-- The octets of a file. -/
  | content (bytes : List UInt8)
  /-- A directory. -/
  | directory
  /-- A file whose reading fails. -/
  | failing (failure : FileFailure)
  deriving DecidableEq, Repr

namespace FileTree

/-- The tree with nothing below its root. -/
def empty : FileTree := ⟨[], List.nodup_nil⟩

instance : Inhabited FileTree := ⟨empty⟩

/-- The entry at the end of a chain of names, no link being followed. -/
def find? (tree : FileTree) : List Text → Option Entry
  | [] => some .directory
  | names => tree.entries.lookup names

/-- The longest name of an entry in octets. -/
def maxName : Nat := 255

/-- The length of a path in octets from which on it is refused. -/
def maxPath : Nat := 4096

/-- The most links that are followed on the way of one path. -/
def maxLinks : Nat := 40

/-- The names on the way of a path. A trailing slash asks for a directory, as a final `.` does. -/
def steps (p : Path) : List Text :=
  let names := Text.items '/' p
  if names.isEmpty then []
  else if p.getLast? = some '/' then names ++ [['.']]
  else names

/-- Follows names from the directory `at_`. `jump` goes on behind a link. -/
def walkFrom (tree : FileTree) (follow : Bool)
    (jump : List Text → List Text → Except FileFailure (List Text × Entry)) :
    (place : List Text) → List Text → Except FileFailure (List Text × Entry)
  | place, [] =>
    match tree.find? place with
    | some entry => .ok (place, entry)
    | none => .error .notFound
  | place, name :: rest =>
    match tree.find? place with
    | some .directory =>
      if name = ['.'] then walkFrom tree follow jump place rest
      else if name = ['.', '.'] then walkFrom tree follow jump place.dropLast rest
      else if maxName < Text.byteLength name then .error .nameTooLong
      else
        match tree.find? (place ++ [name]) with
        | none => .error .notFound
        | some (.link target) =>
          if rest.isEmpty && !follow then .ok (place ++ [name], .link target)
          else jump (if Path.isAbsolute target then [] else place) (steps target ++ rest)
        | some _ => walkFrom tree follow jump (place ++ [name]) rest
    | some (.closed number) => .error (.ofNumber number)
    | _ => .error .notADirectory

/-- Follows names with at most `links` links on the way. -/
def walk (tree : FileTree) (follow : Bool) :
    (links : Nat) → List Text → List Text → Except FileFailure (List Text × Entry)
  | 0 => walkFrom tree follow fun _ _ => .error .tooManyLinks
  | links + 1 => walkFrom tree follow (walk tree follow links)

/-- The place and entry that a path leads to. With `follow`, a link at its end is followed too. -/
def locate (tree : FileTree) (follow : Bool) (p : Path) :
    Except FileFailure (List Text × Entry) :=
  if p = [] then .error .notFound
  else if '\x00' ∈ p then .error .nulInPath
  else if maxPath ≤ Text.byteLength p then .error .nameTooLong
  else walk tree follow maxLinks [] (steps p)

/-- Opens the file or directory that a path leads to. -/
def openFile (tree : FileTree) (p : Path) : Except FileFailure Opened :=
  match tree.locate true p with
  | .error f => .error f
  | .ok (_, .file content) => .ok (.content content)
  | .ok (_, .closed number) => .error (.ofNumber number)
  | .ok (_, .unreadable number) => .ok (.failing (.ofNumber number))
  | .ok (_, _) => .ok .directory

/-- The octets of the file that a path leads to. -/
def readBytes (tree : FileTree) (p : Path) : Except FileFailure (List UInt8) :=
  match tree.openFile p with
  | .error f => .error f
  | .ok (.content bytes) => .ok bytes
  | .ok .directory => .error .isADirectory
  | .ok (.failing f) => .error f

/-- The text of the file that a path leads to. -/
def readText (tree : FileTree) (p : Path) : Except FileFailure Text :=
  match tree.readBytes p with
  | .error f => .error f
  | .ok bytes =>
    match Text.decode? bytes with
    | some text => .ok text
    | none => .error .notUtf8

/-- The target of the link that a path names. -/
def readLink (tree : FileTree) (p : Path) : Except FileFailure Path :=
  match tree.locate false p with
  | .error f => .error f
  | .ok (_, .link target) => .ok target
  | .ok (_, _) => .error .notALink

/-- The name of an entry right below `place`. -/
def childName? (place names : List Text) : Option Text :=
  if names.dropLast = place then names.getLast? else none

/-- The names in the directory that a path leads to. -/
def readDirectory (tree : FileTree) (p : Path) : Except FileFailure (List Text) :=
  match tree.locate true p with
  | .error f => .error f
  | .ok (place, .directory) => .ok (tree.entries.filterMap fun e => childName? place e.1)
  | .ok (_, .closed number) => .error (.ofNumber number)
  | .ok (_, _) => .error .notADirectory

/-- Whether a path leads to something; a failure other than a missing entry is no answer. -/
def existsAt (tree : FileTree) (p : Path) : Except FileFailure Bool :=
  match tree.locate true p with
  | .ok _ => .ok true
  | .error .notFound => .ok false
  | .error f => .error f

/-- The proper beginnings of a chain of names, shortest first, without the root. -/
def parents : List Text → List (List Text)
  | [] => []
  | [_] => []
  | name :: rest => [name] :: (parents rest).map (name :: ·)

/-- The tree with an entry at a chain of names that leads nowhere. -/
def append (tree : FileTree) (names : List Text) (entry : Entry)
    (h : names ∉ tree.entries.map Prod.fst) : FileTree where
  entries := tree.entries ++ [(names, entry)]
  distinct := by
    rw [List.map_append, List.map_singleton, List.nodup_append]
    refine ⟨tree.distinct, by simp, ?_⟩
    intro place hplace other hother heq
    rw [heq, List.mem_singleton.mp hother] at hplace
    exact h hplace

/-- The tree without the entry at `names` and everything below it. -/
def remove (tree : FileTree) (names : List Text) : FileTree where
  entries := tree.entries.filter fun e => !names.isPrefixOf e.1
  distinct := tree.distinct.sublist (List.filter_sublist.map _)

/-- Nothing is left at names that were removed. -/
theorem not_mem_remove (tree : FileTree) (names : List Text) :
    names ∉ (tree.remove names).entries.map Prod.fst := by
  simp [remove]

/-- Names where nothing is found lead nowhere. -/
theorem not_mem_of_find?_eq_none {tree : FileTree} {names : List Text}
    (h : tree.find? names = none) : names ∉ tree.entries.map Prod.fst := by
  intro hmem
  obtain ⟨e, he, rfl⟩ := List.mem_map.mp hmem
  cases hnames : e.1 with
  | nil => simp [find?, hnames] at h
  | cons name rest =>
    simp only [find?, hnames, List.lookup_eq_none_iff] at h
    simpa [hnames] using h e he

/-- The tree with a directory at `names`, unless there is something already. -/
def addDirectory (tree : FileTree) (names : List Text) : FileTree :=
  match h : tree.find? names with
  | some _ => tree
  | none => tree.append names .directory (not_mem_of_find?_eq_none h)

/-- The tree with `entry` at `names` in place of what was there, parents being created. A
directory keeps what it already holds. -/
def put (tree : FileTree) (names : List Text) (entry : Entry) : FileTree :=
  let tree := (parents names).foldl addDirectory tree
  match entry with
  | .directory => tree.addDirectory names
  | _ => (tree.remove names).append names entry (tree.not_mem_remove names)

end FileTree

end ProcessMeter
