import ProcessMeter.Probe
import ProcessMeter.Stat.Lines

/-!
# Reading accounting files from the tree

Opening, reading and parsing fail alike with the path of the file. An optional file that does not
exist is no failure; any other trouble with it is.
-/

namespace ProcessMeter

namespace Stat

variable {α : Type}

/-- The lines of the file at a path. A directory opens, but its lines cannot be read. -/
def openLines (path : Path) : Probe PathFailure Lines := do
  let tree ← Probe.files
  match tree.openFile path with
  | .ok opened => pure (Lines.ofOpened opened)
  | .error failure => Probe.fail ⟨path, .file failure⟩

/-- Reads the file at a path with a reader that may itself look at the file tree. -/
def readWith (path : Path) (reader : Lines → Probe ReadFailure α) : Probe PathFailure α := do
  let lines ← openLines path
  (reader lines).mapFailure fun failure => ⟨path, failure⟩

/-- Reads the file at a path. -/
def read (path : Path) (reader : LineReader α) : Probe PathFailure α :=
  readWith path fun lines => Probe.ofExcept (reader lines)

/-- Reads the file at a path if it exists. -/
def readOptional (path : Path) (reader : LineReader α) : Probe PathFailure (Option α) := do
  match ← Probe.attempt (read path reader) with
  | .ok value => pure (some value)
  | .error failure => if failure.failure.isMissing then pure none else Probe.fail failure

/-- The octets of the file at a path. -/
def readBytes (path : Path) : Probe PathFailure (List UInt8) := do
  let tree ← Probe.files
  match tree.readBytes path with
  | .ok bytes => pure bytes
  | .error failure => Probe.fail ⟨path, .file failure⟩

/-- The whole text of the file at a path. -/
def readText (path : Path) : Probe PathFailure Text := do
  let tree ← Probe.files
  match tree.readText path with
  | .ok text => pure text
  | .error failure => Probe.fail ⟨path, .file failure⟩

end Stat

end ProcessMeter
