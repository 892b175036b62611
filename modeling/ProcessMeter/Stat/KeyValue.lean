import ProcessMeter.Stat.Lines

/-!
# Files of keys and values

Most accounting files list keys with 64-bit values. A `KeyFormat` says how keys and values stand
on a line, a `KeyTable` what each known key does to the record that is being read. Pairs are
taken in the order of the file, and the first offending pair decides the complaint.
-/

namespace ProcessMeter

/-- How keys and values are laid out. -/
structure KeyFormat where
  /-- The character that joins a key and its value; without one they are words of their own. -/
  separator : Option Char
  /-- The number of lines at the start of the file that hold no pairs. -/
  headerLines : Nat
  /-- The number of words at the start of each line that hold no pairs. -/
  headerWords : Nat
  /-- Whether a key may occur more than once. -/
  repeats : Bool
  /-- Whether a line holds more than one pair. -/
  manyPerLine : Bool
  deriving DecidableEq, Repr

namespace KeyFormat

/-- One pair of words on a line, each key at most once. -/
def plain : KeyFormat where
  separator := none
  headerLines := 0
  headerWords := 0
  repeats := false
  manyPerLine := false

/-- Words taken two by two, an odd last word being left out. -/
def couples : List Text → List (Text × Text)
  | key :: value :: rest => (key, value) :: couples rest
  | _ => []

/-- The pairs on a line in order. -/
def pairs (format : KeyFormat) (line : Text) : List (Text × Text) :=
  let words := (Text.words line).drop format.headerWords
  match format.separator with
  | some c => (if format.manyPerLine then words else words.take 1).filterMap (Text.cut c)
  | none => if format.manyPerLine then couples words else (couples words).take 1

end KeyFormat

/-- The known keys of a file and what their values do to the record `σ`. -/
structure KeyTable (σ : Type) where
  /-- The layout of the file. -/
  format : KeyFormat := .plain
  /-- The known keys, each with its effect on the record. -/
  fields : List (Text × (Nat → σ → σ))
  /-- What happens to an unknown key with its value and line. -/
  unknown : Text → Text → Nat → Except StatError Unit := fun _ _ _ => .ok ()

namespace KeyTable

variable {σ : Type}

/-- The known keys seen so far, and the record read so far. -/
structure Progress (σ : Type) where
  /-- The known keys that occurred, latest first. -/
  seen : List Text
  /-- The record. -/
  record : σ

/-- Takes one pair in. The value of a known key is read before it is asked whether the key
occurred already. -/
def take (table : KeyTable σ) (line : Nat) (progress : Progress σ) (pair : Text × Text) :
    Except StatError (Progress σ) :=
  match table.fields.lookup pair.1 with
  | none =>
    match table.unknown pair.1 pair.2 line with
    | .ok () => .ok progress
    | .error error => .error error
  | some effect =>
    match Numeral.read64 pair.2 with
    | .error cause => .error (.invalidKeyValue pair.1 pair.2 line cause)
    | .ok value =>
      if progress.seen.contains pair.1 then
        if table.format.repeats then .ok ⟨progress.seen, effect value progress.record⟩
        else .error (.duplicateField pair.1 line)
      else .ok ⟨pair.1 :: progress.seen, effect value progress.record⟩

/-- Takes pairs in, one after the other. -/
def takeAll (table : KeyTable σ) (line : Nat) :
    Progress σ → List (Text × Text) → Except StatError (Progress σ)
  | progress, [] => .ok progress
  | progress, pair :: rest =>
    match table.take line progress pair with
    | .ok progress => takeAll table line progress rest
    | .error error => .error error

/-- Whether nothing is left to read: every key occurred and none may repeat. -/
def isComplete (table : KeyTable σ) (progress : Progress σ) : Bool :=
  !table.format.repeats && progress.seen.length == table.fields.length

/-- Reads lines from line `line` on until the file ends or nothing is left to read. -/
def readFrom (table : KeyTable σ) : (line : Nat) → Progress σ → LineReader σ
  | _, progress, [] => .ok progress.record
  | _, _, .error failure :: _ => .error (.file failure)
  | line, progress, .ok text :: rest =>
    match table.takeAll line progress (table.format.pairs text) with
    | .error error => .error (.malformed error)
    | .ok progress =>
      if table.isComplete progress then .ok progress.record
      else readFrom table (line + 1) progress rest

/-- Passes over the header, whose lines must be readable but are not counted. -/
def skipHeader : Nat → Lines → Except ReadFailure Lines
  | 0, lines => .ok lines
  | _ + 1, [] => .ok []
  | _ + 1, .error failure :: _ => .error (.file failure)
  | n + 1, .ok _ :: rest => skipHeader n rest

/-- Reads a file into a record that starts as `fresh`. -/
def read (table : KeyTable σ) (fresh : σ) : LineReader σ := fun lines =>
  match skipHeader table.format.headerLines lines with
  | .error failure => .error failure
  | .ok lines => table.readFrom 1 ⟨[], fresh⟩ lines

end KeyTable

end ProcessMeter
