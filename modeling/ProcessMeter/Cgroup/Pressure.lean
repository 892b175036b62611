import ProcessMeter.Stat.Scalar
import ProcessMeter.Stat.File

/-!
# Pressure

A pressure file says for how much of the time tasks waited for a resource: some of them, or all
of them at once. The averages are percentages, the total is a span of time.
-/

namespace ProcessMeter

/-- The figures of one kind of waiting. -/
structure Stall where
  /-- The share of the last ten seconds. -/
  average10 : Double
  /-- The share of the last minute. -/
  average60 : Double
  /-- The share of the last five minutes. -/
  average300 : Double
  /-- The time waited in all. -/
  total : Duration
  deriving DecidableEq, Repr

/-- The content of a pressure file. -/
structure Pressure where
  /-- Some tasks waited. -/
  some : Stall
  /-- All tasks waited. -/
  full : Option Stall
  deriving DecidableEq, Repr

/-- No waiting. -/
def Stall.none : Stall := ⟨.zero, .zero, .zero, .zero⟩

namespace Pressure

/-- A percentage on the given line. -/
def average (line : Nat) (key value : Text) : Except StatError Double :=
  match Double.read value with
  | .ok x => .ok x
  | .error cause => .error (.invalidFloat key value line cause)

/-- Takes in one word of a line. Words without `=` and unknown keys do not count. -/
def takeWord (line : Nat) (stall : Stall) (word : Text) : Except StatError Stall :=
  match Text.cut '=' word with
  | .none => .ok stall
  | .some (key, value) =>
    if key = "avg10".toList then
      (average line key value).map fun x => { stall with average10 := x }
    else if key = "avg60".toList then
      (average line key value).map fun x => { stall with average60 := x }
    else if key = "avg300".toList then
      (average line key value).map fun x => { stall with average300 := x }
    else if key = "total".toList then
      (Scalar.number line value).map fun n => { stall with total := .ofMicros n }
    else .ok stall

/-- Takes in the words of a line in order. -/
def takeWords (line : Nat) : Stall → List Text → Except StatError Stall
  | stall, [] => .ok stall
  | stall, word :: rest =>
    match takeWord line stall word with
    | .ok stall => takeWords line stall rest
    | .error error => .error error

/-- The latest line of each kind. -/
structure Progress where
  /-- The latest `some` line. -/
  some : Option Stall
  /-- The latest `full` line. -/
  full : Option Stall

/-- Takes in one line. Blank lines do not count. -/
def takeLine (line : Nat) (text : Text) (progress : Progress) : Except StatError Progress :=
  match Text.words text with
  | [] => .ok progress
  | kind :: words =>
    if kind = "some".toList then
      (takeWords line .none words).map fun stall => { progress with some := .some stall }
    else if kind = "full".toList then
      (takeWords line .none words).map fun stall => { progress with full := .some stall }
    else .error (.unexpectedFormat (Text.trimEnd text) line)

/-- Reads a pressure file. -/
def readLines : LineReader Pressure := fun lines =>
  match Lines.foldLines takeLine ⟨.none, .none⟩ lines with
  | .error failure => .error failure
  | .ok progress =>
    match progress.some with
    | .some stall => .ok ⟨stall, progress.full⟩
    | .none => .error (.malformed (.missingField "some".toList))

/-- Reads the pressure file at a path, if the kernel offers one. A kernel that was told not to
account for pressure offers the file but does not support reading it. -/
def read (path : Path) : Probe PathFailure (Option Pressure) := do
  match ← Probe.attempt (Stat.readOptional path readLines) with
  | .ok (.some pressure) => pure (.some pressure)
  | .ok .none =>
    Probe.log .debug s!"{Path.display path} does not exist. Skipping."
    pure .none
  | .error failure =>
    if failure.failure.isUnsupported then
      Probe.log .debug s!"pressure accounting disabled, skipping {Path.display failure.path}"
      pure .none
    else Probe.fail failure

end Pressure

end ProcessMeter
