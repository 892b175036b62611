import ProcessMeter.Stat.Failure
import ProcessMeter.Files.Tree

/-!
# Lines of accounting files

A file is read line by line, and each line is decoded when its turn comes. So a line that is not
UTF-8 is a failure only for a reader that gets as far, and complaints about earlier lines come
first.
-/

namespace ProcessMeter

/-- The lines of an opened file in order, each with the line feed that ends it, or the failure
to read it. -/
abbrev Lines := List (Except FileFailure Text)

namespace Lines

/-- The octets of each line, line feeds included. -/
def splitBytes : List UInt8 → List (List UInt8)
  | [] => []
  | b :: rest =>
    if b = 0x0A then [b] :: splitBytes rest
    else
      match splitBytes rest with
      | [] => [[b]]
      | line :: lines => (b :: line) :: lines

/-- A line as text. -/
def decodeLine (bytes : List UInt8) : Except FileFailure Text :=
  match Text.decode? bytes with
  | some text => .ok text
  | none => .error .notUtf8

/-- The lines of a sequence of octets. -/
def ofBytes (bytes : List UInt8) : Lines := (splitBytes bytes).map decodeLine

/-- The lines of a text. -/
def ofText (t : Text) : Lines := (Text.rawLines t).map .ok

/-- The lines of an opened file. Reading what cannot be read fails at once. -/
def ofOpened : Opened → Lines
  | .content bytes => ofBytes bytes
  | .directory => [.error .isADirectory]
  | .failing failure => [.error failure]

/-- The first line, empty for an empty file. -/
def first : Lines → Except FileFailure Text
  | [] => .ok []
  | line :: _ => line

/-- Carries a state through the lines. `step` gets the number of the line, counted from
`number`, and its text; `unreadable` says how a line that cannot be read fails. -/
def carry {m : Type → Type} [Monad m] {σ : Type} (unreadable : FileFailure → m σ)
    (step : Nat → Text → σ → m σ) : (number : Nat) → σ → Lines → m σ
  | _, state, [] => pure state
  | _, _, .error failure :: _ => unreadable failure
  | number, state, .ok text :: rest => do
    let state ← step number text state
    carry unreadable step (number + 1) state rest

end Lines

/-- A reader of accounting files: it turns lines into a value or says why not. -/
abbrev LineReader (α : Type) := Lines → Except ReadFailure α

/-- Carries a state through all lines of a file from line 1 on. -/
def Lines.foldLines {σ : Type} (step : Nat → Text → σ → Except StatError σ) (state : σ) :
    LineReader σ := fun lines =>
  Lines.carry (fun failure => .error (.file failure))
    (fun number text state =>
      match step number text state with
      | .ok state => .ok state
      | .error error => .error (.malformed error))
    1 state lines

end ProcessMeter
