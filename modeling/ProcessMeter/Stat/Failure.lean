import ProcessMeter.Files.Failure
import ProcessMeter.Files.Path
import ProcessMeter.Number.Double

/-!
# Refused accounting files

A file is refused either because the system does not deliver its content, or because the content
does not follow the format. A complaint about the content names what it is about: the key, the
value, the line.
-/

namespace ProcessMeter

/-- What is wrong with the content of an accounting file. -/
inductive StatError where
  /-- A key occurs twice where it may occur once. -/
  | duplicateField (field : Text) (line : Nat)
  /-- The value of a key is no 64-bit number. -/
  | invalidKeyValue (key value : Text) (line : Nat) (cause : NumeralError)
  /-- A value without a key is no number of its range. -/
  | invalidValue (value : Text) (line : Nat) (cause : NumeralError)
  /-- The value of a key is no decimal. -/
  | invalidFloat (key value : Text) (line : Nat) (cause : DecimalError)
  /-- A block device is not given by two 32-bit numbers. -/
  | invalidDevice (value : Text) (line : Nat)
  /-- A field that has to occur is missing. -/
  | missingField (field : Text)
  /-- A line has none of the known shapes. -/
  | unexpectedFormat (content : Text) (line : Nat)
  deriving DecidableEq, Repr

/-- The wording of the complaint. -/
def StatError.message : StatError → String
  | .duplicateField field line => s!"duplicate field '{String.ofList field}' at line {line}"
  | .invalidKeyValue key value line cause =>
    s!"invalid value for '{String.ofList key}' at line {line}: '{String.ofList value}': " ++
      cause.message
  | .invalidValue value line cause =>
    s!"invalid value at line {line}: '{String.ofList value}': " ++ cause.message
  | .invalidFloat key value line cause =>
    s!"invalid decimal for '{String.ofList key}' at line {line}: '{String.ofList value}': " ++
      cause.message
  | .invalidDevice value line => s!"invalid device id at line {line}: '{String.ofList value}'"
  | .missingField field => s!"missing field '{String.ofList field}'"
  | .unexpectedFormat content line =>
    s!"unexpected format at line {line}: '{String.ofList content}'"

/-- Why an accounting file yields no value. -/
inductive ReadFailure where
  /-- The system does not deliver the content. -/
  | file (failure : FileFailure)
  /-- The content is malformed. -/
  | malformed (error : StatError)
  deriving DecidableEq, Repr

namespace ReadFailure

/-- The wording of the failure. -/
def message : ReadFailure → String
  | .file failure => failure.message
  | .malformed error => error.message

/-- Whether the file does not exist. -/
def isMissing : ReadFailure → Bool
  | .file failure => failure.isMissing
  | .malformed _ => false

/-- Whether the system does not support reading the file. -/
def isUnsupported : ReadFailure → Bool
  | .file failure => failure.isUnsupported
  | .malformed _ => false

/-- Whether the file or its process is gone. -/
def isGone : ReadFailure → Bool
  | .file failure => failure.isGone
  | .malformed _ => false

end ReadFailure

/-- A read failure together with the path of the file. -/
structure PathFailure where
  /-- The path that was read. -/
  path : Path
  /-- Why it yields no value. -/
  failure : ReadFailure
  deriving DecidableEq, Repr

namespace PathFailure

/-- The wording of the failure. -/
def message (f : PathFailure) : String :=
  s!"failed to read file `{Path.display f.path}`: " ++ f.failure.message

/-- Whether the file or its process is gone. -/
def isGone (f : PathFailure) : Bool := f.failure.isGone

/-- Whether the file was there and its content is malformed. -/
def isMalformed (f : PathFailure) : Bool :=
  match f.failure with
  | .malformed _ => true
  | .file _ => false

end PathFailure

end ProcessMeter
