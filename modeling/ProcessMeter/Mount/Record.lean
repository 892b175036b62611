import ProcessMeter.Files.Path
import ProcessMeter.Text.Utf8

/-!
# Mount records

A line of a mount table describes one mount: fields before the separator ` - `, with a free
number of optional ones at their end, and three fields behind it. The kernel writes a backslash
and three octal digits for the characters that would break the line up; `Text.decodeEscapes` undoes
that.
-/

namespace ProcessMeter

namespace Text

/-- The value of an octal digit. -/
def octalDigit? (b : UInt8) : Option Nat :=
  if 0x30 ≤ b ∧ b ≤ 0x37 then some (b.toNat - 0x30) else none

/-- The octet that three octal digits stand for. -/
def octalByte? (x y z : UInt8) : Option UInt8 :=
  match octalDigit? x, octalDigit? y, octalDigit? z with
  | some x, some y, some z =>
    let value := (x * 8 + y) * 8 + z
    if value < 256 then some (UInt8.ofNat value) else none
  | _, _, _ => none

/-- The octets with every backslash and its three octal digits replaced by the octet meant. Any
other backslash stands for itself. -/
def decodeEscapedBytes : List UInt8 → List UInt8
  | [] => []
  | b :: rest =>
    if b = 0x5C then
      match rest with
      | x :: y :: z :: behind =>
        match octalByte? x y z with
        | some value => value :: decodeEscapedBytes behind
        | none => b :: decodeEscapedBytes (x :: y :: z :: behind)
      | few => b :: decodeEscapedBytes few
    else b :: decodeEscapedBytes rest

/-- The text with its octal escapes decoded. -/
def decodeEscapes (t : Text) : Text :=
  if '\\' ∈ t then decodeLossy (decodeEscapedBytes (encode t)) else t

end Text

/-- The required fields of a mount record. -/
inductive MountField where
  | mountId
  | parentId
  | device
  | root
  | mountPoint
  | fileSystem
  | source
  | superOptions
  deriving DecidableEq, Repr

/-- The name of the field. -/
def MountField.name : MountField → String
  | .mountId => "mount_id"
  | .parentId => "parent_id"
  | .device => "major:minor"
  | .root => "root"
  | .mountPoint => "mount_point"
  | .fileSystem => "fs_type"
  | .source => "source"
  | .superOptions => "super_options"

/-- What is wrong with a line of a mount table. -/
inductive MountLineError where
  /-- The line has no separator. -/
  | noSeparator (line : Text)
  /-- A field is missing before the separator. -/
  | missingBefore (field : MountField) (line : Text)
  /-- A field is missing behind the separator. -/
  | missingBehind (field : MountField) (line : Text)
  deriving DecidableEq, Repr

/-- The wording of the complaint. -/
def MountLineError.message : MountLineError → String
  | .noSeparator line => s!"missing separator ` - ` in line: `{String.ofList line}`"
  | .missingBefore field line =>
    s!"missing `{field.name}` in pre-separator section of line: `{String.ofList line}`"
  | .missingBehind field line =>
    s!"missing `{field.name}` in post-separator section of line: `{String.ofList line}`"

/-- One mount. The paths are as written, escapes included. -/
structure MountRecord where
  /-- The number of the mount. -/
  mountId : Text
  /-- The number of the mount that it is mounted in. -/
  parentId : Text
  /-- The device, as major and minor number. -/
  device : Text
  /-- The directory of the file system that is mounted. -/
  root : Text
  /-- Where it is mounted. -/
  mountPoint : Text
  /-- The mount options, and the optional fields behind them. -/
  optionalFields : List Text
  /-- The type of the file system. -/
  fileSystem : Text
  /-- What is mounted. -/
  source : Text
  /-- The options of the file system. -/
  superOptions : Text
  deriving DecidableEq, Repr

namespace MountRecord

/-- The mounted directory with its escapes decoded. -/
def decodedRoot (record : MountRecord) : Text := Text.decodeEscapes record.root

/-- The mount point with its escapes decoded. -/
def decodedMountPoint (record : MountRecord) : Path := Text.decodeEscapes record.mountPoint

/-- The options of the file system one by one. -/
def optionList (record : MountRecord) : List Text := Text.items ',' record.superOptions

/-- The text between the two halves of a line. -/
def separator : Text := " - ".toList

/-- Reads one line of a mount table. The first missing field is named. -/
def read (line : Text) : Except MountLineError MountRecord :=
  match Text.cutText separator line with
  | none => .error (.noSeparator line)
  | some (before, behind) =>
    match Text.words before with
    | mountId :: parentId :: device :: root :: mountPoint :: optionalFields =>
      match Text.words behind with
      | fileSystem :: source :: superOptions :: _ =>
        .ok { mountId, parentId, device, root, mountPoint, optionalFields, fileSystem, source,
              superOptions }
      | [_, _] => .error (.missingBehind .superOptions line)
      | [_] => .error (.missingBehind .source line)
      | [] => .error (.missingBehind .fileSystem line)
    | [_, _, _, _] => .error (.missingBefore .mountPoint line)
    | [_, _, _] => .error (.missingBefore .root line)
    | [_, _] => .error (.missingBefore .device line)
    | [_] => .error (.missingBefore .parentId line)
    | [] => .error (.missingBefore .mountId line)

end MountRecord

end ProcessMeter
