import ProcessMeter.Host
import ProcessMeter.Process.Identity
import ProcessMeter.Stat.Scalar
import ProcessMeter.Text.Map

/-!
# Files of a process

The directory of a process holds its state and times on one line, its memory in pages, its
counters of input and output, and its command line and environment as blocks of octets.
-/

namespace ProcessMeter

/-- The line with the state and times of a process. -/
structure ProcessRecord where
  /-- The name. -/
  name : Text
  /-- What the process is doing. -/
  state : ProcessState
  /-- The number of the parent. -/
  parent : Nat
  /-- The number of the group. -/
  group : Nat
  /-- The clock ticks in user mode. -/
  userTicks : Nat
  /-- The clock ticks in kernel mode. -/
  systemTicks : Nat
  /-- The number of threads. -/
  threads : Nat
  /-- The time of the start. -/
  startTime : Nat
  deriving DecidableEq, Repr

namespace ProcessRecord

/-- The text before and behind the last occurrence of `separator`. -/
def cutLast (separator : Char) (t : Text) : Option (Text × Text) :=
  (Text.cut separator t.reverse).map fun (behind, before) => (before.reverse, behind.reverse)

/-- The name, and the text behind it. The name stands between the first opening and the last
closing parenthesis, so it may hold parentheses itself. -/
def splitName? (content : Text) : Option (Text × Text) :=
  match Text.cut '(' content with
  | none => none
  | some (_, inside) => cutLast ')' inside

/-- How many fields must follow the name. -/
def leastFields : Nat := 20

/-- A field behind the name by its place. -/
def field (fields : List Text) (place : Nat) : Text := (fields[place]?).getD []

/-- Reads the line. Of the numbers that are no numbers, the first in the order below is
reported. -/
def read (text : Text) : Except StatError ProcessRecord :=
  let content := Text.trimEnd text
  match splitName? content with
  | none => .error (.unexpectedFormat content 1)
  | some (name, rest) =>
    let fields := Text.words rest
    match fields with
    | (letter :: _) :: _ =>
      if fields.length < leastFields then .error (.unexpectedFormat content 1)
      else do
        let parent ← Scalar.number32 1 (field fields 1)
        let group ← Scalar.number32 1 (field fields 2)
        let userTicks ← Scalar.number 1 (field fields 11)
        let systemTicks ← Scalar.number 1 (field fields 12)
        let threads ← Scalar.number 1 (field fields 17)
        let startTime ← Scalar.number 1 (field fields 19)
        pure {
          name, state := .ofLetter letter, parent, group, userTicks, systemTicks, threads
          startTime }
    | _ => .error (.unexpectedFormat content 1)

end ProcessRecord

/-- The memory of a process in octets. -/
structure PageCounts where
  /-- The size of its address space. -/
  size : Nat
  /-- What of it is in memory. -/
  resident : Nat
  /-- What of that is shared. -/
  shared : Nat
  deriving DecidableEq, Repr

namespace PageCounts

/-- Reads at most three numbers; there have to be three. -/
def readLine (units : HostUnits) (line : Text) : Except StatError PageCounts := do
  let words := (Text.words line).take 3
  let pages ← words.mapM (Scalar.number 1)
  match pages with
  | [size, resident, shared] =>
    pure {
      size := Host.scaled size units.pageSize
      resident := Host.scaled resident units.pageSize
      shared := Host.scaled shared units.pageSize }
  | _ => .error (.unexpectedFormat (Text.trim line) 1)

/-- Reads the counts of pages from the first line. -/
def readLines (units : HostUnits) : LineReader PageCounts := Scalar.readFirst (readLine units)

end PageCounts

/-- The owner of a process. -/
structure ProcessOwner where
  /-- The number of the user, if it is a 32-bit number. -/
  uid : Option Nat
  deriving DecidableEq, Repr

namespace ProcessOwner

/-- The key of the owner; the first of its values counts. -/
def table : KeyTable ProcessOwner where
  fields := [("Uid:".toList, fun v _ => ⟨if v ≤ Numeral.max32 then some v else none⟩)]

/-- Reads the owner. -/
def readLines : LineReader ProcessOwner := table.read ⟨none⟩

end ProcessOwner

/-- The input and output of a process. -/
structure IoCounters where
  /-- The octets that it asked to read, from caches too. -/
  readCharacters : Nat
  /-- The octets that it asked to write. -/
  writtenCharacters : Nat
  /-- How often it asked to read. -/
  readCalls : Nat
  /-- How often it asked to write. -/
  writeCalls : Nat
  /-- The octets read from devices. -/
  readBytes : Nat
  /-- The octets written to devices. -/
  writtenBytes : Nat
  /-- The octets that were dropped before they were written. -/
  cancelledBytes : Nat
  deriving DecidableEq, Repr

namespace IoCounters

/-- The counters before anything is read. -/
def zero : IoCounters := ⟨0, 0, 0, 0, 0, 0, 0⟩

/-- The keys of the counters. -/
def table : KeyTable IoCounters where
  fields := [
    ("rchar:".toList, fun v s => { s with readCharacters := v }),
    ("wchar:".toList, fun v s => { s with writtenCharacters := v }),
    ("syscr:".toList, fun v s => { s with readCalls := v }),
    ("syscw:".toList, fun v s => { s with writeCalls := v }),
    ("read_bytes:".toList, fun v s => { s with readBytes := v }),
    ("write_bytes:".toList, fun v s => { s with writtenBytes := v }),
    ("cancelled_write_bytes:".toList, fun v s => { s with cancelledBytes := v })]

/-- Reads the counters. -/
def readLines : LineReader IoCounters := table.read zero

end IoCounters

namespace ProcessBlock

/-- The arguments in a command line block: the non-empty pieces between octets zero. -/
def arguments (block : List UInt8) : List Text :=
  ((Text.splitBytes 0 block).filter fun piece => !piece.isEmpty).map Text.decodeLossy

/-- The variables in an environment block whose name satisfies `keep`. Pieces without `=` do not
count, and of several values for one name the last does. -/
def environment (block : List UInt8) (keep : Text → Bool) : TextMap Text :=
  .ofList <| (Text.splitBytes 0 block).filterMap fun piece =>
    match Text.cut '=' (Text.decodeLossy piece) with
    | some (name, value) => if keep name then some (name, value) else none
    | none => none

end ProcessBlock

end ProcessMeter
