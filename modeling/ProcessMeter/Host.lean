import ProcessMeter.Stat.KeyValue
import ProcessMeter.Stat.File

/-!
# The host

Facts about the whole machine that turn counters into shares: the unit of processor times, the
size of a memory page, the physical memory and the number of processors.
-/

namespace ProcessMeter

/-- The units in which the kernel of a host counts. They stay the same while it runs. -/
structure HostUnits where
  /-- Clock ticks per second, the unit in which the kernel reports processor times. -/
  clockRate : Nat
  /-- The size of a memory page in octets. -/
  pageSize : Nat
  /-- A second has more than one tick, so two counters of ticks together are at most as many seconds
  as one counter holds. -/
  two_le_clockRate : 2 ≤ clockRate
  /-- A tick is a nanosecond or longer. -/
  clockRate_le : clockRate ≤ nanosPerSecond
  /-- There are no empty pages. -/
  pageSize_pos : 0 < pageSize
  deriving DecidableEq, Repr

namespace HostUnits

/-- The units of nearly every host, which are also assumed of one that does not tell. -/
def usual : HostUnits := ⟨100, 4096, by decide, by decide, by decide⟩

/-- The span of a number of clock ticks. -/
def ticks (units : HostUnits) (n : Nat) : Duration := .ofTicks units.clockRate n

end HostUnits

namespace Host

/-- A counter multiplied, or the largest counter if the product is out of range. -/
def scaled (n factor : Nat) : Nat := min (n * factor) Numeral.max64

/-- The physical memory in octets. -/
structure Memory where
  /-- All of it. -/
  total : Nat
  /-- What can be used without swapping. -/
  available : Nat
  deriving DecidableEq, Repr

/-- The keys of the memory file; its values are in units of 1024 octets. -/
def Memory.table : KeyTable Memory where
  fields := [
    ("MemTotal:".toList, fun v m => { m with total := scaled v 1024 }),
    ("MemAvailable:".toList, fun v m => { m with available := scaled v 1024 })]

/-- Reads the memory file. -/
def Memory.readLines : LineReader Memory := table.read ⟨0, 0⟩

/-- Reads the physical memory, which is never zero. -/
def readMemoryTotal : LineReader Nat := fun lines =>
  match Memory.readLines lines with
  | .error failure => .error failure
  | .ok memory =>
    if memory.total = 0 then .error (.malformed (.missingField "MemTotal".toList))
    else .ok memory.total

/-- Whether a line is about one processor: it starts with `cpu` and a digit. -/
def isProcessorLine (line : Text) : Bool :=
  match Text.dropStart? "cpu".toList line with
  | some (c :: _) => (Numeral.digit? c).isSome
  | _ => false

/-- The number of lines about processors, with one more line. -/
def countLine (line : Text) (n : Nat) : Nat := if isProcessorLine line then n + 1 else n

/-- Reads the number of processors, which is never zero. -/
def readProcessorCount : LineReader Nat := fun lines =>
  match Lines.foldLines (fun _ line n => .ok (countLine line n)) 0 lines with
  | .error failure => .error failure
  | .ok 0 => .error (.malformed (.missingField "cpu0".toList))
  | .ok n => .ok n

/-- The physical memory of the host whose root file system is at `rootfs`. -/
def memoryTotal (rootfs : Path) : Probe PathFailure Nat :=
  Stat.read (Path.below rootfs "/proc/meminfo".toList) readMemoryTotal

/-- The number of processors of the host whose root file system is at `rootfs`. -/
def processorCount (rootfs : Path) : Probe PathFailure Nat :=
  Stat.read (Path.below rootfs "/proc/stat".toList) readProcessorCount

end Host

end ProcessMeter
