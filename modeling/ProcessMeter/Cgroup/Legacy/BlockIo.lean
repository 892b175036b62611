import ProcessMeter.Cgroup.BlockDevice
import ProcessMeter.Cgroup.IoCount
import ProcessMeter.Stat.Scalar
import ProcessMeter.Stat.File
import ProcessMeter.Text.Map

/-!
# Block devices of version 1

The `blkio` subsystem has one file for octets and one for operations, each with a line for every
device and operation. The two are merged by the name of the device.
-/

namespace ProcessMeter

namespace Legacy

/-- One column of figures for a device: octets in one file, operations in the other. -/
structure DeviceColumn where
  /-- The figure of the operation `Read`. -/
  read : Nat
  /-- The figure of the operation `Write`. -/
  write : Nat
  /-- The figure of the line `Total` of the device. -/
  total : Nat
  deriving DecidableEq, Repr

namespace DeviceColumn

/-- The column before anything is read. -/
def zero : DeviceColumn := ⟨0, 0, 0⟩

/-- The column with the figure of one operation. Other operations do not count. -/
def withOperation (operation : Text) (figure : Nat) (column : DeviceColumn) : DeviceColumn :=
  if operation = "Read".toList then { column with read := figure }
  else if operation = "Write".toList then { column with write := figure }
  else if operation = "Total".toList then { column with total := figure }
  else column

/-- What a line of a throttle file says. -/
inductive Line where
  /-- Nothing about a device: it is blank or gives the grand total. -/
  | idle
  /-- A figure of a device. -/
  | figure (device : BlockDevice) (operation : Text) (value : Nat)

/-- Reads one line. -/
def readLine (number : Nat) (text : Text) : Except StatError Line :=
  match Text.words text with
  | [] => .ok .idle
  | [first, _] =>
    if first = "Total".toList then .ok .idle
    else .error (.unexpectedFormat (Text.trimEnd text) number)
  | [device, operation, value] =>
    match BlockDevice.read? device with
    | none => .error (.invalidDevice device number)
    | some device =>
      match Scalar.number number value with
      | .error error => .error error
      | .ok value => .ok (.figure device operation value)
  | _ => .error (.unexpectedFormat (Text.trimEnd text) number)

/-- Takes in one line of a throttle file. -/
def takeLine (nameOf : BlockDevice → Probe ReadFailure Text) (number : Nat) (text : Text)
    (columns : TextMap DeviceColumn) : Probe ReadFailure (TextMap DeviceColumn) :=
  match readLine number text with
  | .error error => Probe.fail (.malformed error)
  | .ok .idle => pure columns
  | .ok (.figure device operation value) => do
    let name ← nameOf device
    pure (columns.update name zero (withOperation operation value))

/-- Reads a throttle file into one column for each name of a device. -/
def readLines (nameOf : BlockDevice → Probe ReadFailure Text) (lines : Lines) :
    Probe ReadFailure (TextMap DeviceColumn) :=
  Lines.carry (fun failure => Probe.fail (.file failure)) (takeLine nameOf) 1 .empty lines

end DeviceColumn

/-- The throttled input and output of one device. -/
structure BlockIoDevice where
  /-- What was read. -/
  read : IoCount
  /-- What was written. -/
  write : IoCount
  /-- What was moved in all. -/
  total : IoCount
  deriving DecidableEq, Repr

namespace BlockIoDevice

/-- Nothing moved. -/
def zero : BlockIoDevice := ⟨.zero, .zero, .zero⟩

/-- The device with its octets. -/
def withBytes (column : DeviceColumn) (device : BlockIoDevice) : BlockIoDevice where
  read := { device.read with bytes := column.read }
  write := { device.write with bytes := column.write }
  total := { device.total with bytes := column.total }

/-- The device with its operations. -/
def withOperations (column : DeviceColumn) (device : BlockIoDevice) : BlockIoDevice where
  read := { device.read with operations := column.read }
  write := { device.write with operations := column.write }
  total := { device.total with operations := column.total }

end BlockIoDevice

/-- The `blkio` subsystem of a cgroup. -/
structure BlockIo where
  /-- The sum of the totals of all devices. -/
  total : IoCount
  /-- The devices by name. -/
  devices : TextMap BlockIoDevice
  deriving DecidableEq, Repr

namespace BlockIo

/-- The devices of both files. -/
def merge (bytes operations : TextMap DeviceColumn) : TextMap BlockIoDevice :=
  let withBytes := bytes.entries.foldl
    (fun devices (name, column) => devices.update name .zero (.withBytes column)) .empty
  operations.entries.foldl
    (fun devices (name, column) => devices.update name .zero (.withOperations column)) withBytes

/-- The sum of the totals of the devices. -/
def grandTotal (devices : TextMap BlockIoDevice) : IoCount where
  bytes := devices.total fun d => d.total.bytes
  operations := devices.total fun d => d.total.operations

/-- Reads the `blkio` subsystem in a cgroup directory. Both files must be there. A grand total
that is no 64-bit number overflows. -/
def read (directory : Path) (names : DeviceDirectory) : Probe PathFailure BlockIo := do
  let file (name : String) := Path.join directory name.toList
  let bytes ← Stat.readWith (file "blkio.throttle.io_service_bytes")
    (DeviceColumn.readLines names.name)
  let operations ← Stat.readWith (file "blkio.throttle.io_serviced")
    (DeviceColumn.readLines names.name)
  let devices := merge bytes operations
  let total := grandTotal devices
  if total.bytes ≤ Numeral.max64 && total.operations ≤ Numeral.max64 then
    pure { total, devices }
  else Probe.overflow

end BlockIo

end Legacy

end ProcessMeter
