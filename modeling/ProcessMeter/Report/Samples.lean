import ProcessMeter.Process.Sample
import ProcessMeter.Report.Controllers

/-!
# Reports of processes

The documents of samples. The fields of the identity stand among those of the sample, and an empty
environment is left out; every other field is there. A sample from before the epoch has no document.
-/

namespace ProcessMeter

open Document (field optional optionalNumber optionalDecimal ofDuration ofMap ofMoment?)

/-- The document of a state: a word, or the letter of a state without one. -/
def ProcessState.document : ProcessState → Document
  | .running => .text "running".toList
  | .sleeping => .text "sleeping".toList
  | .diskSleep => .text "disk_sleep".toList
  | .zombie => .text "zombie".toList
  | .stopped => .text "stopped".toList
  | .tracingStop => .text "tracing_stop".toList
  | .dead => .text "dead".toList
  | .idle => .text "idle".toList
  | .parked => .text "parked".toList
  | .unknown letter => .object [field "unknown" (.text [letter])]

/-- The fields of an identity. -/
def ProcessIdentity.fields (p : ProcessIdentity) : List (Text × Document) := [
  field "pid" (.number p.pid), field "name" (.text p.name), field "state" p.state.document,
  field "ppid" (.number p.parent), field "pgid" (.number p.group),
  field "num_threads" (.number p.threads), field "start_time" (.number p.startTime)]

/-- The document of an identity. -/
def ProcessIdentity.document (p : ProcessIdentity) : Document := .object p.fields

/-- The document of the processor time. -/
def ProcessCpu.document (c : ProcessCpu) : Document :=
  .object [
    field "user" (ofDuration c.user), field "system" (ofDuration c.system),
    field "total" (ofDuration c.total), field "pct" (optionalDecimal c.share),
    field "norm_pct" (optionalDecimal c.hostShare)]

/-- The document of the memory. -/
def ProcessMemory.document (m : ProcessMemory) : Document :=
  .object [
    field "size" (.number m.size), field "rss" (.number m.resident),
    field "share" (.number m.shared), field "pct" (optionalDecimal m.share)]

/-- The document of the input and output. -/
def IoCounters.document (c : IoCounters) : Document :=
  .object [
    field "rchar" (.number c.readCharacters), field "wchar" (.number c.writtenCharacters),
    field "syscr" (.number c.readCalls), field "syscw" (.number c.writeCalls),
    field "read_bytes" (.number c.readBytes), field "write_bytes" (.number c.writtenBytes),
    field "cancelled_write_bytes" (.number c.cancelledBytes)]

/-- The document of the use of storage. -/
def StorageRate.document (r : StorageRate) : Document :=
  .object [field "read_bytes" (.decimal r.read), field "write_bytes" (.decimal r.written)]

/-- The document of an interface. -/
def InterfaceCounters.document (s : InterfaceCounters) : Document :=
  .object [
    field "rx_bytes" (.number s.receivedBytes), field "rx_packets" (.number s.receivedPackets),
    field "rx_errs" (.number s.receivedErrors), field "rx_drop" (.number s.receivedDropped),
    field "rx_fifo" (.number s.receivedFifo), field "rx_frame" (.number s.receivedFrame),
    field "rx_compressed" (.number s.receivedCompressed),
    field "rx_multicast" (.number s.receivedMulticast),
    field "tx_bytes" (.number s.sentBytes), field "tx_packets" (.number s.sentPackets),
    field "tx_errs" (.number s.sentErrors), field "tx_drop" (.number s.sentDropped),
    field "tx_fifo" (.number s.sentFifo), field "tx_colls" (.number s.sentCollisions),
    field "tx_carrier" (.number s.sentCarrier),
    field "tx_compressed" (.number s.sentCompressed)]

/-- The document of the network counters. -/
def NetworkCounters.document (n : NetworkCounters) : Document :=
  .object [
    field "total" n.total.document,
    field "interfaces" (ofMap InterfaceCounters.document n.interfaces)]

/-- The document of what is read of a process once its identity is known. -/
def ProcessMetrics.document (m : ProcessMetrics) : Document :=
  .object [
    field "start_time" (.number m.startTime), field "uid" (optionalNumber m.uid),
    field "cpu" m.cpu.document, field "memory" m.memory.document,
    field "io" (optional IoCounters.document m.io),
    field "network" (optional NetworkCounters.document m.network)]

/-- The document of a sample, if it was not taken before the epoch. -/
def ProcessSample.document? (s : ProcessSample) : Option Document :=
  let environment :=
    if s.environment.isEmpty then [] else [field "env" (ofMap .text s.environment)]
  (ofMoment? s.time).map fun time => .object <| s.identity.fields ++ [
    field "uid" (optionalNumber s.uid), field "cpu" s.cpu.document,
    field "memory" s.memory.document, field "args" (.list (s.arguments.map .text)),
    field "cmdline" (.text s.commandLine)] ++ environment ++ [
    field "io" (optional IoCounters.document s.io),
    field "io_rate" (optional StorageRate.document s.storageRate),
    field "network" (optional NetworkCounters.document s.network),
    field "cgroup" (optional CgroupReading.document s.cgroup),
    field "sample_time" time]

end ProcessMeter
