import ProcessMeter.Process.Failure
import ProcessMeter.Process.NameFilter
import ProcessMeter.Process.Sample

/-!
# Process tables

A process table answers questions about the processes of a host. Whether it reads the files of a
running kernel or a list held in memory makes no difference to who asks.
-/

namespace ProcessMeter

/-- What answers questions about processes. -/
structure ProcessTable where
  /-- The numbers of all processes in ascending order. -/
  pids : Probe ProcessFailure (List Nat)
  /-- The identity of a process. -/
  identity : Nat → Probe ProcessFailure ProcessIdentity
  /-- The counters of a process that has the given identity, those of the network if asked for. -/
  metrics : Nat → ProcessIdentity → Bool → Probe ProcessFailure ProcessMetrics
  /-- The arguments of a process. -/
  arguments : Nat → Probe ProcessFailure (List Text)
  /-- The environment variables of a process whose name passes a filter. -/
  environment : Nat → NameFilter → Probe ProcessFailure (TextMap Text)
  /-- The number of the process that asks. -/
  ownPid : Probe ProcessFailure Nat
  /-- The physical memory of the host in octets. -/
  memoryTotal : Probe ProcessFailure Nat
  /-- The number of processors of the host. -/
  processors : Probe ProcessFailure Nat

end ProcessMeter
