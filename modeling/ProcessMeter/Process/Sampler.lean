import ProcessMeter.Cgroup.Accounting
import ProcessMeter.Process.Procfs
import ProcessMeter.Process.Session
import ProcessMeter.Process.Top

/-!
# Sampling

A sampler observes processes one at a time or all at once. Each observation reads the identity
first, then the counters, the command line, the environment and the cgroup. A complete one is
stored in the history, and derives what was used from the one stored before. A failure leaves the
history as it was, and when all processes are sampled it leaves out only the process concerned.
-/

namespace ProcessMeter

/-- How processes are sampled. -/
structure SamplerSettings where
  /-- Where the root file system of the host is visible. -/
  rootfs : Path := ['/']
  /-- Whether the cgroups of processes are read. -/
  cgroups : Bool := true
  /-- Whether network counters are read. -/
  network : Bool := false
  /-- Whether the command line of a process is read only once. -/
  keepArguments : Bool := true
  /-- Patterns of the environment variables to be reported. -/
  shownVariables : List Text := []
  /-- How cgroups are read; the root file system above takes precedence. -/
  cgroup : Cgroup.Settings := {}
  deriving DecidableEq, Repr

/-- What samples processes. -/
structure Sampler where
  /-- The processes. -/
  table : ProcessTable
  /-- The accounting of cgroups, if they are read. -/
  cgroups : Option Cgroup.Accounting
  /-- Whether network counters are read. -/
  network : Bool
  /-- Whether the command line of a process is read only once. -/
  keepArguments : Bool
  /-- The environment variables to be reported. -/
  shownVariables : NameFilter

/-- The outcome of sampling under a filter. -/
inductive SampleOutcome where
  /-- The process passed and was sampled. -/
  | sampled (sample : ProcessSample)
  /-- The name did not pass, and nothing else was read. -/
  | passedOver (identity : ProcessIdentity)

namespace Sampler

/-- A sampler of the processes of a table. -/
def ofTable (units : HostUnits) (read : PatternReader) (table : ProcessTable)
    (settings : SamplerSettings) : Probe ProcessFailure Sampler :=
  match NameFilter.ofPatterns read settings.shownVariables with
  | .error pattern => Probe.fail (.badPattern pattern)
  | .ok shownVariables => do
    let cgroups ←
      if settings.cgroups then
        let placed := { settings.cgroup with rootfs := settings.rootfs }
        let accounting ← (Cgroup.Accounting.ofSettings units placed).mapFailure .cgroup
        pure (some accounting)
      else pure none
    pure {
      table, cgroups, network := settings.network, keepArguments := settings.keepArguments
      shownVariables }

/-- A sampler of the processes of a kernel. -/
def ofProcfs (units : HostUnits) (read : PatternReader) (settings : SamplerSettings) :
    Probe ProcessFailure Sampler :=
  ofTable units read (Procfs.table units settings.rootfs) settings

/-- Asks the process table, and records that it was asked. -/
def ask {α : Type} (question : Question) (answer : Probe ProcessFailure α) :
    Probe ProcessFailure α := do
  Probe.record (.asked question)
  answer

/-- The value of a probe, or none. A failure is logged. -/
def logged {α : Type} (x : Probe ProcessFailure α) : Probe ProcessFailure (Option α) := do
  match ← Probe.attempt x with
  | .ok value => pure (some value)
  | .error failure =>
    Probe.log .error failure.message
    pure none

/-- What is known of the host. One processor is assumed if their number is not known. -/
def capacity (sampler : Sampler) : Probe ProcessFailure HostCapacity := do
  let memoryTotal ← logged sampler.table.memoryTotal
  let processors ← logged sampler.table.processors
  pure { memoryTotal, processors := processors.getD 1 }

/-- The identity of a process. -/
def identity (sampler : Sampler) (pid : Nat) : Probe ProcessFailure ProcessIdentity :=
  ask .identity (sampler.table.identity pid)

/-- The arguments of a process, taken from its previous sample if they are kept and not empty. -/
def arguments (sampler : Sampler) (pid : Nat) (previous : Option ProcessSample) :
    Probe ProcessFailure (List Text) :=
  let read := ask .arguments (sampler.table.arguments pid)
  match previous with
  | some sample =>
    if sampler.keepArguments && !sample.arguments.isEmpty then pure sample.arguments else read
  | none => read

/-- The environment variables of a process, taken from its previous sample if there is one. -/
def environment (sampler : Sampler) (pid : Nat) (previous : Option ProcessSample) :
    Probe ProcessFailure (TextMap Text) :=
  if sampler.shownVariables.isEmpty then pure .empty
  else
    match previous with
    | some sample => pure sample.environment
    | none => ask .environment (sampler.table.environment pid sampler.shownVariables)

/-- The cgroup of a process. A process in a root cgroup that is left out has none. -/
def cgroup (sampler : Sampler) (pid : Nat) : Probe ProcessFailure (Option CgroupReading) :=
  match sampler.cgroups with
  | none => pure none
  | some accounting => do
    match ← Probe.attempt (accounting.read pid) with
    | .ok reading => pure (some reading)
    | .error (.inRoot _ _) => pure none
    | .error failure => Probe.fail (.ofCgroup pid failure)

/-- The earlier sample that an observation of a process builds on. -/
def previousOf (history : History) (identity : ProcessIdentity) : Option ProcessSample :=
  (history.get? identity.pid).filter fun sample => sample.identity.isSame identity

/-- Observes a process whose identity is known. -/
def observe (sampler : Sampler) (identity : ProcessIdentity) (previous : Option ProcessSample)
    (capacity : HostCapacity) : Probe ProcessFailure ProcessSample := do
  let pid := identity.pid
  let metrics ← ask .extended (sampler.table.metrics pid identity sampler.network)
  let arguments ← sampler.arguments pid previous
  let environment ← sampler.environment pid previous
  let cgroup ← sampler.cgroup pid
  let time ← Probe.now
  let sample : ProcessSample := {
    identity, uid := metrics.uid, cpu := metrics.cpu, memory := metrics.memory, arguments
    environment, io := metrics.io, storageRate := none, network := metrics.network, cgroup, time }
  pure (sample.derive previous capacity)

/-- Observes a process and stores the sample. -/
def observeAndStore (sampler : Sampler) (identity : ProcessIdentity) (capacity : HostCapacity) :
    Session ProcessSample := do
  let history ← Session.history
  let sample ← Session.ofProbe (sampler.observe identity (previousOf history identity) capacity)
  Session.store sample
  pure sample

/-- Whether a name passes an optional filter. -/
def passes (filter : Option NameFilter) (name : Text) : Bool :=
  match filter with
  | some filter => filter.passes name
  | none => true

/-- Samples a process if its name passes. -/
def sampleWith (sampler : Sampler) (capacity : HostCapacity) (filter : Option NameFilter)
    (pid : Nat) : Session SampleOutcome := do
  let identity ← Session.ofProbe (sampler.identity pid)
  if passes filter identity.name then
    let sample ← sampler.observeAndStore identity capacity
    pure (.sampled sample)
  else pure (.passedOver identity)

/-- Samples a process if its name passes; the host is asked first. -/
def sampleIfPassing (sampler : Sampler) (pid : Nat) (filter : Option NameFilter) :
    Session SampleOutcome := do
  let capacity ← Session.ofProbe sampler.capacity
  sampler.sampleWith capacity filter pid

/-- Samples a process whatever its name. -/
def sampleProcess (sampler : Sampler) (pid : Nat) : Session ProcessSample := do
  let identity ← Session.ofProbe (sampler.identity pid)
  let capacity ← Session.ofProbe sampler.capacity
  sampler.observeAndStore identity capacity

/-- Samples the process that asks. -/
def sampleOwn (sampler : Sampler) : Session ProcessSample := do
  let pid ← Session.ofProbe sampler.table.ownPid
  sampler.sampleProcess pid

/-- The sample of one process among many, if it passes and nothing fails. A failure is logged. -/
def sampleAmong (sampler : Sampler) (capacity : HostCapacity) (filter : NameFilter) (pid : Nat) :
    Session (Option ProcessSample) := do
  match ← Session.attempt (sampler.sampleWith capacity (some filter) pid) with
  | .ok (.sampled sample) => pure (some sample)
  | .ok (.passedOver _) => pure none
  | .error (.notFound _) =>
    Session.log .debug s!"process {pid} exited while being sampled"
    pure none
  | .error failure =>
    Session.log .error failure.message
    pure none

/-- The samples of many processes in order. -/
def sampleEach (sampler : Sampler) (capacity : HostCapacity) (filter : NameFilter) :
    List Nat → Session (List ProcessSample)
  | [] => pure []
  | pid :: rest => do
    let sample ← sampler.sampleAmong capacity filter pid
    let others ← sampleEach sampler capacity filter rest
    pure (sample.toList ++ others)

/-- Samples all processes whose names pass, and keeps the busiest if that is asked for. -/
def sampleMatching (sampler : Sampler) (filter : NameFilter) (top : Option TopSelection) :
    Session (List ProcessSample) :=
  if filter.isEmpty then pure []
  else do
    let pids ← Session.ofProbe sampler.table.pids
    let capacity ← Session.ofProbe sampler.capacity
    let samples ← sampler.sampleEach capacity filter pids
    Session.log .trace s!"sampled {samples.length} processes"
    pure ((top.getD .none).select samples)

/-- The identities of many processes whose names pass, in order. A failure is logged. -/
def listEach (sampler : Sampler) (filter : NameFilter) :
    List Nat → Probe ProcessFailure (List ProcessIdentity)
  | [] => pure []
  | pid :: rest => do
    let found ← match ← Probe.attempt (sampler.identity pid) with
      | .ok identity => pure (if filter.passes identity.name then [identity] else [])
      | .error (.notFound _) => do
        Probe.log .debug s!"process {pid} exited while being listed"
        pure []
      | .error failure => do
        Probe.log .error failure.message
        pure []
    let others ← listEach sampler filter rest
    pure (found ++ others)

/-- The identities of all processes whose names pass. -/
def listMatching (sampler : Sampler) (filter : NameFilter) :
    Probe ProcessFailure (List ProcessIdentity) :=
  if filter.isEmpty then pure []
  else do
    let pids ← sampler.table.pids
    sampler.listEach filter pids

/-- What a process is doing. -/
def stateOf (sampler : Sampler) (pid : Nat) : Probe ProcessFailure ProcessState := do
  let identity ← sampler.identity pid
  pure identity.state

end Sampler

end ProcessMeter
