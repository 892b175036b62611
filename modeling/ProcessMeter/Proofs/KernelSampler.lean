import ProcessMeter.Process.Sampler
import ProcessMeter.Proofs.NeverOverflows

/-!
# Samplers of a kernel

A sampler of a kernel asks the files below `/proc`. Sampling one process is a probe that is given
the history, followed by at most one change of the history: the new sample takes the place of the
old one of the same number. All ways of sampling a process come down to that.
-/

namespace ProcessMeter

/-- The history once a process has been sampled with the given answer. Only a complete sample
changes it. -/
def History.afterSampling (history : History)
    (answer : Except (Fault ProcessFailure) SampleOutcome) : History :=
  match answer with
  | .ok (.sampled sample) => history.insert sample
  | _ => history

namespace Sampler

variable (sampler : Sampler) (capacity : HostCapacity) (w : World) (history : History)

/-- Sampling a process if its name passes, as a probe that is given the history. -/
def sampling (filter : Option NameFilter) (pid : Nat) (history : History) :
    Probe ProcessFailure SampleOutcome := do
  let identity ← sampler.identity pid
  if passes filter identity.name then
    let sample ← sampler.observe identity (previousOf history identity) capacity
    pure (.sampled sample)
  else pure (.passedOver identity)

/-- Observing a process stores the sample if there is one, and does nothing else. -/
theorem run_observeAndStore (identity : ProcessIdentity) :
    (sampler.observeAndStore identity capacity).run w history =
      match (sampler.observe identity (previousOf history identity) capacity).outcome w with
      | .ok sample => (.ok sample, history.insert sample)
      | .error fault => (.error fault, history) := by
  simp only [observeAndStore, Session.run_bind, Session.run_history, Session.run_ofProbe,
    Session.run_store, Session.run_pure]
  cases (sampler.observe identity (previousOf history identity) capacity).outcome w <;> rfl

/-- Sampling a process answers as the probe does, and the history follows from the answer. -/
theorem run_sampleWith (filter : Option NameFilter) (pid : Nat) :
    (sampler.sampleWith capacity filter pid).run w history =
      ((sampler.sampling capacity filter pid history).outcome w,
        history.afterSampling ((sampler.sampling capacity filter pid history).outcome w)) := by
  simp only [sampleWith, sampling, Session.run_ofProbe_bind, Probe.outcome_bind]
  cases sampler.identity pid |>.outcome w with
  | error fault => rfl
  | ok identity =>
    simp only [Except.bind]
    split
    · simp only [Session.run_bind, run_observeAndStore, Probe.outcome_bind]
      cases (sampler.observe identity (previousOf history identity) capacity).outcome w <;> rfl
    · rfl

/-- Among many processes a failure leaves out the process, and only an overflow goes through. -/
theorem run_sampleAmong (filter : NameFilter) (pid : Nat) :
    (sampler.sampleAmong capacity filter pid).run w history =
      match (sampler.sampling capacity (some filter) pid history).outcome w with
      | .ok (.sampled sample) => (.ok (some sample), history.insert sample)
      | .error .overflow => (.error .overflow, history)
      | _ => (.ok none, history) := by
  simp only [sampleAmong, Session.run_bind, Session.run_attempt, run_sampleWith]
  rcases (sampler.sampling capacity (some filter) pid history).outcome w with
    (failure | _) | (sample | identity)
  · cases failure <;> rfl
  · rfl
  · rfl
  · rfl

/-- The previous sample that an observation builds on depends on the entry of its number only. -/
theorem previousOf_congr {history other : History} {identity : ProcessIdentity}
    (h : history.get? identity.pid = other.get? identity.pid) :
    previousOf history identity = previousOf other identity := by
  rw [previousOf, previousOf, h]

end Sampler

/-- A sampler of the processes of a kernel. -/
structure KernelSampler extends Sampler where
  /-- Where the root file system of the host is visible. -/
  rootfs : Path
  /-- The units in which the kernel counts. -/
  units : HostUnits
  /-- The process table is the one of the kernel. -/
  table_eq : table = Procfs.table units rootfs

namespace KernelSampler

variable (k : KernelSampler) (w : World) (history : History)

/-- Every sampler that is made for a kernel is a sampler of that kernel. -/
theorem exists_of_ofProcfs {units : HostUnits} {read : PatternReader}
    {settings : SamplerSettings} {w : World} {sampler : Sampler}
    (h : (Sampler.ofProcfs units read settings).outcome w = .ok sampler) :
    ∃ k : KernelSampler, k.toSampler = sampler ∧ k.rootfs = settings.rootfs := by
  suffices htable : sampler.table = Procfs.table units settings.rootfs from
    ⟨⟨sampler, settings.rootfs, units, htable⟩, rfl, rfl⟩
  unfold Sampler.ofProcfs Sampler.ofTable at h
  split at h
  · simp at h
  · dsimp only at h
    split at h
    · obtain ⟨accounting, -, h⟩ := Probe.outcome_bind_eq_ok.mp h
      simp only [pure_bind, Probe.outcome_pure, Except.ok.injEq] at h
      rw [← h]
    · simp only [pure_bind, Probe.outcome_pure, Except.ok.injEq] at h
      rw [← h]

/-- A sampler that reads neither cgroups nor environments, on a host with the usual units. -/
def plain (rootfs : Path) (network : Bool) : KernelSampler where
  table := Procfs.table .usual rootfs
  cgroups := none
  network := network
  keepArguments := false
  shownVariables := .none
  rootfs := rootfs
  units := .usual
  table_eq := rfl

/-- A file of a process in a tree whose root is the one of the host. -/
def processFile (pid : Nat) (name : List Text) (content : Text) : List Text × Entry :=
  (["proc".toList, Numeral.write pid] ++ name, .file (Text.encode content))

/-- The files of a process that has used some clock ticks in user mode. -/
def processFiles (pid ticks : Nat) : List (List Text × Entry) :=
  let stat := Numeral.write pid ++ " (worker) S 0 1 1 0 -1 0 0 0 0 0 ".toList ++
    Numeral.write ticks ++ " 0 0 0 20 0 1 0 100 0 0\n".toList
  [processFile pid ["stat".toList] stat, processFile pid ["statm".toList] "10 5 1 0\n".toList]

/-- A kernel with some files. -/
def kernelTree (files : List (List Text × Entry)) : FileTree :=
  files.foldl (fun tree file => tree.put file.1 file.2) .empty

/-- A filter that every name passes. -/
def everyName : NameFilter := ⟨[fun _ => true]⟩

/-- What is known of the host at a moment: its memory if that can be read, and the number of its
processors, or one. -/
def capacityAt (w : World) : HostCapacity where
  memoryTotal := ((Host.memoryTotal k.rootfs).outcome w).toOption
  processors := ((Host.processorCount k.rootfs).outcome w).toOption.getD 1

/-- A failure that is logged leaves no value. -/
private theorem outcome_logged {α : Type} {x : Probe ProcessFailure α} (hx : x.NeverOverflows)
    (w : World) : (Sampler.logged x).outcome w = .ok (x.outcome w).toOption := by
  simp only [Sampler.logged, Probe.outcome_attempt_bind]
  rcases hx.outcome_cases w with ⟨a, ha⟩ | ⟨reason, hreason⟩
  · simp [ha, Except.toOption]
  · simp [hreason, Except.toOption, Except.map]

/-- Rewording a failure keeps the value if there is one. -/
private theorem toOption_mapFailure {ε ε' α : Type} (f : ε → ε') (x : Probe ε α) (w : World) :
    ((x.mapFailure f).outcome w).toOption = (x.outcome w).toOption := by
  rw [Probe.outcome_mapFailure]
  rcases x.outcome w with (reason | _) | a <;> rfl

/-- Asking the host never fails. -/
theorem outcome_capacity : k.capacity.outcome w = .ok (k.capacityAt w) := by
  have hmemory := (Host.memoryTotal_neverOverflows k.rootfs).mapFailure ProcessFailure.unreadable
  have hprocessors :=
    (Host.processorCount_neverOverflows k.rootfs).mapFailure ProcessFailure.unreadable
  simp only [Sampler.capacity, k.table_eq, Procfs.table, Probe.outcome_bind,
    outcome_logged hmemory, outcome_logged hprocessors, toOption_mapFailure]
  rfl

/-- The answer of sampling a process alone. -/
def answer (filter : Option NameFilter) (pid : Nat) (w : World) (history : History) :
    Except (Fault ProcessFailure) SampleOutcome :=
  ((k.sampleIfPassing pid filter).run w history).1

/-- Sampling a process alone is sampling it with what is known of the host at that moment. -/
theorem run_sampleIfPassing_eq (filter : Option NameFilter) (pid : Nat) :
    (k.sampleIfPassing pid filter).run w history =
      (k.sampleWith (k.capacityAt w) filter pid).run w history := by
  rw [Sampler.sampleIfPassing, Session.run_ofProbe_bind, outcome_capacity]

/-- The answer about a process is what sampling it gives. -/
theorem answer_eq (filter : Option NameFilter) (pid : Nat) :
    k.answer filter pid w history =
      (k.sampling (k.capacityAt w) filter pid history).outcome w := by
  rw [answer, run_sampleIfPassing_eq, Sampler.run_sampleWith]

/-- Sampling a process alone changes the history by its sample, and not without one. -/
theorem run_sampleIfPassing (filter : Option NameFilter) (pid : Nat) :
    (k.sampleIfPassing pid filter).run w history =
      (k.answer filter pid w history,
        history.afterSampling (k.answer filter pid w history)) := by
  rw [run_sampleIfPassing_eq, Sampler.run_sampleWith, answer_eq]

/-- Sampling a process alone stores its sample or leaves the history as it was. -/
theorem sampleIfPassing_cases (filter : Option NameFilter) (pid : Nat) :
    (∃ s, k.answer filter pid w history = .ok (.sampled s) ∧
      (k.sampleIfPassing pid filter).run w history = (.ok (.sampled s), history.insert s)) ∨
    (∃ identity, k.answer filter pid w history = .ok (.passedOver identity) ∧
      (k.sampleIfPassing pid filter).run w history = (.ok (.passedOver identity), history)) ∨
    ∃ fault, k.answer filter pid w history = .error fault ∧
      (k.sampleIfPassing pid filter).run w history = (.error fault, history) := by
  rw [run_sampleIfPassing]
  rcases k.answer filter pid w history with fault | (s | identity)
  · exact Or.inr (Or.inr ⟨fault, rfl, rfl⟩)
  · exact Or.inl ⟨s, rfl, rfl⟩
  · exact Or.inr (Or.inl ⟨identity, rfl, rfl⟩)

/-- Sampling a process whatever its name is sampling it without a filter. -/
theorem sampleProcess_cases (pid : Nat) :
    (∃ s, k.answer none pid w history = .ok (.sampled s) ∧
      (k.sampleProcess pid).run w history = (.ok s, history.insert s)) ∨
    ∃ fault, k.answer none pid w history = .error fault ∧
      (k.sampleProcess pid).run w history = (.error fault, history) := by
  simp only [answer_eq, Sampler.sampleProcess, Sampler.sampling, Session.run_ofProbe_bind,
    outcome_capacity, Probe.outcome_bind]
  cases (k.identity pid).outcome w with
  | error fault => exact Or.inr ⟨fault, rfl, rfl⟩
  | ok identity =>
    simp only [Except.bind, Sampler.passes, if_true, Sampler.run_observeAndStore,
      Probe.outcome_bind]
    cases (k.observe identity (Sampler.previousOf history identity) (k.capacityAt w)).outcome w with
    | error fault => exact Or.inr ⟨fault, rfl, rfl⟩
    | ok s => exact Or.inl ⟨s, rfl, rfl⟩

/-- Sampling the process that asks is sampling the process that the kernel names. -/
theorem run_sampleOwn :
    k.sampleOwn.run w history =
      match (Procfs.ownPid k.rootfs).outcome w with
      | .ok pid => (k.sampleProcess pid).run w history
      | .error fault => (.error fault, history) := by
  rw [Sampler.sampleOwn, Session.run_ofProbe_bind, k.table_eq, Procfs.table]
  cases (Procfs.ownPid k.rootfs).outcome w with
  | error fault => rfl
  | ok pid => rfl

/-- Listing the processes comes first when all are sampled; without tests nothing is asked. -/
theorem run_sampleMatching (filter : NameFilter) (top : Option TopSelection) :
    (k.sampleMatching filter top).run w history =
      if filter.isEmpty then (.ok [], history)
      else
        match (Procfs.pids k.rootfs).outcome w with
        | .error fault => (.error fault, history)
        | .ok pids =>
          match (k.sampleEach (k.capacityAt w) filter pids).run w history with
          | (.ok samples, left) => (.ok ((top.getD .none).select samples), left)
          | (.error fault, left) => (.error fault, left) := by
  unfold Sampler.sampleMatching
  split
  · rfl
  · rw [Session.run_ofProbe_bind, k.table_eq, Procfs.table]
    cases (Procfs.pids k.rootfs).outcome w with
    | error fault => rfl
    | ok pids =>
      simp only [Session.run_bind, Session.run_ofProbe, outcome_capacity, Session.run_log]
      rcases (k.sampleEach (k.capacityAt w) filter pids).run w history with ⟨fault | samples, left⟩
      · rfl
      · rfl

end KernelSampler

end ProcessMeter
