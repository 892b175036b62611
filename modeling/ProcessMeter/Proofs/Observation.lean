import ProcessMeter.Proofs.KernelSampler

/-!
# What an observation is made of

A complete sample is put together from the answers of the kernel files, and then what was used
since the previous sample is derived. Before that, nothing in it is derived: the kernel files
hold counters only. So every derived figure of a sample comes from the last step.
-/

namespace ProcessMeter

namespace ProcessSample

/-- Nothing in the sample is derived from an earlier one. -/
structure Underived (s : ProcessSample) : Prop where
  /-- There is no share of a processor. -/
  share : s.cpu.share = none
  /-- There is no share of all processors. -/
  hostShare : s.cpu.hostShare = none
  /-- There is no use of storage. -/
  storageRate : s.storageRate = none
  /-- There is no usage of the cgroup. -/
  cgroupUsage : (s.cgroup.bind fun c => c.cpuUsage) = none

variable (s : ProcessSample) (previous : Option ProcessSample) (capacity : HostCapacity)

/-- A figure that neither the host nor an earlier sample touches is not changed by deriving. -/
private theorem derive_unchanged {α : Type} (figure : ProcessSample → α)
    (hmemory : figure (s.withMemoryShare capacity) = figure s)
    (hafter : ∀ (s earlier : ProcessSample) (elapsed : Duration),
      figure (s.after earlier elapsed capacity) = figure s) :
    figure (s.derive previous capacity) = figure s := by
  cases previous with
  | none => exact hmemory
  | some earlier =>
    simp only [derive]
    split
    · split
      · exact (hafter _ _ _).trans hmemory
      · exact hmemory
    · exact hmemory

/-- What is derived leaves the identity as it was read, -/
@[simp] theorem derive_identity : (s.derive previous capacity).identity = s.identity :=
  derive_unchanged s previous capacity (·.identity) rfl fun _ _ _ => rfl

/-- and the time, -/
@[simp] theorem derive_time : (s.derive previous capacity).time = s.time :=
  derive_unchanged s previous capacity (·.time) rfl fun _ _ _ => rfl

/-- and the arguments, -/
@[simp] theorem derive_arguments : (s.derive previous capacity).arguments = s.arguments :=
  derive_unchanged s previous capacity (·.arguments) rfl fun _ _ _ => rfl

/-- and the environment. -/
@[simp] theorem derive_environment :
    (s.derive previous capacity).environment = s.environment :=
  derive_unchanged s previous capacity (·.environment) rfl fun _ _ _ => rfl

/-- The share of the memory is the resident part over the physical memory, whatever was sampled
before. -/
theorem derive_memory :
    (s.derive previous capacity).memory = { s.memory with
      share := capacity.memoryTotal.bind fun total =>
        Usage.fraction s.memory.resident total } := by
  cases previous with
  | none => rfl
  | some earlier =>
    simp only [derive]
    split
    · split <;> rfl
    · rfl

end ProcessSample

namespace Procfs

/-- The processor time of a process is that of the clock ticks on its state line, and without any
shares. -/
theorem cpu_of_metrics {units : HostUnits} {rootfs : Path} {pid : Nat} {known : ProcessIdentity}
    {network : Bool} {w : World} {metrics : ProcessMetrics}
    (h : (Procfs.metrics units rootfs pid known network).outcome w = .ok metrics) :
    ∃ r, (Procfs.record rootfs pid).outcome w = .ok r ∧
      let user := units.ticks r.userTicks
      let system := units.ticks r.systemTicks
      metrics.cpu =
        { user, system, total := user.add system, share := none, hostShare := none } := by
  unfold Procfs.metrics at h
  obtain ⟨r, hr, h⟩ := Probe.outcome_bind_eq_ok.mp h
  refine ⟨r, hr, ?_⟩
  split at h
  · obtain ⟨-, -, h⟩ := Probe.outcome_bind_eq_ok.mp h
    simp at h
  · obtain ⟨pages, -, h⟩ := Probe.outcome_bind_eq_ok.mp h
    obtain ⟨owner, -, h⟩ := Probe.outcome_bind_eq_ok.mp h
    obtain ⟨io, -, h⟩ := Probe.outcome_bind_eq_ok.mp h
    dsimp only at h
    split at h
    · obtain ⟨counters, -, h⟩ := Probe.outcome_bind_eq_ok.mp h
      simp only [Probe.outcome_pure, Except.ok.injEq] at h
      simp [← h]
    · simp only [pure_bind, Probe.outcome_pure, Except.ok.injEq] at h
      simp [← h]

/-- The kernel files hold no shares of processors. -/
theorem metrics_share {units : HostUnits} {rootfs : Path} {pid : Nat} {known : ProcessIdentity}
    {network : Bool} {w : World} {metrics : ProcessMetrics}
    (h : (Procfs.metrics units rootfs pid known network).outcome w = .ok metrics) :
    metrics.cpu.share = none ∧ metrics.cpu.hostShare = none := by
  obtain ⟨r, -, hcpu⟩ := cpu_of_metrics h
  exact ⟨congrArg ProcessCpu.share hcpu, congrArg ProcessCpu.hostShare hcpu⟩

/-- The identity of a process carries the number that was asked for. -/
theorem identity_pid {rootfs : Path} {pid : Nat} {w : World} {identity : ProcessIdentity}
    (h : (Procfs.identity rootfs pid).outcome w = .ok identity) : identity.pid = pid := by
  obtain ⟨r, -, h⟩ := Probe.outcome_bind_eq_ok.mp h
  simp only [Probe.outcome_pure, Except.ok.injEq] at h
  simp [← h]

end Procfs

/-- A cgroup that has just been read has no usage yet. -/
theorem Cgroup.Accounting.read_usage {accounting : Cgroup.Accounting} {pid : Nat} {w : World}
    {reading : CgroupReading} (h : (accounting.read pid).outcome w = .ok reading) :
    reading.cpuUsage = none := by
  have hcontrollers : ∀ {ε : Type} (path : Path) (controllers : Controllers),
      (pure (CgroupReading.ofControllers path controllers) : Probe ε CgroupReading).outcome w =
        .ok reading → reading.cpuUsage = none := by
    intro ε path controllers h
    simp only [Probe.outcome_pure, Except.ok.injEq] at h
    rw [← h]
    rfl
  unfold Cgroup.Accounting.read at h
  obtain ⟨placement, -, h⟩ := Probe.outcome_bind_eq_ok.mp h
  cases placement with
  | v1 controllers =>
    obtain ⟨found, hfound, h⟩ := Probe.outcome_bind_eq_ok.mp h
    obtain ⟨-, -, h⟩ := Probe.outcome_bind_eq_ok.mp h
    simp only [Probe.outcome_pure, Except.ok.injEq] at h
    subst h
    unfold Cgroup.Accounting.readLegacy at hfound
    obtain ⟨cpu, -, hfound⟩ := Probe.outcome_bind_eq_ok.mp hfound
    obtain ⟨cpuTime, -, hfound⟩ := Probe.outcome_bind_eq_ok.mp hfound
    obtain ⟨memory, -, hfound⟩ := Probe.outcome_bind_eq_ok.mp hfound
    obtain ⟨blockIo, -, hfound⟩ := Probe.outcome_bind_eq_ok.mp hfound
    obtain ⟨pids, -, hfound⟩ := Probe.outcome_bind_eq_ok.mp hfound
    exact hcontrollers _ _ hfound
  | v2 location =>
    obtain ⟨found, hfound, h⟩ := Probe.outcome_bind_eq_ok.mp h
    obtain ⟨-, -, h⟩ := Probe.outcome_bind_eq_ok.mp h
    simp only [Probe.outcome_pure, Except.ok.injEq] at h
    subst h
    unfold Cgroup.Accounting.readUnified at hfound
    obtain ⟨cpu, -, hfound⟩ := Probe.outcome_bind_eq_ok.mp hfound
    obtain ⟨memory, -, hfound⟩ := Probe.outcome_bind_eq_ok.mp hfound
    obtain ⟨io, -, hfound⟩ := Probe.outcome_bind_eq_ok.mp hfound
    obtain ⟨pids, -, hfound⟩ := Probe.outcome_bind_eq_ok.mp hfound
    exact hcontrollers _ _ hfound

namespace KernelSampler

variable {k : KernelSampler} {w : World}

/-- Asking the process table shows in the events only. -/
theorem outcome_ask {α : Type} (question : Question) (x : Probe ProcessFailure α) (w : World) :
    (Sampler.ask question x).outcome w = x.outcome w := by
  rw [Sampler.ask, Probe.outcome_bind]
  rfl

/-- A sampler of a kernel reads the identity that the kernel shows. -/
theorem outcome_identity (pid : Nat) :
    (k.identity pid).outcome w = (Procfs.identity k.rootfs pid).outcome w := by
  rw [Sampler.identity, outcome_ask, k.table_eq, Procfs.table]

/-- A reading of the cgroup of a process has no usage yet. -/
theorem cgroup_usage {pid : Nat} {cgroup : Option CgroupReading}
    (h : (k.cgroup pid).outcome w = .ok cgroup) : (cgroup.bind fun c => c.cpuUsage) = none := by
  unfold Sampler.cgroup at h
  split at h
  · simp only [Probe.outcome_pure, Except.ok.injEq] at h
    simp [← h]
  · next accounting _ =>
    rw [Probe.outcome_attempt_bind] at h
    cases hread : (accounting.read pid).outcome w with
    | ok reading =>
      simp only [hread, Probe.outcome_pure, Except.ok.injEq] at h
      simpa [← h] using accounting.read_usage hread
    | error fault =>
      rw [hread] at h
      cases fault with
      | overflow => simp at h
      | failed failure =>
        dsimp only at h
        split at h
        · next heq => simp at heq
        · simp only [Probe.outcome_pure, Except.ok.injEq] at h
          simp [← h]
        · simp at h

/-- The parts of a complete observation: the counters, the arguments, the environment and the
cgroup, from which the sample is derived. -/
theorem exists_parts_of_observe {identity : ProcessIdentity} {previous : Option ProcessSample}
    {capacity : HostCapacity} {s : ProcessSample}
    (h : (k.observe identity previous capacity).outcome w = .ok s) :
    ∃ metrics arguments environment cgroup,
      (Procfs.metrics k.units k.rootfs identity.pid identity k.network).outcome w = .ok metrics ∧
      (k.arguments identity.pid previous).outcome w = .ok arguments ∧
      (k.environment identity.pid previous).outcome w = .ok environment ∧
      (k.cgroup identity.pid).outcome w = .ok cgroup ∧
      s = ProcessSample.derive
        { identity, uid := metrics.uid, cpu := metrics.cpu, memory := metrics.memory, arguments
          environment, io := metrics.io, storageRate := none, network := metrics.network, cgroup
          time := w.now } previous capacity := by
  unfold Sampler.observe at h
  obtain ⟨metrics, hmetrics, h⟩ := Probe.outcome_bind_eq_ok.mp h
  obtain ⟨arguments, harguments, h⟩ := Probe.outcome_bind_eq_ok.mp h
  obtain ⟨environment, henvironment, h⟩ := Probe.outcome_bind_eq_ok.mp h
  obtain ⟨cgroup, hcgroup, h⟩ := Probe.outcome_bind_eq_ok.mp h
  obtain ⟨time, htime, h⟩ := Probe.outcome_bind_eq_ok.mp h
  rw [outcome_ask, k.table_eq, Procfs.table] at hmetrics
  simp only [Probe.outcome_now, Except.ok.injEq] at htime
  simp only [Probe.outcome_pure, Except.ok.injEq] at h
  subst htime
  exact ⟨metrics, arguments, environment, cgroup, hmetrics, harguments, henvironment, hcgroup,
    h.symm⟩

/-- What is derived in a sample is derived in one step from a sample without derived figures. -/
theorem exists_underived_of_observe {identity : ProcessIdentity}
    {previous : Option ProcessSample} {capacity : HostCapacity} {s : ProcessSample}
    (h : (k.observe identity previous capacity).outcome w = .ok s) :
    ∃ raw : ProcessSample, raw.Underived ∧ raw.identity = identity ∧ raw.time = w.now ∧
      s = raw.derive previous capacity := by
  obtain ⟨metrics, arguments, environment, cgroup, hmetrics, -, -, hcgroup, hs⟩ :=
    exists_parts_of_observe h
  obtain ⟨hshare, hhostShare⟩ := Procfs.metrics_share hmetrics
  exact ⟨_, ⟨hshare, hhostShare, rfl, cgroup_usage hcgroup⟩, rfl, rfl, hs⟩

/-- A process that is sampled has an identity with its number, and its sample is an observation
that builds on the history. -/
theorem exists_observe_of_sampled {filter : Option NameFilter} {pid : Nat} {history : History}
    {s : ProcessSample} (h : k.answer filter pid w history = .ok (.sampled s)) :
    ∃ identity, (Procfs.identity k.rootfs pid).outcome w = .ok identity ∧ identity.pid = pid ∧
      Sampler.passes filter identity.name = true ∧
      (k.observe identity (Sampler.previousOf history identity) (k.capacityAt w)).outcome w =
        .ok s := by
  rw [answer_eq, Sampler.sampling] at h
  obtain ⟨identity, hidentity, h⟩ := Probe.outcome_bind_eq_ok.mp h
  rw [outcome_identity] at hidentity
  refine ⟨identity, hidentity, Procfs.identity_pid hidentity, ?_⟩
  split at h
  · next hpasses =>
    obtain ⟨sample, hsample, h⟩ := Probe.outcome_bind_eq_ok.mp h
    simp only [Probe.outcome_pure, Except.ok.injEq, SampleOutcome.sampled.injEq] at h
    exact ⟨hpasses, h ▸ hsample⟩
  · simp at h

/-- A process that is passed over has an identity whose name does not pass. -/
theorem identity_of_passedOver {filter : Option NameFilter} {pid : Nat} {history : History}
    {identity : ProcessIdentity}
    (h : k.answer filter pid w history = .ok (.passedOver identity)) :
    (Procfs.identity k.rootfs pid).outcome w = .ok identity ∧
      Sampler.passes filter identity.name = false := by
  rw [answer_eq, Sampler.sampling] at h
  obtain ⟨found, hfound, h⟩ := Probe.outcome_bind_eq_ok.mp h
  rw [outcome_identity] at hfound
  split at h
  · obtain ⟨sample, -, h⟩ := Probe.outcome_bind_eq_ok.mp h
    simp at h
  · next hpasses =>
    simp only [Probe.outcome_pure, Except.ok.injEq, SampleOutcome.passedOver.injEq] at h
    exact ⟨h ▸ hfound, by simpa [h] using hpasses⟩

/-- Of the history, only the entry of its own number matters to how a process is sampled. -/
theorem answer_congr {filter : Option NameFilter} {pid : Nat} {before other : History}
    (h : before.get? pid = other.get? pid) :
    k.answer filter pid w before = k.answer filter pid w other := by
  simp only [answer_eq, Sampler.sampling, Probe.outcome_bind, outcome_identity]
  cases hidentity : (Procfs.identity k.rootfs pid).outcome w with
  | error fault => rfl
  | ok identity =>
    have hpid := Procfs.identity_pid hidentity
    rw [← hpid] at h
    simp only [Except.bind, Sampler.previousOf_congr h]

/-- A sample carries the number that was asked for. -/
theorem pid_of_sampled {filter : Option NameFilter} {pid : Nat} {history : History}
    {s : ProcessSample} (h : k.answer filter pid w history = .ok (.sampled s)) :
    s.identity.pid = pid := by
  obtain ⟨identity, -, hpid, -, hobserve⟩ := exists_observe_of_sampled h
  obtain ⟨raw, -, hraw, -, hs⟩ := exists_underived_of_observe hobserve
  rw [hs, ProcessSample.derive_identity, hraw, hpid]

end KernelSampler

end ProcessMeter
