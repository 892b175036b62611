import ProcessMeter.Proofs.Batch
import ProcessMeter.Proofs.CounterSums
import ProcessMeter.Proofs.Presence

/-!
# When the counters of a process overflow

Sampling a process ends without an answer in one case only: its network counters, or the totals of
the block devices in its cgroup of version 1, have a sum that is no 64-bit number. Nothing else in
any file of the process has this effect, and the history has no part in it.
-/

namespace ProcessMeter

namespace Cgroup.Accounting

variable {accounting : Accounting} {pid : Nat} {w : World}

/-- A subsystem that never overflows is read or left out. -/
private theorem exists_subsystem {ε α : Type} (placement : CgroupPlacement) (name : String)
    {read : Path → Probe PathFailure α} (h : ∀ directory, (read directory).NeverOverflows)
    (w : World) :
    ∃ found, (subsystem placement name read : Probe ε (Option α)).outcome w = .ok found := by
  unfold subsystem
  split
  · exact ⟨none, rfl⟩
  · exact exists_optional (h _) w

/-- A subsystem overflows exactly if it is placed and its reading overflows. -/
private theorem outcome_subsystem_eq_overflow {ε α : Type} {placement : CgroupPlacement}
    {name : String} {read : Path → Probe PathFailure α} {w : World} :
    (subsystem placement name read : Probe ε (Option α)).outcome w = .error .overflow ↔
      ∃ location, placement.subsystem? name.toList = some location ∧
        (read location.directory).outcome w = .error .overflow := by
  unfold subsystem
  cases placement.subsystem? name.toList with
  | none => simp
  | some location =>
    simp only [Option.some.injEq, exists_eq_left', outcome_optional]
    rcases (read location.directory).outcome w with (failure | _) | a <;> simp

/-- Reading the subsystems of version 1 overflows exactly where the block devices do. -/
private theorem outcome_readLegacy_eq_overflow {ε : Type} {placement : CgroupPlacement} :
    (accounting.readLegacy placement : Probe ε CgroupReading).outcome w = .error .overflow ↔
      ∃ location, placement.subsystem? "blkio".toList = some location ∧
        (Legacy.BlockIo.read location.directory accounting.devices).outcome w =
          .error .overflow := by
  obtain ⟨cpu, hcpu⟩ := @exists_subsystem ε _ placement "cpu" _ Legacy.Cpu.read_neverOverflows w
  obtain ⟨cpuTime, hcpuTime⟩ :=
    @exists_subsystem ε _ placement "cpuacct" _
      (Legacy.CpuTime.read_neverOverflows · accounting.units) w
  obtain ⟨memory, hmemory⟩ :=
    @exists_subsystem ε _ placement "memory" _ Legacy.Memory.read_neverOverflows w
  obtain ⟨pids, hpids⟩ := @exists_subsystem ε _ placement "pids" _ PidsStat.read_neverOverflows w
  rw [readLegacy, Probe.outcome_bind_of_ok hcpu, Probe.outcome_bind_of_ok hcpuTime,
    Probe.outcome_bind_of_ok hmemory, Probe.outcome_bind_eq_error, outcome_subsystem_eq_overflow,
    or_iff_left]
  rintro ⟨blockIo, -, h⟩
  rw [Probe.outcome_bind_of_ok hpids] at h
  simp at h

/-- Reading the unified hierarchy never overflows. -/
private theorem readUnified_neverOverflows {ε : Type} (location : CgroupLocation) :
    (accounting.readUnified location : Probe ε CgroupReading).NeverOverflows := by
  intro w h
  obtain ⟨cpu, hcpu⟩ :=
    @exists_optional ε _ _ (Unified.Cpu.read_neverOverflows location.directory) w
  obtain ⟨memory, hmemory⟩ :=
    @exists_optional ε _ _ (Unified.Memory.read_neverOverflows location.directory) w
  obtain ⟨io, hio⟩ :=
    @exists_optional ε _ _ (Unified.Io.read_neverOverflows location.directory accounting.devices) w
  obtain ⟨pids, hpids⟩ := @exists_optional ε _ _ (PidsStat.read_neverOverflows location.directory) w
  rw [readUnified, Probe.outcome_bind_of_ok hcpu, Probe.outcome_bind_of_ok hmemory,
    Probe.outcome_bind_of_ok hio, Probe.outcome_bind_of_ok hpids] at h
  simp at h

/-- The cgroup of a process is found, and the totals of its block devices in one of the two throttle
files add up to more than a 64-bit number. -/
def BlockIoOverflows (accounting : Accounting) (pid : Nat) (w : World) : Prop :=
  ∃ placement location bytes operations,
    (accounting.locator.locate pid).outcome w = .ok placement ∧
    placement.subsystem? "blkio".toList = some location ∧
    (Legacy.BlockIo.column location.directory accounting.devices
      "blkio.throttle.io_service_bytes").outcome w = .ok bytes ∧
    (Legacy.BlockIo.column location.directory accounting.devices
      "blkio.throttle.io_serviced").outcome w = .ok operations ∧
    (Numeral.max64 < bytes.total (fun c => c.total) ∨
      Numeral.max64 < operations.total fun c => c.total)

/-- Reading the cgroup of a process overflows exactly if its block devices do. -/
theorem outcome_read_eq_overflow :
    (accounting.read pid).outcome w = .error .overflow ↔ accounting.BlockIoOverflows pid w := by
  have hlog : ∀ (reading : CgroupReading) (text : String),
      (Probe.log .trace text >>= fun _ => pure reading :
        Probe CgroupFailure CgroupReading).outcome w ≠ .error .overflow := by
    intro reading text h
    rw [Probe.outcome_bind_of_ok (Probe.outcome_log w _ _)] at h
    simp at h
  constructor
  · intro h
    rcases Probe.outcome_bind_eq_error.mp h with h | ⟨placement, hplacement, h⟩
    · exact absurd h (accounting.locator.locate_neverOverflows pid w)
    · cases placement with
      | v1 controllers =>
        rcases Probe.outcome_bind_eq_error.mp h with h | ⟨reading, -, h⟩
        · obtain ⟨location, hlocation, hread⟩ := outcome_readLegacy_eq_overflow.mp h
          obtain ⟨bytes, operations, hsums⟩ := Legacy.BlockIo.outcome_read_eq_overflow.mp hread
          exact ⟨_, location, bytes, operations, hplacement, hlocation, hsums⟩
        · exact absurd h (hlog _ _)
      | v2 location =>
        rcases Probe.outcome_bind_eq_error.mp h with h | ⟨reading, -, h⟩
        · exact absurd h (readUnified_neverOverflows location w)
        · exact absurd h (hlog _ _)
  · rintro ⟨placement, location, bytes, operations, hplacement, hlocation, hsums⟩
    have hread := Legacy.BlockIo.outcome_read_eq_overflow.mpr ⟨bytes, operations, hsums⟩
    refine Probe.outcome_bind_eq_error.mpr (Or.inr ⟨placement, hplacement, ?_⟩)
    cases placement with
    | v1 controllers =>
      refine Probe.outcome_bind_eq_error.mpr (Or.inl ?_)
      exact outcome_readLegacy_eq_overflow.mpr ⟨location, hlocation, hread⟩
    | v2 location => simp [CgroupPlacement.subsystem?] at hlocation

end Cgroup.Accounting

namespace Procfs

variable {rootfs : Path} {pid : Nat} {w : World}

/-- Nothing is wrong with the form of a file that is read. -/
def WellFormed {α : Type} (reading : Probe PathFailure α) (w : World) : Prop :=
  ∀ failure, reading.outcome w = .error (.failed failure) → failure.isMalformed = false

/-- A reading that a process can do without overflows where the reading itself does. -/
private theorem outcome_optional_eq_overflow {α : Type} {reading : Probe PathFailure α}
    (hpresent : isPresent w.files rootfs pid = true) :
    (optional rootfs pid reading).outcome w = .error .overflow ↔
      reading.outcome w = .error .overflow := by
  rw [outcome_optional_of_present hpresent]
  rcases reading.outcome w with (failure | _) | a
  · by_cases hmalformed : failure.isMalformed <;> simp [hmalformed]
  · simp
  · simp

/-- A reading that a process can do without is no obstacle exactly if the file is well formed. -/
private theorem exists_optional_iff {α : Type} {reading : Probe PathFailure α}
    (hpresent : isPresent w.files rootfs pid = true)
    (hreading : reading.outcome w ≠ .error .overflow) :
    (∃ found, (optional rootfs pid reading).outcome w = .ok found) ↔ WellFormed reading w := by
  rw [outcome_optional_of_present hpresent]
  unfold WellFormed
  rcases h : reading.outcome w with (failure | _) | a
  · by_cases hmalformed : failure.isMalformed <;> simp [hmalformed]
  · exact absurd h hreading
  · simp

/-- The files of a process can be read up to its network counters: its pages are there, and nothing
is wrong with the form of its owner and of its input and output. -/
structure ReadsCounters (units : HostUnits) (rootfs : Path) (pid : Nat) (w : World) : Prop where
  /-- The pages are there. -/
  pages : ∃ pages,
    (Stat.read (file rootfs pid "statm") (PageCounts.readLines units)).outcome w = .ok pages
  /-- The owner is well formed, if it is there. -/
  owner : WellFormed (Stat.read (file rootfs pid "status") ProcessOwner.readLines) w
  /-- Input and output are well formed, if they are there. -/
  io : WellFormed (Stat.read (file rootfs pid "io") IoCounters.readLines) w

/-- The network counters of a process as they are read, if they are asked for. -/
private def networkOf (rootfs : Path) (pid : Nat) (network : Bool) :
    Probe ProcessFailure (Option NetworkCounters) :=
  if network then optional rootfs pid (readNetwork (file rootfs pid "net/dev")) else pure none

section Metrics

variable {units : HostUnits} {r : ProcessRecord} {known : ProcessIdentity} {network : Bool}

/-- Once the files up to the network counters are read, only these decide how reading the counters
of a process ends. -/
private theorem outcome_metrics_of_reads (hrecord : (record rootfs pid).outcome w = .ok r)
    (hstart : r.startTime = known.startTime) (h : ReadsCounters units rootfs pid w) :
    ∃ combine : Option NetworkCounters → ProcessMetrics,
      (metrics units rootfs pid known network).outcome w =
        ((networkOf rootfs pid network).outcome w).map combine := by
  have hpresent := isPresent_of_record hrecord
  obtain ⟨pages, hpages⟩ := h.pages
  obtain ⟨owner, howner⟩ :=
    (exists_optional_iff hpresent (Stat.read_neverOverflows _ _ w)).mpr h.owner
  obtain ⟨io, hio⟩ := (exists_optional_iff hpresent (Stat.read_neverOverflows _ _ w)).mpr h.io
  have hsame : (r.startTime != known.startTime) = false := by simp [hstart]
  let user := units.ticks r.userTicks
  let system := units.ticks r.systemTicks
  refine ⟨fun counters => {
    startTime := r.startTime
    uid := owner.bind fun o => o.uid
    cpu := { user, system, total := user.add system, share := none, hostShare := none }
    memory := {
      size := pages.size, resident := pages.resident, shared := pages.shared, share := none }
    io
    network := counters }, ?_⟩
  rw [metrics, Probe.outcome_bind_of_ok hrecord, hsame, if_neg Bool.false_ne_true,
    Probe.outcome_bind_of_ok (Probe.outcome_mapFailure_eq_ok.mpr hpages),
    Probe.outcome_bind_of_ok howner, Probe.outcome_bind_of_ok hio]
  cases network with
  | false => rfl
  | true =>
    simp only [networkOf, if_true, Probe.outcome_bind]
    cases (optional rootfs pid (readNetwork (file rootfs pid "net/dev"))).outcome w <;> rfl

/-- Unless reading the counters of a process fails, it gets to the network counters. -/
private theorem readsCounters_of_not_failed (hrecord : (record rootfs pid).outcome w = .ok r)
    (hstart : r.startTime = known.startTime)
    (h : ∀ failure, (metrics units rootfs pid known network).outcome w ≠ .error (.failed failure)) :
    ReadsCounters units rootfs pid w := by
  have hpresent := isPresent_of_record hrecord
  have hsame : (r.startTime != known.startTime) = false := by simp [hstart]
  rw [metrics, Probe.outcome_bind_of_ok hrecord, hsame, if_neg Bool.false_ne_true] at h
  have hpages := (Stat.read_neverOverflows (file rootfs pid "statm") (PageCounts.readLines units))
    |>.mapFailure (ProcessFailure.ofFile pid)
  rcases hpages.outcome_cases w with ⟨pages, hpages⟩ | ⟨failure, hfailure⟩
  · rw [Probe.outcome_bind_of_ok hpages] at h
    have howner := optional_neverOverflows rootfs pid
      (Stat.read_neverOverflows (file rootfs pid "status") ProcessOwner.readLines)
    rcases howner.outcome_cases w with ⟨owner, howner⟩ | ⟨failure, hfailure⟩
    · rw [Probe.outcome_bind_of_ok howner] at h
      have hio := optional_neverOverflows rootfs pid
        (Stat.read_neverOverflows (file rootfs pid "io") IoCounters.readLines)
      rcases hio.outcome_cases w with ⟨io, hio⟩ | ⟨failure, hfailure⟩
      · exact {
          pages := ⟨pages, Probe.outcome_mapFailure_eq_ok.mp hpages⟩
          owner :=
            (exists_optional_iff hpresent (Stat.read_neverOverflows _ _ w)).mp ⟨owner, howner⟩
          io := (exists_optional_iff hpresent (Stat.read_neverOverflows _ _ w)).mp ⟨io, hio⟩ }
      · exact absurd (Probe.outcome_bind_eq_error.mpr (Or.inl hfailure)) (h failure)
    · exact absurd (Probe.outcome_bind_eq_error.mpr (Or.inl hfailure)) (h failure)
  · exact absurd (Probe.outcome_bind_eq_error.mpr (Or.inl hfailure)) (h failure)

/-- Reading the counters of a process fails before it gets to the network counters, or ends as
these do. -/
private theorem metrics_cases (units : HostUnits) (network : Bool)
    (hrecord : (record rootfs pid).outcome w = .ok r) (hstart : r.startTime = known.startTime) :
    (¬ ReadsCounters units rootfs pid w ∧
      ∃ failure, (metrics units rootfs pid known network).outcome w = .error (.failed failure)) ∨
    (ReadsCounters units rootfs pid w ∧ ∃ combine : Option NetworkCounters → ProcessMetrics,
      (metrics units rootfs pid known network).outcome w =
        ((networkOf rootfs pid network).outcome w).map combine) := by
  by_cases hreads : ReadsCounters units rootfs pid w
  · exact Or.inr ⟨hreads, outcome_metrics_of_reads hrecord hstart hreads⟩
  · refine Or.inl ⟨hreads, ?_⟩
    refine Classical.byContradiction fun hnot => hreads ?_
    exact readsCounters_of_not_failed hrecord hstart fun failure h => hnot ⟨failure, h⟩

/-- Reading the counters of a process overflows exactly if it gets to the network counters and
these overflow. -/
private theorem outcome_metrics_eq_overflow (hrecord : (record rootfs pid).outcome w = .ok r)
    (hstart : r.startTime = known.startTime) :
    (metrics units rootfs pid known network).outcome w = .error .overflow ↔
      ReadsCounters units rootfs pid w ∧
        (networkOf rootfs pid network).outcome w = .error .overflow := by
  rcases metrics_cases units network hrecord hstart with
    ⟨hreads, failure, hmetrics⟩ | ⟨hreads, combine, hmetrics⟩
  · simp [hmetrics, hreads]
  · rw [hmetrics, and_iff_right hreads]
    cases (networkOf rootfs pid network).outcome w <;> simp [Except.map]

/-- The counters of a process are there exactly if reading them gets to the network counters and
these are there. -/
private theorem exists_metrics_iff (hrecord : (record rootfs pid).outcome w = .ok r)
    (hstart : r.startTime = known.startTime) :
    (∃ found, (metrics units rootfs pid known network).outcome w = .ok found) ↔
      ReadsCounters units rootfs pid w ∧
        ∃ counters, (networkOf rootfs pid network).outcome w = .ok counters := by
  rcases metrics_cases units network hrecord hstart with
    ⟨hreads, failure, hmetrics⟩ | ⟨hreads, combine, hmetrics⟩
  · simp [hmetrics, hreads]
  · rw [hmetrics, and_iff_right hreads]
    cases (networkOf rootfs pid network).outcome w <;> simp [Except.map]

end Metrics

/-- Some column of the network counters of a process, summed over the interfaces that count, is no
64-bit number. -/
def NetworkOverflows (rootfs : Path) (pid : Nat) (w : World) : Prop :=
  ∃ lines, (Stat.openLines (file rootfs pid "net/dev")).outcome w = .ok lines ∧
    ((NetworkCounters.listed 1 lines).foldl InterfaceCounters.add .zero).fits = false

/-- Reading the network file of a process overflows exactly if a sum over it does. -/
private theorem outcome_readNetwork_eq_overflow :
    (readNetwork (file rootfs pid "net/dev")).outcome w = .error .overflow ↔
      NetworkOverflows rootfs pid w := by
  constructor
  · intro h
    rcases Probe.outcome_bind_eq_error.mp h with h | ⟨lines, hlines, h⟩
    · exact absurd h (Stat.openLines_neverOverflows _ w)
    · rw [Probe.outcome_mapFailure_eq_overflow, Probe.outcome_ofOutcome,
        NetworkCounters.readLines_eq_overflow] at h
      exact ⟨lines, hlines, h⟩
  · rintro ⟨lines, hlines, h⟩
    refine Probe.outcome_bind_eq_error.mpr (Or.inr ⟨lines, hlines, ?_⟩)
    rw [Probe.outcome_mapFailure_eq_overflow, Probe.outcome_ofOutcome,
      NetworkCounters.readLines_eq_overflow]
    exact h

/-- The network counters overflow exactly if they are asked for and a sum over them does. -/
private theorem outcome_networkOf_eq_overflow (hpresent : isPresent w.files rootfs pid = true)
    {network : Bool} :
    (networkOf rootfs pid network).outcome w = .error .overflow ↔
      network = true ∧ NetworkOverflows rootfs pid w := by
  cases network with
  | false => simp [networkOf]
  | true =>
    rw [networkOf, if_pos rfl, outcome_optional_eq_overflow hpresent,
      outcome_readNetwork_eq_overflow, and_iff_right rfl]

/-- Network counters that do not overflow are there exactly if they are well formed or not asked
for. -/
private theorem exists_networkOf_iff (hpresent : isPresent w.files rootfs pid = true)
    {network : Bool} (hfits : ¬ (network = true ∧ NetworkOverflows rootfs pid w)) :
    (∃ counters, (networkOf rootfs pid network).outcome w = .ok counters) ↔
      (network = true → WellFormed (readNetwork (file rootfs pid "net/dev")) w) := by
  cases network with
  | false => simp [networkOf]
  | true =>
    rw [and_iff_right rfl, ← outcome_readNetwork_eq_overflow] at hfits
    rw [networkOf, if_pos rfl, exists_optional_iff hpresent hfits]
    exact ⟨fun h _ => h, fun h => h rfl⟩

end Procfs

namespace KernelSampler

variable {k : KernelSampler} {w : World} {pid : Nat}

/-- The cgroups of processes are read, and the block devices of this one overflow. -/
def BlockIoOverflows (k : KernelSampler) (pid : Nat) (w : World) : Prop :=
  ∃ accounting, k.cgroups = some accounting ∧ accounting.BlockIoOverflows pid w

/-- The cgroup of a process overflows exactly if its block devices do. -/
private theorem outcome_cgroup_eq_overflow :
    (k.cgroup pid).outcome w = .error .overflow ↔ k.BlockIoOverflows pid w := by
  unfold Sampler.cgroup BlockIoOverflows
  cases k.cgroups with
  | none => simp
  | some accounting =>
    simp only [Option.some.injEq, exists_eq_left']
    rw [← Cgroup.Accounting.outcome_read_eq_overflow, Probe.outcome_attempt_bind]
    rcases (accounting.read pid).outcome w with (failure | _) | reading
    · cases failure <;> simp
    · simp
    · simp

/-- A sum over the files of a process is no 64-bit number: either the network counters overflow, or
else they are no obstacle and the block devices of the cgroup overflow. -/
def SumsOverflow (k : KernelSampler) (pid : Nat) (w : World) : Prop :=
  (k.network = true ∧ Procfs.NetworkOverflows k.rootfs pid w) ∨
    (k.network = true →
      Procfs.WellFormed (Procfs.readNetwork (Procfs.file k.rootfs pid "net/dev")) w) ∧
    k.BlockIoOverflows pid w

/-- The counters of a process overflow when it is sampled under a filter. -/
structure CountersOverflow (k : KernelSampler) (filter : Option NameFilter) (w : World)
    (pid : Nat) : Prop where
  /-- The identity of the process can be read, and its name passes. -/
  passes : ∃ identity, (Procfs.identity k.rootfs pid).outcome w = .ok identity ∧
    Sampler.passes filter identity.name = true
  /-- Nothing ends the reading before the network counters. -/
  reads : Procfs.ReadsCounters k.units k.rootfs pid w
  /-- A sum is no 64-bit number. -/
  sums : k.SumsOverflow pid w

/-- Observing a process whose identity is known overflows exactly if a sum over its files does,
whatever was sampled before. -/
private theorem outcome_observe_eq_overflow {identity : ProcessIdentity}
    (hidentity : (Procfs.identity k.rootfs pid).outcome w = .ok identity)
    (previous : Option ProcessSample) (capacity : HostCapacity) :
    (k.observe identity previous capacity).outcome w = .error .overflow ↔
      Procfs.ReadsCounters k.units k.rootfs pid w ∧ k.SumsOverflow pid w := by
  obtain rfl := Procfs.identity_pid hidentity
  obtain ⟨r, hrecord, hr⟩ := Probe.outcome_bind_eq_ok.mp hidentity
  simp only [Probe.outcome_pure, Except.ok.injEq] at hr
  have hstart : r.startTime = identity.startTime := by rw [← hr]
  have hpresent := Procfs.isPresent_of_record hrecord
  have harguments := k.outcome_arguments hpresent previous
  have henvironment := k.outcome_environment hpresent previous
  have hask : (Sampler.ask .extended
      (k.table.metrics identity.pid identity k.network)).outcome w =
      (Procfs.metrics k.units k.rootfs identity.pid identity k.network).outcome w := by
    rw [outcome_ask, k.table_eq, Procfs.table]
  have hparts : (k.observe identity previous capacity).outcome w = .error .overflow ↔
      (Procfs.metrics k.units k.rootfs identity.pid identity k.network).outcome w =
        .error .overflow ∨
      (∃ found,
        (Procfs.metrics k.units k.rootfs identity.pid identity k.network).outcome w = .ok found) ∧
        (k.cgroup identity.pid).outcome w = .error .overflow := by
    simp only [Sampler.observe, Probe.outcome_bind_eq_error, hask, harguments, henvironment]
    simp
  rw [hparts, Procfs.outcome_metrics_eq_overflow hrecord hstart,
    Procfs.exists_metrics_iff hrecord hstart, Procfs.outcome_networkOf_eq_overflow hpresent,
    outcome_cgroup_eq_overflow, SumsOverflow, and_assoc, ← and_or_left]
  refine and_congr_right fun _ => ?_
  by_cases hnetwork : k.network = true ∧ Procfs.NetworkOverflows k.rootfs identity.pid w
  · simp [hnetwork]
  · rw [or_iff_right hnetwork, or_iff_right hnetwork,
      Procfs.exists_networkOf_iff hpresent hnetwork]

/-- Sampling a process alone overflows exactly if its counters do, whatever was sampled before. -/
theorem overflows_iff {filter : Option NameFilter} {before : History} :
    k.Overflows filter w before pid ↔ k.CountersOverflow filter w pid := by
  rw [Overflows, answer_eq, Sampler.sampling, Probe.outcome_bind_eq_error, outcome_identity]
  constructor
  · rintro (h | ⟨identity, hidentity, h⟩)
    · exact absurd h (Procfs.identity_neverOverflows k.rootfs pid w)
    · split at h
      · next hpasses =>
        rcases Probe.outcome_bind_eq_error.mp h with h | ⟨sample, -, h⟩
        · obtain ⟨hreads, hsums⟩ := (outcome_observe_eq_overflow hidentity _ _).mp h
          exact ⟨⟨identity, hidentity, hpasses⟩, hreads, hsums⟩
        · simp at h
      · simp at h
  · rintro ⟨⟨identity, hidentity, hpasses⟩, hreads, hsums⟩
    refine Or.inr ⟨identity, hidentity, ?_⟩
    rw [if_pos hpasses, Probe.outcome_bind_eq_error]
    exact Or.inl ((outcome_observe_eq_overflow hidentity _ _).mpr ⟨hreads, hsums⟩)

end KernelSampler

end ProcessMeter
