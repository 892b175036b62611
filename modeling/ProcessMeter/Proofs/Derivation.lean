import ProcessMeter.Proofs.LatestSample

/-!
# What is derived from the sample before

The derived figures of a sample compare it with the latest earlier sample of its number, which may
lie any number of steps back. If there is none, or it is of another process or of a later time,
nothing is derived. Otherwise each figure is the usage between exactly these two samples, and it is
missing only if one of its inputs is.
-/

namespace ProcessMeter

namespace ProcessSample

/-- The derived figures of a sample are the usage since an earlier one, `elapsed` before. -/
structure DerivedSince (s earlier : ProcessSample) (elapsed : Duration) (processors : Nat) :
    Prop where
  /-- The share of a processor is the one of the processor time used since. -/
  share : s.cpu.share = (Usage.processorTime earlier.cpu.total s.cpu.total elapsed processors).map
    fun used => used.share
  /-- So is the share of all processors, and both are there or both are not. -/
  hostShare : s.cpu.hostShare =
    (Usage.processorTime earlier.cpu.total s.cpu.total elapsed processors).map
      fun used => used.hostShare
  /-- The use of storage needs the counters of both samples, and both rates. -/
  storageRate : ∀ rate, s.storageRate = some rate ↔
    ∃ current before, s.io = some current ∧ earlier.io = some before ∧
      Usage.perSecond before.readBytes current.readBytes elapsed = some rate.read ∧
      Usage.perSecond before.writtenBytes current.writtenBytes elapsed = some rate.written
  /-- The usage of the cgroup needs two readings of one cgroup, both with a processor time. -/
  cgroupUsage : ∀ usage, (s.cgroup.bind fun c => c.cpuUsage) = some usage ↔
    ∃ current before, s.cgroup = some current ∧ earlier.cgroup = some before ∧
      before.path = current.path ∧ before.version = current.version ∧
      ∃ used usedBefore, current.cpuTime? = some used ∧ before.cpuTime? = some usedBefore ∧
        Usage.processorTime usedBefore used elapsed processors = some usage

/-- The shares of a processor time without shares are those of the usage. -/
private theorem cpuSince_shares {cpu : ProcessCpu} (hshare : cpu.share = none)
    (hhostShare : cpu.hostShare = none) (previous : ProcessCpu) (elapsed : Duration)
    (processors : Nat) :
    (cpuSince cpu previous elapsed processors).total = cpu.total ∧
    (cpuSince cpu previous elapsed processors).share =
      (Usage.processorTime previous.total cpu.total elapsed processors).map
        (fun used => used.share) ∧
    (cpuSince cpu previous elapsed processors).hostShare =
      (Usage.processorTime previous.total cpu.total elapsed processors).map
        fun used => used.hostShare := by
  unfold cpuSince
  cases Usage.processorTime previous.total cpu.total elapsed processors with
  | none => exact ⟨rfl, hshare, hhostShare⟩
  | some used => exact ⟨rfl, rfl, rfl⟩

/-- The use of storage has a value exactly if both samples have counters and both rates exist. -/
private theorem rateSince?_eq_some {s earlier : ProcessSample} {elapsed : Duration}
    {rate : StorageRate} :
    s.rateSince? earlier elapsed = some rate ↔
      ∃ current before, s.io = some current ∧ earlier.io = some before ∧
        Usage.perSecond before.readBytes current.readBytes elapsed = some rate.read ∧
        Usage.perSecond before.writtenBytes current.writtenBytes elapsed = some rate.written := by
  obtain ⟨read, written⟩ := rate
  unfold rateSince?
  cases s.io with
  | none => simp
  | some current =>
    cases earlier.io with
    | none => simp
    | some before =>
      simp only [Option.some.injEq, exists_and_left, exists_eq_left']
      cases Usage.perSecond before.readBytes current.readBytes elapsed with
      | none => simp
      | some _ =>
        cases Usage.perSecond before.writtenBytes current.writtenBytes elapsed with
        | none => simp
        | some _ => simp

end ProcessSample

/-- The usage of a cgroup without one has a value exactly if both readings are of one cgroup and
have a processor time. -/
theorem CgroupReading.usageSince?_eq_some {current before : CgroupReading}
    (hnone : current.cpuUsage = none) {elapsed : Duration} {processors : Nat}
    {usage : Usage.CpuShare} :
    current.usageSince? before elapsed processors = some usage ↔
      before.path = current.path ∧ before.version = current.version ∧
      ∃ used usedBefore, current.cpuTime? = some used ∧ before.cpuTime? = some usedBefore ∧
        Usage.processorTime usedBefore used elapsed processors = some usage := by
  unfold usageSince?
  split
  · next h =>
    cases before.cpuTime? with
    | none => simp [hnone]
    | some usedBefore =>
      cases current.cpuTime? with
      | none => simp [hnone]
      | some used => simp [h]
  · next h =>
    simp only [hnone, reduceCtorEq, false_iff]
    rintro ⟨hpath, hversion, -⟩
    exact h ⟨hpath, hversion⟩

namespace ProcessSample

/-- What follows from an earlier sample in one without derived figures is the usage since. -/
theorem Underived.after {raw : ProcessSample} (hraw : raw.Underived) (earlier : ProcessSample)
    (elapsed : Duration) (capacity : HostCapacity) :
    (raw.after earlier elapsed capacity).DerivedSince earlier elapsed capacity.processors := by
  obtain ⟨htotal, hshare, hhostShare⟩ :=
    cpuSince_shares hraw.share hraw.hostShare earlier.cpu elapsed capacity.processors
  refine ⟨?_, ?_, ?_, ?_⟩
  · simpa only [ProcessSample.after, htotal] using hshare
  · simpa only [ProcessSample.after, htotal] using hhostShare
  · intro rate
    simp only [ProcessSample.after, hraw.storageRate, Option.or_none]
    exact rateSince?_eq_some
  · intro usage
    simp only [ProcessSample.after]
    cases hcgroup : raw.cgroup with
    | none => simp [cgroupSince]
    | some current =>
      have hnone : current.cpuUsage = none := by simpa [hcgroup] using hraw.cgroupUsage
      cases earlier.cgroup with
      | none => simp [cgroupSince, hnone]
      | some before =>
        refine (CgroupReading.usageSince?_eq_some hnone).trans ⟨?_, ?_⟩
        · intro h
          exact ⟨current.since before elapsed capacity.processors, before, rfl, rfl, h⟩
        · rintro ⟨_, _, hcurrent, hbefore, h⟩
          obtain rfl := Option.some.inj hcurrent
          obtain rfl := Option.some.inj hbefore
          exact h

/-- The share of the memory is no derived figure of an earlier sample. -/
theorem Underived.withMemoryShare {raw : ProcessSample} (hraw : raw.Underived)
    (capacity : HostCapacity) : (raw.withMemoryShare capacity).Underived :=
  ⟨hraw.share, hraw.hostShare, hraw.storageRate, hraw.cgroupUsage⟩

/-- Nothing is derived without an earlier sample of the same process that is not of a later
time. -/
theorem Underived.derive_of_unrelated {raw : ProcessSample} (hraw : raw.Underived)
    {previous : Option ProcessSample} (capacity : HostCapacity)
    (h : ∀ earlier, previous = some earlier → earlier.identity.isSame raw.identity = true →
      raw.time.nanos < earlier.time.nanos) :
    (raw.derive previous capacity).Underived := by
  have hmemory := hraw.withMemoryShare capacity
  cases previous with
  | none => exact hmemory
  | some earlier =>
    simp only [derive]
    split
    · next hsame =>
      have hlater := h earlier rfl hsame
      have hnone : (raw.withMemoryShare capacity).time.since earlier.time = none :=
        if_neg (Int.not_le.mpr hlater)
      rw [hnone]
      exact hmemory
    · exact hmemory

/-- From an earlier sample of the same process everything is derived that follows from it. -/
theorem Underived.derive_of_same {raw earlier : ProcessSample} (hraw : raw.Underived)
    (capacity : HostCapacity) (hsame : earlier.identity.isSame raw.identity = true)
    {elapsed : Duration} (helapsed : raw.time.since earlier.time = some elapsed) :
    (raw.derive (some earlier) capacity).DerivedSince earlier elapsed capacity.processors := by
  have hsame' : earlier.identity.isSame (raw.withMemoryShare capacity).identity = true := hsame
  have helapsed' : (raw.withMemoryShare capacity).time.since earlier.time = some elapsed := helapsed
  simp only [derive, hsame', helapsed', if_true]
  exact (hraw.withMemoryShare capacity).after earlier elapsed capacity

end ProcessSample

namespace Observation

variable (o : Observation)

/-- What was known of the host at an observation. -/
def capacity : HostCapacity := o.sampler.capacityAt o.world

/-- A sample is derived from figures of its own, and from the entry of its number just before if
that is of the same process. -/
theorem exists_underived :
    ∃ raw : ProcessSample, raw.Underived ∧ raw.identity = o.sample.identity ∧
      raw.time = o.world.now ∧
      o.sample = raw.derive (Sampler.previousOf o.before raw.identity) o.capacity := by
  obtain ⟨identity, -, -, -, hobserve⟩ := KernelSampler.exists_observe_of_sampled o.answer_eq
  obtain ⟨raw, hraw, rfl, htime, hsample⟩ := KernelSampler.exists_underived_of_observe hobserve
  exact ⟨raw, hraw, by rw [hsample, ProcessSample.derive_identity], htime, hsample⟩

/-- A sample carries the time of its observation. -/
theorem sample_time : o.sample.time = o.world.now := by
  obtain ⟨raw, -, -, htime, hsample⟩ := o.exists_underived
  rw [hsample, ProcessSample.derive_time, htime]

/-- The share of the memory depends on the resident part and on the host only. -/
theorem memory_share : o.sample.memory.share = o.capacity.memoryTotal.bind fun total =>
    Usage.fraction o.sample.memory.resident total := by
  obtain ⟨raw, -, -, -, hsample⟩ := o.exists_underived
  rw [hsample, ProcessSample.derive_memory]

/-- Nothing is derived if the entry before is of another process or of a later time, or if there is
none. -/
theorem underived (h : ∀ earlier, o.before.get? o.pid = some earlier →
    earlier.identity.startTime ≠ o.sample.identity.startTime ∨
      o.sample.time.nanos < earlier.time.nanos) : o.sample.Underived := by
  obtain ⟨raw, hraw, hidentity, htime, hsample⟩ := o.exists_underived
  have hpid : raw.identity.pid = o.pid := by rw [hidentity, o.sample_pid]
  rw [hsample]
  refine hraw.derive_of_unrelated o.capacity fun earlier hprevious hsame => ?_
  rw [Sampler.previousOf, hpid, Option.filter_eq_some_iff] at hprevious
  rcases h earlier hprevious.1 with hstart | hlater
  · have heq := (Bool.and_eq_true_iff.mp hsame).2
    exact absurd (hidentity ▸ beq_iff_eq.mp heq) hstart
  · rwa [htime, ← o.sample_time]

/-- Everything is derived from the entry before if that is of the same process and of no later
time. -/
theorem derivedSince {earlier : ProcessSample} (hbefore : o.before.get? o.pid = some earlier)
    (hstart : earlier.identity.startTime = o.sample.identity.startTime) {elapsed : Duration}
    (helapsed : o.sample.time.since earlier.time = some elapsed) :
    o.sample.DerivedSince earlier elapsed o.capacity.processors := by
  obtain ⟨raw, hraw, hidentity, htime, hsample⟩ := o.exists_underived
  have hpid : raw.identity.pid = o.pid := by rw [hidentity, o.sample_pid]
  have hsame : earlier.identity.isSame raw.identity = true := by
    rw [ProcessIdentity.isSame, hpid, History.pid_of_get?_eq_some hbefore, hidentity, hstart]
    simp
  have hprevious : Sampler.previousOf o.before raw.identity = some earlier := by
    rw [Sampler.previousOf, hpid, Option.filter_eq_some_iff]
    exact ⟨hbefore, hsame⟩
  rw [o.sample_time, ← htime] at helapsed
  rw [hsample, hprevious]
  exact hraw.derive_of_same o.capacity hsame helapsed

end Observation

/-- Every observation among the changes was made on the history that the changes before it have
left. -/
def Threaded (history : History) : List Change → Prop
  | [] => True
  | change :: rest => (∀ o, change = .observed o → o.before = history) ∧
      Threaded (change.apply history) rest

/-- Changes in two rows follow each other if those of the first do, and then those of the second. -/
theorem threaded_append {history : History} {changes more : List Change} :
    Threaded history (changes ++ more) ↔
      Threaded history changes ∧ Threaded (Change.applyAll history changes) more := by
  induction changes generalizing history with
  | nil => exact (and_iff_right trivial).symm
  | cons change rest ih => exact (and_congr_right fun _ => ih).trans and_assoc.symm

/-- An observation in the middle was made on what the changes before it have left. -/
theorem Threaded.before_eq {history : History} {older newer : List Change} {o : Observation}
    (h : Threaded history (older ++ .observed o :: newer)) :
    o.before = Change.applyAll history older := by
  induction older generalizing history with
  | nil => exact h.1 o rfl
  | cons change rest ih => exact ih h.2

/-- A batch observes each process on the history that the processes before it have left. -/
theorem observedAmong_threaded (k : KernelSampler) (w : World) (filter : NameFilter)
    (before : History) (pids : List Nat) :
    Threaded before ((k.observedAmong w filter before pids).map .observed) := by
  induction pids generalizing before with
  | nil => trivial
  | cons pid rest ih =>
    rw [KernelSampler.observedAmong]
    split
    · trivial
    · split
      · next o ho =>
        obtain ⟨-, -, -, hbefore, -⟩ := k.eq_of_observation? ho
        refine ⟨?_, ih _⟩
        rintro _ ⟨rfl⟩
        exact hbefore
      · exact ih before

/-- A single observation is made on the history just before. -/
theorem observation?_threaded (k : KernelSampler) (w : World) (filter : Option NameFilter)
    (before : History) (pid : Nat) :
    Threaded before ((k.observation? filter w before pid).toList.map .observed) := by
  cases ho : k.observation? filter w before pid with
  | none => trivial
  | some o =>
    obtain ⟨-, -, -, hbefore, -⟩ := k.eq_of_observation? ho
    refine ⟨?_, trivial⟩
    rintro _ ⟨rfl⟩
    exact hbefore

/-- The changes of a step follow each other from the history before it on. -/
theorem Step.threaded (step : Step) (before : History) :
    Threaded before (step.changes before) := by
  obtain ⟨w, operation⟩ := step
  cases operation with
  | sampleIfPassing k pid filter => exact observation?_threaded k w filter before pid
  | sampleProcess k pid => exact observation?_threaded k w none before pid
  | sampleOwn k =>
    change Threaded before (((Operation.sampleOwn k).observations w before).map .observed)
    rw [Operation.observations]
    split
    · exact observation?_threaded k w none before _
    · trivial
  | sampleMatching k filter top =>
    change Threaded before ((k.observedMatching w filter before).map .observed)
    unfold KernelSampler.observedMatching
    split
    · trivial
    · split
      · exact observedAmong_threaded k w filter before _
      · trivial
  | listMatching k filter => trivial
  | stateOf k pid => trivial
  | remove pid => exact ⟨by simp, trivial⟩
  | clear => exact ⟨by simp, trivial⟩
  | retain pids => exact ⟨by simp, trivial⟩

/-- Every observation of a run was made on the history that the run had left so far. -/
theorem changesFrom_threaded (history : History) (run : List Step) :
    Threaded history (changesFrom history run) := by
  induction run generalizing history with
  | nil => trivial
  | cons step rest ih =>
    refine threaded_append.mpr ⟨step.threaded history, ?_⟩
    rw [← step.left_eq]
    exact ih _

/-- In any run, what an observation finds in the history is the latest sample of its number. Without
one, or with one of another start or of a later time, nothing is derived; otherwise every derived
figure is the usage between the two samples. -/
theorem derived_from_latest {run : List Step} {older newer : List Change} {o : Observation}
    (h : changeLog run = older ++ .observed o :: newer) :
    (∃ step ∈ run, o.world = step.world ∧ o.sample.time = step.world.now) ∧
    (∀ earlier, o.before.get? o.pid = some earlier ↔ LatestIn older o.pid earlier) ∧
    ((∀ earlier, o.before.get? o.pid = some earlier →
        earlier.identity.startTime ≠ o.sample.identity.startTime ∨
          o.sample.time.nanos < earlier.time.nanos) →
      o.sample.Underived) ∧
    (∀ earlier, o.before.get? o.pid = some earlier →
      earlier.identity.startTime = o.sample.identity.startTime →
      ∀ elapsed, o.sample.time.since earlier.time = some elapsed →
        o.sample.DerivedSince earlier elapsed o.capacity.processors) ∧
    o.sample.memory.share = o.capacity.memoryTotal.bind fun total =>
      Usage.fraction o.sample.memory.resident total := by
  have hmem : .observed o ∈ changeLog run := by
    rw [h]
    exact List.mem_append_right _ List.mem_cons_self
  have hthreaded : Threaded .empty (older ++ .observed o :: newer) := by
    rw [← h]
    exact changesFrom_threaded .empty run
  obtain ⟨step, hstep, hworld⟩ := exists_step_of_mem_changesFrom hmem
  refine ⟨⟨step, hstep, hworld, hworld ▸ o.sample_time⟩, fun earlier => ?_, o.underived,
    fun earlier hbefore hstart elapsed helapsed => o.derivedSince hbefore hstart helapsed,
    o.memory_share⟩
  rw [hthreaded.before_eq]
  exact get?_applyAll_empty older o.pid earlier

section OneSecond

open KernelSampler

/-- A process that has used ten clock ticks at the start of time. -/
private def earlyWorld : World := ⟨kernelTree (processFiles 1 10), ⟨0⟩⟩

/-- The same process a second and twenty ticks later. -/
private def lateWorld : World := ⟨kernelTree (processFiles 1 30), ⟨nanosPerSecond⟩⟩

/-- A process is sampled twice, a second apart. -/
def oneSecond : List Step :=
  [⟨earlyWorld, .sampleProcess (plain "/".toList false) 1⟩,
    ⟨lateWorld, .sampleProcess (plain "/".toList false) 1⟩]

/-- A process that is observed comes first in the log of what follows. -/
theorem changesFrom_sampleProcess {k : KernelSampler} {w : World} {before : History}
    {pid : Nat} {o : Observation} (ho : k.observation? none w before pid = some o)
    (rest : List Step) :
    changesFrom before (⟨w, .sampleProcess k pid⟩ :: rest) =
      .observed o :: changesFrom (before.insert o.sample) rest := by
  have hchanges : Step.changes ⟨w, .sampleProcess k pid⟩ before = [.observed o] := by
    simp [Step.changes, Operation.changes, Operation.requests, Operation.observations, ho]
  rw [changesFrom, Step.left_eq, hchanges]
  rfl

/-- The first sample is taken. -/
private theorem observed_early :
    ((plain "/".toList false).observation? none earlyWorld .empty 1).isSome = true := by
  decide +kernel

/-- The second sample is taken, with the first one in the history. -/
private theorem observed_late :
    ((plain "/".toList false).observation? none lateWorld
      (History.empty.insert (Option.get _ observed_early).sample) 1).isSome = true := by
  decide +kernel

/-- Nothing is derived in the first sample of a process, and the second one is derived from the
first. -/
theorem derived_from_latest_oneSecond :
    ∃ first second, changeLog oneSecond = [.observed first, .observed second] ∧
      first.sample.Underived ∧ second.sample.DerivedSince first.sample ⟨nanosPerSecond⟩ 1 := by
  have hfirst := (Option.some_get observed_early).symm
  have hsecond := (Option.some_get observed_late).symm
  have hlog : changeLog oneSecond =
      [.observed (Option.get _ observed_early), .observed (Option.get _ observed_late)] := by
    rw [changeLog, oneSecond, changesFrom_sampleProcess hfirst, changesFrom_sampleProcess hsecond,
      changesFrom]
  have hstart : (Option.get _ observed_early).sample.identity.startTime =
      (Option.get _ observed_late).sample.identity.startTime := by
    decide +kernel
  have helapsed : (Option.get _ observed_late).sample.time.since
      (Option.get _ observed_early).sample.time = some ⟨nanosPerSecond⟩ := by
    decide +kernel
  have hprocessors : (Option.get _ observed_late).capacity.processors = 1 := by
    decide +kernel
  generalize Option.get _ observed_late = second at *
  generalize Option.get _ observed_early = first at *
  obtain ⟨-, -, -, hempty, hone⟩ := eq_of_observation? _ hfirst
  obtain ⟨-, -, -, -, hone'⟩ := eq_of_observation? _ hsecond
  have hlogFirst : changeLog oneSecond = [] ++ .observed first :: [.observed second] := hlog
  have hlogSecond : changeLog oneSecond = [.observed first] ++ .observed second :: [] := hlog
  refine ⟨first, second, hlog, (derived_from_latest hlogFirst).2.2.1 ?_, ?_⟩
  · intro earlier hbefore
    simp [hempty] at hbefore
  · obtain ⟨-, hlatest, -, hsince, -⟩ := derived_from_latest hlogSecond
    have hbefore : second.before.get? second.pid = some first.sample :=
      (hlatest first.sample).mpr ⟨[], first, [], rfl, hone.trans hone'.symm, rfl, by simp⟩
    rw [← hprocessors]
    exact hsince first.sample hbefore hstart _ helapsed

end OneSecond

end ProcessMeter
