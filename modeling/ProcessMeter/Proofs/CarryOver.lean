import ProcessMeter.Proofs.Presence
import ProcessMeter.Proofs.Stretch

/-!
# What is carried over from sample to sample

The command line and the environment of a process are not read each time. The environment is read at
the first observation of a stretch and kept from then on. The arguments are read until there are
some, and may then be kept. So both come from the files of the process itself, at the moment of an
observation of the same stretch.
-/

namespace ProcessMeter

namespace Observation

variable (o : Observation)

/-- What the command line file holds at an observation. -/
def argumentsRead : List Text := Procfs.argumentsIn o.world.files o.sampler.rootfs o.pid

/-- What the environment file holds at an observation, as far as its sampler is to report it. -/
def environmentRead : TextMap Text :=
  Procfs.environmentIn o.world.files o.sampler.rootfs o.pid o.sampler.shownVariables

/-- A process is present at its observation, and its sample has the arguments and the environment
that its sampler found. -/
private theorem exists_found : ∃ arguments environment,
    Procfs.isPresent o.world.files o.sampler.rootfs o.pid = true ∧
    (o.sampler.arguments o.pid o.previous).outcome o.world = .ok arguments ∧
    (o.sampler.environment o.pid o.previous).outcome o.world = .ok environment ∧
    o.sample.arguments = arguments ∧ o.sample.environment = environment := by
  obtain ⟨identity, hidentity, hpid, -, hobserve⟩ :=
    KernelSampler.exists_observe_of_sampled o.answer_eq
  obtain ⟨metrics, arguments, environment, cgroup, -, harguments, henvironment, -, hsample⟩ :=
    KernelSampler.exists_parts_of_observe hobserve
  obtain ⟨r, hrecord, -⟩ := Probe.outcome_bind_eq_ok.mp hidentity
  have hprevious : o.previous = Sampler.previousOf o.before identity := by
    rw [previous, hsample, ProcessSample.derive_identity]
  rw [hpid] at harguments henvironment
  rw [hprevious]
  exact ⟨arguments, environment, Procfs.isPresent_of_record hrecord, harguments, henvironment,
    by rw [hsample, ProcessSample.derive_arguments],
    by rw [hsample, ProcessSample.derive_environment]⟩

/-- The arguments of a sample are those of the previous one, if there are some and they are kept,
and else what the command line file holds. -/
theorem arguments_eq : o.sample.arguments =
    match o.previous with
    | some earlier =>
      if o.sampler.keepArguments && !earlier.arguments.isEmpty then earlier.arguments
      else o.argumentsRead
    | none => o.argumentsRead := by
  obtain ⟨arguments, environment, hpresent, harguments, -, rfl, -⟩ := o.exists_found
  exact Except.ok.inj (harguments.symm.trans (o.sampler.outcome_arguments hpresent o.previous))

/-- The environment of a sample is that of the previous one, or what the environment file holds if
there is none. Without names to report it is empty in any case. -/
theorem environment_eq : o.sample.environment =
    if o.sampler.shownVariables.isEmpty then .empty
    else
      match o.previous with
      | some earlier => earlier.environment
      | none => o.environmentRead := by
  obtain ⟨arguments, environment, hpresent, -, henvironment, -, rfl⟩ := o.exists_found
  exact Except.ok.inj (henvironment.symm.trans (o.sampler.outcome_environment hpresent o.previous))

/-- Arguments stay the same as soon as there are some. -/
def KeepsArguments (earlier o : Observation) : Prop :=
  earlier.sample.arguments ≠ [] → o.sample.arguments = earlier.sample.arguments

instance : Trans KeepsArguments KeepsArguments KeepsArguments where
  trans hfirst hsecond hsome := (hsecond (hfirst hsome ▸ hsome)).trans (hfirst hsome)

end Observation

namespace Stretch

variable {log newer : List Change} {run : List Step} {k : KernelSampler}

section

variable (hlog : changeLog run = log ++ newer) (stretch : Stretch log)
  {earlier later : List Observation} {o : Observation}
  (ho : stretch.observations = earlier ++ o :: later)
include hlog ho

/-- Whoever samples in a stretch, the environment is the one that the first observation read, unless
a sampler since then has no names to report. -/
theorem environment_eq : o.sample.environment =
    if (earlier ++ [o]).any fun p => p.sampler.shownVariables.isEmpty then .empty
    else stretch.first.environmentRead := by
  induction earlier using List.reverseRecOn generalizing o later with
  | nil =>
    obtain rfl := first_eq ho
    rw [Observation.environment_eq, stretch.previous_first hlog]
    simp
  | append_singleton front p ih =>
    rw [List.append_assoc, List.singleton_append] at ho
    rw [Observation.environment_eq, (stretch.follows hlog ho).previous_eq]
    dsimp only
    rw [ih ho]
    by_cases hempty : o.sampler.shownVariables.isEmpty = true
    · simp [hempty]
    · simp [hempty]

end

/-- What the samples of a stretch carry over from one to the next. -/
structure CarriesOver (stretch : Stretch log) (k : KernelSampler) : Prop where
  /-- All observations are of the same process, and of no other one of its number. -/
  same : ∀ o ∈ stretch.observations, o.pid = stretch.first.pid ∧
    o.sample.identity.startTime = stretch.first.sample.identity.startTime
  /-- Without names to report there is no environment. -/
  environmentEmpty : k.shownVariables.isEmpty = true → ∀ o ∈ stretch.observations,
    o.sample.environment = .empty
  /-- With some, the first environment is what the file holds of them at that moment. -/
  environmentRead : k.shownVariables.isEmpty = false →
    stretch.first.sample.environment = Procfs.environmentIn
      stretch.first.world.files k.rootfs stretch.first.pid k.shownVariables
  /-- All others are the same. -/
  environmentKept : ∀ o ∈ stretch.observations,
    o.sample.environment = stretch.first.sample.environment
  /-- Arguments that are to be kept stay the same as soon as there are some. -/
  argumentsKept : k.keepArguments = true →
    stretch.observations.Pairwise Observation.KeepsArguments
  /-- As long as there are none, or if they are not kept, they are those in the file. -/
  argumentsRead : ∀ earlier o later, stretch.observations = earlier ++ o :: later →
    (k.keepArguments = false ∨ ∀ p ∈ earlier, p.sample.arguments = []) →
    o.sample.arguments = Procfs.argumentsIn o.world.files k.rootfs o.pid
  /-- In any case they were in the file at this or an earlier observation of the stretch. -/
  argumentsOwn : ∀ earlier o later, stretch.observations = earlier ++ o :: later →
    ∃ source ∈ earlier ++ [o], o.sample.arguments =
      Procfs.argumentsIn source.world.files k.rootfs stretch.first.pid
  /-- The command line is the arguments with single blanks between them. -/
  commandLine : ∀ o ∈ stretch.observations,
    o.sample.commandLine = [' '].intercalate o.sample.arguments

section

variable (hlog : changeLog run = log ++ newer) (stretch : Stretch log)
  (hone : ∀ o ∈ stretch.observations, o.sampler = k)
include hlog hone

/-- Of one sampler, all observations of a stretch have the environment that the first one read. -/
private theorem environment_eq_of_one {o : Observation} (ho : o ∈ stretch.observations) :
    o.sample.environment =
      if k.shownVariables.isEmpty then .empty
      else Procfs.environmentIn stretch.first.world.files k.rootfs stretch.first.pid
        k.shownVariables := by
  obtain ⟨earlier, later, hobservations⟩ := List.append_of_mem ho
  have hfirst : stretch.first.sampler = k := hone _ List.mem_cons_self
  have hempty : (earlier ++ [o]).any (fun p => p.sampler.shownVariables.isEmpty) =
      k.shownVariables.isEmpty := by
    rw [Bool.eq_iff_iff, List.any_eq_true]
    constructor
    · rintro ⟨p, hp, hempty⟩
      have hmem : p ∈ stretch.observations := by
        rw [hobservations, List.append_cons]
        exact List.mem_append_left _ hp
      rwa [← hone p hmem]
    · exact fun hempty => ⟨o, by simp, by rwa [hone o ho]⟩
  rw [stretch.environment_eq hlog hobservations, hempty, Observation.environmentRead, hfirst]

omit hlog in
/-- The arguments of an observation that follows another one. -/
private theorem arguments_of_follows {p o : Observation} (ho : o ∈ stretch.observations)
    (hfollows : p.Follows o) : o.sample.arguments =
      if k.keepArguments && !p.sample.arguments.isEmpty then p.sample.arguments
      else Procfs.argumentsIn o.world.files k.rootfs o.pid := by
  rw [Observation.arguments_eq, hfollows.previous_eq, Observation.argumentsRead, hone o ho]

/-- What one sampler observes of a process is carried over as its settings say. -/
private theorem carriesOver_of_one : stretch.CarriesOver k where
  same _ := stretch.same_of_mem
  environmentEmpty hempty o ho := by
    rw [stretch.environment_eq_of_one hlog hone ho, if_pos hempty]
  environmentRead hsome := by
    rw [stretch.environment_eq_of_one hlog hone List.mem_cons_self, hsome,
      if_neg Bool.false_ne_true]
  environmentKept o ho := by
    rw [stretch.environment_eq_of_one hlog hone ho,
      stretch.environment_eq_of_one hlog hone List.mem_cons_self]
  argumentsKept hkeep := by
    have hchain : stretch.observations.IsChain Observation.KeepsArguments := by
      refine (stretch.isChain hlog).imp_of_mem_imp fun p o _ ho hfollows hp => ?_
      rw [stretch.arguments_of_follows hone ho hfollows, hkeep, if_pos (by simpa using hp)]
    exact List.isChain_iff_pairwise.mp hchain
  argumentsRead earlier o later ho hnone := by
    have hmem : o ∈ stretch.observations := ho ▸ List.mem_append_right _ List.mem_cons_self
    rcases List.eq_nil_or_concat' earlier with rfl | ⟨front, p, rfl⟩
    · obtain rfl := first_eq ho
      rw [Observation.arguments_eq, stretch.previous_first hlog, Observation.argumentsRead,
        hone _ hmem]
    · rw [List.append_assoc, List.singleton_append] at ho
      rw [stretch.arguments_of_follows hone hmem (stretch.follows hlog ho), if_neg]
      rcases hnone with hkeep | hnone
      · simp [hkeep]
      · simp [hnone p (by simp)]
  argumentsOwn earlier o later ho := by
    induction earlier using List.reverseRecOn generalizing o later with
    | nil =>
      obtain rfl := first_eq ho
      have hfirst : stretch.first.sampler = k := hone _ List.mem_cons_self
      refine ⟨stretch.first, by simp, ?_⟩
      rw [Observation.arguments_eq, stretch.previous_first hlog, Observation.argumentsRead, hfirst]
    | append_singleton front p ih =>
      have hmem : o ∈ stretch.observations := ho ▸ List.mem_append_right _ List.mem_cons_self
      rw [List.append_assoc, List.singleton_append] at ho
      rw [stretch.arguments_of_follows hone hmem (stretch.follows hlog ho)]
      split
      · obtain ⟨source, hsource, harguments⟩ := ih p (o :: later) ho
        exact ⟨source, List.mem_append_left _ hsource, harguments⟩
      · exact ⟨o, by simp, by rw [(stretch.same_of_mem hmem).1]⟩
  commandLine _ _ := rfl

end

end Stretch

/-- In any run of one sampler on one history, every stretch carries over the environment of its
first observation, and the arguments if they are to be kept; and every observation belongs to such
a stretch. -/
theorem changeLog_carriesOver {run : List Step} {k : KernelSampler}
    (hone : ∀ step ∈ run, ∀ other, step.operation.sampler? = some other → other = k)
    {log newer : List Change} (hlog : changeLog run = log ++ newer) :
    (∀ stretch : Stretch log, stretch.CarriesOver k) ∧
    ∀ older o, log = older ++ [.observed o] →
      ∃ stretch : Stretch log, stretch.observations.getLast? = some o := by
  refine ⟨fun stretch => stretch.carriesOver_of_one hlog fun o ho => ?_, ?_⟩
  · obtain ⟨step, hstep, hsampler, -⟩ := Stretch.exists_sampling hlog ho
    exact hone step hstep _ hsampler
  · rintro older o rfl
    exact Stretch.exists_stretch older o

section Changed

open KernelSampler

/-- A sampler that reports all variables and keeps arguments. -/
private def keeper : KernelSampler :=
  { plain ['/'] false with keepArguments := true, shownVariables := everyName }

/-- A process with some arguments and variables at a moment. -/
private def worldWith (arguments environment : Text) (now : Nat) : World :=
  ⟨kernelTree (processFiles 1 10 ++ [processFile 1 ["cmdline".toList] arguments,
    processFile 1 ["environ".toList] environment]), ⟨now⟩⟩

/-- A process is sampled twice, and changes its arguments and variables in between. -/
private def changed : List Step :=
  [⟨worldWith "serve\x00all".toList "MODE=calm".toList 0, .sampleProcess keeper 1⟩,
    ⟨worldWith "rest".toList "MODE=busy".toList 1, .sampleProcess keeper 1⟩]

/-- The first command line is observed. -/
private theorem observed_serving : (keeper.observation? none
    (worldWith "serve\x00all".toList "MODE=calm".toList 0) .empty 1).isSome = true := by
  decide +kernel

/-- The second one is observed, with the first in the history. -/
private theorem observed_resting : (keeper.observation? none
    (worldWith "rest".toList "MODE=busy".toList 1)
    (History.empty.insert (Option.get _ observed_serving).sample) 1).isSome = true := by
  decide +kernel

/-- The second sample shows the arguments and variables of the first one. -/
theorem changeLog_carriesOver_changed :
    ∃ first second, changeLog changed = [.observed first, .observed second] ∧
      first.sample.commandLine = "serve all".toList ∧
      first.sample.environment = .ofList [("MODE".toList, "calm".toList)] ∧
      second.sample.arguments = first.sample.arguments ∧
      second.sample.environment = first.sample.environment := by
  have hfirst := (Option.some_get observed_serving).symm
  have hsecond := (Option.some_get observed_resting).symm
  have hlog : changeLog changed =
      [.observed (Option.get _ observed_serving), .observed (Option.get _ observed_resting)] := by
    rw [changeLog, changed, changesFrom_sampleProcess hfirst, changesFrom_sampleProcess hsecond,
      changesFrom]
  have hcommandLine : (Option.get _ observed_serving).sample.commandLine = "serve all".toList := by
    decide +kernel
  have henvironment : (Option.get _ observed_serving).sample.environment =
      .ofList [("MODE".toList, "calm".toList)] := by
    decide +kernel
  have hstart : (Option.get _ observed_resting).sample.identity.startTime =
      (Option.get _ observed_serving).sample.identity.startTime := by
    decide +kernel
  generalize Option.get _ observed_resting = second at *
  generalize Option.get _ observed_serving = first at *
  obtain ⟨-, -, -, -, hpid⟩ := eq_of_observation? _ hfirst
  obtain ⟨-, -, -, -, hpid'⟩ := eq_of_observation? _ hsecond
  have hone : ∀ step ∈ changed, ∀ other, step.operation.sampler? = some other →
      other = keeper := by
    simp [changed, Operation.sampler?, eq_comm]
  let stretch : Stretch [.observed first, .observed second] := {
    older := []
    first
    later := [.observed second]
    log_eq := rfl
    begins := by
      rintro earlier ⟨older, o, newer, hnil, -⟩
      simp at hnil
    lasts := fun change hchange _ => ⟨second, List.mem_singleton.mp hchange, hstart⟩ }
  have hobservations : stretch.observations = [first, second] := by
    simp [Stretch.observations, stretch, Change.observationOf?, hpid, hpid']
  have hcarries := (changeLog_carriesOver hone (by rw [hlog, List.append_nil])).1 stretch
  refine ⟨first, second, hlog, hcommandLine, henvironment, ?_, ?_⟩
  · have hkept := hcarries.argumentsKept rfl
    rw [hobservations] at hkept
    refine List.rel_of_pairwise_cons hkept List.mem_cons_self fun hnone => ?_
    simp [ProcessSample.commandLine, hnone, Text.join] at hcommandLine
  · exact hcarries.environmentKept second (by simp [hobservations])

end Changed

end ProcessMeter
