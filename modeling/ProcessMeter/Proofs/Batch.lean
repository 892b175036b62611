import ProcessMeter.Proofs.Observation

/-!
# Sampling many processes

An observation records who sampled which process, at which world and on which history. Sampling
the processes of a list observes them one after another, each on the history that the observations
before it have left. The history at the end is the first one with the observed samples inserted in
their order; a process that fails or is passed over adds nothing to it.
-/

namespace ProcessMeter

/-- A process that was sampled completely. -/
structure Observation where
  /-- Who sampled it. -/
  sampler : KernelSampler
  /-- The filter that its name had to pass. -/
  filter : Option NameFilter
  /-- What could be seen. -/
  world : World
  /-- The history just before. -/
  before : History
  /-- The number that was asked for. -/
  pid : Nat
  /-- The sample. -/
  sample : ProcessSample
  /-- The sample is the answer to sampling this process alone. -/
  answer_eq : sampler.answer filter pid world before = .ok (.sampled sample)

namespace Observation

/-- An observed sample carries the number that was asked for. -/
@[simp] theorem sample_pid (o : Observation) : o.sample.identity.pid = o.pid :=
  KernelSampler.pid_of_sampled o.answer_eq

/-- The history with the samples of some observations inserted, the last one last. -/
def insertAll (history : History) (observations : List Observation) : History :=
  observations.foldl (fun history o => history.insert o.sample) history

/-- Observations are put into the history one after the other. -/
@[simp] theorem insertAll_cons (history : History) (o : Observation) (rest : List Observation) :
    insertAll history (o :: rest) = insertAll (history.insert o.sample) rest := rfl

/-- Samples of other processes do not change what the history knows of a process. -/
theorem get?_insertAll_of_forall_ne {pid : Nat} {observations : List Observation}
    (h : ∀ o ∈ observations, o.pid ≠ pid) (history : History) :
    (insertAll history observations).get? pid = history.get? pid := by
  induction observations generalizing history with
  | nil => rfl
  | cons o rest ih =>
    obtain ⟨ho, hrest⟩ := List.forall_mem_cons.mp h
    rw [insertAll_cons, ih hrest, History.get?_insert, o.sample_pid, if_neg ho]

end Observation

/-- Of no samples none is selected. -/
@[simp] theorem TopSelection.select_nil (top : TopSelection) : top.select [] = [] := by
  rw [select]
  split
  · simp [sortByCpu, sortByMemory, distinct]
  · rfl

namespace KernelSampler

variable (k : KernelSampler) (w : World) (filter : NameFilter)

/-- The observation of a process alone, if it is sampled. -/
def observation? (filter : Option NameFilter) (w : World) (before : History) (pid : Nat) :
    Option Observation :=
  match h : k.answer filter pid w before with
  | .ok (.sampled sample) => some ⟨k, filter, w, before, pid, sample, h⟩
  | _ => none

/-- A process that is sampled is observed. -/
theorem observation?_of_sampled {filter : Option NameFilter} {w : World} {before : History}
    {pid : Nat} {sample : ProcessSample}
    (h : k.answer filter pid w before = .ok (.sampled sample)) :
    k.observation? filter w before pid = some ⟨k, filter, w, before, pid, sample, h⟩ := by
  unfold observation?
  split
  · next sample' h' =>
    obtain rfl : sample' = sample := by simpa using h'.symm.trans h
    rfl
  · next hne => exact absurd h (hne sample)

/-- A process that is not sampled is not observed. -/
theorem observation?_of_forall_ne {filter : Option NameFilter} {w : World} {before : History}
    {pid : Nat} (h : ∀ sample, k.answer filter pid w before ≠ .ok (.sampled sample)) :
    k.observation? filter w before pid = none := by
  unfold observation?
  split
  · next sample h' => exact absurd h' (h sample)
  · rfl

/-- Sampling a process alone either observes it, and then inserts the sample into the history, or
leaves the history alone. -/
theorem sampleIfPassing_observes (filter : Option NameFilter) (before : History) (pid : Nat) :
    (∃ o, k.observation? filter w before pid = some o ∧
      (k.sampleIfPassing pid filter).run w before =
        (.ok (.sampled o.sample), before.insert o.sample)) ∨
    (∃ identity, k.observation? filter w before pid = none ∧
      (k.sampleIfPassing pid filter).run w before = (.ok (.passedOver identity), before)) ∨
    ∃ fault, k.observation? filter w before pid = none ∧
      (k.sampleIfPassing pid filter).run w before = (.error fault, before) := by
  rcases k.sampleIfPassing_cases w before filter pid with
    ⟨s, hs, hrun⟩ | ⟨identity, hpassed, hrun⟩ | ⟨fault, hfault, hrun⟩
  · exact Or.inl ⟨_, k.observation?_of_sampled hs, hrun⟩
  · refine Or.inr (Or.inl ⟨identity, k.observation?_of_forall_ne ?_, hrun⟩)
    simp [hpassed]
  · refine Or.inr (Or.inr ⟨fault, k.observation?_of_forall_ne ?_, hrun⟩)
    simp [hfault]

/-- Sampling a process whatever its name observes it or fails. -/
theorem sampleProcess_observes (before : History) (pid : Nat) :
    (∃ o, k.observation? none w before pid = some o ∧
      (k.sampleProcess pid).run w before = (.ok o.sample, before.insert o.sample)) ∨
    ∃ fault, k.observation? none w before pid = none ∧
      (k.sampleProcess pid).run w before = (.error fault, before) := by
  rcases k.sampleProcess_cases w before pid with ⟨s, hs, hrun⟩ | ⟨fault, hfault, hrun⟩
  · exact Or.inl ⟨_, k.observation?_of_sampled hs, hrun⟩
  · exact Or.inr ⟨fault, k.observation?_of_forall_ne (by simp [hfault]), hrun⟩

/-- An observation is the one of its sampler, filter, world, history and number. -/
theorem eq_of_observation? {filter : Option NameFilter} {w : World} {before : History} {pid : Nat}
    {o : Observation} (h : k.observation? filter w before pid = some o) :
    o.sampler = k ∧ o.filter = filter ∧ o.world = w ∧ o.before = before ∧ o.pid = pid := by
  unfold observation? at h
  split at h
  · rw [← Option.some.inj h]
    exact ⟨rfl, rfl, rfl, rfl, rfl⟩
  · simp at h

/-- Sampling a process alone overflows. -/
def Overflows (filter : Option NameFilter) (w : World) (before : History) (pid : Nat) : Prop :=
  k.answer filter pid w before = .error .overflow

instance (filter : Option NameFilter) (w : World) (before : History) (pid : Nat) :
    Decidable (k.Overflows filter w before pid) :=
  match h : k.answer filter pid w before with
  | .error .overflow => .isTrue h
  | .error (.failed _) => .isFalse (by simp [Overflows, h])
  | .ok _ => .isFalse (by simp [Overflows, h])

/-- One process of many is observed, or adds nothing, or overflows. -/
theorem sampleAmong_run (before : History) (pid : Nat) :
    (k.sampleAmong (k.capacityAt w) filter pid).run w before =
      if k.Overflows (some filter) w before pid then (.error .overflow, before)
      else
        match k.observation? (some filter) w before pid with
        | some o => (.ok (some o.sample), before.insert o.sample)
        | none => (.ok none, before) := by
  rw [Sampler.run_sampleAmong, ← answer_eq]
  split
  · next sample h =>
    rw [if_neg (by simp [Overflows, h]), k.observation?_of_sampled h]
  · next h => exact (if_pos h).symm
  · next hsampled hnot =>
    have hnot : ¬ k.Overflows (some filter) w before pid := hnot
    rw [if_neg hnot, k.observation?_of_forall_ne hsampled]

/-- What is observed when the processes of a list are sampled one after another, up to the first
overflow. -/
def observedAmong (before : History) : List Nat → List Observation
  | [] => []
  | pid :: rest =>
    if k.Overflows (some filter) w before pid then []
    else
      match k.observation? (some filter) w before pid with
      | some o => o :: observedAmong (before.insert o.sample) rest
      | none => observedAmong before rest

/-- What is observed when all processes are sampled whose names pass. -/
def observedMatching (before : History) : List Observation :=
  if filter.isEmpty then []
  else
    match (Procfs.pids k.rootfs).outcome w with
    | .ok pids => k.observedAmong w filter before pids
    | .error _ => []

/-- The observed samples are the answer and are inserted into the history, also if an overflow ends
the run. -/
theorem sampleEach_cases (before : History) (pids : List Nat) :
    ((∀ pid ∈ pids, ∃ history, ¬ k.Overflows (some filter) w history pid) ∧
      (k.sampleEach (k.capacityAt w) filter pids).run w before =
        (.ok ((k.observedAmong w filter before pids).map (·.sample)),
          Observation.insertAll before (k.observedAmong w filter before pids))) ∨
    ((∃ pid ∈ pids, ∃ history, k.Overflows (some filter) w history pid) ∧
      (k.sampleEach (k.capacityAt w) filter pids).run w before =
        (.error .overflow,
          Observation.insertAll before (k.observedAmong w filter before pids))) := by
  induction pids generalizing before with
  | nil => exact Or.inl ⟨by simp, rfl⟩
  | cons pid rest ih =>
    rw [Sampler.sampleEach, Session.run_bind, sampleAmong_run, observedAmong]
    by_cases hoverflow : k.Overflows (some filter) w before pid
    · rw [if_pos hoverflow, if_pos hoverflow]
      exact Or.inr ⟨⟨pid, List.mem_cons_self, before, hoverflow⟩, rfl⟩
    · rw [if_neg hoverflow, if_neg hoverflow]
      -- the rest runs on the history that this process has left
      cases k.observation? (some filter) w before pid with
      | none =>
        rcases ih before with ⟨hrest, hrun⟩ | ⟨⟨other, hother, hrest⟩, hrun⟩
        · refine Or.inl ⟨List.forall_mem_cons.mpr ⟨⟨before, hoverflow⟩, hrest⟩, ?_⟩
          simp [hrun]
        · refine Or.inr ⟨⟨other, List.mem_cons_of_mem _ hother, hrest⟩, ?_⟩
          simp [hrun]
      | some o =>
        rcases ih (before.insert o.sample) with ⟨hrest, hrun⟩ | ⟨⟨other, hother, hrest⟩, hrun⟩
        · refine Or.inl ⟨List.forall_mem_cons.mpr ⟨⟨before, hoverflow⟩, hrest⟩, ?_⟩
          simp only [Session.run_bind, hrun, Session.run_pure, Option.toList_some,
            List.singleton_append, List.map_cons, Observation.insertAll_cons]
        · refine Or.inr ⟨⟨other, List.mem_cons_of_mem _ hother, hrest⟩, ?_⟩
          simp only [Session.run_bind, hrun, Observation.insertAll_cons]

/-- Sampling all processes whose names pass answers with the busiest of the observed ones, and the
history takes in all that were observed. Nothing is observed if the processes cannot be listed. -/
theorem sampleMatching_observes (top : Option TopSelection) (before : History) :
    ((k.sampleMatching filter top).run w before).2 =
        Observation.insertAll before (k.observedMatching w filter before) ∧
      (((k.sampleMatching filter top).run w before).1 =
          .ok ((top.getD .none).select ((k.observedMatching w filter before).map (·.sample))) ∨
        ((k.sampleMatching filter top).run w before).1 = .error .overflow ∨
        ∃ failure, ((k.sampleMatching filter top).run w before).1 = .error (.failed failure) ∧
          k.observedMatching w filter before = []) := by
  rw [run_sampleMatching]
  unfold observedMatching
  by_cases hempty : filter.isEmpty
  · rw [if_pos hempty, if_pos hempty]
    refine ⟨rfl, Or.inl ?_⟩
    rw [List.map_nil, TopSelection.select_nil]
  · rw [if_neg hempty, if_neg hempty]
    rcases (Procfs.pids_neverOverflows k.rootfs).outcome_cases w with
      ⟨pids, hpids⟩ | ⟨failure, hfailure⟩
    · simp only [hpids]
      rcases k.sampleEach_cases w filter before pids with ⟨-, hrun⟩ | ⟨-, hrun⟩
      · rw [hrun]
        exact ⟨rfl, Or.inl rfl⟩
      · rw [hrun]
        exact ⟨rfl, Or.inr (Or.inl rfl)⟩
    · simp only [hfailure]
      exact ⟨rfl, Or.inr (Or.inr ⟨failure, rfl, trivial⟩)⟩

/-- Whoever is observed in a batch is one of the processes, sampled by the sampler of the batch
under its filter. -/
theorem of_mem_observedAmong {k : KernelSampler} {filter : NameFilter} {w : World}
    {before : History} {pids : List Nat} {o : Observation}
    (h : o ∈ k.observedAmong w filter before pids) :
    o.pid ∈ pids ∧ o.sampler = k ∧ o.filter = some filter ∧ o.world = w := by
  induction pids generalizing before with
  | nil => simp [observedAmong] at h
  | cons pid rest ih =>
    rw [observedAmong] at h
    split at h
    · simp at h
    · split at h
      · next first hfirst =>
        rcases List.mem_cons.mp h with rfl | h
        · obtain ⟨hk, hfilter, hw, -, hpid⟩ := k.eq_of_observation? hfirst
          exact ⟨by simp [hpid], hk, hfilter, hw⟩
        · obtain ⟨hmem, hrest⟩ := ih h
          exact ⟨List.mem_cons_of_mem _ hmem, hrest⟩
      · obtain ⟨hmem, hrest⟩ := ih h
        exact ⟨List.mem_cons_of_mem _ hmem, hrest⟩

/-- A process that is not sampled on the history at the start is not observed in a batch, whoever
is observed before its turn. -/
theorem ne_pid_of_mem_observedAmong {k : KernelSampler} {filter : NameFilter} {w : World}
    {before : History} {pids : List Nat} {pid : Nat}
    (h : ∀ s, k.answer (some filter) pid w before ≠ .ok (.sampled s)) {o : Observation}
    (ho : o ∈ k.observedAmong w filter before pids) : o.pid ≠ pid := by
  induction pids generalizing before with
  | nil => simp [observedAmong] at ho
  | cons first rest ih =>
    rw [observedAmong] at ho
    split at ho
    · simp at ho
    · split at ho
      · next other hother =>
        obtain ⟨rfl, hfilter, rfl, rfl, hpid⟩ := k.eq_of_observation? hother
        have hne : other.pid ≠ pid := by
          rintro rfl
          exact h _ (hfilter ▸ other.answer_eq)
        rcases List.mem_cons.mp ho with rfl | ho
        · exact hne
        · -- the sample of another process leaves the entry that matters as it was
          refine ih (fun s => ?_) ho
          rw [answer_congr (History.get?_insert _ _ _ |>.trans (if_neg ?_))]
          · exact h s
          · rwa [other.sample_pid]
      · exact ih h ho

/-- The same when all processes are sampled whose names pass. -/
theorem ne_pid_of_mem_observedMatching {k : KernelSampler} {filter : NameFilter} {w : World}
    {before : History} {pid : Nat}
    (h : ∀ s, k.answer (some filter) pid w before ≠ .ok (.sampled s)) {o : Observation}
    (ho : o ∈ k.observedMatching w filter before) : o.pid ≠ pid := by
  unfold observedMatching at ho
  split at ho
  · simp at ho
  · split at ho
    · exact ne_pid_of_mem_observedAmong h ho
    · simp at ho

end KernelSampler

end ProcessMeter
