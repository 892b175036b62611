import ProcessMeter.Proofs.Batch
import ProcessMeter.Proofs.Known

/-!
# Runs of samplers on one history

A run is a sequence of operations on one history. Samplers with settings of their own, and whoever
maintains the history, take turns in any order, and the world may be another one at each step. Every
step changes the history by a list of elementary changes: samples that were observed completely, and
entries that were taken away on request.
-/

namespace ProcessMeter

/-- What can be done with a history. -/
inductive Operation where
  /-- Sample a process if its name passes. -/
  | sampleIfPassing (sampler : KernelSampler) (pid : Nat) (filter : Option NameFilter)
  /-- Sample a process whatever its name. -/
  | sampleProcess (sampler : KernelSampler) (pid : Nat)
  /-- Sample the process that asks. -/
  | sampleOwn (sampler : KernelSampler)
  /-- Sample all processes whose names pass, and answer with the busiest if that is asked for. -/
  | sampleMatching (sampler : KernelSampler) (filter : NameFilter) (top : Option TopSelection)
  /-- List the processes whose names pass. -/
  | listMatching (sampler : KernelSampler) (filter : NameFilter)
  /-- Ask what a process is doing. -/
  | stateOf (sampler : KernelSampler) (pid : Nat)
  /-- Take one number out of the history. -/
  | remove (pid : Nat)
  /-- Take everything out of the history. -/
  | clear
  /-- Take all but the given numbers out of the history. -/
  | retain (pids : List Nat)

/-- The value that an operation ends with. -/
inductive Reply where
  /-- The outcome of sampling under a filter. -/
  | outcome (outcome : SampleOutcome)
  /-- A sample. -/
  | sample (sample : ProcessSample)
  /-- The samples of many processes. -/
  | samples (samples : List ProcessSample)
  /-- The identities of many processes. -/
  | identities (identities : List ProcessIdentity)
  /-- What a process is doing. -/
  | state (state : ProcessState)
  /-- The history was maintained. -/
  | done

/-- An elementary change of a history. -/
inductive Change where
  /-- A process was observed. -/
  | observed (o : Observation)
  /-- A number was taken out. -/
  | removed (pid : Nat)
  /-- Everything was taken out. -/
  | cleared
  /-- All but the given numbers were taken out. -/
  | retained (pids : List Nat)

namespace Change

/-- The history after a change. -/
def apply (history : History) : Change → History
  | observed o => history.insert o.sample
  | removed pid => history.remove pid
  | cleared => .empty
  | retained pids => history.retain pids

/-- The change is about a number. -/
def Concerns (pid : Nat) : Change → Prop
  | observed o => o.pid = pid
  | removed gone => gone = pid
  | cleared => True
  | retained pids => pid ∉ pids

/-- A change leaves the entries that it does not concern as they were. -/
theorem get?_apply_of_not_concerns {change : Change} {pid : Nat} (h : ¬ change.Concerns pid)
    (history : History) : (change.apply history).get? pid = history.get? pid := by
  cases change with
  | observed o =>
    have hne : o.pid ≠ pid := h
    rw [apply, History.get?_insert, o.sample_pid, if_neg hne]
  | removed gone => rw [apply, History.get?_remove, if_neg (Ne.symm h)]
  | cleared => exact absurd trivial h
  | retained pids => rw [apply, History.get?_retain, if_pos (not_not.mp h)]

/-- The entry that an observation concerns is its sample, and any other change empties the entries
that it concerns. -/
theorem get?_apply_of_concerns {change : Change} {pid : Nat} (h : change.Concerns pid)
    (history : History) (s : ProcessSample) :
    (change.apply history).get? pid = some s ↔ ∃ o, change = observed o ∧ o.sample = s := by
  cases change with
  | observed o =>
    have heq : o.pid = pid := h
    rw [apply, History.get?_insert, o.sample_pid, if_pos heq]
    simp
  | removed gone =>
    rw [apply, History.get?_remove, if_pos h.symm]
    simp
  | cleared => simp [apply]
  | retained pids =>
    rw [apply, History.get?_retain, if_neg h]
    simp

/-- The history after some changes, the last one last. -/
def applyAll (history : History) (changes : List Change) : History :=
  changes.foldl (fun history change => change.apply history) history

/-- Changes in two rows are applied one row after the other. -/
theorem applyAll_append (history : History) (changes more : List Change) :
    applyAll history (changes ++ more) = applyAll (applyAll history changes) more :=
  List.foldl_append

/-- Observations change a history by their samples. -/
theorem applyAll_observed (history : History) (observations : List Observation) :
    applyAll history (observations.map observed) = Observation.insertAll history observations := by
  rw [applyAll, List.foldl_map]
  rfl

/-- Changes leave the entries that none of them concerns as they were. -/
theorem get?_applyAll_of_forall_not_concerns {changes : List Change} {pid : Nat}
    (h : ∀ change ∈ changes, ¬ change.Concerns pid) (history : History) :
    (applyAll history changes).get? pid = history.get? pid := by
  induction changes generalizing history with
  | nil => rfl
  | cons change rest ih =>
    obtain ⟨hchange, hrest⟩ := List.forall_mem_cons.mp h
    exact (ih hrest _).trans (get?_apply_of_not_concerns hchange history)

end Change

namespace Operation

/-- Changes the history and asks nothing. -/
def maintain (f : History → History) : Session Reply :=
  fun _ history => ((.ok .done, f history), [])

/-- What is done in an operation. -/
def session : Operation → Session Reply
  | sampleIfPassing k pid filter => Reply.outcome <$> k.sampleIfPassing pid filter
  | sampleProcess k pid => Reply.sample <$> k.sampleProcess pid
  | sampleOwn k => Reply.sample <$> k.sampleOwn
  | sampleMatching k filter top => Reply.samples <$> k.sampleMatching filter top
  | listMatching k filter => Reply.identities <$> Session.ofProbe (k.listMatching filter)
  | stateOf k pid => Reply.state <$> Session.ofProbe (k.stateOf pid)
  | remove pid => maintain (·.remove pid)
  | clear => maintain fun _ => .empty
  | retain pids => maintain (·.retain pids)

/-- The processes that an operation observes completely, in order. -/
def observations (w : World) (before : History) : Operation → List Observation
  | sampleIfPassing k pid filter => (k.observation? filter w before pid).toList
  | sampleProcess k pid => (k.observation? none w before pid).toList
  | sampleOwn k =>
    match (Procfs.ownPid k.rootfs).outcome w with
    | .ok pid => (k.observation? none w before pid).toList
    | .error _ => []
  | sampleMatching k filter _ => k.observedMatching w filter before
  | _ => []

/-- Who samples in an operation. -/
def sampler? : Operation → Option KernelSampler
  | sampleIfPassing k _ _ | sampleProcess k _ | sampleOwn k | sampleMatching k _ _ => some k
  | _ => none

/-- The entries that an operation is asked to take away. -/
def requests : Operation → List Change
  | remove pid => [.removed pid]
  | clear => [.cleared]
  | retain pids => [.retained pids]
  | _ => []

/-- The changes of the history that an operation makes, in order. No operation both observes and
takes away. -/
def changes (w : World) (before : History) (operation : Operation) : List Change :=
  operation.requests ++ (operation.observations w before).map .observed

/-- How an operation on one process can end, together with what it observes. -/
inductive EndsAlone (before : History) :
    Except (Fault ProcessFailure) Reply × History → List Observation → Prop where
  /-- The process is observed, and its sample is given back and stored. -/
  | sampled (o : Observation) (reply : Reply)
      (h : reply = .sample o.sample ∨ reply = .outcome (.sampled o.sample)) :
      EndsAlone before (.ok reply, before.insert o.sample) [o]
  /-- The process is passed over. -/
  | passedOver (identity : ProcessIdentity) :
      EndsAlone before (.ok (.outcome (.passedOver identity)), before) []
  /-- Something fails. -/
  | failed (fault : Fault ProcessFailure) : EndsAlone before (.error fault, before) []

variable {k : KernelSampler} (w : World) (before : History)

/-- Sampling a process under a filter ends with its own observation, if there is one. -/
theorem sampleIfPassing_endsAlone (pid : Nat) (filter : Option NameFilter) :
    EndsAlone before ((sampleIfPassing k pid filter).session.run w before)
      ((sampleIfPassing k pid filter).observations w before) := by
  rw [session, observations, Session.run_map]
  rcases k.sampleIfPassing_observes w filter before pid with
    ⟨o, ho, hrun⟩ | ⟨identity, ho, hrun⟩ | ⟨fault, ho, hrun⟩
  · rw [ho, hrun]
    exact .sampled o _ (Or.inr rfl)
  · rw [ho, hrun]
    exact .passedOver identity
  · rw [ho, hrun]
    exact .failed fault

/-- So does sampling a process without a filter, -/
theorem sampleProcess_endsAlone (pid : Nat) :
    EndsAlone before ((sampleProcess k pid).session.run w before)
      ((sampleProcess k pid).observations w before) := by
  rw [session, observations, Session.run_map]
  rcases k.sampleProcess_observes w before pid with ⟨o, ho, hrun⟩ | ⟨fault, ho, hrun⟩
  · rw [ho, hrun]
    exact .sampled o _ (Or.inl rfl)
  · rw [ho, hrun]
    exact .failed fault

/-- and so does sampling the own process. -/
theorem sampleOwn_endsAlone :
    EndsAlone before ((sampleOwn k).session.run w before)
      ((sampleOwn k).observations w before) := by
  rw [session, observations, Session.run_map, k.run_sampleOwn]
  cases (Procfs.ownPid k.rootfs).outcome w with
  | error fault => exact .failed fault
  | ok pid => simpa only [session, observations, Session.run_map] using
      sampleProcess_endsAlone w before pid

/-- An operation on one process changes the history by what it observes. -/
theorem EndsAlone.left_eq {result : Except (Fault ProcessFailure) Reply × History}
    {observations : List Observation} (h : EndsAlone before result observations) :
    result.2 = Observation.insertAll before observations := by
  cases h with
  | sampled o reply _ => rfl
  | passedOver identity => rfl
  | failed fault => rfl

/-- An operation observes with its own sampler and at its own moment. -/
theorem of_mem_observations {w : World} {before : History} {operation : Operation}
    {o : Observation} (h : o ∈ operation.observations w before) :
    operation.sampler? = some o.sampler ∧ o.world = w := by
  have hsingle : ∀ {k : KernelSampler} {filter : Option NameFilter} {pid : Nat},
      o ∈ (k.observation? filter w before pid).toList → some k = some o.sampler ∧ o.world = w := by
    intro k filter pid ho
    obtain ⟨hk, -, hw, -, -⟩ := k.eq_of_observation? (Option.mem_toList.mp ho)
    exact ⟨congrArg some hk.symm, hw⟩
  cases operation with
  | sampleIfPassing k pid filter => exact hsingle h
  | sampleProcess k pid => exact hsingle h
  | sampleOwn k =>
    rw [observations] at h
    split at h
    · exact hsingle h
    · simp at h
  | sampleMatching k filter top =>
    rw [observations, KernelSampler.observedMatching] at h
    split at h
    · simp at h
    · split at h
      · obtain ⟨-, hk, -, hw⟩ := KernelSampler.of_mem_observedAmong h
        exact ⟨congrArg some hk.symm, hw⟩
      · simp at h
  | listMatching k filter => simp [observations] at h
  | stateOf k pid => simp [observations] at h
  | remove pid => simp [observations] at h
  | clear => simp [observations] at h
  | retain pids => simp [observations] at h

/-- The observed changes of an operation are its observations. -/
theorem mem_observations_of_mem_changes {w : World} {before : History} {operation : Operation}
    {o : Observation} (h : .observed o ∈ operation.changes w before) :
    o ∈ operation.observations w before := by
  rcases List.mem_append.mp h with hrequest | hobserved
  · cases operation <;> simp [requests] at hrequest
  · obtain ⟨o', ho', heq⟩ := List.mem_map.mp hobserved
    rwa [← Change.observed.inj heq]

end Operation

/-- An operation at a moment. -/
structure Step where
  /-- What can be seen. -/
  world : World
  /-- What is done. -/
  operation : Operation

namespace Step

variable (step : Step) (before : History)

/-- The value or fault that a step ends with. -/
def reply : Except (Fault ProcessFailure) Reply := (step.operation.session.run step.world before).1

/-- The history that a step leaves. -/
def left : History := (step.operation.session.run step.world before).2

/-- The changes of the history that a step makes, in order. -/
def changes : List Change := step.operation.changes step.world before

/-- What a step does to the history is what its changes do. -/
theorem left_eq : step.left before = Change.applyAll before (step.changes before) := by
  obtain ⟨w, operation⟩ := step
  cases operation with
  | sampleIfPassing k pid filter =>
    exact (Operation.sampleIfPassing_endsAlone w before pid filter).left_eq.trans
      (Change.applyAll_observed _ _).symm
  | sampleProcess k pid =>
    exact (Operation.sampleProcess_endsAlone w before pid).left_eq.trans
      (Change.applyAll_observed _ _).symm
  | sampleOwn k =>
    exact (Operation.sampleOwn_endsAlone w before).left_eq.trans
      (Change.applyAll_observed _ _).symm
  | sampleMatching k filter top =>
    rw [left, Operation.session, Session.run_map]
    exact (k.sampleMatching_observes w filter top before).1.trans
      (Change.applyAll_observed _ _).symm
  | listMatching k filter => rw [left, Operation.session, Session.run_map]; rfl
  | stateOf k pid => rw [left, Operation.session, Session.run_map]; rfl
  | remove pid => rfl
  | clear => rfl
  | retain pids => rfl

end Step

end ProcessMeter
