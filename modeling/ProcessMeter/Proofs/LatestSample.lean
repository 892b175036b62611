import ProcessMeter.Proofs.Run

/-!
# The history holds the latest samples

A run starts with an empty history. Its log lists every change that it made, in order. At the end,
what the history knows of a number is the sample of its latest observation in the log, unless the
number was taken out since. So nothing else matters: no operation that failed, and no process that
was passed over.
-/

namespace ProcessMeter

/-- The history at the end of a run that starts without one. -/
def historyAfter (run : List Step) : History :=
  run.foldl (fun history step => step.left history) .empty

/-- The changes of a run that starts with the given history, in order. -/
def changesFrom (history : History) : List Step → List Change
  | [] => []
  | step :: rest => step.changes history ++ changesFrom (step.left history) rest

/-- The changes of a run that starts without a history, in order. -/
def changeLog (run : List Step) : List Change := changesFrom .empty run

/-- What is observed in a run is observed in one of its steps, by the sampler and at the moment of
the step. -/
theorem exists_sampling_of_mem_changesFrom {history : History} {run : List Step} {o : Observation}
    (h : .observed o ∈ changesFrom history run) :
    ∃ step ∈ run, step.operation.sampler? = some o.sampler ∧ o.world = step.world := by
  induction run generalizing history with
  | nil => simp [changesFrom] at h
  | cons step rest ih =>
    rcases List.mem_append.mp h with hstep | hrest
    · have hobserved := Operation.mem_observations_of_mem_changes hstep
      exact ⟨step, List.mem_cons_self, Operation.of_mem_observations hobserved⟩
    · obtain ⟨later, hlater, hsampling⟩ := ih hrest
      exact ⟨later, List.mem_cons_of_mem _ hlater, hsampling⟩

/-- What is observed in a run is observed in one of its steps, at the moment of the step. -/
theorem exists_step_of_mem_changesFrom {history : History} {run : List Step} {o : Observation}
    (h : .observed o ∈ changesFrom history run) : ∃ step ∈ run, o.world = step.world := by
  obtain ⟨step, hstep, -, hworld⟩ := exists_sampling_of_mem_changesFrom h
  exact ⟨step, hstep, hworld⟩

/-- The history of a run is what its changes make of the first one. -/
theorem foldl_left_eq_applyAll (history : History) (run : List Step) :
    run.foldl (fun history step => step.left history) history =
      Change.applyAll history (changesFrom history run) := by
  induction run generalizing history with
  | nil => rfl
  | cons step rest ih =>
    rw [List.foldl_cons, ih, changesFrom, Change.applyAll_append, ← step.left_eq]

/-- The last step of a run makes its changes on the history that the steps before it leave. -/
theorem changeLog_concat (run : List Step) (step : Step) :
    changeLog (run ++ [step]) = changeLog run ++ step.changes (historyAfter run) := by
  unfold changeLog historyAfter
  generalize History.empty = history
  induction run generalizing history with
  | nil => simp [changesFrom]
  | cons first rest ih =>
    rw [List.cons_append, changesFrom, ih, changesFrom, List.foldl_cons, List.append_assoc]

/-- The sample is the one of the latest observation of the number, and no later change concerns
the number. -/
def LatestIn (log : List Change) (pid : Nat) (s : ProcessSample) : Prop :=
  ∃ older o newer, log = older ++ .observed o :: newer ∧ o.pid = pid ∧ o.sample = s ∧
    ∀ change ∈ newer, ¬ change.Concerns pid

/-- What changes make of the empty history is the latest observation of each number. -/
theorem get?_applyAll_empty (log : List Change) (pid : Nat) (s : ProcessSample) :
    (Change.applyAll .empty log).get? pid = some s ↔ LatestIn log pid s := by
  constructor
  · intro h
    induction log using List.reverseRecOn with
    | nil => simp [Change.applyAll] at h
    | append_singleton log change ih =>
      rw [Change.applyAll_append] at h
      by_cases hconcerns : change.Concerns pid
      · obtain ⟨o, rfl, ho⟩ := (Change.get?_apply_of_concerns hconcerns _ s).mp h
        exact ⟨log, o, [], rfl, hconcerns, ho, by simp⟩
      · have hbefore := (Change.get?_apply_of_not_concerns hconcerns _).symm.trans h
        obtain ⟨older, o, newer, rfl, hpid, hsample, hnewer⟩ := ih hbefore
        refine ⟨older, o, newer ++ [change], by simp, hpid, hsample, ?_⟩
        intro later hlater
        rcases List.mem_append.mp hlater with hlater | hlater
        · exact hnewer later hlater
        · rwa [List.mem_singleton.mp hlater]
  · rintro ⟨older, o, newer, rfl, hpid, hsample, hnewer⟩
    have hconcerns : (Change.observed o).Concerns pid := hpid
    rw [Change.applyAll_append]
    exact (Change.get?_applyAll_of_forall_not_concerns hnewer _).trans
      ((Change.get?_apply_of_concerns hconcerns _ s).mpr ⟨o, rfl, hsample⟩)

/-- What the value that a step ends with says about the changes that it makes. -/
structure Step.Respects (step : Step) (before : History) : Prop where
  /-- A sample that is given back alone is the one that was observed. -/
  sampled : ∀ s, step.reply before = .ok (.sample s) ∨
    step.reply before = .ok (.outcome (.sampled s)) →
      ∃ o, step.changes before = [.observed o] ∧ o.sample = s
  /-- A process that is passed over changes nothing. -/
  passedOver : ∀ identity, step.reply before = .ok (.outcome (.passedOver identity)) →
    step.left before = before
  /-- A failure changes nothing. -/
  failed : ∀ failure, step.reply before = .error (.failed failure) → step.left before = before
  /-- Listing processes and asking for their state changes nothing. -/
  asked : ∀ reply, step.reply before = .ok reply →
    (∃ identities, reply = .identities identities) ∨ (∃ state, reply = .state state) →
      step.left before = before
  /-- A batch answers with a selection of what it observed, and stores all of it. A process that
  fails, is gone or is passed over is not observed, and keeps its entry. -/
  batch : ∀ k filter top, step.operation = .sampleMatching k filter top →
    step.changes before = (k.observedMatching step.world filter before).map .observed ∧
    (∀ samples, step.reply before = .ok (.samples samples) → samples =
      (top.getD .none).select ((k.observedMatching step.world filter before).map (·.sample))) ∧
    ∀ pid, (∀ s, k.answer (some filter) pid step.world before ≠ .ok (.sampled s)) →
      (step.left before).get? pid = before.get? pid

/-- An operation on one process that ends without a fault and without a sample has no effect. -/
private theorem respects_of_endsAlone {step : Step} {before : History}
    (hends : Operation.EndsAlone before (step.operation.session.run step.world before)
      (step.operation.observations step.world before))
    (hchanges : step.changes before =
      (step.operation.observations step.world before).map .observed)
    (halone : ∀ k filter top, step.operation ≠ .sampleMatching k filter top) :
    step.Respects before := by
  have hreply : step.reply before = (step.operation.session.run step.world before).1 := rfl
  have hleft : step.left before = (step.operation.session.run step.world before).2 := rfl
  generalize step.operation.session.run step.world before = result at hends hreply hleft
  generalize step.operation.observations step.world before = observations at hends hchanges
  cases hends with
  | sampled o reply h =>
    refine ⟨?_, ?_, ?_, ?_, fun k filter top hbatch => absurd hbatch (halone k filter top)⟩
    · intro s hs
      rw [hreply] at hs
      refine ⟨o, hchanges, ?_⟩
      rcases h with rfl | rfl
      · simpa using hs
      · simpa using hs
    · intro identity hpassed
      rw [hreply] at hpassed
      rcases h with rfl | rfl
      · simp at hpassed
      · simp at hpassed
    · intro failure hfailed
      simp [hreply] at hfailed
    · intro other hother hasked
      rw [hreply, Except.ok.injEq] at hother
      subst hother
      rcases h with rfl | rfl
      · simp at hasked
      · simp at hasked
  | passedOver identity =>
    refine ⟨?_, fun _ _ => hleft, fun _ _ => hleft, fun _ _ _ => hleft,
      fun k filter top hbatch => absurd hbatch (halone k filter top)⟩
    intro s hs
    simp [hreply] at hs
  | failed fault =>
    refine ⟨?_, fun _ _ => hleft, fun _ _ => hleft, fun _ _ _ => hleft,
      fun k filter top hbatch => absurd hbatch (halone k filter top)⟩
    intro s hs
    simp [hreply] at hs

/-- A question that is not answered with a sample respects its reply. -/
private theorem respects_of_question {step : Step} {before : History} {α : Type}
    {x : Probe ProcessFailure α} {answer : α → Reply}
    (hsession : step.operation.session = answer <$> Session.ofProbe x)
    (hanswer : ∀ a s, answer a ≠ .sample s ∧ answer a ≠ .outcome (.sampled s))
    (hbatch : ∀ k filter top, step.operation ≠ .sampleMatching k filter top) :
    step.Respects before := by
  have hreply : step.reply before = (x.outcome step.world).map answer := by
    rw [Step.reply, hsession, Session.run_map, Session.run_ofProbe]
  have hleft : step.left before = before := by
    rw [Step.left, hsession, Session.run_map, Session.run_ofProbe]
  refine ⟨?_, fun _ _ => hleft, fun _ _ => hleft, fun _ _ _ => hleft,
    fun k filter top h => absurd h (hbatch k filter top)⟩
  intro s hs
  rw [hreply] at hs
  cases hx : x.outcome step.world with
  | error fault => simp [hx, Except.map] at hs
  | ok a =>
    obtain ⟨hsample, houtcome⟩ := hanswer a s
    simp [hx, Except.map, hsample, houtcome] at hs

/-- A step that maintains the history ends with no reply of its own. -/
private theorem respects_of_done {step : Step} {before : History}
    (hreply : step.reply before = .ok .done)
    (hbatch : ∀ k filter top, step.operation ≠ .sampleMatching k filter top) :
    step.Respects before where
  sampled s hs := by simp [hreply] at hs
  passedOver _ h := by simp [hreply] at h
  failed _ h := by simp [hreply] at h
  asked _ h hasked := by
    rw [hreply, Except.ok.injEq] at h
    simp [← h] at hasked
  batch k filter top h := absurd h (hbatch k filter top)

/-- A batch respects its reply. -/
private theorem respects_of_batch {w : World} {k : KernelSampler} {filter : NameFilter}
    {top : Option TopSelection} {before : History} :
    Step.Respects ⟨w, .sampleMatching k filter top⟩ before := by
  have hreply : Step.reply ⟨w, .sampleMatching k filter top⟩ before =
      ((k.sampleMatching filter top).run w before).1.map .samples := by
    rw [Step.reply, Operation.session, Session.run_map]
  have hleft : Step.left ⟨w, .sampleMatching k filter top⟩ before =
      ((k.sampleMatching filter top).run w before).2 := by
    rw [Step.left, Operation.session, Session.run_map]
  obtain ⟨hhistory, hanswer⟩ := k.sampleMatching_observes w filter top before
  rw [hhistory] at hleft
  have hkept : ∀ pid, (∀ s, k.answer (some filter) pid w before ≠ .ok (.sampled s)) →
      (Step.left ⟨w, .sampleMatching k filter top⟩ before).get? pid = before.get? pid := by
    intro pid hpid
    rw [hleft]
    exact Observation.get?_insertAll_of_forall_ne
      (fun o ho => KernelSampler.ne_pid_of_mem_observedMatching hpid ho) before
  rcases hanswer with hanswer | hanswer | ⟨failure, hanswer, hnone⟩
  · rw [hanswer, Except.map] at hreply
    refine ⟨?_, ?_, ?_, ?_, ?_⟩
    · simp [hreply]
    · simp [hreply]
    · simp [hreply]
    · intro reply h hasked
      rw [hreply, Except.ok.injEq] at h
      simp [← h] at hasked
    · rintro _ _ _ ⟨rfl, rfl, rfl⟩
      refine ⟨rfl, ?_, hkept⟩
      intro samples h
      rw [hreply, Except.ok.injEq, Reply.samples.injEq] at h
      exact h.symm
  · rw [hanswer, Except.map] at hreply
    refine ⟨by simp [hreply], by simp [hreply], by simp [hreply], by simp [hreply], ?_⟩
    rintro _ _ _ ⟨rfl, rfl, rfl⟩
    exact ⟨rfl, by simp [hreply], hkept⟩
  · rw [hanswer, Except.map] at hreply
    rw [hnone] at hleft
    refine ⟨by simp [hreply], by simp [hreply], fun _ _ => hleft, by simp [hreply], ?_⟩
    rintro _ _ _ ⟨rfl, rfl, rfl⟩
    exact ⟨rfl, by simp [hreply], hkept⟩

/-- No step touches what it is not about. -/
theorem Step.respects (step : Step) (before : History) : step.Respects before := by
  obtain ⟨w, operation⟩ := step
  cases operation with
  | sampleIfPassing k pid filter =>
    exact respects_of_endsAlone (Operation.sampleIfPassing_endsAlone w before pid filter) rfl
      (by simp)
  | sampleProcess k pid =>
    exact respects_of_endsAlone (Operation.sampleProcess_endsAlone w before pid) rfl (by simp)
  | sampleOwn k =>
    exact respects_of_endsAlone (Operation.sampleOwn_endsAlone w before) rfl (by simp)
  | sampleMatching k filter top => exact respects_of_batch
  | listMatching k filter => exact respects_of_question rfl (by simp) (by simp)
  | stateOf k pid => exact respects_of_question rfl (by simp) (by simp)
  | remove pid => exact respects_of_done rfl (by simp)
  | clear => exact respects_of_done rfl (by simp)
  | retain pids => exact respects_of_done rfl (by simp)

/-- After any run the history knows of each number the sample of its latest complete observation
since the number was taken out, and nothing else. Its size counts the numbers that it knows, and
whatever is done next changes it by complete observations and by requests to take numbers out
only. -/
theorem historyAfter_holds_latest (run : List Step) :
    (∀ pid s, (historyAfter run).get? pid = some s ↔ LatestIn (changeLog run) pid s) ∧
    (∀ pid s, (historyAfter run).get? pid = some s → s.identity.pid = pid) ∧
    (∃ known : Finset Nat, (historyAfter run).size = known.card ∧
      ∀ pid, pid ∈ known ↔ ∃ s, LatestIn (changeLog run) pid s) ∧
    ∀ next : Step, next.Respects (historyAfter run) ∧
      ∀ pid, (∀ change ∈ next.changes (historyAfter run), ¬ change.Concerns pid) →
        (next.left (historyAfter run)).get? pid = (historyAfter run).get? pid := by
  have hlatest : ∀ pid s,
      (historyAfter run).get? pid = some s ↔ LatestIn (changeLog run) pid s := by
    intro pid s
    rw [historyAfter, foldl_left_eq_applyAll]
    exact get?_applyAll_empty _ pid s
  refine ⟨hlatest, fun _ _ => History.pid_of_get?_eq_some,
    ⟨(historyAfter run).known, (historyAfter run).size_eq_card, ?_⟩, ?_⟩
  · intro pid
    simp only [History.mem_known, Option.isSome_iff_exists, hlatest]
  · intro next
    refine ⟨next.respects _, fun pid hpid => ?_⟩
    rw [next.left_eq]
    exact Change.get?_applyAll_of_forall_not_concerns hpid _

end ProcessMeter
