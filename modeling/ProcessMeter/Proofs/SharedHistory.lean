import ProcessMeter.Proofs.CarryOver
import ProcessMeter.Proofs.TextMaps

/-!
# Samplers that share a history

Samplers that take turns on one history may differ in the names of the variables that they report.
The environment of a process is read once and then handed on from sample to sample, so it is the
sampler of the first observation that chooses the names. A later sampler gives back what the first
one chose, or nothing if some sampler since then reports nothing.
-/

namespace ProcessMeter

namespace ProcessBlock

/-- The variables in an environment block in order. -/
def variablesOf (block : List UInt8) : List (Text × Text) :=
  (Text.splitBytes 0 block).filterMap fun piece => Text.cut '=' (Text.decodeLossy piece)

/-- Looking up a name among the pairs whose names are kept. -/
private theorem lookup_filter (keep : Text → Bool) (pairs : List (Text × Text)) (name : Text) :
    (pairs.filter fun pair => keep pair.1).lookup name =
      if keep name then pairs.lookup name else none := by
  induction pairs with
  | nil => simp
  | cons pair rest ih =>
    obtain ⟨key, value⟩ := pair
    by_cases hname : name = key
    · by_cases hkeep : keep key = true
      · simp [hname, hkeep]
      · simp [hname, hkeep, hname ▸ ih]
    · have hne : (name == key) = false := beq_eq_false_iff_ne.mpr hname
      by_cases hkeep : keep key = true
      · simp [List.lookup_cons, hne, hkeep, ih]
      · simp [List.lookup_cons, hne, hkeep, ih]

/-- An environment holds the last value of each variable that is kept, and nothing else. -/
theorem get?_environment (block : List UInt8) (keep : Text → Bool) (name : Text) :
    (environment block keep).get? name =
      if keep name then (variablesOf block).reverse.lookup name else none := by
  have hpairs : environment block keep =
      .ofList ((variablesOf block).filter fun pair => keep pair.1) := by
    rw [environment, variablesOf, List.filter_filterMap]
    congr 2
    funext piece
    cases Text.cut '=' (Text.decodeLossy piece) with
    | none => rfl
    | some pair => simp [Option.filter]
  rw [hpairs, TextMap.get?_ofList, ← List.filter_reverse, lookup_filter]

end ProcessBlock

namespace TopSelection

/-- A sample that is kept is one of the samples. -/
private theorem mem_of_mem_distinct {seen : List (Nat × Nat)} {samples : List ProcessSample}
    {s : ProcessSample} (h : s ∈ distinct seen samples) : s ∈ samples := by
  induction samples generalizing seen with
  | nil => simp [distinct] at h
  | cons sample rest ih =>
    rw [distinct] at h
    split at h
    · exact List.mem_cons_of_mem _ (ih h)
    · rcases List.mem_cons.mp h with rfl | h
      · exact List.mem_cons_self
      · exact List.mem_cons_of_mem _ (ih h)

/-- Only given samples are selected. -/
theorem mem_of_mem_select {top : TopSelection} {samples : List ProcessSample} {s : ProcessSample}
    (h : s ∈ top.select samples) : s ∈ samples := by
  unfold select at h
  split at h
  · rcases List.mem_append.mp (mem_of_mem_distinct h) with h | h
    · exact List.mem_mergeSort.mp (List.mem_of_mem_take h)
    · exact List.mem_mergeSort.mp (List.mem_of_mem_take h)
  · exact h

end TopSelection

/-- The samples that a reply gives back. -/
def Reply.givenBack : Reply → List ProcessSample
  | outcome (.sampled s) => [s]
  | sample s => [s]
  | samples found => found
  | _ => []

/-- Only a batch gives back a list of samples. -/
private theorem Step.exists_batch {step : Step} {before : History} {found : List ProcessSample}
    (hreply : step.reply before = .ok (.samples found)) :
    ∃ k filter top, step.operation = .sampleMatching k filter top := by
  obtain ⟨w, operation⟩ := step
  have hmap : ∀ {α : Type} (f : α → Reply) (x : Session α),
      (∀ a, f a ≠ .samples found) →
      ((f <$> x : Session Reply).run w before).1 ≠ .ok (.samples found) := by
    intro α f x hf h
    rw [Session.run_map] at h
    cases hx : (x.run w before).1 with
    | error fault => simp [hx, Except.map] at h
    | ok a =>
      simp only [hx, Except.map, Except.ok.injEq] at h
      exact hf a h
  cases operation with
  | sampleMatching k filter top => exact ⟨k, filter, top, rfl⟩
  | sampleIfPassing k pid filter => exact absurd hreply (hmap _ _ (by simp))
  | sampleProcess k pid => exact absurd hreply (hmap _ _ (by simp))
  | sampleOwn k => exact absurd hreply (hmap _ _ (by simp))
  | listMatching k filter => exact absurd hreply (hmap _ _ (by simp))
  | stateOf k pid => exact absurd hreply (hmap _ _ (by simp))
  | remove pid => cases hreply
  | clear => cases hreply
  | retain pids => cases hreply

/-- A sample that is given back is observed in the same step. -/
theorem Step.exists_observed {step : Step} {before : History} {reply : Reply}
    (hreply : step.reply before = .ok reply) {s : ProcessSample} (hs : s ∈ reply.givenBack) :
    ∃ o, .observed o ∈ step.changes before ∧ o.sample = s := by
  have hrespects := step.respects before
  cases reply with
  | outcome result =>
    cases result with
    | sampled s' =>
      obtain rfl := List.mem_singleton.mp hs
      obtain ⟨o, ho, hsample⟩ := hrespects.sampled s (Or.inr hreply)
      exact ⟨o, by simp [ho], hsample⟩
    | passedOver identity => simp [Reply.givenBack] at hs
  | sample s' =>
    obtain rfl := List.mem_singleton.mp hs
    obtain ⟨o, ho, hsample⟩ := hrespects.sampled s (Or.inl hreply)
    exact ⟨o, by simp [ho], hsample⟩
  | samples found =>
    obtain ⟨k, filter, top, hoperation⟩ := Step.exists_batch hreply
    obtain ⟨hchanges, hselect, -⟩ := hrespects.batch k filter top hoperation
    rw [Reply.givenBack, hselect found hreply] at hs
    obtain ⟨o, ho, hsample⟩ := List.mem_map.mp (TopSelection.mem_of_mem_select hs)
    exact ⟨o, by rw [hchanges]; exact List.mem_map_of_mem ho, hsample⟩
  | identities identities => simp [Reply.givenBack] at hs
  | state state => simp [Reply.givenBack] at hs
  | done => simp [Reply.givenBack] at hs

/-- All names of an environment pass. -/
def NameFilter.Covers (names : NameFilter) (environment : TextMap Text) : Prop :=
  ∀ name value, environment.get? name = some value → names.passes name = true

/-- The value of a variable in the environment file at an observation. -/
def Observation.fileValue? (o : Observation) (name : Text) : Option Text :=
  match o.world.files.readBytes (Procfs.file o.sampler.rootfs o.pid "environ") with
  | .ok block => (ProcessBlock.variablesOf block).reverse.lookup name
  | .error _ => none

/-- The environment that is read at an observation has the variables of the file that its sampler
lets pass. -/
theorem Observation.get?_environmentRead (o : Observation) (name : Text) :
    o.environmentRead.get? name =
      if o.sampler.shownVariables.passes name then o.fileValue? name else none := by
  rw [environmentRead, Procfs.environmentIn, fileValue?]
  cases o.world.files.readBytes (Procfs.file o.sampler.rootfs o.pid "environ") with
  | ok block => exact ProcessBlock.get?_environment block _ name
  | error failure => simp

namespace Stretch

variable {log newer : List Change} {run : List Step}

section

variable (hlog : changeLog run = log ++ newer) (stretch : Stretch log)
  {earlier later : List Observation} {o : Observation}
  (ho : stretch.observations = earlier ++ o :: later)
include hlog ho

/-- A variable in the environment of an observation was chosen by the first sampler of the stretch,
and its value is the one in the file at that moment. -/
theorem get?_environment (name value : Text) :
    o.sample.environment.get? name = some value ↔
      (∀ p ∈ earlier ++ [o], p.sampler.shownVariables.isEmpty = false) ∧
      stretch.first.sampler.shownVariables.passes name = true ∧
      stretch.first.fileValue? name = some value := by
  have hnone : (∀ p ∈ earlier ++ [o], p.sampler.shownVariables.isEmpty = false) ↔
      ¬ ((earlier ++ [o]).any fun p => p.sampler.shownVariables.isEmpty) = true := by
    simp only [List.any_eq_true, not_exists, not_and, Bool.not_eq_true]
  rw [stretch.environment_eq hlog ho, hnone]
  split
  · next hempty => simp [hempty]
  · next hsome => simp [hsome, Observation.get?_environmentRead]

/-- The sampler of an observation lets all names of its environment pass exactly if it lets pass all
that the first one has read, or if a sampler of the stretch so far shows nothing. -/
theorem covers_environment_iff : o.sampler.shownVariables.Covers o.sample.environment ↔
    (∃ p ∈ earlier ++ [o], p.sampler.shownVariables.isEmpty = true) ∨
      o.sampler.shownVariables.Covers stretch.first.environmentRead := by
  rw [stretch.environment_eq hlog ho, ← List.any_eq_true]
  split
  · next hempty => simp [NameFilter.Covers, hempty]
  · next hsome => simp [hsome]

end

/-- How a stretch accounts for the environment of an observation. -/
structure AccountsFor (stretch : Stretch log) (o : Observation) (earlier : List Observation) :
    Prop where
  /-- The observation is the last one of the stretch. -/
  observations_eq : stretch.observations = earlier ++ [o]
  /-- It has the variables that the first sampler has chosen from the file as it was then. It has
  none of them if a sampler since then shows nothing. -/
  get?_environment : ∀ name value, o.sample.environment.get? name = some value ↔
    (∀ p ∈ earlier ++ [o], p.sampler.shownVariables.isEmpty = false) ∧
    stretch.first.sampler.shownVariables.passes name = true ∧
    stretch.first.fileValue? name = some value
  /-- So its own sampler lets all of them pass exactly if a sampler of the stretch shows nothing, or
  if it lets pass all that the first one has read. -/
  covers_iff : o.sampler.shownVariables.Covers o.sample.environment ↔
    (∃ p ∈ earlier ++ [o], p.sampler.shownVariables.isEmpty = true) ∨
      o.sampler.shownVariables.Covers stretch.first.environmentRead

end Stretch

/-- Whichever samplers take turns on a history, what one of them gives back is the last observation
of a stretch so far, and it is the first sampler of this stretch that has chosen the environment. -/
theorem environment_of_givenBack {run : List Step} {step : Step} {reply : Reply}
    (hreply : step.reply (historyAfter run) = .ok reply) {s : ProcessSample}
    (hs : s ∈ reply.givenBack) :
    ∃ (log newer : List Change) (stretch : Stretch log) (o : Observation)
      (earlier : List Observation),
      changeLog (run ++ [step]) = log ++ newer ∧ o.sample = s ∧
      step.operation.sampler? = some o.sampler ∧ o.world = step.world ∧
      (∀ p ∈ earlier, ∃ turn ∈ run ++ [step],
        turn.operation.sampler? = some p.sampler ∧ p.world = turn.world) ∧
      stretch.AccountsFor o earlier := by
  obtain ⟨o, ho, rfl⟩ := Step.exists_observed hreply hs
  obtain ⟨hsampler, hworld⟩ :=
    Operation.of_mem_observations (Operation.mem_observations_of_mem_changes ho)
  obtain ⟨older, newer, hchanges⟩ := List.append_of_mem ho
  have hlog : changeLog (run ++ [step]) =
      (changeLog run ++ older ++ [.observed o]) ++ newer := by
    rw [changeLog_concat, hchanges]
    simp
  obtain ⟨stretch, hlast⟩ := Stretch.exists_stretch (changeLog run ++ older) o
  obtain ⟨earlier, hobservations⟩ := List.getLast?_eq_some_iff.mp hlast
  refine ⟨_, newer, stretch, o, earlier, hlog, rfl, hsampler, hworld, fun p hp => ?_, {
    observations_eq := hobservations
    get?_environment := stretch.get?_environment hlog hobservations
    covers_iff := stretch.covers_environment_iff hlog hobservations }⟩
  exact Stretch.exists_sampling hlog (hobservations ▸ List.mem_append_left _ hp)

section Turns

open KernelSampler

/-- A sampler that reports the variables whose names contain a text. -/
private def reporting (name : Text) : KernelSampler :=
  { plain ['/'] false with shownVariables := ⟨[Text.contains name]⟩ }

/-- A process with a variable. -/
private def hosting : World :=
  ⟨kernelTree (processFiles 1 10 ++ [processFile 1 ["environ".toList] "SECRET=key".toList]), ⟨0⟩⟩

/-- A sampler takes the first turn. -/
private def firstTurn : List Step := [⟨hosting, .sampleProcess (reporting "SECRET".toList) 1⟩]

/-- Another one takes the second turn. -/
private def secondTurn : Step := ⟨hosting, .sampleProcess (reporting "PORT".toList) 1⟩

/-- The second sampler gives back what the first one has chosen. -/
private theorem reply_secondTurn : ∃ reply,
    secondTurn.reply (historyAfter firstTurn) = .ok reply ∧
      ∃ s ∈ reply.givenBack, s.environment.get? "SECRET".toList = some "key".toList := by
  have hvalues : ((secondTurn.reply (historyAfter firstTurn)).map fun reply =>
      reply.givenBack.map fun s => s.environment.get? "SECRET".toList).toOption =
        some [some "key".toList] := by
    decide +kernel
  cases hreply : secondTurn.reply (historyAfter firstTurn) with
  | error fault => simp [hreply, Except.map, Except.toOption] at hvalues
  | ok reply =>
    refine ⟨reply, rfl, ?_⟩
    rw [hreply, Except.map, Except.toOption, Option.some.injEq] at hvalues
    exact List.mem_map.mp (hvalues ▸ List.mem_singleton.mpr rfl)

/-- The first sampler has chosen the variable that the second one gives back. -/
theorem environment_of_givenBack_turns : ∃ reply,
    secondTurn.reply (historyAfter firstTurn) = .ok reply ∧
    ∃ s ∈ reply.givenBack, s.environment.get? "SECRET".toList = some "key".toList ∧
      ∃ (log newer : List Change) (stretch : Stretch log),
        changeLog (firstTurn ++ [secondTurn]) = log ++ newer ∧
        stretch.first.sampler.shownVariables.passes "SECRET".toList = true ∧
        stretch.first.fileValue? "SECRET".toList = some "key".toList := by
  obtain ⟨reply, hreply, s, hs, hsecret⟩ := reply_secondTurn
  obtain ⟨log, newer, stretch, o, earlier, hlog, rfl, -, -, -, haccounts⟩ :=
    environment_of_givenBack hreply hs
  obtain ⟨-, hpasses, hvalue⟩ := (haccounts.get?_environment _ _).mp hsecret
  exact ⟨reply, hreply, o.sample, hs, hsecret, log, newer, stretch, hlog, hpasses, hvalue⟩

/-- The second sampler itself does not let that variable pass. -/
theorem environment_of_givenBack_uncovered : ∃ reply,
    secondTurn.reply (historyAfter firstTurn) = .ok reply ∧
    secondTurn.operation.sampler? = some (reporting "PORT".toList) ∧
    ∃ s ∈ reply.givenBack,
      ¬ (reporting "PORT".toList).shownVariables.Covers s.environment := by
  obtain ⟨reply, hreply, s, hs, hsecret⟩ := reply_secondTurn
  refine ⟨reply, hreply, rfl, s, hs, fun hcovers => ?_⟩
  have hpasses : (reporting "PORT".toList).shownVariables.passes "SECRET".toList = false := by
    decide +kernel
  exact Bool.false_ne_true (hpasses.symm.trans (hcovers _ _ hsecret))

end Turns

end ProcessMeter
