import Mathlib.Data.List.Chain
import ProcessMeter.Proofs.Derivation

/-!
# Stretches of observations

A process that is observed again and again is found in the history each time, as long as its entry
is not taken out and no other process takes over its number. A stretch is what is observed of a
process from its first observation on while this lasts. In a stretch every observation but the first
one finds the sample of the one before it, and the first one finds nothing of its process.
-/

namespace ProcessMeter

namespace Observation

variable (o : Observation)

/-- The entry of the same process that an observation finds in the history. -/
def previous : Option ProcessSample := Sampler.previousOf o.before o.sample.identity

/-- The sample before an observation is the entry of its number, if that is of the same process. -/
theorem previous_eq_some {earlier : ProcessSample} :
    o.previous = some earlier ↔ o.before.get? o.pid = some earlier ∧
      earlier.identity.startTime = o.sample.identity.startTime := by
  rw [previous, Sampler.previousOf, o.sample_pid, Option.filter_eq_some_iff]
  refine and_congr_right fun hbefore => ?_
  rw [ProcessIdentity.isSame, History.pid_of_get?_eq_some hbefore, o.sample_pid]
  simp

/-- An observation follows another one of the same process if it finds its sample. -/
structure Follows (earlier o : Observation) : Prop where
  /-- The number is the same. -/
  pid_eq : o.pid = earlier.pid
  /-- The earlier sample is found. -/
  previous_eq : o.previous = some earlier.sample

end Observation

/-- The observation of a number that a change makes. -/
def Change.observationOf? (pid : Nat) : Change → Option Observation
  | .observed o => if o.pid = pid then some o else none
  | _ => none

/-- A change is an observation of a number exactly if it stores one. -/
theorem Change.observationOf?_eq_some {pid : Nat} {change : Change} {o : Observation} :
    change.observationOf? pid = some o ↔ change = .observed o ∧ o.pid = pid := by
  cases change with
  | observed o' =>
    rw [observationOf?, Option.ite_none_right_eq_some, and_comm, Option.some.injEq,
      Change.observed.injEq]
    exact and_congr_right fun h => by rw [h]
  | _ => simp [observationOf?]

/-- A change that does not concern a number is no observation of it. -/
theorem Change.observationOf?_of_not_concerns {pid : Nat} {change : Change}
    (h : ¬ change.Concerns pid) : change.observationOf? pid = none := by
  cases change with
  | observed o => exact if_neg h
  | _ => rfl

/-- A stretch that lasts until the end of a log. -/
structure Stretch (log : List Change) where
  /-- The changes before the stretch. -/
  older : List Change
  /-- The first observation. -/
  first : Observation
  /-- The changes since then. -/
  later : List Change
  /-- They make up the log. -/
  log_eq : log = older ++ .observed first :: later
  /-- What was known of the number before is of another process. -/
  begins : ∀ earlier, LatestIn older first.pid earlier →
    earlier.identity.startTime ≠ first.sample.identity.startTime
  /-- The number is not taken out since then, and nothing else is observed under it. -/
  lasts : ∀ change ∈ later, change.Concerns first.pid →
    ∃ o, change = .observed o ∧
      o.sample.identity.startTime = first.sample.identity.startTime

namespace Stretch

variable {log newer : List Change} {run : List Step}

/-- The observations of a stretch in order. -/
def observations (stretch : Stretch log) : List Observation :=
  stretch.first :: stretch.later.filterMap (Change.observationOf? stretch.first.pid)

/-- Where an entry is not replaced but by later samples of its process, each of these finds the one
before it. -/
private theorem isChain_follows {history : History} {later : List Change} {o : Observation}
    (hthreaded : Threaded history later) (hfound : history.get? o.pid = some o.sample)
    (hlasts : ∀ change ∈ later, change.Concerns o.pid → ∃ o', change = .observed o' ∧
      o'.sample.identity.startTime = o.sample.identity.startTime) :
    (o :: later.filterMap (Change.observationOf? o.pid)).IsChain Observation.Follows := by
  induction later generalizing history o with
  | nil => exact .singleton o
  | cons change rest ih =>
    obtain ⟨hchange, hrest⟩ := List.forall_mem_cons.mp hlasts
    by_cases hconcerns : change.Concerns o.pid
    · obtain ⟨next, rfl, hstart⟩ := hchange hconcerns
      have hpid : next.pid = o.pid := hconcerns
      have hbefore : next.before = history := hthreaded.1 next rfl
      have hfollows : Observation.Follows o next :=
        ⟨hpid, next.previous_eq_some.mpr ⟨by rw [hbefore, hpid, hfound], hstart.symm⟩⟩
      have hnext : ((Change.observed next).apply history).get? next.pid = some next.sample := by
        rw [Change.apply, History.get?_insert, next.sample_pid, if_pos rfl]
      have hchain := ih hthreaded.2 hnext (by rwa [hpid, hstart])
      rw [List.filterMap_cons_some (Change.observationOf?_eq_some.mpr ⟨rfl, hpid⟩)]
      rw [hpid] at hchain
      exact .cons_cons hfollows hchain
    · rw [List.filterMap_cons_none (Change.observationOf?_of_not_concerns hconcerns)]
      refine ih hthreaded.2 ?_ hrest
      rw [Change.get?_apply_of_not_concerns hconcerns, hfound]

section

variable (hlog : changeLog run = log ++ newer) (stretch : Stretch log)
include hlog

/-- The changes of a log follow each other from the empty history on. -/
private theorem threaded_first :
    Threaded .empty (stretch.older ++ .observed stretch.first :: (stretch.later ++ newer)) := by
  have hthreaded := changesFrom_threaded .empty run
  rw [← changeLog, hlog, stretch.log_eq] at hthreaded
  simpa using hthreaded

/-- The first observation of a stretch finds nothing of its process. -/
theorem previous_first : stretch.first.previous = none := by
  rw [Option.eq_none_iff_forall_ne_some]
  intro earlier hprevious
  obtain ⟨hbefore, hstart⟩ := stretch.first.previous_eq_some.mp hprevious
  rw [(stretch.threaded_first hlog).before_eq] at hbefore
  exact stretch.begins earlier ((get?_applyAll_empty _ _ _).mp hbefore) hstart

/-- Every other one finds the sample of the one before it. -/
theorem isChain : stretch.observations.IsChain Observation.Follows := by
  have hlater := (threaded_append.mp (threaded_append.mp (stretch.threaded_first hlog)).2.2).1
  refine isChain_follows hlater ?_ stretch.lasts
  rw [Change.apply, History.get?_insert, stretch.first.sample_pid, if_pos rfl]

/-- Of two neighbours in a stretch the second has found the first in the history. -/
theorem follows {front later : List Observation} {p o : Observation}
    (ho : stretch.observations = front ++ p :: o :: later) : p.Follows o :=
  List.isChain_iff_forall_rel_of_append_cons_cons.mp (stretch.isChain hlog) ho

end

/-- A stretch begins with its first observation. -/
theorem first_eq {stretch : Stretch log} {o : Observation} {later : List Observation}
    (ho : stretch.observations = o :: later) : stretch.first = o :=
  (List.cons.inj ho).1

/-- All observations of a stretch are of its process. -/
theorem same_of_mem {stretch : Stretch log} {o : Observation} (h : o ∈ stretch.observations) :
    o.pid = stretch.first.pid ∧
      o.sample.identity.startTime = stretch.first.sample.identity.startTime := by
  rcases List.mem_cons.mp h with rfl | h
  · exact ⟨rfl, rfl⟩
  · obtain ⟨change, hchange, hof⟩ := List.mem_filterMap.mp h
    obtain ⟨rfl, hpid⟩ := Change.observationOf?_eq_some.mp hof
    obtain ⟨o', ho', hstart⟩ := stretch.lasts _ hchange hpid
    rw [Change.observed.inj ho']
    exact ⟨Change.observed.inj ho' ▸ hpid, hstart⟩

/-- The observations of a stretch are in the log. -/
theorem mem_log_of_mem {stretch : Stretch log} {o : Observation}
    (h : o ∈ stretch.observations) : .observed o ∈ log := by
  rw [stretch.log_eq]
  rcases List.mem_cons.mp h with rfl | h
  · exact List.mem_append_right _ List.mem_cons_self
  · obtain ⟨change, hchange, hof⟩ := List.mem_filterMap.mp h
    obtain ⟨rfl, -⟩ := Change.observationOf?_eq_some.mp hof
    exact List.mem_append_right _ (List.mem_cons_of_mem _ hchange)

/-- The observations of a stretch are made by the samplers of the run. -/
theorem exists_sampling (hlog : changeLog run = log ++ newer) {stretch : Stretch log}
    {o : Observation} (h : o ∈ stretch.observations) :
    ∃ step ∈ run, step.operation.sampler? = some o.sampler ∧ o.world = step.world := by
  have hmem : .observed o ∈ changeLog run := by
    rw [hlog]
    exact List.mem_append_left _ (mem_log_of_mem h)
  exact exists_sampling_of_mem_changesFrom hmem

/-- A stretch goes on with the next observation of its process. -/
private theorem exists_longer (stretch : Stretch log) (between : List Change) {o : Observation}
    (hpid : o.pid = stretch.first.pid)
    (hstart : o.sample.identity.startTime = stretch.first.sample.identity.startTime)
    (hbetween : ∀ change ∈ between, ¬ change.Concerns stretch.first.pid) :
    ∃ longer : Stretch (log ++ (between ++ [.observed o])),
      longer.observations = stretch.observations ++ [o] := by
  refine ⟨{
    older := stretch.older
    first := stretch.first
    later := stretch.later ++ (between ++ [.observed o])
    log_eq := by simp [stretch.log_eq]
    begins := stretch.begins
    lasts := ?_ }, ?_⟩
  · intro change hchange hconcerns
    rcases List.mem_append.mp hchange with hchange | hchange
    · exact stretch.lasts change hchange hconcerns
    · rcases List.mem_append.mp hchange with hchange | hchange
      · exact absurd hconcerns (hbetween change hchange)
      · exact ⟨o, List.mem_singleton.mp hchange, hstart⟩
  · have hnone : between.filterMap (Change.observationOf? stretch.first.pid) = [] :=
      List.filterMap_eq_nil_iff.mpr fun change hchange =>
        Change.observationOf?_of_not_concerns (hbetween change hchange)
    have hsome : (Change.observed o).observationOf? stretch.first.pid = some o :=
      Change.observationOf?_eq_some.mpr ⟨rfl, hpid⟩
    simp [observations, List.filterMap_append, hnone, hsome]

/-- Every observation belongs to a stretch that lasts until then. -/
theorem exists_stretch (log : List Change) (o : Observation) :
    ∃ stretch : Stretch (log ++ [.observed o]), stretch.observations.getLast? = some o := by
  induction hlength : log.length using Nat.strongRecOn generalizing log o with
  | ind length ih =>
    by_cases hknown : ∃ earlier, LatestIn log o.pid earlier ∧
        earlier.identity.startTime = o.sample.identity.startTime
    · obtain ⟨earlier, ⟨older, p, between, rfl, hpid, rfl, hbetween⟩, hstart⟩ := hknown
      obtain ⟨stretch, hlast⟩ := ih older.length (by simp [← hlength]) older p rfl
      obtain ⟨hpidFirst, hstartFirst⟩ :=
        stretch.same_of_mem (List.mem_of_getLast? hlast)
      obtain ⟨longer, hlonger⟩ := stretch.exists_longer between (hpid.symm.trans hpidFirst)
        (hstart.symm.trans hstartFirst) (by rwa [← hpidFirst, hpid])
      have hlog : older ++ [.observed p] ++ (between ++ [.observed o]) =
          older ++ .observed p :: between ++ [.observed o] := by simp
      exact hlog ▸ ⟨longer, by rw [hlonger, List.getLast?_concat]⟩
    · refine ⟨{
        older := log
        first := o
        later := []
        log_eq := rfl
        begins := fun earlier hlatest hstart => hknown ⟨earlier, hlatest, hstart⟩
        lasts := by simp }, rfl⟩

end Stretch

end ProcessMeter
