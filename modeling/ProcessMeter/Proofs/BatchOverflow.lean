import ProcessMeter.Proofs.BatchAlone
import ProcessMeter.Proofs.CountersOverflow

/-!
# When a batch overflows

Sampling all processes ends without an answer exactly if the counters of one of them overflow. If
no counters do, then each process that can be sampled alone is among the samples, whatever the
files of the others hold.
-/

namespace ProcessMeter

namespace KernelSampler

variable {k : KernelSampler} {w : World} {pid : Nat}

/-- A process that is sampled on the history at the start is observed in a batch without overflows,
with the same sample. -/
private theorem exists_mem_observedAmong {filter : NameFilter} {pids : List Nat} {before : History}
    {s : ProcessSample} (hfine : ∀ pid ∈ pids, ¬ k.CountersOverflow (some filter) w pid)
    (hpid : pid ∈ pids) (h : k.answer (some filter) pid w before = .ok (.sampled s)) :
    ∃ o ∈ k.observedAmong w filter before pids, o.sample = s := by
  induction pids generalizing before with
  | nil => simp at hpid
  | cons first rest ih =>
    obtain ⟨hfirst, hrest⟩ := List.forall_mem_cons.mp hfine
    rw [observedAmong, if_neg (mt overflows_iff.mp hfirst)]
    by_cases heq : pid = first
    · subst heq
      rw [k.observation?_of_sampled h]
      exact ⟨_, List.mem_cons_self, rfl⟩
    · have hpid : pid ∈ rest := (List.mem_cons.mp hpid).resolve_left heq
      cases ho : k.observation? (some filter) w before first with
      | none => exact ih hrest hpid h
      | some o =>
        obtain ⟨-, -, -, -, hopid⟩ := k.eq_of_observation? ho
        -- the sample of another process leaves the entry that matters as it was
        have hkept : (before.insert o.sample).get? pid = before.get? pid := by
          rw [History.get?_insert, o.sample_pid, hopid, if_neg (Ne.symm heq)]
        rw [← answer_congr hkept] at h
        obtain ⟨other, hother, hs⟩ := ih hrest hpid h
        exact ⟨other, List.mem_cons_of_mem _ hother, hs⟩

/-- Where a name passes there are tests. -/
private theorem isEmpty_of_passes {filter : NameFilter} {name : Text}
    (h : Sampler.passes (some filter) name = true) : filter.isEmpty = false := by
  cases htests : filter.tests with
  | nil => simp [Sampler.passes, NameFilter.passes, htests] at h
  | cons test rest => simp [NameFilter.isEmpty, htests]

/-- A batch over listed processes overflows exactly if the counters of one of them do. Otherwise its
samples are those observed. -/
private theorem run_sampleMatching_cases {filter : NameFilter} (hfilter : filter.isEmpty = false)
    {pids : List Nat} (hpids : (Procfs.pids k.rootfs).outcome w = .ok pids)
    (top : Option TopSelection) (before : History) :
    ((∀ pid ∈ pids, ¬ k.CountersOverflow (some filter) w pid) ∧
      ((k.sampleMatching filter top).run w before).1 =
        .ok ((top.getD .none).select
          ((k.observedAmong w filter before pids).map fun o => o.sample))) ∨
    ((∃ pid ∈ pids, k.CountersOverflow (some filter) w pid) ∧
      ((k.sampleMatching filter top).run w before).1 = .error .overflow) := by
  rw [run_sampleMatching, hfilter, if_neg Bool.false_ne_true]
  simp only [hpids]
  rcases k.sampleEach_cases w filter before pids with ⟨hfine, hrun⟩ | ⟨hsome, hrun⟩
  · refine Or.inl ⟨fun pid hpid h => ?_, by rw [hrun]⟩
    obtain ⟨history, hnot⟩ := hfine pid hpid
    exact hnot (overflows_iff.mpr h)
  · obtain ⟨pid, hpid, history, h⟩ := hsome
    exact Or.inr ⟨⟨pid, hpid, overflows_iff.mp h⟩, by rw [hrun]⟩

/-- Sampling all processes whose names pass overflows exactly if the counters of a listed process
do, whatever the history. -/
private theorem run_sampleMatching_eq_overflow {filter : NameFilter} {top : Option TopSelection}
    {before : History} :
    ((k.sampleMatching filter top).run w before).1 = .error .overflow ↔
      ∃ pids, (Procfs.pids k.rootfs).outcome w = .ok pids ∧
        ∃ pid ∈ pids, k.CountersOverflow (some filter) w pid := by
  constructor
  · intro h
    have hfilter : filter.isEmpty = false := by
      by_contra hempty
      rw [Bool.not_eq_false] at hempty
      simp [run_sampleMatching, hempty] at h
    rcases (Procfs.pids_neverOverflows k.rootfs).outcome_cases w with
      ⟨pids, hpids⟩ | ⟨failure, hfailure⟩
    · rcases run_sampleMatching_cases hfilter hpids top before with ⟨-, hrun⟩ | ⟨hsome, -⟩
      · simp [hrun] at h
      · exact ⟨pids, hpids, hsome⟩
    · simp [run_sampleMatching, hfilter, hfailure] at h
  · rintro ⟨pids, hpids, pid, hpid, hoverflow⟩
    obtain ⟨identity, -, hpasses⟩ := hoverflow.passes
    have hfilter := isEmpty_of_passes hpasses
    rcases run_sampleMatching_cases hfilter hpids top before with ⟨hfine, -⟩ | ⟨-, hrun⟩
    · exact absurd hoverflow (hfine pid hpid)
    · exact hrun

/-- Sampling all processes whose names pass overflows exactly if the counters of a listed process
do. If not, then every process that is sampled alone is among the samples, or no process can be
listed at all. -/
theorem sampleMatching_overflows_iff (k : KernelSampler) (w : World) (filter : NameFilter)
    (top : Option TopSelection) (before : History) :
    (((k.sampleMatching filter top).run w before).1 = .error .overflow ↔
      ∃ pids, (Procfs.pids k.rootfs).outcome w = .ok pids ∧
        ∃ pid ∈ pids, k.CountersOverflow (some filter) w pid) ∧
    (((k.sampleMatching filter top).run w before).1 = .error .overflow ∨
      (∃ samples, ((k.sampleMatching filter top).run w before).1 =
          .ok ((top.getD .none).select samples) ∧
        ∀ pids, (Procfs.pids k.rootfs).outcome w = .ok pids → ∀ pid ∈ pids, ∀ s,
          k.answer (some filter) pid w before = .ok (.sampled s) → s ∈ samples) ∨
      ∃ failure, w.files.readDirectory (Procfs.root k.rootfs) = .error failure ∧
        ((k.sampleMatching filter top).run w before).1 =
          .error (.failed (.cannotList (Procfs.root k.rootfs) failure))) := by
  refine ⟨run_sampleMatching_eq_overflow, ?_⟩
  by_cases hempty : filter.isEmpty = true
  · refine Or.inr (Or.inl ⟨[], ?_, ?_⟩)
    · rw [run_sampleMatching, if_pos hempty, TopSelection.select_nil]
    · intro pids _ pid _ s hs
      obtain ⟨identity, -, -, hpasses, -⟩ := exists_observe_of_sampled hs
      simp [isEmpty_of_passes hpasses] at hempty
  · have hfilter : filter.isEmpty = false := by simpa using hempty
    cases hnames : w.files.readDirectory (Procfs.root k.rootfs) with
    | error failure =>
      refine Or.inr (Or.inr ⟨failure, rfl, ?_⟩)
      simp [run_sampleMatching, hfilter, Procfs.outcome_pids_of_error hnames]
    | ok names =>
      have hpids := Procfs.outcome_pids_of_ok hnames
      rcases run_sampleMatching_cases hfilter hpids top before with ⟨hfine, hrun⟩ | ⟨-, hrun⟩
      · refine Or.inr (Or.inl ⟨_, hrun, fun pids h pid hpid s hs => ?_⟩)
        obtain rfl : _ = pids := Except.ok.inj (hpids.symm.trans h)
        obtain ⟨o, ho, rfl⟩ := exists_mem_observedAmong hfine hpid hs
        exact List.mem_map_of_mem ho
      · exact Or.inl hrun

/-- A network file in which the octets received by two interfaces add up to one more than the
largest 64-bit number. -/
private def crowdedNetwork : Text :=
  ("Inter-| Receive | Transmit\n face |bytes |bytes\n" ++
    "eth0: 18446744073709551615 0 0 0 0 0 0 0 0 0 0 0 0 0 0 0\n" ++
    "eth1: 1 0 0 0 0 0 0 0 0 0 0 0 0 0 0 0\n").toList

/-- Two processes: the first one has such a network file, the second one has more memory. -/
private def crowded : World :=
  ⟨kernelTree (processFiles 1 10 ++
    [processFile 1 ["net".toList, "dev".toList] crowdedNetwork] ++ processFiles 2 30 ++
    [processFile 2 ["statm".toList] "100 50 1 0\n".toList]), ⟨1000 * nanosPerSecond⟩⟩

/-- The network file of one process loses the sample of another one that can be sampled alone, even
where only the one with the most memory is to be kept. -/
theorem sampleMatching_overflows_crowded :
    (((plain "/".toList true).sampleMatching everyName (some ⟨0, 1⟩)).run crowded .empty).1 =
      .error .overflow ∧
    ∃ s, (plain "/".toList true).answer (some everyName) 2 crowded .empty = .ok (.sampled s) := by
  have hnames : crowded.files.readDirectory (Procfs.root "/".toList) =
      .ok ["1".toList, "2".toList] := by
    decide +kernel
  have hpids := Procfs.outcome_pids_of_ascending hnames (by decide +kernel)
  have hoverflow : (plain "/".toList true).Overflows (some everyName) crowded .empty 1 := by
    decide +kernel
  have hsampled :
      ((plain "/".toList true).observation? (some everyName) crowded .empty 2).isSome := by
    decide +kernel
  obtain ⟨o, ho⟩ := Option.isSome_iff_exists.mp hsampled
  obtain ⟨hk, hfilter, hw, hbefore, hpid⟩ := eq_of_observation? _ ho
  refine ⟨run_sampleMatching_eq_overflow.mpr ⟨_, hpids, 1, by decide +kernel, ?_⟩, o.sample, ?_⟩
  · exact overflows_iff.mp hoverflow
  · rw [← o.answer_eq, hk, hfilter, hw, hbefore, hpid]

end KernelSampler

end ProcessMeter
