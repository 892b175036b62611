import Mathlib.Data.List.Nodup
import ProcessMeter.Proofs.Derivation

/-!
# Sampling many processes is sampling each alone

Sampling the processes of a host one after another threads one history through all of them, and
failures are left out on the way. If every process is listed once, each sample is nevertheless the
one that this process has when it is sampled alone on the history at the start: what was observed
before its turn concerns other numbers.
-/

namespace ProcessMeter

namespace FileTree

/-- The name of an entry below a place determines the entry. -/
private theorem childName?_injective {place names names' : List Text} {name : Text}
    (h : childName? place names = some name) (h' : childName? place names' = some name) :
    names = names' := by
  have hsplit : ∀ {names : List Text}, childName? place names = some name →
      names = place ++ [name] := by
    intro names h
    unfold childName? at h
    split at h
    · next hplace =>
      rw [← hplace]
      exact (List.dropLast_append_getLast? name h).symm
    · simp at h
  rw [hsplit h, hsplit h']

/-- No directory lists a name twice. -/
theorem nodup_of_readDirectory {tree : FileTree} {p : Path} {names : List Text}
    (h : tree.readDirectory p = .ok names) : names.Nodup := by
  unfold readDirectory at h
  split at h
  · simp at h
  · next place _ =>
    rw [← Except.ok.inj h, List.Nodup, List.pairwise_filterMap]
    refine (List.pairwise_map.mp tree.distinct).imp fun hne name hname name' hname' heq => ?_
    exact hne (childName?_injective hname (heq ▸ hname'))
  · simp at h
  · simp at h

end FileTree

namespace Procfs

/-- The numbers in the process directory are written as the kernel writes them. -/
def Canonical (tree : FileTree) (rootfs : Path) : Prop :=
  ∀ names ∈ (tree.readDirectory (root rootfs)).toOption, ∀ name ∈ names, ∀ pid ∈ pidOf? name,
    name = Numeral.write pid

instance (tree : FileTree) (rootfs : Path) : Decidable (Canonical tree rootfs) := by
  unfold Canonical
  infer_instance

/-- The processes can be listed exactly if their directory can be read. -/
theorem outcome_pids_of_ok {rootfs : Path} {w : World} {names : List Text}
    (h : w.files.readDirectory (root rootfs) = .ok names) :
    (pids rootfs).outcome w =
      .ok ((names.filterMap pidOf?).mergeSort fun a b => a ≤ b) := by
  rw [pids, Probe.outcome_bind, Probe.outcome_files]
  simp only [Except.bind, h, Probe.outcome_pure]

/-- Without the directory of processes there is no listing. -/
theorem outcome_pids_of_error {rootfs : Path} {w : World} {failure : FileFailure}
    (h : w.files.readDirectory (root rootfs) = .error failure) :
    (pids rootfs).outcome w = .error (.failed (.cannotList (root rootfs) failure)) := by
  rw [pids, Probe.outcome_bind, Probe.outcome_files]
  simp only [Except.bind, h, Probe.outcome_fail]

/-- Processes that come in ascending order are listed in this order. -/
theorem outcome_pids_of_ascending {rootfs : Path} {w : World} {names : List Text}
    (hnames : w.files.readDirectory (root rootfs) = .ok names)
    (hascending : (names.filterMap pidOf?).Pairwise (· ≤ ·)) :
    (pids rootfs).outcome w = .ok (names.filterMap pidOf?) := by
  rw [outcome_pids_of_ok hnames, List.mergeSort_of_pairwise (by simpa using hascending)]

/-- The processes are listed in ascending order, each once. -/
theorem pids_pairwise_lt {rootfs : Path} {w : World}
    (hcanonical : Canonical w.files rootfs) {pids : List Nat}
    (h : (Procfs.pids rootfs).outcome w = .ok pids) : pids.Pairwise (· < ·) := by
  cases hnames : w.files.readDirectory (root rootfs) with
  | error failure => simp [outcome_pids_of_error hnames] at h
  | ok names =>
    rw [outcome_pids_of_ok hnames, Except.ok.injEq] at h
    have hnodup : (names.filterMap pidOf?).Nodup := by
      rw [List.Nodup, List.pairwise_filterMap]
      refine (FileTree.nodup_of_readDirectory hnames).imp_of_mem ?_
      intro name name' hname hname' hne pid hpid pid' hpid' heq
      -- both names are the one way to write the number
      have hlisted : names ∈ (w.files.readDirectory (root rootfs)).toOption := by
        rw [hnames]
        rfl
      have hwritten := hcanonical names hlisted name hname pid hpid
      have hwritten' := hcanonical names hlisted name' hname' pid' hpid'
      exact hne (by rw [hwritten, hwritten', heq])
    have hsorted : ((names.filterMap pidOf?).mergeSort fun a b => a ≤ b).Pairwise (· ≤ ·) := by
      simpa only [decide_eq_true_eq] using
        @List.pairwise_mergeSort Nat (fun a b => decide (a ≤ b))
          (fun a b c hab hbc => by simp only [decide_eq_true_eq] at hab hbc ⊢; omega)
          (fun a b => by simp only [Bool.or_eq_true, decide_eq_true_eq]; omega)
          (names.filterMap pidOf?)
    have hnodup' := (List.mergeSort_perm (names.filterMap pidOf?) fun a b => a ≤ b).nodup_iff.mpr
      hnodup
    rw [← h]
    exact hsorted.imp₂ (fun a b hle hne => Nat.lt_of_le_of_ne hle hne) hnodup'

end Procfs

namespace KernelSampler

variable (k : KernelSampler) (w : World) (filter : NameFilter)

/-- The sample of a process that is sampled alone, if its name passes and nothing fails. -/
def sampleAlone? (before : History) (pid : Nat) : Option ProcessSample :=
  match k.answer (some filter) pid w before with
  | .ok (.sampled sample) => some sample
  | _ => none

/-- A process is sampled alone exactly if it is sampled and passes. -/
theorem sampleAlone?_eq_some {before : History} {pid : Nat} {s : ProcessSample} :
    k.sampleAlone? w filter before pid = some s ↔
      k.answer (some filter) pid w before = .ok (.sampled s) := by
  unfold sampleAlone?
  split
  · next sample h => simp [h]
  · next h => simpa using h s

/-- A process alone is observed with its sample. -/
theorem map_sample_observation? (before : History) (pid : Nat) :
    (k.observation? (some filter) w before pid).map (·.sample) =
      k.sampleAlone? w filter before pid := by
  cases hsample : k.sampleAlone? w filter before pid with
  | none =>
    rw [k.observation?_of_forall_ne, Option.map_none]
    intro s hs
    simp [(k.sampleAlone?_eq_some w filter).mpr hs] at hsample
  | some s =>
    rw [k.observation?_of_sampled ((k.sampleAlone?_eq_some w filter).mp hsample), Option.map_some]

/-- The sample of a process alone carries its number. -/
theorem pid_of_sampleAlone? {before : History} {pid : Nat} {s : ProcessSample}
    (h : k.sampleAlone? w filter before pid = some s) : s.identity.pid = pid :=
  pid_of_sampled ((k.sampleAlone?_eq_some w filter).mp h)

/-- Only the entry of its own number matters to how a process is sampled alone. -/
theorem sampleAlone?_congr {before other : History} {pid : Nat}
    (h : before.get? pid = other.get? pid) :
    k.sampleAlone? w filter before pid = k.sampleAlone? w filter other pid := by
  rw [sampleAlone?, sampleAlone?, answer_congr h]

/-- The loop over different processes observes each as alone on the first history. The invariant is
that the history still agrees with the first one on the processes that are left. -/
theorem run_sampleEach_alone {before history : History} {pids : List Nat} (hnodup : pids.Nodup)
    (hfine : ∀ pid ∈ pids, ¬ k.Overflows (some filter) w before pid)
    (hagree : ∀ pid ∈ pids, history.get? pid = before.get? pid) :
    (k.sampleEach (k.capacityAt w) filter pids).run w history =
      (.ok (pids.filterMap (k.sampleAlone? w filter before)),
        (pids.filterMap (k.sampleAlone? w filter before)).foldl History.insert history) := by
  induction pids generalizing history with
  | nil => rfl
  | cons pid rest ih =>
    obtain ⟨hnotmem, hnodup⟩ := List.nodup_cons.mp hnodup
    obtain ⟨hpidfine, hrestfine⟩ := List.forall_mem_cons.mp hfine
    obtain ⟨hpidagree, hrestagree⟩ := List.forall_mem_cons.mp hagree
    have hnot : ¬ k.Overflows (some filter) w history pid := by
      rwa [Overflows, answer_congr hpidagree]
    have hsample := k.map_sample_observation? w filter history pid
    rw [k.sampleAlone?_congr w filter hpidagree] at hsample
    rw [Sampler.sampleEach, Session.run_bind, sampleAmong_run, if_neg hnot]
    cases ho : k.observation? (some filter) w history pid with
    | none =>
      rw [ho, Option.map_none] at hsample
      simp only [Session.run_bind, ih hnodup hrestfine hrestagree, Session.run_pure,
        Option.toList_none, List.nil_append, List.filterMap_cons_none hsample.symm]
    | some o =>
      rw [ho, Option.map_some] at hsample
      obtain ⟨-, -, -, -, hpid⟩ := k.eq_of_observation? ho
      have hagree' : ∀ other ∈ rest,
          (history.insert o.sample).get? other = before.get? other := by
        intro other hother
        have hne : o.sample.identity.pid ≠ other := by
          rw [o.sample_pid, hpid]
          exact fun h => hnotmem (h ▸ hother)
        rw [History.get?_insert, if_neg hne, hrestagree other hother]
      simp only [Session.run_bind, ih hnodup hrestfine hagree', Session.run_pure,
        Option.toList_some, List.singleton_append, List.filterMap_cons_some hsample.symm,
        List.foldl_cons]

/-- Storing the samples of different processes changes the entries of exactly these processes. -/
theorem get?_foldl_insert_alone {before history : History} {pids : List Nat} (hnodup : pids.Nodup)
    (pid : Nat) :
    ((pids.filterMap (k.sampleAlone? w filter before)).foldl History.insert history).get? pid =
      if pid ∈ pids then (k.sampleAlone? w filter before pid).or (history.get? pid)
      else history.get? pid := by
  induction pids generalizing history with
  | nil => rfl
  | cons first rest ih =>
    obtain ⟨hnotmem, hnodup⟩ := List.nodup_cons.mp hnodup
    cases hsample : k.sampleAlone? w filter before first with
    | none =>
      rw [List.filterMap_cons_none hsample, ih hnodup]
      by_cases hpid : pid = first
      · simp [hpid, hnotmem, hsample]
      · simp [hpid]
    | some s =>
      have hs := k.pid_of_sampleAlone? w filter hsample
      rw [List.filterMap_cons_some hsample, List.foldl_cons, ih hnodup, History.get?_insert, hs]
      by_cases hpid : pid = first
      · simp [hpid, hnotmem, hsample]
      · simp [hpid, Ne.symm hpid]

/-- The identity of a process, if it can be read and its name passes. -/
def identityAlone? (pid : Nat) : Option ProcessIdentity :=
  ((Procfs.identity k.rootfs pid).outcome w).toOption.filter fun identity =>
    filter.passes identity.name

/-- The identity of a process is found alone exactly if it can be read and the name passes. -/
theorem identityAlone?_eq_some {pid : Nat} {identity : ProcessIdentity} :
    k.identityAlone? w filter pid = some identity ↔
      (Procfs.identity k.rootfs pid).outcome w = .ok identity ∧
        filter.passes identity.name = true := by
  rw [identityAlone?, Option.filter_eq_some_iff]
  cases (Procfs.identity k.rootfs pid).outcome w with
  | error fault => simp [Except.toOption]
  | ok found => simp [Except.toOption]

/-- An identity is that of the process it is read for. -/
theorem pid_of_identityAlone? {pid : Nat} {identity : ProcessIdentity}
    (h : k.identityAlone? w filter pid = some identity) : identity.pid = pid :=
  Procfs.identity_pid ((k.identityAlone?_eq_some w filter).mp h).1

/-- Listing processes never fails, and lists the identity of each that can be read and passes. -/
theorem outcome_listEach (pids : List Nat) :
    (k.listEach filter pids).outcome w = .ok (pids.filterMap (k.identityAlone? w filter)) := by
  induction pids with
  | nil => rfl
  | cons pid rest ih =>
    rw [Sampler.listEach, Probe.outcome_attempt_bind, outcome_identity]
    rcases (Procfs.identity_neverOverflows k.rootfs pid).outcome_cases w with
      ⟨identity, hidentity⟩ | ⟨failure, hfailure⟩
    · by_cases hpasses : filter.passes identity.name
      · have hsome := (k.identityAlone?_eq_some w filter).mpr ⟨hidentity, hpasses⟩
        simp [hidentity, hpasses, ih, Except.map, List.filterMap_cons_some hsome]
      · have hnone : k.identityAlone? w filter pid = none := by
          simp [identityAlone?, hidentity, Except.toOption, hpasses]
        simp [hidentity, hpasses, ih, List.filterMap_cons_none hnone]
    · have hnone : k.identityAlone? w filter pid = none := by
        simp [identityAlone?, hfailure, Except.toOption]
      rw [List.filterMap_cons_none hnone]
      simp only [hfailure]
      split
      · next heq => simp at heq
      · simp [Probe.outcome_bind, ih, Except.bind]
      · simp [Probe.outcome_bind, ih, Except.bind]

/-- Listing the processes whose names pass fails only if no processes can be listed at all. -/
theorem outcome_listMatching (hfilter : filter.isEmpty = false) {pids : List Nat}
    (hpids : (Procfs.pids k.rootfs).outcome w = .ok pids) :
    (k.listMatching filter).outcome w = .ok (pids.filterMap (k.identityAlone? w filter)) := by
  rw [Sampler.listMatching, hfilter, if_neg Bool.false_ne_true, Probe.outcome_bind, k.table_eq,
    Procfs.table, hpids]
  exact k.outcome_listEach w filter pids

/-- A process that is sampled alone is listed with the identity of its sample. -/
theorem identityAlone?_of_sampleAlone? {before : History} {pid : Nat} {s : ProcessSample}
    (h : k.sampleAlone? w filter before pid = some s) :
    k.identityAlone? w filter pid = some s.identity := by
  obtain ⟨identity, hidentity, -, hpasses, hobserve⟩ :=
    exists_observe_of_sampled ((k.sampleAlone?_eq_some w filter).mp h)
  obtain ⟨raw, -, hraw, -, hs⟩ := exists_underived_of_observe hobserve
  rw [hs, ProcessSample.derive_identity, hraw]
  exact (k.identityAlone?_eq_some w filter).mpr ⟨hidentity, hpasses⟩

/-- A process that is listed but not sampled alone fails or overflows when it is sampled. -/
theorem exists_fault_of_identityAlone? {before : History} {pid : Nat} {identity : ProcessIdentity}
    (h : k.identityAlone? w filter pid = some identity)
    (hnone : k.sampleAlone? w filter before pid = none) :
    ∃ fault, k.answer (some filter) pid w before = .error fault := by
  cases hanswer : k.answer (some filter) pid w before with
  | error fault => exact ⟨fault, rfl⟩
  | ok outcome =>
    cases outcome with
    | sampled s => simp [(k.sampleAlone?_eq_some w filter).mpr hanswer] at hnone
    | passedOver other =>
      obtain ⟨hidentity, hpasses⟩ := identity_of_passedOver hanswer
      obtain ⟨hidentity', hpasses'⟩ := (k.identityAlone?_eq_some w filter).mp h
      have hsame : other = identity := Except.ok.inj (hidentity.symm.trans hidentity')
      have hnot : filter.passes other.name = false := hpasses
      rw [hsame, hpasses'] at hnot
      exact absurd hnot (by decide)

/-- What a batch over the given processes has to do with sampling each of them alone on the history
at the start. -/
structure BatchOfSingles (before : History) (pids : List Nat) : Prop where
  /-- The processes come in ascending order, each once. -/
  ascending : pids.Pairwise (· < ·)
  /-- All processes that are sampled alone are the answer, and their samples are stored. -/
  all : (k.sampleMatching filter none).run w before =
    (.ok (pids.filterMap (k.sampleAlone? w filter before)),
      (pids.filterMap (k.sampleAlone? w filter before)).foldl History.insert before)
  /-- The busiest are selected from the same samples, and all of them are stored. -/
  busiest : ∀ top, (k.sampleMatching filter (some top)).run w before =
    (.ok (top.select (pids.filterMap (k.sampleAlone? w filter before))),
      (pids.filterMap (k.sampleAlone? w filter before)).foldl History.insert before)
  /-- The samples take the places of their processes, and the other entries stay. -/
  entries : ∀ pid,
    ((pids.filterMap (k.sampleAlone? w filter before)).foldl History.insert before).get? pid =
      if pid ∈ pids then (k.sampleAlone? w filter before pid).or (before.get? pid)
      else before.get? pid
  /-- The processes are listed in the same order, and whoever is listed but not sampled failed. -/
  listed : ∃ identities, (k.listMatching filter).outcome w = .ok identities ∧
    ((pids.filterMap (k.sampleAlone? w filter before)).map fun s => s.identity).Sublist
      identities ∧
    ∀ identity ∈ identities,
      (∃ s ∈ pids.filterMap (k.sampleAlone? w filter before), s.identity = identity) ∨
      ∃ failure, k.answer (some filter) identity.pid w before = .error (.failed failure)
  /-- No other entry of the history matters to how a process is sampled. -/
  independent : ∀ pid (other : History), other.get? pid = before.get? pid →
    k.answer (some filter) pid w other = k.answer (some filter) pid w before

/-- A function that finds more than another one keeps the found values in order. -/
private theorem filterMap_sublist_filterMap {α β : Type} {f g : α → Option β}
    (h : ∀ a b, f a = some b → g a = some b) (l : List α) :
    (l.filterMap f).Sublist (l.filterMap g) := by
  induction l with
  | nil => exact List.Sublist.refl _
  | cons a rest ih =>
    cases hf : f a with
    | none =>
      rw [List.filterMap_cons_none hf]
      exact ih.trans ((List.sublist_cons_self a rest).filterMap g)
    | some b =>
      rw [List.filterMap_cons_some hf, List.filterMap_cons_some (h a b hf)]
      exact ih.cons_cons b

variable {k : KernelSampler} {w : World} {filter : NameFilter}

/-- A batch over different processes is made of the samples of each alone. -/
theorem batchOfSingles_of_fine {before : History} {pids : List Nat}
    (hfilter : filter.isEmpty = false) (hpids : (Procfs.pids k.rootfs).outcome w = .ok pids)
    (hascending : pids.Pairwise (· < ·))
    (hfine : ∀ pid ∈ pids, ¬ k.Overflows (some filter) w before pid) :
    k.BatchOfSingles w filter before pids := by
  have hnodup : pids.Nodup := hascending.imp fun hlt => Nat.ne_of_lt hlt
  have hloop := k.run_sampleEach_alone w filter hnodup hfine (fun _ _ => rfl)
  have hrun : ∀ top, (k.sampleMatching filter top).run w before =
      (.ok ((top.getD .none).select (pids.filterMap (k.sampleAlone? w filter before))),
        (pids.filterMap (k.sampleAlone? w filter before)).foldl History.insert before) := by
    intro top
    rw [run_sampleMatching, hfilter, if_neg Bool.false_ne_true]
    simp only [hpids, hloop]
  refine ⟨hascending, hrun none, fun top => hrun (some top),
    k.get?_foldl_insert_alone w filter hnodup, ?_, fun pid other h => answer_congr h⟩
  refine ⟨_, k.outcome_listMatching w filter hfilter hpids, ?_, ?_⟩
  · rw [List.map_filterMap]
    refine filterMap_sublist_filterMap (fun pid identity h => ?_) pids
    obtain ⟨s, hs, rfl⟩ := Option.map_eq_some_iff.mp h
    exact k.identityAlone?_of_sampleAlone? w filter hs
  · intro identity hidentity
    obtain ⟨pid, hpid, hlisted⟩ := List.mem_filterMap.mp hidentity
    cases hsample : k.sampleAlone? w filter before pid with
    | some s =>
      have heq := k.identityAlone?_of_sampleAlone? w filter hsample
      rw [hlisted] at heq
      exact Or.inl ⟨s, List.mem_filterMap.mpr ⟨pid, hpid, hsample⟩, (Option.some.inj heq).symm⟩
    | none =>
      obtain ⟨fault, hfault⟩ := k.exists_fault_of_identityAlone? w filter hlisted hsample
      rw [k.pid_of_identityAlone? w filter hlisted]
      cases fault with
      | overflow => exact absurd hfault (hfine pid hpid)
      | failed failure => exact Or.inr ⟨failure, hfault⟩

/-- If every process is listed once and no sampling overflows, then all processes can be sampled at
once exactly if they can be listed, and this is the same as sampling each of them alone. -/
theorem sampleMatching_alone {before : History} (hfilter : filter.isEmpty = false)
    (hcanonical : Procfs.Canonical w.files k.rootfs)
    (hfine : ∀ pids, (Procfs.pids k.rootfs).outcome w = .ok pids →
      ∀ pid ∈ pids, ¬ k.Overflows (some filter) w before pid) :
    (∀ top, (∃ samples, ((k.sampleMatching filter top).run w before).1 = .ok samples) ↔
      ∃ names, w.files.readDirectory (Procfs.root k.rootfs) = .ok names) ∧
    ∀ names, w.files.readDirectory (Procfs.root k.rootfs) = .ok names →
      k.BatchOfSingles w filter before
        ((names.filterMap Procfs.pidOf?).mergeSort fun a b => a ≤ b) := by
  have hsingles : ∀ names, w.files.readDirectory (Procfs.root k.rootfs) = .ok names →
      k.BatchOfSingles w filter before
        ((names.filterMap Procfs.pidOf?).mergeSort fun a b => a ≤ b) := by
    intro names hnames
    have hpids := Procfs.outcome_pids_of_ok hnames
    exact batchOfSingles_of_fine hfilter hpids
      (Procfs.pids_pairwise_lt hcanonical hpids) (hfine _ hpids)
  refine ⟨fun top => ⟨?_, ?_⟩, hsingles⟩
  · rintro ⟨samples, hsamples⟩
    cases hnames : w.files.readDirectory (Procfs.root k.rootfs) with
    | ok names => exact ⟨names, rfl⟩
    | error failure =>
      rw [run_sampleMatching, hfilter, if_neg Bool.false_ne_true] at hsamples
      simp [Procfs.outcome_pids_of_error hnames] at hsamples
  · rintro ⟨names, hnames⟩
    cases top with
    | none => exact ⟨_, congrArg Prod.fst (hsingles names hnames).all⟩
    | some top => exact ⟨_, congrArg Prod.fst ((hsingles names hnames).busiest top)⟩

/-- Two processes. -/
private def pair : World := ⟨kernelTree (processFiles 1 10 ++ processFiles 2 30), ⟨0⟩⟩

/-- Two processes are sampled at once as each is alone. -/
theorem sampleMatching_alone_pair :
    (∃ samples, (((plain "/".toList false).sampleMatching everyName none).run pair .empty).1 =
      .ok samples) ∧
    (plain "/".toList false).BatchOfSingles pair everyName .empty [1, 2] := by
  have hnames : pair.files.readDirectory (Procfs.root "/".toList) =
      .ok ["1".toList, "2".toList] := by
    decide +kernel
  have hnumbers : ["1".toList, "2".toList].filterMap Procfs.pidOf? = [1, 2] := by
    decide +kernel
  have hsorted : ((["1".toList, "2".toList].filterMap Procfs.pidOf?).mergeSort fun a b => a ≤ b) =
      [1, 2] := by
    rw [hnumbers]
    exact List.mergeSort_of_pairwise (by decide)
  have hpids : (Procfs.pids "/".toList).outcome pair = .ok [1, 2] := by
    rw [Procfs.outcome_pids_of_ok hnames, hsorted]
  have hfine : ∀ pid ∈ [1, 2],
      ¬ (plain "/".toList false).Overflows (some everyName) pair .empty pid := by
    decide +kernel
  have hcanonical : Procfs.Canonical pair.files "/".toList := by
    decide +kernel
  have hfine' : ∀ pids, (Procfs.pids "/".toList).outcome pair = .ok pids →
      ∀ pid ∈ pids, ¬ (plain "/".toList false).Overflows (some everyName) pair .empty pid := by
    intro pids h
    obtain rfl : [1, 2] = pids := Except.ok.inj (hpids.symm.trans h)
    exact hfine
  have halone := @sampleMatching_alone (plain "/".toList false) pair everyName .empty rfl
    hcanonical hfine'
  exact ⟨(halone.1 none).mpr ⟨_, hnames⟩, hsorted ▸ halone.2 _ hnames⟩

end KernelSampler

end ProcessMeter
