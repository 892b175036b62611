import Mathlib.Data.Finset.Card
import Mathlib.Data.List.Nodup
import ProcessMeter.Number.Shortest
import ProcessMeter.Process.Top

/-!
# The busiest of some samples

One sample leads another if it used more processor time, or as much and comes first, and likewise
for memory. Of samples of distinct processes those are selected that few enough others lead: first
the ones by processor time, each once, and then the ones by memory that are not among them.
-/

namespace ProcessMeter

namespace Double

/-- The bits behind the sign. -/
def magnitude (x : Double) : Nat := x.bits.toNat % Nat.pow 2 63

/-- The total order of doubles. Signed numbers are below those without a sign. Among the latter the
magnitude decides, and among signed ones it is the other way round. -/
def Below (x y : Double) : Prop :=
  match x.isNegative, y.isNegative with
  | true, false => True
  | false, true => False
  | false, false => x.magnitude < y.magnitude
  | true, true => y.magnitude < x.magnitude

/-- The rank of a double goes by its sign and its magnitude. -/
theorem rank_eq (x : Double) :
    x.rank = if x.isNegative then -(x.magnitude : Int) - 1 else x.magnitude := by
  have hbits : x.bits.toNat < 2 ^ 64 := x.bits.toNat_lt
  have hpow : Nat.pow 2 63 = 2 ^ 63 := rfl
  by_cases hsign : x.bits.toNat < 2 ^ 63
  · have hneg : x.isNegative = false := decide_eq_false (Nat.not_le_of_lt hsign)
    simp only [rank, magnitude, hneg, hpow, if_pos hsign, Nat.mod_eq_of_lt hsign,
      Bool.false_eq_true, if_false]
  · have hneg : x.isNegative = true := decide_eq_true (Nat.le_of_not_lt hsign)
    have hmod : x.bits.toNat % 2 ^ 63 = x.bits.toNat - 2 ^ 63 := by omega
    simp only [rank, magnitude, hneg, hpow, if_neg hsign, hmod, if_true]

/-- Ranks are in the total order. -/
theorem rank_lt_rank_iff {x y : Double} : x.rank < y.rank ↔ Below x y := by
  rw [rank_eq, rank_eq, Below]
  cases x.isNegative with
  | false =>
    cases y.isNegative with
    | false => exact Int.ofNat_lt
    | true =>
      refine iff_of_false ?_ id
      simp only [if_true, Bool.false_eq_true, if_false]
      omega
  | true =>
    cases y.isNegative with
    | false =>
      refine iff_of_true ?_ trivial
      simp only [if_true, Bool.false_eq_true, if_false]
      omega
    | true =>
      show -(x.magnitude : Int) - 1 < -(y.magnitude : Int) - 1 ↔ y.magnitude < x.magnitude
      omega

instance (x y : Double) : Decidable (Below x y) := decidable_of_iff _ rank_lt_rank_iff

end Double

section Leading

variable {α : Type} {above : α → α → Prop}

/-- An element at its place leads another one: it is above the other, or neither is above the other
and its place is in front. -/
def Leads (above : α → α → Prop) (p q : α × Nat) : Prop :=
  above p.1 q.1 ∨ ¬ above q.1 p.1 ∧ p.2 < q.2

instance [DecidableRel above] (p q : α × Nat) : Decidable (Leads above p q) :=
  inferInstanceAs (Decidable (_ ∨ _))

/-- The elements in order: with their places, each leads all behind it. -/
def IsOrder (above : α → α → Prop) (elements sorted : List α) : Prop :=
  ∃ placed : List (α × Nat), placed.Perm elements.zipIdx ∧ placed.Pairwise (Leads above) ∧
    sorted = placed.map Prod.fst

/-- Of two elements one leads the other, not both. -/
theorem Leads.asymm (habove : ∀ a b, above a b → ¬ above b a) {p q : α × Nat}
    (h : Leads above p q) : ¬ Leads above q p := by
  rcases h with h | ⟨hnot, hlt⟩ <;> rintro (h' | ⟨hnot', hlt'⟩)
  · exact habove _ _ h h'
  · exact hnot' h
  · exact hnot h'
  · omega

/-- In a list in order, those are among the first that few enough others lead. -/
theorem mem_take_iff_countP {β : Type} {leads : β → β → Prop} [DecidableRel leads]
    (hasymm : ∀ p q, leads p q → ¬ leads q p) {order : List β} (horder : order.Pairwise leads)
    {p : β} (hp : p ∈ order) (n : Nat) :
    p ∈ order.take n ↔ order.countP (fun q => leads q p) < n := by
  obtain ⟨front, behind, rfl⟩ := List.append_of_mem hp
  obtain ⟨-, hbehind, hfront⟩ := List.pairwise_append.mp horder
  have hself : ¬ leads p p := fun h => hasymm p p h h
  -- those in front lead it, it does not lead itself, and it leads the others
  have hcount : (front ++ p :: behind).countP (fun q => leads q p) = front.length := by
    have hlead : front.countP (fun q => leads q p) = front.length :=
      List.countP_eq_length.mpr fun q hq => by simpa using hfront q hq p List.mem_cons_self
    have hled : behind.countP (fun q => leads q p) = 0 :=
      List.countP_eq_zero.mpr fun q hq => by
        simpa using hasymm p q ((List.pairwise_cons.mp hbehind).1 q hq)
    rw [List.countP_append, List.countP_cons, hlead, hled]
    simp [hself]
  have hnot : p ∉ front := fun h => hself (hfront p h p List.mem_cons_self)
  rw [hcount, List.take_append, List.mem_append]
  constructor
  · rintro (h | h)
    · exact absurd (List.mem_of_mem_take h) hnot
    · by_contra hle
      rw [Nat.sub_eq_zero_of_le (Nat.le_of_not_lt hle)] at h
      simp at h
  · intro hlt
    have hroom : n - front.length = (n - front.length - 1) + 1 := by omega
    right
    rw [hroom]
    exact List.mem_cons_self

section IsOrder

variable {elements sorted : List α}

/-- The elements in order are the elements. -/
theorem IsOrder.perm (h : IsOrder above elements sorted) : sorted.Perm elements := by
  obtain ⟨placed, hperm, -, rfl⟩ := h
  simpa using hperm.map Prod.fst

/-- There is only one order. -/
theorem IsOrder.unique (habove : ∀ a b, above a b → ¬ above b a) {sorted' : List α}
    (h : IsOrder above elements sorted) (h' : IsOrder above elements sorted') :
    sorted = sorted' := by
  obtain ⟨placed, hperm, hplaced, rfl⟩ := h
  obtain ⟨placed', hperm', hplaced', rfl⟩ := h'
  have hsame : placed = placed' := by
    refine List.Perm.eq_of_pairwise ?_ hplaced hplaced' (hperm.trans hperm'.symm)
    intro p q _ _ hpq hqp
    exact absurd hqp (hpq.asymm habove)
  rw [hsame]

/-- Of distinct elements those are among the first that few enough others lead. -/
theorem IsOrder.mem_take_iff [DecidableRel above] (habove : ∀ a b, above a b → ¬ above b a)
    (hnodup : elements.Nodup) (h : IsOrder above elements sorted) {p : α × Nat}
    (hp : p ∈ elements.zipIdx) (n : Nat) :
    p.1 ∈ sorted.take n ↔ elements.zipIdx.countP (fun q => Leads above q p) < n := by
  obtain ⟨placed, hperm, hplaced, rfl⟩ := h
  have hfst : (placed.map Prod.fst).Nodup := by
    rw [(hperm.map Prod.fst).nodup_iff]
    simpa using hnodup
  have hmem : p.1 ∈ (placed.map Prod.fst).take n ↔ p ∈ placed.take n := by
    rw [← List.map_take]
    constructor
    · intro hp'
      obtain ⟨q, hq, hsame⟩ := List.mem_map.mp hp'
      have hqp : q = p :=
        List.inj_on_of_nodup_map hfst (List.mem_of_mem_take hq) (hperm.mem_iff.mpr hp) hsame
      exact hqp ▸ hq
    · exact List.mem_map_of_mem
  rw [hmem, mem_take_iff_countP (fun p q h => h.asymm habove) hplaced (hperm.mem_iff.mpr hp),
    hperm.countP_eq]

end IsOrder

/-- Sorting keeps the order of equals, so it puts the elements into the order in which each leads
all behind it. -/
theorem isOrder_mergeSort {ι : Type} [LinearOrder ι] (rank : α → ι) (elements : List α) :
    IsOrder (fun a b => rank b < rank a) elements
      (elements.mergeSort fun a b => rank b ≤ rank a) := by
  let le (a b : α) : Bool := rank b ≤ rank a
  have hperm : (elements.zipIdx.mergeSort (List.zipIdxLE le)).Perm elements.zipIdx :=
    List.mergeSort_perm _ _
  refine ⟨elements.zipIdx.mergeSort (List.zipIdxLE le), hperm, ?_, List.mergeSort_zipIdx.symm⟩
  have hsorted : (elements.zipIdx.mergeSort (List.zipIdxLE le)).Pairwise
      fun p q => List.zipIdxLE le p q = true := by
    refine List.pairwise_mergeSort (List.zipIdxLE_trans ?_) (List.zipIdxLE_total ?_) _
    · intro a b c hab hbc
      simp only [le, decide_eq_true_eq] at hab hbc ⊢
      exact hbc.trans hab
    · intro a b
      simp only [le, Bool.or_eq_true, decide_eq_true_eq]
      exact le_total _ _
  have hplaces : (elements.zipIdx.mergeSort (List.zipIdxLE le)).Pairwise fun p q => p.2 ≠ q.2 := by
    rw [← List.pairwise_map, ← List.Nodup, (hperm.map Prod.snd).nodup_iff, List.zipIdx_map_snd]
    exact List.nodup_range'
  refine (hsorted.and hplaces).imp fun {p q} ⟨hle, hne⟩ => ?_
  simp only [List.zipIdxLE, le, decide_eq_true_eq] at hle
  split_ifs at hle with hpq hqp
  · exact .inr ⟨not_lt.mpr hpq, lt_of_le_of_ne (of_decide_eq_true hle) hne⟩
  · exact .inl (not_le.mp hqp)

end Leading

namespace TopSelection

/-- What tells the process of a sample apart. -/
def processOf (sample : ProcessSample) : Nat × Nat :=
  (sample.identity.pid, sample.identity.startTime)

/-- A sample has a larger share of the processor. One without a share counts as unused. -/
def MoreProcessor (a b : ProcessSample) : Prop :=
  Double.Below (b.cpu.share.getD .zero) (a.cpu.share.getD .zero)

/-- A sample has more memory. -/
def MoreMemory (a b : ProcessSample) : Prop := b.memory.resident < a.memory.resident

instance : DecidableRel MoreProcessor := fun _ _ => inferInstanceAs (Decidable (Double.Below _ _))

instance : DecidableRel MoreMemory := fun _ _ => inferInstanceAs (Decidable (_ < _))

/-- A selection of samples is that of the busiest. -/
structure AreBusiest (top : TopSelection) (samples selection : List ProcessSample) : Prop where
  /-- There is one order by processor time and one by memory. -/
  orders : (∃! byCpu, IsOrder MoreProcessor samples byCpu) ∧
    ∃! byMemory, IsOrder MoreMemory samples byMemory
  /-- The selection is the first ones by processor time, and behind them those of the first ones by
  memory that are not among them. -/
  parts : ∀ byCpu byMemory, IsOrder MoreProcessor samples byCpu →
    IsOrder MoreMemory samples byMemory →
    let first := byCpu.take top.byCpu
    let second := byMemory.take top.byMemory
    selection = first ++ second.filter (fun sample => sample ∉ first) ∧
      selection.length = (first.toFinset ∪ second.toFinset).card
  /-- No sample is there twice. -/
  nodup : selection.Nodup
  /-- Nothing is there that was not among the samples. -/
  subset : ∀ sample ∈ selection, sample ∈ samples
  /-- A sample is there exactly if few enough lead it in one of both orders. -/
  mem_iff : ∀ sample ∈ samples.zipIdx, sample.1 ∈ selection ↔
    samples.zipIdx.countP (fun other => Leads MoreProcessor other sample) < top.byCpu ∨
      samples.zipIdx.countP (fun other => Leads MoreMemory other sample) < top.byMemory

section Orders

variable (samples : List ProcessSample)

/-- Of two samples one has used more of the processors, not both. -/
theorem moreProcessor_asymm (a b : ProcessSample) (h : MoreProcessor a b) :
    ¬ MoreProcessor b a := by
  rw [MoreProcessor, ← Double.rank_lt_rank_iff] at h ⊢
  exact h.asymm

/-- Of two samples one has more memory, not both. -/
theorem moreMemory_asymm (a b : ProcessSample) (h : MoreMemory a b) : ¬ MoreMemory b a :=
  Nat.lt_asymm h

/-- The samples are put in order by their use of processors, -/
theorem isOrder_sortByCpu : IsOrder MoreProcessor samples (sortByCpu samples) := by
  have habove : MoreProcessor = fun a b => cpuRank b < cpuRank a := by
    funext a b
    exact propext Double.rank_lt_rank_iff.symm
  rw [habove]
  exact isOrder_mergeSort cpuRank samples

/-- and in order by their memory. -/
theorem isOrder_sortByMemory : IsOrder MoreMemory samples (sortByMemory samples) :=
  isOrder_mergeSort (fun sample => sample.memory.resident) samples

end Orders

section Distinct

variable {seen : List (Nat × Nat)} {front behind : List ProcessSample}

/-- The first sample of a process is kept, and further ones are dropped. -/
theorem distinct_cons (sample : ProcessSample) (rest : List ProcessSample) :
    distinct seen (sample :: rest) =
      if processOf sample ∈ seen then distinct seen rest
      else sample :: distinct (processOf sample :: seen) rest := by
  have hcontains : seen.contains (sample.identity.pid, sample.identity.startTime) = true ↔
      processOf sample ∈ seen := List.contains_iff_mem
  by_cases hseen : processOf sample ∈ seen
  · rw [if_pos hseen, distinct, if_pos (hcontains.mpr hseen)]
  · rw [if_neg hseen, distinct, if_neg (mt hcontains.mp hseen)]
    rfl

/-- Of distinct processes those are left that did not come before. -/
theorem distinct_eq_filter (hdistinct : (behind.map processOf).Nodup) :
    distinct seen behind = behind.filter fun sample => processOf sample ∉ seen := by
  induction behind generalizing seen with
  | nil => rfl
  | cons sample rest ih =>
    obtain ⟨hnew, hrest⟩ := List.nodup_cons.mp hdistinct
    rw [distinct_cons]
    by_cases hseen : processOf sample ∈ seen
    · rw [if_pos hseen, ih hrest, List.filter_cons_of_neg (by simpa using hseen)]
    · rw [if_neg hseen, ih hrest, List.filter_cons_of_pos (by simpa using hseen)]
      refine congrArg (sample :: ·) (List.filter_congr fun other hother => ?_)
      have hne : processOf other ≠ processOf sample := fun heq =>
        hnew (heq ▸ List.mem_map_of_mem hother)
      simp [hne]

/-- Distinct processes that did not come before are all left, and count for what is behind them. -/
theorem distinct_append (hdistinct : (front.map processOf).Nodup)
    (hnew : ∀ sample ∈ front, processOf sample ∉ seen) :
    distinct seen (front ++ behind) =
      front ++ distinct ((front.map processOf).reverse ++ seen) behind := by
  induction front generalizing seen with
  | nil => rfl
  | cons sample rest ih =>
    obtain ⟨hother, hrest⟩ := List.nodup_cons.mp hdistinct
    obtain ⟨hsample, hnew⟩ := List.forall_mem_cons.mp hnew
    have hnext : ∀ other ∈ rest, processOf other ∉ processOf sample :: seen := by
      intro other hmem hseen
      rcases List.mem_cons.mp hseen with heq | hseen
      · exact hother (heq ▸ List.mem_map_of_mem hmem)
      · exact hnew other hmem hseen
    rw [List.cons_append, distinct_cons, if_neg hsample, ih hrest hnext]
    simp

/-- Of two lists of samples of distinct processes, those of the second one are left that are not in
the first. -/
theorem distinct_append_eq {samples : List ProcessSample} (hsamples : (samples.map processOf).Nodup)
    (hfront : (front.map processOf).Nodup) (hbehind : (behind.map processOf).Nodup)
    (hfrontSubset : front ⊆ samples) (hbehindSubset : behind ⊆ samples) :
    distinct [] (front ++ behind) = front ++ behind.filter fun sample => sample ∉ front := by
  rw [distinct_append hfront (by simp), distinct_eq_filter hbehind]
  refine congrArg (front ++ ·) (List.filter_congr fun sample hsample => ?_)
  have hsame : processOf sample ∈ (front.map processOf).reverse ++ [] ↔ sample ∈ front := by
    rw [List.append_nil, List.mem_reverse, List.mem_map]
    constructor
    · rintro ⟨other, hother, heq⟩
      have hsame : other = sample :=
        List.inj_on_of_nodup_map hsamples (hfrontSubset hother) (hbehindSubset hsample) heq
      exact hsame ▸ hother
    · exact fun hmem => ⟨sample, hmem, rfl⟩
  simp only [hsame]

end Distinct

section Select

variable {samples byCpu byMemory : List ProcessSample}

/-- The first samples in an order are of distinct processes if all are, and are among them. -/
private theorem first_of_isOrder {above : ProcessSample → ProcessSample → Prop}
    {sorted : List ProcessSample} (hdistinct : (samples.map processOf).Nodup)
    (h : IsOrder above samples sorted) (n : Nat) :
    ((sorted.take n).map processOf).Nodup ∧ sorted.take n ⊆ samples := by
  constructor
  · have hsorted : (sorted.map processOf).Nodup := (h.perm.map processOf).nodup_iff.mpr hdistinct
    exact hsorted.sublist ((List.take_sublist n sorted).map processOf)
  · exact fun sample hsample => h.perm.subset (List.mem_of_mem_take hsample)

/-- What is selected of samples in both orders. -/
private theorem areBusiest_of_isOrder (top : TopSelection)
    (hdistinct : (samples.map processOf).Nodup)
    (hcpu : IsOrder MoreProcessor samples byCpu) (hmemory : IsOrder MoreMemory samples byMemory) :
    AreBusiest top samples (distinct [] (byCpu.take top.byCpu ++ byMemory.take top.byMemory)) := by
  obtain ⟨hcpuDistinct, hcpuSubset⟩ := first_of_isOrder hdistinct hcpu top.byCpu
  obtain ⟨hmemoryDistinct, hmemorySubset⟩ := first_of_isOrder hdistinct hmemory top.byMemory
  rw [distinct_append_eq hdistinct hcpuDistinct hmemoryDistinct hcpuSubset hmemorySubset]
  generalize hselection : byCpu.take top.byCpu ++
    (byMemory.take top.byMemory).filter (fun sample => sample ∉ byCpu.take top.byCpu) = selection
  have hmem (sample : ProcessSample) : sample ∈ selection ↔
      sample ∈ byCpu.take top.byCpu ∨ sample ∈ byMemory.take top.byMemory := by
    rw [← hselection, List.mem_append, List.mem_filter]
    by_cases hsample : sample ∈ byCpu.take top.byCpu <;> simp [hsample]
  have hnodup : selection.Nodup := by
    rw [← hselection]
    refine hcpuDistinct.of_map.append (hmemoryDistinct.of_map.filter _) ?_
    intro sample hsample hother
    simpa [hsample] using (List.mem_filter.mp hother).2
  constructor
  case orders =>
    exact ⟨⟨byCpu, hcpu, fun _ h => h.unique moreProcessor_asymm hcpu⟩,
      ⟨byMemory, hmemory, fun _ h => h.unique moreMemory_asymm hmemory⟩⟩
  case parts =>
    intro byCpu' byMemory' hcpu' hmemory'
    rw [hcpu'.unique moreProcessor_asymm hcpu, hmemory'.unique moreMemory_asymm hmemory]
    refine ⟨hselection.symm, ?_⟩
    rw [← List.toFinset_card_of_nodup hnodup]
    congr 1
    ext sample
    simp [hmem]
  case nodup => exact hnodup
  case subset =>
    intro sample hsample
    exact ((hmem sample).mp hsample).elim (@hcpuSubset sample) (@hmemorySubset sample)
  case mem_iff =>
    intro sample hsample
    rw [hmem, hcpu.mem_take_iff moreProcessor_asymm hdistinct.of_map hsample,
      hmemory.mem_take_iff moreMemory_asymm hdistinct.of_map hsample]

/-- **The busiest.** Of samples of distinct processes those are selected that come first by
processor time or by memory. Where nothing is asked for, all samples stay. -/
theorem select_areBusiest (top : TopSelection) (samples : List ProcessSample)
    (hdistinct : (samples.map processOf).Nodup) :
    (top.byCpu ≠ 0 ∨ top.byMemory ≠ 0 → AreBusiest top samples (top.select samples)) ∧
      (top.byCpu = 0 ∧ top.byMemory = 0 → top.select samples = samples) := by
  constructor
  · intro hasked
    have hactive : top.isActive = true := by simpa [isActive, Nat.pos_iff_ne_zero] using hasked
    rw [select, if_pos hactive]
    exact areBusiest_of_isOrder top hdistinct (isOrder_sortByCpu samples)
      (isOrder_sortByMemory samples)
  · rintro ⟨hcpu, hmemory⟩
    have hinactive : ¬ top.isActive = true := by simp [isActive, hcpu, hmemory]
    rw [select, if_neg hinactive]

/-- A sample of a process with a share of the processor and some memory. -/
private def sampled (pid : Nat) (share : Option Double) (resident : Nat) : ProcessSample where
  identity := ⟨pid, "worker".toList, .running, 1, pid, 1, 100⟩
  uid := .none
  cpu := ⟨.zero, .zero, .zero, share, .none⟩
  memory := ⟨0, resident, 0, .none⟩
  arguments := []
  environment := .empty
  io := .none
  storageRate := .none
  network := .none
  cgroup := .none
  time := ⟨0⟩

/-- One sample has no share, one has zero and one minus zero, and two have equal memory. -/
theorem select_areBusiest_ties :
    let four := sampled 4 .none 20
    let five := sampled 5 (some ⟨0x3FE0000000000000⟩) 900
    let six := sampled 6 (some ⟨0x8000000000000000⟩) 900
    let seven := sampled 7 (some ⟨0⟩) 30
    let samples := [four, five, six, seven]
    (samples.map processOf).Nodup ∧ AreBusiest ⟨2, 2⟩ samples (select ⟨2, 2⟩ samples) ∧
      select ⟨2, 2⟩ samples = [five, four, six] := by
  intro four five six seven samples
  have hdistinct : (samples.map processOf).Nodup := by decide
  have hbusiest : AreBusiest ⟨2, 2⟩ samples (select ⟨2, 2⟩ samples) :=
    (select_areBusiest ⟨2, 2⟩ samples hdistinct).1 (by decide)
  have hcpu : IsOrder MoreProcessor samples [five, four, seven, six] :=
    ⟨[(five, 1), (four, 0), (seven, 3), (six, 2)], by decide, by decide, rfl⟩
  have hmemory : IsOrder MoreMemory samples [five, six, seven, four] :=
    ⟨[(five, 1), (six, 2), (seven, 3), (four, 0)], by decide, by decide, rfl⟩
  have hselected := (hbusiest.parts _ _ hcpu hmemory).1
  exact ⟨hdistinct, hbusiest, hselected.trans (by decide)⟩

end Select

end TopSelection

end ProcessMeter
