import Mathlib.Data.List.Nodup
import ProcessMeter.Text.Map

/-!
# What maps from names hold

A map is known by the values of its names. This file says what these are after values are written
one after the other, when entries in any order make up a map, and how the sum of a figure over the
values changes with them.
-/

namespace ProcessMeter

namespace TextMap

variable {α β : Type}

section Writing

/-- A new value does not replace an old one. -/
theorem get?_insertNew (m : TextMap α) (name : Text) (value : α) (key : Text) :
    (m.insertNew name value).get? key =
      (m.get? key).or (if key = name then some value else none) := by
  unfold insertNew
  by_cases hkey : key = name
  · subst hkey
    cases hm : m.get? key <;> simp [hm, get?_insert]
  · split <;> simp [get?_insert, hkey]

/-- One value for many names, where they have none. -/
theorem get?_insertNew_all (value : α) (names : List Text) (m : TextMap α) (key : Text) :
    (names.foldl (fun found name => found.insertNew name value) m).get? key =
      (m.get? key).or (if key ∈ names then some value else none) := by
  induction names generalizing m with
  | nil => simp
  | cons name rest ih =>
    rw [List.foldl_cons, ih, get?_insertNew, Option.or_assoc]
    by_cases hname : key = name <;> simp [hname]

/-- One value for many names. -/
theorem get?_insert_all (value : α) (names : List Text) (m : TextMap α) (key : Text) :
    (names.foldl (fun m name => m.insert name value) m).get? key =
      if key ∈ names then some value else m.get? key := by
  induction names generalizing m with
  | nil => simp
  | cons name rest ih =>
    rw [List.foldl_cons, ih, get?_insert]
    by_cases hrest : key ∈ rest <;> by_cases hkey : key = name <;> simp [hrest, hkey]

/-- After a row of insertions a key has the last value that was inserted for it, or its old one. -/
private theorem get?_foldl_insert (pairs : List (Text × α)) (m : TextMap α) (key : Text) :
    (pairs.foldl (fun m pair => m.insert pair.1 pair.2) m).get? key =
      (pairs.reverse.lookup key).or (m.get? key) := by
  induction pairs generalizing m with
  | nil => rfl
  | cons pair rest ih =>
    obtain ⟨name, value⟩ := pair
    rw [List.foldl_cons, ih, get?_insert, List.reverse_cons, List.lookup_append, Option.or_assoc]
    congr 1
    by_cases hkey : key = name
    · simp [hkey]
    · simp [List.lookup_cons, hkey, beq_eq_false_iff_ne.mpr hkey]

/-- Of several values for a name the last counts. -/
theorem get?_ofList (pairs : List (Text × α)) (key : Text) :
    (ofList pairs).get? key = pairs.reverse.lookup key := by
  rw [ofList, get?_foldl_insert, get?_empty, Option.or_none]

end Writing

section Entries

/-- A map has the keys that have a value. -/
theorem mem_keys_iff {m : TextMap α} {key : Text} : key ∈ m.keys ↔ (m.get? key).isSome := by
  simp [get?, keys, List.lookup_isSome_iff]

/-- A map is empty exactly if no key has a value. -/
theorem isEmpty_iff {m : TextMap α} : m.isEmpty = true ↔ ∀ key, m.get? key = none := by
  have hkeys : m.isEmpty = true ↔ m.keys = [] := by simp [isEmpty, keys]
  rw [hkeys, List.eq_nil_iff_forall_not_mem]
  simp [mem_keys_iff]

/-- A map without names has no values, and only such a map. -/
theorem isEmpty_eq_false_iff {m : TextMap α} :
    m.isEmpty = false ↔ ∃ key, (m.get? key).isSome = true := by
  cases hentries : m.entries with
  | nil => simp [isEmpty, get?, hentries]
  | cons head rest =>
    obtain ⟨key, value⟩ := head
    simp only [isEmpty, hentries, List.isEmpty_cons, true_iff]
    exact ⟨key, by simp [get?, hentries]⟩

/-- The first value has a name. -/
theorem exists_get?_of_head? {m : TextMap α} {value : α}
    (h : m.values.head? = some value) : ∃ key, m.get? key = some value := by
  cases hentries : m.entries with
  | nil => simp [values, hentries] at h
  | cons head rest =>
    obtain ⟨key, first⟩ := head
    obtain rfl : first = value := by simpa [values, hentries] using h
    exact ⟨key, by simp [get?, hentries]⟩

/-- A map with a value has a first one. -/
theorem exists_head?_of_get? {m : TextMap α} {key : Text} {value : α}
    (h : m.get? key = some value) : ∃ first, m.values.head? = some first := by
  cases hentries : m.entries with
  | nil => simp [get?, hentries] at h
  | cons head rest => exact ⟨head.2, by simp [values, hentries]⟩

/-- No name stands in a map twice. -/
theorem entries_pairwise_ne (m : TextMap α) : m.entries.Pairwise fun a b => a.1 ≠ b.1 := by
  refine m.sorted.imp fun {a b} hbefore heq => ?_
  simp [heq, Text.before_irrefl] at hbefore

/-- No name stands twice in the list. -/
abbrev Distinct (entries : List (Text × α)) : Prop := (entries.map Prod.fst).Nodup

/-- Of distinct names each has the value that stands with it. -/
theorem lookup_eq_some_iff_mem {entries : List (Text × α)} (h : Distinct entries)
    {key : Text} {value : α} : entries.lookup key = some value ↔ (key, value) ∈ entries := by
  induction entries with
  | nil => simp
  | cons head rest ih =>
    obtain ⟨name, first⟩ := head
    obtain ⟨hname, hrest⟩ := List.nodup_cons.mp h
    by_cases hkey : key = name
    · subst hkey
      have hnot : (key, value) ∉ rest := fun hmem =>
        hname (List.mem_map.mpr ⟨_, hmem, rfl⟩)
      simp [hnot, eq_comm]
    · have hne : (key == name) = false := beq_eq_false_iff_ne.mpr hkey
      rw [List.lookup_cons, hne]
      simp [hkey, ih hrest]

/-- The entries of a map have different keys. -/
theorem entries_distinct (m : TextMap α) : Distinct m.entries :=
  List.pairwise_map.mpr m.entries_pairwise_ne

/-- Looking up a name does not depend on the order. -/
private theorem lookup_perm {order : List (Text × α)} {m : TextMap α} (h : order.Perm m.entries)
    (key : Text) : order.lookup key = m.get? key := by
  have hdistinct : Distinct order := (h.map Prod.fst).nodup_iff.mpr m.entries_distinct
  refine Option.ext fun value => ?_
  rw [get?, lookup_eq_some_iff_mem hdistinct, lookup_eq_some_iff_mem m.entries_distinct]
  exact h.mem_iff

/-- A map is known by the values of its names. -/
theorem ext_get? {m m' : TextMap α} (h : ∀ key, m.get? key = m'.get? key) : m = m' := by
  have hmem : ∀ e, e ∈ m.entries ↔ e ∈ m'.entries := by
    intro e
    rw [← lookup_eq_some_iff_mem m.entries_distinct, ← lookup_eq_some_iff_mem m'.entries_distinct]
    exact Eq.congr_left (h e.1)
  have hnodup : ∀ m : TextMap α, m.entries.Nodup := fun m => List.Nodup.of_map _ m.entries_distinct
  have hperm : m.entries.Perm m'.entries :=
    (List.perm_ext_iff_of_nodup (hnodup m) (hnodup m')).mpr hmem
  have hentries : m.entries = m'.entries := by
    refine hperm.eq_of_pairwise (fun a b _ _ hab hba => ?_) m.sorted m'.sorted
    have hloop := Text.before_trans hab hba
    simp [Text.before_irrefl] at hloop
  cases m
  cases m'
  simpa using hentries

/-- Writing distinct names one after the other, each value made of what its name had before. -/
private theorem get?_foldl (put : TextMap α → Text → β → TextMap α) (value : β → Option α → α)
    (hput : ∀ m name b key, (put m name b).get? key =
      if key = name then some (value b (m.get? name)) else m.get? key)
    {entries : List (Text × β)} (h : Distinct entries) (m : TextMap α) (key : Text) :
    (entries.foldl (fun m e => put m e.1 e.2) m).get? key =
      match entries.lookup key with
      | some b => some (value b (m.get? key))
      | none => m.get? key := by
  induction entries generalizing m with
  | nil => rfl
  | cons head rest ih =>
    obtain ⟨name, b⟩ := head
    obtain ⟨hname, hrest⟩ := List.nodup_cons.mp h
    rw [List.foldl_cons, ih hrest, hput]
    by_cases hkey : key = name
    · subst hkey
      have hnone : rest.lookup key = none := by
        refine List.lookup_eq_none_iff.mpr fun e he => ?_
        rw [bne_iff_ne]
        rintro rfl
        exact hname (List.mem_map.mpr ⟨e, he, rfl⟩)
      simp [hnone]
    · have hne : (key == name) = false := beq_eq_false_iff_ne.mpr hkey
      simp [List.lookup_cons, hne, hkey]

/-- Of two values written for a name the second stays. -/
theorem insert_insert (m : TextMap α) (name : Text) (first second : α) :
    (m.insert name first).insert name second = m.insert name second := by
  refine ext_get? fun key => ?_
  simp only [get?_insert]
  split <;> rfl

/-- The entries of a map, written in any order, make up the map. -/
theorem foldl_insert_perm {order : List (Text × α)} {m : TextMap α} (h : order.Perm m.entries) :
    order.foldl (fun m e => m.insert e.1 e.2) .empty = m := by
  have hdistinct : Distinct order := (h.map Prod.fst).nodup_iff.mpr m.entries_distinct
  refine ext_get? fun key => ?_
  rw [get?_foldl insert (fun b _ => b) get?_insert hdistinct, lookup_perm h]
  cases m.get? key <;> rfl

/-- The map with every value changed. -/
def mapValues (f : α → β) (m : TextMap α) : TextMap β where
  entries := m.entries.map fun e => (e.1, f e.2)
  sorted := List.pairwise_map.mpr m.sorted

/-- Values that are changed one by one are found changed. -/
theorem get?_mapValues (f : α → β) (m : TextMap α) (key : Text) :
    (m.mapValues f).get? key = (m.get? key).map f := by
  change (m.entries.map fun e => (e.1, f e.2)).lookup key = (m.entries.lookup key).map f
  induction m.entries with
  | nil => rfl
  | cons head rest ih =>
    obtain ⟨name, value⟩ := head
    by_cases hkey : key = name
    · simp [hkey]
    · have hne : (key == name) = false := beq_eq_false_iff_ne.mpr hkey
      simpa [List.lookup_cons, hne] using ih

/-- Changing the values of names from what they had before. -/
theorem get?_foldl_update (fresh : α) (change : β → α → α) (columns : TextMap β)
    (m : TextMap α) (key : Text) :
    (columns.entries.foldl (fun m e => m.update e.1 fresh (change e.2)) m).get? key =
      match columns.get? key with
      | some b => some (change b ((m.get? key).getD fresh))
      | none => m.get? key :=
  get?_foldl (fun m name b => m.update name fresh (change b))
    (fun b a => change b (a.getD fresh)) (fun m name _ key => get?_insert m name _ key)
    columns.entries_distinct m key

/-- The part of a map that has only the names that are kept. -/
def restrict (keep : Text → Bool) (m : TextMap α) : TextMap α where
  entries := m.entries.filter fun e => keep e.1
  sorted := m.sorted.filter _

/-- A restricted map has the values of the keys that are kept. -/
theorem get?_restrict (keep : Text → Bool) (m : TextMap α) (key : Text) :
    (m.restrict keep).get? key = if keep key then m.get? key else none := by
  have hpart : Distinct (m.restrict keep).entries := (m.restrict keep).entries_distinct
  apply Option.ext
  intro value
  have hmem : (m.restrict keep).get? key = some value ↔
      (key, value) ∈ m.entries ∧ keep key = true := by
    rw [get?, lookup_eq_some_iff_mem hpart, restrict, List.mem_filter]
  rw [hmem, ← lookup_eq_some_iff_mem m.entries_distinct, ← get?]
  by_cases hkeep : keep key = true
  · simp [hkeep]
  · simp [hkeep]

/-- The map of pairs with distinct names has these pairs for entries. -/
theorem entries_ofList_perm {pairs : List (Text × α)} (h : Distinct pairs) :
    (ofList pairs).entries.Perm pairs := by
  have hreverse : Distinct pairs.reverse := (pairs.reverse_perm.map Prod.fst).nodup_iff.mpr h
  have hentries : (ofList pairs).entries.Nodup :=
    List.Nodup.of_map _ (ofList pairs).entries_distinct
  apply (List.perm_ext_iff_of_nodup hentries (List.Nodup.of_map _ h)).mpr
  intro e
  have hlookup := get?_ofList pairs e.1
  rw [get?] at hlookup
  rw [← lookup_eq_some_iff_mem (ofList pairs).entries_distinct, hlookup,
    lookup_eq_some_iff_mem hreverse, List.mem_reverse]

/-- A map of pairs has a value for each of their names and no other. -/
theorem get?_ofList_eq_none_iff {pairs : List (Text × α)} {key : Text} :
    (ofList pairs).get? key = none ↔ key ∉ pairs.map Prod.fst := by
  rw [get?_ofList, List.lookup_eq_none_iff]
  simp only [List.mem_reverse, List.mem_map, not_exists, not_and, bne_iff_ne]
  constructor
  · intro h pair hpair hname
    exact h pair hpair hname.symm
  · intro h pair hpair hname
    exact h pair hpair hname.symm

/-- The first pair counts unless its name comes again. -/
theorem ofList_cons (name : Text) (value : α) (rest : List (Text × α)) :
    ofList ((name, value) :: rest) =
      if name ∈ rest.map Prod.fst then ofList rest else (ofList rest).insert name value := by
  apply ext_get?
  intro key
  have hkey : (ofList ((name, value) :: rest)).get? key =
      ((ofList rest).get? key).or (if key = name then some value else none) := by
    rw [get?_ofList, get?_ofList, List.reverse_cons, List.lookup_append]
    by_cases h : key = name
    · simp [h]
    · simp [h, List.lookup_cons, beq_eq_false_iff_ne.mpr h]
  rw [hkey]
  by_cases hlater : name ∈ rest.map Prod.fst
  · rw [if_pos hlater]
    by_cases h : key = name
    · have hsome : (ofList rest).get? key ≠ none := fun hnone =>
        get?_ofList_eq_none_iff.mp hnone (h ▸ hlater)
      rw [Option.or_of_isSome (Option.isSome_iff_ne_none.mpr hsome)]
    · rw [if_neg h, Option.or_none]
  · rw [if_neg hlater, get?_insert]
    by_cases h : key = name
    · have hnone : (ofList rest).get? key = none :=
        get?_ofList_eq_none_iff.mpr (h ▸ hlater)
      rw [hnone, if_pos h, Option.none_or]
    · rw [if_neg h, if_neg h, Option.or_none]

end Entries

section Sums

variable (f : α → Nat)

/-- The figure of a name, nothing for a name without a value. -/
def figure (m : TextMap α) (key : Text) : Nat := ((m.get? key).map f).getD 0

/-- The empty map has nothing to add up. -/
@[simp] theorem total_empty : (empty : TextMap α).total f = 0 := rfl

/-- In the empty map every figure is zero. -/
@[simp] theorem figure_empty (key : Text) : (empty : TextMap α).figure f key = 0 := rfl

/-- A name in front of all others has no value among them. -/
private theorem lookup_eq_none {key : Text} {entries : List (Text × α)}
    (h : ∀ e ∈ entries, Text.before key e.1 = true) : entries.lookup key = none := by
  rw [List.lookup_eq_none_iff]
  intro e he
  rw [bne_iff_ne]
  rintro rfl
  simpa [Text.before_irrefl] using h e he

/-- An insertion replaces the figure of its key in the sum. -/
private theorem sum_insertEntry (key : Text) (value : α) {entries : List (Text × α)}
    (h : entries.Pairwise fun a b => Text.before a.1 b.1 = true) :
    (insertEntry key value entries).foldr (fun e sum => f e.2 + sum) 0 +
        ((entries.lookup key).map f).getD 0 =
      entries.foldr (fun e sum => f e.2 + sum) 0 + f value := by
  induction entries with
  | nil => simp [insertEntry]
  | cons head rest ih =>
    obtain ⟨k, v⟩ := head
    obtain ⟨hhead, hrest⟩ := List.pairwise_cons.mp h
    have ih := ih hrest
    rw [insertEntry]
    by_cases hk : k = key
    · subst hk
      simp
      omega
    · rw [if_neg hk]
      by_cases hbefore : Text.before key k = true
      · have hnone : ((k, v) :: rest).lookup key = none := by
          refine lookup_eq_none fun e he => ?_
          rcases List.mem_cons.mp he with rfl | he
          · exact hbefore
          · exact Text.before_trans hbefore (hhead e he)
        rw [if_pos hbefore, hnone]
        simp
        omega
      · have hne : (key == k) = false := beq_eq_false_iff_ne.mpr (Ne.symm hk)
        rw [if_neg hbefore, List.lookup_cons, hne]
        simp only [List.foldr_cons] at ih ⊢
        omega

/-- Writing a name exchanges its figure in the sum. -/
theorem total_insert (m : TextMap α) (key : Text) (value : α) :
    (m.insert key value).total f + m.figure f key = m.total f + f value := by
  have h := sum_insertEntry f key value m.sorted
  simpa [total, figure, values, insert, get?, List.foldr_map] using h

/-- Changing the value of a name exchanges its figure in the sum. -/
theorem total_update (m : TextMap α) (key : Text) (fresh : α) (change : α → α) :
    (m.update key fresh change).total f + m.figure f key =
      m.total f + f (change ((m.get? key).getD fresh)) :=
  total_insert f m key _

/-- An update changes the figure of its key only. -/
theorem figure_update (m : TextMap α) (key other : Text) (fresh : α) (change : α → α) :
    (m.update key fresh change).figure f other =
      if other = key then f (change ((m.get? key).getD fresh)) else m.figure f other := by
  rw [figure, update, get?_insert]
  by_cases h : other = key
  · simp [h]
  · simp [h, figure]

/-- The figure of a name is that of its value, or of a fresh value without figures. -/
theorem figure_eq {fresh : α} (hfresh : f fresh = 0) (m : TextMap α) (key : Text) :
    m.figure f key = f ((m.get? key).getD fresh) := by
  rw [figure]
  cases m.get? key with
  | none => simp [hfresh]
  | some value => rfl

/-- No figure is larger than the sum. -/
theorem figure_le_total {fresh : α} (hfresh : f fresh = 0) (m : TextMap α) (key : Text) :
    m.figure f key ≤ m.total f := by
  have hinsert := total_insert f m key fresh
  omega

variable {fresh : α} {change : β → α → α}

/-- Changes that leave a figure alone leave its sum alone. -/
theorem total_foldl_update_of_unchanged (hfresh : f fresh = 0)
    (hchange : ∀ b a, f (change b a) = f a) (entries : List (Text × β)) (m : TextMap α) :
    (entries.foldl (fun m e => m.update e.1 fresh (change e.2)) m).total f = m.total f := by
  induction entries generalizing m with
  | nil => rfl
  | cons e rest ih =>
    have hupdate := total_update f m e.1 fresh (change e.2)
    rw [hchange, ← figure_eq f hfresh m e.1] at hupdate
    rw [List.foldl_cons, ih]
    omega

/-- Changes that give new figures to different names add these figures up. -/
theorem total_foldl_update (fresh : α) {new : β → Nat}
    (hchange : ∀ b a, f (change b a) = new b) {entries : List (Text × β)}
    (hentries : entries.Pairwise fun a b => a.1 ≠ b.1) {m : TextMap α}
    (hm : ∀ e ∈ entries, m.figure f e.1 = 0) :
    (entries.foldl (fun m e => m.update e.1 fresh (change e.2)) m).total f =
      m.total f + entries.foldr (fun e sum => new e.2 + sum) 0 := by
  induction entries generalizing m with
  | nil => rfl
  | cons e rest ih =>
    obtain ⟨hhead, hrest⟩ := List.pairwise_cons.mp hentries
    obtain ⟨hzero, hzeros⟩ := List.forall_mem_cons.mp hm
    have hupdate := total_update f m e.1 fresh (change e.2)
    rw [hchange, hzero] at hupdate
    have hkept : ∀ other ∈ rest,
        (m.update e.1 fresh (change e.2)).figure f other.1 = 0 := by
      intro other hother
      rw [figure_update, if_neg (Ne.symm (hhead other hother))]
      exact hzeros other hother
    rw [List.foldl_cons, ih hrest hkept, List.foldr_cons]
    omega

end Sums

end TextMap

end ProcessMeter
