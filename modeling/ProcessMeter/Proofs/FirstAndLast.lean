import Mathlib.Data.List.Basic

/-!
# The first and the last element that tells something

A file is refused for the first of its words or lines that is at fault, and of several figures for
one key the last one counts. Both are facts about a list and about what its elements say.
-/

namespace ProcessMeter

variable {α β : Type}

section First

variable {tells : α → β → Prop} {x : α} {xs ys : List α} {b b' : β}

/-- The first element that tells anything tells this. -/
def FirstTells (tells : α → β → Prop) (xs : List α) (b : β) : Prop :=
  ∃ front x behind, xs = front ++ x :: behind ∧ (∀ y ∈ front, ∀ b, ¬ tells y b) ∧ tells x b

/-- An element that tells anything is the first, and one that tells nothing does not matter. -/
theorem firstTells_cons :
    FirstTells tells (x :: xs) b ↔ tells x b ∨ (∀ b, ¬ tells x b) ∧ FirstTells tells xs b := by
  constructor
  · rintro ⟨front, found, behind, heq, hfront, hfound⟩
    cases front with
    | nil =>
      obtain ⟨rfl, -⟩ := List.cons.inj heq
      exact .inl hfound
    | cons first front =>
      obtain ⟨rfl, rfl⟩ := List.cons.inj heq
      obtain ⟨hfirst, hfront⟩ := List.forall_mem_cons.mp hfront
      exact .inr ⟨hfirst, front, found, behind, rfl, hfront, hfound⟩
  · rintro (hx | ⟨hx, front, found, behind, rfl, hfront, hfound⟩)
    · exact ⟨[], x, xs, rfl, by simp, hx⟩
    · exact ⟨x :: front, found, behind, rfl, List.forall_mem_cons.mpr ⟨hx, hfront⟩, hfound⟩

/-- In the empty list nothing comes first. -/
theorem not_firstTells_nil : ¬ FirstTells tells [] b := by
  rintro ⟨front, x, behind, heq, -⟩
  simp at heq

/-- The first element that tells anything is in front, or none is in front. -/
theorem firstTells_append : FirstTells tells (xs ++ ys) b ↔
    FirstTells tells xs b ∨ (∀ x ∈ xs, ∀ b, ¬ tells x b) ∧ FirstTells tells ys b := by
  induction xs with
  | nil => simp [not_firstTells_nil]
  | cons x xs ih =>
    rw [List.cons_append, firstTells_cons, firstTells_cons, ih, List.forall_mem_cons]
    tauto

/-- Further elements behind do not change which comes first. -/
theorem FirstTells.append (h : FirstTells tells xs b) : FirstTells tells (xs ++ ys) b :=
  firstTells_append.mpr (.inl h)

/-- Nor do elements in front that tell nothing. -/
theorem FirstTells.append_left (hxs : ∀ x ∈ xs, ∀ b, ¬ tells x b) (h : FirstTells tells ys b) :
    FirstTells tells (xs ++ ys) b :=
  firstTells_append.mpr (.inr ⟨hxs, h⟩)

/-- An element that tells nothing may stand anywhere. -/
theorem firstTells_insert (hx : ∀ b, ¬ tells x b) :
    FirstTells tells (xs ++ x :: ys) b ↔ FirstTells tells (xs ++ ys) b := by
  simp only [firstTells_append, firstTells_cons, hx, false_or, true_and, not_false_eq_true,
    implies_true]

/-- An element may be replaced by one that tells the same. -/
theorem firstTells_replace {y : α} (hxy : ∀ b, tells x b ↔ tells y b) :
    FirstTells tells (xs ++ x :: ys) b ↔ FirstTells tells (xs ++ y :: ys) b := by
  simp only [firstTells_append, firstTells_cons, hxy]

/-- What the first element tells may be put in other words. -/
theorem firstTells_map {γ : Type} {f : β → γ} {c : γ} :
    FirstTells (fun x c => ∃ b, tells x b ∧ c = f b) xs c ↔
      ∃ b, FirstTells tells xs b ∧ c = f b := by
  have hnone (x : α) : (∀ c, ¬ ∃ b, tells x b ∧ c = f b) ↔ ∀ b, ¬ tells x b := by
    constructor
    · intro h b hb
      exact h (f b) ⟨b, hb, rfl⟩
    · rintro h c ⟨b, hb, -⟩
      exact h b hb
  induction xs with
  | nil => simp [not_firstTells_nil]
  | cons x xs ih =>
    simp only [firstTells_cons, hnone, ih, or_and_right, exists_or, and_assoc, exists_and_left]

/-- What an element tells, together with its number. -/
def TellsNumbered (tells : α → β → Prop) (x : α × Nat) (b : β × Nat) : Prop :=
  tells x.1 b.1 ∧ b.2 = x.2

/-- Numbers do not decide which element is the first to tell anything. -/
theorem exists_firstTells_zipIdx_iff {start : Nat} :
    (∃ number, FirstTells (TellsNumbered tells) (xs.zipIdx start) (b, number)) ↔
      FirstTells tells xs b := by
  have hnone (x : α) (n : Nat) :
      (∀ c, ¬ TellsNumbered tells (x, n) c) ↔ ∀ b, ¬ tells x b := by
    constructor
    · intro h b hb
      exact h (b, n) ⟨hb, rfl⟩
    · rintro h c ⟨hc, -⟩
      exact h c.1 hc
  induction xs generalizing start with
  | nil => simp [not_firstTells_nil]
  | cons x xs ih =>
    simp only [List.zipIdx_cons, firstTells_cons, hnone, exists_or, exists_and_left, ih]
    simp [TellsNumbered]

/-- If each element tells one thing only, so does the first that tells any. -/
theorem FirstTells.unique (htells : ∀ x b b', tells x b → tells x b' → b = b')
    (h : FirstTells tells xs b) (h' : FirstTells tells xs b') : b = b' := by
  induction xs with
  | nil => exact absurd h not_firstTells_nil
  | cons x xs ih =>
    rcases firstTells_cons.mp h with h | ⟨hnone, h⟩ <;>
      rcases firstTells_cons.mp h' with h' | ⟨hnone', h'⟩
    · exact htells x b b' h h'
    · exact absurd h (hnone' b)
    · exact absurd h' (hnone b')
    · exact ih h h'

/-- Something comes first exactly if some element tells something. -/
theorem exists_firstTells_iff : (∃ b, FirstTells tells xs b) ↔ ∃ x ∈ xs, ∃ b, tells x b := by
  induction xs with
  | nil => simp [not_firstTells_nil]
  | cons x xs ih =>
    simp only [firstTells_cons, List.mem_cons, exists_eq_or_imp, ← ih, exists_or, exists_and_left]
    by_cases hx : ∃ b, tells x b
    · simp [hx]
    · simp [not_exists.mp hx]

end First

section Last

variable {p : α → Prop}

/-- The last element of a list that has a property. -/
def IsLast (p : α → Prop) (xs : List α) (x : α) : Prop :=
  ∃ front behind, xs = front ++ x :: behind ∧ p x ∧ ∀ y ∈ behind, ¬ p y

/-- Whether the first element is the last one with the property is up to those behind it. -/
theorem isLast_cons {x y : α} {xs : List α} :
    IsLast p (y :: xs) x ↔ IsLast p xs x ∨ (y = x ∧ p y ∧ ∀ z ∈ xs, ¬ p z) := by
  constructor
  · rintro ⟨front, behind, heq, hx, hbehind⟩
    cases front with
    | nil =>
      obtain ⟨rfl, rfl⟩ := List.cons.inj heq
      exact .inr ⟨rfl, hx, hbehind⟩
    | cons first front =>
      obtain ⟨-, rfl⟩ := List.cons.inj heq
      exact .inl ⟨front, behind, rfl, hx, hbehind⟩
  · rintro (⟨front, behind, rfl, hx, hbehind⟩ | ⟨rfl, hy, hxs⟩)
    · exact ⟨y :: front, behind, rfl, hx, hbehind⟩
    · exact ⟨[], xs, rfl, hy, hxs⟩

/-- The last element with a property is an element with the property. -/
theorem IsLast.mem {xs : List α} {x : α} (h : IsLast p xs x) : x ∈ xs ∧ p x := by
  obtain ⟨front, behind, rfl, hx, -⟩ := h
  exact ⟨by simp, hx⟩

/-- There is one last element only. -/
theorem IsLast.unique {xs : List α} {x y : α} (hx : IsLast p xs x) (hy : IsLast p xs y) :
    x = y := by
  induction xs with
  | nil => exact absurd hx.mem.1 List.not_mem_nil
  | cons first rest ih =>
    rcases isLast_cons.mp hx with hx | ⟨rfl, hfirst, hrest⟩ <;>
      rcases isLast_cons.mp hy with hy | ⟨rfl, hfirst', hrest'⟩
    · exact ih hx hy
    · exact absurd hx.mem.2 (hrest' x hx.mem.1)
    · exact absurd hy.mem.2 (hrest y hy.mem.1)
    · rfl

/-- There is a last element with a property exactly if some element has it. -/
theorem exists_isLast_iff {xs : List α} : (∃ x, IsLast p xs x) ↔ ∃ x ∈ xs, p x := by
  constructor
  · rintro ⟨x, hlast⟩
    exact ⟨x, hlast.mem⟩
  · intro h
    induction xs with
    | nil => simp at h
    | cons first rest ih =>
      by_cases hrest : ∃ x ∈ rest, p x
      · obtain ⟨x, hlast⟩ := ih hrest
        exact ⟨x, isLast_cons.mpr (.inl hlast)⟩
      · obtain ⟨x, hmem, hx⟩ := h
        have hnone : ∀ y ∈ rest, ¬ p y := fun y hy hp => hrest ⟨y, hy, hp⟩
        rcases List.mem_cons.mp hmem with rfl | hmem
        · exact ⟨x, isLast_cons.mpr (.inr ⟨rfl, hx, hnone⟩)⟩
        · exact absurd hx (hnone x hmem)

/-- Elements without the property do not matter. -/
theorem isLast_filter {q : α → Prop} [DecidablePred q] (hpq : ∀ x, p x → q x) {xs : List α}
    {x : α} : IsLast p (xs.filter q) x ↔ IsLast p xs x := by
  have hnone (ys : List α) : (∀ y ∈ ys.filter q, ¬ p y) ↔ ∀ y ∈ ys, ¬ p y := by
    refine ⟨fun h y hy hp => h y ?_ hp, fun h y hy => h y (List.mem_filter.mp hy).1⟩
    exact List.mem_filter.mpr ⟨hy, by simpa using hpq y hp⟩
  induction xs with
  | nil => rfl
  | cons first rest ih =>
    by_cases hq : q first
    · rw [List.filter_cons_of_pos (by simpa using hq), isLast_cons, isLast_cons, hnone]
      exact or_congr_left ih
    · have hp : ¬ p first := fun hp => hq (hpq first hp)
      rw [List.filter_cons_of_neg (by simpa using hq), isLast_cons]
      simpa [hp] using ih

/-- The last element stays the last one when all are mapped. -/
theorem IsLast.map {γ : Type} {f : γ → α} {xs : List γ} {x : γ}
    (h : IsLast (fun x => p (f x)) xs x) : IsLast p (xs.map f) (f x) := by
  obtain ⟨front, behind, rfl, hx, hbehind⟩ := h
  exact ⟨front.map f, behind.map f, by simp, hx, List.forall_mem_map.mpr hbehind⟩

end Last

section LastTells

variable {has : α → Prop} {tells : α → β → Prop} {x : α} {xs : List α} {usual v w : β}

/-- What the last element with a property tells, or what is usual if none has the property. -/
inductive LastTells (has : α → Prop) (tells : α → β → Prop) (xs : List α) (usual : β) :
    β → Prop where
  /-- No element has the property. -/
  | usual (none : ∀ x ∈ xs, ¬ has x) : LastTells has tells xs usual usual
  /-- The last element that has it tells this. -/
  | told {x : α} {v : β} (last : IsLast has xs x) (telling : tells x v) :
    LastTells has tells xs usual v

namespace LastTells

/-- If each element tells one value only, so does the last that tells any. -/
theorem unique (htells : ∀ x v w, tells x v → tells x w → v = w)
    (hv : LastTells has tells xs usual v) (hw : LastTells has tells xs usual w) : v = w := by
  cases hv with
  | usual hnone =>
    cases hw with
    | usual => rfl
    | told hlast => exact absurd hlast.mem.2 (hnone _ hlast.mem.1)
  | told hlast hv =>
    cases hw with
    | usual hnone => exact absurd hlast.mem.2 (hnone _ hlast.mem.1)
    | told hlast' hw =>
      obtain rfl := hlast.unique hlast'
      exact htells _ _ _ hv hw

/-- An element without the property does not matter. -/
theorem cons_of_not (hx : ¬ has x) (h : LastTells has tells xs usual v) :
    LastTells has tells (x :: xs) usual v := by
  cases h with
  | usual hnone => exact .usual (List.forall_mem_cons.mpr ⟨hx, hnone⟩)
  | told hlast hv => exact .told (isLast_cons.mpr (.inl hlast)) hv

/-- What an element with the property tells is usual for those behind it. -/
theorem cons_of_tells (hx : has x) (hw : tells x w) (h : LastTells has tells xs w v) :
    LastTells has tells (x :: xs) usual v := by
  cases h with
  | usual hnone => exact .told (isLast_cons.mpr (.inr ⟨rfl, hx, hnone⟩)) hw
  | told hlast hv => exact .told (isLast_cons.mpr (.inl hlast)) hv

/-- Elements that are left out without losing the property do not matter. -/
theorem filter_iff {q : α → Prop} [DecidablePred q] (hq : ∀ x, has x → q x) :
    LastTells has tells (xs.filter q) usual v ↔ LastTells has tells xs usual v := by
  have hnone : (∀ x ∈ xs.filter q, ¬ has x) ↔ ∀ x ∈ xs, ¬ has x := by
    constructor
    · intro h x hx hhas
      exact h x (List.mem_filter.mpr ⟨hx, decide_eq_true (hq x hhas)⟩) hhas
    · intro h x hx
      exact h x (List.mem_filter.mp hx).1
  constructor
  · intro h
    cases h with
    | usual h => exact .usual (hnone.mp h)
    | told hlast hv => exact .told ((isLast_filter hq).mp hlast) hv
  · intro h
    cases h with
    | usual h => exact .usual (hnone.mpr h)
    | told hlast hv => exact .told ((isLast_filter hq).mpr hlast) hv

/-- Only the elements with the property matter, and their order. -/
theorem congr_filter [DecidablePred has] {ys : List α}
    (h : xs.filter (has ·) = ys.filter (has ·)) :
    LastTells has tells xs usual v ↔ LastTells has tells ys usual v := by
  rw [← filter_iff fun _ hx => hx, h, filter_iff fun _ hx => hx]

/-- What is told last is the same when the elements are mapped. -/
theorem map {γ : Type} {f : γ → α} {xs : List γ}
    (h : LastTells (fun x => has (f x)) (fun x => tells (f x)) xs usual v) :
    LastTells has tells (xs.map f) usual v := by
  cases h with
  | usual hnone => exact .usual (List.forall_mem_map.mpr hnone)
  | told hlast hv => exact .told hlast.map hv

end LastTells

end LastTells

section Fold

variable {σ ε : Type} {step : σ → α → Except ε σ} {xs : List α} {s s' : σ}

/-- A run of steps fails for the first element that is at fault, whatever the state. -/
theorem foldlM_eq_error_iff {faulty : α → ε → Prop} {e : ε}
    (hstep : ∀ s x e, step s x = .error e ↔ faulty x e) :
    xs.foldlM step s = .error e ↔ FirstTells faulty xs e := by
  induction xs generalizing s with
  | nil => exact iff_of_false (by simp [pure, Except.pure]) not_firstTells_nil
  | cons x xs ih =>
    rw [List.foldlM_cons, firstTells_cons, ← hstep s x e]
    cases hx : step s x with
    | error e' =>
      have hfault : ¬ ∀ e, ¬ faulty x e := fun h => h e' ((hstep s x e').mp hx)
      simp [bind, Except.bind, hfault]
    | ok s' =>
      have hnone : ∀ e, ¬ faulty x e := by
        intro e he
        rw [(hstep s x e).mpr he] at hx
        cases hx
      simpa [bind, Except.bind, hnone] using ih

/-- A part of the state that an element with a property sets, and that others keep, is in the end
what the last such element tells. -/
theorem lastTells_of_foldlM (part : σ → β) {has : α → Prop} {tells : α → β → Prop}
    (htold : ∀ s x s', step s x = .ok s' → has x → tells x (part s'))
    (hkept : ∀ s x s', step s x = .ok s' → ¬ has x → part s' = part s)
    (h : xs.foldlM step s = .ok s') : LastTells has tells xs (part s) (part s') := by
  induction xs generalizing s with
  | nil =>
    obtain rfl := Except.ok.inj h
    exact .usual (by simp)
  | cons x xs ih =>
    rw [List.foldlM_cons] at h
    cases hx : step s x with
    | error e => simp [hx, bind, Except.bind] at h
    | ok mid =>
      have hrest : xs.foldlM step mid = .ok s' := by simpa [hx, bind, Except.bind] using h
      by_cases hhas : has x
      · exact (ih hrest).cons_of_tells hhas (htold s x mid hx hhas)
      · have hlast := ih hrest
        rw [hkept s x mid hx hhas] at hlast
        exact hlast.cons_of_not hhas

end Fold

end ProcessMeter
