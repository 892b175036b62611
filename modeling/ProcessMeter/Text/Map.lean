import ProcessMeter.Text.Basic

/-!
# Maps from names

A `TextMap` holds one value per name in the order of the names. The order compares character by
character, and a name comes before every longer name that it begins.
-/

namespace ProcessMeter

namespace Text

/-- Whether a text comes strictly before another in dictionary order by code point. -/
def before : Text → Text → Bool
  | _, [] => false
  | [], _ :: _ => true
  | c :: s, d :: t => if c = d then before s t else c.toNat < d.toNat

/-- No text is before itself. -/
theorem before_irrefl (t : Text) : before t t = false := by
  induction t with
  | nil => rfl
  | cons c t ih => simp [before, ih]

/-- A text before another is before all that follow the other. -/
theorem before_trans {s t u : Text} (hst : before s t = true) (htu : before t u = true) :
    before s u = true := by
  induction s generalizing t u with
  | nil =>
    cases u with
    | nil => cases t <;> simp [before] at htu
    | cons => rfl
  | cons c s ih =>
    cases t with
    | nil => simp [before] at hst
    | cons d t =>
      cases u with
      | nil => simp [before] at htu
      | cons e u =>
        simp only [before] at hst htu ⊢
        split at hst
        · next hcd =>
          subst hcd
          split at htu
          · next hce => simp [hce, ih hst htu]
          · next hce => simpa [hce] using htu
        · next hcd =>
          split at htu
          · next hde =>
            subst hde
            simpa [hcd] using hst
          · next hde =>
            have h1 : c.toNat < d.toNat := by simpa using hst
            have h2 : d.toNat < e.toNat := by simpa using htu
            have hce : c ≠ e := by rintro rfl; omega
            simp [hce]
            omega

/-- Of two different texts one is before the other. -/
theorem before_total {s t : Text} (hne : s ≠ t) : before s t = true ∨ before t s = true := by
  induction s generalizing t with
  | nil =>
    cases t with
    | nil => exact absurd rfl hne
    | cons => exact Or.inl rfl
  | cons c s ih =>
    cases t with
    | nil => exact Or.inr rfl
    | cons d t =>
      by_cases hcd : c = d
      · subst hcd
        have hst : s ≠ t := fun h => hne (by rw [h])
        simpa [before] using ih hst
      · have hdc : d ≠ c := fun h => hcd h.symm
        have hval : c.toNat ≠ d.toNat := fun h => hcd (Char.toNat_inj.mp h)
        simp [before, hcd, hdc]
        omega

end Text

/-- Values by name, in the order of the names. -/
structure TextMap (α : Type) where
  /-- The names with their values. -/
  entries : List (Text × α)
  /-- Every name comes before all later ones, so no name occurs twice. -/
  sorted : entries.Pairwise fun a b => Text.before a.1 b.1 = true
  deriving DecidableEq, Repr

namespace TextMap

variable {α β : Type}

/-- The map without names. -/
def empty : TextMap α := ⟨[], List.Pairwise.nil⟩

instance : Inhabited (TextMap α) := ⟨empty⟩
instance : EmptyCollection (TextMap α) := ⟨empty⟩

/-- The value of `key`. -/
def get? (m : TextMap α) (key : Text) : Option α := m.entries.lookup key

/-- The entries with the value of `key` replaced, or `key` put in its place. -/
def insertEntry (key : Text) (value : α) : List (Text × α) → List (Text × α)
  | [] => [(key, value)]
  | (k, v) :: rest =>
    if k = key then (key, value) :: rest
    else if Text.before key k then (key, value) :: (k, v) :: rest
    else (k, v) :: insertEntry key value rest

/-- An insertion brings in one entry only. -/
theorem mem_insertEntry {key : Text} {value : α} {entries : List (Text × α)} {e : Text × α}
    (h : e ∈ insertEntry key value entries) : e = (key, value) ∨ e ∈ entries := by
  induction entries with
  | nil => simpa [insertEntry] using h
  | cons head rest ih =>
    obtain ⟨k, v⟩ := head
    simp only [insertEntry] at h
    split at h
    · rcases List.mem_cons.mp h with h | h
      · exact Or.inl h
      · exact Or.inr (List.mem_cons_of_mem _ h)
    · split at h
      · rcases List.mem_cons.mp h with h | h
        · exact Or.inl h
        · exact Or.inr h
      · rcases List.mem_cons.mp h with h | h
        · exact Or.inr (h ▸ List.mem_cons_self)
        · rcases ih h with h | h
          · exact Or.inl h
          · exact Or.inr (List.mem_cons_of_mem _ h)

/-- An insertion keeps the entries in order. -/
theorem insertEntry_sorted (key : Text) (value : α) {entries : List (Text × α)}
    (h : entries.Pairwise fun a b => Text.before a.1 b.1 = true) :
    (insertEntry key value entries).Pairwise fun a b => Text.before a.1 b.1 = true := by
  induction entries with
  | nil => simp [insertEntry]
  | cons head rest ih =>
    obtain ⟨k, v⟩ := head
    obtain ⟨hhead, hrest⟩ := List.pairwise_cons.mp h
    simp only [insertEntry]
    split
    · next hk =>
      subst hk
      exact List.pairwise_cons.mpr ⟨hhead, hrest⟩
    · next hk =>
      split
      · next hlt =>
        refine List.pairwise_cons.mpr ⟨?_, h⟩
        intro e he
        rcases List.mem_cons.mp he with rfl | he
        · exact hlt
        · exact Text.before_trans hlt (hhead e he)
      · next hlt =>
        have hkey : Text.before k key = true := by
          rcases Text.before_total hk with h | h
          · exact h
          · exact absurd h hlt
        refine List.pairwise_cons.mpr ⟨?_, ih hrest⟩
        intro e he
        rcases mem_insertEntry he with rfl | he
        · exact hkey
        · exact hhead e he

/-- The map with `value` for `key` in place of what `key` had. -/
def insert (m : TextMap α) (key : Text) (value : α) : TextMap α :=
  ⟨insertEntry key value m.entries, insertEntry_sorted key value m.sorted⟩

/-- The map of a list of pairs; of several values for one name the last counts. -/
def ofList (pairs : List (Text × α)) : TextMap α :=
  pairs.foldl (fun m pair => m.insert pair.1 pair.2) empty

/-- The map with `value` for `key`, unless `key` has a value. -/
def insertNew (m : TextMap α) (key : Text) (value : α) : TextMap α :=
  if (m.get? key).isSome then m else m.insert key value

/-- The value of `key` changed by `change`, which starts from `fresh` for a new name. -/
def update (m : TextMap α) (key : Text) (fresh : α) (change : α → α) : TextMap α :=
  m.insert key (change ((m.get? key).getD fresh))

/-- The names in order. -/
def keys (m : TextMap α) : List Text := m.entries.map Prod.fst

/-- The values in the order of their names. -/
def values (m : TextMap α) : List α := m.entries.map Prod.snd

/-- The sum of a figure over the values. -/
def total (m : TextMap α) (figure : α → Nat) : Nat :=
  m.values.foldr (fun value sum => figure value + sum) 0

/-- Whether there are no names. -/
def isEmpty (m : TextMap α) : Bool := m.entries.isEmpty

/-- The empty map has no value. -/
@[simp] theorem get?_empty (key : Text) : (empty : TextMap α).get? key = none := rfl

/-- An insertion gives its key the value and keeps the others. -/
theorem lookup_insertEntry (key : Text) (value : α) (entries : List (Text × α)) (k : Text) :
    (insertEntry key value entries).lookup k =
      if k = key then some value else entries.lookup k := by
  have hne (a b : Text) (h : a ≠ b) : (a == b) = false := beq_eq_false_iff_ne.mpr h
  induction entries with
  | nil => by_cases h : k = key <;> simp [insertEntry, List.lookup_cons, h, hne]
  | cons head rest ih =>
    obtain ⟨k', v⟩ := head
    simp only [insertEntry]
    split
    · next hk =>
      subst hk
      by_cases h : k = k' <;> simp [List.lookup_cons, h, hne]
    · next hk =>
      split
      · by_cases h : k = key <;> simp [List.lookup_cons, h, hne]
      · by_cases h : k = k'
        · subst h
          simp [hk]
        · simp [List.lookup_cons, ih, h, hne]

/-- Writing a name changes the value of that name only. -/
theorem get?_insert (m : TextMap α) (key : Text) (value : α) (k : Text) :
    (m.insert key value).get? k = if k = key then some value else m.get? k :=
  lookup_insertEntry key value m.entries k

end TextMap

end ProcessMeter
