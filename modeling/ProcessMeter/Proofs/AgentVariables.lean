import Mathlib.Algebra.Group.Nat.Defs
import ProcessMeter.Agent.Settings
import ProcessMeter.Proofs.FirstAndLast
import ProcessMeter.Proofs.KeyedLines
import ProcessMeter.Proofs.LexicalPath
import ProcessMeter.Proofs.StateGrammar

/-!
# Settings from environment variables

Nine variables give the settings of the agent, each of them one setting. A variable that is set to
blanks only counts as unset. Six variables are flags or numbers and can be malformed; the first of
them that is malformed is reported. This file says what each setting is, and that it depends on its
own variable alone.
-/

namespace ProcessMeter

open Text

namespace AgentSettings

variable {lookup lookup' : String → Option Text} {name : String}

/-- The variable has no value, or one that consists of blanks only. -/
def IsUnset (found : Option Text) : Prop := ∀ value ∈ found, IsBlankText value

/-- What a variable says: what its value means, or what is usual if it is unset. -/
inductive Says {α : Type} (means : Text → α → Prop) (usual : α) : Option Text → α → Prop where
  | unset {found : Option Text} (unset : IsUnset found) : Says means usual found usual
  | given {value : Text} {a : α} (value_not_blank : ¬ IsBlankText value) (meaning : means value a) :
    Says means usual (some value) a

/-- The value is a word for yes or for no, in letters of any case and between blanks. -/
def MeansFlag (value : Text) (b : Bool) : Prop :=
  toLowerAscii (trim value) ∈ if b then yesWords else noWords

/-- The value is a number of 64 bits between blanks. -/
def MeansNumber (value : Text) (n : Nat) : Prop := IsCount (trim value) n

/-- Two variables that do not differ, save that one may be set to blanks and the other unset. -/
def Alike (found found' : Option Text) : Prop := found = found' ∨ IsUnset found ∧ IsUnset found'

section Value

variable {α : Type} {means : Text → α → Prop} {usual : α} {found found' : Option Text} {a a' : α}

/-- A variable that is unset leaves the usual value. -/
theorem Says.eq_usual (h : Says means usual found a) (hunset : IsUnset found) : a = usual := by
  cases h with
  | unset => rfl
  | given hblank => exact absurd (hunset _ rfl) hblank

/-- Variables that are alike say the same. -/
theorem Says.unique (hmeans : ∀ value a a', means value a → means value a' → a = a')
    (hsame : Alike found found') (h : Says means usual found a) (h' : Says means usual found' a') :
    a = a' := by
  rcases hsame with rfl | ⟨hunset, hunset'⟩
  · cases h with
    | unset hunset => exact (h'.eq_usual hunset).symm
    | given hblank hmeaning =>
      cases h' with
      | unset hunset => exact absurd (hunset _ rfl) hblank
      | given _ hmeaning' => exact hmeans _ _ _ hmeaning hmeaning'
  · exact (h.eq_usual hunset).trans (h'.eq_usual hunset').symm

end Value

/-- The settings, each given by a variable of its own. -/
inductive Setting where
  | rootfs
  | patterns
  | cgroups
  | network
  | keepArguments
  | shownVariables
  | byCpu
  | byMemory
  | interval

namespace Setting

/-- The setting is the one that its variable gives. -/
def IsGiven (found : Option Text) (s : AgentSettings) : Setting → Prop
  | rootfs => Says (fun value path => path = some value) none found s.rootfs
  | patterns => Says (fun value items => items = listItems value) [".*".toList] found s.patterns
  | cgroups => Says MeansFlag true found s.cgroups
  | network => Says MeansFlag false found s.network
  | keepArguments => Says MeansFlag true found s.keepArguments
  | shownVariables => Says (fun value items => items = listItems value) [] found s.shownVariables
  | byCpu => Says MeansNumber 0 found s.top.byCpu
  | byMemory => Says MeansNumber 0 found s.top.byMemory
  | interval =>
    Says (fun value interval => ∃ n, MeansNumber value n ∧ interval.nanos = n * 10 ^ 6)
      ⟨10 ^ 9⟩ found s.interval

end Setting

section Reads

variable {e : SettingsError} {b b' : Bool} {n : Nat}

/-- No word is both for yes and for no. -/
theorem MeansFlag.unique {value : Text} (h : MeansFlag value b) (h' : MeansFlag value b') :
    b = b' := by
  have hdistinct : ∀ word ∈ yesWords, word ∉ noWords := by decide
  cases b <;> cases b'
  · rfl
  · exact absurd h (hdistinct _ h')
  · exact absurd h' (hdistinct _ h)
  · rfl

/-- The value of a checked variable means something. -/
def IsRead : Expected → Text → Prop
  | .boolean, value => ∃ b, MeansFlag value b
  | .number, value => ∃ n, MeansNumber value n

/-- What is wrong with a variable: it has a value that means nothing, and that value is named as it
stands, with its blanks. -/
structure IsFault (lookup : String → Option Text) (asked : String × Expected)
    (e : SettingsError) : Prop where
  named : e.name = asked.1
  expected : e.expected = asked.2
  found : lookup asked.1 = some e.value
  not_blank : ¬ IsBlankText e.value
  not_read : ¬ IsRead asked.2 e.value

namespace IsReading

variable {α : Type} {expected : Expected} {means : Text → α → Prop} {usual a : α}
  {reading : Except SettingsError α}

end IsReading

end Reads

section AllReads

variable {s s' : AgentSettings} {e : SettingsError}

/-- The variables that can be malformed, in the order in which they are checked. -/
def checked : List (String × Expected) := [
  ("ENABLE_CGROUPS", .boolean), ("ENABLE_NETWORK", .boolean), ("CACHE_CMDLINE", .boolean),
  ("TOP_BY_CPU", .number), ("TOP_BY_MEMORY", .number), ("SAMPLE_INTERVAL_MS", .number)]

/-- A read fails for the first fault of a list of variables. -/
def FailsAtFirst {α : Type} (lookup : String → Option Text) (checked : List (String × Expected))
    (reading : Except SettingsError α) : Prop :=
  ∀ e, reading = .error e ↔ FirstTells (IsFault lookup) checked e

/-- A variable that is read before others is checked before them. -/
theorem FailsAtFirst.bind {α β : Type} {first : String × Expected}
    {behind : List (String × Expected)} {reading : Except SettingsError α}
    {more : α → Except SettingsError β}
    (hreading : ∀ e, reading = .error e ↔ IsFault lookup first e)
    (hmore : ∀ a, FailsAtFirst lookup behind (more a)) :
    FailsAtFirst lookup (first :: behind) (reading >>= more) := by
  intro e
  rw [firstTells_cons, ← hreading e]
  cases reading with
  | error e' =>
    have hfault : ¬ ∀ e, ¬ IsFault lookup first e := fun h => h e' ((hreading e').mp rfl)
    simp [Bind.bind, Except.bind, hfault]
  | ok a =>
    have hnone : ∀ e, ¬ IsFault lookup first e := by simp [← hreading]
    simpa [Bind.bind, Except.bind, hnone] using hmore a e

end AllReads

section Lists

/-- An item of a list: it has letters, none of them a comma, and no blank at either end. -/
structure IsItem (item : Text) : Prop where
  ne_nil : item ≠ []
  no_comma : ',' ∉ item
  front : ∀ c ∈ item.head?, isBlank c = false
  back : ∀ c ∈ item.getLast?, isBlank c = false

/-- What stands between the commas of a list: its items in order, each between blanks, and among
them any number of pieces that hold nothing but blanks. -/
inductive Pieces : List Text → List Text → Prop where
  | nil : Pieces [] []
  | blank {piece : Text} {pieces items : List Text} (piece_blank : IsBlankText piece)
    (more : Pieces pieces items) : Pieces (piece :: pieces) items
  | item {lead item trail : Text} {pieces items : List Text} (lead_blank : IsBlankText lead)
    (is_item : IsItem item) (trail_blank : IsBlankText trail) (more : Pieces pieces items) :
    Pieces ((lead ++ (item ++ trail)) :: pieces) (item :: items)

/-- A text that lists items: commas stand between its pieces. -/
def Lists (text : Text) (items : List Text) : Prop :=
  ∃ pieces, text = join [','] pieces ∧ Pieces pieces items

/-- A blank text has no comma. -/
theorem comma_not_mem_of_isBlankText {t : Text} (h : IsBlankText t) : ',' ∉ t := fun hmem =>
  absurd (h _ hmem) (by decide)

/-- No piece has a comma. -/
theorem Pieces.no_comma {pieces items : List Text} (h : Pieces pieces items) :
    ∀ piece ∈ pieces, ',' ∉ piece := by
  induction h with
  | nil => simp
  | blank hblank _ ih => exact List.forall_mem_cons.mpr ⟨comma_not_mem_of_isBlankText hblank, ih⟩
  | item hlead hitem htrail _ ih =>
    refine List.forall_mem_cons.mpr ⟨?_, ih⟩
    simp [comma_not_mem_of_isBlankText hlead, hitem.no_comma, comma_not_mem_of_isBlankText htrail]

end Lists

end AgentSettings

end ProcessMeter
