import Mathlib.Data.List.Basic
import ProcessMeter.Proofs.RootExclusion

/-!
# Paths seen from a mounted cgroup

A hierarchy mounted from one of its cgroups shows only what lies below that one, so the path of a
cgroup is seen without the names of the mounted cgroup. The text of the mounted path is taken off
the front of the other. This takes off whole names and never a part of one, so a sibling whose name
merely begins alike keeps its path. Every path that is found has one slash in front and none at its
end.
-/

namespace ProcessMeter

namespace Path

/-- A text that can stand between slashes as the name of a cgroup. -/
structure IsName (name : Text) : Prop where
  /-- It is not empty, and it is neither `.` nor `..`. -/
  named : name ∉ [[], ['.'], ['.', '.']]
  /-- It holds no slash. -/
  noSlash : '/' ∉ name

/-- The names with a slash in front of each. -/
def descent (names : List Text) : Path := names.flatMap ('/' :: ·)

/-- The path from the root along the names: `/` if there are none. -/
def along (names : List Text) : Path := if names = [] then ['/'] else descent names

variable {names : List Text}

/-- Without names there is no way down. -/
@[simp] theorem descent_nil : descent [] = [] := rfl

/-- Each name is one step down. -/
@[simp] theorem descent_cons (name : Text) (rest : List Text) :
    descent (name :: rest) = '/' :: (name ++ descent rest) := rfl

/-- Names in a row are ways down in a row. -/
@[simp] theorem descent_append (front back : List Text) :
    descent (front ++ back) = descent front ++ descent back := List.flatMap_append

/-- A descent is a slash and the names joined by slashes. -/
private theorem descent_eq_join (hne : names ≠ []) :
    descent names = '/' :: Text.join ['/'] names := by
  induction names with
  | nil => exact absurd rfl hne
  | cons name rest ih =>
    cases rest with
    | nil => simp [Text.join]
    | cons other more =>
      rw [descent_cons, ih (by simp), Text.join_cons_cons, List.singleton_append]

/-- The pieces of a descent are the names behind an empty piece. -/
private theorem split_descent (h : ∀ name ∈ names, IsName name) :
    Text.split '/' (descent names) = [] :: names := by
  by_cases hne : names = []
  · rw [hne]
    rfl
  · have hsplit : Text.split '/' ('/' :: Text.join ['/'] names) =
        [] :: Text.split '/' (Text.join ['/'] names) :=
      Text.split_append_cons '/' [] (Text.join ['/'] names)
    rw [descent_eq_join hne, hsplit, Text.split_join hne fun name hname => (h name hname).noSlash]

/-- The names are found again in a descent. -/
theorem items_descent (h : ∀ name ∈ names, IsName name) :
    Text.items '/' (descent names) = names := by
  have hnamed : [] ∉ names := fun hmem => (h [] hmem).named (by simp)
  rw [Text.items, split_descent h, List.filter_cons_of_neg (by simp),
    Text.filter_nonempty_eq_self.mpr hnamed]

/-- Along some names is the way down through them. -/
theorem along_of_ne_nil (h : names ≠ []) : along names = descent names := if_neg h

/-- The last character of a descent is no slash. -/
private theorem getLast?_descent (h : ∀ name ∈ names, IsName name) :
    (descent names).getLast? ≠ some '/' := by
  rcases List.eq_nil_or_concat' names with rfl | ⟨front, name, rfl⟩
  · simp
  · have hname := h name (by simp)
    have hne : name ≠ [] := fun hnil => hname.named (by simp [hnil])
    obtain ⟨before, last, rfl⟩ := (List.eq_nil_or_concat' name).resolve_left hne
    intro hlast
    have hslash : last = '/' := by
      rw [descent_append, descent_cons, descent_nil, List.append_nil, List.getLast?_append,
        ← List.cons_append, List.getLast?_concat, Option.some_or] at hlast
      exact Option.some.inj hlast
    exact hname.noSlash (by simp [hslash])

/-- What comes behind the first slash of a descent begins with no slash. -/
private theorem exists_descent_eq (h : ∀ name ∈ names, IsName name) (hne : names ≠ []) :
    ∃ c behind, descent names = '/' :: c :: behind ∧ c ≠ '/' := by
  obtain ⟨name, rest, rfl⟩ := List.exists_cons_of_ne_nil hne
  have hname := h name List.mem_cons_self
  obtain ⟨c, more, rfl⟩ :=
    List.exists_cons_of_ne_nil (show name ≠ [] from fun hnil => hname.named (by simp [hnil]))
  exact ⟨c, more ++ descent rest, rfl, fun hslash => hname.noSlash (by simp [hslash])⟩

end Path

open ProcessMeter.Path

namespace Cgroup

/-- A path that is written in one way only: it has one slash in front, and one at its end only if it
is the root. -/
structure IsPinned (p : Path) : Prop where
  /-- One slash comes first. -/
  first : ∃ rest, p = '/' :: rest ∧ rest.head? ≠ some '/'
  /-- Only the root ends in a slash. -/
  last : p ≠ ['/'] → p.getLast? ≠ some '/'
  /-- Bringing it into this form changes nothing. -/
  kept : canonical p = p

/-- Without slashes at its end a path stays as it is. -/
private theorem trimSlashes_eq_self {p : Path} (h : p.getLast? ≠ some '/') : trimSlashes p = p := by
  refine Text.trimEndWhile_eq_self fun c hc => ?_
  rw [beq_eq_false_iff_ne]
  rintro rfl
  exact h hc

/-- A path of the wanted form stays as it is. -/
private theorem canonical_cons_eq_self {rest : Path} (hfirst : rest.head? ≠ some '/')
    (hlast : rest.getLast? ≠ some '/') : canonical ('/' :: rest) = '/' :: rest := by
  have hdrop : ('/' :: rest).dropWhile (· == '/') = rest := by
    cases rest with
    | nil => rfl
    | cons c more =>
      have hc : c ≠ '/' := by simpa using hfirst
      simp [hc]
  rw [canonical, hdrop, trimSlashes_eq_self hlast]

/-- What is between the slashes at either end begins and ends with no slash. -/
private theorem ends_trimSlashes (p : Path) :
    (trimSlashes (p.dropWhile (· == '/'))).head? ≠ some '/' ∧
      (trimSlashes (p.dropWhile (· == '/'))).getLast? ≠ some '/' := by
  constructor
  · intro hfirst
    obtain ⟨slashes, hp⟩ : trimSlashes (p.dropWhile (· == '/')) <+: p.dropWhile (· == '/') :=
      Text.isPrefix_trimEndWhile _ _
    have hhead : (p.dropWhile (· == '/')).head? = some '/' := by
      rw [← hp, List.head?_append, hfirst, Option.some_or]
    have hnot := List.head?_dropWhile_not (· == '/') p
    rw [hhead] at hnot
    simp at hnot
  · intro hlast
    have hnot := Text.eq_false_of_getLast?_trimEndWhile hlast
    simp at hnot

/-- A canonical path begins with a slash and ends with none. -/
theorem isPinned_canonical (p : Path) : IsPinned (canonical p) where
  first := ⟨_, rfl, (ends_trimSlashes p).1⟩
  last := by
    intro hroot hlast
    rw [canonical, List.getLast?_cons] at hlast
    cases hend : (trimSlashes (p.dropWhile (· == '/'))).getLast? with
    | none => exact hroot (by rw [canonical, List.getLast?_eq_none_iff.mp hend])
    | some c =>
      rw [hend] at hlast
      exact (ends_trimSlashes p).2 (hend.trans hlast)
  kept := canonical_cons_eq_self (ends_trimSlashes p).1 (ends_trimSlashes p).2

variable {root names : List Text}

/-- Pinning a descent gives the path along its names. -/
private theorem canonical_descent (h : ∀ name ∈ names, IsName name) :
    canonical (descent names) = along names := by
  by_cases hne : names = []
  · rw [hne]
    rfl
  · obtain ⟨c, behind, hdescent, hc⟩ := exists_descent_eq h hne
    have hlast := getLast?_descent h
    rw [along_of_ne_nil hne, hdescent]
    rw [hdescent, List.getLast?_cons_cons] at hlast
    exact canonical_cons_eq_self (by simpa using hc) hlast

/-- A path along names is canonical. -/
private theorem canonical_along (h : ∀ name ∈ names, IsName name) :
    canonical (along names) = along names := by
  by_cases hne : names = []
  · rw [hne]
    rfl
  · rw [along_of_ne_nil hne, canonical_descent h, along_of_ne_nil hne]

/-- Below the root of the hierarchy nothing is taken off. -/
private theorem belowMountRoot_root (p : Path) : belowMountRoot (along []) p = p := if_pos rfl

/-- A mounted cgroup that is not the root is taken off as text. -/
private theorem trimSlashes_along (hroot : ∀ name ∈ root, IsName name) (hne : root ≠ []) :
    along root ≠ ['/'] ∧ trimSlashes (along root) = descent root := by
  obtain ⟨c, behind, hdescent, -⟩ := exists_descent_eq hroot hne
  rw [along_of_ne_nil hne]
  exact ⟨by simp [hdescent], trimSlashes_eq_self (getLast?_descent hroot)⟩

/-- The names of the mounted cgroup are taken off the names of the path. -/
private theorem belowMountRoot_append (hroot : ∀ name ∈ root, IsName name) (hne : root ≠ [])
    (rest : List Text) : belowMountRoot (along root) (along (root ++ rest)) = descent rest := by
  obtain ⟨hnotRoot, htrim⟩ := trimSlashes_along hroot hne
  have hdrop : Text.dropStart? (descent root) (along (root ++ rest)) = some (descent rest) := by
    rw [Text.dropStart?_eq_some, along_of_ne_nil (by simp [hne]), descent_append]
  unfold belowMountRoot
  rw [if_neg hnotRoot, htrim, hdrop]
  cases rest <;> rfl

/-- A text that is taken off a path along names, up to a slash or the end, is made of whole
names. -/
private theorem isPrefix_of_dropStart? (hroot : ∀ name ∈ root, IsName name)
    (hnames : ∀ name ∈ names, IsName name) {behind : Path}
    (h : Text.dropStart? (descent root) (along names) = some behind)
    (hbehind : behind = [] ∨ ∃ rest, behind = '/' :: rest) : root <+: names := by
  rw [Text.dropStart?_eq_some] at h
  have hitems : Text.items '/' (along names) = names := by
    by_cases hnil : names = []
    · rw [hnil]
      rfl
    · rw [along_of_ne_nil hnil, items_descent hnames]
  rw [← hitems, h]
  rcases hbehind with rfl | ⟨rest, rfl⟩
  · simp [items_descent hroot]
  · rw [Text.items_append, items_descent hroot]
    exact List.prefix_append root _

/-- A path that is not below the root of the mount stays as it is. -/
private theorem belowMountRoot_of_not_isPrefix (hroot : ∀ name ∈ root, IsName name)
    (hnames : ∀ name ∈ names, IsName name) (h : ¬ root <+: names) :
    belowMountRoot (along root) (along names) = along names := by
  have hne : root ≠ [] := fun hnil => h (hnil ▸ List.nil_prefix)
  obtain ⟨hnotRoot, htrim⟩ := trimSlashes_along hroot hne
  unfold belowMountRoot
  rw [if_neg hnotRoot, htrim]
  split
  · next hdrop =>
    exact absurd (isPrefix_of_dropStart? hroot hnames hdrop (.inl rfl)) h
  · next rest hdrop =>
    exact absurd (isPrefix_of_dropStart? hroot hnames hdrop (.inr ⟨rest, rfl⟩)) h
  · rfl

/-- The path of a cgroup as it is seen below the mounted one. -/
private theorem canonical_belowMountRoot (hroot : ∀ name ∈ root, IsName name)
    (hnames : ∀ name ∈ names, IsName name) :
    ∃ shown, canonical (belowMountRoot (along root) (along names)) = along shown ∧
      (names = root ++ shown ∨ ¬ root <+: names ∧ shown = names) := by
  by_cases hleading : root <+: names
  · obtain ⟨shown, rfl⟩ := hleading
    refine ⟨shown, ?_, .inl rfl⟩
    have hshown : ∀ name ∈ shown, IsName name := fun name hmem =>
      hnames name (List.mem_append_right root hmem)
    by_cases hne : root = []
    · rw [hne, belowMountRoot_root, List.nil_append, canonical_along hshown]
    · rw [belowMountRoot_append hroot hne, canonical_descent hshown]
  · exact ⟨names, by rw [belowMountRoot_of_not_isPrefix hroot hnames hleading,
      canonical_along hnames], .inr ⟨hleading, rfl⟩⟩

/-- The name of a cgroup is the last one along its path. -/
private theorem id_along (h : ∀ name ∈ names, IsName name) :
    Cgroup.id (along names) = names.getLast?.getD [] := by
  have hidle : ((Text.split '/' (along names)).filter fun piece => !isIdle piece) = names := by
    by_cases hne : names = []
    · rw [hne]
      rfl
    · rw [along_of_ne_nil hne, split_descent h, List.filter_cons_of_neg (by simp [isIdle])]
      refine List.filter_eq_self.mpr fun name hname => ?_
      have hnamed := (h name hname).named
      simp only [List.mem_cons, not_or] at hnamed
      simp [isIdle, hnamed]
  rw [Cgroup.id, fileName?, hidle]
  split
  · next hlast =>
    exact absurd (by simp) (h _ (List.mem_of_getLast? hlast)).named
  · rfl

namespace Locator

/-- **Translated paths.** A cgroup is found at a path with one slash in front and none at its end.
Where no path is given for all processes, this is the path along the names that are left behind
those of the mounted cgroup; if these are not the first names of the path, it is the path itself.
The name of a cgroup is the last name along its path, and only the root has an empty one. -/
theorem location_path_along (locator : Locator) (mount : CgroupMount) (p : Path) :
    IsPinned (locator.location mount p).path ∧
    (∀ root names : List Text, locator.fixedPath = none →
      (∀ name ∈ root, IsName name) → (∀ name ∈ names, IsName name) →
      mount.root = along root → p = along names →
      ∃ shown, (locator.location mount p).path = along shown ∧
        (names = root ++ shown ∨ ¬ root <+: names ∧ shown = names)) ∧
    ∀ shown, (∀ name ∈ shown, IsName name) → (locator.location mount p).path = along shown →
      Cgroup.id (locator.location mount p).path = shown.getLast?.getD [] ∧
      (Cgroup.id (locator.location mount p).path = [] ↔
        (locator.location mount p).path = ['/']) := by
  refine ⟨isPinned_canonical _, ?_, ?_⟩
  · rintro root names hfixed hroot hnames hmount rfl
    rw [location, hfixed, Option.getD_none, hmount]
    exact canonical_belowMountRoot hroot hnames
  · intro shown hshown hpath
    rw [hpath, id_along hshown]
    refine ⟨rfl, ?_⟩
    rcases List.eq_nil_or_concat' shown with rfl | ⟨front, last, rfl⟩
    · simp [along]
    · have hlast : last ≠ [] := fun hnil => (hshown last (by simp)).named (by simp [hnil])
      obtain ⟨c, behind, hdescent, -⟩ := exists_descent_eq hshown (by simp)
      rw [along_of_ne_nil (by simp), hdescent]
      simpa using hlast

section Sibling

/-- A hierarchy that is mounted from the cgroup `/kubepods/pod1`. -/
private def podMount : CgroupMount := ⟨"/sys/fs/cgroup".toList, "/kubepods/pod1".toList⟩

private def podLocator : Locator where
  rootfs := "/".toList
  mounts := { unified := some podMount, subsystems := .empty }
  skipRoot := true
  fixedPath := none
  unifiedHasControllers := true

/-- The cgroup `pod12` begins like the mounted `pod1`, but lies beside it, so it keeps its path. -/
theorem location_path_along_sibling :
    podLocator.fixedPath = none ∧ (∀ name ∈ ["kubepods".toList, "pod1".toList], IsName name) ∧
    (∀ name ∈ ["kubepods".toList, "pod12".toList], IsName name) ∧
    podMount.root = along ["kubepods".toList, "pod1".toList] ∧
    "/kubepods/pod12".toList = along ["kubepods".toList, "pod12".toList] ∧
    (podLocator.location podMount "/kubepods/pod12".toList).path = "/kubepods/pod12".toList ∧
    Cgroup.id (podLocator.location podMount "/kubepods/pod12".toList).path = "pod12".toList := by
  have hmount : podMount.root = along ["kubepods".toList, "pod1".toList] := by decide
  have hpath : "/kubepods/pod12".toList = along ["kubepods".toList, "pod12".toList] := by decide
  have hpods : IsName "kubepods".toList := ⟨by decide, by decide⟩
  have hroot : ∀ name ∈ ["kubepods".toList, "pod1".toList], IsName name :=
    List.forall_mem_cons.mpr ⟨hpods, List.forall_mem_singleton.mpr ⟨by decide, by decide⟩⟩
  have hnames : ∀ name ∈ ["kubepods".toList, "pod12".toList], IsName name :=
    List.forall_mem_cons.mpr ⟨hpods, List.forall_mem_singleton.mpr ⟨by decide, by decide⟩⟩
  obtain ⟨-, htranslated, hid⟩ :=
    location_path_along podLocator podMount "/kubepods/pod12".toList
  obtain ⟨shown, hshown, hcut | ⟨-, rfl⟩⟩ := htranslated _ _ rfl hroot hnames hmount hpath
  · -- `pod1` is no name of the path
    exact absurd (congrArg (·[1]?) hcut) (by simp)
  · exact ⟨rfl, hroot, hnames, hmount, hpath, hshown.trans hpath.symm,
      (hid _ hnames hshown).1⟩

end Sibling

end Locator

end Cgroup

end ProcessMeter
