import ProcessMeter.Proofs.LexicalPath
import ProcessMeter.Proofs.Placement

/-!
# Root cgroups and what lies above them

A process in a root cgroup is not placed there, since the figures of the root are those of the whole
machine. What is compared is the path of the cgroup as it is written. So a path that goes up by `..`
is no root cgroup by that comparison, even where it leads to the root or out of the hierarchy.
-/

namespace ProcessMeter

namespace Text

/-- A beginning can be dropped exactly from the texts that begin with it. -/
theorem dropStart?_eq_some {start t rest : Text} :
    dropStart? start t = some rest ↔ t = start ++ rest := by
  induction start generalizing t with
  | nil => simp [dropStart?]
  | cons c start ih =>
    cases t with
    | nil => simp [dropStart?]
    | cons d t =>
      rw [dropStart?]
      by_cases hcd : c = d
      · simp [hcd, ih]
      · simp [hcd, Ne.symm hcd]

end Text

open ProcessMeter.Path

namespace Path

/-- A plain path is plain without the slash in front, -/
private theorem isPlain_of_cons {p : Path} (h : IsPlain ('/' :: p)) : IsPlain p :=
  (isPlain_append (s := []).mp h).2

/-- A plain path stays plain without the slashes at its start. -/
private theorem IsPlain.dropWhile {p : Path} (h : IsPlain p) :
    IsPlain (p.dropWhile (· == '/')) := by
  induction p with
  | nil => exact h
  | cons c rest ih =>
    by_cases hc : c = '/'
    · subst hc
      simpa using ih (isPlain_of_cons h)
    · simpa [hc] using h

end Path

namespace Cgroup

/-- Slashes are cut off the end and nothing else. -/
private theorem exists_trimSlashes (p : Path) :
    ∃ slashes, p = trimSlashes p ++ slashes ∧ ∀ c ∈ slashes, c = '/' := by
  refine ⟨(p.reverse.takeWhile (· == '/')).reverse, ?_, fun c hc => ?_⟩
  · rw [trimSlashes, Text.trimEndWhile, ← List.reverse_append, List.takeWhile_append_dropWhile,
      List.reverse_reverse]
  · simpa using List.all_eq_true.mp List.all_takeWhile c (List.mem_reverse.mp hc)

/-- and without those at its end. -/
private theorem isPlain_trimSlashes {p : Path} (h : IsPlain p) : IsPlain (trimSlashes p) := by
  obtain ⟨slashes, hp, hslashes⟩ := exists_trimSlashes p
  cases slashes with
  | nil =>
    rw [List.append_nil] at hp
    rwa [← hp]
  | cons c rest =>
    obtain rfl : c = '/' := hslashes c List.mem_cons_self
    rw [hp] at h
    exact (isPlain_append.mp h).1

/-- A plain path is plain in its canonical form. -/
theorem isPlain_canonical {p : Path} (h : IsPlain p) : IsPlain (canonical p) := by
  have htrimmed := isPlain_trimSlashes h.dropWhile
  exact isPlain_append (s := []).mpr ⟨by simp [IsPlain, Text.split, Text.splitWhere], htrimmed⟩

/-- A plain path is plain below the mounted cgroup too, whatever that is. -/
theorem isPlain_belowMountRoot {p : Path} (h : IsPlain p) (root : Path) :
    IsPlain (belowMountRoot root p) := by
  unfold belowMountRoot
  split
  · exact h
  · split
    · simp [IsPlain, Text.split, Text.splitWhere]
    · next rest hrest =>
      rw [Text.dropStart?_eq_some.mp hrest, isPlain_append] at h
      exact isPlain_append (s := []).mpr ⟨by simp [IsPlain, Text.split, Text.splitWhere], h.2⟩
    · exact h

/-- Only the root has nothing between slashes in its canonical form. -/
theorem items_canonical_ne_nil {p : Path} (h : canonical p ≠ ['/']) :
    Text.items '/' (canonical p) ≠ [] := by
  obtain ⟨slashes, hp, -⟩ := exists_trimSlashes (p.dropWhile (· == '/'))
  have hitems : Text.items '/' (canonical p) =
      Text.items '/' (trimSlashes (p.dropWhile (· == '/'))) :=
    Text.items_append '/' [] _
  rw [hitems]
  cases htrimmed : trimSlashes (p.dropWhile (· == '/')) with
  | nil => exact absurd (by rw [canonical, htrimmed]) h
  | cons c rest =>
    -- what is left starts with no slash, so its first piece is not empty
    have hc : c ≠ '/' := by
      have hhead := List.head?_dropWhile_not (· == '/') p
      rw [hp, htrimmed] at hhead
      simpa using hhead
    obtain ⟨first, pieces, hpieces⟩ :=
      List.exists_cons_of_ne_nil (Text.splitWhere_ne_nil (· == '/') rest)
    simp [Text.items, Text.split, Text.splitWhere, hpieces, hc]

namespace Locator

variable {locator : Locator} {pid : Nat} {entries : List Membership} {w : World}

/-- The path of a location begins with a slash. -/
theorem isAbsolute_location (locator : Locator) (mount : CgroupMount) (p : Path) :
    isAbsolute (locator.location mount p).path = true := rfl

/-- Where no path is given for all processes, a line with a plain path stands for a cgroup strictly
below the mount point, unless that is a root cgroup. -/
theorem isStrictlyBelow_location (hfixed : locator.fixedPath = none) {mount : CgroupMount}
    {p : Path} (hplain : IsPlain p) (hroot : (locator.location mount p).path ≠ ['/']) :
    (locator.location mount p).directory.IsStrictlyBelow mount.mountPoint := by
  have hpath : (locator.location mount p).path = canonical (belowMountRoot mount.root p) := by
    simp [location, hfixed]
  refine IsPlain.isStrictlyBelow ?_ (locator.isAbsolute_location mount p) ?_ _
  · rw [hpath]
    exact isPlain_canonical (isPlain_belowMountRoot hplain _)
  · rw [hpath] at hroot ⊢
    exact items_canonical_ne_nil hroot

/-- Where root cgroups are left out, no process is placed at the path of the root as it is written.
Its directories lie strictly below the mount points if its membership lines have plain paths; in
general one lies there exactly if its path leads below the mount point, which a path with `..` need
not do. -/
theorem locate_strictlyBelow_iff (hskip : locator.skipRoot = true)
    (hfixed : locator.fixedPath = none)
    (hentries : (locator.membership pid).outcome w = .ok entries)
    {placement : CgroupPlacement} (h : (locator.locate pid).outcome w = .ok placement)
    {location : CgroupLocation} (hlocation : placement.Has location) :
    location.path ≠ ['/'] ∧
    ((∀ e ∈ entries, IsPlain e.path) →
      location.directory.IsStrictlyBelow location.mountPoint) ∧
    (location.directory.IsStrictlyBelow location.mountPoint ↔
      LeadsBelow location.mountPoint.resolved (withoutRoot location.path).resolved) := by
  obtain ⟨entries', hentries', hplace⟩ := exists_entries_of_locate h
  obtain rfl : entries = entries' := Except.ok.inj (hentries.symm.trans hentries')
  obtain ⟨e, he, mount, rfl, hkept⟩ := exists_line_of_has hplace hlocation
  have hroot : (locator.location mount e.path).path ≠ ['/'] := fun hroot => hkept ⟨hskip, hroot⟩
  refine ⟨hroot, fun hplain => isStrictlyBelow_location hfixed (hplain e he) hroot, ?_⟩
  exact isStrictlyBelow_below (locator.isAbsolute_location mount e.path) _

section Climbing

open KernelSampler

/-- A unified hierarchy whose root is visible. -/
private def visibleRoot : Locator where
  rootfs := "/".toList
  mounts := { unified := some ⟨"/sys/fs/cgroup".toList, "/".toList⟩, subsystems := .empty }
  skipRoot := true
  fixedPath := none
  unifiedHasControllers := true

/-- Processes seen from within a cgroup namespace: one goes down by a detour, one is in the parent
of its root, and one in a sibling that is named like the mount point. -/
private def climbing : World := ⟨kernelTree [
  processFile 6 ["cgroup".toList] "0::/app/../job\n".toList,
  processFile 7 ["cgroup".toList] "0::/..\n".toList,
  processFile 8 ["cgroup".toList] "0::/../cgroup\n".toList], ⟨0⟩⟩

/-- The cgroup at a path of that hierarchy. -/
private def visible (path : Path) : CgroupLocation := ⟨"/sys/fs/cgroup".toList, path⟩

/-- A path that comes down again leads below the mount point. -/
theorem locate_strictlyBelow_iff_detour :
    (visibleRoot.membership 6).outcome climbing = .ok [⟨0, [], "/app/../job".toList⟩] ∧
    (visibleRoot.locate 6).outcome climbing = .ok (.v2 (visible "/app/../job".toList)) ∧
    (visible "/app/../job".toList).directory.IsStrictlyBelow "/sys/fs/cgroup".toList := by
  have hlines : (visibleRoot.membership 6).outcome climbing =
      .ok [⟨0, [], "/app/../job".toList⟩] := by decide +kernel
  have hplaced : (visibleRoot.locate 6).outcome climbing =
      .ok (.v2 (visible "/app/../job".toList)) := by decide +kernel
  obtain ⟨-, -, hbelow⟩ := locate_strictlyBelow_iff rfl rfl hlines hplaced rfl
  refine ⟨hlines, hplaced, hbelow.mpr ?_⟩
  exact ⟨0, _, [], ["job".toList], by simp, (List.append_nil _).symm, by decide +kernel, Or.inl rfl⟩

/-- The parent of the root and a cgroup named like the mount point are no root cgroups as they are
written. The directory of the first lies outside the hierarchy, that of the second is its root. -/
theorem locate_not_strictlyBelow_climbing :
    (visibleRoot.locate 7).outcome climbing = .ok (.v2 (visible "/..".toList)) ∧
    ¬ (visible "/..".toList).directory.IsStrictlyBelow "/sys/fs/cgroup".toList ∧
    (visibleRoot.locate 8).outcome climbing = .ok (.v2 (visible "/../cgroup".toList)) ∧
    (visible "/../cgroup".toList).directory.resolved = Path.resolved "/sys/fs/cgroup".toList := by
  refine ⟨by decide +kernel, fun hbelow => ?_, by decide +kernel, by decide +kernel⟩
  exact absurd hbelow.length_lt (by decide +kernel)

end Climbing

end Locator

end Cgroup

end ProcessMeter
