import Mathlib.Control.Monad.Basic
import ProcessMeter.Proofs.KernelSampler
import ProcessMeter.Proofs.TextMaps

/-!
# What the membership lines decide

The membership lines of a process decide together which version governs it and where its cgroups
are. Of several unified lines the first one counts. Of several lines for a subsystem the last one
counts whose cgroup is not left out, so a line in the root cgroup never hides an earlier one.
-/

namespace ProcessMeter

namespace Membership

/-- Some line is the one of the unified hierarchy. -/
def HasUnified (entries : List Membership) : Prop := ∃ e ∈ entries, e.isUnified = true

/-- Some line of an older hierarchy has a controller that is no named hierarchy. -/
def HasResource (entries : List Membership) : Prop :=
  ∃ e ∈ entries, e.isUnified = false ∧
    ∃ controller ∈ e.controllers, Text.startsWith "name=".toList controller = false

/-- The line is of an older hierarchy and names a subsystem. -/
def Lists (e : Membership) (name : Text) : Prop := e.isUnified = false ∧ name ∈ e.controllers

instance (e : Membership) (name : Text) : Decidable (e.Lists name) :=
  inferInstanceAs (Decidable (_ ∧ _))

end Membership

/-- A cgroup is one of those that a placement holds. -/
def CgroupPlacement.Has : CgroupPlacement → CgroupLocation → Prop
  | .v1 controllers, location => ∃ name, controllers.get? name = some location
  | .v2 unified, location => location = unified

namespace Cgroup

namespace Locator

variable {locator : Locator} {pid : Nat} {entries : List Membership} {w : World}

/-- A cgroup is left out: root cgroups are, and it is one. -/
def LeavesOut (locator : Locator) (location : CgroupLocation) : Prop :=
  locator.skipRoot = true ∧ location.path = ['/']

instance (locator : Locator) (location : CgroupLocation) : Decidable (locator.LeavesOut location) :=
  inferInstanceAs (Decidable (_ ∧ _))

/-- A line places a subsystem: it names it, the subsystem is mounted, and the cgroup that the path
of the line stands for is not left out. -/
def Places (locator : Locator) (name : Text) (e : Membership) (location : CgroupLocation) : Prop :=
  e.Lists name ∧ ∃ mount, locator.mounts.subsystems.get? name = some mount ∧
    location = locator.location mount e.path ∧ ¬ locator.LeavesOut location

/-- Of the lines that place a subsystem, the last one places it at `location`. -/
def PlacesLast (locator : Locator) (entries : List Membership) (name : Text)
    (location : CgroupLocation) : Prop :=
  ∃ older e newer, entries = older ++ e :: newer ∧ locator.Places name e location ∧
    ∀ later ∈ newer, ∀ other, ¬ locator.Places name later other

/-- What is skipped is what is to be left out. -/
theorem skips_eq_true {location : CgroupLocation} :
    locator.skips location = true ↔ locator.LeavesOut location := by
  simp [skips, LeavesOut]

/-- The cgroup at which a path places a subsystem. -/
private def placedAt? (locator : Locator) (name : Text) (path : Path) : Option CgroupLocation :=
  (locator.mounts.subsystems.get? name).bind fun mount =>
    let location := locator.location mount path
    if locator.skips location then none else some location

/-- The cgroup at which a line places a subsystem. -/
private def placed? (locator : Locator) (name : Text) (e : Membership) : Option CgroupLocation :=
  if e.Lists name then locator.placedAt? name e.path else none

/-- A line gives a location exactly if it places the subsystem there, -/
private theorem placed?_eq_some {name : Text} {e : Membership} {location : CgroupLocation} :
    locator.placed? name e = some location ↔ locator.Places name e location := by
  unfold placed? placedAt? Places
  by_cases hlists : e.Lists name
  · simp only [hlists, if_true, true_and, Option.bind_eq_some_iff]
    refine exists_congr fun mount => and_congr_right fun _ => ?_
    by_cases hskips : locator.skips (locator.location mount e.path) = true
    · rw [if_pos hskips]
      simp only [reduceCtorEq, false_iff]
      rintro ⟨rfl, hkept⟩
      exact hkept (skips_eq_true.mp hskips)
    · rw [if_neg hskips, Option.some.injEq]
      constructor
      · rintro rfl
        exact ⟨rfl, mt skips_eq_true.mpr hskips⟩
      · rintro ⟨rfl, -⟩
        rfl
  · simp [hlists]

/-- and none exactly if it places the subsystem nowhere. -/
private theorem placed?_eq_none {name : Text} {e : Membership} :
    locator.placed? name e = none ↔ ∀ location, ¬ locator.Places name e location := by
  simp only [Option.eq_none_iff_forall_ne_some, ne_eq, placed?_eq_some]

/-- The placed subsystems with one more pair of a name and a path. -/
private def placeOne (locator : Locator) (found : TextMap CgroupLocation) (pair : Text × Path) :
    TextMap CgroupLocation :=
  match locator.mounts.subsystems.get? pair.1 with
  | none => found
  | some mount =>
    let location := locator.location mount pair.2
    if locator.skips location then found else found.insert pair.1 location

/-- One more name with a path replaces the location of that name, if it has one. -/
private theorem get?_placeOne (found : TextMap CgroupLocation) (pair : Text × Path) (name : Text) :
    (locator.placeOne found pair).get? name =
      (if pair.1 = name then locator.placedAt? name pair.2 else none).or (found.get? name) := by
  obtain ⟨other, path⟩ := pair
  unfold placeOne placedAt?
  by_cases hname : other = name
  · subst hname
    cases locator.mounts.subsystems.get? other with
    | none => simp
    | some mount =>
      by_cases hskips : locator.skips (locator.location mount path) = true
      · simp [hskips]
      · simp [hskips, TextMap.get?_insert]
  · have hother : name ≠ other := Ne.symm hname
    cases locator.mounts.subsystems.get? other with
    | none => simp [hname]
    | some mount =>
      by_cases hskips : locator.skips (locator.location mount path) = true
      · simp [hskips, hname]
      · simp [hskips, hname, hother, TextMap.get?_insert]

/-- Of several pairs that place a subsystem the last one counts. -/
private theorem get?_foldl_placeOne (pairs : List (Text × Path)) (found : TextMap CgroupLocation)
    (name : Text) :
    (pairs.foldl locator.placeOne found).get? name =
      (pairs.reverse.findSome? fun pair =>
        if pair.1 = name then locator.placedAt? name pair.2 else none).or (found.get? name) := by
  induction pairs generalizing found with
  | nil => simp
  | cons pair rest ih =>
    rw [List.foldl_cons, ih, get?_placeOne, List.reverse_cons, List.findSome?_append,
      Option.or_assoc]
    simp

/-- A line names a subsystem with its own path, however often it does. -/
private theorem findSome?_line (controllers : List Text) (path : Path) (name : Text)
    (place : Path → Option CgroupLocation) :
    (controllers.map fun c => (c, path)).reverse.findSome? (fun pair =>
        if pair.1 = name then place pair.2 else none) =
      if name ∈ controllers then place path else none := by
  induction controllers with
  | nil => simp
  | cons c rest ih =>
    rw [List.map_cons, List.reverse_cons, List.findSome?_append, ih]
    by_cases hrest : name ∈ rest
    · by_cases hc : c = name
      · simp [hrest, hc]
      · simp [hrest, hc]
    · by_cases hc : c = name
      · simp [hrest, hc]
      · have hother : name ≠ c := Ne.symm hc
        simp [hrest, hc, hother]

/-- The pairs of all lines are searched line by line. -/
private theorem findSome?_subsystemPaths (entries : List Membership) (name : Text) :
    ((subsystemPaths entries).reverse.findSome? fun pair =>
        if pair.1 = name then locator.placedAt? name pair.2 else none) =
      entries.reverse.findSome? (locator.placed? name) := by
  induction entries with
  | nil => rfl
  | cons e rest ih =>
    have hline : (subsystemPaths (e :: rest)) =
        (if e.isUnified then [] else e.controllers.map fun c => (c, e.path)) ++
          subsystemPaths rest := by
      unfold subsystemPaths
      by_cases hunified : e.isUnified = true
      · simp [hunified]
      · simp [hunified]
    rw [hline, List.reverse_append, List.findSome?_append, ih, List.reverse_cons,
      List.findSome?_append]
    congr 1
    by_cases hunified : e.isUnified = true
    · simp [hunified, placed?, Membership.Lists]
    · rw [if_neg hunified, findSome?_line]
      simp [hunified, placed?, Membership.Lists]

/-- A subsystem is where the last line that places it does so. -/
private theorem get?_placeSubsystems_eq (entries : List Membership) (name : Text) :
    (locator.placeSubsystems (subsystemPaths entries)).get? name =
      entries.reverse.findSome? (locator.placed? name) := by
  rw [← findSome?_subsystemPaths, ← Option.or_none (o := List.findSome? _ _)]
  exact get?_foldl_placeOne (subsystemPaths entries) .empty name

/-- A subsystem is placed exactly if some line places it. -/
theorem isSome_get?_placeSubsystems {name : Text} :
    ((locator.placeSubsystems (subsystemPaths entries)).get? name).isSome = true ↔
      ∃ e ∈ entries, ∃ location, locator.Places name e location := by
  rw [get?_placeSubsystems_eq, List.findSome?_isSome_iff]
  refine exists_congr fun e => and_congr List.mem_reverse ?_
  rw [Option.isSome_iff_exists]
  exact exists_congr fun location => placed?_eq_some

/-- A subsystem is placed at a cgroup exactly if that is where the last of the lines that place it
does. -/
theorem get?_placeSubsystems {name : Text} {location : CgroupLocation} :
    (locator.placeSubsystems (subsystemPaths entries)).get? name = some location ↔
      locator.PlacesLast entries name location := by
  rw [get?_placeSubsystems_eq, List.findSome?_eq_some_iff]
  constructor
  · rintro ⟨newer, e, older, hentries, he, hnewer⟩
    refine ⟨older.reverse, e, newer.reverse, ?_, placed?_eq_some.mp he, fun later hlater => ?_⟩
    · simpa using congrArg List.reverse hentries
    · exact placed?_eq_none.mp (hnewer later (List.mem_reverse.mp hlater))
  · rintro ⟨older, e, newer, rfl, he, hnewer⟩
    refine ⟨newer.reverse, e, older.reverse, by simp, placed?_eq_some.mpr he,
      fun later hlater => ?_⟩
    exact placed?_eq_none.mpr (hnewer later (List.mem_reverse.mp hlater))

/-- Something is placed exactly if some line places some subsystem. -/
theorem isEmpty_placeSubsystems :
    (locator.placeSubsystems (subsystemPaths entries)).isEmpty = false ↔
      ∃ e ∈ entries, ∃ name location, locator.Places name e location := by
  simp only [TextMap.isEmpty_eq_false_iff, isSome_get?_placeSubsystems]
  constructor
  · rintro ⟨name, e, he, location, h⟩
    exact ⟨e, he, name, location, h⟩
  · rintro ⟨e, he, name, location, h⟩
    exact ⟨name, e, he, location, h⟩

/-- Nothing is found where no line places a subsystem. -/
private theorem isEmpty_placeSubsystems_of_none
    (hnone : ∀ e ∈ entries, ∀ name location, ¬ locator.Places name e location) :
    (locator.placeSubsystems (subsystemPaths entries)).isEmpty = true := by
  refine (Bool.not_eq_false _).mp fun h => ?_
  obtain ⟨e, he, name, location, hplaces⟩ := isEmpty_placeSubsystems.mp h
  exact hnone e he name location hplaces

/-- The names with their paths are those that the lines list. -/
theorem mem_subsystemPaths {name : Text} {path : Path} :
    (name, path) ∈ subsystemPaths entries ↔ ∃ e ∈ entries, e.Lists name ∧ e.path = path := by
  simp only [subsystemPaths, List.mem_flatMap, List.mem_filter, List.mem_map, Prod.mk.injEq,
    Membership.Lists]
  constructor
  · rintro ⟨e, ⟨he, hlegacy⟩, c, hc, rfl, rfl⟩
    exact ⟨e, he, ⟨by simpa using hlegacy, hc⟩, rfl⟩
  · rintro ⟨e, he, ⟨hlegacy, hname⟩, rfl⟩
    exact ⟨e, ⟨he, by simpa using hlegacy⟩, name, hname, rfl, rfl⟩

/-- If no line places a subsystem, some subsystem is left out exactly if a line names a mounted
one. -/
private theorem skipsSome_eq_true
    (hnone : ∀ e ∈ entries, ∀ name location, ¬ locator.Places name e location) :
    locator.skipsSome (subsystemPaths entries) = true ↔
      ∃ e ∈ entries, ∃ name, e.Lists name ∧
        (locator.mounts.subsystems.get? name).isSome = true := by
  rw [skipsSome, List.any_eq_true]
  constructor
  · rintro ⟨⟨name, path⟩, hpair, hskips⟩
    obtain ⟨e, he, hlists, rfl⟩ := mem_subsystemPaths.mp hpair
    refine ⟨e, he, name, hlists, ?_⟩
    cases hmount : locator.mounts.subsystems.get? name with
    | none => simp [hmount] at hskips
    | some mount => rfl
  · rintro ⟨e, he, name, hlists, hmounted⟩
    obtain ⟨mount, hmount⟩ := Option.isSome_iff_exists.mp hmounted
    refine ⟨(name, e.path), mem_subsystemPaths.mpr ⟨e, he, hlists, rfl⟩, ?_⟩
    simp only [hmount]
    -- a mounted subsystem that is not left out would be placed
    refine Classical.byContradiction fun hkept => ?_
    exact hnone e he name _ ⟨hlists, mount, hmount, rfl, mt skips_eq_true.mpr hkept⟩

/-- The test for a line of the unified hierarchy finds one exactly if there is one. -/
private theorem any_isUnified :
    entries.any Membership.isUnified = true ↔ Membership.HasUnified entries := by
  simp [Membership.HasUnified]

/-- The test for a subsystem that accounts for a resource finds one exactly if there is one. -/
private theorem any_accountsForResource :
    (entries.any fun e => !e.isUnified && e.accountsForResource) = true ↔
      Membership.HasResource entries := by
  simp [Membership.HasResource, Membership.accountsForResource]

/-- A process is in both kinds of hierarchy exactly if it has lines of both, and the unified one has
controllers. -/
theorem version_eq_hybrid : locator.version entries = .hybrid ↔
    Membership.HasUnified entries ∧ Membership.HasResource entries ∧
      locator.unifiedHasControllers = true := by
  rw [version, ← any_isUnified, ← any_accountsForResource]
  cases entries.any Membership.isUnified <;>
    cases entries.any (fun e => !e.isUnified && e.accountsForResource) <;>
      cases locator.unifiedHasControllers <;> simp

/-- A process is in version 2 exactly if it has a unified line, and no other one accounts for a
resource. -/
theorem version_eq_v2 : locator.version entries = .v2 ↔
    Membership.HasUnified entries ∧ ¬ Membership.HasResource entries := by
  rw [version, ← any_isUnified, ← any_accountsForResource]
  cases entries.any Membership.isUnified <;>
    cases entries.any (fun e => !e.isUnified && e.accountsForResource) <;>
      cases locator.unifiedHasControllers <;> simp

/-- In the unified hierarchy the first unified line places the process. -/
private theorem placeUnified_eq (pid : Nat) {mount : CgroupMount}
    (hmount : locator.mounts.unified = some mount) (hunified : Membership.HasUnified entries) :
    ∃ older e newer, entries = older ++ e :: newer ∧ e.isUnified = true ∧
      (∀ earlier ∈ older, earlier.isUnified = false) ∧
      locator.placeUnified pid entries =
        if locator.LeavesOut (locator.location mount e.path) then .error (.inRoot pid ['/'])
        else .ok (.v2 (locator.location mount e.path)) := by
  obtain ⟨e, hfirst⟩ := Option.isSome_iff_exists.mp (List.find?_isSome.mpr hunified)
  obtain ⟨he, older, newer, hentries, holder⟩ := List.find?_eq_some_iff_append.mp hfirst
  refine ⟨older, e, newer, hentries, he, fun earlier hearlier => ?_, ?_⟩
  · simpa using holder earlier hearlier
  · simp only [placeUnified, hmount, hfirst, skips_eq_true]
    split
    · next hroot => rw [hroot.2]
    · rfl

/-- Only the version makes a placement fail for being in both kinds of hierarchies. -/
private theorem place_eq_hybrid :
    locator.place pid entries = .error (.hybrid pid) ↔ locator.version entries = .hybrid := by
  unfold place
  cases locator.version entries with
  | hybrid => simp
  | v2 =>
    simp only [placeUnified, reduceCtorEq, iff_false]
    cases locator.mounts.unified with
    | none => simp
    | some mount =>
      cases entries.find? Membership.isUnified with
      | none => dsimp only; split <;> simp
      | some e => dsimp only; split <;> simp
  | v1 =>
    simp only [placeLegacy, reduceCtorEq, iff_false]
    split
    · simp
    · split
      · simp
      · simp

/-- Noting subsystems without a mount succeeds. -/
theorem outcome_noteUnmounted (paths : List (Text × Path)) :
    (locator.noteUnmounted paths).outcome w = .ok () := by
  induction paths with
  | nil => rfl
  | cons path rest ih =>
    obtain ⟨name, place⟩ := path
    rw [noteUnmounted]
    split
    · rw [Probe.outcome_bind_of_ok (Probe.outcome_log w _ _), ih]
    · exact ih

/-- A process whose membership can be read is placed by its membership lines alone. -/
theorem outcome_locate (h : (locator.membership pid).outcome w = .ok entries) :
    (locator.locate pid).outcome w = (locator.place pid entries).mapError .failed := by
  rw [locate, Probe.outcome_bind_of_ok h]
  dsimp only
  split
  · rw [Probe.outcome_bind_of_ok (outcome_noteUnmounted _), Probe.outcome_ofExcept]
  · exact Probe.outcome_ofExcept w _

/-- A process that is placed has a membership that can be read. -/
theorem exists_entries_of_locate {placement : CgroupPlacement}
    (h : (locator.locate pid).outcome w = .ok placement) :
    ∃ entries, (locator.membership pid).outcome w = .ok entries ∧
      locator.place pid entries = .ok placement := by
  obtain ⟨entries, hentries, -⟩ := Probe.outcome_bind_eq_ok.mp h
  refine ⟨entries, hentries, ?_⟩
  rw [outcome_locate hentries] at h
  cases hplace : locator.place pid entries with
  | error failure => simp [hplace] at h
  | ok found => simpa [hplace] using h

/-- How the membership lines of a process decide where its cgroups are. -/
structure DecidedBy (locator : Locator) (pid : Nat) (entries : List Membership)
    (result : Except (Fault CgroupFailure) CgroupPlacement) : Prop where
  /-- Both versions govern the process if there are lines of both, and the unified hierarchy has
  controllers. -/
  versionHybrid : locator.version entries = .hybrid ↔
    Membership.HasUnified entries ∧ Membership.HasResource entries ∧
      locator.unifiedHasControllers = true
  /-- Version 2 governs it if there is a unified line and no resource in an older hierarchy. In all
  remaining cases it is version 1. -/
  versionUnified : locator.version entries = .v2 ↔
    Membership.HasUnified entries ∧ ¬ Membership.HasResource entries
  /-- A process that both versions govern is refused, and no other one for that reason. -/
  hybrid : result = .error (.failed (.hybrid pid)) ↔ locator.version entries = .hybrid
  /-- Nothing is found in a unified hierarchy that is not mounted. -/
  unifiedUnmounted : locator.version entries = .v2 → locator.mounts.unified = none →
    result = .error (.failed (.notMounted "cgroup2".toList))
  /-- In a mounted unified hierarchy the first unified line counts. -/
  unified : locator.version entries = .v2 → ∀ mount, locator.mounts.unified = some mount →
    ∃ older e newer, entries = older ++ e :: newer ∧ e.isUnified = true ∧
      (∀ earlier ∈ older, earlier.isUnified = false) ∧
      result =
        if locator.LeavesOut (locator.location mount e.path) then
          .error (.failed (.inRoot pid ['/']))
        else .ok (.v2 (locator.location mount e.path))
  /-- In the older hierarchies exactly the subsystems are found that some line places, each where
  the last of these lines places it. -/
  legacy : locator.version entries = .v1 →
    (∃ e ∈ entries, ∃ name location, locator.Places name e location) →
    ∃ controllers : TextMap CgroupLocation, result = .ok (.v1 controllers) ∧
      (∀ name, (controllers.get? name).isSome = true ↔
        ∃ e ∈ entries, ∃ location, locator.Places name e location) ∧
      ∀ name location, controllers.get? name = some location ↔
        locator.PlacesLast entries name location
  /-- If no line places a subsystem, but some line names a mounted one, that one is left out. -/
  legacyRoot : locator.version entries = .v1 →
    (∀ e ∈ entries, ∀ name location, ¬ locator.Places name e location) →
    (∃ e ∈ entries, ∃ name, e.Lists name ∧ (locator.mounts.subsystems.get? name).isSome = true) →
    result = .error (.failed (.inRoot pid ['/']))
  /-- If no line names a mounted subsystem, nothing is found. -/
  legacyUnmounted : locator.version entries = .v1 →
    (∀ e ∈ entries, ∀ name, e.Lists name → locator.mounts.subsystems.get? name = none) →
    result = .error (.failed (.notMounted "cgroup".toList))

/-- The membership lines of a process decide where its cgroups are. -/
theorem place_decidedBy (locator : Locator) (pid : Nat) (entries : List Membership) :
    locator.DecidedBy pid entries ((locator.place pid entries).mapError .failed) where
  versionHybrid := version_eq_hybrid
  versionUnified := version_eq_v2
  hybrid := by
    rw [← place_eq_hybrid]
    cases locator.place pid entries <;> simp
  unifiedUnmounted hversion hmount := by
    simp [place, hversion, placeUnified, hmount]
  unified hversion mount hmount := by
    obtain ⟨older, e, newer, hentries, he, holder, hplace⟩ :=
      placeUnified_eq pid hmount (version_eq_v2.mp hversion).1
    refine ⟨older, e, newer, hentries, he, holder, ?_⟩
    rw [place, hversion]
    dsimp only
    rw [hplace]
    split <;> rfl
  legacy hversion hplaced := by
    have hempty := isEmpty_placeSubsystems.mpr hplaced
    refine ⟨locator.placeSubsystems (subsystemPaths entries), ?_,
      fun name => isSome_get?_placeSubsystems, fun name location => get?_placeSubsystems⟩
    simp [place, hversion, placeLegacy, hempty]
  legacyRoot hversion hnone hlisted := by
    have hempty := isEmpty_placeSubsystems_of_none hnone
    have hskips := (skipsSome_eq_true hnone).mpr hlisted
    simp [place, hversion, placeLegacy, hempty, hskips]
  legacyUnmounted hversion hunmounted := by
    have hnone : ∀ e ∈ entries, ∀ name location, ¬ locator.Places name e location := by
      rintro e he name location ⟨hlists, mount, hmount, -⟩
      simp [hunmounted e he name hlists] at hmount
    have hempty := isEmpty_placeSubsystems_of_none hnone
    have hskips : locator.skipsSome (subsystemPaths entries) = false := by
      refine (Bool.not_eq_true _).mp fun h => ?_
      obtain ⟨e, he, name, hlists, hmounted⟩ := (skipsSome_eq_true hnone).mp h
      simp [hunmounted e he name hlists] at hmounted
    simp [place, hversion, placeLegacy, hempty, hskips]

/-- A placement is made of the lines for its version. -/
theorem place_eq_ok {placement : CgroupPlacement}
    (h : locator.place pid entries = .ok placement) :
    (locator.version entries = .v1 ∧
        placement = .v1 (locator.placeSubsystems (subsystemPaths entries))) ∨
      (locator.version entries = .v2 ∧ ∃ e ∈ entries, ∃ mount,
        locator.mounts.unified = some mount ∧
        ¬ locator.LeavesOut (locator.location mount e.path) ∧
        placement = .v2 (locator.location mount e.path)) := by
  have hdecided := place_decidedBy locator pid entries
  cases hversion : locator.version entries with
  | hybrid => simp [place, hversion] at h
  | v1 =>
    simp only [place, hversion, placeLegacy] at h
    split at h
    · exact Or.inl ⟨rfl, (Except.ok.inj h).symm⟩
    · split at h <;> cases h
  | v2 =>
    rw [h] at hdecided
    cases hmount : locator.mounts.unified with
    | none => exact nomatch hdecided.unifiedUnmounted hversion hmount
    | some mount =>
      obtain ⟨older, e, newer, rfl, -, -, hresult⟩ := hdecided.unified hversion mount hmount
      split at hresult
      · cases hresult
      · next hkept =>
        exact Or.inr ⟨rfl, e, by simp, mount, rfl, hkept, Except.ok.inj hresult⟩

/-- Every cgroup of a placement is what the path of a membership line stands for in a mounted
hierarchy, and it is not left out. -/
theorem exists_line_of_has {placement : CgroupPlacement} {location : CgroupLocation}
    (h : locator.place pid entries = .ok placement) (hlocation : placement.Has location) :
    ∃ e ∈ entries, ∃ mount, location = locator.location mount e.path ∧
      ¬ locator.LeavesOut location := by
  rcases place_eq_ok h with ⟨-, rfl⟩ | ⟨-, e, he, mount, -, hkept, rfl⟩
  · obtain ⟨name, hname⟩ := hlocation
    obtain ⟨older, e, newer, rfl, ⟨-, mount, -, hmount, hkept⟩, -⟩ :=
      get?_placeSubsystems.mp hname
    exact ⟨e, by simp, mount, hmount, hkept⟩
  · obtain rfl : location = locator.location mount e.path := hlocation
    exact ⟨e, he, mount, rfl, hkept⟩

/-- A process whose membership can be read is placed as its membership lines decide. -/
theorem locate_decidedBy (h : (locator.membership pid).outcome w = .ok entries) :
    locator.DecidedBy pid entries ((locator.locate pid).outcome w) := by
  rw [outcome_locate h]
  exact place_decidedBy locator pid entries

section Mixed

open KernelSampler

/-- Lines of both kinds: `cpu` is listed three times and is once in the root cgroup, `pids` is not
mounted, and `memory` ends in the root cgroup. -/
private def mixedLines : List Membership := [
  ⟨12, ["cpu".toList, "memory".toList], "/a".toList⟩, ⟨11, ["cpu".toList], "/b".toList⟩,
  ⟨10, ["pids".toList], "/p".toList⟩, ⟨9, ["cpu".toList], "/".toList⟩,
  ⟨3, ["memory".toList], "/".toList⟩, ⟨0, [], "/u".toList⟩]

/-- Where these lines are read, next to a unified hierarchy without controllers. -/
private def mixedLocator : Locator where
  rootfs := "/".toList
  mounts := {
    unified := some ⟨"/cg/unified".toList, "/".toList⟩
    subsystems := .ofList [("cpu".toList, ⟨"/cg/cpu".toList, "/".toList⟩),
      ("memory".toList, ⟨"/cg/memory".toList, "/".toList⟩)] }
  skipRoot := true
  fixedPath := none
  unifiedHasControllers := false

private def mixedWorld : World := ⟨kernelTree [processFile 7 ["cgroup".toList]
  "12:cpu,memory:/a\n11:cpu:/b\n10:pids:/p\n9:cpu:/\n3:memory:/\n0::/u\n".toList], ⟨0⟩⟩

/-- Without controllers in the unified hierarchy such lines decide for the older hierarchies. -/
theorem locate_decidedBy_mixed :
    (mixedLocator.membership 7).outcome mixedWorld = .ok mixedLines ∧
      mixedLocator.DecidedBy 7 mixedLines ((mixedLocator.locate 7).outcome mixedWorld) := by
  have hlines : (mixedLocator.membership 7).outcome mixedWorld = .ok mixedLines := by
    decide +kernel
  exact ⟨hlines, locate_decidedBy hlines⟩

/-- There `cpu` keeps the cgroup of its last line that is not in the root cgroup. -/
example : (mixedLocator.place 7 mixedLines).toOption.bind (fun p => p.subsystem? "cpu".toList) =
    some ⟨"/cg/cpu".toList, "/b".toList⟩ := by
  decide +kernel

end Mixed

end Locator

end Cgroup

end ProcessMeter
