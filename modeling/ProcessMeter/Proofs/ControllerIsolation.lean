import ProcessMeter.Proofs.ControllerReads
import ProcessMeter.Proofs.CountersOverflow
import ProcessMeter.Proofs.Placement

/-!
# Controllers do not interfere with each other

Where the cgroup of a process is depends on its membership file alone. Once it is found, the reading
succeeds whatever the files of the controllers hold, and each controller is reported from its own
files: they decide whether it is there, and what it says.
-/

namespace ProcessMeter

open Probe Cgroup

/-- What a controller reports, if it is of this version and could be read. -/
def Controllers.report? : (c : Controller) → Controllers → Option c.Report
  | .legacyCpu, .v1 controllers => controllers.cpu
  | .legacyCpuTime, .v1 controllers => controllers.cpuTime
  | .legacyMemory, .v1 controllers => controllers.memory
  | .legacyBlockIo, .v1 controllers => controllers.blockIo
  | .legacyPids, .v1 controllers => controllers.pids
  | .unifiedCpu, .v2 controllers => controllers.cpu
  | .unifiedMemory, .v2 controllers => controllers.memory
  | .unifiedIo, .v2 controllers => controllers.io
  | .unifiedPids, .v2 controllers => controllers.pids
  | _, _ => none

namespace Cgroup

namespace Controller

/-- The subsystem that a controller of version 1 is. -/
def subsystem? : Controller → Option String
  | .legacyCpu => some "cpu"
  | .legacyCpuTime => some "cpuacct"
  | .legacyMemory => some "memory"
  | .legacyBlockIo => some "blkio"
  | .legacyPids => some "pids"
  | .unifiedCpu | .unifiedMemory | .unifiedIo | .unifiedPids => none

/-- The directory of a controller, if it is placed. -/
def directory? (c : Controller) (placement : CgroupPlacement) : Option Path :=
  match c.subsystem?, placement with
  | some name, .v1 _ => (placement.subsystem? name.toList).map CgroupLocation.directory
  | none, .v2 location => some location.directory
  | _, _ => none

/-- Only block devices of version 1 can overflow. -/
theorem read_neverOverflows {c : Controller} (hc : c ≠ .legacyBlockIo) (units : HostUnits)
    (names : DeviceDirectory) (directory : Path) :
    (c.read units names directory).NeverOverflows := by
  cases c with
  | legacyCpu => exact Legacy.Cpu.read_neverOverflows directory
  | legacyCpuTime => exact Legacy.CpuTime.read_neverOverflows directory units
  | legacyMemory => exact Legacy.Memory.read_neverOverflows directory
  | legacyBlockIo => exact absurd rfl hc
  | legacyPids => exact PidsStat.read_neverOverflows directory
  | unifiedCpu => exact Unified.Cpu.read_neverOverflows directory
  | unifiedMemory => exact Unified.Memory.read_neverOverflows directory
  | unifiedIo => exact Unified.Io.read_neverOverflows directory names
  | unifiedPids => exact PidsStat.read_neverOverflows directory

end Controller

/-- A controller that does not overflow is left out exactly if its reading fails. -/
theorem outcome_optional_of_fits {ε α : Type} {controller : Probe PathFailure α} {w : World}
    (h : controller.outcome w ≠ .error .overflow) :
    (optional controller : Probe ε (Option α)).outcome w =
      .ok (controller.outcome w).toOption := by
  rw [outcome_optional]
  rcases hcontroller : controller.outcome w with (failure | _) | a
  · rfl
  · exact absurd hcontroller h
  · rfl

/-- Finding the cgroup of a process depends on its membership file only. -/
theorem Locator.locate_endsAlike {locator : Locator} {pid : Nat} {w w' : World}
    (h : w.files.openFile (locator.membershipFile pid) =
      w'.files.openFile (locator.membershipFile pid)) : (locator.locate pid).EndsAlike w w' := by
  refine ((Stat.read_endsAlike h _).mapFailure _).bind fun entries => ?_
  have hnote : (locator.noteUnmounted (subsystemPaths entries)).EndsAlike w w' :=
    (outcome_noteUnmounted _).trans (outcome_noteUnmounted _).symm
  dsimp only
  split
  · exact hnote.bind fun _ => endsAlike_ofExcept _
  · exact endsAlike_ofExcept _

namespace Accounting

variable {accounting : Accounting} {pid : Nat} {w w' : World} {placement : CgroupPlacement}

/-- A controller as it is read in its directory, if it is placed and can be read. -/
def found (accounting : Accounting) (placement : CgroupPlacement) (w : World) (c : Controller) :
    Option c.Report :=
  (c.directory? placement).bind fun directory =>
    ((c.read accounting.units accounting.devices directory).outcome w).toOption

/-- No controller overflows where it is placed. -/
private def Fits (accounting : Accounting) (placement : CgroupPlacement) (w : World) : Prop :=
  ∀ (c : Controller) (directory : Path), c.directory? placement = some directory →
    (c.read accounting.units accounting.devices directory).outcome w ≠ .error .overflow

/-- The sums over block devices are all that can keep the controllers from fitting. -/
private theorem fits_of_locate
    (hlocate : (accounting.locator.locate pid).outcome w = .ok placement)
    (h : ¬ accounting.BlockIoOverflows pid w) : accounting.Fits placement w := by
  intro c directory hdirectory
  by_cases hc : c = .legacyBlockIo
  · subst hc
    cases placement with
    | v2 location => simp [Controller.directory?, Controller.subsystem?] at hdirectory
    | v1 controllers =>
      obtain ⟨location, hlocation, rfl⟩ := Option.map_eq_some_iff.mp hdirectory
      intro hread
      obtain ⟨bytes, operations, hsums⟩ := Legacy.BlockIo.outcome_read_eq_overflow.mp hread
      exact h ⟨_, location, bytes, operations, hlocate, hlocation, hsums⟩
  · exact Controller.read_neverOverflows hc accounting.units accounting.devices directory w

/-- A subsystem that fits is found or left out. -/
private theorem outcome_subsystem {ε : Type} {controllers : TextMap CgroupLocation}
    (hfits : accounting.Fits (.v1 controllers) w) (c : Controller) {name : String}
    (hname : c.subsystem? = some name) :
    (subsystem (.v1 controllers) name fun directory =>
      c.read accounting.units accounting.devices directory : Probe ε (Option c.Report)).outcome w =
        .ok (accounting.found (.v1 controllers) w c) := by
  have hdirectory : c.directory? (.v1 controllers) =
      (controllers.get? name.toList).map CgroupLocation.directory := by
    simp [Controller.directory?, hname, CgroupPlacement.subsystem?]
  rw [found, hdirectory, subsystem, CgroupPlacement.subsystem?]
  cases hlocation : controllers.get? name.toList with
  | none => rfl
  | some location =>
    exact outcome_optional_of_fits (hfits c _ (by rw [hdirectory, hlocation]; rfl))

/-- A reading shows where a process is placed and what its controllers report. -/
structure Shows (accounting : Accounting) (placement : CgroupPlacement) (w : World)
    (reading : CgroupReading) : Prop where
  /-- The path that stands for the placement. -/
  path : reading.path = placement.path
  /-- The version of the placement. -/
  version : reading.version = placement.version
  /-- The controllers are of this version. -/
  controllers : reading.controllers.version = placement.version
  /-- There is no usage without an earlier reading. -/
  cpuUsage : reading.cpuUsage = none
  /-- Each controller is as it is found in its directory. -/
  reports (c : Controller) : reading.controllers.report? c = accounting.found placement w c

/-- The subsystems of version 1 are read one by one. -/
private theorem exists_reading_legacy {ε : Type} {controllers : TextMap CgroupLocation}
    (hfits : accounting.Fits (.v1 controllers) w) :
    ∃ reading, (accounting.readLegacy (.v1 controllers) : Probe ε CgroupReading).outcome w =
      .ok reading ∧ accounting.Shows (.v1 controllers) w reading := by
  refine ⟨.ofControllers (CgroupPlacement.v1 controllers).path (.v1 {
    cpu := accounting.found (.v1 controllers) w .legacyCpu
    cpuTime := accounting.found (.v1 controllers) w .legacyCpuTime
    memory := accounting.found (.v1 controllers) w .legacyMemory
    blockIo := accounting.found (.v1 controllers) w .legacyBlockIo
    pids := accounting.found (.v1 controllers) w .legacyPids }),
    ?_, rfl, rfl, rfl, rfl, fun c => ?_⟩
  · refine (outcome_bind_of_ok (outcome_subsystem hfits .legacyCpu rfl) _).trans ?_
    refine (outcome_bind_of_ok (outcome_subsystem hfits .legacyCpuTime rfl) _).trans ?_
    refine (outcome_bind_of_ok (outcome_subsystem hfits .legacyMemory rfl) _).trans ?_
    refine (outcome_bind_of_ok (outcome_subsystem hfits .legacyBlockIo rfl) _).trans ?_
    exact outcome_bind_of_ok (outcome_subsystem hfits .legacyPids rfl) _
  · cases c <;> rfl

/-- The controllers of version 2 are read one by one. -/
private theorem exists_reading_unified {ε : Type} {location : CgroupLocation}
    (hfits : accounting.Fits (.v2 location) w) :
    ∃ reading, (accounting.readUnified location : Probe ε CgroupReading).outcome w =
      .ok reading ∧ accounting.Shows (.v2 location) w reading := by
  refine ⟨.ofControllers location.path (.v2 {
    cpu := accounting.found (.v2 location) w .unifiedCpu
    memory := accounting.found (.v2 location) w .unifiedMemory
    io := accounting.found (.v2 location) w .unifiedIo
    pids := accounting.found (.v2 location) w .unifiedPids }),
    ?_, rfl, rfl, rfl, rfl, fun c => ?_⟩
  · refine (outcome_bind_of_ok (outcome_optional_of_fits (hfits .unifiedCpu _ rfl)) _).trans ?_
    refine (outcome_bind_of_ok (outcome_optional_of_fits (hfits .unifiedMemory _ rfl)) _).trans ?_
    refine (outcome_bind_of_ok (outcome_optional_of_fits (hfits .unifiedIo _ rfl)) _).trans ?_
    exact outcome_bind_of_ok (outcome_optional_of_fits (hfits .unifiedPids _ rfl)) _
  · cases c <;> rfl

/-- A process that is placed is read. -/
theorem exists_reading_of_locate
    (hlocate : (accounting.locator.locate pid).outcome w = .ok placement)
    (h : ¬ accounting.BlockIoOverflows pid w) :
    ∃ reading, (accounting.read pid).outcome w = .ok reading ∧
      accounting.Shows placement w reading := by
  have hfits := fits_of_locate hlocate h
  cases placement with
  | v1 controllers =>
    obtain ⟨reading, hreading, hshows⟩ := exists_reading_legacy hfits
    refine ⟨reading, ?_, hshows⟩
    rw [read, outcome_bind_of_ok hlocate]
    exact (outcome_bind_of_ok hreading _).trans (outcome_bind_of_ok (outcome_log w _ _) _)
  | v2 location =>
    obtain ⟨reading, hreading, hshows⟩ := exists_reading_unified hfits
    refine ⟨reading, ?_, hshows⟩
    rw [read, outcome_bind_of_ok hlocate]
    exact (outcome_bind_of_ok hreading _).trans (outcome_bind_of_ok (outcome_log w _ _) _)

/-- A reading shows the placement of its process. -/
theorem shows_of_read {reading : CgroupReading}
    (hread : (accounting.read pid).outcome w = .ok reading) :
    ∃ placement, (accounting.locator.locate pid).outcome w = .ok placement ∧
      accounting.Shows placement w reading := by
  obtain ⟨placement, hlocate, -⟩ := outcome_bind_eq_ok.mp hread
  have hfits : ¬ accounting.BlockIoOverflows pid w := by
    rw [← outcome_read_eq_overflow, hread]
    nofun
  obtain ⟨reading', hread', hshows⟩ := exists_reading_of_locate hlocate hfits
  obtain rfl : reading' = reading := Except.ok.inj (hread'.symm.trans hread)
  exact ⟨placement, hlocate, hshows⟩

/-- Unless its block devices overflow, a process is read exactly if it can be placed. -/
theorem succeeds_read (h : ¬ accounting.BlockIoOverflows pid w) :
    (accounting.read pid).Succeeds w ↔ (accounting.locator.locate pid).Succeeds w := by
  constructor
  · rintro ⟨reading, hread⟩
    obtain ⟨placement, hlocate, -⟩ := shows_of_read hread
    exact ⟨placement, hlocate⟩
  · rintro ⟨placement, hlocate⟩
    obtain ⟨reading, hread, -⟩ := exists_reading_of_locate hlocate h
    exact ⟨reading, hread⟩

/-- A controller is found exactly if it is placed and its files are all met. -/
private theorem isSome_found (hfits : accounting.Fits placement w) (c : Controller) :
    (accounting.found placement w c).isSome = true ↔
      ∃ directory, c.directory? placement = some directory ∧
        ∀ use ∈ c.uses accounting.units, use.Met w.files directory := by
  unfold found
  cases hdirectory : c.directory? placement with
  | none => simp
  | some directory =>
    have hread := (c.reads accounting.units accounting.devices directory).not_fails_iff w
    have hnever := hfits c directory hdirectory
    simp only [Option.bind_some, Option.some.injEq, exists_eq_left', ← hread]
    rcases h : (c.read accounting.units accounting.devices directory).outcome w with
      (failure | _) | report
    · simp [Fails, h, Except.toOption]
    · exact absurd h hnever
    · simp [Fails, h, Except.toOption]

/-- A controller is found alike where its own files are the same. -/
private theorem found_eq {c : Controller}
    (hfiles : ∀ directory, c.directory? placement = some directory →
      AgreeOn (c.uses accounting.units) directory w.files w'.files)
    (hdevices : (c.devices accounting.devices).AgreesOn w.files w'.files) :
    accounting.found placement w c = accounting.found placement w' c := by
  unfold found
  cases hdirectory : c.directory? placement with
  | none => rfl
  | some directory =>
    have halike := (c.reads accounting.units accounting.devices directory).endsAlike hdevices
      (hfiles directory hdirectory)
    rw [Option.bind_some, Option.bind_some, halike]

/-- A process is read exactly if it can be placed, which is a matter of its membership file: no file
of a controller can prevent it. Each controller is there exactly if it is placed and each of its
files is met. It reports the same at two worlds that agree on its own files, and on the directory of
devices if it consults that, whatever is different in other files. -/
theorem read_isolated
    (hmembership : w.files.openFile (accounting.locator.membershipFile pid) =
      w'.files.openFile (accounting.locator.membershipFile pid))
    (h : ¬ accounting.BlockIoOverflows pid w) (h' : ¬ accounting.BlockIoOverflows pid w') :
    ((accounting.read pid).Succeeds w ↔ (accounting.locator.locate pid).Succeeds w) ∧
    ((accounting.read pid).Succeeds w ↔ (accounting.read pid).Succeeds w') ∧
    ∀ reading reading', (accounting.read pid).outcome w = .ok reading →
      (accounting.read pid).outcome w' = .ok reading' →
      ∃ placement, (accounting.locator.locate pid).outcome w = .ok placement ∧ ∀ c : Controller,
        ((reading.controllers.report? c).isSome = true ↔
          ∃ directory, c.directory? placement = some directory ∧
            ∀ use ∈ c.uses accounting.units, use.Met w.files directory) ∧
        ((∀ directory, c.directory? placement = some directory →
            AgreeOn (c.uses accounting.units) directory w.files w'.files) →
          (c.devices accounting.devices).AgreesOn w.files w'.files →
          reading.controllers.report? c = reading'.controllers.report? c) := by
  have hlocate := accounting.locator.locate_endsAlike hmembership
  refine ⟨succeeds_read h, ?_, fun reading reading' hread hread' => ?_⟩
  · rw [succeeds_read h, succeeds_read h', Succeeds, hlocate, Succeeds]
  · obtain ⟨placement, hplacement, hshows⟩ := shows_of_read hread
    obtain ⟨placement', hplacement', hshows'⟩ := shows_of_read hread'
    obtain rfl : placement = placement' :=
      Except.ok.inj ((hplacement.symm.trans hlocate).trans hplacement')
    refine ⟨placement, hplacement, fun c => ⟨?_, fun hfiles hdevices => ?_⟩⟩
    · rw [hshows.reports]
      exact isSome_found (fits_of_locate hplacement h) c
    · rw [hshows.reports, hshows'.reports]
      exact found_eq hfiles hdevices

section BrokenMemory

open KernelSampler

/-- The accounting of a host with a hierarchy each for `cpu` and `memory`. -/
private def twoHierarchies : Accounting where
  locator := {
    rootfs := "/".toList
    mounts := {
      unified := none
      subsystems := .ofList [("cpu".toList, ⟨"/cg/cpu".toList, "/".toList⟩),
        ("memory".toList, ⟨"/cg/memory".toList, "/".toList⟩)] }
    skipRoot := true
    fixedPath := none
    unifiedHasControllers := false }
  devices := .absent
  units := .usual

/-- A process in both hierarchies, and what its file of memory usage holds. -/
private def withUsage (usage : String) : World := ⟨kernelTree [
  processFile 7 ["cgroup".toList] "3:memory:/m\n2:cpu:/c\n".toList,
  (["cg".toList, "cpu".toList, "c".toList, "cpu.shares".toList],
    .file (Text.encode "512\n".toList)),
  (["cg".toList, "memory".toList, "m".toList, "memory.usage_in_bytes".toList],
    .file (Text.encode usage.toList)),
  (["cg".toList, "memory".toList, "m".toList, "memory.stat".toList],
    .file (Text.encode "cache 1\n".toList))], ⟨0⟩⟩

/-- A malformed usage of memory takes away the memory of a process and leaves the processor shares
as they are. -/
theorem read_isolated_brokenMemory :
    ∃ reading reading', (twoHierarchies.read 7).outcome (withUsage "4096\n") = .ok reading ∧
      (twoHierarchies.read 7).outcome (withUsage "4 KiB\n") = .ok reading' ∧
      (reading.controllers.report? .legacyMemory).isSome = true ∧
      (reading'.controllers.report? .legacyMemory).isSome = false ∧
      (reading.controllers.report? .legacyCpu).isSome = true ∧
      reading.controllers.report? .legacyCpu = reading'.controllers.report? .legacyCpu := by
  have hfits : ∀ usage ∈ ["4096\n", "4 KiB\n"],
      ¬ twoHierarchies.BlockIoOverflows 7 (withUsage usage) := by
    intro usage husage
    rw [← outcome_read_eq_overflow]
    revert usage
    decide +kernel
  obtain ⟨-, hsame, hreadings⟩ := read_isolated (by decide +kernel)
    (hfits "4096\n" (by decide)) (hfits "4 KiB\n" (by decide))
  have hreports : ((twoHierarchies.read 7).outcome (withUsage "4096\n")).map (fun reading =>
      ((reading.controllers.report? .legacyMemory).isSome,
        (reading.controllers.report? .legacyCpu).isSome)) = .ok (true, true) := by
    decide +kernel
  have hreports' : ((twoHierarchies.read 7).outcome (withUsage "4 KiB\n")).map (fun reading =>
      (reading.controllers.report? .legacyMemory).isSome) = .ok false := by
    decide +kernel
  have hplaced : ((twoHierarchies.locator.locate 7).outcome (withUsage "4096\n")).map
      (Controller.directory? .legacyCpu) = .ok (some "/cg/cpu/c".toList) := by
    decide +kernel
  cases hread : (twoHierarchies.read 7).outcome (withUsage "4096\n") with
  | error fault => simp [hread, Except.map] at hreports
  | ok reading =>
    obtain ⟨reading', hread'⟩ := hsame.mp ⟨reading, hread⟩
    obtain ⟨placement, hplacement, hcontrollers⟩ := hreadings reading reading' hread hread'
    rw [hread, Except.map, Except.ok.injEq, Prod.mk.injEq] at hreports
    rw [hread', Except.map, Except.ok.injEq] at hreports'
    rw [hplacement, Except.map, Except.ok.injEq] at hplaced
    refine ⟨reading, reading', rfl, hread', hreports.1, hreports', hreports.2, ?_⟩
    refine (hcontrollers .legacyCpu).2 (fun directory hdirectory => ?_) nofun
    obtain rfl := Option.some.inj (hplaced.symm.trans hdirectory)
    unfold AgreeOn
    decide +kernel

end BrokenMemory

section UnreadPressure

open KernelSampler

/-- There is no entry by the name of a path, not even a link that leads nowhere. -/
private def HasNoEntry (tree : FileTree) (p : Path) : Prop :=
  tree.locate false p = .error .notFound

/-- A file is read and parsed, or it may be left out and there is no entry by its name. -/
private def AbsentOrRead (use : FileUse) (tree : FileTree) (directory : Path) : Prop :=
  match use.need with
  | .required => tree.Holds (use.path directory) use.accepts
  | .optional | .ifSupported =>
    HasNoEntry tree (use.path directory) ∨ tree.Holds (use.path directory) use.accepts
  | .beside other =>
    HasNoEntry tree (Path.join directory other) ∨ HasNoEntry tree (use.path directory) ∨
      tree.Holds (use.path directory) use.accepts

/-- The accounting of a host with the unified hierarchy alone. -/
private def unifiedHierarchy : Accounting where
  locator := {
    rootfs := "/".toList
    mounts := { unified := some ⟨"/cg".toList, "/".toList⟩, subsystems := .empty }
    skipRoot := true
    fixedPath := none
    unifiedHasControllers := true }
  devices := .absent
  units := .usual

/-- A process in this hierarchy, and what stands by the name of its pressure file. -/
private def withPressure (pressure : Entry) : World := ⟨kernelTree [
  processFile 7 ["cgroup".toList] "0::/c\n".toList,
  (["cg".toList, "c".toList, "cpu.stat".toList], .file (Text.encode "usage_usec 5\n".toList)),
  (["cg".toList, "c".toList, "cpu.pressure".toList], pressure)], ⟨0⟩⟩

/-- The processor figures are there although not every file of theirs is absent or read. -/
private def ShownAnyway (w : World) : Prop :=
  ∃ reading placement,
    (unifiedHierarchy.read 7).outcome w = .ok reading ∧
    (unifiedHierarchy.locator.locate 7).outcome w = .ok placement ∧
    ¬ ((reading.controllers.report? .unifiedCpu).isSome = true ↔
      ∃ directory, Controller.directory? .unifiedCpu placement = some directory ∧
        ∀ use ∈ Controller.uses unifiedHierarchy.units .unifiedCpu,
          AbsentOrRead use w.files directory)

/-- It is enough that the pressure file has an entry by its name and cannot be read, and that the
figures are there. -/
private theorem shownAnyway_of_refused {w : World} {f : FileFailure}
    (hreport : ((unifiedHierarchy.read 7).outcome w).map (fun reading =>
      (reading.controllers.report? .unifiedCpu).isSome) = .ok true)
    (hplaced : ((unifiedHierarchy.locator.locate 7).outcome w).map
      (Controller.directory? .unifiedCpu) = .ok (some "/cg/c".toList))
    (hentry : ¬ HasNoEntry w.files "/cg/c/cpu.pressure".toList)
    (hrefused : w.files.readBytes "/cg/c/cpu.pressure".toList = .error f) : ShownAnyway w := by
  cases hread : (unifiedHierarchy.read 7).outcome w with
  | error fault => simp [hread, Except.map] at hreport
  | ok reading =>
    obtain ⟨placement, hplacement, -⟩ := shows_of_read hread
    rw [hread, Except.map, Except.ok.injEq] at hreport
    rw [hplacement, Except.map, Except.ok.injEq] at hplaced
    refine ⟨reading, placement, hread, hplacement, fun h => ?_⟩
    obtain ⟨directory, hdirectory, huses⟩ := h.mp hreport
    obtain rfl := Option.some.inj (hplaced.symm.trans hdirectory)
    rcases huses (.pressure "cpu.pressure".toList) (by simp [Controller.uses]) with
      hnone | hholds
    · exact hentry hnone
    · exact Stat.not_failsAs_of_holds Pressure.readLines_honest hholds (fun _ => true)
        ⟨f, hrefused, rfl⟩

/-- Two files that are there and cannot be read do not take the processor figures away: a pressure
file of a kernel that was told not to account for pressure, whose reading is answered with the
number 95, and a link that leads nowhere. So it is not the absence of an optional file that counts,
but the answer of the system. -/
theorem read_isolated_unreadPressure :
    ShownAnyway (withPressure (.unreadable 95)) ∧
      ShownAnyway (withPressure (.link "nowhere".toList)) := by
  have hentry : ∀ pressure ∈ [Entry.unreadable 95, .link "nowhere".toList],
      (withPressure pressure).files.locate false "/cg/c/cpu.pressure".toList ≠
        .error .notFound := by
    decide +kernel
  constructor
  · have hrefused : (withPressure (.unreadable 95)).files.readBytes
        "/cg/c/cpu.pressure".toList = .error (.other 95) := by
      decide +kernel
    exact shownAnyway_of_refused (by decide +kernel) (by decide +kernel)
      (hentry _ (by simp)) hrefused
  · have hrefused : (withPressure (.link "nowhere".toList)).files.readBytes
        "/cg/c/cpu.pressure".toList = .error .notFound := by
      decide +kernel
    exact shownAnyway_of_refused (by decide +kernel) (by decide +kernel)
      (hentry _ (by simp)) hrefused

end UnreadPressure

end Accounting

end Cgroup

end ProcessMeter
