import ProcessMeter.Proofs.AskedPaths
import ProcessMeter.Proofs.KernelSampler
import ProcessMeter.Proofs.MountTables
import ProcessMeter.Proofs.Placement
import ProcessMeter.Proofs.Printed

/-!
# Nothing is read outside the root file system

All paths come from below the root file system in use: those of kernel files are seen below it, and
so are the mount points and cgroups that these files name, whether absolute or not. What is asked
for later is a file at such a path.
-/

namespace ProcessMeter

open Probe

variable {rootfs : Path} {w : World}

/-- A run goes on alike if the parts behind its first one run alike. -/
theorem Probe.bind_apply_congr {ε α β : Type} {x : Probe ε α} {f g : α → Probe ε β}
    (h : ∀ a, f a w = g a w) : (x >>= f) w = (x >>= g) w := by
  change Probe.bind x f w = Probe.bind x g w
  rw [Probe.bind, Probe.bind]
  rcases x w with ⟨fault | a, events⟩
  · rfl
  · simp only [h]

namespace Path

/-- What is placed below a root file system is under it. -/
theorem isUnder_below (h : rootfs ≠ []) (p : Path) : IsUnder rootfs (below rootfs p) :=
  (isUnder_refl h).below p

/-- The files in a directory under the root file system are under it too. -/
theorem IsUnder.holdsGood {directory : Path} (h : IsUnder rootfs directory) :
    directory.HoldsGood (IsUnder rootfs) :=
  fun _ hname => h.join hname

/-- What starts with a number is a relative path. -/
theorem isAbsolute_write_append (n : Nat) (rest : Path) :
    isAbsolute (Numeral.write n ++ rest) = false := by
  obtain ⟨hne, -⟩ := Numeral.isWord_write n
  obtain ⟨c, digits, hwrite⟩ := List.exists_cons_of_ne_nil hne
  have hdigit : c.isDigit = true := Numeral.isDigit_of_mem_write (n := n) (by simp [hwrite])
  rw [hwrite, List.cons_append, ← Bool.not_eq_true, isAbsolute_cons]
  rintro rfl
  exact absurd hdigit (by decide)

end Path

/-- The directory of the devices is under the root file system. -/
theorem DeviceDirectory.ofRoot_isGood (h : rootfs ≠ []) (enabled : Bool) :
    (ofRoot rootfs enabled).IsGood (Path.IsUnder rootfs) := by
  intro directory hdirectory major minor
  have hblock : Path.IsUnder rootfs directory := by
    cases enabled with
    | false => cases hdirectory
    | true =>
      obtain rfl := Option.some.inj hdirectory
      exact Path.isUnder_below h _
  have hplace := hblock.join (Path.isAbsolute_write_append major (':' :: Numeral.write minor))
  exact ⟨hplace, hplace.join (by decide)⟩

namespace CgroupMounts

/-- Every hierarchy is mounted under the root file system. -/
structure AreUnder (mounts : CgroupMounts) (rootfs : Path) : Prop where
  unified : ∀ mount, mounts.unified = some mount → Path.IsUnder rootfs mount.mountPoint
  subsystems : ∀ name mount, mounts.subsystems.get? name = some mount →
    Path.IsUnder rootfs mount.mountPoint

/-- Without mounts there is nothing outside. -/
theorem areUnder_none : none.AreUnder rootfs :=
  ⟨fun _ h => (nomatch h), fun _ _ h => (nomatch h)⟩

/-- A mount point is seen below the root file system, however it is written. -/
theorem AreUnder.add (h : rootfs ≠ []) {mounts : CgroupMounts} (hmounts : mounts.AreUnder rootfs)
    (record : MountRecord) : (mounts.add rootfs record).AreUnder rootfs := by
  have hmount : Path.IsUnder rootfs (record.cgroupMount rootfs).mountPoint :=
    Path.isUnder_below h _
  have hadded {p : Prop} [Decidable p] {mount : CgroupMount}
      (hnew : (if p then some (record.cgroupMount rootfs) else Option.none) = some mount) :
      Path.IsUnder rootfs mount.mountPoint := by
    obtain ⟨-, hsame⟩ := Option.ite_none_right_eq_some.mp hnew
    rwa [← Option.some.inj hsame]
  constructor
  case unified =>
    intro mount heq
    rw [unified_add, Option.or_eq_some_iff] at heq
    rcases heq with hold | ⟨-, hnew⟩
    · exact hmounts.unified mount hold
    · exact hadded hnew
  case subsystems =>
    intro name mount heq
    rw [get?_add, Option.or_eq_some_iff] at heq
    rcases heq with hold | ⟨-, hnew⟩
    · exact hmounts.subsystems name mount hold
    · exact hadded hnew

/-- Wherever a mount table says that hierarchies are mounted, they are seen under the root file
system. -/
theorem areUnder_ofRecords (h : rootfs ≠ []) (records : List MountRecord) :
    (ofRecords rootfs records).AreUnder rootfs := by
  refine List.foldlRecOn records _ (motive := (AreUnder · rootfs)) areUnder_none ?_
  exact fun mounts hmounts record _ => hmounts.add h record

/-- Reading a mount table is one look at its file, and nothing else is asked. -/
private theorem readTable_eq_look {path : Path} : readTable path rootfs =
    look (fun tree => tree.openFile path) >>= fun answer =>
      match answer with
      | .error failure => Probe.fail (MountFailure.cannotOpen path failure)
      | .ok opened =>
        Lines.carry (fun failure => Probe.fail (.cannotReadLine path failure))
          (fun _ line mounts => takeLine path rootfs line mounts) 1 .none
          (Lines.ofOpened opened) >>= fun mounts =>
            if mounts.isEmpty then Probe.fail (.noCgroups path) else pure mounts := rfl

/-- Reading a mount table asks for the path of the table only. -/
theorem readTable_asksOnly {good : Path → Prop} {path : Path} (h : good path) :
    (readTable path rootfs).AsksOnly good w := by
  rw [readTable_eq_look]
  refine .bind (.openFile h) fun answer _ => ?_
  cases answer with
  | error failure => exact .fail _
  | ok opened =>
    refine .bind (.carry (fun _ => .fail _) (fun _ line mounts => ?_) 1 _ _) fun mounts _ => ?_
    · unfold takeLine
      split
      · exact .pure _
      · split
        · exact .fail _
        · dsimp only
          split
          · exact .bind (.log _ _) fun _ _ => .pure _
          · exact .pure _
    · split
      · exact .fail _
      · exact .pure _

end CgroupMounts

namespace Cgroup

/-- The search for mount tables stays under the root file system. -/
theorem findMounts_asksOnly (h : rootfs ≠ []) :
    (findMounts rootfs).AsksOnly (Path.IsUnder rootfs) w := by
  refine .bind (.attempt (CgroupMounts.readTable_asksOnly (Path.isUnder_below h _)))
    fun result _ => ?_
  split
  · exact .pure _
  · refine .bind (.log _ _) fun _ _ => ?_
    exact .mapFailure _ (CgroupMounts.readTable_asksOnly (Path.isUnder_below h _))
  · exact .fail _

/-- The mounts that are found come from a mount table. -/
theorem areUnder_of_findMounts (h : rootfs ≠ []) {mounts : CgroupMounts}
    (hmounts : (findMounts rootfs).outcome w = .ok mounts) : mounts.AreUnder rootfs := by
  have hread {path : Path} {found : CgroupMounts}
      (hfound : (CgroupMounts.readTable path rootfs).outcome w = .ok found) :
      found.AreUnder rootfs := by
    obtain ⟨records, rfl⟩ := CgroupMounts.exists_records_of_readTable hfound
    exact CgroupMounts.areUnder_ofRecords h records
  have hfound := hmounts
  rw [findMounts, outcome_attempt_bind] at hfound
  rcases hfirst : (CgroupMounts.readTable (Path.below rootfs "/proc/1/mountinfo".toList)
    rootfs).outcome w with (failure | _) | first
  · simp only [hfirst] at hfound
    cases failure with
    | cannotOpen path reason =>
      rw [outcome_bind_of_ok (outcome_log w _ _)] at hfound
      exact hread (outcome_mapFailure_eq_ok.mp hfound)
    | cannotReadLine path reason => cases hfound
    | malformed path reason => cases hfound
    | noCgroups path => cases hfound
  · simp only [hfirst] at hfound
    cases hfound
  · simp only [hfirst] at hfound
    rw [← Except.ok.inj hfound]
    exact hread hfirst

/-- Noting subsystems without a mount asks for nothing. -/
theorem Locator.noteUnmounted_asksOnly {locator : Locator} {good : Path → Prop}
    (paths : List (Text × Path)) : (locator.noteUnmounted paths).AsksOnly good w := by
  induction paths with
  | nil => exact .pure _
  | cons first rest ih =>
    rw [Locator.noteUnmounted]
    split
    · exact .bind (.log _ _) fun _ _ => ih
    · exact ih

/-- A controller that may fail asks for no more than the controller does. -/
theorem optional_asksOnly {ε α : Type} {controller : Probe PathFailure α} {good : Path → Prop}
    (h : controller.AsksOnly good w) :
    (optional controller : Probe ε (Option α)).AsksOnly good w := by
  refine .bind (.attempt h) fun result _ => ?_
  cases result with
  | ok value => exact .pure _
  | error failure =>
    dsimp only
    split <;> exact .bind (.log _ _) fun _ _ => .pure _

/-- Whether the description of a hierarchy lists controllers. -/
private def listsControllers (answer : Except FileFailure Opened) : Bool :=
  match Stat.textOf answer with
  | .ok controllers => !(Text.trim controllers).isEmpty
  | .error _ => false

namespace Accounting

variable {units : HostUnits} {settings : Settings} {accounting : Accounting} {pid : Nat}

/-- The accounting with given mounts. -/
private def withMounts (units : HostUnits) (settings : Settings) (mounts : CgroupMounts)
    (hasControllers : Bool) : Accounting where
  locator := {
    rootfs := settings.rootfs
    mounts
    skipRoot := settings.skipRoot
    fixedPath := settings.fixedPath
    unifiedHasControllers := hasControllers }
  devices := .ofRoot settings.rootfs settings.nameDevices
  units := units

/-- Written out, the settings lead to one look at the root directory, the search for mounts and one
look for the controllers. -/
private theorem ofSettings_apply (units : HostUnits) (settings : Settings) (w : World) :
    ofSettings units settings w = (match w.files.readDirectory settings.rootfs with
      | .error failure => Probe.fail (.unreadableRoot settings.rootfs failure)
      | .ok _ => do
        let mounts ← findMounts settings.rootfs
        pure (withMounts units settings mounts (match mounts.unified with
          | some unified => hasControllers w.files unified.mountPoint
          | none => false)) : Probe CgroupFailure Accounting) w := rfl

/-- The accounting is set up in three steps: the root file system is listed, mounts are found, and
the unified hierarchy among them is asked for its controllers. -/
private theorem ofSettings_eq (units : HostUnits) (settings : Settings) :
    ofSettings units settings =
      look (fun tree => tree.readDirectory settings.rootfs) >>= fun answer =>
        match answer with
        | .error failure => Probe.fail (.unreadableRoot settings.rootfs failure)
        | .ok _ => findMounts settings.rootfs >>= fun mounts =>
          match mounts.unified with
          | none => pure (withMounts units settings mounts false)
          | some unified =>
            look (fun tree => tree.openFile
              (Path.join unified.mountPoint "cgroup.controllers".toList)) >>= fun answer =>
                pure (withMounts units settings mounts (listsControllers answer)) := by
  funext w
  rw [look_bind_apply, ofSettings_apply]
  cases w.files.readDirectory settings.rootfs with
  | error failure => rfl
  | ok names =>
    refine bind_apply_congr fun mounts => ?_
    cases mounts.unified with
    | none => rfl
    | some unified => rfl

/-- Setting up the accounting asks under the root file system only. -/
theorem ofSettings_asksOnly (h : settings.rootfs ≠ []) :
    (ofSettings units settings).AsksOnly (Path.IsUnder settings.rootfs) w := by
  rw [ofSettings_eq]
  refine .bind (.readDirectory (Path.isUnder_refl h)) fun answer _ => ?_
  cases answer with
  | error failure => exact .fail _
  | ok names =>
    refine .bind (findMounts_asksOnly h) fun mounts hmounts => ?_
    have hunder := areUnder_of_findMounts h hmounts
    cases hunified : mounts.unified with
    | none => exact .pure _
    | some unified =>
      have hmountPoint := hunder.unified unified hunified
      exact .bind (.openFile (hmountPoint.join (by decide))) fun _ _ => .pure _

/-- An accounting that leads nowhere outside the root file system. -/
structure IsConfined (accounting : Accounting) (rootfs : Path) : Prop where
  membershipFile : ∀ pid, Path.IsUnder rootfs (accounting.locator.membershipFile pid)
  mounts : accounting.locator.mounts.AreUnder rootfs
  devices : accounting.devices.IsGood (Path.IsUnder rootfs)

/-- With mounts under the root file system the accounting is confined to it. -/
private theorem isConfined_withMounts (h : settings.rootfs ≠ []) {mounts : CgroupMounts}
    (hmounts : mounts.AreUnder settings.rootfs) (hasControllers : Bool) :
    (withMounts units settings mounts hasControllers).IsConfined settings.rootfs where
  membershipFile _ := Path.isUnder_below h _
  mounts := hmounts
  devices := DeviceDirectory.ofRoot_isGood h _

/-- An accounting that is made from settings is confined to their root file system. -/
theorem isConfined_of_ofSettings (h : settings.rootfs ≠ [])
    (haccounting : (ofSettings units settings).outcome w = .ok accounting) :
    accounting.IsConfined settings.rootfs := by
  rw [ofSettings_eq] at haccounting
  obtain ⟨answer, -, haccounting⟩ := outcome_bind_eq_ok.mp haccounting
  cases answer with
  | error failure => cases haccounting
  | ok names =>
    obtain ⟨mounts, hmounts, haccounting⟩ := outcome_bind_eq_ok.mp haccounting
    have hunder := areUnder_of_findMounts h hmounts
    cases hunified : mounts.unified with
    | none =>
      simp only [hunified] at haccounting
      rw [← Except.ok.inj haccounting]
      exact isConfined_withMounts h hunder false
    | some unified =>
      simp only [hunified] at haccounting
      obtain ⟨answer, -, haccounting⟩ := outcome_bind_eq_ok.mp haccounting
      rw [← Except.ok.inj haccounting]
      exact isConfined_withMounts h hunder _

namespace IsConfined

variable (h : accounting.IsConfined rootfs)

include h

/-- Reading the membership of a process stays under the root file system. -/
theorem membership_asksOnly (pid : Nat) :
    (accounting.locator.membership pid).AsksOnly (Path.IsUnder rootfs) w :=
  .mapFailure _ (Stat.read_asksOnly (h.membershipFile pid) _)

/-- So does finding the version of its cgroup, -/
theorem version_asksOnly (pid : Nat) :
    (accounting.version pid).AsksOnly (Path.IsUnder rootfs) w :=
  .bind (h.membership_asksOnly pid) fun _ _ => .pure _

/-- and so does finding the cgroup itself. -/
theorem locate_asksOnly (pid : Nat) :
    (accounting.locator.locate pid).AsksOnly (Path.IsUnder rootfs) w := by
  refine .bind (h.membership_asksOnly pid) fun entries _ => ?_
  dsimp only
  split
  · exact .bind (Locator.noteUnmounted_asksOnly _) fun _ _ => .ofExcept _
  · exact .ofExcept _

/-- Whatever a process is said to be a member of, its directories are under the root file system. -/
theorem isUnder_directory {placement : CgroupPlacement} {location : CgroupLocation}
    (hplacement : (accounting.locator.locate pid).outcome w = .ok placement)
    (hlocation : placement.Has location) : Path.IsUnder rootfs location.directory := by
  obtain ⟨entries, -, hplace⟩ := Locator.exists_entries_of_locate hplacement
  rcases Locator.place_eq_ok hplace with ⟨-, rfl⟩ | ⟨-, e, -, mount, hmount, -, rfl⟩
  · obtain ⟨name, hname⟩ := hlocation
    obtain ⟨older, e, newer, -, ⟨-, mount, hmount, rfl, -⟩, -⟩ :=
      Locator.get?_placeSubsystems.mp hname
    exact (h.mounts.subsystems name mount hmount).below _
  · obtain rfl : location = accounting.locator.location mount e.path := hlocation
    exact (h.mounts.unified mount hmount).below _

/-- A subsystem of version 1 is read under the root file system, since its directory is. -/
private theorem subsystem_asksOnly {ε α : Type} {placement : CgroupPlacement}
    (hplacement : (accounting.locator.locate pid).outcome w = .ok placement) (name : String)
    {read : Path → Probe PathFailure α}
    (hread : ∀ directory, Path.IsUnder rootfs directory →
      (read directory).AsksOnly (Path.IsUnder rootfs) w) :
    (subsystem placement name read : Probe ε (Option α)).AsksOnly (Path.IsUnder rootfs) w := by
  unfold subsystem
  cases hlocation : placement.subsystem? name.toList with
  | none => exact .pure _
  | some location =>
    have hhas : placement.Has location := by
      cases placement with
      | v1 controllers => exact ⟨_, hlocation⟩
      | v2 unified => cases hlocation
    exact optional_asksOnly (hread _ (h.isUnder_directory hplacement hhas))

/-- All subsystems of version 1 are read under the root file system. -/
private theorem readLegacy_asksOnly {ε : Type} {placement : CgroupPlacement}
    (hplacement : (accounting.locator.locate pid).outcome w = .ok placement) :
    (accounting.readLegacy placement : Probe ε CgroupReading).AsksOnly (Path.IsUnder rootfs) w := by
  have hread (c : Controller) (directory : Path) (hdirectory : Path.IsUnder rootfs directory) :=
    Controller.read_asksOnly (w := w) hdirectory.holdsGood h.devices accounting.units c
  refine .bind (h.subsystem_asksOnly hplacement _ (hread .legacyCpu)) fun cpu _ => ?_
  refine .bind (h.subsystem_asksOnly hplacement _ (hread .legacyCpuTime)) fun cpuTime _ => ?_
  refine .bind (h.subsystem_asksOnly hplacement _ (hread .legacyMemory)) fun memory _ => ?_
  refine .bind (h.subsystem_asksOnly hplacement _ (hread .legacyBlockIo)) fun blockIo _ => ?_
  refine .bind (h.subsystem_asksOnly hplacement _ (hread .legacyPids)) fun pids _ => ?_
  exact .pure _

/-- All controllers of version 2 are read under the root file system. -/
private theorem readUnified_asksOnly {ε : Type} {location : CgroupLocation}
    (hplacement : (accounting.locator.locate pid).outcome w = .ok (.v2 location)) :
    (accounting.readUnified location : Probe ε CgroupReading).AsksOnly (Path.IsUnder rootfs) w := by
  have hdirectory := h.isUnder_directory hplacement rfl
  have hread := Controller.read_asksOnly (w := w) hdirectory.holdsGood h.devices accounting.units
  refine .bind (optional_asksOnly (hread .unifiedCpu)) fun cpu _ => ?_
  refine .bind (optional_asksOnly (hread .unifiedMemory)) fun memory _ => ?_
  refine .bind (optional_asksOnly (hread .unifiedIo)) fun io _ => ?_
  refine .bind (optional_asksOnly (hread .unifiedPids)) fun pids _ => ?_
  exact .pure _

/-- Reading the cgroup of a process stays under the root file system. -/
theorem read_asksOnly (pid : Nat) : (accounting.read pid).AsksOnly (Path.IsUnder rootfs) w := by
  refine .bind (h.locate_asksOnly pid) fun placement hplacement => ?_
  cases placement with
  | v1 controllers =>
    refine .bind (h.readLegacy_asksOnly hplacement) fun reading _ => ?_
    exact .bind (.log _ _) fun _ _ => .pure _
  | v2 location =>
    refine .bind (h.readUnified_asksOnly hplacement) fun reading _ => ?_
    exact .bind (.log _ _) fun _ _ => .pure _

end IsConfined

end Accounting

end Cgroup

namespace Procfs

variable {pid : Nat}

/-- The directory of a process is under the root file system. -/
theorem isUnder_directory (h : rootfs ≠ []) (pid : Nat) :
    Path.IsUnder rootfs (directory rootfs pid) := by
  have hrelative := Path.isAbsolute_write_append pid []
  rw [List.append_nil] at hrelative
  exact (Path.isUnder_below h _).join hrelative

/-- The files of a process are under the root file system. -/
theorem isUnder_file (h : rootfs ≠ []) (pid : Nat) {name : String}
    (hname : Path.isAbsolute name.toList = false) : Path.IsUnder rootfs (file rootfs pid name) :=
  (isUnder_directory h pid).join hname

/-- Listing the processes stays under the root file system. -/
theorem pids_asksOnly (h : rootfs ≠ []) : (pids rootfs).AsksOnly (Path.IsUnder rootfs) w := by
  change Probe.AsksOnly (Path.IsUnder rootfs) w
    (look (fun tree => tree.readDirectory (root rootfs)) >>= fun answer =>
      match answer with
      | .error failure => Probe.fail (ProcessFailure.cannotList (root rootfs) failure)
      | .ok names => pure ((names.filterMap pidOf?).mergeSort fun a b => a ≤ b))
  refine .bind (.readDirectory (Path.isUnder_below h _)) fun answer _ => ?_
  cases answer with
  | error failure => exact .fail _
  | ok names => exact .pure _

/-- Reading the state of a process stays under the root file system. -/
theorem record_asksOnly (h : rootfs ≠ []) (pid : Nat) :
    (record rootfs pid).AsksOnly (Path.IsUnder rootfs) w := by
  have hfile : Path.IsUnder rootfs (file rootfs pid "stat") := isUnder_file h pid (by decide)
  refine .bind (.mapFailure _ (Stat.readText_asksOnly hfile)) fun text _ => ?_
  split
  · exact .pure _
  · exact .fail _

/-- Whether the answer says that there is something. -/
private def saysPresent : Except FileFailure Bool → Bool
  | .ok present => present
  | .error _ => false

/-- An optional reading that fails asks whether the process is still there. -/
theorem optional_asksOnly {α : Type} (h : rootfs ≠ []) {reading : Probe PathFailure α}
    (hreading : reading.AsksOnly (Path.IsUnder rootfs) w) :
    (optional rootfs pid reading).AsksOnly (Path.IsUnder rootfs) w := by
  refine .bind (.attempt hreading) fun result _ => ?_
  cases result with
  | ok value => exact .pure _
  | error failure =>
    change Probe.AsksOnly (Path.IsUnder rootfs) w
      (look (fun tree => tree.existsAt (directory rootfs pid)) >>= fun answer =>
        if failure.isGone && !saysPresent answer then Probe.fail (ProcessFailure.notFound pid)
        else if failure.isMalformed then Probe.fail (.unreadable failure)
        else do
          Probe.log .debug (s!"skipping optional metric of process {pid}: " ++ failure.message)
          pure none)
    refine .bind (.existsAt (isUnder_directory h pid)) fun answer _ => ?_
    split
    · exact .fail _
    · split
      · exact .fail _
      · exact .bind (.log _ _) fun _ _ => .pure _

/-- Reading the counters of a process stays under the root file system. -/
theorem metrics_asksOnly (h : rootfs ≠ []) (units : HostUnits) (pid : Nat)
    (known : ProcessIdentity) (network : Bool) :
    (metrics units rootfs pid known network).AsksOnly (Path.IsUnder rootfs) w := by
  have hfile {name : String} (hname : Path.isAbsolute name.toList = false) :=
    isUnder_file h pid hname
  refine .bind (record_asksOnly h pid) fun r _ => ?_
  dsimp only
  split
  · exact .bind (.log _ _) fun _ _ => .fail _
  · refine .bind (.mapFailure _ (Stat.read_asksOnly (hfile (by decide)) _)) fun pages _ => ?_
    refine .bind (optional_asksOnly h (Stat.read_asksOnly (hfile (by decide)) _)) fun owner _ => ?_
    refine .bind (optional_asksOnly h (Stat.read_asksOnly (hfile (by decide)) _)) fun io _ => ?_
    split
    · have hnetwork : (readNetwork (file rootfs pid "net/dev")).AsksOnly (Path.IsUnder rootfs) w :=
        Stat.readWith_asksOnly (hfile (by decide)) fun _ => .ofOutcome _
      exact .bind (optional_asksOnly h hnetwork) fun counters _ => .pure _
    · exact .pure _

/-- Finding the own process is one look at a link. -/
private theorem ownPid_eq_look : ownPid rootfs =
    look (fun tree => tree.readLink (Path.join (root rootfs) "self".toList)) >>= fun answer =>
      match answer with
      | .error failure =>
        Probe.fail (ProcessFailure.unreadable
          ⟨Path.join (root rootfs) "self".toList, .file failure⟩)
      | .ok target =>
        match pidOf? target with
        | some pid => pure pid
        | none => Probe.fail (.malformed (Path.join (root rootfs) "self".toList)
          s!"unexpected link target `{Path.display target}`") := rfl

/-- Finding the own process stays under the root file system. -/
theorem ownPid_asksOnly (h : rootfs ≠ []) : (ownPid rootfs).AsksOnly (Path.IsUnder rootfs) w := by
  rw [ownPid_eq_look]
  have hroot : Path.IsUnder rootfs (root rootfs) := Path.isUnder_below h _
  refine .bind (.readLink (hroot.join (by decide))) fun answer _ => ?_
  cases answer with
  | error failure => exact .fail _
  | ok target =>
    dsimp only
    split
    · exact .pure _
    · exact .fail _

end Procfs

/-- The answers of a process table are found among good paths. -/
structure ProcessTable.AsksOnly (table : ProcessTable) (good : Path → Prop) (w : World) : Prop where
  pids : table.pids.AsksOnly good w
  identity : ∀ pid, (table.identity pid).AsksOnly good w
  metrics : ∀ pid known network, (table.metrics pid known network).AsksOnly good w
  arguments : ∀ pid, (table.arguments pid).AsksOnly good w
  environment : ∀ pid names, (table.environment pid names).AsksOnly good w
  ownPid : table.ownPid.AsksOnly good w
  memoryTotal : table.memoryTotal.AsksOnly good w
  processors : table.processors.AsksOnly good w

/-- The process table of a kernel is found under the root file system. -/
theorem Procfs.table_asksOnly (h : rootfs ≠ []) (units : HostUnits) :
    (table units rootfs).AsksOnly (Path.IsUnder rootfs) w where
  pids := pids_asksOnly h
  identity pid := .bind (record_asksOnly h pid) fun _ _ => .pure _
  metrics := metrics_asksOnly h units
  arguments pid :=
    .bind (optional_asksOnly h (Stat.readBytes_asksOnly (isUnder_file h pid (by decide))))
      fun _ _ => .pure _
  environment pid names :=
    .bind (optional_asksOnly h (Stat.readBytes_asksOnly (isUnder_file h pid (by decide))))
      fun _ _ => .pure _
  ownPid := ownPid_asksOnly h
  memoryTotal := .mapFailure _ (Stat.read_asksOnly (Path.isUnder_below h _) _)
  processors := .mapFailure _ (Stat.read_asksOnly (Path.isUnder_below h _) _)

/-- No path replaces the root file system: seen below it, a path goes on from it by its own names
and parents. So whatever mount tables and memberships say, and whatever path is given for all
processes, the accounting of cgroups and the process table ask for paths that start with its
components. -/
theorem asksOnly_under_rootfs (h : rootfs ≠ []) :
    (∀ p, (Path.below rootfs p).components =
      rootfs.components ++ p.components.filter Component.isStep) ∧
    (∀ (units : HostUnits) (settings : Cgroup.Settings), settings.rootfs = rootfs → ∀ w : World,
      (Cgroup.Accounting.ofSettings units settings).AsksOnly (Path.IsUnder rootfs) w ∧
      ∀ accounting, (Cgroup.Accounting.ofSettings units settings).outcome w = .ok accounting →
        ∀ (pid : Nat) (w' : World),
          (accounting.version pid).AsksOnly (Path.IsUnder rootfs) w' ∧
          (accounting.locator.locate pid).AsksOnly (Path.IsUnder rootfs) w' ∧
          (accounting.read pid).AsksOnly (Path.IsUnder rootfs) w') ∧
    ∀ units w, (Procfs.table units rootfs).AsksOnly (Path.IsUnder rootfs) w := by
  refine ⟨Path.components_below h, ?_, fun units w => Procfs.table_asksOnly h units⟩
  rintro units settings rfl w
  refine ⟨Cgroup.Accounting.ofSettings_asksOnly h, fun accounting haccounting pid w' => ?_⟩
  have hconfined := Cgroup.Accounting.isConfined_of_ofSettings h haccounting
  exact ⟨hconfined.version_asksOnly pid, hconfined.locate_asksOnly pid, hconfined.read_asksOnly pid⟩

section Climbing

open KernelSampler Cgroup

/-- A host that is visible in a directory. Its mount table and a membership line go up from the
root. -/
private def climbingHost : World := ⟨kernelTree [
  (Text.items '/' "host/proc/1/mountinfo".toList,
    .file (Text.encode "36 35 0:30 / //../cgroup rw - cgroup2 none rw\n".toList)),
  (Text.items '/' "host/proc/7/cgroup".toList, .file (Text.encode "0::/../../job\n".toList))], ⟨0⟩⟩

/-- The accounting of that host. -/
private def climbingAccounting : Accounting where
  locator := {
    rootfs := "/host".toList
    mounts := { unified := some ⟨"/host/../cgroup".toList, "/".toList⟩, subsystems := .empty }
    skipRoot := true
    fixedPath := none
    unifiedHasControllers := false }
  devices := ⟨some "/host/sys/dev/block".toList⟩
  units := .usual

/-- An absolute mount point and an absolute cgroup stay behind the directory of the host, even if
they go up. -/
theorem asksOnly_under_rootfs_climbing :
    (Accounting.ofSettings .usual { rootfs := "/host".toList }).outcome climbingHost =
      .ok climbingAccounting ∧
    (climbingAccounting.locator.locate 7).outcome climbingHost =
      .ok (.v2 ⟨"/host/../cgroup".toList, "/../../job".toList⟩) ∧
    (climbingAccounting.read 7).AsksOnly (Path.IsUnder "/host".toList) climbingHost ∧
    (Path.below "/host".toList "//../cgroup/./x".toList).components =
      [.root, .name "host".toList, .parent, .name "cgroup".toList, .name "x".toList] := by
  have haccounting :
      (Accounting.ofSettings .usual { rootfs := "/host".toList }).outcome climbingHost =
        .ok climbingAccounting := by
    decide +kernel
  have hhost : "/host".toList ≠ [] := by decide
  obtain ⟨hbelow, hreads, -⟩ := asksOnly_under_rootfs hhost
  obtain ⟨-, hasks⟩ := hreads .usual { rootfs := "/host".toList } rfl climbingHost
  refine ⟨haccounting, by decide +kernel, (hasks _ haccounting 7 climbingHost).2.2, ?_⟩
  rw [hbelow]
  decide

end Climbing

end ProcessMeter
