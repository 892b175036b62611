import ProcessMeter.Proofs.ControllerIsolation
import ProcessMeter.Proofs.Derivation
import ProcessMeter.Proofs.TextMaps

/-!
# The processor time behind a usage

A usage of a cgroup is the difference of two processor times, if both readings have the same path
and version. Version 2 has one path for everything. In version 1 the path is that of `cpu`, if that
is placed, while the processor time is counted by `cpuacct`. So equal paths mean equal cgroups of
`cpuacct` only where both subsystems go together.
-/

namespace ProcessMeter

open Probe Cgroup

namespace CgroupPlacement

/-- The cgroup that counts the processor time. -/
def timeSource? : CgroupPlacement → Option CgroupLocation
  | .v1 controllers => controllers.get? "cpuacct".toList
  | .v2 location => some location

/-- The processor time that is read at the cgroup that counts it. -/
def CountsAt (units : HostUnits) (placement : CgroupPlacement) (w : World)
    (source : CgroupLocation) (time : Duration) : Prop :=
  placement.timeSource? = some source ∧
    match placement with
    | .v1 _ => ∃ times, (Legacy.CpuTime.read units source.directory).outcome w = .ok times ∧
        times.total = time
    | .v2 _ => ∃ cpu, (Unified.Cpu.read source.directory).outcome w = .ok cpu ∧
        cpu.stat.usage = time

/-- The location that the processor time comes from is one of the placement. -/
theorem has_timeSource {placement : CgroupPlacement} {source : CgroupLocation}
    (h : placement.timeSource? = some source) : placement.Has source := by
  cases placement with
  | v1 controllers => exact ⟨_, h⟩
  | v2 location => exact (Option.some.inj h).symm

/-- The path of a placement is that of one of its cgroups. -/
theorem exists_has_path {placement : CgroupPlacement} {location : CgroupLocation}
    (h : placement.Has location) : ∃ found, placement.Has found ∧ found.path = placement.path := by
  cases placement with
  | v2 unified => exact ⟨unified, rfl, rfl⟩
  | v1 controllers =>
    obtain ⟨name, hname⟩ := h
    obtain ⟨first, hfirst⟩ := TextMap.exists_head?_of_get? hname
    have hpath : (v1 controllers).path =
        ((((controllers.get? "cpu".toList).or (controllers.get? "memory".toList)).or
          controllers.values.head?).map CgroupLocation.path).getD ['/'] := by
      unfold path
      dsimp only
      split <;> next h => rw [h]; rfl
    rw [hpath]
    cases hcpu : controllers.get? "cpu".toList with
    | some cpu => exact ⟨cpu, ⟨_, hcpu⟩, rfl⟩
    | none =>
      cases hmemory : controllers.get? "memory".toList with
      | some memory => exact ⟨memory, ⟨_, hmemory⟩, rfl⟩
      | none =>
        rw [hfirst]
        exact ⟨first, TextMap.exists_get?_of_head? hfirst, rfl⟩

end CgroupPlacement

namespace Cgroup

namespace Locator

variable {locator : Locator} {pid : Nat} {entries : List Membership}
  {placement : CgroupPlacement}

/-- The path of a process and its processor time go together: in version 2, where one path is given
for all processes, and where `cpu` and `cpuacct` are mounted at one place and listed on the same
lines. -/
def TimesByPath (locator : Locator) (entries : List Membership) : Prop :=
  locator.version entries = .v2 ∨ locator.fixedPath.isSome = true ∨
    (locator.mounts.subsystems.get? "cpu".toList =
        locator.mounts.subsystems.get? "cpuacct".toList ∧
      ∀ e ∈ entries, e.Lists "cpu".toList ↔ e.Lists "cpuacct".toList)

/-- Subsystems that are mounted at one place and listed on the same lines are placed alike. -/
private theorem get?_placeSubsystems_congr {name other : Text}
    (hmounts : locator.mounts.subsystems.get? name = locator.mounts.subsystems.get? other)
    (hlists : ∀ e ∈ entries, e.Lists name ↔ e.Lists other) :
    (locator.placeSubsystems (subsystemPaths entries)).get? name =
      (locator.placeSubsystems (subsystemPaths entries)).get? other := by
  have hplaces : ∀ e ∈ entries, ∀ location,
      locator.Places name e location ↔ locator.Places other e location := by
    intro e he location
    unfold Places
    rw [hlists e he, hmounts]
  refine Option.ext fun location => ?_
  rw [get?_placeSubsystems, get?_placeSubsystems]
  refine exists_congr fun older => exists_congr fun e => exists_congr fun newer =>
    and_congr_right fun hentries => ?_
  subst hentries
  refine and_congr (hplaces e (by simp) location) ?_
  exact forall₂_congr fun later hlater => forall_congr' fun found =>
    not_congr (hplaces later (by simp [hlater]) found)

/-- Where path and processor time go together, the path of a placement is that of the cgroup that
counts its processor time. -/
private theorem path_timeSource (h : locator.place pid entries = .ok placement)
    (htimes : locator.TimesByPath entries) {source : CgroupLocation}
    (hsource : placement.timeSource? = some source) : source.path = placement.path := by
  rcases htimes with hunified | hfixed | ⟨hmounts, hlists⟩
  · rcases place_eq_ok h with ⟨hversion, -⟩ | ⟨-, e, -, mount, -, -, rfl⟩
    · rw [hversion] at hunified
      cases hunified
    · obtain rfl := Option.some.inj hsource
      rfl
  · -- all cgroups of the placement have the path that is given for all processes
    obtain ⟨p, hp⟩ := Option.isSome_iff_exists.mp hfixed
    have hhas := CgroupPlacement.has_timeSource hsource
    obtain ⟨found, hfound, hpath⟩ := CgroupPlacement.exists_has_path hhas
    obtain ⟨e, -, mount, rfl, -⟩ := exists_line_of_has h hfound
    obtain ⟨e', -, mount', rfl, -⟩ := exists_line_of_has h hhas
    simp [← hpath, location, hp]
  · rcases place_eq_ok h with ⟨-, rfl⟩ | ⟨-, e, -, mount, -, -, rfl⟩
    · have hcpu : (locator.placeSubsystems (subsystemPaths entries)).get? "cpu".toList =
          some source := (get?_placeSubsystems_congr hmounts hlists).trans hsource
      rw [CgroupPlacement.path, hcpu]
      rfl
    · obtain rfl := Option.some.inj hsource
      rfl

/-- The hierarchy that counts the processor time is a matter of the version. -/
private theorem mountPoint_timeSource {entries' : List Membership} {placement' : CgroupPlacement}
    (h : locator.place pid entries = .ok placement)
    (h' : locator.place pid entries' = .ok placement')
    (hversion : placement.version = placement'.version) {source source' : CgroupLocation}
    (hsource : placement.timeSource? = some source)
    (hsource' : placement'.timeSource? = some source') :
    source.mountPoint = source'.mountPoint := by
  rcases place_eq_ok h with ⟨-, rfl⟩ | ⟨-, e, -, mount, hmount, -, rfl⟩
  · rcases place_eq_ok h' with ⟨-, rfl⟩ | ⟨-, e', -, mount', hmount', -, rfl⟩
    · obtain ⟨-, e, -, -, ⟨-, mount, hmount, rfl, -⟩, -⟩ := get?_placeSubsystems.mp hsource
      obtain ⟨-, e', -, -, ⟨-, mount', hmount', rfl, -⟩, -⟩ := get?_placeSubsystems.mp hsource'
      obtain rfl := Option.some.inj (hmount.symm.trans hmount')
      rfl
    · cases hversion
  · rcases place_eq_ok h' with ⟨-, rfl⟩ | ⟨-, e', -, mount', hmount', -, rfl⟩
    · cases hversion
    · obtain rfl := Option.some.inj (hmount.symm.trans hmount')
      obtain rfl := Option.some.inj hsource
      obtain rfl := Option.some.inj hsource'
      rfl

end Locator

namespace Accounting

variable {accounting : Accounting} {pid : Nat} {w w' : World} {placement : CgroupPlacement}

/-- A controller that is found is read in its directory. -/
private theorem exists_read_of_found {c : Controller} {report : c.Report}
    (h : accounting.found placement w c = some report) :
    ∃ directory, c.directory? placement = some directory ∧
      (c.read accounting.units accounting.devices directory).outcome w = .ok report := by
  obtain ⟨directory, hdirectory, hread⟩ := Option.bind_eq_some_iff.mp h
  refine ⟨directory, hdirectory, ?_⟩
  cases houtcome : (c.read accounting.units accounting.devices directory).outcome w with
  | error fault => simp [houtcome, Except.toOption] at hread
  | ok found =>
    rw [houtcome] at hread
    exact congrArg Except.ok (Option.some.inj hread)

/-- The processor time of a reading is what is read at the cgroup that counts it. -/
theorem Shows.exists_source {reading : CgroupReading} (h : accounting.Shows placement w reading)
    {time : Duration} (htime : reading.cpuTime? = some time) :
    ∃ source, placement.CountsAt accounting.units w source time := by
  have hversion := h.controllers
  unfold CgroupReading.cpuTime? at htime
  cases placement with
  | v1 controllers =>
    have hreport := h.reports .legacyCpuTime
    cases hcontrollers : reading.controllers with
    | v2 c => simp [hcontrollers, Controllers.version, CgroupPlacement.version] at hversion
    | v1 c =>
      rw [hcontrollers] at htime hreport
      obtain ⟨times, htimes, htotal⟩ := Option.map_eq_some_iff.mp htime
      obtain ⟨directory, hdirectory, hread⟩ := exists_read_of_found (hreport.symm.trans htimes)
      obtain ⟨source, hsource, rfl⟩ := Option.map_eq_some_iff.mp hdirectory
      exact ⟨source, hsource, times, hread, htotal⟩
  | v2 location =>
    have hreport := h.reports .unifiedCpu
    cases hcontrollers : reading.controllers with
    | v1 c => simp [hcontrollers, Controllers.version, CgroupPlacement.version] at hversion
    | v2 c =>
      rw [hcontrollers] at htime hreport
      obtain ⟨cpu, hcpu, husage⟩ := Option.map_eq_some_iff.mp htime
      obtain ⟨directory, hdirectory, hread⟩ := exists_read_of_found (hreport.symm.trans hcpu)
      obtain rfl := Option.some.inj hdirectory
      exact ⟨location, rfl, cpu, hread, husage⟩

section Sources

variable {previous current : CgroupReading} {elapsed : Duration} {processors : Nat}
  {share : Usage.CpuShare}

/-- A usage between two readings of a process is the difference of the processor times at the
cgroups that count them at both moments, and the process has one path and version at both. -/
private theorem exists_sources_of_since
    (hprevious : (accounting.read pid).outcome w = .ok previous)
    (hcurrent : (accounting.read pid).outcome w' = .ok current)
    (husage : (current.since previous elapsed processors).cpuUsage = some share) :
    ∃ placement placement' source source' earlier later,
      (accounting.locator.locate pid).outcome w = .ok placement ∧
      (accounting.locator.locate pid).outcome w' = .ok placement' ∧
      placement.path = placement'.path ∧ placement.version = placement'.version ∧
      placement.CountsAt accounting.units w source earlier ∧
      placement'.CountsAt accounting.units w' source' later ∧
      Usage.processorTime earlier later elapsed processors = some share := by
  obtain ⟨placement, hplacement, hshows⟩ := shows_of_read hprevious
  obtain ⟨placement', hplacement', hshows'⟩ := shows_of_read hcurrent
  obtain ⟨hpath, hversion, later, earlier, hlater, hearlier, hshare⟩ :=
    (CgroupReading.usageSince?_eq_some hshows'.cpuUsage).mp husage
  obtain ⟨source, hsource⟩ := hshows.exists_source hearlier
  obtain ⟨source', hsource'⟩ := hshows'.exists_source hlater
  rw [hshows.path, hshows'.path] at hpath
  rw [hshows.version, hshows'.version] at hversion
  exact ⟨placement, placement', source, source', earlier, later, hplacement, hplacement', hpath,
    hversion, hsource, hsource', hshare⟩

/-- A process is placed by the lines of its membership file. -/
private theorem place_of_locate {entries : List Membership}
    (hentries : (accounting.locator.membership pid).outcome w = .ok entries)
    (h : (accounting.locator.locate pid).outcome w = .ok placement) :
    accounting.locator.place pid entries = .ok placement := by
  obtain ⟨lines, hlines, hplace⟩ := Locator.exists_entries_of_locate h
  rwa [Except.ok.inj (hentries.symm.trans hlines)]

/-- A usage between two readings of a process is the difference of the processor times at the
cgroups that count them at both moments. These cgroups are in one hierarchy. They are the same one
if path and processor time go together at both moments, which need not be so where `cpu` and
`cpuacct` are placed apart. -/
theorem since_cpuUsage_sources {entries entries' : List Membership}
    (hentries : (accounting.locator.membership pid).outcome w = .ok entries)
    (hentries' : (accounting.locator.membership pid).outcome w' = .ok entries')
    (hprevious : (accounting.read pid).outcome w = .ok previous)
    (hcurrent : (accounting.read pid).outcome w' = .ok current)
    (husage : (current.since previous elapsed processors).cpuUsage = some share) :
    ∃ placement placement' source source' earlier later,
      (accounting.locator.locate pid).outcome w = .ok placement ∧
      (accounting.locator.locate pid).outcome w' = .ok placement' ∧
      placement.CountsAt accounting.units w source earlier ∧
      placement'.CountsAt accounting.units w' source' later ∧
      Usage.processorTime earlier later elapsed processors = some share ∧
      source.mountPoint = source'.mountPoint ∧
      (accounting.locator.TimesByPath entries → accounting.locator.TimesByPath entries' →
        source.directory = source'.directory) := by
  obtain ⟨placement, placement', source, source', earlier, later, hplacement, hplacement', hpath,
    hversion, hsource, hsource', hshare⟩ := exists_sources_of_since hprevious hcurrent husage
  have hplace := place_of_locate hentries hplacement
  have hplace' := place_of_locate hentries' hplacement'
  have hmount := Locator.mountPoint_timeSource hplace hplace' hversion hsource.1 hsource'.1
  refine ⟨placement, placement', source, source', earlier, later, hplacement, hplacement', hsource,
    hsource', hshare, hmount, fun htimes htimes' => ?_⟩
  have hsame : source.path = source'.path :=
    calc source.path = placement.path := Locator.path_timeSource hplace htimes hsource.1
      _ = placement'.path := hpath
      _ = source'.path := (Locator.path_timeSource hplace' htimes' hsource'.1).symm
  rw [CgroupLocation.directory, CgroupLocation.directory, hmount, hsame]

end Sources

section Moved

open KernelSampler

/-- The accounting of a host that has `cpu` and `cpuacct` at the given mount points. -/
private def timedHost (cpu cpuTime : String) : Accounting where
  locator := {
    rootfs := "/".toList
    mounts := {
      unified := none
      subsystems := .ofList [("cpu".toList, ⟨cpu.toList, "/".toList⟩),
        ("cpuacct".toList, ⟨cpuTime.toList, "/".toList⟩)] }
    skipRoot := true
    fixedPath := none
    unifiedHasControllers := false }
  devices := .absent
  units := .usual

/-- A process with the given membership, and two cgroups that have used processor time. -/
private def timedWorld (membership first second : String) : World := ⟨kernelTree [
  processFile 7 ["cgroup".toList] membership.toList,
  (["cg".toList, "x".toList, "cpuacct.usage".toList], .file (Text.encode first.toList)),
  (["cg".toList, "y".toList, "cpuacct.usage".toList], .file (Text.encode second.toList))], ⟨0⟩⟩

/-- The usage in one second between two readings of the process. -/
private def usageBetween (host : Accounting) (w w' : World) : Option Usage.CpuShare :=
  ((host.read 7).outcome w).toOption.bind fun previous =>
    ((host.read 7).outcome w').toOption.bind fun current =>
      (current.since previous (.ofNanos 1000000000) 1).cpuUsage

/-- Where there is a usage, there are two readings. -/
private theorem exists_readings (host : Accounting) (w w' : World)
    (h : (usageBetween host w w').isSome = true) :
    ∃ previous current share, (host.read 7).outcome w = .ok previous ∧
      (host.read 7).outcome w' = .ok current ∧
      (current.since previous (.ofNanos 1000000000) 1).cpuUsage = some share := by
  have hok : ∀ (w : World) (reading : CgroupReading),
      ((host.read 7).outcome w).toOption = some reading →
        (host.read 7).outcome w = .ok reading := by
    intro w reading h
    cases hread : (host.read 7).outcome w with
    | error fault => simp [hread, Except.toOption] at h
    | ok found =>
      rw [hread] at h
      exact congrArg Except.ok (Option.some.inj h)
  obtain ⟨share, hshare⟩ := Option.isSome_iff_exists.mp h
  obtain ⟨previous, hprevious, hshare⟩ := Option.bind_eq_some_iff.mp hshare
  obtain ⟨current, hcurrent, hshare⟩ := Option.bind_eq_some_iff.mp hshare
  exact ⟨previous, current, share, hok w previous hprevious, hok w' current hcurrent, hshare⟩

/-- With `cpu` and `cpuacct` in one hierarchy a usage is that of one cgroup. -/
theorem since_cpuUsage_sources_together :
    ∃ (placement placement' : CgroupPlacement) (source source' : CgroupLocation)
      (earlier later : Duration),
      placement.CountsAt .usual (timedWorld "4:cpu,cpuacct:/x\n" "1000000000\n" "0\n")
        source earlier ∧
      placement'.CountsAt .usual (timedWorld "4:cpu,cpuacct:/x\n" "1500000000\n" "0\n")
        source' later ∧
      (Usage.processorTime earlier later (.ofNanos 1000000000) 1).isSome = true ∧
      source.directory = source'.directory := by
  let entries : List Membership := [⟨4, ["cpu".toList, "cpuacct".toList], "/x".toList⟩]
  obtain ⟨previous, current, share, hprevious, hcurrent, husage⟩ :=
    exists_readings (timedHost "/cg" "/cg")
      (timedWorld "4:cpu,cpuacct:/x\n" "1000000000\n" "0\n")
      (timedWorld "4:cpu,cpuacct:/x\n" "1500000000\n" "0\n") (by decide +kernel)
  have hentries : ∀ first ∈ ["1000000000\n", "1500000000\n"],
      ((timedHost "/cg" "/cg").locator.membership 7).outcome
        (timedWorld "4:cpu,cpuacct:/x\n" first "0\n") = .ok entries := by
    decide +kernel
  have htimes : (timedHost "/cg" "/cg").locator.TimesByPath entries :=
    Or.inr (Or.inr ⟨rfl, by decide +kernel⟩)
  obtain ⟨placement, placement', source, source', earlier, later, -, -, hsource, hsource', hshare,
      -, hsame⟩ := since_cpuUsage_sources (hentries "1000000000\n" (by decide))
    (hentries "1500000000\n" (by decide)) hprevious hcurrent husage
  refine ⟨placement, placement', source, source', earlier, later, hsource, hsource', ?_,
    hsame htimes htimes⟩
  rw [hshare]
  rfl

/-- A host that has `cpu` and `cpuacct` in two hierarchies. -/
private def apart : Accounting := timedHost "/cg/cpu" "/cg"

/-- The process is at `/x` in the hierarchy of `cpuacct`. -/
private def atX : World :=
  timedWorld "4:cpu:/a\n3:cpuacct:/x\n" "1000000000\n" "1500000000\n"

/-- The process is at `/y` in the hierarchy of `cpuacct`. -/
private def atY : World :=
  timedWorld "4:cpu:/a\n3:cpuacct:/y\n" "1000000000\n" "1500000000\n"

/-- Where `cpu` and `cpuacct` are mounted apart, a process can stay in its cgroup of `cpu` while its
processor time is first that of one cgroup of `cpuacct` and then that of another. It still has a
usage. -/
theorem since_cpuUsage_moved :
    ∃ (previous current : CgroupReading) (share : Usage.CpuShare)
      (placement placement' : CgroupPlacement) (source source' : CgroupLocation)
      (earlier later : Duration),
      (apart.read 7).outcome atX = .ok previous ∧ (apart.read 7).outcome atY = .ok current ∧
      (current.since previous (.ofNanos 1000000000) 1).cpuUsage = some share ∧
      (apart.locator.locate 7).outcome atX = .ok placement ∧
      (apart.locator.locate 7).outcome atY = .ok placement' ∧
      placement.CountsAt .usual atX source earlier ∧
      placement'.CountsAt .usual atY source' later ∧
      source.directory = "/cg/x".toList ∧ source'.directory = "/cg/y".toList := by
  have hx : ((apart.locator.locate 7).outcome atX).map (fun placement =>
      placement.timeSource?.map CgroupLocation.directory) = .ok (some "/cg/x".toList) := by
    decide +kernel
  have hy : ((apart.locator.locate 7).outcome atY).map (fun placement =>
      placement.timeSource?.map CgroupLocation.directory) = .ok (some "/cg/y".toList) := by
    decide +kernel
  obtain ⟨previous, current, share, hprevious, hcurrent, husage⟩ :=
    exists_readings apart atX atY (by decide +kernel)
  obtain ⟨placement, placement', source, source', earlier, later, hplacement, hplacement', -, -,
    hsource, hsource', -⟩ := exists_sources_of_since hprevious hcurrent husage
  rw [hplacement, Except.map, hsource.1] at hx
  rw [hplacement', Except.map, hsource'.1] at hy
  exact ⟨previous, current, share, placement, placement', source, source', earlier, later,
    hprevious, hcurrent, husage, hplacement, hplacement', hsource, hsource',
    Option.some.inj (Except.ok.inj hx), Option.some.inj (Except.ok.inj hy)⟩

end Moved

end Accounting

end Cgroup

end ProcessMeter
