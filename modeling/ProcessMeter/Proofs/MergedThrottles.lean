import ProcessMeter.Proofs.KernelSampler
import ProcessMeter.Proofs.ThrottleFiles

/-!
# Merged throttle files

The block devices of version 1 have one throttle file for octets and one for operations. Both are
merged by the names of the devices without loss: what one file lacks is zero. The totals of the
devices are added up, whatever the files say about them.
-/

namespace ProcessMeter

open Text Probe

namespace Legacy

namespace BlockIo

open DeviceColumn

/-- A device that a file gives has the columns of both files. -/
private theorem get?_merge (octets operations : TextMap DeviceColumn) (key : Text) :
    (merge octets operations).get? key =
      if (octets.get? key).isSome ∨ (operations.get? key).isSome then
        some (.withOperations ((operations.get? key).getD .zero)
          (.withBytes ((octets.get? key).getD .zero) .zero))
      else none := by
  unfold merge
  simp only [TextMap.get?_foldl_update, TextMap.get?_empty]
  cases octets.get? key <;> cases operations.get? key <;> simp <;> rfl

/-- What the lines of both throttle files say about the devices that go by the names. -/
structure AreMerged (name : BlockDevice → Text) (octets operations : List Text)
    (devices : TextMap BlockIoDevice) : Prop where
  /-- A name is there exactly if a line of either file gives it a figure. -/
  present : ∀ key, (devices.get? key).isSome ↔
    ∃ line ∈ octets ++ operations, ∃ operation n, GivesFigure name key operation line n
  /-- For each operation the last figure of either file counts, and without one it is zero. -/
  figures : ∀ key device (operation : Operation), devices.get? key = some device →
    LastFigure (GivesFigure name key operation.word) octets 0 (operation.count device).bytes ∧
    LastFigure (GivesFigure name key operation.word) operations 0
      (operation.count device).operations

section Merged

variable {name : BlockDevice → Text} {octets operations : List Text}

/-- The columns of both files are put together. -/
private theorem areMerged_merge {octetColumns operationColumns : TextMap DeviceColumn}
    (hoctets : Follows name .empty octets octetColumns)
    (hoperations : Follows name .empty operations operationColumns) :
    AreMerged name octets operations (merge octetColumns operationColumns) where
  present key := by
    have hmerged : ((merge octetColumns operationColumns).get? key).isSome ↔
        (octetColumns.get? key).isSome ∨ (operationColumns.get? key).isSome := by
      rw [get?_merge]
      split <;> simp_all
    rw [hmerged, hoctets.names, hoperations.names]
    simp only [TextMap.get?_empty, Option.isSome_none, Bool.false_eq_true, false_or,
      List.mem_append, or_and_right, exists_or]
  figures key device operation hdevice := by
    have hoctet := hoctets.figures key operation
    have hoperation := hoperations.figures key operation
    have hzero : operation.of DeviceColumn.zero = 0 := by cases operation <;> rfl
    rw [TextMap.get?_empty, Option.getD_none, hzero] at hoctet hoperation
    rw [get?_merge] at hdevice
    split at hdevice
    · obtain rfl := Option.some.inj hdevice
      cases operation <;> exact ⟨hoctet, hoperation⟩
    · cases hdevice

/-- The devices are known by what is said about them. -/
theorem AreMerged.unique {devices devices' : TextMap BlockIoDevice}
    (h : AreMerged name octets operations devices)
    (h' : AreMerged name octets operations devices') : devices = devices' := by
  have hgives : ∀ key operation, ∀ line m n, GivesFigure name key operation line m →
      GivesFigure name key operation line n → m = n :=
    fun _ _ _ _ _ hm hn => (hm.unique hn).2.2
  apply TextMap.ext_get?
  intro key
  have hpresent : (devices.get? key).isSome ↔ (devices'.get? key).isSome :=
    (h.present key).trans (h'.present key).symm
  cases hdevice : devices.get? key with
  | none =>
    have hnone : ¬ (devices'.get? key).isSome := fun hsome => by
      rw [hdevice] at hpresent
      cases hpresent.mpr hsome
    exact (Option.not_isSome_iff_eq_none.mp hnone).symm
  | some device =>
    rw [hdevice] at hpresent
    obtain ⟨device', hdevice'⟩ := Option.isSome_iff_exists.mp (hpresent.mp rfl)
    have hfigures : ∀ operation : Operation,
        (operation.count device).bytes = (operation.count device').bytes ∧
        (operation.count device).operations = (operation.count device').operations := by
      intro operation
      obtain ⟨hoctets, hoperations⟩ := h.figures key device operation hdevice
      obtain ⟨hoctets', hoperations'⟩ := h'.figures key device' operation hdevice'
      have hunique := hgives key operation.word
      exact ⟨hoctets.unique hunique hoctets', hoperations.unique hunique hoperations'⟩
    rw [hdevice', Operation.ext_count hfigures]

/-- The line has three words, and the second one is an operation that is asked for. -/
def IsCounted (line : Text) : Prop :=
  (words line).length = 3 ∧
    ∃ operation ∈ [Operation.read, .write, .total], (words line)[1]? = some operation.word

instance : DecidablePred IsCounted := fun line =>
  inferInstanceAs (Decidable ((words line).length = 3 ∧
    ∃ operation ∈ [Operation.read, .write, .total], (words line)[1]? = some operation.word))

/-- The lines name the same devices and agree on the operations that are asked for. Grand totals,
blank lines and other operations may differ. -/
structure Agree (name : BlockDevice → Text) (lines lines' : List Text) : Prop where
  /-- The operations that are asked for are on the same lines in the same order. -/
  counted : lines.filter (IsCounted ·) = lines'.filter (IsCounted ·)
  /-- The same names have a figure. -/
  names : ∀ key, (∃ line ∈ lines, ∃ operation n, GivesFigure name key operation line n) ↔
    ∃ line ∈ lines', ∃ operation n, GivesFigure name key operation line n

/-- A line that gives a figure of an operation is counted. -/
private theorem isCounted_of_givesFigure {key line : Text} {operation : Operation} {n : Nat}
    (h : GivesFigure name key operation.word line n) : IsCounted line := by
  obtain ⟨token, figure, device, hwords, -⟩ := h
  refine ⟨by simp [hwords], operation, ?_, by simp [hwords]⟩
  cases operation <;> simp

/-- A line that is not asked for may be added, as long as it gives a figure only to a name that has
one already. -/
theorem Agree.insert {front behind : List Text} {line : Text} (hline : ¬ IsCounted line)
    (hknown : ∀ key operation n, GivesFigure name key operation line n →
      ∃ line ∈ front ++ behind, ∃ operation n, GivesFigure name key operation line n) :
    Agree name (front ++ behind) (front ++ line :: behind) where
  counted := by
    rw [List.filter_append, List.filter_append, List.filter_cons_of_neg (by simpa using hline)]
  names key := by
    constructor
    · rintro ⟨found, hfound, hgives⟩
      refine ⟨found, ?_, hgives⟩
      simp only [List.mem_append, List.mem_cons] at hfound ⊢
      exact hfound.imp_right Or.inr
    · rintro ⟨found, hfound, operation, n, hgives⟩
      simp only [List.mem_append, List.mem_cons] at hfound
      rcases hfound with hfound | rfl | hfound
      · exact ⟨found, List.mem_append_left _ hfound, operation, n, hgives⟩
      · exact hknown key operation n hgives
      · exact ⟨found, List.mem_append_right _ hfound, operation, n, hgives⟩

/-- Lines that agree give the same last figures. -/
private theorem Agree.lastFigure_iff {lines lines' : List Text} (h : Agree name lines lines')
    {key : Text} {operation : Operation} {n : Nat} :
    LastFigure (GivesFigure name key operation.word) lines 0 n ↔
      LastFigure (GivesFigure name key operation.word) lines' 0 n := by
  have hcounted : ∀ line n, GivesFigure name key operation.word line n → IsCounted line :=
    fun _ _ => isCounted_of_givesFigure
  rw [← LastFigure.filter_iff hcounted, h.counted, LastFigure.filter_iff hcounted]

/-- Files that agree on what each device is given have the same merged counters. -/
theorem AreMerged.of_agree {octets' operations' : List Text} {devices : TextMap BlockIoDevice}
    (h : AreMerged name octets operations devices) (hoctets : Agree name octets octets')
    (hoperations : Agree name operations operations') :
    AreMerged name octets' operations' devices where
  present key := by
    have hboth : ∀ front behind : List Text,
        (∃ line ∈ front ++ behind, ∃ operation n, GivesFigure name key operation line n) ↔
          (∃ line ∈ front, ∃ operation n, GivesFigure name key operation line n) ∨
            ∃ line ∈ behind, ∃ operation n, GivesFigure name key operation line n := by
      intro front behind
      simp only [List.mem_append, or_and_right, exists_or]
    rw [h.present, hboth, hboth, hoctets.names, hoperations.names]
  figures key device operation hdevice := by
    obtain ⟨hoctet, hoperation⟩ := h.figures key device operation hdevice
    exact ⟨hoctets.lastFigure_iff.mp hoctet, hoperations.lastFigure_iff.mp hoperation⟩

end Merged

section Reading

variable {w : World} {names : DeviceDirectory} {directory : Path}

/-- The throttle files of the directory have these lines. -/
structure HasThrottles (w : World) (directory : Path) (octets operations : List Text) : Prop where
  octets : HasLines w (Path.join directory "blkio.throttle.io_service_bytes".toList) octets
  operations : HasLines w (Path.join directory "blkio.throttle.io_serviced".toList) operations

/-- Both files are read before their devices are put together. -/
private theorem outcome_read_of_columns {octets operations : TextMap DeviceColumn}
    (hoctets : (column directory names "blkio.throttle.io_service_bytes").outcome w = .ok octets)
    (hoperations : (column directory names "blkio.throttle.io_serviced").outcome w =
      .ok operations) :
    let devices := merge octets operations
    let total : IoCount :=
      ⟨devices.total fun d => d.total.bytes, devices.total fun d => d.total.operations⟩
    (read directory names).outcome w =
      if total.bytes < 2 ^ 64 ∧ total.operations < 2 ^ 64 then .ok ⟨total, devices⟩
      else .error .overflow := by
  intro devices total
  have hbound : total.bytes < 2 ^ 64 ∧ total.operations < 2 ^ 64 ↔
      (total.bytes ≤ Numeral.max64 && total.operations ≤ Numeral.max64) = true := by
    rw [Bool.and_eq_true, decide_eq_true_eq, decide_eq_true_eq, Numeral.max64]
    omega
  apply (outcome_bind_of_ok hoctets _).trans
  apply (outcome_bind_of_ok hoperations _).trans
  by_cases hfits : total.bytes < 2 ^ 64 ∧ total.operations < 2 ^ 64
  · rw [if_pos hfits]
    exact congrArg (Probe.outcome · w) (if_pos (hbound.mp hfits))
  · rw [if_neg hfits]
    exact congrArg (Probe.outcome · w) (if_neg (mt hbound.mpr hfits))

/-- **Merged throttle files.** If both throttle files of a directory are accepted, the devices are
those to which their lines give figures, each with the last figures for its name, and their totals
are added up. Reading overflows exactly if a sum is no number of 64 bits. What the lines say beyond
the names of devices and the three operations never matters. -/
theorem outcome_read_merged (w : World) (names : DeviceDirectory) (directory : Path)
    (hoctets : (column directory names "blkio.throttle.io_service_bytes").Succeeds w)
    (hoperations : (column directory names "blkio.throttle.io_serviced").Succeeds w) :
    ∃ octets operations devices, HasThrottles w directory octets operations ∧
      AreMerged (names.nameIn w) octets operations devices ∧
      (let total : IoCount :=
        ⟨devices.total fun d => d.total.bytes, devices.total fun d => d.total.operations⟩
      (read directory names).outcome w =
        if total.bytes < 2 ^ 64 ∧ total.operations < 2 ^ 64 then .ok ⟨total, devices⟩
        else .error .overflow) ∧
      ∀ directory' octets' operations', HasThrottles w directory' octets' operations' →
        (column directory' names "blkio.throttle.io_service_bytes").Succeeds w →
        (column directory' names "blkio.throttle.io_serviced").Succeeds w →
        Agree (names.nameIn w) octets octets' → Agree (names.nameIn w) operations operations' →
        (read directory' names).outcome w = (read directory names).outcome w := by
  obtain ⟨octetColumns, hoctets⟩ := hoctets
  obtain ⟨operationColumns, hoperations⟩ := hoperations
  obtain ⟨octets, hoctetLines, hoctetFollows⟩ := follows_of_column hoctets
  obtain ⟨operations, hoperationLines, hoperationFollows⟩ := follows_of_column hoperations
  have hmerged := areMerged_merge hoctetFollows hoperationFollows
  have hread := outcome_read_of_columns hoctets hoperations
  refine ⟨octets, operations, _, ⟨hoctetLines, hoperationLines⟩, hmerged, hread, ?_⟩
  rintro directory' octets' operations' hlines ⟨octetColumns', hoctets'⟩
    ⟨operationColumns', hoperations'⟩ hsameOctets hsameOperations
  obtain ⟨_, hoctetLines', hoctetFollows'⟩ := follows_of_column hoctets'
  obtain ⟨_, hoperationLines', hoperationFollows'⟩ := follows_of_column hoperations'
  obtain rfl := hlines.octets.unique hoctetLines'
  obtain rfl := hlines.operations.unique hoperationLines'
  have hmerged' := areMerged_merge hoctetFollows' hoperationFollows'
  have hdevices := (hmerged.of_agree hsameOctets hsameOperations).unique hmerged'
  rw [hread, outcome_read_of_columns hoctets' hoperations', ← hdevices]

/-- Lines with two tokens of one device and an operation that is not asked for. -/
private def octetLines : List Text :=
  ["8:0 Read 1\n".toList, "08:0 Read 2\n".toList, "8:0 Sync 7\n".toList]

/-- The line with the grand total. -/
private def grandTotalLine : Text := "Total 10\n".toList

/-- A kernel with two cgroups `a` and `b` whose files differ in a grand total. -/
private def throttled : World := ⟨KernelSampler.kernelTree [
  (["dev".toList, "8:0".toList, "uevent".toList], .file (encode "DEVNAME=sda\n".toList)),
  (["a".toList, "blkio.throttle.io_service_bytes".toList], .file (encode octetLines.flatten)),
  (["a".toList, "blkio.throttle.io_serviced".toList], .file (encode "8:16 Total 4\n".toList)),
  (["b".toList, "blkio.throttle.io_service_bytes".toList],
    .file (encode (octetLines ++ [grandTotalLine]).flatten)),
  (["b".toList, "blkio.throttle.io_serviced".toList], .file (encode "8:16 Total 4\n".toList))],
  ⟨0⟩⟩

/-- Two tokens of one device with a name are merged, and the last of their figures counts. A device
without a name goes by its token. A grand total changes nothing. -/
theorem outcome_read_merged_named :
    let names : DeviceDirectory := ⟨some "/dev".toList⟩
    let sda : BlockIoDevice := ⟨⟨2, 0⟩, ⟨0, 0⟩, ⟨0, 0⟩⟩
    let other : BlockIoDevice := ⟨⟨0, 0⟩, ⟨0, 0⟩, ⟨0, 4⟩⟩
    let file (directory : String) := column directory.toList names
    (file "/a" "blkio.throttle.io_service_bytes").Succeeds throttled ∧
      (file "/a" "blkio.throttle.io_serviced").Succeeds throttled ∧
      (read "/a".toList names).outcome throttled =
        .ok ⟨⟨0, 4⟩, .ofList [("sda".toList, sda), ("8:16".toList, other)]⟩ ∧
      (read "/b".toList names).outcome throttled = (read "/a".toList names).outcome throttled := by
  intro names sda other file
  have hoctets : (file "/a" "blkio.throttle.io_service_bytes").Succeeds throttled :=
    ⟨.ofList [("sda".toList, ⟨2, 0, 0⟩)], by decide +kernel⟩
  have hoperations : (file "/a" "blkio.throttle.io_serviced").Succeeds throttled :=
    ⟨.ofList [("8:16".toList, ⟨0, 0, 4⟩)], by decide +kernel⟩
  have hread : (read "/a".toList names).outcome throttled =
      .ok ⟨⟨0, 4⟩, .ofList [("sda".toList, sda), ("8:16".toList, other)]⟩ := by decide +kernel
  obtain ⟨octets, operations, devices, hlines, -, -, hsame⟩ :=
    outcome_read_merged throttled names "/a".toList hoctets hoperations
  obtain rfl : octets = octetLines :=
    hlines.octets.unique ⟨.content _, rfl, by decide +kernel⟩
  obtain rfl : operations = ["8:16 Total 4\n".toList] :=
    hlines.operations.unique ⟨.content _, rfl, by decide +kernel⟩
  have hother : HasThrottles throttled "/b".toList (octetLines ++ [grandTotalLine])
      ["8:16 Total 4\n".toList] :=
    ⟨⟨.content _, rfl, by decide +kernel⟩, ⟨.content _, rfl, by decide +kernel⟩⟩
  have hagree : Agree (names.nameIn throttled) octetLines (octetLines ++ [grandTotalLine]) := by
    have hcounted : ¬ IsCounted grandTotalLine := by decide +kernel
    have hknown : ∀ key operation n,
        GivesFigure (names.nameIn throttled) key operation grandTotalLine n →
        ∃ line ∈ octetLines ++ [], ∃ operation n,
          GivesFigure (names.nameIn throttled) key operation line n := by
      rintro key operation n ⟨token, figure, device, hwords, -⟩
      have hlength : (words grandTotalLine).length = 2 := by decide +kernel
      simp [hwords] at hlength
    have hinserted := Agree.insert hcounted hknown
    rwa [List.append_nil] at hinserted
  have hoctets' : (file "/b" "blkio.throttle.io_service_bytes").Succeeds throttled :=
    ⟨.ofList [("sda".toList, ⟨2, 0, 0⟩)], by decide +kernel⟩
  have hoperations' : (file "/b" "blkio.throttle.io_serviced").Succeeds throttled :=
    ⟨.ofList [("8:16".toList, ⟨0, 0, 4⟩)], by decide +kernel⟩
  exact ⟨hoctets, hoperations, hread,
    hsame _ _ _ hother hoctets' hoperations' hagree ⟨rfl, fun _ => Iff.rfl⟩⟩

end Reading

end BlockIo

end Legacy

end ProcessMeter
