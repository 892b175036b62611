import ProcessMeter.Proofs.NeverOverflows
import ProcessMeter.Proofs.TextMaps

/-!
# Sums of counters

Two readers add counters up: the network file is summed over its interfaces, and the block devices
of a cgroup of version 1 are summed over both throttle files. A sum that is no 64-bit number is an
overflow. Each reader overflows exactly if the whole sum does, so the order of its lines does not
matter for that.
-/

namespace ProcessMeter

namespace InterfaceCounters

/-- If a sum is made of 64-bit numbers, so is its first part. -/
theorem fits_of_fits_add {s t : InterfaceCounters} (h : (s.add t).fits = true) : s.fits = true := by
  simp only [fits, columns, add, List.all_cons, List.all_nil, Bool.and_true, Bool.and_eq_true,
    decide_eq_true_eq] at h ⊢
  omega

/-- A sum over many interfaces is not made of 64-bit numbers once a part of it is not. -/
theorem fits_of_fits_foldl {s : InterfaceCounters} {interfaces : List InterfaceCounters}
    (h : (interfaces.foldl add s).fits = true) : s.fits = true := by
  induction interfaces generalizing s with
  | nil => exact h
  | cons interface rest ih => exact fits_of_fits_add (ih h)

end InterfaceCounters

namespace NetworkCounters

/-- The interfaces that count: all but the loopback interface, up to the first line that cannot be
read. -/
def listed (number : Nat) : Lines → List InterfaceCounters
  | [] => []
  | .error _ :: _ => []
  | .ok text :: rest =>
    if number ≤ headingLines || (Text.trim text).isEmpty then listed (number + 1) rest
    else
      match readLine number text with
      | .error _ => []
      | .ok (name, interface) =>
        if name = loopback then listed (number + 1) rest
        else interface :: listed (number + 1) rest

/-- The loop over the lines overflows exactly if what it has added up so far leaves the range of 64
bits together with the interfaces that are left. -/
private theorem carry_eq_overflow {counters : NetworkCounters} (hfits : counters.total.fits = true)
    (number : Nat) (lines : Lines) :
    Lines.carry (fun failure => Except.error (Fault.failed (ReadFailure.file failure))) takeLine
        number counters lines = .error .overflow ↔
      ((listed number lines).foldl InterfaceCounters.add counters.total).fits = false := by
  induction lines generalizing number counters with
  | nil => simp [Lines.carry, listed, hfits, pure, Except.pure]
  | cons line rest ih =>
    cases line with
    | error failure => simp [Lines.carry, listed, hfits]
    | ok text =>
      rw [Lines.carry, listed, takeLine]
      by_cases hidle : (number ≤ headingLines || (Text.trim text).isEmpty) = true
      · rw [if_pos hidle, if_pos hidle]
        exact ih hfits (number + 1)
      · rw [if_neg hidle, if_neg hidle]
        cases hline : readLine number text with
        | error error => simp [hfits, bind, Except.bind]
        | ok found =>
          obtain ⟨name, interface⟩ := found
          dsimp only
          by_cases hloopback : name = loopback
          · rw [add?, if_pos hloopback, if_pos hloopback]
            exact ih hfits (number + 1)
          · rw [add?, if_neg hloopback, if_neg hloopback, List.foldl_cons]
            by_cases hsum : (counters.total.add interface).fits = true
            · rw [if_pos hsum]
              exact ih hsum (number + 1)
            · rw [if_neg hsum]
              -- what has overflowed stays too large
              simpa [bind, Except.bind] using fun h =>
                hsum (InterfaceCounters.fits_of_fits_foldl h)

/-- Reading the network file overflows exactly if some column of it, summed over the interfaces that
count, is no 64-bit number. -/
theorem readLines_eq_overflow {lines : Lines} :
    readLines lines = .error .overflow ↔
      ((listed 1 lines).foldl InterfaceCounters.add .zero).fits = false :=
  carry_eq_overflow (by decide) 1 lines

end NetworkCounters

namespace Legacy

namespace BlockIo

/-- The devices of the file with octets. -/
private def octets (bytes : TextMap DeviceColumn) : TextMap BlockIoDevice :=
  bytes.entries.foldl (fun m e => m.update e.1 .zero (.withBytes e.2)) .empty

/-- Both files are merged by updating the octets with the operations one by one. -/
private theorem merge_eq (bytes operations : TextMap DeviceColumn) :
    merge bytes operations =
      operations.entries.foldl (fun m e => m.update e.1 .zero (.withOperations e.2))
        (octets bytes) :=
  rfl

/-- The totals of a file add up to the total of the map. -/
private theorem sum_columns (m : TextMap DeviceColumn) :
    m.entries.foldr (fun e sum => e.2.total + sum) 0 = m.total fun c => c.total := by
  rw [TextMap.total, TextMap.values, List.foldr_map]

/-- The operations of both files together are those of the second file, since the first one gives
none. -/
private theorem total_operations (bytes operations : TextMap DeviceColumn) :
    (merge bytes operations).total (fun d => d.total.operations) =
      operations.total fun c => c.total := by
  have hfresh : BlockIoDevice.zero.total.operations = 0 := rfl
  have hbytes : ∀ (c : DeviceColumn) (d : BlockIoDevice),
      (BlockIoDevice.withBytes c d).total.operations = d.total.operations := fun _ _ => rfl
  have hoperations : ∀ (c : DeviceColumn) (d : BlockIoDevice),
      (BlockIoDevice.withOperations c d).total.operations = c.total := fun _ _ => rfl
  have hnone : (octets bytes).total (fun d => d.total.operations) = 0 :=
    TextMap.total_foldl_update_of_unchanged (fun d : BlockIoDevice => d.total.operations) hfresh
      hbytes _ _
  have hnew : ∀ e ∈ operations.entries,
      (octets bytes).figure (fun d => d.total.operations) e.1 = 0 := by
    intro e _
    have hle := TextMap.figure_le_total (fun d : BlockIoDevice => d.total.operations) hfresh
      (octets bytes) e.1
    omega
  have hsum := TextMap.total_foldl_update (fun d : BlockIoDevice => d.total.operations) .zero
    hoperations operations.entries_pairwise_ne hnew
  rw [merge_eq, hsum, hnone, sum_columns, Nat.zero_add]

/-- The octets of both files together are those of the first file. -/
private theorem total_bytes (bytes operations : TextMap DeviceColumn) :
    (merge bytes operations).total (fun d => d.total.bytes) = bytes.total fun c => c.total := by
  have hfresh : BlockIoDevice.zero.total.bytes = 0 := rfl
  have hbytes : ∀ (c : DeviceColumn) (d : BlockIoDevice),
      (BlockIoDevice.withBytes c d).total.bytes = c.total := fun _ _ => rfl
  have hoperations : ∀ (c : DeviceColumn) (d : BlockIoDevice),
      (BlockIoDevice.withOperations c d).total.bytes = d.total.bytes := fun _ _ => rfl
  have hkept : (merge bytes operations).total (fun d => d.total.bytes) =
      (octets bytes).total fun d => d.total.bytes :=
    TextMap.total_foldl_update_of_unchanged (fun d : BlockIoDevice => d.total.bytes) hfresh
      hoperations _ _
  have hsum := TextMap.total_foldl_update (fun d : BlockIoDevice => d.total.bytes) .zero hbytes
    bytes.entries_pairwise_ne fun e _ => TextMap.figure_empty _ e.1
  rw [hkept, octets, hsum, sum_columns, TextMap.total_empty, Nat.zero_add]

/-- Both files of the block devices are merged without loss: the grand total adds up the totals of
each of them. -/
theorem grandTotal_merge (bytes operations : TextMap DeviceColumn) :
    grandTotal (merge bytes operations) =
      ⟨bytes.total fun c => c.total, operations.total fun c => c.total⟩ := by
  rw [← total_bytes bytes operations, ← total_operations bytes operations]
  rfl

/-- A throttle file of the block devices. -/
def column (directory : Path) (names : DeviceDirectory) (name : String) :
    Probe PathFailure (TextMap DeviceColumn) :=
  Stat.readWith (Path.join directory name.toList) (DeviceColumn.readLines names.name)

/-- Reading the block devices overflows exactly if both files can be read and the totals of the
devices in one of them add up to more than a 64-bit number. -/
theorem outcome_read_eq_overflow {directory : Path} {names : DeviceDirectory} {w : World} :
    (read directory names).outcome w = .error .overflow ↔
      ∃ bytes operations,
        (column directory names "blkio.throttle.io_service_bytes").outcome w = .ok bytes ∧
        (column directory names "blkio.throttle.io_serviced").outcome w = .ok operations ∧
        (Numeral.max64 < bytes.total (fun c => c.total) ∨
          Numeral.max64 < operations.total fun c => c.total) := by
  have hcolumn : ∀ name, (column directory names name).NeverOverflows := fun name =>
    Stat.readWith_neverOverflows _ (DeviceColumn.readLines_neverOverflows names)
  constructor
  · intro h
    rcases Probe.outcome_bind_eq_error.mp h with h | ⟨bytes, hbytes, h⟩
    · exact absurd h (hcolumn _ w)
    · rcases Probe.outcome_bind_eq_error.mp h with h | ⟨operations, hoperations, h⟩
      · exact absurd h (hcolumn _ w)
      · refine ⟨bytes, operations, hbytes, hoperations, ?_⟩
        simp only [grandTotal_merge, Bool.and_eq_true, decide_eq_true_eq] at h
        split at h
        · simp at h
        · omega
  · rintro ⟨bytes, operations, hbytes, hoperations, hlarge⟩
    refine Probe.outcome_bind_eq_error.mpr (Or.inr ⟨bytes, hbytes, ?_⟩)
    refine Probe.outcome_bind_eq_error.mpr (Or.inr ⟨operations, hoperations, ?_⟩)
    simp only [grandTotal_merge, Bool.and_eq_true, decide_eq_true_eq]
    rw [if_neg (by omega), Probe.outcome_overflow]

end BlockIo

end Legacy

end ProcessMeter
