import ProcessMeter.Proofs.Outcomes
import ProcessMeter.Mount.Table
import ProcessMeter.Proofs.TextMaps

/-!
# Mount tables

A mount table is gone through line by line with the mounts found so far. The result is that of two
steps: first all records are read, then their mounts are put together.
-/

namespace ProcessMeter

open Probe

/-- The records on the lines of the mount table at `path`. Blank lines hold none, and the first line
that cannot be read or is malformed fails. -/
def MountRecord.readLines (path : Path) : Lines → Except MountFailure (List MountRecord)
  | [] => .ok []
  | .error failure :: _ => .error (.cannotReadLine path failure)
  | .ok line :: rest =>
    if (Text.trim line).isEmpty then readLines path rest
    else
      match read (Text.trimEnd line) with
      | .error error => .error (.malformed path error)
      | .ok record => (readLines path rest).map (record :: ·)

namespace CgroupMounts

variable {path rootfs : Path} {w : World}

/-- The unified hierarchy stays where it was found first. -/
theorem unified_add (record : MountRecord) (mounts : CgroupMounts) :
    (mounts.add rootfs record).unified = mounts.unified.or
      (if record.isUnified = true then some (record.cgroupMount rootfs) else Option.none) := by
  unfold add
  by_cases hunified : record.isUnified = true
  · rw [if_pos hunified, if_pos hunified]
  · rw [if_neg hunified, if_neg hunified, Option.or_none]
    split <;> rfl

/-- Each subsystem stays where it was found first. -/
theorem get?_add (record : MountRecord) (mounts : CgroupMounts) (name : Text) :
    (mounts.add rootfs record).subsystems.get? name = (mounts.subsystems.get? name).or
      (if record.isLegacy = true ∧ name ∈ record.subsystems then some (record.cgroupMount rootfs)
        else Option.none) := by
  unfold add
  by_cases hunified : record.isUnified = true
  · have hlegacy : ¬ record.isLegacy = true := by
      rw [MountRecord.isLegacy, eq_of_beq hunified]
      decide
    simp [if_pos hunified, hlegacy]
  · rw [if_neg hunified]
    by_cases hlegacy : record.isLegacy = true
    · rw [if_pos hlegacy]
      simp only [TextMap.get?_insertNew_all, hlegacy, true_and]
    · simp [hlegacy]

/-- The mounts of records, seen below `rootfs`. -/
def ofRecords (rootfs : Path) (records : List MountRecord) : CgroupMounts :=
  records.foldl (fun mounts record => mounts.add rootfs record) .none

/-- A blank line is passed over; any other one adds its mount or ends the reading. -/
theorem outcome_takeLine (line : Text) (mounts : CgroupMounts) :
    (takeLine path rootfs line mounts).outcome w =
      if (Text.trim line).isEmpty then .ok mounts
      else
        match MountRecord.read (Text.trimEnd line) with
        | .error error => .error (.failed (.malformed path error))
        | .ok record => .ok (mounts.add rootfs record) := by
  unfold takeLine
  split
  · rfl
  · cases MountRecord.read (Text.trimEnd line) with
    | error error => rfl
    | ok record =>
      dsimp only
      split
      · rw [outcome_bind_of_ok (outcome_log w _ _)]
        rfl
      · rfl

/-- The loop over lines adds the records on them to what was found before. -/
theorem outcome_carry_takeLine (number : Nat) (mounts : CgroupMounts) (lines : Lines) :
    (Lines.carry (fun failure => Probe.fail (.cannotReadLine path failure))
        (fun _ line mounts => takeLine path rootfs line mounts) number mounts lines).outcome w =
      ((MountRecord.readLines path lines).map fun records =>
        records.foldl (fun mounts record => mounts.add rootfs record) mounts).mapError .failed := by
  induction lines generalizing number mounts with
  | nil => rfl
  | cons line rest ih =>
    cases line with
    | error failure => rfl
    | ok line =>
      rw [Lines.carry, outcome_bind, outcome_takeLine, MountRecord.readLines]
      by_cases hblank : (Text.trim line).isEmpty = true
      · simp only [hblank, if_true]
        exact ih (number + 1) mounts
      · rw [if_neg hblank, if_neg hblank]
        cases MountRecord.read (Text.trimEnd line) with
        | error error => rfl
        | ok record =>
          refine (ih (number + 1) (mounts.add rootfs record)).trans ?_
          cases MountRecord.readLines path rest <;> rfl

/-- What is found in a mount table is what its records say, taken together. -/
theorem outcome_readTable :
    (readTable path rootfs).outcome w =
      match w.files.openFile path with
      | .error failure => .error (.failed (.cannotOpen path failure))
      | .ok opened =>
        match MountRecord.readLines path (Lines.ofOpened opened) with
        | .error failure => .error (.failed failure)
        | .ok records =>
          if (ofRecords rootfs records).isEmpty then .error (.failed (.noCgroups path))
          else .ok (ofRecords rootfs records) := by
  rw [readTable, outcome_bind_of_ok (outcome_files w)]
  cases w.files.openFile path with
  | error failure => rfl
  | ok opened =>
    dsimp only
    rw [outcome_bind, outcome_carry_takeLine]
    cases MountRecord.readLines path (Lines.ofOpened opened) with
    | error failure => rfl
    | ok records =>
      change ((if (ofRecords rootfs records).isEmpty then Probe.fail (MountFailure.noCgroups path)
        else pure (ofRecords rootfs records)) : Probe MountFailure CgroupMounts).outcome w = _
      dsimp only
      split <;> rfl

/-- Mounts that are found are those of records. -/
theorem exists_records_of_readTable {mounts : CgroupMounts}
    (h : (readTable path rootfs).outcome w = .ok mounts) :
    ∃ records, mounts = ofRecords rootfs records := by
  rw [outcome_readTable] at h
  split at h
  · cases h
  · split at h
    · cases h
    · next records _ =>
      split at h
      · cases h
      · exact ⟨records, (Except.ok.inj h).symm⟩

end CgroupMounts

end ProcessMeter
