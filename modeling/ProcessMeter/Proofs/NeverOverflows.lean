import ProcessMeter.Cgroup.Accounting
import ProcessMeter.Process.Procfs
import ProcessMeter.Proofs.Outcomes

/-!
# Probes that never overflow

An overflow can only come from a sum of counters, and almost no probe adds counters up. This file
collects the probes that never overflow, whatever the files hold: the property is kept by
sequences, attempts and loops over lines, and so it passes from the primitive probes to the
readers of whole controllers. The two readers that do add counters up are left over.
-/

namespace ProcessMeter

namespace Probe

variable {ε ε' α β : Type}

/-- The probe does not overflow at any world. -/
def NeverOverflows (x : Probe ε α) : Prop := ∀ w, x.outcome w ≠ .error .overflow

/-- A value never overflows. -/
theorem neverOverflows_pure (a : α) : (pure a : Probe ε α).NeverOverflows := fun _ => nofun

/-- A failure is no overflow. -/
theorem neverOverflows_fail (reason : ε) : (fail reason : Probe ε α).NeverOverflows := by
  intro w h
  simp at h

/-- Looking at the files never overflows. -/
theorem neverOverflows_files : (files : Probe ε FileTree).NeverOverflows := fun _ => nofun

/-- Writing to the log never overflows. -/
theorem neverOverflows_log (level : Level) (text : String) :
    (log level text : Probe ε Unit).NeverOverflows := fun _ => nofun

/-- A result that is given is no overflow. -/
theorem neverOverflows_ofExcept (x : Except ε α) : (ofExcept x).NeverOverflows := by
  cases x with
  | error failure => exact fun _ => nofun
  | ok a => exact fun _ => nofun

/-- A sequence of two probes that never overflow never overflows. -/
theorem NeverOverflows.bind {x : Probe ε α} {f : α → Probe ε β} (hx : x.NeverOverflows)
    (hf : ∀ a, (f a).NeverOverflows) : (x >>= f).NeverOverflows := by
  intro w h
  rcases outcome_bind_eq_error.mp h with h | ⟨a, -, h⟩
  · exact hx w h
  · exact hf a w h

/-- Catching a failure brings no overflow in. -/
theorem NeverOverflows.attempt {x : Probe ε α} (hx : x.NeverOverflows) :
    (Probe.attempt x : Probe ε' (Except ε α)).NeverOverflows :=
  fun w h => hx w (outcome_attempt_eq_overflow.mp h)

/-- Rewording a failure brings no overflow in. -/
theorem NeverOverflows.mapFailure {x : Probe ε α} (hx : x.NeverOverflows) (f : ε → ε') :
    (x.mapFailure f).NeverOverflows :=
  fun w h => hx w (outcome_mapFailure_eq_overflow.mp h)

/-- What matters of a probe that never overflows is whether it has a value: otherwise it fails. -/
theorem NeverOverflows.outcome_cases {x : Probe ε α} (hx : x.NeverOverflows) (w : World) :
    (∃ a, x.outcome w = .ok a) ∨ ∃ reason, x.outcome w = .error (.failed reason) := by
  cases h : x.outcome w with
  | ok a => exact Or.inl ⟨a, rfl⟩
  | error fault =>
    cases fault with
    | failed reason => exact Or.inr ⟨reason, rfl⟩
    | overflow => exact absurd h (hx w)

/-- A loop over lines never overflows if no step does. -/
theorem neverOverflows_carry {σ : Type} {unreadable : FileFailure → Probe ε σ}
    {step : Nat → Text → σ → Probe ε σ} (hunreadable : ∀ f, (unreadable f).NeverOverflows)
    (hstep : ∀ n text state, (step n text state).NeverOverflows) (number : Nat) (state : σ)
    (lines : Lines) : (Lines.carry unreadable step number state lines).NeverOverflows := by
  induction lines generalizing number state with
  | nil => exact neverOverflows_pure state
  | cons line rest ih =>
    cases line with
    | error failure => exact hunreadable failure
    | ok text => exact (hstep number text state).bind fun next => ih (number + 1) next

end Probe

open Probe

namespace Stat

variable {α : Type} (path : Path)

/-- Opening a file never overflows. -/
theorem openLines_neverOverflows : (openLines path).NeverOverflows := by
  refine neverOverflows_files.bind fun tree => ?_
  split
  · exact neverOverflows_pure _
  · exact neverOverflows_fail _

/-- Reading a file never overflows if its reader never does. -/
theorem readWith_neverOverflows {reader : Lines → Probe ReadFailure α}
    (h : ∀ lines, (reader lines).NeverOverflows) : (readWith path reader).NeverOverflows :=
  (openLines_neverOverflows path).bind fun lines => (h lines).mapFailure _

/-- A file that is read without effects never overflows. -/
theorem read_neverOverflows (reader : LineReader α) : (read path reader).NeverOverflows :=
  readWith_neverOverflows path fun lines => neverOverflows_ofExcept (reader lines)

/-- Reading an optional file never overflows. -/
theorem readOptional_neverOverflows (reader : LineReader α) :
    (readOptional path reader).NeverOverflows := by
  refine (read_neverOverflows path reader).attempt.bind fun result => ?_
  cases result with
  | ok value => exact neverOverflows_pure _
  | error failure =>
    dsimp only
    split
    · exact neverOverflows_pure _
    · exact neverOverflows_fail _

/-- Reading a file as one text never overflows. -/
theorem readText_neverOverflows : (readText path).NeverOverflows := by
  refine neverOverflows_files.bind fun tree => ?_
  split
  · exact neverOverflows_pure _
  · exact neverOverflows_fail _

end Stat

open Stat

namespace Host

/-- Reading the physical memory never overflows. -/
theorem memoryTotal_neverOverflows (rootfs : Path) : (memoryTotal rootfs).NeverOverflows :=
  read_neverOverflows _ _

/-- Counting the processors never overflows. -/
theorem processorCount_neverOverflows (rootfs : Path) : (processorCount rootfs).NeverOverflows :=
  read_neverOverflows _ _

end Host

namespace Procfs

variable (rootfs : Path) (pid : Nat)

/-- Listing the processes never overflows. -/
theorem pids_neverOverflows : (pids rootfs).NeverOverflows := by
  refine neverOverflows_files.bind fun tree => ?_
  split
  · exact neverOverflows_fail _
  · exact neverOverflows_pure _

/-- Reading the state of a process never overflows. -/
theorem record_neverOverflows : (record rootfs pid).NeverOverflows := by
  refine ((readText_neverOverflows _).mapFailure _).bind fun text => ?_
  split
  · exact neverOverflows_pure _
  · exact neverOverflows_fail _

/-- Reading the identity of a process never overflows. -/
theorem identity_neverOverflows : (identity rootfs pid).NeverOverflows :=
  (record_neverOverflows rootfs pid).bind fun _ => neverOverflows_pure _

/-- What a process can do without overflows only where its reading does. -/
theorem optional_neverOverflows {α : Type} {reading : Probe PathFailure α}
    (h : reading.NeverOverflows) : (optional rootfs pid reading).NeverOverflows := by
  refine h.attempt.bind fun result => ?_
  cases result with
  | ok value => exact neverOverflows_pure _
  | error failure =>
    refine neverOverflows_files.bind fun tree => ?_
    split
    · exact neverOverflows_fail _
    · split
      · exact neverOverflows_fail _
      · exact (neverOverflows_log _ _).bind fun _ => neverOverflows_pure _

end Procfs

/-- Finding the name of a device never overflows. -/
theorem DeviceDirectory.name_neverOverflows {ε : Type} (names : DeviceDirectory)
    (device : BlockDevice) : (names.name device : Probe ε Text).NeverOverflows := by
  refine neverOverflows_files.bind fun tree => ?_
  split
  · exact neverOverflows_pure _
  · exact (neverOverflows_log _ _).bind fun _ => neverOverflows_pure _

/-- Reading a pressure file never overflows. -/
theorem Pressure.read_neverOverflows (path : Path) : (Pressure.read path).NeverOverflows := by
  refine (readOptional_neverOverflows _ _).attempt.bind fun result => ?_
  split
  · exact neverOverflows_pure _
  · exact (neverOverflows_log _ _).bind fun _ => neverOverflows_pure _
  · split
    · exact (neverOverflows_log _ _).bind fun _ => neverOverflows_pure _
    · exact neverOverflows_fail _

/-- Reading the numbers of processes in a cgroup never overflows. -/
theorem PidsStat.read_neverOverflows (directory : Path) :
    (PidsStat.read directory).NeverOverflows := by
  refine (Stat.read_neverOverflows _ _).bind fun current => ?_
  exact (readOptional_neverOverflows _ _).bind fun limit => neverOverflows_pure _

namespace Unified

variable (directory : Path)

/-- Reading the processor controller of version 2 never overflows. -/
theorem Cpu.read_neverOverflows : (Cpu.read directory).NeverOverflows := by
  refine (Stat.read_neverOverflows _ _).bind fun stat => ?_
  refine (readOptional_neverOverflows _ _).bind fun limit => ?_
  refine (readOptional_neverOverflows _ _).bind fun weight => ?_
  exact (Pressure.read_neverOverflows _).bind fun pressure => neverOverflows_pure _

/-- Reading the memory controller of version 2 never overflows. -/
theorem Memory.read_neverOverflows : (Memory.read directory).NeverOverflows := by
  refine (Stat.read_neverOverflows _ _).bind fun usage => ?_
  refine (Stat.read_neverOverflows _ _).bind fun stat => ?_
  refine (readOptional_neverOverflows _ _).bind fun limit => ?_
  refine (readOptional_neverOverflows _ _).bind fun high => ?_
  refine (readOptional_neverOverflows _ _).bind fun swapUsage => ?_
  refine (readOptional_neverOverflows _ _).bind fun swapLimit => ?_
  refine (readOptional_neverOverflows _ _).bind fun events => ?_
  exact (Pressure.read_neverOverflows _).bind fun pressure => neverOverflows_pure _

/-- The words of a line name devices, and a look-up of a name never overflows. -/
theorem IoLine.takeWords_neverOverflows {nameOf : BlockDevice → Probe ReadFailure Text}
    (h : ∀ device, (nameOf device).NeverOverflows) (number : Nat) (line : IoLine)
    (words : List Text) : (IoLine.takeWords nameOf number line words).NeverOverflows := by
  induction words generalizing line with
  | nil => exact neverOverflows_pure _
  | cons word rest ih =>
    rw [IoLine.takeWords]
    split
    · exact neverOverflows_fail _
    · exact ih _
    · exact ih _
    · exact (h _).bind fun _ => ih _

/-- Reading the lines about devices never overflows: figures are replaced, not added. -/
theorem readIoLines_neverOverflows (names : DeviceDirectory) (lines : Lines) :
    (readIoLines names.name lines).NeverOverflows := by
  refine neverOverflows_carry (fun _ => neverOverflows_fail _) (fun number text _ => ?_) 1 _ lines
  exact (IoLine.takeWords_neverOverflows names.name_neverOverflows number _ _).bind fun _ =>
    neverOverflows_pure _

/-- Reading the device controller of version 2 never overflows. -/
theorem Io.read_neverOverflows (names : DeviceDirectory) :
    (Io.read directory names).NeverOverflows :=
  (readWith_neverOverflows _ (readIoLines_neverOverflows names)).bind fun _ =>
    (Pressure.read_neverOverflows _).bind fun _ => neverOverflows_pure _

end Unified

namespace Legacy

variable (directory : Path)

/-- Reading the processor subsystem of version 1 never overflows. -/
theorem Cpu.read_neverOverflows : (Cpu.read directory).NeverOverflows := by
  refine (Stat.read_neverOverflows _ _).bind fun shares => ?_
  refine (readOptional_neverOverflows _ _).bind fun period => ?_
  refine (readOptional_neverOverflows _ _).bind fun quota => ?_
  exact (readOptional_neverOverflows _ _).bind fun throttling => neverOverflows_pure _

/-- Reading the times of version 1 never overflows. -/
theorem CpuTime.read_neverOverflows (units : HostUnits) :
    (CpuTime.read units directory).NeverOverflows := by
  refine (Stat.read_neverOverflows _ _).bind fun total => ?_
  refine (readOptional_neverOverflows _ _).bind fun modes => ?_
  exact (readOptional_neverOverflows _ _).bind fun processors => neverOverflows_pure _

/-- Reading one family of memory files never overflows. -/
theorem MemoryFamily.read?_neverOverflows (family : String) :
    (MemoryFamily.read? directory family).NeverOverflows := by
  refine (readOptional_neverOverflows _ _).bind fun usage => ?_
  cases usage with
  | none => exact neverOverflows_pure _
  | some usage =>
    refine (readOptional_neverOverflows _ _).bind fun peak => ?_
    refine (readOptional_neverOverflows _ _).bind fun limit => ?_
    exact (readOptional_neverOverflows _ _).bind fun failures => neverOverflows_pure _

/-- Reading the memory subsystem of version 1 never overflows. -/
theorem Memory.read_neverOverflows : (Memory.read directory).NeverOverflows := by
  refine (MemoryFamily.read?_neverOverflows _ _).bind fun memory => ?_
  cases memory with
  | none => exact neverOverflows_fail _
  | some memory =>
    refine (MemoryFamily.read?_neverOverflows _ _).bind fun withSwap => ?_
    refine (MemoryFamily.read?_neverOverflows _ _).bind fun kernel => ?_
    exact (Stat.read_neverOverflows _ _).bind fun stat => neverOverflows_pure _

/-- One throttle file of the block devices never overflows, only the sum over both does. -/
theorem DeviceColumn.readLines_neverOverflows (names : DeviceDirectory) (lines : Lines) :
    (DeviceColumn.readLines names.name lines).NeverOverflows := by
  refine neverOverflows_carry (fun _ => neverOverflows_fail _) (fun number text _ => ?_) 1 _ lines
  unfold DeviceColumn.takeLine
  split
  · exact neverOverflows_fail _
  · exact neverOverflows_pure _
  · exact (names.name_neverOverflows _).bind fun _ => neverOverflows_pure _

end Legacy

namespace Cgroup

/-- A controller that is left out on failure overflows where its reading does, and only there. -/
theorem outcome_optional {ε α : Type} (controller : Probe PathFailure α) (w : World) :
    (optional controller : Probe ε (Option α)).outcome w =
      match controller.outcome w with
      | .ok a => .ok (some a)
      | .error (.failed _) => .ok none
      | .error .overflow => .error .overflow := by
  rw [optional, outcome_attempt_bind]
  rcases controller.outcome w with (failure | _) | a
  · dsimp only
    split
    · rfl
    · rfl
  · rfl
  · rfl

/-- A controller that never overflows is always read or left out. -/
theorem exists_optional {ε α : Type} {controller : Probe PathFailure α}
    (h : controller.NeverOverflows) (w : World) :
    ∃ found, (optional controller : Probe ε (Option α)).outcome w = .ok found := by
  rw [outcome_optional]
  rcases h.outcome_cases w with ⟨a, ha⟩ | ⟨failure, hfailure⟩
  · exact ⟨some a, by rw [ha]⟩
  · exact ⟨none, by rw [hfailure]⟩

/-- Noting subsystems without a mount never overflows. -/
theorem Locator.noteUnmounted_neverOverflows (locator : Locator) (paths : List (Text × Path)) :
    (locator.noteUnmounted paths).NeverOverflows := by
  induction paths with
  | nil => exact neverOverflows_pure _
  | cons path rest ih =>
    obtain ⟨name, place⟩ := path
    rw [Locator.noteUnmounted]
    split
    · exact (neverOverflows_log _ _).bind fun _ => ih
    · exact ih

/-- Finding the cgroup of a process never overflows. -/
theorem Locator.locate_neverOverflows (locator : Locator) (pid : Nat) :
    (locator.locate pid).NeverOverflows := by
  refine ((Stat.read_neverOverflows _ _).mapFailure _).bind fun entries => ?_
  dsimp only
  split
  · exact (locator.noteUnmounted_neverOverflows _).bind fun _ => neverOverflows_ofExcept _
  · exact neverOverflows_ofExcept _

end Cgroup

end ProcessMeter
