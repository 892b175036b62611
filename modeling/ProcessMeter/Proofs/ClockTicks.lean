import Mathlib.Algebra.Group.Nat.Defs
import ProcessMeter.Proofs.Observation
import ProcessMeter.Proofs.StateGrammar

/-!
# Clock ticks

The kernel counts processor time in clock ticks. Their span is worked out from the quotient and the
remainder by the clock rate, since the ticks times the nanoseconds of a second would leave the 64
bits of a counter. This file works the span out step by step in numbers of 64 bits and shows that no
step overflows, that the span is exact, and that the processor time of a process is so too.
-/

namespace ProcessMeter

/-- The product of two counters, if that is a number of 64 bits. -/
def Numeral.product? (m n : Nat) : Option Nat := if m * n ≤ max64 then some (m * n) else none

namespace Duration

variable {hz ticks : Nat}

/-- Both spans one after the other, if the whole seconds are a number of 64 bits. -/
def add? (a b : Duration) : Option Duration :=
  if (a.add b).wholeSeconds ≤ Numeral.max64 then some (a.add b) else none

/-- The span of a number of clock ticks, if no step on the way to it overflows. -/
def ofTicks? (hz ticks : Nat) : Option Duration :=
  (Numeral.product? (ticks % hz) nanosPerSecond).bind fun product =>
    (ofSeconds (ticks / hz)).add? (ofNanos (product / hz))

/-- The quotient and the remainder together lose nothing but the fraction of a nanosecond. -/
theorem nanos_ofTicks (hhz : 0 < hz) (ticks : Nat) :
    (ofTicks hz ticks).nanos = ticks * nanosPerSecond / hz := by
  have hsplit : ticks * nanosPerSecond =
      hz * (ticks / hz * nanosPerSecond) + ticks % hz * nanosPerSecond := by
    calc ticks * nanosPerSecond
        = (hz * (ticks / hz) + ticks % hz) * nanosPerSecond := by rw [Nat.div_add_mod]
      _ = hz * (ticks / hz * nanosPerSecond) + ticks % hz * nanosPerSecond := by
        rw [Nat.add_mul, Nat.mul_assoc]
  rw [ofTicks, hsplit, Nat.mul_add_div hhz]

/-- More ticks never make a shorter span. -/
theorem nanos_ofTicks_mono (hhz : 0 < hz) {more : Nat} (h : ticks ≤ more) :
    (ofTicks hz ticks).nanos ≤ (ofTicks hz more).nanos := by
  rw [nanos_ofTicks hhz, nanos_ofTicks hhz]
  exact Nat.div_le_div_right (Nat.mul_le_mul_right nanosPerSecond h)

/-- The whole seconds are the ticks over the rate. -/
theorem wholeSeconds_ofTicks (hhz : 0 < hz) (ticks : Nat) :
    (ofTicks hz ticks).wholeSeconds = ticks / hz := by
  have hsecond : 0 < nanosPerSecond := by decide
  rw [wholeSeconds, nanos_ofTicks hhz, Nat.div_div_eq_div_mul, Nat.mul_comm hz,
    ← Nat.div_div_eq_div_mul, Nat.mul_div_cancel ticks hsecond]

/-- At a clock rate of at most a tick in a nanosecond no step overflows. -/
theorem ofTicks?_eq (hhz : 0 < hz) (hrate : hz ≤ nanosPerSecond) (hticks : ticks ≤ Numeral.max64) :
    ofTicks? hz ticks = some (ofTicks hz ticks) := by
  have hproduct : ticks % hz * nanosPerSecond ≤ Numeral.max64 := by
    have hrest : ticks % hz ≤ nanosPerSecond :=
      Nat.le_trans (Nat.le_of_lt (Nat.mod_lt ticks hhz)) hrate
    calc ticks % hz * nanosPerSecond
        ≤ nanosPerSecond * nanosPerSecond := Nat.mul_le_mul_right nanosPerSecond hrest
      _ ≤ Numeral.max64 := by decide
  have hsum : (ofSeconds (ticks / hz)).add (ofNanos (ticks % hz * nanosPerSecond / hz)) =
      ofTicks hz ticks := rfl
  have hseconds : (ofTicks hz ticks).wholeSeconds ≤ Numeral.max64 := by
    rw [wholeSeconds_ofTicks hhz]
    exact Nat.le_trans (Nat.div_le_self ticks hz) hticks
  rw [ofTicks?, Numeral.product?, if_pos hproduct, Option.bind_some, add?, hsum, if_pos hseconds]

/-- With more than eighteen ticks in a nanosecond the product can overflow. -/
example : ofTicks? (2 * 10 ^ 10) (2 * 10 ^ 10 - 1) = none := by decide

end Duration

namespace HostUnits

variable {units : HostUnits} {user system : Nat}

/-- The time in both modes from its clock ticks, if no step on the way to it overflows. -/
def processorTime? (units : HostUnits) (user system : Nat) : Option Duration :=
  (Duration.ofTicks? units.clockRate user).bind fun user =>
    (Duration.ofTicks? units.clockRate system).bind fun system => user.add? system

/-- There are ticks in a second. -/
theorem clockRate_pos (units : HostUnits) : 0 < units.clockRate :=
  Nat.lt_of_lt_of_le Nat.two_pos units.two_le_clockRate

/-- More ticks in either mode are no shorter time in both. -/
theorem nanos_add_ticks_mono {user' system' : Nat} (huser : user ≤ user')
    (hsystem : system ≤ system') :
    ((units.ticks user).add (units.ticks system)).nanos ≤
      ((units.ticks user').add (units.ticks system')).nanos :=
  Nat.add_le_add (Duration.nanos_ofTicks_mono units.clockRate_pos huser)
    (Duration.nanos_ofTicks_mono units.clockRate_pos hsystem)

/-- At a hundred ticks in a second, a tick is ten million nanoseconds. -/
theorem nanos_add_ticks (h : units.clockRate = 100) (user system : Nat) :
    ((units.ticks user).add (units.ticks system)).nanos = (user + system) * 10 ^ 7 := by
  have hticks (n : Nat) : (units.ticks n).nanos = n * 10 ^ 7 := by
    rw [ticks, h, Duration.nanos_ofTicks (by decide), nanosPerSecond]
    omega
  rw [Duration.add, hticks, hticks, Nat.add_mul]

/-- Two counters of ticks are together at most as many seconds as one counter holds, since a second
has two ticks or more. -/
private theorem wholeSeconds_add_ticks_le (huser : user ≤ Numeral.max64)
    (hsystem : system ≤ Numeral.max64) :
    ((units.ticks user).add (units.ticks system)).wholeSeconds ≤ Numeral.max64 := by
  have hhalf : ∀ n ≤ Numeral.max64, 2 * (units.ticks n).nanos ≤ Numeral.max64 * nanosPerSecond := by
    intro n hn
    calc 2 * (units.ticks n).nanos
        ≤ units.clockRate * (n * nanosPerSecond / units.clockRate) := by
          rw [ticks, Duration.nanos_ofTicks units.clockRate_pos]
          exact Nat.mul_le_mul_right _ units.two_le_clockRate
      _ ≤ n * nanosPerSecond := Nat.mul_div_le _ _
      _ ≤ Numeral.max64 * nanosPerSecond := Nat.mul_le_mul_right _ hn
  have huserHalf := hhalf user huser
  have hsystemHalf := hhalf system hsystem
  refine Nat.div_le_of_le_mul ?_
  rw [Nat.mul_comm]
  show (units.ticks user).nanos + (units.ticks system).nanos ≤ _
  omega

/-- The sum of two spans of ticks never leaves the range, since a second has two ticks at least. -/
theorem processorTime?_eq (huser : user ≤ Numeral.max64) (hsystem : system ≤ Numeral.max64) :
    units.processorTime? user system = some ((units.ticks user).add (units.ticks system)) := by
  have hofTicks : ∀ n ≤ Numeral.max64,
      Duration.ofTicks? units.clockRate n = some (units.ticks n) :=
    fun n hn => Duration.ofTicks?_eq units.clockRate_pos units.clockRate_le hn
  rw [processorTime?, hofTicks user huser, Option.bind_some, hofTicks system hsystem,
    Option.bind_some, Duration.add?, if_pos (wholeSeconds_add_ticks_le huser hsystem)]

end HostUnits

/-- The clock ticks of a state line are numbers of 64 bits. -/
theorem ProcessRecord.ticks_le_of_read {text : Text} {r : ProcessRecord} (h : read text = .ok r) :
    r.userTicks ≤ Numeral.max64 ∧ r.systemTicks ≤ Numeral.max64 := by
  obtain ⟨fields, -, hsaid⟩ := read_eq_ok_iff.mp h
  have hnumbers := hsaid.numbers
  simp only [numberPlaces, List.forall₂_cons] at hnumbers
  obtain ⟨-, -, ⟨-, -, -, huser⟩, ⟨-, -, -, hsystem⟩, -⟩ := hnumbers
  exact ⟨huser, hsystem⟩

namespace Procfs

variable {rootfs : Path} {pid : Nat} {w : World}

/-- A record is read from the text of a state line. -/
theorem exists_text_of_record {r : ProcessRecord} (h : (record rootfs pid).outcome w = .ok r) :
    ∃ text, ProcessRecord.read text = .ok r := by
  obtain ⟨text, -, h⟩ := Probe.outcome_bind_eq_ok.mp h
  refine ⟨text, ?_⟩
  cases hread : ProcessRecord.read text with
  | ok found => simpa [hread] using h
  | error error => simp [hread] at h

end Procfs

/-- **Clock ticks.** At a clock rate from one tick in a second to one in a nanosecond, the span of
any number of ticks is worked out without an overflow, and it is the exact one without its fraction
of a nanosecond, so more ticks never make a shorter span. In the units of a host the same holds of
the sum over both modes, which is the processor time that is reported of a process, and at a hundred
ticks in a second this sum is exact. -/
theorem clockTicks_exact :
    (∀ hz ticks, 1 ≤ hz → hz ≤ 10 ^ 9 → ticks < 2 ^ 64 →
      Duration.ofTicks? hz ticks = some (.ofTicks hz ticks) ∧
      (Duration.ofTicks hz ticks).nanos = ticks * 10 ^ 9 / hz ∧
      ∀ more, ticks ≤ more → (Duration.ofTicks hz ticks).nanos ≤ (Duration.ofTicks hz more).nanos) ∧
    (∀ (units : HostUnits) (user system : Nat), user < 2 ^ 64 → system < 2 ^ 64 →
      let total (user system : Nat) := (units.ticks user).add (units.ticks system)
      units.processorTime? user system = some (total user system) ∧
      (units.clockRate = 100 → (total user system).nanos = (user + system) * 10 ^ 7) ∧
      ∀ user' system', user ≤ user' → system ≤ system' →
        (total user system).nanos ≤ (total user' system').nanos) ∧
    ∀ units rootfs pid known network w m,
      (Procfs.metrics units rootfs pid known network).outcome w = .ok m →
      ∃ r, (Procfs.record rootfs pid).outcome w = .ok r ∧
        units.processorTime? r.userTicks r.systemTicks = some m.cpu.total ∧
        (units.clockRate = 100 →
          m.cpu.total.nanos = (r.userTicks + r.systemTicks) * 10 ^ 7) := by
  have hmax : ∀ {n : Nat}, n < 2 ^ 64 → n ≤ Numeral.max64 := by
    intro n hn
    rw [Numeral.max64]
    omega
  refine ⟨?_, ?_, ?_⟩
  · intro hz ticks hhz hrate hticks
    exact ⟨Duration.ofTicks?_eq hhz hrate (hmax hticks), Duration.nanos_ofTicks hhz ticks,
      fun more hmore => Duration.nanos_ofTicks_mono hhz hmore⟩
  · intro units user system huser hsystem total
    exact ⟨HostUnits.processorTime?_eq (hmax huser) (hmax hsystem),
      fun hrate => HostUnits.nanos_add_ticks hrate user system,
      fun user' system' huser' hsystem' => HostUnits.nanos_add_ticks_mono huser' hsystem'⟩
  · intro units rootfs pid known network w m hm
    obtain ⟨r, hr, hcpu⟩ := Procfs.cpu_of_metrics hm
    obtain ⟨text, htext⟩ := Procfs.exists_text_of_record hr
    obtain ⟨huser, hsystem⟩ := ProcessRecord.ticks_le_of_read htext
    rw [hcpu]
    exact ⟨r, hr, HostUnits.processorTime?_eq huser hsystem,
      fun hrate => HostUnits.nanos_add_ticks hrate _ _⟩

/-- A process that has used as many clock ticks as a counter holds. -/
private def busyWorld : World :=
  ⟨KernelSampler.kernelTree (KernelSampler.processFiles 1 (2 ^ 64 - 1)), ⟨0⟩⟩

/-- What is read of it. -/
private def busyMetrics : ProcessMetrics where
  startTime := 100
  uid := none
  cpu := ⟨⟨(2 ^ 64 - 1) * 10 ^ 7⟩, .zero, ⟨(2 ^ 64 - 1) * 10 ^ 7⟩, none, none⟩
  memory := ⟨10 * 4096, 5 * 4096, 4096, none⟩
  io := none
  network := none

/-- The largest number of ticks, at a clock rate that does not divide the nanoseconds of a second,
and as the ticks of a process. -/
theorem clockTicks_exact_largest :
    let ticks := 2 ^ 64 - 1
    let known : ProcessIdentity := ⟨1, "worker".toList, .sleeping, 0, 1, 1, 100⟩
    Duration.ofTicks? 7 ticks = some (.ofTicks 7 ticks) ∧
      (Duration.ofTicks 7 ticks).nanos = ticks * 10 ^ 9 / 7 ∧
      ((HostUnits.usual.ticks ticks).add (HostUnits.usual.ticks ticks)).nanos =
        (ticks + ticks) * 10 ^ 7 ∧
      (Procfs.metrics .usual "/".toList 1 known false).outcome busyWorld = .ok busyMetrics ∧
      HostUnits.usual.processorTime? ticks 0 = some busyMetrics.cpu.total := by
  intro ticks known
  obtain ⟨hconversion, hsum, hprocess⟩ := clockTicks_exact
  have hticks : ticks < 2 ^ 64 := by decide
  obtain ⟨hseventh, hnanos, -⟩ := hconversion 7 ticks (by decide) (by decide) hticks
  obtain ⟨-, htotal, -⟩ := hsum .usual ticks ticks hticks hticks
  have hmetrics : (Procfs.metrics .usual "/".toList 1 known false).outcome busyWorld =
      .ok busyMetrics := by decide +kernel
  have hrecord : (Procfs.record "/".toList 1).outcome busyWorld =
      .ok ⟨"worker".toList, .sleeping, 0, 1, ticks, 0, 1, 100⟩ := by decide +kernel
  obtain ⟨r, hr, hused, -⟩ := hprocess _ _ _ _ _ _ _ hmetrics
  obtain rfl := Except.ok.inj (hr.symm.trans hrecord)
  exact ⟨hseventh, hnanos, htotal rfl, hmetrics, hused⟩

end ProcessMeter
