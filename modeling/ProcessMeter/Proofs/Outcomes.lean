import ProcessMeter.Process.Session
import ProcessMeter.Stat.File

/-!
# Outcomes of probes and sessions

At one world a probe is an ordinary computation that ends in a value, a failure or an overflow.
The rules of this file take sequences of probes apart at a fixed world, in both directions, and do
the same for sessions, whose outcome comes with the history that they leave behind. The events of
a run do not matter here.
-/

namespace ProcessMeter

namespace Probe

variable {ε ε' α β : Type} (w : World)

/-- A value is its own outcome. -/
@[simp] theorem outcome_pure (a : α) : (pure a : Probe ε α).outcome w = .ok a := rfl

/-- A failure is its own outcome. -/
@[simp] theorem outcome_fail (reason : ε) :
    (fail reason : Probe ε α).outcome w = .error (.failed reason) := rfl

/-- An overflow is its own outcome. -/
@[simp] theorem outcome_overflow : (overflow : Probe ε α).outcome w = .error .overflow := rfl

/-- Writing to the log succeeds. -/
@[simp] theorem outcome_log (level : Level) (text : String) :
    (log level text : Probe ε Unit).outcome w = .ok () := rfl

/-- Looking at the files gives the tree of the world. -/
@[simp] theorem outcome_files : (files : Probe ε FileTree).outcome w = .ok w.files := rfl

/-- Looking at the clock gives the time of the world. -/
@[simp] theorem outcome_now : (now : Probe ε Moment).outcome w = .ok w.now := rfl

/-- An outcome that is given is the outcome. -/
@[simp] theorem outcome_ofOutcome (outcome : Except (Fault ε) α) :
    (ofOutcome outcome).outcome w = outcome := rfl

/-- Rewording failures keeps a value. -/
@[simp] theorem mapError_ok (f : ε → ε') (a : α) :
    (Except.ok a : Except ε α).mapError f = .ok a := rfl

/-- Rewording failures rewords a failure. -/
@[simp] theorem mapError_error (f : ε → ε') (reason : ε) :
    (Except.error reason : Except ε α).mapError f = .error (f reason) := rfl

/-- A computation without effects has its own value or failure as its outcome. -/
theorem outcome_ofExcept (x : Except ε α) : (ofExcept x).outcome w = x.mapError .failed := by
  cases x <;> rfl

/-- A sequence goes on with the value of its first part, and ends with its fault. -/
theorem outcome_bind (x : Probe ε α) (f : α → Probe ε β) :
    (x >>= f).outcome w = (x.outcome w).bind fun a => (f a).outcome w := by
  change (Probe.bind x f w).1 = (x w).1.bind fun a => (f a w).1
  unfold Probe.bind
  rcases x w with ⟨a | a, events⟩ <;> rfl

/-- A sequence whose first part has a value is its second part. -/
theorem outcome_bind_of_ok {x : Probe ε α} {w : World} {a : α} (h : x.outcome w = .ok a)
    (f : α → Probe ε β) : (x >>= f).outcome w = (f a).outcome w := by
  rw [outcome_bind, h]
  rfl

/-- A sequence has a value exactly if both parts have one. -/
theorem outcome_bind_eq_ok {x : Probe ε α} {f : α → Probe ε β} {w : World} {b : β} :
    (x >>= f).outcome w = .ok b ↔ ∃ a, x.outcome w = .ok a ∧ (f a).outcome w = .ok b := by
  rw [outcome_bind]
  cases x.outcome w <;> simp [Except.bind]

/-- A sequence ends with the first fault of its parts. -/
theorem outcome_bind_eq_error {x : Probe ε α} {f : α → Probe ε β} {w : World} {fault : Fault ε} :
    (x >>= f).outcome w = .error fault ↔
      x.outcome w = .error fault ∨ ∃ a, x.outcome w = .ok a ∧ (f a).outcome w = .error fault := by
  rw [outcome_bind]
  cases x.outcome w <;> simp [Except.bind]

/-- A function is applied to the outcome. -/
@[simp] theorem outcome_map (f : α → β) (x : Probe ε α) :
    (f <$> x).outcome w = (x.outcome w).map f := by
  rw [map_eq_pure_bind, outcome_bind]
  cases x.outcome w <;> rfl

/-- Reporting a failure otherwise keeps values and overflows. -/
theorem outcome_mapFailure (f : ε → ε') (x : Probe ε α) :
    (x.mapFailure f).outcome w =
      match x.outcome w with
      | .ok a => .ok a
      | .error (.failed reason) => .error (.failed (f reason))
      | .error .overflow => .error .overflow := by
  simp only [mapFailure, outcome]
  rcases x w with ⟨(reason | _) | a, events⟩ <;> rfl

/-- Rewording failures neither makes nor loses a value. -/
theorem outcome_mapFailure_eq_ok {f : ε → ε'} {x : Probe ε α} {w : World} {a : α} :
    (x.mapFailure f).outcome w = .ok a ↔ x.outcome w = .ok a := by
  rw [outcome_mapFailure]
  rcases x.outcome w with (reason | _) | b <;> simp

/-- Rewording failures neither makes nor loses an overflow. -/
theorem outcome_mapFailure_eq_overflow {f : ε → ε'} {x : Probe ε α} {w : World} :
    (x.mapFailure f).outcome w = .error .overflow ↔ x.outcome w = .error .overflow := by
  rw [outcome_mapFailure]
  rcases x.outcome w with (reason | _) | b <;> simp

/-- An attempt turns a failure into a value and lets an overflow through. -/
theorem outcome_attempt (x : Probe ε α) :
    (attempt x : Probe ε' (Except ε α)).outcome w =
      match x.outcome w with
      | .ok a => .ok (.ok a)
      | .error (.failed reason) => .ok (.error reason)
      | .error .overflow => .error .overflow := by
  simp only [attempt, outcome]
  rcases x w with ⟨(reason | _) | a, events⟩ <;> rfl

/-- An overflow is not caught. -/
theorem outcome_attempt_eq_overflow {x : Probe ε α} {w : World} :
    (attempt x : Probe ε' (Except ε α)).outcome w = .error .overflow ↔
      x.outcome w = .error .overflow := by
  rw [outcome_attempt]
  rcases x.outcome w with (reason | _) | b <;> simp

/-- Going on after an attempt, by cases on how the attempted probe ended. -/
theorem outcome_attempt_bind (x : Probe ε α) (f : Except ε α → Probe ε' β) :
    (attempt x >>= f).outcome w =
      match x.outcome w with
      | .ok a => (f (.ok a)).outcome w
      | .error (.failed reason) => (f (.error reason)).outcome w
      | .error .overflow => .error .overflow := by
  rw [outcome_bind, outcome_attempt]
  rcases x.outcome w with (reason | _) | b <;> rfl

end Probe

namespace Session

variable {α β : Type} (w : World) (history : History)

/-- The outcome of a session and the history that it leaves, its events left out. -/
def run (x : Session α) (w : World) (history : History) :
    Except (Fault ProcessFailure) α × History := (x w history).1

/-- A value leaves the history as it is. -/
@[simp] theorem run_pure (a : α) : (pure a : Session α).run w history = (.ok a, history) := rfl

/-- A probe leaves the history as it is. -/
@[simp] theorem run_ofProbe (x : Probe ProcessFailure α) :
    (ofProbe x).run w history = (x.outcome w, history) := rfl

/-- Writing to the log leaves the history as it is. -/
@[simp] theorem run_log (level : Level) (text : String) :
    (log level text).run w history = (.ok (), history) := rfl

/-- Looking at the history gives it and leaves it as it is. -/
@[simp] theorem run_history : Session.history.run w history = (.ok history, history) := rfl

/-- Storing a sample puts it into the history. -/
@[simp] theorem run_store (sample : ProcessSample) :
    (store sample).run w history = (.ok (), history.insert sample) := rfl

/-- A sequence goes on with the value and the history of its first part. -/
theorem run_bind (x : Session α) (f : α → Session β) :
    (x >>= f).run w history =
      match x.run w history with
      | (.ok a, left) => (f a).run w left
      | (.error fault, left) => (.error fault, left) := by
  change (Session.bind x f w history).1 = _
  unfold Session.bind run
  rcases x w history with ⟨⟨a | a, left⟩, events⟩ <;> rfl

/-- A probe in front of a session leaves the history alone. -/
theorem run_ofProbe_bind (x : Probe ProcessFailure α) (f : α → Session β) :
    (ofProbe x >>= f).run w history =
      match x.outcome w with
      | .ok a => (f a).run w history
      | .error fault => (.error fault, history) := by
  rw [run_bind, run_ofProbe]
  cases x.outcome w <;> rfl

/-- A function of the value changes neither faults nor the history. -/
theorem run_map (f : α → β) (x : Session α) :
    (f <$> x).run w history = ((x.run w history).1.map f, (x.run w history).2) := by
  rw [map_eq_pure_bind, run_bind]
  rcases x.run w history with ⟨fault | a, left⟩
  · rfl
  · rfl

/-- An attempt turns a failure into a value and keeps the history. -/
theorem run_attempt (x : Session α) :
    (attempt x).run w history =
      match x.run w history with
      | (.ok a, left) => (.ok (.ok a), left)
      | (.error (.failed failure), left) => (.ok (.error failure), left)
      | (.error .overflow, left) => (.error .overflow, left) := by
  simp only [attempt, run]
  rcases x w history with ⟨⟨(failure | _) | a, left⟩, events⟩ <;> rfl

end Session

/-- A text is what its file holds, or the failure that names the file. -/
theorem Stat.outcome_readText (path : Path) (w : World) :
    (readText path).outcome w =
      match w.files.readText path with
      | .ok text => .ok text
      | .error failure => .error (.failed ⟨path, .file failure⟩) := by
  rw [readText, Probe.outcome_bind_of_ok (Probe.outcome_files w)]
  cases w.files.readText path <;> rfl

end ProcessMeter
