import ProcessMeter.Process.Failure
import ProcessMeter.Process.History

/-!
# Sessions

A session is a probe that also reads and writes the history. What it has stored stays stored,
however it ends.
-/

namespace ProcessMeter

/-- A probe with a history. -/
def Session (α : Type) :=
  World → History → (Except (Fault ProcessFailure) α × History) × List Event

namespace Session

variable {α β : Type}

/-- Ends with a value. -/
protected def pure (a : α) : Session α := fun _ history => ((.ok a, history), [])

/-- Goes on with the value of a session. -/
protected def bind (x : Session α) (f : α → Session β) : Session β := fun w history =>
  match x w history with
  | ((.ok a, history), events) =>
    let (result, more) := f a w history
    (result, events ++ more)
  | ((.error fault, history), events) => ((.error fault, history), events)

instance : Monad Session where
  pure := Session.pure
  bind := Session.bind

protected theorem bind_pure (x : Session α) : x.bind Session.pure = x := by
  funext w history
  simp only [Session.bind, Session.pure]
  split <;> simp_all

protected theorem pure_bind (a : α) (f : α → Session β) : (Session.pure a).bind f = f a := by
  funext w history
  simp [Session.bind, Session.pure]

/-- A later part of a sequence finds the history as the earlier parts left it, however the parts
are grouped. -/
protected theorem bind_assoc {γ : Type} (x : Session α) (f : α → Session β) (g : β → Session γ) :
    (x.bind f).bind g = x.bind fun a => (f a).bind g := by
  funext w history
  simp only [Session.bind]
  rcases x w history with ⟨⟨a | a, first⟩, before⟩
  · rfl
  · dsimp only
    rcases f a w first with ⟨⟨b | b, second⟩, behind⟩ <;> simp

instance : LawfulMonad Session :=
  LawfulMonad.mk' _ Session.bind_pure Session.pure_bind Session.bind_assoc

/-- A probe, which leaves the history alone. -/
def ofProbe (x : Probe ProcessFailure α) : Session α := fun w history =>
  let (result, events) := x w
  ((result, history), events)

/-- Writes a log record. -/
def log (level : Level) (text : String) : Session Unit := ofProbe (Probe.log level text)

/-- The history. -/
def history : Session History := fun _ history => ((.ok history, history), [])

/-- Stores a sample. -/
def store (sample : ProcessSample) : Session Unit := fun _ history =>
  ((.ok (), history.insert sample), [])

/-- A session whose failure is a value. An overflow stays an overflow. -/
def attempt (x : Session α) : Session (Except ProcessFailure α) := fun w history =>
  match x w history with
  | ((.ok a, history), events) => ((.ok (.ok a), history), events)
  | ((.error (.failed failure), history), events) => ((.ok (.error failure), history), events)
  | ((.error .overflow, history), events) => ((.error .overflow, history), events)

end Session

end ProcessMeter
