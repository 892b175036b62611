import ProcessMeter.Files.Tree
import ProcessMeter.Time

/-!
# Probes

A probe is a computation that looks at the file tree and the clock of one moment. It ends in a
value, in a failure of its own kind, or in the overflow of a counter, and it leaves behind the
events of its run in order: log records, and the questions put to the process table. An overflow
is no failure, so no recovery from failures hides it.
-/

namespace ProcessMeter

/-- The severity of a log record. -/
inductive Level where
  | error
  | warn
  | info
  | debug
  | trace
  deriving DecidableEq, Repr

/-- A question about one process put to the process table. -/
inductive Question where
  /-- Name, state and relations. -/
  | identity
  /-- Times, memory and counters. -/
  | extended
  /-- The command line. -/
  | arguments
  /-- The environment variables. -/
  | environment
  deriving DecidableEq, Repr

/-- What happens in the course of a probe. -/
inductive Event where
  /-- A log record is written. -/
  | log (level : Level) (text : String)
  /-- The process table is asked. -/
  | asked (question : Question)
  deriving DecidableEq, Repr

/-- How a probe ends without a value. -/
inductive Fault (ε : Type) where
  /-- It failed for the given reason. -/
  | failed (reason : ε)
  /-- A sum of counters left the range of 64 bits. -/
  | overflow
  deriving DecidableEq, Repr

/-- What a probe can see. -/
structure World where
  /-- The file tree. -/
  files : FileTree
  /-- The time of the clock. -/
  now : Moment
  deriving Inhabited

/-- A computation that looks at the world, can fail with `ε`, and records events. -/
def Probe (ε α : Type) := World → Except (Fault ε) α × List Event

namespace Probe

variable {ε ε' α β : Type}

/-- Ends with a value. -/
protected def pure (a : α) : Probe ε α := fun _ => (.ok a, [])

/-- Goes on with the value of a probe. -/
protected def bind (x : Probe ε α) (f : α → Probe ε β) : Probe ε β := fun w =>
  match x w with
  | (.ok a, events) =>
    let (result, more) := f a w
    (result, events ++ more)
  | (.error fault, events) => (.error fault, events)

instance : Monad (Probe ε) where
  pure := Probe.pure
  bind := Probe.bind

protected theorem bind_pure (x : Probe ε α) : x.bind Probe.pure = x := by
  funext w
  simp only [Probe.bind, Probe.pure]
  split <;> simp_all

protected theorem pure_bind (a : α) (f : α → Probe ε β) : (Probe.pure a).bind f = f a := by
  funext w
  simp [Probe.bind, Probe.pure]

/-- The events of a sequence are those of its parts in order, however the parts are grouped. -/
protected theorem bind_assoc {γ : Type} (x : Probe ε α) (f : α → Probe ε β) (g : β → Probe ε γ) :
    (x.bind f).bind g = x.bind fun a => (f a).bind g := by
  funext w
  simp only [Probe.bind]
  rcases x w with ⟨a | a, before⟩
  · rfl
  · dsimp only
    rcases f a w with ⟨b | b, behind⟩ <;> simp

instance : LawfulMonad (Probe ε) :=
  LawfulMonad.mk' _ Probe.bind_pure Probe.pure_bind Probe.bind_assoc

/-- Ends with a failure. -/
def fail (reason : ε) : Probe ε α := fun _ => (.error (.failed reason), [])

/-- Ends with the overflow of a counter. -/
def overflow : Probe ε α := fun _ => (.error .overflow, [])

/-- Records an event. -/
def record (event : Event) : Probe ε Unit := fun _ => (.ok (), [event])

/-- Writes a log record. -/
def log (level : Level) (text : String) : Probe ε Unit := record (.log level text)

/-- The file tree. -/
def files : Probe ε FileTree := fun w => (.ok w.files, [])

/-- The time of the clock. -/
def now : Probe ε Moment := fun w => (.ok w.now, [])

/-- The value or failure of a computation without effects. -/
def ofExcept : Except ε α → Probe ε α
  | .ok a => fun _ => (.ok a, [])
  | .error reason => fail reason

/-- The outcome of a computation without events. -/
def ofOutcome (outcome : Except (Fault ε) α) : Probe ε α := fun _ => (outcome, [])

/-- A probe whose failure is a value. An overflow stays an overflow. -/
def attempt (x : Probe ε α) : Probe ε' (Except ε α) := fun w =>
  match x w with
  | (.ok a, events) => (.ok (.ok a), events)
  | (.error (.failed reason), events) => (.ok (.error reason), events)
  | (.error .overflow, events) => (.error .overflow, events)

/-- A probe whose failure is reported as another one. -/
def mapFailure (f : ε → ε') (x : Probe ε α) : Probe ε' α := fun w =>
  match x w with
  | (.ok a, events) => (.ok a, events)
  | (.error (.failed reason), events) => (.error (.failed (f reason)), events)
  | (.error .overflow, events) => (.error .overflow, events)

/-- The outcome of a probe, its events left out. -/
def outcome (x : Probe ε α) (w : World) : Except (Fault ε) α := (x w).1

/-- The events of a probe. -/
def events (x : Probe ε α) (w : World) : List Event := (x w).2

end Probe

end ProcessMeter
