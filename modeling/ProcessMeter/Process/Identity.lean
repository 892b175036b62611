import ProcessMeter.Text.Basic

/-!
# Processes

What tells processes apart. A number is used again once its process is gone, so a process is known
by its number together with the time of its start.
-/

namespace ProcessMeter

/-- What a process is doing. -/
inductive ProcessState where
  | running
  | sleeping
  /-- Waiting for a device, not to be interrupted. -/
  | diskSleep
  | zombie
  | stopped
  /-- Stopped by a tracer. -/
  | tracingStop
  | dead
  | idle
  | parked
  /-- A state without a name here. -/
  | unknown (letter : Char)
  deriving DecidableEq, Repr

/-- The state that a letter of the kernel stands for. -/
def ProcessState.ofLetter (c : Char) : ProcessState :=
  if c = 'R' then .running
  else if c = 'S' then .sleeping
  else if c = 'D' then .diskSleep
  else if c = 'Z' then .zombie
  else if c = 'T' then .stopped
  else if c = 't' then .tracingStop
  else if c = 'X' ∨ c = 'x' then .dead
  else if c = 'I' then .idle
  else if c = 'P' then .parked
  else .unknown c

/-- What is known of a process before its counters are read. -/
structure ProcessIdentity where
  /-- Its number. -/
  pid : Nat
  /-- Its name. -/
  name : Text
  /-- What it is doing. -/
  state : ProcessState
  /-- The number of its parent. -/
  parent : Nat
  /-- The number of its group. -/
  group : Nat
  /-- The number of its threads. -/
  threads : Nat
  /-- The time of its start in clock ticks since the system started. -/
  startTime : Nat
  deriving DecidableEq, Repr

/-- Whether two identities are of one process, and not of a number that was used again. -/
def ProcessIdentity.isSame (a b : ProcessIdentity) : Bool :=
  a.pid == b.pid && a.startTime == b.startTime

end ProcessMeter
