import Mathlib.Data.Finset.Card
import ProcessMeter.Process.History

/-!
# What a history knows

A history is a finite map from process numbers to samples of these numbers. Its size counts the
numbers that it knows. Removing, retaining and clearing take entries away, each for the numbers it
names, and leave the others as they are.
-/

namespace ProcessMeter.History

variable (history : History)

/-- A process that is removed is not known, and the others are as before. -/
@[simp] theorem get?_remove (pid other : Nat) :
    (history.remove pid).get? other = if other = pid then none else history.get? other := by
  rw [remove, get?_keep]
  by_cases h : other = pid
  · simp [h]
  · simp [h]

/-- The processes that are retained are known as before, and no others. -/
@[simp] theorem get?_retain (pids : List Nat) (pid : Nat) :
    (history.retain pids).get? pid = if pid ∈ pids then history.get? pid else none := by
  rw [retain, get?_keep]
  by_cases h : pid ∈ pids
  · simp [h]
  · simp [h]

/-- What is known of a number is a sample of that number. -/
theorem pid_of_get?_eq_some {history : History} {pid : Nat} {s : ProcessSample}
    (h : history.get? pid = some s) : s.identity.pid = pid := by
  have hfound := List.find?_some h
  exact beq_iff_eq.mp hfound

/-- The numbers that have a sample. -/
def known : Finset Nat :=
  ⟨(history.samples.map fun s => s.identity.pid : List Nat), by
    simpa [List.Nodup, List.pairwise_map] using history.distinct⟩

/-- A number is known exactly if there is a sample of it. -/
@[simp] theorem mem_known {pid : Nat} : pid ∈ history.known ↔ (history.get? pid).isSome := by
  simp [known, get?, List.find?_isSome]

/-- The size counts the numbers that are known. -/
theorem size_eq_card : history.size = history.known.card := by
  simp [size, known]

end ProcessMeter.History
