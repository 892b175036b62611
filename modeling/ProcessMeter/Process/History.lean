import ProcessMeter.Process.Sample

/-!
# Histories

A history keeps the latest sample of each process number. A process that ended stays in it until
it is taken out.
-/

namespace ProcessMeter

/-- The latest sample of each process number. -/
structure History where
  /-- The samples, one for each number. -/
  samples : List ProcessSample
  /-- No number has two samples. -/
  distinct : samples.Pairwise fun a b => a.identity.pid ≠ b.identity.pid

namespace History

/-- No samples. -/
def empty : History := ⟨[], List.Pairwise.nil⟩

instance : Inhabited History := ⟨empty⟩

/-- The sample of a number. -/
def get? (history : History) (pid : Nat) : Option ProcessSample :=
  history.samples.find? fun sample => sample.identity.pid == pid

/-- The history without the samples whose number fails the test. -/
def keep (history : History) (test : Nat → Bool) : History :=
  ⟨history.samples.filter fun sample => test sample.identity.pid, history.distinct.filter _⟩

/-- The history without the sample of a number. -/
def remove (history : History) (pid : Nat) : History := history.keep (· != pid)

/-- The history with the samples of the given numbers alone. -/
def retain (history : History) (pids : List Nat) : History := history.keep pids.contains

/-- The history with a sample in place of the one of its number. -/
def insert (history : History) (sample : ProcessSample) : History where
  samples := sample :: (history.remove sample.identity.pid).samples
  distinct := by
    refine List.pairwise_cons.mpr ⟨?_, (history.remove sample.identity.pid).distinct⟩
    intro other hother
    have hne := (List.mem_filter.mp hother).2
    simp only [bne_iff_ne, ne_eq] at hne
    exact fun h => hne h.symm

/-- The number of samples. -/
def size (history : History) : Nat := history.samples.length

/-- Whether there are no samples. -/
def isEmpty (history : History) : Bool := history.samples.isEmpty

/-- The empty history knows no process. -/
@[simp] theorem get?_empty (pid : Nat) : empty.get? pid = none := rfl

/-- The processes that pass the test are known as before, and no others. -/
theorem get?_keep (history : History) (test : Nat → Bool) (pid : Nat) :
    (history.keep test).get? pid = if test pid then history.get? pid else none := by
  simp only [get?, keep]
  induction history.samples with
  | nil => simp
  | cons sample rest ih =>
    by_cases hpid : sample.identity.pid = pid
    · by_cases htest : test pid <;> simp_all
    · by_cases htest : test sample.identity.pid <;> simp_all

/-- Storing a sample changes what is known of its number only. -/
theorem get?_insert (history : History) (sample : ProcessSample) (pid : Nat) :
    (history.insert sample).get? pid =
      if sample.identity.pid = pid then some sample else history.get? pid := by
  have hrest := get?_keep history (· != sample.identity.pid) pid
  by_cases h : sample.identity.pid = pid
  · simp [get?, insert, h]
  · have h' : (sample.identity.pid == pid) = false := beq_eq_false_iff_ne.mpr h
    have h'' : (pid != sample.identity.pid) = true := by simpa using fun e => h e.symm
    simp only [h'', if_true] at hrest
    simp only [get?, insert, List.find?_cons, h', h, if_false]
    exact hrest

end History

end ProcessMeter
