import ProcessMeter.Process.Sample

/-!
# The busiest processes

Of many samples those are kept that use the most processor time, followed by those that use the
most memory. Equal samples keep their order, and none is listed twice.
-/

namespace ProcessMeter

/-- How many of the busiest processes are kept. -/
structure TopSelection where
  /-- By processor time. -/
  byCpu : Nat
  /-- By memory. -/
  byMemory : Nat
  deriving DecidableEq, Repr

namespace TopSelection

/-- No selection. -/
def none : TopSelection := ⟨0, 0⟩

/-- Whether anything is selected. -/
def isActive (top : TopSelection) : Bool := 0 < top.byCpu || 0 < top.byMemory

/-- The rank of a sample by processor time; one without a share counts as unused. -/
def cpuRank (sample : ProcessSample) : Int := Double.rank (sample.cpu.share.getD .zero)

/-- The samples by falling processor time. -/
def sortByCpu (samples : List ProcessSample) : List ProcessSample :=
  samples.mergeSort fun a b => cpuRank b ≤ cpuRank a

/-- The samples by falling memory. -/
def sortByMemory (samples : List ProcessSample) : List ProcessSample :=
  samples.mergeSort fun a b => b.memory.resident ≤ a.memory.resident

/-- The samples without those of a process that came before. -/
def distinct (seen : List (Nat × Nat)) : List ProcessSample → List ProcessSample
  | [] => []
  | sample :: rest =>
    let key := (sample.identity.pid, sample.identity.startTime)
    if seen.contains key then distinct seen rest
    else sample :: distinct (key :: seen) rest

/-- The busiest of the samples. -/
def select (top : TopSelection) (samples : List ProcessSample) : List ProcessSample :=
  if top.isActive then
    distinct [] ((sortByCpu samples).take top.byCpu ++ (sortByMemory samples).take top.byMemory)
  else samples

end TopSelection

end ProcessMeter
