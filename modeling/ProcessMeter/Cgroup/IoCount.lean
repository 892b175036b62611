/-!
# Input and output counts
-/

namespace ProcessMeter

/-- How much was moved in one direction. -/
structure IoCount where
  /-- The octets moved. -/
  bytes : Nat
  /-- The operations that moved them. -/
  operations : Nat
  deriving DecidableEq, Repr

/-- Nothing moved. -/
def IoCount.zero : IoCount := ⟨0, 0⟩

end ProcessMeter
