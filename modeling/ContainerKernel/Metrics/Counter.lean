import ContainerKernel.Number.Double

/-!
# Counters

A counter only ever goes up. It adds in 64-bit arithmetic, but the amounts that go in and the
reading that comes out pass through double precision, so both are exact below 2 ^ 53.
-/

namespace ContainerKernel

/-- A counter with its exact total. -/
structure Counter where
  total : UInt64 := 0
deriving DecidableEq, Repr, Inhabited

namespace Counter

/-- The counter one higher. -/
def increment (counter : Counter) : Counter :=
  ⟨counter.total + 1⟩

/-- The counter higher by an amount, or nothing when the amount is negative. -/
def add? (counter : Counter) (amount : Int) : Option Counter :=
  if amount < 0 then none
  else some ⟨counter.total + (doubleNat amount.toNat).toUInt64⟩

/-- The reading of the counter. -/
def reading (counter : Counter) : Nat :=
  doubleNat counter.total.toNat

end Counter

end ContainerKernel
