import ContainerKernel.Number.Decimal
import ContainerKernel.Number.Double

/-!
# Amounts of bytes

The summary of a run prints an amount of bytes with an SI unit: the largest unit not above the
amount, one place below ten units and none from ten on. The reckoning is in double precision,
and so the two largest units begin a few bytes early, where the logarithm of the amount can no
longer be told from that of the unit.
-/

namespace ContainerKernel

/-- A unit: its name, its size in bytes and the first amount that is written in it. -/
structure ByteUnit where
  name : String
  size : Nat
  start : Nat

/-- The units from the largest to the smallest. -/
def byteUnits : List ByteUnit := [
  ⟨"EB", 1000000000000000000, 999999999999995072⟩,
  ⟨"PB", 1000000000000000, 999999999999996⟩,
  ⟨"TB", 1000000000000, 1000000000000⟩,
  ⟨"GB", 1000000000, 1000000000⟩,
  ⟨"MB", 1000000, 1000000⟩,
  ⟨"kB", 1000, 1000⟩]

/-- The unit in which an amount is written. -/
def byteUnitOf (amount : Nat) : ByteUnit :=
  (byteUnits.find? fun unit => unit.start ≤ amount).getD ⟨"B", 1, 0⟩

/-- Tenths of a unit in an amount: the quotient rounded to one place, a half upwards. -/
def tenthsOf (amount : Nat) (unit : ByteUnit) : Nat :=
  let share := (Double.ofNat amount).div (Double.ofNat unit.size)
  ((share.mul (Double.ofNat 10)).add (Double.ofQuotient 1 2)).floor

/-- An amount of bytes with its unit. -/
def byteAmount (amount : Nat) : Bytes :=
  if amount < 10 then naturalDecimal amount ++ utf8 " B"
  else
    let unit := byteUnitOf amount
    let tenths := tenthsOf amount unit
    let digits :=
      if tenths < 100 then
        naturalDecimal (tenths / 10) ++ utf8 "." ++ naturalDecimal (tenths % 10)
      else naturalDecimal (roundedQuotient tenths 10)
    digits ++ utf8 " " ++ utf8 unit.name

end ContainerKernel
