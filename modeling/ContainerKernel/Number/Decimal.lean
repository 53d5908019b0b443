import ContainerKernel.Text.Bytes

/-!
# Numbers in decimal

Messages write integers in decimal with a minus sign; the summary of a run groups the digits of
its counts by commas.
-/

namespace ContainerKernel

/-- The decimal digits of a natural number. -/
def naturalDecimal (value : Nat) : Bytes :=
  encodeChars (Nat.toDigits 10 value)

/-- An integer in decimal. -/
def decimal (value : Int) : Bytes :=
  if value < 0 then utf8 "-" ++ naturalDecimal value.natAbs else naturalDecimal value.natAbs

/-- Insert a comma before every third digit, counted from the last; the digits stand reversed. -/
def groupReversed : Bytes → Bytes
  | first :: second :: third :: next :: rest =>
    first :: second :: third :: 44 :: groupReversed (next :: rest)
  | digits => digits

/-- An integer in decimal with its digits in groups of three. -/
def groupedDecimal (value : Int) : Bytes :=
  let digits := (groupReversed (naturalDecimal value.natAbs).reverse).reverse
  if value < 0 then utf8 "-" ++ digits else digits

end ContainerKernel
