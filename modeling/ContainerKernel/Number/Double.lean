import ContainerKernel.Number.Word

/-!
# Double-precision numbers

A few rules go through double precision: numbers written with a point or an exponent in a
document, the readings of counters, and the printed amounts of bytes. The module holds
non-negative doubles as a significand and a power of two, and rounds exact quotients to them:
to the nearest double, a half to the even significand. Not-a-number and the infinities are kept
apart by the callers, which is why rounding says when the result is beyond the largest double.
-/

namespace ContainerKernel

/-- The finite number `significand * 2 ^ exponent`. -/
structure Double where
  significand : Nat
  exponent : Int
deriving DecidableEq, Repr, Inhabited

/-- The quotient rounded to the nearest integer, a half to the even one. -/
def roundedQuotient (numerator denominator : Nat) : Nat :=
  let quotient := numerator / denominator
  let rest := numerator % denominator
  if 2 * rest < denominator then quotient
  else if 2 * rest > denominator then quotient + 1
  else if quotient % 2 = 0 then quotient else quotient + 1

namespace Double

/-- The number of binary digits of a significand. -/
def precision : Nat := 53

/-- The exponent of the smallest doubles. -/
def lowestExponent : Int := -1074

/-- The number `numerator / denominator * 2 ^ (-exponent)` as a quotient of natural numbers. -/
def scaled (numerator denominator : Nat) (exponent : Int) : Nat × Nat :=
  if exponent < 0 then (numerator * Nat.pow 2 exponent.natAbs, denominator)
  else (numerator, denominator * Nat.pow 2 exponent.natAbs)

/--
The exponent at which the quotient has a significand of full precision, or the lowest one. The
difference of the binary lengths is off by at most one, which the comparison settles.
-/
def exponentOf (numerator denominator : Nat) : Int :=
  let guess : Int := (Nat.log2 numerator : Int) - (Nat.log2 denominator : Int) - precision
  let (top, bottom) := scaled numerator denominator guess
  let exact := if top / bottom < Nat.pow 2 precision then guess else guess + 1
  if exact < lowestExponent then lowestExponent else exact

/-- The nearest double of a quotient, a half going to the even significand. -/
def ofQuotient (numerator denominator : Nat) : Double :=
  if numerator = 0 then ⟨0, lowestExponent⟩
  else
    let exponent := exponentOf numerator denominator
    let (top, bottom) := scaled numerator denominator exponent
    ⟨roundedQuotient top bottom, exponent⟩

/-- The number as a quotient of natural numbers. -/
def quotient (number : Double) : Nat × Nat :=
  scaled number.significand 1 (-number.exponent)

/-- Whether the number is beyond the largest finite double. -/
def overflows (number : Double) : Bool :=
  number.quotient.2 * Nat.pow 2 1024 ≤ number.quotient.1

/-- The integer part. -/
def floor (number : Double) : Nat :=
  number.quotient.1 / number.quotient.2

/-- The nearest double of a natural number. -/
def ofNat (value : Nat) : Double :=
  ofQuotient value 1

/-- The quotient of two doubles, rounded; the callers never divide by zero. -/
def div (first second : Double) : Double :=
  ofQuotient (first.quotient.1 * second.quotient.2) (first.quotient.2 * second.quotient.1)

/-- The product of two doubles, rounded. -/
def mul (first second : Double) : Double :=
  ofQuotient (first.quotient.1 * second.quotient.1) (first.quotient.2 * second.quotient.2)

/-- The sum of two doubles, rounded. -/
def add (first second : Double) : Double :=
  ofQuotient (first.quotient.1 * second.quotient.2 + second.quotient.1 * first.quotient.2)
    (first.quotient.2 * second.quotient.2)

end Double

/-- A natural number as double precision keeps it. -/
def doubleNat (value : Nat) : Nat :=
  (Double.ofNat value).floor

/-- An integer as double precision keeps it. -/
def doubleInt (value : Int) : Int :=
  if value < 0 then -(doubleNat value.natAbs : Int) else doubleNat value.natAbs

/--
The signed word for a double that is an integer. Numbers outside the range have no word of their
own; they all become the smallest one.
-/
def wordOfDouble (value : Int) : Int :=
  if Word.holds value then value else Word.smallest

end ContainerKernel
