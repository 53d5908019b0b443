import ContainerKernel.Metrics

/-!
# Counters that stay exact

Amounts go into a counter and readings come out of it through double precision.
Numbers with at most as many binary digits as a significand pass unchanged, so a
counter whose total stays below `Double.exactBelow` holds the sum of its amounts
and reads as that sum. Beyond that nothing is said here: amounts and readings are
rounded, and the total may wrap around.
-/

namespace ContainerKernel

namespace Double

/-- The first number of which a neighbour is no double, 2 ^ 53. -/
def exactBelow : Nat := 9007199254740992

example : exactBelow = Nat.pow 2 precision := by decide

/-- Division by one needs no rounding. -/
theorem roundedQuotient_one (value : Nat) : roundedQuotient value 1 = value := by
  simp [roundedQuotient, Nat.mod_one]

/-- A negative exponent multiplies the numerator. -/
theorem scaled_up (numerator denominator : Nat) {shift : Nat} (positive : 0 < shift) :
    scaled numerator denominator (-(shift : Int)) =
      (numerator * Nat.pow 2 shift, denominator) := by
  have negative : -(shift : Int) < 0 := by omega
  rw [scaled, if_pos negative, Int.natAbs_neg, Int.natAbs_natCast]

/-- An exponent that is not negative multiplies the denominator. -/
theorem scaled_down (numerator denominator shift : Nat) :
    scaled numerator denominator (shift : Int) =
      (numerator, denominator * Nat.pow 2 shift) := by
  have positive : ¬ (shift : Int) < 0 := by omega
  rw [scaled, if_neg positive, Int.natAbs_natCast]

/-- The exponent of a small number makes its significand a full one: as many
binary digits are shifted in as the number lacks. -/
theorem exponentOf_small {value : Nat} (positive : value ≠ 0) (small : value < exactBelow) :
    exponentOf value 1 = -((52 - Nat.log2 value : Nat) : Int) := by
  have digits : Nat.log2 value < 53 := (Nat.log2_lt positive).mpr small
  have least : Nat.pow 2 (Nat.log2 value) ≤ value := Nat.log2_self_le positive
  have full : Nat.pow 2 precision ≤ value * Nat.pow 2 (53 - Nat.log2 value) := by
    calc Nat.pow 2 precision
        = Nat.pow 2 (Nat.log2 value + (53 - Nat.log2 value)) := by
          rw [Nat.add_sub_cancel' (Nat.le_of_lt digits)]
          rfl
      _ = Nat.pow 2 (Nat.log2 value) * Nat.pow 2 (53 - Nat.log2 value) := Nat.pow_add 2 _ _
      _ ≤ value * Nat.pow 2 (53 - Nat.log2 value) := Nat.mul_le_mul_right _ least
  have guess : (Nat.log2 value : Int) - (Nat.log2 1 : Int) - (precision : Int) =
      -((53 - Nat.log2 value : Nat) : Int) := by
    rw [show Nat.log2 1 = 0 from rfl, show precision = 53 from rfl]
    omega
  -- The guess leaves one digit too many, so the comparison takes the next exponent.
  unfold exponentOf
  simp only [guess, scaled_up value 1 (Nat.sub_pos_of_lt digits), Nat.div_one,
    Nat.not_lt.mpr full, if_false]
  rw [if_neg]
  · omega
  · simp only [lowestExponent]
    omega

/-- The nearest double of a small number is the number itself, with a significand
that is the number shifted. -/
theorem ofNat_small {value : Nat} (positive : value ≠ 0) (small : value < exactBelow) :
    ofNat value =
      ⟨value * Nat.pow 2 (52 - Nat.log2 value), -((52 - Nat.log2 value : Nat) : Int)⟩ := by
  rw [ofNat, ofQuotient, if_neg positive, exponentOf_small positive small]
  dsimp only
  by_cases lacks : 0 < 52 - Nat.log2 value
  · rw [scaled_up value 1 lacks, roundedQuotient_one]
  · rw [Nat.eq_zero_of_not_pos lacks]
    show Double.mk (roundedQuotient value (1 * Nat.pow 2 0)) 0 = _
    rw [show 1 * Nat.pow 2 0 = 1 from rfl, roundedQuotient_one]
    exact congrArg (Double.mk · 0) (Nat.mul_one value).symm

/-- Zero is zero, whatever its exponent. -/
theorem floor_zero (exponent : Int) : floor ⟨0, exponent⟩ = 0 := by
  unfold floor quotient scaled
  split <;> simp

end Double

/-- Small numbers pass through double precision unchanged. -/
theorem doubleNat_exact {value : Nat} (small : value < Double.exactBelow) :
    doubleNat value = value := by
  unfold doubleNat
  by_cases positive : value = 0
  · rw [positive, Double.ofNat, Double.ofQuotient, if_pos rfl, Double.floor_zero]
  · have shifted : 0 < Nat.pow 2 (52 - Nat.log2 value) := Nat.two_pow_pos _
    rw [Double.ofNat_small positive small, Double.floor, Double.quotient, Int.neg_neg,
      Double.scaled_down, Nat.one_mul]
    exact Nat.mul_div_cancel value shifted

namespace Counter

/-- A counter with a small total reads as its total. -/
theorem reading_exact {counter : Counter} (small : counter.total.toNat < Double.exactBelow) :
    counter.reading = counter.total.toNat :=
  doubleNat_exact small

/-- A counter goes up by one, as long as it stays small. -/
theorem increment_exact {counter : Counter} (small : counter.total.toNat + 1 < Double.exactBelow) :
    counter.increment.total.toNat = counter.total.toNat + 1 := by
  simp only [Double.exactBelow] at small
  rw [increment, UInt64.toNat_add, show (1 : UInt64).toNat = 1 from rfl]
  omega

/-- An amount that is not negative is accepted, and the counter goes up by it as
long as it stays small. -/
theorem add?_exact (counter : Counter) {amount : Int} (positive : 0 ≤ amount) :
    ∃ higher, counter.add? amount = some higher ∧
      (counter.total.toNat + amount.toNat < Double.exactBelow →
        higher.total.toNat = counter.total.toNat + amount.toNat) := by
  have accepted : ¬ amount < 0 := Int.not_lt.mpr positive
  refine ⟨_, by rw [add?, if_neg accepted], ?_⟩
  intro small
  rw [doubleNat_exact (Nat.lt_of_le_of_lt (Nat.le_add_left _ _) small)]
  simp only [Double.exactBelow] at small
  rw [UInt64.toNat_add, Nat.toUInt64_eq, UInt64.toNat_ofNat']
  omega

end Counter

end ContainerKernel
