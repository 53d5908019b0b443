import Mathlib
import ContainerKernel.Proofs.ListHistory

/-!
# How large the buffer of a list is

The capacity of a list is a function of its length: nothing else about its past
is left in it. Under doubling it is the power of two at or above the length, cut
at the limit; under every other growth it is the length itself. The same holds of
how often the buffer was replaced on the way and of how many slots all its buffers
had together, and `Growth.full_step` and `Growth.room_step` say how the three go
on from one length to the next.

Doubling is reckoned in words. As long as the length is below a quarter of the
words, twice the capacity is still a word, and only such lengths are treated here.
-/

namespace ContainerKernel

namespace Growth

/-- So many slots, but not more than a limit that was set. -/
def clamped (maxLength : Int) (slots : Nat) : Nat :=
  if maxLength > 0 then min slots maxLength.toNat else slots

/-- The capacity of a list of the given length. -/
def capacityAt (growth : Growth) (maxLength : Int) (length : Nat) : Nat :=
  match growth with
  | doubling => if length = 0 then 0 else clamped maxLength (Nat.pow 2 (Nat.clog 2 length))
  | _ => length

/-- How often the buffer of a list of the given length was replaced. -/
def reallocations (growth : Growth) (length : Nat) : Nat :=
  match growth with
  | doubling => if length = 0 then 0 else 1 + Nat.clog 2 length
  | _ => length

/-- How many slots all buffers of a list of the given length had together. -/
def slots (growth : Growth) (maxLength : Int) (length : Nat) : Nat :=
  match growth with
  | doubling =>
    ((List.range (doubling.reallocations length)).map fun exponent =>
      clamped maxLength (Nat.pow 2 exponent)).sum
  | _ => length * (length + 1) / 2

/-! ## The next capacity -/

/-- The next capacity has room for what is needed, if the limit has. -/
theorem needed_le_nextCapacity (growth : Growth) {limit needed : Int} (capacity : Int)
    (allowed : needed ≤ limit) :
    needed ≤ growth.nextCapacity limit capacity needed := by
  cases growth with
  | doubling =>
    unfold nextCapacity
    dsimp only
    split <;> split <;> omega
  | exact | unnamed => exact Int.le_refl needed

/-- Doubling doubles, from one slot on and up to the limit, while twice the
capacity is a word. -/
theorem nextCapacity_doubling {limit capacity : Int} (positive : 0 ≤ capacity)
    (free : capacity < limit) (fits : capacity * 2 ≤ Word.largest) :
    doubling.nextCapacity limit capacity (capacity + 1) = min (max (capacity * 2) 1) limit := by
  have unwrapped : Word.wrap (capacity * 2) = capacity * 2 :=
    Word.wrap_of_holds (by unfold Word.smallest; omega) fits
  unfold nextCapacity
  simp only [unwrapped]
  split <;> split <;> omega

/-- A number of slots below the limit in force was not cut. -/
theorem clamped_eq_iff {maxLength : Int} {count length : Nat}
    (free : (length : Int) < limitInForce maxLength) :
    clamped maxLength count = length ↔ count = length := by
  unfold limitInForce at free
  unfold clamped
  split
  · next positive =>
    rw [if_pos positive] at free
    omega
  · rfl

/-! ## From one length to the next -/

/-- Where the length is a power of two, the next one has one binary digit more. -/
theorem clog_succ_of_full {length : Nat} (positive : length ≠ 0)
    (power : Nat.pow 2 (Nat.clog 2 length) = length) :
    Nat.clog 2 (length + 1) = Nat.clog 2 length + 1 := by
  have larger : Nat.clog 2 length < Nat.clog 2 (length + 1) :=
    (Nat.clog_lt_clog_succ_iff Nat.one_lt_two).mpr power
  have smaller : Nat.clog 2 (length + 1) ≤ Nat.clog 2 length + 1 := by
    apply Nat.clog_le_of_le_pow
    have doubled : Nat.pow 2 (Nat.clog 2 length + 1) = Nat.pow 2 (Nat.clog 2 length) * 2 :=
      Nat.pow_succ 2 _
    show length + 1 ≤ Nat.pow 2 (Nat.clog 2 length + 1)
    rw [doubled, power]
    omega
  omega

/-- One more replacement adds the slots of the last buffer. -/
theorem slots_doubling_succ {maxLength : Int} {length : Nat}
    (more : doubling.reallocations (length + 1) = doubling.reallocations length + 1) :
    doubling.slots maxLength (length + 1) =
      doubling.slots maxLength length +
        clamped maxLength (Nat.pow 2 (doubling.reallocations length)) := by
  simp only [slots, more, List.range_succ, List.map_append, List.map_singleton, List.sum_append,
    List.sum_singleton]

/-- What a limit leaves of a number of slots, seen as the lesser of the number and
the limit in force. -/
theorem clamped_eq_min {maxLength : Int} {count : Nat} (fits : (count : Int) ≤ Word.largest) :
    (clamped maxLength count : Int) = min (count : Int) (limitInForce maxLength) := by
  unfold clamped limitInForce
  split <;> omega

/-- The first item makes a buffer of one slot, every further growth of a full list
one of twice its length, as far as the limit goes. -/
theorem capacityAt_doubling_of_full {maxLength : Int} {length : Nat}
    (full : doubling.capacityAt maxLength length = length)
    (free : (length : Int) < limitInForce maxLength) :
    doubling.reallocations (length + 1) = doubling.reallocations length + 1 ∧
      Nat.pow 2 (doubling.reallocations length) = max (length * 2) 1 ∧
      doubling.capacityAt maxLength (length + 1) =
        clamped maxLength (Nat.pow 2 (doubling.reallocations length)) := by
  by_cases empty : length = 0
  · subst empty
    refine ⟨?_, rfl, ?_⟩
    · simp [reallocations]
    · simp [capacityAt, reallocations]
  · simp only [capacityAt, if_neg empty] at full
    -- Below the limit nothing was cut, so a full buffer has a power of two slots.
    have power : Nat.pow 2 (Nat.clog 2 length) = length := (clamped_eq_iff free).mp full
    have digits := clog_succ_of_full empty power
    have doubled : Nat.pow 2 (1 + Nat.clog 2 length) = length * 2 := by
      rw [Nat.add_comm]
      show Nat.pow 2 (Nat.clog 2 length) * 2 = length * 2
      rw [power]
    simp only [reallocations, capacityAt, if_neg empty, if_neg (Nat.succ_ne_zero length), digits]
    refine ⟨by omega, ?_, ?_⟩
    · rw [doubled]
      omega
    · rw [Nat.add_comm]

/-- A full list grows: the buffer is replaced once, by one of the capacity that
belongs to the next length. -/
theorem full_step (growth : Growth) {maxLength : Int} {length : Nat}
    (full : growth.capacityAt maxLength length = length)
    (free : (length : Int) < limitInForce maxLength) (short : length < Word.quarter) :
    growth.nextCapacity (limitInForce maxLength) length (length + 1) =
        growth.capacityAt maxLength (length + 1) ∧
      growth.reallocations (length + 1) = growth.reallocations length + 1 ∧
      growth.slots maxLength (length + 1) =
        growth.slots maxLength length + growth.capacityAt maxLength (length + 1) := by
  cases growth with
  | exact | unnamed =>
    refine ⟨rfl, rfl, ?_⟩
    show (length + 1) * (length + 1 + 1) / 2 = length * (length + 1) / 2 + (length + 1)
    have squares : (length + 1) * (length + 1 + 1) = length * (length + 1) + 2 * (length + 1) := by
      rw [← Nat.add_mul, Nat.mul_comm]
    rw [squares, Nat.add_mul_div_left _ _ (by decide)]
  | doubling =>
    obtain ⟨more, power, next⟩ := capacityAt_doubling_of_full full free
    simp only [Word.quarter] at short
    refine ⟨?_, more, ?_⟩
    · rw [nextCapacity_doubling (by omega) free (by unfold Word.largest; omega), next,
        clamped_eq_min (by rw [power]; unfold Word.largest; omega), power]
      omega
    · rw [slots_doubling_succ more, next]

/-- A list with room does not grow, and the buffer is the one that belongs to the
next length. -/
theorem room_step (growth : Growth) {maxLength : Int} {length : Nat}
    (room : growth.capacityAt maxLength length ≠ length)
    (free : (length : Int) < limitInForce maxLength) :
    growth.capacityAt maxLength (length + 1) = growth.capacityAt maxLength length ∧
      growth.reallocations (length + 1) = growth.reallocations length ∧
      growth.slots maxLength (length + 1) = growth.slots maxLength length := by
  cases growth with
  | exact | unnamed => exact absurd rfl room
  | doubling =>
    have filled : length ≠ 0 := by
      rintro rfl
      exact room rfl
    simp only [capacityAt, if_neg filled] at room
    have digits : Nat.clog 2 length = Nat.clog 2 (length + 1) := by
      apply (Nat.clog_eq_clog_succ_iff Nat.one_lt_two).mpr
      intro power
      exact room ((clamped_eq_iff free).mpr power)
    have same : doubling.reallocations (length + 1) = doubling.reallocations length := by
      simp only [reallocations, if_neg filled, if_neg (Nat.succ_ne_zero length), digits]
    refine ⟨?_, same, ?_⟩
    · simp only [capacityAt, if_neg filled, if_neg (Nat.succ_ne_zero length), digits]
    · simp only [slots, same]

end Growth

/-! ## Lists -/

namespace DynamicList

variable {α : Type}

/-- The capacity is the one that belongs to the length, if the length is below a
quarter of the words. -/
def Settled (list : DynamicList α) : Prop :=
  list.length < Word.quarter →
    list.capacity = list.growth.capacityAt list.maxLength list.length

/-- What an append to a settled list does to its buffer. A full list grows to the
capacity of the next length, in one replacement; a list with room has that
capacity already. -/
theorem append_settled {list : DynamicList α} (item : α) (settled : list.Settled)
    (free : ¬ (list.length : Int) ≥ list.limit) (short : list.length < Word.quarter) :
    let next := list.growth.capacityAt list.maxLength (list.length + 1)
    (list.append item = .ok ({ list with items := list.items.push item, capacity := next },
        [.grew list.capacity next, .appended]) ∧
      list.growth.reallocations (list.length + 1) = list.growth.reallocations list.length + 1 ∧
      list.growth.slots list.maxLength (list.length + 1) =
        list.growth.slots list.maxLength list.length + next) ∨
    (list.append item = .ok ({ list with items := list.items.push item }, [.appended]) ∧
      list.capacity = next ∧
      list.growth.reallocations (list.length + 1) = list.growth.reallocations list.length ∧
      list.growth.slots list.maxLength (list.length + 1) =
        list.growth.slots list.maxLength list.length) := by
  have capacity := settled short
  have below : (list.length : Int) < limitInForce list.maxLength := Int.not_le.mp free
  rw [append_free item free]
  by_cases full : list.growth.capacityAt list.maxLength list.length = list.length
  · obtain ⟨next, more, slots⟩ := list.growth.full_step full below short
    refine .inl ⟨?_, more, slots⟩
    have isFull : (list.length : Int) = list.capacity := by rw [capacity, full]
    have grown : list.growth.nextCapacity list.limit list.capacity (list.length + 1) =
        list.growth.capacityAt list.maxLength (list.length + 1) := by
      rw [← isFull]
      exact next
    simp only [reserve, if_pos isFull, grown, List.singleton_append]
  · obtain ⟨next, same, slots⟩ := list.growth.room_step full below
    refine .inr ⟨?_, ?_, same, slots⟩
    · have hasRoom : ¬ (list.length : Int) = list.capacity := by
        rw [capacity]
        intro filled
        exact full (Int.ofNat.inj filled).symm
      simp only [reserve, if_neg hasRoom, List.nil_append]
    · rw [capacity, next]

/-- Appending keeps a list settled. -/
theorem appended_settled {list : DynamicList α} (item : α) (settled : list.Settled) :
    (list.appended item).Settled := by
  unfold appended
  by_cases full : (list.length : Int) ≥ list.limit
  · rw [append_full item full]
    exact settled
  · by_cases short : list.length < Word.quarter
    · obtain ⟨grew, _⟩ | ⟨same, capacity, _⟩ := append_settled item settled full short
      · rw [grew]
        intro _
        simp [length]
      · rw [same]
        intro _
        simpa [length] using capacity
    · rw [append_free item full]
      intro shorter
      simp only [length, reserve_items, Array.size_push] at shorter
      simp only [length] at short
      omega

end DynamicList

end ContainerKernel
