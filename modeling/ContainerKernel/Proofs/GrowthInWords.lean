import ContainerKernel.Proofs.BufferRecords

/-!
# Growth reckoned in words

Twice the capacity of a list may be more than a word can hold. What is left of it
then is a negative number, or at any rate one that is smaller than what is needed,
so the slots needed decide, and the number that is compared with the limit is never
negative. The check for negative numbers is there for nothing: without it every list
would grow in the same way.

No length is left out here, in contrast to the laws about capacities as functions of
the length. A list is only asked to fit: to have a slot for each item, and no more
slots than its limit.
-/

namespace ContainerKernel

namespace Word

/-- Wrapping around leaves a word, whatever is wrapped. -/
theorem wrap_le (value : Int) : wrap value ≤ largest := by
  have below : wrap value < ((range : Int) + 1) / 2 := Int.bmod_lt (by decide)
  unfold largest
  simp only [range] at below
  omega

/-- An amount between one and two ranges of words that are not negative wraps around
to a negative number. -/
theorem wrap_negative {value : Int} (beyond : largest < value) (inRange : value < range) :
    wrap value < 0 := by
  unfold largest at beyond
  unfold wrap
  simp only [range] at inRange ⊢
  have shifted : Int.bmod value 18446744073709551616 = value - 18446744073709551616 := by
    rw [Int.bmod_eq_iff (by decide)]
    omega
  omega

end Word

namespace Growth

/-- The slots that doubling aims at before it looks at the limit. -/
def aimed (capacity needed : Int) : Int :=
  max (Word.wrap (capacity * 2)) needed

/-- Doubling gives what it aims at, unless that is beyond the limit or negative. -/
theorem nextCapacity_aimed (limit capacity needed : Int) :
    doubling.nextCapacity limit capacity needed =
      if aimed capacity needed > limit ∨ aimed capacity needed < 0 then limit
      else aimed capacity needed := by
  have chosen : (if Word.wrap (capacity * 2) < needed then needed
      else Word.wrap (capacity * 2)) = aimed capacity needed := by
    unfold aimed
    split <;> omega
  unfold nextCapacity
  simp only [chosen]

variable {limit capacity : Int}

/-- A capacity whose double is no word wraps around below what is needed. -/
theorem wrap_lt_needed (overflows : Word.largest < capacity * 2) :
    Word.wrap (capacity * 2) < capacity + 1 := by
  by_cases inRange : capacity * 2 < Word.range
  · have negative := Word.wrap_negative overflows inRange
    unfold Word.largest at overflows
    omega
  · have word := Word.wrap_le (capacity * 2)
    unfold Word.largest at word
    simp only [Word.range] at inRange
    omega

/-- What doubling aims at is never negative. -/
theorem aimed_nonneg (positive : 0 ≤ capacity) : 0 ≤ aimed capacity (capacity + 1) := by
  unfold aimed
  omega

/-- Doubling gives what it aims at, cut at the limit. -/
theorem nextCapacity_eq_min (positive : 0 ≤ capacity) :
    doubling.nextCapacity limit capacity (capacity + 1) =
      min (aimed capacity (capacity + 1)) limit := by
  have notNegative := aimed_nonneg positive
  rw [nextCapacity_aimed]
  split <;> omega

/-- Where twice the capacity is no word, doubling adds one slot. -/
theorem nextCapacity_overflow (positive : 0 ≤ capacity) (free : capacity < limit)
    (overflows : Word.largest < capacity * 2) :
    doubling.nextCapacity limit capacity (capacity + 1) = capacity + 1 := by
  have small := wrap_lt_needed overflows
  rw [nextCapacity_eq_min positive]
  unfold aimed
  omega

/-- A growth that does not double gives what is needed. -/
theorem nextCapacity_other {growth : Growth} (other : growth ≠ .doubling) (needed : Int) :
    growth.nextCapacity limit capacity needed = needed := by
  cases growth with
  | doubling => exact absurd rfl other
  | exact | unnamed => rfl

/-- No growth goes beyond the limit, if what is needed does not. -/
theorem nextCapacity_le (growth : Growth) (positive : 0 ≤ capacity) (free : capacity < limit) :
    growth.nextCapacity limit capacity (capacity + 1) ≤ limit := by
  by_cases doubles : growth = .doubling
  · rw [doubles, nextCapacity_eq_min positive]
    exact Int.min_le_right _ _
  · rw [nextCapacity_other doubles]
    omega

end Growth

namespace DynamicList

variable {α : Type} {list : DynamicList α}

/-- There is a slot for each item, and there are no more slots than the limit allows. -/
structure Fits (list : DynamicList α) : Prop where
  occupied : (list.length : Int) ≤ list.capacity
  allowed : list.capacity ≤ list.limit

/-- Making room in a list that fits and is not at its limit makes room for one item
more, within the limit. -/
theorem Fits.reserve (fits : list.Fits) (free : (list.length : Int) < list.limit) :
    (list.length : Int) + 1 ≤ list.reserve.1.capacity ∧ list.reserve.1.capacity ≤ list.limit := by
  obtain ⟨occupied, allowed⟩ := fits
  unfold DynamicList.reserve
  split
  · next full =>
    rw [← full]
    exact ⟨list.growth.needed_le_nextCapacity _ (by omega),
      list.growth.nextCapacity_le (by omega) free⟩
  · dsimp only
    omega

/-- Appending keeps a list fitting. -/
theorem Fits.appended (fits : list.Fits) (item : α) : (list.appended item).Fits := by
  unfold DynamicList.appended
  by_cases full : (list.length : Int) ≥ list.limit
  · rw [append_full item full]
    exact fits
  · obtain ⟨room, allowed⟩ := fits.reserve (Int.not_le.mp full)
    rw [append_free item full]
    constructor
    · simp only [length, reserve_items, Array.size_push] at room ⊢
      omega
    · simp only [limit, reserve_maxLength] at allowed ⊢
      exact allowed

end DynamicList

namespace WatchedList

variable {α : Type} {watched : WatchedList α}

/-- A new list has no slots. -/
theorem fits_new (growth : Growth) (maxLength : Int) :
    (new growth maxLength : WatchedList α).list.Fits where
  occupied := Int.le_refl 0
  allowed := DynamicList.limit_nonneg _

/-- A call keeps the list fitting. -/
theorem fits_call (fits : watched.list.Fits) (call : ListCall α) :
    (watched.call call).1.list.Fits := by
  obtain same | ⟨item, grown, events, -, appended, stored⟩ := call_cases watched call
  · rw [same]
    exact fits
  · have kept := fits.appended item
    rw [DynamicList.appended, appended] at kept
    rw [stored]
    exact kept

/-- Calls one after another keep the list fitting. -/
theorem fits_after (calls : List (ListCall α)) (fits : watched.list.Fits) :
    (watched.after calls).list.Fits := by
  induction calls generalizing watched with
  | nil => exact fits
  | cons call rest inductionHypothesis => exact inductionHypothesis (fits_call fits call)

end WatchedList

namespace DynamicList

variable {α : Type}

/-- Making room in a full list replaces its buffer once, by one of the next capacity. -/
theorem reserve_full {list : DynamicList α} (full : (list.length : Int) = list.capacity) :
    let next := list.growth.nextCapacity list.limit list.capacity (list.capacity + 1)
    list.reserve = ({ list with capacity := next }, [.grew list.capacity next]) := by
  unfold reserve
  rw [if_pos full, full]

/-- An append takes over the slots that making room for it has left. -/
theorem append_capacity {list grown : DynamicList α} {item : α} {events : List ListEvent}
    (appended : list.append item = .ok (grown, events)) :
    grown.capacity = list.reserve.1.capacity := by
  rw [append_free item (append_ok appended).1] at appended
  cases appended
  rfl

/-- **Growth leaves room.** Take any growth and any limit. A list with as many items as
slots that is below its limit, of any length, gets new slots when room is made in it:

* one more at least, and altogether not more than the limit;
* under doubling twice as many, but one at least and not more than the limit, if twice
  as many is a word, and otherwise just one more; in either case what doubling aims at
  is not negative, and only the limit takes something away from it;
* under every other growth just one more.

The number of slots needed is a word itself, if the limit was set to one.

Hence a list that calls have led to has a slot for each of its items, and an append that
takes an item finds a slot for it. -/
theorem growth_leaves_room (growth : Growth) (maxLength : Int) :
    let limit := limitInForce maxLength
    (∀ list : DynamicList α, list.growth = growth → list.maxLength = maxLength →
      (list.length : Int) = list.capacity → list.capacity < limit →
      let slots := list.capacity
      let next := growth.nextCapacity limit slots (slots + 1)
      list.reserve = ({ list with capacity := next }, [.grew slots next]) ∧
      slots + 1 ≤ next ∧ next ≤ limit ∧
      (growth = .doubling →
        (slots * 2 ≤ Word.largest → next = min (max (slots * 2) 1) limit) ∧
        (Word.largest < slots * 2 → next = slots + 1) ∧
        ¬ Growth.aimed slots (slots + 1) < 0 ∧
        next = min (Growth.aimed slots (slots + 1)) limit) ∧
      (growth ≠ .doubling → next = slots + 1) ∧
      (Word.holds maxLength = true → Word.wrap (slots + 1) = slots + 1)) ∧
    ∀ calls : List (ListCall α),
      let list := ((WatchedList.new growth maxLength).after calls).list
      (list.length : Int) ≤ list.capacity ∧ list.capacity ≤ limit ∧
      ∀ item grown events, list.append item = .ok (grown, events) →
        (list.length : Int) + 1 ≤ list.reserve.1.capacity ∧
          grown.capacity = list.reserve.1.capacity := by
  intro limit
  refine ⟨?grows, ?reslices⟩
  case grows =>
    rintro list rfl rfl full free slots next
    have positive : 0 ≤ slots := by omega
    have needed : slots + 1 ≤ next :=
      list.growth.needed_le_nextCapacity slots (show slots + 1 ≤ limit from free)
    refine ⟨reserve_full full, needed, list.growth.nextCapacity_le positive free, ?_, ?_, ?_⟩
    · intro doubles
      simp only [next, doubles]
      exact ⟨Growth.nextCapacity_doubling positive free,
        Growth.nextCapacity_overflow positive free,
        Int.not_lt.mpr (Growth.aimed_nonneg positive), Growth.nextCapacity_eq_min positive⟩
    · intro other
      exact Growth.nextCapacity_other other _
    · intro word
      have largest : limit ≤ Word.largest := by
        have bounds := (Word.holds_iff list.maxLength).mp word
        simp only [limit, limitInForce]
        split <;> omega
      exact Word.wrap_of_holds (by unfold Word.smallest; omega) (by omega)
  case reslices =>
    intro calls list
    have fits : list.Fits := WatchedList.fits_after calls (WatchedList.fits_new growth maxLength)
    have limited : list.limit = limit := by
      unfold DynamicList.limit
      rw [(WatchedList.list_after (WatchedList.new growth maxLength : WatchedList α) calls).2.2]
      rfl
    refine ⟨fits.occupied, limited ▸ fits.allowed, ?_⟩
    intro item grown events appended
    have free := Int.not_le.mp (append_ok appended).1
    exact ⟨(fits.reserve free).1, append_capacity appended⟩

/-- A list that fills a quarter of the words gets one slot when it doubles: twice its
capacity is one more than the largest word. A list of two items, full as well, gets two
slots for its third item. -/
theorem quarter_of_words_grows_by_one :
    let quarter : Int := 4611686018427387904
    let list : DynamicList Unit :=
      { items := Array.replicate 4611686018427387904 (), capacity := quarter }
    let short := ((WatchedList.new .doubling 0).after [.append (), .append ()]).list
    ((list.length : Int) = list.capacity ∧ Word.wrap (quarter * 2) < 0 ∧
      list.reserve = ({ list with capacity := quarter + 1 }, [.grew quarter (quarter + 1)])) ∧
    ∃ grown events, short.append () = .ok (grown, events) ∧ grown.capacity = 4 ∧
      (short.length : Int) + 1 ≤ grown.capacity := by
  intro quarter list short
  obtain ⟨grows, reslices⟩ := @growth_leaves_room Unit .doubling 0
  have full : (list.length : Int) = list.capacity := by
    simp [list, quarter, length]
  have negative : Word.wrap (quarter * 2) < 0 := by decide
  obtain ⟨grown, _, _, doubles, _⟩ := grows list rfl rfl full (by decide)
  have oneMore := (doubles rfl).2.1 (by decide)
  rw [oneMore] at grown
  have appended := @append_free Unit short () (by decide)
  have room := (reslices [.append (), .append ()]).2.2 () _ _ appended
  exact ⟨⟨full, negative, grown⟩, _, _, appended, by decide, by rw [room.2]; exact room.1⟩

end DynamicList

end ContainerKernel
