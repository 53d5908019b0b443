import ContainerKernel.Proofs.Capacities

/-!
# What the observer of a list sees

A list that is appended to and read shows its observer two things: the items that
were stored, and the buffers that were replaced. The record is a function of the
length. As many items were seen as there are, and the replacements form a chain
from no buffer at all to the present one, each strictly larger than the one before
it. Under doubling the chain is as long as a number of the list's length has binary
digits, and the slots of all its buffers together are at most four for each item.

Reads and refused appends leave the list and the record as they are. Lengths from a
quarter of the words on are not treated, for there twice the capacity may not be a
word any more.
-/

namespace ContainerKernel

namespace Growth

/-! ## The slots of all buffers -/

/-- A limit takes slots away at most. -/
theorem clamped_le (maxLength : Int) (count : Nat) : clamped maxLength count ≤ count := by
  unfold clamped
  split
  · exact Nat.min_le_left count _
  · exact Nat.le_refl count

/-- The first powers of two are together less than the next one, with or without a
limit on each. -/
theorem sum_clamped_lt (maxLength : Int) (count : Nat) :
    ((List.range count).map fun exponent => clamped maxLength (Nat.pow 2 exponent)).sum <
      Nat.pow 2 count := by
  induction count with
  | zero => exact Nat.one_pos
  | succ count inductionHypothesis =>
    have last : clamped maxLength (Nat.pow 2 count) ≤ Nat.pow 2 count := clamped_le maxLength _
    have doubled : Nat.pow 2 (count + 1) = Nat.pow 2 count * 2 := Nat.pow_succ 2 count
    rw [List.range_succ, List.map_append, List.sum_append, List.map_singleton, List.sum_singleton]
    omega

/-- The power of two at or above a length is less than twice the length. -/
theorem pow_clog_lt {length : Nat} (positive : length ≠ 0) :
    Nat.pow 2 (Nat.clog 2 length) < 2 * length := by
  by_cases single : length = 1
  · subst single
    decide
  · have below : Nat.pow 2 (Nat.clog 2 length - 1) < length :=
      Nat.pow_pred_clog_lt_self Nat.one_lt_two (by omega)
    have digits : 0 < Nat.clog 2 length := Nat.clog_pos Nat.one_lt_two (by omega)
    have doubled : Nat.pow 2 (Nat.clog 2 length - 1 + 1) =
        Nat.pow 2 (Nat.clog 2 length - 1) * 2 := Nat.pow_succ 2 _
    rw [Nat.sub_add_cancel digits] at doubled
    omega

/-- Under doubling all buffers together have at most four slots for each item. -/
theorem slots_doubling_le (maxLength : Int) (length : Nat) :
    doubling.slots maxLength length ≤ 4 * length := by
  by_cases empty : length = 0
  · subst empty
    exact Nat.le_refl 0
  · have total : doubling.slots maxLength length < Nat.pow 2 (doubling.reallocations length) :=
      sum_clamped_lt maxLength _
    have last : Nat.pow 2 (doubling.reallocations length) =
        Nat.pow 2 (Nat.clog 2 length) * 2 := by
      simp only [reallocations, if_neg empty]
      rw [Nat.add_comm]
      exact Nat.pow_succ 2 _
    have power := pow_clog_lt empty
    omega

end Growth

/-! ## Chains of replacements -/

/-- Replacements that lead from one capacity to another: each takes the capacity that
the one before it has left, and leaves a larger one. -/
def Climbs : Int → List (Int × Int) → Int → Prop
  | first, [], last => first = last
  | first, (old, new) :: rest, last => old = first ∧ old < new ∧ Climbs new rest last

/-- A chain goes on with a replacement of the capacity that it has reached. -/
theorem Climbs.snoc {first reached new : Int} {replacements : List (Int × Int)}
    (climbs : Climbs first replacements reached) (larger : reached < new) :
    Climbs first (replacements ++ [(reached, new)]) new := by
  induction replacements generalizing first with
  | nil =>
    obtain rfl : first = reached := climbs
    exact ⟨rfl, larger, rfl⟩
  | cons replacement rest inductionHypothesis =>
    obtain ⟨taken, more, following⟩ := climbs
    exact ⟨taken, more, inductionHypothesis following⟩

namespace DynamicList

variable {α : Type} {list grown : DynamicList α} {item : α} {events : List ListEvent}

/-- A growth leaves a larger capacity. -/
theorem append_grew {old new : Int}
    (appended : list.append item = .ok (grown, [.grew old new, .appended])) : old < new := by
  obtain ⟨free, _⟩ := append_ok appended
  rw [append_free item free] at appended
  have seen : list.reserve.2 ++ [.appended] = [.grew old new, .appended] :=
    congrArg Prod.snd (Except.ok.inj appended)
  unfold reserve at seen
  split at seen
  · next full =>
    simp only [List.singleton_append, List.cons.injEq, ListEvent.grew.injEq, and_true] at seen
    obtain ⟨rfl, rfl⟩ := seen
    have room := list.growth.needed_le_nextCapacity list.capacity
      (show (list.length : Int) + 1 ≤ list.limit by omega)
    omega
  · simp at seen

/-- What an append to a settled list lets the observer see: one replacement, which leads
to the capacity of the new length, or none. -/
theorem append_seen (settled : list.Settled) (short : list.length < Word.quarter)
    (appended : list.append item = .ok (grown, events)) :
    grown.capacity = list.growth.capacityAt list.maxLength grown.length ∧
    ((events = [.grew list.capacity grown.capacity, .appended] ∧ list.capacity < grown.capacity ∧
      list.growth.reallocations grown.length = list.growth.reallocations list.length + 1 ∧
      (list.growth.slots list.maxLength grown.length : Int) =
        list.growth.slots list.maxLength list.length + grown.capacity) ∨
    (events = [.appended] ∧ list.capacity = grown.capacity ∧
      list.growth.reallocations grown.length = list.growth.reallocations list.length ∧
      list.growth.slots list.maxLength grown.length =
        list.growth.slots list.maxLength list.length)) := by
  obtain ⟨free, longer⟩ := append_ok appended
  rw [longer]
  obtain ⟨grew, more, slots⟩ | ⟨kept, next, same, slots⟩ := append_settled item settled free short
  · have larger := append_grew grew
    cases appended.symm.trans grew
    refine ⟨rfl, .inl ⟨rfl, larger, more, ?_⟩⟩
    rw [slots]
    exact Int.natCast_add _ _
  · cases appended.symm.trans kept
    exact ⟨next, .inr ⟨rfl, rfl, same, slots⟩⟩

end DynamicList

/-! ## Calls on a list -/

/-- A call on a list. -/
inductive ListCall (α : Type) where
  | append (item : α)
  | itemAt (index : Int)
  | items
deriving Repr

/-- The answer to a call that succeeds. -/
inductive ListAnswer (α : Type) where
  | done
  | item (item : α)
  | items (items : List α)
deriving DecidableEq, Repr

/-- A list, and what its observer has seen of it. -/
structure WatchedList (α : Type) where
  list : DynamicList α
  seen : List ListEvent := []
deriving Repr

/-- The old and the new capacity, if a buffer was replaced. -/
def ListEvent.replacement? : ListEvent → Option (Int × Int)
  | .grew oldCapacity newCapacity => some (oldCapacity, newCapacity)
  | .appended => none

namespace WatchedList

variable {α : Type} {watched : WatchedList α}

/-- A list without items that nothing has been seen of. -/
def new (growth : Growth) (maxLength : Int) : WatchedList α where
  list := { growth, maxLength }

/-- Make a call. -/
def call (watched : WatchedList α) : ListCall α → WatchedList α × Except Fault (ListAnswer α)
  | .append item =>
    match watched.list.append item with
    | .ok (grown, events) => (⟨grown, watched.seen ++ events⟩, .ok .done)
    | .error fault => (watched, .error fault)
  | .itemAt index => (watched, (watched.list.itemAt index).map .item)
  | .items => (watched, .ok (.items watched.list.items.toList))

/-- The list after calls one after another. -/
def after (watched : WatchedList α) (calls : List (ListCall α)) : WatchedList α :=
  calls.foldl (fun reached call => (reached.call call).1) watched

/-- How many items were seen to be stored. -/
def appends (watched : WatchedList α) : Nat :=
  watched.seen.count .appended

/-- The replacements of the buffer that were seen. -/
def replacements (watched : WatchedList α) : List (Int × Int) :=
  watched.seen.filterMap ListEvent.replacement?

/-- A refused append leaves the list and the record as they are. -/
theorem call_refused {item : α} (full : (watched.list.length : Int) ≥ watched.list.limit) :
    watched.call (.append item) =
      (watched,
        .error (.allocation (utf8 "list") (watched.list.length + 1) watched.list.limit)) := by
  rw [call, DynamicList.append_full item full]

/-- An append that the list accepts stores its item, and its events are seen. -/
theorem call_accepted {item : α} {grown : DynamicList α} {events : List ListEvent}
    (appended : watched.list.append item = .ok (grown, events)) :
    watched.call (.append item) = (⟨grown, watched.seen ++ events⟩, .ok .done) := by
  rw [call, appended]

/-- A call leaves the list and the record as they are, or is an append that is not
refused. -/
theorem call_cases (watched : WatchedList α) (call : ListCall α) :
    (watched.call call).1 = watched ∨ ∃ item grown events, call = .append item ∧
      watched.list.append item = .ok (grown, events) ∧
      (watched.call call).1 = ⟨grown, watched.seen ++ events⟩ := by
  cases call with
  | itemAt index => exact .inl rfl
  | items => exact .inl rfl
  | append item =>
    cases appended : watched.list.append item with
    | error fault =>
      rw [WatchedList.call, appended]
      exact .inl rfl
    | ok answer =>
      obtain ⟨grown, events⟩ := answer
      rw [call_accepted appended]
      exact .inr ⟨item, grown, events, rfl, appended, rfl⟩

/-- No call makes a list shorter or changes how it was set up. -/
theorem list_call (watched : WatchedList α) (call : ListCall α) :
    watched.list.length ≤ (watched.call call).1.list.length ∧
      (watched.call call).1.list.growth = watched.list.growth ∧
      (watched.call call).1.list.maxLength = watched.list.maxLength := by
  obtain same | ⟨item, grown, events, -, appended, stored⟩ := call_cases watched call
  · rw [same]
    exact ⟨Nat.le_refl _, rfl, rfl⟩
  · have longer := (DynamicList.append_ok appended).2
    have kept := watched.list.appended_configured item
    rw [DynamicList.appended, appended] at kept
    rw [stored]
    exact ⟨by dsimp only; omega, kept⟩

/-- Calls one after another make a list no shorter and keep how it was set up. -/
theorem list_after (watched : WatchedList α) (calls : List (ListCall α)) :
    watched.list.length ≤ (watched.after calls).list.length ∧
      (watched.after calls).list.growth = watched.list.growth ∧
      (watched.after calls).list.maxLength = watched.list.maxLength := by
  induction calls generalizing watched with
  | nil => exact ⟨Nat.le_refl _, rfl, rfl⟩
  | cons call rest inductionHypothesis =>
    obtain ⟨longer, growth, limit⟩ := inductionHypothesis (watched.call call).1
    obtain ⟨firstLonger, firstGrowth, firstLimit⟩ := list_call watched call
    exact ⟨firstLonger.trans longer, growth.trans firstGrowth, limit.trans firstLimit⟩

/-! ## The record -/

/-- The capacity and the record belong to the length of the list. -/
structure Recorded (watched : WatchedList α) : Prop where
  capacity : watched.list.capacity =
    watched.list.growth.capacityAt watched.list.maxLength watched.list.length
  appends : watched.appends = watched.list.length
  climbs : Climbs 0 watched.replacements watched.list.capacity
  count : watched.replacements.length = watched.list.growth.reallocations watched.list.length
  slots : (watched.replacements.map Prod.snd).sum =
    watched.list.growth.slots watched.list.maxLength watched.list.length

/-- A list without items has no capacity and an empty record. -/
theorem recorded_new (growth : Growth) (maxLength : Int) :
    (new growth maxLength : WatchedList α).Recorded := by
  have unused : growth.slots maxLength 0 = 0 := by
    cases growth <;> rfl
  refine ⟨?_, rfl, rfl, ?_, ?_⟩
  · cases growth <;> rfl
  · cases growth <;> rfl
  · show (0 : Int) = (growth.slots maxLength 0 : Nat)
    rw [unused]
    rfl

/-- A call keeps the record in order, as long as the list is short.

Only an append that is not refused has to be looked at. A full list puts one link more
on the chain; a list with room has the capacity of the next length already. -/
theorem recorded_call (recorded : watched.Recorded) (short : watched.list.length < Word.quarter)
    (call : ListCall α) : (watched.call call).1.Recorded := by
  obtain same | ⟨item, grown, events, rfl, appended, stored⟩ := call_cases watched call
  · rw [same]
    exact recorded
  · obtain ⟨capacity, appends, climbs, count, slots⟩ := recorded
    have longer := (DynamicList.append_ok appended).2
    obtain ⟨growth, limit⟩ := (list_call watched (.append item)).2
    rw [stored] at growth limit ⊢
    obtain ⟨next, ⟨rfl, larger, more, added⟩ | ⟨rfl, same, more, added⟩⟩ :=
      DynamicList.append_seen (fun _ => capacity) short appended
    · have seen : replacements ⟨grown, watched.seen ++
          [.grew watched.list.capacity grown.capacity, .appended]⟩ =
          watched.replacements ++ [(watched.list.capacity, grown.capacity)] := by
        simp [replacements, ListEvent.replacement?]
      refine ⟨?_, ?_, ?_, ?_, ?_⟩
      · rw [growth, limit]
        exact next
      · simp only [WatchedList.appends] at appends ⊢
        simp [appends, longer]
      · rw [seen]
        exact climbs.snoc larger
      · rw [seen, growth, List.length_append, count]
        exact more.symm
      · rw [seen, growth, limit, List.map_append, List.sum_append, slots]
        simp [added]
    · have seen : replacements ⟨grown, watched.seen ++ [.appended]⟩ = watched.replacements := by
        simp [replacements, ListEvent.replacement?]
      refine ⟨?_, ?_, ?_, ?_, ?_⟩
      · rw [growth, limit]
        exact next
      · simp only [WatchedList.appends] at appends ⊢
        simp [appends, longer]
      · rw [seen]
        exact same ▸ climbs
      · rw [seen, growth, count]
        exact more.symm
      · rw [seen, growth, limit, slots]
        exact congrArg Int.ofNat added.symm

/-- Calls one after another keep the record in order, as long as the list stays
short. -/
theorem recorded_after (calls : List (ListCall α)) (recorded : watched.Recorded)
    (short : (watched.after calls).list.length < Word.quarter) :
    (watched.after calls).Recorded := by
  induction calls generalizing watched with
  | nil => exact recorded
  | cons call rest inductionHypothesis =>
    have now : watched.list.length < Word.quarter :=
      Nat.lt_of_le_of_lt (list_after watched (call :: rest)).1 short
    exact inductionHypothesis (recorded_call recorded now call) short

/-- **The record follows the length.** Take a new list with any growth and any limit;
with doubling and without a limit it is the one that needs no setting up. After any
calls, as long as its length is below a quarter of the words:

* its capacity is the one of its length;
* as many items were seen to be stored as there are, and the replacements that were
  seen lead from no buffer to the capacity, each to a larger buffer than the one before;
* there are as many of them as belong to the length, and under doubling their buffers
  together have at most four slots for each item;
* one more append is refused exactly if there is a limit and the length has reached it,
  and then it changes neither the list nor the record. -/
theorem record_follows_length (growth : Growth) (maxLength : Int) (calls : List (ListCall α)) :
    let watched : WatchedList α := (new growth maxLength).after calls
    let length := watched.list.length
    length < Word.quarter →
      watched.list.capacity = growth.capacityAt maxLength length ∧
      watched.appends = length ∧
      Climbs 0 watched.replacements watched.list.capacity ∧
      watched.replacements.length = growth.reallocations length ∧
      (growth = .doubling → (watched.replacements.map Prod.snd).sum ≤ 4 * length) ∧
      ∀ item, ((∃ fault, (watched.call (.append item)).2 = .error fault) ↔
          0 < maxLength ∧ maxLength ≤ length) ∧
        ∀ fault, (watched.call (.append item)).2 = .error fault →
          (watched.call (.append item)).1 = watched := by
  intro watched length short
  obtain ⟨capacity, appends, climbs, count, slots⟩ : watched.Recorded :=
    recorded_after calls (recorded_new growth maxLength) short
  obtain ⟨_, sameGrowth, sameLimit⟩ := list_after (new growth maxLength : WatchedList α) calls
  have setGrowth : watched.list.growth = growth := sameGrowth
  have setLimit : watched.list.maxLength = maxLength := sameLimit
  rw [setGrowth, setLimit] at capacity slots
  rw [setGrowth] at count
  refine ⟨capacity, appends, climbs, count, ?_, ?_⟩
  · rintro rfl
    have few := Growth.slots_doubling_le maxLength watched.list.length
    rw [slots]
    exact Int.ofNat_le.mpr few
  · intro item
    have full : (watched.list.length : Int) ≥ watched.list.limit ↔
        0 < maxLength ∧ maxLength ≤ length := by
      simp only [DynamicList.limit, limitInForce, setLimit, Word.largest, Word.quarter] at short ⊢
      split <;> omega
    by_cases refused : (watched.list.length : Int) ≥ watched.list.limit
    · rw [call_refused refused]
      exact ⟨⟨fun _ => full.mp refused, fun _ => ⟨_, rfl⟩⟩, fun _ _ => rfl⟩
    · rw [call_accepted (DynamicList.append_free item refused)]
      refine ⟨⟨?_, fun reached => absurd (full.mpr reached) refused⟩, ?_⟩
      · rintro ⟨fault, impossible⟩
        cases impossible
      · intro fault impossible
        cases impossible

/-- Six appends with reads in between, under doubling and a limit of five that is no
power of two: the last buffer is cut at the limit, and the last append is refused. -/
theorem limit_cuts_last_buffer :
    let calls : List (ListCall Bool) :=
      [.append true, .append false, .itemAt 7, .append true, .items, .append true, .append false,
        .append true]
    let watched := (new .doubling 5).after calls
    watched.list.length < Word.quarter ∧ watched.list.capacity = 5 ∧ watched.appends = 5 ∧
      watched.replacements = [(0, 1), (1, 2), (2, 4), (4, 5)] ∧
      watched.replacements.length = Growth.doubling.reallocations 5 ∧
      (watched.replacements.map Prod.snd).sum ≤ 4 * 5 ∧
      (watched.call (.append true)).1 = watched := by
  intro calls watched
  have short : watched.list.length < Word.quarter := by decide
  have five : watched.list.length = 5 := by decide
  obtain ⟨_, appends, _, count, slots, refusal⟩ := record_follows_length .doubling 5 calls short
  obtain ⟨refused, kept⟩ := refusal true
  obtain ⟨fault, failed⟩ := refused.mpr (by decide)
  exact ⟨short, by decide, appends, by decide, count, slots rfl, kept fault failed⟩

end WatchedList

end ContainerKernel
