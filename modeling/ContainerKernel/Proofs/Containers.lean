import ContainerKernel.ByteString
import ContainerKernel.DynamicList

/-!
# Lists and strings as values

A list is its items: an append puts one item more at the end or, when the limit
in force is reached, changes nothing, and appends one after the other cut what
they are given at that limit. Capacities do not show in any of these laws. A
string is its bytes: what comes from a buffer has no NUL byte, and a join is
refused only beyond the longest string. Both are read by index in the same way,
and an index outside names the length in its fault.
-/

namespace ContainerKernel

/-- The words are the integers between the smallest and the largest. -/
theorem Word.holds_iff (value : Int) :
    holds value = true ↔ smallest ≤ value ∧ value ≤ largest := by
  simp [holds]

/-- What is a word already is not changed by wrapping around. -/
theorem Word.wrap_of_holds {value : Int} (lower : smallest ≤ value) (upper : value ≤ largest) :
    wrap value = value := by
  unfold smallest at lower
  unfold largest at upper
  apply Int.bmod_eq_of_le <;> simp only [range] <;> omega

namespace DynamicList

variable {α : Type}

/-- The list after an append, which is the list itself when the append is
refused. -/
def appended (list : DynamicList α) (item : α) : DynamicList α :=
  match list.append item with
  | .ok (grown, _) => grown
  | .error _ => list

/-- Making room changes the capacity only. -/
theorem reserve_items (list : DynamicList α) : list.reserve.1.items = list.items := by
  unfold reserve
  split <;> rfl

/-- Making room keeps the way of growing. -/
theorem reserve_growth (list : DynamicList α) : list.reserve.1.growth = list.growth := by
  unfold reserve
  split <;> rfl

/-- Making room keeps the limit. -/
theorem reserve_maxLength (list : DynamicList α) :
    list.reserve.1.maxLength = list.maxLength := by
  unfold reserve
  split <;> rfl

/-- The limit in force is the positive one of the settings, or else the largest
word; in no case is it negative. -/
theorem limit_nonneg (list : DynamicList α) : 0 ≤ list.limit := by
  unfold limit limitInForce Word.largest
  split <;> omega

/-- An append to a full list is refused with the length that it asked for. -/
theorem append_full {list : DynamicList α} (item : α) (full : (list.length : Int) ≥ list.limit) :
    list.append item = .error (.allocation (utf8 "list") (list.length + 1) list.limit) := by
  unfold append
  rw [if_pos full]

/-- An append to a list that is not full succeeds. -/
theorem append_free {list : DynamicList α} (item : α) (free : ¬ (list.length : Int) ≥ list.limit) :
    list.append item =
      .ok ({ list.reserve.1 with items := list.reserve.1.items.push item },
        list.reserve.2 ++ [.appended]) := by
  unfold append
  rw [if_neg free]

/-- A list that took an item had room for it and is longer by one. -/
theorem append_ok {list grown : DynamicList α} {item : α} {events : List ListEvent}
    (grew : list.append item = .ok (grown, events)) :
    ¬ (list.length : Int) ≥ list.limit ∧ grown.length = list.length + 1 := by
  by_cases full : (list.length : Int) ≥ list.limit
  · rw [append_full item full] at grew
    cases grew
  · rw [append_free item full] at grew
    cases grew
    refine ⟨full, ?_⟩
    simp only [length, reserve_items, Array.size_push]

/-- The items after an append, whether it is refused or not. -/
theorem appended_items (list : DynamicList α) (item : α) :
    (list.appended item).items.toList =
      if (list.length : Int) ≥ list.limit then list.items.toList
      else list.items.toList ++ [item] := by
  unfold appended
  by_cases full : (list.length : Int) ≥ list.limit
  · rw [append_full item full, if_pos full]
  · rw [append_free item full, if_neg full]
    simp [reserve_items]

/-- An append keeps the limit. -/
@[simp] theorem appended_limit (list : DynamicList α) (item : α) :
    (list.appended item).limit = list.limit := by
  unfold appended
  by_cases full : (list.length : Int) ≥ list.limit
  · rw [append_full item full]
  · rw [append_free item full]
    simp only [limit, reserve_maxLength]

/-- An append keeps how the list was set up. -/
theorem appended_configured (list : DynamicList α) (item : α) :
    (list.appended item).growth = list.growth ∧
      (list.appended item).maxLength = list.maxLength := by
  unfold appended
  by_cases full : (list.length : Int) ≥ list.limit
  · rw [append_full item full]
    exact ⟨rfl, rfl⟩
  · rw [append_free item full]
    exact ⟨reserve_growth list, reserve_maxLength list⟩

/-- Appends one after the other keep the limit. -/
@[simp] theorem appended_all_limit (list : DynamicList α) (items : List α) :
    (items.foldl appended list).limit = list.limit := by
  induction items generalizing list with
  | nil => rfl
  | cons item rest inductionHypothesis =>
    rw [List.foldl_cons, inductionHypothesis, appended_limit]

/-- An index inside a list finds the item there. -/
theorem itemAt_inside {list : DynamicList α} {index : Int}
    (inside : 0 ≤ index ∧ index < list.items.toList.length) :
    list.itemAt index = .ok (list.items.toList.get ⟨index.toNat, by omega⟩) := by
  have notNegative : ¬ index < 0 := by omega
  have bounded : index.toNat < list.items.size := by
    rw [← Array.length_toList]
    omega
  simp [itemAt, notNegative, bounded]

/-- An index outside a list is a fault that names the list's length. -/
theorem itemAt_outside {list : DynamicList α} {index : Int}
    (outside : ¬ (0 ≤ index ∧ index < list.items.toList.length)) :
    list.itemAt index = .error (.index (utf8 "list") index list.items.toList.length) := by
  unfold itemAt
  split
  · simp [length]
  · next notNegative =>
    have beyond : list.items.size ≤ index.toNat := by
      rw [← Array.length_toList]
      omega
    simp [beyond, length]

/-- After appends one after the other a list holds the items that it had and the
new ones, cut at its limit.

Induct over the new items with the list general. A full list is its own cut and
ignores the first new item; any other list takes it over, and the items together
are the same as before. -/
theorem appended_all_items (list : DynamicList α) (items : List α)
    (within : (list.length : Int) ≤ list.limit) :
    (items.foldl appended list).items.toList =
      (list.items.toList ++ items).take list.limit.toNat := by
  induction items generalizing list with
  | nil =>
    have short : list.items.toList.length ≤ list.limit.toNat := by
      simp only [length, Array.length_toList] at within ⊢
      omega
    simp [List.take_of_length_le short]
  | cons item rest inductionHypothesis =>
    have oneMore := appended_items list item
    have sameLength : (list.appended item).length = (list.appended item).items.toList.length := by
      simp [length]
    by_cases full : (list.length : Int) ≥ list.limit
    · rw [if_pos full] at oneMore
      have exactly : list.limit.toNat = list.items.toList.length := by
        simp only [length, Array.length_toList] at within full ⊢
        omega
      have still : ((list.appended item).length : Int) ≤ (list.appended item).limit := by
        rw [sameLength, oneMore, appended_limit]
        simpa [length] using within
      rw [List.foldl_cons, inductionHypothesis _ still, oneMore, appended_limit, exactly]
      simp only [List.take_left]
    · rw [if_neg full] at oneMore
      have still : ((list.appended item).length : Int) ≤ (list.appended item).limit := by
        rw [sameLength, oneMore, appended_limit]
        simp only [length, List.length_append, Array.length_toList, List.length_singleton] at full ⊢
        omega
      rw [List.foldl_cons, inductionHypothesis _ still, oneMore, appended_limit]
      simp only [List.append_assoc, List.singleton_append]

end DynamicList

/-- What is cut at its first NUL byte holds none. -/
theorem terminated_nul_free (buffer : Bytes) : (0 : UInt8) ∉ terminated buffer := by
  intro found
  have kept := List.all_eq_true.mp List.all_takeWhile 0 found
  simp at kept

namespace ByteString

/-- An index inside a string finds the byte there. -/
theorem byteAt_inside {text : ByteString} {index : Int}
    (inside : 0 ≤ index ∧ index < text.bytes.length) :
    text.byteAt index = .ok (text.bytes.get ⟨index.toNat, by omega⟩) := by
  have notNegative : ¬ index < 0 := by omega
  have bounded : index.toNat < text.bytes.length := by omega
  simp [byteAt, notNegative, bounded]

/-- An index outside a string is a fault that names the string's length. -/
theorem byteAt_outside {text : ByteString} {index : Int}
    (outside : ¬ (0 ≤ index ∧ index < text.bytes.length)) :
    text.byteAt index = .error (.index (utf8 "string") index text.bytes.length) := by
  unfold byteAt
  split
  · rfl
  · next notNegative =>
    have beyond : text.bytes.length ≤ index.toNat := by omega
    simp [beyond, length]

/-- A join that is not refused holds the bytes of both parts. -/
theorem extend_ok {text joined : ByteString} {suffix : Bytes}
    (extended : text.extend suffix = .ok joined) : joined = ⟨text.bytes ++ suffix⟩ := by
  unfold extend at extended
  split at extended
  · cases extended
  · exact (Except.ok.inj extended).symm

/-- A join that is refused would be longer than the longest string, and is
reported as asking for the largest word. -/
theorem extend_error {text : ByteString} {suffix : Bytes} {fault : Fault}
    (refused : text.extend suffix = .error fault) :
    ((text.bytes ++ suffix).length : Int) > maxLength ∧
      fault = .allocation (utf8 "string") Word.largest maxLength := by
  unfold extend at refused
  split at refused
  · next beyond =>
    simp only [length] at beyond
    have asked : Word.saturatingAdd text.bytes.length suffix.length = Word.largest := by
      unfold Word.saturatingAdd
      unfold maxLength at beyond
      split <;> omega
    refine ⟨?_, ?_⟩
    · rw [List.length_append]
      omega
    · rw [← asked]
      exact (Except.error.inj refused).symm
  · cases refused

/-- A join is not refused while it stays within the longest string. -/
theorem extend_within {text : ByteString} {suffix : Bytes}
    (within : ((text.bytes ++ suffix).length : Int) ≤ maxLength) :
    text.extend suffix = .ok ⟨text.bytes ++ suffix⟩ := by
  unfold extend
  rw [if_neg]
  rw [List.length_append] at within
  simp only [length]
  omega

/-- A join beyond the longest string is refused. -/
theorem extend_beyond {text : ByteString} {suffix : Bytes}
    (beyond : ((text.bytes ++ suffix).length : Int) > maxLength) :
    ∃ fault, text.extend suffix = .error fault := by
  unfold extend
  rw [if_pos]
  · exact ⟨_, rfl⟩
  · rw [List.length_append] at beyond
    simp only [length]
    omega

end ByteString

end ContainerKernel
