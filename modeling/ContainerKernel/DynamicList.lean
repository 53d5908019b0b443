import ContainerKernel.Fault
import ContainerKernel.Growth

/-!
# Dynamic lists

A list that grows at its end and is read by index. It has a capacity, the slots of its buffer,
which the growth policy enlarges when the list is full, and an optional limit on its length. An
append that the limit refuses changes nothing. What an append does to the buffer is reported as
events, so that whoever counts allocations need not look inside.
-/

namespace ContainerKernel

/-- What happens to a list's buffer during an append. -/
inductive ListEvent where
  /-- The buffer was replaced by a larger one. -/
  | grew (oldCapacity newCapacity : Int)
  /-- An item was stored. -/
  | appended
deriving DecidableEq, Repr, Inhabited

/-- The limit on the length of a list that is in force for a limit as it was set. -/
def limitInForce (maxLength : Int) : Int :=
  if maxLength > 0 then maxLength else Word.largest

/-- A dynamic list of items of a type. -/
structure DynamicList (α : Type) where
  items : Array α := #[]
  /-- The slots of the buffer, of which the items occupy the first. -/
  capacity : Int := 0
  growth : Growth := .doubling
  /-- The limit on the length as it was set; zero and negative numbers mean none. -/
  maxLength : Int := 0
deriving Repr, Inhabited

namespace DynamicList

variable {α : Type}

/-- The number of items. -/
def length (list : DynamicList α) : Nat :=
  list.items.size

/-- The limit on the length that is in force. -/
def limit (list : DynamicList α) : Int :=
  limitInForce list.maxLength

/-- The item at an index, or the fault that the index lies outside the list. -/
def itemAt (list : DynamicList α) (index : Int) : Except Fault α :=
  if index < 0 then .error (.index (utf8 "list") index list.length)
  else
    match list.items[index.toNat]? with
    | some item => .ok item
    | none => .error (.index (utf8 "list") index list.length)

/-- The list with a buffer that has room for one more item, and what that took. -/
def reserve (list : DynamicList α) : DynamicList α × List ListEvent :=
  if (list.length : Int) = list.capacity then
    let grown := list.growth.nextCapacity list.limit list.capacity (list.length + 1)
    ({ list with capacity := grown }, [.grew list.capacity grown])
  else (list, [])

/-- The list with an item more at its end, and the events of that; or the fault of the limit. -/
def append (list : DynamicList α) (item : α) :
    Except Fault (DynamicList α × List ListEvent) :=
  if (list.length : Int) ≥ list.limit then
    .error (.allocation (utf8 "list") (list.length + 1) list.limit)
  else
    let (roomy, events) := list.reserve
    .ok ({ roomy with items := roomy.items.push item }, events ++ [.appended])

end DynamicList

end ContainerKernel
