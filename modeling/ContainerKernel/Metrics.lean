import ContainerKernel.DynamicList
import ContainerKernel.Metrics.Counter

/-!
# Allocation counters

Five counters follow what the containers allocate, and one counter per class of fault follows
their misuse. A negative amount is refused: the counter of events has then gone up already and
the counter of amounts has not. A class of faults has to have a name that is UTF-8; under another
name nothing is counted.
-/

namespace ContainerKernel

/-- The counters of one registry. -/
structure Metrics where
  listAppends : Counter := {}
  listReallocations : Counter := {}
  listSlots : Counter := {}
  stringAllocations : Counter := {}
  stringBytes : Counter := {}
  /-- The faults counted so far, by the name of their class, each name once. -/
  faults : List (Bytes × Counter) := []
deriving Repr, Inhabited

/-- The readings of the five allocation counters. -/
structure Snapshot where
  listAppends : Int := 0
  listReallocations : Int := 0
  listSlots : Int := 0
  stringAllocations : Int := 0
  stringBytes : Int := 0
deriving DecidableEq, Repr, Inhabited

/-- The reason why nothing is counted. -/
inductive CounterRefusal where
  /-- The amount is negative. -/
  | negative
  /-- The name of a class of faults is not UTF-8. -/
  | illegible (name : Bytes)
deriving DecidableEq, Repr, Inhabited

/-- The text of a refusal. -/
def CounterRefusal.message : CounterRefusal → Bytes
  | negative => utf8 "counter cannot decrease in value"
  | illegible name => utf8 "label value " ++ quoted name ++ utf8 " is not valid UTF-8"

namespace Metrics

/-- Count one appended item. -/
def observeAppend (metrics : Metrics) : Metrics :=
  { metrics with listAppends := metrics.listAppends.increment }

/-- Count one growth of a list's buffer and the slots of the new one. -/
def observeGrow (metrics : Metrics) (newCapacity : Int) : Metrics × Option CounterRefusal :=
  let counted := { metrics with listReallocations := metrics.listReallocations.increment }
  match counted.listSlots.add? newCapacity with
  | some slots => ({ counted with listSlots := slots }, none)
  | none => (counted, some .negative)

/-- Count one stored string and its bytes. -/
def observeString (metrics : Metrics) (size : Int) : Metrics × Option CounterRefusal :=
  let counted := { metrics with stringAllocations := metrics.stringAllocations.increment }
  match counted.stringBytes.add? size with
  | some bytes => ({ counted with stringBytes := bytes }, none)
  | none => (counted, some .negative)

/-- Count one fault under a name, in a list of names each of which stands once. -/
def countFault (name : Bytes) : List (Bytes × Counter) → List (Bytes × Counter)
  | [] => [(name, Counter.increment {})]
  | (known, counter) :: rest =>
    if known = name then (known, counter.increment) :: rest
    else (known, counter) :: countFault name rest

/-- Count one fault. -/
def observeFault (metrics : Metrics) (name : Bytes) : Metrics × Option CounterRefusal :=
  if isUtf8 name then ({ metrics with faults := countFault name metrics.faults }, none)
  else (metrics, some (.illegible name))

/-- Count one event of a list's buffer. -/
def observeListEvent (metrics : Metrics) : ListEvent → Metrics
  | .grew _ newCapacity => (metrics.observeGrow newCapacity).1
  | .appended => metrics.observeAppend

/-- The readings of the five allocation counters. -/
def snapshot (metrics : Metrics) : Snapshot where
  listAppends := metrics.listAppends.reading
  listReallocations := metrics.listReallocations.reading
  listSlots := metrics.listSlots.reading
  stringAllocations := metrics.stringAllocations.reading
  stringBytes := metrics.stringBytes.reading

/-- The readings of the fault counters, by name. -/
def faultCounts (metrics : Metrics) : List (Bytes × Nat) :=
  (metrics.faults.mergeSort fun first second => inOrder first.1 second.1).map
    fun (name, counter) => (name, counter.reading)

end Metrics

end ContainerKernel
