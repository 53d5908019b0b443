import ContainerKernel.Proofs.Capacities
import ContainerKernel.Proofs.ExactCounters
import ContainerKernel.Proofs.FaultRecords

/-!
# The counters account for the tables

Each container has cost something: appends, replaced buffers and their slots for a
list, one allocation and its bytes for a string. `Container.cost` says how much,
as a function of what the container is now, and the main statement is that each
counter reads as the sum of these costs over all containers.

Two things are followed step by step, and they meet in the amounts that an
operation gives to the counters (`Kernel.observations`). On the side of the tables
the cost goes up by these amounts, because the capacity of a list is the one that
belongs to its length. On the side of the counters the totals go up by the same
amounts, because small numbers pass through double precision unchanged. That no
amount is negative holds of all operations on all kernels, whatever the totals.

Totals from 2 ^ 53 on are not treated; the readings are rounded there.
-/

namespace ContainerKernel

/-! ## What is counted -/

/-- The five allocation counters. -/
inductive Tally where
  | listAppends
  | listReallocations
  | listSlots
  | stringAllocations
  | stringBytes
deriving DecidableEq, Repr

/-- The counter of a kind. -/
def Metrics.counter (metrics : Metrics) : Tally → Counter
  | .listAppends => metrics.listAppends
  | .listReallocations => metrics.listReallocations
  | .listSlots => metrics.listSlots
  | .stringAllocations => metrics.stringAllocations
  | .stringBytes => metrics.stringBytes

/-- What a list of the given length has cost, under the growth and the limit of the
settings. -/
def listCost (settings : Settings) (tally : Tally) (length : Nat) : Nat :=
  match tally with
  | .listAppends => length
  | .listReallocations => settings.growth.reallocations length
  | .listSlots => settings.growth.slots settings.listLimit length
  | .stringAllocations | .stringBytes => 0

/-- What a string of the given length has cost. -/
def stringCost (tally : Tally) (length : Nat) : Nat :=
  match tally with
  | .stringAllocations => 1
  | .stringBytes => length
  | .listAppends | .listReallocations | .listSlots => 0

/-- What a container has cost so far. -/
def Container.cost (settings : Settings) (tally : Tally) : Container → Nat
  | .list contents => listCost settings tally contents.length
  | .string text => stringCost tally text.length

/-- What the containers of a table have cost. -/
def tableCost (settings : Settings) (tally : Tally) (containers : Array Container) : Nat :=
  (containers.toList.map (Container.cost settings tally)).sum

/-- What all containers of a kernel have cost. -/
def Kernel.cost (kernel : Kernel) (tally : Tally) : Nat :=
  tableCost kernel.settings tally kernel.containers

/-- What the counters are told. -/
inductive Observation where
  | buffer (event : ListEvent)
  | text (size : Int)
  | fault (name : Bytes)
deriving DecidableEq, Repr

/-- The amount that a counter is to go up by. -/
def Observation.amount (tally : Tally) (observation : Observation) : Int :=
  match tally, observation with
  | .listAppends, .buffer .appended => 1
  | .listReallocations, .buffer (.grew _ _) => 1
  | .listSlots, .buffer (.grew _ newCapacity) => newCapacity
  | .stringAllocations, .text _ => 1
  | .stringBytes, .text size => size
  | _, _ => 0

/-- The amount that a counter is to go up by on the whole. -/
def Observation.total (tally : Tally) (observations : List Observation) : Int :=
  (observations.map (amount tally)).sum

/-- The total of observations is that of the first and of the others. -/
theorem Observation.total_cons (tally : Tally) (observation : Observation)
    (rest : List Observation) :
    total tally (observation :: rest) = observation.amount tally + total tally rest :=
  rfl

/-- A total of amounts that are not negative is not negative. -/
theorem Observation.total_nonneg (tally : Tally) {observations : List Observation}
    (nonneg : ∀ observation ∈ observations, ∀ tally, 0 ≤ observation.amount tally) :
    0 ≤ total tally observations := by
  induction observations with
  | nil => exact Int.le_refl 0
  | cons observation rest inductionHypothesis =>
    obtain ⟨first, later⟩ := List.forall_mem_cons.mp nonneg
    rw [total_cons]
    exact Int.add_nonneg (first tally) (inductionHypothesis later)

/-- Count what is observed, or refuse it. -/
def Metrics.observe (metrics : Metrics) : Observation → Metrics × Option CounterRefusal
  | .buffer .appended => (metrics.observeAppend, none)
  | .buffer (.grew _ newCapacity) => metrics.observeGrow newCapacity
  | .text size => metrics.observeString size
  | .fault name => metrics.observeFault name

/-- Count one observation after the other. -/
def Metrics.observeAll (metrics : Metrics) (observations : List Observation) : Metrics :=
  observations.foldl (fun counted observation => (counted.observe observation).1) metrics

namespace Kernel

/-- The events of an append to a list. -/
def bufferEvents (kernel : Kernel) (handle : Int) (value : Option Value) : List ListEvent :=
  match kernel.container? handle with
  | some (.list contents) =>
    match contents.append (value.getD .nil) with
    | .ok (_, events) => events
    | .error _ => []
  | _ => []

/-- What the counters are told about an operation. -/
def observations (kernel : Kernel) (operation : Operation) : List Observation :=
  match kernel.attempt operation, operation with
  | .error misuse, _ => [.fault misuse.kind.label]
  | .ok _, .listAppend handle value => (kernel.bufferEvents handle value).map .buffer
  | .ok _, other => (kernel.built? other).toList.map fun text => .text text.length

variable {kernel next : Kernel} {operation : Operation} {observations : List Observation}

/-- The cases of an operation once more, with the containers after it and with what
the counters are told. -/
inductive Observed (kernel : Kernel) : Operation → Array Container → List Observation → Prop where
  | read {operation : Operation} : Observed kernel operation kernel.containers []
  | listMade : Observed kernel .listNew (kernel.containers.push (.list kernel.newList)) []
  | stringMade {operation : Operation} (text : ByteString) :
      Observed kernel operation (kernel.containers.push (.string text)) [.text text.length]
  | appended {handle : Int} {value : Option Value} {contents grown : DynamicList Value}
      {events : List ListEvent} (live : kernel.container? handle = some (.list contents))
      (grew : contents.append (value.getD .nil) = .ok (grown, events)) :
      Observed kernel (.listAppend handle value)
        (kernel.containers.setIfInBounds (handle.toNat - 1) (.list grown)) (events.map .buffer)
  | misused {operation : Operation} (kind : FaultClass) :
      Observed kernel operation kernel.containers [.fault kind.label]

/-- An operation that succeeds tells the counters what its case says. -/
theorem observed_of_done {reply : Reply}
    (attempted : kernel.attempt operation = .ok (next, reply)) :
    Observed kernel operation next.containers (kernel.observations operation) ∧
      next.metrics = kernel.metrics.map (·.observeAll (kernel.observations operation)) := by
  have unobserved : kernel.metrics = kernel.metrics.map (·.observeAll []) := by
    cases kernel.metrics <;> rfl
  cases attempt_done attempted with
  | read _ reads =>
    have silent : kernel.observations operation = [] := by
      unfold Kernel.observations
      rw [attempted]
      cases operation with
      | listAt | listLength | listItems | stringLength | stringAt | stringBytes => rfl
      | listNew | listAppend | stringNew | stringAdd | stringConcat => cases reads
    rw [silent]
    exact ⟨.read, unobserved⟩
  | listMade => exact ⟨.listMade, unobserved⟩
  | stringMade text built fits =>
    have told : kernel.observations operation = [.text text.length] := by
      unfold Kernel.observations
      rw [attempted]
      cases operation with
      | stringNew | stringAdd | stringConcat =>
        dsimp only
        rw [built]
        rfl
      | listNew | listAppend | listAt | listLength | listItems | stringLength | stringAt
      | stringBytes => cases built
    rw [told]
    exact ⟨.stringMade text, rfl⟩
  | @appended handle value contents grown events live grew =>
    have told : kernel.observations (.listAppend handle value) = events.map .buffer := by
      unfold Kernel.observations bufferEvents
      rw [attempted]
      dsimp only
      rw [live]
      dsimp only
      rw [grew]
    rw [told]
    refine ⟨.appended live grew, ?_⟩
    have counted : ∀ metrics : Metrics, events.foldl Metrics.observeListEvent metrics =
        metrics.observeAll (events.map .buffer) := by
      intro metrics
      rw [Metrics.observeAll, List.foldl_map]
      congr 1
      funext counted event
      cases event <;> rfl
    exact congrArg (kernel.metrics.map ·) (funext counted)

/-- Every operation is observed in one of these ways, and the counters after it
are those that have been told. -/
theorem step_observed (kernel : Kernel) (operation : Operation) :
    Observed kernel operation (kernel.step operation).1.containers
        (kernel.observations operation) ∧
      (kernel.step operation).1.metrics =
        kernel.metrics.map (·.observeAll (kernel.observations operation)) := by
  unfold step
  cases attempted : kernel.attempt operation with
  | ok answer =>
    obtain ⟨next, reply⟩ := answer
    exact observed_of_done attempted
  | error misuse =>
    have told : kernel.observations operation = [.fault misuse.kind.label] := by
      unfold Kernel.observations
      rw [attempted]
    rw [told]
    dsimp only
    rw [report_kernel]
    exact ⟨.misused misuse.kind, rfl⟩

/-! ## No amount is negative -/

/-- The events of an append have no negative amount: a new capacity has room for
the item that is added. -/
theorem buffer_amount_nonneg {contents grown : DynamicList Value} {item : Value}
    {events : List ListEvent} (grew : contents.append item = .ok (grown, events))
    {event : ListEvent} (member : event ∈ events) (tally : Tally) :
    0 ≤ (Observation.buffer event).amount tally := by
  cases event with
  | appended => cases tally <;> decide
  | grew oldCapacity newCapacity =>
    obtain ⟨free, _⟩ := DynamicList.append_ok grew
    have enough := contents.growth.needed_le_nextCapacity contents.capacity
      (show (contents.length : Int) + 1 ≤ contents.limit by omega)
    rw [DynamicList.append_free item free] at grew
    cases grew
    have positive : 0 ≤ newCapacity := by
      unfold DynamicList.reserve at member
      split at member
      · simp only [List.singleton_append, List.mem_cons, ListEvent.grew.injEq, List.not_mem_nil,
          or_false, reduceCtorEq] at member
        obtain ⟨_, rfl⟩ := member
        omega
      · simp only [List.nil_append, List.mem_singleton, reduceCtorEq] at member
    cases tally with
    | listSlots => exact positive
    | listReallocations => exact Int.zero_le_ofNat 1
    | listAppends | stringAllocations | stringBytes => exact Int.le_refl 0

/-- Nothing that the counters are told by an operation has a negative amount. -/
theorem amount_nonneg {containers : Array Container}
    (observed : Observed kernel operation containers observations) :
    ∀ observation ∈ observations, ∀ tally, 0 ≤ observation.amount tally := by
  intro observation member tally
  cases observed with
  | read | listMade => cases member
  | stringMade text =>
    rw [List.mem_singleton.mp member]
    cases tally with
    | stringAllocations => exact Int.zero_le_ofNat 1
    | stringBytes => exact Int.natCast_nonneg text.length
    | listAppends | listReallocations | listSlots => exact Int.le_refl 0
  | appended live grew =>
    obtain ⟨event, present, rfl⟩ := List.mem_map.mp member
    exact buffer_amount_nonneg grew present tally
  | misused kind =>
    rw [List.mem_singleton.mp member]
    cases tally <;> exact Int.le_refl 0

/-- Nothing that the counters are told by an operation is refused. -/
theorem observe_accepted {containers : Array Container}
    (observed : Observed kernel operation containers observations) :
    ∀ observation ∈ observations, ∀ metrics : Metrics, (metrics.observe observation).2 = none := by
  intro observation member metrics
  have nonneg := amount_nonneg observed observation member
  cases observation with
  | buffer event =>
    cases event with
    | appended => rfl
    | grew oldCapacity newCapacity =>
      have positive : ¬ newCapacity < 0 := Int.not_lt.mpr (nonneg .listSlots)
      simp only [Metrics.observe, Metrics.observeGrow, Counter.add?, if_neg positive]
  | text size =>
    have positive : ¬ size < 0 := Int.not_lt.mpr (nonneg .stringBytes)
    simp only [Metrics.observe, Metrics.observeString, Counter.add?, if_neg positive]
  | fault name =>
    cases observed with
    | read | listMade => cases member
    | stringMade text => cases List.mem_singleton.mp member
    | appended live grew =>
      obtain ⟨_, _, impossible⟩ := List.mem_map.mp member
      cases impossible
    | misused kind =>
      cases List.mem_singleton.mp member
      simp only [Metrics.observe, Metrics.observeFault, if_pos kind.label_isUtf8]

end Kernel

/-! ## The counters go up by the amounts -/

namespace Metrics

/-- One observation moves each counter by its amount, as long as the counter stays
small. -/
theorem counter_observe {metrics : Metrics} {observation : Observation} (tally : Tally)
    (nonneg : ∀ tally, 0 ≤ observation.amount tally)
    (small : ((metrics.counter tally).total.toNat : Int) + observation.amount tally <
      Double.exactBelow) :
    (((metrics.observe observation).1.counter tally).total.toNat : Int) =
      (metrics.counter tally).total.toNat + observation.amount tally := by
  cases observation with
  | buffer event =>
    cases event with
    | appended =>
      cases tally with
      | listAppends => exact congrArg Int.ofNat (Counter.increment_exact (Int.ofNat_lt.mp small))
      | listReallocations | listSlots | stringAllocations | stringBytes =>
        exact (Int.add_zero _).symm
    | grew oldCapacity newCapacity =>
      have positive : 0 ≤ newCapacity := nonneg .listSlots
      obtain ⟨higher, accepted, moved⟩ := metrics.listSlots.add?_exact positive
      simp only [observe, observeGrow, accepted]
      cases tally with
      | listReallocations =>
        exact congrArg Int.ofNat (Counter.increment_exact (Int.ofNat_lt.mp small))
      | listSlots =>
        simp only [counter, Observation.amount] at small ⊢
        omega
      | listAppends | stringAllocations | stringBytes => exact (Int.add_zero _).symm
  | text size =>
    have positive : 0 ≤ size := nonneg .stringBytes
    obtain ⟨higher, accepted, moved⟩ := metrics.stringBytes.add?_exact positive
    simp only [observe, observeString, accepted]
    cases tally with
    | stringAllocations =>
      exact congrArg Int.ofNat (Counter.increment_exact (Int.ofNat_lt.mp small))
    | stringBytes =>
      simp only [counter, Observation.amount] at small ⊢
      omega
    | listAppends | listReallocations | listSlots => exact (Int.add_zero _).symm
  | fault name =>
    have same : (metrics.observeFault name).1.counter tally = metrics.counter tally := by
      unfold observeFault
      split <;> cases tally <;> rfl
    have none : (Observation.fault name).amount tally = 0 := by
      cases tally <;> rfl
    rw [none, Int.add_zero]
    simp only [observe, same]

/-- Observations one after the other move each counter by their total, as long as
the counter stays small. -/
theorem counter_observeAll {metrics : Metrics} {observations : List Observation} (tally : Tally)
    (nonneg : ∀ observation ∈ observations, ∀ tally, 0 ≤ observation.amount tally)
    (small : ((metrics.counter tally).total.toNat : Int) + Observation.total tally observations <
      Double.exactBelow) :
    (((metrics.observeAll observations).counter tally).total.toNat : Int) =
      (metrics.counter tally).total.toNat + Observation.total tally observations := by
  induction observations generalizing metrics with
  | nil => exact (Int.add_zero _).symm
  | cons observation rest inductionHypothesis =>
    obtain ⟨first, later⟩ := List.forall_mem_cons.mp nonneg
    have remaining := Observation.total_nonneg tally later
    rw [Observation.total_cons] at small ⊢
    have moved := @counter_observe metrics observation tally first (by omega)
    have rested := inductionHypothesis later (by rw [moved]; omega)
    rw [moved] at rested
    rw [show metrics.observeAll (observation :: rest) =
      (metrics.observe observation).1.observeAll rest from rfl, rested]
    omega

end Metrics

/-! ## The costs go up by the amounts -/

section Tables

variable {settings : Settings} {tally : Tally} {containers : Array Container}

/-- A new container adds its cost. -/
theorem tableCost_push (added : Container) :
    tableCost settings tally (containers.push added) =
      tableCost settings tally containers + added.cost settings tally := by
  simp [tableCost]

/-- No container has cost more than all of them. -/
theorem cost_le_tableCost {container : Container} (member : container ∈ containers) :
    container.cost settings tally ≤ tableCost settings tally containers := by
  obtain ⟨before, behind, split⟩ := List.append_of_mem (Array.mem_toList_iff.mpr member)
  rw [tableCost, split]
  simp only [List.map_append, List.map_cons, List.sum_append, List.sum_cons]
  omega

/-- A container that takes the place of another brings its own cost for that of
the other. -/
theorem tableCost_set {index : Nat} {old : Container} (found : containers[index]? = some old)
    (new : Container) :
    tableCost settings tally (containers.setIfInBounds index new) + old.cost settings tally =
      tableCost settings tally containers + new.cost settings tally := by
  obtain ⟨inside, same⟩ := Array.getElem?_eq_some_iff.mp found
  have whole : containers.toList =
      containers.toList.take index ++ old :: containers.toList.drop (index + 1) := by
    rw [← same, ← Array.getElem_toList, List.getElem_cons_drop, List.take_append_drop]
  have changed : (containers.setIfInBounds index new).toList =
      containers.toList.take index ++ new :: containers.toList.drop (index + 1) := by
    rw [Array.toList_setIfInBounds, List.set_eq_take_append_cons_drop,
      if_pos (by rw [Array.length_toList]; exact inside)]
  have sum := congrArg (fun items => (items.map (Container.cost settings tally)).sum) whole
  rw [tableCost, tableCost, changed]
  simp only [List.map_append, List.map_cons, List.sum_append, List.sum_cons] at sum ⊢
  omega

/-- An empty list has cost nothing. -/
theorem listCost_zero (settings : Settings) (tally : Tally) : listCost settings tally 0 = 0 := by
  cases tally with
  | listAppends | stringAllocations | stringBytes => rfl
  | listReallocations | listSlots =>
    unfold listCost
    cases settings.growth <;> rfl

end Tables

namespace Kernel

variable {kernel : Kernel} {operation : Operation} {observations : List Observation}
  {containers : Array Container}

/-- Every list has the capacity that belongs to its length. -/
def ListsSettled (kernel : Kernel) : Prop :=
  ∀ stored, Container.list stored ∈ kernel.containers → stored.Settled

/-- Every operation keeps for every list the capacity that belongs to its length. -/
theorem listsSettled_step (kernel : Kernel) (operation : Operation)
    (settled : kernel.ListsSettled) : (kernel.step operation).1.ListsSettled := by
  intro stored found
  obtain old | rfl | ⟨earlier, value, old, rfl⟩ := list_mem_step found
  · exact settled stored old
  · intro _
    show (0 : Int) = kernel.settings.growth.capacityAt kernel.settings.listLimit 0
    cases kernel.settings.growth <;> rfl
  · exact DynamicList.appended_settled value (settled earlier old)

/-- An append costs a list what it tells the counters. -/
theorem cost_appended {contents grown : DynamicList Value} {item : Value}
    {events : List ListEvent} {settings : Settings} (tally : Tally)
    (grew : contents.append item = .ok (grown, events)) (settled : contents.Settled)
    (growth : contents.growth = settings.growth) (limit : contents.maxLength = settings.listLimit)
    (short : contents.length < Word.quarter) :
    ((Container.list grown).cost settings tally : Int) =
      (Container.list contents).cost settings tally +
        Observation.total tally (events.map .buffer) := by
  obtain ⟨free, longer⟩ := DynamicList.append_ok grew
  show (listCost settings tally grown.length : Int) = listCost settings tally contents.length + _
  rw [longer]
  obtain ⟨appended, more, slots⟩ | ⟨appended, _, more, slots⟩ :=
    DynamicList.append_settled item settled free short
  -- Replaced or not, the buffer is the one of the next length, and the laws of that
  -- length give what the events say.
  all_goals
    rw [growth] at more
    rw [growth, limit] at slots
    cases grew.symm.trans appended
    cases tally <;>
      simp only [listCost, Observation.total, Observation.amount, List.map_cons, List.map_nil,
        List.sum_cons, List.sum_nil, more, slots, growth, limit] <;> omega

/-- An operation costs what it tells the counters, as long as lists stay short. -/
theorem tableCost_observed (observed : Observed kernel operation containers observations)
    (configured : kernel.ListsConfigured) (settled : kernel.ListsSettled) (tally : Tally)
    (short : tableCost kernel.settings .listAppends containers < Word.quarter) :
    (tableCost kernel.settings tally containers : Int) =
      kernel.cost tally + Observation.total tally observations := by
  cases observed with
  | read => exact (Int.add_zero _).symm
  | listMade =>
    rw [tableCost_push, show (Container.list kernel.newList).cost kernel.settings tally = 0 from
      listCost_zero kernel.settings tally]
    exact (Int.add_zero _).symm
  | stringMade text =>
    rw [tableCost_push, Int.natCast_add]
    cases tally <;> rfl
  | @appended handle value contents grown events live grew =>
    have found := getElem?_of_live live
    have member : Container.list contents ∈ kernel.containers := Array.mem_of_getElem? found
    obtain ⟨growth, limit⟩ := configured contents member
    -- The bound is on all lists after the append, so it holds of this one before it.
    have shorter : contents.length < Word.quarter := by
      have changed := @tableCost_set kernel.settings .listAppends _ _ _ found (.list grown)
      have part := @cost_le_tableCost kernel.settings .listAppends _ _ member
      simp only [Container.cost, listCost] at changed part
      have longer := (DynamicList.append_ok grew).2
      omega
    have changed := @tableCost_set kernel.settings tally _ _ _ found (.list grown)
    have cost := cost_appended tally grew (settled contents member) growth limit shorter
    show _ = (tableCost kernel.settings tally kernel.containers : Int) + _
    omega
  | misused kind =>
    have none : Observation.total tally [.fault kind.label] = 0 := by
      cases tally <;> rfl
    rw [none]
    exact (Int.add_zero _).symm

/-- What is known of a kernel that a run reaches: its lists are as the settings
say, and if all costs are small, each counter holds the cost of its kind. -/
structure Accounted (kernel : Kernel) : Prop where
  configured : kernel.ListsConfigured
  settled : kernel.ListsSettled
  counted : (∀ tally, kernel.cost tally < Double.exactBelow) → ∃ metrics,
    kernel.metrics = some metrics ∧
      ∀ tally, (metrics.counter tally).total.toNat = kernel.cost tally

/-- Every operation keeps the account. Costs only go up, so that they were small
before if they are small afterwards. -/
theorem accounted_step (kernel : Kernel) (operation : Operation) (accounted : kernel.Accounted) :
    (kernel.step operation).1.Accounted := by
  refine ⟨listsConfigured_step kernel operation accounted.configured,
    listsSettled_step kernel operation accounted.settled, ?_⟩
  intro small
  obtain ⟨observed, told⟩ := step_observed kernel operation
  have nonneg := amount_nonneg observed
  have costs : ∀ tally, ((kernel.step operation).1.cost tally : Int) =
      kernel.cost tally + Observation.total tally (kernel.observations operation) := by
    intro tally
    have short : tableCost kernel.settings .listAppends (kernel.step operation).1.containers <
        Word.quarter := by
      have bounded := small .listAppends
      rw [Kernel.cost, settings_step] at bounded
      exact Nat.lt_trans bounded (by decide)
    rw [Kernel.cost, settings_step]
    exact tableCost_observed observed accounted.configured accounted.settled tally short
  have before : ∀ tally, kernel.cost tally < Double.exactBelow := by
    intro tally
    have bounded := small tally
    have cost := costs tally
    have rises := Observation.total_nonneg tally nonneg
    omega
  obtain ⟨metrics, present, counted⟩ := accounted.counted before
  refine ⟨metrics.observeAll (kernel.observations operation), by rw [told, present]; rfl, ?_⟩
  intro tally
  -- The sum of the old total and the amounts is the new cost, which is small.
  have bounded := small tally
  have cost := costs tally
  have moved := @Metrics.counter_observeAll metrics _ tally nonneg (by rw [counted]; omega)
  rw [counted] at moved
  omega

/-- A kernel with fresh counters is accounted for. -/
theorem accounted_start (settings : Settings) : (start settings (some {})).Accounted where
  configured _ found := by cases Array.not_mem_empty _ found
  settled _ found := by cases Array.not_mem_empty _ found
  counted _ := ⟨{}, rfl, by intro tally; cases tally <;> rfl⟩

/-- **The counters account for the tables.** Take any settings, and the kernel that
any operations leave of one with fresh counters.

* If what its containers have cost is below 2 ^ 53 in each respect, the five
  counters read as these costs.
* The counters after any further operation are those that have been told its
  observations. None of these has a negative amount, and none is refused. -/
theorem counters_match_tables (settings : Settings) (operations : List Operation) :
    let kernel := ((start settings (some {})).run operations).1
    ((∀ tally, kernel.cost tally < Double.exactBelow) →
      kernel.metrics.map Metrics.snapshot = some
        { listAppends := kernel.cost .listAppends
          listReallocations := kernel.cost .listReallocations
          listSlots := kernel.cost .listSlots
          stringAllocations := kernel.cost .stringAllocations
          stringBytes := kernel.cost .stringBytes }) ∧
    ∀ operation,
      (kernel.step operation).1.metrics =
        kernel.metrics.map (·.observeAll (kernel.observations operation)) ∧
      ∀ observation ∈ kernel.observations operation,
        (∀ tally, 0 ≤ observation.amount tally) ∧
        ∀ metrics : Metrics, (metrics.observe observation).2 = none := by
  intro kernel
  refine ⟨?_, ?_⟩
  · intro small
    have accounted : kernel.Accounted :=
      run_invariant Accounted accounted_step operations _ (accounted_start settings)
    obtain ⟨metrics, present, counted⟩ := accounted.counted small
    have readings : ∀ tally, ((metrics.counter tally).reading : Int) = kernel.cost tally := by
      intro tally
      rw [Counter.reading_exact (by rw [counted]; exact small tally), counted]
    rw [present, ← readings, ← readings, ← readings, ← readings, ← readings]
    rfl
  · intro operation
    obtain ⟨observed, told⟩ := step_observed kernel operation
    refine ⟨told, ?_⟩
    intro observation member
    exact ⟨amount_nonneg observed observation member, observe_accepted observed observation member⟩

/-- Two lists and a string under a limit of three: the buffers of the first list
had one, two and three slots, and its fourth append was refused. -/
theorem refused_append_not_counted :
    let settings : Settings := { listLimit := 3, policy := .error }
    let operations : List Operation :=
      [.listNew, .listAppend 1 none, .listAppend 1 none, .listAppend 1 none, .listAppend 1 none,
        .stringNew [1, 2, 0, 5], .listNew, .listAppend 3 (some (.byte 7))]
    let kernel := ((start settings (some {})).run operations).1
    (∀ tally, kernel.cost tally < Double.exactBelow) ∧
      kernel.metrics.map Metrics.snapshot = some ⟨4, 4, 7, 1, 2⟩ := by
  intro settings operations kernel
  have small : ∀ tally, kernel.cost tally < Double.exactBelow := by
    intro tally
    cases tally <;> decide
  obtain ⟨counted, _⟩ := counters_match_tables settings operations
  refine ⟨small, ?_⟩
  rw [counted small]
  decide

end Kernel

end ContainerKernel
