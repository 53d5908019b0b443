import ContainerKernel.Proofs.AllocationTotals
import ContainerKernel.Proofs.NewContainers

/-!
# Clients that share no container

Two clients send operations to one kernel, and their operations take turns in any
way. As long as neither client makes a container and no handle is used by both,
neither can tell that the other is there: each operation is answered as if the
first client had been served to its end before the second one, and the kernel
that is left is the same in all that can be read of it.

An operation of this kind looks at one handle, and its answer and what it tells
the counters come from the container there and from the settings. So the kernel
that a client shares and a kernel that serves the client alone go through the
same states on the client's own handles (`alone_of_shared`). The records of the
shared run are then those of the separate ones in another order, and no total of
the counters depends on the order.

One operation is one step here. What happens inside a step is not divided further.
-/

namespace ContainerKernel

/-- The one handle that an operation uses that makes no container. The operations
that make one have none here. -/
def Operation.target? : Operation → Option Int
  | .listAppend handle _ | .listAt handle _ | .listLength handle | .listItems handle => some handle
  | .stringLength handle | .stringAt handle _ | .stringBytes handle => some handle
  | .listNew | .stringNew _ | .stringAdd .. | .stringConcat .. => none

/-- A turn of one of two clients: the operation stands on the left if it is the
first client's and on the right if it is the second one's. -/
abbrev Turn := Operation ⊕ Operation

namespace Turn

/-- The operation of a turn. -/
def operation : Turn → Operation :=
  Sum.elim id id

/-- The operations of the first client. -/
def firsts (turns : List Turn) : List Operation :=
  turns.filterMap Sum.getLeft?

/-- The operations of the second client. -/
def seconds (turns : List Turn) : List Operation :=
  turns.filterMap Sum.getRight?

/-- What a client got, of what came of all turns. -/
def servedTo {α : Type} (client : Turn → Bool) (turns : List Turn) (served : List α) : List α :=
  ((turns.zip served).filter fun entry => client entry.1).map Prod.snd

/-- Whether a turn keeps to the handles of its client, where the given handles are
those of the first client and all others are the second one's. -/
def Within (own : Set Int) : Turn → Prop
  | .inl operation => ∃ handle, operation.target? = some handle ∧ handle ∈ own
  | .inr operation => ∃ handle, operation.target? = some handle ∧ handle ∉ own

/-- The clients in exchanged roles keep to their handles as before. -/
theorem within_swap {own : Set Int} {turns : List Turn} (within : ∀ turn ∈ turns, turn.Within own) :
    ∀ turn ∈ turns.map Sum.swap, Turn.Within ownᶜ turn := by
  intro turn member
  obtain ⟨original, found, rfl⟩ := List.mem_map.mp member
  have kept := within original found
  cases original with
  | inl operation =>
    obtain ⟨handle, uses, mine⟩ := kept
    exact ⟨handle, uses, fun foreign => foreign mine⟩
  | inr operation => exact kept

/-- In exchanged roles the operations are the same. -/
theorem map_operation_swap (turns : List Turn) :
    (turns.map Sum.swap).map operation = turns.map operation := by
  rw [List.map_map]
  refine List.map_congr_left fun turn _ => ?_
  cases turn <;> rfl

/-- In exchanged roles the second client is the first one. -/
theorem firsts_swap (turns : List Turn) : firsts (turns.map Sum.swap) = seconds turns := by
  simp only [firsts, seconds, List.filterMap_map]
  refine List.filterMap_congr fun turn _ => ?_
  cases turn <;> rfl

/-- In exchanged roles the first client gets what the second one got. -/
theorem servedTo_swap {α : Type} (turns : List Turn) (served : List α) :
    servedTo Sum.isLeft (turns.map Sum.swap) served = servedTo Sum.isRight turns served := by
  simp only [servedTo, List.zip_map_left, List.filter_map, List.map_map]
  have same : ∀ entry : Turn × α,
      ((fun entry : Turn × α => entry.1.isLeft) ∘ Prod.map Sum.swap id) entry =
        entry.1.isRight := by
    rintro ⟨turn, _⟩
    cases turn <;> rfl
  rw [List.filter_congr fun entry _ => same entry]
  rfl

/-- What a client gets is what comes of its turns. -/
theorem servedTo_map {α β : Type} (client : Turn → Bool) (turns : List Turn) (served : List α)
    (view : α → β) : servedTo client turns (served.map view) =
      (servedTo client turns served).map view := by
  simp only [servedTo, List.zip_map_right, List.filter_map, List.map_map]
  rfl

/-- Between them the clients get all that comes of the turns. -/
theorem servedTo_perm {α : Type} {turns : List Turn} {served : List α}
    (each : served.length = turns.length) :
    (servedTo Sum.isLeft turns served ++ servedTo Sum.isRight turns served).Perm served := by
  have parted := List.filter_append_perm (fun entry : Turn × α => entry.1.isLeft)
    (turns.zip served)
  have other : ∀ entry : Turn × α, (!entry.1.isLeft) = entry.1.isRight := by
    rintro ⟨turn, _⟩
    cases turn <;> rfl
  rw [List.filter_congr fun entry _ => other entry] at parted
  have mapped := parted.map Prod.snd
  rwa [List.map_append, List.map_snd_zip (Nat.le_of_eq each)] at mapped

end Turn

/-! ## Counting in any order -/

namespace Counter

/-- How far an amount raises a counter: as far as double precision keeps it, or not
at all if it is negative. -/
def raise (amount : Int) : UInt64 :=
  if amount < 0 then 0 else (doubleNat amount.toNat).toUInt64

/-- A counter that is left alone is raised by zero. -/
theorem raise_zero (counter : Counter) : counter.total = counter.total + raise 0 := by
  have exact_zero : doubleNat (0 : Int).toNat = 0 := doubleNat_exact (by decide)
  rw [raise, if_neg (by decide), exact_zero]
  exact (UInt64.add_zero _).symm

/-- An increment raises by one. -/
theorem raise_one (counter : Counter) : counter.increment.total = counter.total + raise 1 := by
  have exact_one : doubleNat (1 : Int).toNat = 1 := doubleNat_exact (by decide)
  rw [raise, if_neg (by decide), exact_one]
  rfl

/-- A sum raises by its amount, and one that is refused does not raise. -/
theorem raise_add? (counter : Counter) (amount : Int) :
    ((counter.add? amount).getD counter).total = counter.total + raise amount := by
  unfold add? raise
  split
  · exact (UInt64.add_zero _).symm
  · rfl

end Counter

namespace Metrics

/-- An observation raises each counter by its amount, however high the counter is. -/
theorem total_observe (metrics : Metrics) (observation : Observation) (tally : Tally) :
    ((metrics.observe observation).1.counter tally).total =
      (metrics.counter tally).total + Counter.raise (observation.amount tally) := by
  cases observation with
  | buffer event =>
    cases event with
    | appended =>
      cases tally with
      | listAppends => exact metrics.listAppends.raise_one
      | listReallocations | listSlots | stringAllocations | stringBytes =>
        exact Counter.raise_zero _
    | grew oldCapacity newCapacity =>
      have added := metrics.listSlots.raise_add? newCapacity
      simp only [observe, observeGrow]
      cases accepted : metrics.listSlots.add? newCapacity <;> rw [accepted] at added
      all_goals
        cases tally with
        | listSlots => exact added
        | listReallocations => exact metrics.listReallocations.raise_one
        | listAppends | stringAllocations | stringBytes => exact Counter.raise_zero _
  | text size =>
    have added := metrics.stringBytes.raise_add? size
    simp only [observe, observeString]
    cases accepted : metrics.stringBytes.add? size <;> rw [accepted] at added
    all_goals
      cases tally with
      | stringBytes => exact added
      | stringAllocations => exact metrics.stringAllocations.raise_one
      | listAppends | listReallocations | listSlots => exact Counter.raise_zero _
  | fault name =>
    have silent : (Observation.fault name).amount tally = 0 := by
      cases tally <;> rfl
    have kept : (metrics.observeFault name).1.counter tally = metrics.counter tally := by
      unfold observeFault
      split <;> cases tally <;> rfl
    rw [silent, observe, kept]
    exact Counter.raise_zero _

/-- Observations one after the other raise a counter one after the other. -/
theorem total_observeAll (metrics : Metrics) (observations : List Observation) (tally : Tally) :
    ((metrics.observeAll observations).counter tally).total =
      observations.foldl (fun total observation => total + Counter.raise (observation.amount tally))
        (metrics.counter tally).total := by
  induction observations generalizing metrics with
  | nil => rfl
  | cons observation rest inductionHypothesis =>
    rw [List.foldl_cons, ← total_observe]
    exact inductionHypothesis _

/-- The readings of the counters do not depend on the order of what they are told. -/
theorem snapshot_observeAll_perm (metrics : Metrics) {observations others : List Observation}
    (same : observations.Perm others) :
    (metrics.observeAll observations).snapshot = (metrics.observeAll others).snapshot := by
  have totals : ∀ tally, (metrics.observeAll observations).counter tally =
      (metrics.observeAll others).counter tally := by
    intro tally
    have exchange : RightCommutative fun (total : UInt64) (observation : Observation) =>
        total + Counter.raise (observation.amount tally) := ⟨fun total first second => by ac_rfl⟩
    have total := @List.Perm.foldl_eq _ _ _ _ _ exchange same (metrics.counter tally).total
    rw [← total_observeAll, ← total_observeAll] at total
    exact congrArg Counter.mk total
  have readings : ∀ counted : Metrics, counted.snapshot =
      { listAppends := (counted.counter .listAppends).reading
        listReallocations := (counted.counter .listReallocations).reading
        listSlots := (counted.counter .listSlots).reading
        stringAllocations := (counted.counter .stringAllocations).reading
        stringBytes := (counted.counter .stringBytes).reading } := fun _ => rfl
  rw [readings, readings]
  simp only [totals]

end Metrics

namespace Kernel

variable {kernel other : Kernel} {operation : Operation} {handle : Int}

/-! ## One operation and its handle -/

/-- An operation that uses one handle leaves each container what it is after the
operation, and leaves the handles free that are free. -/
theorem container?_step_plain (uses : operation.target? = some handle) (place : Int) :
    (kernel.step operation).1.container? place =
      (kernel.container? place).map (·.after place operation) := by
  cases live : kernel.container? place with
  | some contents => exact container?_step operation live
  | none =>
    have unmade : ∀ made, (kernel.step operation).2.result ≠ .ok (.handle made) := by
      intro made answered
      obtain rfl | makes := makes_of_handle answered
      · cases uses
      · cases operation <;> first | cases uses; done | cases makes
    have size := size_of_no_handle unmade
    unfold container? at live ⊢
    split at live
    · next low => rw [if_pos low]; rfl
    · next high =>
      rw [Array.getElem?_eq_none_iff] at live
      rw [if_neg high, Array.getElem?_eq_none (by omega)]
      rfl

/-- An operation that uses one handle has no effect on what any other handle
names. -/
theorem container?_step_elsewhere (uses : operation.target? = some handle) {place : Int}
    (elsewhere : place ≠ handle) :
    (kernel.step operation).1.container? place = kernel.container? place := by
  have kept : ∀ contents : Container, contents.after place operation = contents := by
    intro contents
    refine contents.after_other ?_
    rintro value rfl
    exact elsewhere (Option.some.inj uses)
  simp only [container?_step_plain uses, kept, Option.map_id']

/-- What an operation that uses one handle answers depends on the container at this
handle only. -/
theorem attempt_local (uses : operation.target? = some handle)
    (same : kernel.container? handle = other.container? handle) :
    (kernel.attempt operation).map Prod.snd = (other.attempt operation).map Prod.snd := by
  have lists : kernel.list handle = other.list handle := by
    unfold list
    rw [same]
  have strings : kernel.string handle = other.string handle := by
    unfold string
    rw [same]
  cases operation with
  | listAppend target value =>
    cases uses
    simp only [attempt, lists]
    cases other.list handle with
    | error misuse => rfl
    | ok contents =>
      simp only [appendTo, bind, Except.bind]
      cases contents.append (value.getD .nil) <;> rfl
  | listAt target index =>
    cases uses
    simp only [attempt, lists]
    cases other.list handle with
    | error misuse => rfl
    | ok contents =>
      simp only [bind, Except.bind]
      cases contents.itemAt index <;> rfl
  | stringAt target index =>
    cases uses
    simp only [attempt, strings]
    cases other.string handle with
    | error misuse => rfl
    | ok text =>
      simp only [bind, Except.bind]
      cases text.byteAt index <;> rfl
  | listLength target | listItems target =>
    cases uses
    simp only [attempt, lists]
    cases other.list handle <;> rfl
  | stringLength target | stringBytes target =>
    cases uses
    simp only [attempt, strings]
    cases other.string handle <;> rfl
  | listNew | stringNew | stringAdd | stringConcat => cases uses

/-- What comes of an operation that uses one handle, and what the counters are told,
depend on the container at this handle and on the settings. -/
theorem record_local (uses : operation.target? = some handle)
    (settings : kernel.settings = other.settings)
    (same : kernel.container? handle = other.container? handle) :
    (kernel.step operation).2 = (other.step operation).2 ∧
      kernel.observations operation = other.observations operation := by
  have answers := attempt_local uses same
  unfold step observations
  cases attempted : kernel.attempt operation with
  | error misuse =>
    cases attemptedOther : other.attempt operation with
    | error misuseOther =>
      rw [attempted, attemptedOther] at answers
      cases answers
      rw [report_outcome, report_outcome, settings]
      exact ⟨rfl, rfl⟩
    | ok answer =>
      rw [attempted, attemptedOther] at answers
      cases answers
  | ok answer =>
    cases attemptedOther : other.attempt operation with
    | error misuse =>
      rw [attempted, attemptedOther] at answers
      cases answers
    | ok answerOther =>
      rw [attempted, attemptedOther] at answers
      have replies : answer.2 = answerOther.2 := Except.ok.inj answers
      refine ⟨congrArg (fun reply => Outcome.mk (.ok reply) {}) replies, ?_⟩
      cases operation with
      | listAppend target value =>
        cases uses
        simp only [bufferEvents, same]
      | listAt | listLength | listItems | stringLength | stringAt | stringBytes => rfl
      | listNew | stringNew | stringAdd | stringConcat => cases uses

/-! ## Runs and their records -/

/-- What comes of the operations of a run, each with what the counters are told. -/
def records (kernel : Kernel) : List Operation → List (Outcome × List Observation)
  | [] => []
  | operation :: rest =>
    ((kernel.step operation).2, kernel.observations operation) ::
      (kernel.step operation).1.records rest

/-- The outcomes of a run are those of its records. -/
theorem records_outcomes (kernel : Kernel) (operations : List Operation) :
    (kernel.records operations).map Prod.fst = (kernel.run operations).2 := by
  induction operations generalizing kernel with
  | nil => rfl
  | cons operation rest inductionHypothesis =>
    rw [run_cons, ← inductionHypothesis]
    rfl

/-- A run has one record for each operation. -/
theorem length_records (kernel : Kernel) (operations : List Operation) :
    (kernel.records operations).length = operations.length := by
  induction operations generalizing kernel with
  | nil => rfl
  | cons operation rest inductionHypothesis =>
    exact congrArg (· + 1) (inductionHypothesis _)

/-- The records of a run go on with those from the kernel that its first part
leaves. -/
theorem records_append (kernel : Kernel) (first second : List Operation) :
    kernel.records (first ++ second) =
      kernel.records first ++ (kernel.run first).1.records second := by
  induction first generalizing kernel with
  | nil => rfl
  | cons operation rest inductionHypothesis =>
    exact congrArg (_ :: ·) (inductionHypothesis _)

/-- The counters after a run have been told what its records say. -/
theorem run_metrics (kernel : Kernel) (operations : List Operation) :
    (kernel.run operations).1.metrics =
      kernel.metrics.map (·.observeAll ((kernel.records operations).flatMap Prod.snd)) := by
  induction operations generalizing kernel with
  | nil =>
    show kernel.metrics = kernel.metrics.map (·.observeAll [])
    cases kernel.metrics <;> rfl
  | cons operation rest inductionHypothesis =>
    rw [run_cons, inductionHypothesis, (step_observed kernel operation).2, Option.map_map]
    refine Option.map_congr fun metrics _ => ?_
    simp only [records, List.flatMap_cons, Metrics.observeAll, List.foldl_append,
      Function.comp_apply]

/-- A run of operations on other handles leaves a handle as it is. -/
theorem container?_run_elsewhere {operations : List Operation}
    (elsewhere : ∀ operation ∈ operations, ∃ target, operation.target? = some target ∧
      handle ≠ target) :
    (kernel.run operations).1.container? handle = kernel.container? handle := by
  induction operations generalizing kernel with
  | nil => rfl
  | cons operation rest inductionHypothesis =>
    obtain ⟨⟨target, uses, apart⟩, later⟩ := List.forall_mem_cons.mp elsewhere
    rw [run_cons, inductionHypothesis later, container?_step_elsewhere uses apart]

/-- **A client is served as if it were alone.** Take a kernel that two clients
share and one that serves the first client only, with the same settings and the
same containers at that client's handles. Then the first client's records are the
same in both, and so are its containers in the end.

Induct over the turns. A turn of the first client does the same to both kernels,
since it looks at one of the client's handles; a turn of the second one is not
seen there. -/
theorem alone_of_shared {own : Set Int} {turns : List Turn}
    (within : ∀ turn ∈ turns, Turn.Within own turn) {shared alone : Kernel}
    (settings : shared.settings = alone.settings)
    (agree : ∀ handle ∈ own, shared.container? handle = alone.container? handle) :
    Turn.servedTo Sum.isLeft turns (shared.records (turns.map Turn.operation)) =
        alone.records (Turn.firsts turns) ∧
      ∀ handle ∈ own, (shared.run (turns.map Turn.operation)).1.container? handle =
        (alone.run (Turn.firsts turns)).1.container? handle := by
  induction turns generalizing shared alone with
  | nil => exact ⟨rfl, agree⟩
  | cons turn rest inductionHypothesis =>
    obtain ⟨here, later⟩ := List.forall_mem_cons.mp within
    cases turn with
    | inl operation =>
      obtain ⟨target, uses, mine⟩ := here
      have still : ∀ handle ∈ own, (shared.step operation).1.container? handle =
          (alone.step operation).1.container? handle := by
        intro handle member
        rw [container?_step_plain uses, container?_step_plain uses, agree handle member]
      obtain ⟨served, ends⟩ := inductionHypothesis later
        (by rw [settings_step, settings_step, settings]) still
      obtain ⟨outcome, told⟩ := record_local uses settings (agree target mine)
      refine ⟨?_, ends⟩
      show ((shared.step operation).2, shared.observations operation) :: _ = _ :: _
      rw [outcome, told]
      exact congrArg (_ :: ·) served
    | inr operation =>
      obtain ⟨target, uses, foreign⟩ := here
      have still : ∀ handle ∈ own, (shared.step operation).1.container? handle =
          alone.container? handle := by
        intro handle member
        have apart : handle ≠ target := fun same => foreign (same ▸ member)
        rw [container?_step_elsewhere uses apart, agree handle member]
      exact inductionHypothesis later (by rw [settings_step, settings]) still

/-! ## The two orders compared -/

/-- Kernels that name the same containers have the same table. -/
theorem containers_ext (same : ∀ handle, kernel.container? handle = other.container? handle) :
    kernel.containers = other.containers := by
  refine Array.ext_getElem? fun index => ?_
  have here := same (index + 1)
  have positive : ¬ ((index : Int) + 1 < 1) := by omega
  simpa [container?, positive] using here

/-- Runs whose outcomes are the same in another order call for the same exits: the
code is always the one of the settings, so that only their number counts. -/
theorem exits_perm {first second : List Operation}
    (same : (kernel.run first).2.Perm (kernel.run second).2) :
    (kernel.run first).2.flatMap (·.effects.exits) =
      (kernel.run second).2.flatMap (·.effects.exits) := by
  by_cases aborts : kernel.settings.policy = .abort
  · rw [run_exits kernel first aborts, run_exits kernel second aborts,
      (same.filter Outcome.failed).length_eq]
  · rw [(run_quiet kernel first aborts).2, (run_quiet kernel second aborts).2]

/-- Runs whose outcomes are the same in another order count the same faults. -/
theorem faultTotal?_perm {first second : List Operation}
    (same : (kernel.run first).2.Perm (kernel.run second).2) (faultClass : FaultClass) :
    (kernel.run first).1.faultTotal? faultClass.label =
      (kernel.run second).1.faultTotal? faultClass.label := by
  rw [run_faultTotal?, run_faultTotal?, same.countP_eq]

/-- Runs whose records are the same in another order leave counters that read the
same. -/
theorem snapshot_perm {first second : List Operation}
    (same : (kernel.records first).Perm (kernel.records second)) :
    (kernel.run first).1.metrics.map Metrics.snapshot =
      (kernel.run second).1.metrics.map Metrics.snapshot := by
  rw [run_metrics, run_metrics, Option.map_map, Option.map_map]
  refine Option.map_congr fun metrics _ => ?_
  exact metrics.snapshot_observeAll_perm (same.flatMap_right Prod.snd)

end Kernel

/-- Two clients that make no container and use no handle in common. -/
structure Apart (first second : List Operation) : Prop where
  plain : ∀ operation ∈ first ++ second, operation.target?.isSome = true
  disjoint : ∀ mine ∈ first, ∀ foreign ∈ second, mine.target? ≠ foreign.target?

namespace Apart

variable {first second : List Operation}

/-- The handles that a client does not use. -/
def unusedBy (operations : List Operation) : Set Int :=
  {handle | ∀ operation ∈ operations, operation.target? ≠ some handle}

/-- The first client uses handles that the second does not use. -/
theorem first_unused (apart : Apart first second) :
    ∀ operation ∈ first, ∃ handle, operation.target? = some handle ∧
      handle ∈ unusedBy second := by
  intro operation mine
  obtain ⟨handle, uses⟩ := Option.isSome_iff_exists.mp
    (apart.plain operation (List.mem_append_left second mine))
  refine ⟨handle, uses, ?_⟩
  intro foreign other same
  exact apart.disjoint operation mine foreign other (uses.trans same.symm)

/-- Every operation of the second client uses a handle that the second client
uses. -/
theorem second_used (apart : Apart first second) :
    ∀ operation ∈ second, ∃ handle, operation.target? = some handle ∧
      handle ∉ unusedBy second := by
  intro operation foreign
  obtain ⟨handle, uses⟩ := Option.isSome_iff_exists.mp
    (apart.plain operation (List.mem_append_right first foreign))
  exact ⟨handle, uses, fun unused => unused operation foreign uses⟩

/-- In all turns of two clients that are apart, the first keeps to handles that the
second does not use, and the second to those that it uses. -/
theorem within {turns : List Turn} (apart : Apart (Turn.firsts turns) (Turn.seconds turns)) :
    ∀ turn ∈ turns, Turn.Within (unusedBy (Turn.seconds turns)) turn := by
  intro turn member
  cases turn with
  | inl operation => exact apart.first_unused operation (List.mem_filterMap.mpr ⟨_, member, rfl⟩)
  | inr operation => exact apart.second_used operation (List.mem_filterMap.mpr ⟨_, member, rfl⟩)

end Apart

namespace Kernel

variable {kernel : Kernel} {turns : List Turn}

/-- Seen from the handles of the first client, the turns end as the first client
alone. -/
theorem shared_first (apart : Apart (Turn.firsts turns) (Turn.seconds turns)) :
    Turn.servedTo Sum.isLeft turns (kernel.records (turns.map Turn.operation)) =
        kernel.records (Turn.firsts turns) ∧
      ∀ handle ∈ Apart.unusedBy (Turn.seconds turns),
        (kernel.run (turns.map Turn.operation)).1.container? handle =
          (kernel.run (Turn.firsts turns)).1.container? handle :=
  alone_of_shared apart.within rfl fun _ _ => rfl

/-- Seen from the handles of the second client, the turns end as the second client
alone, also when it starts with the kernel that the first has left. -/
theorem shared_second (apart : Apart (Turn.firsts turns) (Turn.seconds turns)) :
    Turn.servedTo Sum.isRight turns (kernel.records (turns.map Turn.operation)) =
        (kernel.run (Turn.firsts turns)).1.records (Turn.seconds turns) ∧
      ∀ handle ∉ Apart.unusedBy (Turn.seconds turns),
        (kernel.run (turns.map Turn.operation)).1.container? handle =
          ((kernel.run (Turn.firsts turns)).1.run (Turn.seconds turns)).1.container? handle := by
  have untouched : ∀ handle ∈ (Apart.unusedBy (Turn.seconds turns))ᶜ,
      kernel.container? handle = (kernel.run (Turn.firsts turns)).1.container? handle := by
    intro handle used
    refine (container?_run_elsewhere fun operation mine => ?_).symm
    obtain ⟨target, uses, unused⟩ := apart.first_unused operation mine
    exact ⟨target, uses, fun same => used (same ▸ unused)⟩
  have alone := alone_of_shared (Turn.within_swap apart.within)
    (settings_run kernel (Turn.firsts turns)).symm untouched
  rwa [Turn.map_operation_swap, Turn.firsts_swap, Turn.servedTo_swap] at alone

/-- The records of the turns are those of the clients one after the other, in
another order. -/
theorem records_perm (apart : Apart (Turn.firsts turns) (Turn.seconds turns)) :
    (kernel.records (turns.map Turn.operation)).Perm
      (kernel.records (Turn.firsts turns ++ Turn.seconds turns)) := by
  rw [records_append, ← (shared_first apart).1, ← (shared_second apart).1]
  refine (Turn.servedTo_perm ?_).symm
  rw [length_records, List.length_map]

/-- The containers of the turns are those of the clients one after the other. -/
theorem containers_shared (apart : Apart (Turn.firsts turns) (Turn.seconds turns)) :
    (kernel.run (turns.map Turn.operation)).1.containers =
      (kernel.run (Turn.firsts turns ++ Turn.seconds turns)).1.containers := by
  refine containers_ext fun handle => ?_
  rw [run_append]
  by_cases unused : handle ∈ Apart.unusedBy (Turn.seconds turns)
  · rw [(shared_first apart).2 handle unused]
    refine (container?_run_elsewhere fun operation foreign => ?_).symm
    obtain ⟨target, uses, used⟩ := apart.second_used operation foreign
    exact ⟨target, uses, fun same => used (same ▸ unused)⟩
  · exact (shared_second apart).2 handle unused

/-- **Clients on disjoint containers do not interfere.** Take any kernel and two
clients that make no container and use no handle in common, live or not, and let
their operations take turns in any way.

* Each client gets the outcomes that it gets when the first is served to its end
  before the second: results and failures, and with them what is printed, logged
  and called for.
* The containers are the same in the end, with their capacities and the next
  handle; the readings of the counters are the same, and so are the faults counted
  for each class.
* The exits that are called for are the same, in number and in their code. -/
theorem disjoint_clients_independent (kernel : Kernel) (first second : List Operation)
    (apart : Apart first second) (turns : List Turn) (ofFirst : Turn.firsts turns = first)
    (ofSecond : Turn.seconds turns = second) :
    let interleaved := kernel.run (turns.map Turn.operation)
    let successive := kernel.run (first ++ second)
    Turn.servedTo Sum.isLeft turns interleaved.2 = successive.2.take first.length ∧
    Turn.servedTo Sum.isRight turns interleaved.2 = successive.2.drop first.length ∧
    interleaved.1.containers = successive.1.containers ∧
    interleaved.1.metrics.map Metrics.snapshot = successive.1.metrics.map Metrics.snapshot ∧
    (∀ faultClass : FaultClass, interleaved.1.faultTotal? faultClass.label =
      successive.1.faultTotal? faultClass.label) ∧
    interleaved.2.flatMap (·.effects.exits) = successive.2.flatMap (·.effects.exits) := by
  intro interleaved successive
  subst ofFirst ofSecond
  have records := @records_perm kernel turns apart
  have outcomes : interleaved.2.Perm successive.2 := by
    have mapped := records.map Prod.fst
    rwa [records_outcomes, records_outcomes] at mapped
  have parts : successive.2 = (kernel.records (Turn.firsts turns)).map Prod.fst ++
      ((kernel.run (Turn.firsts turns)).1.records (Turn.seconds turns)).map Prod.fst := by
    rw [← List.map_append, ← records_append, records_outcomes]
  have boundary : (Turn.firsts turns).length =
      ((kernel.records (Turn.firsts turns)).map Prod.fst).length := by
    rw [List.length_map, length_records]
  refine ⟨?_, ?_, containers_shared apart, snapshot_perm records, faultTotal?_perm outcomes,
    exits_perm outcomes⟩
  · rw [parts, List.take_left' boundary.symm, ← (shared_first apart).1, ← Turn.servedTo_map,
      records_outcomes]
  · rw [parts, List.drop_left' boundary.symm, ← (shared_second apart).1, ← Turn.servedTo_map,
      records_outcomes]

/-- A client with a list and a handle that names nothing, and one with a string:
the second comes between the first client's operations, the first list is full
after one item, and three of the five operations fail. -/
theorem refused_append_between_reads :
    let kernel := ((start { listLimit := 1 } (some {})).run [.listNew, .stringNew [7, 8]]).1
    let first : List Operation := [.listAppend 1 none, .listAppend 1 none, .listLength 9]
    let second : List Operation := [.stringAt 2 1, .stringAt 2 2]
    let turns : List Turn := [.inr (.stringAt 2 1), .inl (.listAppend 1 none),
      .inr (.stringAt 2 2), .inl (.listAppend 1 none), .inl (.listLength 9)]
    Apart first second ∧ Turn.firsts turns = first ∧ Turn.seconds turns = second ∧
      (kernel.run (turns.map Turn.operation)).2.flatMap (·.effects.exits) = [1, 1, 1] ∧
      (kernel.run (turns.map Turn.operation)).1.metrics.map Metrics.snapshot =
        (kernel.run (first ++ second)).1.metrics.map Metrics.snapshot := by
  intro kernel first second turns
  have apart : Apart first second := ⟨by decide, by decide⟩
  have independent := disjoint_clients_independent kernel first second apart turns rfl rfl
  refine ⟨apart, rfl, rfl, ?_, independent.2.2.2.1⟩
  rw [independent.2.2.2.2.2]
  decide +kernel

end Kernel

end ContainerKernel
