import ContainerKernel.Command
import ContainerKernel.Proofs.DisjointClients
import ContainerKernel.Proofs.EarlyExit
import ContainerKernel.Proofs.HiddenChanges

/-!
# Runs on shared counters

The scenarios of a command run one after another, each on a kernel of its own, and
have only the counters in common. The counters are added to and never looked at:
what a run tells them is decided by the scenario alone (`Scenario.told`), and so
is its verdict. A run therefore raises each counter by what it raises a fresh one
by, and runs on the same counters raise it by the sum, in whatever order they come.

The totals are words and add up without a bound. The readings pass through double
precision, so for them the total has to stay below 2 ^ 53.
-/

namespace ContainerKernel

/-! ## One law for all counters -/

/-- A counter that can be read: one of the five of allocations, or the one of the
faults with the given name. -/
inductive Meter where
  | allocation (tally : Tally)
  | faults (name : Bytes)
deriving DecidableEq, Repr

namespace Metrics

/-- The counter of a meter; faults that have never been counted have a fresh one. -/
def meter (metrics : Metrics) : Meter → Counter
  | .allocation tally => metrics.counter tally
  | .faults name => (metrics.faults.lookup name).getD {}

/-- The exact total of a meter. -/
def total (metrics : Metrics) (meter : Meter) : Nat :=
  (metrics.meter meter).total.toNat

/-- The reading of a meter: of allocations it is the one in the snapshot. -/
def read (metrics : Metrics) : Meter → Int
  | .allocation .listAppends => metrics.snapshot.listAppends
  | .allocation .listReallocations => metrics.snapshot.listReallocations
  | .allocation .listSlots => metrics.snapshot.listSlots
  | .allocation .stringAllocations => metrics.snapshot.stringAllocations
  | .allocation .stringBytes => metrics.snapshot.stringBytes
  | .faults name => ((metrics.faults.lookup name).getD {}).reading

/-- The reading of a meter is that of its counter. -/
theorem read_eq (metrics : Metrics) (meter : Meter) :
    metrics.read meter = (metrics.meter meter).reading := by
  cases meter with
  | allocation tally => cases tally <;> rfl
  | faults name => rfl

end Metrics

/-- How far an observation raises a meter. A fault is counted under its name, which
has to be legible. -/
def Observation.raise (meter : Meter) (observation : Observation) : UInt64 :=
  match meter, observation with
  | .allocation tally, observation => Counter.raise (observation.amount tally)
  | .faults name, .fault counted => if name = counted ∧ isUtf8 counted = true then 1 else 0
  | .faults _, _ => 0

namespace Metrics

/-- Whatever is not a fault leaves the counters of faults alone. -/
theorem faults_observe (metrics : Metrics) {observation : Observation}
    (other : ∀ name, observation ≠ .fault name) :
    (metrics.observe observation).1.faults = metrics.faults := by
  cases observation with
  | buffer event =>
    cases event with
    | appended => rfl
    | grew oldCapacity newCapacity =>
      simp only [observe, observeGrow]
      split <;> rfl
  | text size =>
    simp only [observe, observeString]
    split <;> rfl
  | fault name => exact absurd rfl (other name)

/-- An observation raises each meter by its own amount, however high the meter is. -/
theorem meter_observe (metrics : Metrics) (observation : Observation) (meter : Meter) :
    ((metrics.observe observation).1.meter meter).total =
      (metrics.meter meter).total + observation.raise meter := by
  cases meter with
  | allocation tally => exact total_observe metrics observation tally
  | faults name =>
    have kept (unmoved : (metrics.observe observation).1.faults = metrics.faults) :
        ((metrics.observe observation).1.meter (.faults name)).total =
          (metrics.meter (.faults name)).total + 0 := by
      rw [UInt64.add_zero]
      unfold Metrics.meter
      rw [unmoved]
    cases observation with
    | buffer event => exact kept (faults_observe metrics nofun)
    | text size => exact kept (faults_observe metrics nofun)
    | fault counted =>
      by_cases legible : isUtf8 counted = true
      · simp only [observe, observeFault, legible, if_true, Metrics.meter, lookup_countFault,
          Observation.raise, and_true]
        by_cases same : name = counted
        · rw [if_pos same, if_pos same, same]
          rfl
        · rw [if_neg same, if_neg same, UInt64.add_zero]
      · have ignored : (metrics.observe (.fault counted)).1 = metrics := by
          simp only [observe, observeFault, if_neg legible]
        have unraised : (Observation.fault counted).raise (.faults name) = 0 :=
          if_neg fun both => legible both.2
        rw [unraised]
        exact kept (by rw [ignored])

/-- Observations one after the other raise each meter by their sum. -/
theorem meter_observeAll (metrics : Metrics) (observations : List Observation) (meter : Meter) :
    ((metrics.observeAll observations).meter meter).total =
      (metrics.meter meter).total + (observations.map (Observation.raise meter)).sum := by
  induction observations generalizing metrics with
  | nil => exact (UInt64.add_zero _).symm
  | cons observation rest inductionHypothesis =>
    have later := inductionHypothesis (metrics.observe observation).1
    rw [meter_observe, UInt64.add_assoc] at later
    rw [List.map_cons, List.sum_cons]
    exact later

/-- Every meter of fresh counters stands at zero. -/
theorem meter_fresh (meter : Meter) : (({} : Metrics).meter meter).total = 0 := by
  cases meter with
  | allocation tally => cases tally <;> rfl
  | faults name => rfl

end Metrics

/-! ## What a run tells the counters -/

namespace Kernel

/-- What an operation tells the counters does not depend on them. -/
theorem observations_withoutMetrics (kernel : Kernel) (operation : Operation) :
    kernel.withoutMetrics.observations operation = kernel.observations operation := by
  have unseen : Unseen withoutMetrics kernel :=
    ⟨rfl, rfl, rfl, rfl, fun _ => rfl, fun _ _ => rfl, fun _ _ _ => rfl⟩
  have events (handle : Int) (value : Option Value) :
      kernel.withoutMetrics.bufferEvents handle value = kernel.bufferEvents handle value := rfl
  have built (other : Operation) : kernel.withoutMetrics.built? other = kernel.built? other := by
    cases other <;> rfl
  unfold observations
  rw [attempt_unseen unseen]
  cases kernel.attempt operation with
  | error misuse => rfl
  | ok answer => cases operation <;> simp only [Except.map, events, built]

end Kernel

namespace Replay

variable {replay : Replay} {step : Step}

/-- What the counters are told about a step: what they are told about its operation,
if it comes to one. -/
def told (replay : Replay) (step : Step) : List Observation :=
  match replay.operation step with
  | .error _ => []
  | .ok (_, operation) => replay.kernel.observations operation

/-- The counters after a step have been told what the step tells, and nothing
else. -/
theorem metrics_run (replay : Replay) (step : Step) :
    (replay.run step).1.kernel.metrics =
      replay.kernel.metrics.map (·.observeAll (replay.told step)) := by
  obtain ⟨mismatch, found, same⟩ | ⟨named, operation, found, performed⟩ := run_cases replay step
  · rw [same, told, found]
    show replay.kernel.metrics = replay.kernel.metrics.map (·.observeAll [])
    cases replay.kernel.metrics <;> rfl
  · rw [performed.kernel, (Kernel.step_observed replay.kernel operation).2, told, found]

/-- Nothing that a step tells the counters is refused. -/
theorem told_accepted (replay : Replay) (step : Step) :
    ∀ observation ∈ replay.told step, ∀ metrics : Metrics,
      (metrics.observe observation).2 = none := by
  intro observation member
  unfold told at member
  split at member
  · cases member
  · next named operation _ =>
    exact Kernel.observe_accepted (Kernel.step_observed replay.kernel operation).1 observation
      member

/-- What a step tells the counters does not depend on them. -/
theorem told_withoutMetrics (replay : Replay) (step : Step) :
    (replay.mapKernel Kernel.withoutMetrics).told step = replay.told step := by
  unfold told
  rw [operation_mapKernel]
  cases replay.operation step with
  | error mismatch => rfl
  | ok answer => exact Kernel.observations_withoutMetrics replay.kernel answer.2

/-- The counters after a run have been told about the steps that it does. -/
theorem metrics_runSteps (name : Bytes) (index : Nat) (steps : List Step) (replay : Replay) :
    (runSteps name index steps replay).1.kernel.metrics = replay.kernel.metrics.map
      (·.observeAll ((replay.executed steps).flatMap fun stage => stage.1.told stage.2)) := by
  induction steps generalizing index replay with
  | nil =>
    show replay.kernel.metrics = replay.kernel.metrics.map (·.observeAll [])
    cases replay.kernel.metrics <;> rfl
  | cons step rest inductionHypothesis =>
    by_cases exits : (replay.run step).1.effects.exits = []
    · have later := inductionHypothesis (index + 1) (replay.run step).1
      rw [executed_go exits, List.flatMap_cons]
      simp only [runSteps, exits, ne_eq, not_true_eq_false, if_false, later, metrics_run,
        Option.map_map]
      refine Option.map_congr fun metrics _ => ?_
      simp only [Function.comp_apply, Metrics.observeAll, List.foldl_append]
    · rw [executed_stop exits, List.flatMap_cons, List.flatMap_nil, List.append_nil, ← metrics_run]
      simp only [runSteps, exits, ne_eq, not_false_eq_true, if_true]
      split <;> rfl

end Replay

namespace Scenario

/-- What a run of the scenario tells the counters. -/
def told (scenario : Scenario) : List Observation :=
  (scenario.stages none).flatMap fun stage => stage.1.told stage.2

/-- A run of a scenario tells the same to whatever counters there are. -/
theorem metrics_run (scenario : Scenario) (metrics : Option Metrics) :
    (scenario.run metrics).metrics = metrics.map (·.observeAll scenario.told) := by
  have uncounted : scenario.stages none =
      (scenario.stages metrics).map (Prod.map (Replay.mapKernel Kernel.withoutMetrics) id) :=
    @Replay.executed_mapKernel (scenario.replay metrics) Kernel.withoutMetrics scenario.steps
      fun stage _ => Replay.run_hidden Kernel.hidden_withoutMetrics stage.1 stage.2
  have same : scenario.told =
      (scenario.stages metrics).flatMap fun stage => stage.1.told stage.2 := by
    rw [told, uncounted, List.flatMap_map]
    simp only [Prod.map, id_eq, Replay.told_withoutMetrics]
  rw [same]
  exact Replay.metrics_runSteps scenario.name 0 scenario.steps (scenario.replay metrics)

/-- The counters after a run that began with the given ones. -/
def counted (scenario : Scenario) (metrics : Metrics) : Metrics :=
  (scenario.run (some metrics)).metrics.getD metrics

/-- The counters after scenarios that ran one after another. -/
def countedAll (metrics : Metrics) (scenarios : List Scenario) : Metrics :=
  scenarios.foldl (fun reached scenario => scenario.counted reached) metrics

/-- The counters after a run have been told what the scenario tells. -/
theorem counted_eq (scenario : Scenario) (metrics : Metrics) :
    scenario.counted metrics = metrics.observeAll scenario.told := by
  rw [counted, metrics_run]
  rfl

/-- A run raises each meter by what it raises a fresh one to. -/
theorem meter_counted (scenario : Scenario) (metrics : Metrics) (meter : Meter) :
    ((scenario.counted metrics).meter meter).total =
      (metrics.meter meter).total + ((scenario.counted {}).meter meter).total := by
  rw [counted_eq, counted_eq, Metrics.meter_observeAll, Metrics.meter_observeAll,
    Metrics.meter_fresh, UInt64.zero_add]

/-- Runs one after another raise each meter by the sum of what they raise a fresh
one to. -/
theorem meter_countedAll (metrics : Metrics) (scenarios : List Scenario) (meter : Meter) :
    ((countedAll metrics scenarios).meter meter).total = (metrics.meter meter).total +
      (scenarios.map fun scenario => ((scenario.counted {}).meter meter).total).sum := by
  induction scenarios generalizing metrics with
  | nil => exact (UInt64.add_zero _).symm
  | cons scenario rest inductionHypothesis =>
    have later := inductionHypothesis (scenario.counted metrics)
    rw [meter_counted, UInt64.add_assoc] at later
    rw [List.map_cons, List.sum_cons]
    exact later

end Scenario

/-! ## Readings add up -/

/-- A sum of words that is small as a sum of numbers is that sum. -/
theorem toNat_sum_small {words : List UInt64}
    (small : (words.map UInt64.toNat).sum < Double.exactBelow) :
    words.sum.toNat = (words.map UInt64.toNat).sum := by
  induction words with
  | nil => rfl
  | cons word rest inductionHypothesis =>
    rw [List.map_cons, List.sum_cons] at small ⊢
    have later := inductionHypothesis (by omega)
    simp only [Double.exactBelow] at small
    rw [List.sum_cons, UInt64.toNat_add, later]
    omega

/-- A small number that is a sum of others is read as the sum of what the others
are read as. -/
theorem doubleNat_sum {values : List Nat} (small : values.sum < Double.exactBelow) :
    doubleNat values.sum = (values.map doubleNat).sum := by
  induction values with
  | nil => exact doubleNat_exact small
  | cons value rest inductionHypothesis =>
    rw [List.sum_cons] at small
    rw [List.sum_cons, doubleNat_exact small, List.map_cons, List.sum_cons,
      ← inductionHypothesis (by omega), doubleNat_exact (by omega), doubleNat_exact (by omega)]

namespace Scenario

/-- The readings after runs are the earlier ones and those of the runs by
themselves, as long as the totals are small. -/
theorem read_countedAll (metrics : Metrics) (scenarios : List Scenario) (meter : Meter)
    (small : metrics.total meter +
      (scenarios.map fun scenario => (scenario.counted {}).total meter).sum < Double.exactBelow) :
    (countedAll metrics scenarios).read meter = metrics.read meter +
      (scenarios.map fun scenario => (scenario.counted {}).read meter).sum := by
  let words : List UInt64 := (metrics.meter meter).total ::
    scenarios.map fun scenario => ((scenario.counted {}).meter meter).total
  have raised : ((countedAll metrics scenarios).meter meter).total = words.sum :=
    meter_countedAll metrics scenarios meter
  have bounded : (words.map UInt64.toNat).sum < Double.exactBelow := by
    simp only [words, List.map_cons, List.map_map, List.sum_cons]
    exact small
  have reading : (((countedAll metrics scenarios).meter meter).reading) =
      ((words.map UInt64.toNat).map doubleNat).sum := by
    rw [← doubleNat_sum bounded, ← toNat_sum_small bounded, ← raised]
    rfl
  have readings : (scenarios.map fun scenario => (scenario.counted {}).read meter) =
      (scenarios.map fun scenario =>
        ((scenario.counted {}).meter meter).reading).map Nat.cast := by
    rw [List.map_map]
    exact List.map_congr_left fun scenario _ => Metrics.read_eq _ meter
  rw [Metrics.read_eq, Metrics.read_eq, reading, readings, ← Nat.cast_list_sum]
  simp only [words, List.map_cons, List.map_map, List.sum_cons, Nat.cast_add]
  rfl

/-- The reading after a run is the earlier one and that of the run by itself, as
long as the totals are small. -/
theorem read_counted (scenario : Scenario) (metrics : Metrics) (meter : Meter)
    (small : metrics.total meter + (scenario.counted {}).total meter < Double.exactBelow) :
    (scenario.counted metrics).read meter =
      metrics.read meter + (scenario.counted {}).read meter := by
  have one := read_countedAll metrics [scenario] meter
  simp only [List.map_cons, List.map_nil, List.sum_singleton] at one
  exact one small

/-- The order of the runs has no influence on any reading. -/
theorem read_countedAll_perm (metrics : Metrics) {scenarios others : List Scenario}
    (same : others.Perm scenarios) (meter : Meter) :
    (countedAll metrics others).read meter = (countedAll metrics scenarios).read meter := by
  have totals : (countedAll metrics others).meter meter =
      (countedAll metrics scenarios).meter meter := by
    have sums := (same.map fun scenario => ((scenario.counted {}).meter meter).total).sum_eq
    have total := meter_countedAll metrics others meter
    rw [sums, ← meter_countedAll] at total
    exact congrArg Counter.mk total
  rw [Metrics.read_eq, Metrics.read_eq, totals]

end Scenario

/-! ## The scenarios of a command -/

/-- The session after scenarios, each with the path of its file, that ran one after
another. -/
def Session.runAll (session : Session) (verbose : Bool) (stamp : Bytes)
    (listed : List (Bytes × Scenario)) : Session :=
  listed.foldl (fun reached entry => reached.runScenario verbose stamp entry.1 entry.2) session

/-- A session that has run scenarios has the counters after the scenarios. -/
theorem Session.metrics_runAll (session : Session) (verbose : Bool) (stamp : Bytes)
    (listed : List (Bytes × Scenario)) :
    (session.runAll verbose stamp listed).metrics =
      Scenario.countedAll session.metrics (listed.map Prod.snd) := by
  induction listed generalizing session with
  | nil => rfl
  | cons entry rest inductionHypothesis => exact inductionHypothesis _

namespace Scenario

/-- Nothing that a run tells the counters is refused. -/
theorem told_accepted (scenario : Scenario) :
    ∀ observation ∈ scenario.told, ∀ metrics : Metrics,
      (metrics.observe observation).2 = none := by
  intro observation member
  obtain ⟨stage, _, told⟩ := List.mem_flatMap.mp member
  exact Replay.told_accepted stage.1 stage.2 observation told

/-- The reports of runs on the same counters: each verdict is the one without
counters, and the last report has the counters after all of them. -/
theorem runAll_reports (metrics : Metrics) (scenarios : List Scenario) :
    (runAll (some metrics) scenarios).map Report.verdict =
        scenarios.map (fun scenario => (scenario.run none).verdict) ∧
      ((runAll (some metrics) scenarios).getLast?.map Report.metrics).getD (some metrics) =
        some (countedAll metrics scenarios) := by
  induction scenarios generalizing metrics with
  | nil => exact ⟨rfl, rfl⟩
  | cons scenario rest inductionHypothesis =>
    have counters : (scenario.run (some metrics)).metrics = some (scenario.counted metrics) := by
      rw [counted_eq]
      exact scenario.metrics_run (some metrics)
    obtain ⟨verdicts, last⟩ := inductionHypothesis (scenario.counted metrics)
    simp only [runAll, counters, List.map_cons, verdicts, (scenario.run_uncounted _).1,
      List.getLast?_cons, true_and]
    cases later : (runAll (some (scenario.counted metrics)) rest).getLast? with
    | none =>
      rw [later] at last
      exact counters.trans last
    | some report =>
      rw [later] at last
      exact last

/-- **Runs share their counters and nothing else.** Take any counters to begin
with.

* A run of any scenario on them has the verdict and the log of the run without
  counters. Nothing that it tells the counters is refused, and it raises each
  reading, of the snapshot or of a class of faults, by what it raises it to from
  fresh counters, if the total stays below 2 ^ 53.
* Of scenarios that run one after another, as those of a command do, each has the
  verdict that it has by itself. The readings in the end are those before and the
  sum of those of the single runs, if the totals stay below 2 ^ 53, and in another
  order of the scenarios they are the same. -/
theorem runs_share_only_counters (metrics : Metrics) :
    (∀ scenario : Scenario,
      (scenario.run (some metrics)).verdict = (scenario.run none).verdict ∧
      (scenario.run (some metrics)).log = (scenario.run none).log ∧
      (scenario.run (some metrics)).metrics = some (metrics.observeAll scenario.told) ∧
      (∀ observation ∈ scenario.told, ∀ counters : Metrics,
        (counters.observe observation).2 = none) ∧
      ∀ meter, metrics.total meter + (scenario.counted {}).total meter < Double.exactBelow →
        (scenario.counted metrics).read meter =
          metrics.read meter + (scenario.counted {}).read meter) ∧
    ∀ scenarios : List Scenario,
      (runAll (some metrics) scenarios).map Report.verdict =
        scenarios.map (fun scenario => (scenario.run none).verdict) ∧
      ((runAll (some metrics) scenarios).getLast?.map Report.metrics).getD (some metrics) =
        some (countedAll metrics scenarios) ∧
      (∀ (session : Session) (verbose : Bool) (stamp : Bytes) (listed : List (Bytes × Scenario)),
        session.metrics = metrics → listed.map Prod.snd = scenarios →
        (session.runAll verbose stamp listed).metrics = countedAll metrics scenarios) ∧
      (∀ meter, metrics.total meter +
          (scenarios.map fun scenario => (scenario.counted {}).total meter).sum <
            Double.exactBelow →
        (countedAll metrics scenarios).read meter = metrics.read meter +
          (scenarios.map fun scenario => (scenario.counted {}).read meter).sum) ∧
      ∀ others : List Scenario, others.Perm scenarios → ∀ meter,
        (countedAll metrics others).read meter = (countedAll metrics scenarios).read meter := by
  refine ⟨?_, ?_⟩
  · intro scenario
    obtain ⟨verdict, log⟩ := scenario.run_uncounted (some metrics)
    exact ⟨verdict, log, scenario.metrics_run (some metrics), scenario.told_accepted,
      scenario.read_counted metrics⟩
  · intro scenarios
    obtain ⟨verdicts, last⟩ := runAll_reports metrics scenarios
    refine ⟨verdicts, last, ?_, read_countedAll metrics scenarios, fun others same =>
      read_countedAll_perm metrics same⟩
    rintro session verbose stamp listed rfl rfl
    exact session.metrics_runAll verbose stamp listed

/-- A list with a bad index and a string taken for a list, on counters that have
counted before: two faults of different classes are added, in either order. -/
theorem two_scenarios_on_used_counters :
    let lists : Scenario :=
      { name := utf8 "lists"
        settings := { policy := .error }
        steps :=
          [{ operation := .listNew, ref := utf8 "a" },
            { operation := .listAppend, target := utf8 "a", value := some { bool := some true } },
            { operation := .listAt, target := utf8 "a", index := 5 }] }
    let strings : Scenario :=
      { name := utf8 "strings"
        settings := {}
        steps :=
          [{ operation := .stringNew, ref := utf8 "s", text := utf8 "abc" },
            { operation := .listLength, target := utf8 "s" }] }
    let metrics : Metrics :=
      { listAppends := ⟨40⟩, stringBytes := ⟨5⟩, faults := [(FaultClass.index.label, ⟨2⟩)] }
    let meters : List Meter :=
      [.allocation .listAppends, .allocation .stringBytes, .faults FaultClass.index.label,
        .faults FaultClass.handle.label]
    (∀ meter ∈ meters, metrics.total meter +
      ([lists, strings].map fun scenario => (scenario.counted {}).total meter).sum <
        Double.exactBelow) ∧
      meters.map (countedAll metrics [lists, strings]).read = [41, 8, 3, 1] ∧
      meters.map (countedAll metrics [strings, lists]).read = [41, 8, 3, 1] := by
  intro lists strings metrics meters
  have small : ∀ meter ∈ meters, metrics.total meter +
      ([lists, strings].map fun scenario => (scenario.counted {}).total meter).sum <
        Double.exactBelow := by decide +kernel
  obtain ⟨_, _, _, added, swapped⟩ :=
    (runs_share_only_counters metrics).2 [lists, strings]
  have sums : meters.map (countedAll metrics [lists, strings]).read = [41, 8, 3, 1] := by
    have each : ∀ meter ∈ meters, (countedAll metrics [lists, strings]).read meter =
        metrics.read meter +
          ([lists, strings].map fun scenario => (scenario.counted {}).read meter).sum :=
      fun meter member => added meter (small meter member)
    rw [List.map_congr_left each]
    decide +kernel
  refine ⟨small, sums, ?_⟩
  rw [← sums]
  exact List.map_congr_left fun meter _ => swapped _ (List.Perm.swap lists strings []) meter

end Scenario

end ContainerKernel
