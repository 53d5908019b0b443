import ContainerKernel.Proofs.EarlyExit
import ContainerKernel.Proofs.ReplaysAlike

/-!
# The two policies agree up to the first fault

Run one scenario twice, once with faults that abort and once with faults that are
returned. Up to the first step that is a misuse the two runs cannot be told
apart: the policy is not seen by an operation that succeeds. At that step they
part, and what a caller is told differs by the exit signal only. The signal is
joined to the fault and does not replace it, so that an expectation of a class of
faults is met in both runs or in neither.

An expected exit is met where faults abort only, and so is an expectation about
printed text; a step with one of these may fail in one run and not in the other.
What comes behind the first misuse is not compared: where faults abort, nothing
does.
-/

namespace ContainerKernel

/-- The kernel with another policy for faults and another exit code. -/
def Kernel.withPolicy (policy : Policy) (exitCode : Int) (kernel : Kernel) : Kernel :=
  { kernel with settings := { kernel.settings with policy, exitCode } }

/-- No operation sees the policy for faults. -/
theorem Kernel.unseen_withPolicy (policy : Policy) (exitCode : Int) (kernel : Kernel) :
    Unseen (withPolicy policy exitCode) kernel where
  containers := rfl
  growth := rfl
  listLimit := rfl
  stringLimit := rfl
  listMade _ := rfl
  stringMade _ _ := rfl
  appended _ _ _ := rfl

namespace Replay

variable {replay : Replay} {step : Step} {misuse : Misuse}

/-! ## Failures by their numbers -/

/-- A failure is that of the step with its number. -/
theorem mem_failuresFrom (stages : List (Replay × Step)) (failure : StepFailure) :
    failure ∈ failuresFrom 0 stages ↔ ∃ stage, stages[failure.index]? = some stage ∧
      (stage.1.run stage.2).2 = some failure.mismatch ∧
      failure.operation = stage.2.operation := by
  simp only [failuresFrom, List.mem_filterMap, Option.map_eq_some_iff]
  constructor
  · rintro ⟨⟨stage, number⟩, member, mismatch, wrong, rfl⟩
    exact ⟨stage, List.mk_mem_zipIdx_iff_getElem?.mp member, wrong, rfl⟩
  · rintro ⟨stage, found, wrong, same⟩
    refine ⟨(stage, failure.index), List.mk_mem_zipIdx_iff_getElem?.mpr found,
      failure.mismatch, wrong, ?_⟩
    rw [← same]

/-- A step fails exactly if something is wrong with it. -/
theorem fails_iff {stages : List (Replay × Step)} {index : Nat} {stage : Replay × Step}
    (found : stages[index]? = some stage) :
    (∃ failure ∈ failuresFrom 0 stages, failure.index = index) ↔
      (stage.1.run stage.2).2.isSome = true := by
  constructor
  · rintro ⟨failure, member, rfl⟩
    obtain ⟨other, present, wrong, _⟩ := (mem_failuresFrom stages failure).mp member
    cases found.symm.trans present
    rw [wrong]
    rfl
  · intro wrong
    obtain ⟨mismatch, same⟩ := Option.isSome_iff_exists.mp wrong
    exact ⟨⟨index, stage.2.operation, mismatch⟩,
      (mem_failuresFrom stages _).mpr ⟨stage, found, same, rfl⟩, rfl⟩

/-- The failures of steps are those of the first ones and of the further ones behind
them. -/
theorem failuresFrom_append (index : Nat) (first second : List (Replay × Step)) :
    failuresFrom index (first ++ second) =
      failuresFrom index first ++ failuresFrom (index + first.length) second := by
  simp only [failuresFrom, List.zipIdx_append, List.filterMap_append]

/-- The failures with small numbers are those of the first steps. -/
theorem filter_failures {common behind : List (Replay × Step)} {index : Nat}
    (small : index ≤ common.length) :
    (failuresFrom 0 (common ++ behind)).filter (fun failure => failure.index < index) =
      (failuresFrom 0 common).filter fun failure => failure.index < index := by
  have none : (failuresFrom (0 + common.length) behind).filter
      (fun failure => failure.index < index) = [] := by
    rw [List.filter_eq_nil_iff]
    intro failure member
    have bounds := (failuresFrom_sorted _ behind).2 failure member
    rw [decide_eq_true_eq]
    omega
  rw [failuresFrom_append, List.filter_append, none, List.append_nil]

/-- Steps over changed kernels for which nothing else changes fail alike. -/
theorem failuresFrom_mapKernel {change : Kernel → Kernel} {index : Nat}
    {stages : List (Replay × Step)}
    (alike : ∀ stage ∈ stages, (stage.1.mapKernel change).run stage.2 =
      Prod.map (mapKernel change) id (stage.1.run stage.2)) :
    failuresFrom index (stages.map (Prod.map (mapKernel change) id)) =
      failuresFrom index stages := by
  induction stages generalizing index with
  | nil => rfl
  | cons stage rest inductionHypothesis =>
    have same := alike stage List.mem_cons_self
    have later : ∀ stage ∈ rest, (stage.1.mapKernel change).run stage.2 =
        Prod.map (mapKernel change) id (stage.1.run stage.2) := by
      intro stage member
      exact alike stage (List.mem_cons_of_mem _ member)
    rw [List.map_cons, failuresFrom_cons, failuresFrom_cons, inductionHypothesis later]
    simp only [Prod.map, id_eq] at same ⊢
    rw [same]

/-! ## The step that is a misuse -/

/-- What is wrong with a step that is a misuse, when nothing is expected to have
been printed, is what is wrong with the failure that the caller is told. -/
theorem mismatch_of_misuse (misused : replay.misuse? step = some misuse)
    (unprinted : step.expectStderr = []) :
    (replay.run step).2 = resultMismatch? step.expectError
      (.error (replay.kernel.settings.failure misuse.fault)) := by
  unfold misuse? at misused
  unfold Replay.run
  cases found : replay.operation step with
  | error mismatch =>
    rw [found] at misused
    cases misused
  | ok answer =>
    obtain ⟨named, operation⟩ := answer
    have extended : Extends replay named := (asked_of_operation found).extends
    simp only [found] at misused
    split at misused
    · cases misused
    · next cause failed =>
      rw [Option.some.inj misused] at failed
      have told : (named.perform operation).2 =
          .error (replay.kernel.settings.failure misuse.fault) := by
        simp only [perform, extended.kernel, Kernel.step_result, failed]
        rfl
      dsimp only
      rw [told]
      unfold checkResult
      cases wrong : resultMismatch? step.expectError
          (.error (replay.kernel.settings.failure misuse.fault)) with
      | some mismatch => rfl
      | none =>
        simp only [stderrMismatch?, unprinted, true_or, if_true]

/-- Expecting anything but an exit of a fault fails under all policies or under
none. -/
theorem resultMismatch?_failure (first second : Settings) (fault : Fault)
    {expected : ErrorExpectation} (noExit : expected ≠ .exit) :
    (resultMismatch? expected (.error (first.failure fault))).isSome =
      (resultMismatch? expected (.error (second.failure fault))).isSome := by
  cases expected with
  | success | unknown => rfl
  | exit => exact absurd rfl noExit
  | fault wanted =>
    have same : (first.failure fault).isOf wanted = (second.failure fault).isOf wanted := by
      rw [Bool.eq_iff_iff, Settings.failure_isOf, Settings.failure_isOf]
    simp only [resultMismatch?, same]
    split <;> rfl

end Replay

namespace Scenario

/-- The states of two runs are alike: the containers, the names of containers and
the names of host handles are the same. -/
structure SameTables (first second : Replay) : Prop where
  containers : first.kernel.containers = second.kernel.containers
  refs : first.refs = second.refs
  hosts : first.hosts = second.hosts

/-- The scenario with faults that abort with the given exit code. -/
def aborting (scenario : Scenario) (exitCode : Int) : Scenario :=
  { scenario with settings := { scenario.settings with policy := .abort, exitCode } }

/-- The scenario with faults that are returned; the exit code is not used. -/
def returning (scenario : Scenario) (exitCode : Int) : Scenario :=
  { scenario with settings := { scenario.settings with policy := .error, exitCode } }

/-- The two runs begin with kernels that differ in the policy. -/
theorem replay_aborting (scenario : Scenario) (code other : Int) (metrics : Option Metrics) :
    (scenario.aborting code).replay metrics =
      ((scenario.returning other).replay metrics).mapKernel
        (Kernel.withPolicy .abort (if code = 0 then 1 else code)) := by
  by_cases zero : code = 0 <;>
    simp [replay, Kernel.start, Replay.mapKernel, Kernel.withPolicy, aborting, returning,
      Settings.effective, zero]

/-- The number of the first step that is a misuse, or of the last step if none
is. -/
def firstFault (scenario : Scenario) (metrics : Option Metrics) : Nat :=
  ((scenario.stages metrics).findIdx? fun stage => (stage.1.misuse? stage.2).isSome).getD
    (scenario.steps.length - 1)

/-- Two runs that have the first steps in common, up to a change of the kernel
that these steps do not see, agree on them: they reach the same tables and have
the same failures. -/
theorem agree_on_common {change : Kernel → Kernel} {common behind other : List (Replay × Step)}
    {first second : List (Replay × Step)} {index : Nat}
    (kept : ∀ kernel, (change kernel).containers = kernel.containers)
    (alike : ∀ stage ∈ common, (stage.1.mapKernel change).run stage.2 =
      Prod.map (Replay.mapKernel change) id (stage.1.run stage.2))
    (returned : second = common ++ behind)
    (aborted : first = common.map (Prod.map (Replay.mapKernel change) id) ++ other)
    (small : index ≤ common.length) :
    (∀ earlier < index, ∃ before changed step, second[earlier]? = some (before, step) ∧
      first[earlier]? = some (changed, step) ∧
      SameTables (changed.run step).1 (before.run step).1 ∧
      (changed.run step).2 = (before.run step).2) ∧
    (Replay.failuresFrom 0 first).filter (fun failure => failure.index < index) =
      (Replay.failuresFrom 0 second).filter fun failure => failure.index < index := by
  have mapped : index ≤ (common.map (Prod.map (Replay.mapKernel change) id)).length := by
    rw [List.length_map]
    exact small
  refine ⟨?_, ?_⟩
  · intro earlier early
    have inside : earlier < common.length := Nat.lt_of_lt_of_le early small
    obtain ⟨⟨before, step⟩, found⟩ : ∃ stage, common[earlier]? = some stage :=
      ⟨common[earlier], List.getElem?_eq_getElem inside⟩
    have same := alike (before, step) (List.mem_of_getElem? found)
    refine ⟨before, before.mapKernel change, step, ?_, ?_, ?_, ?_⟩
    · rw [returned, List.getElem?_append_left inside, found]
    · rw [aborted, List.getElem?_append_left (Nat.lt_of_lt_of_le early mapped),
        List.getElem?_map, found]
      rfl
    · rw [same]
      exact ⟨kept _, rfl, rfl⟩
    · rw [same]
      rfl
  · rw [returned, aborted, Replay.filter_failures small, Replay.filter_failures mapped,
      Replay.failuresFrom_mapKernel alike]

variable {scenario : Scenario} {code other : Int} {metrics : Option Metrics}

/-- If no step is a misuse where faults are returned, the run where they abort
does the same steps. -/
theorem stages_aborting_of_clean
    (clean : ∀ stage ∈ (scenario.returning other).stages metrics,
      stage.1.misuse? stage.2 = none) :
    (scenario.aborting code).stages metrics =
      ((scenario.returning other).stages metrics).map (Prod.map
        (Replay.mapKernel (Kernel.withPolicy .abort (if code = 0 then 1 else code))) id) := by
  rw [stages, replay_aborting scenario code other metrics]
  apply Replay.executed_mapKernel
  intro stage member
  exact Replay.run_mapKernel_of_clean (Kernel.unseen_withPolicy _ _) (clean stage member)

/-- The step that is the first misuse where faults are returned is the first one
where they abort. -/
theorem firstMisuse_aborting {done rest : List Step} {step : Step} {misuse : Misuse}
    (first : Replay.FirstMisuse ((scenario.returning other).replay metrics) scenario.steps done
      step rest misuse) :
    ((scenario.aborting code).replay metrics).executed done =
        (((scenario.returning other).replay metrics).executed done).map (Prod.map
          (Replay.mapKernel (Kernel.withPolicy .abort (if code = 0 then 1 else code))) id) ∧
      ((scenario.aborting code).replay metrics).after done =
        (((scenario.returning other).replay metrics).after done).mapKernel
          (Kernel.withPolicy .abort (if code = 0 then 1 else code)) ∧
      Replay.FirstMisuse ((scenario.aborting code).replay metrics) scenario.steps done step rest
        misuse := by
  have fresh : ((scenario.returning other).replay metrics).effects.exits = [] := rfl
  have unseen := Kernel.unseen_withPolicy .abort (if code = 0 then 1 else code)
  have executed : ((scenario.aborting code).replay metrics).executed done =
      (((scenario.returning other).replay metrics).executed done).map (Prod.map
        (Replay.mapKernel (Kernel.withPolicy .abort (if code = 0 then 1 else code))) id) := by
    rw [replay_aborting scenario code other metrics]
    apply Replay.executed_mapKernel
    intro stage member
    exact Replay.run_mapKernel_of_clean unseen (first.clean stage member)
  have reached : ((scenario.aborting code).replay metrics).after done =
      (((scenario.returning other).replay metrics).after done).mapKernel
        (Kernel.withPolicy .abort (if code = 0 then 1 else code)) := by
    rw [replay_aborting scenario code other metrics]
    exact Replay.after_mapKernel unseen fresh first.clean
  refine ⟨executed, reached, first.split, ?_, ?_⟩
  · rw [executed]
    intro stage member
    obtain ⟨original, present, rfl⟩ := List.mem_map.mp member
    exact (Replay.misuse?_mapKernel (unseen _) _).trans (first.clean original present)
  · rw [reached]
    exact (Replay.misuse?_mapKernel (unseen _) step).trans first.misused

/-- Without a misuse the number of the first fault is that of the last step. -/
theorem firstFault_of_clean
    (clean : ∀ stage ∈ scenario.stages metrics, stage.1.misuse? stage.2 = none) :
    scenario.firstFault metrics = scenario.steps.length - 1 := by
  have none : ((scenario.stages metrics).findIdx? fun stage =>
      (stage.1.misuse? stage.2).isSome) = none := by
    rw [List.findIdx?_eq_none_iff]
    intro stage member
    rw [clean stage member]
    rfl
  rw [firstFault, none]
  rfl

/-- The number of the first fault is the number of steps before the first misuse. -/
theorem firstFault_of_misuse {done rest : List Step} {step : Step} {misuse : Misuse}
    (first : Replay.FirstMisuse (scenario.replay metrics) scenario.steps done step rest misuse) :
    scenario.firstFault metrics = done.length := by
  have clean : (((scenario.replay metrics).executed done).findIdx? fun stage =>
      (stage.1.misuse? stage.2).isSome) = none := by
    rw [List.findIdx?_eq_none_iff]
    intro stage member
    rw [first.clean stage member]
    rfl
  have next : ((((scenario.replay metrics).after done).executed (step :: rest)).findIdx?
      fun stage => (stage.1.misuse? stage.2).isSome) = some 0 := by
    simp only [Replay.executed, List.findIdx?_cons, first.misused, Option.isSome_some, if_true]
  rw [firstFault, stages, first.split, first.executed_eq rfl, List.findIdx?_append, clean, next,
    first.done_length rfl]
  simp

/-- Two runs of the same steps, of which the first ends at the step with the given
number, agree up to that step. -/
structure AgreeUpTo (index : Nat) (aborting returning : Scenario) (metrics : Option Metrics) :
    Prop where
  /-- The first run does the steps up to that number. -/
  executed : (aborting.stages metrics).map Prod.snd = returning.steps.take (index + 1)
  /-- After each step before it, the containers and the names are the same, and so
  is what is wrong about the step. -/
  tables : ∀ earlier < index, ∃ before changed step,
    (returning.stages metrics)[earlier]? = some (before, step) ∧
    (aborting.stages metrics)[earlier]? = some (changed, step) ∧
    SameTables (changed.run step).1 (before.run step).1 ∧
    (changed.run step).2 = (before.run step).2
  failures : (aborting.run metrics).verdict.failures.filter (fun failure => failure.index < index) =
    (returning.run metrics).verdict.failures.filter (fun failure => failure.index < index)
  /-- At the step itself both runs fail or neither does, unless the step expects an
  exit or printed text. -/
  atFault : ∀ step, returning.steps[index]? = some step → step.expectError ≠ .exit →
    step.expectStderr = [] →
    ((∃ failure ∈ (aborting.run metrics).verdict.failures, failure.index = index) ↔
      ∃ failure ∈ (returning.run metrics).verdict.failures, failure.index = index)

/-- If no step is a misuse, all steps are common to the two runs. -/
theorem agreeUpTo_of_clean
    (all : ((scenario.returning other).stages metrics).map Prod.snd = scenario.steps)
    (clean : ∀ stage ∈ (scenario.returning other).stages metrics,
      stage.1.misuse? stage.2 = none) :
    AgreeUpTo (scenario.steps.length - 1) (scenario.aborting code) (scenario.returning other)
      metrics := by
  have unseen := Kernel.unseen_withPolicy .abort (if code = 0 then 1 else code)
  have alike : ∀ stage ∈ (scenario.returning other).stages metrics, _ := fun stage member =>
    Replay.run_mapKernel_of_clean unseen (clean stage member)
  have same : (scenario.aborting code).stages metrics = _ := stages_aborting_of_clean clean
  have small : scenario.steps.length - 1 ≤ ((scenario.returning other).stages metrics).length := by
    have count := congrArg List.length all
    rw [List.length_map] at count
    omega
  obtain ⟨tables, failures⟩ := agree_on_common (fun kernel => (unseen kernel).containers) alike
    (List.append_nil _).symm (same.trans (List.append_nil _).symm) small
  refine ⟨?_, tables, ?_, ?_⟩
  · rw [same, List.map_map]
    show _ = scenario.steps.take (scenario.steps.length - 1 + 1)
    rw [List.take_of_length_le (by omega)]
    exact all
  · rw [run_eq, run_eq]
    exact failures
  · intro step _ _ _
    rw [run_eq, run_eq, same, Replay.failuresFrom_mapKernel alike]

/-- If a step is a misuse, the steps before the first one are common, and the run in
which faults abort does one more. -/
theorem agreeUpTo_of_misuse {done rest : List Step} {step : Step} {misuse : Misuse}
    (first : Replay.FirstMisuse ((scenario.returning other).replay metrics) scenario.steps done
      step rest misuse) :
    AgreeUpTo done.length (scenario.aborting code) (scenario.returning other) metrics := by
  have unseen := Kernel.unseen_withPolicy .abort (if code = 0 then 1 else code)
  obtain ⟨executed, _, firstAborting⟩ :=
    @firstMisuse_aborting scenario code other metrics done rest step misuse first
  have aborts : (scenario.aborting code).settings.effective.policy = .abort := by
    simp [aborting, Settings.effective]
  have alike : ∀ stage ∈ ((scenario.returning other).replay metrics).executed done, _ :=
    fun stage member => Replay.run_mapKernel_of_clean unseen (first.clean stage member)
  have length : (((scenario.returning other).replay metrics).executed done).length =
      done.length := first.done_length rfl
  have returned : (scenario.returning other).stages metrics =
      ((scenario.returning other).replay metrics).executed done ++
        (((scenario.returning other).replay metrics).after done).executed (step :: rest) := by
    rw [stages, ← first.executed_eq rfl, ← first.split]
    rfl
  have aborted : (scenario.aborting code).stages metrics =
      ((scenario.aborting code).replay metrics).executed done ++
        [(((scenario.aborting code).replay metrics).after done, step)] :=
    (@stages_of_firstMisuse (scenario.aborting code) metrics done rest step misuse aborts
      firstAborting).1
  have lengthAborting : (((scenario.aborting code).replay metrics).executed done).length =
      done.length := firstAborting.done_length rfl
  obtain ⟨tables, failures⟩ := agree_on_common (fun kernel => (unseen kernel).containers) alike
    returned (executed ▸ aborted) (Nat.le_of_eq length.symm)
  refine ⟨?_, tables, ?_, ?_⟩
  · exact (@endsAt_of_firstMisuse (scenario.aborting code) metrics done rest step misuse aborts
      firstAborting).executed
  · rw [run_eq, run_eq]
    exact failures
  · intro failing found noExit unprinted
    have same : failing = step := by
      rw [show (scenario.returning other).steps = scenario.steps from rfl, first.split,
        List.getElem?_append_right (Nat.le_refl _), Nat.sub_self] at found
      exact (Option.some.inj found).symm
    subst same
    have here : ((scenario.returning other).stages metrics)[done.length]? =
        some (((scenario.returning other).replay metrics).after done, failing) := by
      rw [returned, ← length, List.getElem?_append_right (Nat.le_refl _), Nat.sub_self]
      rfl
    have there : ((scenario.aborting code).stages metrics)[done.length]? =
        some (((scenario.aborting code).replay metrics).after done, failing) := by
      rw [aborted, ← lengthAborting, List.getElem?_append_right (Nat.le_refl _), Nat.sub_self]
      rfl
    rw [run_eq, run_eq, Replay.fails_iff here, Replay.fails_iff there,
      Replay.mismatch_of_misuse first.misused unprinted,
      Replay.mismatch_of_misuse firstAborting.misused unprinted,
      Replay.resultMismatch?_failure _ _ misuse.fault noExit]

/-- **The policies agree up to the first fault.** Run a scenario with faults that
abort, under any exit code, and with faults that are returned. The second run does
all steps. Up to the first of them that is a misuse, or up to the last one if none
is, the two runs agree as `AgreeUpTo` says. -/
theorem policies_agree_until_fault (scenario : Scenario) (code other : Int)
    (metrics : Option Metrics) :
    let aborting := scenario.aborting code
    let returning := scenario.returning other
    (returning.stages metrics).map Prod.snd = scenario.steps ∧
      AgreeUpTo (returning.firstFault metrics) aborting returning metrics := by
  intro aborting returning
  have returns : returning.settings.effective.policy ≠ .abort := by
    simp [returning, Scenario.returning, Settings.effective]
  have all : (returning.stages metrics).map Prod.snd = scenario.steps :=
    (run_returning returning metrics returns).1
  refine ⟨all, ?_⟩
  obtain clean | ⟨done, step, rest, misuse, first⟩ :=
    @Replay.clean_or_first_misuse (returning.replay metrics) rfl scenario.steps
  · rw [firstFault_of_clean clean]
    exact agreeUpTo_of_clean all clean
  · rw [firstFault_of_misuse first]
    exact agreeUpTo_of_misuse first

/-- A step that expects a fault of another class than it gets: it fails where the
fault is returned, so it fails where the fault aborts, and the step behind it is
left out. -/
theorem wrong_class_fails_twice :
    let step : Step := { operation := .listAt, target := utf8 "a", expectError := .fault .handle }
    let scenario : Scenario :=
      { name := utf8 "wrong class"
        settings := {}
        steps := [{ operation := .listNew, ref := utf8 "a" }, step, { operation := .listNew }] }
    scenario.steps[1]? = some step ∧ (scenario.returning 0).firstFault none = 1 ∧
      ((scenario.aborting 7).stages none).map Prod.snd = scenario.steps.take 2 ∧
      ∃ failure ∈ ((scenario.aborting 7).run none).verdict.failures, failure.index = 1 := by
  intro step scenario
  have fault : (scenario.returning 0).firstFault none = 1 := by decide
  have fails : ∃ failure ∈ ((scenario.returning 0).run none).verdict.failures,
      failure.index = 1 := by
    decide
  obtain ⟨_, agree⟩ := policies_agree_until_fault scenario 7 0 none
  rw [fault] at agree
  exact ⟨rfl, fault, agree.executed, (agree.atFault step rfl (by decide) rfl).mpr fails⟩

end Scenario

end ContainerKernel
