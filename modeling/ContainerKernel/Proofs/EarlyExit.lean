import ContainerKernel.Proofs.FaultRecords
import ContainerKernel.Proofs.ReplaySteps

/-!
# A scenario ends with its first abort

Where faults are returned, a run does every step and ends without an exit and
without printed text. Where they abort, the first step that is a misuse is the
last one that is done: there is one exit, one printed line and one line of the
log about it, and a second one if steps are left out. What stands behind that
step in the scenario has no influence on anything but the number of steps that
the log says were left out.

The steps that are done are the pairs of `Replay.executed`, and `EndsAt` is what
a scenario reports when the one with the given number is a misuse.
-/

namespace ContainerKernel

namespace Replay

variable {replay : Replay} {step : Step}

/-! ## Failures are in the order of the steps -/

/-- Steps have at most one failure each, and the failures are in their order. -/
theorem failuresFrom_sorted (index : Nat) (stages : List (Replay × Step)) :
    ((failuresFrom index stages).map StepFailure.index).Pairwise (· < ·) ∧
      ∀ failure ∈ failuresFrom index stages,
        index ≤ failure.index ∧ failure.index < index + stages.length := by
  induction stages generalizing index with
  | nil => exact ⟨List.Pairwise.nil, List.forall_mem_nil _⟩
  | cons stage rest inductionHypothesis =>
    obtain ⟨sorted, bounded⟩ := inductionHypothesis (index + 1)
    have later : ∀ failure ∈ failuresFrom (index + 1) rest,
        index < failure.index ∧ failure.index < index + (rest.length + 1) := by
      intro failure member
      have bounds := bounded failure member
      omega
    rw [failuresFrom_cons, List.length_cons]
    cases (stage.1.run stage.2).2 with
    | none =>
      refine ⟨sorted, ?_⟩
      intro failure member
      have bounds := later failure member
      omega
    | some mismatch =>
      refine ⟨List.pairwise_cons.mpr ⟨?_, sorted⟩, List.forall_mem_cons.mpr ⟨?_, ?_⟩⟩
      · intro number member
        obtain ⟨failure, present, rfl⟩ := List.mem_map.mp member
        exact (later failure present).1
      · dsimp only
        omega
      · intro failure member
        have bounds := later failure member
        omega

/-! ## Runs in which faults are returned -/

/-- Where faults are returned, a step prints nothing, calls for no exit, and logs
errors only. -/
theorem effects_run_returning (returns : replay.kernel.settings.policy ≠ .abort) (step : Step) :
    (replay.run step).1.effects.exits = replay.effects.exits ∧
      (replay.run step).1.effects.stderr = replay.effects.stderr ∧
      ∀ line ∈ (replay.run step).1.effects.log,
        line ∈ replay.effects.log ∨ line.level = .error := by
  rw [effects_run, reported]
  cases replay.misuse? step with
  | none =>
    rw [Effects.append_empty]
    exact ⟨rfl, rfl, fun line member => .inl member⟩
  | some misuse =>
    simp only [Kernel.report_effects, Settings.traces, if_neg returns, Effects.exits_append,
      Effects.stderr_append, Effects.log_append, List.append_nil, List.mem_append,
      List.mem_singleton, true_and]
    rintro line (old | rfl)
    · exact .inl old
    · exact .inr rfl

/-- Where faults are returned, no step of a run calls for an exit. -/
theorem exits_of_returning (returns : replay.kernel.settings.policy ≠ .abort)
    (fresh : replay.effects.exits = []) (steps : List Step) :
    ∀ stage ∈ replay.executed steps, (stage.1.run stage.2).1.effects.exits = [] := by
  induction steps generalizing replay with
  | nil => exact List.forall_mem_nil _
  | cons step rest inductionHypothesis =>
    have exits : (replay.run step).1.effects.exits = [] := by
      rw [(effects_run_returning returns step).1, fresh]
    rw [executed_go exits]
    refine List.forall_mem_cons.mpr ⟨exits, inductionHypothesis ?_ exits⟩
    rw [settings_run]
    exact returns

/-- Where faults are returned, steps one after another print nothing, call for no
exit, and log errors only. -/
theorem effects_after_returning (returns : replay.kernel.settings.policy ≠ .abort)
    (steps : List Step) :
    (replay.after steps).effects.exits = replay.effects.exits ∧
      (replay.after steps).effects.stderr = replay.effects.stderr ∧
      ∀ line ∈ (replay.after steps).effects.log,
        line ∈ replay.effects.log ∨ line.level = .error := by
  induction steps generalizing replay with
  | nil => exact ⟨rfl, rfl, fun line member => .inl member⟩
  | cons step rest inductionHypothesis =>
    obtain ⟨exits, stderr, log⟩ := effects_run_returning returns step
    have still : (replay.run step).1.kernel.settings.policy ≠ .abort := by
      rw [settings_run]
      exact returns
    obtain ⟨laterExits, laterStderr, laterLog⟩ := inductionHypothesis still
    refine ⟨laterExits.trans exits, laterStderr.trans stderr, ?_⟩
    intro line member
    obtain old | error := laterLog line member
    · exact log line old
    · exact .inr error

/-! ## Runs in which faults abort -/

/-- A misuse under the abort policy ends the run, with its own effects. -/
theorem effects_run_aborting {misuse : Misuse}
    (aborts : replay.kernel.settings.policy = .abort)
    (misused : replay.misuse? step = some misuse) :
    (replay.run step).1.effects = replay.effects ++
      ⟨misuse.diagnostic ++ utf8 "\n", [replay.kernel.settings.faultLine misuse],
        [replay.kernel.settings.exitCode]⟩ := by
  rw [effects_run, reported, misused]
  simp only [Kernel.report_effects, Settings.traces, if_pos aborts]

/-- Under the abort policy the first misuse is the last step that is done,
whatever stands behind it. -/
theorem FirstMisuse.executed_aborting {steps done rest : List Step} {misuse : Misuse}
    (first : FirstMisuse replay steps done step rest misuse) (fresh : replay.effects.exits = [])
    (aborts : (replay.after done).kernel.settings.policy = .abort) (later : List Step) :
    replay.executed (done ++ step :: later) =
      replay.executed done ++ [(replay.after done, step)] := by
  rw [first.executed_eq fresh, executed_stop]
  rw [effects_run_aborting aborts first.misused, Effects.exits_append]
  exact List.append_ne_nil_of_right_ne_nil _ (List.cons_ne_nil _ _)

/-- A misuse of a step is one of the ways to misuse the kernel, and is reported
on a single line. -/
theorem one_line_of_misuse? {misuse : Misuse} (misused : replay.misuse? step = some misuse) :
    (10 : UInt8) ∉ misuse.diagnostic := by
  unfold misuse? at misused
  split at misused
  · cases misused
  · next named operation found =>
    split at misused
    · cases misused
    · next cause failed =>
      cases misused
      exact (Kernel.attempt_misused failed).one_line

end Replay

/-! ## Reports -/

namespace Scenario

/-- The state in which a run ends. -/
def last (scenario : Scenario) (metrics : Option Metrics) : Replay :=
  (Replay.runSteps scenario.name 0 scenario.steps (scenario.replay metrics)).1

/-- The steps that a run does, each with the state in which it is done. -/
def stages (scenario : Scenario) (metrics : Option Metrics) : List (Replay × Step) :=
  (scenario.replay metrics).executed scenario.steps

/-- The state that the steps which a run does leave one after another. -/
def reached (scenario : Scenario) (metrics : Option Metrics) : Replay :=
  (scenario.replay metrics).after ((scenario.stages metrics).map Prod.snd)

/-- A run ends in the state that its steps leave, with a line more in the log if
there are steps that it did not do. -/
theorem last_eq (scenario : Scenario) (metrics : Option Metrics) :
    scenario.last metrics =
      if (scenario.stages metrics).length < scenario.steps.length then
        (scenario.reached metrics).log (Replay.earlyExitLine scenario.name
          ((scenario.stages metrics).length - 1)
          (scenario.steps.length - (scenario.stages metrics).length))
      else scenario.reached metrics := by
  simp only [last, reached, stages, Replay.runSteps_eq, Replay.executed_steps, Nat.zero_add]

/-- The state in which a run ends differs from the one that its steps leave only in
the log line about steps that were left out. -/
theorem last_fields (scenario : Scenario) (metrics : Option Metrics) :
    (scenario.last metrics).kernel = (scenario.reached metrics).kernel ∧
      (scenario.last metrics).effects.exits = (scenario.reached metrics).effects.exits ∧
      (scenario.last metrics).effects.stderr = (scenario.reached metrics).effects.stderr ∧
      (scenario.last metrics).effects.log = (scenario.reached metrics).effects.log ++
        if (scenario.stages metrics).length < scenario.steps.length then
          [Replay.earlyExitLine scenario.name ((scenario.stages metrics).length - 1)
            (scenario.steps.length - (scenario.stages metrics).length)]
        else [] := by
  rw [last_eq]
  split
  · exact ⟨rfl, rfl, rfl, rfl⟩
  · exact ⟨rfl, rfl, rfl, (List.append_nil _).symm⟩

/-- What a run reports is read off the steps that it does and the state in which
it ends. -/
theorem run_eq (scenario : Scenario) (metrics : Option Metrics) :
    scenario.run metrics =
      { verdict :=
          { scenario := scenario.name
            failures := Replay.failuresFrom 0 (scenario.stages metrics)
            exit := (scenario.last metrics).effects.exits.head?
            stderr := (scenario.last metrics).effects.stderr }
        log := (scenario.last metrics).effects.log
        metrics := (scenario.last metrics).kernel.metrics } := by
  simp only [run, last, stages, Replay.runSteps_eq]

/-- What a scenario reports when its run ends with the misuse that its step with
the given number is. -/
structure EndsAt (scenario : Scenario) (metrics : Option Metrics) (index : Nat)
    (misuse : Misuse) : Prop where
  /-- The step is the first misuse, and the last that is done. -/
  first : ∀ stage ∈ (scenario.stages metrics).take index, stage.1.misuse? stage.2 = none
  executed : (scenario.stages metrics).map Prod.snd = scenario.steps.take (index + 1)
  exits : (scenario.last metrics).effects.exits = [scenario.settings.effective.exitCode]
  exit : (scenario.run metrics).verdict.exit = some scenario.settings.effective.exitCode
  one_line : (10 : UInt8) ∉ misuse.diagnostic
  stderr : (scenario.run metrics).verdict.stderr = misuse.diagnostic ++ utf8 "\n"
  /-- The log holds the misuse and, if steps are left out, how many. -/
  log : (scenario.run metrics).log =
    { level := .error
      fields := [
        ("msg", utf8 "container fault"),
        ("kind", misuse.kind.label),
        ("policy", utf8 "abort"),
        ("err", misuse.fault.message)] } ::
    if index + 1 < scenario.steps.length then
      [{ level := .debug
         fields := [
           ("msg", utf8 "scenario exited early"),
           ("scenario", scenario.name),
           ("step", naturalDecimal index),
           ("skipped", naturalDecimal (scenario.steps.length - index - 1))] }]
    else []
  /-- Other steps behind it would change nothing. -/
  rest : ∀ later : List Step,
    let other := { scenario with steps := scenario.steps.take (index + 1) ++ later }
    (other.run metrics).verdict = (scenario.run metrics).verdict ∧
      (other.run metrics).metrics = (scenario.run metrics).metrics ∧
      (other.last metrics).kernel = (scenario.last metrics).kernel

/-- What a run reports, apart from its log, depends on the steps that it does and
on nothing else of the scenario's steps. -/
theorem run_of_stages {scenario other : Scenario} {metrics : Option Metrics}
    (named : other.name = scenario.name) (settings : other.settings = scenario.settings)
    (same : other.stages metrics = scenario.stages metrics) :
    (other.run metrics).verdict = (scenario.run metrics).verdict ∧
      (other.run metrics).metrics = (scenario.run metrics).metrics ∧
      (other.last metrics).kernel = (scenario.last metrics).kernel := by
  have begun : other.replay metrics = scenario.replay metrics := by
    simp only [replay, settings]
  have ended : other.reached metrics = scenario.reached metrics := by
    simp only [reached, same, begun]
  obtain ⟨otherKernel, otherExits, otherStderr, _⟩ := last_fields other metrics
  obtain ⟨kernel, exits, stderr, _⟩ := last_fields scenario metrics
  rw [run_eq, run_eq]
  simp only [otherKernel, otherExits, otherStderr, kernel, exits, stderr, ended, named, same,
    and_self]

/-- Under the abort policy a run does the steps up to its first misuse, whatever
stands behind it. -/
theorem stages_of_firstMisuse {scenario : Scenario} {metrics : Option Metrics}
    {done rest : List Step} {step : Step} {misuse : Misuse}
    (aborts : scenario.settings.effective.policy = .abort)
    (first : Replay.FirstMisuse (scenario.replay metrics) scenario.steps done step rest misuse) :
    scenario.stages metrics = (scenario.replay metrics).executed done ++
        [((scenario.replay metrics).after done, step)] ∧
      ∀ later, (scenario.replay metrics).executed (done ++ step :: later) =
        scenario.stages metrics := by
  have policy : ((scenario.replay metrics).after done).kernel.settings.policy = .abort := by
    rw [Replay.settings_after]
    exact aborts
  have stopped : ∀ later, (scenario.replay metrics).executed (done ++ step :: later) =
      (scenario.replay metrics).executed done ++ [((scenario.replay metrics).after done, step)] :=
    first.executed_aborting rfl policy
  have split : scenario.stages metrics = (scenario.replay metrics).executed done ++
      [((scenario.replay metrics).after done, step)] := by
    rw [stages, first.split, stopped]
  refine ⟨split, ?_⟩
  intro later
  rw [stopped, split]

/-- The step of a run under the abort policy that is a misuse is the first one,
with only clean steps before it. -/
theorem firstMisuse_of_stage {scenario : Scenario} {metrics : Option Metrics} {index : Nat}
    {before : Replay} {step : Step} {misuse : Misuse}
    (aborts : scenario.settings.effective.policy = .abort)
    (stage : (scenario.stages metrics)[index]? = some (before, step))
    (misused : before.misuse? step = some misuse) :
    ∃ done rest, Replay.FirstMisuse (scenario.replay metrics) scenario.steps done step rest misuse ∧
      done.length = index ∧ before = (scenario.replay metrics).after done := by
  have fresh : (scenario.replay metrics).effects.exits = [] := rfl
  obtain clean | ⟨done, stopping, rest, cause, first⟩ :=
    Replay.clean_or_first_misuse fresh scenario.steps
  · have none : before.misuse? step = none := clean (before, step) (List.mem_of_getElem? stage)
    rw [misused] at none
    cases none
  · have length := first.done_length fresh
    rw [(stages_of_firstMisuse aborts first).1] at stage
    by_cases early : index < ((scenario.replay metrics).executed done).length
    · rw [List.getElem?_append_left early] at stage
      have none : before.misuse? step = none :=
        first.clean (before, step) (List.mem_of_getElem? stage)
      rw [misused] at none
      cases none
    · rw [List.getElem?_append_right (Nat.le_of_not_lt early)] at stage
      obtain ⟨inside, same⟩ := List.getElem?_eq_some_iff.mp stage
      have only : index = ((scenario.replay metrics).executed done).length := by
        rw [List.length_singleton] at inside
        omega
      simp only [List.getElem_singleton] at same
      obtain ⟨rfl, rfl⟩ := Prod.mk.inj same
      cases first.misused.symm.trans misused
      exact ⟨done, rest, first, by omega, rfl⟩

/-- A run under the abort policy ends at its first misuse. -/
theorem endsAt_of_firstMisuse {scenario : Scenario} {metrics : Option Metrics}
    {done rest : List Step} {step : Step} {misuse : Misuse}
    (aborts : scenario.settings.effective.policy = .abort)
    (first : Replay.FirstMisuse (scenario.replay metrics) scenario.steps done step rest misuse) :
    EndsAt scenario metrics done.length misuse := by
  have fresh : (scenario.replay metrics).effects.exits = [] := rfl
  obtain ⟨split, stopped⟩ := stages_of_firstMisuse aborts first
  have length := first.done_length fresh
  have count : (scenario.stages metrics).length = done.length + 1 := by
    rw [split, List.length_append, length, List.length_singleton]
  have steps : (scenario.stages metrics).map Prod.snd = done ++ [step] := by
    rw [split, List.map_append, Replay.executed_all (Replay.exits_of_clean fresh first.clean)]
    rfl
  have taken : scenario.steps.take (done.length + 1) = done ++ [step] := by
    rw [first.split, ← List.singleton_append, ← List.append_assoc]
    exact List.take_left' (by simp)
  have policy : ((scenario.replay metrics).after done).kernel.settings.policy = .abort := by
    rw [Replay.settings_after]
    exact aborts
  have line : ((scenario.replay metrics).after done).kernel.settings.faultLine misuse =
      { level := .error
        fields := [
          ("msg", utf8 "container fault"),
          ("kind", misuse.kind.label),
          ("policy", utf8 "abort"),
          ("err", misuse.fault.message)] } := by
    rw [Settings.faultLine, policy]
    rfl
  have effects : (scenario.reached metrics).effects =
      ⟨misuse.diagnostic ++ utf8 "\n",
        [((scenario.replay metrics).after done).kernel.settings.faultLine misuse],
        [scenario.settings.effective.exitCode]⟩ := by
    rw [reached, steps, Replay.after_append]
    show (((scenario.replay metrics).after done).run step).1.effects = _
    rw [Replay.effects_run_aborting policy first.misused,
      (Replay.effects_of_clean fresh first.clean).1, Replay.settings_after]
    rfl
  obtain ⟨kernel, exits, stderr, log⟩ := last_fields scenario metrics
  refine ⟨?_, ?_, ?_, ?_, Replay.one_line_of_misuse? first.misused, ?_, ?_, ?_⟩
  · rw [split, ← length, List.take_left]
    exact first.clean
  · rw [steps, taken]
  · rw [exits, effects]
  · rw [run_eq]
    simp only [exits, effects, List.head?_cons]
  · rw [run_eq]
    simp only [stderr, effects]
  · rw [run_eq]
    simp only [log, effects, line, count, Nat.add_sub_cancel, List.singleton_append, Nat.sub_sub]
    rfl
  · intro later other
    refine @run_of_stages scenario other metrics rfl rfl ?_
    have behind : other.steps = done ++ step :: later := by
      show scenario.steps.take (done.length + 1) ++ later = _
      rw [taken, List.append_assoc, List.singleton_append]
    rw [← stopped later, ← behind]
    rfl

/-- A run in which faults are returned does every step, ends without exit and
printed text, and logs errors only. -/
theorem run_returning (scenario : Scenario) (metrics : Option Metrics)
    (returns : scenario.settings.effective.policy ≠ .abort) :
    (scenario.stages metrics).map Prod.snd = scenario.steps ∧
      (scenario.run metrics).verdict.exit = none ∧
      (scenario.run metrics).verdict.stderr = [] ∧
      ∀ line ∈ (scenario.run metrics).log, line.level = .error := by
  have fresh : (scenario.replay metrics).effects.exits = [] := rfl
  have all : (scenario.stages metrics).map Prod.snd = scenario.steps :=
    Replay.executed_all (Replay.exits_of_returning returns fresh scenario.steps)
  have count : (scenario.stages metrics).length = scenario.steps.length := by
    rw [← List.length_map, all]
  obtain ⟨quiet, unprinted, errors⟩ :=
    @Replay.effects_after_returning (scenario.replay metrics) returns
      ((scenario.stages metrics).map Prod.snd)
  obtain ⟨_, exits, stderr, log⟩ := last_fields scenario metrics
  rw [count, if_neg (Nat.lt_irrefl _), List.append_nil] at log
  rw [run_eq]
  refine ⟨all, ?_, stderr.trans unprinted, ?_⟩
  · show (scenario.last metrics).effects.exits.head? = none
    rw [exits, reached, quiet]
    rfl
  · intro line member
    rw [show (scenario.last metrics).effects.log = _ from log] at member
    obtain old | error := errors line member
    · cases old
    · exact error

/-- A run without misuse does every step and leaves no trace outside the kernel. -/
theorem run_clean (scenario : Scenario) (metrics : Option Metrics)
    (clean : ∀ stage ∈ scenario.stages metrics, stage.1.misuse? stage.2 = none) :
    (scenario.stages metrics).map Prod.snd = scenario.steps ∧
      (scenario.run metrics).verdict.exit = none ∧
      (scenario.run metrics).verdict.stderr = [] ∧ (scenario.run metrics).log = [] := by
  have fresh : (scenario.replay metrics).effects.exits = [] := rfl
  have all : (scenario.stages metrics).map Prod.snd = scenario.steps :=
    Replay.executed_all (Replay.exits_of_clean fresh clean)
  have count : (scenario.stages metrics).length = scenario.steps.length := by
    rw [← List.length_map, all]
  have quiet : (scenario.reached metrics).effects = {} := by
    rw [reached, all]
    exact (Replay.effects_of_clean fresh clean).1
  obtain ⟨_, exits, stderr, log⟩ := last_fields scenario metrics
  rw [count, if_neg (Nat.lt_irrefl _), List.append_nil] at log
  rw [run_eq]
  refine ⟨all, ?_, ?_, ?_⟩
  · simp only [exits, quiet, List.head?_nil]
  · simp only [stderr, quiet]
  · simp only [log, quiet]

/-- **A scenario ends with its first abort.** Take any scenario and any counters,
and the steps that its run does with the states in which it does them.

* These steps are the first of the scenario, each done in the state that the ones
  before it left, and the run ends with the kernel that the last of them left.
  Each has the effects of its one misuse or none.
* The failures of the run are theirs: at most one for each, in their order.
* If faults are returned, all steps are done, there is no exit and no printed
  text, and nothing is logged but errors.
* If faults abort, there is an exit exactly when one of the steps that are done is
  a misuse; otherwise all steps are done without a trace. A step that is a misuse
  ends the run as `EndsAt` says. -/
theorem run_ends_at_first_abort (scenario : Scenario) (metrics : Option Metrics) :
    let stages := scenario.stages metrics
    let report := scenario.run metrics
    (stages.map Prod.snd = scenario.steps.take stages.length ∧
      (∀ index before step, stages[index]? = some (before, step) →
        before = (scenario.replay metrics).after (scenario.steps.take index) ∧
        (before.run step).1.effects = before.effects ++ before.reported step) ∧
      (scenario.last metrics).kernel = (scenario.reached metrics).kernel) ∧
    (report.verdict.failures = Replay.failuresFrom 0 stages ∧
      (report.verdict.failures.map StepFailure.index).Pairwise (· < ·) ∧
      ∀ failure ∈ report.verdict.failures, failure.index < stages.length) ∧
    (scenario.settings.effective.policy ≠ .abort →
      stages.map Prod.snd = scenario.steps ∧ report.verdict.exit = none ∧
        report.verdict.stderr = [] ∧ ∀ line ∈ report.log, line.level = .error) ∧
    (scenario.settings.effective.policy = .abort →
      (report.verdict.exit.isSome = true ↔
        ∃ stage ∈ stages, (stage.1.misuse? stage.2).isSome = true) ∧
      (report.verdict.exit = none →
        stages.map Prod.snd = scenario.steps ∧ report.verdict.stderr = [] ∧ report.log = []) ∧
      ∀ index before step misuse, stages[index]? = some (before, step) →
        before.misuse? step = some misuse → EndsAt scenario metrics index misuse) := by
  intro stages report
  have failures : report.verdict.failures = Replay.failuresFrom 0 stages := by
    show (scenario.run metrics).verdict.failures = _
    rw [run_eq]
  obtain ⟨sorted, bounded⟩ := Replay.failuresFrom_sorted 0 stages
  refine ⟨⟨Replay.executed_steps _ _, ?_, (last_fields scenario metrics).1⟩,
    ⟨failures, ?_, ?_⟩, run_returning scenario metrics, ?_⟩
  · intro index before step stage
    exact ⟨(Replay.executed_state stage).1, Replay.effects_run before step⟩
  · rw [failures]
    exact sorted
  · rw [failures]
    intro failure member
    have bounds := bounded failure member
    omega
  · intro aborts
    have fresh : (scenario.replay metrics).effects.exits = [] := rfl
    have ending : ∀ index before step misuse, stages[index]? = some (before, step) →
        before.misuse? step = some misuse → EndsAt scenario metrics index misuse := by
      intro index before step misuse stage misused
      obtain ⟨done, rest, first, rfl, rfl⟩ := firstMisuse_of_stage aborts stage misused
      exact endsAt_of_firstMisuse aborts first
    obtain clean | ⟨done, step, rest, misuse, first⟩ :=
      Replay.clean_or_first_misuse fresh scenario.steps
    · obtain ⟨all, unexited, stderr, log⟩ := run_clean scenario metrics clean
      refine ⟨⟨?_, ?_⟩, fun _ => ⟨all, stderr, log⟩, ending⟩
      · intro exited
        rw [unexited] at exited
        cases exited
      · rintro ⟨stage, member, misused⟩
        rw [clean stage member] at misused
        cases misused
    · have exited := (endsAt_of_firstMisuse aborts first).exit
      have done : ((scenario.replay metrics).after done, step) ∈ stages := by
        show _ ∈ scenario.stages metrics
        rw [(stages_of_firstMisuse aborts first).1]
        exact List.mem_append_right _ List.mem_cons_self
      refine ⟨⟨?_, ?_⟩, ?_, ending⟩
      · intro _
        exact ⟨_, done, by rw [first.misused]; rfl⟩
      · intro _
        rw [exited]
        rfl
      · intro unexited
        cases exited.symm.trans unexited

/-- The second of three steps asks for an item of an empty list: the third one is
left out, and the log says so. -/
theorem third_step_left_out :
    let scenario : Scenario :=
      { name := utf8 "bad index"
        settings := { policy := .abort, exitCode := 3 }
        steps :=
          [{ operation := .listNew, ref := utf8 "a" },
            { operation := .listAt, target := utf8 "a", index := 5, expectError := .exit },
            { operation := .stringNew, ref := utf8 "b", text := utf8 "late" }] }
    let report := scenario.run none
    scenario.settings.effective.policy = .abort ∧
      report.verdict.exit = some 3 ∧
      report.verdict.stderr = utf8 "Cannot get list item at index 5!\n" ∧
      report.log =
        [{ level := .error
           fields := [
             ("msg", utf8 "container fault"),
             ("kind", utf8 "index"),
             ("policy", utf8 "abort"),
             ("err", utf8 "list index 5 out of bounds for length 0")] },
         { level := .debug
           fields := [
             ("msg", utf8 "scenario exited early"),
             ("scenario", utf8 "bad index"),
             ("step", utf8 "1"),
             ("skipped", utf8 "1")] }] := by
  intro scenario report
  have aborts : scenario.settings.effective.policy = .abort := rfl
  obtain ⟨_, _, _, aborted⟩ := run_ends_at_first_abort scenario none
  have ends := (aborted aborts).2.2 1 ((scenario.replay none).after (scenario.steps.take 1))
    { operation := .listAt, target := utf8 "a", index := 5, expectError := .exit }
    ⟨.index, .index (utf8 "list") 5 0, utf8 "Cannot get list item at index 5!"⟩ rfl rfl
  refine ⟨aborts, ends.exit, ends.stderr.trans ?_, ends.log.trans ?_⟩
  · decide
  · decide

end Scenario

end ContainerKernel
