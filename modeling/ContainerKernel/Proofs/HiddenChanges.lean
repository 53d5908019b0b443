import ContainerKernel.Proofs.ReplaysAlike

/-!
# Changes that a whole run hides

What a scenario reports is decided by its steps and by what the kernel answers. A
change of the kernel is hidden if every operation, misuse or not, comes to the
same on the changed kernel and leaves the change of what it would have left. Runs
of steps over a hidden change differ in the kernel only, so that verdict and log
are the same.

Two changes are hidden: to have no counters, and to have the settings from
another file. That the policy for faults is hidden is not true; two runs under
different policies part at the first misuse.
-/

namespace ContainerKernel

namespace Kernel

variable {change : Kernel → Kernel}

/-- A change of kernels that no operation shows, whether it succeeds or is a
misuse. -/
structure Hidden (change : Kernel → Kernel) : Prop where
  containers : ∀ kernel, (change kernel).containers = kernel.containers
  step : ∀ kernel operation,
    (change kernel).step operation = (change (kernel.step operation).1, (kernel.step operation).2)

/-- A change that operations do not see is hidden if the report of a misuse does
not show it either: the policy and the exit code are the same, and the fault is
counted alike. -/
theorem hidden_of_unseen (unseen : ∀ kernel, Unseen change kernel)
    (policy : ∀ kernel, (change kernel).settings.policy = kernel.settings.policy)
    (exitCode : ∀ kernel, (change kernel).settings.exitCode = kernel.settings.exitCode)
    (counted : ∀ kernel name,
      (change kernel).observe (fun metrics => (metrics.observeFault name).1) =
        change (kernel.observe fun metrics => (metrics.observeFault name).1)) :
    Hidden change where
  containers kernel := (unseen kernel).containers
  step kernel operation := by
    unfold Kernel.step
    rw [attempt_unseen (unseen kernel)]
    cases kernel.attempt operation with
    | ok answer => rfl
    | error misuse =>
      simp only [Except.map, report, Settings.faultLine, policy, exitCode, counted]
      split <;> rfl

/-- The kernel without counters. -/
def withoutMetrics (kernel : Kernel) : Kernel :=
  { kernel with metrics := none }

/-- Whether there are counters is hidden. -/
theorem hidden_withoutMetrics : Hidden withoutMetrics := by
  refine hidden_of_unseen (fun kernel => ?_) (fun _ => rfl) (fun _ => rfl) fun _ _ => rfl
  exact ⟨rfl, rfl, rfl, rfl, fun _ => rfl, fun _ _ => rfl, fun _ _ _ => rfl⟩

/-- The kernel with settings from another file. -/
def withPath (path : Bytes) (kernel : Kernel) : Kernel :=
  { kernel with settings := { kernel.settings with path } }

/-- The file that the settings are from is hidden. -/
theorem hidden_withPath (path : Bytes) : Hidden (withPath path) := by
  refine hidden_of_unseen (fun kernel => ?_) (fun _ => rfl) (fun _ => rfl) fun _ _ => rfl
  exact ⟨rfl, rfl, rfl, rfl, fun _ => rfl, fun _ _ => rfl, fun _ _ _ => rfl⟩

end Kernel

namespace Replay

variable {change : Kernel → Kernel}

/-- A step over a hidden change goes the same way. -/
theorem run_hidden (hidden : Kernel.Hidden change) (replay : Replay) (step : Step) :
    (replay.mapKernel change).run step = Prod.map (mapKernel change) id (replay.run step) := by
  apply run_mapKernel hidden.containers
  intro named operation _
  exact hidden.step replay.kernel operation

/-- Steps one after another go the same way over a hidden change, up to the one that
ends the run. -/
theorem runSteps_hidden (hidden : Kernel.Hidden change) (name : Bytes) (index : Nat)
    (steps : List Step) (replay : Replay) :
    runSteps name index steps (replay.mapKernel change) =
      Prod.map (mapKernel change) id (runSteps name index steps replay) := by
  induction steps generalizing index replay with
  | nil => rfl
  | cons step rest inductionHypothesis =>
    simp only [runSteps, run_hidden hidden, Prod.map, id_eq]
    by_cases exits : (replay.run step).1.effects.exits = []
    · have unchanged : (mapKernel change (replay.run step).1).effects.exits = [] := exits
      simp only [exits, unchanged, inductionHypothesis, Prod.map, id_eq, ne_eq, not_true_eq_false,
        if_false]
    · have unchanged : (mapKernel change (replay.run step).1).effects.exits ≠ [] := exits
      simp only [exits, unchanged, ne_eq, not_false_eq_true, if_true]
      split <;> rfl

end Replay

namespace Scenario

variable {change : Kernel → Kernel}

/-- Two scenarios with the same name and the same steps, whose runs begin with
kernels that differ in a hidden change, have the same verdict and the same log. -/
theorem run_hidden (hidden : Kernel.Hidden change) {first second : Scenario}
    {metrics others : Option Metrics} (named : first.name = second.name)
    (steps : first.steps = second.steps)
    (begun : first.replay metrics = (second.replay others).mapKernel change) :
    (first.run metrics).verdict = (second.run others).verdict ∧
      (first.run metrics).log = (second.run others).log := by
  simp only [run, begun, named, steps, Replay.runSteps_hidden hidden]
  exact ⟨rfl, rfl⟩

/-- The counters decide nothing: verdict and log are those of a run without
counters. -/
theorem run_uncounted (scenario : Scenario) (metrics : Option Metrics) :
    (scenario.run metrics).verdict = (scenario.run none).verdict ∧
      (scenario.run metrics).log = (scenario.run none).log := by
  obtain ⟨verdict, log⟩ := @run_hidden _ Kernel.hidden_withoutMetrics scenario scenario none metrics
    rfl rfl rfl
  exact ⟨verdict.symm, log.symm⟩

/-- The scenario with settings from another file. -/
def relocated (scenario : Scenario) (path : Bytes) : Scenario :=
  { scenario with settings := { scenario.settings with path } }

/-- The file that the settings are from decides nothing: the verdict is the same
with settings from another one. -/
theorem run_relocated (scenario : Scenario) (path : Bytes) (metrics : Option Metrics) :
    ((scenario.relocated path).run metrics).verdict = (scenario.run metrics).verdict :=
  (@run_hidden _ (Kernel.hidden_withPath path) (scenario.relocated path) scenario metrics metrics
    rfl rfl rfl).1

end Scenario

end ContainerKernel
