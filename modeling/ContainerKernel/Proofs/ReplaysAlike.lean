import ContainerKernel.Proofs.ReplaySteps
import ContainerKernel.Proofs.UnseenChanges

/-!
# Steps over a changed kernel

A step of a scenario sees the kernel through the answer to its operation and,
where a text is compared, through the bytes of the string just made. Over a
changed kernel that gives the same answer the step goes the same way: it leaves
the change of what it would have left, and the same thing is wrong with it.
`run_mapKernel` is this law, and `executed_mapKernel` is the law for whole runs.
-/

namespace ContainerKernel

namespace Replay

variable {replay named : Replay} {step : Step} {operation : Operation} {change : Kernel → Kernel}

/-- The same names and effects over a changed kernel. -/
def mapKernel (change : Kernel → Kernel) (replay : Replay) : Replay :=
  { replay with kernel := change replay.kernel }

/-- Over a changed kernel a host handle is named alike. -/
theorem host_mapKernel (replay : Replay) (change : Kernel → Kernel) (name : Bytes) :
    (replay.mapKernel change).host name = Prod.map (mapKernel change) id (replay.host name) := by
  unfold host mapKernel
  dsimp only
  split <;> rfl

/-- Over a changed kernel a description is looked up alike. -/
theorem lookUp_mapKernel (replay : Replay) (change : Kernel → Kernel) (meaning : Denotation) :
    (replay.mapKernel change).lookUp meaning =
      (replay.lookUp meaning).map (Prod.map (mapKernel change) id) := by
  have handles : ∀ name, (replay.mapKernel change).handle name = replay.handle name := fun _ => rfl
  cases meaning with
  | plain value => rfl
  | list name | string name =>
    simp only [lookUp, handles]
    cases replay.handle name <;> rfl
  | host name =>
    simp only [lookUp, host_mapKernel]
    rfl
  | unusable text => rfl

/-- Over a changed kernel a step comes to the same operation. -/
theorem operation_mapKernel (replay : Replay) (change : Kernel → Kernel) (step : Step) :
    (replay.mapKernel change).operation step =
      (replay.operation step).map (Prod.map (mapKernel change) id) := by
  have handles : ∀ name, (replay.mapKernel change).handle name = replay.handle name := fun _ => rfl
  unfold Replay.operation
  cases step.operation with
  | listNew | stringNew | unknown => rfl
  | listAppend =>
    simp only [handles]
    cases replay.handle step.target with
    | error mismatch => rfl
    | ok handle =>
      cases step.value with
      | none => rfl
      | some spec =>
        simp only [valueOrNil, lookUp_mapKernel]
        cases replay.lookUp spec.meaning <;> rfl
  | listAt | listLength | stringAdd | stringLength | stringAt =>
    simp only [handles]
    cases replay.handle step.target <;> rfl
  | stringConcat =>
    simp only [handles]
    cases replay.handle step.target with
    | error mismatch => rfl
    | ok handle => cases replay.handle step.other <;> rfl

/-! ## Looking at what is expected -/

/-- Over a changed kernel a value is compared alike. -/
theorem checkValue_mapKernel (replay : Replay) (change : Kernel → Kernel) (step : Step)
    (reply : Reply) :
    (replay.mapKernel change).checkValue step reply =
      Prod.map (mapKernel change) id (replay.checkValue step reply) := by
  unfold checkValue
  cases step.expect with
  | none => rfl
  | some spec =>
    simp only [lookUp_mapKernel]
    cases replay.lookUp spec.meaning with
    | error mismatch => rfl
    | ok answer =>
      obtain ⟨named, want⟩ := answer
      by_cases same : Value.equal (replyValue? reply) (some want) = true
      · simp only [Except.map, Prod.map, id_eq, if_pos same]
      · simp only [Except.map, Prod.map, id_eq, if_neg same]

/-- Over a changed kernel a text that is there is read back and compared alike. -/
theorem checkText_mapKernel {reply : Reply} (readable : Readable replay.kernel step reply)
    (kept : (change replay.kernel).containers = replay.kernel.containers) :
    (replay.mapKernel change).checkText step reply =
      Prod.map (mapKernel change) id (replay.checkText step reply) := by
  unfold checkText
  cases step.expectText with
  | none => rfl
  | some want =>
    cases reply with
    | handle handle =>
      dsimp only
      split
      · rfl
      · next makesString =>
        obtain ⟨text, live⟩ := readable handle rfl makesString
        have changed : (replay.mapKernel change).kernel.text? handle = some text := by
          rw [← live]
          unfold Kernel.text? Kernel.container?
          rw [show (replay.mapKernel change).kernel = change replay.kernel from rfl, kept]
        rw [perform_stringBytes live, perform_stringBytes changed]
        rfl
    | done | value | length | items | byte | bytes => rfl

/-- Over a changed kernel a reply is looked at alike. -/
theorem checkReply_mapKernel {reply : Reply} (readable : Readable replay.kernel step reply)
    (kept : (change replay.kernel).containers = replay.kernel.containers) :
    (replay.mapKernel change).checkReply step reply =
      Prod.map (mapKernel change) id (replay.checkReply step reply) := by
  unfold checkReply
  rw [checkValue_mapKernel]
  have extended : Extends replay (replay.checkValue step reply).1 :=
    checkValue_extends replay step reply
  cases valued : replay.checkValue step reply with
  | mk named mismatch =>
    rw [valued] at extended
    cases mismatch with
    | some mismatch => rfl
    | none =>
      have text : (named.mapKernel change).checkText step reply =
          Prod.map (mapKernel change) id (named.checkText step reply) := by
        apply checkText_mapKernel
        · rw [extended.kernel]
          exact readable
        · rw [extended.kernel]
          exact kept
      simp only [Prod.map, id_eq] at text ⊢
      cases (numberMismatch? step reply).or (byteMismatch? step reply) with
      | some mismatch => rfl
      | none =>
        simp only [text]
        cases named.checkText step reply with
        | mk read mismatch => cases mismatch <;> rfl

/-- Over a changed kernel what came of a step is looked at alike. -/
theorem checkResult_mapKernel {result : Except Failure Reply}
    (readable : ∀ reply, result = .ok reply → Readable replay.kernel step reply)
    (kept : (change replay.kernel).containers = replay.kernel.containers) :
    (replay.mapKernel change).checkResult step result =
      Prod.map (mapKernel change) id (replay.checkResult step result) := by
  unfold checkResult
  cases resultMismatch? step.expectError result with
  | some mismatch => rfl
  | none =>
    cases result with
    | error failure => rfl
    | ok reply => exact checkReply_mapKernel (readable reply rfl) kept

/-! ## Steps and runs -/

/-- Over a changed kernel that answers the step's operation alike, the step leaves
the change of what it leaves, and the same thing is wrong with it. -/
theorem run_mapKernel (kept : ∀ kernel, (change kernel).containers = kernel.containers)
    (alike : ∀ named operation, replay.operation step = .ok (named, operation) →
      (change replay.kernel).step operation =
        (change (replay.kernel.step operation).1, (replay.kernel.step operation).2)) :
    (replay.mapKernel change).run step = Prod.map (mapKernel change) id (replay.run step) := by
  unfold Replay.run
  rw [operation_mapKernel]
  cases found : replay.operation step with
  | error mismatch => rfl
  | ok answer =>
    obtain ⟨named, operation⟩ := answer
    have asked : Asked replay step named operation := asked_of_operation found
    have extended : Extends replay named := asked.extends
    have performed : (named.mapKernel change).perform operation =
        Prod.map (mapKernel change) id (named.perform operation) := by
      have answered := alike named operation found
      rw [← extended.kernel] at answered
      simp only [perform, mapKernel, answered]
      rfl
    have bound : ∀ reached result, (mapKernel change reached).bind step.ref result =
        mapKernel change (reached.bind step.ref result) := by
      intro reached result
      rw [bind_eq, bind_eq]
      rfl
    simp only [Except.map, Prod.map, id_eq] at performed ⊢
    rw [performed]
    dsimp only
    rw [bound]
    apply checkResult_mapKernel
    · intro reply answered
      rw [bind_eq]
      simp only [perform, extended.kernel] at answered ⊢
      exact readable_of_asked asked answered
    · exact kept _

/-- An unseen change makes a misuse of no step, and hides none. -/
theorem misuse?_mapKernel (unseen : Kernel.Unseen change replay.kernel) (step : Step) :
    (replay.mapKernel change).misuse? step = replay.misuse? step := by
  unfold misuse?
  rw [operation_mapKernel]
  cases replay.operation step with
  | error mismatch => rfl
  | ok answer =>
    obtain ⟨named, operation⟩ := answer
    have attempted : (replay.mapKernel change).kernel.attempt operation =
        (replay.kernel.attempt operation).map (Prod.map change id) :=
      Kernel.attempt_unseen unseen operation
    simp only [Except.map, Prod.map, id_eq, attempted]
    cases replay.kernel.attempt operation <;> rfl

/-- A step that is no misuse does not see an unseen change. -/
theorem run_mapKernel_of_clean (unseen : ∀ kernel, Kernel.Unseen change kernel)
    (clean : replay.misuse? step = none) :
    (replay.mapKernel change).run step = Prod.map (mapKernel change) id (replay.run step) := by
  apply run_mapKernel fun kernel => (unseen kernel).containers
  intro named operation found
  simp only [misuse?, found] at clean
  split at clean
  · next answer succeeded => exact Kernel.step_unseen (unseen replay.kernel) succeeded
  · cases clean

/-- Over a changed kernel that answers the operation of every step alike, a run
does the same steps in changed states. -/
theorem executed_mapKernel {steps : List Step}
    (alike : ∀ stage ∈ replay.executed steps,
      ((stage.1.mapKernel change).run stage.2) =
        Prod.map (mapKernel change) id (stage.1.run stage.2)) :
    (replay.mapKernel change).executed steps =
      (replay.executed steps).map (Prod.map (mapKernel change) id) := by
  induction steps generalizing replay with
  | nil => rfl
  | cons step rest inductionHypothesis =>
    have first := alike (replay, step) List.mem_cons_self
    have state : ((replay.mapKernel change).run step).1 = mapKernel change (replay.run step).1 := by
      rw [first]
      rfl
    by_cases exits : (replay.run step).1.effects.exits = []
    · have changed : ((replay.mapKernel change).run step).1.effects.exits = [] := by
        rw [state]
        exact exits
      rw [executed_go exits] at alike
      rw [executed_go exits, executed_go changed, state, inductionHypothesis fun stage member =>
        alike stage (List.mem_cons_of_mem _ member)]
      rfl
    · have changed : ((replay.mapKernel change).run step).1.effects.exits ≠ [] := by
        rw [state]
        exact exits
      rw [executed_stop exits, executed_stop changed]
      rfl

/-- Steps that are no misuse leave the change of what they leave. -/
theorem after_mapKernel (unseen : ∀ kernel, Kernel.Unseen change kernel) {steps : List Step}
    (fresh : replay.effects.exits = [])
    (clean : ∀ stage ∈ replay.executed steps, stage.1.misuse? stage.2 = none) :
    (replay.mapKernel change).after steps = (replay.after steps).mapKernel change := by
  induction steps generalizing replay with
  | nil => rfl
  | cons step rest inductionHypothesis =>
    have first : replay.misuse? step = none := clean (replay, step) List.mem_cons_self
    have exits : (replay.run step).1.effects.exits = [] := by
      rw [effects_run_of_no_misuse first, fresh]
    rw [executed_go exits] at clean
    rw [after_cons, after_cons, run_mapKernel_of_clean unseen first]
    exact inductionHypothesis exits fun stage member =>
      clean stage (List.mem_cons_of_mem _ member)

end Replay

end ContainerKernel
