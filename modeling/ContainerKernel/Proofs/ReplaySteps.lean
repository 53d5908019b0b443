import ContainerKernel.Proofs.NewContainers
import ContainerKernel.Scenario.Run

/-!
# What one step of a scenario does

A step asks the kernel for at most one operation, names the container that comes
of it, and then looks at what is expected. Looking may use a host handle for the
first time and may ask the kernel for the bytes of the string just made; it
changes neither containers, names nor effects, because those bytes are always
there. `run_cases` says this as two cases, and everything about whole runs rests
on them.

The steps that a run does are a prefix of the scenario's steps, each in the state
that the ones before it left. `executed` pairs them with these states, and
`runSteps_eq` says that the final state and the failures of a run are read off
these pairs.

Whether an expectation is met is not described here.
-/

namespace ContainerKernel

namespace Kernel

variable {kernel next : Kernel} {operation : Operation} {handle : Int}

/-- Asking for the bytes of a live string answers them and does nothing else. -/
theorem step_stringBytes {text : Bytes} (live : kernel.text? handle = some text) :
    kernel.step (.stringBytes handle) = (kernel, ⟨.ok (.bytes text), {}⟩) := by
  have found : kernel.string handle = .ok ⟨text⟩ :=
    (string_ok_iff kernel handle ⟨text⟩).mpr ((text?_eq_some_iff kernel handle text).mp live)
  simp only [step, attempt, found]
  rfl

end Kernel

namespace Replay

variable {replay named next : Replay} {step : Step} {operation : Operation}

/-! ## Naming -/

/-- The second state differs from the first in host handles used for the first
time, and in nothing else. -/
structure Extends (replay named : Replay) : Prop where
  kernel : named.kernel = replay.kernel
  refs : named.refs = replay.refs
  effects : named.effects = replay.effects
  hosts : replay.hosts <+: named.hosts

theorem Extends.refl (replay : Replay) : Extends replay replay :=
  ⟨rfl, rfl, rfl, List.prefix_rfl⟩

/-- Naming a host handle adds it at most. -/
theorem host_extends (replay : Replay) (name : Bytes) : Extends replay (replay.host name).1 := by
  unfold host
  split
  · exact .refl replay
  · exact ⟨rfl, rfl, rfl, List.prefix_append _ _⟩

/-- The handle of a name is the one in the table of names. -/
theorem handle_ok_iff (replay : Replay) (name : Bytes) (handle : Int) :
    replay.handle name = .ok handle ↔ replay.refs.lookup name = some handle := by
  unfold Replay.handle
  cases replay.refs.lookup name <;> simp

/-- Looking up what a description says names a host handle at most. -/
theorem lookUp_extends {meaning : Denotation} {value : Value}
    (found : replay.lookUp meaning = .ok (named, value)) : Extends replay named := by
  cases meaning with
  | plain plain =>
    cases found
    exact .refl replay
  | list name | string name =>
    simp only [lookUp] at found
    cases known : replay.handle name with
    | error mismatch =>
      rw [known] at found
      cases found
    | ok handle =>
      rw [known] at found
      cases found
      exact .refl replay
  | host name =>
    have same : replay.host name = (named, value) := Except.ok.inj found
    have extended : Extends replay (replay.host name).1 := host_extends replay name
    rw [same] at extended
    exact extended
  | unusable text => cases found

/-- Finding the value of a description that may be missing names a host handle at
most. -/
theorem valueOrNil_extends {spec : Option ValueSpec} {value : Value}
    (found : replay.valueOrNil spec = .ok (named, value)) : Extends replay named := by
  cases spec with
  | none =>
    cases found
    exact .refl replay
  | some spec => exact lookUp_extends found

/-! ## The operation that a step asks for -/

/-- The ways in which a step comes to an operation. A name has to be known, and
no name of the step is looked at that its operation does not use. -/
inductive Asked (replay : Replay) (step : Step) : Replay → Operation → Prop where
  | listNew (does : step.operation = .listNew) : Asked replay step replay .listNew
  | listAppend {named : Replay} {handle : Int} {value : Value}
      (does : step.operation = .listAppend)
      (target : replay.refs.lookup step.target = some handle)
      (found : replay.valueOrNil step.value = .ok (named, value)) :
      Asked replay step named (.listAppend handle (some value))
  | listAt {handle : Int} (does : step.operation = .listAt)
      (target : replay.refs.lookup step.target = some handle) :
      Asked replay step replay (.listAt handle step.index)
  | listLength {handle : Int} (does : step.operation = .listLength)
      (target : replay.refs.lookup step.target = some handle) :
      Asked replay step replay (.listLength handle)
  | stringNew (does : step.operation = .stringNew) :
      Asked replay step replay (.stringNew step.text)
  | stringAdd {handle : Int} (does : step.operation = .stringAdd)
      (target : replay.refs.lookup step.target = some handle) :
      Asked replay step replay (.stringAdd handle step.text)
  | stringConcat {handle other : Int} (does : step.operation = .stringConcat)
      (target : replay.refs.lookup step.target = some handle)
      (second : replay.refs.lookup step.other = some other) :
      Asked replay step replay (.stringConcat handle other)
  | stringLength {handle : Int} (does : step.operation = .stringLength)
      (target : replay.refs.lookup step.target = some handle) :
      Asked replay step replay (.stringLength handle)
  | stringAt {handle : Int} (does : step.operation = .stringAt)
      (target : replay.refs.lookup step.target = some handle) :
      Asked replay step replay (.stringAt handle step.index)

/-- An operation is asked for in one of the ways of `Asked`. -/
theorem asked_of_operation (found : replay.operation step = .ok (named, operation)) :
    Asked replay step named operation := by
  unfold Replay.operation at found
  cases does : step.operation with
  | listNew =>
    rw [does] at found
    cases found
    exact .listNew does
  | listAppend =>
    rw [does] at found
    obtain ⟨handle, target, following⟩ := Except.bind_ok found
    obtain ⟨⟨other, value⟩, described, asked⟩ := Except.bind_ok following
    cases asked
    exact .listAppend does ((handle_ok_iff replay _ handle).mp target) described
  | listAt =>
    rw [does] at found
    obtain ⟨handle, target, asked⟩ := Except.bind_ok found
    cases asked
    exact .listAt does ((handle_ok_iff replay _ handle).mp target)
  | listLength =>
    rw [does] at found
    obtain ⟨handle, target, asked⟩ := Except.bind_ok found
    cases asked
    exact .listLength does ((handle_ok_iff replay _ handle).mp target)
  | stringNew =>
    rw [does] at found
    cases found
    exact .stringNew does
  | stringAdd =>
    rw [does] at found
    obtain ⟨handle, target, asked⟩ := Except.bind_ok found
    cases asked
    exact .stringAdd does ((handle_ok_iff replay _ handle).mp target)
  | stringConcat =>
    rw [does] at found
    obtain ⟨handle, target, following⟩ := Except.bind_ok found
    obtain ⟨other, second, asked⟩ := Except.bind_ok following
    cases asked
    exact .stringConcat does ((handle_ok_iff replay _ handle).mp target)
      ((handle_ok_iff replay _ other).mp second)
  | stringLength =>
    rw [does] at found
    obtain ⟨handle, target, asked⟩ := Except.bind_ok found
    cases asked
    exact .stringLength does ((handle_ok_iff replay _ handle).mp target)
  | stringAt =>
    rw [does] at found
    obtain ⟨handle, target, asked⟩ := Except.bind_ok found
    cases asked
    exact .stringAt does ((handle_ok_iff replay _ handle).mp target)
  | unknown name =>
    rw [does] at found
    cases found

/-- Asking for an operation names a host handle at most. -/
theorem Asked.extends (asked : Asked replay step named operation) : Extends replay named := by
  cases asked with
  | listAppend does target found => exact valueOrNil_extends found
  | listNew | listAt | listLength | stringNew | stringAdd | stringConcat | stringLength
  | stringAt => exact .refl replay

/-! ## Looking at what is expected -/

/-- Comparing a value names a host handle at most. -/
theorem checkValue_extends (replay : Replay) (step : Step) (reply : Reply) :
    Extends replay (replay.checkValue step reply).1 := by
  unfold checkValue
  split
  · exact .refl replay
  · next spec expected =>
    split
    · exact .refl replay
    · next named want found =>
      have extended : Extends replay named := lookUp_extends found
      dsimp only
      split <;> exact extended

/-- The text of a new string can be read back: the reply names a string unless a
list was made. -/
def Readable (kernel : Kernel) (step : Step) (reply : Reply) : Prop :=
  ∀ handle, reply = .handle handle → step.operation ≠ .listNew →
    ∃ text, kernel.text? handle = some text

/-- Asking for a text that is there answers it and leaves the state as it is. -/
theorem perform_stringBytes {handle : Int} {text : Bytes}
    (live : replay.kernel.text? handle = some text) :
    replay.perform (.stringBytes handle) = (replay, .ok (.bytes text)) := by
  simp only [perform, Kernel.step_stringBytes live, Effects.append_empty]

/-- Reading back a text that is there changes nothing at all. -/
theorem checkText_same {reply : Reply} (readable : Readable replay.kernel step reply) :
    (replay.checkText step reply).1 = replay := by
  unfold checkText
  split
  · rfl
  · next want expected =>
    split
    · next handle =>
      split
      · rfl
      · next makesString =>
        obtain ⟨text, live⟩ := readable handle rfl makesString
        rw [perform_stringBytes live]
    · rfl

/-- Looking at a reply names a host handle at most. -/
theorem checkReply_extends {reply : Reply} (readable : Readable replay.kernel step reply) :
    Extends replay (replay.checkReply step reply).1 := by
  have compared : Extends replay (replay.checkValue step reply).1 :=
    checkValue_extends replay step reply
  unfold checkReply
  split
  · next named mismatch valued =>
    rw [valued] at compared
    exact compared
  · next named valued =>
    rw [valued] at compared
    split
    · exact compared
    · have unread : (named.checkText step reply).1 = named := by
        refine checkText_same ?_
        rw [compared.kernel]
        exact readable
      split
      · next read mismatch texted =>
        rw [texted] at unread
        rw [show read = named from unread]
        exact compared
      · next read texted =>
        rw [texted] at unread
        rw [show read = named from unread]
        exact compared

/-- Looking at what came of a step names a host handle at most. -/
theorem checkResult_extends {result : Except Failure Reply}
    (readable : ∀ reply, result = .ok reply → Readable replay.kernel step reply) :
    Extends replay (replay.checkResult step result).1 := by
  unfold checkResult
  split
  · exact .refl replay
  · cases result with
    | error failure => exact .refl replay
    | ok reply => exact checkReply_extends (readable reply rfl)

/-! ## One step -/

/-- The names after a result: a new container takes over its name. -/
def boundRefs (refs : List (Bytes × Int)) (ref : Bytes) :
    Except Failure Reply → List (Bytes × Int)
  | .ok (.handle handle) => (ref, handle) :: refs
  | _ => refs

/-- What a step that comes to an operation leaves: the kernel after that one
operation, its effects and no others, and the name of a new container. -/
structure Performed (replay : Replay) (step : Step) (named : Replay) (operation : Operation)
    (next : Replay) : Prop where
  kernel : next.kernel = (replay.kernel.step operation).1
  effects : next.effects = replay.effects ++ (replay.kernel.step operation).2.effects
  refs : next.refs = boundRefs replay.refs step.ref (replay.kernel.step operation).2.result
  hosts : named.hosts <+: next.hosts

/-- Naming what came of an operation changes the names only. -/
theorem bind_eq (replay : Replay) (ref : Bytes) (result : Except Failure Reply) :
    replay.bind ref result = { replay with refs := boundRefs replay.refs ref result } := by
  cases result with
  | error failure => rfl
  | ok reply => cases reply <;> rfl

/-- What an operation that a step asks for answers can be read back. -/
theorem readable_of_asked {reply : Reply} (asked : Asked replay step named operation)
    (answered : (replay.kernel.step operation).2.result = .ok reply) :
    Readable (replay.kernel.step operation).1 step reply := by
  rintro handle rfl notList
  obtain isList | makes := Kernel.makes_of_handle answered
  · subst isList
    cases asked
    contradiction
  · obtain ⟨text, _, live⟩ := Kernel.text?_made makes answered
    exact ⟨text, live⟩

/-- A step comes to no operation and changes nothing, or the kernel does the one
operation that the step asks for. -/
theorem run_cases (replay : Replay) (step : Step) :
    (∃ mismatch, replay.operation step = .error mismatch ∧
      replay.run step = (replay, some mismatch)) ∨
    ∃ named operation, replay.operation step = .ok (named, operation) ∧
      Performed replay step named operation (replay.run step).1 := by
  unfold Replay.run
  cases found : replay.operation step with
  | error mismatch => exact .inl ⟨mismatch, rfl, rfl⟩
  | ok answer =>
    obtain ⟨named, operation⟩ := answer
    refine .inr ⟨named, operation, rfl, ?_⟩
    have asked : Asked replay step named operation := asked_of_operation found
    have extended : Extends replay named := asked.extends
    have looked := @checkResult_extends ((named.perform operation).1.bind step.ref
      (named.perform operation).2) step (named.perform operation).2 (by
        intro reply answered
        simp only [bind_eq, perform, extended.kernel] at answered ⊢
        exact readable_of_asked asked answered)
    refine ⟨?_, ?_, ?_, ?_⟩
    · rw [looked.kernel, bind_eq]
      simp only [perform, extended.kernel]
    · rw [looked.effects, bind_eq]
      simp only [perform, extended.kernel, extended.effects]
    · rw [looked.refs, bind_eq]
      simp only [perform, extended.kernel, extended.refs]
    · have unbound : ((named.perform operation).1.bind step.ref
          (named.perform operation).2).hosts = named.hosts := by rw [bind_eq]; rfl
      rw [← unbound]
      exact looked.hosts

/-- The settings of the kernel are fixed for a whole run. -/
@[simp] theorem settings_run (replay : Replay) (step : Step) :
    (replay.run step).1.kernel.settings = replay.kernel.settings := by
  obtain ⟨mismatch, _, same⟩ | ⟨named, operation, _, performed⟩ := run_cases replay step
  · rw [same]
  · rw [performed.kernel, Kernel.settings_step]

/-- The misuse that the operation is which a step asks for, if it is one. -/
def misuse? (replay : Replay) (step : Step) : Option Misuse :=
  match replay.operation step with
  | .error _ => none
  | .ok (_, operation) =>
    match replay.kernel.attempt operation with
    | .ok _ => none
    | .error misuse => some misuse

/-- The effects that the misuse of a step has; a step that is none has none. -/
def reported (replay : Replay) (step : Step) : Effects :=
  match replay.misuse? step with
  | none => {}
  | some misuse => (replay.kernel.report misuse).2.effects

/-- A step has the effects of its misuse and no others. What is looked at after
the operation has none. -/
theorem effects_run (replay : Replay) (step : Step) :
    (replay.run step).1.effects = replay.effects ++ replay.reported step := by
  obtain ⟨mismatch, found, same⟩ | ⟨named, operation, found, performed⟩ := run_cases replay step
  · simp only [same, reported, misuse?, found, Effects.append_empty]
  · rw [performed.effects]
    simp only [reported, misuse?, found, Kernel.step]
    cases replay.kernel.attempt operation <;> rfl

/-! ## Whole runs -/

/-- The state that steps one after another leave, when none of them ends the
run. -/
def after (replay : Replay) (steps : List Step) : Replay :=
  steps.foldl (fun reached step => (reached.run step).1) replay

@[simp] theorem after_nil (replay : Replay) : replay.after [] = replay := rfl

@[simp] theorem after_cons (replay : Replay) (step : Step) (rest : List Step) :
    replay.after (step :: rest) = (replay.run step).1.after rest := rfl

/-- Further steps go on from the state that the first ones leave. -/
theorem after_append (replay : Replay) (first second : List Step) :
    replay.after (first ++ second) = (replay.after first).after second :=
  List.foldl_append

/-- The settings of the kernel stay what they are over a whole run. -/
@[simp] theorem settings_after (replay : Replay) (steps : List Step) :
    (replay.after steps).kernel.settings = replay.kernel.settings := by
  induction steps generalizing replay with
  | nil => rfl
  | cons step rest inductionHypothesis => rw [after_cons, inductionHypothesis, settings_run]

/-- The steps that a run does, each with the state in which it is done: all steps
up to the first one that calls for an exit. -/
def executed : Replay → List Step → List (Replay × Step)
  | _, [] => []
  | replay, step :: rest =>
    (replay, step) ::
      if (replay.run step).1.effects.exits = [] then (replay.run step).1.executed rest else []

/-- What goes wrong in steps that are numbered from the given number on. -/
def failuresFrom (index : Nat) (stages : List (Replay × Step)) : List StepFailure :=
  (stages.zipIdx index).filterMap fun (stage, number) =>
    (stage.1.run stage.2).2.map fun mismatch => ⟨number, stage.2.operation, mismatch⟩

/-- The failures of steps are that of the first step, if it fails, and those of the
others. -/
theorem failuresFrom_cons (index : Nat) (stage : Replay × Step) (rest : List (Replay × Step)) :
    failuresFrom index (stage :: rest) =
      ((stage.1.run stage.2).2.toList.map fun mismatch =>
        ⟨index, stage.2.operation, mismatch⟩) ++ failuresFrom (index + 1) rest := by
  simp only [failuresFrom, List.zipIdx_cons, List.filterMap_cons]
  cases (stage.1.run stage.2).2 <;> rfl

/-- A run that calls for an exit with its first step does no other. -/
theorem executed_stop {rest : List Step} (exits : (replay.run step).1.effects.exits ≠ []) :
    replay.executed (step :: rest) = [(replay, step)] := by
  simp only [executed, if_neg exits]

/-- A run whose first step calls for no exit goes on from what this step leaves. -/
theorem executed_go {rest : List Step} (exits : (replay.run step).1.effects.exits = []) :
    replay.executed (step :: rest) =
      (replay, step) :: (replay.run step).1.executed rest := by
  simp only [executed, if_pos exits]

/-- The state and the failures of a run are those of the steps that it does; the
one thing that it adds is the log line about steps that it leaves out. -/
theorem runSteps_eq (name : Bytes) (index : Nat) (steps : List Step) (replay : Replay) :
    runSteps name index steps replay =
      (if (replay.executed steps).length < steps.length then
        (replay.after (steps.take (replay.executed steps).length)).log
          (earlyExitLine name (index + (replay.executed steps).length - 1)
            (steps.length - (replay.executed steps).length))
      else replay.after (steps.take (replay.executed steps).length),
      failuresFrom index (replay.executed steps)) := by
  induction steps generalizing index replay with
  | nil => rfl
  | cons step rest inductionHypothesis =>
    by_cases exits : (replay.run step).1.effects.exits = []
    · have later := inductionHypothesis (index + 1) (replay.run step).1
      have numbered : ∀ count : Nat, index + 1 + count - 1 = index + (count + 1) - 1 := by omega
      simp only [runSteps, exits, ne_eq, not_true_eq_false, if_false, later, executed_go exits,
        failuresFrom_cons, List.length_cons, List.take_succ_cons, after_cons, numbered,
        Nat.add_lt_add_iff_right, Nat.add_sub_add_right]
    · have alone : failuresFrom index [(replay, step)] =
          (replay.run step).2.toList.map fun mismatch => ⟨index, step.operation, mismatch⟩ := by
        rw [failuresFrom_cons]
        exact List.append_nil _
      have leftOut : 1 < rest.length + 1 ↔ ¬ rest = [] := by
        rw [← List.length_eq_zero_iff]
        omega
      simp only [runSteps, exits, ne_eq, not_false_eq_true, if_true, executed_stop exits, alone,
        List.length_cons, List.length_nil, Nat.zero_add, List.take_succ_cons, List.take_zero,
        after_cons, after_nil, leftOut, ite_not, Nat.add_sub_cancel]

/-- The steps that a run does are the first of its steps. -/
theorem executed_steps (replay : Replay) (steps : List Step) :
    (replay.executed steps).map Prod.snd = steps.take (replay.executed steps).length := by
  induction steps generalizing replay with
  | nil => rfl
  | cons step rest inductionHypothesis =>
    by_cases exits : (replay.run step).1.effects.exits = []
    · rw [executed_go exits, List.map_cons, inductionHypothesis, List.length_cons,
        List.take_succ_cons]
    · rw [executed_stop exits]
      rfl

/-- Each step that a run does is done in the state that the ones before it leave. -/
theorem executed_state {steps : List Step} {index : Nat} {before : Replay}
    (stage : (replay.executed steps)[index]? = some (before, step)) :
    before = replay.after (steps.take index) ∧ steps[index]? = some step := by
  induction steps generalizing replay index with
  | nil => cases stage
  | cons first rest inductionHypothesis =>
    cases index with
    | zero =>
      cases stage
      exact ⟨rfl, rfl⟩
    | succ index =>
      by_cases exits : (replay.run first).1.effects.exits = []
      · rw [executed_go exits, List.getElem?_cons_succ] at stage
        exact inductionHypothesis stage
      · rw [executed_stop exits] at stage
        cases stage

/-- A run does all steps as long as none of them calls for an exit, and goes on
with further steps from the state that they leave. -/
theorem executed_append {first : List Step}
    (free : ∀ stage ∈ replay.executed first, (stage.1.run stage.2).1.effects.exits = [])
    (second : List Step) :
    replay.executed (first ++ second) =
      replay.executed first ++ (replay.after first).executed second := by
  induction first generalizing replay with
  | nil => rfl
  | cons step rest inductionHypothesis =>
    have exits : (replay.run step).1.effects.exits = [] :=
      free (replay, step) List.mem_cons_self
    have later : ∀ stage ∈ (replay.run step).1.executed rest,
        (stage.1.run stage.2).1.effects.exits = [] := by
      intro stage member
      apply free
      rw [executed_go exits]
      exact List.mem_cons_of_mem _ member
    rw [List.cons_append, executed_go exits, executed_go exits, inductionHypothesis later]
    rfl

/-- A run of which no step calls for an exit does all of its steps. -/
theorem executed_all {steps : List Step}
    (free : ∀ stage ∈ replay.executed steps, (stage.1.run stage.2).1.effects.exits = []) :
    (replay.executed steps).map Prod.snd = steps := by
  induction steps generalizing replay with
  | nil => rfl
  | cons step rest inductionHypothesis =>
    have exits : (replay.run step).1.effects.exits = [] :=
      free (replay, step) List.mem_cons_self
    rw [executed_go exits] at free ⊢
    rw [List.map_cons, inductionHypothesis fun stage member =>
      free stage (List.mem_cons_of_mem _ member)]

/-! ## The first misuse of a run -/

/-- A step that is no misuse has no effects. -/
theorem effects_run_of_no_misuse (clean : replay.misuse? step = none) :
    (replay.run step).1.effects = replay.effects := by
  rw [effects_run, reported, clean]
  exact replay.effects.append_empty

/-- The first of the steps that is a misuse, with the steps before and behind it.
Nothing is said about what the run does behind it. -/
structure FirstMisuse (replay : Replay) (steps done : List Step) (step : Step)
    (rest : List Step) (misuse : Misuse) : Prop where
  split : steps = done ++ step :: rest
  clean : ∀ stage ∈ replay.executed done, stage.1.misuse? stage.2 = none
  misused : (replay.after done).misuse? step = some misuse

/-- Steps that are no misuse leave the effects as they were, each of them and all
together. -/
theorem effects_of_clean {done : List Step} (fresh : replay.effects.exits = [])
    (clean : ∀ stage ∈ replay.executed done, stage.1.misuse? stage.2 = none) :
    (replay.after done).effects = replay.effects ∧
      ∀ stage ∈ replay.executed done, (stage.1.run stage.2).1.effects = replay.effects := by
  induction done generalizing replay with
  | nil => exact ⟨rfl, List.forall_mem_nil _⟩
  | cons step rest inductionHypothesis =>
    have same : (replay.run step).1.effects = replay.effects :=
      effects_run_of_no_misuse (clean (replay, step) List.mem_cons_self)
    have exits : (replay.run step).1.effects.exits = [] := by rw [same, fresh]
    rw [executed_go exits] at clean ⊢
    obtain ⟨reached, each⟩ := inductionHypothesis exits fun stage member =>
      clean stage (List.mem_cons_of_mem _ member)
    rw [same] at reached each
    exact ⟨reached, List.forall_mem_cons.mpr ⟨same, each⟩⟩

/-- Steps that are no misuse call for no exit. -/
theorem exits_of_clean {done : List Step} (fresh : replay.effects.exits = [])
    (clean : ∀ stage ∈ replay.executed done, stage.1.misuse? stage.2 = none) :
    ∀ stage ∈ replay.executed done, (stage.1.run stage.2).1.effects.exits = [] := by
  intro stage member
  rw [(effects_of_clean fresh clean).2 stage member, fresh]

/-- A run does no step that is a misuse, or one of them is the first.

Induct over the steps with the state general. A first step that is no misuse
leaves the effects alone, so that the run goes on with the rest. -/
theorem clean_or_first_misuse (fresh : replay.effects.exits = []) (steps : List Step) :
    (∀ stage ∈ replay.executed steps, stage.1.misuse? stage.2 = none) ∨
      ∃ done step rest misuse, FirstMisuse replay steps done step rest misuse := by
  induction steps generalizing replay with
  | nil => exact .inl (List.forall_mem_nil _)
  | cons step rest inductionHypothesis =>
    cases misused : replay.misuse? step with
    | some misuse =>
      exact .inr ⟨[], step, rest, misuse, rfl, List.forall_mem_nil _, misused⟩
    | none =>
      have same : (replay.run step).1.effects = replay.effects :=
        effects_run_of_no_misuse misused
      have exits : (replay.run step).1.effects.exits = [] := by rw [same, fresh]
      obtain clean | ⟨done, later, behind, misuse, first⟩ := inductionHypothesis exits
      · rw [executed_go exits]
        exact .inl (List.forall_mem_cons.mpr ⟨misused, clean⟩)
      · refine .inr ⟨step :: done, later, behind, misuse, ?_, ?_, first.misused⟩
        · rw [first.split, List.cons_append]
        · rw [executed_go exits]
          exact List.forall_mem_cons.mpr ⟨misused, first.clean⟩

/-- A run does the steps before the first misuse, then that step, and then what
the policy lets it do. -/
theorem FirstMisuse.executed_eq {steps done rest : List Step} {misuse : Misuse}
    (first : FirstMisuse replay steps done step rest misuse) (fresh : replay.effects.exits = [])
    (later : List Step) :
    replay.executed (done ++ step :: later) =
      replay.executed done ++ (replay.after done).executed (step :: later) :=
  executed_append (exits_of_clean fresh first.clean) (step :: later)

/-- All steps before the first misuse are done. -/
theorem FirstMisuse.done_length {steps done rest : List Step} {misuse : Misuse}
    (first : FirstMisuse replay steps done step rest misuse)
    (fresh : replay.effects.exits = []) : (replay.executed done).length = done.length := by
  have all : (replay.executed done).map Prod.snd = done :=
    executed_all (exits_of_clean fresh first.clean)
  rw [← List.length_map, all]

end Replay

end ContainerKernel
