import ContainerKernel.Machine
import ContainerKernel.Proofs.KernelSteps

/-!
# How the calls of a machine end

A call goes through actions that look, change and raise, and each of them leaves a state
whether it fails or not. `Ends` says how an action ends: what holds of the value and of the
progress that it leaves, and what holds of the failure and of the progress that it leaves
then. Each action has one rule, which says what has to hold before it, with one premise for
each way in which it can end; a sequence of two actions ends as the second one does in the
state of the first.

From these rules `ends_call` follows for every operation. A call that fails has raised one
misuse and has done nothing else at all: it leaves what raising that misuse in the very
beginning would have left. A call that succeeds has left no trace outside.

What a call that succeeds answers, and what it does to the tables, is not said here.
-/

namespace ContainerKernel

namespace Machine

/-! ## Rules for actions -/

section Rules

variable {α β : Type} {progress : Progress} {returned : α → Progress → Prop}
  {failed : Failure → Progress → Prop}

/-- The action ends with a value and a progress of which `returned` holds, or with a failure
and a progress of which `failed` holds. -/
def Ends (action : Action α) (progress : Progress) (returned : α → Progress → Prop)
    (failed : Failure → Progress → Prop) : Prop :=
  match action.run progress with
  | .ok value left => returned value left
  | .error failure left => failed failure left

/-- A sequence ends as its second action does where the first one has left off, or fails
with the first one. -/
theorem ends_bind {first : Action β} {next : β → Action α}
    (ends : Ends first progress (fun value left => Ends (next value) left returned failed)
      failed) :
    Ends (first >>= next) progress returned failed := by
  unfold Ends at ends ⊢
  rw [EStateM.run_bind]
  cases ended : first.run progress with
  | ok value left =>
    rw [ended] at ends
    exact ends
  | error failure left =>
    rw [ended] at ends
    exact ends

theorem ends_pure {value : α} (holds : returned value progress) :
    Ends (pure value) progress returned failed :=
  holds

/-- Looking at the machine leaves it as it is. -/
theorem ends_look {view : Machine → α} (holds : returned (view progress.machine) progress) :
    Ends (look view) progress returned failed :=
  holds

/-- A change is made and does not fail. -/
theorem ends_change {update : Machine → Machine} {returned : Unit → Progress → Prop}
    (holds : returned () { progress with machine := update progress.machine }) :
    Ends (change update) progress returned failed :=
  holds

theorem ends_emit {effects : Effects} {returned : Unit → Progress → Prop}
    (holds : returned () { progress with effects := progress.effects ++ effects }) :
    Ends (emit effects) progress returned failed :=
  holds

theorem ends_throw {failure : Failure} (holds : failed failure progress) :
    Ends (throw failure) progress returned failed :=
  holds

end Rules

/-! ## Raising a misuse -/

/-- The machine after a misuse was counted. -/
def counting (machine : Machine) (misuse : Misuse) : Machine :=
  { machine with
    metrics := machine.metrics.map fun metrics => (metrics.observeFault misuse.kind.label).1 }

/-- What raising a misuse leaves. -/
def Progress.raised (progress : Progress) (misuse : Misuse) : Progress where
  machine := progress.machine.counting misuse
  effects := progress.effects ++ progress.machine.settings.traces misuse

section Raising

variable {α : Type} {progress : Progress} {returned : α → Progress → Prop}
  {failed : Failure → Progress → Prop}

/-- Raising a misuse counts it, fails as the settings say and leaves the traces that they
ask for. -/
theorem ends_raise {misuse : Misuse}
    (holds : failed (progress.machine.settings.failure misuse.fault) (progress.raised misuse)) :
    Ends (raise misuse) progress returned failed := by
  refine ends_bind (ends_change (ends_bind (ends_look (ends_bind (ends_emit ?_)))))
  unfold Settings.failure Progress.raised Settings.traces at holds
  split
  · next aborts =>
    rw [if_pos aborts, if_pos aborts] at holds
    refine ends_bind (ends_emit (ends_bind (ends_emit (ends_throw ?_))))
    simpa only [counting, Effects.append_eq, List.append_nil, List.append_assoc] using holds
  · next returns =>
    rw [if_neg returns, if_neg returns] at holds
    exact ends_throw holds

/-- The list under a handle is found and left alone, or there is none and that is raised. -/
theorem ends_listFor {handle : Int} {returned : DynamicList Value → Progress → Prop}
    (found : ∀ contents, progress.machine.lists[handle]? = some contents →
      returned contents progress)
    (absent : progress.machine.lists[handle]? = none →
      Ends (raise (.noList handle)) progress returned failed) :
    Ends (listFor handle) progress returned failed := by
  refine ends_bind (ends_look ?_)
  split
  · next contents there => exact ends_pure (found contents there)
  · next missing => exact absent missing

/-- The string under a handle is found and left alone, or there is none and that is
raised. -/
theorem ends_stringFor {handle : Int} {returned : ByteString → Progress → Prop}
    (found : ∀ contents, progress.machine.strings[handle]? = some contents →
      returned contents progress)
    (absent : progress.machine.strings[handle]? = none →
      Ends (raise (.noString handle)) progress returned failed) :
    Ends (stringFor handle) progress returned failed := by
  refine ends_bind (ends_look ?_)
  split
  · next contents there => exact ends_pure (found contents there)
  · next missing => exact absent missing

end Raising

/-! ## Changes of the tables -/

/-- The machine with one list more, under the next handle. -/
def withList (machine : Machine) : Machine :=
  { machine with
    nextHandle := Word.wrap (machine.nextHandle + 1)
    lists := machine.lists.insert machine.nextHandle
      { growth := machine.settings.growth, maxLength := machine.settings.listLimit } }

/-- The machine with one string more, under the next handle. -/
def withString (machine : Machine) (text : ByteString) : Machine :=
  { machine with
    nextHandle := Word.wrap (machine.nextHandle + 1)
    strings := machine.strings.insert machine.nextHandle text
    metrics := machine.metrics.map fun metrics => (metrics.observeString text.length).1 }

/-- The machine with a list that has taken an item, and the events of that counted. -/
def withGrown (machine : Machine) (handle : Int) (grown : DynamicList Value)
    (events : List ListEvent) : Machine :=
  { machine with
    lists := machine.lists.insert handle grown
    metrics := machine.metrics.map fun metrics => events.foldl Metrics.observeListEvent metrics }

/-- What is put twice under a handle is what was put there last. -/
theorem insert_insert (lists : Std.ExtTreeMap Int (DynamicList Value)) (handle : Int)
    (first second : DynamicList Value) :
    (lists.insert handle first).insert handle second = lists.insert handle second := by
  apply Std.ExtTreeMap.ext_getElem?
  intro other
  simp only [Std.ExtTreeMap.getElem?_insert]
  split <;> rfl

section Tables

variable {progress : Progress} {failed : Failure → Progress → Prop}

/-- A string is refused for the limit of the settings before a handle is taken, or it is
stored. -/
theorem ends_storeString {text : ByteString} {returned : Reply → Progress → Prop}
    (refused : progress.machine.settings.stringLimit > 0 ∧
        (text.length : Int) > progress.machine.settings.stringLimit →
      Ends (raise (.tooLong text.length progress.machine.settings.stringLimit)) progress
        returned failed)
    (stored : ¬ (progress.machine.settings.stringLimit > 0 ∧
        (text.length : Int) > progress.machine.settings.stringLimit) →
      returned (.handle progress.machine.nextHandle)
        { progress with machine := progress.machine.withString text }) :
    Ends (storeString text) progress returned failed := by
  refine ends_bind (ends_look ?_)
  split
  · next tooLong => exact refused tooLong
  · next fits => exact stored fits

/-- A list refuses an item before anything is done to its buffer, or it takes the item. -/
theorem ends_appendItem {handle : Int} {contents : DynamicList Value} {item : Value}
    {returned : Option Fault → Progress → Prop}
    (refused : ∀ fault, contents.append item = .error fault → returned (some fault) progress)
    (taken : ∀ grown events, contents.append item = .ok (grown, events) →
      returned none { progress with machine := progress.machine.withGrown handle grown events }) :
    Ends (appendItem handle contents item) progress returned failed := by
  unfold appendItem
  split
  · next full => exact refused _ (DynamicList.append_full item full)
  · next free =>
    have appended := taken _ _ (DynamicList.append_free item free)
    unfold DynamicList.reserve at appended
    split
    · next grows =>
      rw [if_pos grows] at appended
      refine ends_bind (ends_bind (ends_change (ends_bind (ends_change (ends_pure ?_)))))
      refine ends_bind (ends_change (ends_bind (ends_change (ends_pure ?_))))
      simp only [insert_insert, Option.map_map]
      exact appended
    · next roomy =>
      rw [if_neg roomy] at appended
      exact appended

end Tables

/-! ## Calls -/

/-- The failure and what is left are those of one misuse that was raised, and of nothing
else. -/
def Progress.Raised (progress : Progress) (failure : Failure) (left : Progress) : Prop :=
  ∃ misuse, failure = progress.machine.settings.failure misuse.fault ∧
    left = progress.raised misuse

/-- Nothing was done outside. -/
def Progress.Silent (progress : Progress) (_ : Reply) (left : Progress) : Prop :=
  left.effects = progress.effects

/-- A misuse that is raised before anything else was done is all that has happened. -/
theorem ends_raise_first {α : Type} {returned : α → Progress → Prop} {progress : Progress}
    (misuse : Misuse) : Ends (raise misuse) progress returned progress.Raised :=
  ends_raise ⟨misuse, rfl, rfl⟩

theorem ends_storeJoined (joined : Except Fault ByteString) (progress : Progress) :
    Ends (storeJoined joined) progress progress.Silent progress.Raised := by
  cases joined with
  | ok text => exact ends_storeString (fun _ => ends_raise_first _) fun _ => rfl
  | error fault => exact ends_raise_first _

/-- Every call succeeds without a trace outside, or fails by raising one misuse in the state
in which it began. -/
theorem ends_call (operation : Operation) (progress : Progress) :
    Ends (call operation) progress progress.Silent progress.Raised := by
  cases operation with
  | listNew => exact rfl
  | listAppend handle value =>
    refine ends_bind (ends_listFor (fun contents _ => ?_) fun _ => ends_raise_first _)
    refine ends_bind (ends_appendItem (fun fault _ => ?_) fun grown events _ => ?_)
    · exact ends_raise_first _
    · exact ends_pure rfl
  | listAt handle index =>
    refine ends_bind (ends_listFor (fun contents _ => ?_) fun _ => ends_raise_first _)
    split
    · exact ends_pure rfl
    · exact ends_raise_first _
  | listLength handle | listItems handle =>
    exact ends_bind (ends_listFor (fun contents _ => ends_pure rfl) fun _ => ends_raise_first _)
  | stringNew data => exact ends_storeJoined (.ok (.ofTerminated data)) progress
  | stringAdd handle suffix =>
    refine ends_bind (ends_stringFor (fun text _ => ?_) fun _ => ends_raise_first _)
    exact ends_storeJoined _ progress
  | stringConcat handle suffix =>
    refine ends_bind (ends_stringFor (fun text _ => ?_) fun _ => ends_raise_first _)
    refine ends_bind (ends_stringFor (fun tail _ => ?_) fun _ => ends_raise_first _)
    exact ends_storeJoined _ progress
  | stringLength handle | stringBytes handle =>
    exact ends_bind (ends_stringFor (fun text _ => ends_pure rfl) fun _ => ends_raise_first _)
  | stringAt handle index =>
    refine ends_bind (ends_stringFor (fun text _ => ?_) fun _ => ends_raise_first _)
    split
    · exact ends_pure rfl
    · exact ends_raise_first _

/-! ## Steps and runs -/

section Steps

variable {machine : Machine} {operation : Operation}

/-- How a call ends is how the operation ends that is done alone. -/
theorem step_of_ends {returned : Reply → Progress → Prop} {failed : Failure → Progress → Prop}
    (ends : Ends (call operation) { machine } returned failed) :
    (∃ reply left, returned reply left ∧
      machine.step operation = (left.machine, ⟨.ok reply, left.effects⟩)) ∨
    ∃ failure left, failed failure left ∧
      machine.step operation = (left.machine, ⟨.error failure, left.effects⟩) := by
  unfold Ends at ends
  unfold step
  cases ended : (call operation).run { machine } with
  | ok reply left =>
    rw [ended] at ends
    exact .inl ⟨reply, left, ends, rfl⟩
  | error failure left =>
    rw [ended] at ends
    exact .inr ⟨failure, left, ends, rfl⟩

/-- An operation succeeds without a trace outside, or it leaves the machine with one misuse
counted, and outside the traces of this misuse. -/
theorem step_cases (machine : Machine) (operation : Operation) :
    (∃ next reply, machine.step operation = (next, ⟨.ok reply, {}⟩)) ∨
    ∃ misuse, machine.step operation = (machine.counting misuse,
      ⟨.error (machine.settings.failure misuse.fault), machine.settings.traces misuse⟩) := by
  obtain ⟨reply, left, silent, stepped⟩ | ⟨failure, left, ⟨misuse, told, raised⟩, stepped⟩ :=
    step_of_ends (ends_call operation { machine })
  · rw [stepped, silent]
    exact .inl ⟨left.machine, reply, rfl⟩
  · rw [stepped, told, raised]
    exact .inr ⟨misuse, rfl⟩

@[simp] theorem run_cons (machine : Machine) (operation : Operation) (rest : List Operation) :
    machine.run (operation :: rest) =
      (((machine.step operation).1.run rest).1,
        (machine.step operation).2 :: ((machine.step operation).1.run rest).2) := rfl

end Steps

end Machine

end ContainerKernel
