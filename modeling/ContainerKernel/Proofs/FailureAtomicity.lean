import ContainerKernel.Proofs.MachineCalls

/-!
# A failure changes nothing but the count of faults

A call that fails stops in the middle: a string that is too long has been built by then, and
an append that is refused stands right before the code that grows the buffer. Whatever it has
done to the machine stays done, and the first statement here is that this is nothing: the
counter of handles, both tables, the settings and every counter that is not one of faults are
as they were. It holds because a call raises before it changes anything.

No action reads the counters of faults. Two machines that differ in these counters only are
alike, answer every operation alike and stay alike (`blind_call`, `step_alike`, `run_alike`).
So the machine after a failure cannot be told from the machine before it by any further
operations, and the failing operations of a run can be left out.

What is counted about faults is the one difference, and is not described here.
-/

namespace ContainerKernel

/-- The counters without those of faults. -/
def Metrics.forgetFaults (metrics : Metrics) : Metrics :=
  metrics.withFaults []

/-- Counting a fault is forgotten. -/
theorem Metrics.forgetFaults_observeFault (metrics : Metrics) (name : Bytes) :
    (metrics.observeFault name).1.forgetFaults = metrics.forgetFaults := by
  unfold Metrics.observeFault
  split <;> rfl

namespace Machine

variable {machine other : Machine}

/-- The machine without its counters of faults. -/
def forgetFaults (machine : Machine) : Machine :=
  { machine with metrics := machine.metrics.map Metrics.forgetFaults }

/-- The progress of a call without the counters of faults. -/
def Progress.forgetFaults (progress : Progress) : Progress :=
  { progress with machine := progress.machine.forgetFaults }

/-- Faults that are forgotten already cannot be forgotten again. -/
theorem forgetFaults_twice (machine : Machine) :
    machine.forgetFaults.forgetFaults = machine.forgetFaults := by
  simp only [forgetFaults, Option.map_map]
  rfl

/-- That a misuse was counted is forgotten. -/
theorem counting_forgetFaults (machine : Machine) (misuse : Misuse) :
    (machine.counting misuse).forgetFaults = machine.forgetFaults := by
  simp only [forgetFaults, counting, Option.map_map]
  congr 2
  funext metrics
  exact metrics.forgetFaults_observeFault misuse.kind.label

/-! ## No action reads the counters of faults -/

section Blind

variable {α β : Type}

/-- What an action ends with, up to the counters of faults. -/
def settled : EStateM.Result Failure Progress α → Except Failure α × Progress
  | .ok value left => (.ok value, left.forgetFaults)
  | .error failure left => (.error failure, left.forgetFaults)

/-- The action ends alike whatever the counters of faults are. -/
def Blind (action : Action α) : Prop :=
  ∀ ⦃progress another : Progress⦄, progress.forgetFaults = another.forgetFaults →
    settled (action.run progress) = settled (action.run another)

theorem blind_pure (value : α) : Blind (pure value) := by
  intro progress another alike
  exact congrArg (Prod.mk (Except.ok value)) alike

theorem blind_throw (failure : Failure) : Blind (throw failure : Action α) := by
  intro progress another alike
  exact congrArg (Prod.mk (Except.error failure)) alike

/-- A sequence of two blind actions is blind. -/
theorem Blind.bind {first : Action α} {next : α → Action β} (blind : Blind first)
    (following : ∀ value, Blind (next value)) : Blind (first >>= next) := by
  intro progress another alike
  have same := blind alike
  rw [EStateM.run_bind, EStateM.run_bind]
  cases ended : first.run progress with
  | ok value left =>
    cases endedOther : first.run another with
    | ok valueOther leftOther =>
      rw [ended, endedOther] at same
      obtain ⟨values, lefts⟩ := Prod.mk.inj same
      cases values
      exact following value lefts
    | error failure leftOther =>
      rw [ended, endedOther] at same
      cases same
  | error failure left =>
    cases endedOther : first.run another with
    | ok valueOther leftOther =>
      rw [ended, endedOther] at same
      cases same
    | error failureOther leftOther =>
      rw [ended, endedOther] at same
      obtain ⟨failures, lefts⟩ := Prod.mk.inj same
      cases failures
      exact congrArg (Prod.mk (Except.error failure)) lefts

/-- What is looked at besides the counters of faults is looked at blindly. -/
theorem blind_look {view : Machine → α}
    (unseen : ∀ machine, view machine.forgetFaults = view machine) : Blind (look view) := by
  intro progress another alike
  obtain ⟨machines, _⟩ := Progress.mk.inj alike
  have views : view progress.machine = view another.machine := by
    rw [← unseen, machines, unseen]
  exact Prod.ext (congrArg Except.ok views) alike

/-- A change that does not depend on the counters of faults is blind. -/
theorem blind_change {update : Machine → Machine}
    (unseen : ∀ machine, (update machine.forgetFaults).forgetFaults =
      (update machine).forgetFaults) : Blind (change update) := by
  intro progress another alike
  obtain ⟨machines, effects⟩ := Progress.mk.inj alike
  have updated : Progress.mk (update progress.machine).forgetFaults progress.effects =
      ⟨(update another.machine).forgetFaults, another.effects⟩ := by
    rw [← unseen, machines, unseen, effects]
  exact congrArg (Prod.mk (Except.ok ())) updated

theorem blind_emit (effects : Effects) : Blind (emit effects) := by
  intro progress another alike
  obtain ⟨machines, same⟩ := Progress.mk.inj alike
  have emitted : Progress.mk progress.machine.forgetFaults (progress.effects ++ effects) =
      ⟨another.machine.forgetFaults, another.effects ++ effects⟩ := by
    rw [machines, same]
  exact congrArg (Prod.mk (Except.ok ())) emitted

/-- A change that commutes with forgetting is blind. -/
theorem blind_change_of_commutes {update : Machine → Machine}
    (commutes : ∀ machine, update machine.forgetFaults = (update machine).forgetFaults) :
    Blind (change update) :=
  blind_change fun machine => by rw [commutes, forgetFaults_twice]

/-- Counting is blind if the count commutes with forgetting. -/
theorem blind_count {counted : Metrics → Metrics}
    (commutes : ∀ metrics, counted metrics.forgetFaults = (counted metrics).forgetFaults) :
    Blind (count counted) := by
  refine blind_change_of_commutes fun machine => ?_
  simp only [forgetFaults, Option.map_map]
  congr 2
  funext metrics
  exact commutes metrics

/-- Raising a misuse is blind, although it is counted: the count of faults is forgotten. -/
theorem blind_raise (misuse : Misuse) : Blind (raise misuse : Action α) := by
  have counted : ∀ machine : Machine, (machine.forgetFaults.counting misuse).forgetFaults =
      (machine.counting misuse).forgetFaults := by
    intro machine
    rw [counting_forgetFaults, counting_forgetFaults, forgetFaults_twice]
  refine .bind (blind_change counted) fun _ => ?_
  refine .bind (blind_look fun _ => rfl) fun settings => .bind (blind_emit _) fun _ => ?_
  split
  · exact .bind (blind_emit _) fun _ => .bind (blind_emit _) fun _ => blind_throw _
  · exact blind_throw _

/-- Looking for a list is blind. -/
theorem blind_listFor (handle : Int) : Blind (listFor handle) := by
  refine .bind (blind_look fun _ => rfl) fun looked => ?_
  split
  · exact blind_pure _
  · exact blind_raise _

/-- Looking for a string is blind. -/
theorem blind_stringFor (handle : Int) : Blind (stringFor handle) := by
  refine .bind (blind_look fun _ => rfl) fun looked => ?_
  split
  · exact blind_pure _
  · exact blind_raise _

/-- Taking a handle is blind. -/
theorem blind_takeHandle : Blind takeHandle :=
  .bind (blind_look fun _ => rfl) fun _ =>
    .bind (blind_change_of_commutes fun _ => rfl) fun _ => blind_pure _

theorem blind_putList (handle : Int) (contents : DynamicList Value) :
    Blind (putList handle contents) :=
  blind_change_of_commutes fun _ => rfl

theorem blind_putString (handle : Int) (contents : ByteString) :
    Blind (putString handle contents) :=
  blind_change_of_commutes fun _ => rfl

/-- Giving a list a larger buffer is blind. -/
theorem blind_growList (handle : Int) (contents : DynamicList Value) :
    Blind (growList handle contents) :=
  .bind (blind_putList _ _) fun _ => .bind (blind_count fun metrics =>
    metrics.observeListEvent_withFaults [] (.grew contents.capacity _)) fun _ => blind_pure _

/-- Appending an item is blind. -/
theorem blind_appendItem (handle : Int) (contents : DynamicList Value) (item : Value) :
    Blind (appendItem handle contents item) := by
  unfold appendItem
  split
  · exact blind_pure _
  · have stored : ∀ roomy : DynamicList Value, Blind (do
        putList handle { roomy with items := roomy.items.push item }
        count Metrics.observeAppend
        return (none : Option Fault)) := fun _ =>
      .bind (blind_putList _ _) fun _ => .bind (blind_count fun _ => rfl) fun _ => blind_pure _
    split
    · exact .bind (blind_growList handle contents) stored
    · exact .bind (blind_pure contents) stored

/-- Storing a string is blind. -/
theorem blind_storeString (text : ByteString) : Blind (storeString text) := by
  refine .bind (blind_look fun _ => rfl) fun limit => ?_
  split
  · exact blind_raise _
  · refine .bind blind_takeHandle fun handle => .bind (blind_putString handle text) fun _ => ?_
    exact .bind (blind_count fun metrics => metrics.observeString_withFaults [] text.length)
      fun _ => blind_pure _

theorem blind_storeJoined (joined : Except Fault ByteString) : Blind (storeJoined joined) := by
  cases joined with
  | ok text => exact blind_storeString text
  | error fault => exact blind_raise _

/-- Every call is blind. -/
theorem blind_call (operation : Operation) : Blind (call operation) := by
  cases operation with
  | listNew =>
    exact .bind blind_takeHandle fun _ => .bind (blind_look fun _ => rfl) fun _ =>
      .bind (blind_putList _ _) fun _ => blind_pure _
  | listAppend handle value =>
    refine .bind (blind_listFor handle) fun contents =>
      .bind (blind_appendItem handle contents _) fun refused => ?_
    cases refused with
    | none => exact blind_pure _
    | some fault => exact blind_raise _
  | listAt handle index =>
    refine .bind (blind_listFor handle) fun contents => ?_
    split
    · exact blind_pure _
    · exact blind_raise _
  | listLength handle | listItems handle =>
    exact .bind (blind_listFor handle) fun _ => blind_pure _
  | stringNew data => exact blind_storeString _
  | stringAdd handle suffix =>
    exact .bind (blind_stringFor handle) fun _ => blind_storeJoined _
  | stringConcat handle suffix =>
    exact .bind (blind_stringFor handle) fun _ => .bind (blind_stringFor suffix) fun _ =>
      blind_storeJoined _
  | stringLength handle | stringBytes handle =>
    exact .bind (blind_stringFor handle) fun _ => blind_pure _
  | stringAt handle index =>
    refine .bind (blind_stringFor handle) fun text => ?_
    split
    · exact blind_pure _
    · exact blind_raise _

end Blind

/-! ## Machines that differ in their counters of faults only -/

/-- What comes of an operation, and what is left up to the counters of faults, is
what its call ends with. -/
theorem step_settled (machine : Machine) (operation : Operation) :
    let ended := settled ((call operation).run { machine })
    (machine.step operation).2 = ⟨ended.1, ended.2.effects⟩ ∧
      (machine.step operation).1.forgetFaults = ended.2.machine := by
  unfold step
  cases (call operation).run { machine } with
  | ok reply left => exact ⟨rfl, rfl⟩
  | error failure left => exact ⟨rfl, rfl⟩

/-- Machines that are alike answer alike and stay alike. -/
theorem step_alike (alike : machine.forgetFaults = other.forgetFaults) (operation : Operation) :
    (machine.step operation).2 = (other.step operation).2 ∧
      (machine.step operation).1.forgetFaults = (other.step operation).1.forgetFaults := by
  have ended := @blind_call operation { machine } { machine := other }
    (congrArg (Progress.mk · {}) alike)
  obtain ⟨outcome, left⟩ := step_settled machine operation
  obtain ⟨outcomeOther, leftOther⟩ := step_settled other operation
  rw [outcome, left, ended, outcomeOther, leftOther]
  exact ⟨rfl, rfl⟩

/-- Machines that are alike answer alike over whole runs. -/
theorem run_alike (alike : machine.forgetFaults = other.forgetFaults)
    (operations : List Operation) :
    (machine.run operations).2 = (other.run operations).2 := by
  induction operations generalizing machine other with
  | nil => rfl
  | cons operation rest inductionHypothesis =>
    obtain ⟨answered, left⟩ := step_alike alike operation
    rw [run_cons, run_cons, answered, inductionHypothesis left]

/-- What does not change between one machine and another: everything except what is counted
about faults. -/
structure Unchanged (machine other : Machine) : Prop where
  settings : other.settings = machine.settings
  nextHandle : other.nextHandle = machine.nextHandle
  /-- The lists with their items and capacities. -/
  lists : other.lists = machine.lists
  strings : other.strings = machine.strings
  counts : other.counts = machine.counts
  counters : other.metrics.map Metrics.forgetFaults = machine.metrics.map Metrics.forgetFaults
  snapshot : other.metrics.map Metrics.snapshot = machine.metrics.map Metrics.snapshot
  answers : ∀ later, (other.run later).2 = (machine.run later).2

/-- Machines that differ in their counters of faults only are unchanged. -/
theorem unchanged_of_alike (alike : other.forgetFaults = machine.forgetFaults) :
    Unchanged machine other := by
  -- Forgetting the faults of a machine leaves its counter and its tables as they are.
  obtain ⟨settings, nextHandle, lists, strings, counters⟩ := Machine.mk.inj alike
  refine ⟨settings, nextHandle, lists, strings, ?_, counters, ?_, run_alike alike⟩
  · unfold counts
    rw [lists, strings]
  · have readings := congrArg (Option.map Metrics.snapshot) counters
    simp only [Option.map_map] at readings
    exact readings

/-- An operation that fails leaves a machine that is alike. -/
theorem alike_of_failed {operation : Operation}
    (failed : (machine.step operation).2.failed = true) :
    (machine.step operation).1.forgetFaults = machine.forgetFaults := by
  obtain ⟨next, reply, stepped⟩ | ⟨misuse, stepped⟩ := step_cases machine operation
  · rw [stepped] at failed
    cases failed
  · rw [stepped, counting_forgetFaults]

/-! ## Leaving out the failing operations of a run -/

/-- The operations of a run that succeed, in order. -/
def succeeding (machine : Machine) (operations : List Operation) : List Operation :=
  ((operations.zip (machine.run operations).2).filter fun done => !done.2.failed).map Prod.fst

/-- The first operation of a run is kept among those that succeed unless it fails, and the
others are those of the run that follows it. -/
theorem succeeding_cons (machine : Machine) (operation : Operation) (rest : List Operation) :
    machine.succeeding (operation :: rest) =
      if (machine.step operation).2.failed then (machine.step operation).1.succeeding rest
      else operation :: (machine.step operation).1.succeeding rest := by
  simp only [succeeding, run_cons, List.zip_cons_cons, List.filter_cons]
  split <;> simp_all

/-- The succeeding operations alone, run by a machine that is alike, are answered as in the
whole run and leave a machine that is alike. -/
theorem run_succeeding (alike : other.forgetFaults = machine.forgetFaults)
    (operations : List Operation) :
    (other.run (machine.succeeding operations)).2 =
        (machine.run operations).2.filter (fun outcome => !outcome.failed) ∧
      (other.run (machine.succeeding operations)).1.forgetFaults =
        (machine.run operations).1.forgetFaults := by
  induction operations generalizing machine other with
  | nil => exact ⟨rfl, alike⟩
  | cons operation rest inductionHypothesis =>
    rw [succeeding_cons, run_cons]
    by_cases failed : (machine.step operation).2.failed = true
    · -- The other machine does not take this step, and is alike with what it leaves.
      have after := alike.trans (alike_of_failed failed).symm
      rw [if_pos failed, List.filter_cons_of_neg (by simp [failed])]
      exact inductionHypothesis after
    · obtain ⟨answered, after⟩ := step_alike alike operation
      obtain ⟨answers, left⟩ := inductionHypothesis after
      rw [if_neg failed, run_cons, List.filter_cons_of_pos (by simp [failed]), answered, answers]
      exact ⟨rfl, left⟩

/-- **A failure is atomic.** In every machine that a run reaches, an operation that fails
leaves the counter of handles, both tables, the settings and all counters but those of faults
as they were before the call, and all later operations are answered as if it had not been
there. A run without its failing operations gives the answers that the others had, and
reaches a machine with the same counter, tables, counts and readings. -/
theorem failure_changes_only_fault_counts (settings : Settings) (metrics : Option Metrics)
    (operations : List Operation) :
    let first := start settings metrics
    let machine := (first.run operations).1
    let pruned := first.run (first.succeeding operations)
    (∀ operation, (machine.step operation).2.failed = true →
      Unchanged machine (machine.step operation).1) ∧
    pruned.2 = (first.run operations).2.filter (fun outcome => !outcome.failed) ∧
    Unchanged machine pruned.1 := by
  intro first machine pruned
  obtain ⟨answers, alike⟩ := @run_succeeding first first rfl operations
  refine ⟨?_, answers, unchanged_of_alike alike⟩
  intro operation failed
  exact unchanged_of_alike (alike_of_failed failed)

/-- A list that is full and two strings, with a join between them whose second operand is
no string. An append to the list, a string beyond the limit, and joins with either operand
bad leave the next handle and both tables as they are; and the strings have the same
handles without the first join. -/
theorem failed_join_keeps_handles :
    let settings : Settings := { stringLimit := 3, listLimit := 1 }
    let operations : List Operation :=
      [.listNew, .listAppend 1 none, .stringNew [97], .stringConcat 2 7, .stringNew [98]]
    let first := start settings (some {})
    let machine := (first.run operations).1
    let failing : List Operation :=
      [.listAppend 1 none, .stringAdd 2 [1, 2, 3], .stringConcat 2 7, .stringConcat 7 2]
    failing.all (fun operation => (machine.step operation).2.failed) = true ∧
      (∀ operation ∈ failing, (machine.step operation).1.nextHandle = 4 ∧
        (machine.step operation).1.lists = machine.lists ∧
        (machine.step operation).1.strings = machine.strings) ∧
      first.succeeding operations =
        [.listNew, .listAppend 1 none, .stringNew [97], .stringNew [98]] ∧
      (first.run [.listNew, .listAppend 1 none, .stringNew [97], .stringNew [98]]).1.strings =
        machine.strings := by
  intro settings operations first machine failing
  obtain ⟨kept, _, pruned⟩ := failure_changes_only_fault_counts settings (some {}) operations
  have failed : failing.all (fun operation => (machine.step operation).2.failed) = true := by
    decide
  have left : first.succeeding operations =
      [.listNew, .listAppend 1 none, .stringNew [97], .stringNew [98]] := by decide
  have handle : machine.nextHandle = 4 := by decide
  refine ⟨failed, ?_, left, ?_⟩
  · intro operation member
    have unchanged := kept operation (List.all_eq_true.mp failed operation member)
    exact ⟨unchanged.nextHandle.trans handle, unchanged.lists, unchanged.strings⟩
  · rw [← left]
    exact pruned.strings

end Machine

end ContainerKernel
