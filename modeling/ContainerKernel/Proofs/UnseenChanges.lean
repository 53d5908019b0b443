import ContainerKernel.Proofs.KernelSteps

/-!
# Changes that operations do not see

An operation looks at the containers, at the growth policy and the two limits,
and adds to the counters; it looks neither at the policy for faults nor at what
has been counted. A change of a kernel in what is not looked at is unseen: what
the operation does to the changed kernel is the change of what it does to the
kernel. `attempt_unseen` says this once for all operations, and each particular
change only has to show that it commutes with the three ways to alter a kernel.

What comes of a misuse outside the kernel depends on the policy, and is not part
of this.
-/

namespace ContainerKernel

namespace Kernel

variable {change : Kernel → Kernel} {kernel : Kernel} {operation : Operation}

/-- A change of the kernel that operations do not see. The three last conditions
are about what an operation that succeeds leaves: a new list, a new string with
its bytes counted, and a list replaced with the events of its buffer counted. -/
structure Unseen (change : Kernel → Kernel) (kernel : Kernel) : Prop where
  containers : (change kernel).containers = kernel.containers
  growth : (change kernel).settings.growth = kernel.settings.growth
  listLimit : (change kernel).settings.listLimit = kernel.settings.listLimit
  stringLimit : (change kernel).settings.stringLimit = kernel.settings.stringLimit
  listMade : ∀ contents, ((change kernel).add contents).1 = change (kernel.add contents).1
  stringMade : ∀ (contents : Container) (size : Nat),
    ((change kernel).add contents).1.observe (fun metrics => (metrics.observeString size).1) =
      change ((kernel.add contents).1.observe fun metrics => (metrics.observeString size).1)
  appended : ∀ (handle : Int) (grown : DynamicList Value) (events : List ListEvent),
    ((change kernel).observe fun metrics =>
        events.foldl Metrics.observeListEvent metrics).setList handle grown =
      change ((kernel.observe fun metrics =>
        events.foldl Metrics.observeListEvent metrics).setList handle grown)

/-- After an unseen change the handles name the same containers. -/
theorem Unseen.container? (unseen : Unseen change kernel) (handle : Int) :
    (change kernel).container? handle = kernel.container? handle := by
  unfold Kernel.container?
  rw [unseen.containers]

theorem Unseen.list (unseen : Unseen change kernel) (handle : Int) :
    (change kernel).list handle = kernel.list handle := by
  unfold Kernel.list
  rw [unseen.container?]

theorem Unseen.string (unseen : Unseen change kernel) (handle : Int) :
    (change kernel).string handle = kernel.string handle := by
  unfold Kernel.string
  rw [unseen.container?]

/-- After an unseen change a new list is the same. -/
theorem Unseen.newList (unseen : Unseen change kernel) :
    (change kernel).newList = kernel.newList := by
  unfold Kernel.newList
  rw [unseen.growth, unseen.listLimit]

/-- After an unseen change a new container gets the same handle. -/
theorem Unseen.handle (unseen : Unseen change kernel) (contents : Container) :
    ((change kernel).add contents).2 = (kernel.add contents).2 := by
  unfold Kernel.add
  rw [unseen.containers]

/-- Storing a string does the same to the changed kernel. -/
theorem store_unseen (unseen : Unseen change kernel) (text : ByteString) :
    (change kernel).store text = (kernel.store text).map (Prod.map change id) := by
  by_cases tooLong : kernel.settings.stringLimit > 0 ∧
      (text.length : Int) > kernel.settings.stringLimit
  · have changed : (change kernel).settings.stringLimit > 0 ∧
        (text.length : Int) > (change kernel).settings.stringLimit := by
      rw [unseen.stringLimit]
      exact tooLong
    rw [store_refused tooLong, store_refused changed, unseen.stringLimit]
    rfl
  · have changed : ¬ ((change kernel).settings.stringLimit > 0 ∧
        (text.length : Int) > (change kernel).settings.stringLimit) := by
      rw [unseen.stringLimit]
      exact tooLong
    rw [store_accepted tooLong, store_accepted changed, unseen.stringMade, unseen.handle]
    rfl

/-- Storing the outcome of a join does the same to the changed kernel. -/
theorem storeJoined_unseen (unseen : Unseen change kernel) (joined : Except Fault ByteString) :
    (change kernel).storeJoined joined = (kernel.storeJoined joined).map (Prod.map change id) := by
  cases joined with
  | error fault => rfl
  | ok text => exact store_unseen unseen text

/-- Appending to a list does the same to the changed kernel. -/
theorem appendTo_unseen (unseen : Unseen change kernel) (handle : Int)
    (contents : DynamicList Value) (value : Option Value) :
    (change kernel).appendTo handle contents value =
      (kernel.appendTo handle contents value).map (Prod.map change id) := by
  unfold appendTo
  cases contents.append (value.getD .nil) with
  | error fault => rfl
  | ok answer =>
    obtain ⟨grown, events⟩ := answer
    simp only [unseen.appended, Except.map, Prod.map, id_eq]

/-- Every operation does the same to the changed kernel, or is the same misuse of
it. -/
theorem attempt_unseen (unseen : Unseen change kernel) (operation : Operation) :
    (change kernel).attempt operation =
      (kernel.attempt operation).map (Prod.map change id) := by
  cases operation with
  | listNew =>
    simp only [attempt, unseen.newList, unseen.listMade, unseen.handle]
    rfl
  | listAppend handle value =>
    simp only [attempt, unseen.list]
    cases kernel.list handle with
    | error misuse => rfl
    | ok contents => exact appendTo_unseen unseen handle contents value
  | listAt handle index =>
    simp only [attempt, unseen.list, bind, Except.bind]
    cases kernel.list handle with
    | error misuse => rfl
    | ok contents =>
      dsimp only
      cases contents.itemAt index <;> rfl
  | listLength handle | listItems handle =>
    simp only [attempt, unseen.list, bind, Except.bind]
    cases kernel.list handle <;> rfl
  | stringNew data => exact store_unseen unseen (.ofTerminated data)
  | stringAdd handle suffix =>
    simp only [attempt, unseen.string]
    cases kernel.string handle with
    | error misuse => rfl
    | ok text => exact storeJoined_unseen unseen (text.appendTerminated suffix)
  | stringConcat handle suffix =>
    simp only [attempt, unseen.string]
    cases kernel.string handle with
    | error misuse => rfl
    | ok text =>
      cases kernel.string suffix with
      | error misuse => rfl
      | ok tail => exact storeJoined_unseen unseen (text.append tail)
  | stringLength handle | stringBytes handle =>
    simp only [attempt, unseen.string, bind, Except.bind]
    cases kernel.string handle <;> rfl
  | stringAt handle index =>
    simp only [attempt, unseen.string, bind, Except.bind]
    cases kernel.string handle with
    | error misuse => rfl
    | ok text =>
      dsimp only
      cases text.byteAt index <;> rfl

/-- An operation that succeeds is answered alike, and what it leaves is changed
alike. -/
theorem step_unseen (unseen : Unseen change kernel) {answer : Kernel × Reply}
    (succeeded : kernel.attempt operation = .ok answer) :
    (change kernel).step operation =
      (change (kernel.step operation).1, (kernel.step operation).2) := by
  unfold step
  rw [attempt_unseen unseen, succeeded]
  rfl

end Kernel

end ContainerKernel
