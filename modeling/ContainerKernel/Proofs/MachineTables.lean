import ContainerKernel.Proofs.MachineCalls
import ContainerKernel.Proofs.NewContainers

/-!
# The tables of a machine are the containers of a kernel

A kernel has one array of containers; a machine has a counter and two tables, and nothing in
their types keeps a handle out of both tables or ties the counter to them. `Represents` is
the relation between a machine and the kernel that it stands for. Every call keeps it and is
answered as the kernel's operation is (`step_represents`), and so does every run
(`run_represents`).

The counter is a word. As long as the next handle is one, the two numberings agree; what a
machine does after as many containers as there are words is not treated here.
-/

namespace ContainerKernel

/-- The container as a list, if it is one. -/
def Container.list? : Container → Option (DynamicList Value)
  | .list contents => some contents
  | .string _ => none

/-- The container as a string, if it is one. -/
def Container.string? : Container → Option ByteString
  | .list _ => none
  | .string contents => some contents

namespace Kernel

/-- No operation takes a container away. -/
theorem size_le_step (kernel : Kernel) (operation : Operation) :
    kernel.containers.size ≤ (kernel.step operation).1.containers.size := by
  by_cases made : ∃ handle, (kernel.step operation).2.result = .ok (.handle handle)
  · obtain ⟨handle, returned⟩ := made
    rw [(size_of_handle returned).2]
    exact Nat.le_succ _
  · exact Nat.le_of_eq (size_of_no_handle fun handle returned => made ⟨handle, returned⟩).symm

/-- No run takes a container away. -/
theorem size_le_run (kernel : Kernel) (operations : List Operation) :
    kernel.containers.size ≤ (kernel.run operations).1.containers.size :=
  run_invariant (fun reached => kernel.containers.size ≤ reached.containers.size)
    (fun reached operation fewer => Nat.le_trans fewer (reached.size_le_step operation))
    operations kernel (Nat.le_refl _)

end Kernel

namespace Machine

/-- The machine stands for the kernel: its counter follows the containers, each of its tables
holds the containers of one kind under their handles, and the settings and the counters are
the same. -/
structure Represents (machine : Machine) (kernel : Kernel) : Prop where
  settings : machine.settings = kernel.settings
  nextHandle : machine.nextHandle = kernel.containers.size + 1
  lists : ∀ handle, machine.lists[handle]? = (kernel.container? handle).bind Container.list?
  strings : ∀ handle, machine.strings[handle]? = (kernel.container? handle).bind Container.string?
  metrics : machine.metrics = kernel.metrics

/-- A table into which something is put holds it there and is the same elsewhere. -/
theorem getElem?_insert {α : Type} (table : Std.ExtTreeMap Int α) (target handle : Int)
    (contents : α) :
    (table.insert target contents)[handle]? =
      if handle = target then some contents else table[handle]? := by
  rw [Std.ExtTreeMap.getElem?_insert]
  simp only [Std.compare_eq_iff_eq, @eq_comm _ target handle]

namespace Represents

variable {machine : Machine} {kernel : Kernel} {handle : Int}

/-- A machine that has just started stands for a kernel that has just started. -/
theorem start (settings : Settings) (metrics : Option Metrics) :
    (Machine.start settings metrics).Represents (Kernel.start settings metrics) where
  settings := rfl
  nextHandle := rfl
  lists handle := by simp [Machine.start, Kernel.start, Kernel.container?]
  strings handle := by simp [Machine.start, Kernel.start, Kernel.container?]
  metrics := rfl

/-! ## Looking up -/

/-- A list of the table is the container with its handle. -/
theorem list_live (same : machine.Represents kernel) {contents : DynamicList Value}
    (found : machine.lists[handle]? = some contents) :
    kernel.container? handle = some (.list contents) := by
  rw [same.lists] at found
  obtain ⟨container, named, isList⟩ := Option.bind_eq_some_iff.mp found
  cases container with
  | list items =>
    cases isList
    exact named
  | string text => cases isList

/-- A handle that is not in the table of lists names no list. -/
theorem list_error (same : machine.Represents kernel) (absent : machine.lists[handle]? = none) :
    kernel.list handle = .error (.noList handle) := by
  unfold Kernel.list
  split
  · next contents live =>
    rw [same.lists, live] at absent
    cases absent
  · rfl

/-- A string of the table is the container with its handle. -/
theorem string_live (same : machine.Represents kernel) {contents : ByteString}
    (found : machine.strings[handle]? = some contents) :
    kernel.container? handle = some (.string contents) := by
  rw [same.strings] at found
  obtain ⟨container, named, isString⟩ := Option.bind_eq_some_iff.mp found
  cases container with
  | list items => cases isString
  | string text =>
    cases isString
    exact named

/-- A handle that is not in the table of strings names no string. -/
theorem string_error (same : machine.Represents kernel)
    (absent : machine.strings[handle]? = none) :
    kernel.string handle = .error (.noString handle) := by
  unfold Kernel.string
  split
  · next contents live =>
    rw [same.strings, live] at absent
    cases absent
  · rfl

/-! ## Changes -/

/-- Counting a misuse is the same on both sides. -/
theorem counting (same : machine.Represents kernel) (misuse : Misuse) :
    (machine.counting misuse).Represents (kernel.report misuse).1 := by
  rw [Kernel.report_kernel]
  exact { same with metrics := congrArg (Option.map _) same.metrics }

/-- The next handle is in neither table. -/
theorem fresh (same : machine.Represents kernel) :
    machine.lists[machine.nextHandle]? = none ∧ machine.strings[machine.nextHandle]? = none := by
  rw [same.lists, same.strings, same.nextHandle, Kernel.container?_next]
  exact ⟨rfl, rfl⟩

/-- The counter goes on to the handle behind the new container, as long as this is a word. -/
theorem wrap_nextHandle (same : machine.Represents kernel) {added : Container}
    (room : ((kernel.add added).1.containers.size : Int) < Word.largest) :
    Word.wrap (machine.nextHandle + 1) = (kernel.add added).1.containers.size + 1 := by
  have size : (kernel.add added).1.containers.size = kernel.containers.size + 1 :=
    Array.size_push _
  rw [size] at room ⊢
  rw [same.nextHandle, Word.wrap_of_holds]
  · rfl
  · unfold Word.smallest
    omega
  · omega

/-- A new list is put under the next handle, in the table of lists only. -/
theorem withList (same : machine.Represents kernel)
    (room : ((kernel.add (.list kernel.newList)).1.containers.size : Int) < Word.largest) :
    machine.withList.Represents (kernel.add (.list kernel.newList)).1 where
  settings := same.settings
  nextHandle := same.wrap_nextHandle room
  lists handle := by
    rw [Kernel.container?_add, Machine.withList, getElem?_insert, same.nextHandle, same.settings]
    split
    · rfl
    · exact same.lists handle
  strings handle := by
    rw [Kernel.container?_add, ← same.nextHandle]
    split
    · next new => rw [new]; exact same.fresh.2
    · exact same.strings handle
  metrics := same.metrics

/-- A new string is put under the next handle, in the table of strings only. -/
theorem withString (same : machine.Represents kernel) (text : ByteString)
    (room : ((kernel.add (.string text)).1.containers.size : Int) < Word.largest) :
    (machine.withString text).Represents ((kernel.add (.string text)).1.observe fun metrics =>
      (metrics.observeString text.length).1) where
  settings := same.settings
  nextHandle := same.wrap_nextHandle room
  lists handle := by
    rw [Kernel.container?_observe, Kernel.container?_add, ← same.nextHandle]
    split
    · next new => rw [new]; exact same.fresh.1
    · exact same.lists handle
  strings handle := by
    rw [Kernel.container?_observe, Kernel.container?_add, Machine.withString, getElem?_insert,
      same.nextHandle]
    split
    · rfl
    · exact same.strings handle
  metrics := congrArg (Option.map _) same.metrics

/-- A list that has taken an item is replaced under its handle. -/
theorem withGrown (same : machine.Represents kernel) {contents : DynamicList Value}
    (live : kernel.container? handle = some (.list contents)) (grown : DynamicList Value)
    (events : List ListEvent) :
    (machine.withGrown handle grown events).Represents
      ((kernel.observe fun metrics => events.foldl Metrics.observeListEvent metrics).setList
        handle grown) where
  settings := same.settings
  nextHandle := by
    refine same.nextHandle.trans ?_
    simp [Kernel.setList, Kernel.observe]
  lists other := by
    rw [Kernel.container?_setList handle (by exact live), Machine.withGrown, getElem?_insert]
    split
    · rfl
    · exact same.lists other
  strings other := by
    rw [Kernel.container?_setList handle (by exact live)]
    split
    · next old =>
      rw [old]
      refine (same.strings handle).trans ?_
      rw [live]
      rfl
    · exact same.strings other
  metrics := congrArg (Option.map _) same.metrics

end Represents

/-! ## Calls -/

/-- The kernel answers the operation with the same reply, nothing was done outside, and as
long as the next handle is a word, what is left stands for what the kernel leaves. -/
def Answered (kernel : Kernel) (operation : Operation) (progress : Progress) (reply : Reply)
    (left : Progress) : Prop :=
  ∃ next, kernel.attempt operation = .ok (next, reply) ∧ left.effects = progress.effects ∧
    ((next.containers.size : Int) < Word.largest → left.machine.Represents next)

/-- The operation is a misuse of the kernel, and this misuse is what was raised. -/
def Refused (kernel : Kernel) (operation : Operation) (progress : Progress) (failure : Failure)
    (left : Progress) : Prop :=
  ∃ misuse, kernel.attempt operation = .error misuse ∧
    failure = progress.machine.settings.failure misuse.fault ∧ left = progress.raised misuse

section Calls

variable {progress : Progress} {kernel : Kernel} {operation : Operation} {α : Type}
  {returned : α → Progress → Prop}

/-- A misuse of the kernel that is raised is the refusal of the operation. -/
theorem ends_raise_refused {misuse : Misuse}
    (misused : kernel.attempt operation = .error misuse) :
    Ends (raise misuse) progress returned (Refused kernel operation progress) :=
  ends_raise ⟨misuse, misused, rfl, rfl⟩

/-- An operation that only reads is answered from the tables. -/
theorem answered_read (same : progress.machine.Represents kernel) {reply : Reply}
    (read : kernel.attempt operation = .ok (kernel, reply)) :
    Answered kernel operation progress reply progress :=
  ⟨kernel, read, rfl, fun _ => same⟩

/-- What the kernel stores is stored, and what it refuses is raised. -/
theorem ends_storeJoined_kernel (same : progress.machine.Represents kernel)
    (joined : Except Fault ByteString)
    (stores : kernel.attempt operation = kernel.storeJoined joined) :
    Ends (storeJoined joined) progress (Answered kernel operation progress)
      (Refused kernel operation progress) := by
  cases joined with
  | error fault => exact ends_raise_refused stores
  | ok text =>
    refine ends_storeString (fun tooLong => ?_) fun fits => ?_
    · rw [same.settings] at tooLong ⊢
      exact ends_raise_refused (stores.trans (Kernel.store_refused tooLong))
    · rw [same.settings] at fits
      rw [same.nextHandle]
      exact ⟨_, stores.trans (Kernel.store_accepted fits), rfl, same.withString text⟩

/-- A list that the kernel looks for is looked for in the table of lists. -/
theorem ends_listFor_kernel (same : progress.machine.Represents kernel) {handle : Int}
    {next : DynamicList Value → Action Reply}
    {following : DynamicList Value → Except Misuse (Kernel × Reply)}
    (looks : kernel.attempt operation = kernel.list handle >>= following)
    (found : ∀ contents, kernel.container? handle = some (.list contents) →
      kernel.attempt operation = following contents →
      Ends (next contents) progress (Answered kernel operation progress)
        (Refused kernel operation progress)) :
    Ends (listFor handle >>= next) progress (Answered kernel operation progress)
      (Refused kernel operation progress) := by
  refine ends_bind (ends_listFor (fun contents there => ?_) fun absent => ?_)
  · have live := same.list_live there
    rw [(kernel.list_ok_iff handle contents).mpr live] at looks
    exact found contents live looks
  · rw [same.list_error absent] at looks
    exact ends_raise_refused looks

/-- A string that the kernel looks for is looked for in the table of strings. -/
theorem ends_stringFor_kernel (same : progress.machine.Represents kernel) {handle : Int}
    {next : ByteString → Action Reply} {following : ByteString → Except Misuse (Kernel × Reply)}
    (looks : kernel.attempt operation = kernel.string handle >>= following)
    (found : ∀ contents, kernel.attempt operation = following contents →
      Ends (next contents) progress (Answered kernel operation progress)
        (Refused kernel operation progress)) :
    Ends (stringFor handle >>= next) progress (Answered kernel operation progress)
      (Refused kernel operation progress) := by
  refine ends_bind (ends_stringFor (fun contents there => ?_) fun absent => ?_)
  · rw [(kernel.string_ok_iff handle contents).mpr (same.string_live there)] at looks
    exact found contents looks
  · rw [same.string_error absent] at looks
    exact ends_raise_refused looks

/-- A call on a machine that stands for a kernel ends as the kernel's operation does. -/
theorem ends_call_kernel (same : progress.machine.Represents kernel) (operation : Operation) :
    Ends (call operation) progress (Answered kernel operation progress)
      (Refused kernel operation progress) := by
  cases operation with
  | listNew =>
    have returned : Answered kernel .listNew progress (.handle progress.machine.nextHandle)
        { progress with machine := progress.machine.withList } := by
      rw [same.nextHandle]
      exact ⟨_, rfl, rfl, same.withList⟩
    exact returned
  | listAppend handle value =>
    refine ends_listFor_kernel same rfl fun contents live attempted => ?_
    refine ends_bind (ends_appendItem (fun fault refused => ?_) fun grown events grew => ?_)
    · rw [Kernel.appendTo, refused] at attempted
      exact ends_raise_refused attempted
    · rw [Kernel.appendTo, grew] at attempted
      exact ends_pure ⟨_, attempted, rfl, fun _ => same.withGrown live grown events⟩
  | listAt handle index =>
    refine ends_listFor_kernel same rfl fun contents _ attempted => ?_
    cases read : contents.itemAt index with
    | ok value =>
      rw [read] at attempted
      exact ends_pure (answered_read same attempted)
    | error fault =>
      rw [read] at attempted
      exact ends_raise_refused attempted
  | listLength handle | listItems handle =>
    exact ends_listFor_kernel same rfl fun contents _ attempted =>
      ends_pure (answered_read same attempted)
  | stringNew data => exact ends_storeJoined_kernel same (.ok (.ofTerminated data)) rfl
  | stringAdd handle suffix =>
    exact ends_stringFor_kernel same rfl fun text attempted =>
      ends_storeJoined_kernel same _ attempted
  | stringConcat handle suffix =>
    refine ends_stringFor_kernel same rfl fun text looks => ?_
    exact ends_stringFor_kernel same looks fun tail attempted =>
      ends_storeJoined_kernel same _ attempted
  | stringLength handle | stringBytes handle =>
    exact ends_stringFor_kernel same rfl fun text attempted =>
      ends_pure (answered_read same attempted)
  | stringAt handle index =>
    refine ends_stringFor_kernel same rfl fun text attempted => ?_
    cases read : text.byteAt index with
    | ok byte =>
      rw [read] at attempted
      exact ends_pure (answered_read same attempted)
    | error fault =>
      rw [read] at attempted
      exact ends_raise_refused attempted

end Calls

/-! ## Runs -/

section Runs

variable {machine : Machine} {kernel : Kernel}

/-- An operation on a machine that stands for a kernel comes out as it does on the kernel,
and as long as the next handle is a word, the machine goes on standing for the kernel. -/
theorem step_represents (same : machine.Represents kernel) (operation : Operation) :
    (machine.step operation).2 = (kernel.step operation).2 ∧
      (((kernel.step operation).1.containers.size : Int) < Word.largest →
        (machine.step operation).1.Represents (kernel.step operation).1) := by
  obtain ⟨reply, left, ⟨next, attempted, silent, kept⟩, stepped⟩ |
      ⟨failure, left, ⟨misuse, attempted, told, raised⟩, stepped⟩ :=
    step_of_ends (@ends_call_kernel { machine } kernel same operation)
  · rw [stepped, silent, Kernel.step, attempted]
    exact ⟨rfl, kept⟩
  · rw [stepped, told, raised, Kernel.step, attempted]
    rw [Kernel.report_outcome, ← same.settings]
    exact ⟨rfl, fun _ => same.counting misuse⟩

/-- A run on a machine that stands for a kernel comes out as it does on the kernel and leaves
a machine that stands for what is left of the kernel, if the next handle is a word in the
end. -/
theorem run_represents (same : machine.Represents kernel) (operations : List Operation)
    (room : ((kernel.run operations).1.containers.size : Int) < Word.largest) :
    (machine.run operations).2 = (kernel.run operations).2 ∧
      (machine.run operations).1.Represents (kernel.run operations).1 := by
  induction operations generalizing machine kernel with
  | nil => exact ⟨rfl, same⟩
  | cons operation rest inductionHypothesis =>
    obtain ⟨answered, kept⟩ := step_represents same operation
    have fewer : ((kernel.step operation).1.containers.size : Int) < Word.largest :=
      Int.lt_of_le_of_lt (Int.ofNat_le.mpr ((kernel.step operation).1.size_le_run rest)) room
    obtain ⟨answers, left⟩ := inductionHypothesis (kept fewer) room
    rw [run_cons, Kernel.run_cons, answered, answers]
    exact ⟨rfl, left⟩

end Runs

end Machine

end ContainerKernel
