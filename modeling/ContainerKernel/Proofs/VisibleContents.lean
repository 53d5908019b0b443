import ContainerKernel.Proofs.KernelSteps

/-!
# What callers cannot see of a kernel

How a list grows decides when its buffer is replaced and how many slots it then
has. No reply, no fault and no text ever depends on these: an append is refused by
the length alone, and the items are the same in every buffer. The counters are
told of all this and are never asked. So two kernels that differ in their growth
and in their counters, of which either may be without any, cannot be told apart
by operations.

A kernel is compared with another through `visible`, the kernel without its
counters, with growth and capacities at fixed values. One operation on the visible
kernel does what it does on the kernel (`step_visible`), so that kernels with one
visible kernel answer alike and keep having one (`step_of_visible`). That their
capacities and counters may differ is shown by an instance at the end.
-/

namespace ContainerKernel

/-- The list with its items and its limit only. -/
def DynamicList.visible {α : Type} (list : DynamicList α) : DynamicList α :=
  { items := list.items, maxLength := list.maxLength }

/-- The container as callers see it. -/
def Container.visible : Container → Container
  | .list items => .list items.visible
  | .string text => .string text

/-- What a container holds: the items of a list or the bytes of a string. -/
def Container.contents : Container → List Value ⊕ Bytes
  | .list items => .inl items.items.toList
  | .string text => .inr text.bytes

/-- What a container holds is visible. -/
@[simp] theorem Container.contents_visible (container : Container) :
    container.visible.contents = container.contents := by
  cases container <;> rfl

/-- The settings as callers see them. -/
def Settings.visible (settings : Settings) : Settings :=
  { settings with growth := .doubling }

/-- An append to a list is decided by what is visible of it, and leaves what is
visible of the result. -/
theorem DynamicList.append_visible {α : Type} (list : DynamicList α) (item : α) :
    (list.visible.append item).map (·.1.visible) = (list.append item).map (·.1.visible) := by
  have sameLimit : list.visible.limit = list.limit := rfl
  have sameLength : list.visible.length = list.length := rfl
  by_cases full : (list.length : Int) ≥ list.limit
  · have visiblyFull : (list.visible.length : Int) ≥ list.visible.limit := full
    rw [append_full item full, append_full item visiblyFull, sameLength, sameLimit]
  · have visiblyFree : ¬ (list.visible.length : Int) ≥ list.visible.limit := full
    rw [append_free item full, append_free item visiblyFree]
    simp only [Except.map, DynamicList.visible, reserve_items, reserve_maxLength]

namespace Kernel

variable {kernel other : Kernel}

/-- The kernel as callers see it. -/
def visible (kernel : Kernel) : Kernel where
  settings := kernel.settings.visible
  containers := kernel.containers.map Container.visible

/-- Seeing twice is seeing once. -/
@[simp] theorem visible_visible (kernel : Kernel) : kernel.visible.visible = kernel.visible := by
  have once : ∀ container : Container, container.visible.visible = container.visible := by
    intro container
    cases container <;> rfl
  simp only [visible, Array.map_map, Function.comp_def, once]
  rfl

/-! ## One operation -/

/-- A handle names what is visible of its container. -/
theorem container?_visible (kernel : Kernel) (handle : Int) :
    kernel.visible.container? handle = (kernel.container? handle).map Container.visible := by
  unfold container?
  split
  · rfl
  · exact Array.getElem?_map

/-- The list at a handle is visible. -/
theorem list_visible (kernel : Kernel) (handle : Int) :
    kernel.visible.list handle = (kernel.list handle).map DynamicList.visible := by
  unfold list
  rw [container?_visible]
  cases kernel.container? handle with
  | none => rfl
  | some contents => cases contents <;> rfl

/-- The string at a handle is visible. -/
theorem string_visible (kernel : Kernel) (handle : Int) :
    kernel.visible.string handle = kernel.string handle := by
  unfold string
  rw [container?_visible]
  cases kernel.container? handle with
  | none => rfl
  | some contents => cases contents <;> rfl

/-- A new container has the same handle and the same looks. -/
theorem add_visible (kernel : Kernel) {seen added : Container}
    (same : seen.visible = added.visible) :
    (kernel.visible.add seen).1.visible = (kernel.add added).1.visible ∧
      (kernel.visible.add seen).2 = (kernel.add added).2 := by
  constructor
  · have old := congrArg containers (visible_visible kernel)
    simp only [visible, add, Array.map_push, same] at old ⊢
    rw [old]
    rfl
  · simp only [visible, add, Array.size_map]

/-- Storing a string does the same to the visible kernel. -/
theorem store_visible (kernel : Kernel) (text : ByteString) :
    (kernel.visible.store text).map (Prod.map visible id) =
      (kernel.store text).map (Prod.map visible id) := by
  by_cases tooLong : kernel.settings.stringLimit > 0 ∧
      (text.length : Int) > kernel.settings.stringLimit
  · have visibly : kernel.visible.settings.stringLimit > 0 ∧
        (text.length : Int) > kernel.visible.settings.stringLimit := tooLong
    rw [store_refused tooLong, store_refused visibly]
    rfl
  · have visibly : ¬ (kernel.visible.settings.stringLimit > 0 ∧
        (text.length : Int) > kernel.visible.settings.stringLimit) := tooLong
    obtain ⟨added, sameHandle⟩ := add_visible kernel (rfl : (Container.string text).visible = _)
    rw [store_accepted tooLong, store_accepted visibly, sameHandle]
    exact congrArg (fun seen : Kernel => Except.ok (seen, Reply.handle _)) added

/-- Storing the outcome of a join does the same to the visible kernel. -/
theorem storeJoined_visible (kernel : Kernel) (joined : Except Fault ByteString) :
    (kernel.visible.storeJoined joined).map (Prod.map visible id) =
      (kernel.storeJoined joined).map (Prod.map visible id) := by
  cases joined with
  | error fault => rfl
  | ok text => exact store_visible kernel text

/-- A list may be replaced by one of the same looks. -/
theorem setList_visible (kernel : Kernel) (handle : Int) {seen grown : DynamicList Value}
    (same : seen.visible = grown.visible) :
    (kernel.visible.setList handle seen).visible = (kernel.setList handle grown).visible := by
  have old := congrArg containers (visible_visible kernel)
  simp only [visible, setList, Array.map_setIfInBounds, Container.visible, same] at old ⊢
  rw [old]
  rfl

/-- Appending to a list does the same to the visible kernel. -/
theorem appendTo_visible (kernel : Kernel) (handle : Int) (contents : DynamicList Value)
    (value : Option Value) :
    (kernel.visible.appendTo handle contents.visible value).map (Prod.map visible id) =
      (kernel.appendTo handle contents value).map (Prod.map visible id) := by
  have appended := contents.append_visible (value.getD .nil)
  unfold appendTo
  cases plainly : contents.append (value.getD .nil) with
  | error fault =>
    cases visibly : contents.visible.append (value.getD .nil) with
    | error same =>
      rw [plainly, visibly] at appended
      cases appended
      rfl
    | ok answer =>
      rw [plainly, visibly] at appended
      cases appended
  | ok answer =>
    cases visibly : contents.visible.append (value.getD .nil) with
    | error fault =>
      rw [plainly, visibly] at appended
      cases appended
    | ok seen =>
      rw [plainly, visibly] at appended
      have replaced := setList_visible kernel handle (Except.ok.inj appended)
      exact congrArg (fun left : Kernel => Except.ok (left, Reply.done)) replaced

/-- Every operation does the same to the visible kernel, or is the same misuse of
it. -/
theorem attempt_visible (kernel : Kernel) (operation : Operation) :
    (kernel.visible.attempt operation).map (Prod.map visible id) =
      (kernel.attempt operation).map (Prod.map visible id) := by
  have kept : ∀ reply : Reply, (Except.ok (kernel.visible, reply) :
      Except Misuse (Kernel × Reply)).map (Prod.map visible id) =
        (Except.ok (kernel, reply)).map (Prod.map visible id) := by
    intro reply
    exact congrArg (fun seen : Kernel => Except.ok (seen, reply)) (visible_visible kernel)
  cases operation with
  | listNew =>
    obtain ⟨added, sameHandle⟩ := @add_visible kernel (.list kernel.visible.newList)
      (.list kernel.newList) rfl
    simp only [attempt, sameHandle]
    exact congrArg (fun seen : Kernel => Except.ok (seen, Reply.handle _)) added
  | listAppend handle value =>
    simp only [attempt, list_visible]
    cases kernel.list handle with
    | error misuse => rfl
    | ok contents => exact appendTo_visible kernel handle contents value
  | listAt handle index =>
    simp only [attempt, list_visible, bind, Except.bind]
    cases kernel.list handle with
    | error misuse => rfl
    | ok contents =>
      simp only [Except.map]
      rw [show contents.visible.itemAt index = contents.itemAt index from rfl]
      cases contents.itemAt index with
      | error fault => rfl
      | ok value => exact kept (.value value)
  | listLength handle | listItems handle =>
    simp only [attempt, list_visible]
    cases kernel.list handle with
    | error misuse => rfl
    | ok contents => exact kept _
  | stringNew data => exact store_visible kernel (.ofTerminated data)
  | stringAdd handle suffix =>
    simp only [attempt, string_visible]
    cases kernel.string handle with
    | error misuse => rfl
    | ok text => exact storeJoined_visible kernel (text.appendTerminated suffix)
  | stringConcat handle suffix =>
    simp only [attempt, string_visible]
    cases kernel.string handle with
    | error misuse => rfl
    | ok text =>
      cases kernel.string suffix with
      | error misuse => rfl
      | ok tail => exact storeJoined_visible kernel (text.append tail)
  | stringLength handle | stringBytes handle =>
    simp only [attempt, string_visible]
    cases kernel.string handle with
    | error misuse => rfl
    | ok text => exact kept _
  | stringAt handle index =>
    simp only [attempt, string_visible, bind, Except.bind]
    cases kernel.string handle with
    | error misuse => rfl
    | ok text =>
      dsimp only
      cases text.byteAt index with
      | error fault => rfl
      | ok byte => exact kept (.byte byte)

/-- What comes of a misuse is visible, and a misuse changes nothing that is. -/
theorem report_visible (kernel : Kernel) (misuse : Misuse) :
    (kernel.visible.report misuse).2 = (kernel.report misuse).2 ∧
      (kernel.report misuse).1.visible = kernel.visible := by
  constructor
  · by_cases aborts : kernel.settings.policy = .abort
    · have visibly : kernel.visible.settings.policy = .abort := aborts
      simp only [report, if_pos aborts, if_pos visibly]
      rfl
    · have visibly : kernel.visible.settings.policy ≠ .abort := aborts
      simp only [report, if_neg aborts, if_neg visibly]
      rfl
  · rw [report_kernel]
    rfl

/-- An operation on the visible kernel is answered as on the kernel, and leaves what
is visible of what it leaves there. -/
theorem step_visible (kernel : Kernel) (operation : Operation) :
    (kernel.visible.step operation).2 = (kernel.step operation).2 ∧
      (kernel.visible.step operation).1.visible = (kernel.step operation).1.visible := by
  have attempted := attempt_visible kernel operation
  unfold step
  cases plainly : kernel.attempt operation with
  | ok answer =>
    cases visibly : kernel.visible.attempt operation with
    | ok seen =>
      rw [plainly, visibly] at attempted
      obtain ⟨sameKernel, sameReply⟩ := Prod.mk.inj (Except.ok.inj attempted)
      exact ⟨congrArg (fun reply => Outcome.mk (.ok reply) {}) sameReply, sameKernel⟩
    | error misuse =>
      rw [plainly, visibly] at attempted
      cases attempted
  | error misuse =>
    cases visibly : kernel.visible.attempt operation with
    | ok seen =>
      rw [plainly, visibly] at attempted
      cases attempted
    | error same =>
      rw [plainly, visibly] at attempted
      cases attempted
      obtain ⟨outcome, left⟩ := report_visible kernel misuse
      refine ⟨outcome, ?_⟩
      rw [left, (report_visible kernel.visible misuse).2, visible_visible]

/-! ## Kernels that look alike -/

/-- Kernels that look alike answer an operation alike and still look alike. -/
theorem step_of_visible (alike : kernel.visible = other.visible) (operation : Operation) :
    (kernel.step operation).2 = (other.step operation).2 ∧
      (kernel.step operation).1.visible = (other.step operation).1.visible := by
  have left := step_visible kernel operation
  have right := step_visible other operation
  rw [alike] at left
  exact ⟨left.1.symm.trans right.1, left.2.symm.trans right.2⟩

/-- Kernels that look alike answer alike over whole runs and still look alike. -/
theorem run_of_visible (alike : kernel.visible = other.visible) (operations : List Operation) :
    (kernel.run operations).2 = (other.run operations).2 ∧
      (kernel.run operations).1.visible = (other.run operations).1.visible := by
  induction operations generalizing kernel other with
  | nil => exact ⟨rfl, alike⟩
  | cons operation rest inductionHypothesis =>
    obtain ⟨answered, after⟩ := step_of_visible alike operation
    obtain ⟨answers, left⟩ := inductionHypothesis after
    rw [run_cons, run_cons, answered, answers]
    exact ⟨rfl, left⟩

/-- Kernels that look alike hold the same, in the same order. -/
theorem contents_of_visible (alike : kernel.visible = other.visible) :
    kernel.containers.map Container.contents = other.containers.map Container.contents := by
  have held := congrArg (fun seen : Kernel => seen.containers.map Container.contents) alike
  simpa only [visible, Array.map_map, Function.comp_def, Container.contents_visible] using held

/-- The counts are visible. -/
theorem counts_visible (kernel : Kernel) : kernel.visible.counts = kernel.counts := by
  unfold counts
  simp only [visible, Array.countP_map]
  congr 2
  all_goals
    funext container
    cases container <;> rfl

/-- **Growth and counters are not seen.** Take any settings with two ways of growing,
and two kernels with these and with any counters or none. After the same operations,
however many,

* every operation has been answered alike by the two: with the same reply or the same
  failure, and with the same printed text, log lines and exits;
* the two hold the same items and the same bytes at the same handles, and count as
  many lists and strings. -/
theorem growth_and_counters_unseen (settings : Settings) (growth otherGrowth : Growth)
    (metrics otherMetrics : Option Metrics) (operations : List Operation) :
    let left := (start { settings with growth } metrics).run operations
    let right := (start { settings with growth := otherGrowth } otherMetrics).run operations
    left.2 = right.2 ∧
    left.1.containers.map Container.contents = right.1.containers.map Container.contents ∧
    left.1.counts = right.1.counts := by
  intro left right
  have initially : (start { settings with growth } metrics).visible =
      (start { settings with growth := otherGrowth } otherMetrics).visible := rfl
  obtain ⟨answers, alike⟩ := run_of_visible initially operations
  refine ⟨answers, contents_of_visible alike, ?_⟩
  rw [← counts_visible, alike, counts_visible]

/-- The capacity of the list with the given handle, where there is one. -/
def capacity? (kernel : Kernel) (handle : Int) : Option Int :=
  match kernel.container? handle with
  | some (.list contents) => some contents.capacity
  | _ => none

/-- Six values in a list that grows exactly and in one that doubles: the buffers and
what is counted of them differ, and the items are the same. -/
theorem buffers_differ_items_agree :
    let settings : Settings := { listLimit := 9, policy := .error }
    let operations : List Operation := .listNew :: List.replicate 6 (.listAppend 1 none)
    let left := (start { settings with growth := .exact } (some {})).run operations
    let right := (start { settings with growth := .doubling } (some {})).run operations
    left.1.containers.map Container.contents = right.1.containers.map Container.contents ∧
      left.1.capacity? 1 = some 6 ∧ right.1.capacity? 1 = some 8 ∧
      left.1.metrics.map Metrics.snapshot = some ⟨6, 6, 21, 0, 0⟩ ∧
      right.1.metrics.map Metrics.snapshot = some ⟨6, 4, 15, 0, 0⟩ := by
  intro settings operations
  have unseen := growth_and_counters_unseen settings .exact .doubling (some {}) (some {}) operations
  refine ⟨unseen.2.1, ?_, ?_, ?_, ?_⟩
  all_goals decide +kernel

end Kernel

end ContainerKernel
