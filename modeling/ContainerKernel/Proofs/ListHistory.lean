import ContainerKernel.Proofs.KernelSteps

/-!
# A list holds what was appended to it

The contents of a list are a function of the operations after the one that made
it: the values of the appends to its handle, in order, cut at the limit of the
settings. Other handles, misuse, growth of the buffer and the policy for faults
play no part. Reads answer from exactly these values, and exactly the appends
beyond the cut are refused.

Without a limit in the settings the largest word is the limit in force. A run
with fewer operations than a quarter of the words never reaches it, and this is
the only use of the bound on the number of operations.
-/

namespace ContainerKernel

/-- A quarter of the number of words, 2 ^ 62. -/
def Word.quarter : Nat := 4611686018427387904

example : Word.quarter * 4 = Word.range := by decide

/-- The value that an operation is to append to the list with the given handle,
where a missing one stands for nil. -/
def Operation.appends (handle : Int) : Operation → Option Value
  | .listAppend target value => if target = handle then some (value.getD .nil) else none
  | _ => none

/-- The values that operations are to append to the list with the given handle. -/
def appendedValues (handle : Int) (operations : List Operation) : List Value :=
  operations.filterMap (Operation.appends handle)

/-- The first values, as many as the settings let a list hold. -/
def Settings.cut (settings : Settings) (values : List Value) : List Value :=
  if settings.listLimit > 0 then values.take settings.listLimit.toNat else values

/-- There are no more appended values than operations. -/
theorem appendedValues_length (handle : Int) (operations : List Operation) :
    (appendedValues handle operations).length ≤ operations.length :=
  List.length_filterMap_le _ _

/-- Cutting at the limit in force is cutting at the limit of the settings, as
long as there are too few values for the largest word to matter. -/
theorem take_limit (settings : Settings) (values : List Value)
    (short : values.length < Word.quarter) :
    values.take (if settings.listLimit > 0 then settings.listLimit else Word.largest).toNat =
      settings.cut values := by
  unfold Settings.cut
  split
  · rfl
  · have inside : values.length ≤ Word.largest.toNat := by
      simp only [Word.quarter, Word.largest] at short ⊢
      omega
    exact List.take_of_length_le inside

/-- The values kept fill the limit in force exactly when the settings have a
limit and there are that many values. -/
theorem cut_full_iff (settings : Settings) (values : List Value)
    (short : values.length < Word.quarter) :
    ((settings.cut values).length : Int) ≥
        (if settings.listLimit > 0 then settings.listLimit else Word.largest) ↔
      settings.listLimit > 0 ∧ (values.length : Int) ≥ settings.listLimit := by
  unfold Settings.cut
  split
  · next positive =>
    rw [List.length_take]
    omega
  · next none =>
    simp only [Word.quarter, Word.largest] at short ⊢
    omega

/-- The effect of operations on a list is that of the appends among them. -/
theorem foldl_after_list (handle : Int) (list : DynamicList Value) (operations : List Operation) :
    operations.foldl (Container.after handle) (.list list) =
      .list ((appendedValues handle operations).foldl DynamicList.appended list) := by
  induction operations generalizing list with
  | nil => rfl
  | cons operation rest inductionHypothesis =>
    cases appended : operation.appends handle with
    | none =>
      have apart : ∀ value, operation ≠ .listAppend handle value := by
        rintro value rfl
        simp [Operation.appends] at appended
      rw [List.foldl_cons, Container.after_other _ apart, inductionHypothesis]
      simp only [appendedValues, List.filterMap_cons, appended]
    | some item =>
      have effect : (Container.list list).after handle operation = .list (list.appended item) := by
        unfold Operation.appends at appended
        split at appended
        · next target value =>
          split at appended
          · next same =>
            simp only [Container.after, if_pos same, Option.some.inj appended]
          · cases appended
        · cases appended
      rw [List.foldl_cons, effect, inductionHypothesis]
      simp only [appendedValues, List.filterMap_cons, appended, List.foldl_cons]

namespace Kernel

variable {kernel : Kernel} {handle : Int} {contents : DynamicList Value}

/-! ## What operations on a live list answer -/

/-- All items of a live list are returned. -/
theorem step_listItems (live : kernel.container? handle = some (.list contents)) :
    (kernel.step (.listItems handle)).2.result = .ok (.items contents.items.toList) := by
  have found := (list_ok_iff kernel handle contents).mpr live
  rw [step_result]
  simp only [attempt, found]
  rfl

/-- The length of a live list is returned. -/
theorem step_listLength (live : kernel.container? handle = some (.list contents)) :
    (kernel.step (.listLength handle)).2.result =
      .ok (.length contents.items.toList.length) := by
  have found := (list_ok_iff kernel handle contents).mpr live
  rw [step_result, Array.length_toList]
  simp only [attempt, found]
  rfl

/-- A live list is read at the indices inside it; any other index is a fault. -/
theorem step_listAt (index : Int) (live : kernel.container? handle = some (.list contents))
    {values : List Value} (items : contents.items.toList = values) :
    (kernel.step (.listAt handle index)).2.result =
      if inside : 0 ≤ index ∧ index < values.length then
        .ok (.value (values.get ⟨index.toNat, by omega⟩))
      else .error (kernel.settings.failure (.index (utf8 "list") index values.length)) := by
  subst items
  have found := (list_ok_iff kernel handle contents).mpr live
  rw [step_result]
  simp only [attempt, found, bind, Except.bind]
  by_cases inside : 0 ≤ index ∧ index < contents.items.toList.length
  · rw [DynamicList.itemAt_inside inside, dif_pos inside]
    rfl
  · rw [DynamicList.itemAt_outside inside, dif_neg inside]
    rfl

/-- An append to a live list is refused exactly when the list is full. -/
theorem step_listAppend (value : Option Value)
    (live : kernel.container? handle = some (.list contents)) :
    (kernel.step (.listAppend handle value)).2.result =
      if (contents.length : Int) ≥ contents.limit then
        .error (kernel.settings.failure
          (.allocation (utf8 "list") (contents.length + 1) contents.limit))
      else .ok .done := by
  rw [step_result, attempt_listAppend value live]
  unfold appendTo
  split
  · next fault refused =>
    by_cases full : (contents.length : Int) ≥ contents.limit
    · rw [DynamicList.append_full _ full] at refused
      cases refused
      rw [if_pos full]
      rfl
    · rw [DynamicList.append_free _ full] at refused
      cases refused
  · next grown events grew =>
    by_cases full : (contents.length : Int) ≥ contents.limit
    · rw [DynamicList.append_full _ full] at grew
      cases grew
    · rw [if_neg full]
      rfl

/-! ## What all lists have in common -/

/-- A list of the kernel after an operation was there before, or is new, or is one
that was there with a value more. -/
theorem list_mem_step {operation : Operation} {stored : DynamicList Value}
    (found : Container.list stored ∈ (kernel.step operation).1.containers) :
    Container.list stored ∈ kernel.containers ∨ stored = kernel.newList ∨
      ∃ earlier value, Container.list earlier ∈ kernel.containers ∧
        stored = earlier.appended value := by
  obtain ⟨next, reply, done, stepped⟩ | ⟨misuse, _, stepped⟩ := step_cases kernel operation
  · rw [stepped] at found
    cases done with
    | read _ _ => exact .inl found
    | listMade =>
      obtain old | new := Array.mem_push.mp found
      · exact .inl old
      · exact .inr (.inl (Container.list.inj new))
    | stringMade text _ _ =>
      obtain old | new := Array.mem_push.mp found
      · exact .inl old
      · cases new
    | @appended target value earlier grown events live grew =>
      obtain old | new := Array.mem_or_eq_of_mem_setIfInBounds found
      · exact .inl old
      · refine .inr (.inr ⟨earlier, value.getD .nil, ?_, ?_⟩)
        · exact Array.mem_of_getElem? (getElem?_of_live live)
        · rw [DynamicList.appended, grew]
          exact Container.list.inj new
  · rw [stepped, report_kernel] at found
    exact .inl found

/-- Every list has the growth and the limit of the settings. -/
def ListsConfigured (kernel : Kernel) : Prop :=
  ∀ stored, Container.list stored ∈ kernel.containers →
    stored.growth = kernel.settings.growth ∧ stored.maxLength = kernel.settings.listLimit

/-- Every operation keeps the growth and the limit of the settings for every
list. -/
theorem listsConfigured_step (kernel : Kernel) (operation : Operation)
    (configured : kernel.ListsConfigured) : (kernel.step operation).1.ListsConfigured := by
  intro stored found
  rw [settings_step]
  obtain old | rfl | ⟨earlier, value, old, rfl⟩ := list_mem_step found
  · exact configured stored old
  · exact ⟨rfl, rfl⟩
  · obtain ⟨growth, limit⟩ := configured earlier old
    obtain ⟨sameGrowth, sameLimit⟩ := earlier.appended_configured value
    exact ⟨sameGrowth.trans growth, sameLimit.trans limit⟩

/-! ## The history of a list -/

/-- The handle that making a list returns names an empty list with the limit of
the settings. -/
theorem container?_listNew
    (made : (kernel.step .listNew).2.result = .ok (.handle handle)) :
    (kernel.step .listNew).1.container? handle = some (.list kernel.newList) := by
  have same : (kernel.add (.list kernel.newList)).2 = handle := by
    cases made
    rfl
  rw [← same]
  exact container?_add_new kernel (.list kernel.newList)

/-- A run makes fewer appends than a quarter of the words if it has fewer
operations. -/
theorem few_appended {before after : List Operation} (handle : Int)
    (few : (before ++ .listNew :: after).length < Word.quarter) :
    (appendedValues handle after).length < Word.quarter := by
  have shorter := appendedValues_length handle after
  simp only [List.length_append, List.length_cons] at few
  omega

/-- The list that a run leaves at the handle of a list it made.

What the handle names is the fold of the later operations over the empty list,
hence of the later appends alone, and the items of that fold are their values up
to the limit in force. -/
theorem list_of_history (settings : Settings) (metrics : Option Metrics)
    (before after : List Operation) (handle : Int)
    (few : (before ++ .listNew :: after).length < Word.quarter)
    (made : (((start settings metrics).run before).1.step .listNew).2.result =
      .ok (.handle handle)) :
    ∃ contents,
      ((start settings metrics).run (before ++ .listNew :: after)).1.container? handle =
        some (.list contents) ∧
      contents.items.toList = settings.cut (appendedValues handle after) ∧
      contents.limit =
        if settings.listLimit > 0 then settings.listLimit else Word.largest := by
  have live := container?_run after (container?_listNew made)
  rw [foldl_after_list] at live
  have limited : ((start settings metrics).run before).1.newList.limit =
      if settings.listLimit > 0 then settings.listLimit else Word.largest := by
    simp only [DynamicList.limit, newList, settings_run]
    rfl
  have vacant : (((start settings metrics).run before).1.newList.length : Int) ≤
      ((start settings metrics).run before).1.newList.limit := DynamicList.limit_nonneg _
  rw [run_append]
  refine ⟨_, live, ?_, ?_⟩
  · rw [DynamicList.appended_all_items _ _ vacant, limited]
    exact take_limit settings _ (few_appended handle few)
  · rw [DynamicList.appended_all_limit, limited]

/-- **The history of a list.** Take any settings, any operations `before` a list
is made and any operations `after` it, fewer in all than a quarter of the words.
With the handle that making the list returned:

* its items are the values of the later appends to the handle, in order and cut
  at the limit of the settings, and its length is theirs;
* reading at an index gives the value there, and outside of them a fault that
  names the index and the length;
* one more append is refused exactly when the earlier ones have used up a limit,
  with a fault that names the length asked for and the limit;
* the list, with its capacity, survives every operation that is not an append to
  the handle, and every operation that fails.

Because `after` is arbitrary this holds at every moment of a run. -/
theorem list_holds_appended_values (settings : Settings) (metrics : Option Metrics)
    (before after : List Operation) (handle : Int)
    (few : (before ++ .listNew :: after).length < Word.quarter)
    (made : (((start settings metrics).run before).1.step .listNew).2.result =
      .ok (.handle handle)) :
    let kernel := ((start settings metrics).run (before ++ .listNew :: after)).1
    let appended := appendedValues handle after
    let values := settings.cut appended
    (kernel.step (.listItems handle)).2.result = .ok (.items values) ∧
    (kernel.step (.listLength handle)).2.result = .ok (.length values.length) ∧
    (∀ index : Int, (kernel.step (.listAt handle index)).2.result =
      if inside : 0 ≤ index ∧ index < values.length then
        .ok (.value (values.get ⟨index.toNat, by omega⟩))
      else .error (settings.effective.failure (.index (utf8 "list") index values.length))) ∧
    (∀ value, (kernel.step (.listAppend handle value)).2.result =
      if settings.listLimit > 0 ∧ (appended.length : Int) ≥ settings.listLimit then
        .error (settings.effective.failure
          (.allocation (utf8 "list") (values.length + 1) settings.listLimit))
      else .ok .done) ∧
    (∀ operation,
      (∀ value, operation ≠ .listAppend handle value) ∨
        (∃ failure, (kernel.step operation).2.result = .error failure) →
      (kernel.step operation).1.container? handle = kernel.container? handle) := by
  intro kernel appended values
  obtain ⟨contents, live, items, limit⟩ :=
    list_of_history settings metrics before after handle few made
  have told : kernel.settings = settings.effective := settings_run _ _
  have full : (contents.length : Int) ≥ contents.limit ↔
      settings.listLimit > 0 ∧ (appended.length : Int) ≥ settings.listLimit := by
    rw [DynamicList.length, ← Array.length_toList, items, limit]
    exact cut_full_iff settings appended (few_appended handle few)
  refine ⟨?_, ?_, ?_, ?_, ?_⟩
  · rw [step_listItems live, items]
  · rw [step_listLength live, items]
  · intro index
    rw [← told]
    exact step_listAt index live items
  · intro value
    rw [step_listAppend value live, told]
    by_cases used : settings.listLimit > 0 ∧ (appended.length : Int) ≥ settings.listLimit
    · rw [if_pos used, if_pos (full.mpr used), limit, if_pos used.1, DynamicList.length,
        ← Array.length_toList, items]
    · rw [if_neg used, if_neg (fun isFull => used (full.mp isFull))]
  · intro operation unaffected
    rw [container?_step operation live, live]
    obtain apart | ⟨failure, failed⟩ := unaffected
    · rw [Container.after_other _ apart]
    · obtain ⟨misuse, attempted⟩ := misuse_of_failure failed
      rw [after_of_misuse live attempted]

/-- The second of two lists under a limit of two: appends to the other list and a
misuse lie between its own, a missing value is stored as nil, and the third
append is refused with the exit signal because the kernel aborts on faults. -/
theorem second_list_under_limit :
    let settings : Settings := { listLimit := 2, policy := .unknown [], exitCode := 0 }
    let before : List Operation := [.listNew, .stringNew [97]]
    let after : List Operation :=
      [.listAppend 3 none, .listAppend 1 (some (.bool true)), .listAt 3 5,
        .listAppend 3 (some (.integer 7)), .listAppend 3 (some (.byte 1))]
    let kernel := ((start settings none).run (before ++ .listNew :: after)).1
    (before ++ .listNew :: after).length < Word.quarter ∧
    (((start settings none).run before).1.step .listNew).2.result = .ok (.handle 3) ∧
    (kernel.step (.listItems 3)).2.result = .ok (.items [.nil, .integer 7]) ∧
    (kernel.step (.listAppend 3 none)).2.result =
      .error (.joined (.exit 1) (.fault (.allocation (utf8 "list") 3 2))) := by
  intro settings before after kernel
  have few : (before ++ .listNew :: after).length < Word.quarter := by decide
  have made : (((start settings none).run before).1.step .listNew).2.result =
      .ok (.handle 3) := rfl
  obtain ⟨items, _, _, append, _⟩ :=
    list_holds_appended_values settings none before after 3 few made
  have held : settings.cut (appendedValues 3 after) = [.nil, .integer 7] := by decide
  have used : settings.listLimit > 0 ∧
      ((appendedValues 3 after).length : Int) ≥ settings.listLimit := by decide
  refine ⟨few, made, ?_, ?_⟩
  · rw [items, held]
  · rw [append, if_pos used, held]
    rfl

end Kernel

end ContainerKernel
