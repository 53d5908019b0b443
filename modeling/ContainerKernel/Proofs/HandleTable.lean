import Mathlib
import ContainerKernel.Proofs.MachineTables

/-!
# Which handles are live

One sequence of numbers serves lists and strings. The containers that a run makes
get the handles one, two, three and so on in the order in which they are made, by
whichever operation and however many operations fail in between; so the handles
in use are the numbers up to that of the last container, each of one kind, and a
kind once given is never taken back.

An operation that needs a list at a handle, or strings at one or two, is a misuse
of a handle exactly if the handle is not live with that kind. Of two operands the
first that is not live as a string is the one that is reported.

Handles are integers here. That they are words as long as the containers are
fewer than the words is part of the main statement, and so is that under the same
condition the counter and the two tables of a machine hold these very handles.
-/

namespace ContainerKernel

/-- The kind of a container. -/
def Container.kind : Container → Kind
  | .list _ => .list
  | .string _ => .string

/-- No operation changes the kind of a container. -/
@[simp] theorem Container.kind_after (handle : Int) (contents : Container)
    (operation : Operation) : (contents.after handle operation).kind = contents.kind := by
  unfold Container.after
  split
  · split <;> rfl
  · rfl

/-- Whether an operation makes a container when it succeeds. -/
def Operation.creates : Operation → Bool
  | .listNew | .stringNew _ | .stringAdd .. | .stringConcat .. => true
  | _ => false

/-- Different faults are told differently. -/
theorem Settings.failure_injective (settings : Settings) {first second : Fault}
    (same : settings.failure first = settings.failure second) : first = second := by
  unfold Settings.failure at same
  split at same
  · exact Failure.fault.inj (Failure.joined.inj same).2
  · exact Failure.fault.inj same

namespace Kernel

variable {kernel : Kernel} {operation : Operation} {handle : Int} {kind : Kind}

/-- The kind of the container that a handle names, where there is one. -/
def kind? (kernel : Kernel) (handle : Int) : Option Kind :=
  (kernel.container? handle).map Container.kind

/-- The live handles of a kind. -/
def live (kernel : Kernel) (kind : Kind) : Set Int :=
  {handle | kernel.kind? handle = some kind}

/-! ## Numbering -/

/-- What came of the operations of a run that made a container. -/
def creations (kernel : Kernel) (operations : List Operation) : List Outcome :=
  ((operations.zip (kernel.run operations).2).filter fun done =>
    done.1.creates && !done.2.failed).map Prod.snd

/-- The creations of a run are that of its first operation, if this has made a
container, and those of the run behind it. -/
theorem creations_cons (kernel : Kernel) (operation : Operation) (rest : List Operation) :
    kernel.creations (operation :: rest) =
      if operation.creates && !(kernel.step operation).2.failed then
        (kernel.step operation).2 :: (kernel.step operation).1.creations rest
      else (kernel.step operation).1.creations rest := by
  simp only [creations, run_cons, List.zip_cons_cons, List.filter_cons]
  split <;> rfl

/-- An operation that makes a container returns the next handle. -/
theorem result_of_creation (creates : operation.creates = true)
    (succeeded : (kernel.step operation).2.failed = false) :
    (kernel.step operation).2.result = .ok (.handle (kernel.containers.size + 1)) := by
  obtain ⟨next, reply, done, stepped⟩ | ⟨misuse, _, stepped⟩ := step_cases kernel operation
  · rw [stepped]
    cases done with
    | read _ reads =>
      cases operation with
      | listNew | stringNew | stringAdd | stringConcat => cases reads
      | listAppend | listAt | listLength | listItems | stringLength | stringAt | stringBytes =>
        cases creates
    | listMade | stringMade => rfl
    | appended => cases creates
  · rw [stepped, Outcome.failed, report_result] at succeeded
    cases succeeded

/-- An operation that makes no container or fails leaves as many containers as there
were. -/
theorem size_of_no_creation
    (unmade : ¬ (operation.creates = true ∧ (kernel.step operation).2.failed = false)) :
    (kernel.step operation).1.containers.size = kernel.containers.size := by
  apply size_of_no_handle
  intro handle made
  apply unmade
  constructor
  · obtain rfl | makes := makes_of_handle made
    · rfl
    · cases operation <;> first | rfl | cases makes
  · rw [Outcome.failed, made]

/-- The creations of a run return the handles that follow those of the kernel, and
each adds a container. -/
theorem creations_numbered (kernel : Kernel) (operations : List Operation) :
    (kernel.creations operations).map (·.result) =
        (List.range (kernel.creations operations).length).map (fun earlier =>
          .ok (.handle (kernel.containers.size + earlier + 1))) ∧
      (kernel.run operations).1.containers.size =
        kernel.containers.size + (kernel.creations operations).length := by
  induction operations generalizing kernel with
  | nil => exact ⟨rfl, rfl⟩
  | cons operation rest inductionHypothesis =>
    obtain ⟨numbered, counted⟩ := inductionHypothesis (kernel.step operation).1
    rw [creations_cons, run_cons]
    by_cases made : operation.creates = true ∧ (kernel.step operation).2.failed = false
    · have result := result_of_creation made.1 made.2
      have grown := (size_of_handle result).2
      rw [if_pos (by simp [made])]
      refine ⟨?_, ?_⟩
      · -- The first creation takes the next number, and the others are shifted by it.
        rw [List.map_cons, List.length_cons, List.range_succ_eq_map, List.map_cons, List.map_map,
          numbered, result, grown]
        have shifted : ∀ earlier : Nat, ((kernel.containers.size + 1 : Nat) : Int) + earlier + 1 =
            kernel.containers.size + (earlier + 1 : Nat) + 1 := by
          intro earlier
          omega
        simp only [shifted]
        simp
      · rw [List.length_cons, counted, grown]
        omega
    · have same := size_of_no_creation made
      rw [if_neg (by simpa using made), ← same]
      exact ⟨numbered, counted⟩

/-! ## Live handles -/

/-- A container is a list or a string. -/
theorem kind?_eq_list_or_string (found : kernel.kind? handle = some kind) :
    kind = .list ∨ kind = .string := by
  obtain ⟨contents, _, rfl⟩ := Option.map_eq_some_iff.mp found
  cases contents with
  | list items => exact .inl rfl
  | string text => exact .inr rfl

/-- The live handles are the numbers of the containers. -/
theorem kind?_isSome_iff (kernel : Kernel) (handle : Int) :
    (kernel.kind? handle).isSome = true ↔ 1 ≤ handle ∧ handle ≤ kernel.containers.size := by
  unfold kind? container?
  split
  · next low =>
    simp only [Option.map_none, Option.isSome_none, Bool.false_eq_true, false_iff]
    omega
  · next high =>
    simp only [Option.isSome_map, isSome_getElem?]
    omega

/-- A number is live as a list or as a string exactly if it is the number of a
container. -/
theorem live_union (kernel : Kernel) :
    kernel.live .list ∪ kernel.live .string = Set.Icc (1 : Int) kernel.containers.size := by
  ext handle
  rw [Set.mem_Icc, ← kind?_isSome_iff, Option.isSome_iff_exists]
  constructor
  · rintro (list | string)
    · exact ⟨.list, list⟩
    · exact ⟨.string, string⟩
  · rintro ⟨kind, found⟩
    obtain rfl | rfl := kind?_eq_list_or_string found
    · exact .inl found
    · exact .inr found

/-- No number is live both as a list and as a string. -/
theorem live_disjoint (kernel : Kernel) : Disjoint (kernel.live .list) (kernel.live .string) := by
  rw [Set.disjoint_left]
  intro handle list string
  cases Option.some.inj (list.symm.trans string)

/-- The places of a table at which containers of a kind stand are as many as these
containers. -/
theorem ncard_places (containers : List Container) (kind : Kind) :
    {place : Nat | (containers[place]?).map Container.kind = some kind}.ncard =
      containers.countP (·.kind = kind) := by
  have places : {place : Nat | (containers[place]?).map Container.kind = some kind} =
      ((List.range containers.length).toFinset.filter fun place =>
        (containers[place]?).map Container.kind = some kind) := by
    ext place
    simp only [Set.mem_ofPred_eq, Finset.coe_filter, List.mem_toFinset, List.mem_range,
      iff_and_self]
    intro found
    by_contra beyond
    rw [List.getElem?_eq_none (Nat.not_lt.mp beyond)] at found
    cases found
  have whole : (List.range containers.length).map (containers[·]?) = containers.map some := by
    apply List.ext_getElem?
    intro place
    by_cases inside : place < containers.length <;> simp [inside]
  rw [places, Set.ncard_coe_finset, List.nodup_range.card_eq_countP]
  have counted := congrArg (List.countP fun found => found.map Container.kind = some kind) whole
  rw [List.countP_map, List.countP_map] at counted
  simpa [Function.comp_def] using counted

/-- The live handles of a kind are as many as the containers of the kind. -/
theorem ncard_live (kernel : Kernel) (kind : Kind) :
    (kernel.live kind).ncard = kernel.containers.countP (·.kind = kind) := by
  have numbers : kernel.live kind = (fun place : Nat => (place : Int) + 1) ''
      {place | (kernel.containers.toList[place]?).map Container.kind = some kind} := by
    ext handle
    simp only [live, kind?, container?, Set.mem_ofPred_eq, Set.mem_image, Array.getElem?_toList]
    constructor
    · intro found
      split at found
      · cases found
      · exact ⟨handle.toNat - 1, found, by omega⟩
    · rintro ⟨place, found, rfl⟩
      rw [if_neg (by omega), show ((place : Int) + 1).toNat - 1 = place by omega]
      exact found
  rw [numbers, Set.ncard_image_of_injective _ fun first second same => by simpa using same,
    ncard_places, Array.countP_toList]

/-- The counts of a kernel are the numbers of its live handles. -/
theorem counts_eq_ncard (kernel : Kernel) :
    kernel.counts = ((kernel.live .list).ncard, (kernel.live .string).ncard) := by
  rw [ncard_live, ncard_live]
  unfold counts
  congr 2
  all_goals
    funext contents
    cases contents <;> rfl

end Kernel

/-! ## The handles in the tables of a machine -/

namespace Machine

/-- A table has as many entries as there are handles in it. -/
theorem ncard_handles {α : Type} (table : Std.ExtTreeMap Int α) :
    {handle : Int | handle ∈ table}.ncard = table.size := by
  have handles : {handle : Int | handle ∈ table} = table.keys.toFinset := by
    ext handle
    simp
  have distinct : table.keys.Nodup :=
    Std.ExtTreeMap.distinct_keys.imp fun apart same => apart (Std.compare_eq_iff_eq.mpr same)
  rw [handles, Set.ncard_coe_finset, List.toFinset_card_of_nodup distinct,
    Std.ExtTreeMap.length_keys]

variable {machine : Machine} {kernel : Kernel}

/-- A handle is in the table of lists exactly if it is live as a list, and in that of
strings exactly if it is live as a string. -/
theorem Represents.handles_eq (same : machine.Represents kernel) :
    {handle : Int | handle ∈ machine.lists} = kernel.live .list ∧
      {handle : Int | handle ∈ machine.strings} = kernel.live .string := by
  constructor <;> ext handle <;>
    simp only [Kernel.live, Kernel.kind?, Set.mem_ofPred_eq,
      Std.ExtTreeMap.mem_iff_isSome_getElem?, same.lists, same.strings]
  all_goals
    cases kernel.container? handle with
    | none => simp
    | some contents => cases contents <;> simp [Container.kind, Container.list?, Container.string?]

/-- The sizes of the two tables are the counts of the kernel. -/
theorem Represents.counts (same : machine.Represents kernel) :
    machine.counts = kernel.counts := by
  obtain ⟨lists, strings⟩ := same.handles_eq
  rw [Kernel.counts_eq_ncard, ← lists, ← strings, ncard_handles, ncard_handles]
  rfl

end Machine

namespace Kernel

variable {kernel : Kernel} {operation : Operation} {handle : Int}

/-- A live handle stays live with its kind. -/
theorem live_run (kernel : Kernel) (later : List Operation) (kind : Kind) :
    kernel.live kind ⊆ (kernel.run later).1.live kind := by
  intro handle found
  obtain ⟨contents, named, rfl⟩ := Option.map_eq_some_iff.mp found
  have kept : (later.foldl (Container.after handle) contents).kind = contents.kind := by
    clear named found
    induction later generalizing contents with
    | nil => rfl
    | cons operation rest inductionHypothesis =>
      rw [List.foldl_cons, inductionHypothesis, Container.kind_after]
  simp only [live, kind?, Set.mem_ofPred_eq, container?_run later named, Option.map_some, kept]

/-! ## Misuse of handles -/

/-- A handle that is not live as a list names none. -/
theorem kind?_ne_list_iff (kernel : Kernel) (handle : Int) :
    kernel.kind? handle ≠ some .list ↔
      ∀ contents, kernel.container? handle ≠ some (.list contents) := by
  unfold kind?
  cases kernel.container? handle with
  | none => simp
  | some contents => cases contents <;> simp [Container.kind]

/-- A handle that is not live as a string has no bytes. -/
theorem text?_isNone_eq (kernel : Kernel) (handle : Int) :
    (kernel.text? handle).isNone = decide (kernel.kind? handle ≠ some .string) := by
  unfold text? kind?
  cases kernel.container? handle with
  | none => rfl
  | some contents => cases contents <;> rfl

/-- What a failing operation is told is the fault of its misuse. -/
theorem misused_of_failure {fault : Fault}
    (failed : (kernel.step operation).2.result = .error (kernel.settings.failure fault)) :
    ∃ misuse, Misused kernel operation misuse ∧ misuse.fault = fault := by
  obtain ⟨misuse, attempted⟩ := misuse_of_failure failed
  rw [step_result, attempted] at failed
  exact ⟨misuse, attempt_misused attempted,
    kernel.settings.failure_injective (Except.error.inj failed)⟩

/-- An operation on a list is a misuse of its handle exactly if the handle is not
live as a list. -/
theorem list_handle_misused_iff (kernel : Kernel) (operation : Operation) (handle : Int) :
    (kernel.step operation).2.result =
        .error (kernel.settings.failure (.handle .list handle)) ↔
      operation.listHandle? = some handle ∧ kernel.kind? handle ≠ some .list := by
  rw [kind?_ne_list_iff]
  constructor
  · intro failed
    obtain ⟨misuse, misused, same⟩ := misused_of_failure failed
    cases misused with
    | noList target needed absent =>
      cases same
      exact ⟨needed, absent⟩
    | listFull _ _ _ _ named | tooLongToJoin _ _ named =>
      subst named
      cases same
    | noString | listIndex | stringIndex | tooLong => cases same
  · rintro ⟨needed, absent⟩
    have missing : kernel.list handle = .error ⟨.handle, .handle .list handle,
        utf8 "Invalid list handle " ++ decimal handle ++ utf8 "!"⟩ := by
      unfold list
      split
      · next contents found => exact absurd found (absent contents)
      · rfl
    rw [step_result]
    cases operation with
    | listAppend | listAt | listLength | listItems =>
      cases needed
      simp only [attempt, missing, bind, Except.bind]
      rfl
    | listNew | stringNew | stringAdd | stringConcat | stringLength | stringAt | stringBytes =>
      cases needed

/-- An operation on strings is a misuse of the first of its handles that is not
live as a string, and of no other. -/
theorem string_handle_misused_iff (kernel : Kernel) (operation : Operation) (handle : Int) :
    (kernel.step operation).2.result =
        .error (kernel.settings.failure (.handle .string handle)) ↔
      operation.stringHandles.find? (fun operand => kernel.kind? operand ≠ some .string) =
        some handle := by
  simp only [← text?_isNone_eq]
  constructor
  · intro failed
    obtain ⟨misuse, misused, same⟩ := misused_of_failure failed
    cases misused with
    | noString target needed =>
      cases same
      exact needed
    | listFull _ _ _ _ named | tooLongToJoin _ _ named =>
      subst named
      cases same
    | noList | listIndex | stringIndex | tooLong => cases same
  · intro needed
    have missing : ∀ {operand : Int}, kernel.text? operand = none →
        kernel.string operand = .error ⟨.handle, .handle .string operand,
          utf8 "Invalid string handle " ++ decimal operand ++ utf8 "!"⟩ := by
      intro operand absent
      cases looked : kernel.string operand with
      | ok text => rw [text?_of_string looked] at absent; cases absent
      | error misuse => rw [(string_error looked).2]
    rw [step_result]
    cases operation with
    | stringAdd operand | stringLength operand | stringAt operand | stringBytes operand =>
      simp only [Operation.stringHandles, List.find?_singleton] at needed
      split at needed
      · next absent =>
        cases needed
        simp only [attempt, missing (Option.isNone_iff_eq_none.mp absent), bind, Except.bind]
        rfl
      · cases needed
    | stringConcat operand suffix =>
      -- The second operand is looked at only behind a first one that is live.
      cases first : kernel.text? operand with
      | none =>
        simp only [Operation.stringHandles, List.find?_cons, first, Option.isNone_none] at needed
        cases needed
        simp only [attempt, missing first, bind, Except.bind]
        rfl
      | some bytes =>
        simp only [Operation.stringHandles, List.find?_cons, first, Option.isNone_some,
          List.find?_nil] at needed
        have found := (string_ok_iff kernel operand ⟨bytes⟩).mpr
          ((text?_eq_some_iff _ _ _).mp first)
        split at needed
        · next absent =>
          cases needed
          simp only [attempt, found, missing (Option.isNone_iff_eq_none.mp absent), bind,
            Except.bind]
          rfl
        · cases needed
    | listNew | listAppend | listAt | listLength | listItems | stringNew => cases needed

/-- **The table of handles.** Take any settings and the kernel that any operations
leave of one that has just started, and `created`, what came of those operations
that made a container.

* They returned the handles one, two, three and so on, and as long as they are fewer
  than the largest word, every handle in use is a word.
* On the same condition a machine comes out of the operations with the same answers,
  with the next handle behind these, and with each of its two tables holding the live
  containers of one kind.
* The live handles of lists and those of strings have no number in common, and
  together are the numbers up to that of the last creation; the counts of the kernel
  are how many there are of each.
* Whatever is done later, they stay live with their kinds.
* An operation is told that a handle names no list exactly if it needs a list there
  and the handle is not live as one, and that a handle names no string exactly if this
  is the first of its string operands that is not live as one. -/
theorem handles_number_containers (settings : Settings) (metrics : Option Metrics)
    (operations : List Operation) :
    let first := start settings metrics
    let kernel := (first.run operations).1
    let created := first.creations operations
    created.map (·.result) =
      (List.range created.length).map (fun earlier => .ok (.handle ((earlier : Int) + 1))) ∧
    ((created.length : Int) < Word.largest →
      ∀ handle, (kernel.kind? handle).isSome = true → Word.holds handle = true) ∧
    ((created.length : Int) < Word.largest →
      let machine := ((Machine.start settings metrics).run operations).1
      ((Machine.start settings metrics).run operations).2 = (first.run operations).2 ∧
      machine.Represents kernel ∧
      machine.nextHandle = created.length + 1 ∧
      {handle | handle ∈ machine.lists} = kernel.live .list ∧
      {handle | handle ∈ machine.strings} = kernel.live .string ∧
      machine.counts = kernel.counts) ∧
    Disjoint (kernel.live .list) (kernel.live .string) ∧
    kernel.live .list ∪ kernel.live .string = Set.Icc (1 : Int) created.length ∧
    kernel.counts = ((kernel.live .list).ncard, (kernel.live .string).ncard) ∧
    (∀ later kind, kernel.live kind ⊆ (kernel.run later).1.live kind) ∧
    (∀ operation handle,
      (kernel.step operation).2.result =
          .error (settings.effective.failure (.handle .list handle)) ↔
        operation.listHandle? = some handle ∧ kernel.kind? handle ≠ some .list) ∧
    ∀ operation handle,
      (kernel.step operation).2.result =
          .error (settings.effective.failure (.handle .string handle)) ↔
        operation.stringHandles.find? (fun operand => kernel.kind? operand ≠ some .string) =
          some handle := by
  intro first kernel created
  obtain ⟨numbered, counted⟩ := creations_numbered first operations
  have told : kernel.settings = settings.effective := settings_run _ _
  have size : kernel.containers.size = created.length := by
    rw [counted]
    exact Nat.zero_add _
  refine ⟨?_, ?_, ?_, live_disjoint kernel, ?_, counts_eq_ncard kernel, live_run kernel, ?_, ?_⟩
  · rw [numbered]
    refine List.map_congr_left fun earlier _ => ?_
    rw [show (first.containers.size : Int) = 0 from rfl, Int.zero_add]
  · intro few handle isLive
    obtain ⟨low, high⟩ := (kind?_isSome_iff kernel handle).mp isLive
    rw [size] at high
    rw [Word.holds_iff, Word.smallest]
    omega
  · intro few
    rw [← size] at few
    obtain ⟨answers, same⟩ :=
      Machine.run_represents (.start settings metrics) operations few
    refine ⟨answers, same, ?_, same.handles_eq.1, same.handles_eq.2, same.counts⟩
    rw [← size]
    exact same.nextHandle
  · rw [live_union, size]
  · rw [← told]
    exact list_handle_misused_iff kernel
  · rw [← told]
    exact string_handle_misused_iff kernel

/-- Four containers by four routes, with a refused string and a join of no strings
among them: the handles have no gap, and of the two bad operands the first is
reported. -/
theorem four_routes_one_numbering :
    let settings : Settings := { stringLimit := 2, policy := .error }
    let operations : List Operation :=
      [.listNew, .stringNew [97], .stringNew [1, 2, 3], .stringAdd 2 [98], .stringConcat 1 9,
        .stringConcat 2 2]
    let first := start settings none
    let kernel := (first.run operations).1
    ((first.creations operations).length : Int) < Word.largest ∧
      Word.holds 4 = true ∧
      ((Machine.start settings none).run operations).1.nextHandle = 5 ∧
      ((Machine.start settings none).run operations).1.counts = (1, 3) ∧
      kernel.live .list ∪ kernel.live .string = Set.Icc 1 4 ∧
      (kernel.step (.stringConcat 1 9)).2.result = .error (.fault (.handle .string 1)) := by
  intro settings operations first kernel
  have few : ((first.creations operations).length : Int) < Word.largest := by decide
  have four : (first.creations operations).length = 4 := by decide
  obtain ⟨_, words, machines, _, together, _, _, _, strings⟩ :=
    handles_number_containers settings none operations
  obtain ⟨_, _, next, _, _, counts⟩ := machines few
  refine ⟨few, words few 4 (by decide), ?_, ?_, ?_, (strings (.stringConcat 1 9) 1).mpr (by decide)⟩
  · rw [next, four]
    rfl
  · rw [counts]
    decide
  · rw [together, four]
    rfl

end Kernel

end ContainerKernel
