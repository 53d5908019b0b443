import ContainerKernel.Proofs.SoundReplays

/-!
# What steps of accepted scenarios can do wrong

The state of a run is sound at every step, and the steps of an accepted scenario have the
fields that they need. What a step can do wrong is therefore limited. It never uses a
handle that names nothing, so that a fault about a handle is one about the kind of a
container, and the text of a string that was just made can always be read.

The last part follows the items of lists back to the steps that added them. An item
equals a host handle exactly if the step that added it described it by the name of that
handle, however many steps, names and host handles came in between.
-/

namespace ContainerKernel

/-! ## What can be wrong -/

/-- What can be wrong with a step. A text that cannot be read back is not among it, an
unknown operation or a byte is only where the step has them, and a number is only where it
is another one than expected. -/
def Mismatch.Possible (step : Step) : Mismatch → Prop
  | .unreadable _ => False
  | .unknownOperation name => step.operation = .unknown name
  | .byte _ want => step.expectByte.head? = some want
  | .number got want => got ≠ want
  | _ => True

/-- What keeps a step from coming to an operation or to a value: a name that is not known, a
text that is no byte, or an unknown operation. -/
def Mismatch.Unusable (step : Step) : Mismatch → Prop
  | .unknownRef _ | .byteValueLength _ => True
  | .unknownOperation name => step.operation = .unknown name
  | _ => False

/-- What makes a step unusable is one of the things that can be wrong with it. -/
theorem Mismatch.Unusable.possible {step : Step} {mismatch : Mismatch}
    (unusable : mismatch.Unusable step) : mismatch.Possible step := by
  cases mismatch with
  | unknownRef | byteValueLength => trivial
  | unknownOperation name => exact unusable
  | unexpectedFailure | noFailure | noExit | otherFailure | value | unsupported | number | byte
  | text | stderr | unreadable => exact unusable.elim

/-- The names of containers that a step uses, with the kinds that it needs. -/
def Step.operands (step : Step) : List (Bytes × Kind) :=
  match step.operation with
  | .listAppend | .listAt | .listLength => [(step.target, .list)]
  | .stringAdd | .stringLength | .stringAt => [(step.target, .string)]
  | .stringConcat => [(step.target, .string), (step.other, .string)]
  | .listNew | .stringNew | .unknown _ => []

/-- An item that is read is at its place in the list. -/
theorem Kernel.itemsAt_of_answer {kernel : Kernel} {handle index : Int} {item : Value}
    (answered : (kernel.step (.listAt handle index)).2.result = .ok (.value item)) :
    (kernel.itemsAt handle)[index.toNat]? = some item := by
  obtain ⟨contents, live⟩ : ∃ contents, kernel.container? handle = some (.list contents) := by
    by_contra absent
    have unlike := (kind?_ne_list_iff kernel handle).mpr (not_exists.mp absent)
    rw [(list_handle_misused_iff kernel (.listAt handle index) handle).mpr ⟨rfl, unlike⟩]
      at answered
    cases answered
  rw [step_listAt index live rfl] at answered
  split at answered
  · next inside =>
    cases answered
    simp only [itemsAt, live, List.get_eq_getElem]
    exact List.getElem?_eq_getElem _
  · cases answered

namespace Replay

variable {replay named : Replay} {step : Step} {operation : Operation} {handle : Int}
  {mismatch : Mismatch}

/-- A sequence of two computations fails as one of them does. -/
theorem unusable_of_bind {α β : Type} {first : Except Mismatch α}
    {following : α → Except Mismatch β}
    (failed : (first >>= following) = .error mismatch)
    (early : ∀ cause, first = .error cause → cause.Unusable step)
    (late : ∀ value, following value = .error mismatch → mismatch.Unusable step) :
    mismatch.Unusable step := by
  cases first with
  | error cause =>
    cases failed
    exact early _ rfl
  | ok value => exact late value failed

/-- A name that is not known is all that can be wrong with looking it up. -/
theorem handle_unusable {name : Bytes} (failed : replay.handle name = .error mismatch) :
    mismatch.Unusable step := by
  unfold Replay.handle at failed
  split at failed
  · cases failed
  · cases failed
    trivial

/-- Nothing but a name or a byte can be wrong with a description. -/
theorem lookUp_unusable {meaning : Denotation} (failed : replay.lookUp meaning = .error mismatch) :
    mismatch.Unusable step := by
  cases meaning with
  | plain | host => cases failed
  | list name | string name =>
    rw [lookUp] at failed
    cases known : replay.handle name with
    | ok handle =>
      rw [known] at failed
      cases failed
    | error cause =>
      rw [known] at failed
      cases failed
      exact handle_unusable known
  | unusable text =>
    cases failed
    trivial

/-- A step that comes to no operation is kept from it by a name or a byte that
cannot be used, or by an unknown operation. -/
theorem operation_unusable (failed : replay.operation step = .error mismatch) :
    mismatch.Unusable step := by
  unfold Replay.operation at failed
  cases does : step.operation with
  | listNew | stringNew =>
    rw [does] at failed
    cases failed
  | listAppend =>
    rw [does] at failed
    refine unusable_of_bind failed (fun _ => handle_unusable) ?_
    intro handle following
    refine unusable_of_bind following ?_ ?_
    · intro cause undescribed
      cases given : step.value with
      | none =>
        rw [given] at undescribed
        cases undescribed
      | some spec =>
        rw [given] at undescribed
        exact lookUp_unusable undescribed
    · intro value impossible
      cases impossible
  | stringConcat =>
    rw [does] at failed
    refine unusable_of_bind failed (fun _ => handle_unusable) ?_
    intro handle following
    refine unusable_of_bind following (fun _ => handle_unusable) ?_
    intro value impossible
    cases impossible
  | listAt | listLength | stringAdd | stringLength | stringAt =>
    rw [does] at failed
    refine unusable_of_bind failed (fun _ => handle_unusable) ?_
    intro value impossible
    cases impossible
  | unknown name =>
    rw [does] at failed
    cases failed
    exact does

/-- What is found wrong with a value can be wrong with the step. -/
theorem checkValue_possible {reply : Reply}
    (wrong : (replay.checkValue step reply).2 = some mismatch) : mismatch.Possible step := by
  unfold checkValue at wrong
  split at wrong
  · cases wrong
  · split at wrong
    · next failed =>
      cases wrong
      exact (lookUp_unusable failed).possible
    · dsimp only at wrong
      split at wrong
      · cases wrong
      · cases wrong
        trivial

/-- What is found wrong with a text that can be read can be wrong with the step. -/
theorem checkText_possible {reply : Reply} (readable : Readable replay.kernel step reply)
    (wrong : (replay.checkText step reply).2 = some mismatch) : mismatch.Possible step := by
  unfold checkText at wrong
  split at wrong
  · cases wrong
  · split at wrong
    · next handle =>
      split at wrong
      · cases wrong
        trivial
      · next makesString =>
        obtain ⟨text, live⟩ := readable handle rfl makesString
        rw [perform_stringBytes live] at wrong
        dsimp only at wrong
        split at wrong
        · cases wrong
        · cases wrong
          trivial
    · cases wrong
      trivial

/-- What is found wrong with a number can be wrong with the step. -/
theorem numberMismatch?_possible {reply : Reply}
    (wrong : numberMismatch? step reply = some mismatch) : mismatch.Possible step := by
  unfold numberMismatch? at wrong
  split at wrong
  · cases wrong
  · split at wrong
    · cases wrong
    · next different =>
      cases wrong
      exact different
  · cases wrong
    trivial

/-- What is found wrong with a byte can be wrong with the step. -/
theorem byteMismatch?_possible {reply : Reply}
    (wrong : byteMismatch? step reply = some mismatch) : mismatch.Possible step := by
  unfold byteMismatch? at wrong
  split at wrong
  · cases wrong
  · next want rest got expected =>
    split at wrong
    · cases wrong
    · cases wrong
      show step.expectByte.head? = some want
      rw [expected]
      rfl
  · cases wrong
    trivial

/-- What is found wrong with printed text can be wrong with the step. -/
theorem stderrMismatch?_possible (wrong : replay.stderrMismatch? step = some mismatch) :
    mismatch.Possible step := by
  unfold stderrMismatch? at wrong
  split at wrong
  · cases wrong
  · cases wrong
    trivial

/-- What is found wrong with a reply can be wrong with the step. -/
theorem checkReply_possible {reply : Reply} (readable : Readable replay.kernel step reply)
    (wrong : (replay.checkReply step reply).2 = some mismatch) : mismatch.Possible step := by
  have extended : Extends replay (replay.checkValue step reply).1 :=
    checkValue_extends replay step reply
  unfold checkReply at wrong
  split at wrong
  · next compared =>
    cases wrong
    apply checkValue_possible
    rw [compared]
  · next named compared =>
    rw [compared] at extended
    split at wrong
    · next found =>
      cases wrong
      obtain number | ⟨_, byte⟩ := Option.or_eq_some_iff.mp found
      · exact numberMismatch?_possible number
      · exact byteMismatch?_possible byte
    · split at wrong
      · next read _ texted =>
        cases wrong
        have readableToo : Readable named.kernel step reply := by
          rw [extended.kernel]
          exact readable
        apply checkText_possible readableToo
        rw [texted]
      · exact stderrMismatch?_possible wrong

/-- What is found wrong with success or failure can be wrong with the step. -/
theorem resultMismatch?_possible {expected : ErrorExpectation} {result : Except Failure Reply}
    (wrong : resultMismatch? expected result = some mismatch) : mismatch.Possible step := by
  unfold resultMismatch? at wrong
  split at wrong
  · cases wrong
  · cases wrong
    trivial
  · cases wrong
    trivial
  · split at wrong
    · cases wrong
    · cases wrong
      trivial
  · split at wrong
    · cases wrong
    · cases wrong
      trivial
  · cases wrong
    trivial

/-- What comes out wrong of a step can be wrong with it. -/
theorem run_possible (wrong : (replay.run step).2 = some mismatch) : mismatch.Possible step := by
  unfold Replay.run at wrong
  cases found : replay.operation step with
  | error cause =>
    rw [found] at wrong
    cases wrong
    exact (operation_unusable found).possible
  | ok answer =>
    obtain ⟨named, operation⟩ := answer
    have asked : Asked replay step named operation := asked_of_operation found
    rw [found] at wrong
    dsimp only at wrong
    unfold checkResult at wrong
    split at wrong
    · next told =>
      cases wrong
      exact resultMismatch?_possible told
    · split at wrong
      · exact stderrMismatch?_possible wrong
      · next reply answered =>
        refine checkReply_possible ?_ wrong
        simp only [bind_eq, perform, asked.extends.kernel] at answered ⊢
        exact readable_of_asked asked answered

/-! ## Faults about handles -/

/-- The handles that an operation uses are those of names that the step uses, with the kinds
that it needs. -/
theorem Asked.operand (asked : Asked replay step named operation) :
    (operation.listHandle? = some handle →
      ∃ name, (name, Kind.list) ∈ step.operands ∧ replay.refs.lookup name = some handle) ∧
    (handle ∈ operation.stringHandles →
      ∃ name, (name, Kind.string) ∈ step.operands ∧ replay.refs.lookup name = some handle) := by
  cases asked with
  | listNew does | stringNew does =>
    constructor
    · intro impossible
      cases impossible
    · intro impossible
      cases impossible
  | listAppend does target | listAt does target | listLength does target =>
    constructor
    · intro used
      cases used
      exact ⟨step.target, by simp [Step.operands, does], target⟩
    · intro impossible
      cases impossible
  | stringAdd does target | stringLength does target | stringAt does target =>
    constructor
    · intro impossible
      cases impossible
    · intro used
      cases List.mem_singleton.mp used
      exact ⟨step.target, by simp [Step.operands, does], target⟩
  | stringConcat does target second =>
    constructor
    · intro impossible
      cases impossible
    · intro used
      obtain rfl | rfl : handle = _ ∨ handle = _ := by simpa [Operation.stringHandles] using used
      · exact ⟨step.target, by simp [Step.operands, does], target⟩
      · exact ⟨step.other, by simp [Step.operands, does], second⟩

/-- In a sound state a fault about a handle means that a name of the step reaches a container
of another kind than the step needs. -/
theorem Sound.handle_fault (sound : Sound replay) {misuse : Misuse} {kind : Kind}
    (misused : replay.misuse? step = some misuse) (fault : misuse.fault = .handle kind handle) :
    ∃ name other, (name, kind) ∈ step.operands ∧ replay.refs.lookup name = some handle ∧
      replay.kernel.kind? handle = some other ∧ other ≠ kind := by
  unfold misuse? at misused
  split at misused
  · cases misused
  · next named operation found =>
    split at misused
    · cases misused
    · next cause failed =>
      cases misused
      have operand := @Asked.operand _ _ _ _ handle (asked_of_operation found)
      -- The handle is live, because a name reaches it; so it is live with another kind.
      have differs : ∀ name, replay.refs.lookup name = some handle →
          replay.kernel.kind? handle ≠ some kind →
          ∃ other, replay.kernel.kind? handle = some other ∧ other ≠ kind := by
        intro name known unlike
        obtain ⟨other, live⟩ := Option.isSome_iff_exists.mp (sound.refs name handle known)
        exact ⟨other, live, fun same => unlike (same ▸ live)⟩
      cases Kernel.attempt_misused failed with
      | noList target needed absent =>
        cases fault
        obtain ⟨name, member, known⟩ := operand.1 needed
        obtain ⟨other, live, unlike⟩ :=
          differs name known ((Kernel.kind?_ne_list_iff _ _).mpr absent)
        exact ⟨name, other, member, known, live, unlike⟩
      | noString target needed =>
        cases fault
        obtain ⟨name, member, known⟩ := operand.2 (List.mem_of_find?_eq_some needed)
        have none := List.find?_some needed
        rw [Kernel.text?_isNone_eq, decide_eq_true_eq] at none
        obtain ⟨other, live, unlike⟩ := differs name known none
        exact ⟨name, other, member, known, live, unlike⟩
      | listFull _ _ _ _ named | tooLongToJoin _ _ named =>
        subst named
        cases fault
      | listIndex | stringIndex | tooLong => cases fault

/-! ## Limits of what a step does -/

/-- What a step can do wrong is limited. -/
structure Limited (before : Replay) (step : Step) : Prop where
  /-- A fault about a handle means that a name of the step reaches a container of another kind
  than the step needs. -/
  handles : ∀ misuse kind handle, before.misuse? step = some misuse →
    misuse.fault = .handle kind handle →
    ∃ name other, (name, kind) ∈ step.operands ∧ before.refs.lookup name = some handle ∧
      before.kernel.kind? handle = some other ∧ other ≠ kind
  /-- The value of an append is never missing. -/
  appends : ∀ named handle, before.operation step ≠ .ok (named, .listAppend handle none)
  /-- The text of a string that the step makes can be read, and reading it does nothing. -/
  texts : ∀ named operation handle, before.operation step = .ok (named, operation) →
    (before.kernel.step operation).2.result = .ok (.handle handle) →
    step.operation ≠ .listNew →
    ∃ text, (before.run step).1.kernel.step (.stringBytes handle) =
      ((before.run step).1.kernel, ⟨.ok (.bytes text), {}⟩)
  /-- So nothing is ever wrong with reading it. -/
  readable : ∀ failure, (before.run step).2 ≠ some (.unreadable failure)
  /-- The operation is known. -/
  known : ∀ name, step.operation ≠ .unknown name ∧
    (before.run step).2 ≠ some (.unknownOperation name)
  /-- A byte is compared only where one is expected. -/
  bytes : ∀ got want, (before.run step).2 = some (.byte got want) → step.expectByte = [want]

/-- A usable step in a sound state has these limits. -/
theorem Sound.limited (sound : Sound replay) (usable : step.Usable) : replay.Limited step where
  handles misuse kind handle misused fault := sound.handle_fault misused fault
  appends named handle found := by cases asked_of_operation found
  texts named operation handle found made makesString := by
    obtain ⟨text, live⟩ := readable_of_asked (asked_of_operation found) made handle rfl makesString
    rw [← (run_performed found).kernel] at live
    exact ⟨text, Kernel.step_stringBytes live⟩
  readable failure wrong := run_possible wrong
  known name := by
    have complete : step.operation ≠ .unknown name := by
      intro does
      have complete := usable.complete
      rw [Step.Complete, does] at complete
      exact complete
    exact ⟨complete, fun wrong => complete (run_possible wrong)⟩
  bytes got want wrong := by
    have head : step.expectByte.head? = some want := run_possible wrong
    have short := usable.byte
    cases expected : step.expectByte with
    | nil =>
      rw [expected] at head
      cases head
    | cons byte rest =>
      rw [expected] at head short
      cases head
      cases rest with
      | nil => rfl
      | cons => simp at short

/-! ## Expected host handles -/

/-- The handle of a name depends on the names that have been used only. -/
theorem host_value_of_hosts (same : named.hosts = replay.hosts) (name : Bytes) :
    (named.host name).2 = (replay.host name).2 := by
  unfold Replay.host
  rw [same]
  split <;> rfl

/-- What a list may hold equals the handle of a name exactly if it is a host handle of that
type. In particular nothing equals a handle that is only now used for the first time. -/
theorem same_host_iff {item : Value} (keeps : replay.Keeps item) (name : Bytes) :
    Value.same item (replay.host name).2 = true ↔
      ∃ identity, item = .host (some ⟨identity, name⟩) := by
  cases item with
  | nil | bool | integer | byte | string | list =>
    obtain ⟨host, isHost⟩ : ∃ host, (replay.host name).2 = .host host := by
      unfold Replay.host
      split <;> exact ⟨_, rfl⟩
    rw [isHost]
    simp [Value.same]
  | host handle =>
    cases handle with
    | none => exact keeps.elim
    | some host =>
      obtain ⟨other, _, used⟩ := keeps
      obtain ⟨type, place, identity, found⟩ := hostHandle?_place used
      have typed : (∃ identity, Value.host (some host) = .host (some ⟨identity, name⟩)) ↔
          other = name := by
        constructor
        · rintro ⟨identity, same⟩
          cases same
          exact type.symm
        · rintro rfl
          exact ⟨host.identity, by rw [← type]⟩
      rw [typed]
      cases usedToo : replay.hostHandle? name with
      | some handle =>
        rw [host_of_used usedToo]
        simp only [Value.same, Option.map_some, decide_eq_true_eq, Option.some.injEq]
        constructor
        · intro same
          exact hostHandle?_apart used usedToo same
        · rintro rfl
          rw [Option.some.inj (used.symm.trans usedToo)]
      | none =>
        rw [host_of_unused usedToo]
        simp only [Value.same, Option.map_some, decide_eq_true_eq, Option.some.injEq]
        constructor
        · intro same
          have inside := (List.getElem?_eq_some_iff.mp found).1
          omega
        · rintro rfl
          cases used.symm.trans usedToo

/-- A description that comes to a host handle names its type, and a description that names a
host handle comes to one of that type. -/
theorem Resolved.host_iff {spec : Option ValueSpec} {item : Value}
    (found : replay.valueOrNil spec = .ok (named, item)) (name : Bytes) :
    (∃ identity, item = .host (some ⟨identity, name⟩)) ↔
      ∃ described, spec = some described ∧ described.meaning = .host name := by
  constructor
  · rintro ⟨identity, rfl⟩
    generalize handle : Value.host (some ⟨identity, name⟩) = value at found
    cases resolved_of_valueOrNil found with
    | plain plain =>
      subst handle
      cases plain
    | list | string => cases handle
    | @host described other given means =>
      refine ⟨described, given, ?_⟩
      cases used : replay.hostHandle? other with
      | some host =>
        rw [host_of_used used] at handle
        cases handle
        rw [means, ← (hostHandle?_place used).1]
      | none =>
        rw [host_of_unused used] at handle
        cases handle
        exact means
  · rintro ⟨described, rfl, means⟩
    simp only [valueOrNil, means, lookUp, Except.ok.injEq] at found
    cases used : replay.hostHandle? name with
    | some host =>
      rw [host_of_used used] at found
      cases found
      exact ⟨host.identity, by rw [← (hostHandle?_place used).1]⟩
    | none =>
      rw [host_of_unused used] at found
      cases found
      exact ⟨_, rfl⟩

/-- Nothing is said about a value where the printed text is looked at. -/
theorem stderrMismatch?_ne_value (replay : Replay) (step : Step) (got want : Option Value) :
    replay.stderrMismatch? step ≠ some (.value got want) := by
  intro wrong
  unfold stderrMismatch? at wrong
  split at wrong <;> cases wrong

/-- Of all that is looked at in a reply, only the value is ever said to be another one. -/
theorem checkReply_value_iff (replay : Replay) (step : Step) (reply : Reply)
    (got want : Option Value) :
    (replay.checkReply step reply).2 = some (.value got want) ↔
      (replay.checkValue step reply).2 = some (.value got want) := by
  have number : numberMismatch? step reply ≠ some (.value got want) := by
    intro wrong
    unfold numberMismatch? at wrong
    repeat' split at wrong
    all_goals cases wrong
  have byte : byteMismatch? step reply ≠ some (.value got want) := by
    intro wrong
    unfold byteMismatch? at wrong
    repeat' split at wrong
    all_goals cases wrong
  have text : ∀ named : Replay, (named.checkText step reply).2 ≠ some (.value got want) := by
    intro named wrong
    unfold checkText at wrong
    repeat' split at wrong
    all_goals cases wrong
  cases compared : replay.checkValue step reply with
  | mk named found =>
    cases found with
    | some mismatch => simp only [checkReply, compared]
    | none =>
      constructor
      · intro wrong
        simp only [checkReply, compared] at wrong
        split at wrong
        · next other =>
          cases wrong
          obtain counted | ⟨_, read⟩ := Option.or_eq_some_iff.mp other
          · exact absurd counted number
          · exact absurd read byte
        · split at wrong
          · next texted =>
            cases wrong
            exact absurd (congrArg Prod.snd texted) (text named)
          · next read _ => exact absurd wrong (read.stderrMismatch?_ne_value step got want)
      · intro wrong
        cases wrong

/-- A step that reads an item and expects a host handle goes wrong about the value exactly
if the item is not the handle of that name. -/
theorem listAt_wrong_iff {spec : ValueSpec} {name : Bytes} {item : Value}
    (does : step.operation = .listAt) (succeeds : step.expectError = .success)
    (expects : step.expect = some spec) (means : spec.meaning = .host name)
    (target : replay.refs.lookup step.target = some handle)
    (answered : (replay.kernel.step (.listAt handle step.index)).2.result = .ok (.value item)) :
    (∃ got want, (replay.run step).2 = some (.value got want)) ↔
      Value.same item (replay.host name).2 = false := by
  have found : replay.operation step = .ok (replay, .listAt handle step.index) := by
    unfold Replay.operation
    rw [does]
    simp only [(handle_ok_iff replay step.target handle).mpr target]
    rfl
  have looked : (replay.run step).2 =
      ((replay.perform (.listAt handle step.index)).1.checkReply step (.value item)).2 := by
    have result : (replay.perform (.listAt handle step.index)).2 = .ok (.value item) := answered
    unfold Replay.run
    rw [found]
    dsimp only
    rw [result]
    unfold checkResult
    rw [succeeds]
    rfl
  simp only [looked, checkReply_value_iff]
  have hosts : (replay.perform (.listAt handle step.index)).1.hosts = replay.hosts := rfl
  unfold checkValue
  rw [expects]
  dsimp only
  rw [means, lookUp]
  dsimp only [replyValue?, Value.equal]
  rw [host_value_of_hosts hosts]
  by_cases same : Value.same item (replay.host name).2 = true
  · simp [same]
  · simp [same]

/-! ## Where items come from -/

/-- The step adds the item to the list at the handle, which had as many items before as the
place says. -/
structure Adds (before : Replay) (step : Step) (handle : Int) (place : Nat) (item : Value) :
    Prop where
  does : step.operation = .listAppend
  target : before.refs.lookup step.target = some handle
  value : ∃ named, before.valueOrNil step.value = .ok (named, item)
  room : (before.kernel.itemsAt handle).length = place
  added : (before.run step).1.kernel.itemsAt handle = before.kernel.itemsAt handle ++ [item]

/-- An item that a list has after a step was there before, or the step adds it. -/
theorem there_or_adds {place : Nat} {item : Value}
    (has : ((replay.run step).1.kernel.itemsAt handle)[place]? = some item) :
    (replay.kernel.itemsAt handle)[place]? = some item ∨ Adds replay step handle place item := by
  obtain ⟨mismatch, _, same⟩ | ⟨named, operation, found, performed⟩ := run_cases replay step
  · rw [same] at has
    exact .inl has
  have grown : (replay.run step).1.kernel.itemsAt handle =
      replay.kernel.itemsAt handle ++ replay.kernel.gained handle operation := by
    rw [performed.kernel, Kernel.itemsAt_step]
  obtain nothing | ⟨given, rfl, one⟩ := replay.kernel.gained_cases handle operation
  · rw [grown, nothing, List.append_nil] at has
    exact .inl has
  · rw [one] at grown
    rw [grown] at has
    by_cases old : place < (replay.kernel.itemsAt handle).length
    · rw [List.getElem?_append_left old] at has
      exact .inl has
    · rw [List.getElem?_append_right (Nat.not_lt.mp old)] at has
      have last : place - (replay.kernel.itemsAt handle).length = 0 := by
        have inside := (List.getElem?_eq_some_iff.mp has).1
        rw [List.length_singleton] at inside
        omega
      rw [last] at has
      cases has
      cases asked_of_operation found with
      | listAppend does target described =>
        exact .inr ⟨does, target, ⟨named, described⟩, by omega, grown⟩

/-- An item that a list has when a step of a run is done was there at the beginning, or one of
the steps before added it.

The induction is that of the states in which the steps are done. -/
theorem there_or_added {steps : List Step} {index place : Nat} {before : Replay} {item : Value}
    (stage : (replay.executed steps)[index]? = some (before, step))
    (has : (before.kernel.itemsAt handle)[place]? = some item) :
    (replay.kernel.itemsAt handle)[place]? = some item ∨
      ∃ earlier adder, earlier < index ∧ (replay.executed steps)[earlier]? = some adder ∧
        Adds adder.1 adder.2 handle place item := by
  induction steps generalizing replay index with
  | nil => cases stage
  | cons first rest inductionHypothesis =>
    cases index with
    | zero =>
      cases stage
      exact .inl has
    | succ index =>
      by_cases exits : (replay.run first).1.effects.exits = []
      · rw [executed_go exits, List.getElem?_cons_succ] at stage
        rw [executed_go exits]
        obtain there | ⟨earlier, adder, small, found, adds⟩ := inductionHypothesis stage
        · obtain old | adds := there_or_adds there
          · exact .inl old
          · exact .inr ⟨0, (replay, first), Nat.succ_pos index, rfl, adds⟩
        · exact .inr ⟨earlier + 1, adder, Nat.succ_lt_succ small, found, adds⟩
      · rw [executed_stop exits] at stage
        cases stage

end Replay

/-! ## Accepted scenarios -/

namespace Scenario

variable {document : Bytes} {scenarios : List Scenario} {scenario : Scenario}

/-- The steps of an accepted scenario can be used. -/
theorem usable_of_mem (parsed : Scenario.parse document = .ok scenarios)
    (member : scenario ∈ scenarios) : ∀ step ∈ scenario.steps, step.Usable := by
  obtain ⟨drafts, read, became⟩ := parse_ok parsed
  have usable : ∀ draft ∈ drafts, draft.Usable := by
    have none : ScenarioDraft.WellFormed [] := ⟨List.forall_mem_nil _, List.nodup_nil⟩
    have checked := (parse_of_drafts read).symm.trans parsed
    obtain ⟨_, _, wellFormed⟩ | ⟨error, _, _, _, failed, _⟩ :=
      ScenarioDraft.checkAll_cases [] drafts none
    · exact wellFormed.each
    · cases checked.symm.trans failed
  obtain ⟨draft, drafted, here⟩ := became.exists_of_mem member
  rw [here.steps]
  exact (usable draft drafted).steps

/-- The step of a stage is one of the scenario's steps. -/
theorem mem_of_stage {metrics : Option Metrics} {index : Nat} {before : Replay} {step : Step}
    (stage : (scenario.stages metrics)[index]? = some (before, step)) : step ∈ scenario.steps :=
  List.mem_of_getElem? (Replay.executed_state stage).2

/-- The state in which a step is done is sound. -/
theorem sound_of_stage {metrics : Option Metrics} {index : Nat} {before : Replay} {step : Step}
    (stage : (scenario.stages metrics)[index]? = some (before, step)) : before.Sound := by
  rw [(Replay.executed_state stage).1]
  exact (scenario.replay_sound metrics).after _

/-- Items that an accepted scenario finds in a list were added by earlier steps. -/
theorem added_of_stage {metrics : Option Metrics} {index place : Nat} {before : Replay}
    {step : Step} {handle : Int} {item : Value}
    (stage : (scenario.stages metrics)[index]? = some (before, step))
    (has : (before.kernel.itemsAt handle)[place]? = some item) :
    ∃ earlier adder, earlier < index ∧ (scenario.stages metrics)[earlier]? = some adder ∧
      Replay.Adds adder.1 adder.2 handle place item := by
  obtain there | added := Replay.there_or_added stage has
  · rw [scenario.itemsAt_replay] at there
    cases there
  · exact added

/-- Where faults are returned every step is done, in the state that the steps before it
leave. -/
theorem stage_of_returning (returns : scenario.settings.effective.policy ≠ .abort)
    (metrics : Option Metrics) {index : Nat} {step : Step}
    (found : scenario.steps[index]? = some step) :
    (scenario.stages metrics)[index]? =
      some ((scenario.replay metrics).after (scenario.steps.take index), step) := by
  have all := (run_returning scenario metrics returns).1
  rw [← all, List.getElem?_map] at found
  obtain ⟨⟨before, same⟩, stage, rfl⟩ := Option.map_eq_some_iff.mp found
  rw [stage, (Replay.executed_state stage).1]

/-- **Accepted scenarios run soundly.** Take a scenario of a document that is accepted, and
counters to go on from.

* After any number of its steps the state is sound. Every name of a host handle that has been
  used stands for a handle of that type, and different names stand for different handles.
* What a step can do wrong is limited at every stage of the run: a fault about a handle is one
  about the kind of a named container, an operation is known, a text can be read back.
* A step that reads an item and expects a host handle is right about the value exactly if the
  item was added by an earlier step whose value was described by the name of that handle. -/
theorem accepted_runs_sound (parsed : Scenario.parse document = .ok scenarios)
    (member : scenario ∈ scenarios) (metrics : Option Metrics) :
    let stages := scenario.stages metrics
    (∀ count,
      let reached := (Replay.runSteps scenario.name 0 (scenario.steps.take count)
        (scenario.replay metrics)).1
      reached.Sound ∧
      (∀ name ∈ reached.hosts, ∃ host, reached.hostHandle? name = some host ∧
        host.type = name ∧ reached.host name = (reached, .host (some host))) ∧
      ∀ first second one other, reached.hostHandle? first = some one →
        reached.hostHandle? second = some other → first ≠ second →
        one.identity ≠ other.identity) ∧
    ∀ (index : Nat) (before : Replay) (step : Step), stages[index]? = some (before, step) →
      before.Limited step ∧
      ∀ handle item spec name, step.operation = .listAt → step.expectError = .success →
        step.expect = some spec → spec.meaning = .host name →
        before.refs.lookup step.target = some handle →
        (before.kernel.step (.listAt handle step.index)).2.result = .ok (.value item) →
        ((∀ got want, (before.run step).2 ≠ some (.value got want)) ↔
          ∃ earlier adder described, earlier < index ∧ stages[earlier]? = some adder ∧
            Replay.Adds adder.1 adder.2 handle step.index.toNat item ∧
            adder.2.value = some described ∧ described.meaning = .host name) := by
  intro stages
  refine ⟨?prefixes, ?stages⟩
  case prefixes =>
    intro count reached
    refine ⟨(scenario.replay_sound metrics).runSteps _ _ _, ?_, ?_⟩
    · intro name used
      obtain ⟨host, found⟩ := Replay.hostHandle?_of_mem used
      exact ⟨host, found, (Replay.hostHandle?_place found).1, Replay.host_of_used found⟩
    · intro first second one other used usedToo differ same
      exact differ (Replay.hostHandle?_apart used usedToo same)
  case stages =>
    intro index before step stage
    have sound : before.Sound := sound_of_stage stage
    refine ⟨sound.limited (usable_of_mem parsed member step (mem_of_stage stage)), ?_⟩
    intro handle item spec name does succeeds expects means target answered
    have has : (before.kernel.itemsAt handle)[step.index.toNat]? = some item :=
      Kernel.itemsAt_of_answer answered
    have keeps : before.Keeps item := sound.items handle item (List.mem_of_getElem? has)
    have right : (∀ got want, (before.run step).2 ≠ some (.value got want)) ↔
        ∃ identity, item = .host (some ⟨identity, name⟩) := by
      rw [← Replay.same_host_iff keeps, ← Bool.not_eq_false,
        ← Replay.listAt_wrong_iff does succeeds expects means target answered]
      simp only [ne_eq, not_exists]
    rw [right]
    constructor
    · intro isHost
      obtain ⟨earlier, adder, small, found, adds⟩ := added_of_stage stage has
      obtain ⟨named, resolved⟩ := adds.value
      obtain ⟨described, given, meaning⟩ := (Replay.Resolved.host_iff resolved name).mp isHost
      exact ⟨earlier, adder, described, small, found, adds, given, meaning⟩
    · rintro ⟨earlier, adder, described, _, _, adds, given, meaning⟩
      obtain ⟨named, resolved⟩ := adds.value
      exact (Replay.Resolved.host_iff resolved name).mpr ⟨described, given, meaning⟩

/-- A list with the host handle `file` in it: reading it back is right where `file` is
expected, wrong where `port` is, which is used there for the first time; and asking the list
for the length of a string is a fault about its handle. -/
theorem host_handle_expected_by_name :
    let named (name : String) : Option ValueSpec := some { host := utf8 name }
    let expecting (name : String) : Step :=
      { operation := .listAt, target := utf8 "l", expect := named name }
    let scenario : Scenario :=
      { name := utf8 "a", settings := ScenarioDraft.standardSettings, ownSettings := false
        steps := [{ operation := .listNew, ref := utf8 "l" },
          { operation := .listAppend, target := utf8 "l", value := named "file" },
          expecting "file", expecting "port",
          { operation := .stringLength, target := utf8 "l" }] }
    let document := utf8 <| "scenarios: [\x7bname: a, steps: [\x7bop: list_new, ref: l\x7d, " ++
      "\x7bop: list_append, target: l, value: \x7bhost: file\x7d\x7d, " ++
      "\x7bop: list_at, target: l, expect: \x7bhost: file\x7d\x7d, " ++
      "\x7bop: list_at, target: l, expect: \x7bhost: port\x7d\x7d, " ++
      "\x7bop: string_length, target: l\x7d]\x7d]\n"
    let before (index : Nat) : Replay :=
      (scenario.replay none).after (scenario.steps.take index)
    Scenario.parse document = .ok [scenario] ∧
      (∀ got want, ((before 2).run (expecting "file")).2 ≠ some (.value got want)) ∧
      (∃ got want, ((before 3).run (expecting "port")).2 = some (.value got want)) ∧
      ∃ other, (before 4).kernel.kind? 1 = some other ∧ other ≠ .string := by
  intro named expecting scenario document before
  have parsed : Scenario.parse document = .ok [scenario] := by
    decide +kernel
  obtain ⟨_, stages⟩ := accepted_runs_sound parsed (List.mem_singleton.mpr rfl) none
  have stage : ∀ index step, scenario.steps[index]? = some step →
      (scenario.stages none)[index]? = some (before index, step) := by
    intro index step found
    exact stage_of_returning (by decide) none found
  refine ⟨parsed, ?file, ?port, ?length⟩
  case file =>
    have right := (stages 2 (before 2) (expecting "file") (stage 2 _ rfl)).2 1
      (.host (some ⟨0, utf8 "file"⟩)) { host := utf8 "file" } (utf8 "file") rfl rfl rfl (by decide)
      (by decide) (by decide +kernel)
    exact right.mpr ⟨1, (before 1, _), _, by decide, stage 1 _ rfl,
      ⟨rfl, by decide, ⟨_, rfl⟩, by decide +kernel, by decide +kernel⟩, rfl, by decide⟩
  case port => exact ⟨some (.host (some ⟨0, utf8 "file"⟩)), some (.host (some ⟨1, utf8 "port"⟩)),
      by decide +kernel⟩
  case length =>
    have misused : ((before 4).misuse? { operation := .stringLength, target := utf8 "l" }).map
        Misuse.fault = some (.handle .string 1) := by
      decide +kernel
    obtain ⟨misuse, found, fault⟩ := Option.map_eq_some_iff.mp misused
    obtain ⟨_, other, _, _, live, unlike⟩ :=
      (stages 4 (before 4) _ (stage 4 _ rfl)).1.handles misuse .string 1 found fault
    exact ⟨other, live, unlike⟩

end Scenario

end ContainerKernel
