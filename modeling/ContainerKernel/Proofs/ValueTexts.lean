import ContainerKernel.Proofs.AcceptedReplays
import ContainerKernel.Proofs.DistinctTexts
import ContainerKernel.Proofs.PolicyAgreement

/-!
# Values and their texts

Two values are equal if they are the same up to the type of a host handle, which its
identity decides; so equality is an equivalence, and equal values have the same text as
long as no identity has two types. In the other direction the first byte of a text tells
the kind of the value, and within every kind but one the rest tells the value. Only host
handles are not told apart by their texts, which show their types.

In the run of a scenario this does no harm: a name stands for one host handle there, and
the type of the handle is that name. Hence a message that a value is not the expected one
always shows two different texts.
-/

namespace ContainerKernel

namespace Value

/-! ## Equality -/

/-- The value without the type of a host handle. -/
def untyped : Value → Value
  | host handle => host (handle.map fun handle => { handle with type := [] })
  | value => value

/-- Values are the same if they agree up to types. -/
theorem same_iff (first second : Value) :
    same first second = true ↔ first.untyped = second.untyped := by
  cases first <;> cases second <;> simp [same, untyped]
  next handle other =>
    cases handle <;> cases other <;> simp [HostHandle.mk.injEq]

/-- Values that may be missing are equal if they agree up to types. -/
theorem equal_iff (first second : Option Value) :
    equal first second = true ↔ first.map untyped = second.map untyped := by
  cases first <;> cases second <;> simp [equal, same_iff]

/-- The value belongs to a world in which the identity of a host handle decides its type. -/
def Typed (types : Int → Bytes) : Option Value → Prop
  | some (host (some handle)) => handle.type = types handle.identity
  | _ => True

/-- The value with the type of a host handle that the identity decides. -/
def typedBy (types : Int → Bytes) : Value → Value
  | host handle => host (handle.map fun handle => { handle with type := types handle.identity })
  | value => value

/-- Where the identity of a host handle decides its type, the type is not lost. -/
theorem typedBy_untyped {types : Int → Bytes} {value : Option Value} (typed : Typed types value) :
    (value.map untyped).map (typedBy types) = value := by
  cases value with
  | none => rfl
  | some value =>
    cases value with
    | nil | bool | integer | byte | string | list => rfl
    | host handle =>
      cases handle with
      | none => rfl
      | some handle =>
        obtain ⟨identity, shown⟩ := handle
        obtain rfl : shown = types identity := typed
        rfl

/-- Where the identity of a host handle decides its type, equal values are the
same. -/
theorem eq_of_equal {types : Int → Bytes} {first second : Option Value}
    (typed : Typed types first) (typedToo : Typed types second)
    (same : equal first second = true) : first = second := by
  rw [← typedBy_untyped typed, (equal_iff first second).mp same, typedBy_untyped typedToo]

/-! ## Texts -/

/-- The kind of the value whose text begins with the given byte; a missing value has
none. -/
def kindOfLead (lead : UInt8) : Option Kind :=
  if lead = 60 then none
  else if lead = 110 then some .nil
  else if lead = 102 ∨ lead = 116 then some .bool
  else if lead = 39 then some .byte
  else if lead = 83 then some .string
  else if lead = 76 then some .list
  else if lead = 104 then some .hostHandle
  else some .integer

/-- A sign or a digit begins none of the other texts. -/
theorem kindOfLead_numeric {lead : UInt8}
    (numeric : lead = 45 ∨ 48 ≤ lead.toNat ∧ lead.toNat ≤ 57) :
    kindOfLead lead = some .integer := by
  have apart : ∀ other : UInt8, other.toNat < 45 ∨ 57 < other.toNat → lead ≠ other := by
    rintro other outside rfl
    obtain rfl | bounds := numeric
    · revert outside
      decide
    · omega
  simp [kindOfLead, apart]

/-- The first byte of a text tells the kind of the value. -/
theorem describe_lead (value : Option Value) :
    ∃ lead rest, describe value = lead :: rest ∧ kindOfLead lead = value.map kind := by
  cases value with
  | none => exact ⟨60, _, rfl, rfl⟩
  | some value =>
    cases value with
    | nil => exact ⟨110, _, rfl, rfl⟩
    | bool value => cases value <;> exact ⟨_, _, rfl, rfl⟩
    | integer number =>
      obtain ⟨lead, rest, written, numeric⟩ := decimal_lead number
      exact ⟨lead, rest, written, kindOfLead_numeric numeric⟩
    | byte value => exact ⟨39, _, rfl, rfl⟩
    | string handle => exact ⟨83, _, rfl, rfl⟩
    | list handle => exact ⟨76, _, rfl, rfl⟩
    | host handle => cases handle <;> exact ⟨104, _, rfl, rfl⟩

/-- Values with the same text are of one kind. -/
theorem kind_of_describe {first second : Option Value} (same : describe first = describe second) :
    first.map kind = second.map kind := by
  obtain ⟨lead, rest, text, tells⟩ := describe_lead first
  obtain ⟨leadToo, restToo, textToo, tellsToo⟩ := describe_lead second
  rw [text, textToo] at same
  rw [← tells, ← tellsToo, (List.cons.inj same).1]

/-- Within one kind the text tells the value, unless it is a host handle. -/
theorem text_injective {first second : Value} (alike : first.kind = second.kind)
    (other : first.kind ≠ .hostHandle) (same : first.text = second.text) : first = second := by
  cases first <;> cases second <;> cases alike
  case nil.nil.refl => rfl
  case bool.bool.refl one two => cases one <;> cases two <;> first | rfl | cases same
  case integer.integer.refl one two => rw [decimal_injective same]
  case byte.byte.refl one two => rw [quotedByte_injective same]
  case string.string.refl one two => rw [decimal_injective (List.append_cancel_left same)]
  case list.list.refl one two => rw [decimal_injective (List.append_cancel_left same)]
  case host.host.refl one two => exact absurd rfl other

/-- The text tells the value, if one of two values with the same text is no host handle. -/
theorem eq_of_describe {first second : Option Value} (same : describe first = describe second)
    (other : ¬ (first.map kind = some .hostHandle ∧ second.map kind = some .hostHandle)) :
    first = second := by
  have kinds := kind_of_describe same
  cases first with
  | none =>
    cases second with
    | none => rfl
    | some second => cases kinds
  | some first =>
    cases second with
    | none => cases kinds
    | some second =>
      have alike : first.kind = second.kind := Option.some.inj kinds
      have plain : first.kind ≠ .hostHandle := by
        intro host
        exact other ⟨congrArg some host, congrArg some (alike ▸ host)⟩
      rw [text_injective alike plain same]

/-- The text of a host handle tells its type. -/
theorem type_of_text {first second : HostHandle}
    (same : (host (some first)).text = (host (some second)).text) : first.type = second.type :=
  List.append_cancel_left (List.append_cancel_right same)

end Value

/-- Only reading an item of a list answers with a value. -/
theorem Kernel.listAt_of_value {kernel : Kernel} {operation : Operation} {item : Value}
    (answered : (kernel.step operation).2.result = .ok (.value item)) :
    ∃ handle index, operation = .listAt handle index := by
  rw [step_result] at answered
  cases attempted : kernel.attempt operation with
  | error misuse =>
    rw [attempted] at answered
    cases answered
  | ok answer =>
    obtain ⟨next, reply⟩ := answer
    rw [attempted] at answered
    have same : reply = .value item := Except.ok.inj answered
    cases attempt_done attempted with
    | listMade | stringMade | appended => cases same
    | read _ reads =>
      cases operation with
      | listAt handle index => exact ⟨handle, index, rfl⟩
      | stringAt handle index =>
        obtain ⟨text, _, replied⟩ := Except.bind_ok attempted
        split at replied
        · cases replied
          cases same
        · cases replied
      | listLength | listItems | stringLength | stringBytes =>
        obtain ⟨contents, _, replied⟩ := Except.bind_ok attempted
        cases replied
        cases same
      | listNew | listAppend | stringNew | stringAdd | stringConcat => cases reads

namespace Replay

variable {replay : Replay} {step : Step} {got want : Option Value}

/-- The host handle of a name has the name for its type. -/
theorem host_typed (replay : Replay) (name : Bytes) :
    ∃ identity, (replay.host name).2 = .host (some ⟨identity, name⟩) := by
  unfold Replay.host
  split <;> exact ⟨_, rfl⟩

/-- A value that may be held and a described value equal each other if both are host handles
with the same text. -/
theorem same_of_host_texts {named : Replay} {spec : Option ValueSpec} {item value : Value}
    (keeps : replay.Keeps item) (found : replay.valueOrNil spec = .ok (named, value))
    (kind : item.kind = .hostHandle) (kindToo : value.kind = .hostHandle)
    (texts : item.text = value.text) : Value.same item value = true := by
  cases resolved_of_valueOrNil found with
  | plain plain => cases value <;> cases plain <;> cases kindToo
  | list | string => cases kindToo
  | @host described name _ _ =>
    rw [same_host_iff keeps]
    obtain ⟨identity, shown⟩ := replay.host_typed name
    rw [shown] at texts
    cases item with
    | nil | bool | integer | byte | string | list => cases kind
    | host handle =>
      cases handle with
      | none => exact keeps.elim
      | some handle =>
        have type : handle.type = name := Value.type_of_text texts
        exact ⟨handle.identity, by rw [← type]⟩

/-- Nothing is said about a value where success or failure is looked at. -/
theorem resultMismatch?_ne_value (expected : ErrorExpectation) (result : Except Failure Reply) :
    resultMismatch? expected result ≠ some (.value got want) := by
  intro wrong
  unfold resultMismatch? at wrong
  repeat' split at wrong
  all_goals cases wrong

/-- A step that is wrong about a value was answered, and what it expects came to a value that
does not equal the answer. -/
theorem value_of_wrong (wrong : (replay.run step).2 = some (.value got want)) :
    ∃ named operation reply spec later value,
      replay.operation step = .ok (named, operation) ∧
      (named.perform operation).2 = .ok reply ∧ step.expect = some spec ∧
      ((named.perform operation).1.bind step.ref (.ok reply)).lookUp spec.meaning =
        .ok (later, value) ∧
      got = replyValue? reply ∧ want = some value ∧ Value.equal got want = false := by
  unfold Replay.run at wrong
  cases found : replay.operation step with
  | error cause =>
    rw [found] at wrong
    cases wrong
    exact (operation_unusable found).elim
  | ok answer =>
    obtain ⟨named, operation⟩ := answer
    rw [found] at wrong
    dsimp only at wrong
    unfold checkResult at wrong
    split at wrong
    · next told =>
      cases wrong
      exact absurd told (resultMismatch?_ne_value _ _)
    · split at wrong
      · exact absurd wrong (stderrMismatch?_ne_value _ step got want)
      · next reply answered =>
        rw [checkReply_value_iff] at wrong
        unfold checkValue at wrong
        split at wrong
        · cases wrong
        · next spec expects =>
          split at wrong
          · next cause unknown =>
            cases wrong
            exact (@lookUp_unusable _ step _ _ unknown).elim
          · next later value known =>
            dsimp only at wrong
            split at wrong
            · cases wrong
            · next different =>
              cases wrong
              refine ⟨named, operation, reply, spec, later, value, rfl, answered, expects, ?_, rfl,
                rfl, Bool.eq_false_iff.mpr different⟩
              rw [← answered]
              exact known

/-- In a sound state a step that is wrong about a value shows two different texts. -/
theorem Sound.texts_differ (sound : Sound replay)
    (wrong : (replay.run step).2 = some (.value got want)) :
    Value.describe got ≠ Value.describe want := by
  obtain ⟨named, operation, reply, spec, later, value, found, answered, _, known, rfl, rfl,
      unlike⟩ :=
    value_of_wrong wrong
  intro texts
  by_cases hosts : (replyValue? reply).map Value.kind = some .hostHandle ∧
      value.kind = .hostHandle
  · -- Only an item of a list can be a host handle, and the state in which it is compared holds
    -- the same items and knows the same host handles.
    obtain ⟨item, replied, kind⟩ := Option.map_eq_some_iff.mp hosts.1
    obtain rfl : reply = .value item := by
      cases reply <;> cases replied
      rfl
    obtain ⟨handle, index, rfl⟩ := Kernel.listAt_of_value answered
    cases asked_of_operation found with
    | listAt _ target =>
      have held : replay.Keeps item :=
        sound.items handle item (List.mem_of_getElem? (Kernel.itemsAt_of_answer answered))
      have keeps : ((replay.perform (.listAt handle step.index)).1.bind step.ref
          (.ok (.value item))).Keeps item :=
        held.later (fun _ live => Kernel.kind?_step_isSome _ live) List.prefix_rfl
      have valued : ((replay.perform (.listAt handle step.index)).1.bind step.ref
          (.ok (.value item))).valueOrNil (some spec) = .ok (later, value) := known
      have different : Value.same item value = false := unlike
      rw [same_of_host_texts keeps valued kind hosts.2 texts] at different
      cases different
  · have same := Value.eq_of_describe texts fun both =>
      hosts ⟨both.1, Option.some.inj both.2⟩
    rw [same, (Value.equal_iff _ _).mpr rfl] at unlike
    cases unlike

end Replay

/-- **Texts tell values apart.** Take any values, each of which may be missing.

* Equality is reflexive, symmetric and transitive.
* Equal values have the same text, if the identity of a host handle decides its type.
* Values with the same text are equal, unless both are host handles.

In the run of any scenario, with any counters to go on from, every failure about a value or a
number shows two different texts. -/
theorem Value.texts_tell_values :
    (∀ value, Value.equal value value = true) ∧
    (∀ first second, Value.equal first second = Value.equal second first) ∧
    (∀ first second third, Value.equal first second = true → Value.equal second third = true →
      Value.equal first third = true) ∧
    (∀ (types : Int → Bytes) (first second : Option Value), Typed types first →
      Typed types second → Value.equal first second = true →
      describe first = describe second) ∧
    (∀ first second : Option Value,
      ¬ (first.map kind = some .hostHandle ∧ second.map kind = some .hostHandle) →
      describe first = describe second → Value.equal first second = true) ∧
    ∀ (scenario : Scenario) (metrics : Option Metrics),
      ∀ failure ∈ (scenario.run metrics).verdict.failures,
        (∀ got want, failure.mismatch = .value got want →
          failure.mismatch.message =
            utf8 "got " ++ describe got ++ utf8 ", want " ++ describe want ∧
          describe got ≠ describe want) ∧
        (∀ got want, failure.mismatch = .number got want →
          failure.mismatch.message =
            utf8 "got " ++ decimal got ++ utf8 ", want " ++ decimal want ∧
          decimal got ≠ decimal want) := by
  refine ⟨?reflexive, ?symmetric, ?transitive, ?texts, ?values, ?failures⟩
  case reflexive =>
    intro value
    rw [equal_iff]
  case symmetric =>
    intro first second
    rw [Bool.eq_iff_iff, equal_iff, equal_iff]
    exact eq_comm
  case transitive =>
    intro first second third same sameToo
    rw [equal_iff] at same sameToo ⊢
    exact same.trans sameToo
  case texts =>
    intro types first second typed typedToo same
    rw [eq_of_equal typed typedToo same]
  case values =>
    intro first second other same
    rw [eq_of_describe same other, equal_iff]
  case failures =>
    intro scenario metrics failure member
    rw [Scenario.run_eq] at member
    obtain ⟨⟨before, step⟩, stage, wrong, _⟩ := (Replay.mem_failuresFrom _ failure).mp member
    have sound : before.Sound := Scenario.sound_of_stage stage
    refine ⟨?_, ?_⟩
    · intro got want mismatch
      rw [mismatch] at wrong ⊢
      exact ⟨rfl, sound.texts_differ wrong⟩
    · intro got want mismatch
      rw [mismatch] at wrong ⊢
      have different : got ≠ want := Replay.run_possible wrong
      exact ⟨rfl, fun same => different (decimal_injective same)⟩

/-- A run that reads back the host handle `file` where `port` is expected shows both names.
Two handles of one type have the same text and are not equal; the byte `7` and the number
seven are neither equal nor of the same text. -/
theorem Value.other_host_handle_shown :
    let named (name : String) : Option ValueSpec := some { host := utf8 name }
    let scenario : Scenario :=
      { name := utf8 "a", settings := ScenarioDraft.standardSettings
        steps := [{ operation := .listNew, ref := utf8 "l" },
          { operation := .listAppend, target := utf8 "l", value := named "file" },
          { operation := .listAt, target := utf8 "l", expect := named "port" }] }
    let file (identity : Int) : Option Value := some (.host (some ⟨identity, utf8 "file"⟩))
    let port : Option Value := some (.host (some ⟨1, utf8 "port"⟩))
    (scenario.run none).verdict.failures = [⟨2, .listAt, .value (file 0) port⟩] ∧
    describe (file 0) ≠ describe port ∧
    Typed (fun _ => utf8 "file") (file 0) ∧ describe (file 0) = describe (file 1) ∧
    Value.equal (file 0) (file 1) = false ∧
    describe (some (.byte 55)) ≠ describe (some (.integer 7)) := by
  intro named scenario file port
  obtain ⟨_, _, _, _, values, failures⟩ := texts_tell_values
  have failed : (scenario.run none).verdict.failures =
      [⟨2, .listAt, .value (file 0) port⟩] := by
    decide +kernel
  have shown := (failures scenario none _ (failed ▸ List.mem_singleton.mpr rfl)).1 _ _ rfl
  have apart : describe (some (.byte 55)) ≠ describe (some (.integer 7)) := fun same =>
    absurd (values _ _ (by decide) same) (by decide)
  exact ⟨failed, shown.2, rfl, rfl, by decide, apart⟩

end ContainerKernel
