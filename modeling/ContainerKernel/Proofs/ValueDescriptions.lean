import ContainerKernel.Proofs.GivenSettings
import ContainerKernel.Scenario.Run
import Mathlib.Control.Monad.Basic

/-!
# How descriptions of values are read

A description of a value has seven fields, of which one is meant to be set. No
check looks at them: whatever the descriptions of a document set, its scenarios
are accepted or refused as before. A run reads a description by the first field
that is set and reads one with no field as nil, so it goes the same way as with
the leading field alone. What an author wrote is therefore read as it stands in
exactly the documents in which every description has one field.
-/

namespace ContainerKernel

/-- The fields of a description, by the kind of value that they describe. -/
inductive ValueField where
  | nil
  | bool
  | integer
  | byte
  | list
  | string
  | host
deriving DecidableEq

/-- The fields in the order in which they count. -/
def ValueField.all : List ValueField :=
  [nil, bool, integer, byte, list, string, host]

theorem ValueField.mem_all (field : ValueField) : field ∈ all := by
  cases field <;> decide

namespace ValueSpec

/-- Whether a description sets a field. -/
def sets (spec : ValueSpec) : ValueField → Bool
  | .nil => spec.nil
  | .bool => spec.bool.isSome
  | .integer => spec.integer.isSome
  | .byte => !spec.byte.isEmpty
  | .list => !spec.list.isEmpty
  | .string => !spec.string.isEmpty
  | .host => !spec.host.isEmpty

/-- The fields that a description sets. -/
def given (spec : ValueSpec) : List ValueField :=
  ValueField.all.filter spec.sets

/-- Exactly one field is set. -/
def Single (spec : ValueSpec) : Prop :=
  spec.given.length = 1

instance (spec : ValueSpec) : Decidable spec.Single :=
  inferInstanceAs (Decidable (spec.given.length = 1))

/-- The description with one of its fields alone. -/
def only (spec : ValueSpec) : ValueField → ValueSpec
  | .nil => { nil := spec.nil }
  | .bool => { bool := spec.bool }
  | .integer => { integer := spec.integer }
  | .byte => { byte := spec.byte }
  | .list => { list := spec.list }
  | .string => { string := spec.string }
  | .host => { host := spec.host }

/-- The description with the first field that it sets and no other; without any it
is that of nil. -/
def leading (spec : ValueSpec) : ValueSpec :=
  match spec.given with
  | [] => { nil := true }
  | field :: _ => spec.only field

/-- A field is among those given if it is set. -/
theorem mem_given {spec : ValueSpec} {field : ValueField} :
    field ∈ spec.given ↔ spec.sets field = true := by
  simp [given, ValueField.mem_all]

/-- In a description with one field alone, that field is set if it was set before,
and no other is. -/
theorem sets_only (spec : ValueSpec) (field other : ValueField) :
    (spec.only field).sets other = (spec.sets field && decide (other = field)) := by
  cases field <;> cases other <;> simp [only, sets]

/-- A description with one field alone has one field, if that field was set. -/
theorem single_only {spec : ValueSpec} {field : ValueField} (set : spec.sets field = true) :
    (spec.only field).Single := by
  have alone : (spec.only field).sets = fun other => decide (other = field) := by
    funext other
    rw [sets_only, set, Bool.true_and]
  unfold Single given
  rw [alone]
  cases field <;> decide

/-- A description that sets no other field is that with this field alone. -/
theorem only_eq {spec : ValueSpec} {field : ValueField}
    (alone : ∀ other, spec.sets other = true → other = field) : spec.only field = spec := by
  have unset : ∀ other, other ≠ field → spec.sets other = false := by
    intro other differs
    cases found : spec.sets other with
    | false => rfl
    | true => exact absurd (alone other found) differs
  cases spec
  have nil := unset .nil
  have bool := unset .bool
  have integer := unset .integer
  have byte := unset .byte
  have list := unset .list
  have string := unset .string
  have host := unset .host
  cases field <;> simp_all [only, sets]

/-- A description with its leading field alone has one field. -/
theorem single_leading (spec : ValueSpec) : spec.leading.Single := by
  unfold leading
  split
  · decide
  · next field others found =>
    have set : spec.sets field = true := by
      rw [← mem_given, found]
      exact List.mem_cons_self
    exact single_only set

/-- A description is that with its leading field alone exactly if it has one
field. -/
theorem leading_eq_iff (spec : ValueSpec) : spec.leading = spec ↔ spec.Single := by
  constructor
  · intro same
    rw [← same]
    exact single_leading spec
  · intro single
    obtain ⟨field, found⟩ := List.length_eq_one_iff.mp single
    unfold leading
    rw [found]
    apply only_eq
    intro other set
    rwa [← mem_given, found, List.mem_singleton] at set

/-- A description says what its leading field says.

The cases follow the order of the fields: at the first one that is set, both
sides come to what it describes. -/
theorem meaning_leading (spec : ValueSpec) : spec.leading.meaning = spec.meaning := by
  obtain ⟨nil, bool, integer, byte, list, string, host⟩ := spec
  cases nil with
  | true => rfl
  | false =>
  cases bool with
  | some bool => rfl
  | none =>
  cases integer with
  | some integer => rfl
  | none =>
  cases byte with
  | cons first rest => cases rest <;> rfl
  | nil =>
  cases list with
  | cons first rest => rfl
  | nil =>
  cases string with
  | cons first rest => rfl
  | nil => cases host <;> rfl

end ValueSpec

/-! ## Other descriptions in the same steps -/

/-- A list is mapped to itself if every item is. -/
theorem map_eq_self_iff {α : Type} (change : α → α) (items : List α) :
    items.map change = items ↔ ∀ item ∈ items, change item = item := by
  have pointwise : items.map change = items.map id ↔ ∀ item ∈ items, change item = id item :=
    List.map_inj_left
  rwa [List.map_id] at pointwise

section Mapped

variable (change : ValueSpec → ValueSpec)

namespace Step

/-- The descriptions in a step: the value that it uses and the one that it expects. -/
def specs (step : Step) : List ValueSpec :=
  step.value.toList ++ step.expect.toList

/-- The step with other descriptions in both places. -/
def mapSpecs (step : Step) : Step :=
  { step with value := step.value.map change, expect := step.expect.map change }

theorem specs_mapSpecs (step : Step) : (step.mapSpecs change).specs = step.specs.map change := by
  simp [specs, mapSpecs, Option.toList_map]

/-- A step is as before if all of its descriptions are. -/
theorem mapSpecs_eq_iff (step : Step) :
    step.mapSpecs change = step ↔ ∀ spec ∈ step.specs, change spec = spec := by
  obtain ⟨_, _, _, _, _, _, value, expect, _, _, _, _, _⟩ := step
  cases value <;> cases expect <;> simp [mapSpecs, specs]

/-- Every description in the steps sets exactly one field. -/
def AllSingle (steps : List Step) : Prop :=
  ∀ step ∈ steps, ∀ spec ∈ step.specs, spec.Single

instance (steps : List Step) : Decidable (AllSingle steps) :=
  inferInstanceAs (Decidable (∀ step ∈ steps, ∀ spec ∈ step.specs, spec.Single))

/-- In steps with the leading fields alone each description has one field. -/
theorem allSingle_leading (steps : List Step) :
    AllSingle (steps.map (mapSpecs ValueSpec.leading)) := by
  intro step found spec described
  obtain ⟨original, _, rfl⟩ := List.mem_map.mp found
  rw [specs_mapSpecs] at described
  obtain ⟨other, _, rfl⟩ := List.mem_map.mp described
  exact other.single_leading

/-- Steps are those with the leading fields alone exactly if each description has
one field. -/
theorem map_leading_eq_iff (steps : List Step) :
    steps.map (mapSpecs ValueSpec.leading) = steps ↔ AllSingle steps := by
  simp only [map_eq_self_iff, mapSpecs_eq_iff, ValueSpec.leading_eq_iff]
  rfl

/-- There is the same objection to a step with other descriptions: a check asks at
most whether there is a value. -/
theorem objection?_mapSpecs (step : Step) :
    (step.mapSpecs change).objection? = step.objection? := by
  have missing : (step.mapSpecs change).missingFields? = step.missingFields? := by
    simp only [missingFields?, mapSpecs, Option.isSome_map]
    rfl
  unfold objection?
  rw [missing]
  rfl

end Step

namespace ScenarioDraft

/-- The draft with other descriptions in its steps. -/
def mapSpecs (draft : ScenarioDraft) : ScenarioDraft :=
  { draft with steps := draft.steps.map (Step.mapSpecs change) }

end ScenarioDraft

namespace Scenario

/-- The scenario with other descriptions in its steps. -/
def mapSpecs (scenario : Scenario) : Scenario :=
  { scenario with steps := scenario.steps.map (Step.mapSpecs change) }

end Scenario

namespace ScenarioDraft

theorem firstObjection_mapSpecs (index : Nat) (steps : List Step) :
    firstObjection index (steps.map (Step.mapSpecs change)) = firstObjection index steps := by
  induction steps generalizing index with
  | nil => rfl
  | cons step rest inductionHypothesis =>
    simp only [List.map_cons, firstObjection, Step.objection?_mapSpecs, inductionHypothesis]

/-- A draft with other descriptions passes and fails the checks as before. -/
theorem check_mapSpecs (draft : ScenarioDraft) (index : Nat) (taken : List Bytes) :
    (draft.mapSpecs change).check index taken =
      (draft.check index taken).map (Scenario.mapSpecs change) := by
  have settings : (draft.mapSpecs change).settingsOf = draft.settingsOf := rfl
  have steps : firstObjection 0 (draft.mapSpecs change).steps = firstObjection 0 draft.steps :=
    firstObjection_mapSpecs change 0 draft.steps
  have name : (draft.mapSpecs change).name = draft.name := rfl
  unfold check
  rw [settings, steps, name]
  dsimp only
  by_cases missing : trim draft.name = []
  · rw [if_pos missing, if_pos missing]
    rfl
  rw [if_neg missing, if_neg missing]
  by_cases repeated : taken.contains (trim draft.name) = true
  · rw [if_pos repeated, if_pos repeated]
    rfl
  rw [if_neg repeated, if_neg repeated]
  cases draft.settingsOf with
  | error cause => rfl
  | ok settings =>
    cases firstObjection 0 draft.steps with
    | some found => rfl
    | none => rfl

/-- Drafts with other descriptions pass and fail the checks one after another as
before. -/
theorem checkAll_mapSpecs (drafts : List ScenarioDraft) (index : Nat) (taken : List Bytes) :
    checkAll index taken (drafts.map (mapSpecs change)) =
      (checkAll index taken drafts).map (List.map (Scenario.mapSpecs change)) := by
  induction drafts generalizing index taken with
  | nil => rfl
  | cons draft rest inductionHypothesis =>
    simp only [List.map_cons, checkAll, check_mapSpecs]
    cases draft.check index taken with
    | error error => rfl
    | ok scenario =>
      have later := inductionHypothesis (index + 1) (scenario.name :: taken)
      have named : (scenario.mapSpecs change).name = scenario.name := rfl
      simp only [Except.map, named, later, bind, Except.bind]
      cases checkAll (index + 1) (scenario.name :: taken) rest with
      | error error => rfl
      | ok scenarios => rfl

end ScenarioDraft

end Mapped

/-! ## Runs -/

section Kept

variable {change : ValueSpec → ValueSpec}

namespace Replay

/-- A value is looked up as before where the description still says the same. -/
theorem valueOrNil_map (keeps : ∀ spec, (change spec).meaning = spec.meaning) (replay : Replay)
    (value : Option ValueSpec) :
    replay.valueOrNil (value.map change) = replay.valueOrNil value := by
  cases value with
  | none => rfl
  | some spec => simp only [Option.map_some, valueOrNil, keeps]

theorem operation_mapSpecs (keeps : ∀ spec, (change spec).meaning = spec.meaning)
    (replay : Replay) (step : Step) :
    replay.operation (step.mapSpecs change) = replay.operation step := by
  simp only [operation, Step.mapSpecs, valueOrNil_map keeps]

theorem checkValue_mapSpecs (keeps : ∀ spec, (change spec).meaning = spec.meaning)
    (replay : Replay) (step : Step) (reply : Reply) :
    replay.checkValue (step.mapSpecs change) reply = replay.checkValue step reply := by
  unfold checkValue Step.mapSpecs
  cases step.expect with
  | none => rfl
  | some spec => simp only [Option.map_some, keeps]

/-- A step goes the same way where its descriptions still say the same. -/
theorem run_mapSpecs (keeps : ∀ spec, (change spec).meaning = spec.meaning) (replay : Replay)
    (step : Step) : replay.run (step.mapSpecs change) = replay.run step := by
  have reply : ∀ replay reply,
      checkReply replay (step.mapSpecs change) reply = checkReply replay step reply := by
    intro replay reply
    unfold checkReply
    rw [checkValue_mapSpecs keeps]
    rfl
  have result : ∀ replay result,
      checkResult replay (step.mapSpecs change) result = checkResult replay step result := by
    intro replay result
    unfold checkResult
    simp only [reply]
    rfl
  unfold run
  rw [operation_mapSpecs keeps]
  simp only [result]
  rfl

/-- Steps one after another go the same way where their descriptions still say the
same, up to the one that ends the run. -/
theorem runSteps_mapSpecs (keeps : ∀ spec, (change spec).meaning = spec.meaning) (name : Bytes)
    (index : Nat) (steps : List Step) (replay : Replay) :
    runSteps name index (steps.map (Step.mapSpecs change)) replay =
      runSteps name index steps replay := by
  induction steps generalizing index replay with
  | nil => rfl
  | cons step rest inductionHypothesis =>
    simp only [List.map_cons, runSteps, run_mapSpecs keeps, inductionHypothesis,
      List.map_eq_nil_iff, List.length_map]
    rfl

end Replay

namespace Scenario

/-- A scenario reports the same where its descriptions still say the same. -/
theorem run_mapSpecs (keeps : ∀ spec, (change spec).meaning = spec.meaning) (scenario : Scenario)
    (metrics : Option Metrics) :
    (scenario.mapSpecs change).run metrics = scenario.run metrics := by
  have begun : (scenario.mapSpecs change).replay metrics = scenario.replay metrics := rfl
  have steps : (scenario.mapSpecs change).steps = scenario.steps.map (Step.mapSpecs change) := rfl
  have name : (scenario.mapSpecs change).name = scenario.name := rfl
  simp only [run, begun, steps, name, Replay.runSteps_mapSpecs keeps]

theorem runAll_mapSpecs (keeps : ∀ spec, (change spec).meaning = spec.meaning)
    (scenarios : List Scenario) (metrics : Option Metrics) :
    runAll metrics (scenarios.map (mapSpecs change)) = runAll metrics scenarios := by
  induction scenarios generalizing metrics with
  | nil => rfl
  | cons scenario rest inductionHypothesis =>
    simp only [List.map_cons, runAll, run_mapSpecs keeps, inductionHypothesis]

end Scenario

end Kept

namespace Scenario

/-- Scenarios are those with the leading fields alone exactly if each description
in them has one field. -/
theorem map_leading_eq_iff (scenarios : List Scenario) :
    scenarios.map (mapSpecs ValueSpec.leading) = scenarios ↔
      ∀ scenario ∈ scenarios, Step.AllSingle scenario.steps := by
  rw [map_eq_self_iff]
  refine forall₂_congr fun scenario _ => ?_
  rw [← Step.map_leading_eq_iff]
  cases scenario
  simp [mapSpecs]

end Scenario

/-- What holds of the steps of all drafts holds of those of the scenarios that they
have become, and the other way round. -/
theorem ScenarioDraft.forall_steps_iff {drafts : List ScenarioDraft} {scenarios : List Scenario}
    (became : List.Forall₂ Became drafts scenarios) (holds : List Step → Prop) :
    (∀ scenario ∈ scenarios, holds scenario.steps) ↔ ∀ draft ∈ drafts, holds draft.steps := by
  constructor
  · intro all draft drafted
    obtain ⟨scenario, member, here⟩ := became.flip.exists_of_mem drafted
    rw [← here.steps]
    exact all scenario member
  · intro all scenario member
    obtain ⟨draft, drafted, here⟩ := became.exists_of_mem member
    rw [here.steps]
    exact all draft drafted

/-- The fields that descriptions set decide nothing about whether the scenarios of
a document are accepted: with any other descriptions in their place the drafts
pass and fail the checks as before. Of an accepted document, every description has
exactly one field if and only if that is so in the drafts as they are written, and
if and only if the scenarios are those with the leading fields alone. In any case
the run of the scenarios is the run of those, in which every description has one
field. -/
theorem descriptions_read_by_leading_field {bytes : Bytes} {drafts : List ScenarioDraft}
    (read : ScenarioDraft.ofBytes bytes = .ok drafts) :
    (∀ change, ScenarioDraft.checkAll 0 [] (drafts.map (ScenarioDraft.mapSpecs change)) =
      (Scenario.parse bytes).map (List.map (Scenario.mapSpecs change))) ∧
    ∀ scenarios, Scenario.parse bytes = .ok scenarios →
      ((∀ scenario ∈ scenarios, Step.AllSingle scenario.steps) ↔
        ∀ draft ∈ drafts, Step.AllSingle draft.steps) ∧
      ((∀ scenario ∈ scenarios, Step.AllSingle scenario.steps) ↔
        scenarios.map (Scenario.mapSpecs ValueSpec.leading) = scenarios) ∧
      (∀ scenario ∈ scenarios, Step.AllSingle (scenario.mapSpecs ValueSpec.leading).steps) ∧
      ∀ metrics, Scenario.runAll metrics (scenarios.map (Scenario.mapSpecs ValueSpec.leading)) =
        Scenario.runAll metrics scenarios := by
  refine ⟨?_, ?_⟩
  · intro change
    rw [ScenarioDraft.checkAll_mapSpecs, Scenario.parse_of_drafts read]
  · intro scenarios parsed
    refine ⟨?_, (Scenario.map_leading_eq_iff scenarios).symm, ?_, ?_⟩
    · rw [Scenario.parse_of_drafts read] at parsed
      exact ScenarioDraft.forall_steps_iff (ScenarioDraft.became_of_checkAll parsed) _
    · intro scenario _
      exact Step.allSingle_leading scenario.steps
    · intro metrics
      exact Scenario.runAll_mapSpecs ValueSpec.meaning_leading scenarios metrics

/-- A scenario with an integer that is also a host handle, and with an expected
integer that is also a text of two bytes, is accepted. It passes, as it does with
the integers alone; with the second fields alone it would not. -/
theorem second_fields_ignored :
    let number : ValueSpec := { integer := some 1 }
    let appended : Step := { operation := .listAppend, target := utf8 "l" }
    let read : Step := { operation := .listAt, target := utf8 "l" }
    let scenario (value expect : ValueSpec) : Scenario :=
      { name := utf8 "a"
        settings := ScenarioDraft.standardSettings
        steps := [
          { operation := .listNew, ref := utf8 "l" },
          { appended with value := some value },
          { read with expect := some expect }] }
    let document := utf8 <| "scenarios: [\x7bname: a, steps: [" ++
      "\x7bop: list_new, ref: l\x7d, " ++
      "\x7bop: list_append, target: l, value: \x7bint: 1, host: h\x7d\x7d, " ++
      "\x7bop: list_at, target: l, expect: \x7bint: 1, byte: ab\x7d\x7d]\x7d]\n"
    let written := scenario { number with host := utf8 "h" } { number with byte := utf8 "ab" }
    Scenario.parse document = .ok [written] ∧
      ¬ Step.AllSingle written.steps ∧
      Scenario.runAll none [written] = Scenario.runAll none [scenario number number] ∧
      (written.run none).verdict.passed = true ∧
      ((scenario { host := utf8 "h" } { byte := utf8 "ab" }).run none).verdict.passed = false := by
  intro number appended read scenario document written
  have drafts : ScenarioDraft.ofBytes document =
      .ok [{ name := utf8 "a", steps := written.steps }] := by
    decide +kernel
  have parsed : Scenario.parse document = .ok [written] := by
    rw [Scenario.parse_of_drafts drafts]
    decide +kernel
  obtain ⟨_, accepted⟩ := descriptions_read_by_leading_field drafts
  obtain ⟨_, _, _, runs⟩ := accepted [written] parsed
  refine ⟨parsed, by decide, ?_, by decide +kernel, by decide +kernel⟩
  exact (runs none).symm

end ContainerKernel
