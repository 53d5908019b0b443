import ContainerKernel.Proofs.GivenSettings
import Mathlib.Control.Monad.Basic

/-!
# Which documents of scenarios are accepted

A document of scenarios is accepted if every draft in it is usable by itself and no
two have the same name. Usable is said here without the checks that decide it: a
draft has a name, settings that can be read over the standard ones, if it brings any,
and steps with the fields that their operations need. The checks accept exactly such
documents, and turn the drafts into scenarios one by one.

Otherwise the error is about the first draft that spoils the document. Of several
faults of this draft the first counts, in the order of name, repeated name, settings
and steps. The error names the draft, by its number if it has no name, with one
exception: settings that break down while they are read leave nothing but the breakdown.
-/

namespace ContainerKernel

/-! ## Steps -/

/-- The failures that a step can expect, success among them. -/
def ErrorExpectation.known : List ErrorExpectation :=
  [success, fault .index, fault .allocation, fault .handle, exit]

namespace Step

/-- The operation is known, and the fields that it needs are there. -/
def Complete (step : Step) : Prop :=
  match step.operation with
  | .listNew | .stringNew => step.ref ≠ []
  | .listAppend => step.target ≠ [] ∧ step.value.isSome = true
  | .stringAdd => step.target ≠ [] ∧ step.ref ≠ []
  | .stringConcat => step.target ≠ [] ∧ step.other ≠ [] ∧ step.ref ≠ []
  | .listAt | .listLength | .stringLength | .stringAt => step.target ≠ []
  | .unknown _ => False

/-- The step can be used: it is complete, expects one byte at most, and expects a
failure that there is. -/
structure Usable (step : Step) : Prop where
  complete : step.Complete
  byte : step.expectByte.length ≤ 1
  failure : step.expectError ∈ ErrorExpectation.known

/-- No field is missing exactly if the step is complete. -/
theorem missingFields?_eq_none_iff (step : Step) :
    step.missingFields? = none ↔ step.Complete := by
  unfold missingFields? Complete
  cases step.operation <;> simp [Option.isSome_iff_ne_none]

/-- There is no objection exactly to the steps that can be used. -/
theorem objection?_eq_none_iff (step : Step) : step.objection? = none ↔ step.Usable := by
  have fields := missingFields?_eq_none_iff step
  unfold objection?
  cases missing : step.missingFields? with
  | some objection =>
    rw [missing] at fields
    constructor
    · intro impossible
      cases impossible
    · intro usable
      cases fields.mpr usable.complete
  | none =>
    have complete : step.Complete := fields.mp missing
    dsimp only
    by_cases long : step.expectByte.length > 1
    · rw [if_pos long]
      constructor
      · intro impossible
        cases impossible
      · intro usable
        exact absurd long (Nat.not_lt.mpr usable.byte)
    · rw [if_neg long]
      have known : step.expectError ∈ ErrorExpectation.known ↔
          ∀ name, step.expectError ≠ .unknown name := by
        cases step.expectError with
        | fault wanted => cases wanted <;> simp [ErrorExpectation.known]
        | success | exit | unknown => simp [ErrorExpectation.known]
      constructor
      · intro accepted
        refine ⟨complete, Nat.not_lt.mp long, known.mpr ?_⟩
        intro name expected
        rw [expected] at accepted
        cases accepted
      · intro usable
        have named := known.mp usable.failure
        cases expected : step.expectError with
        | unknown name => exact absurd expected (named name)
        | success | fault | exit => rfl

end Step

namespace ScenarioDraft

variable {draft : ScenarioDraft} {before drafts : List ScenarioDraft} {scenario : Scenario}
  {error : ScenarioError}

/-- There is no objection to any step, or the first one is to a step behind steps
that can be used. -/
theorem firstObjection_cases (index : Nat) (steps : List Step) :
    (firstObjection index steps = none ∧ ∀ step ∈ steps, step.Usable) ∨
      ∃ done step rest objection, steps = done ++ step :: rest ∧
        (∀ earlier ∈ done, earlier.Usable) ∧ step.objection? = some objection ∧
        firstObjection index steps = some (index + done.length, objection) := by
  induction steps generalizing index with
  | nil => exact .inl ⟨rfl, List.forall_mem_nil _⟩
  | cons step rest inductionHypothesis =>
    unfold firstObjection
    cases objected : step.objection? with
    | some objection =>
      exact .inr ⟨[], step, rest, objection, rfl, List.forall_mem_nil _, objected, rfl⟩
    | none =>
      have usable : step.Usable := step.objection?_eq_none_iff.mp objected
      obtain ⟨none, all⟩ | ⟨done, later, behind, objection, split, earlier, objects, found⟩ :=
        inductionHypothesis (index + 1)
      · exact .inl ⟨none, List.forall_mem_cons.mpr ⟨usable, all⟩⟩
      · refine .inr ⟨step :: done, later, behind, objection, ?_, ?_, objects, ?_⟩
        · rw [split, List.cons_append]
        · exact List.forall_mem_cons.mpr ⟨usable, earlier⟩
        · dsimp only
          rw [found, List.length_cons]
          simp only [Nat.add_assoc, Nat.add_comm 1]

/-! ## Drafts -/

/-- The names of drafts, without the blanks around them. -/
def names (drafts : List ScenarioDraft) : List Bytes :=
  drafts.map fun draft => trim draft.name

/-- The draft can be used: it has a name, settings that can be read over the standard
ones if it brings any, and steps that can be used. -/
structure Usable (draft : ScenarioDraft) : Prop where
  named : trim draft.name ≠ []
  settings : ∀ document, draft.settings = some document →
    ∃ settings, Settings.parseOver document standardSettings = .ok settings
  steps : ∀ step ∈ draft.steps, step.Usable

/-- All drafts can be used, and no two of them have the same name. -/
structure WellFormed (drafts : List ScenarioDraft) : Prop where
  each : ∀ draft ∈ drafts, draft.Usable
  distinct : (names drafts).Nodup

/-- The error about a draft behind others: the first thing that is wrong with it. -/
inductive Rejected (before : List ScenarioDraft) (draft : ScenarioDraft) : ScenarioError → Prop
    where
  | nameless (empty : trim draft.name = []) : Rejected before draft (.missingName before.length)
  | repeated (named : trim draft.name ≠ []) (again : trim draft.name ∈ names before) :
      Rejected before draft (.repeatedName (trim draft.name))
  | settings (named : trim draft.name ≠ []) (fresh : trim draft.name ∉ names before)
      {document : Bytes} {cause : SettingsError} (own : draft.settings = some document)
      (refused : Settings.parseOver document standardSettings = .error cause) :
      Rejected before draft (.settings (trim draft.name) cause)
  | step (named : trim draft.name ≠ []) (fresh : trim draft.name ∉ names before)
      {settings : Settings} (accepted : draft.settingsOf = .ok settings)
      {done rest : List Step} {step : Step} {objection : StepObjection}
      (split : draft.steps = done ++ step :: rest) (usable : ∀ earlier ∈ done, earlier.Usable)
      (objects : step.objection? = some objection) :
      Rejected before draft (.step (trim draft.name) done.length objection)

/-- The settings of a draft can be read exactly if those that it brings can be. -/
theorem settingsOf_ok_iff (draft : ScenarioDraft) :
    (∃ settings, draft.settingsOf = .ok settings) ↔
      ∀ document, draft.settings = some document →
        ∃ settings, Settings.parseOver document standardSettings = .ok settings := by
  unfold settingsOf
  cases draft.settings with
  | none => simp
  | some document => simp

/-- Settings that cannot be read are those that the draft brings. -/
theorem own_of_settingsOf_error {cause : SettingsError}
    (refused : draft.settingsOf = .error cause) :
    ∃ document, draft.settings = some document ∧
      Settings.parseOver document standardSettings = .error cause := by
  unfold settingsOf at refused
  cases own : draft.settings with
  | none =>
    rw [own] at refused
    cases refused
  | some document =>
    rw [own] at refused
    exact ⟨document, rfl, refused⟩

/-- A draft behind others passes the checks if it can be used and has a name that none
of them has, and is rejected otherwise. -/
theorem check_cases (before : List ScenarioDraft) (draft : ScenarioDraft) :
    (∃ scenario, draft.check before.length (names before).reverse = .ok scenario ∧
      draft.Usable ∧ trim draft.name ∉ names before) ∨
    ∃ error, draft.check before.length (names before).reverse = .error error ∧
      Rejected before draft error := by
  unfold check
  dsimp only
  by_cases empty : trim draft.name = []
  · rw [if_pos empty]
    exact .inr ⟨_, rfl, .nameless empty⟩
  rw [if_neg empty]
  by_cases again : trim draft.name ∈ names before
  · rw [if_pos (by simpa using again)]
    exact .inr ⟨_, rfl, .repeated empty again⟩
  rw [if_neg (by simpa using again)]
  cases found : draft.settingsOf with
  | error cause =>
    obtain ⟨document, own, refused⟩ := own_of_settingsOf_error found
    exact .inr ⟨_, rfl, .settings empty again own refused⟩
  | ok settings =>
    obtain ⟨none, all⟩ | ⟨done, step, rest, objection, split, earlier, objects, first⟩ :=
      firstObjection_cases 0 draft.steps
    · dsimp only
      rw [none]
      exact .inl ⟨_, rfl, ⟨empty, draft.settingsOf_ok_iff.mp ⟨settings, found⟩, all⟩, again⟩
    · dsimp only
      rw [first, Nat.zero_add]
      exact .inr ⟨_, rfl, .step empty again found split earlier objects⟩

/-- The front part of a well-formed list is well formed. -/
theorem WellFormed.front (wellFormed : WellFormed (before ++ drafts)) : WellFormed before where
  each draft member := wellFormed.each draft (List.mem_append_left _ member)
  distinct := by
    have distinct := wellFormed.distinct
    rw [names, List.map_append] at distinct
    exact (List.nodup_append.mp distinct).1

/-- Drafts are well formed with one more exactly if they are so without it and it
can be used and has a new name. -/
theorem wellFormed_snoc_iff (before : List ScenarioDraft) (draft : ScenarioDraft) :
    WellFormed (before ++ [draft]) ↔
      WellFormed before ∧ draft.Usable ∧ trim draft.name ∉ names before := by
  constructor
  · intro wellFormed
    have distinct := wellFormed.distinct
    rw [names, List.map_append, List.map_singleton, List.nodup_append] at distinct
    refine ⟨wellFormed.front, wellFormed.each draft (by simp), ?_⟩
    intro again
    exact distinct.2.2 _ again _ List.mem_cons_self rfl
  · rintro ⟨wellFormed, usable, fresh⟩
    refine ⟨?_, ?_⟩
    · intro other member
      obtain old | rfl := by simpa using member
      · exact wellFormed.each other old
      · exact usable
    · rw [names, List.map_append, List.map_singleton, List.nodup_append]
      refine ⟨wellFormed.distinct, by simp, ?_⟩
      rintro name old other new rfl
      rw [List.mem_singleton.mp new] at old
      exact fresh old

/-- A draft that is rejected spoils the drafts before it. -/
theorem Rejected.spoils (rejected : Rejected before draft error) :
    ¬ WellFormed (before ++ [draft]) := by
  rw [wellFormed_snoc_iff]
  rintro ⟨_, usable, new⟩
  cases rejected with
  | nameless empty => exact usable.named empty
  | repeated _ again => exact new again
  | settings _ _ own refused =>
    obtain ⟨settings, accepted⟩ := usable.settings _ own
    rw [refused] at accepted
    cases accepted
  | step _ _ _ split _ objects =>
    have member := usable.steps _ (split ▸ List.mem_append_right _ List.mem_cons_self)
    rw [(Step.objection?_eq_none_iff _).mpr member] at objects
    cases objects

/-- Checking drafts one after another accepts them all, or stops at the first that
spoils the ones before it.

The induction is on the drafts still to be checked, with those before them general. The
list of names that are taken is the list of names before, the last one first. -/
theorem checkAll_cases (before drafts : List ScenarioDraft) (wellFormed : WellFormed before) :
    (∃ scenarios, checkAll before.length (names before).reverse drafts = .ok scenarios ∧
      WellFormed (before ++ drafts)) ∨
    ∃ error middle draft rest,
      checkAll before.length (names before).reverse drafts = .error error ∧
      drafts = middle ++ draft :: rest ∧ WellFormed (before ++ middle) ∧
      Rejected (before ++ middle) draft error := by
  induction drafts generalizing before with
  | nil =>
    rw [List.append_nil]
    exact .inl ⟨[], rfl, wellFormed⟩
  | cons draft rest inductionHypothesis =>
    unfold checkAll
    obtain ⟨scenario, passed, usable, fresh⟩ | ⟨error, failed, rejected⟩ := check_cases before draft
    · have longer : WellFormed (before ++ [draft]) :=
        (wellFormed_snoc_iff before draft).mpr ⟨wellFormed, usable, fresh⟩
      have taken :
          scenario.name :: (names before).reverse = (names (before ++ [draft])).reverse := by
        rw [(became_of_check passed).name]
        simp [names]
      have later := inductionHypothesis (before ++ [draft]) longer
      rw [List.length_append, List.length_singleton, ← taken, List.append_assoc,
        List.singleton_append] at later
      rw [passed]
      obtain ⟨scenarios, all, whole⟩ | ⟨error, middle, offender, behind, failed, split, front,
        rejected⟩ := later
      · refine .inl ⟨scenario :: scenarios, ?_, whole⟩
        simp only [bind, Except.bind, all]
        rfl
      · refine .inr ⟨error, draft :: middle, offender, behind, ?_, ?_, ?_, ?_⟩
        · simp only [bind, Except.bind, failed]
        · rw [split, List.cons_append]
        · simpa using front
        · simpa using rejected
    · refine .inr ⟨error, [], draft, rest, ?_, rfl, ?_, ?_⟩
      · rw [failed]
        rfl
      · simpa using wellFormed
      · simpa using rejected

/-! ## Errors -/

/-- What an error calls a draft: its name or, if it has none, its number. -/
def label (draft : ScenarioDraft) (number : Nat) : Bytes :=
  if trim draft.name = [] then naturalDecimal number else trim draft.name

/-- An error about a draft names it, unless the reading of its settings broke down. -/
theorem Rejected.names_draft (rejected : Rejected before draft error) :
    match error.breakdown? with
    | none => ∃ detail, error.message =
        utf8 "scenario " ++ draft.label before.length ++ utf8 ": " ++ detail
    | some breakdown => ∃ document cause, draft.settings = some document ∧
        Settings.parseOver document standardSettings = .error cause ∧
        cause.breakdown? = some breakdown ∧ error = .settings (trim draft.name) cause := by
  cases rejected with
  | nameless empty =>
    have closing : utf8 ": missing name" = utf8 ": " ++ utf8 "missing name" := by decide
    refine ⟨utf8 "missing name", ?_⟩
    simp only [ScenarioError.message, label, if_pos empty, closing, List.append_assoc]
  | repeated named again =>
    have closing : utf8 ": duplicate name" = utf8 ": " ++ utf8 "duplicate name" := by decide
    refine ⟨utf8 "duplicate name", ?_⟩
    simp only [ScenarioError.message, label, if_neg named, closing, List.append_assoc]
  | @step named fresh _ accepted done _ _ objection split usable objects =>
    have joint : utf8 ": step " = utf8 ": " ++ utf8 "step " := by decide
    refine ⟨utf8 "step " ++ naturalDecimal done.length ++ utf8 ": " ++ objection.message, ?_⟩
    simp only [ScenarioError.message, label, if_neg named, joint, List.append_assoc]
  | @settings named fresh document cause own refused =>
    cases broken : cause.breakdown? with
    | some breakdown =>
      simp only [ScenarioError.breakdown?, broken]
      exact ⟨document, cause, own, refused, broken, rfl⟩
    | none =>
      have joint : utf8 ": config: " = utf8 ": " ++ utf8 "config: " := by decide
      simp only [ScenarioError.breakdown?, broken]
      refine ⟨utf8 "config: " ++ cause.message, ?_⟩
      simp only [ScenarioError.message, label, if_neg named, joint, List.append_assoc]

end ScenarioDraft

namespace Scenario

open ScenarioDraft (WellFormed Became Rejected)

/-- **The well-formed documents are accepted, and no others.** Take any list of drafts.
What comes of checking them is what comes of every document that lists them.

* There are scenarios exactly if the drafts are well formed.
* Then there is one scenario for each draft, in order, with its name without blanks
  around it, its steps, and settings that there is no objection to.
* Otherwise there is an error about the first draft that spoils the ones before it,
  which are well formed. It is the first thing that is wrong with this draft, in the
  order of name, repeated name, settings and steps. The text of the error names the
  draft, unless the reading of its settings has broken down: then there is only the
  breakdown. -/
theorem wellFormed_documents_accepted (drafts : List ScenarioDraft) :
    let checked := ScenarioDraft.checkAll 0 [] drafts
    (∀ bytes, ScenarioDraft.ofBytes bytes = .ok drafts → Scenario.parse bytes = checked) ∧
    ((∃ scenarios, checked = .ok scenarios) ↔ WellFormed drafts) ∧
    (∀ scenarios, checked = .ok scenarios →
      List.Forall₂ (fun draft scenario => scenario.name = trim draft.name ∧
        scenario.steps = draft.steps ∧ draft.settingsOf = .ok scenario.settings ∧
        scenario.settings.objection? = none) drafts scenarios) ∧
    ∀ error, checked = .error error →
      ∃ before draft rest, drafts = before ++ draft :: rest ∧ WellFormed before ∧
        ¬ WellFormed (before ++ [draft]) ∧ Rejected before draft error ∧
        match error.breakdown? with
        | none => ∃ detail, error.message =
            utf8 "scenario " ++ draft.label before.length ++ utf8 ": " ++ detail
        | some breakdown => ∃ document cause, draft.settings = some document ∧
            Settings.parseOver document ScenarioDraft.standardSettings = .error cause ∧
            cause.breakdown? = some breakdown ∧ error = .settings (trim draft.name) cause := by
  intro checked
  have cases := ScenarioDraft.checkAll_cases [] drafts ⟨List.forall_mem_nil _, List.nodup_nil⟩
  refine ⟨fun bytes read => parse_of_drafts read, ?accepted, ?became, ?rejected⟩
  case accepted =>
    obtain ⟨scenarios, passed, wellFormed⟩ | ⟨error, before, draft, rest, failed, split, _,
      rejected⟩ := cases
    · exact ⟨fun _ => wellFormed, fun _ => ⟨scenarios, passed⟩⟩
    · have stopped : checked = .error error := failed
      constructor
      · rintro ⟨scenarios, passed⟩
        rw [stopped] at passed
        cases passed
      · intro wellFormed
        rw [split, List.append_cons] at wellFormed
        exact absurd wellFormed.front rejected.spoils
  case became =>
    intro scenarios passed
    refine (ScenarioDraft.became_of_checkAll passed).imp ?_
    intro draft scenario became
    exact ⟨became.name, became.steps, became.settings, became.accepted⟩
  case rejected =>
    intro error stopped
    obtain ⟨scenarios, passed, _⟩ | ⟨found, before, draft, rest, failed, split, front,
      rejected⟩ := cases
    · cases stopped.symm.trans passed
    · cases stopped.symm.trans failed
      exact ⟨before, draft, rest, split, front, rejected.spoils, rejected, rejected.names_draft⟩

/-- A document whose second draft has the name of the first, up to a blank, and settings
that would be refused as well; and what is left of it without this draft. -/
theorem repeated_name_before_settings :
    let first : ScenarioDraft :=
      { name := utf8 "a", steps := [{ operation := .listNew, ref := utf8 "x" }] }
    let second : ScenarioDraft := { name := utf8 " a", settings := some (utf8 "[]\n") }
    let document := utf8 <| "scenarios:\n- name: a\n  steps:\n  - op: list_new\n    ref: x\n" ++
      "- name: ' a'\n  config: []\n"
    ScenarioDraft.ofBytes document = .ok [first, second] ∧
      (∃ error, Scenario.parse document = .error error ∧ Rejected [first] second error ∧
        error.message = utf8 "scenario a: duplicate name") ∧
      ∃ scenario, ScenarioDraft.checkAll 0 [] [first] = .ok [scenario] ∧
        scenario.name = utf8 "a" ∧ scenario.steps = first.steps := by
  intro first second document
  have read : ScenarioDraft.ofBytes document = .ok [first, second] := by
    decide +kernel
  have failed : ScenarioDraft.checkAll 0 [] [first, second] =
      .error (.repeatedName (utf8 "a")) := by
    decide +kernel
  have passed : ScenarioDraft.checkAll 0 [] [first] =
      .ok [⟨utf8 "a", ScenarioDraft.standardSettings, false, first.steps⟩] := by
    decide +kernel
  obtain ⟨checked, _, _, rejects⟩ := wellFormed_documents_accepted [first, second]
  obtain ⟨_, accepts, becomes, _⟩ := wellFormed_documents_accepted [first]
  obtain ⟨before, draft, rest, split, _, spoils, rejected, _⟩ := rejects _ failed
  refine ⟨read, ⟨_, (checked document read).trans failed, ?_, by decide +kernel⟩, _, passed, ?_⟩
  · -- The draft that spoils the document is the second, because the first is accepted.
    cases before with
    | nil =>
      cases split
      exact absurd (accepts.mp ⟨_, passed⟩) spoils
    | cons head others =>
      cases others with
      | nil =>
        cases split
        exact rejected
      | cons other later =>
        have count := congrArg List.length split
        simp at count
  · obtain ⟨⟨name, steps, _⟩, _⟩ := List.forall₂_cons.mp (becomes _ passed)
    exact ⟨rfl, steps⟩

/-- Not every error about a document names the draft that it is about: here the settings
of the only draft break down. -/
theorem broken_draft_unnamed :
    let document := utf8 "scenarios: [\x7bname: a, config: \x7b[]: 1, <<: \x7b\x7d\x7d\x7d]\n"
    (∃ drafts, ScenarioDraft.ofBytes document = .ok drafts) ∧
      ∃ error breakdown, Scenario.parse document = .error error ∧
        error.breakdown? = some breakdown ∧ ¬ utf8 "scenario a" <+: breakdown.message := by
  refine ⟨⟨[⟨utf8 "a", some (utf8 "\x7b[]: 1, !!merge <<: \x7b\x7d\x7d\n"), []⟩], ?_⟩,
    .settings (utf8 "a") (.document (.flawed (.breakdown ⟨.sequence⟩))), ⟨.sequence⟩, ?_⟩
  · decide +kernel
  · decide +kernel

end Scenario

end ContainerKernel
