import ContainerKernel.Proofs.KernelSteps
import ContainerKernel.Scenario
import ContainerKernel.Settings.File
import Mathlib.Data.List.Forall2
import Mathlib.Tactic.SplitIfs

/-!
# What a settings document gives

A settings document gives some of the five settings, and which ones and what they
are is decided by the document alone. `GivenSettings` is this part. Laid over a
base, what is given takes the place of what is there, and the whole is accepted or
not; the base has no other influence (`parseOver_eq`).

A scenario that comes out of a document has settings that were accepted: the
standard ones, or those that its own document gives over the standard ones
(`Scenario.parse_ok`).
-/

/-- Of two lists that are related one by one, each member of the second is related to a
member of the first. -/
theorem List.Forall₂.exists_of_mem {α β : Type} {related : α → β → Prop} {first : List α}
    {second : List β} (all : List.Forall₂ related first second) {item : β}
    (member : item ∈ second) : ∃ other ∈ first, related other item := by
  induction all with
  | nil => cases member
  | cons here _ inductionHypothesis =>
    cases member with
    | head => exact ⟨_, List.mem_cons_self, here⟩
    | tail _ later =>
      obtain ⟨other, found, holds⟩ := inductionHypothesis later
      exact ⟨other, List.mem_cons_of_mem _ found, holds⟩

namespace ContainerKernel

/-! ## Settings without an objection -/

namespace Settings

variable {settings : Settings}

/-- There is no objection to settings with a known policy and limits that are not
negative, if the exit code is one of a failure where it would be used. -/
theorem objection?_eq_none_iff (settings : Settings) :
    settings.objection? = none ↔
      (settings.policy = .abort ∨ settings.policy = .error) ∧
        0 ≤ settings.listLimit ∧ 0 ≤ settings.stringLimit ∧
        (settings.policy = .abort → 1 ≤ settings.exitCode ∧ settings.exitCode ≤ 255) := by
  unfold objection?
  cases settings.policy with
  | unknown name => simp
  | abort | error =>
    dsimp only
    split_ifs with negativeList negativeString range <;> simp at * <;> omega

/-- A kernel works with settings to which there is no objection as they are. -/
theorem effective_of_accepted (accepted : settings.objection? = none) :
    settings.effective = settings := by
  obtain ⟨known, _, _, range⟩ := (objection?_eq_none_iff settings).mp accepted
  have named : settings.policy ≠ .unknown [] := by
    obtain known | known := known <;> simp [known]
  have coded : ¬ (settings.policy = .abort ∧ settings.exitCode = 0) := by
    rintro ⟨aborts, zero⟩
    have := (range aborts).1
    omega
  simp only [effective, if_neg named, if_neg coded]

/-- Checking gives the settings themselves, if there is no objection. -/
theorem checked_ok_iff (settings other : Settings) :
    settings.checked = .ok other ↔ settings = other ∧ settings.objection? = none := by
  unfold checked
  cases settings.objection? <;> simp

end Settings

/-! ## What is given -/

/-- The settings that a document gives. -/
structure GivenSettings where
  growth : Option Growth := none
  listLimit : Option Int := none
  stringLimit : Option Int := none
  policy : Option Policy := none
  exitCode : Option Int := none
deriving DecidableEq, Repr

/-- The settings of a base, except for those that are given. -/
def GivenSettings.applyTo (given : GivenSettings) (base : Settings) : Settings :=
  { base with
    growth := given.growth.getD base.growth
    listLimit := given.listLimit.getD base.listLimit
    stringLimit := given.stringLimit.getD base.stringLimit
    policy := given.policy.getD base.policy
    exitCode := given.exitCode.getD base.exitCode }

namespace Overlay

/-- The fault policy that an overlay gives. A name of blanks gives none. -/
def givenPolicy (overlay : Overlay) : Option Policy :=
  if trim overlay.policy = [] then none else some (.ofName (trim overlay.policy))

/-- The settings that an overlay gives. It has to know the growth policy that it
names, if it names one. -/
def given (overlay : Overlay) : Except SettingsError GivenSettings :=
  let others (growth : Option Growth) : GivenSettings :=
    { growth, listLimit := overlay.listLimit, stringLimit := overlay.stringLimit
      policy := overlay.givenPolicy, exitCode := overlay.exitCode }
  let name := trim overlay.growth
  if name = [] then .ok (others none)
  else
    match Growth.ofName? name with
    | some growth => .ok (others (some growth))
    | none => .error (.unknownGrowth name)

/-- Laying an overlay over settings replaces what it gives. -/
theorem applyTo_eq (overlay : Overlay) (base : Settings) :
    overlay.applyTo base = overlay.given.map (·.applyTo base) := by
  have policy : overlay.policyOver base.policy = overlay.givenPolicy.getD base.policy := by
    unfold policyOver givenPolicy
    dsimp only
    split <;> rfl
  simp only [applyTo, growthOver, given, policy]
  split
  · rfl
  · cases Growth.ofName? (trim overlay.growth) <;> rfl

end Overlay

/-- The settings that the document gives which the bytes are. -/
def GivenSettings.ofBytes (bytes : Bytes) : Except SettingsError GivenSettings :=
  match Overlay.ofBytes bytes with
  | .error cause => .error (.document cause)
  | .ok overlay => overlay.given

namespace Settings

variable {settings base : Settings} {bytes : Bytes}

/-- A document is read over a base by replacing what it gives and checking the
whole. -/
theorem parseOver_eq (bytes : Bytes) (base : Settings) :
    parseOver bytes base =
      GivenSettings.ofBytes bytes >>= fun given => (given.applyTo base).checked := by
  unfold parseOver GivenSettings.ofBytes
  cases Overlay.ofBytes bytes with
  | error cause => rfl
  | ok overlay =>
    dsimp only
    rw [Overlay.applyTo_eq]
    cases overlay.given <;> rfl

/-- A document gives settings over a base exactly if it can be read and there is no
objection to the whole. -/
theorem parseOver_ok_iff : parseOver bytes base = .ok settings ↔
    ∃ given, GivenSettings.ofBytes bytes = .ok given ∧ settings = given.applyTo base ∧
      settings.objection? = none := by
  rw [parseOver_eq]
  constructor
  · intro parsed
    obtain ⟨given, read, checked⟩ := Except.bind_ok parsed
    obtain ⟨rfl, accepted⟩ := (checked_ok_iff _ _).mp checked
    exact ⟨given, read, rfl, accepted⟩
  · rintro ⟨given, read, rfl, accepted⟩
    rw [read]
    exact (checked_ok_iff _ _).mpr ⟨rfl, accepted⟩

/-- A file gives over a base what its contents give, from its place. -/
theorem loadOver_ok_iff {tree : FileTree} {path : Bytes} :
    loadOver tree path base = .ok settings ↔ path ≠ [] ∧ ∃ contents read,
      tree.read (Path.absolute tree.workingDirectory path) = .ok contents ∧
      parseOver contents base = .ok read ∧
      settings = { read with path := Path.text (Path.absolute tree.workingDirectory path) } := by
  unfold loadOver
  by_cases given : path = []
  · simp [given]
  · rw [if_neg given]
    dsimp only
    cases tree.read (Path.absolute tree.workingDirectory path) with
    | error cause => simp
    | ok contents =>
      dsimp only
      cases found : parseOver contents base with
      | error cause => simp [found]
      | ok read => simp [given, found, eq_comm]

end Settings

/-! ## Scenarios of a document -/

namespace ScenarioDraft

/-- The standard settings are accepted. -/
theorem standardSettings_accepted : standardSettings.objection? = none := by
  decide

/-- What a draft has become that passed the checks. -/
structure Became (draft : ScenarioDraft) (scenario : Scenario) : Prop where
  name : scenario.name = trim draft.name
  settings : draft.settingsOf = .ok scenario.settings
  own : scenario.ownSettings = draft.settings.isSome
  steps : scenario.steps = draft.steps

variable {draft : ScenarioDraft} {scenario : Scenario}

/-- A draft that passes the checks becomes a scenario. -/
theorem became_of_check {index : Nat} {taken : List Bytes}
    (checked : draft.check index taken = .ok scenario) : draft.Became scenario := by
  unfold check at checked
  dsimp only at checked
  split_ifs at checked
  split at checked
  · cases checked
  · next settings found =>
    split at checked
    · cases checked
    · cases checked
      exact ⟨rfl, found, rfl, rfl⟩

/-- Drafts that pass the checks become scenarios one by one. -/
theorem became_of_checkAll {index : Nat} {taken : List Bytes} {drafts : List ScenarioDraft}
    {scenarios : List Scenario} (checked : checkAll index taken drafts = .ok scenarios) :
    List.Forall₂ Became drafts scenarios := by
  induction drafts generalizing index taken scenarios with
  | nil =>
    cases checked
    exact .nil
  | cons draft rest inductionHypothesis =>
    obtain ⟨scenario, first, following⟩ := Except.bind_ok checked
    obtain ⟨others, later, result⟩ := Except.bind_ok following
    cases result
    exact .cons (became_of_check first) (inductionHypothesis later)

/-- Without settings of its own a draft gets the standard ones. -/
theorem Became.standard (became : draft.Became scenario) (without : draft.settings = none) :
    scenario.settings = standardSettings := by
  have settings := became.settings
  rw [settingsOf, without] at settings
  exact (Except.ok.inj settings).symm

/-- A draft with settings of its own gets what their document gives over the
standard ones. -/
theorem Became.given (became : draft.Became scenario) {document : Bytes}
    (own : draft.settings = some document) :
    ∃ given, GivenSettings.ofBytes document = .ok given ∧
      scenario.settings = given.applyTo standardSettings := by
  have settings := became.settings
  rw [settingsOf, own] at settings
  obtain ⟨given, read, same, _⟩ := Settings.parseOver_ok_iff.mp settings
  exact ⟨given, read, same⟩

/-- There is no objection to the settings of a scenario that a draft has become. -/
theorem Became.accepted (became : draft.Became scenario) :
    scenario.settings.objection? = none := by
  cases own : draft.settings with
  | none =>
    rw [became.standard own]
    exact standardSettings_accepted
  | some document =>
    have settings := became.settings
    rw [settingsOf, own] at settings
    obtain ⟨_, _, _, accepted⟩ := Settings.parseOver_ok_iff.mp settings
    exact accepted

end ScenarioDraft

namespace Scenario

variable {bytes : Bytes} {drafts : List ScenarioDraft} {scenarios : List Scenario}

/-- The drafts of a document are checked one after another. -/
theorem parse_of_drafts (read : ScenarioDraft.ofBytes bytes = .ok drafts) :
    Scenario.parse bytes = ScenarioDraft.checkAll 0 [] drafts := by
  unfold Scenario.parse
  rw [read]

/-- The scenarios of a document are what its drafts have become. -/
theorem parse_ok (parsed : Scenario.parse bytes = .ok scenarios) :
    ∃ drafts, ScenarioDraft.ofBytes bytes = .ok drafts ∧
      List.Forall₂ ScenarioDraft.Became drafts scenarios := by
  unfold Scenario.parse at parsed
  split at parsed
  · cases parsed
  · next drafts read => exact ⟨drafts, read, ScenarioDraft.became_of_checkAll parsed⟩

end Scenario

end ContainerKernel
