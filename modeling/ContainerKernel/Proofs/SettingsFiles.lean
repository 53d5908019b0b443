import ContainerKernel.Proofs.GivenSettings
import ContainerKernel.Proofs.SharedCounters
import Mathlib.Control.Monad.Basic

/-!
# Settings files over scenarios

The command lays its settings file over the scenarios that bring no settings of
their own. The file is checked once against the default settings, which abort, and
then used over the standard settings of a scenario, which return faults. Only the
exit code is judged by the policy, and under the policy that returns faults it is
not judged at all, so a file that passes the check fits every scenario.

What a scenario runs with is therefore decided by one document: its own, or else
the settings file. There is no objection to it, and a run that ends early ends
with the exit code that this document gives.
-/

namespace ContainerKernel

/-! ## A file that has been checked -/

namespace Settings

/-- Settings that are accepted are accepted with the policy that returns faults as
well. -/
theorem accepted_of_policy_error {settings : Settings} (accepted : settings.objection? = none) :
    { settings with policy := .error }.objection? = none := by
  obtain ⟨_, list, string, _⟩ := (objection?_eq_none_iff settings).mp accepted
  rw [objection?_eq_none_iff]
  exact ⟨.inr rfl, list, string, nofun⟩

/-- What a file gives over a base is accepted. -/
theorem accepted_of_loadOver {tree : FileTree} {path : Bytes} {base settings : Settings}
    (loads : loadOver tree path base = .ok settings) : settings.objection? = none := by
  obtain ⟨_, _, read, _, parsed, rfl⟩ := loadOver_ok_iff.mp loads
  obtain ⟨_, _, _, accepted⟩ := parseOver_ok_iff.mp parsed
  exact accepted

/-- A file that gives settings over the default ones gives the same over the
standard ones, except for the policy where it gives none. -/
theorem loadOver_standard {tree : FileTree} {path contents : Bytes} {loaded : Settings}
    (found : tree.read (Path.absolute tree.workingDirectory path) = .ok contents)
    (loads : load tree path = .ok loaded) :
    ∃ given, GivenSettings.ofBytes contents = .ok given ∧
      loadOver tree path ScenarioDraft.standardSettings =
        .ok { loaded with policy := if given.policy = none then .error else loaded.policy } := by
  obtain ⟨chosen, _, read, same, parsed, rfl⟩ := loadOver_ok_iff.mp loads
  obtain rfl := Except.ok.inj (found.symm.trans same)
  obtain ⟨given, readable, rfl, accepted⟩ := parseOver_ok_iff.mp parsed
  refine ⟨given, readable, loadOver_ok_iff.mpr
    ⟨chosen, contents, given.applyTo ScenarioDraft.standardSettings, found, ?_, ?_⟩⟩
  · refine parseOver_ok_iff.mpr ⟨given, readable, rfl, ?_⟩
    -- A policy in the file hides the one of the base; without it the exit code goes unjudged.
    cases policy : given.policy with
    | some named =>
      have alike : given.applyTo ScenarioDraft.standardSettings = given.applyTo {} := by
        simp [GivenSettings.applyTo, policy, ScenarioDraft.standardSettings]
      rw [alike]
      exact accepted
    | none =>
      have returning : given.applyTo ScenarioDraft.standardSettings =
          { given.applyTo {} with policy := .error } := by
        simp [GivenSettings.applyTo, policy, ScenarioDraft.standardSettings]
      rw [returning]
      exact accepted_of_policy_error accepted
  · cases policy : given.policy <;>
      simp [GivenSettings.applyTo, policy, ScenarioDraft.standardSettings]

end Settings

namespace Scenario

variable {document : Bytes} {scenarios : List Scenario} {scenario : Scenario}

/-- Every scenario of a document was a draft. -/
theorem became_of_mem (parsed : Scenario.parse document = .ok scenarios)
    (member : scenario ∈ scenarios) : ∃ draft : ScenarioDraft, draft.Became scenario := by
  obtain ⟨_, _, became⟩ := parse_ok parsed
  obtain ⟨draft, _, here⟩ := became.exists_of_mem member
  exact ⟨draft, here⟩

/-- A scenario of a document without settings of its own has the standard ones. -/
theorem standard_of_mem (parsed : Scenario.parse document = .ok scenarios)
    (member : scenario ∈ scenarios) (without : scenario.ownSettings = false) :
    scenario.settings = ScenarioDraft.standardSettings := by
  obtain ⟨draft, became⟩ := became_of_mem parsed member
  apply became.standard
  rw [became.own] at without
  exact Option.isNone_iff_eq_none.mp (Option.isSome_eq_false_iff.mp without)

end Scenario

namespace Command

variable {options : Options} {tree : FileTree} {scenario : Scenario}

/-- A scenario with settings of its own keeps them. -/
theorem settled_own (options : Options) (tree : FileTree) (own : scenario.ownSettings = true) :
    settled options tree scenario = .ok scenario :=
  if_pos (.inr own)

/-- Without a settings file every scenario keeps its settings. -/
theorem settled_unchosen (tree : FileTree) (scenario : Scenario)
    (unchosen : options.settingsPath = []) : settled options tree scenario = .ok scenario :=
  if_pos (.inl unchosen)

/-- Under a settings file, a scenario without settings of its own gets those that
the file gives over the ones it has. -/
theorem settled_without (chosen : options.settingsPath ≠ [])
    (without : scenario.ownSettings = false) :
    settled options tree scenario =
      (Settings.loadOver tree options.settingsPath scenario.settings).map fun settings =>
        { scenario with settings } := by
  apply if_neg
  rintro (unchosen | own)
  · exact chosen unchosen
  · rw [without] at own
    cases own

/-- The scenario as the command runs it: settled, if that is possible. -/
def asRun (options : Options) (tree : FileTree) (scenario : Scenario) : Scenario :=
  (settled options tree scenario).toOption.getD scenario

/-- A scenario that can be settled runs as it is settled. -/
theorem settled_asRun {ruled : Scenario} (settles : settled options tree scenario = .ok ruled) :
    settled options tree scenario = .ok (asRun options tree scenario) := by
  rw [asRun, settles]
  rfl

/-- A settings file that passed the check fits every scenario of a document. -/
theorem settled_of_loaded {document : Bytes} {scenarios : List Scenario} {loaded : Settings}
    (loads : Settings.load tree options.settingsPath = .ok loaded)
    (parsed : Scenario.parse document = .ok scenarios) :
    ∀ scenario ∈ scenarios,
      settled options tree scenario = .ok (asRun options tree scenario) := by
  intro scenario member
  obtain ⟨chosen, contents, _, found, _⟩ := Settings.loadOver_ok_iff.mp loads
  cases own : scenario.ownSettings with
  | true => exact settled_asRun (settled_own options tree own)
  | false =>
    obtain ⟨given, _, fits⟩ := Settings.loadOver_standard found loads
    apply settled_asRun
    rw [settled_without chosen own, Scenario.standard_of_mem parsed member own, fits]
    rfl

/-- Scenarios that can all be settled run one after another. -/
theorem runScenarios_eq (stamp path : Bytes) {scenarios : List Scenario}
    (settles : ∀ scenario ∈ scenarios,
      settled options tree scenario = .ok (asRun options tree scenario))
    (session : Session) :
    runScenarios options tree stamp path session scenarios =
      .ok (session.runAll options.verbose stamp
        (scenarios.map fun scenario => (path, asRun options tree scenario))) := by
  induction scenarios generalizing session with
  | nil => rfl
  | cons scenario rest inductionHypothesis =>
    simp only [runScenarios, settles scenario List.mem_cons_self]
    exact inductionHypothesis (fun later member => settles later (List.mem_cons_of_mem _ member)) _

/-- A settings file that gives nothing leaves the base as it is, from another place. -/
theorem loadOver_nothing {contents : Bytes} (chosen : options.settingsPath ≠ [])
    (found : tree.read (Path.absolute tree.workingDirectory options.settingsPath) = .ok contents)
    (nothing : GivenSettings.ofBytes contents = .ok {}) {base : Settings}
    (accepted : base.objection? = none) :
    Settings.loadOver tree options.settingsPath base =
      .ok { base with
        path := Path.text (Path.absolute tree.workingDirectory options.settingsPath) } :=
  Settings.loadOver_ok_iff.mpr
    ⟨chosen, contents, base, found, Settings.parseOver_ok_iff.mpr ⟨{}, nothing, rfl, accepted⟩, rfl⟩

/-- **A settings file fits every scenario.** Take a settings file that is there, and
any document of scenarios.

* If the file is accepted by itself, it is accepted over each scenario without
  settings of its own. The scenario then runs with the settings of the file, except
  that faults are returned where the file gives no policy. So the command is never
  stopped by the file: it settles all scenarios and runs them one after another.
* A file that gives nothing is accepted, and every scenario has the verdict that it
  has without the file.
* A scenario with settings of its own has the same verdict under this file, under
  any other one, and without any. -/
theorem settings_file_fits_scenarios {contents document : Bytes} {scenarios : List Scenario}
    (chosen : options.settingsPath ≠ [])
    (found : tree.read (Path.absolute tree.workingDirectory options.settingsPath) = .ok contents)
    (parsed : Scenario.parse document = .ok scenarios) :
    (∀ loaded, Settings.load tree options.settingsPath = .ok loaded →
      (∃ given, GivenSettings.ofBytes contents = .ok given ∧
        ∀ scenario ∈ scenarios, scenario.ownSettings = false →
          let settings :=
            { loaded with policy := if given.policy = none then .error else loaded.policy }
          Settings.loadOver tree options.settingsPath scenario.settings = .ok settings ∧
            settled options tree scenario = .ok { scenario with settings } ∧
            ∀ metrics, (Scenario.replay { scenario with settings } metrics).kernel.settings =
              settings) ∧
      (∀ scenario ∈ scenarios,
        settled options tree scenario = .ok (asRun options tree scenario)) ∧
      ∀ stamp path session,
        runScenarios options tree stamp path session scenarios =
          .ok (session.runAll options.verbose stamp
            (scenarios.map fun scenario => (path, asRun options tree scenario)))) ∧
    (GivenSettings.ofBytes contents = .ok {} →
      (∃ loaded, Settings.load tree options.settingsPath = .ok loaded) ∧
      ∀ scenario ∈ scenarios, ∃ ruled, settled options tree scenario = .ok ruled ∧
        ∀ metrics others, (ruled.run metrics).verdict = (scenario.run others).verdict) ∧
    ∀ scenario ∈ scenarios, scenario.ownSettings = true →
      ∀ (others : Options) (otherTree : FileTree), ∃ ruled other,
        settled options tree scenario = .ok ruled ∧
        settled others otherTree scenario = .ok other ∧
        ∀ metrics counters, (ruled.run metrics).verdict = (other.run counters).verdict := by
  have uncounted : ∀ (scenario : Scenario) metrics others,
      (scenario.run metrics).verdict = (scenario.run others).verdict :=
    fun scenario metrics others =>
      (scenario.run_uncounted metrics).1.trans (scenario.run_uncounted others).1.symm
  refine ⟨?accepted, ?nothing, ?own⟩
  case accepted =>
    intro loaded loads
    have settles := settled_of_loaded loads parsed
    refine ⟨?_, settles, fun stamp path => runScenarios_eq stamp path settles⟩
    obtain ⟨given, readable, fits⟩ := Settings.loadOver_standard found loads
    refine ⟨given, readable, ?_⟩
    intro scenario member without settings
    have fitting :
        Settings.loadOver tree options.settingsPath scenario.settings = .ok settings := by
      rw [Scenario.standard_of_mem parsed member without]
      exact fits
    refine ⟨fitting, ?_, fun metrics => ?_⟩
    · rw [settled_without chosen without, fitting]
      rfl
    · exact Settings.effective_of_accepted (Settings.accepted_of_loadOver fitting)
  case nothing =>
    intro nothing
    refine ⟨⟨_, loadOver_nothing chosen found nothing (by decide)⟩, ?_⟩
    intro scenario member
    cases own : scenario.ownSettings with
    | true => exact ⟨scenario, settled_own options tree own, uncounted scenario⟩
    | false =>
      have accepted : scenario.settings.objection? = none := by
        rw [Scenario.standard_of_mem parsed member own]
        exact ScenarioDraft.standardSettings_accepted
      refine ⟨scenario.relocated (Path.text (Path.absolute tree.workingDirectory
        options.settingsPath)), ?_, ?_⟩
      · rw [settled_without chosen own, loadOver_nothing chosen found nothing accepted]
        rfl
      · intro metrics others
        rw [scenario.run_relocated]
        exact uncounted scenario metrics others
  case own =>
    intro scenario _ own others otherTree
    exact ⟨scenario, scenario, settled_own options tree own, settled_own others otherTree own,
      uncounted scenario⟩

/-- A file that gives nothing but an exit code, one whose policy is a blank, and a
document with a scenario of each kind. -/
theorem exit_code_fits_returning_scenario :
    let tree : FileTree :=
      { workingDirectory := [utf8 "w"]
        entries :=
          [([utf8 "w", utf8 "code.yml"], .file (utf8 "faults:\n  exit_code: 7\n")),
            ([utf8 "w", utf8 "blank.yml"], .file (utf8 "faults:\n  policy: ' '\n"))] }
    let code : Options := { settingsPath := utf8 "code.yml" }
    let blank : Options := { settingsPath := utf8 "blank.yml" }
    let plain : Scenario :=
      { name := utf8 "a", settings := ScenarioDraft.standardSettings
        steps := [{ operation := .listLength, target := utf8 "x" }] }
    let own : Scenario := { plain with name := utf8 "b", ownSettings := true }
    settled code tree plain =
        .ok { plain with settings :=
          { path := utf8 "/w/code.yml", policy := .error, exitCode := 7 } } ∧
      (∃ ruled, settled blank tree plain = .ok ruled ∧
        (ruled.run none).verdict = (plain.run none).verdict) ∧
      ∃ ruled other, settled code tree own = .ok ruled ∧ settled blank tree own = .ok other ∧
        (ruled.run none).verdict = (other.run none).verdict := by
  intro tree code blank plain own
  have parsed : Scenario.parse (utf8 <| "scenarios:\n- name: a\n  steps:\n" ++
      "  - op: list_len\n    target: x\n- name: b\n  config: null\n  steps:\n" ++
      "  - op: list_len\n    target: x\n") = .ok [plain, own] := by
    decide +kernel
  have loads : Settings.load tree code.settingsPath =
      .ok { path := utf8 "/w/code.yml", exitCode := 7 } := by
    decide +kernel
  obtain ⟨accepted, _, kept⟩ :=
    @settings_file_fits_scenarios code tree (utf8 "faults:\n  exit_code: 7\n") _ _
      (by decide) (by decide) parsed
  obtain ⟨_, nothing, _⟩ :=
    @settings_file_fits_scenarios blank tree (utf8 "faults:\n  policy: ' '\n") _ _
      (by decide) (by decide) parsed
  obtain ⟨⟨given, readable, fits⟩, _⟩ := accepted _ loads
  have only : GivenSettings.ofBytes (utf8 "faults:\n  exit_code: 7\n") =
      .ok { exitCode := some 7 } := by
    decide +kernel
  obtain rfl := Except.ok.inj (readable.symm.trans only)
  obtain ⟨ruled, settles, same⟩ := (nothing (by decide +kernel)).2 plain List.mem_cons_self
  obtain ⟨first, second, underCode, underBlank, alike⟩ :=
    kept own (List.mem_cons_of_mem _ List.mem_cons_self) rfl blank tree
  exact ⟨(fits plain List.mem_cons_self rfl).2.1, ⟨ruled, settles, same none none⟩,
    first, second, underCode, underBlank, alike none none⟩

/-! ## The exit code of a run -/

/-- The document that decides the settings of a scenario: its own, or else the
settings file, if the command has one. -/
def ruling (options : Options) (tree : FileTree) (draft : ScenarioDraft) : Option Bytes :=
  match draft.settings with
  | some document => some document
  | none =>
    if options.settingsPath = [] then none
    else (tree.read (Path.absolute tree.workingDirectory options.settingsPath)).toOption

/-- The settings that a scenario runs with are the standard ones, or those that the
document gives over them which decides. The file they are from is another matter. -/
theorem settled_settings {draft : ScenarioDraft} {ruled : Scenario}
    (became : draft.Became scenario) (settles : settled options tree scenario = .ok ruled) :
    ruled.settings.objection? = none ∧
      (ruling options tree draft = none ∧ ruled.settings = ScenarioDraft.standardSettings ∨
        ∃ document given path, ruling options tree draft = some document ∧
          GivenSettings.ofBytes document = .ok given ∧
          ruled.settings = { given.applyTo ScenarioDraft.standardSettings with path }) := by
  -- The document is the scenario's own, or there is none, or it is the settings file.
  cases drafted : draft.settings with
  | some document =>
    rw [settled_own options tree (by rw [became.own, drafted]; rfl)] at settles
    obtain rfl := Except.ok.inj settles
    obtain ⟨given, readable, same⟩ := became.given drafted
    refine ⟨became.accepted, .inr ⟨document, given, scenario.settings.path, ?_, readable, ?_⟩⟩
    · rw [ruling, drafted]
    · rw [same]
  | none =>
    by_cases chosen : options.settingsPath = []
    · rw [settled_unchosen tree scenario chosen] at settles
      obtain rfl := Except.ok.inj settles
      refine ⟨became.accepted, .inl ⟨?_, became.standard drafted⟩⟩
      rw [ruling, drafted]
      exact if_pos chosen
    · rw [settled_without chosen (by rw [became.own, drafted]; rfl)] at settles
      cases loads : Settings.loadOver tree options.settingsPath scenario.settings with
      | error cause =>
        rw [loads] at settles
        cases settles
      | ok settings =>
        rw [loads] at settles
        obtain rfl := Except.ok.inj settles
        refine ⟨Settings.accepted_of_loadOver loads, .inr ?_⟩
        obtain ⟨_, contents, read, found, parsed, rfl⟩ := Settings.loadOver_ok_iff.mp loads
        obtain ⟨given, readable, rfl, _⟩ := Settings.parseOver_ok_iff.mp parsed
        refine ⟨contents, given, _, ?_, readable, by rw [became.standard drafted]⟩
        rw [ruling, drafted]
        simp only [if_neg chosen, found]
        rfl

end Command

namespace Scenario

/-- A run that ends early does so under the policy that aborts, with the exit code
of its settings. -/
theorem exit_eq {scenario : Scenario} {metrics : Option Metrics} {code : Int}
    (exited : (scenario.run metrics).verdict.exit = some code) :
    scenario.settings.effective.policy = .abort ∧ code = scenario.settings.effective.exitCode := by
  by_cases aborts : scenario.settings.effective.policy = .abort
  · refine ⟨aborts, ?_⟩
    have fresh : (scenario.replay metrics).effects.exits = [] := rfl
    obtain clean | ⟨done, step, rest, misuse, first⟩ :=
      Replay.clean_or_first_misuse fresh scenario.steps
    · rw [(run_clean scenario metrics clean).2.1] at exited
      cases exited
    · rw [(endsAt_of_firstMisuse aborts first).exit] at exited
      exact (Option.some.inj exited).symm
  · rw [(run_returning scenario metrics aborts).2.1] at exited
    cases exited

/-- **A scenario of a document ends early only as its settings say.** Take any
document of scenarios, and the drafts that it is made of. Whatever options the
command has and whatever files there are, as long as the scenario can be settled:

* If the run ends early, the policy is to abort. The exit code is from 1 to 255,
  and it is the one that the document gives which decides the settings, or 1 if
  that document gives none.
* The kernel works with the settings of the scenario as they are.
* A scenario without settings of its own does not end early without a settings
  file. -/
theorem exits_with_given_code {document : Bytes} {scenarios : List Scenario}
    (parsed : Scenario.parse document = .ok scenarios) :
    ∃ drafts, ScenarioDraft.ofBytes document = .ok drafts ∧ drafts.length = scenarios.length ∧
      ∀ (index : Nat) draft scenario,
      drafts[index]? = some draft → scenarios[index]? = some scenario →
      ∀ options tree ruled, Command.settled options tree scenario = .ok ruled → ∀ metrics,
        (∀ code, (ruled.run metrics).verdict.exit = some code →
          ruled.settings.policy = .abort ∧ 1 ≤ code ∧ code ≤ 255 ∧
          ∃ source given, Command.ruling options tree draft = some source ∧
            GivenSettings.ofBytes source = .ok given ∧ code = given.exitCode.getD 1) ∧
        (ruled.replay metrics).kernel.settings = ruled.settings ∧
        (draft.settings = none → options.settingsPath = [] →
          (ruled.run metrics).verdict.exit = none) := by
  obtain ⟨drafts, read, became⟩ := parse_ok parsed
  refine ⟨drafts, read, became.length_eq, ?_⟩
  intro index draft scenario drafted listed options tree ruled settles metrics
  have became : draft.Became scenario := by
    obtain ⟨inDrafts, rfl⟩ := List.getElem?_eq_some_iff.mp drafted
    obtain ⟨inScenarios, rfl⟩ := List.getElem?_eq_some_iff.mp listed
    exact became.get inDrafts inScenarios
  obtain ⟨accepted, source⟩ := Command.settled_settings became settles
  have unchanged := Settings.effective_of_accepted accepted
  refine ⟨?_, unchanged, ?_⟩
  · intro code exited
    obtain ⟨aborts, rfl⟩ := exit_eq exited
    rw [unchanged] at aborts ⊢
    obtain ⟨_, _, _, range⟩ := (Settings.objection?_eq_none_iff _).mp accepted
    refine ⟨aborts, (range aborts).1, (range aborts).2, ?_⟩
    obtain ⟨_, standard⟩ | ⟨document, given, path, ruling, readable, same⟩ := source
    · rw [standard] at aborts
      cases aborts
    · exact ⟨document, given, ruling, readable, by rw [same]; rfl⟩
  · intro without unchosen
    rw [Command.settled_unchosen tree scenario unchosen] at settles
    obtain rfl := Except.ok.inj settles
    refine (run_returning scenario metrics ?_).2.1
    rw [unchanged, became.standard without]
    exact nofun

/-- Two scenarios with the same steps: the one under a settings file without an
exit code, the other under settings of its own with one. -/
theorem file_and_own_settings_exit :
    let tree : FileTree :=
      { workingDirectory := [utf8 "w"]
        entries := [([utf8 "w", utf8 "c.yml"], .file (utf8 "faults:\n  policy: abort\n"))] }
    let options : Options := { settingsPath := utf8 "c.yml" }
    let plain : Scenario :=
      { name := utf8 "a", settings := ScenarioDraft.standardSettings
        steps :=
          [{ operation := .listNew, ref := utf8 "x" },
            { operation := .listAt, target := utf8 "x" }] }
    let own : Scenario :=
      { plain with name := utf8 "b", settings := { exitCode := 3 }, ownSettings := true }
    let ruled : Scenario := { plain with settings := { path := utf8 "/w/c.yml" } }
    Command.settled options tree plain = .ok ruled ∧
      ((ruled.run none).verdict.exit = some 1 ∧
        ∃ given, GivenSettings.ofBytes (utf8 "faults:\n  policy: abort\n") = .ok given ∧
          1 = given.exitCode.getD 1) ∧
      ((own.run none).verdict.exit = some 3 ∧
        ∃ source given, GivenSettings.ofBytes source = .ok given ∧ 3 = given.exitCode.getD 1) ∧
      (own.replay none).kernel.settings = own.settings ∧
      (plain.run none).verdict.exit = none := by
  intro tree options plain own ruled
  let document := utf8 <| "scenarios:\n- name: a\n  steps: &s\n  - op: list_new\n    ref: x\n" ++
    "  - op: list_at\n    target: x\n" ++
    "- name: b\n  config:\n    faults:\n      policy: abort\n      exit_code: 3\n  steps: *s\n"
  have read : ScenarioDraft.ofBytes document =
      .ok [{ name := utf8 "a", steps := plain.steps },
        { name := utf8 "b", settings := some (utf8 "faults:\n    policy: abort\n    exit_code: 3\n")
          steps := plain.steps }] := by
    decide +kernel
  have parsed : Scenario.parse document = .ok [plain, own] :=
    (parse_of_drafts read).trans (by decide +kernel)
  have settles : Command.settled options tree plain = .ok ruled := by
    decide +kernel
  obtain ⟨_, same, _, each⟩ := exits_with_given_code parsed
  obtain rfl := Except.ok.inj (read.symm.trans same)
  obtain ⟨first, _, _⟩ := each 0 _ _ rfl rfl options tree ruled settles none
  obtain ⟨second, unchanged, _⟩ := each 1 _ _ rfl rfl options tree own rfl none
  obtain ⟨_, _, returning⟩ := each 0 _ _ rfl rfl {} tree plain rfl none
  have one : (ruled.run none).verdict.exit = some 1 := by
    decide
  have three : (own.run none).verdict.exit = some 3 := by
    decide
  obtain ⟨_, _, _, source, given, ruling, readable, code⟩ := first 1 one
  obtain ⟨_, _, _, ownSource, ownGiven, _, ownReadable, ownCode⟩ := second 3 three
  obtain rfl : utf8 "faults:\n  policy: abort\n" = source := Option.some.inj ruling
  exact ⟨settles, ⟨one, given, readable, code⟩, ⟨three, ownSource, ownGiven, ownReadable, ownCode⟩,
    unchanged, returning rfl rfl⟩

end Scenario

end ContainerKernel
