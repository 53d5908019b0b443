import ContainerKernel.Proofs.SettingsFiles

/-!
# What the command prints

For each scenario the command prints a block, which says that the scenario has
passed or lists what went wrong. `Scenario.block` gives the block from the run of
the scenario by itself. The files are done one after another, so what is on the
output at any time is the blocks of the files before (`runFiles_append`); from this
both ends of the command follow, the one behind the last file and the one at the
first file that gives no scenarios.

A file gives no scenarios or no settings for one of two reasons. Either there is an
error in it, or reading it has broken down. An error makes the exit code 1. A
breakdown ends the command in the same place with the same output, under the exit
code 2.
-/

namespace ContainerKernel

/-! ## Blocks -/

namespace Scenario

/-- Whether a scenario fails, run by itself. -/
def fails (scenario : Scenario) : Bool :=
  (scenario.run none).verdict.failures ≠ []

/-- What is printed about a scenario of the file at a path: one line if it has
passed, and otherwise one line and the failures, each on a line of its own. -/
def block (path : Bytes) (scenario : Scenario) : Bytes :=
  let title := path ++ utf8 "/" ++ scenario.name ++ utf8 "\n"
  if scenario.fails then
    utf8 "FAIL " ++ title ++
      (scenario.run none).verdict.failures.flatMap fun failure =>
        utf8 "    " ++ failure.message ++ utf8 "\n"
  else utf8 "PASS " ++ title

/-- A scenario passes on any counters if it does not fail by itself. -/
theorem passed_run (scenario : Scenario) (metrics : Option Metrics) :
    (scenario.run metrics).verdict.passed = !scenario.fails := by
  rw [(scenario.run_uncounted metrics).1, fails, Verdict.passed]
  cases (scenario.run none).verdict.failures <;> rfl

/-- The lines about a run on any counters are the block. -/
theorem verdictLines_run (path : Bytes) (scenario : Scenario) (metrics : Option Metrics) :
    Session.verdictLines path (scenario.run metrics).verdict = scenario.block path := by
  have named : (scenario.run none).verdict.scenario = scenario.name := rfl
  unfold Session.verdictLines block
  rw [passed_run, (scenario.run_uncounted metrics).1, named]
  cases failed : scenario.fails with
  | true => simp
  | false =>
    have clean : (scenario.run none).verdict.failures = [] := by
      simpa [fails] using failed
    simp [clean]

end Scenario

/-- The line behind all blocks. -/
def summaryLine (total failed : Nat) : Bytes :=
  naturalDecimal total ++ utf8 " scenarios, " ++ naturalDecimal failed ++ utf8 " failed\n"

namespace Session

variable (session : Session) (verbose : Bool) (stamp : Bytes)

/-- Scenarios that run one after another print their blocks one after another. -/
theorem stdout_runAll (listed : List (Bytes × Scenario)) :
    (session.runAll verbose stamp listed).stdout =
      session.stdout ++ listed.flatMap fun entry => entry.2.block entry.1 := by
  induction listed generalizing session with
  | nil => simp [runAll]
  | cons entry rest inductionHypothesis =>
    have first : (session.runScenario verbose stamp entry.1 entry.2).stdout =
        session.stdout ++ entry.2.block entry.1 := by
      rw [← entry.2.verdictLines_run entry.1 (some session.metrics)]
      rfl
    calc (session.runAll verbose stamp (entry :: rest)).stdout
        = ((session.runScenario verbose stamp entry.1 entry.2).runAll verbose stamp rest).stdout :=
          rfl
      _ = (session.stdout ++ entry.2.block entry.1) ++
            rest.flatMap fun entry => entry.2.block entry.1 := by
          rw [inductionHypothesis, first]
      _ = _ := by rw [List.append_assoc, List.flatMap_cons]

/-- Scenarios that run one after another are all counted, and those that fail once
more. -/
theorem counts_runAll (listed : List (Bytes × Scenario)) :
    (session.runAll verbose stamp listed).total = session.total + listed.length ∧
      (session.runAll verbose stamp listed).failed =
        session.failed + listed.countP fun entry => entry.2.fails := by
  induction listed generalizing session with
  | nil => exact ⟨rfl, rfl⟩
  | cons entry rest inductionHypothesis =>
    have failed : (session.runScenario verbose stamp entry.1 entry.2).failed =
        session.failed + if entry.2.fails then 1 else 0 := by
      show (if (entry.2.run (some session.metrics)).verdict.passed then session.failed
        else session.failed + 1) = _
      rw [entry.2.passed_run]
      cases entry.2.fails <;> rfl
    obtain ⟨total, others⟩ :=
      inductionHypothesis (session.runScenario verbose stamp entry.1 entry.2)
    constructor
    · rw [List.length_cons, ← Nat.add_assoc, Nat.add_right_comm]
      exact total
    · rw [List.countP_cons, Nat.add_comm (rest.countP _), ← Nat.add_assoc, ← failed]
      exact others

end Session

/-! ## Files -/

namespace Command

variable {options : Options} {tree : FileTree} {paths : List Bytes} {files : List ScenarioFile}

/-- The paths lead to files with scenarios. -/
def Loads (tree : FileTree) (paths : List Bytes) (files : List ScenarioFile) : Prop :=
  List.Forall₂ (fun path file => ScenarioFile.load tree path = .ok file) paths files

/-- The settings file can be used, or there is none. -/
def Prepared (options : Options) (tree : FileTree) : Prop :=
  options.settingsPath = [] ∨ ∃ loaded, Settings.load tree options.settingsPath = .ok loaded

/-- All scenarios of files in order, as the command runs them, each with the path of
its file. -/
def listed (options : Options) (tree : FileTree) (files : List ScenarioFile) :
    List (Bytes × Scenario) :=
  files.flatMap fun file =>
    file.scenarios.map fun scenario => (file.path, asRun options tree scenario)

/-- The scenarios of a file can all be settled. -/
theorem settled_of_prepared (prepared : Prepared options tree) {path : Bytes} {file : ScenarioFile}
    (loads : ScenarioFile.load tree path = .ok file) :
    ∀ scenario ∈ file.scenarios,
      settled options tree scenario = .ok (asRun options tree scenario) := by
  obtain unchosen | ⟨loaded, accepted⟩ := prepared
  · exact fun scenario _ => settled_asRun (settled_unchosen tree scenario unchosen)
  · -- A file that loads has a document, to which the settings file fits.
    unfold ScenarioFile.load at loads
    dsimp only at loads
    split at loads
    · cases loads
    · split at loads
      · cases loads
      · next parsed =>
        cases loads
        exact settled_of_loaded accepted parsed

/-- The scenarios of all files can be settled. -/
theorem settled_of_loads (prepared : Prepared options tree) (loads : Loads tree paths files) :
    ∀ file ∈ files, ∀ scenario ∈ file.scenarios,
      settled options tree scenario = .ok (asRun options tree scenario) := by
  induction loads with
  | nil => exact nofun
  | cons first _ inductionHypothesis =>
    intro file member
    obtain rfl | later := List.mem_cons.mp member
    · exact settled_of_prepared prepared first
    · exact inductionHypothesis file later

/-- Behind files with scenarios the command goes on as after these scenarios. -/
theorem runFiles_append (prepared : Prepared options tree) (loads : Loads tree paths files)
    (stamp : Bytes) (session : Session) (rest : List Bytes) :
    runFiles options tree stamp session (paths ++ rest) =
      runFiles options tree stamp
        (session.runAll options.verbose stamp (listed options tree files)) rest := by
  -- Each file starts with the session that the one before has left.
  induction loads generalizing session with
  | nil => rfl
  | @cons path file paths files first _ inductionHypothesis =>
    have ran := runScenarios_eq stamp file.path (settled_of_prepared prepared first) session
    rw [List.cons_append, runFiles, first]
    dsimp only
    rw [ran]
    show runFiles options tree stamp _ (paths ++ rest) = _
    rw [inductionHypothesis, Session.runAll, Session.runAll, ← List.foldl_append]
    rfl

/-- An error that stops the command leaves the output as it is. -/
theorem stop_eq (session : Session) (message : Bytes) (cause : Option Document.Breakdown) :
    (stop session message cause).stdout = session.stdout ∧
      (stop session message cause).breakdown = cause ∧
      (stop session message cause).code = if cause = none then 1 else 2 := by
  cases cause <;> exact ⟨rfl, rfl, rfl⟩

/-- A command that has run scenarios to the end prints their blocks, the totals and
the summary of the counters that it was asked for, and its exit code tells whether
one has failed. -/
theorem finish_runAll (options : Options) (stamp : Bytes) (scenarios : List (Bytes × Scenario)) :
    let result := finish options (Session.runAll {} options.verbose stamp scenarios)
    let failed := scenarios.countP fun entry => entry.2.fails
    result.stdout = (scenarios.flatMap fun entry => entry.2.block entry.1) ++
        summaryLine scenarios.length failed ++
        (if options.metrics then
          (Scenario.countedAll {} (scenarios.map Prod.snd)).snapshot.summary else []) ∧
      result.code = (if failed = 0 then 0 else 1) ∧ result.breakdown = none := by
  intro result failed
  obtain ⟨total, fail⟩ := Session.counts_runAll {} options.verbose stamp scenarios
  have stdout := Session.stdout_runAll {} options.verbose stamp scenarios
  have metrics := Session.metrics_runAll {} options.verbose stamp scenarios
  rw [List.nil_append] at stdout
  rw [Nat.zero_add] at total fail
  refine ⟨?_, ?_, rfl⟩
  · show _ ++ summaryLine _ _ ++ _ = _
    rw [stdout, total, fail, metrics]
  · show (if _ > 0 then 1 else 0) = _
    rw [fail]
    by_cases clean : failed = 0
    · rw [if_pos clean, if_neg (Nat.not_lt.mpr (Nat.le_of_eq clean))]
    · rw [if_neg clean, if_pos (Nat.pos_of_ne_zero clean)]

/-- Nothing stops the command before the first file if the settings file can be used. -/
theorem settingsError?_of_prepared (prepared : Prepared options tree) :
    settingsError? options tree = none := by
  obtain unchosen | ⟨loaded, accepted⟩ := prepared
  · exact if_pos unchosen
  · unfold settingsError?
    rw [accepted]
    exact ite_self none

/-- With options and at least one path the command runs. -/
theorem run_eq_runWith {arguments : List Bytes} (tree : FileTree) (stamp : Bytes)
    (accepted : Options.read arguments = .ok (options, paths)) (named : paths ≠ []) :
    run arguments tree stamp = runWith options paths tree stamp := by
  unfold run
  rw [accepted]
  cases paths with
  | nil => exact absurd rfl named
  | cons path rest => rfl

/-- **The command prints the verdicts.** Take arguments that can be used and name at
least one file, and any files.

* If there is a settings file that cannot be used, nothing is printed.
* Otherwise, if all files have scenarios, all scenarios can be settled. The output
  is their blocks in order, the number of scenarios and of those that fail, and, if
  that is an option, the summary of the counters after all of them. The exit code
  is 0 if no scenario fails, and 1 if one does.
* If a file has none, the output is the blocks of the files before the first such
  file, and nothing else.

The exit code of a command that a file has stopped is 1, except if reading the file
has broken down: then it is 2. -/
theorem run_prints_verdicts {arguments : List Bytes}
    (accepted : Options.read arguments = .ok (options, paths)) (named : paths ≠ [])
    (tree : FileTree) (stamp : Bytes) :
    let result := run arguments tree stamp
    (∀ cause, options.settingsPath ≠ [] →
      Settings.load tree options.settingsPath = .error cause →
        result.stdout = [] ∧ result.breakdown = cause.breakdown? ∧
          result.code = if cause.breakdown? = none then 1 else 2) ∧
    (Prepared options tree → ∀ files, Loads tree paths files →
      let scenarios := listed options tree files
      let failed := scenarios.countP fun entry => entry.2.fails
      (∀ file ∈ files, ∀ scenario ∈ file.scenarios,
        settled options tree scenario = .ok (asRun options tree scenario)) ∧
      result.stdout = (scenarios.flatMap fun entry => entry.2.block entry.1) ++
        summaryLine scenarios.length failed ++
        (if options.metrics then
          (Scenario.countedAll {} (scenarios.map Prod.snd)).snapshot.summary else []) ∧
      result.code = (if failed = 0 then 0 else 1) ∧ result.breakdown = none) ∧
    (Prepared options tree → ∀ before path rest files cause, paths = before ++ path :: rest →
      Loads tree before files → ScenarioFile.load tree path = .error cause →
        result.stdout =
          ((listed options tree files).flatMap fun entry => entry.2.block entry.1) ∧
        result.breakdown = cause.breakdown? ∧
        result.code = if cause.breakdown? = none then 1 else 2) := by
  intro result
  have ran : result = runWith options paths tree stamp :=
    run_eq_runWith tree stamp accepted named
  rw [ran]
  refine ⟨?refused, ?finished, ?stopped⟩
  case refused =>
    intro cause chosen refused
    have error : settingsError? options tree = some cause := by
      rw [settingsError?, if_neg chosen, refused]
    rw [runWith, error]
    exact stop_eq {} cause.message cause.breakdown?
  case finished =>
    intro prepared files loads scenarios failed
    have all := runFiles_append prepared loads stamp {} []
    rw [List.append_nil] at all
    rw [runWith, settingsError?_of_prepared prepared]
    dsimp only
    rw [all]
    exact ⟨settled_of_loads prepared loads, finish_runAll options stamp scenarios⟩
  case stopped =>
    intro prepared before path rest files cause split loads failed
    have reached := runFiles_append prepared loads stamp {} (path :: rest)
    obtain ⟨stdout, breakdown, code⟩ :=
      stop_eq (Session.runAll {} options.verbose stamp (listed options tree files))
        cause.message cause.breakdown?
    rw [Session.stdout_runAll, List.nil_append] at stdout
    rw [runWith, settingsError?_of_prepared prepared, split, reached, runFiles, failed]
    exact ⟨stdout, breakdown, code⟩

/-- A file with a scenario that makes a string and one that fails: by itself, with the
summary of the counters, in front of a file that is not there, and with a settings file
that is not there. -/
theorem failing_scenario_before_missing_file :
    let tree : FileTree :=
      { workingDirectory := [utf8 "w"]
        entries :=
          [([utf8 "w", utf8 "a.yml"], .file (utf8 <| "scenarios:\n- name: a\n  steps:\n" ++
            "  - op: string_new\n    ref: s\n    text: hey\n" ++
            "- name: b\n  steps:\n  - op: list_len\n    target: x\n"))] }
    let blocks := "PASS /w/a.yml/a\nFAIL /w/a.yml/b\n    step 0 (list_len): unknown ref \"x\"\n"
    let counters := "list appends:        0\nlist reallocations:  0\nlist slots:          0\n" ++
      "string allocations:  1\nstring bytes:        3 B\n"
    let once := run [utf8 "a.yml"] tree []
    let counted := run [utf8 "-metrics", utf8 "a.yml"] tree []
    let twice := run [utf8 "a.yml", utf8 "b.yml"] tree []
    let unprepared := run [utf8 "-config", utf8 "b.yml", utf8 "a.yml"] tree []
    once.stdout = utf8 (blocks ++ "2 scenarios, 1 failed\n") ∧ once.code = 1 ∧
      counted.stdout = utf8 (blocks ++ "2 scenarios, 1 failed\n" ++ counters) ∧
      counted.code = 1 ∧
      twice.stdout = utf8 blocks ∧ twice.code = 1 ∧
      unprepared.stdout = [] ∧ unprepared.code = 1 := by
  intro tree blocks counters once counted twice unprepared
  let file : ScenarioFile :=
    { path := utf8 "/w/a.yml"
      scenarios :=
        [{ name := utf8 "a", settings := ScenarioDraft.standardSettings
           steps := [{ operation := .stringNew, ref := utf8 "s", text := utf8 "hey" }] },
          { name := utf8 "b", settings := ScenarioDraft.standardSettings
            steps := [{ operation := .listLength, target := utf8 "x" }] }] }
  have loads : Loads tree [utf8 "a.yml"] [file] := by
    have first : ScenarioFile.load tree (utf8 "a.yml") = .ok file := by
      decide +kernel
    exact .cons first .nil
  have printed : ((listed {} tree [file]).flatMap fun entry => entry.2.block entry.1) =
      utf8 blocks := by
    decide +kernel
  obtain ⟨_, finished, _⟩ := @run_prints_verdicts {} [utf8 "a.yml"] [utf8 "a.yml"]
    (by decide) (by decide) tree []
  obtain ⟨_, summed, _⟩ :=
    @run_prints_verdicts { metrics := true } [utf8 "a.yml"] [utf8 "-metrics", utf8 "a.yml"]
      (by decide) (by decide) tree []
  obtain ⟨_, _, stopped⟩ :=
    @run_prints_verdicts {} [utf8 "a.yml", utf8 "b.yml"] [utf8 "a.yml", utf8 "b.yml"]
      (by decide) (by decide) tree []
  obtain ⟨refused, _, _⟩ :=
    @run_prints_verdicts { settingsPath := utf8 "b.yml" } [utf8 "a.yml"]
      [utf8 "-config", utf8 "b.yml", utf8 "a.yml"] (by decide) (by decide) tree []
  obtain ⟨_, output, code, _⟩ := finished (.inl rfl) [file] loads
  obtain ⟨_, summary, summaryCode, _⟩ := summed (.inl rfl) [file] loads
  obtain ⟨before, _, codeBefore⟩ := stopped (.inl rfl) [utf8 "a.yml"] (utf8 "b.yml") [] [file]
    (.read (utf8 "/w/b.yml") ⟨.opening, utf8 "/w/b.yml", .missing⟩) rfl loads (by decide)
  obtain ⟨nothing, _, codeNothing⟩ :=
    refused (.read (utf8 "/w/b.yml") ⟨.opening, utf8 "/w/b.yml", .missing⟩) (by decide) (by decide)
  rw [printed] at output before
  refine ⟨output.trans ?_, code.trans ?_, summary.trans ?_, summaryCode.trans ?_, before,
    codeBefore, nothing, codeNothing⟩
  all_goals decide +kernel

/-- The exit code is not always 1 when the settings file cannot be used: reading this
one breaks down. -/
theorem broken_settings_file_exits_otherwise :
    let tree : FileTree :=
      { workingDirectory := [utf8 "w"]
        entries :=
          [([utf8 "w", utf8 "c.yml"], .file (utf8 "\x7b[]: 1, <<: \x7b\x7d\x7d\n")),
            ([utf8 "w", utf8 "f.yml"], .file (utf8 "scenarios: []\n"))] }
    let arguments := [utf8 "-config", utf8 "c.yml", utf8 "f.yml"]
    Options.read arguments = .ok ({ settingsPath := utf8 "c.yml" }, [utf8 "f.yml"]) ∧
      (Settings.load tree (utf8 "c.yml")).toOption = none ∧
      (run arguments tree []).code ≠ 1 := by
  decide +kernel

end Command

end ContainerKernel
