import ContainerKernel.Command.Options
import ContainerKernel.Metrics.Summary
import ContainerKernel.Scenario.File
import ContainerKernel.Scenario.Run
import ContainerKernel.Settings.File

/-!
# The command

The command runs the scenarios of files and says of each whether it passed. A settings file given
as an option is laid over the settings of the scenarios that bring none of their own; it is read
once before everything else, so that a bad one stops the command at once. A scenario file that
cannot be read stops the command after the files before it. A breakdown while a file is read stops
the command as well, under an exit code of its own.
-/

namespace ContainerKernel

/-- What the command has printed and counted so far. -/
structure Session where
  stdout : Bytes := []
  stderr : Bytes := []
  metrics : Metrics := {}
  total : Nat := 0
  failed : Nat := 0
deriving Repr, Inhabited

/-- What comes of the command. -/
structure CommandResult where
  code : Nat
  stdout : Bytes
  stderr : Bytes
  /-- The breakdown that has stopped the command, if one has. -/
  breakdown : Option Document.Breakdown := none
deriving DecidableEq, Repr, Inhabited

namespace Session

/-- Whether the log shows a line. -/
def shows (verbose : Bool) (line : LogLine) : Bool :=
  verbose || line.level ≠ .debug

/-- Print log lines, stamped, as far as the log shows them. -/
def printLog (session : Session) (verbose : Bool) (stamp : Bytes) (lines : List LogLine) :
    Session :=
  { session with
    stderr := session.stderr ++
      (lines.filter (shows verbose)).flatMap (LogLine.render (some stamp)) }

/-- Print an error. -/
def printError (session : Session) (message : Bytes) : Session :=
  { session with stderr := session.stderr ++ message ++ utf8 "\n" }

/-- The lines about a scenario: its verdict, and what went wrong. -/
def verdictLines (path : Bytes) (verdict : Verdict) : Bytes :=
  (if verdict.passed then utf8 "PASS " else utf8 "FAIL ") ++ path ++ utf8 "/"
    ++ verdict.scenario ++ utf8 "\n"
    ++ verdict.failures.flatMap fun failure => utf8 "    " ++ failure.message ++ utf8 "\n"

/-- The log line about a scenario that failed. -/
def failureLine (path : Bytes) (verdict : Verdict) : LogLine where
  level := .warn
  fields := [
    ("msg", utf8 "scenario failed"),
    ("file", path),
    ("scenario", verdict.scenario),
    ("failures", naturalDecimal verdict.failures.length)]

/-- The lines after all scenarios. -/
def totals (session : Session) : Bytes :=
  naturalDecimal session.total ++ utf8 " scenarios, " ++ naturalDecimal session.failed
    ++ utf8 " failed\n"

/-- Run a scenario of the file at a path, and print what comes of it. -/
def runScenario (session : Session) (verbose : Bool) (stamp path : Bytes) (scenario : Scenario) :
    Session :=
  let report := scenario.run (some session.metrics)
  let failureLog := if report.verdict.passed then [] else [failureLine path report.verdict]
  { session with
    stdout := session.stdout ++ verdictLines path report.verdict
    metrics := report.metrics.getD session.metrics
    total := session.total + 1
    failed := if report.verdict.passed then session.failed else session.failed + 1
    }.printLog verbose stamp (report.log ++ failureLog)

end Session

namespace Command

/-- The scenario under the settings file of the options, unless it brings settings of its own. -/
def settled (options : Options) (tree : FileTree) (scenario : Scenario) :
    Except SettingsFileError Scenario :=
  if options.settingsPath = [] ∨ scenario.ownSettings then .ok scenario
  else
    (Settings.loadOver tree options.settingsPath scenario.settings).map fun settings =>
      { scenario with settings }

/-- What comes of a command that an error has stopped, which may be a breakdown. -/
def stop (session : Session) (message : Bytes) : Option Document.Breakdown → CommandResult
  | none =>
    { code := 1
      stdout := session.stdout
      stderr := (session.printError message).stderr }
  | some cause =>
    { code := 2
      stdout := session.stdout
      stderr := (session.printError cause.message).stderr
      breakdown := some cause }

/-- Run the scenarios of a file, unless an error stops the command. -/
def runScenarios (options : Options) (tree : FileTree) (stamp path : Bytes) :
    Session → List Scenario → Except CommandResult Session
  | session, [] => .ok session
  | session, scenario :: rest =>
    match settled options tree scenario with
    | .error cause => .error (stop session cause.message cause.breakdown?)
    | .ok scenario =>
      runScenarios options tree stamp path
        (session.runScenario options.verbose stamp path scenario) rest

/-- Run the scenarios of the files at paths, unless an error stops the command. -/
def runFiles (options : Options) (tree : FileTree) (stamp : Bytes) :
    Session → List Bytes → Except CommandResult Session
  | session, [] => .ok session
  | session, path :: rest =>
    match ScenarioFile.load tree path with
    | .error cause => .error (stop session cause.message cause.breakdown?)
    | .ok file => do
      let next ← runScenarios options tree stamp file.path session file.scenarios
      runFiles options tree stamp next rest

/-- What comes of a command that has run all scenarios. -/
def finish (options : Options) (session : Session) : CommandResult where
  code := if session.failed > 0 then 1 else 0
  stdout := session.stdout ++ session.totals ++
    (if options.metrics then session.metrics.snapshot.summary else [])
  stderr := session.stderr

/-- Whether the settings file of the options can be used, if there is one. -/
def settingsError? (options : Options) (tree : FileTree) : Option SettingsFileError :=
  if options.settingsPath = [] then none
  else
    match Settings.load tree options.settingsPath with
    | .ok _ => none
    | .error cause => some cause

/-- Run the command with options and at least one path. -/
def runWith (options : Options) (paths : List Bytes) (tree : FileTree) (stamp : Bytes) :
    CommandResult :=
  match settingsError? options tree with
  | some cause => stop {} cause.message cause.breakdown?
  | none =>
    match runFiles options tree stamp {} paths with
    | .ok session => finish options session
    | .error result => result

/-- Run the command with arguments on a file tree; the stamp is the time that log lines show. -/
def run (arguments : List Bytes) (tree : FileTree) (stamp : Bytes) : CommandResult :=
  match Options.read arguments with
  | .error cause => { code := 2, stdout := [], stderr := cause.message }
  | .ok (_, []) => { code := 2, stdout := [], stderr := Options.usage }
  | .ok (options, path :: paths) => runWith options (path :: paths) tree stamp

/-- The paths that the command reads with the given arguments. -/
def pathsRead (arguments : List Bytes) : List Bytes :=
  match Options.read arguments with
  | .error _ => []
  | .ok (options, paths) =>
    if options.settingsPath = [] then paths else options.settingsPath :: paths

end Command

end ContainerKernel
