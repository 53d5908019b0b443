import ContainerKernel.Kernel
import ContainerKernel.Scenario
import ContainerKernel.Scenario.Mismatch

/-!
# Running a scenario

The steps of a scenario are done on a fresh kernel. Names stand for handles: a step that makes a
container gives its handle a name, and a later step with the same name takes it over. Names of
host handles stand for one host handle each. The first step that calls for the program's exit is
the last one that is done.

Main definitions: `Replay.run` does one step, and `Scenario.run` does all of them.
-/

namespace ContainerKernel

/-- The state of a scenario's run. -/
structure Replay where
  kernel : Kernel
  /-- The handles by name, the last one given first. -/
  refs : List (Bytes × Int) := []
  /-- The names of the host handles, in the order of their first use. -/
  hosts : List Bytes := []
  /-- What the steps so far have done outside the kernel. -/
  effects : Effects := {}
deriving Repr, Inhabited

namespace Replay

/-- The handle of a name. -/
def handle (replay : Replay) (name : Bytes) : Except Mismatch Int :=
  match replay.refs.lookup name with
  | some handle => .ok handle
  | none => .error (.unknownRef name)

/-- The replay in which a host handle of the name is there, and that handle. -/
def host (replay : Replay) (name : Bytes) : Replay × Value :=
  match replay.hosts.findIdx? (· = name) with
  | some index => (replay, .host (some ⟨index, name⟩))
  | none =>
    ({ replay with hosts := replay.hosts ++ [name] },
      .host (some ⟨replay.hosts.length, name⟩))

/-- The value of what a description says. -/
def lookUp (replay : Replay) : Denotation → Except Mismatch (Replay × Value)
  | .plain value => .ok (replay, value)
  | .list name => (replay.handle name).map fun handle => (replay, .list handle)
  | .string name => (replay.handle name).map fun handle => (replay, .string handle)
  | .host name => .ok (replay.host name)
  | .unusable text => .error (.byteValueLength text)

/-- The value of a description that may be missing, which then means nil. -/
def valueOrNil (replay : Replay) : Option ValueSpec → Except Mismatch (Replay × Value)
  | none => .ok (replay, .nil)
  | some spec => replay.lookUp spec.meaning

/-- The operation on the kernel that a step asks for. -/
def operation (replay : Replay) (step : Step) : Except Mismatch (Replay × Operation) := do
  match step.operation with
  | .listNew => return (replay, .listNew)
  | .listAppend =>
    let handle ← replay.handle step.target
    let (named, value) ← replay.valueOrNil step.value
    return (named, .listAppend handle (some value))
  | .listAt => return (replay, .listAt (← replay.handle step.target) step.index)
  | .listLength => return (replay, .listLength (← replay.handle step.target))
  | .stringNew => return (replay, .stringNew step.text)
  | .stringAdd => return (replay, .stringAdd (← replay.handle step.target) step.text)
  | .stringConcat =>
    let handle ← replay.handle step.target
    let other ← replay.handle step.other
    return (replay, .stringConcat handle other)
  | .stringLength => return (replay, .stringLength (← replay.handle step.target))
  | .stringAt => return (replay, .stringAt (← replay.handle step.target) step.index)
  | .unknown name => throw (.unknownOperation name)

/-- Do an operation on the kernel. -/
def perform (replay : Replay) (operation : Operation) : Replay × Except Failure Reply :=
  let (kernel, outcome) := replay.kernel.step operation
  ({ replay with kernel, effects := replay.effects ++ outcome.effects }, outcome.result)

/-- Give a new container its name. -/
def bind (replay : Replay) (ref : Bytes) : Except Failure Reply → Replay
  | .ok (.handle handle) => { replay with refs := (ref, handle) :: replay.refs }
  | _ => replay

/-! ## Expectations -/

/-- What is wrong about success or failure. -/
def resultMismatch? (expected : ErrorExpectation) (result : Except Failure Reply) :
    Option Mismatch :=
  match expected, result with
  | .success, .ok _ => none
  | .success, .error failure => some (.unexpectedFailure failure)
  | _, .ok _ => some (.noFailure expected)
  | .exit, .error failure => if failure.exitCode?.isSome then none else some (.noExit failure)
  | .fault wanted, .error failure =>
    if failure.isOf wanted then none else some (.otherFailure expected failure)
  | .unknown _, .error failure => some (.otherFailure expected failure)

/-- What is wrong about the printed text. -/
def stderrMismatch? (replay : Replay) (step : Step) : Option Mismatch :=
  if step.expectStderr = [] ∨ replay.effects.stderr = step.expectStderr then none
  else some (.stderr replay.effects.stderr step.expectStderr)

/-- The value of a reply. -/
def replyValue? : Reply → Option Value
  | .value value => some value
  | _ => none

/-- What is wrong about a value; the description may use a host handle for the first time. -/
def checkValue (replay : Replay) (step : Step) (reply : Reply) : Replay × Option Mismatch :=
  match step.expect with
  | none => (replay, none)
  | some spec =>
    match replay.lookUp spec.meaning with
    | .error mismatch => (replay, some mismatch)
    | .ok (named, want) =>
      let got := replyValue? reply
      if Value.equal got (some want) then (named, none)
      else (named, some (.value got (some want)))

/-- What is wrong about a number. -/
def numberMismatch? (step : Step) (reply : Reply) : Option Mismatch :=
  match step.expectInt, reply with
  | none, _ => none
  | some want, .length got => if (got : Int) = want then none else some (.number got want)
  | some _, _ => some (.unsupported "expect_int" step.operation)

/-- What is wrong about a byte. -/
def byteMismatch? (step : Step) (reply : Reply) : Option Mismatch :=
  match step.expectByte, reply with
  | [], _ => none
  | want :: _, .byte got => if got = want then none else some (.byte got want)
  | _ :: _, _ => some (.unsupported "expect_byte" step.operation)

/-- What is wrong about the text of a new string, which the kernel is asked for once more. -/
def checkText (replay : Replay) (step : Step) (reply : Reply) : Replay × Option Mismatch :=
  match step.expectText with
  | none => (replay, none)
  | some want =>
    match reply with
    | .handle handle =>
      if step.operation = .listNew then (replay, some (.unsupported "expect_text" step.operation))
      else
        match replay.perform (.stringBytes handle) with
        | (read, .ok (.bytes got)) => (read, if got = want then none else some (.text got want))
        | (read, .ok _) => (read, none)
        | (read, .error failure) => (read, some (.unreadable failure))
    | _ => (replay, some (.unsupported "expect_text" step.operation))

/-- The first thing that is wrong about the reply to a step. -/
def checkReply (replay : Replay) (step : Step) (reply : Reply) : Replay × Option Mismatch :=
  match replay.checkValue step reply with
  | (named, some mismatch) => (named, some mismatch)
  | (named, none) =>
    match (numberMismatch? step reply).or (byteMismatch? step reply) with
    | some mismatch => (named, some mismatch)
    | none =>
      match named.checkText step reply with
      | (read, some mismatch) => (read, some mismatch)
      | (read, none) => (read, read.stderrMismatch? step)

/-- The first thing that is wrong about what came of a step. -/
def checkResult (replay : Replay) (step : Step) (result : Except Failure Reply) :
    Replay × Option Mismatch :=
  match resultMismatch? step.expectError result with
  | some mismatch => (replay, some mismatch)
  | none =>
    match result with
    | .error _ => (replay, replay.stderrMismatch? step)
    | .ok reply => replay.checkReply step reply

/-- Do a step, and say what goes wrong. -/
def run (replay : Replay) (step : Step) : Replay × Option Mismatch :=
  match replay.operation step with
  | .error mismatch => (replay, some mismatch)
  | .ok (named, operation) =>
    let (performed, result) := named.perform operation
    (performed.bind step.ref result).checkResult step result

/-- The log line about the steps after an exit. -/
def earlyExitLine (name : Bytes) (index skipped : Nat) : LogLine where
  level := .debug
  fields := [
    ("msg", utf8 "scenario exited early"),
    ("scenario", name),
    ("step", naturalDecimal index),
    ("skipped", naturalDecimal skipped)]

/-- Add a line to the log. -/
def log (replay : Replay) (line : LogLine) : Replay :=
  { replay with effects := { replay.effects with log := replay.effects.log ++ [line] } }

/--
Do the steps of the named scenario from a number on, up to the first one that calls for an exit.
-/
def runSteps (name : Bytes) : Nat → List Step → Replay → Replay × List StepFailure
  | _, [], replay => (replay, [])
  | index, step :: rest, replay =>
    let (next, mismatch) := replay.run step
    let failures := mismatch.toList.map fun mismatch => ⟨index, step.operation, mismatch⟩
    if next.effects.exits ≠ [] then
      (if rest = [] then next else next.log (earlyExitLine name index rest.length), failures)
    else
      let (last, later) := runSteps name (index + 1) rest next
      (last, failures ++ later)

end Replay

/-- What comes of a scenario. -/
structure Verdict where
  scenario : Bytes
  failures : List StepFailure
  /-- The exit code, if a step called for the program's exit. -/
  exit : Option Int
  stderr : Bytes
deriving DecidableEq, Repr, Inhabited

/-- Whether nothing went wrong. -/
def Verdict.passed (verdict : Verdict) : Bool :=
  verdict.failures.isEmpty

/-- A verdict with the log of the run and the counters after it. -/
structure Report where
  verdict : Verdict
  log : List LogLine
  metrics : Option Metrics
deriving Repr, Inhabited

namespace Scenario

/-- The state in which a run begins. -/
def replay (scenario : Scenario) (metrics : Option Metrics) : Replay :=
  { kernel := Kernel.start scenario.settings metrics }

/-- Run a scenario; the counters, where there are any, go on from earlier runs. -/
def run (scenario : Scenario) (metrics : Option Metrics) : Report :=
  let (last, failures) :=
    Replay.runSteps scenario.name 0 scenario.steps (scenario.replay metrics)
  { verdict :=
      { scenario := scenario.name, failures, exit := last.effects.exits.head?,
        stderr := last.effects.stderr }
    log := last.effects.log
    metrics := last.kernel.metrics }

/-- Run scenarios one after another on the same counters. -/
def runAll (metrics : Option Metrics) : List Scenario → List Report
  | [] => []
  | scenario :: rest =>
    let report := scenario.run metrics
    report :: runAll report.metrics rest

end Scenario

end ContainerKernel
