import ContainerKernel.Document.Node.Render
import ContainerKernel.Scenario.Step
import ContainerKernel.Settings.Document

/-!
# Scenarios

A scenario is a name, the settings of a kernel, and steps to do on it one after another. A
scenario document lists scenarios. It is read in two stages: drafts are what the document says,
and scenarios are drafts that pass every check. A draft may bring settings of its own, as a
document inside the document; otherwise the scenario works under the default settings, except
that faults are returned and end nothing.
-/

namespace ContainerKernel

/-- A list of steps to do on a fresh kernel. -/
structure Scenario where
  name : Bytes
  settings : Settings
  /-- Whether the settings are the scenario's own. -/
  ownSettings : Bool := false
  steps : List Step := []
deriving DecidableEq, Repr, Inhabited

/-- A scenario as a document gives it. -/
structure ScenarioDraft where
  name : Bytes := []
  /-- The document of its own settings, if it has one. -/
  settings : Option Bytes := none
  steps : List Step := []
deriving DecidableEq, Repr, Inhabited

/-- Why a document gives no scenarios. -/
inductive ScenarioError where
  | document (cause : Document.ReadError)
  | missingName (index : Nat)
  | repeatedName (name : Bytes)
  | settings (name : Bytes) (cause : SettingsError)
  | step (name : Bytes) (index : Nat) (cause : StepObjection)
deriving DecidableEq, Repr, Inhabited

/-- The text of a scenario error. -/
def ScenarioError.message : ScenarioError → Bytes
  | document cause => cause.message
  | missingName index => utf8 "scenario " ++ naturalDecimal index ++ utf8 ": missing name"
  | repeatedName name => utf8 "scenario " ++ name ++ utf8 ": duplicate name"
  | settings name cause => utf8 "scenario " ++ name ++ utf8 ": config: " ++ cause.message
  | step name index cause =>
    utf8 "scenario " ++ name ++ utf8 ": step " ++ naturalDecimal index ++ utf8 ": "
      ++ cause.message

/-- The breakdown that an error is, if it is one. -/
def ScenarioError.breakdown? : ScenarioError → Option Document.Breakdown
  | document cause => cause.breakdown?
  | settings _ cause => cause.breakdown?
  | _ => none

namespace ScenarioDraft

open Document.Decode in
/-- The fields of a value. -/
def valueFields : List (RecordField ValueSpec) :=
  [field "nil" truth fun nil spec => { spec with nil },
    field "bool" (optional "bool" truth) fun bool spec => { spec with bool := some bool },
    field "int" (optional "int64" (word "int64")) fun integer spec =>
      { spec with integer := some integer },
    field "byte" text fun byte spec => { spec with byte },
    field "list" text fun list spec => { spec with list },
    field "string" text fun string spec => { spec with string },
    field "host" text fun host spec => { spec with host }]

open Document.Decode in
/-- A value. -/
def value : Document.Tree → Document.Node → Document.Decode (Option ValueSpec) :=
  optional "fixtures.ValueSpec" (record "fixtures.ValueSpec" valueFields {})

open Document.Decode in
/-- The fields of a step. -/
def stepFields : List (RecordField Step) :=
  [field "op" (namedText "fixtures.Op") fun name step =>
      { step with operation := .ofName name },
    field "ref" text fun ref step => { step with ref },
    field "target" text fun target step => { step with target },
    field "other" text fun other step => { step with other },
    field "index" (word "int") fun index step => { step with index },
    field "text" text fun text step => { step with text },
    field "value" value fun value step => { step with value := some value },
    field "expect" value fun expect step => { step with expect := some expect },
    field "expect_int" (optional "int" (word "int")) fun number step =>
      { step with expectInt := some number },
    field "expect_byte" text fun expectByte step => { step with expectByte },
    field "expect_text" (optional "string" text) fun text step =>
      { step with expectText := some text },
    field "expect_error" text fun name step => { step with expectError := .ofName name },
    field "expect_stderr" text fun expectStderr step => { step with expectStderr }]

/-- The step of indentation of a document inside the document. -/
def innerIndentStep : Nat := 4

/-- A node as a document of its own. -/
def innerDocument (tree : Document.Tree) (node : Document.Node) :
    Document.Decode (Option Bytes) := do
  Document.Decode.countVisit
  return some (encodeChars (node.render innerIndentStep tree.size))

open Document.Decode in
/-- The fields of a draft. -/
def fields : List (RecordField ScenarioDraft) :=
  [field "name" text fun name draft => { draft with name },
    field "config" innerDocument fun document draft => { draft with settings := some document },
    field "steps" (sequence "[]fixtures.Step" (record "fixtures.Step" stepFields {}))
      fun steps draft => { draft with steps }]

open Document.Decode in
/-- The fields of a scenario document. -/
def documentFields : List (RecordField (List ScenarioDraft)) :=
  [field "scenarios"
    (sequence "[]fixtures.scenarioDisk" (record "fixtures.scenarioDisk" fields {}))
    fun drafts _ => drafts]

/-- The drafts that a document lists. -/
def ofBytes (bytes : Bytes) : Except Document.ReadError (List ScenarioDraft) :=
  Document.Decode.ofBytes (Document.Decode.record "fixtures.fileDisk" documentFields []) [] bytes

/-- The settings of a scenario that brings none. -/
def standardSettings : Settings :=
  { policy := .error }

/-- The settings of a draft. -/
def settingsOf (draft : ScenarioDraft) : Except SettingsError Settings :=
  match draft.settings with
  | none => .ok standardSettings
  | some document => Settings.parseOver document standardSettings

/-- The first step that cannot be used, with its number. -/
def firstObjection : Nat → List Step → Option (Nat × StepObjection)
  | _, [] => none
  | index, step :: rest =>
    match step.objection? with
    | some objection => some (index, objection)
    | none => firstObjection (index + 1) rest

/-- The scenario of a draft that follows others, whose number and names are given. -/
def check (draft : ScenarioDraft) (index : Nat) (taken : List Bytes) :
    Except ScenarioError Scenario :=
  let name := trim draft.name
  if name = [] then .error (.missingName index)
  else if taken.contains name then .error (.repeatedName name)
  else
    match draft.settingsOf with
    | .error cause => .error (.settings name cause)
    | .ok settings =>
      match firstObjection 0 draft.steps with
      | some (step, cause) => .error (.step name step cause)
      | none =>
        .ok { name, settings, ownSettings := draft.settings.isSome, steps := draft.steps }

/-- The scenarios of drafts, or the first error among them. -/
def checkAll : Nat → List Bytes → List ScenarioDraft → Except ScenarioError (List Scenario)
  | _, _, [] => .ok []
  | index, taken, draft :: rest => do
    let scenario ← draft.check index taken
    let scenarios ← checkAll (index + 1) (scenario.name :: taken) rest
    return scenario :: scenarios

end ScenarioDraft

/-- The scenarios that a document lists. -/
def Scenario.parse (bytes : Bytes) : Except ScenarioError (List Scenario) :=
  match ScenarioDraft.ofBytes bytes with
  | .error cause => .error (.document cause)
  | .ok drafts => ScenarioDraft.checkAll 0 [] drafts

end ContainerKernel
