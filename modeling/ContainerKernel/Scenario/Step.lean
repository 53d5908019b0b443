import ContainerKernel.Fault
import ContainerKernel.Settings

/-!
# Steps of a scenario

A step is one operation on a kernel together with what is expected of it. Containers have names:
a step that makes one says which name it gets, and steps that use one say which name it has. A
step can be written with any fields; the usable ones are those without an objection.
-/

namespace ContainerKernel

/-- What a step does. -/
inductive StepOperation where
  | listNew
  | listAppend
  | listAt
  | listLength
  | stringNew
  | stringAdd
  | stringConcat
  | stringLength
  | stringAt
  | unknown (name : Bytes)
deriving DecidableEq, Repr, Inhabited

namespace StepOperation

/-- The name of an operation in scenarios. -/
def name : StepOperation → Bytes
  | listNew => utf8 "list_new"
  | listAppend => utf8 "list_append"
  | listAt => utf8 "list_at"
  | listLength => utf8 "list_len"
  | stringNew => utf8 "string_new"
  | stringAdd => utf8 "string_add"
  | stringConcat => utf8 "string_concat"
  | stringLength => utf8 "string_length"
  | stringAt => utf8 "string_at"
  | unknown name => name

/-- The operations that have names. -/
def named : List StepOperation :=
  [listNew, listAppend, listAt, listLength, stringNew, stringAdd, stringConcat, stringLength,
    stringAt]

/-- The operation of a name. -/
def ofName (name : Bytes) : StepOperation :=
  (named.find? fun operation => operation.name = name).getD (unknown name)

end StepOperation

/--
A value as a scenario writes it. The first field that is set counts, in the order of the fields;
a description with none set means nil.
-/
structure ValueSpec where
  nil : Bool := false
  bool : Option Bool := none
  integer : Option Int := none
  /-- A text of one byte. -/
  byte : Bytes := []
  /-- The name of a list, of a string, and of a host handle's type. -/
  list : Bytes := []
  string : Bytes := []
  host : Bytes := []
deriving DecidableEq, Repr, Inhabited

/-- What a description of a value says: a value as it stands, the name of something that is to be
looked up, or a text that is no byte. -/
inductive Denotation where
  | plain (value : Value)
  | list (name : Bytes)
  | string (name : Bytes)
  | host (name : Bytes)
  | unusable (text : Bytes)
deriving DecidableEq, Repr, Inhabited

/-- What a description says, by the first of its fields that is set. -/
def ValueSpec.meaning (spec : ValueSpec) : Denotation :=
  if spec.nil then .plain .nil
  else
    match spec.bool, spec.integer with
    | some bool, _ => .plain (.bool bool)
    | none, some integer => .plain (.integer integer)
    | none, none =>
      match spec.byte with
      | [byte] => .plain (.byte byte)
      | _ :: _ :: _ => .unusable spec.byte
      | [] =>
        if spec.list ≠ [] then .list spec.list
        else if spec.string ≠ [] then .string spec.string
        else if spec.host ≠ [] then .host spec.host
        else .plain .nil

/-- The failure that a step is expected to end in. -/
inductive ErrorExpectation where
  | success
  | fault (wanted : FaultClass)
  | exit
  | unknown (name : Bytes)
deriving DecidableEq, Repr, Inhabited

namespace ErrorExpectation

/-- The expectation of a name; no name expects success. -/
def ofName (name : Bytes) : ErrorExpectation :=
  if name = [] then success
  else if name = utf8 "index" then fault .index
  else if name = utf8 "allocation" then fault .allocation
  else if name = utf8 "handle" then fault .handle
  else if name = utf8 "exit" then exit
  else unknown name

/-- The name of an expectation. -/
def name : ErrorExpectation → Bytes
  | success => []
  | fault wanted => wanted.label
  | exit => utf8 "exit"
  | unknown name => name

end ErrorExpectation

/-- One step of a scenario. -/
structure Step where
  operation : StepOperation := .unknown []
  /-- The name that the container gets which the step makes. -/
  ref : Bytes := []
  /-- The name of the container that the step uses. -/
  target : Bytes := []
  /-- The name of the second container that the step uses. -/
  other : Bytes := []
  index : Int := 0
  text : Bytes := []
  value : Option ValueSpec := none
  expect : Option ValueSpec := none
  expectInt : Option Int := none
  /-- The byte expected; an empty text expects none. -/
  expectByte : Bytes := []
  expectText : Option Bytes := none
  expectError : ErrorExpectation := .success
  /-- What is expected to have been printed; an empty text expects nothing in particular. -/
  expectStderr : Bytes := []
deriving DecidableEq, Repr, Inhabited

/-- Why a step cannot be used. -/
inductive StepObjection where
  /-- The operation lacks fields, which the text lists. -/
  | missing (operation : StepOperation) (fields : String)
  | unknownOperation (name : Bytes)
  | expectByteLength (text : Bytes)
  | unknownError (name : Bytes)
deriving DecidableEq, Repr, Inhabited

/-- The text of an objection. -/
def StepObjection.message : StepObjection → Bytes
  | missing operation fields => operation.name ++ utf8 " requires " ++ utf8 fields
  | unknownOperation name => utf8 "unknown op " ++ quoted name
  | expectByteLength text => utf8 "expect_byte must be a single byte, got " ++ quoted text
  | unknownError name => utf8 "unknown expect_error " ++ quoted name

namespace Step

/-- The objection to the fields that the operation needs. -/
def missingFields? (step : Step) : Option StepObjection :=
  let needs (given : Bool) (fields : String) : Option StepObjection :=
    if given then none else some (.missing step.operation fields)
  match step.operation with
  | .listNew | .stringNew => needs (step.ref ≠ []) "ref"
  | .listAppend => needs (step.target ≠ [] && step.value.isSome) "target and value"
  | .stringAdd => needs (step.target ≠ [] && step.ref ≠ []) "target and ref"
  | .stringConcat =>
    needs (step.target ≠ [] && step.other ≠ [] && step.ref ≠ []) "target, other and ref"
  | .listAt | .listLength | .stringLength | .stringAt => needs (step.target ≠ []) "target"
  | .unknown name => some (.unknownOperation name)

/-- The first objection to a step: its operation, the byte it expects, the failure it expects. -/
def objection? (step : Step) : Option StepObjection :=
  match step.missingFields? with
  | some objection => some objection
  | none =>
    if step.expectByte.length > 1 then some (.expectByteLength step.expectByte)
    else
      match step.expectError with
      | .unknown name => some (.unknownError name)
      | _ => none

end Step

end ContainerKernel
