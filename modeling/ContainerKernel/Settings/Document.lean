import ContainerKernel.Document.Record
import ContainerKernel.Settings
import ContainerKernel.Text.Blank

/-!
# Settings in documents

A settings document gives some of the settings: how lists grow and how long they may become under
`list`, how long strings may become under `string`, and what faults do under `faults`. What it
gives is an overlay, which is laid over settings that are there already. Names are given with
blanks around them or without; a name of blanks only gives nothing.
-/

namespace ContainerKernel

/-- The settings that a document gives. -/
structure Overlay where
  growth : Bytes := []
  listLimit : Option Int := none
  stringLimit : Option Int := none
  policy : Bytes := []
  exitCode : Option Int := none
deriving DecidableEq, Repr, Inhabited

/-- Why a document gives no settings. -/
inductive SettingsError where
  | document (cause : Document.ReadError)
  | unknownGrowth (name : Bytes)
  | objection (cause : Objection)
deriving DecidableEq, Repr, Inhabited

/-- The text of a settings error. -/
def SettingsError.message : SettingsError → Bytes
  | document cause => cause.message
  | unknownGrowth name => unknownGrowthMessage name
  | objection cause => cause.message

/-- The breakdown that an error is, if it is one. -/
def SettingsError.breakdown? : SettingsError → Option Document.Breakdown
  | document cause => cause.breakdown?
  | _ => none

namespace Overlay

open Document.Decode in
/-- The fields under `list`. -/
def listFields : List (RecordField Overlay) :=
  [field "growth" text fun growth overlay => { overlay with growth },
    field "max_len" (optional "int" (word "int")) fun limit overlay =>
      { overlay with listLimit := some limit }]

open Document.Decode in
/-- The fields under `string`. -/
def stringFields : List (RecordField Overlay) :=
  [field "max_len" (optional "int" (word "int")) fun limit overlay =>
      { overlay with stringLimit := some limit }]

open Document.Decode in
/-- The fields under `faults`. -/
def faultFields : List (RecordField Overlay) :=
  [field "policy" text fun policy overlay => { overlay with policy },
    field "exit_code" (optional "int" (word "int")) fun code overlay =>
      { overlay with exitCode := some code }]

open Document.Decode in
/-- The fields of a settings document. -/
def fields : List (RecordField Overlay) :=
  [part "list" "config.listDisk" listFields, part "string" "config.stringDisk" stringFields,
    part "faults" "config.faultsDisk" faultFields]

/-- The overlay that a document gives. -/
def ofBytes (bytes : Bytes) : Except Document.ReadError Overlay :=
  Document.Decode.ofBytes (Document.Decode.record "config.configDisk" fields {}) {} bytes

/-- The growth policy after the overlay. -/
def growthOver (overlay : Overlay) (base : Growth) : Except SettingsError Growth :=
  let name := trim overlay.growth
  if name = [] then .ok base
  else
    match Growth.ofName? name with
    | some growth => .ok growth
    | none => .error (.unknownGrowth name)

/-- The fault policy after the overlay. -/
def policyOver (overlay : Overlay) (base : Policy) : Policy :=
  let name := trim overlay.policy
  if name = [] then base else Policy.ofName name

/-- Lay the overlay over settings. -/
def applyTo (overlay : Overlay) (base : Settings) : Except SettingsError Settings := do
  let growth ← overlay.growthOver base.growth
  return { base with
    growth
    listLimit := overlay.listLimit.getD base.listLimit
    stringLimit := overlay.stringLimit.getD base.stringLimit
    policy := overlay.policyOver base.policy
    exitCode := overlay.exitCode.getD base.exitCode }

end Overlay

namespace Settings

/-- The settings themselves, when there is no objection to them. -/
def checked (settings : Settings) : Except SettingsError Settings :=
  match settings.objection? with
  | some objection => .error (.objection objection)
  | none => .ok settings

/-- The settings that a document gives over a base. -/
def parseOver (bytes : Bytes) (base : Settings) : Except SettingsError Settings :=
  match Overlay.ofBytes bytes with
  | .error cause => .error (.document cause)
  | .ok overlay => do (← overlay.applyTo base).checked

/-- The settings that a document gives over the default ones. -/
def parse (bytes : Bytes) : Except SettingsError Settings :=
  parseOver bytes {}

end Settings

end ContainerKernel
