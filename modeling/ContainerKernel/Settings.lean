import ContainerKernel.Growth

/-!
# Kernel settings

How lists grow, how long lists and strings may become, and what a fault does: end the program
with an exit code, or be returned to the caller. Settings can be built with any values; the ones
that a kernel can honour are those without an objection.
-/

namespace ContainerKernel

/-- What happens on a fault: the two policies that have names, and names of none. -/
inductive Policy where
  /-- Print a diagnostic and end the program. -/
  | abort
  /-- Return the fault to the caller. -/
  | error
  | unknown (name : Bytes)
deriving DecidableEq, Repr, Inhabited

namespace Policy

/-- The policy of a name. -/
def ofName (name : Bytes) : Policy :=
  if name = utf8 "abort" then abort
  else if name = utf8 "error" then error
  else unknown name

/-- The name of a policy. -/
def name : Policy → Bytes
  | abort => utf8 "abort"
  | error => utf8 "error"
  | unknown name => name

end Policy

/-- The settings of a kernel. -/
structure Settings where
  /-- The file that the settings were read from, or nothing. -/
  path : Bytes := []
  growth : Growth := .doubling
  /-- The limit on the length of a list; zero and negative numbers mean none. -/
  listLimit : Int := 0
  /-- The limit on the length of a string; zero and negative numbers mean none. -/
  stringLimit : Int := 0
  policy : Policy := .abort
  /-- The exit code of a program that a fault ends. -/
  exitCode : Int := 1
deriving DecidableEq, Repr, Inhabited

/-- Why settings cannot be honoured. -/
inductive Objection where
  | unknownPolicy (name : Bytes)
  | negativeListLimit (limit : Int)
  | negativeStringLimit (limit : Int)
  | exitCodeRange (code : Int)
deriving DecidableEq, Repr, Inhabited

/-- The text of an objection. -/
def Objection.message : Objection → Bytes
  | unknownPolicy name => utf8 "unknown fault policy " ++ quoted name
  | negativeListLimit limit => utf8 "list max_len must be non-negative, got " ++ decimal limit
  | negativeStringLimit limit => utf8 "string max_len must be non-negative, got " ++ decimal limit
  | exitCodeRange code => utf8 "fault exit_code must be within 1..255, got " ++ decimal code

namespace Settings

/-- The first objection to the settings: policy, limits, and the exit code when it would be used. -/
def objection? (settings : Settings) : Option Objection :=
  match settings.policy with
  | .unknown name => some (.unknownPolicy name)
  | policy =>
    if settings.listLimit < 0 then some (.negativeListLimit settings.listLimit)
    else if settings.stringLimit < 0 then some (.negativeStringLimit settings.stringLimit)
    else if policy = .abort ∧ (settings.exitCode < 1 ∨ settings.exitCode > 255) then
      some (.exitCodeRange settings.exitCode)
    else none

/-- The settings that a kernel works with: no policy means abort, and no exit code means one. -/
def effective (settings : Settings) : Settings :=
  let policy := if settings.policy = .unknown [] then .abort else settings.policy
  let exitCode := if policy = .abort ∧ settings.exitCode = 0 then 1 else settings.exitCode
  { settings with policy, exitCode }

end Settings

end ContainerKernel
