import ContainerKernel.Scenario.Step

/-!
# What goes wrong in a step

A step goes wrong when it cannot be done, because of a name that no container has or a value that
means none, or when something other than expected comes of it.
-/

namespace ContainerKernel

/-- What goes wrong in a step. -/
inductive Mismatch where
  | unknownRef (name : Bytes)
  | byteValueLength (text : Bytes)
  | unknownOperation (name : Bytes)
  | unexpectedFailure (failure : Failure)
  | noFailure (expected : ErrorExpectation)
  | noExit (failure : Failure)
  | otherFailure (expected : ErrorExpectation) (failure : Failure)
  | value (got want : Option Value)
  /-- The expectation of the given field makes no sense for the operation. -/
  | unsupported (field : String) (operation : StepOperation)
  | number (got want : Int)
  | byte (got want : UInt8)
  | text (got want : Bytes)
  | stderr (got want : Bytes)
  /-- The text to compare could not be read back. -/
  | unreadable (failure : Failure)
deriving DecidableEq, Repr, Inhabited

/-- The text of a mismatch. -/
def Mismatch.message : Mismatch → Bytes
  | unknownRef name => utf8 "unknown ref " ++ quoted name
  | byteValueLength given => utf8 "byte value must be a single byte, got " ++ quoted given
  | unknownOperation name => utf8 "unknown op " ++ quoted name
  | unexpectedFailure failure => utf8 "unexpected error: " ++ failure.message
  | noFailure expected => utf8 "expected " ++ expected.name ++ utf8 " error, got none"
  | noExit failure => utf8 "expected exit, got " ++ failure.message
  | otherFailure expected failure =>
    utf8 "expected " ++ expected.name ++ utf8 " error, got " ++ failure.message
  | value got want =>
    utf8 "got " ++ Value.describe got ++ utf8 ", want " ++ Value.describe want
  | unsupported field operation =>
    utf8 field ++ utf8 " is not supported by " ++ operation.name
  | number got want => utf8 "got " ++ decimal got ++ utf8 ", want " ++ decimal want
  | byte got want => utf8 "got byte " ++ quotedByte got ++ utf8 ", want " ++ quotedByte want
  | text got want => utf8 "got text " ++ quoted got ++ utf8 ", want " ++ quoted want
  | stderr got want => utf8 "stderr = " ++ quoted got ++ utf8 ", want " ++ quoted want
  | unreadable failure => failure.message

/-- A step that went wrong: its number, what it does, and what went wrong. -/
structure StepFailure where
  index : Nat
  operation : StepOperation
  mismatch : Mismatch
deriving DecidableEq, Repr, Inhabited

/-- The text of a failure. -/
def StepFailure.message (failure : StepFailure) : Bytes :=
  utf8 "step " ++ naturalDecimal failure.index ++ utf8 " (" ++ failure.operation.name
    ++ utf8 "): " ++ failure.mismatch.message

end ContainerKernel
