import ContainerKernel.Value

/-!
# Faults and failures

A *fault* is one misuse of a container: an index outside it, a length beyond its limit, or a
handle that names no container of the kind asked for. A *failure* is what a caller is told: a
fault, the signal that the program is to exit, or some other cause, perhaps wrapped in more text
or joined with a second cause. Two questions are asked of a failure, and both search the causes
depth first, the first of a pair before the second: of which class is it, and does it carry an
exit code?
-/

namespace ContainerKernel

/-- The classes of misuse. -/
inductive FaultClass where
  | index
  | allocation
  | handle
deriving DecidableEq, Repr, Inhabited

namespace FaultClass

/-- The name under which a class is counted and logged. -/
def label : FaultClass → Bytes
  | index => utf8 "index"
  | allocation => utf8 "allocation"
  | handle => utf8 "handle"

/-- The text of a class that stands for itself as a cause. -/
def message : FaultClass → Bytes
  | index => utf8 "index out of range"
  | allocation => utf8 "allocation failed"
  | handle => utf8 "unknown handle"

end FaultClass

/-- One misuse of a container. -/
inductive Fault where
  /-- The index lies outside a container of the given length. -/
  | index (container : Bytes) (index length : Int)
  /-- The requested length lies beyond the limit. -/
  | allocation (container : Bytes) (requested limit : Int)
  /-- The handle names no container of the kind. -/
  | handle (kind : Kind) (handle : Int)
deriving DecidableEq, Repr, Inhabited

namespace Fault

/-- The class of a fault. -/
def faultClass : Fault → FaultClass
  | index .. => .index
  | allocation .. => .allocation
  | handle .. => .handle

/-- The text of a fault. -/
def message : Fault → Bytes
  | index container position length =>
    container ++ utf8 " index " ++ decimal position ++ utf8 " out of bounds for length "
      ++ decimal length
  | allocation container requested limit =>
    container ++ utf8 " allocation of " ++ decimal requested ++ utf8 " elements exceeds limit "
      ++ decimal limit
  | handle kind number =>
    kind.name ++ utf8 " handle " ++ decimal number ++ utf8 " is not defined"

end Fault

/-- What a caller is told when an operation does not succeed. -/
inductive Failure where
  | fault (cause : Fault)
  /-- The program is to exit with the code. -/
  | exit (code : Int)
  /-- A class of misuse without its particulars. -/
  | sentinel (cause : FaultClass)
  | plain (text : Bytes)
  /-- A cause under a text that says what was being done. -/
  | wrapped (text : Bytes) (cause : Failure)
  /-- Two causes at once. -/
  | joined (first second : Failure)
deriving DecidableEq, Repr, Inhabited

namespace Failure

/-- The text of a failure. -/
def message : Failure → Bytes
  | fault cause => cause.message
  | exit code => utf8 "exit " ++ decimal code
  | sentinel cause => cause.message
  | plain text => text
  | wrapped text cause => text ++ utf8 ": " ++ cause.message
  | joined first second => first.message ++ utf8 ": " ++ second.message

/-- Whether a cause of the class is anywhere in the failure. -/
def isOf (wanted : FaultClass) : Failure → Bool
  | fault cause => cause.faultClass = wanted
  | sentinel cause => cause = wanted
  | exit _ => false
  | plain _ => false
  | wrapped _ cause => cause.isOf wanted
  | joined first second => first.isOf wanted || second.isOf wanted

/-- The exit code that the failure carries, the first in depth-first order. -/
def exitCode? : Failure → Option Int
  | exit code => some code
  | fault _ => none
  | sentinel _ => none
  | plain _ => none
  | wrapped _ cause => cause.exitCode?
  | joined first second => first.exitCode?.or second.exitCode?

/-- The fault that the failure carries, the first in depth-first order. -/
def fault? : Failure → Option Fault
  | fault cause => some cause
  | exit _ => none
  | sentinel _ => none
  | plain _ => none
  | wrapped _ cause => cause.fault?
  | joined first second => first.fault?.or second.fault?

end Failure

end ContainerKernel
