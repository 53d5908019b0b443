import ContainerKernel.Number.Decimal
import ContainerKernel.Text.Quoted

/-!
# Runtime values

The values that a kernel stores in lists: nil, a truth value, an integer, a byte, the handle of a
string or of a list, and an opaque handle of the host. Where a value may be missing altogether
the library writes `Option Value`, and `none` is different from the value nil.

Host handles are told apart by identity: two of them are equal when they are the same handle, not
when their types agree. A host handle may itself be missing; all missing ones are equal.
-/

namespace ContainerKernel

/-- The kinds of value, with room for codes that name none. -/
inductive Kind where
  | nil
  | bool
  | integer
  | byte
  | string
  | list
  | hostHandle
  | unknown (code : Int)
deriving DecidableEq, Repr, Inhabited

namespace Kind

/-- The kind with the given code. -/
def ofCode (code : Int) : Kind :=
  if code = 0 then nil
  else if code = 1 then bool
  else if code = 2 then integer
  else if code = 3 then byte
  else if code = 4 then string
  else if code = 5 then list
  else if code = 6 then hostHandle
  else unknown code

/-- The name of a kind in messages. -/
def name : Kind → Bytes
  | nil => utf8 "nil"
  | bool => utf8 "bool"
  | integer => utf8 "integer"
  | byte => utf8 "byte"
  | string => utf8 "String"
  | list => utf8 "List"
  | hostHandle => utf8 "host_handle"
  | unknown code => utf8 "unknown_kind_" ++ decimal code

end Kind

/-- An opaque handle of the host: its identity and the name of its type. -/
structure HostHandle where
  identity : Int
  type : Bytes
deriving DecidableEq, Repr, Inhabited

/-- A runtime value. -/
inductive Value where
  | nil
  | bool (value : Bool)
  | integer (value : Int)
  | byte (value : UInt8)
  | string (handle : Int)
  | list (handle : Int)
  | host (handle : Option HostHandle)
deriving DecidableEq, Repr, Inhabited

namespace Value

/-- The kind of a value. -/
def kind : Value → Kind
  | nil => .nil
  | bool _ => .bool
  | integer _ => .integer
  | byte _ => .byte
  | string _ => .string
  | list _ => .list
  | host _ => .hostHandle

/-- Equality of two values that are there. -/
def same : Value → Value → Bool
  | nil, nil => true
  | bool first, bool second => first = second
  | integer first, integer second => first = second
  | byte first, byte second => first = second
  | string first, string second => first = second
  | list first, list second => first = second
  | host first, host second =>
    first.map HostHandle.identity = second.map HostHandle.identity
  | _, _ => false

/-- Equality of values either of which may be missing. -/
def equal : Option Value → Option Value → Bool
  | none, none => true
  | some first, some second => same first second
  | _, _ => false

/-- The text that messages show for a value. -/
def text : Value → Bytes
  | nil => utf8 "nil"
  | bool true => utf8 "true"
  | bool false => utf8 "false"
  | integer value => decimal value
  | byte value => quotedByte value
  | string handle => utf8 "String#" ++ decimal handle
  | list handle => utf8 "List#" ++ decimal handle
  | host none => utf8 "host_handle(nil)"
  | host (some handle) => utf8 "host_handle(" ++ handle.type ++ utf8 ")"

/-- The text that messages show for a value that may be missing. -/
def describe : Option Value → Bytes
  | none => utf8 "<nil>"
  | some value => value.text

end Value

end ContainerKernel
