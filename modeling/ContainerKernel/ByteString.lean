import ContainerKernel.Fault
import ContainerKernel.Number.Word

/-!
# Byte strings

An immutable string of bytes. Buffers that come from outside end at their first NUL byte; a
string made from bytes as they are may hold NUL bytes. Joining two strings makes a third and
leaves the two as they were; a join that would be longer than the longest string is refused.
-/

namespace ContainerKernel

/-- The bytes before the first NUL byte. -/
def terminated (buffer : Bytes) : Bytes :=
  buffer.takeWhile (· ≠ 0)

/-- An immutable string of bytes. -/
structure ByteString where
  bytes : Bytes := []
deriving DecidableEq, Repr, Inhabited

namespace ByteString

/-- The string that a buffer holds up to its first NUL byte. -/
def ofTerminated (buffer : Bytes) : ByteString :=
  ⟨terminated buffer⟩

/-- The number of bytes. -/
def length (text : ByteString) : Nat :=
  text.bytes.length

/-- The byte at an index, or the fault that the index lies outside the string. -/
def byteAt (text : ByteString) (index : Int) : Except Fault UInt8 :=
  if index < 0 then .error (.index (utf8 "string") index text.length)
  else
    match text.bytes[index.toNat]? with
    | some byte => .ok byte
    | none => .error (.index (utf8 "string") index text.length)

/-- The length of the longest string that joining makes. -/
def maxLength : Int :=
  Word.largest - 1

/--
The string that holds the bytes of a string and then those of a suffix, or the fault that it
would be too long. The length asked for stops at the largest word, the limit is below it.
-/
def extend (text : ByteString) (suffix : Bytes) : Except Fault ByteString :=
  if (suffix.length : Int) > maxLength - text.length then
    .error (.allocation (utf8 "string") (Word.saturatingAdd text.length suffix.length) maxLength)
  else .ok ⟨text.bytes ++ suffix⟩

/-- The string that holds the bytes of the first and then those of the second. -/
def append (first second : ByteString) : Except Fault ByteString :=
  first.extend second.bytes

/-- The string that holds the bytes of a string and then those of a buffer up to its NUL byte. -/
def appendTerminated (text : ByteString) (buffer : Bytes) : Except Fault ByteString :=
  text.extend (terminated buffer)

end ByteString

end ContainerKernel
