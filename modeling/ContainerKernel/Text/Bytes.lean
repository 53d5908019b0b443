/-!
# Bytes and their reading as UTF-8

Every text that the kernel stores, compares or prints is a list of bytes, because scenario
documents may carry bytes that are no UTF-8 at all. Where a rule speaks of characters (quoting,
trimming, log values) the bytes are first cut into *pieces*: a character when the bytes at that
place encode one, and otherwise a single stray byte. Cutting loses nothing: the pieces' bytes,
joined in order, are the bytes that were cut.
-/

namespace ContainerKernel

/-- A text as it is stored: its bytes in order. Lengths and indices count these. -/
abbrev Bytes := List UInt8

/-- The UTF-8 encoding of a list of characters. -/
def encodeChars (chars : List Char) : Bytes :=
  chars.flatMap String.utf8EncodeChar

/-- The UTF-8 encoding of a text that the program itself writes. -/
def utf8 (text : String) : Bytes :=
  encodeChars text.toList

/-- Whether a text comes no later than another in the order of bytes. -/
def inOrder : Bytes → Bytes → Bool
  | [], _ => true
  | _ :: _, [] => false
  | first :: firsts, second :: seconds =>
    first < second || (first = second && inOrder firsts seconds)

/-- One step of reading bytes as UTF-8: a character, or a byte that starts none. -/
inductive Piece where
  /-- A character and, with it, the one to four bytes that encode it. -/
  | char (value : Char)
  /-- A byte at a place where no encoded character starts. -/
  | stray (byte : UInt8)
deriving DecidableEq, Repr, Inhabited

namespace Piece

/-- The bytes that a piece stands for. -/
def bytes : Piece → Bytes
  | char value => String.utf8EncodeChar value
  | stray byte => [byte]

/-- Whether a byte continues an encoded character. -/
def continues (byte : UInt8) : Bool :=
  0x80 ≤ byte && byte ≤ 0xBF

/-- The character with the given number; the callers stay within the valid numbers. -/
def charOf (number : Nat) : Char :=
  Char.ofNat number

/--
The character encoded at the start of `lead :: rest`, with the number of bytes of `rest` that
belong to it. The second byte's range depends on the first, which is what keeps out overlong
forms, surrogates and numbers above the last character.
-/
def leading (lead : UInt8) (rest : Bytes) : Option (Char × Nat) :=
  if lead < 0x80 then
    some (charOf lead.toNat, 0)
  else if 0xC2 ≤ lead && lead ≤ 0xDF then
    match rest with
    | second :: _ =>
      if continues second then
        some (charOf ((lead.toNat - 0xC0) * 64 + (second.toNat - 0x80)), 1)
      else none
    | _ => none
  else if 0xE0 ≤ lead && lead ≤ 0xEF then
    match rest with
    | second :: third :: _ =>
      let lowest : UInt8 := if lead = 0xE0 then 0xA0 else 0x80
      let highest : UInt8 := if lead = 0xED then 0x9F else 0xBF
      if lowest ≤ second && second ≤ highest && continues third then
        some (charOf ((lead.toNat - 0xE0) * 4096 + (second.toNat - 0x80) * 64
          + (third.toNat - 0x80)), 2)
      else none
    | _ => none
  else if 0xF0 ≤ lead && lead ≤ 0xF4 then
    match rest with
    | second :: third :: fourth :: _ =>
      let lowest : UInt8 := if lead = 0xF0 then 0x90 else 0x80
      let highest : UInt8 := if lead = 0xF4 then 0x8F else 0xBF
      if lowest ≤ second && second ≤ highest && continues third && continues fourth then
        some (charOf ((lead.toNat - 0xF0) * 262144 + (second.toNat - 0x80) * 4096
          + (third.toNat - 0x80) * 64 + (fourth.toNat - 0x80)), 3)
      else none
    | _ => none
  else none

/-- Cut the bytes into pieces, after passing over `skipped` bytes already accounted for. -/
def cutAfter : Nat → Bytes → List Piece
  | _, [] => []
  | skipped + 1, _ :: rest => cutAfter skipped rest
  | 0, lead :: rest =>
    match leading lead rest with
    | some (value, width) => char value :: cutAfter width rest
    | none => stray lead :: cutAfter 0 rest

/-- Cut bytes into characters and stray bytes. -/
def cut (text : Bytes) : List Piece :=
  cutAfter 0 text

/-- The bytes of a list of pieces. -/
def join (pieces : List Piece) : Bytes :=
  pieces.flatMap bytes

end Piece

/-- Whether the bytes are UTF-8 throughout. -/
def isUtf8 (text : Bytes) : Bool :=
  (Piece.cut text).all fun piece =>
    match piece with
    | .char _ => true
    | .stray _ => false

/-- The characters of the bytes, when they are UTF-8 throughout. -/
def decodeChars? (text : Bytes) : Option (List Char) :=
  (Piece.cut text).mapM fun piece =>
    match piece with
    | .char value => some value
    | .stray _ => none

end ContainerKernel
