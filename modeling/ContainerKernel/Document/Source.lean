import ContainerKernel.Text.Bytes

/-!
# The characters of a document

Settings and scenarios are written in YAML. The bytes of such a document are UTF-8, or UTF-16
when they begin with a byte order mark that says so. They are read in chunks of 512 bytes. A
chunk that holds bytes of no character, or a control character that documents may not hold,
cannot be read at all, and nothing after it either; whoever is content with the characters
before it never learns of it. That is why a source is the list of its readable chunks together
with the answer to the question whether that is all there is.
-/

namespace ContainerKernel.Document

/-- The text of a document as far as it can be read. -/
structure Source where
  /-- The characters of each chunk. -/
  chunks : List (List Char)
  /-- Whether the chunks are the whole text; otherwise what follows cannot be read. -/
  complete : Bool
deriving DecidableEq, Repr, Inhabited

/-- Whether a document may hold the character. -/
def isAllowed (value : Char) : Bool :=
  value = '\t' || value = '\n' || value = '\r' ||
    (0x20 ≤ value.toNat && value.toNat ≤ 0x7E) || value.toNat = 0x85 ||
    (0xA0 ≤ value.toNat && value.toNat ≤ 0xFFFD) || 0x10000 ≤ value.toNat

/-- How the bytes encode characters. -/
inductive Encoding where
  | utf8
  | utf16 (lowFirst : Bool)
deriving DecidableEq, Repr, Inhabited

/-- The result of reading one character. -/
inductive Reading where
  | char (value : Char) (rest : Bytes)
  /-- More bytes are needed to tell. -/
  | unfinished
  | invalid

namespace Encoding

/-- The number of bytes that a leading byte announces; no number for a byte that leads none. -/
def announcedWidth (lead : UInt8) : Option Nat :=
  if lead < 0x80 then some 1
  else if lead < 0xC0 then none
  else if lead < 0xE0 then some 2
  else if lead < 0xF0 then some 3
  else if lead < 0xF8 then some 4
  else none

/-- One character of UTF-8. -/
def readUtf8 (lead : UInt8) (rest : Bytes) : Reading :=
  match announcedWidth lead with
  | none => .invalid
  | some width =>
    if rest.length + 1 < width then .unfinished
    else
      match Piece.leading lead rest with
      | some (value, following) => .char value (rest.drop following)
      | none => .invalid

/-- The unit that two bytes of UTF-16 make. -/
def unit (lowFirst : Bool) (first second : UInt8) : Nat :=
  if lowFirst then first.toNat + 256 * second.toNat else 256 * first.toNat + second.toNat

/-- One character of UTF-16. -/
def readUtf16 (lowFirst : Bool) : Bytes → Reading
  | first :: second :: rest =>
    let high := unit lowFirst first second
    if 0xDC00 ≤ high && high ≤ 0xDFFF then .invalid
    else if 0xD800 ≤ high && high ≤ 0xDBFF then
      match rest with
      | third :: fourth :: following =>
        let low := unit lowFirst third fourth
        if 0xDC00 ≤ low && low ≤ 0xDFFF then
          .char (Char.ofNat (0x10000 + (high - 0xD800) * 1024 + (low - 0xDC00))) following
        else .invalid
      | _ => .unfinished
    else .char (Char.ofNat high) rest
  | _ => .unfinished

/-- One character of a text that is not empty. -/
def read (encoding : Encoding) (lead : UInt8) (rest : Bytes) : Reading :=
  match encoding with
  | utf8 => readUtf8 lead rest
  | utf16 lowFirst => readUtf16 lowFirst (lead :: rest)

/--
The characters of a chunk and the bytes left over at its end, or nothing when it cannot be read.
The first argument bounds the number of characters.
-/
def readChunk (encoding : Encoding) : Nat → Bytes → Option (List Char × Bytes)
  | 0, left => some ([], left)
  | _ + 1, [] => some ([], [])
  | bound + 1, lead :: rest =>
    match encoding.read lead rest with
    | .unfinished => some ([], lead :: rest)
    | .invalid => none
    | .char value following =>
      if isAllowed value then
        (encoding.readChunk bound following).map fun (chars, left) => (value :: chars, left)
      else none

/-- The encoding that the first bytes announce, and the bytes after the announcement. -/
def announced : Bytes → Encoding × Bytes
  | 0xFF :: 0xFE :: rest => (utf16 true, rest)
  | 0xFE :: 0xFF :: rest => (utf16 false, rest)
  | 0xEF :: 0xBB :: 0xBF :: rest => (utf8, rest)
  | bytes => (utf8, bytes)

end Encoding

namespace Source

/-- The number of bytes that are read at a time. -/
def chunkSize : Nat := 512

/--
Read the chunks after the first; `left` are the bytes left over before them. The first argument
bounds the number of chunks.
-/
def readChunks (encoding : Encoding) : Nat → Bytes → Bytes → Source
  | _, left, [] => ⟨[], left.isEmpty⟩
  | 0, _, _ :: _ => ⟨[], false⟩
  | bound + 1, left, bytes =>
    let size := chunkSize - left.length
    match encoding.readChunk chunkSize (left ++ bytes.take size) with
    | none => ⟨[], false⟩
    | some (chars, leftNow) =>
      let following := readChunks encoding bound leftNow (bytes.drop size)
      ⟨chars :: following.chunks, following.complete⟩

/-- The source that a list of bytes makes. -/
def ofBytes (bytes : Bytes) : Source :=
  let (encoding, first) := Encoding.announced (bytes.take chunkSize)
  match encoding.readChunk chunkSize first with
  | none => ⟨[], false⟩
  | some (chars, left) =>
    let following := readChunks encoding bytes.length left (bytes.drop chunkSize)
    ⟨chars :: following.chunks, following.complete⟩

/-- The readable characters of a source. -/
def chars (source : Source) : List Char :=
  source.chunks.flatten

end Source

end ContainerKernel.Document
