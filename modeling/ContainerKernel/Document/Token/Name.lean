import ContainerKernel.Document.Scalar.Quoted
import ContainerKernel.Document.Tag

/-!
# Anchors, tags and directives

The tokens that name things: an anchor or an alias, the tag of a node, and the directives before
a document that give the version or abbreviate tags. A tag is a handle and a suffix. The suffix
is a text of bytes, since a percent sign and two digits may write any byte of it.
-/

namespace ContainerKernel.Document.NameToken

/-- Whether an anchor's name may end here. -/
def nameMayEnd (here : List Char) : Bool :=
  atBlank here || startsWith (fun value => value = '?' || value = ':' || value = ',' ||
    value = ']' || value = '\x7d' || value = '%' || value = '@' || value = Char.ofNat 0x60) here

/-- Read the name after the sign of an anchor or an alias. -/
def readName (cursor : Cursor) : Except Flaw (List Char × Cursor) :=
  let (name, after) := cursor.skip.takeWhile isNameChar
  if name.isEmpty || !nameMayEnd after.rest then .error .token else .ok (name, after)

/-- Whether the character may stand in a tag as it is, the percent sign apart. -/
def isTagChar (value : Char) : Bool :=
  isNameChar value || value = ';' || value = '/' || value = '?' || value = ':' || value = '@' ||
    value = '&' || value = '=' || value = '+' || value = '$' || value = ',' || value = '.' ||
    value = '!' || value = '~' || value = '*' || value = '\'' || value = '(' || value = ')' ||
    value = '[' || value = ']'

/-- Read a byte that is written by a percent sign and two digits. -/
def readByte (cursor : Cursor) : Except Flaw (UInt8 × Cursor) :=
  let cursor := cursor.ask 3
  match cursor.rest with
  | '%' :: high :: low :: _ =>
    match QuotedScalar.hexNumber? [high, low] with
    | some number => .ok (UInt8.ofNat number, Cursor.skipMany 3 cursor)
    | none => .error .token
  | _ => .error .token

/-- Read some bytes that continue a character. -/
def readContinuing : Nat → Cursor → Except Flaw (Bytes × Cursor)
  | 0, cursor => .ok ([], cursor)
  | count + 1, cursor => do
    let (byte, after) ← readByte cursor
    if Piece.continues byte then
      let (rest, last) ← readContinuing count after
      return (byte :: rest, last)
    else throw .token

/--
Read the bytes of one character, each written by a percent sign and two digits. The first one says
how many they are.
-/
def readEscaped (cursor : Cursor) : Except Flaw (Bytes × Cursor) := do
  let (lead, after) ← readByte cursor
  match Encoding.announcedWidth lead with
  | none => throw .token
  | some width =>
    let (rest, last) ← readContinuing (width - 1) after
    return (lead :: rest, last)

/-- Read the characters of a tag. The first argument bounds their number. -/
def readTagChars : Nat → Bytes → Cursor → Except Flaw (Bytes × Cursor)
  | 0, text, cursor => .ok (text, cursor)
  | bound + 1, text, cursor =>
    match cursor.rest with
    | [] => .ok (text, cursor)
    | value :: _ =>
      if value = '%' then
        match readEscaped cursor with
        | .error flaw => .error flaw
        | .ok (bytes, after) => readTagChars bound (text ++ bytes) after
      else if isTagChar value then
        readTagChars bound (text ++ String.utf8EncodeChar value) cursor.skip
      else .ok (text, cursor)

/-- Read the characters of a tag, of which there must be some. -/
def readSuffix (cursor : Cursor) : Except Flaw (Bytes × Cursor) := do
  let (text, after) ← readTagChars cursor.rest.length [] cursor
  if text.isEmpty then throw .token else return (text, after)

/-- Read a handle: an exclamation mark, a name, and perhaps another exclamation mark. -/
def readHandle (cursor : Cursor) : Except Flaw (List Char × Cursor) :=
  if cursor.rest.head? = some '!' then
    let (name, after) := cursor.skip.takeWhile isNameChar
    if after.rest.head? = some '!' then .ok ('!' :: name ++ ['!'], after.skip)
    else .ok ('!' :: name, after)
  else .error .token

/-- Read the parts of a tag. -/
def readTagParts (cursor : Cursor) : Except Flaw (List Char × Bytes × Cursor) := do
  if (cursor.rest.drop 1).head? = some '<' then
    let (suffix, after) ← readSuffix cursor.skip.skip
    if after.rest.head? = some '>' then return ([], suffix, after.skip) else throw .token
  else
    let (handle, afterHandle) ← readHandle cursor
    if handle.length > 1 && handle.getLast? = some '!' then
      let (suffix, after) ← readSuffix afterHandle
      return (handle, suffix, after)
    else
      let (suffix, after) ←
        readTagChars afterHandle.rest.length (encodeChars (handle.drop 1)) afterHandle
      if suffix.isEmpty then return ([], Tag.lone, after) else return (['!'], suffix, after)

/-- Read a tag: its handle and its suffix. -/
def readTag (cursor : Cursor) : Except Flaw (List Char × Bytes × Cursor) := do
  let (handle, suffix, after) ← readTagParts cursor
  if atBlank after.rest then return (handle, suffix, after) else throw .token

/-- Read a number of a version, which has two digits at most. -/
def readVersionNumber (cursor : Cursor) : Except Flaw (Nat × Cursor) :=
  let (digits, after) := cursor.takeWhile Char.isDigit
  if digits.isEmpty || digits.length > 2 then .error .token
  else .ok (digits.foldl (fun number digit => number * 10 + (digit.toNat - 48)) 0, after)

/-- Read what follows the name of a version directive. -/
def readVersion (cursor : Cursor) : Except Flaw (TokenKind × Cursor) := do
  let (major, afterMajor) ← readVersionNumber (cursor.skipWhile isSpaceOrTab)
  if afterMajor.rest.head? = some '.' then
    let (minor, after) ← readVersionNumber afterMajor.skip
    return (.versionDirective major minor, after)
  else throw .token

/-- Read what follows the name of a tag directive. -/
def readTagDirective (cursor : Cursor) : Except Flaw (TokenKind × Cursor) := do
  let (handle, afterHandle) ← readHandle (cursor.skipWhile isSpaceOrTab)
  if (handle ≠ ['!'] && handle.getLast? ≠ some '!') ||
      !startsWith isSpaceOrTab afterHandle.rest then
    throw .token
  else
    let (start, after) ← readSuffix (afterHandle.skipWhile isSpaceOrTab)
    if atBlank after.rest then return (.tagDirective handle start, after) else throw .token

/-- Read a directive from its sign on, with the rest of its line. -/
def readDirective (cursor : Cursor) : Except Flaw (TokenKind × Cursor) := do
  let (name, afterName) := cursor.skip.takeWhile isNameChar
  if name.isEmpty || !atBlank afterName.rest then throw .token
  else
    let (kind, after) ←
      if name = "YAML".toList then readVersion afterName
      else if name = "TAG".toList then readTagDirective afterName
      else throw .token
    let blank := after.skipWhile isSpaceOrTab
    let following := if blank.rest.head? = some '#' then blank.takeLine.2 else blank
    if atLineEnd following.rest then return (kind, following.skipBreak) else throw .token

end ContainerKernel.Document.NameToken
