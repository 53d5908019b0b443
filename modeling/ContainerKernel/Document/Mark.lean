import ContainerKernel.Document.Source

/-!
# Places in a document

A mark is a place: how many characters come before it, its line and its column, all counted from
zero. A cursor is a mark together with the characters that follow it, and with the number of line
ends since the last character that was not blank. The functions here move a cursor; what they
pass over, the caller may keep.

A document is seen through a window. The window begins where the cursor stood when characters
beyond its end were last asked for, and it ends with the chunk that held them. Whether a byte
order mark stands at the start of the window matters to the search for tokens, so that a cursor
also knows its window. What cannot be read does no harm until it is asked for; from then on the
window is spoilt.
-/

namespace ContainerKernel.Document

/-- A place in a document. -/
structure Mark where
  index : Nat := 0
  line : Nat := 0
  column : Nat := 0
deriving DecidableEq, Repr, Inhabited

/-- Whether the character is a space or a tab. -/
def isSpaceOrTab (value : Char) : Bool :=
  value = ' ' || value = '\t'

/-- Whether the character ends a line. -/
def isBreak (value : Char) : Bool :=
  value = '\n' || value = '\r' || value.toNat = 0x85 || value.toNat = 0x2028 ||
    value.toNat = 0x2029

/-- Whether the character may stand in the name of an anchor or a tag handle. -/
def isNameChar (value : Char) : Bool :=
  value.isAlphanum || value = '_' || value = '-'

/-- Whether a line ends here, or the document. -/
def atLineEnd : List Char → Bool
  | [] => true
  | value :: _ => isBreak value

/-- Whether a blank stands here, or the line ends. -/
def atBlank : List Char → Bool
  | [] => true
  | value :: _ => isSpaceOrTab value || isBreak value

/-- Whether the first character satisfies a condition. -/
def startsWith (condition : Char → Bool) : List Char → Bool
  | [] => false
  | value :: _ => condition value

/-- Whether a marker of the start or the end of a document stands here. -/
def atDocumentMarker : List Char → Bool
  | '-' :: '-' :: '-' :: rest => atBlank rest
  | '.' :: '.' :: '.' :: rest => atBlank rest
  | _ => false

/-- The byte order mark. -/
def orderMark : Char :=
  Char.ofNat 0xFEFF

/-- The part of a document that is being looked at. -/
structure Window where
  /-- Whether a byte order mark stands at its start. -/
  marked : Bool := false
  /-- The index of its end. -/
  stop : Nat := 0
  /-- The lengths of the chunks behind it. -/
  later : List Nat := []
  /-- Whether the chunks are the whole document; otherwise what follows cannot be read. -/
  complete : Bool := true
  /-- Whether something was asked for that cannot be read. -/
  spoilt : Bool := false
deriving DecidableEq, Repr, Inhabited

namespace Window

/--
The end of a window that has to reach an index, and the lengths of the chunks behind it; nothing
when the index is behind all chunks.
-/
def reach? (wanted : Nat) : Nat → List Nat → Option (Nat × List Nat)
  | _, [] => none
  | stop, size :: later =>
    if wanted ≤ stop + size then some (stop + size, later) else reach? wanted (stop + size) later

/--
The window that begins at a place and has to reach an index, whether a byte order mark stands at
the place or not. The end of the document counts as one more character each time it is asked for,
unless something that cannot be read stands there.
-/
def extend (window : Window) (wanted : Nat) (marked : Bool) : Window :=
  match reach? wanted window.stop window.later with
  | some (stop, later) => { window with marked, stop, later }
  | none =>
    { window with
      marked
      stop := window.later.foldl Nat.add window.stop + 1
      later := []
      spoilt := window.spoilt || !window.complete }

/-- The first window on a source. -/
def ofSource (source : Source) : Window :=
  { marked := source.chars.head? = some orderMark
    stop := (source.chunks.headD []).length
    later := source.chunks.tail.map List.length
    complete := source.complete }

end Window

/-- A place in a document with what follows it. -/
structure Cursor where
  rest : List Char
  mark : Mark := {}
  /-- The line ends since the last character that was not blank. -/
  newlines : Nat := 0
  window : Window := {}
deriving DecidableEq, Repr, Inhabited

namespace Cursor

/-- The cursor at the start of a source. -/
def ofSource (source : Source) : Cursor :=
  { rest := source.chars, window := Window.ofSource source }

/--
Ask for some characters after the cursor. When the window does not hold them, a new one begins at
the cursor.
-/
def ask (count : Nat) (cursor : Cursor) : Cursor :=
  let wanted := cursor.mark.index + count
  let window := cursor.window
  if wanted ≤ window.stop then cursor
  else
    { cursor with
      window := window.extend wanted
        (cursor.mark.index ≤ window.stop && cursor.rest.head? = some orderMark) }

/-- The number of characters that tell a marker of a document. -/
def markerAhead : Nat := 4

/-- The column of the cursor. -/
def column (cursor : Cursor) : Nat :=
  cursor.mark.column

/-- Pass over one character that does not end a line. -/
def skip (cursor : Cursor) : Cursor :=
  match cursor.rest with
  | [] => cursor
  | value :: rest =>
    ask 1
      { cursor with
        rest
        mark := { cursor.mark with
          index := cursor.mark.index + 1, column := cursor.mark.column + 1 }
        newlines := if isSpaceOrTab value then cursor.newlines else 0 }

/-- Pass over some characters that do not end a line. -/
def skipMany : Nat → Cursor → Cursor
  | 0, cursor => cursor
  | count + 1, cursor => skipMany count cursor.skip

/--
Pass over the longest run at each place of which `goesOn` holds, and keep the run. The condition
sees the characters from its place on, those of the list, which are the ones after the cursor.
After each character of the run, `ahead` characters are asked for.
-/
def runFrom (ahead : Nat) (goesOn : List Char → Bool) : List Char → Cursor → List Char × Cursor
  | [], cursor => ([], cursor)
  | value :: rest, cursor =>
    if goesOn (value :: rest) then
      let (run, after) := runFrom ahead goesOn rest (cursor.skip.ask ahead)
      (value :: run, after)
    else ([], cursor)

/--
Pass over the longest run at each place of which a condition holds, and keep the run. At each
place, `ahead` characters are asked for.
-/
def takeRun (cursor : Cursor) (ahead : Nat) (goesOn : List Char → Bool) : List Char × Cursor :=
  runFrom ahead goesOn cursor.rest (cursor.ask ahead)

/-- Pass over the longest run of characters that satisfy a condition, and keep the run. -/
def takeWhile (cursor : Cursor) (condition : Char → Bool) : List Char × Cursor :=
  cursor.takeRun 1 (startsWith condition)

/-- Pass over the longest run of characters that satisfy a condition. -/
def skipWhile (cursor : Cursor) (condition : Char → Bool) : Cursor :=
  (cursor.takeWhile condition).2

/-- Pass over the rest of the line, and keep it. -/
def takeLine (cursor : Cursor) : List Char × Cursor :=
  cursor.takeRun 1 fun here => !atLineEnd here

/-- The cursor on the next line, when `width` characters end this one. -/
def nextLine (cursor : Cursor) (width : Nat) (rest : List Char) : Cursor :=
  { cursor.ask 2 with
    rest
    mark := ⟨cursor.mark.index + width, cursor.mark.line + 1, 0⟩
    newlines := cursor.newlines + 1 }

/--
Pass over a line end, and keep what it counts as in a text: the line and paragraph separators
count as themselves, every other line end as a line feed. Nothing happens where no line ends.
-/
def takeBreak (cursor : Cursor) : List Char × Cursor :=
  match cursor.rest with
  | '\r' :: '\n' :: rest => (['\n'], cursor.nextLine 2 rest)
  | value :: rest =>
    if value.toNat = 0x2028 || value.toNat = 0x2029 then ([value], cursor.nextLine 1 rest)
    else if isBreak value then (['\n'], cursor.nextLine 1 rest)
    else ([], cursor)
  | [] => ([], cursor)

/-- Pass over a line end. -/
def skipBreak (cursor : Cursor) : Cursor :=
  cursor.takeBreak.2

/-- Pass over characters and line ends until an index; the first argument bounds their number. -/
def skipTo (index : Nat) : Nat → Cursor → Cursor
  | 0, cursor => cursor
  | bound + 1, cursor =>
    if cursor.mark.index ≥ index then cursor
    else if startsWith isBreak cursor.rest then skipTo index bound cursor.skipBreak
    else skipTo index bound cursor.skip

end Cursor

end ContainerKernel.Document
