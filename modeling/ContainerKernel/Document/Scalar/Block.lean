import ContainerKernel.Document.Scalar.Fold

/-!
# Block scalars

A bar or an angle bracket announces a scalar that stands on the indented lines below. A literal
one keeps its line ends. A folded one joins lines that begin without a blank. The header may fix
the indentation, and says what happens to the line ends behind the last line: one is kept, all
are kept, or none.
-/

namespace ContainerKernel.Document.BlockScalar

/-- What happens to the line ends behind the last line. -/
inductive Chomping where
  | strip
  | clip
  | keep
deriving DecidableEq, Repr, Inhabited

/-- The chomping that a sign stands for. -/
def chomping? : Char → Option Chomping
  | '-' => some .strip
  | '+' => some .keep
  | _ => none

/-- The header of a block scalar: its chomping, and the further indentation if it is given. -/
structure Header where
  chomping : Chomping := .clip
  increment : Option Nat := none
deriving DecidableEq, Repr, Inhabited

/-- Read a digit of indentation, which may not be zero. -/
def readIncrement (cursor : Cursor) : Except Flaw (Option Nat × Cursor) :=
  match cursor.rest with
  | digit :: _ =>
    if digit.isDigit then
      if digit = '0' then .error .token else .ok (some (digit.toNat - 48), cursor.skip)
    else .ok (none, cursor)
  | [] => .ok (none, cursor)

/-- Read a sign of chomping. -/
def readChomping (cursor : Cursor) : Option Chomping × Cursor :=
  match cursor.rest.head?.bind chomping? with
  | some chomping => (some chomping, cursor.skip)
  | none => (none, cursor)

/-- Read the header after the announcing sign; the sign and the digit come in either order. -/
def readHeader (cursor : Cursor) : Except Flaw (Header × Cursor) := do
  match readChomping cursor with
  | (some chomping, after) =>
    let (increment, following) ← readIncrement after
    return ({ chomping, increment }, following)
  | (none, _) =>
    let (increment, after) ← readIncrement cursor
    match increment with
    | none => return ({}, after)
    | some _ =>
      let (chomping, following) := readChomping after
      return ({ chomping := chomping.getD .clip, increment }, following)

/-- What is known after passing over empty lines. -/
structure Margin where
  /-- The widest indentation of the lines. -/
  widest : Nat := 0
  breaks : List Char := []
  cursor : Cursor

/--
Pass over indentation and empty lines; without an indentation given, every space is indentation.
The first argument bounds the number of lines.
-/
def takeMargin (indent : Option Nat) : Nat → Margin → Except Flaw Margin
  | 0, margin => .ok margin
  | bound + 1, margin =>
    let start := margin.cursor.ask 1
    let room := match indent with
      | none => start.rest.length
      | some column => column - start.column
    let spaces := (start.rest.take room).takeWhile (· = ' ')
    let cursor := Cursor.skipMany spaces.length start
    let inside := match indent with
      | none => true
      | some column => cursor.column < column
    let widest := max margin.widest cursor.column
    if inside && cursor.rest.head? = some '\t' then .error .token
    else if startsWith isBreak cursor.rest then
      let (lineEnd, after) := cursor.takeBreak
      takeMargin indent bound { widest, breaks := margin.breaks ++ lineEnd, cursor := after }
    else .ok { margin with widest, cursor }

/-- What the text after a line of a block scalar depends on. -/
structure LineEnd where
  /-- The end of the last line, and the line ends after it. -/
  lastBreak : List Char := []
  moreBreaks : List Char := []
  /-- Whether the last line began with a blank. -/
  afterBlank : Bool := false

/--
What stands between the last line and the next: in a folded scalar a single line end between
lines without a leading blank is a space, and the first of several is dropped.
-/
def LineEnd.between (lineEnd : LineEnd) (folded startsBlank : Bool) : List Char :=
  if folded && !lineEnd.afterBlank && !startsBlank && lineEnd.lastBreak.head? = some '\n' then
    if lineEnd.moreBreaks.isEmpty then [' '] else lineEnd.moreBreaks
  else lineEnd.lastBreak ++ lineEnd.moreBreaks

/-- The line ends that stay behind the last line. -/
def LineEnd.tail (lineEnd : LineEnd) : Chomping → List Char
  | .strip => []
  | .clip => lineEnd.lastBreak
  | .keep => lineEnd.lastBreak ++ lineEnd.moreBreaks

/--
Read the lines at an indentation: their text, and the cursor behind them. The last argument bounds
their number.
-/
def readLines (folded : Bool) (chomping : Chomping) (indent : Nat) (lineEnd : LineEnd)
    (cursor : Cursor) : Nat → Except Flaw (List Char × Cursor)
  | 0 => .ok (lineEnd.tail chomping, cursor)
  | bound + 1 =>
    if cursor.column = indent && !cursor.rest.isEmpty then
      let startsBlank := startsWith isSpaceOrTab cursor.rest
      let (line, atEnd) := cursor.takeLine
      let (lastBreak, after) := atEnd.takeBreak
      match takeMargin (some indent) (bound + 1) { cursor := after } with
      | .error flaw => .error flaw
      | .ok margin =>
        (readLines folded chomping indent
          { lastBreak, moreBreaks := margin.breaks, afterBlank := startsBlank }
          margin.cursor bound).map fun (text, following) =>
            (lineEnd.between folded startsBlank ++ line ++ text, following)
    else .ok (lineEnd.tail chomping, cursor)

/--
Pass over the rest of the header's line, which may hold a comment and nothing else. The comment
is kept; it is empty where there is none.
-/
def endHeader (cursor : Cursor) : Except Flaw (List Char × Cursor) :=
  let after := cursor.skipWhile isSpaceOrTab
  let (comment, following) := if after.rest.head? = some '#' then after.takeLine else ([], after)
  if atLineEnd following.rest then .ok (comment, following.skipBreak) else .error .token

/-- What a block scalar is: its text, the comment behind its header, and the cursor behind it. -/
structure Reading where
  text : List Char
  comment : List Char
  after : Cursor

/--
Read a block scalar inside a collection of the given indentation, from the announcing sign on.
Without an indentation in the header, the widest of the empty lines and the first line tells it,
but it is at least one more than the collection's.
-/
def read (folded : Bool) (outer : Int) (cursor : Cursor) : Except Flaw Reading := do
  let (header, afterHeader) ← readHeader cursor.skip
  let (comment, first) ← endHeader afterHeader
  let given := header.increment.map fun increment => (max outer 0).toNat + increment
  let margin ← takeMargin given (first.rest.length + 1) { cursor := first }
  let indent := given.getD (max (max margin.widest (outer + 1).toNat) 1)
  let (text, after) ← readLines folded header.chomping indent { moreBreaks := margin.breaks }
    margin.cursor (first.rest.length + 1)
  return { text, comment, after }

end ContainerKernel.Document.BlockScalar
