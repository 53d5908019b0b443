import ContainerKernel.Document.Token

/-!
# Finding comments

Comments stand between tokens. Lines of comment directly before a token are its head. Lines that
follow a token directly and are themselves followed by an empty line are its foot, and so are
lines that are indented less than what comes before them, and the last lines inside brackets. At
most 512 bytes of blanks and empty lines are looked through after each line of comment. Since
bytes are looked at, a line end of several bytes ends the search: what follows its first byte is
taken for content.
-/

namespace ContainerKernel.Document.CommentSearch

/-- What a search knows of the place where it begins. -/
structure Setting where
  /-- Whether the place is inside brackets. -/
  bracketed : Bool
  /-- The indentation of the collection around. -/
  indent : Nat
  /-- The line on which a comment has to begin to be the foot of what stands before. -/
  footLine : Option Nat
  /-- Whether the token before is the sign before a value. -/
  afterValueSign : Bool
deriving DecidableEq, Repr, Inhabited

/-- How far a search has come. -/
structure Progress where
  cursor : Cursor
  /-- The comments found so far. -/
  found : List Comment
  /-- Where the search for the next comment began. -/
  searchIndex : Nat
  /-- The index of the token that a foot would belong to. -/
  target : Nat
  /-- The lines of comment that belong to no comment yet, the last character first. -/
  lines : List Char := []
  /-- Where these lines start. -/
  start : Mark := {}
  line : Nat
  column : Nat
  /-- Whether the line before was empty. -/
  recentEmpty : Bool := false
  /-- Whether no empty line has been seen. -/
  noneEmpty : Bool

namespace Progress

/-- The index of what is `ahead` places after the cursor. -/
def indexAhead (progress : Progress) (ahead : Nat) : Nat :=
  progress.cursor.mark.index + ahead

/-- Whether the lines of comment are indented less than the collection around. -/
def dedented (progress : Progress) (setting : Setting) : Bool :=
  progress.start.column < setting.indent + 1

/-- Make the lines of comment the foot of the token at an index. -/
def addFoot (progress : Progress) (ahead target : Nat) : Progress :=
  let here := progress.indexAhead ahead
  { progress with
    found := progress.found ++
      [{ side := .foot
         text := progress.lines.reverse
         target
         searchIndex := progress.searchIndex
         start := progress.start
         endIndex := here }]
    searchIndex := here
    target := here
    lines := [] }

/--
What the end of a line or a closing bracket makes of the lines of comment: they may turn out to
be the foot of the token before; otherwise the text goes on with a line end.
-/
def endLine (progress : Progress) (setting : Setting) (closing ended : Bool) (ahead : Nat) :
    Progress :=
  if !closing && progress.recentEmpty then progress
  else
    let isFoot := closing || (progress.noneEmpty &&
      ((some progress.start.line = setting.footLine && !setting.afterValueSign) ||
        progress.dedented setting))
    if progress.lines.isEmpty then progress
    else if isFoot then
      progress.addFoot ahead
        (if progress.dedented setting then progress.start.index else progress.target)
    else if ended then progress
    else { progress with lines := '\n' :: progress.lines }

/-- Lines of comment that stand in another column than the next are a foot, when dedented. -/
def splitAtColumn (progress : Progress) (setting : Setting) (ahead : Nat) : Progress :=
  if !progress.lines.isEmpty && progress.column < setting.indent + 1 &&
      progress.column ≠ progress.start.column then
    progress.addFoot ahead progress.target
  else progress

/-- Read the comment whose sign is `ahead` places after the cursor. -/
def readComment (progress : Progress) (ahead : Nat) : Progress :=
  let index := progress.indexAhead ahead
  let (line, cursor) := (Cursor.skipTo index ahead progress.cursor).takeLine
  { progress with
    cursor
    lines := line.reverse ++ (if progress.lines.isEmpty then [] else '\n' :: progress.lines)
    start := if progress.lines.isEmpty then ⟨index, progress.line, progress.column⟩
      else progress.start
    line := cursor.mark.line
    column := 0
    recentEmpty := false }

/-- The comments when the search has ended: lines still without a token are the next one's head. -/
def finish (progress : Progress) (ahead : Nat) : List Comment × Cursor :=
  if progress.lines.isEmpty then (progress.found, progress.cursor)
  else
    (progress.found ++
      [{ side := .head
         text := progress.lines.reverse
         target := progress.start.index
         searchIndex := progress.searchIndex
         start := progress.start
         endIndex := progress.indexAhead ahead - 1 }], progress.cursor)

end Progress

/-- The number of places that are looked through after a line of comment. -/
def reach : Nat := 512

/--
The places that a search looks at. A character has as many places as bytes, and only the first of
them shows it.
-/
def places (chars : List Char) : List (Option Char) :=
  (chars.take reach).flatMap fun value => some value :: List.replicate (value.utf8Size - 1) none

/--
Search on, `ahead` places after the cursor, where the places `here` follow. The first argument
bounds their number.
-/
def search (setting : Setting) : Nat → Nat → List (Option Char) → Progress →
    List Comment × Cursor
  | 0, ahead, _, progress => progress.finish ahead
  | bound + 1, ahead, here, progress =>
    if ahead ≥ reach then progress.finish ahead
    else
      let progress := { progress with
        cursor := progress.cursor.ask (ahead + 1), column := progress.column + 1 }
      match here with
      | [] => (progress.endLine setting false true ahead).finish ahead
      | none :: _ => (progress.splitAtColumn setting ahead).finish ahead
      | some value :: rest =>
        if isSpaceOrTab value then search setting bound (ahead + 1) rest progress
        else if isBreak value then
          let ended := progress.endLine setting false false ahead
          search setting bound (ahead + 1) rest
            { ended with
              noneEmpty := false, recentEmpty := true, column := 0, line := ended.line + 1 }
        else if setting.bracketed && (value = ']' || value = '\x7d') then
          (progress.endLine setting true false ahead).finish ahead
        else
          let progress := progress.splitAtColumn setting ahead
          if value = '#' then
            let progress := progress.readComment ahead
            search setting bound 1 ((places progress.cursor.rest).drop 1) progress
          else progress.finish ahead

/--
The line on which a comment has to begin to be a foot: the one after the text before it. A search
that began on the first line finds none.
-/
def footLine (searchStart : Mark) (cursor : Cursor) : Option Nat :=
  if searchStart.line = 0 then none
  else
    let line := cursor.mark.line + 1 - cursor.newlines
    some (if cursor.newlines = 0 && cursor.column > 1 then line + 1 else line)

/--
The comments from a comment sign on, added to those found before, and the cursor behind them. The
search for the next token began at `searchStart`, and `before` is the token before it.
-/
def run (bracketed : Bool) (indent : Int) (searchStart : Mark) (before : Option Token)
    (found : List Comment) (cursor : Cursor) : List Comment × Cursor :=
  search
    { bracketed
      indent := indent.toNat
      footLine := footLine searchStart cursor
      afterValueSign := before.map (·.kind) = some .value }
    (4 * cursor.rest.length + 2) 0 (places cursor.rest)
    { cursor
      found
      searchIndex := searchStart.index
      target := (before.map (·.start.index)).getD 0
      line := cursor.mark.line
      column := cursor.column
      noneEmpty := cursor.newlines ≤ 1 }

/-- The comment behind a token on its line, which belongs to the token at the index `target`. -/
def behind (target : Nat) (found : List Comment) (cursor : Cursor) : List Comment × Cursor :=
  if cursor.newlines > 0 then (found, cursor)
  else
    let (blanks, after) := cursor.takeWhile isSpaceOrTab
    if blanks.length < reach && after.rest.head? = some '#' then
      let (text, following) := after.takeLine
      (found ++ [{ side := .line, text, target, start := after.mark }], following)
    else (found, cursor.ask (min reach (blanks.length + 1)))

end ContainerKernel.Document.CommentSearch
