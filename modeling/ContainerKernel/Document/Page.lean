import ContainerKernel.Document.Node

/-!
# The page that a document is written on

A page is the text written so far, with what the next piece of text depends on: the column, the
indentation, and the comments that are still to be written. Comments wait until their place
comes. A comment on the lines after something keeps its distance from what follows: an empty line
is put between them when the indentation is the same.
-/

namespace ContainerKernel.Document

/-- A page that is being written. -/
structure Page where
  /-- The step of indentation. -/
  step : Nat
  /-- The text, the last character first. -/
  written : List Char := []
  column : Nat := 0
  /-- Whether a blank or nothing stands before the column. -/
  afterBlank : Bool := true
  /-- Whether only indentation stands on the line. -/
  lineOpen : Bool := true
  /-- The indentation; minus one before the document. -/
  indent : Int := -1
  /-- The indentation at which a comment has just ended the lines before. -/
  footIndent : Option Nat := none
  /-- The depth of brackets. -/
  brackets : Nat := 0
  /-- The comments that wait. -/
  head : List Char := []
  behind : List Char := []
  foot : List Char := []
  /-- A comment on the lines after an entry, which is written before the next one. -/
  tail : List Char := []
  /-- A comment behind a key. -/
  behindKey : List Char := []
deriving Repr, Inhabited

namespace Page

/-- The indentation as a column. -/
def margin (page : Page) : Nat :=
  page.indent.toNat

/-- Write a character on the line. -/
def put (page : Page) (value : Char) : Page :=
  { page with written := value :: page.written, column := page.column + 1 }

/-- Write characters on the line. -/
def putAll (page : Page) (text : List Char) : Page :=
  { page with
    written := text.reverse ++ page.written, column := page.column + text.length }

/-- End the line with a character that ends lines. -/
def putLineEnd (page : Page) (value : Char) : Page :=
  { page with written := value :: page.written, column := 0, lineOpen := true }

/-- End the line. -/
def putBreak (page : Page) : Page :=
  page.putLineEnd '\n'

/-- Go to the indentation, on a new line unless this one is still open. -/
def putMargin (page : Page) : Page :=
  let margin := page.margin
  let page :=
    if !page.lineOpen || page.column > margin || (page.column = margin && !page.afterBlank) then
      page.putBreak
    else page
  let page := if page.footIndent = some margin then page.putBreak else page
  let page := page.putAll (List.replicate (margin - page.column) ' ')
  { page with afterBlank := true, footIndent := none }

/--
Write a sign: whether it needs a blank before it, whether it counts as a blank itself, and whether
a line with nothing else still counts as indentation.
-/
def putSign (page : Page) (sign : List Char) (needsBlank isBlank isMargin : Bool) : Page :=
  let page := if needsBlank && !page.afterBlank then page.put ' ' else page
  let page := page.putAll sign
  { page with afterBlank := isBlank, lineOpen := page.lineOpen && isMargin }

/-! ## Comments -/

/--
Write the lines of a comment: `atStart` tells whether a line of it begins, and `ended` whether its
last line is ended already.
-/
def putCommentLines (page : Page) : Bool → Bool → List Char → Page
  | _, ended, [] => if ended then page else page.putBreak
  | atStart, ended, value :: rest =>
    if isBreak value then (page.putLineEnd value).putCommentLines true true rest
    else
      let page := if ended then page.putMargin else page
      let page := if atStart && value ≠ '#' then page.putAll ['#', ' '] else page
      { page.put value with lineOpen := false }.putCommentLines false false rest

/-- Write a comment, and end its line. -/
def putComment (page : Page) (text : List Char) : Page :=
  { page.putCommentLines true false text with afterBlank := true }

/-- Write the comment after the entry before, if one waits. -/
def putTail (page : Page) : Page :=
  if page.tail.isEmpty then page
  else
    let written := page.putMargin.putComment page.tail
    { written with tail := [], footIndent := some page.margin }

/-- Write the comment on the lines before something, if one waits. -/
def putHead (page : Page) : Page :=
  let page := page.putTail
  if page.head.isEmpty then page
  else { page.putMargin.putComment page.head with head := [] }

/-- Write the comment behind something, if one waits. -/
def putBehind (page : Page) : Page :=
  if page.behind.isEmpty then page
  else
    let spaced := if page.afterBlank then page else page.put ' '
    { spaced.putComment page.behind with behind := [] }

/-- Write the comment on the lines after something, if one waits. -/
def putFoot (page : Page) : Page :=
  if page.foot.isEmpty then page
  else { page.putMargin.putComment page.foot with foot := [], footIndent := some page.margin }

/-- Whether a comment waits that has to follow a comma. -/
def commentFollows (page : Page) : Bool :=
  !(page.behind.isEmpty && page.foot.isEmpty && page.tail.isEmpty)

/-- Let comments wait; each takes the place of the one that waits for the same place. -/
def await (page : Page) (remarks : Remarks) (tail : List Char) : Page :=
  { page with
    head := if remarks.head.isEmpty then page.head else remarks.head
    behind := if remarks.behind.isEmpty then page.behind else remarks.behind
    foot := if remarks.foot.isEmpty then page.foot else remarks.foot
    tail := if tail.isEmpty then page.tail else tail }

/-! ## Indentation -/

/-- Indent further: by two in a member of a sequence, and otherwise to the next step. -/
def indented (page : Page) (inBrackets afterDash : Bool) : Page :=
  { page with
    indent :=
      if page.indent < 0 then (if inBrackets then page.step else 0)
      else if afterDash then page.indent + 2
      else page.step * ((page.indent + page.step) / page.step) }

end Page

end ContainerKernel.Document
