import ContainerKernel.Document.Page
import ContainerKernel.Document.Scalar.Written

/-!
# Scalars on a page

A scalar of one line is a sign like any other. One of several lines, between single quotes or as a
block, is written character by character, since each of its lines begins at the indentation, and
since a comment that waits for distance gets its empty line before the first of them.
-/

namespace ContainerKernel.Document.Page

/-- Write a character that does not end a line, at the indentation if a line begins. -/
def putContent (page : Page) (atLineStart : Bool) (value : Char) : Page :=
  let page := if atLineStart then page.putMargin else page
  { page.put value with lineOpen := false }

/--
Write a text between single quotes. A line end is written twice unless it follows another, and a
quote always.
-/
def putSingleQuoted (page : Page) : Bool → List Char → Page
  | _, [] => page
  | atLineStart, value :: rest =>
    if isBreak value then
      let page := if !atLineStart && value = '\n' then page.putBreak else page
      (page.putLineEnd value).putSingleQuoted true rest
    else if value = '\'' then
      ((page.putContent atLineStart value).putContent false value).putSingleQuoted false rest
    else (page.putContent atLineStart value).putSingleQuoted false rest

/-- Write the lines of a literal block. -/
def putLiteral (page : Page) : Bool → List Char → Page
  | _, [] => page
  | atLineStart, value :: rest =>
    if isBreak value then (page.putLineEnd value).putLiteral true rest
    else (page.putContent atLineStart value).putLiteral false rest

/--
Write the lines of a folded block. The end of a line without a leading blank is written twice,
unless the first line of the whole text begins with a blank.
-/
def putFolded (page : Page) (whole : List Char) : Bool → Bool → List Char → Page
  | _, _, [] => page
  | atLineStart, leadingBlank, value :: rest =>
    if isBreak value then
      let doubled := !atLineStart && !leadingBlank && value = '\n' &&
        !atBlank (whole.dropWhile isBreak)
      let page := if doubled then page.putBreak else page
      (page.putLineEnd value).putFolded whole true leadingBlank rest
    else
      (page.putContent atLineStart value).putFolded whole false
        (if atLineStart then isSpaceOrTab value else leadingBlank) rest

/-- Write the header of a block: its sign, its hints, and the comment behind them. -/
def putBlockHeader (page : Page) (sign : Char) (text : List Char) : Page :=
  let page := page.putSign [sign] true false false
  let page := page.putSign (WrittenScalar.blockHints page.step text) false false false
  { page.putBehind with afterBlank := true }

/-- Write a text in a style. -/
def putScalar (page : Page) (style : ScalarStyle) (text : List Char) : Page :=
  match style with
  | .plain =>
    if text.isEmpty then { page with lineOpen := false }
    else page.putSign text true false false
  | .singleQuoted =>
    ((page.putSign ['\''] true false false).putSingleQuoted false text).putSign ['\'']
      false false false
  | .doubleQuoted => page.putSign (WrittenScalar.doubleQuoted text) true false false
  | .literal => (page.putBlockHeader '|' text).putLiteral true text
  | .folded => (page.putBlockHeader '>' text).putFolded text true true text

end ContainerKernel.Document.Page
