import ContainerKernel.Document.Token

/-!
# Blanks between the words of a scalar

A scalar that goes on over several lines is folded: blanks at the end of a line and at the start
of the next are dropped, one line end between words becomes a space, and each further line end is
kept. A gap collects the blanks between two words of a scalar, and knows what it counts as once
another word follows.
-/

namespace ContainerKernel.Document

/-- The blanks since the last word of a scalar. -/
structure Gap where
  /-- The spaces and tabs, as long as no line has ended. -/
  blanks : List Char := []
  /-- The first line end; nothing before it, or when it does not count. -/
  firstBreak : List Char := []
  /-- The line ends after the first. -/
  moreBreaks : List Char := []
  /-- Whether a line has ended. -/
  broken : Bool := false
deriving DecidableEq, Repr, Inhabited

namespace Gap

/-- What line ends count as inside a folded text. -/
def foldedBreaks (firstBreak moreBreaks : List Char) : List Char :=
  if firstBreak.head? = some '\n' then
    if moreBreaks.isEmpty then [' '] else moreBreaks
  else firstBreak ++ moreBreaks

/-- What the gap counts as between two words. -/
def text (gap : Gap) : List Char :=
  if gap.broken then foldedBreaks gap.firstBreak gap.moreBreaks else gap.blanks

/--
Pass over blanks and line ends. Below the column `indent` a line may not begin with a tab. The
first argument bounds the number of characters.
-/
def take (indent : Nat) : Nat → Gap → Cursor → Except Flaw (Gap × Cursor)
  | 0, gap, cursor => .ok (gap, cursor)
  | bound + 1, gap, cursor =>
    match cursor.rest with
    | [] => .ok (gap, cursor)
    | value :: _ =>
      if isSpaceOrTab value then
        if gap.broken then
          if value = '\t' && cursor.column < indent then .error .token
          else take indent bound gap cursor.skip
        else take indent bound { gap with blanks := gap.blanks ++ [value] } cursor.skip
      else if isBreak value then
        let (lineEnd, after) := cursor.takeBreak
        if gap.broken then
          take indent bound { gap with moreBreaks := gap.moreBreaks ++ lineEnd } (after.ask 1)
        else
          take indent bound { gap with blanks := [], firstBreak := lineEnd, broken := true }
            (after.ask 1)
      else .ok (gap, cursor)

end Gap

end ContainerKernel.Document
