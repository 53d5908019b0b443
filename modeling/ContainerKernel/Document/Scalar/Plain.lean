import ContainerKernel.Document.Scalar.Fold

/-!
# Plain scalars

A scalar without quotes goes on until something that cannot belong to it: a colon before a blank,
a comment, a line that is indented less than the scalar, a document marker, and inside brackets
also the punctuation of brackets. Its lines are folded.
-/

namespace ContainerKernel.Document.PlainScalar

/-- Whether the character ends a plain scalar inside brackets. -/
def isBracketPunctuation (value : Char) : Bool :=
  value = ',' || value = '?' || value = '[' || value = ']' || value = '\x7b' || value = '\x7d'

/-- Whether a plain scalar goes on at this place of a line. -/
def goesOn (bracketed : Bool) : List Char → Bool
  | [] => false
  | value :: rest =>
    !(isSpaceOrTab value || isBreak value) && !(value = ':' && atBlank rest) &&
      !(bracketed && isBracketPunctuation value)

/-- What a plain scalar is: its text, whether it ends at the start of a line, and the cursor after
the blanks that follow it. -/
structure Reading where
  text : List Char
  atLineStart : Bool
  after : Cursor

/--
Read on, line by line, with the column that the scalar's lines have to reach and the blanks since
its last word. The first argument bounds the number of characters, and the last one that of words.
-/
def readLines (size : Nat) (bracketed : Bool) (indent : Nat) (gap : Gap) (start : Cursor) :
    Nat → Except Flaw Reading
  | 0 => .ok ⟨[], gap.broken, start⟩
  | bound + 1 =>
    let cursor := start.ask Cursor.markerAhead
    if (cursor.column = 0 && atDocumentMarker cursor.rest) || cursor.rest.head? = some '#' then
      .ok ⟨[], gap.broken, cursor⟩
    else
      let (word, after) := cursor.takeRun 2 (goesOn bracketed)
      let text := if word.isEmpty then [] else gap.text ++ word
      let gap := if word.isEmpty then gap else {}
      if after.rest.isEmpty || !atBlank after.rest then .ok ⟨text, gap.broken, after⟩
      else
        match Gap.take indent size gap after with
        | .error flaw => .error flaw
        | .ok (gap, following) =>
          if !bracketed && following.column < indent then .ok ⟨text, gap.broken, following⟩
          else
            (readLines size bracketed indent gap following bound).map fun reading =>
              { reading with text := text ++ reading.text }

/-- Read a plain scalar inside a collection of the given indentation. -/
def read (bracketed : Bool) (outer : Int) (cursor : Cursor) : Except Flaw Reading :=
  let size := cursor.rest.length
  readLines size bracketed (outer + 1).toNat {} cursor (size + 1)

end ContainerKernel.Document.PlainScalar
