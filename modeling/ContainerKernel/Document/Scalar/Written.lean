import ContainerKernel.Document.Scalar.Meaning
import ContainerKernel.Document.Token

/-!
# Writing scalars

A text can be written without quotes only if nothing in it would be read as something else. The
shape of a text says which ways of writing it there are, and so in which style it is written when
one is asked for. Between double quotes every text can be written, with escapes. A block begins
with hints on how its lines are to be read.
-/

namespace ContainerKernel.Document

/-- Whether the character is written as itself between double quotes. -/
def isWritable (value : Char) : Bool :=
  value = '\n' || (0x20 ≤ value.toNat && value.toNat ≤ 0x7E) ||
    (0xA0 ≤ value.toNat && value.toNat ≤ 0xFFFD && value.toNat ≠ 0xFEFF)

/-- Which ways of writing a text there are. -/
structure Shape where
  /-- Whether it has more than one line. -/
  multiline : Bool
  /-- Whether it can stand without quotes outside of brackets, and inside. -/
  plainOutside : Bool
  plainInside : Bool
  /-- Whether it can stand between single quotes. -/
  singleQuoted : Bool
  /-- Whether it can stand on indented lines. -/
  block : Bool
deriving DecidableEq, Repr, Inhabited

namespace Shape

/-- Whether the character means something at the start of a text, wherever that stands. -/
def isLeadingSign (value : Char) : Bool :=
  value = '#' || value = ',' || value = '[' || value = ']' || value = '\x7b' || value = '\x7d' ||
    value = '&' || value = '*' || value = '!' || value = '|' || value = '>' || value = '\'' ||
    value = '"' || value = '%' || value = '@' || value = Char.ofNat 0x60

/-- Whether the first character is a sign: inside brackets, and outside. -/
def leadingSigns : List Char → Bool × Bool
  | [] => (false, false)
  | value :: rest =>
    if isLeadingSign value then (true, true)
    else if value = '?' || value = ':' then (true, atBlank rest)
    else if value = '-' then (atBlank rest, atBlank rest)
    else (false, false)

/-- Whether a later character is a sign: inside brackets, and outside. -/
def laterSigns : Bool → List Char → Bool × Bool
  | _, [] => (false, false)
  | afterBlank, value :: rest =>
    let (inside, outside) := laterSigns (isSpaceOrTab value || isBreak value) rest
    if value = ',' || value = '?' || value = '[' || value = ']' || value = '\x7b' ||
        value = '\x7d' then
      (true, outside)
    else if value = ':' then (true, outside || atBlank rest)
    else if value = '#' then (inside || afterBlank, outside || afterBlank)
    else (inside, outside)

/-- Whether the text begins like a marker of a document. -/
def startsLikeMarker : List Char → Bool
  | '-' :: '-' :: '-' :: _ => true
  | '.' :: '.' :: '.' :: _ => true
  | _ => false

/-- Whether two neighbours satisfy two conditions. -/
def hasNeighbours (first second : Char → Bool) : List Char → Bool
  | before :: after :: rest =>
    (first before && second after) || hasNeighbours first second (after :: rest)
  | _ => false

/-- The shape of a text. -/
def ofText (text : List Char) : Shape :=
  if text.isEmpty then
    { multiline := false, plainOutside := true, plainInside := false, singleQuoted := true,
      block := false }
  else
    let isSpace : Char → Bool := (· = ' ')
    let lines := text.any isBreak
    let blankEnds := startsWith (fun value => isSpace value || isBreak value) text ||
      startsWith (fun value => isSpace value || isBreak value) text.reverse
    let breakSpace := hasNeighbours isBreak isSpace text
    let spaceBreak := hasNeighbours isSpace isBreak text
    let tabs := text.any (· = '\t')
    let special := text.any fun value => value ≠ '\t' && !isWritable value
    let marker := startsLikeMarker text
    let (leadingInside, leadingOutside) := leadingSigns text
    let (laterInside, laterOutside) :=
      laterSigns (startsWith (fun value => isSpaceOrTab value || isBreak value) text) (text.drop 1)
    let plain := !blankEnds && !breakSpace && !spaceBreak && !tabs && !special && !lines
    { multiline := lines
      plainOutside := plain && !marker && !leadingOutside && !laterOutside
      plainInside := plain && !marker && !leadingInside && !laterInside
      singleQuoted := !breakSpace && !spaceBreak && !tabs && !special
      block := !startsWith isSpace text.reverse && !spaceBreak && !special }

/--
The style in which a text is written, when one is asked for: in brackets or not, and as a key
without a sign or not. A style that cannot hold the text gives way to one that can.
-/
def chosenStyle (inBrackets simpleKey : Bool) (style : ScalarStyle) (text : List Char) :
    ScalarStyle :=
  let shape := ofText text
  let style := if simpleKey && shape.multiline then .doubleQuoted else style
  let plainFits := (if inBrackets then shape.plainInside else shape.plainOutside) &&
    !(text.isEmpty && (inBrackets || simpleKey))
  let style := if style = .plain && !plainFits then .singleQuoted else style
  let style := if style = .singleQuoted && !shape.singleQuoted then .doubleQuoted else style
  if (style = .literal || style = .folded) && (!shape.block || inBrackets || simpleKey) then
    .doubleQuoted
  else style

end Shape

namespace WrittenScalar

/-- The hexadecimal digits of a number, in capitals. -/
def hexCapitals : Nat → Nat → List Char
  | 0, _ => []
  | count + 1, number =>
    let digit := number / Nat.pow 16 count % 16
    Char.ofNat (if digit < 10 then 48 + digit else 55 + digit) :: hexCapitals count number

/-- The letter for a character that has an escape of its own. -/
def escapeLetter? (value : Char) : Option Char :=
  [(0x00, '0'), (0x07, 'a'), (0x08, 'b'), (0x09, 't'), (0x0A, 'n'), (0x0B, 'v'), (0x0C, 'f'),
    (0x0D, 'r'), (0x1B, 'e'), (0x22, '"'), (0x5C, '\\'), (0x85, 'N'), (0xA0, '_'),
    (0x2028, 'L'), (0x2029, 'P')].lookup value.toNat

/-- The escape of a character. -/
def escaped (value : Char) : List Char :=
  match escapeLetter? value with
  | some letter => ['\\', letter]
  | none =>
    if value.toNat ≤ 0xFF then '\\' :: 'x' :: hexCapitals 2 value.toNat
    else if value.toNat ≤ 0xFFFF then '\\' :: 'u' :: hexCapitals 4 value.toNat
    else '\\' :: 'U' :: hexCapitals 8 value.toNat

/--
A text between double quotes. A text that begins with a byte order mark is escaped throughout, so
that no part of it can be taken for one.
-/
def doubleQuoted (text : List Char) : List Char :=
  let marked := text.head? = some orderMark
  '"' :: (text.flatMap fun value =>
    if marked || !isWritable value || isBreak value || value = '"' || value = '\\' then
      escaped value
    else [value]) ++ ['"']

/-- The sign for the line ends behind the last line of a block. -/
def chompingSign (text : List Char) : List Char :=
  match text.reverse with
  | [] => ['-']
  | [last] => if isBreak last then ['+'] else ['-']
  | last :: before :: _ =>
    if isBreak last then (if isBreak before then ['+'] else []) else ['-']

/-- What stands behind the announcing sign of a block: the step of indentation where the text
begins with a blank, and the sign for its last line ends. -/
def blockHints (step : Nat) (text : List Char) : List Char :=
  (if startsWith (fun value => value = ' ' || isBreak value) text then Nat.toDigits 10 step
    else []) ++ chompingSign text

end WrittenScalar

end ContainerKernel.Document
