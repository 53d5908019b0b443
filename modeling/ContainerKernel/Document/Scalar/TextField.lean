import ContainerKernel.Document.Page.Scalar
import ContainerKernel.Text.Base64

/-!
# Texts as values of fields

The value of a field that is a text has to read back as that text. It stands without quotes only
if it means nothing else, and if older readers do not take it for a truth value or a number in
base sixty. Bytes of no characters are written in base 64, under a tag.
-/

namespace ContainerKernel.Document.TextField

/-- Whether a text is one or more groups of a colon and a number below sixty, and perhaps places. -/
def isSixties : Nat → List Char → Bool
  | 0, _ => false
  | _ + 1, [] => false
  | bound + 1, value :: rest =>
    if value = ':' then
      match rest with
      | tens :: units :: after =>
        (('0' ≤ tens && tens ≤ '5' && units.isDigit) && endsOrGoesOn bound after) ||
          (tens.isDigit && endsOrGoesOn bound (units :: after))
      | [units] => units.isDigit
      | [] => false
    else false
where
  /-- Whether the text ends here, has only places left, or goes on with another group. -/
  endsOrGoesOn (bound : Nat) (text : List Char) : Bool :=
    match text with
    | [] => true
    | '.' :: places => places.all fun value => value.isDigit || value = '_'
    | _ => isSixties bound text

/-- Whether a text is a number in base sixty. -/
def isBaseSixty (text : List Char) : Bool :=
  let unsigned := match text with
    | '-' :: rest => rest
    | '+' :: rest => rest
    | rest => rest
  startsWith Char.isDigit unsigned &&
    isSixties text.length (unsigned.dropWhile fun value => value.isDigit || value = '_')

/-- Whether a text means nothing but itself without quotes. -/
def readsAsText (text : List Char) : Bool :=
  Meaning.ofText true text = .text && !isBaseSixty text &&
    !(Meaning.trueWords ++ Meaning.falseWords).contains text

/-- The style that a text asks for. -/
def wantedStyle (text : List Char) : ScalarStyle :=
  if text.any (· = '\n') then .literal
  else if readsAsText text then .plain
  else .doubleQuoted

/-- The number of signs on a line of base 64. -/
def lineLength : Nat := 70

/-- Cut signs into lines; a single short line has no line end. The bound is on the lines. -/
def signLines : Nat → List Char → List Char
  | 0, _ => []
  | bound + 1, signs =>
    if signs.isEmpty then []
    else signs.take lineLength ++ '\n' :: signLines bound (signs.drop lineLength)

/-- Bytes in base 64, in lines. -/
def binaryText (bytes : Bytes) : List Char :=
  let signs := Base64.encode bytes
  if signs.length < lineLength then signs else signLines signs.length signs

/-- A text in a style, at an indentation and on a line that is begun already. -/
def inStyle (step indent : Nat) (style : ScalarStyle) (text : List Char) : List Char :=
  let page : Page := { step, indent, lineOpen := false }
  (page.putScalar (Shape.chosenStyle false false style text) text).written.reverse

/-- The value of a text field, without a line end behind it unless the value itself has one. -/
def written (step indent : Nat) (bytes : Bytes) : List Char :=
  match decodeChars? bytes with
  | some text => inStyle step indent (wantedStyle text) text
  | none =>
    let text := binaryText bytes
    "!!binary ".toList ++
      inStyle step indent (if text.any (· = '\n') then .literal else .plain) text

end ContainerKernel.Document.TextField
