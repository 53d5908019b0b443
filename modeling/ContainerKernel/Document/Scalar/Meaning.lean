import ContainerKernel.Document.Scalar.Number
import ContainerKernel.Document.Scalar.Timestamp
import ContainerKernel.Document.Tag

/-!
# What a scalar means

A scalar without quotes and without a tag means what it looks like: nothing, a truth value, an
integer, a number, a timestamp, or else its text. A tag fixes what it means, and a scalar that
does not look like its tag has no meaning; every text can be a string, and what the tags of no
standard type mean is the text as well.
-/

namespace ContainerKernel.Document

/-- A number with a point or an exponent, or one of the numbers beyond. -/
inductive Real where
  | nan
  | infinite (negative : Bool)
  | finite (negative : Bool) (magnitude : Double)
deriving DecidableEq, Repr, Inhabited

/-- What a scalar means. -/
inductive Meaning where
  | null
  | bool (value : Bool)
  | integer (value : Int)
  | real (value : Real)
  | timestamp
  | text
deriving DecidableEq, Repr, Inhabited

namespace Meaning

/-- The tag of a meaning. -/
def tag : Meaning → Tag
  | null => .null
  | bool _ => .bool
  | integer _ => .int
  | real _ => .float
  | timestamp => .timestamp
  | text => .str

/-- The words with a meaning. -/
def words : List (List Char × Meaning) :=
  [("", null), ("~", null), ("null", null), ("Null", null), ("NULL", null),
    ("true", bool true), ("True", bool true), ("TRUE", bool true),
    ("false", bool false), ("False", bool false), ("FALSE", bool false),
    (".nan", real .nan), (".NaN", real .nan), (".NAN", real .nan),
    (".inf", real (.infinite false)), (".Inf", real (.infinite false)),
    (".INF", real (.infinite false)),
    ("+.inf", real (.infinite false)), ("+.Inf", real (.infinite false)),
    ("+.INF", real (.infinite false)),
    ("-.inf", real (.infinite true)), ("-.Inf", real (.infinite true)),
    ("-.INF", real (.infinite true))].map fun (word, meaning) => (word.toList, meaning)

/-- The number that a fraction means. -/
def ofFraction? (fraction : Fraction) : Option Meaning :=
  fraction.magnitude?.map fun magnitude => real (.finite fraction.negative magnitude)

/-- The meaning of a text that starts with a digit or a sign. -/
def ofNumber (text : List Char) : Meaning :=
  let plain := text.filter (· ≠ '_')
  match word? natural? plain with
  | some value => integer value
  | none =>
    match (Fraction.ofText? plain).bind ofFraction? with
    | some meaning => meaning
    | none =>
      match innerSigned? plain with
      | some value => integer value
      | none => Meaning.text

/-- The meaning that a text has by its looks; it may be asked whether timestamps count. -/
def ofText (timestamps : Bool) (text : List Char) : Meaning :=
  match words.lookup text with
  | some meaning => meaning
  | none =>
    match text with
    | [] => null
    | first :: _ =>
      if first = '.' then
        ((dropInnerUnderscores? false text).bind fun plain =>
          (Fraction.ofText? plain).bind ofFraction?).getD Meaning.text
      else if first.isDigit || first = '+' || first = '-' then
        if timestamps && Timestamp.isTimestamp text then timestamp else ofNumber text
      else Meaning.text

/-- A number that a tag makes of an integer: a signed word only. -/
def realOfInteger? (value : Int) : Option Meaning :=
  if Word.holds value then
    some (real (.finite (value < 0) (Double.ofNat value.natAbs)))
  else none

/-- The meaning of a text under a tag; nothing when it does not look like it. -/
def ofTagged? (tag : Tag) (value : List Char) : Option Meaning :=
  match tag with
  | .null | .bool | .int | .float | .timestamp =>
    let meaning := ofText (tag = .timestamp) value
    if meaning.tag = tag then some meaning
    else
      match tag, meaning with
      | .float, integer number => realOfInteger? number
      | _, _ => none
  | _ => some Meaning.text

/-- The words that mean true only where a truth value is wanted. -/
def trueWords : List (List Char) :=
  ["y", "Y", "yes", "Yes", "YES", "on", "On", "ON"].map String.toList

/-- The words that mean false only where a truth value is wanted. -/
def falseWords : List (List Char) :=
  ["n", "N", "no", "No", "NO", "off", "Off", "OFF"].map String.toList

end Meaning

end ContainerKernel.Document
