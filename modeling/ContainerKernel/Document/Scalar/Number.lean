import ContainerKernel.Number.Double

/-!
# Numbers in scalars

The spellings of numbers: integers in decimal, with a leading zero in octal, or with one of the
starts `0x`, `0o` and `0b`; and decimal fractions with or without an exponent. Integers reach to
64 bits, with or without a sign bit; what is longer is a fraction, and what no double can hold is
no number at all.
-/

namespace ContainerKernel.Document

/-- The value of a digit in any base up to 36. -/
def digitValue? (digit : Char) : Option Nat :=
  if '0' ≤ digit && digit ≤ '9' then some (digit.toNat - 48)
  else if 'a' ≤ digit && digit ≤ 'z' then some (digit.toNat - 87)
  else if 'A' ≤ digit && digit ≤ 'Z' then some (digit.toNat - 55)
  else none

/-- The number that digits of a base write; none of them may be foreign to the base. -/
def digitsValue? (base : Nat) (digits : List Char) : Option Nat :=
  digits.foldlM (fun number digit =>
    match digitValue? digit with
    | some value => if value < base then some (number * base + value) else none
    | none => none) 0

/-- The number that one or more digits of a base write. -/
def naturalIn? (base : Nat) (digits : List Char) : Option Nat :=
  if digits.isEmpty then none else digitsValue? base digits

/-- A natural number in the base that its start tells. -/
def natural? : List Char → Option Nat
  | '0' :: 'b' :: digit :: digits => naturalIn? 2 (digit :: digits)
  | '0' :: 'B' :: digit :: digits => naturalIn? 2 (digit :: digits)
  | '0' :: 'o' :: digit :: digits => naturalIn? 8 (digit :: digits)
  | '0' :: 'O' :: digit :: digits => naturalIn? 8 (digit :: digits)
  | '0' :: 'x' :: digit :: digits => naturalIn? 16 (digit :: digits)
  | '0' :: 'X' :: digit :: digits => naturalIn? 16 (digit :: digits)
  | '0' :: digits => digitsValue? 8 digits
  | digits => naturalIn? 10 digits

/-- The natural number within 64 bits that a reader finds. -/
def unsigned? (read : List Char → Option Nat) (text : List Char) : Option Int :=
  (read text).bind fun number => if number < Word.range then some (number : Int) else none

/-- The signed word that a reader of natural numbers finds behind an optional sign. -/
def signed? (read : List Char → Option Nat) (text : List Char) : Option Int :=
  let number := match text with
    | '-' :: digits => (read digits).map fun number => -(number : Int)
    | '+' :: digits => (read digits).map fun number => (number : Int)
    | digits => (read digits).map fun number => (number : Int)
  number.bind fun value => if Word.holds value then some value else none

/-- The integer with an optional sign or within 64 bits without one. -/
def word? (read : List Char → Option Nat) (text : List Char) : Option Int :=
  (signed? read text).or (unsigned? read text)

/-- An integer whose sign stands between the start that tells its base and its digits. -/
def innerSigned? : List Char → Option Int
  | '0' :: 'b' :: rest => word? (naturalIn? 2) rest
  | '0' :: 'o' :: rest => word? (naturalIn? 8) rest
  | _ => none

/-- A finite decimal fraction. -/
structure Fraction where
  negative : Bool
  /-- The digits without the point. -/
  digits : List Char
  /-- The power of ten to multiply the digits by. -/
  exponent : Int
deriving DecidableEq, Repr, Inhabited

namespace Fraction

/-- Take a sign off a text. -/
def takeSign : List Char → Bool × List Char
  | '-' :: rest => (true, rest)
  | '+' :: rest => (false, rest)
  | text => (false, text)

/-- The exponent that ends a number; no text is exponent zero. -/
def exponent? : List Char → Option Int
  | [] => some 0
  | mark :: rest =>
    if mark = 'e' || mark = 'E' then
      let (negative, digits) := takeSign rest
      (naturalIn? 10 digits).map fun number => if negative then -(number : Int) else number
    else none

/-- A fraction: an optional sign, digits with an optional point, and an optional exponent. -/
def ofText? (text : List Char) : Option Fraction :=
  let (negative, unsigned) := takeSign text
  let whole := unsigned.takeWhile Char.isDigit
  let (places, rest) := match unsigned.dropWhile Char.isDigit with
    | '.' :: rest => (rest.takeWhile Char.isDigit, rest.dropWhile Char.isDigit)
    | rest => ([], rest)
  if whole.isEmpty && places.isEmpty then none
  else
    (exponent? rest).map fun exponent =>
      { negative, digits := whole ++ places, exponent := exponent - places.length }

/-- The number of places beyond which the exponent alone decides. -/
def horizon : Int := 400

/-- The size of the fraction as a double; nothing when no double is so large. -/
def magnitude? (fraction : Fraction) : Option Double :=
  let digits := fraction.digits.dropWhile (· = '0')
  let number := (digitsValue? 10 digits).getD 0
  let places := digits.length + fraction.exponent
  if number = 0 || places < -horizon then some (Double.ofNat 0)
  else if places > horizon then none
  else
    let double :=
      if fraction.exponent < 0 then Double.ofQuotient number (Nat.pow 10 fraction.exponent.natAbs)
      else Double.ofNat (number * Nat.pow 10 fraction.exponent.natAbs)
    if double.overflows then none else some double

end Fraction

/-- Drop the underscores that stand between digits; others make the text no number. -/
def dropInnerUnderscores? : Bool → List Char → Option (List Char)
  | _, [] => some []
  | afterDigit, '_' :: rest =>
    if afterDigit && (rest.head?.any Char.isDigit) then dropInnerUnderscores? false rest else none
  | _, value :: rest => (dropInnerUnderscores? value.isDigit rest).map (value :: ·)

end ContainerKernel.Document
