import ContainerKernel.Text.Bytes
import ContainerKernel.Text.Printable

/-!
# Quoted texts

Messages show a text between double quotes and a byte between single quotes. The quote in use and
the backslash are escaped by a backslash, printable characters stand for themselves, the usual
control characters have letters, and every other character is written by its number in
hexadecimal: two digits below U+0080, four below U+10000, eight above. A stray byte of a text is
written with two digits.
-/

namespace ContainerKernel

/-- A lower-case hexadecimal digit. -/
def hexDigit (digit : Nat) : UInt8 :=
  if digit < 10 then (48 + digit).toUInt8 else (87 + digit).toUInt8

/-- The lowest `width` hexadecimal digits of a number. -/
def hexDigits : (width : Nat) → (number : Nat) → Bytes
  | 0, _ => []
  | width + 1, number => hexDigits width (number / 16) ++ [hexDigit (number % 16)]

/-- The letter that stands after the backslash for a control character that has one. -/
def controlLetter? (value : Char) : Option UInt8 :=
  match value.toNat with
  | 7 => some 97
  | 8 => some 98
  | 9 => some 116
  | 10 => some 110
  | 11 => some 118
  | 12 => some 102
  | 13 => some 114
  | _ => none

/-- One character inside quotes of the given kind. -/
def quoteChar (quote : Char) (value : Char) : Bytes :=
  if value = quote ∨ value = '\\' then
    92 :: String.utf8EncodeChar value
  else if isPrintable value then
    String.utf8EncodeChar value
  else
    match controlLetter? value with
    | some letter => [92, letter]
    | none =>
      if value.toNat < 0x80 then utf8 "\\x" ++ hexDigits 2 value.toNat
      else if value.toNat < 0x10000 then utf8 "\\u" ++ hexDigits 4 value.toNat
      else utf8 "\\U" ++ hexDigits 8 value.toNat

/-- One piece of a text between double quotes. -/
def quotePiece : Piece → Bytes
  | .char value => quoteChar '"' value
  | .stray byte => utf8 "\\x" ++ hexDigits 2 byte.toNat

/-- A text between double quotes. -/
def quoted (text : Bytes) : Bytes :=
  utf8 "\"" ++ (Piece.cut text).flatMap quotePiece ++ utf8 "\""

/-- A byte between single quotes, read as the character with its number. -/
def quotedByte (byte : UInt8) : Bytes :=
  utf8 "'" ++ quoteChar '\'' (Char.ofNat byte.toNat) ++ utf8 "'"

end ContainerKernel
