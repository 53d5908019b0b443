import ContainerKernel.Text.Quoted

/-!
# Log lines

A log line is a level and then pairs of a key and a value, each written `key=value` and divided
by spaces. A value is quoted when it holds a blank or control byte, an equals sign, a double
quote, the replacement character or a byte that is no UTF-8, or when it is exactly `null`; an
empty value is written as nothing.
-/

namespace ContainerKernel

/-- How much a log line matters. -/
inductive LogLevel where
  | debug
  | warn
  | error
deriving DecidableEq, Repr, Inhabited

/-- The word for a level in a log line. -/
def LogLevel.name : LogLevel → Bytes
  | debug => utf8 "debug"
  | warn => utf8 "warn"
  | error => utf8 "error"

/-- A line of the log. -/
structure LogLine where
  level : LogLevel
  fields : List (String × Bytes)
deriving DecidableEq, Repr, Inhabited

namespace LogLine

/-- Whether a piece of a value makes quotes necessary. -/
def isPlainPiece : Piece → Bool
  | .char value =>
    value.toNat > 0x20 && value ≠ '=' && value ≠ '"' && value.toNat ≠ 0xFFFD
  | .stray _ => false

/--
One piece of a value inside quotes. Control characters and the replacement character are written
by their numbers, and a stray byte counts as the replacement character.
-/
def quotedPiece : Piece → Bytes
  | .char value =>
    if value = '"' ∨ value = '\\' then 92 :: String.utf8EncodeChar value
    else if value = '\n' then utf8 "\\n"
    else if value = '\r' then utf8 "\\r"
    else if value = '\t' then utf8 "\\t"
    else if value.toNat < 0x20 ∨ value.toNat = 0xFFFD then
      utf8 "\\u" ++ hexDigits 4 value.toNat
    else String.utf8EncodeChar value
  | .stray _ => utf8 "\\ufffd"

/-- A value as the log writes it. -/
def value (text : Bytes) : Bytes :=
  let pieces := Piece.cut text
  if pieces.all isPlainPiece && text ≠ utf8 "null" then text
  else utf8 "\"" ++ pieces.flatMap quotedPiece ++ utf8 "\""

/-- One field with the space before it. -/
def field (entry : String × Bytes) : Bytes :=
  utf8 " " ++ utf8 entry.1 ++ utf8 "=" ++ value entry.2

/-- The line with its line end; a time stamp, where there is one, follows the level. -/
def render (stamp : Option Bytes) (line : LogLine) : Bytes :=
  let stampField :=
    match stamp with
    | some text => [("ts", text)]
    | none => []
  utf8 "level=" ++ line.level.name ++ (stampField ++ line.fields).flatMap field ++ utf8 "\n"

end LogLine

end ContainerKernel
