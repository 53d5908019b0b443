import ContainerKernel.Document.Mark

/-!
# Timestamps in scalars

A scalar without quotes that spells a date, or a date with a time of day, is a timestamp and no
text. Only whether it is one matters here. Years have four digits, and the other numbers one or
two. The time is divided from the date by a letter, with a zone at its end, or by spaces, without
one.
-/

namespace ContainerKernel.Document.Timestamp

/-- A number of one or two digits, and what follows it. -/
def takeNumber : List Char → Option (Nat × List Char)
  | first :: second :: rest =>
    if first.isDigit then
      if second.isDigit then some ((first.toNat - 48) * 10 + (second.toNat - 48), rest)
      else some (first.toNat - 48, second :: rest)
    else none
  | [first] => if first.isDigit then some (first.toNat - 48, []) else none
  | [] => none

/-- A number of one or two digits below a bound. -/
def takeBelow (bound : Nat) (text : List Char) : Option (List Char) := do
  let (number, rest) ← takeNumber text
  if number < bound then some rest else none

/-- A given character. -/
def takeSign (sign : Char) : List Char → Option (List Char)
  | value :: rest => if value = sign then some rest else none
  | [] => none

/-- Whether a year has a day more. -/
def isLeap (year : Nat) : Bool :=
  year % 4 = 0 && (year % 100 ≠ 0 || year % 400 = 0)

/-- The number of days of a month. -/
def daysIn (year month : Nat) : Nat :=
  if month = 2 then (if isLeap year then 29 else 28)
  else if month = 4 || month = 6 || month = 9 || month = 11 then 30
  else 31

/-- A date, and what follows it. -/
def takeDate (text : List Char) : Option (List Char) := do
  let digits := text.takeWhile Char.isDigit
  if digits.length = 4 then
    let year := digits.foldl (fun number digit => number * 10 + (digit.toNat - 48)) 0
    let (month, afterMonth) ← takeNumber (← takeSign '-' (text.drop 4))
    let (day, rest) ← takeNumber (← takeSign '-' afterMonth)
    if 1 ≤ month && month ≤ 12 && 1 ≤ day && day ≤ daysIn year month then some rest else none
  else none

/-- Pass over the digits of a fraction of a second, if there is one. -/
def skipFraction : List Char → List Char
  | point :: digit :: rest =>
    if (point = '.' || point = ',') && digit.isDigit then rest.dropWhile Char.isDigit
    else point :: digit :: rest
  | text => text

/-- A time of day, and what follows it. -/
def takeTime (text : List Char) : Option (List Char) := do
  let afterHour ← takeBelow 24 text
  let afterMinute ← takeBelow 60 (← takeSign ':' afterHour)
  let afterSecond ← takeBelow 60 (← takeSign ':' afterMinute)
  return skipFraction afterSecond

/-- A number of exactly two digits up to a bound. -/
def isTwoDigits (greatest : Nat) (tens units : Char) : Bool :=
  tens.isDigit && units.isDigit &&
    (tens.toNat - 48) * 10 + (units.toNat - 48) ≤ greatest

/-- Whether the text is a zone: a letter, or a distance in hours and minutes. -/
def isZone : List Char → Bool
  | ['Z'] => true
  | [sign, hourTens, hourUnits, ':', minuteTens, minuteUnits] =>
    (sign = '+' || sign = '-') && isTwoDigits 24 hourTens hourUnits &&
      isTwoDigits 60 minuteTens minuteUnits
  | _ => false

/-- Whether a text spells a timestamp. -/
def isTimestamp (text : List Char) : Bool :=
  match takeDate text with
  | none => false
  | some [] => true
  | some (divider :: rest) =>
    if divider = 'T' || divider = 't' then (takeTime rest).any isZone
    else divider = ' ' && takeTime (rest.dropWhile (· = ' ')) = some []

end ContainerKernel.Document.Timestamp
