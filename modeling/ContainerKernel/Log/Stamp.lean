import ContainerKernel.Number.Decimal

/-!
# Time stamps

Log lines may show the time: the date and the time of day in universal time, with as many places
of a second as are needed. The date of a day is reckoned in years that begin in March, so that a
leap day is the last day of its year.
-/

namespace ContainerKernel.Stamp

/-- A date of the calendar. -/
structure Date where
  year : Int
  month : Nat
  day : Nat
deriving DecidableEq, Repr, Inhabited

/-- The days of four hundred years. -/
def cycle : Int := 146097

/-- The days from the first of March of the year zero to the first of January 1970. -/
def epoch : Int := 719468

/-- The date of a day, counted from the first of January 1970. -/
def Date.ofDay (day : Int) : Date :=
  let shifted := day + epoch
  let inCycle := (shifted % cycle).toNat
  let yearOfCycle := (inCycle - inCycle / 1460 + inCycle / 36524 - inCycle / 146096) / 365
  let dayOfYear := inCycle - (365 * yearOfCycle + yearOfCycle / 4 - yearOfCycle / 100)
  let monthFromMarch := (5 * dayOfYear + 2) / 153
  let month := if monthFromMarch < 10 then monthFromMarch + 3 else monthFromMarch - 9
  let year := shifted / cycle * 400 + yearOfCycle
  { year := if month ≤ 2 then year + 1 else year
    month
    day := dayOfYear - (153 * monthFromMarch + 2) / 5 + 1 }

/-- A number with zeros before it up to a width. -/
def padded (width : Nat) (number : Nat) : Bytes :=
  let digits := naturalDecimal number
  List.replicate (width - digits.length) 48 ++ digits

/-- The places of a second, without zeros at the end. -/
def places (nanoseconds : Nat) : Bytes :=
  let digits := ((padded 9 nanoseconds).reverse.dropWhile (· = 48)).reverse
  if digits = [] then [] else utf8 "." ++ digits

/-- The stamp of a time, counted in nanoseconds from the first of January 1970. -/
def ofNanoseconds (time : Int) : Bytes :=
  let nanoseconds := (time % 1000000000).toNat
  let seconds := time / 1000000000
  let date := Date.ofDay (seconds / 86400)
  let ofDay := (seconds % 86400).toNat
  padded 4 date.year.toNat ++ utf8 "-" ++ padded 2 date.month ++ utf8 "-" ++ padded 2 date.day
    ++ utf8 "T" ++ padded 2 (ofDay / 3600) ++ utf8 ":" ++ padded 2 (ofDay / 60 % 60)
    ++ utf8 ":" ++ padded 2 (ofDay % 60) ++ places nanoseconds ++ utf8 "Z"

end ContainerKernel.Stamp
