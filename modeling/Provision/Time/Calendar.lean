import Provision.Text.Decimal

/-!
# Calendar dates

The date of the Gregorian calendar, carried on to all years, on which a second falls that is counted from the first
of January 1970. A year here begins with March, so that the leap day is the last one; four centuries have 146097 days.
-/

namespace Provision.Time

/-- A date. -/
structure Date where
  year : Int
  month : Nat
  day : Nat
deriving DecidableEq, Repr

/-- Seconds in a day. -/
def daySeconds : Nat := 86400

/-- The day of a second, counted from the first of January 1970. -/
def dayOf (seconds : Int) : Int := Int.fdiv seconds daySeconds

/-- The date of a day counted from the first of January 1970. -/
def Date.ofDay (day : Int) : Date :=
  let shifted := day + 719468
  let era := Int.fdiv shifted 146097
  let ofEra := (Int.fmod shifted 146097).toNat
  let yearOfEra := (ofEra - ofEra / 1460 + ofEra / 36524 - ofEra / 146096) / 365
  let ofYear := ofEra - (365 * yearOfEra + yearOfEra / 4 - yearOfEra / 100)
  let monthOfYear := (5 * ofYear + 2) / 153
  let month := if monthOfYear < 10 then monthOfYear + 3 else monthOfYear - 9
  let year : Int := yearOfEra + era * 400
  ⟨if month ≤ 2 then year + 1 else year, month, ofYear - (153 * monthOfYear + 2) / 5 + 1⟩

/-- A number with zeros in front up to a width. -/
def padded (width n : Nat) : List Char :=
  let ds := Nat.toDigits 10 n
  List.replicate (width - ds.length) '0' ++ ds

/-- A year in four digits, with a sign if it is negative or needs more. -/
def yearText (year : Int) : List Char :=
  (if year < 0 then ['-'] else if 9999 < year then ['+'] else []) ++ padded 4 year.natAbs

/-- A date as year, month and day. -/
def Date.text (d : Date) : String :=
  String.ofList (yearText d.year ++ '-' :: padded 2 d.month ++ '-' :: padded 2 d.day)

/-- The date of a second. -/
def dateText (seconds : Int) : String := (Date.ofDay (dayOf seconds)).text

end Provision.Time
