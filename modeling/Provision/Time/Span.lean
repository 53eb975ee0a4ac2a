import Provision.Text.Decimal

/-!
# Spans of time

A span of time is a number of nanoseconds. It is written in the greatest unit of which it holds one, with as many
places as it needs.
-/

namespace Provision.Time

/-- Nanoseconds in a millisecond. -/
def millisecond : Nat := 1000000

/-- Nanoseconds in a second. -/
def second : Nat := 1000000000

/-- `n / unit` as a decimal; `places` is the number of zeros of `unit`. -/
def decimal (n unit places : Nat) : List Char :=
  let fraction := Nat.toDigits 10 (n % unit)
  let padded := List.replicate (places - fraction.length) '0' ++ fraction
  let kept := (padded.reverse.dropWhile (· == '0')).reverse
  Nat.toDigits 10 (n / unit) ++ if kept = [] then [] else '.' :: kept

/-- A span in words. -/
def spanText (n : Nat) : String :=
  String.ofList <|
    if second ≤ n then decimal n second 9 ++ ['s']
    else if millisecond ≤ n then decimal n millisecond 6 ++ ['m', 's']
    else if 1000 ≤ n then decimal n 1000 3 ++ ['µ', 's']
    else decimal n 1 0 ++ ['n', 's']

end Provision.Time
