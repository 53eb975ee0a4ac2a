import Provision.Number.Binary64

/-!
# The shortest decimal of a floating point number

The decimal with the fewest digits that rounds back to a number, and of those the nearest one, and its text. A
positive magnitude is the nearest one to every real number of an interval around it; the decimal sought is a point
of the first decimal grid, taken from coarse to fine, that has a point in the interval. If a grid has one, then one
of the two points of the grid beside the number itself is in the interval.
-/

namespace Provision.Binary64

/-- The reals that round to a magnitude, in quarters of a unit: the ends belong to it if `closed`. -/
structure Interval where
  low : Nat
  high : Nat
  closed : Bool
deriving DecidableEq, Repr

/-- The reals that round to a positive magnitude: half a last place to each side, a quarter below a power of two. -/
def interval (magnitude : Nat) : Interval :=
  let place := 1 <<< lastPlace magnitude
  let significand := magnitude / place
  let below := if significand = 1 <<< 52 ∧ 1 < place then place else 2 * place
  ⟨4 * magnitude - below, 4 * magnitude + 2 * place, significand % 2 == 0⟩

/-- A decimal number `digits * 10 ^ exponent`. -/
structure Decimal where
  digits : Nat
  exponent : Int
deriving DecidableEq, Repr

/-- Whether `num / den` quarters of a unit lie in an interval. -/
def Interval.holds (i : Interval) (num den : Nat) : Bool :=
  if i.closed then i.low * den ≤ num && num ≤ i.high * den else i.low * den < num && num < i.high * den

/-- A decimal as a fraction of quarters of a unit. -/
def Decimal.quarters (d : Decimal) : Nat × Nat :=
  (d.digits * Nat.pow 10 d.exponent.toNat * (4 * one), Nat.pow 10 (-d.exponent).toNat)

/-- The number of places to shift a fraction below one so that it is at least one, of at most `fuel`. -/
def shiftUp (magnitude : Nat) : Nat → Nat
  | 0 => 0
  | fuel + 1 => if one ≤ magnitude then 0 else shiftUp (magnitude * 10) fuel + 1

/-- The decimal order of a positive magnitude: it is at least `10 ^ (order - 1)` and below `10 ^ order`. -/
def order (magnitude : Nat) : Int :=
  if one ≤ magnitude then (Nat.toDigits 10 (magnitude / one)).length
  else 1 - Int.ofNat (shiftUp magnitude 325)

/-- The point of the grid of step `10 ^ exponent` that rounds back to `magnitude` and is nearest to it: one of the
two beside it. Of two equally near ones, the even one. -/
def onGrid (magnitude : Nat) (exponent : Int) : Option Decimal :=
  let num := magnitude * Nat.pow 10 (-exponent).toNat
  let den := one * Nat.pow 10 exponent.toNat
  let down : Decimal := ⟨num / den, exponent⟩
  let up : Decimal := ⟨num / den + 1, exponent⟩
  let i := interval magnitude
  let reads (d : Decimal) : Bool := i.holds d.quarters.1 d.quarters.2
  match reads down, reads up with
  | false, false => none
  | true, false => some down
  | false, true => some up
  | true, true => if roundHalfEven num den = num / den then some down else some up

/-- The first of `count` grids, from `exponent` down, with a point that rounds back. -/
def search (magnitude : Nat) (exponent : Int) : Nat → Option Decimal
  | 0 => none
  | count + 1 => (onGrid magnitude exponent).orElse fun _ => search magnitude (exponent - 1) count

/-- Moves the zeros at the end of `digits` into the exponent, at most `fuel` of them. -/
def Decimal.strip (d : Decimal) : Nat → Decimal
  | 0 => d
  | fuel + 1 => if d.digits % 10 = 0 then Decimal.strip ⟨d.digits / 10, d.exponent + 1⟩ fuel else d

/-- The shortest decimal that rounds back to a positive magnitude; seventeen digits always suffice. -/
def shortest (magnitude : Nat) : Decimal :=
  ((search magnitude (order magnitude - 1) 17).getD ⟨0, 0⟩).strip 17

/-- The text of a positive decimal: positional from `10 ^ -5` up to `10 ^ 16`, with a point and a digit on both
sides of it, else with an exponent. -/
def Decimal.text (d : Decimal) : List Char :=
  let ds := Nat.toDigits 10 d.digits
  let point : Int := ds.length + d.exponent
  if 0 ≤ d.exponent ∧ point ≤ 16 then ds ++ List.replicate d.exponent.toNat '0' ++ ['.', '0']
  else if 0 < point ∧ point ≤ 16 then ds.take point.toNat ++ '.' :: ds.drop point.toNat
  else if -5 < point ∧ point ≤ 0 then '0' :: '.' :: List.replicate (-point).toNat '0' ++ ds
  else
    let exponent := 'e' :: (if point - 1 < 0 then ['-'] else []) ++ Nat.toDigits 10 (point - 1).natAbs
    match ds with
    | [d] => d :: exponent
    | d :: rest => d :: '.' :: rest ++ exponent
    | [] => exponent

/-- The text of a number: the shortest decimal that reads back. -/
def text (x : Binary64) : List Char :=
  (if x.negative then ['-'] else []) ++ if x.magnitude = 0 then ['0', '.', '0'] else (shortest x.magnitude).text

end Provision.Binary64
