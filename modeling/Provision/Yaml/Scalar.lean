import Provision.Json.Basic
import Provision.Text.Decimal
import Provision.Url.Address

/-!
# Plain scalars

What a text without quotes means: nothing, a truth value, a number, or the text itself. Integers have a sign and
decimal digits, or digits after `0x`, `0o` or `0b`; digits after a needless zero make no number. A number beyond all
floating point numbers stays a text.
-/

namespace Provision.Yaml

/-- Digits of a base, of which there has to be one. -/
def digitsOf? (base : Nat) (s : List Char) : Option Nat := if s = [] then none else Url.digits? base s

/-- The natural number that a text without a sign writes. -/
def natural? : List Char → Option Nat
  | '0' :: 'x' :: rest => digitsOf? 16 rest
  | '0' :: 'o' :: rest => digitsOf? 8 rest
  | '0' :: 'b' :: rest => digitsOf? 2 rest
  | s => if 1 < s.length ∧ s.head? = some '0' then none else digitsOf? 10 s

/-- The integer that a text writes. -/
def integer? : List Char → Option Int
  | '-' :: rest => (natural? rest).map fun n => -n
  | '+' :: rest => (natural? rest).map Int.ofNat
  | s => (natural? s).map Int.ofNat

/-- Whether a text has digits after a needless zero, with or without a sign. -/
def hasNeedlessZero (s : List Char) : Bool :=
  let digits := match s with
    | '-' :: rest | '+' :: rest => rest
    | s => s
  1 < digits.length && digits.head? == some '0' && digits.all Char.isDigit

/-- An exponent with its sign, or none. -/
def exponent? : List Char → Option Int
  | [] => some 0
  | e :: rest =>
    if e = 'e' ∨ e = 'E' then
      match rest with
      | '-' :: ds => if ds.all Char.isDigit then (digitsOf? 10 ds).map fun n => -n else none
      | '+' :: ds => if ds.all Char.isDigit then (digitsOf? 10 ds).map Int.ofNat else none
      | ds => if ds.all Char.isDigit then (digitsOf? 10 ds).map Int.ofNat else none
    else none

/-- The magnitude nearest to `digits * 10 ^ exponent`, of which the digits are `count`. -/
def magnitude? (digits count : Nat) (exponent : Int) : Option Nat :=
  if digits = 0 ∨ count + exponent < -400 then some 0
  else if 400 < exponent then none
  else
    match exponent with
    | .ofNat e => Binary64.nearest (digits * Nat.pow 10 e * Binary64.one) 1
    | .negSucc e => Binary64.nearest (digits * Binary64.one) (Nat.pow 10 (e + 1))

/-- The floating point number that a text without a sign writes. -/
def unsignedFloat? (negative : Bool) (s : List Char) : Option Binary64 := do
  let whole := s.takeWhile Char.isDigit
  let rest := s.dropWhile Char.isDigit
  let fraction := match rest with
    | '.' :: more => more.takeWhile Char.isDigit
    | _ => []
  let exponent ← exponent? <| match rest with
    | '.' :: more => more.dropWhile Char.isDigit
    | _ => rest
  let digits ← digitsOf? 10 (whole ++ fraction)
  let magnitude ← magnitude? digits (whole ++ fraction).length (exponent - fraction.length)
  some ⟨negative, magnitude⟩

/-- The floating point number that a text writes. -/
def float? : List Char → Option Binary64
  | '-' :: rest => unsignedFloat? true rest
  | '+' :: rest => unsignedFloat? false rest
  | s => unsignedFloat? false s

/-- Words that mean nothing. -/
def nullWords : List String := ["", "~", "null", "Null", "NULL"]

/-- Words for numbers that no document holds; they mean nothing. -/
def lostNumbers : List String :=
  [".inf", ".Inf", ".INF", "+.inf", "+.Inf", "+.INF", "-.inf", "-.Inf", "-.INF", ".nan", ".NaN", ".NAN"]

/-- What a plain scalar means; an integer beyond 64 bits is refused up to 128 bits. -/
def plain? (s : List Char) : Option Json :=
  let text := String.ofList s
  if nullWords.contains text ∨ lostNumbers.contains text then some .null
  else if ["true", "True", "TRUE"].contains text then some (.bool true)
  else if ["false", "False", "FALSE"].contains text then some (.bool false)
  else
    let asFloat : Json :=
      if hasNeedlessZero s then .string text
      else
        match float? s with
        | some x => .number (.float x)
        | none => .string text
    match integer? s with
    | some i =>
      if Text.Decimal.minInt64 ≤ i ∧ i ≤ Text.Decimal.maxNat64 then some (.int i)
      else if -(1 <<< 127 : Nat) ≤ i ∧ i < (1 <<< 128 : Nat) then none
      else some asFloat
    | none => some asFloat

end Provision.Yaml
