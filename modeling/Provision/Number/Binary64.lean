/-!
# Finite binary floating point of 64 bits

A finite number is a sign and a magnitude, counted in units of `2 ^ -1074`, the least positive one. A ratio is
rounded to the nearest representable magnitude, a tie to the even significand. Main statement: rounding is within
half a unit of the last place (`roundHalfEven_le`, `le_roundHalfEven`).
-/

namespace Provision

/-- A finite number: `magnitude * 2 ^ -1074`, negated if `negative`. -/
structure Binary64 where
  negative : Bool
  magnitude : Nat
deriving DecidableEq, Repr, Inhabited

namespace Binary64

/-- The binary places below the point. -/
def places : Nat := 1074

/-- The number of units in one. -/
def one : Nat := 1 <<< places

/-- Magnitudes from here on are not finite. -/
def bound : Nat := 1 <<< (places + 1024)

/-- The exponent of the last binary place that a magnitude of this size keeps: 53 places in all. -/
def lastPlace (magnitude : Nat) : Nat := magnitude.log2 - 52

/-- A quotient rounded to the nearest integer, a half to the even one. -/
def roundHalfEven (num den : Nat) : Nat :=
  let q := num / den
  let r := num % den
  if 2 * r < den then q
  else if den < 2 * r then q + 1
  else q + q % 2

/-- The magnitude nearest to `num / den` units, or none if it is not finite. -/
def nearest (num den : Nat) : Option Nat :=
  let place := 1 <<< lastPlace (num / den)
  let magnitude := roundHalfEven num (den * place) * place
  if magnitude < bound then some magnitude else none

/-- The magnitude nearest to a natural number. -/
def ofNat (n : Nat) : Option Nat := nearest (n * one) 1

/-- The rounded product of two magnitudes. -/
def mul (a b : Nat) : Option Nat := nearest (a * b) one

/-- The rounded quotient of two magnitudes. -/
def div (a b : Nat) : Option Nat := nearest (a * one) b

/-- Equality of numbers: the two zeros are equal. -/
def same (x y : Binary64) : Bool :=
  x.magnitude == y.magnitude && (x.negative == y.negative || x.magnitude == 0)

@[simp] theorem same_self (x : Binary64) : same x x = true := by simp [same]

/-- The exact value, as a fraction. -/
def toRat (x : Binary64) : Rat :=
  let value : Rat := mkRat x.magnitude one
  if x.negative then -value else value

section Rounding

variable {num den : Nat}

theorem roundHalfEven_le (h : 0 < den) : 2 * num ≤ (2 * roundHalfEven num den + 1) * den := by
  have hd := Nat.div_add_mod num den
  have hm := Nat.mod_lt num h
  have : (2 * (num / den)) * den = 2 * (den * (num / den)) := by rw [Nat.mul_assoc, Nat.mul_comm (num / den)]
  have hb : num / den % 2 < 2 := Nat.mod_lt _ (by decide)
  simp only [roundHalfEven]
  split
  · rw [Nat.add_mul]; omega
  · split
    · rw [show 2 * (num / den + 1) + 1 = 2 * (num / den) + 3 by omega, Nat.add_mul]; omega
    · rw [show 2 * (num / den + num / den % 2) + 1 = 2 * (num / den) + (2 * (num / den % 2) + 1) by omega,
        Nat.add_mul]
      have : den ≤ (2 * (num / den % 2) + 1) * den := Nat.le_mul_of_pos_left _ (by omega)
      omega

theorem le_roundHalfEven (h : 0 < den) : 2 * roundHalfEven num den * den ≤ 2 * num + den := by
  have hd := Nat.div_add_mod num den
  have hm := Nat.mod_lt num h
  have hc : (2 * (num / den)) * den = 2 * (den * (num / den)) := by rw [Nat.mul_assoc, Nat.mul_comm (num / den)]
  have hb : num / den % 2 < 2 := Nat.mod_lt _ (by decide)
  simp only [roundHalfEven]
  split
  · omega
  · split
    · rw [Nat.mul_add, Nat.add_mul]; omega
    · have hp : num / den % 2 * den ≤ 1 * den := Nat.mul_le_mul_right _ (by omega)
      rw [Nat.mul_add, Nat.add_mul, Nat.mul_assoc 2 (num / den % 2)]
      omega

end Rounding

end Binary64

end Provision
