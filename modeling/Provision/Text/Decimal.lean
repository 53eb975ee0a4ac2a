/-!
# Decimal integers

Integers in decimal digits, and reading one of a bounded range from a text: an optional sign, then digits only.
The first character that does not fit decides the fault. Main statement: an integer of the range reads back from
its digits (`readDigits_ofNat`).
-/

namespace Provision.Text.Decimal

/-- The digits of a natural number. -/
def ofNat (n : Nat) : List Char := Nat.toDigits 10 n

/-- The digits of an integer, after a minus sign if it is negative. -/
def ofInt : Int → List Char
  | .ofNat n => ofNat n
  | .negSucc n => '-' :: ofNat (n + 1)

/-- The text of an integer. -/
def text (i : Int) : String := String.ofList (ofInt i)

/-- The value of one digit. -/
def digit? (c : Char) : Option Nat := if c.isDigit then some (c.toNat - '0'.toNat) else none

/-- Why a text is not an integer of a range. -/
inductive Fault where
  | empty
  | notADigit
  | aboveRange
  | belowRange
deriving DecidableEq, Repr

/-- The wording of a fault. -/
def Fault.message : Fault → String
  | .empty => "cannot parse integer from empty string"
  | .notADigit => "invalid digit found in string"
  | .aboveRange => "number too large to fit in target type"
  | .belowRange => "number too small to fit in target type"

/-- Reads digits on top of `value`, up to `limit`; `beyond` is the fault of a value beyond it. -/
def readDigits (limit : Nat) (beyond : Fault) : Nat → List Char → Except Fault Nat
  | value, [] => .ok value
  | value, c :: rest =>
    match digit? c with
    | none => .error .notADigit
    | some d => if limit < value * 10 + d then .error beyond else readDigits limit beyond (value * 10 + d) rest

theorem le_ofDigitChars (s : List Char) (value : Nat) : value ≤ Nat.ofDigitChars 10 s value := by
  induction s generalizing value with
  | nil => exact Nat.le_refl _
  | cons c r ih =>
    rw [Nat.ofDigitChars_cons]
    exact Nat.le_trans (by omega) (ih _)

/-- Digits whose value is within the limit are read as that value. -/
theorem readDigits_of_le {limit : Nat} {beyond : Fault} {s : List Char} (hd : ∀ c ∈ s, c.isDigit = true) {value : Nat}
    (h : Nat.ofDigitChars 10 s value ≤ limit) :
    readDigits limit beyond value s = .ok (Nat.ofDigitChars 10 s value) := by
  induction s generalizing value with
  | nil => rfl
  | cons c r ih =>
    have hc := hd c List.mem_cons_self
    rw [Nat.ofDigitChars_cons, Nat.mul_comm 10 value] at h
    have hn : ¬limit < value * 10 + (c.toNat - '0'.toNat) := Nat.not_lt.2 (Nat.le_trans (le_ofDigitChars r _) h)
    simp only [readDigits, digit?, hc, if_true, if_neg hn, Nat.ofDigitChars_cons, Nat.mul_comm 10 value]
    exact ih (fun d hd' => hd d (List.mem_cons_of_mem _ hd')) h

/-- **A number within the limit reads back from its digits.** -/
theorem readDigits_ofNat {limit n : Nat} (beyond : Fault) (h : n ≤ limit) :
    readDigits limit beyond 0 (ofNat n) = .ok n := by
  have hn : Nat.ofDigitChars 10 (ofNat n) 0 = n := Nat.ofDigitChars_toDigits (by omega) (by omega)
  have hd : ∀ c ∈ ofNat n, c.isDigit = true := fun c hc => Nat.isDigit_of_mem_toDigits (by omega) (by omega) hc
  rw [readDigits_of_le hd (by omega), hn]

/-- The least and the greatest of the 64-bit integers. -/
def minInt64 : Int := -9223372036854775808

@[inherit_doc minInt64]
def maxInt64 : Int := 9223372036854775807

/-- The greatest of the 64-bit natural numbers. -/
def maxNat64 : Nat := 18446744073709551615

/-- The greatest of the 32-bit natural numbers. -/
def maxNat32 : Nat := 4294967295

/-- Reads a 64-bit integer: digits, after `+` or `-` if anything follows the sign. -/
def readInt64 : List Char → Except Fault Int
  | [] => .error .empty
  | ['+'] => .error .notADigit
  | ['-'] => .error .notADigit
  | '+' :: rest => Int.ofNat <$> readDigits maxInt64.toNat .aboveRange 0 rest
  | '-' :: rest => (fun n => -Int.ofNat n) <$> readDigits minInt64.natAbs .belowRange 0 rest
  | s => Int.ofNat <$> readDigits maxInt64.toNat .aboveRange 0 s

/-- What is read is within the limit. -/
theorem le_of_readDigits {limit : Nat} {beyond : Fault} {s : List Char} {value n : Nat} (hvalue : value ≤ limit)
    (h : readDigits limit beyond value s = .ok n) : n ≤ limit := by
  induction s generalizing value with
  | nil =>
    cases h
    exact hvalue
  | cons c r ih =>
    rw [readDigits] at h
    split at h
    · cases h
    · split at h
      · cases h
      · rename_i hle
        exact ih (Nat.not_lt.1 hle) h

/-- **An integer that is read has 64 bits.** -/
theorem range_of_readInt64 {s : List Char} {i : Int} (h : readInt64 s = .ok i) : minInt64 ≤ i ∧ i ≤ maxInt64 := by
  have natural : ∀ {s}, Int.ofNat <$> readDigits maxInt64.toNat .aboveRange 0 s = .ok i →
      minInt64 ≤ i ∧ i ≤ maxInt64 := by
    intro s hs
    cases hread : readDigits maxInt64.toNat .aboveRange 0 s with
    | error e =>
      rw [hread] at hs
      cases hs
    | ok n =>
      rw [hread] at hs
      cases hs
      have hle := le_of_readDigits (Nat.zero_le _) hread
      simp only [minInt64, maxInt64, Int.ofNat_eq_natCast] at hle ⊢
      omega
  unfold readInt64 at h
  split at h
  · cases h
  · cases h
  · cases h
  · exact natural h
  · rename_i rest _
    cases hread : readDigits minInt64.natAbs .belowRange 0 rest with
    | error e =>
      rw [hread] at h
      cases h
    | ok n =>
      rw [hread] at h
      cases h
      have hle := le_of_readDigits (Nat.zero_le _) hread
      simp only [minInt64, maxInt64, Int.ofNat_eq_natCast] at hle ⊢
      omega
  · exact natural h

end Provision.Text.Decimal
