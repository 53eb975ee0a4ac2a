import Provision.Json.Source
import Provision.Proofs.Number.Rounding

/-!
# Numerals that are numbers

A numeral with a point or an exponent is read in two steps, each of them rounded: its digits make a number, which is
then scaled. What comes out can be represented (`represented_of_number`). Scaling down never fails (`scaleDown_le`), and
scaling up only near the greatest magnitude: a numeral that rounds to the greatest magnitude but one, or to a lesser
one, is read (`exists_number`).
-/

namespace Provision.Numeral

open Binary64
open Text.Decimal (maxNat64)

variable {m n k v e p : Nat}

/-! ## Rounded digits -/

theorem one_pos : 0 < one := by
  rw [one, one_shiftLeft]
  exact Nat.two_pow_pos _

theorem exists_ofNat_of_le {n' p' : Nat} (h : n ≤ n') (hp' : ofNat n' = some p') : ∃ p, ofNat n = some p ∧ p ≤ p' :=
  nearest_mono Nat.one_pos Nat.one_pos (Nat.mul_le_mul_right _ (Nat.mul_le_mul_right _ h)) hp'

theorem one_le_of_ofNat (hn : 0 < n) (h : ofNat n = some p) : one ≤ p := by
  obtain ⟨-, rfl⟩ := nearest_eq_some_iff.1 h
  rw [one, one_shiftLeft]
  refine pow_le_rounded Nat.one_pos ?_
  rw [Nat.one_mul]
  exact Nat.le_mul_of_pos_left _ hn

theorem rounded_mul_one_le (h : v ≤ 2 ^ k) : rounded (v * one) 1 ≤ 2 ^ (places + k) := by
  refine rounded_le_pow Nat.one_pos ?_
  rw [one, one_shiftLeft, Nat.one_mul]
  -- the number of places counts only as a variable: its powers are too large to be computed on the way
  generalize places = n
  rw [Nat.pow_add, Nat.mul_comm]
  exact Nat.mul_le_mul_left _ h

theorem pow_ten_mono {a b : Nat} (h : a ≤ b) : Nat.pow 10 a ≤ Nat.pow 10 b := Nat.pow_le_pow_right (by decide) h

/-- A power of ten by which magnitudes are scaled is finite. -/
theorem exists_ofNat_pow (h : e ≤ 308) : ∃ p, ofNat (Nat.pow 10 e) = some p ∧ one ≤ p := by
  have hgreatest : (ofNat (Nat.pow 10 308)).isSome = true := by decide +kernel
  obtain ⟨p', hp'⟩ := Option.isSome_iff_exists.1 hgreatest
  obtain ⟨p, hp, -⟩ := exists_ofNat_of_le (pow_ten_mono h) hp'
  exact ⟨p, hp, one_le_of_ofNat (Nat.pow_pos (by decide)) hp⟩

/-! ## Scaling down -/

theorem exists_div (hk : 2 ^ k < bound) (hm : m ≤ 2 ^ k) (hp : one ≤ p) : ∃ m', div m p = some m' ∧ m' ≤ 2 ^ k := by
  have hle : rounded (m * one) p ≤ 2 ^ k := by
    refine rounded_le_pow (one_pos.trans_le hp) ?_
    rw [Nat.mul_comm]
    exact Nat.mul_le_mul hp hm
  exact ⟨_, nearest_of_lt (hle.trans_lt hk), hle⟩

theorem scaleDown_of_le (he : e ≤ 308) : scaleDown m e = (ofNat (Nat.pow 10 e)).bind (div m) := by
  rw [scaleDown, if_pos he]

theorem scaleDown_of_gt (he : ¬e ≤ 308) (hm : m ≠ 0) : scaleDown m e =
    (ofNat (Nat.pow 10 308)).bind fun p => (div m p).bind fun m' => scaleDown m' (e - 308) := by
  rw [scaleDown, if_neg he, if_neg hm]
  rfl

theorem sub_lt_of_gt (he : ¬e ≤ 308) : e - 308 < e := Nat.sub_lt (Nat.zero_lt_of_lt (Nat.not_le.1 he)) (by decide)

/-- **Scaling down never fails**, and stays below a power of two. -/
theorem scaleDown_le (hk : 2 ^ k < bound) (hm : m ≤ 2 ^ k) (e : Nat) : ∃ m', scaleDown m e = some m' ∧ m' ≤ 2 ^ k := by
  induction e using Nat.strongRecOn generalizing m with
  | _ e ih =>
    by_cases he : e ≤ 308
    · obtain ⟨p, hp, hone⟩ := exists_ofNat_pow he
      rw [scaleDown_of_le he, hp, Option.bind_some]
      exact exists_div hk hm hone
    · by_cases hzero : m = 0
      · rw [scaleDown, if_neg he, if_pos hzero]
        exact ⟨0, rfl, Nat.zero_le _⟩
      · obtain ⟨p, hp, hone⟩ := exists_ofNat_pow (Nat.le_refl 308)
        obtain ⟨m', hdiv, hm'⟩ := exists_div hk hm hone
        rw [scaleDown_of_gt he hzero, hp, Option.bind_some, hdiv, Option.bind_some]
        exact ih (e - 308) (sub_lt_of_gt he) hm'

theorem represented_of_scaleDown (h : scaleDown m e = some n) : Represented n := by
  induction e using Nat.strongRecOn generalizing m with
  | _ e ih =>
    by_cases he : e ≤ 308
    · obtain ⟨p, hp, hone⟩ := exists_ofNat_pow he
      rw [scaleDown_of_le he, hp, Option.bind_some] at h
      exact represented_of_nearest (one_pos.trans_le hone) h
    · by_cases hzero : m = 0
      · rw [scaleDown, if_neg he, if_pos hzero] at h
        cases h
        exact represented_zero
      · rw [scaleDown_of_gt he hzero] at h
        obtain ⟨p, -, hrest⟩ := Option.bind_eq_some_iff.1 h
        obtain ⟨m', -, hnext⟩ := Option.bind_eq_some_iff.1 hrest
        exact ih (e - 308) (sub_lt_of_gt he) hnext

/-! ## Scaling up -/

theorem magnitude_ofNat (v e : Nat) : magnitude v (.ofNat e) = (ofNat v).bind fun start =>
    if e ≤ 308 then (ofNat (Nat.pow 10 e)).bind (mul start) else if start = 0 then some 0 else none := rfl

theorem magnitude_negSucc (v e : Nat) :
    magnitude v (.negSucc e) = (ofNat v).bind fun start => scaleDown start (e + 1) := rfl

/-- Digits can be scaled up if more of them can be scaled up further. -/
theorem exists_magnitude_of_le {v' e' m' : Nat} (hv : v ≤ v') (he : e ≤ e') (he' : e' ≤ 308)
    (hm' : magnitude v' (.ofNat e') = some m') : ∃ m, magnitude v (.ofNat e) = some m := by
  rw [magnitude_ofNat] at hm' ⊢
  obtain ⟨start', hstart', hscaled⟩ := Option.bind_eq_some_iff.1 hm'
  rw [if_pos he'] at hscaled
  obtain ⟨p', hp', hmul⟩ := Option.bind_eq_some_iff.1 hscaled
  obtain ⟨start, hstart, hle⟩ := exists_ofNat_of_le hv hstart'
  obtain ⟨p, hp, hpow⟩ := exists_ofNat_of_le (pow_ten_mono he) hp'
  obtain ⟨m, hm, -⟩ := nearest_mono one_pos one_pos (Nat.mul_le_mul_right _ (Nat.mul_le_mul hle hpow)) hmul
  exact ⟨m, by rw [hstart, Option.bind_some, if_pos (he.trans he'), hp, Option.bind_some]; exact hm⟩

/-- The end of what rounds to the greatest magnitude but one, in quarters of a unit. -/
def reach : Nat := 4 * secondGreatest + 2 * 1 <<< (places + 971)

/-- The greatest integer that rounds to the greatest magnitude but one, or to a lesser one. -/
def limit : Nat := reach / (4 * one)

/-- The most digits that are counted can be scaled up by many places. -/
theorem magnitude_maxNat64 : (magnitude maxNat64 (.ofNat 288)).isSome = true := by decide +kernel

/-- As many digits as the limit has can be scaled up to it. -/
theorem magnitude_limit : ∀ n ≤ 20, (magnitude (limit / 10 ^ (288 + n)) (.ofNat (288 + n))).isSome = true := by
  decide +kernel

theorem limit_lt : limit < Nat.pow 10 309 := by decide +kernel

theorem ofNat_zero : ofNat 0 = some 0 := by decide +kernel

/-- **Digits that are counted are scaled to any place up to the limit.** -/
theorem exists_magnitude {e : Int} (hv : v ≤ maxNat64) (h : v * 10 ^ e.toNat ≤ limit) :
    ∃ m, magnitude v e = some m := by
  cases e with
  | negSucc e =>
    have hk : 2 ^ (places + 64) < bound := by decide +kernel
    have hmax : maxNat64 ≤ 2 ^ 64 := by decide
    have hstart : rounded (v * one) 1 ≤ 2 ^ (places + 64) := rounded_mul_one_le (hv.trans hmax)
    obtain ⟨m, hm, -⟩ := scaleDown_le hk hstart (e + 1)
    have hround : ofNat v = some (rounded (v * one) 1) := nearest_of_lt (hstart.trans_lt hk)
    exact ⟨m, by rw [magnitude_negSucc, hround, Option.bind_some]; exact hm⟩
  | ofNat e =>
    rw [Int.ofNat_eq_natCast, Int.toNat_natCast] at h
    by_cases hlow : e ≤ 288
    · obtain ⟨m, hm⟩ := Option.isSome_iff_exists.1 magnitude_maxNat64
      exact exists_magnitude_of_le hv hlow (by decide) hm
    · by_cases hhigh : e ≤ 308
      · obtain ⟨n, rfl⟩ := Nat.exists_eq_add_of_le (Nat.le_of_not_le hlow)
        have hn : n ≤ 20 := Nat.le_of_add_le_add_left hhigh
        obtain ⟨m, hm⟩ := Option.isSome_iff_exists.1 (magnitude_limit n hn)
        have hle : v ≤ limit / 10 ^ (288 + n) := (Nat.le_div_iff_mul_le (Nat.pow_pos (by decide))).2 h
        exact exists_magnitude_of_le hle (Nat.le_refl _) hhigh hm
      · -- nothing but zero can be scaled further than the limit
        have hzero : v = 0 := by
          by_contra hne
          have hfar : 10 ^ e ≤ v * 10 ^ e := Nat.le_mul_of_pos_left _ (Nat.pos_of_ne_zero hne)
          have hpow := (pow_ten_mono (Nat.lt_of_not_le hhigh)).trans (hfar.trans h)
          exact absurd limit_lt (Nat.not_lt.2 hpow)
        exact ⟨0, by rw [hzero, magnitude_ofNat, ofNat_zero, Option.bind_some, if_neg hhigh, if_pos rfl]⟩

theorem represented_of_magnitude {e : Int} (h : magnitude v e = some m) : Represented m := by
  cases e with
  | negSucc e =>
    rw [magnitude_negSucc] at h
    obtain ⟨start, -, hscaled⟩ := Option.bind_eq_some_iff.1 h
    exact represented_of_scaleDown hscaled
  | ofNat e =>
    rw [magnitude_ofNat] at h
    obtain ⟨start, -, hscaled⟩ := Option.bind_eq_some_iff.1 h
    split at hscaled
    · obtain ⟨p, -, hmul⟩ := Option.bind_eq_some_iff.1 hscaled
      exact represented_of_nearest one_pos hmul
    · split at hscaled
      · cases hscaled
        exact represented_zero
      · cases hscaled

/-! ## Digits -/

variable {s : List Char} {value : Nat}

/-- Digits before the point whose value has 64 bits are all taken. -/
theorem takeWhole_of_le (h : Nat.ofDigitChars 10 s value ≤ maxNat64) :
    takeWhole ⟨value, 0⟩ s = ⟨Nat.ofDigitChars 10 s value, 0⟩ := by
  induction s generalizing value with
  | nil => rfl
  | cons c s ih =>
    rw [Nat.ofDigitChars_cons, Nat.mul_comm 10 value] at h ⊢
    have hle := Nat.le_trans (Text.Decimal.le_ofDigitChars s _) h
    rw [takeWhole, if_pos ⟨rfl, hle⟩]
    exact ih h

theorem takeWhole_le (s : List Char) (w : Significand) (h : w.value ≤ maxNat64) : (takeWhole w s).value ≤ maxNat64 := by
  induction s generalizing w with
  | nil => exact h
  | cons c s ih =>
    rw [takeWhole]
    split
    · rename_i hnext
      exact ih _ hnext.2
    · exact ih _ h

theorem mul_pow_le_ofDigitChars (s : List Char) (value : Nat) :
    value * 10 ^ s.length ≤ Nat.ofDigitChars 10 s value := by
  induction s generalizing value with
  | nil => exact Nat.le_of_eq (Nat.mul_one value)
  | cons c s ih =>
    rw [Nat.ofDigitChars_cons, List.length_cons, Nat.pow_succ', ← Nat.mul_assoc, Nat.mul_comm value]
    exact (Nat.mul_le_mul_right _ (Nat.le_add_right _ _)).trans (ih _)

/-- Of the digits behind the point the first ones are taken, so what is taken is not above what is written. -/
theorem takeFraction_spec (s : List Char) (exponent : Int) (h : value ≤ maxNat64) :
    ∃ taken value', takeFraction (value, exponent) s = (value', exponent - (taken : Nat)) ∧ taken ≤ s.length ∧
      value' ≤ maxNat64 ∧ value' * 10 ^ (s.length - taken) ≤ Nat.ofDigitChars 10 s value := by
  induction s generalizing value exponent with
  | nil => exact ⟨0, value, by simp [takeFraction], Nat.le_refl _, h, mul_pow_le_ofDigitChars [] value⟩
  | cons c s ih =>
    rw [takeFraction]
    split
    · rename_i hnext
      obtain ⟨taken, value', htake, hlen, hmax, hle⟩ := ih (exponent - 1) hnext
      refine ⟨taken + 1, value', ?_, Nat.succ_le_succ hlen, hmax, ?_⟩
      · rw [htake, Int.natCast_add, Int.natCast_one, Int.sub_sub, Int.add_comm 1]
      · rw [List.length_cons, Nat.add_sub_add_right, Nat.ofDigitChars_cons, Nat.mul_comm 10]
        exact hle
    · exact ⟨0, value, by simp, Nat.zero_le _, h, mul_pow_le_ofDigitChars (c :: s) value⟩

/-! ## Numbers -/

/-- The digits of a numeral as one number. -/
def significand (n : Numeral) : Nat := Nat.ofDigitChars 10 (n.whole ++ n.fraction) 0

/-- The power of ten that is written behind the digits. -/
def power (n : Numeral) : Int :=
  match n.exponent with
  | none => 0
  | some (false, ds) => Nat.ofDigitChars 10 ds 0
  | some (true, ds) => -Nat.ofDigitChars 10 ds 0

/-- A numeral with a point or an exponent is read as its digits, scaled. -/
theorem number_of_float {n : Numeral} (hwhole : Nat.ofDigitChars 10 n.whole 0 ≤ maxNat64)
    (hfloat : n.fraction ≠ [] ∨ n.exponent ≠ none) :
    ∃ taken v, n.number = ((magnitude v (n.power - (taken : Nat))).map fun m => .float ⟨n.negative, m⟩) ∧
      taken ≤ n.fraction.length ∧ v ≤ maxNat64 ∧ v * 10 ^ (n.fraction.length - taken) ≤ n.significand := by
  obtain ⟨taken, v, htake, hlen, hmax, hle⟩ := takeFraction_spec n.fraction 0 hwhole
  have hnot : ¬(n.fraction = [] ∧ n.exponent = none ∧ True) := fun h =>
    hfloat.elim (fun hne => hne h.1) fun hne => hne h.2.1
  refine ⟨taken, v, ?_, hlen, hmax, ?_⟩
  · simp only [number, takeWhole_of_le hwhole, if_neg hnot]
    rw [Int.natCast_zero, htake, Int.zero_sub, Int.add_comm, ← Int.sub_eq_add_neg]
    rfl
  · rw [significand, Nat.ofDigitChars_append]
    exact hle

/-- **A numeral with a point or an exponent is read if its value is not beyond what rounds to the greatest magnitude
but one.** -/
theorem exists_number {n : Numeral} (hwhole : Nat.ofDigitChars 10 n.whole 0 ≤ maxNat64)
    (hfloat : n.fraction ≠ [] ∨ n.exponent ≠ none)
    (h : n.significand * 10 ^ n.power.toNat * (4 * one) ≤ reach * 10 ^ (n.fraction.length + (-n.power).toNat)) :
    ∃ m, n.number = some (.float ⟨n.negative, m⟩) := by
  obtain ⟨taken, v, hnumber, hlen, hmax, hle⟩ := number_of_float hwhole hfloat
  have hscaled : v * 10 ^ (n.power - (taken : Nat)).toNat ≤ limit := by
    rcases Int.lt_or_le taken n.power with hlarge | hsmall
    · have hpower : (-n.power).toNat = 0 := by omega
      have hsum : n.fraction.length - taken + n.power.toNat = n.fraction.length + (n.power - (taken : Nat)).toNat := by
        omega
      have hpos : 0 < 10 ^ n.fraction.length := Nat.pow_pos (by decide)
      rw [limit, Nat.le_div_iff_mul_le (Nat.mul_pos (by decide) one_pos)]
      refine Nat.le_of_mul_le_mul_left ?_ hpos
      calc 10 ^ n.fraction.length * (v * 10 ^ (n.power - (taken : Nat)).toNat * (4 * one))
          = v * 10 ^ (n.fraction.length - taken) * 10 ^ n.power.toNat * (4 * one) := by
            rw [Nat.mul_assoc v (10 ^ (n.fraction.length - taken)), ← Nat.pow_add, hsum, Nat.pow_add,
              Nat.mul_left_comm v, Nat.mul_assoc (10 ^ n.fraction.length)]
        _ ≤ n.significand * 10 ^ n.power.toNat * (4 * one) := Nat.mul_le_mul_right _ (Nat.mul_le_mul_right _ hle)
        _ ≤ reach * 10 ^ n.fraction.length := by rwa [hpower, Nat.add_zero] at h
        _ = 10 ^ n.fraction.length * reach := Nat.mul_comm ..
    · have hzero : (n.power - (taken : Nat)).toNat = 0 := by omega
      rw [hzero, Nat.pow_zero, Nat.mul_one]
      exact hmax.trans (by decide +kernel)
  obtain ⟨m, hm⟩ := exists_magnitude hmax hscaled
  exact ⟨m, by rw [hnumber, hm, Option.map_some]⟩

/-- A numeral is read as an integer of 64 bits, or its digits are scaled. -/
theorem number_cases (n : Numeral) :
    (∃ i, n.number = some (.int i) ∧ Text.Decimal.minInt64 ≤ i ∧ i ≤ maxNat64) ∨
      ∃ v e, n.number = (magnitude v e).map fun m => .float ⟨n.negative, m⟩ := by
  have hmax : (takeWhole ⟨0, 0⟩ n.whole).value ≤ maxNat64 := takeWhole_le _ _ (Nat.zero_le _)
  unfold number
  dsimp only
  split
  · split
    · refine .inl ⟨_, rfl, ?_, Int.ofNat_le.2 hmax⟩
      exact Int.le_trans (by decide) (Int.natCast_nonneg _)
    · split
      · exact .inr ⟨_, _, rfl⟩
      · rename_i hrange
        have hpow : (1 : Nat) <<< 63 = 9223372036854775808 := by decide
        refine .inl ⟨_, rfl, ?_, ?_⟩ <;> simp only [Text.Decimal.minInt64, maxNat64] at * <;> omega
  · exact .inr ⟨_, _, rfl⟩

theorem range_of_number {n : Numeral} {i : Int} (h : n.number = some (.int i)) :
    Text.Decimal.minInt64 ≤ i ∧ i ≤ maxNat64 := by
  rcases n.number_cases with ⟨j, hj, hrange⟩ | ⟨v, e, hfloat⟩
  · rw [hj] at h
    cases h
    exact hrange
  · rw [hfloat] at h
    obtain ⟨m, -, hm⟩ := Option.map_eq_some_iff.1 h
    cases hm

/-- **A number that is read can be represented.** -/
theorem represented_of_number {n : Numeral} {x : Binary64} (h : n.number = some (.float x)) :
    Represented x.magnitude := by
  rcases n.number_cases with ⟨i, hi, -⟩ | ⟨v, e, hfloat⟩
  · rw [hi] at h
    cases h
  · rw [hfloat] at h
    obtain ⟨m, hm, hx⟩ := Option.map_eq_some_iff.1 h
    cases hx
    exact represented_of_magnitude hm

end Provision.Numeral
