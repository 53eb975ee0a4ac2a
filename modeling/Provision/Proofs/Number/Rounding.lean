import Mathlib.Algebra.Order.Group.Nat
import Mathlib.Data.Nat.Log
import Provision.Number.Binary64

/-!
# Laws of rounding

A ratio that is not above a power of two is rounded to a magnitude that is not, and one that is not below it likewise
(`rounded_le_pow`, `pow_le_rounded`), so the order of ratios is that of what they are rounded to (`rounded_mono`). What
is not above a ratio with a finite nearest magnitude has one itself (`nearest_mono`). Main statement: the nearest
magnitude keeps 53 binary places (`represented_of_nearest`).
-/

namespace Provision.Binary64

/-! ## Rounding to an integer -/

section Integers

variable {num den num' den' n : Nat}

theorem div_le_div_of_ratio (hden : 0 < den) (hden' : 0 < den') (h : num * den' ≤ num' * den) :
    num / den ≤ num' / den' := by
  rw [Nat.le_div_iff_mul_le hden']
  refine Nat.le_of_mul_le_mul_right ?_ hden
  calc num / den * den' * den = num / den * den * den' := Nat.mul_right_comm ..
    _ ≤ num * den' := Nat.mul_le_mul_right _ (Nat.div_mul_le_self num den)
    _ ≤ num' * den := h

/-- Of two ratios with one integer part the greater one has the greater rest. -/
theorem mod_le_mod_of_ratio (hq : num / den = num' / den') (h : num * den' ≤ num' * den) :
    num % den * den' ≤ num' % den' * den := by
  have hnum := Nat.div_add_mod num den
  have hnum' := Nat.div_add_mod num' den'
  rw [← hnum, ← hnum', hq, Nat.add_mul, Nat.add_mul] at h
  have hsame : den * (num' / den') * den' = den' * (num' / den') * den := by
    rw [Nat.mul_right_comm, Nat.mul_comm den den', Nat.mul_right_comm]
  omega

theorem le_roundHalfEven_div (num den : Nat) : num / den ≤ roundHalfEven num den := by
  simp only [roundHalfEven]
  split
  · exact Nat.le_refl _
  · split <;> exact Nat.le_add_right _ _

theorem roundHalfEven_le_div (num den : Nat) : roundHalfEven num den ≤ num / den + 1 := by
  simp only [roundHalfEven]
  split
  · exact Nat.le_succ _
  · split
    · exact Nat.le_refl _
    · exact Nat.add_le_add_left (Nat.le_of_lt_succ (Nat.mod_lt _ (by decide))) _

/-- **The greater ratio is rounded to the greater integer.** -/
theorem roundHalfEven_mono (hden : 0 < den) (hden' : 0 < den') (h : num * den' ≤ num' * den) :
    roundHalfEven num den ≤ roundHalfEven num' den' := by
  rcases Nat.lt_or_eq_of_le (div_le_div_of_ratio hden hden' h) with hlt | hq
  · calc roundHalfEven num den ≤ num / den + 1 := roundHalfEven_le_div num den
      _ ≤ num' / den' := hlt
      _ ≤ roundHalfEven num' den' := le_roundHalfEven_div num' den'
  · -- with one integer part, what counts is on which side of a half the rests are
    have hmod := mod_le_mod_of_ratio hq h
    have hbit : num' / den' % 2 ≤ 1 := Nat.le_of_lt_succ (Nat.mod_lt _ (by decide))
    have below : 2 * (num' % den') < den' → 2 * (num % den) < den := fun hlt => by
      refine Nat.lt_of_mul_lt_mul_right (a := den') ?_
      calc 2 * (num % den) * den' ≤ 2 * (num' % den' * den) := by rw [Nat.mul_assoc]; omega
        _ = 2 * (num' % den') * den := (Nat.mul_assoc ..).symm
        _ < den' * den := Nat.mul_lt_mul_of_pos_right hlt hden
        _ = den * den' := Nat.mul_comm ..
    have above : den < 2 * (num % den) → den' < 2 * (num' % den') := fun hlt => by
      refine Nat.lt_of_mul_lt_mul_right (a := den) ?_
      calc den' * den = den * den' := Nat.mul_comm ..
        _ < 2 * (num % den) * den' := Nat.mul_lt_mul_of_pos_right hlt hden'
        _ ≤ 2 * (num' % den' * den) := by rw [Nat.mul_assoc]; omega
        _ = 2 * (num' % den') * den := (Nat.mul_assoc ..).symm
    simp only [roundHalfEven, hq]
    split_ifs <;> omega

@[simp] theorem roundHalfEven_one (n : Nat) : roundHalfEven n 1 = n := by
  simp [roundHalfEven, Nat.mod_one]

theorem roundHalfEven_le_of_le (hden : 0 < den) (h : num ≤ den * n) : roundHalfEven num den ≤ n := by
  rw [← roundHalfEven_one n]
  exact roundHalfEven_mono hden Nat.one_pos (by rw [Nat.mul_one, Nat.mul_comm n]; exact h)

theorem le_roundHalfEven_of_le (hden : 0 < den) (h : den * n ≤ num) : n ≤ roundHalfEven num den := by
  rw [← roundHalfEven_one n]
  exact roundHalfEven_mono Nat.one_pos hden (by rw [Nat.mul_one, Nat.mul_comm n]; exact h)

end Integers

/-! ## Rounding to 53 places -/

/-- The magnitude nearest to `num / den` units, if magnitudes had no bound. -/
def rounded (num den : Nat) : Nat :=
  roundHalfEven num (den * (1 <<< lastPlace (num / den))) * (1 <<< lastPlace (num / den))

section Places

variable {num den num' den' m m' k : Nat}

theorem nearest_eq (num den : Nat) :
    nearest num den = if rounded num den < bound then some (rounded num den) else none := rfl

theorem nearest_eq_some_iff : nearest num den = some m ↔ rounded num den < bound ∧ rounded num den = m := by
  rw [nearest_eq, Option.ite_none_right_eq_some, Option.some.injEq]

theorem nearest_of_lt (h : rounded num den < bound) : nearest num den = some (rounded num den) := if_pos h

theorem one_shiftLeft (k : Nat) : 1 <<< k = 2 ^ k := by rw [Nat.shiftLeft_eq, Nat.one_mul]

theorem place_pos (m : Nat) : 0 < 1 <<< lastPlace m := by
  rw [one_shiftLeft]
  exact Nat.two_pow_pos _

theorem lastPlace_le (m : Nat) : lastPlace m ≤ m.log2 := Nat.sub_le _ _

theorem log2_mono {a b : Nat} (h : a ≤ b) : a.log2 ≤ b.log2 := by
  rw [Nat.log2_eq_log_two, Nat.log2_eq_log_two]
  exact Nat.log_mono_right h

theorem log2_le_of_le_pow {a : Nat} (h : a ≤ 2 ^ k) : a.log2 ≤ k := by
  have hle := log2_mono h
  rwa [Nat.log2_two_pow] at hle

/-- **A ratio that is not above a power of two is not rounded above it.** -/
theorem rounded_le_pow (hden : 0 < den) (h : num ≤ den * 2 ^ k) : rounded num den ≤ 2 ^ k := by
  have hdiv : num / den ≤ 2 ^ k := Nat.div_le_of_le_mul h
  obtain ⟨rest, hk⟩ := Nat.exists_eq_add_of_le ((lastPlace_le _).trans (log2_le_of_le_pow hdiv))
  have hpow : 2 ^ k = 1 <<< lastPlace (num / den) * 2 ^ rest := by
    rw [one_shiftLeft, ← Nat.pow_add, ← hk]
  rw [hpow, rounded, Nat.mul_comm]
  refine Nat.mul_le_mul_left _ (roundHalfEven_le_of_le (Nat.mul_pos hden (place_pos _)) ?_)
  rw [Nat.mul_assoc, ← hpow]
  exact h

/-- A ratio is not rounded below the greatest power of two in it. -/
theorem pow_log2_le_rounded (hden : 0 < den) (h : num / den ≠ 0) : 2 ^ (num / den).log2 ≤ rounded num den := by
  obtain ⟨rest, hk⟩ := Nat.exists_eq_add_of_le (lastPlace_le (num / den))
  have hpow : 2 ^ (num / den).log2 = 1 <<< lastPlace (num / den) * 2 ^ rest := by
    rw [one_shiftLeft, ← Nat.pow_add, ← hk]
  have hle : den * 2 ^ (num / den).log2 ≤ num :=
    (Nat.mul_le_mul_left den (Nat.log2_self_le h)).trans (Nat.mul_div_le num den)
  rw [hpow, rounded, Nat.mul_comm]
  refine Nat.mul_le_mul_right _ (le_roundHalfEven_of_le (Nat.mul_pos hden (place_pos _)) ?_)
  rw [Nat.mul_assoc, ← hpow]
  exact hle

/-- **A ratio that is not below a power of two is not rounded below it.** -/
theorem pow_le_rounded (hden : 0 < den) (h : den * 2 ^ k ≤ num) : 2 ^ k ≤ rounded num den := by
  have hdiv : 2 ^ k ≤ num / den := (Nat.le_div_iff_mul_le hden).2 (by rw [Nat.mul_comm]; exact h)
  have hne : num / den ≠ 0 := fun h0 => absurd (h0 ▸ hdiv) (Nat.not_le.2 (Nat.two_pow_pos k))
  have hk : k ≤ (num / den).log2 := (Nat.le_log2 hne).2 hdiv
  exact (Nat.pow_le_pow_right (by decide) hk).trans (pow_log2_le_rounded hden hne)

theorem rounded_le_pow_succ (hden : 0 < den) : rounded num den ≤ 2 ^ ((num / den).log2 + 1) := by
  refine rounded_le_pow hden ?_
  have hlt : num / den < 2 ^ ((num / den).log2 + 1) := Nat.lt_log2_self
  exact ((Nat.div_lt_iff_lt_mul hden).1 hlt).le.trans (Nat.le_of_eq (Nat.mul_comm ..))

/-- **The greater ratio is rounded to the greater magnitude.** -/
theorem rounded_mono (hden : 0 < den) (hden' : 0 < den') (h : num * den' ≤ num' * den) :
    rounded num den ≤ rounded num' den' := by
  have hdiv := div_le_div_of_ratio hden hden' h
  rcases Nat.lt_or_eq_of_le (log2_mono hdiv) with hlt | heq
  · have hne : num' / den' ≠ 0 := fun h0 => by rw [h0, Nat.log2_zero] at hlt; omega
    calc rounded num den ≤ 2 ^ ((num / den).log2 + 1) := rounded_le_pow_succ hden
      _ ≤ 2 ^ (num' / den').log2 := Nat.pow_le_pow_right (by decide) hlt
      _ ≤ rounded num' den' := pow_log2_le_rounded hden' hne
  · have hplace : lastPlace (num / den) = lastPlace (num' / den') := by rw [lastPlace, lastPlace, heq]
    rw [rounded, rounded, hplace]
    refine Nat.mul_le_mul_right _
      (roundHalfEven_mono (Nat.mul_pos hden (place_pos _)) (Nat.mul_pos hden' (place_pos _)) ?_)
    rw [← Nat.mul_assoc, ← Nat.mul_assoc]
    exact Nat.mul_le_mul_right _ h

/-- What is not above a ratio with a finite nearest magnitude has one itself. -/
theorem nearest_mono (hden : 0 < den) (hden' : 0 < den') (h : num * den' ≤ num' * den)
    (hm' : nearest num' den' = some m') : ∃ m, nearest num den = some m ∧ m ≤ m' := by
  obtain ⟨hfinite, rfl⟩ := nearest_eq_some_iff.1 hm'
  have hle := rounded_mono hden hden' h
  exact ⟨_, nearest_of_lt (hle.trans_lt hfinite), hle⟩

/-! ## Magnitudes with 53 places -/

/-- A magnitude is finite and keeps no more than 53 binary places. -/
def Represented (m : Nat) : Prop := m < bound ∧ 1 <<< lastPlace m ∣ m

theorem represented_zero : Represented 0 := ⟨by decide +kernel, Nat.dvd_zero _⟩

theorem place_dvd_rounded (hden : 0 < den) : 1 <<< lastPlace (rounded num den) ∣ rounded num den := by
  rw [one_shiftLeft]
  have hle : rounded num den ≤ 2 ^ ((num / den).log2 + 1) := rounded_le_pow_succ hden
  rcases Nat.lt_or_eq_of_le (log2_le_of_le_pow hle) with hlt | heq
  · -- the last place is not behind the one to which the ratio was rounded
    have hplace : lastPlace (rounded num den) ≤ lastPlace (num / den) := Nat.sub_le_sub_right (Nat.le_of_lt_succ hlt) 52
    refine Nat.dvd_trans (Nat.pow_dvd_pow 2 hplace) ?_
    rw [rounded, one_shiftLeft]
    exact Nat.dvd_mul_left _ _
  · -- the ratio was rounded up to the next power of two
    have hne : rounded num den ≠ 0 := fun h0 => by rw [h0, Nat.log2_zero] at heq; omega
    have hpow : 2 ^ (rounded num den).log2 = rounded num den :=
      Nat.le_antisymm (Nat.log2_self_le hne) (heq ▸ rounded_le_pow_succ hden)
    have hdvd := Nat.pow_dvd_pow 2 (lastPlace_le (rounded num den))
    rwa [hpow] at hdvd

/-- **A nearest magnitude is one that can be represented.** -/
theorem represented_of_nearest (hden : 0 < den) (h : nearest num den = some m) : Represented m := by
  obtain ⟨hfinite, rfl⟩ := nearest_eq_some_iff.1 h
  exact ⟨hfinite, place_dvd_rounded hden⟩

end Places

/-! ## The greatest magnitudes -/

/-- The greatest magnitude. -/
def greatest : Nat := bound - 1 <<< (places + 971)

/-- The greatest magnitude but one. -/
def secondGreatest : Nat := bound - 2 * 1 <<< (places + 971)

/-- A number below a power of two that has 53 places is the greatest one, or not above the one before it. -/
theorem eq_or_le_of_place_dvd {m k : Nat} (h : m < 2 ^ (k + 53)) (hdvd : 1 <<< lastPlace m ∣ m) :
    m = 2 ^ (k + 53) - 2 ^ k ∨ m ≤ 2 ^ (k + 53) - 2 * 2 ^ k := by
  have hpow : 2 ^ (k + 53) = 2 ^ 53 * 2 ^ k := by rw [Nat.pow_add, Nat.mul_comm]
  rcases Nat.lt_or_ge m (2 ^ (k + 52)) with hlt | hge
  · have hhalf : 2 ^ (k + 52) = 2 ^ 52 * 2 ^ k := by rw [Nat.pow_add, Nat.mul_comm]
    omega
  · have hne : m ≠ 0 := Nat.ne_of_gt ((Nat.two_pow_pos _).trans_le hge)
    have hlog : m.log2 = k + 52 :=
      Nat.le_antisymm (Nat.le_of_lt_succ ((Nat.log2_lt hne).2 h)) ((Nat.le_log2 hne).2 hge)
    rw [lastPlace, hlog, Nat.add_sub_cancel, one_shiftLeft] at hdvd
    obtain ⟨c, rfl⟩ := hdvd
    rw [hpow, Nat.mul_comm] at h
    have hc : c < 2 ^ 53 := Nat.lt_of_mul_lt_mul_right h
    rw [hpow, ← Nat.sub_one_mul, ← Nat.sub_mul, Nat.mul_comm]
    rcases Nat.lt_or_eq_of_le (Nat.le_sub_one_of_lt hc) with hless | heq
    · exact .inr (Nat.mul_le_mul_right _ (by omega))
    · exact .inl (by rw [heq])

theorem Represented.eq_greatest_or_le {m : Nat} (h : Represented m) : m = greatest ∨ m ≤ secondGreatest := by
  obtain ⟨hfinite, hdvd⟩ := h
  unfold greatest secondGreatest
  unfold bound at hfinite ⊢
  -- the number of places counts only as a variable: its powers are too large to be computed on the way
  generalize places = n at hfinite ⊢
  rw [one_shiftLeft, show n + 1024 = n + 971 + 53 by omega] at hfinite ⊢
  rw [one_shiftLeft]
  exact eq_or_le_of_place_dvd hfinite hdvd

end Provision.Binary64
