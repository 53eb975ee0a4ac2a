import Provision.Number.Shortest
import Provision.Proofs.Number.Numerals

/-!
# Texts of numbers

The text of a decimal has one of four forms (`Decimal.Form`), and each of them is a numeral with the value of the
decimal (`Form.value`). The shortest decimal of a magnitude is not beyond what rounds to that magnitude
(`within_shortest`). Main statement: the numeral of a floating point number that can be represented is read as a number
(`exists_number_numeral`).
-/

namespace Provision

/-! ## Numerals and their texts -/

namespace Numeral

/-- The point and the digits behind it, if there are any. -/
def pointChars : List Char → List Char
  | [] => []
  | d :: ds => '.' :: d :: ds

theorem pointChars_of_ne_nil {ds : List Char} (h : ds ≠ []) : pointChars ds = '.' :: ds := by
  cases ds with
  | nil => exact absurd rfl h
  | cons d ds => rfl

/-- The exponent, if there is one. -/
def exponentChars : Option (Bool × List Char) → List Char
  | none => []
  | some (negative, ds) => 'e' :: (if negative then ['-'] else []) ++ ds

/-- The text of a numeral. -/
def chars (n : Numeral) : List Char :=
  (if n.negative then ['-'] else []) ++ (n.whole ++ (pointChars n.fraction ++ exponentChars n.exponent))

/-- A numeral consists of digits, with none that is missing, and no needless zero in front. -/
structure Proper (n : Numeral) : Prop where
  whole : ∀ c ∈ n.whole, c.isDigit = true
  begun : n.whole ≠ []
  lead : n.whole.head? = some '0' → n.whole = ['0']
  fraction : ∀ c ∈ n.fraction, c.isDigit = true
  exponent : ∀ e ∈ n.exponent, e.2 ≠ [] ∧ ∀ c ∈ e.2, c.isDigit = true

end Numeral

namespace Text.Decimal

theorem isDigit_of_mem_ofNat {n : Nat} {c : Char} (h : c ∈ ofNat n) : c.isDigit = true :=
  Nat.isDigit_of_mem_toDigits (by omega) (by omega) h

/-- The digits of a number do not begin with a needless zero. -/
theorem ofNat_head (n : Nat) : ofNat n ≠ [] ∧ ((ofNat n).head? = some '0' → n = 0) := by
  induction n using Nat.strongRecOn with
  | _ n ih =>
    rw [ofNat]
    by_cases hn : n < 10
    · rw [Nat.toDigits_of_lt_base hn]
      refine ⟨List.cons_ne_nil _ _, fun h => ?_⟩
      have zero : ∀ d < 10, Nat.digitChar d = '0' → d = 0 := by decide
      exact zero n hn (Option.some.inj h)
    · obtain ⟨hne, hzero⟩ := ih (n / 10) (by omega)
      rw [ofNat] at hne hzero
      obtain ⟨c, ds, hds⟩ := List.exists_cons_of_ne_nil hne
      rw [hds] at hzero
      rw [Nat.toDigits_of_base_le (by omega) (by omega), hds]
      refine ⟨List.cons_ne_nil _ _, fun h => ?_⟩
      have := hzero h
      omega

theorem ofDigitChars_ofNat (n : Nat) : Nat.ofDigitChars 10 (ofNat n) 0 = n :=
  Nat.ofDigitChars_toDigits (by omega) (by omega)

theorem ofNat_inj {m n : Nat} (h : ofNat m = ofNat n) : m = n := by
  rw [← ofDigitChars_ofNat m, h, ofDigitChars_ofNat]

/-- The digits of a natural number have no sign. -/
theorem ofNat_ne_minus {n : Nat} {s : List Char} : ofNat n ≠ '-' :: s := by
  intro h
  have hdigit : '-'.isDigit = true := isDigit_of_mem_ofNat (h ▸ List.mem_cons_self)
  exact absurd hdigit (by decide)

/-- An integer is known from its text. -/
theorem text_inj {i j : Int} (h : text i = text j) : i = j := by
  have hchars : ofInt i = ofInt j := String.ofList_injective h
  match i, j with
  | .ofNat _, .ofNat _ => rw [ofNat_inj hchars]
  | .ofNat _, .negSucc _ => exact absurd hchars ofNat_ne_minus
  | .negSucc _, .ofNat _ => exact absurd hchars.symm ofNat_ne_minus
  | .negSucc _, .negSucc _ => rw [Nat.succ_inj.1 (ofNat_inj (List.cons.inj hchars).2)]

/-- Few digits have a small value. -/
theorem ofDigitChars_lt {s : List Char} (hs : ∀ c ∈ s, c.isDigit = true) (value : Nat) :
    Nat.ofDigitChars 10 s value < (value + 1) * 10 ^ s.length := by
  induction s generalizing value with
  | nil => simp
  | cons c s ih =>
    have hdigit : c.toNat - '0'.toNat ≤ 9 := by
      have hc := hs c List.mem_cons_self
      simp only [Char.isDigit, Bool.and_eq_true, decide_eq_true_eq, UInt32.le_iff_toNat_le] at hc
      have hupper : c.toNat ≤ 57 := hc.2
      have hzero : '0'.toNat = 48 := rfl
      omega
    rw [Nat.ofDigitChars_cons, List.length_cons, Nat.pow_succ', ← Nat.mul_assoc]
    refine (ih (fun d hd => hs d (List.mem_cons_of_mem c hd)) _).trans_le (Nat.mul_le_mul_right _ ?_)
    omega

theorem ofDigitChars_le_maxNat64 {s : List Char} (hs : ∀ c ∈ s, c.isDigit = true) (hlen : s.length ≤ 16) :
    Nat.ofDigitChars 10 s 0 ≤ maxNat64 := by
  have hpow : 10 ^ s.length ≤ 10 ^ 16 := Nat.pow_le_pow_right (by decide) hlen
  have hlt := ofDigitChars_lt hs 0
  rw [maxNat64]
  omega

end Text.Decimal

/-! ## Decimals -/

namespace Binary64

open Text.Decimal (maxNat64 ofDigitChars_ofNat ofDigitChars_le_maxNat64)

namespace Decimal

variable {negative : Bool} {d : Decimal} {n : Numeral}

/-- The digits of a decimal. -/
def figures (d : Decimal) : List Char := Text.Decimal.ofNat d.digits

/-- A decimal as a numeral. -/
def numeral (negative : Bool) (d : Decimal) : Numeral :=
  let point : Int := d.figures.length + d.exponent
  if 0 ≤ d.exponent ∧ point ≤ 16 then ⟨negative, d.figures ++ List.replicate d.exponent.toNat '0', ['0'], none⟩
  else if 0 < point ∧ point ≤ 16 then ⟨negative, d.figures.take point.toNat, d.figures.drop point.toNat, none⟩
  else if -5 < point ∧ point ≤ 0 then ⟨negative, ['0'], List.replicate (-point).toNat '0' ++ d.figures, none⟩
  else ⟨negative, d.figures.take 1, d.figures.drop 1, some (point - 1 < 0, Text.Decimal.ofNat (point - 1).natAbs)⟩

/-- The forms of the numeral of a decimal. -/
inductive Form (negative : Bool) (d : Decimal) : Numeral → Prop
  | integer (zeros : Nat) (exponent : d.exponent = zeros) (short : d.figures.length + zeros ≤ 16) :
    Form negative d ⟨negative, d.figures ++ List.replicate zeros '0', ['0'], none⟩
  | inside (point : Nat) (exponent : d.figures.length + d.exponent = point) (behind : point < d.figures.length)
    (before : 0 < point) (short : point ≤ 16) :
    Form negative d ⟨negative, d.figures.take point, d.figures.drop point, none⟩
  | below (zeros : Nat) (exponent : d.figures.length + d.exponent = -(zeros : Int)) :
    Form negative d ⟨negative, ['0'], List.replicate zeros '0' ++ d.figures, none⟩
  | scientific (first : Char) (rest : List Char) (figures : d.figures = first :: rest) (power : Int)
    (exponent : power = rest.length + d.exponent) :
    Form negative d ⟨negative, [first], rest, some (power < 0, Text.Decimal.ofNat power.natAbs)⟩

theorem figures_ne_nil (d : Decimal) : d.figures ≠ [] := (Text.Decimal.ofNat_head d.digits).1

theorem isDigit_of_mem_figures {c : Char} (h : c ∈ d.figures) : c.isDigit = true := Text.Decimal.isDigit_of_mem_ofNat h

theorem form_numeral (negative : Bool) (d : Decimal) : d.Form negative (d.numeral negative) := by
  obtain ⟨first, rest, hfigures⟩ := List.exists_cons_of_ne_nil d.figures_ne_nil
  have hlen : d.figures.length = rest.length + 1 := by rw [hfigures, List.length_cons]
  rw [numeral]
  split
  · exact .integer _ (by omega) (by omega)
  · split
    · exact .inside _ (by omega) (by omega) (by omega) (by omega)
    · split
      · exact .below _ (by omega)
      · have hpower : ((d.figures.length : Int) + d.exponent) - 1 = rest.length + d.exponent := by omega
        rw [hpower, hfigures]
        exact .scientific first rest hfigures _ rfl

/-- The text of a decimal is that of its numeral. -/
theorem chars_numeral (negative : Bool) (d : Decimal) :
    (d.numeral negative).chars = (if negative then ['-'] else []) ++ d.text := by
  obtain ⟨first, rest, hfigures⟩ := List.exists_cons_of_ne_nil d.figures_ne_nil
  have htext : Nat.toDigits 10 d.digits = d.figures := rfl
  rw [numeral, text, htext]
  dsimp only
  split
  · simp [Numeral.chars, Numeral.pointChars, Numeral.exponentChars]
  · split
    · have hbehind : d.figures.drop ((d.figures.length : Int) + d.exponent).toNat ≠ [] := by
        rw [ne_eq, List.drop_eq_nil_iff]
        omega
      simp [Numeral.chars, Numeral.pointChars_of_ne_nil hbehind, Numeral.exponentChars]
    · split
      · simp [Numeral.chars, Numeral.pointChars_of_ne_nil, d.figures_ne_nil, Numeral.exponentChars]
      · rw [hfigures]
        cases rest <;>
          simp [Numeral.chars, Numeral.pointChars, Numeral.exponentChars, Text.Decimal.ofNat]

/-! ## Proper numerals -/

theorem figures_head (h : d.figures.head? = some '0') : d.digits = 0 := (Text.Decimal.ofNat_head d.digits).2 h

/-- A positive decimal has no zero in front, and zero has it only as its one digit. -/
theorem Form.proper (hform : d.Form negative n) (h : d.digits = 0 → 16 ≤ d.exponent) : n.Proper := by
  have hzero : '0'.isDigit = true := by decide
  cases hform with
  | integer zeros exponent short =>
    obtain ⟨first, rest, hfigures⟩ := List.exists_cons_of_ne_nil d.figures_ne_nil
    refine ⟨fun c hc => ?_, by simp [d.figures_ne_nil], fun hlead => ?_, by simp [hzero], by simp⟩
    · rcases List.mem_append.1 hc with hc | hc
      · exact isDigit_of_mem_figures hc
      · rw [List.eq_of_mem_replicate hc]
        exact hzero
    · -- zero is not written in this form
      have hhead : d.figures.head? = some '0' := by simpa [hfigures] using hlead
      have hlen : 0 < d.figures.length := List.length_pos_iff.2 d.figures_ne_nil
      have := h (figures_head hhead)
      omega
  | inside point exponent behind before short =>
    refine ⟨fun c hc => isDigit_of_mem_figures (List.mem_of_mem_take hc), ?_, fun hlead => ?_,
      fun c hc => isDigit_of_mem_figures (List.mem_of_mem_drop hc), by simp⟩
    · rw [ne_eq, List.take_eq_nil_iff]
      simp [d.figures_ne_nil, Nat.ne_of_gt before]
    · have hhead : d.figures.head? = some '0' := by rwa [List.head?_take, if_neg (Nat.ne_of_gt before)] at hlead
      have := h (figures_head hhead)
      omega
  | below zeros exponent =>
    refine ⟨by simp [hzero], by simp, fun _ => rfl, fun c hc => ?_, by simp⟩
    rcases List.mem_append.1 hc with hc | hc
    · rw [List.eq_of_mem_replicate hc]
      exact hzero
    · exact isDigit_of_mem_figures hc
  | scientific first rest hfigures power exponent =>
    have hmem : ∀ c ∈ first :: rest, c.isDigit = true := fun c hc => isDigit_of_mem_figures (hfigures ▸ hc)
    refine ⟨fun c hc => ?_, List.cons_ne_nil _ _, fun hlead => ?_, fun c hc => hmem c (List.mem_cons_of_mem _ hc), ?_⟩
    · rw [List.mem_singleton.1 hc]
      exact hmem first List.mem_cons_self
    · rw [Option.some.inj hlead]
    · rintro e ⟨⟩
      exact ⟨(Text.Decimal.ofNat_head _).1, fun c hc => Text.Decimal.isDigit_of_mem_ofNat hc⟩

/-! ## The value of a numeral -/

theorem Form.float (hform : d.Form negative n) : n.fraction ≠ [] ∨ n.exponent ≠ none := by
  cases hform with
  | integer zeros exponent short => exact .inl (List.cons_ne_nil _ _)
  | inside point exponent behind before short =>
    refine .inl ?_
    rw [ne_eq, List.drop_eq_nil_iff]
    exact Nat.not_le.2 behind
  | below zeros exponent => exact .inl (by simp [d.figures_ne_nil])
  | scientific first rest hfigures power exponent => exact .inr (Option.some_ne_none _)

theorem Form.whole_le (hform : d.Form negative n) : Nat.ofDigitChars 10 n.whole 0 ≤ maxNat64 := by
  have hzero : '0'.isDigit = true := by decide
  cases hform with
  | integer zeros exponent short =>
    refine ofDigitChars_le_maxNat64 (fun c hc => ?_) (by simpa using short)
    rcases List.mem_append.1 hc with hc | hc
    · exact isDigit_of_mem_figures hc
    · rw [List.eq_of_mem_replicate hc]
      exact hzero
  | inside point exponent behind before short =>
    refine ofDigitChars_le_maxNat64 (fun c hc => isDigit_of_mem_figures (List.mem_of_mem_take hc)) ?_
    exact (List.length_take_le _ _).trans short
  | below zeros exponent => exact Nat.zero_le _
  | scientific first rest hfigures power exponent =>
    refine ofDigitChars_le_maxNat64 (fun c hc => ?_) (by simp)
    rw [List.mem_singleton.1 hc]
    exact isDigit_of_mem_figures (hfigures ▸ List.mem_cons_self)

/-- **The numeral of a decimal has its value**: zeros may be added to the digits. -/
theorem Form.value (hform : d.Form negative n) : ∃ zeros : Nat,
    n.significand = d.digits * 10 ^ zeros ∧ d.exponent = n.power - n.fraction.length + zeros := by
  have hdigits : Nat.ofDigitChars 10 d.figures 0 = d.digits := ofDigitChars_ofNat d.digits
  cases hform with
  | integer zeros exponent short =>
    refine ⟨zeros + 1, ?_, ?_⟩
    · rw [Numeral.significand, Nat.ofDigitChars_append, Nat.ofDigitChars_append, hdigits,
        Nat.ofDigitChars_replicate_zero, Nat.ofDigitChars_cons, Nat.ofDigitChars_nil, Nat.pow_succ]
      simp only [Nat.sub_self, Nat.add_zero]
      rw [Nat.mul_comm 10, Nat.mul_comm (10 ^ zeros), Nat.mul_assoc]
    · simp only [Numeral.power, List.length_singleton]
      omega
  | inside point exponent behind before short =>
    refine ⟨0, ?_, ?_⟩
    · rw [Numeral.significand, List.take_append_drop, hdigits, Nat.pow_zero, Nat.mul_one]
    · simp only [Numeral.power, List.length_drop]
      omega
  | below zeros exponent =>
    refine ⟨0, ?_, ?_⟩
    · rw [Numeral.significand, List.singleton_append, Nat.ofDigitChars_cons, Nat.ofDigitChars_append,
        Nat.ofDigitChars_replicate_zero]
      simp only [Nat.sub_self, Nat.mul_zero, Nat.add_zero, Nat.pow_zero, Nat.mul_one, hdigits]
    · simp only [Numeral.power, List.length_append, List.length_replicate]
      omega
  | scientific first rest hfigures power exponent =>
    refine ⟨0, ?_, ?_⟩
    · rw [Numeral.significand, List.singleton_append, ← hfigures, hdigits, Nat.pow_zero, Nat.mul_one]
    · have hpower :
          Numeral.power ⟨negative, [first], rest, some (power < 0, Text.Decimal.ofNat power.natAbs)⟩ = power := by
        by_cases hnegative : power < 0
        · simp only [Numeral.power, hnegative, decide_true, ofDigitChars_ofNat]
          omega
        · simp only [Numeral.power, hnegative, decide_false, ofDigitChars_ofNat]
          omega
      rw [hpower, exponent]
      dsimp only
      omega

/-- A decimal is not beyond a number of quarters of a unit. -/
def Within (d : Decimal) (bound : Nat) : Prop := d.quarters.1 ≤ bound * d.quarters.2

theorem Within.mono {a b : Nat} (h : d.Within a) (hab : a ≤ b) : d.Within b :=
  Nat.le_trans h (Nat.mul_le_mul_right _ hab)

/-- **The numeral of a decimal that is not beyond the reach of numbers is read.** -/
theorem Form.exists_number (hform : d.Form negative n) (h : d.Within Numeral.reach) :
    ∃ m, n.number = some (.float ⟨n.negative, m⟩) := by
  refine Numeral.exists_number hform.whole_le hform.float ?_
  obtain ⟨zeros, hsignificand, hexponent⟩ := hform.value
  have hpos : 0 < 10 ^ (-d.exponent).toNat := Nat.pow_pos (by decide)
  have hsum : zeros + n.power.toNat + (-d.exponent).toNat =
      d.exponent.toNat + (n.fraction.length + (-n.power).toNat) := by omega
  have hscaled : d.digits * 10 ^ d.exponent.toNat * (4 * one) ≤ Numeral.reach * 10 ^ (-d.exponent).toNat := h
  refine Nat.le_of_mul_le_mul_right ?_ hpos
  calc n.significand * 10 ^ n.power.toNat * (4 * one) * 10 ^ (-d.exponent).toNat
      = d.digits * 10 ^ (zeros + n.power.toNat + (-d.exponent).toNat) * (4 * one) := by
        rw [hsignificand, Nat.mul_right_comm, Nat.mul_assoc d.digits, Nat.mul_assoc d.digits, ← Nat.pow_add,
          ← Nat.pow_add]
    _ = d.digits * 10 ^ d.exponent.toNat * (4 * one) * 10 ^ (n.fraction.length + (-n.power).toNat) := by
        rw [hsum, Nat.pow_add 10 d.exponent.toNat, ← Nat.mul_assoc d.digits, Nat.mul_right_comm]
    _ ≤ Numeral.reach * 10 ^ (-d.exponent).toNat * 10 ^ (n.fraction.length + (-n.power).toNat) :=
        Nat.mul_le_mul_right _ hscaled
    _ = Numeral.reach * 10 ^ (n.fraction.length + (-n.power).toNat) * 10 ^ (-d.exponent).toNat := Nat.mul_right_comm ..

/-! ## Zeros at the end -/

theorem Within.strip {bound : Nat} (fuel : Nat) (h : d.Within bound) : (d.strip fuel).Within bound := by
  induction fuel generalizing d with
  | zero => exact h
  | succ fuel ih =>
    rw [Decimal.strip]
    split
    · rename_i hzero
      refine ih ?_
      have hdigits : d.digits = d.digits / 10 * 10 := by omega
      have hscaled : d.digits * 10 ^ d.exponent.toNat * (4 * one) ≤ bound * 10 ^ (-d.exponent).toNat := h
      change d.digits / 10 * 10 ^ (d.exponent + 1).toNat * (4 * one) ≤ bound * 10 ^ (-(d.exponent + 1)).toNat
      generalize 4 * one = unit at hscaled ⊢
      rw [hdigits] at hscaled
      rcases Int.lt_or_le d.exponent 0 with hlow | hhigh
      · have hbelow : (-d.exponent).toNat = (-(d.exponent + 1)).toNat + 1 := by omega
        have habove : d.exponent.toNat = 0 ∧ (d.exponent + 1).toNat = 0 := by omega
        rw [hbelow, habove.1, Nat.pow_zero, Nat.mul_one, Nat.pow_succ, ← Nat.mul_assoc,
          Nat.mul_right_comm (d.digits / 10) 10] at hscaled
        rw [habove.2, Nat.pow_zero, Nat.mul_one]
        exact Nat.le_of_mul_le_mul_right hscaled (by decide : 0 < 10)
      · have habove : (d.exponent + 1).toNat = d.exponent.toNat + 1 := by omega
        have hbelow : (-d.exponent).toNat = 0 ∧ (-(d.exponent + 1)).toNat = 0 := by omega
        rw [hbelow.1, Nat.mul_assoc _ 10, ← Nat.pow_succ'] at hscaled
        rw [habove, hbelow.2]
        exact hscaled
    · exact h

theorem digits_strip {fuel : Nat} (h : d.digits ≠ 0) : (d.strip fuel).digits ≠ 0 := by
  induction fuel generalizing d with
  | zero => exact h
  | succ fuel ih =>
    rw [Decimal.strip]
    split
    · refine ih ?_
      dsimp only
      omega
    · exact h

end Decimal

/-! ## The shortest decimal -/

section Shortest

variable {m : Nat} {d : Decimal}

theorem place_le (h : m ≠ 0) : 1 <<< lastPlace m ≤ m := by
  rw [one_shiftLeft]
  exact (Nat.pow_le_pow_right (by decide) (lastPlace_le m)).trans (Nat.log2_self_le h)

theorem interval_low_pos (h : m ≠ 0) : 0 < (interval m).low := by
  have hplace := place_le h
  rw [interval]
  dsimp only
  split <;> omega

theorem interval_high_le (h : m ≤ secondGreatest) : (interval m).high ≤ Numeral.reach := by
  have hplace : lastPlace m ≤ places + 971 := by
    have hlog : m.log2 ≤ places + 1023 := by
      refine (log2_mono (b := secondGreatest) h).trans ?_
      decide +kernel
    exact Nat.sub_le_sub_right hlog 52
  have hshift : 1 <<< lastPlace m ≤ 1 <<< (places + 971) := by
    rw [one_shiftLeft, one_shiftLeft]
    exact Nat.pow_le_pow_right (by decide) hplace
  exact Nat.add_le_add (Nat.mul_le_mul_left 4 h) (Nat.mul_le_mul_left 2 hshift)

theorem Interval.ends_of_holds {i : Interval} {num den : Nat} (h : i.holds num den = true) :
    i.low * den ≤ num ∧ num ≤ i.high * den := by
  unfold holds at h
  split at h <;> rw [Bool.and_eq_true, decide_eq_true_iff, decide_eq_true_iff] at h
  · exact h
  · exact ⟨h.1.le, h.2.le⟩

/-- Of two points one that has a property is taken, if there is one. -/
theorem holds_of_choice (reads : Decimal → Bool) {down up : Decimal} {nearer : Prop} [Decidable nearer]
    (h : (match reads down, reads up with
      | false, false => none
      | true, false => some down
      | false, true => some up
      | true, true => if nearer then some down else some up) = some d) : reads d = true := by
  split at h
  · cases h
  · cases h
    assumption
  · cases h
    assumption
  · split at h <;> cases h <;> assumption

/-- A decimal that is found rounds back. -/
theorem holds_of_onGrid {exponent : Int} (h : onGrid m exponent = some d) :
    (interval m).holds d.quarters.1 d.quarters.2 = true := by
  unfold onGrid at h
  exact holds_of_choice (fun d => (interval m).holds d.quarters.1 d.quarters.2) h

theorem holds_of_search {exponent : Int} {count : Nat} (h : search m exponent count = some d) :
    (interval m).holds d.quarters.1 d.quarters.2 = true := by
  induction count generalizing exponent with
  | zero => cases h
  | succ count ih =>
    rw [search] at h
    cases hgrid : onGrid m exponent with
    | none =>
      rw [hgrid] at h
      exact ih h
    | some found =>
      rw [hgrid] at h
      cases h
      exact holds_of_onGrid hgrid

/-- The shortest decimal does not round to a greater magnitude. -/
theorem within_shortest (m : Nat) : (shortest m).Within (interval m).high := by
  refine Decimal.Within.strip 17 ?_
  cases hsearch : search m (order m - 1) 17 with
  | none => exact (Nat.le_of_eq (by simp [Decimal.quarters])).trans (Nat.zero_le _)
  | some d => exact (Interval.ends_of_holds (holds_of_search hsearch)).2

/-- The shortest decimal is positive; if none were found, it would not be written in positional form. -/
theorem shortest_digits (h : m ≠ 0) (hzero : (shortest m).digits = 0) : 16 ≤ (shortest m).exponent := by
  cases hsearch : search m (order m - 1) 17 with
  | none =>
    rw [shortest, hsearch]
    decide
  | some d =>
    refine absurd hzero ?_
    rw [shortest, hsearch, Option.getD_some]
    refine Decimal.digits_strip fun hdigits => ?_
    have hlow := (Interval.ends_of_holds (holds_of_search hsearch)).1
    rw [Decimal.quarters, hdigits] at hlow
    have hpos : 0 < (interval m).low * Nat.pow 10 (-d.exponent).toNat :=
      Nat.mul_pos (interval_low_pos h) (Nat.pow_pos (by decide))
    simp only [Nat.zero_mul] at hlow
    omega

end Shortest

/-! ## Floating point numbers -/

section Numbers

variable {x : Binary64}

/-- A floating point number as a numeral. -/
def numeral (x : Binary64) : Numeral :=
  if x.magnitude = 0 then ⟨x.negative, ['0'], ['0'], none⟩ else (shortest x.magnitude).numeral x.negative

/-- The text of a floating point number is that of its numeral. -/
theorem chars_numeral (x : Binary64) : x.numeral.chars = x.text := by
  rw [numeral, text]
  split
  · rfl
  · exact Decimal.chars_numeral _ _

theorem proper_numeral (x : Binary64) : x.numeral.Proper := by
  rw [numeral]
  split
  · have hzero : ∀ c ∈ ['0'], c.isDigit = true := List.forall_mem_singleton.2 rfl
    exact ⟨hzero, List.cons_ne_nil _ _, fun _ => rfl, hzero, by simp⟩
  · rename_i hne
    exact (Decimal.form_numeral _ _).proper (shortest_digits hne)

/-- The numeral of a floating point number is not read as an integer. -/
theorem number_numeral_cases (x : Binary64) :
    x.numeral.number = none ∨ ∃ y : Binary64, x.numeral.number = some (.float y) := by
  have hform : Nat.ofDigitChars 10 x.numeral.whole 0 ≤ Text.Decimal.maxNat64 ∧
      (x.numeral.fraction ≠ [] ∨ x.numeral.exponent ≠ none) := by
    rw [numeral]
    split
    · exact ⟨Nat.zero_le _, .inl (List.cons_ne_nil _ _)⟩
    · have hform := Decimal.form_numeral x.negative (shortest x.magnitude)
      exact ⟨hform.whole_le, hform.float⟩
  obtain ⟨taken, v, hnumber, -⟩ := Numeral.number_of_float hform.1 hform.2
  rw [hnumber]
  cases Numeral.magnitude v (x.numeral.power - (taken : Nat)) with
  | none => exact .inl rfl
  | some m => exact .inr ⟨_, rfl⟩

/-- The shortest decimal of the greatest magnitude is read, although a greater one of as many digits is not. -/
theorem isSome_number_greatest (negative : Bool) :
    ((shortest greatest).numeral negative).number.isSome = true := by
  revert negative
  decide +kernel

/-- **The numeral of a number that can be represented is read as a number.** -/
theorem exists_number_numeral (h : Represented x.magnitude) : ∃ y : Binary64, x.numeral.number = some (.float y) := by
  rw [numeral]
  split
  · have hzero : Numeral.significand ⟨x.negative, ['0'], ['0'], none⟩ = 0 := rfl
    obtain ⟨m, hm⟩ := Numeral.exists_number (n := ⟨x.negative, ['0'], ['0'], none⟩) (Nat.zero_le _)
      (.inl (List.cons_ne_nil _ _)) (by rw [hzero, Nat.zero_mul, Nat.zero_mul]; exact Nat.zero_le _)
    exact ⟨_, hm⟩
  · have hform := Decimal.form_numeral x.negative (shortest x.magnitude)
    rcases h.eq_greatest_or_le with hgreatest | hle
    · obtain ⟨taken, v, hnumber, -⟩ := Numeral.number_of_float hform.whole_le hform.float
      have hsome := isSome_number_greatest x.negative
      rw [← hgreatest, hnumber, Option.isSome_map] at hsome
      obtain ⟨m, hm⟩ := Option.isSome_iff_exists.1 hsome
      exact ⟨_, by rw [hnumber, hm, Option.map_some]⟩
    · obtain ⟨m, hm⟩ := hform.exists_number ((within_shortest _).mono (interval_high_le hle))
      exact ⟨_, hm⟩

end Numbers

end Binary64

end Provision
