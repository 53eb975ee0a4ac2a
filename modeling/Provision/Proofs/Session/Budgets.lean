import Mathlib.Algebra.BigOperators.Ring.Finset
import Mathlib.Algebra.Order.BigOperators.Group.Finset
import Mathlib.Algebra.Order.Ring.Rat
import Mathlib.Data.Rat.Floor
import Mathlib.Tactic.Linarith
import Provision.Proofs.Session.Attempts
import Provision.Session.Script

/-!
# What a budget allows

A budget for a time starts with the usual pauses; its first pause may be set again and again (`Budget.within`). Its
pauses double, up to the longest one, which is never shorter than the first (`Budget.Doubling`), so they never get
shorter. Time passes during the pauses, no pause is shorter than half of the first one, and the last pause that is made
ends in time: that bounds the number of attempts. Main statement: attempts that never stop to promise another one end
with a time that is over, after at most `1 + 2 * timeout / first` attempts, and all pauses together fit in the time
(`Run.retried_within`).
-/

namespace Provision

open Finset (range sum_le_sum sum_range_succ sum_range_zero mem_range)

namespace Budget

/-! ## Budgets and their pauses -/

/-- The budget for a time, with the usual pauses and then the given first ones, the last of which counts. -/
def within (timeout : Nat) (firsts : List Nat) : Budget := firsts.foldl withInitialDelay { timeout := timeout }

/-- A budget whose pauses double, up to a longest one that is not shorter than the first. -/
structure Doubling (b : Budget) : Prop where
  multiplier_eq : b.multiplier = 2
  first_le : b.initialDelay ≤ b.maxDelay

theorem Doubling.withInitialDelay {b : Budget} (h : b.Doubling) (delay : Nat) :
    (b.withInitialDelay delay).Doubling :=
  ⟨h.multiplier_eq, Nat.le_max_right _ _⟩

/-- What holds of a budget and is kept by another first pause holds whatever first pauses are set. -/
theorem foldl_withInitialDelay {P : Budget → Prop} (hstep : ∀ b delay, P b → P (b.withInitialDelay delay)) :
    ∀ (firsts : List Nat) (b : Budget), P b → P (firsts.foldl withInitialDelay b)
  | [], _, h => h
  | delay :: firsts, b, h => foldl_withInitialDelay hstep firsts _ (hstep b delay h)

theorem within_doubling (timeout : Nat) (firsts : List Nat) : (within timeout firsts).Doubling :=
  have husual : (500 * Time.millisecond : Nat) ≤ 10 * Time.second := by decide
  foldl_withInitialDelay (fun _ delay h => h.withInitialDelay delay) firsts _ ⟨rfl, husual⟩

@[simp]
theorem within_timeout (timeout : Nat) (firsts : List Nat) : (within timeout firsts).timeout = timeout :=
  foldl_withInitialDelay (P := fun b => b.timeout = timeout) (fun _ _ h => h) firsts _ rfl

theorem nextDelay_le_maxDelay (b : Budget) (delay : Rat) : b.nextDelay delay ≤ b.maxDelay := by
  unfold nextDelay
  split
  · assumption
  · exact le_refl _

namespace Doubling

variable {b : Budget} (h : b.Doubling)

include h

/-- A pause is not shorter than the one before. -/
theorem le_nextDelay {delay : Rat} (hnonneg : 0 ≤ delay) (hle : delay ≤ b.maxDelay) : delay ≤ b.nextDelay delay := by
  unfold nextDelay
  rw [h.multiplier_eq]
  split
  · linarith
  · exact hle

/-- **The pauses lie between the first and the longest one.** -/
theorem delays_bounds (i : Nat) :
    (b.initialDelay : Rat) ≤ b.delays b.initialDelay i ∧ b.delays b.initialDelay i ≤ b.maxDelay := by
  induction i with
  | zero => exact ⟨le_refl _, Nat.cast_le.2 h.first_le⟩
  | succ i ih =>
    rw [delays_succ]
    have hnonneg : 0 ≤ b.delays b.initialDelay i := le_trans (Nat.cast_nonneg _) ih.1
    exact ⟨le_trans ih.1 (h.le_nextDelay hnonneg ih.2), b.nextDelay_le_maxDelay _⟩

/-- **The pauses never get shorter.** -/
theorem delays_le_succ (i : Nat) : b.delays b.initialDelay i ≤ b.delays b.initialDelay (i + 1) := by
  obtain ⟨hfirst, hmax⟩ := h.delays_bounds i
  rw [delays_succ]
  exact h.le_nextDelay (le_trans (Nat.cast_nonneg _) hfirst) hmax

end Doubling

end Budget

/-! ## Stretched pauses -/

theorem Jitter.le_stretch (j : Jitter) (delay : Rat) : delay * j.factor ≤ (j.stretch delay : Rat) := by
  have hceil : delay * j.factor ≤ ((delay * j.factor).ceil : Rat) := Rat.le_ceil
  have hnat : (delay * j.factor).ceil ≤ ((delay * j.factor).ceil.toNat : Int) := Int.self_le_toNat _
  exact le_trans hceil (by exact_mod_cast hnat)

/-- No pause is shorter than the half of what it should be. -/
theorem Jitter.le_two_mul_stretch (j : Jitter) {first : Nat} {delay : Rat} (h : (first : Rat) ≤ delay) :
    first ≤ 2 * j.stretch delay := by
  have hstretch := j.le_stretch delay
  have hhalf : delay * (1 / 2) ≤ delay * j.factor :=
    mul_le_mul_of_nonneg_left j.half_le (le_trans (Nat.cast_nonneg _) h)
  have hreal : (first : Rat) ≤ 2 * (j.stretch delay : Rat) := by linarith
  exact_mod_cast hreal

namespace Run

variable {α : Type}

/-! ## Time that passes -/

/-- The time of the pauses between the first attempts, up to the one with index `n`. -/
def paused (out : Surroundings) (b : Budget) (act : Run α) (delay : Rat) (begun : Nat → Session) (n : Nat) : Nat :=
  ∑ i ∈ range n, pauseAfter out act (b.delays delay i) (begun i)

variable {out : Surroundings} {b : Budget} {operation : String} {act : Run α} {start number repeated : Nat}
  {delay : Rat} {s : Session} {begun : Nat → Session} {result : Except Failure α × Session}

theorem Repeats.now {next : Session} (h : Repeats out b operation act start number delay s next) :
    next.now = (judged out act number s).now + pauseAfter out act delay s := by
  obtain ⟨e, -, -, -, rfl⟩ := h
  rfl

namespace Proceeds

variable (h : Proceeds out b operation act s.now number delay s repeated begun result)

include h

/-- When an attempt begins, the pauses before it have passed. -/
theorem paused_le_now {i : Nat} (hi : i ≤ repeated) : s.now + paused out b act delay begun i ≤ (begun i).now := by
  induction i with
  | zero =>
    rw [h.first]
    exact Nat.le_refl _
  | succ i ih =>
    have hbefore := ih (Nat.le_of_succ_le hi)
    have hjudged := now_le_judged out act (number + i) (begun i)
    rw [(h.repeats i hi).now, paused, sum_range_succ, ← paused]
    omega

/-- **When an attempt is judged, at least the pauses before it have passed.** -/
theorem paused_le_elapsed {i : Nat} (hi : i ≤ repeated) :
    paused out b act delay begun i ≤ elapsed out act s.now (number + i) (begun i) := by
  have hbegun := h.paused_le_now hi
  have hjudged := now_le_judged out act (number + i) (begun i)
  unfold elapsed
  omega

/-- **All pauses together fit in the time.** -/
theorem paused_le_timeout : paused out b act delay begun repeated ≤ b.timeout := by
  cases repeated with
  | zero => exact Nat.zero_le _
  | succ n =>
    obtain ⟨e, -, -, hfits, -⟩ := h.repeats n (Nat.lt_succ_self n)
    have hbefore := h.paused_le_elapsed (Nat.le_succ n)
    rw [paused, sum_range_succ, ← paused]
    omega

/-- **Pauses that are never shorter than a first one bound the number of attempts.** -/
theorem repeated_le {first : Nat} (hpos : 0 < first) (hdelays : ∀ i, (first : Rat) ≤ b.delays delay i) :
    repeated ≤ 2 * b.timeout / first := by
  have hsum : repeated * first ≤ 2 * paused out b act delay begun repeated := by
    have hterm : ∀ i ∈ range repeated, first ≤ 2 * pauseAfter out act (b.delays delay i) (begun i) :=
      fun i _ => (out.jitter _).le_two_mul_stretch (hdelays i)
    calc repeated * first = ∑ _i ∈ range repeated, first := by simp
      _ ≤ ∑ i ∈ range repeated, 2 * pauseAfter out act (b.delays delay i) (begun i) := sum_le_sum hterm
      _ = 2 * paused out b act delay begun repeated := by rw [paused, Finset.mul_sum]
  have hfits := h.paused_le_timeout
  rw [Nat.le_div_iff_mul_le hpos]
  omega

/-- Attempts that all promise another one end with a time that is over. -/
theorem timedOut (hact : ∀ s, Transient (act s).1) : ∃ e, (act (begun repeated)).1 = .error e ∧
    result.1 = .error (.timedOut operation (elapsed out act s.now (number + repeated) (begun repeated)) e) := by
  rcases h.concludes with ⟨hfinal, -⟩ | ⟨e, he, -, -, rfl⟩
  · exact absurd (hact _) hfinal
  · exact ⟨e, he, rfl⟩

end Proceeds

/-- The stretched pauses before they are rounded up to whole nanoseconds. -/
theorem stretched_le_paused (out : Surroundings) (b : Budget) (act : Run α) (delay : Rat) (begun : Nat → Session)
    (n : Nat) : ∑ i ∈ range n, b.delays delay i * (out.jitter (act (begun i)).2.pauses).factor ≤
      (paused out b act delay begun n : Rat) := by
  rw [paused, Nat.cast_sum]
  exact sum_le_sum fun i _ => (out.jitter _).le_stretch (b.delays delay i)

/-- **Attempts that all promise another one end within their budget:** whatever first pauses are set, as long as the
last of them is a pause at all, and however pauses are stretched, the time is over after at most
`1 + 2 * timeout / first` attempts. The pauses never get shorter and never longer than the longest one, at least the
pauses pass until an attempt is judged, and all of them together fit in the time. -/
theorem retried_within (out : Surroundings) (timeout : Nat) (firsts : List Nat) (operation : String) (act : Run α)
    (s : Session) (hpos : 0 < (Budget.within timeout firsts).initialDelay) (hact : ∀ s, Transient (act s).1) :
    let b := Budget.within timeout firsts
    let first := b.initialDelay
    b.multiplier = 2 ∧ first ≤ b.maxDelay ∧
    (∀ i, b.delays first i ≤ b.delays first (i + 1) ∧ b.delays first i ≤ b.maxDelay) ∧
    ∃ repeated begun e,
      Proceeds out b operation act s.now 1 first s repeated begun (retried out b operation act s) ∧
      (act (begun repeated)).1 = .error e ∧
      (retried out b operation act s).1 =
        .error (.timedOut operation (elapsed out act s.now (1 + repeated) (begun repeated)) e) ∧
      repeated + 1 ≤ 1 + 2 * timeout / first ∧
      (∀ i ≤ repeated, paused out b act first begun i ≤ elapsed out act s.now (1 + i) (begun i)) ∧
      ∑ i ∈ range repeated, b.delays first i * (out.jitter (act (begun i)).2.pauses).factor ≤
        (paused out b act first begun repeated : Rat) ∧
      paused out b act first begun repeated ≤ timeout := by
  intro b first
  have hb : b.Doubling := Budget.within_doubling timeout firsts
  have htime : b.timeout = timeout := Budget.within_timeout timeout firsts
  obtain ⟨repeated, begun, h⟩ := attempts_proceeds out b operation act s.now 1 first s
  obtain ⟨e, he, hover⟩ := h.timedOut hact
  have hcount : repeated ≤ 2 * b.timeout / first := h.repeated_le hpos fun i => (hb.delays_bounds i).1
  have hpaused := h.paused_le_timeout
  rw [htime] at hcount hpaused
  refine ⟨hb.multiplier_eq, hb.first_le, fun i => ⟨hb.delays_le_succ i, (hb.delays_bounds i).2⟩,
    repeated, begun, e, h, he, hover, by omega, fun i hi => h.paused_le_elapsed hi,
    stretched_le_paused out b act first begun repeated, hpaused⟩

/-- Requests that never get an answer, with two seconds for them and a first pause of a quarter of a second. -/
theorem retried_within_two_seconds :
    let out := Script.surroundings [] (fun _ => .unreachable) 0
    let act : Run Unit := fun s => (.error .unanswered, s)
    let b := Budget.within (2 * Time.second) [20 * Time.second, 250 * Time.millisecond]
    b.initialDelay = 250 * Time.millisecond ∧ b.maxDelay = 20 * Time.second ∧ (∀ s, Transient (act s).1) ∧
      ∃ repeated begun e,
        Proceeds out b "ask" act 0 1 b.initialDelay {} repeated begun (retried out b "ask" act {}) ∧
        (retried out b "ask" act {}).1 =
          .error (.timedOut "ask" (elapsed out act 0 (1 + repeated) (begun repeated)) e) ∧
        repeated + 1 ≤ 17 ∧ paused out b act b.initialDelay begun repeated ≤ 2 * Time.second := by
  intro out act b
  have hact : ∀ s, Transient (act s).1 := fun s => ⟨.unanswered, rfl, rfl⟩
  obtain ⟨-, -, -, repeated, begun, e, hproceeds, -, hover, hcount, -, -, hpaused⟩ :=
    retried_within out (2 * Time.second) [20 * Time.second, 250 * Time.millisecond] "ask" act {} (by decide) hact
  exact ⟨rfl, rfl, hact, repeated, begun, e, hproceeds, hover, hcount, hpaused⟩

end Run

end Provision
