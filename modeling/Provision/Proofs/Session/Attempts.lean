import Mathlib.Tactic.Choose
import Provision.Proofs.Session.Settled

/-!
# How repeated attempts go

Attempts are numbered from one and begin in sessions that follow each other. An attempt that is repeated failed with a
promise of another one, and the pause after it fitted in the time (`Repeats`). The last attempt is handed on as it is,
or its failure promises another attempt for which there is no time (`Concludes`). Main statement: from every session,
repeated attempts go in this way; a failure that says that something does not exist is never repeated, and what lies
behind a time that is over is never a time that is over (`retried_proceeds`). Attempts that all end alike are handed on
as they end, or their last failure stands behind a time that is over (`retried_of_constant`).
-/

namespace Provision

namespace Failure

/-- What lies behind a time that is over promised another attempt. -/
def WellTimed : Failure → Prop
  | .timedOut _ _ last => last.retryable = true
  | _ => True

theorem ne_timedOut_of_retryable {e : Failure} (h : e.retryable = true) (operation : String) (elapsed : Nat)
    (last : Failure) : e ≠ .timedOut operation elapsed last := by
  rintro rfl
  cases h

end Failure

namespace Run

variable {α : Type}

/-! ## One attempt -/

/-- The session in which an attempt that failed is judged: the clock did not go back, and it may have moved on. -/
def judged (out : Surroundings) (act : Run α) (number : Nat) (s : Session) : Session :=
  ((act s).2.notBefore s.now).later (out.clock.tick (act s).2.pauses number)

/-- The time from `start` until an attempt that began in a session is judged. -/
def elapsed (out : Surroundings) (act : Run α) (start number : Nat) (s : Session) : Nat :=
  (judged out act number s).now - start

/-- The stretched pause after an attempt that began in a session. -/
def pauseAfter (out : Surroundings) (act : Run α) (delay : Rat) (s : Session) : Nat :=
  (out.jitter (act s).2.pauses).stretch delay

/-- The clock does not go back while an attempt is made and judged. -/
theorem now_le_judged (out : Surroundings) (act : Run α) (number : Nat) (s : Session) :
    s.now ≤ (judged out act number s).now :=
  Nat.le_trans (Nat.le_max_right _ _) (Nat.le_add_right _ _)

section

variable (out : Surroundings) (b : Budget) (operation : String) (act : Run α) (start number : Nat) (delay : Rat)

/-- **An attempt is repeated:** it failed with a promise of another attempt, and the pause fits in the time. The next
attempt begins after the pause. -/
def Repeats (s next : Session) : Prop :=
  ∃ e, (act s).1 = .error e ∧ e.retryable = true ∧
    elapsed out act start number s + pauseAfter out act delay s ≤ b.timeout ∧
    next = ((judged out act number s).logged (again operation number e (pauseAfter out act delay s))).pause
      (pauseAfter out act delay s)

/-- **An attempt is the last one:** it is handed on as it is, or it failed with a promise of another attempt, but the
pause does not fit in the time. -/
def Concludes (s : Session) (result : Except Failure α × Session) : Prop :=
  (¬Transient (act s).1 ∧ result = act s) ∨
    ∃ e, (act s).1 = .error e ∧ e.retryable = true ∧
      b.timeout < elapsed out act start number s + pauseAfter out act delay s ∧
      result = (.error (.timedOut operation (elapsed out act start number s) e),
        (judged out act number s).logged (exhausted operation number e))

/-- **The course of attempts**: how many are repeated, and the session in which each begins. -/
structure Proceeds (s : Session) (repeated : Nat) (begun : Nat → Session) (result : Except Failure α × Session) :
    Prop where
  first : begun 0 = s
  repeats : ∀ i < repeated,
    Repeats out b operation act start (number + i) (b.delays delay i) (begun i) (begun (i + 1))
  concludes : Concludes out b operation act start (number + repeated) (b.delays delay repeated) (begun repeated) result

end

variable {out : Surroundings} {b : Budget} {operation : String} {act : Run α} {start number repeated : Nat}
  {delay : Rat} {s : Session} {begun : Nat → Session} {result : Except Failure α × Session}

theorem Proceeds.last (h : Concludes out b operation act start number delay s result) :
    Proceeds out b operation act start number delay s 0 (fun _ => s) result :=
  ⟨rfl, fun _ hi => absurd hi (Nat.not_lt_zero _), h⟩

/-- One more attempt at the front. -/
theorem Proceeds.cons {next : Session} (h : Repeats out b operation act start number delay s next)
    (hnext : Proceeds out b operation act start (number + 1) (b.nextDelay delay) next repeated begun result) :
    Proceeds out b operation act start number delay s (repeated + 1) (fun | 0 => s | i + 1 => begun i) result where
  first := rfl
  repeats := fun i hi => by
    cases i with
    | zero =>
      dsimp only
      rw [hnext.first]
      exact h
    | succ i =>
      have hrest := hnext.repeats i (Nat.lt_of_succ_lt_succ hi)
      rw [Nat.add_assoc, Nat.add_comm 1 i] at hrest
      exact hrest
  concludes := by
    have hrest := hnext.concludes
    rw [Nat.add_assoc, Nat.add_comm 1 repeated] at hrest
    exact hrest

/-- The attempts from any one on. -/
theorem attempts_proceeds (out : Surroundings) (b : Budget) (operation : String) (act : Run α) (start number : Nat)
    (delay : Rat) (s : Session) : ∃ repeated begun,
      Proceeds out b operation act start number delay s repeated begun
        (attempts out b operation act start number delay s) := by
  fun_induction attempts out b operation act start number delay s with
  | case1 number delay s a t hs =>
    exact ⟨0, _, .last (.inl ⟨by rw [hs]; exact not_transient_ok a, hs.symm⟩)⟩
  | case2 number delay s e t hs he u pause late =>
    have hu : judged out act number s = u := by rw [judged, hs]
    have hpause : pauseAfter out act delay s = pause := by rw [pauseAfter, hs]
    refine ⟨0, _, .last (.inr ⟨e, by rw [hs], he, ?_, ?_⟩)⟩
    · rw [elapsed, hu, hpause]
      exact late
    · rw [elapsed, hu]
  | case3 number delay s e t hs he u pause late ih =>
    have hu : judged out act number s = u := by rw [judged, hs]
    have hpause : pauseAfter out act delay s = pause := by rw [pauseAfter, hs]
    obtain ⟨repeated, begun, hrest⟩ := ih
    refine ⟨repeated + 1, _, .cons ⟨e, by rw [hs], he, ?_, ?_⟩ hrest⟩
    · rw [elapsed, hu, hpause]
      exact Nat.not_lt.1 late
    · rw [hu, hpause]
  | case4 number delay s e t hs he =>
    exact ⟨0, _, .last (.inl ⟨by rw [hs]; exact not_transient_error he, hs.symm⟩)⟩

/-- The last attempt is the one that succeeds. -/
theorem attempts_of_ok {a : α} {t : Session} (h : act s = (.ok a, t)) :
    attempts out b operation act start number delay s = (.ok a, t) := by
  rw [attempts, h]

/-- An attempt that promises another one is followed by it if the pause fits in the time. -/
theorem attempts_of_fits (b : Budget) (operation : String) {e : Failure} {t : Session} (h : act s = (.error e, t))
    (promising : e.retryable = true)
    (fits : elapsed out act start number s + pauseAfter out act delay s ≤ b.timeout) :
    ∃ next, Repeats out b operation act start number delay s next ∧
      attempts out b operation act start number delay s =
        attempts out b operation act start (number + 1) (b.nextDelay delay) next := by
  refine ⟨_, ⟨e, by rw [h], promising, fits, rfl⟩, ?_⟩
  rw [elapsed, judged, pauseAfter, h] at fits
  rw [attempts, judged, pauseAfter, h]
  dsimp only
  rw [if_pos promising, if_neg (Nat.not_lt.2 fits)]

/-! ## All attempts -/

/-- A failure that says that something does not exist is the last one, and is handed on as it is. -/
theorem Proceeds.of_saysAbsent (h : Proceeds out b operation act start number delay s repeated begun result) {i : Nat}
    (hi : i ≤ repeated) {e : Failure} (he : (act (begun i)).1 = .error e) (habs : e.saysAbsent = true) :
    i = repeated ∧ result = act (begun i) := by
  have hno : e.retryable = false := by
    refine Bool.eq_false_iff.2 fun hr => ?_
    rw [Failure.not_absent_of_retryable e hr] at habs
    cases habs
  have hlast : ∀ e', (act (begun i)).1 = .error e' → ¬e'.retryable = true := by
    intro e' he'
    rw [he] at he'
    cases he'
    simp [hno]
  rcases Nat.lt_or_eq_of_le hi with hlt | rfl
  · obtain ⟨e', he', hr, -⟩ := h.repeats i hlt
    exact absurd hr (hlast e' he')
  · rcases h.concludes with ⟨-, hres⟩ | ⟨e', he', hr, -⟩
    · exact ⟨rfl, hres⟩
    · exact absurd hr (hlast e' he')

/-- If what lies behind the times that are over in single attempts promised another attempt, then so it is for all
attempts together. -/
theorem Proceeds.wellTimed (h : Proceeds out b operation act start number delay s repeated begun result)
    (hact : ∀ s e, (act s).1 = .error e → e.WellTimed) {e : Failure} (he : result.1 = .error e) : e.WellTimed := by
  rcases h.concludes with ⟨-, rfl⟩ | ⟨e', -, hr, -, rfl⟩
  · exact hact _ e he
  · cases he
    exact hr

/-! ## What the attempts send -/

theorem Repeats.exchanges {next : Session} (h : Repeats out b operation act start number delay s next) :
    next.exchanges = (act s).2.exchanges := by
  obtain ⟨e, -, -, -, rfl⟩ := h
  rfl

theorem Concludes.exchanges (h : Concludes out b operation act start number delay s result) :
    result.2.exchanges = (act s).2.exchanges := by
  rcases h with ⟨-, rfl⟩ | ⟨e, -, -, -, rfl⟩
  · rfl
  · rfl

/-- **The attempts send one after the other what each of them sends alone**: `sent` has the exchanges of each attempt,
in their order. -/
theorem Proceeds.exchanges {P : List Exchange → Except Failure α → Prop}
    (h : Proceeds out b operation act start number delay s repeated begun result)
    (hact : act.Ensures fun xs r => P xs.reverse r) :
    ∃ sent : Nat → List Exchange, (∀ i, P (sent i) (act (begun i)).1) ∧
      result.2.exchanges = ((List.range (repeated + 1)).flatMap sent).reverse ++ s.exchanges := by
  choose added hadded hP using hact
  have hbegun : ∀ i ≤ repeated, (begun i).exchanges =
      ((List.range i).flatMap fun i => (added (begun i)).reverse).reverse ++ s.exchanges := by
    intro i hi
    induction i with
    | zero =>
      rw [h.first]
      rfl
    | succ i ih =>
      rw [(h.repeats i hi).exchanges, hadded, ih (Nat.le_of_succ_le hi), List.range_succ, List.flatMap_append,
        List.reverse_append]
      simp only [List.flatMap_cons, List.flatMap_nil, List.append_nil, List.reverse_reverse, List.append_assoc]
  refine ⟨fun i => (added (begun i)).reverse, fun i => hP (begun i), ?_⟩
  rw [h.concludes.exchanges, hadded, hbegun repeated (Nat.le_refl _), List.range_succ, List.flatMap_append,
    List.reverse_append]
  simp only [List.flatMap_cons, List.flatMap_nil, List.append_nil, List.reverse_reverse, List.append_assoc]

/-! ## Attempts that always end in the same way -/

/-- Attempts that always end in the same way hand that on. -/
theorem retried_of_constant {r : Except Failure α} (h : ∀ s, (act s).1 = r) (out : Surroundings) (b : Budget)
    (operation : String) (s : Session) : HandedOn b operation r (retried out b operation act s).1 := by
  obtain ⟨repeated, begun, hproceeds⟩ := attempts_proceeds out b operation act s.now 1 b.initialDelay s
  show HandedOn b operation r (attempts out b operation act s.now 1 b.initialDelay s).1
  rcases hproceeds.concludes with ⟨hfinal, hlast⟩ | ⟨e, he, hr, hlate, hlast⟩
  · rw [h] at hfinal
    rw [hlast, h]
    exact .final hfinal
  · rw [h] at he
    rw [hlast]
    exact .late e _ he hr ⟨repeated, _, hlate⟩

/-- **Repeated attempts are repeated only after failures that promise another attempt and while the pause fits in the
time; the last one is handed on as it is, or the time is over. A failure that says that something does not exist is
handed on at once, and what lies behind a time that is over promised another attempt.** -/
theorem retried_proceeds (out : Surroundings) (b : Budget) (operation : String) (act : Run α) (s : Session) :
    ∃ repeated begun,
      Proceeds out b operation act s.now 1 b.initialDelay s repeated begun (retried out b operation act s) ∧
      (∀ i ≤ repeated, ∀ e, (act (begun i)).1 = .error e → e.saysAbsent = true →
        i = repeated ∧ retried out b operation act s = act (begun i)) ∧
      (∀ e : Failure, e.retryable = true →
        e.saysAbsent = false ∧ ∀ operation elapsed last, e ≠ .timedOut operation elapsed last) ∧
      ((∀ s e, (act s).1 = .error e → e.WellTimed) →
        ∀ e, (retried out b operation act s).1 = .error e → e.WellTimed) := by
  obtain ⟨repeated, begun, h⟩ := attempts_proceeds out b operation act s.now 1 b.initialDelay s
  refine ⟨repeated, begun, h, fun i hi e he habs => h.of_saysAbsent hi he habs, fun e he => ?_,
    fun hact e he => h.wellTimed hact he⟩
  exact ⟨e.not_absent_of_retryable he, e.ne_timedOut_of_retryable he⟩

end Run

end Provision
