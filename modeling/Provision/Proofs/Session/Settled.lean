import Provision.Proofs.Session.Ensures
import Provision.Session.Retry

/-!
# How repeated attempts end

A result is handed on as it is, or, if it promises something of another attempt for which there is no time, as a time
that is over (`Run.HandedOn`). Repeated attempts hand on the result of the last one, and each attempt before it did
promise something (`Run.Ensures.retried`). An attempt of one request sends it, and what comes back counts as a judge
says; or the request cannot be written, and then no attempt sends anything (`Run.Attempt`). Main statement: attempts of
one request are settled by the last answer, or by the reason for which it cannot be written (`Run.Attempt.retried`). So
a result that says more than "try again" is the last answer's (`Settled.head?_iff`).
-/

namespace Provision

/-- A failure after which another attempt is made, if there is time. -/
def Transient {α : Type} (r : Except Failure α) : Prop := ∃ e, r = .error e ∧ e.retryable = true

theorem not_transient_ok {α : Type} (a : α) : ¬Transient (.ok a) := by
  rintro ⟨e, he, -⟩
  cases he

theorem not_transient_error {α : Type} {e : Failure} (h : ¬e.retryable = true) :
    ¬Transient (.error e : Except Failure α) := by
  rintro ⟨e', he, hr⟩
  cases he
  exact h hr

/-- Failures of the program itself, which no answer of the vendor stands for. -/
def Failure.own : Failure → Bool
  | .invalid _ | .timedOut _ _ _ => true
  | _ => false

theorem Failure.saysAbsent_of_own {e : Failure} (h : e.own = true) : e.saysAbsent = false := by
  cases e <;> simp_all [own, saysAbsent]

/-- Neither the promise of another attempt nor a failure of the program says that something does not exist. -/
theorem Failure.saysAbsent_of_inconclusive (e : Failure) (h : e.retryable = true ∨ e.own = true) :
    e.saysAbsent = false := h.elim e.not_absent_of_retryable saysAbsent_of_own

namespace Budget

/-- The pauses before they are stretched, beginning with a given one: each follows from the one before. -/
def delays (b : Budget) (first : Rat) : Nat → Rat
  | 0 => first
  | i + 1 => b.delays (b.nextDelay first) i

/-- Each pause follows from the one before. -/
theorem delays_succ (b : Budget) (first : Rat) (i : Nat) : b.delays first (i + 1) = b.nextDelay (b.delays first i) := by
  induction i generalizing first with
  | zero => rfl
  | succ i ih => exact ih (b.nextDelay first)

/-- **The time of a budget is over**: one of its pauses, as it is stretched, does not fit in it any more. -/
def Spent (b : Budget) (elapsed : Nat) : Prop :=
  ∃ (i : Nat) (j : Jitter), b.timeout < elapsed + j.stretch (b.delays b.initialDelay i)

end Budget

namespace Run

variable {α : Type} {b : Budget} {operation : String}

/-! ## Results that are handed on -/

/-- **A result as repeated attempts hand it on**: as it is, or, if it promises something of another attempt for which
there is no time, as a time that is over. -/
inductive HandedOn (b : Budget) (operation : String) (r : Except Failure α) : Except Failure α → Prop
  | final (h : ¬Transient r) : HandedOn b operation r r
  | late (e : Failure) (elapsed : Nat) (h : r = .error e) (promising : e.retryable = true)
      (spent : b.Spent elapsed) : HandedOn b operation r (.error (.timedOut operation elapsed e))

namespace HandedOn

variable {r r' : Except Failure α}

theorem eq_of_ok {a : α} (h : HandedOn b operation r (.ok a)) : r = .ok a := by
  cases h
  rfl

/-- A failure that promises another attempt is handed on as a time that is over. -/
theorem timedOut {e : Failure} (h : HandedOn b operation (.error e) r) (he : e.retryable = true) :
    ∃ elapsed, r = .error (.timedOut operation elapsed e) := by
  cases h with
  | final hfinal => exact absurd ⟨e, rfl, he⟩ hfinal
  | late e' elapsed heq promising =>
    cases heq
    exact ⟨elapsed, rfl⟩

/-- What promises nothing of another attempt is handed on as it is. -/
theorem eq_of_final (h : HandedOn b operation r r') (final : ¬Transient r) : r' = r := by
  cases h with
  | final => rfl
  | late e elapsed heq promising => exact absurd ⟨e, heq, promising⟩ final

/-- **What is not said by a promise of another attempt, nor by a failure of the program, is said by what is handed on
if and only if it was said before.** -/
theorem says_iff (h : HandedOn b operation r r') {D : Except Failure α → Prop}
    (hD : ∀ e, e.retryable = true ∨ e.own = true → ¬D (.error e)) : D r' ↔ D r := by
  cases h with
  | final => rfl
  | late e elapsed heq promising =>
    rw [heq]
    exact iff_of_false (hD _ (.inr rfl)) (hD e (.inl promising))

end HandedOn

/-! ## Attempts of any kind -/

/-- The attempts from any one on, with one of the pauses of the budget; the induction is on the attempts. -/
theorem Ensures.attempts {P : List Exchange → Except Failure α → Prop} {act : Run α} (h : act.Ensures P)
    (out : Surroundings) (b : Budget) (operation : String) (start number : Nat) (delay : Rat)
    (hdelay : ∃ i, delay = b.delays b.initialDelay i) (s : Session) :
    ∃ (last : List Exchange) (earlier : List (List Exchange)) (r : Except Failure α),
      (attempts out b operation act start number delay s).2.exchanges = last ++ (earlier.flatten ++ s.exchanges) ∧
        P last r ∧ HandedOn b operation r (attempts out b operation act start number delay s).1 ∧
        ∀ ys ∈ earlier, ∃ r', P ys r' ∧ Transient r' := by
  fun_induction Run.attempts out b operation act start number delay s with
  | case1 number delay s a t hs =>
    obtain ⟨xs, hxs, hP⟩ := h s
    rw [hs] at hxs hP
    exact ⟨xs, [], _, hxs, hP, .final (not_transient_ok a), by simp⟩
  | case2 number delay s e t hs he u pause late =>
    obtain ⟨xs, hxs, hP⟩ := h s
    rw [hs] at hxs hP
    obtain ⟨i, rfl⟩ := hdelay
    exact ⟨xs, [], _, hxs, hP, .late e _ rfl he ⟨i, _, late⟩, by simp⟩
  | case3 number delay s e t hs he u pause late ih =>
    obtain ⟨xs, hxs, hP⟩ := h s
    rw [hs] at hxs hP
    obtain ⟨i, rfl⟩ := hdelay
    obtain ⟨last, earlier, r, hexchanges, hlast, hr, hearlier⟩ := ih ⟨i + 1, (b.delays_succ _ i).symm⟩
    refine ⟨last, earlier ++ [xs], r, ?_, hlast, hr, fun ys hys => ?_⟩
    · rw [hexchanges, List.flatten_append, List.flatten_singleton, List.append_assoc, ← hxs]
      rfl
    · rcases List.mem_append.1 hys with hys | hys
      · exact hearlier ys hys
      · cases List.mem_singleton.1 hys
        exact ⟨_, hP, e, rfl, he⟩
  | case4 number delay s e t hs he =>
    obtain ⟨xs, hxs, hP⟩ := h s
    rw [hs] at hxs hP
    exact ⟨xs, [], _, hxs, hP, .final (not_transient_error he), by simp⟩

/-- **Repeated attempts hand on what the last one gives; each attempt before it promised another one.** -/
theorem Ensures.retried {P : List Exchange → Except Failure α → Prop} {act : Run α} (h : act.Ensures P)
    (out : Surroundings) (b : Budget) (operation : String) : (retried out b operation act).Ensures fun xs r =>
      ∃ (last : List Exchange) (earlier : List (List Exchange)) (r' : Except Failure α),
        xs = last ++ earlier.flatten ∧ P last r' ∧ HandedOn b operation r' r ∧
          ∀ ys ∈ earlier, ∃ r', P ys r' ∧ Transient r' := by
  intro s
  obtain ⟨last, earlier, r, hxs, hrest⟩ := h.attempts out b operation s.now 1 b.initialDelay ⟨0, rfl⟩ s
  exact ⟨last ++ earlier.flatten, by rw [List.append_assoc]; exact hxs, last, earlier, r, rfl, hrest⟩

end Run

/-! ## Attempts of one request -/

/-- **How attempts of one request end**, with their exchanges, the latest first, and the result. -/
inductive Settled {α : Type} (b : Budget) (operation : String) (cause : Failure → Prop)
    (judge : Exchange → Except Failure α) : List Exchange → Except Failure α → Prop
  /-- The last answer is handed on, and every answer before it promised another attempt. -/
  | answered {x : Exchange} {rest : List Exchange} {r : Except Failure α}
      (handed : Run.HandedOn b operation (judge x) r) (before : ∀ y ∈ rest, Transient (judge y)) :
      Settled b operation cause judge (x :: rest) r
  /-- The request cannot be written, so none is sent. -/
  | unwritten {e : Failure} {r : Except Failure α} (why : cause e) (handed : Run.HandedOn b operation (.error e) r) :
      Settled b operation cause judge [] r

namespace Settled

variable {α : Type} {b : Budget} {operation : String} {cause : Failure → Prop} {judge : Exchange → Except Failure α}
  {xs : List Exchange} {r : Except Failure α}

/-- **What is not said by a promise of another attempt, nor by a failure of the program, is said by the result if and
only if it is said by the last answer.** -/
theorem head?_iff (h : Settled b operation cause judge xs r)
    (hcause : ∀ e, cause e → e.retryable = true ∨ e.own = true) {D : Except Failure α → Prop}
    (hD : ∀ e, e.retryable = true ∨ e.own = true → ¬D (.error e)) : (∃ x, xs.head? = some x ∧ D (judge x)) ↔ D r := by
  cases h with
  | answered handed before => simp [handed.says_iff hD]
  | unwritten why handed =>
    rw [handed.says_iff hD]
    exact iff_of_false (by simp) (hD _ (hcause _ why))

/-- If no answer promises another attempt, there is one answer only. -/
theorem single (h : Settled b operation cause judge xs r) (hne : xs ≠ []) (final : ∀ x ∈ xs, ¬Transient (judge x)) :
    ∃ x, xs = [x] ∧ r = judge x := by
  cases h with
  | @answered x rest r handed before =>
    have hnone : rest = [] := List.eq_nil_iff_forall_not_mem.2 fun y hy =>
      final y (List.mem_cons_of_mem x hy) (before y hy)
    exact ⟨x, by rw [hnone], handed.eq_of_final (final x List.mem_cons_self)⟩
  | unwritten => exact absurd rfl hne

/-- A result comes from the last answer, and every answer before it promised another attempt. -/
theorem exists_cons {a : α} (h : Settled b operation cause judge xs (.ok a)) :
    ∃ x rest, xs = x :: rest ∧ judge x = .ok a ∧ ∀ y ∈ rest, Transient (judge y) := by
  generalize hr : Except.ok a = r at h
  cases h with
  | @answered x rest _ handed before =>
    subst hr
    exact ⟨x, rest, rfl, handed.eq_of_ok, before⟩
  | unwritten why handed =>
    subst hr
    cases handed.eq_of_ok

theorem of_ok {a : α} (h : Settled b operation cause judge xs (.ok a)) : ∃ x, xs.head? = some x ∧ judge x = .ok a := by
  obtain ⟨x, rest, rfl, hx, -⟩ := h.exists_cons
  exact ⟨x, rfl, hx⟩

end Settled

namespace Run

variable {α : Type} {cause : Failure → Prop} {judge : Exchange → Except Failure α} {Q : Exchange → Prop}
  {act : Run α}

/-- **Attempts of one request**: each sends a request for which `Q` holds, and is judged by what comes back; or, for a
`cause`, none sends anything. -/
def Attempt (Q : Exchange → Prop) (cause : Failure → Prop) (judge : Exchange → Except Failure α) (act : Run α) : Prop :=
  (∃ e, cause e ∧ act.Ensures fun xs r => xs = [] ∧ r = .error e) ∨
    act.Ensures fun xs r => ∃ x, xs = [x] ∧ Q x ∧ r = judge x

theorem Attempt.ensures (h : Attempt Q cause judge act) : act.Ensures fun xs r =>
    (xs = [] ∧ ∃ e, cause e ∧ r = .error e) ∨ ∃ x, xs = [x] ∧ Q x ∧ r = judge x := by
  rcases h with ⟨e, he, h⟩ | h
  · exact h.mono fun xs r hr => .inl ⟨hr.1, e, he, hr.2⟩
  · exact h.mono fun xs r hr => .inr hr

/-- What comes back may be judged further. -/
theorem Attempt.judged {β : Type} (h : Attempt Q cause judge act) (f : α → Except Failure β) :
    Attempt Q cause (fun x => (judge x).bind f) (act >>= fun a => ofExcept (f a)) := by
  have hstep : ∀ s, ((act >>= fun a => ofExcept (f a)) s).2 = (act s).2 ∧
      ((act >>= fun a => ofExcept (f a)) s).1 = (act s).1.bind f := by
    intro s
    rcases hs : act s with ⟨_ | _, t⟩
    · rw [bind_error hs]
      exact ⟨rfl, rfl⟩
    · rw [bind_ok hs]
      exact ⟨rfl, rfl⟩
  rcases h with ⟨e, he, hact⟩ | hact
  · refine .inl ⟨e, he, fun s => ?_⟩
    obtain ⟨xs, hxs, hnone, hr⟩ := hact s
    exact ⟨xs, by rw [(hstep s).1, hxs], hnone, by rw [(hstep s).2, hr]; rfl⟩
  · refine .inr fun s => ?_
    obtain ⟨xs, hxs, x, hone, hQ, hr⟩ := hact s
    exact ⟨xs, by rw [(hstep s).1, hxs], x, hone, hQ, by rw [(hstep s).2, hr]⟩

/-- **Attempts of one request are settled by the last answer, or by the reason for which it cannot be written.** -/
theorem Attempt.retried (h : Attempt Q cause judge act) (out : Surroundings) (b : Budget) (operation : String) :
    (retried out b operation act).Ensures fun xs r => (∀ x ∈ xs, Q x) ∧ Settled b operation cause judge xs r := by
  rcases h with ⟨e, he, h⟩ | h
  · refine (h.retried out b operation).mono fun xs r hr => ?_
    obtain ⟨last, earlier, r', rfl, ⟨rfl, rfl⟩, hhanded, hearlier⟩ := hr
    have hnone : earlier.flatten = [] := List.flatten_eq_nil_iff.2 fun ys hys => by
      obtain ⟨_, ⟨hnil, -⟩, -⟩ := hearlier ys hys
      exact hnil
    rw [hnone]
    exact ⟨by simp, .unwritten he hhanded⟩
  · refine (h.retried out b operation).mono fun xs r hr => ?_
    obtain ⟨last, earlier, r', rfl, ⟨x, rfl, hQ, rfl⟩, hhanded, hearlier⟩ := hr
    have hbefore : ∀ y ∈ earlier.flatten, Q y ∧ Transient (judge y) := by
      intro y hy
      obtain ⟨ys, hys, hy⟩ := List.mem_flatten.1 hy
      obtain ⟨_, ⟨z, rfl, hz, rfl⟩, htransient⟩ := hearlier ys hys
      obtain rfl := List.mem_singleton.1 hy
      exact ⟨hz, htransient⟩
    refine ⟨fun y hy => ?_, .answered hhanded fun y hy => (hbefore y hy).2⟩
    rcases List.mem_cons.1 hy with rfl | hy
    · exact hQ
    · exact (hbefore y hy).1

end Run

end Provision
