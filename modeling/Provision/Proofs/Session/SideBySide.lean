import Provision.Cloud.Client
import Provision.Proofs.Json.Secrets

/-!
# Two runs side by side

Two sessions are alike if the same was logged in the same time, and what was exchanged is in a relation
(`Session.Alike`). Two computations are alike if they lead from sessions that are alike to results in a relation and to
sessions that are alike again (`Run.Alike`). There is one rule for each way in which computations are put together;
attempts are made again for the same failures, after the same pauses, so they are alike if each of them is
(`Run.Alike.retried`).
-/

namespace Provision

/-! ## Sessions -/

/-- **Two sessions that differ in what was exchanged only.** -/
structure Session.Alike (E : Exchange → Exchange → Prop) (s t : Session) : Prop where
  now : s.now = t.now
  slots : s.slots = t.slots
  exchanges : List.Forall₂ E s.exchanges t.exchanges
  log : s.log = t.log
  files : s.files = t.files
  pauses : s.pauses = t.pauses

variable {E : Exchange → Exchange → Prop} {s t : Session}

namespace Session

theorem alike_empty : Session.Alike E {} {} := ⟨rfl, rfl, .nil, rfl, rfl, rfl⟩

namespace Alike

theorem logged (h : s.Alike E t) (line : LogLine) : (s.logged line).Alike E (t.logged line) :=
  { h with log := congrArg (line :: ·) h.log }

theorem notBefore (h : s.Alike E t) (time : Nat) : (s.notBefore time).Alike E (t.notBefore time) :=
  { h with now := congrArg (max · time) h.now }

theorem later (h : s.Alike E t) (span : Nat) : (s.later span).Alike E (t.later span) :=
  { h with now := congrArg (· + span) h.now }

/-- Two attempts that began and ended in sessions that are alike are judged in such sessions. -/
theorem judged {s' t' : Session} (h : s.Alike E t) (hnext : s'.Alike E t') (out : Surroundings) (number : Nat) :
    ((s'.notBefore s.now).later (out.clock.tick s'.pauses number)).Alike E
      ((t'.notBefore t.now).later (out.clock.tick t'.pauses number)) := by
  rw [← h.now, ← hnext.pauses]
  exact (hnext.notBefore _).later _

theorem pause (h : s.Alike E t) (span : Nat) : (s.pause span).Alike E (t.pause span) :=
  { h with now := congrArg (· + span) h.now, pauses := congrArg (· + 1) h.pauses }

theorem second (h : s.Alike E t) (out : Surroundings) : s.second out = t.second out := by
  rw [Session.second, Session.second, h.now]

end Alike

end Session

/-! ## Computations -/

namespace Run

variable {α β γ δ : Type} {R : α → β → Prop} {Q : γ → δ → Prop} {x : Run α} {y : Run β} {f : α → Run γ} {g : β → Run δ}

/-- **Computations that lead from sessions that are alike to alike ends.** -/
def Alike (E : Exchange → Exchange → Prop) (R : α → β → Prop) (x : Run α) (y : Run β) : Prop :=
  ∀ s t, s.Alike E t → EndAlike R (x s).1 (y t).1 ∧ (x s).2.Alike E (y t).2

theorem alike_ofExcept {a : Except Failure α} {b : Except Failure β} (h : EndAlike R a b) :
    Alike E R (ofExcept a) (ofExcept b) :=
  fun _ _ hs => ⟨h, hs⟩

theorem alike_pure {a : α} {b : β} (h : R a b) : Alike E R (pure a : Run α) (pure b) := alike_ofExcept (.ok h)

theorem alike_fail (e : Failure) : Alike E R (fail e) (fail e) := alike_ofExcept (.error e)

theorem alike_change {F G : Session → Session} (h : ∀ s t, s.Alike E t → (F s).Alike E (G t)) :
    Alike E Eq (change F) (change G) :=
  fun s t hs => ⟨.ok rfl, h s t hs⟩

theorem alike_look {F : Session → α} (h : ∀ s t, s.Alike E t → F s = F t) : Alike E Eq (look F) (look F) :=
  fun s t hs => ⟨.ok (h s t hs), hs⟩

theorem alike_log (line : LogLine) : Alike E Eq (log line) (log line) := alike_change fun _ _ hs => hs.logged line

/-- Slots are given by the time and the calls before, whatever was exchanged. -/
theorem alike_pace (rates : Rates) (action : String) : Alike E Eq (pace rates action) (pace rates action) := by
  refine alike_change fun s t hs => ?_
  rw [hs.slots, hs.now]
  exact { hs with now := rfl, slots := rfl }

/-- Computations that are alike both succeed or both fail. -/
theorem Alike.ends (h : Alike E R x y) (hs : s.Alike E t) :
    (∃ a b s' t', x s = (.ok a, s') ∧ y t = (.ok b, t') ∧ R a b ∧ s'.Alike E t') ∨
    ∃ e s' t', x s = (.error e, s') ∧ y t = (.error e, t') ∧ s'.Alike E t' := by
  obtain ⟨hr, hnext⟩ := h s t hs
  generalize x s = left at hr hnext
  generalize y t = right at hr hnext
  obtain ⟨r, s'⟩ := left
  obtain ⟨r', t'⟩ := right
  dsimp only at hr hnext
  cases hr with
  | ok hab => exact .inl ⟨_, _, s', t', rfl, rfl, hab, hnext⟩
  | error e => exact .inr ⟨e, s', t', rfl, rfl, hnext⟩

theorem Alike.bind (hx : Alike E R x y) (hf : ∀ a b, R a b → Alike E Q (f a) (g b)) :
    Alike E Q (x >>= f) (y >>= g) := by
  intro s t hs
  rcases hx.ends hs with ⟨a, b, s', t', hxs, hyt, hab, hnext⟩ | ⟨e, s', t', hxs, hyt, hnext⟩
  · rw [bind_ok hxs, bind_ok hyt]
    exact hf a b hab s' t' hnext
  · rw [bind_error hxs, bind_error hyt]
    exact ⟨.error e, hnext⟩

/-- A computation and one that ends in the same way, followed by functions of their results. -/
theorem Alike.map {F : α → γ} {G : β → δ} (hx : Alike E R x y) (h : ∀ a b, R a b → Q (F a) (G b)) :
    Alike E Q (x >>= fun a => pure (F a)) (y >>= fun b => pure (G b)) :=
  hx.bind fun a b hab => alike_pure (h a b hab)

/-- Attempts are alike if each of them is; the induction is on the attempts. -/
theorem Alike.attempts (h : Alike E R x y) (out : Surroundings) (b : Budget) (operation : String) (start number : Nat)
    (delay : Rat) (s : Session) : ∀ {t : Session}, s.Alike E t →
      EndAlike R (attempts out b operation x start number delay s).1
          (attempts out b operation y start number delay t).1 ∧
        (attempts out b operation x start number delay s).2.Alike E
          (attempts out b operation y start number delay t).2 := by
  fun_induction Run.attempts out b operation x start number delay s with
  | case1 number delay s a s' hxs =>
    intro t hs
    rcases h.ends hs with ⟨a, b, s', t', hx, hy, hab, hnext⟩ | ⟨e, s', t', hx, -, -⟩
    · cases hxs.symm.trans hx
      rw [Run.attempts, hy]
      exact ⟨.ok hab, hnext⟩
    · cases hxs.symm.trans hx
  | case2 number delay s e s' hxs he u pause =>
    rename_i late
    intro t hs
    rcases h.ends hs with ⟨_, _, _, _, hx, -, -, -⟩ | ⟨e, s', t', hx, hy, hnext⟩
    · cases hxs.symm.trans hx
    · cases hxs.symm.trans hx
      have hu := hs.judged hnext out number
      have hright : Run.attempts out b operation y start number delay t =
          (.error (.timedOut operation (u.now - start) e),
            ((t'.notBefore t.now).later (out.clock.tick t'.pauses number)).logged (exhausted operation number e)) := by
        rw [Run.attempts, hy]
        dsimp only
        rw [if_pos he, ← hu.now, ← hnext.pauses, if_pos late]
      rw [hright]
      exact ⟨.error _, hu.logged _⟩
  | case3 number delay s e s' hxs he u pause late =>
    rename_i ih
    intro t hs
    rcases h.ends hs with ⟨_, _, _, _, hx, -, -, -⟩ | ⟨e, s', t', hx, hy, hnext⟩
    · cases hxs.symm.trans hx
    · cases hxs.symm.trans hx
      have hu := hs.judged hnext out number
      have hright : Run.attempts out b operation y start number delay t =
          Run.attempts out b operation y start (number + 1) (b.nextDelay delay)
            ((((t'.notBefore t.now).later (out.clock.tick t'.pauses number)).logged
              (again operation number e pause)).pause pause) := by
        rw [Run.attempts, hy]
        dsimp only
        rw [if_pos he, ← hu.now, ← hnext.pauses, if_neg late]
      rw [hright]
      exact ih ((hu.logged (again operation number e pause)).pause pause)
  | case4 number delay s e s' hxs he =>
    intro t hs
    rcases h.ends hs with ⟨_, _, _, _, hx, -, -, -⟩ | ⟨e, s', t', hx, hy, hnext⟩
    · cases hxs.symm.trans hx
    · cases hxs.symm.trans hx
      rw [Run.attempts, hy]
      dsimp only
      rw [if_neg he]
      exact ⟨.error e, hnext⟩

theorem Alike.retried (h : Alike E R x y) (out : Surroundings) (b : Budget) (operation : String) :
    Alike E R (retried out b operation x) (retried out b operation y) := by
  intro s t hs
  have hattempts := h.attempts out b operation s.now 1 b.initialDelay s hs
  rw [Run.retried, Run.retried, ← hs.now]
  exact hattempts

end Run

end Provision
