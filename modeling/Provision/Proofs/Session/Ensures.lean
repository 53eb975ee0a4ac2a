import Provision.Session.Basic

/-!
# What a computation adds to a session

`act.Ensures P` says of a computation that, from every session, it adds some exchanges, of which the latest comes
first, and that `P` holds of them and of the way in which it ends. The vendor may answer as it likes, since nothing is
asked of the session. The rules follow the ways in which computations are put together: a value or a failure adds
nothing (`ensures_pure`, `ensures_fail`), of two computations the later exchanges stand before the earlier ones
(`Ensures.bind`), and what is known may be forgotten (`Ensures.mono`).
-/

namespace Provision

/-- Of what is added to a session in two parts, the later part stands before the earlier one. -/
theorem Session.added_append {s t u : Session} {xs later earlier : List Exchange} (h : u.exchanges = xs ++ s.exchanges)
    (hlater : u.exchanges = later ++ t.exchanges) (hearlier : t.exchanges = earlier ++ s.exchanges) :
    xs = later ++ earlier := by
  refine List.append_cancel_right (h.symm.trans (hlater.trans ?_))
  rw [hearlier, List.append_assoc]

namespace Run

variable {α β : Type}

/-- **From every session, a computation adds exchanges and ends as `P` says.** -/
def Ensures (act : Run α) (P : List Exchange → Except Failure α → Prop) : Prop :=
  ∀ s, ∃ xs, (act s).2.exchanges = xs ++ s.exchanges ∧ P xs (act s).1

variable {x : Run α} {f : α → Run β} {P P' : List Exchange → Except Failure α → Prop}

theorem Ensures.mono (h : x.Ensures P) (weaker : ∀ xs r, P xs r → P' xs r) : x.Ensures P' := by
  intro s
  obtain ⟨xs, hxs, hP⟩ := h s
  exact ⟨xs, hxs, weaker _ _ hP⟩

theorem ensures_pure (a : α) : (pure a : Run α).Ensures fun xs r => xs = [] ∧ r = .ok a :=
  fun _ => ⟨[], rfl, rfl, rfl⟩

theorem ensures_fail (e : Failure) : (fail e : Run α).Ensures fun xs r => xs = [] ∧ r = .error e :=
  fun _ => ⟨[], rfl, rfl, rfl⟩

theorem ofExcept_ok (a : α) : ofExcept (.ok a) = (pure a : Run α) := rfl

/-- What two computations add: the first one fails, or its result goes to the second one. -/
theorem Ensures.bind {Q : α → List Exchange → Except Failure β → Prop} (hx : x.Ensures P)
    (hf : ∀ a, (f a).Ensures (Q a)) :
    (x >>= f).Ensures fun xs r =>
      (∃ e, r = .error e ∧ P xs (.error e)) ∨
        ∃ a later earlier, xs = later ++ earlier ∧ P earlier (.ok a) ∧ Q a later r := by
  intro s
  obtain ⟨earlier, he, hP⟩ := hx s
  rcases h : x s with ⟨r, t⟩
  rw [h] at he hP
  cases r with
  | error e => exact ⟨earlier, by rw [bind_error h]; exact he, .inl ⟨e, by rw [bind_error h], hP⟩⟩
  | ok a =>
    obtain ⟨later, hl, hQ⟩ := hf a t
    refine ⟨later ++ earlier, ?_, .inr ⟨a, later, earlier, rfl, hP, ?_⟩⟩
    · rw [bind_ok h, hl, he, List.append_assoc]
    · rw [bind_ok h]
      exact hQ

/-- The second of two computations goes on where the first one ended. -/
theorem Ensures.after {Q : α → List Exchange → Except Failure β → Prop} (hf : ∀ a, (f a).Ensures (Q a)) (s : Session) :
    ∃ later, ((x >>= f) s).2.exchanges = later ++ (x s).2.exchanges := by
  rcases h : x s with ⟨r, t⟩
  cases r with
  | error e => exact ⟨[], by rw [bind_error h]; rfl⟩
  | ok a =>
    obtain ⟨later, hl, -⟩ := hf a t
    exact ⟨later, by rw [bind_ok h, hl]⟩

/-- A change of the result leaves the session as it is. -/
theorem session_map (g : α → β) (s : Session) : ((x >>= fun a => pure (g a)) s).2 = (x s).2 := by
  rcases h : x s with ⟨r, t⟩
  cases r with
  | error e => rw [bind_error h]
  | ok a =>
    rw [bind_ok h]
    rfl

/-- What a computation adds whose result is only changed by a function. -/
theorem Ensures.map (hx : x.Ensures P) (g : α → β) :
    (x >>= fun a => pure (g a)).Ensures fun xs r => ∃ r', P xs r' ∧ r = r'.map g := by
  refine (hx.bind fun a => ensures_pure (g a)).mono fun xs r h => ?_
  rcases h with ⟨e, rfl, hP⟩ | ⟨a, later, earlier, rfl, hP, rfl, rfl⟩
  · exact ⟨.error e, hP, rfl⟩
  · exact ⟨.ok a, hP, rfl⟩

end Run

end Provision
