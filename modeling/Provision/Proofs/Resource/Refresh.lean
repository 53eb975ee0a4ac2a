import Provision.Proofs.Resource.Lookup
import Provision.Proofs.Vendor.Writable

/-!
# Refreshing a state

A refresh looks the resource up. What it does with the result is one case analysis, the same for all types
(`Resource.refresh_cases`, and `Resource.current_cases` for the state before a plan); what the answers mean is the
matter of each type. A refresh succeeds if and only if its look-up found something, and takes that over
(`Resource.read_of_refresh`, `Resource.refresh_ends`).
-/

namespace Provision

/-- A step that began in a session added exchanges, and `P` holds of them, of the result, and of what is known then. -/
def Outcome.Ends {α : Type} (o : Outcome α) (s : Session)
    (P : List Exchange → Except Failure Unit → ResourceState α → Prop) : Prop :=
  ∃ xs, o.session.exchanges = xs ++ s.exchanges ∧ P xs o.result o.state

namespace Resource

variable {α : Type} {r : Resource α} {p : Provider} {st : ResourceState α} {s : Session}

theorem refresh_of_not_present (h : st.present = false) :
    r.refresh p st s = ⟨.error (.absent r.kind ""), st, s⟩ := by
  simp [refresh, h]

theorem refresh_of_error {e : Failure} {t : Session} (h : st.present = true)
    (hr : r.read p st.id st.attributes s = (.error e, t)) (he : e.saysAbsent = false) :
    r.refresh p st s = ⟨.error e, st, t⟩ := by
  simp [refresh, h, hr, he]

/-- A refresh takes over what is found, drops the identity of what is gone, and leaves all else as it was. -/
theorem refresh_cases (h : st.present = true) :
    (∃ attributes t, r.read p st.id st.attributes s = (.ok (some attributes), t) ∧
      r.refresh p st s = ⟨.ok (), ⟨st.id, attributes⟩, t⟩) ∨
    (∃ res t, r.read p st.id st.attributes s = (res, t) ∧ SaysGone res ∧ r.refresh p st s = r.gone st t) ∨
    ∃ e t, r.read p st.id st.attributes s = (.error e, t) ∧ e.saysAbsent = false ∧
      r.refresh p st s = ⟨.error e, st, t⟩ := by
  rcases hr : r.read p st.id st.attributes s with ⟨res, t⟩
  cases res with
  | ok found =>
    cases found with
    | some attributes => exact .inl ⟨attributes, t, rfl, by simp [refresh, h, hr]⟩
    | none => exact .inr (.inl ⟨_, t, rfl, .inr ⟨none, rfl, rfl⟩, by simp [refresh, h, hr]⟩)
  | error e =>
    cases he : e.saysAbsent with
    | true => exact .inr (.inl ⟨_, t, rfl, .inl ⟨e, rfl, he⟩, by simp [refresh, h, hr, he]⟩)
    | false => exact .inr (.inr ⟨e, t, rfl, he, refresh_of_error h hr he⟩)

theorem session_refresh (h : st.present = true) : (r.refresh p st s).session = (r.read p st.id st.attributes s).2 := by
  rcases refresh_cases (r := r) (p := p) (s := s) h with ⟨_, _, hr, he⟩ | ⟨_, _, hr, -, he⟩ | ⟨_, _, hr, -, he⟩ <;>
    rw [hr, he]
  rfl

/-- A refresh that succeeds takes over what its look-up found. -/
theorem read_of_refresh {now : ResourceState α} {t : Session} (h : r.refresh p st s = ⟨.ok (), now, t⟩) :
    st.present = true ∧ now.id = st.id ∧ r.read p st.id st.attributes s = (.ok (some now.attributes), t) := by
  cases hp : st.present with
  | false =>
    rw [refresh_of_not_present hp] at h
    cases h
  | true =>
    rcases refresh_cases (r := r) (p := p) (s := s) hp with ⟨_, _, hr, he⟩ | ⟨_, _, -, -, he⟩ | ⟨_, _, -, -, he⟩ <;>
      rw [he] at h <;> cases h
    exact ⟨rfl, rfl, hr⟩

/-- A refresh succeeds with what its look-up found. If it fails, then the attributes stay, and it may have asked
nothing. -/
theorem refresh_ends {xs : List Exchange} (hxs : (r.read p st.id st.attributes s).2.exchanges = xs ++ s.exchanges) :
    (r.refresh p st s).Ends s fun ys res now =>
      (res = .ok () ∧ ys = xs ∧ now.present = true ∧ now.id = st.id ∧
        (r.read p st.id st.attributes s).1 = .ok (some now.attributes)) ∨
      res ≠ .ok () ∧ (ys = xs ∨ ys = []) ∧ now.attributes = st.attributes := by
  cases hp : st.present with
  | false =>
    rw [refresh_of_not_present hp]
    exact ⟨[], rfl, .inr ⟨(fun hr => by cases hr), .inr rfl, rfl⟩⟩
  | true =>
    rcases refresh_cases (r := r) (p := p) (s := s) hp with
      ⟨_, t, hr, he⟩ | ⟨_, t, hr, -, he⟩ | ⟨_, t, hr, -, he⟩
    · rw [hr] at hxs ⊢
      rw [he]
      exact ⟨xs, hxs, .inl ⟨rfl, rfl, hp, rfl, rfl⟩⟩
    all_goals
      rw [hr] at hxs
      rw [he]
      exact ⟨xs, hxs, .inr ⟨(fun hr => by cases hr), .inl rfl, rfl⟩⟩

/-- Before a plan is made, a state is refreshed if it has an identity; a resource that is gone is no failure. -/
theorem current_cases (r : Resource α) (p : Provider) (st : ResourceState α) (s : Session) :
    (st.present = false ∧ r.current p st s = ⟨.ok (), st, s⟩) ∨
    (∃ attributes t, r.read p st.id st.attributes s = (.ok (some attributes), t) ∧
      r.current p st s = ⟨.ok (), ⟨st.id, attributes⟩, t⟩) ∨
    (∃ res t, r.read p st.id st.attributes s = (res, t) ∧ SaysGone res ∧
      r.current p st s = ⟨.ok (), ⟨"", st.attributes⟩, t⟩) ∨
    ∃ e t, r.read p st.id st.attributes s = (.error e, t) ∧ e.saysAbsent = false ∧
      r.current p st s = ⟨.error e, st, t⟩ := by
  cases h : st.present with
  | false => exact .inl ⟨rfl, by simp [current, h]⟩
  | true =>
    simp only [current, h, if_true]
    rcases refresh_cases (r := r) (p := p) (s := s) h with
      ⟨a, t, hr, he⟩ | ⟨res, t, hr, hgone, he⟩ | ⟨e, t, hr, hother, he⟩
    · exact .inr (.inl ⟨a, t, hr, by rw [he]⟩)
    · exact .inr (.inr (.inl ⟨res, t, hr, hgone, by rw [he]; rfl⟩))
    · refine .inr (.inr (.inr ⟨e, t, hr, hother, ?_⟩))
      rw [he]
      cases e with
      | absent kind id => cases hother
      | _ => rfl

end Resource

end Provision
