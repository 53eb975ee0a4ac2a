import Mathlib.Order.Defs.Unbundled
import Provision.Proofs.Resource.Course
import Provision.Proofs.Resource.Steps
import Provision.Proofs.Resource.Stages

/-!
# Steps along a relation

A preorder on sessions that holds for a creation after its check, and for the other calls of a type of resources on the
identities that are allowed (`Resource.Moves`), holds for every step if every identity that is not empty is allowed:
refresh, creation, deletion, import, application, and a change in place of an identity that is allowed. Main
statements: the steps one by one (`Resource.Moves.take`), and without an identity a change in place ends where its call
does (`Resource.updateTo_of_absent`).
-/

namespace Provision

variable {α : Type} {R : Session → Session → Prop} {A : String → Prop} {p : Provider} {st : ResourceState α}

namespace Resource

variable {r : Resource α} {s : Session}

/-! ## Without an identity -/

/-- **Of what does not exist, a change in place ends where its call does:** the look-up after it sends nothing. -/
theorem updateTo_of_absent (r : Resource α) (p : Provider) (known planned : α) (s : Session) :
    (r.updateTo p ⟨"", known⟩ planned s).session = (r.modify p ⟨"", known⟩ planned s).2 := by
  rcases hm : r.modify p ⟨"", known⟩ planned s with ⟨_ | _, t⟩
  · rw [updateTo_of_modify_error hm]
  · rw [updateTo_of_modify_ok hm, refresh_of_not_present rfl]

/-! ## Creating -/

/-- A creation goes along a relation if its call does, once the check has passed, and the look-up after it. -/
theorem createFrom_along [IsPreorder Session R] {config : α}
    (hcreate : ∀ s, r.check (r.toJson config) = .ok () → R s (r.create p config s).2)
    (hrefresh : ∀ st s, R s (r.refresh p st s).session) (s : Session) : R s (r.createFrom p config s).2 := by
  unfold createFrom
  cases hcheck : r.check (r.toJson config) with
  | error e => exact refl_of R s
  | ok _ =>
    have hfirst := hcreate s hcheck
    dsimp only
    rcases hr : r.create p config s with ⟨_ | id, t⟩
    · rw [hr] at hfirst
      exact hfirst
    · rw [hr] at hfirst
      have hlast := hrefresh ⟨id, config⟩ t
      dsimp only
      rcases ho : r.refresh p ⟨id, config⟩ t with ⟨_ | _, made, u⟩ <;> rw [ho] at hlast <;>
        exact trans_of R hfirst hlast

/-! ## With an identity -/

/-- **The calls of a type go along a relation:** a creation that passed its check, and every other call on an identity
that is allowed. -/
structure Moves (r : Resource α) (p : Provider) (R : Session → Session → Prop) (A : String → Prop) : Prop where
  create : ∀ config s, r.check (r.toJson config) = .ok () → R s (r.create p config s).2
  read : ∀ id attributes s, A id → R s (r.read p id attributes s).2
  update : ∀ id names planned s, A id → R s (r.update p id names planned s).2
  delete : ∀ id attributes s, A id → R s (r.delete p id attributes s).2
  /-- What exists is allowed. -/
  named : ∀ id, id ≠ "" → A id

namespace Moves

theorem allowed (h : r.Moves p R A) (hp : st.present = true) : A st.id :=
  h.named st.id (ResourceState.present_iff.1 hp)

variable [IsPreorder Session R] (h : r.Moves p R A)

include h

theorem refresh (st : ResourceState α) (s : Session) : R s (r.refresh p st s).session := by
  cases hp : st.present with
  | false =>
    rw [refresh_of_not_present hp]
    exact refl_of R s
  | true =>
    have hread := h.read st.id st.attributes s (h.allowed hp)
    rcases refresh_cases (r := r) (p := p) (s := s) hp with ⟨_, t, hr, he⟩ | ⟨_, t, hr, -, he⟩ | ⟨_, t, hr, -, he⟩
    all_goals
      rw [hr] at hread
      rw [he]
      exact hread

theorem current (st : ResourceState α) (s : Session) : R s (r.current p st s).session := by
  rcases r.current_cases p st s with
    ⟨-, he⟩ | ⟨_, t, hr, he⟩ | ⟨_, t, hr, -, he⟩ | ⟨_, t, hr, -, he⟩
  · rw [he]
    exact refl_of R s
  all_goals
    cases hp : st.present with
    | false =>
      have hcurrent : r.current p st s = ⟨.ok (), st, s⟩ := by simp [Resource.current, hp]
      rw [hcurrent]
      exact refl_of R s
    | true =>
      have hread := h.read st.id st.attributes s (h.allowed hp)
      rw [hr] at hread
      rw [he]
      exact hread

theorem createFrom (config : α) (s : Session) : R s (r.createFrom p config s).2 :=
  createFrom_along (h.create config) h.refresh s

theorem recreate (st : ResourceState α) (desired : α) (s : Session) :
    R s (r.recreate p st desired s).session := by
  have hcreate := h.createFrom desired s
  rcases r.recreate_cases p st desired s with ⟨e, t, hr, he⟩ | ⟨made, t, hr, he⟩ <;> rw [hr] at hcreate <;>
    rw [he] <;> exact hcreate

theorem importFrom (id : String) (s : Session) : R s (r.importFrom p id s).2 := by
  have hrefresh := h.refresh ⟨id, r.record.blank⟩ s
  unfold Resource.importFrom
  rcases ho : r.refresh p ⟨id, r.record.blank⟩ s with ⟨_ | _, now, t⟩ <;> rw [ho] at hrefresh <;> exact hrefresh

theorem remove (st : ResourceState α) (s : Session) : R s (r.remove p st s).session := by
  rcases r.remove_cases p st s with ⟨-, he⟩ | ⟨e, t, hp, hd, he⟩ | ⟨t, hp, hd, he⟩
  · rw [he]
    exact refl_of R s
  all_goals
    have hdelete := h.delete st.id st.attributes s (h.allowed hp)
    rw [hd] at hdelete
    rw [he]
    exact hdelete

/-- The call of a change in place. -/
theorem modify (hid : A st.id) (planned : α) (s : Session) : R s (r.modify p st planned s).2 := by
  unfold Resource.modify
  split
  · exact refl_of R s
  · exact refl_of R s
  · exact refl_of R s
  · exact h.update st.id _ planned s hid

theorem updateTo (hid : A st.id) (planned : α) (s : Session) : R s (r.updateTo p st planned s).session := by
  have hmodify := h.modify hid planned s
  rcases hm : r.modify p st planned s with ⟨_ | _, t⟩ <;> rw [hm] at hmodify
  · rw [updateTo_of_modify_error hm]
    exact hmodify
  · rw [updateTo_of_modify_ok hm]
    exact trans_of R hmodify (h.refresh ⟨st.id, planned⟩ t)

theorem execute {plan : Plan} (hid : plan.action = .update → A st.id) (desired : α) (s : Session) :
    R s (r.execute p plan st desired s).session := by
  cases ha : plan.action with
  | create =>
    rw [execute_of_create ha]
    exact h.recreate st desired s
  | noOp =>
    rw [execute_of_noOp ha]
    exact refl_of R s
  | update =>
    rw [execute_of_update ha]
    exact h.updateTo (hid ha) desired s
  | replace =>
    have hremove := h.remove st s
    rcases hr : r.remove p st s with ⟨_ | _, now, t⟩ <;> rw [hr] at hremove
    · rw [execute_of_remove_error ha hr]
      exact hremove
    · rw [execute_of_remove_ok ha hr]
      exact trans_of R hremove (h.recreate now desired t)
  | reject =>
    rw [execute_of_reject ha]
    exact refl_of R s

theorem apply (st : ResourceState α) (desired : α) (s : Session) : R s (r.apply p st desired s).session := by
  have hcurrent := h.current st s
  rcases r.apply_cases p st desired s with
    ⟨e, -, he⟩ | ⟨e, now, t, -, hc, he⟩ | ⟨plan, now, t, hcheck, hc, hplan, he⟩
  · rw [he]
    exact refl_of R s
  · rw [hc] at hcurrent
    rw [he]
    exact hcurrent
  · rw [hc] at hcurrent
    rw [he]
    refine trans_of R hcurrent (h.execute (fun ha => h.allowed ?_) desired t)
    -- what does not exist is not changed in place, but created
    cases hp : now.present with
    | true => rfl
    | false =>
      rw [plan_of_check now hcheck, hp] at hplan
      rw [← Except.ok.inj hplan] at ha
      cases ha

/-- **A step goes along the relation** if it is no change in place of an identity that is not allowed. -/
theorem take {step : Step α} (hstep : ∀ planned, step = .update planned → A st.id) (s : Session) :
    R s (r.take p step st s).session := by
  cases step with
  | plan desired => exact refl_of R s
  | create config =>
    have hcreate := h.createFrom config s
    simp only [Resource.take]
    rcases hr : r.createFrom p config s with ⟨_ | _, t⟩ <;> rw [hr] at hcreate <;> exact hcreate
  | read => exact h.refresh st s
  | update planned => exact h.updateTo (hstep planned rfl) planned s
  | apply desired => exact h.apply st desired s
  | delete => exact h.remove st s
  | importFrom id =>
    have himport := h.importFrom id s
    simp only [Resource.take]
    rcases hr : r.importFrom p id s with ⟨_ | _, t⟩ <;> rw [hr] at himport <;> exact himport

end Moves

end Resource

/-- **A course of steps goes along a relation** if each of its steps does. -/
theorem moves_of_course {ι σ : Type} {take : ι → σ → Session → Taken σ} [IsPreorder Session R]
    (hstep : ∀ x st s, R s (take x st s).session) : ∀ {steps : List ι} {st : σ} {s : Session},
    ∀ t ∈ course take steps st s, R s t.session
  | [], _, _, t, ht => by cases ht
  | x :: rest, st, s, t, ht => by
    rcases List.mem_cons.1 ht with rfl | ht
    · exact hstep x st s
    · exact trans_of R (hstep x st s) (moves_of_course hstep t ht)

end Provision
