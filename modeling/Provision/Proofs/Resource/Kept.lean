import Provision.Proofs.Resource.Course
import Provision.Proofs.Resource.Stages

/-!
# What every step keeps

A relation between the identity and the attributes of a resource is kept by every step of its life if every look-up
establishes it and every change in place that passes its checks respects it (`Resource.Keeps`). There is one lemma for
each step, and from them the statement for all steps (`Keeps.take`) and for all courses (`Keeps.course`).
-/

namespace Provision

variable {α : Type}

/-- A relation between identity and attributes holds of a resource, if it exists. -/
def ResourceState.Holds (I : String → α → Prop) (st : ResourceState α) : Prop :=
  st.present = true → I st.id st.attributes

theorem ResourceState.holds_empty {I : String → α → Prop} (a : α) : (⟨"", a⟩ : ResourceState α).Holds I :=
  fun h => by cases h

/-- All configurations of a step satisfy a condition. -/
def Step.Uses (Known : α → Prop) : Step α → Prop
  | .create config => Known config
  | .update planned => Known planned
  | .apply desired => Known desired
  | _ => True

theorem Step.uses_true (x : Step α) : x.Uses fun _ => True := by
  cases x <;> trivial

namespace Resource

/-- **A relation that look-ups establish and changes in place respect.** `Known` is what holds of the attributes from
which a look-up starts. -/
structure Keeps (r : Resource α) (Known : α → Prop) (I : String → α → Prop) : Prop where
  blank : Known r.record.blank
  known : ∀ {id a}, I id a → Known a
  found : ∀ {p id a b s}, Known a → (r.read p id a s).1 = .ok (some b) → I id b
  planned : ∀ {id a b names}, Known b → I id a → r.changes ⟨id, a⟩ b = .ok names → I id b

namespace Keeps

variable {r : Resource α} {Known : α → Prop} {I : String → α → Prop} (h : r.Keeps Known I)
include h

variable {p : Provider} {st now : ResourceState α} {config planned desired : α} {s t : Session}

/-! ## Looking up -/

/-- What a look-up finds. -/
theorem of_refresh_ok (st : ResourceState α) (hk : Known st.attributes)
    (hr : r.refresh p st s = ⟨.ok (), now, t⟩) : now.Holds I := by
  obtain ⟨-, hid, hread⟩ := read_of_refresh hr
  intro _
  rw [hid]
  exact h.found hk (congrArg Prod.fst hread)

/-- A look-up that does not find the resource leaves what is known, or drops the identity. -/
theorem refresh (hst : st.Holds I) : (r.refresh p st s).state.Holds I := by
  cases hp : st.present with
  | false =>
    rw [refresh_of_not_present hp]
    exact hst
  | true =>
    rcases refresh_cases (r := r) (p := p) (s := s) hp with
      ⟨a, u, hread, he⟩ | ⟨_, u, -, -, he⟩ | ⟨_, u, -, -, he⟩
    · rw [he]
      exact h.of_refresh_ok st (h.known (hst hp)) he
    · rw [he]
      exact ResourceState.holds_empty st.attributes
    · rw [he]
      exact hst

theorem current (hst : st.Holds I) : (r.current p st s).state.Holds I := by
  rcases r.current_cases p st s with ⟨-, he⟩ | ⟨a, u, hread, he⟩ | ⟨_, u, -, -, he⟩ | ⟨_, u, -, -, he⟩
  · rw [he]
    exact hst
  · rw [he]
    exact fun hp => h.found (h.known (hst hp)) (congrArg Prod.fst hread)
  · rw [he]
    exact ResourceState.holds_empty st.attributes
  · rw [he]
    exact hst

/-! ## Creating and importing -/

/-- A creation ends with a look-up that starts from the configuration. -/
theorem createFrom (hk : Known config) (hc : r.createFrom p config s = (.ok now, t)) : now.Holds I := by
  rcases r.createFrom_cases p config s with ⟨e, u, he⟩ | ⟨id, u, made, v, -, hr, he⟩
  · rw [he] at hc
    cases hc
  · rw [he] at hc
    cases hc
    exact h.of_refresh_ok ⟨id, config⟩ hk hr

theorem recreate (hk : Known desired) (hst : st.Holds I) : (r.recreate p st desired s).state.Holds I := by
  rcases r.recreate_cases p st desired s with ⟨e, u, -, he⟩ | ⟨made, u, hc, he⟩
  · rw [he]
    exact hst
  · rw [he]
    exact h.createFrom hk hc

theorem importFrom {id : String} (hi : r.importFrom p id s = (.ok now, t)) : now.Holds I := by
  rcases r.importFrom_cases p id s with ⟨e, u, he⟩ | ⟨made, u, hr, he⟩
  · rw [he] at hi
    cases hi
  · rw [he] at hi
    cases hi
    exact h.of_refresh_ok ⟨id, r.record.blank⟩ h.blank hr

/-! ## Changing and deleting -/

/-- The planned attributes take the place of the known ones only after the checks. -/
theorem updateTo (hk : Known planned) (hst : st.Holds I) : (r.updateTo p st planned s).state.Holds I := by
  rcases hm : r.modify p st planned s with ⟨res, u⟩
  cases res with
  | error e =>
    rw [updateTo_of_modify_error hm]
    exact hst
  | ok _ =>
    obtain ⟨names, hchanges⟩ := changes_of_modify hm
    have hplanned : (⟨st.id, planned⟩ : ResourceState α).Holds I := fun hp => h.planned hk (hst hp) hchanges
    rw [updateTo_of_modify_ok hm]
    exact h.refresh hplanned

omit h in
theorem remove (hst : st.Holds I) : (r.remove p st s).state.Holds I := by
  rcases r.remove_cases p st s with ⟨-, he⟩ | ⟨e, u, -, -, he⟩ | ⟨u, -, -, he⟩
  · rw [he]
    exact hst
  · rw [he]
    exact hst
  · rw [he]
    exact ResourceState.holds_empty st.attributes

/-! ## Applying -/

theorem execute {plan : Plan} (hk : Known desired) (hst : st.Holds I) :
    (r.execute p plan st desired s).state.Holds I := by
  cases ha : plan.action with
  | noOp =>
    rw [execute_of_noOp ha]
    exact hst
  | reject =>
    rw [execute_of_reject ha]
    exact hst
  | update =>
    rw [execute_of_update ha]
    exact h.updateTo hk hst
  | create =>
    rw [execute_of_create ha]
    exact h.recreate hk hst
  | replace =>
    have hremoved : (r.remove p st s).state.Holds I := remove hst
    rcases hr : r.remove p st s with ⟨res, now, u⟩
    rw [hr] at hremoved
    cases res with
    | error e =>
      rw [execute_of_remove_error ha hr]
      exact hremoved
    | ok _ =>
      rw [execute_of_remove_ok ha hr]
      exact h.recreate hk hremoved

theorem apply (hk : Known desired) (hst : st.Holds I) : (r.apply p st desired s).state.Holds I := by
  have hcurrent : (r.current p st s).state.Holds I := h.current hst
  rcases r.apply_cases p st desired s with ⟨e, -, he⟩ | ⟨e, now, u, -, hc, he⟩ | ⟨plan, now, u, -, hc, -, he⟩
  · rw [he]
    exact hst
  · rw [hc] at hcurrent
    rw [he]
    exact hcurrent
  · rw [hc] at hcurrent
    rw [he]
    exact h.execute hk hcurrent

/-! ## All steps -/

/-- **Every step keeps the relation.** -/
theorem take {x : Step α} (hx : x.Uses Known) (hst : st.Holds I) : (r.take p x st s).state.Holds I := by
  cases x with
  | plan desired => exact hst
  | create config =>
    rw [Resource.take]
    rcases hc : r.createFrom p config s with ⟨res, u⟩
    cases res with
    | error e => exact hst
    | ok made => exact h.createFrom hx hc
  | read => exact h.refresh hst
  | update planned => exact h.updateTo hx hst
  | apply desired => exact h.apply hx hst
  | delete => exact remove hst
  | importFrom id =>
    rw [Resource.take]
    rcases hi : r.importFrom p id s with ⟨res, u⟩
    cases res with
    | error e => exact hst
    | ok now => exact h.importFrom hi

/-- **The relation holds after every step of a course.** -/
theorem course {steps : List (Step α)} (hsteps : ∀ x ∈ steps, x.Uses Known) (hst : st.Holds I) :
    ∀ y ∈ course (r.take p) steps st s, y.state.Holds I :=
  holds_of_course (fun x hx _ _ => h.take (hsteps x hx)) hst

end Keeps

end Resource

end Provision
