import Provision.Proofs.Resource.Steps
import Provision.Proofs.Schema.Comparison

/-!
# The stages of a step

A step of the life of a resource goes through stages: checks, a change, a look-up. One lemma for each step says at
which of them it ends, and with which state (`createFrom_cases`, `updateTo_eq`, `remove_cases`, `importFrom_cases`); an
application, after its refresh, is what the action of the plan says (`execute_of_update` and its siblings). What a step
keeps is read off these lemmas.
-/

namespace Provision

namespace ResourceState

variable {α : Type} {st : ResourceState α}

theorem present_iff : st.present = true ↔ st.id ≠ "" := by
  simp [present]

end ResourceState

namespace Resource

variable {α : Type} {r : Resource α} {p : Provider} {st : ResourceState α} {config planned desired : α} {s : Session}

theorem refresh_of_some {attributes : α} {t : Session} (h : st.present = true)
    (hr : r.read p st.id st.attributes s = (.ok (some attributes), t)) :
    r.refresh p st s = ⟨.ok (), ⟨st.id, attributes⟩, t⟩ := by
  simp [refresh, h, hr]

/-! ## Creating and importing -/

/-- A creation fails, or the vendor created what was asked for and the look-up found it. -/
theorem createFrom_cases (r : Resource α) (p : Provider) (config : α) (s : Session) :
    (∃ e t, r.createFrom p config s = (.error e, t)) ∨
    ∃ id u made t, r.create p config s = (.ok id, u) ∧ r.refresh p ⟨id, config⟩ u = ⟨.ok (), made, t⟩ ∧
      r.createFrom p config s = (.ok made, t) := by
  unfold createFrom
  cases r.check (r.toJson config) with
  | error e => exact .inl ⟨e, s, rfl⟩
  | ok _ =>
    dsimp only
    rcases r.create p config s with ⟨created, u⟩
    cases created with
    | error e => exact .inl ⟨e, u, rfl⟩
    | ok id =>
      rcases ho : r.refresh p ⟨id, config⟩ u with ⟨found, made, t⟩
      cases found with
      | error e => exact .inl ⟨e, t, by simp only [ho]⟩
      | ok _ => exact .inr ⟨id, u, made, t, rfl, ho, by simp only [ho]⟩

/-- A creation that the vendor accepts succeeds with what the look-up finds. -/
theorem createFrom_of_refresh {id : String} {made : ResourceState α} {u t : Session}
    (hcheck : r.check (r.toJson config) = .ok ()) (hcreate : r.create p config s = (.ok id, u))
    (hrefresh : r.refresh p ⟨id, config⟩ u = ⟨.ok (), made, t⟩) : r.createFrom p config s = (.ok made, t) := by
  simp only [createFrom, hcheck, hcreate, hrefresh]

/-- What a creation in place of a state makes known: what was created, or the state as it was. -/
theorem recreate_cases (r : Resource α) (p : Provider) (st : ResourceState α) (desired : α) (s : Session) :
    (∃ e t, r.createFrom p desired s = (.error e, t) ∧ r.recreate p st desired s = ⟨.error e, st, t⟩) ∨
    ∃ made t, r.createFrom p desired s = (.ok made, t) ∧ r.recreate p st desired s = ⟨.ok (), made, t⟩ := by
  unfold recreate
  rcases r.createFrom p desired s with ⟨created, t⟩
  cases created with
  | error e => exact .inl ⟨e, t, rfl, rfl⟩
  | ok made => exact .inr ⟨made, t, rfl, rfl⟩

/-- An import fails, or the look-up found the resource. -/
theorem importFrom_cases (r : Resource α) (p : Provider) (id : String) (s : Session) :
    (∃ e t, r.importFrom p id s = (.error e, t)) ∨
    ∃ now t, r.refresh p ⟨id, r.record.blank⟩ s = ⟨.ok (), now, t⟩ ∧ r.importFrom p id s = (.ok now, t) := by
  unfold importFrom
  rcases r.refresh p ⟨id, r.record.blank⟩ s with ⟨found, now, t⟩
  cases found with
  | error e => exact .inl ⟨e, t, rfl⟩
  | ok _ => exact .inr ⟨now, t, rfl, rfl⟩

theorem importFrom_of_some {id : String} {attributes : α} {t : Session} (h : id ≠ "")
    (hr : r.read p id r.record.blank s = (.ok (some attributes), t)) :
    r.importFrom p id s = (.ok ⟨id, attributes⟩, t) := by
  have hfound : r.refresh p ⟨id, r.record.blank⟩ s = ⟨.ok (), ⟨id, attributes⟩, t⟩ :=
    refresh_of_some (ResourceState.present_iff.2 h) hr
  rw [importFrom, hfound]

/-! ## Changing in place -/

/-- The call of a change in place, if a field changes, after the checks. -/
def modify (r : Resource α) (p : Provider) (st : ResourceState α) (planned : α) : Run Unit := fun s =>
  match r.check (r.toJson planned), r.changes st planned with
  | .error e, _ => (.error e, s)
  | .ok (), .error e => (.error e, s)
  | .ok (), .ok [] => (.ok (), s)
  | .ok (), .ok (name :: names) => r.update p st.id (name :: names) planned s

/-- **A change in place is its call, and then a look-up which starts from the planned attributes.** -/
theorem updateTo_eq (r : Resource α) (p : Provider) (st : ResourceState α) (planned : α) (s : Session) :
    r.updateTo p st planned s =
      match r.modify p st planned s with
      | (.error e, t) => ⟨.error e, st, t⟩
      | (.ok (), t) => r.refresh p ⟨st.id, planned⟩ t := by
  unfold updateTo modify
  cases r.check (r.toJson planned) with
  | error e => rfl
  | ok _ =>
    cases r.changes st planned with
    | error e => rfl
    | ok names =>
      cases names with
      | nil => rfl
      | cons name names => rfl

theorem updateTo_of_modify_error {e : Failure} {t : Session} (h : r.modify p st planned s = (.error e, t)) :
    r.updateTo p st planned s = ⟨.error e, st, t⟩ := by
  rw [updateTo_eq, h]

theorem updateTo_of_modify_ok {t : Session} (h : r.modify p st planned s = (.ok (), t)) :
    r.updateTo p st planned s = r.refresh p ⟨st.id, planned⟩ t := by
  rw [updateTo_eq, h]

/-- A call that is made or not needed only follows on checks that succeed. -/
theorem changes_of_modify {t : Session} (h : r.modify p st planned s = (.ok (), t)) :
    ∃ names, r.changes st planned = .ok names := by
  unfold modify at h
  split at h
  · cases h
  · cases h
  · exact ⟨_, by assumption⟩
  · exact ⟨_, by assumption⟩

/-- If the checks succeed and a field changes, the call is that of the type. -/
theorem modify_of_changes {names : List String} (hcheck : r.check (r.toJson planned) = .ok ())
    (hchanges : r.changes st planned = .ok names) (hne : names ≠ []) :
    r.modify p st planned s = r.update p st.id names planned s := by
  unfold modify
  rw [hcheck, hchanges]
  cases names with
  | nil => exact absurd rfl hne
  | cons name names => rfl

section Fixed

variable {name : String} {names : List String} (h : r.changes st planned = .ok names)
include h

/-- Changes that pass their check are of fields that can change in place. -/
theorem not_changes_of_fixed {f : Schema.Field} (hf : f ∈ r.schema.fields) (hm : f.mutability ≠ .updatable) :
    f.changes (r.toJson st.attributes) (r.toJson planned) = false := by
  refine Bool.eq_false_iff.2 fun hchanges => hm ?_
  exact (changes_eq_ok_iff.1 h).1 f (List.mem_filter.2 ⟨hf, hchanges⟩)

/-- A text that cannot change in place is the planned one. -/
theorem text_eq_of_fixed {a b : String} (hfix : r.schema.Fixes name .string)
    (ha : (r.toJson st.attributes).get? name = some (.string a))
    (hb : (r.toJson planned).get? name = some (.string b)) : a = b := by
  obtain ⟨f, hf, rfl, hk, hp, hm⟩ := hfix
  exact Schema.Field.text_eq hp hk ha hb (not_changes_of_fixed h hf hm)

/-- A set that cannot change in place is the planned one. -/
theorem set_eq_of_fixed {a b : StringSet} (hfix : r.schema.Fixes name .stringSet)
    (ha : (r.toJson st.attributes).get? name = some (.array (a.toList.map .string)))
    (hb : (r.toJson planned).get? name = some (.array (b.toList.map .string))) : a = b := by
  obtain ⟨f, hf, rfl, hk, hp, hm⟩ := hfix
  exact StringSet.ext (Schema.Field.mem_iff hp hk ha hb (not_changes_of_fixed h hf hm))

end Fixed

/-! ## Deleting -/

/-- A deletion has nothing to do, fails and leaves the state, or empties the identity. -/
theorem remove_cases (r : Resource α) (p : Provider) (st : ResourceState α) (s : Session) :
    (st.present = false ∧ r.remove p st s = ⟨.ok (), st, s⟩) ∨
    (∃ e t, st.present = true ∧ r.delete p st.id st.attributes s = (.error e, t) ∧
      r.remove p st s = ⟨.error e, st, t⟩) ∨
    ∃ t, st.present = true ∧ r.delete p st.id st.attributes s = (.ok (), t) ∧
      r.remove p st s = ⟨.ok (), ⟨"", st.attributes⟩, t⟩ := by
  unfold remove
  cases hp : st.present with
  | false => exact .inl ⟨rfl, rfl⟩
  | true =>
    rw [if_pos rfl]
    rcases r.delete p st.id st.attributes s with ⟨deleted, t⟩
    cases deleted with
    | error e => exact .inr (.inl ⟨e, t, rfl, rfl, rfl⟩)
    | ok _ => exact .inr (.inr ⟨t, rfl, rfl, rfl⟩)

theorem remove_of_not_present (h : st.present = false) : r.remove p st s = ⟨.ok (), st, s⟩ := by
  simp [remove, h]

theorem remove_of_delete_error {e : Failure} {t : Session} (h : st.present = true)
    (hd : r.delete p st.id st.attributes s = (.error e, t)) : r.remove p st s = ⟨.error e, st, t⟩ := by
  simp [remove, h, hd]

theorem remove_of_delete_ok {t : Session} (h : st.present = true)
    (hd : r.delete p st.id st.attributes s = (.ok (), t)) : r.remove p st s = ⟨.ok (), ⟨"", st.attributes⟩, t⟩ := by
  simp [remove, h, hd]

/-- A deletion of a resource that exists adds what its call adds. -/
theorem remove_ends_of_delete {P : List Exchange → Except Failure Unit → Prop} (hp : st.present = true)
    (h : (r.delete p st.id st.attributes).Ensures P) (s : Session) :
    (r.remove p st s).Ends s fun xs res _ => P xs res := by
  obtain ⟨xs, hxs, hP⟩ := h s
  rcases hd : r.delete p st.id st.attributes s with ⟨res, t⟩
  rw [hd] at hxs hP
  cases res with
  | error e =>
    rw [remove_of_delete_error hp hd]
    exact ⟨xs, hxs, hP⟩
  | ok _ =>
    rw [remove_of_delete_ok hp hd]
    exact ⟨xs, hxs, hP⟩

/-! ## Carrying out a plan -/

section Execute

variable {plan : Plan}

theorem execute_of_noOp (h : plan.action = .noOp) : r.execute p plan st desired s = ⟨.ok (), st, s⟩ := by
  rw [execute, h]

theorem execute_of_reject (h : plan.action = .reject) :
    r.execute p plan st desired s = ⟨.error (.notUpdatable (plan.rejected.head?.getD "")), st, s⟩ := by
  rw [execute, h]

theorem execute_of_update (h : plan.action = .update) :
    r.execute p plan st desired s = r.updateTo p st desired s := by
  rw [execute, h]

theorem execute_of_remove_error {e : Failure} {now : ResourceState α} {t : Session} (h : plan.action = .replace)
    (hr : r.remove p st s = ⟨.error e, now, t⟩) : r.execute p plan st desired s = ⟨.error e, now, t⟩ := by
  simp only [execute, h, hr]

theorem execute_of_remove_ok {now : ResourceState α} {t : Session} (h : plan.action = .replace)
    (hr : r.remove p st s = ⟨.ok (), now, t⟩) : r.execute p plan st desired s = r.recreate p now desired t := by
  simp only [execute, h, hr]

end Execute

end Resource

end Provision
