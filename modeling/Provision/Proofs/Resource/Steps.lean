import Provision.Proofs.Resource.Refresh
import Provision.Proofs.Resource.Requests
import Provision.Proofs.Schema.Plan

/-!
# What the steps of a life add

One lemma for each step of the life of a resource says which requests it sends, and what is known after it. A refresh
only asks (`Kind.refresh_asks`). A creation gives what the vendor created, or leaves the state as it was
(`Kind.recreate_ends`); a deletion empties the identity, or leaves the state as it was (`Kind.remove_ends`); a change
sends its own action when a field changes (`Kind.updateTo_ends`).
-/

namespace Provision

namespace Resource

variable {α : Type} {r : Resource α} {desired : α} {st : ResourceState α}

/-- The plan of a state for a configuration that passed its check. -/
theorem plan_of_check (st : ResourceState α) (h : r.check (r.toJson desired) = .ok ()) : r.plan (some st) desired =
    .ok (r.schema.plan (if st.present then some (r.toJson st.attributes) else none) (r.toJson desired)) := by
  rw [plan, h]
  cases hp : st.present with
  | false =>
    simp only [Option.filter, hp]
    rfl
  | true =>
    simp only [Option.filter, hp]
    rfl

/-- The names of the fields that change, if all of these can change in place. -/
theorem changes_eq_ok_iff {planned : α} {names : List String} : r.changes st planned = .ok names ↔
    (∀ f ∈ r.schema.changedFields (r.toJson st.attributes) (r.toJson planned), f.mutability = .updatable) ∧
      names = (r.schema.changedFields (r.toJson st.attributes) (r.toJson planned)).map Schema.Field.name := by
  unfold changes
  dsimp only
  split
  · rename_i f hfound
    have hfixed : f.mutability ≠ .updatable := by simpa using List.find?_some hfound
    refine iff_of_false (fun h => (by cases h)) fun h => hfixed (h.1 f (List.mem_of_find?_eq_some hfound))
  · rename_i hnone
    have hall : ∀ f ∈ r.schema.changedFields (r.toJson st.attributes) (r.toJson planned), f.mutability = .updatable :=
      fun f hf => by simpa using List.find?_eq_none.1 hnone f hf
    exact ⟨fun h => ⟨hall, (Except.ok.inj h).symm⟩, fun h => congrArg Except.ok h.2.symm⟩

/-- One that cannot change in place is named. -/
theorem changes_of_fixed {planned : α}
    (h : ∃ f ∈ r.schema.changedFields (r.toJson st.attributes) (r.toJson planned), f.mutability ≠ .updatable) :
    ∃ f ∈ r.schema.changedFields (r.toJson st.attributes) (r.toJson planned), f.mutability ≠ .updatable ∧
      r.changes st planned = .error (.notUpdatable f.name) := by
  unfold changes
  dsimp only
  split
  · rename_i f hfound
    exact ⟨f, List.mem_of_find?_eq_some hfound, by simpa using List.find?_some hfound, rfl⟩
  · rename_i hnone
    obtain ⟨f, hf, hfixed⟩ := h
    exact absurd (by simpa using List.find?_eq_none.1 hnone f hf) hfixed

/-- An application ends where the check fails, where the refresh fails, or where the plan is carried out. -/
theorem apply_cases (r : Resource α) (p : Provider) (st : ResourceState α) (desired : α) (s : Session) :
    (∃ e, r.check (r.toJson desired) = .error e ∧ r.apply p st desired s = ⟨.error e, st, s⟩) ∨
    (∃ e now t, r.check (r.toJson desired) = .ok () ∧ r.current p st s = ⟨.error e, now, t⟩ ∧
      r.apply p st desired s = ⟨.error e, now, t⟩) ∨
    ∃ plan now t, r.check (r.toJson desired) = .ok () ∧ r.current p st s = ⟨.ok (), now, t⟩ ∧
      r.plan (some now) desired = .ok plan ∧ r.apply p st desired s = r.execute p plan now desired t := by
  unfold apply
  cases hcheck : r.check (r.toJson desired) with
  | error e => exact .inl ⟨e, rfl, rfl⟩
  | ok _ =>
    rcases hc : r.current p st s with ⟨res, now, t⟩
    cases res with
    | error e => exact .inr (.inl ⟨e, now, t, rfl, rfl, rfl⟩)
    | ok _ =>
      have hplan := plan_of_check now hcheck
      refine .inr (.inr ⟨_, now, t, rfl, rfl, hplan, ?_⟩)
      dsimp only
      rw [hplan]

/-- The look-up after a creation decides. -/
theorem createFrom_of_refresh_error {p : Provider} {id : String} {e : Failure} {now : ResourceState α}
    {s t u : Session} (hcheck : r.check (r.toJson desired) = .ok ()) (hcreate : r.create p desired s = (.ok id, t))
    (hrefresh : r.refresh p ⟨id, desired⟩ t = ⟨.error e, now, u⟩) : r.createFrom p desired s = (.error e, u) := by
  simp only [createFrom, hcheck, hcreate, hrefresh]

theorem execute_of_create {plan : Plan} (h : plan.action = .create) (p : Provider) (s : Session) :
    r.execute p plan st desired s = r.recreate p st desired s := by
  rw [execute, h]

/-- Without an identity, an application creates. -/
theorem apply_of_not_present (hcheck : r.check (r.toJson desired) = .ok ()) (h : st.present = false) (p : Provider)
    (s : Session) : r.apply p st desired s = r.recreate p st desired s := by
  have hcurrent : r.current p st s = ⟨.ok (), st, s⟩ := by simp [current, h]
  rw [apply, hcheck]
  dsimp only
  rw [hcurrent]
  dsimp only
  rw [plan_of_check st hcheck, h]
  exact execute_of_create rfl p s

end Resource

namespace Kind

variable {k : Kind} {p : Provider} {st : ResourceState k.Config} {s : Session}

/-! ## Asking -/

theorem refresh_asks (p : Provider) (st : ResourceState k.Config) (s : Session) :
    (k.resource.refresh p st s).Ends s fun xs _ _ => ∀ x ∈ xs, x.posting.action = k.question := by
  obtain ⟨xs, hxs, hask, -⟩ := read_ensures p st.id k st.attributes s
  obtain ⟨ys, hys, ⟨-, rfl, -⟩ | ⟨-, rfl | rfl, -⟩⟩ := Resource.refresh_ends hxs
  · exact ⟨ys, hys, hask⟩
  · exact ⟨ys, hys, hask⟩
  · exact ⟨[], hys, by simp⟩

theorem refresh_id (p : Provider) (st : ResourceState k.Config) (s : Session)
    (h : (k.resource.refresh p st s).result = .ok ()) : (k.resource.refresh p st s).state.id = st.id := by
  obtain ⟨xs, hxs, -⟩ := read_ensures p st.id k st.attributes s
  obtain ⟨-, -, ⟨-, -, -, hid, -⟩ | ⟨hne, -⟩⟩ := Resource.refresh_ends hxs
  · exact hid
  · exact absurd h hne

/-- What is known of a resource before a plan is made: if it has an identity, then the vendor just found it. -/
theorem current_ends (p : Provider) (st : ResourceState k.Config) (s : Session) :
    (k.resource.current p st s).Ends s fun xs r now =>
    (∀ x ∈ xs, x.posting.action = k.question) ∧
      (r = .ok () → now.present = true → k.Held now.id now.attributes) := by
  obtain ⟨xs, hxs, hask, -⟩ := read_ensures p st.id k st.attributes s
  rcases k.resource.current_cases p st s with
    ⟨hp, he⟩ | ⟨_, t, hr, he⟩ | ⟨_, t, hr, -, he⟩ | ⟨_, t, hr, -, he⟩
  · rw [he]
    exact ⟨[], rfl, by simp, fun _ h => by rw [hp] at h; cases h⟩
  · rw [hr] at hxs
    rw [he]
    exact ⟨xs, hxs, hask, fun _ _ => held_of_read (congrArg Prod.fst hr)⟩
  · rw [hr] at hxs
    rw [he]
    exact ⟨xs, hxs, hask, fun _ h => by cases h⟩
  · rw [hr] at hxs
    rw [he]
    exact ⟨xs, hxs, hask, fun h => by cases h⟩

/-! ## Changing -/

/-- What a creation adds: besides questions only its own action, which is sent if it can be written, and a new state has
the identity of what was created. -/
structure Made (k : Kind) (p : Provider) (config : k.Config) (xs : List Exchange)
    (r : Except Failure (ResourceState k.Config)) : Prop where
  sent : ∀ x ∈ xs, x.posting.action = k.question ∨ x.posting.action = k.creation
  tried : k.resource.check (k.resource.toJson config) = .ok () → (∀ e, ¬p.Unwritten .dcdb k.creation e) →
    ∃ x ∈ xs, x.posting.action = k.creation
  made : ∀ made, r = .ok made → (∃ x ∈ xs, k.createdBy config x = some made.id) ∧
    ∀ x ∈ xs, ∀ id, k.createdBy config x = some id → made.id = id

theorem createdBy_of_question {config : k.Config} {x : Exchange} (h : x.posting.action = k.question) :
    k.createdBy config x = none :=
  if_neg fun ha => k.question_ne_creation (h.symm.trans ha)

theorem createFrom_ensures (p : Provider) (config : k.Config) :
    (k.resource.createFrom p config).Ensures (k.Made p config) := by
  intro s
  unfold Resource.createFrom
  split
  · rename_i hcheck
    refine ⟨[], rfl, by simp, fun hpass => ?_, by simp⟩
    rw [hcheck] at hpass
    cases hpass
  · obtain ⟨xs, hxs, hc⟩ := create_ensures p k config s
    rcases hr : k.resource.create p config s with ⟨r, t⟩
    rw [hr] at hxs hc
    cases r with
    | error e => exact ⟨xs, hxs, hc.sent, fun _ => hc.tried, by simp⟩
    | ok id =>
      obtain ⟨ys, hys, hask⟩ := refresh_asks p (⟨id, config⟩ : ResourceState k.Config) t
      have hid := refresh_id p (⟨id, config⟩ : ResourceState k.Config) t
      dsimp only at hxs ⊢
      rcases ho : k.resource.refresh p ⟨id, config⟩ t with ⟨res, made, u⟩
      rw [ho] at hys hid
      have hsent : ∀ x ∈ ys ++ xs, x.posting.action = k.question ∨ x.posting.action = k.creation :=
        fun x hx => (List.mem_append.1 hx).elim (fun h => .inl (hask x h)) (hc.sent x)
      have htried : (∀ e, ¬p.Unwritten .dcdb k.creation e) → ∃ x ∈ ys ++ xs, x.posting.action = k.creation := by
        intro hp
        obtain ⟨x, hx, ha⟩ := hc.tried hp
        exact ⟨x, List.mem_append_right ys hx, ha⟩
      have hadd : u.exchanges = ys ++ xs ++ s.exchanges := by
        rw [List.append_assoc, ← hxs]
        exact hys
      cases res with
      | error e => exact ⟨ys ++ xs, hadd, hsent, fun _ => htried, by simp⟩
      | ok _ =>
        refine ⟨ys ++ xs, hadd, hsent, fun _ => htried, ?_⟩
        rintro _ ⟨⟩
        obtain rfl : made.id = id := hid rfl
        obtain ⟨x, hx, hcr⟩ := hc.accepted made.id rfl
        refine ⟨⟨x, List.mem_append_right ys hx, hcr⟩, fun y hy id hyid => ?_⟩
        rcases List.mem_append.1 hy with hy | hy
        · rw [createdBy_of_question (hask y hy)] at hyid
          cases hyid
        · exact hc.only y hy id _ hyid rfl

/-- A creation in place of a state: the state stays if the creation fails. -/
theorem recreate_ends (p : Provider) (st : ResourceState k.Config) (desired : k.Config) (s : Session) :
    (k.resource.recreate p st desired s).Ends s fun xs r now =>
    (∀ x ∈ xs, x.posting.action = k.question ∨ x.posting.action = k.creation) ∧
      (k.resource.check (k.resource.toJson desired) = .ok () → (∀ e, ¬p.Unwritten .dcdb k.creation e) →
        ∃ x ∈ xs, x.posting.action = k.creation) ∧
      (r = .ok () → (∃ x ∈ xs, k.createdBy desired x = some now.id) ∧
        ∀ x ∈ xs, ∀ id, k.createdBy desired x = some id → now.id = id) ∧
      (r ≠ .ok () → now = st) := by
  obtain ⟨xs, hxs, hsent, htried, hmade⟩ := createFrom_ensures p desired s
  unfold Resource.recreate
  rcases hr : k.resource.createFrom p desired s with ⟨r, t⟩
  rw [hr] at hxs hmade
  cases r with
  | error e => exact ⟨xs, hxs, hsent, htried, fun h => (by cases h), fun _ => rfl⟩
  | ok made => exact ⟨xs, hxs, hsent, htried, fun _ => hmade made rfl, fun h => absurd rfl h⟩

/-- A deletion of a resource that was found: its identity goes, or nothing changes. -/
theorem remove_ends (hp : st.present = true) (held : k.Held st.id st.attributes) :
    (k.resource.remove p st s).Ends s fun xs r now =>
      (∀ x ∈ xs, x.posting.action = k.deletion) ∧ (r = .ok () ∨ k.Able p st.id (some k.deletion) → xs ≠ []) ∧
        (r = .ok () → now.id = "") ∧ (r ≠ .ok () → now = st) := by
  obtain ⟨xs, hxs, hsent, hsome⟩ := delete_ensures p st.id k st.attributes s
  have hown : ∀ x ∈ xs, x.posting.action = k.deletion := fun x hx => (Option.some.inj (hsent x hx)).symm
  simp only [Resource.remove, hp, if_true]
  rcases hr : k.resource.delete p st.id st.attributes s with ⟨r, t⟩
  rw [hr] at hxs hsome
  cases r with
  | error e =>
    exact ⟨xs, hxs, hown, fun h => hsome (h.imp_left fun h => by cases h) held, fun h => (by cases h), fun _ => rfl⟩
  | ok _ => exact ⟨xs, hxs, hown, fun _ => hsome (.inl rfl) held, fun _ => rfl, fun h => absurd rfl h⟩

/-- The fields that change when a configuration takes the place of what is known. -/
def changed (k : Kind) (st : ResourceState k.Config) (planned : k.Config) : List Schema.Field :=
  k.schema.changedFields (k.resource.toJson st.attributes) (k.resource.toJson planned)

section Update

variable {planned : k.Config} (hup : ∀ f ∈ k.changed st planned, f.mutability = .updatable)
include hup

/-- If all fields that change can change in place, they are the changes. -/
theorem changes_of_updatable :
    k.resource.changes st planned = .ok ((k.changed st planned).map Schema.Field.name) :=
  Resource.changes_eq_ok_iff.2 ⟨hup, rfl⟩

/-- A change in place of a resource of which a field changes. -/
theorem updateTo_ends (hcheck : k.resource.check (k.resource.toJson planned) = .ok ())
    (hne : k.changed st planned ≠ []) :
    (k.resource.updateTo p st planned s).Ends s fun xs r _ =>
      (∀ x ∈ xs, x.posting.action = k.question ∨ k.modification = some x.posting.action) ∧
        (r = .ok () ∨ k.Able p st.id k.modification → ∃ x ∈ xs, k.modification = some x.posting.action) := by
  obtain ⟨f, rest, hf⟩ := List.exists_cons_of_ne_nil hne
  have hmem : f ∈ k.schema.fields := (List.mem_filter.1 (hf ▸ List.mem_cons_self : f ∈ k.changed st planned)).1
  have needed : k.NamesUpdatable (f.name :: rest.map Schema.Field.name) :=
    ⟨f, hmem, hup f (hf ▸ List.mem_cons_self), List.mem_cons_self⟩
  rw [Resource.updateTo, hcheck, changes_of_updatable hup, hf, List.map_cons]
  obtain ⟨xs, hxs, hown, hsome⟩ := update_ensures p st.id (f.name :: rest.map Schema.Field.name) k planned s
  dsimp only
  rcases hr : k.resource.update p st.id (f.name :: rest.map Schema.Field.name) planned s with ⟨r, t⟩
  rw [hr] at hxs hsome
  cases r with
  | error e =>
    refine ⟨xs, hxs, fun x hx => .inr (hown x hx), fun h => ?_⟩
    obtain ⟨x, hx⟩ := List.exists_mem_of_ne_nil xs (hsome (h.imp_left fun h => by cases h) needed)
    exact ⟨x, hx, hown x hx⟩
  | ok _ =>
    obtain ⟨ys, hys, hask⟩ := refresh_asks p { st with attributes := planned } t
    refine ⟨ys ++ xs, ?_, fun x hx => (List.mem_append.1 hx).elim (fun h => .inl (hask x h)) fun h => .inr (hown x h),
      fun _ => ?_⟩
    · rw [List.append_assoc, ← hxs]
      exact hys
    · obtain ⟨x, hx⟩ := List.exists_mem_of_ne_nil xs (hsome (.inl rfl) needed)
      exact ⟨x, List.mem_append_right ys hx, hown x hx⟩

end Update

end Kind

end Provision
