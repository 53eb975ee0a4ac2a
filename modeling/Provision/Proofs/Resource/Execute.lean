import Provision.Proofs.Resource.Steps

/-!
# Carrying out a plan

`Carried` is the table of what each plan lets be sent, read on the state and the session from which it is carried out.
A creation is only sent while there is no identity: none was known, or the deletion before it succeeded. `Recorded`
says what is known of a resource that the vendor created: its identity if all went well, and otherwise none. Main
statement: carrying out the plan of a state does both (`Kind.execute_ends`).
-/

namespace Provision

theorem own_of_mutations (own : String → Prop) {question a : String} {xs : List Exchange}
    (hq : isQuestion question = true) (h : ∀ x ∈ xs, x.posting.action = question ∨ own x.posting.action)
    (ha : a ∈ mutations xs) : own a := by
  obtain ⟨hna, x, hx, rfl⟩ := mem_mutations.1 ha
  rcases h x hx with hask | hown
  · rw [hask, hq] at hna
    cases hna
  · exact hown

theorem ResourceState.id_of_not_present {α : Type} {st : ResourceState α} (h : st.present = false) : st.id = "" := by
  simpa [ResourceState.present] using h

namespace Kind

/-- **What carrying out a plan adds to a session, and how it ends**, from a state. -/
def Carried (k : Kind) (p : Provider) (plan : Plan) (st : ResourceState k.Config) (desired : k.Config) (s : Session)
    (xs : List Exchange) (r : Except Failure Unit) : Prop :=
  match plan.action with
  | .noOp => mutations xs = [] ∧ r = .ok ()
  | .reject => mutations xs = [] ∧ ∃ f, r = .error (.notUpdatable f.name) ∧
      k.schema.fields.find? (fun f => f.changes (k.resource.toJson st.attributes) (k.resource.toJson desired) &&
        f.mutability == .immutable) = some f
  | .update => (∀ a ∈ mutations xs, k.modification = some a) ∧
      (r = .ok () ∨ k.Able p st.id k.modification → mutations xs ≠ [])
  | .create => st.id = "" ∧ (∀ a ∈ mutations xs, a = k.creation) ∧
      (r = .ok () ∨ (∀ e, ¬p.Unwritten .dcdb k.creation e) → mutations xs ≠ [])
  | .replace => ∃ later earlier, xs = later ++ earlier ∧
      (k.resource.remove p st s).session.exchanges = earlier ++ s.exchanges ∧
      (∀ a ∈ mutations earlier, a = k.deletion) ∧ (∀ a ∈ mutations later, a = k.creation) ∧
      (k.Able p st.id (some k.deletion) → mutations earlier ≠ []) ∧
      (mutations later ≠ [] → (k.resource.remove p st s).result = .ok () ∧
        (k.resource.remove p st s).state.id = "" ∧ mutations earlier ≠ []) ∧
      (r = .ok () ∨ (k.resource.remove p st s).result = .ok () ∧ (∀ e, ¬p.Unwritten .dcdb k.creation e) →
        mutations later ≠ [])

/-- **What is known of the resources that the vendor created**: the identity if the step succeeded, and otherwise
none. -/
def Recorded (k : Kind) (config : k.Config) (xs : List Exchange) (r : Except Failure Unit)
    (now : ResourceState k.Config) : Prop :=
  ∀ x ∈ xs, ∀ id, k.createdBy config x = some id → (r = .ok () → now.id = id) ∧ (r ≠ .ok () → now.id = "")

variable {k : Kind} {p : Provider} {st : ResourceState k.Config} {desired : k.Config} {s : Session}

theorem recorded_of_not_created {xs : List Exchange} {r : Except Failure Unit} {now : ResourceState k.Config}
    (h : ∀ x ∈ xs, x.posting.action ≠ k.creation) : Recorded k desired xs r now :=
  fun x hx _ hid => absurd (action_of_createdBy hid) (h x hx)

theorem Recorded.append {later earlier : List Exchange} {r : Except Failure Unit} {now : ResourceState k.Config}
    (h : Recorded k desired later r now) (he : ∀ x ∈ earlier, x.posting.action ≠ k.creation) :
    Recorded k desired (later ++ earlier) r now := fun x hx =>
  (List.mem_append.1 hx).elim (h x) (recorded_of_not_created he x)

/-- A creation in place of a state without identity. -/
theorem recreate_sends (hcheck : k.resource.check (k.resource.toJson desired) = .ok ()) (p : Provider) (s : Session)
    (hid : st.id = "") : (k.resource.recreate p st desired s).Ends s fun xs r now =>
    (∀ a ∈ mutations xs, a = k.creation) ∧
      (r = .ok () ∨ (∀ e, ¬p.Unwritten .dcdb k.creation e) → mutations xs ≠ []) ∧ Recorded k desired xs r now := by
  obtain ⟨xs, hxs, hsent, htried, hok, herr⟩ := recreate_ends p st desired s
  refine ⟨xs, hxs, fun a => own_of_mutations (· = k.creation) k.isQuestion_question hsent, fun h => ?_,
    fun x hx id hcr => ⟨fun h => (hok h).2 x hx id hcr, fun h => by rw [herr h, hid]⟩⟩
  obtain ⟨x, hx, ha⟩ : ∃ x ∈ xs, x.posting.action = k.creation := by
    rcases h with hr | hp
    · obtain ⟨⟨x, hx, hcr⟩, -⟩ := hok hr
      exact ⟨x, hx, action_of_createdBy hcr⟩
    · exact htried hcheck hp
  exact mutations_ne_nil hx (by rw [ha, k.isQuestion_creation])

/-- A plan is carried out as the table says, and what was created is recorded. -/
def Executes (k : Kind) (p : Provider) (plan : Plan) (st : ResourceState k.Config) (desired : k.Config)
    (s : Session) : Prop :=
  (k.resource.execute p plan st desired s).Ends s fun xs r now =>
    Carried k p plan st desired s xs r ∧ Recorded k desired xs r now

section Execute

variable {plan : Plan}

theorem execute_noOp (h : plan.action = .noOp) : k.Executes p plan st desired s := by
  rw [Executes, Resource.execute, h]
  exact ⟨[], rfl, by simp [Carried, h], recorded_of_not_created (by simp)⟩

/-- The field that is named is the first one that changes and cannot change. -/
theorem execute_reject (h : plan.action = .reject)
    (hplan : plan = k.schema.plan (some (k.resource.toJson st.attributes)) (k.resource.toJson desired))
    (himm : ∃ f ∈ k.changed st desired, f.mutability = .immutable) : k.Executes p plan st desired s := by
  obtain ⟨g, hg, hm⟩ := himm
  obtain ⟨hmem, hchanges⟩ := List.mem_filter.1 hg
  have hfound : (k.schema.fields.find? fun f => f.changes (k.resource.toJson st.attributes)
      (k.resource.toJson desired) && f.mutability == .immutable).isSome = true :=
    List.find?_isSome.2 ⟨g, hmem, by rw [hchanges, hm]; rfl⟩
  obtain ⟨f, hf⟩ := Option.isSome_iff_exists.1 hfound
  have hhead : plan.rejected.head? = some f.name := by
    rw [hplan, Schema.head?_rejected, hf]
    rfl
  rw [Executes, Resource.execute, h]
  refine ⟨[], rfl, ?_, recorded_of_not_created (by simp)⟩
  simp only [Carried, h]
  exact ⟨rfl, f, by rw [hhead]; rfl, hf⟩

theorem execute_update (h : plan.action = .update)
    (hcheck : k.resource.check (k.resource.toJson desired) = .ok ())
    (hne : k.changed st desired ≠ []) (hup : ∀ f ∈ k.changed st desired, f.mutability = .updatable) :
    k.Executes p plan st desired s := by
  obtain ⟨xs, hxs, hown, hsome⟩ := updateTo_ends (p := p) (s := s) hup hcheck hne
  rw [Executes, Resource.execute, h]
  refine ⟨xs, hxs, ?_, recorded_of_not_created fun x hx => ?_⟩
  · simp only [Carried, h]
    refine ⟨fun a => own_of_mutations (k.modification = some ·) k.isQuestion_question hown, fun hr => ?_⟩
    obtain ⟨x, hx, hm⟩ := hsome hr
    exact mutations_ne_nil hx (isQuestion_modification hm)
  · rcases hown x hx with hask | hm
    · rw [hask]
      exact k.question_ne_creation
    · exact modification_ne_creation hm

theorem execute_create (h : plan.action = .create) (hcheck : k.resource.check (k.resource.toJson desired) = .ok ())
    (hid : st.id = "") : k.Executes p plan st desired s := by
  obtain ⟨xs, hxs, hown, hsome, hrec⟩ := recreate_sends hcheck p s hid
  rw [Executes, Resource.execute, h]
  refine ⟨xs, hxs, ?_, hrec⟩
  simp only [Carried, h]
  exact ⟨hid, hown, hsome⟩

/-- A deletion that fails ends the replacement; otherwise there is no identity any more when the creation begins. -/
theorem execute_replace (h : plan.action = .replace) (hcheck : k.resource.check (k.resource.toJson desired) = .ok ())
    (hp : st.present = true) (held : k.Held st.id st.attributes) : k.Executes p plan st desired s := by
  obtain ⟨earlier, hearlier, hown, hsent, hgone, -⟩ := remove_ends (p := p) (s := s) hp held
  have hdel : ∀ a ∈ mutations earlier, a = k.deletion := by
    intro a ha
    obtain ⟨-, x, hx, rfl⟩ := mem_mutations.1 ha
    exact hown x hx
  have hother : ∀ x ∈ earlier, x.posting.action ≠ k.creation := by
    intro x hx
    rw [hown x hx]
    exact k.deletion_ne_creation
  have htried : earlier ≠ [] → mutations earlier ≠ [] := by
    intro hne
    obtain ⟨x, hx⟩ := List.exists_mem_of_ne_nil earlier hne
    exact mutations_ne_nil hx (by rw [hown x hx, k.isQuestion_deletion])
  rw [Executes, Resource.execute, h]
  dsimp only
  rcases hr : k.resource.remove p st s with ⟨res, now, t⟩
  rw [hr] at hearlier hgone hsent
  cases res with
  | error e =>
    refine ⟨earlier, hearlier, ?_, recorded_of_not_created hother⟩
    simp only [Carried, h]
    refine ⟨[], earlier, rfl, by rw [hr]; exact hearlier, hdel, by simp, fun h => htried (hsent (.inr h)), by simp, ?_⟩
    rw [hr]
    rintro (hok | ⟨hok, -⟩) <;> cases hok
  | ok _ =>
    have hid : now.id = "" := hgone rfl
    obtain ⟨later, hlater, hmade, hsome, hrec⟩ := recreate_sends hcheck p t hid
    refine ⟨later ++ earlier, ?_, ?_, hrec.append hother⟩
    · rw [List.append_assoc, ← hearlier]
      exact hlater
    · simp only [Carried, h]
      refine ⟨later, earlier, rfl, by rw [hr]; exact hearlier, hdel, hmade, fun h => htried (hsent (.inr h)),
        fun _ => ?_, fun h => hsome (h.imp_right And.right)⟩
      rw [hr]
      exact ⟨rfl, hid, htried (hsent (.inl rfl))⟩

/-- **Carrying out the plan of a state whose resource was just found, or that has none, fits the table and records
what was created.** -/
theorem execute_ends (hcheck : k.resource.check (k.resource.toJson desired) = .ok ())
    (held : st.present = true → k.Held st.id st.attributes) (hplan : k.resource.plan (some st) desired = .ok plan) :
    k.Executes p plan st desired s := by
  rw [Resource.plan_of_check st hcheck] at hplan
  change Except.ok (k.schema.plan _ _) = _ at hplan
  cases hp : st.present with
  | false =>
    rw [hp] at hplan
    cases hplan
    exact execute_create rfl hcheck (ResourceState.id_of_not_present hp)
  | true =>
    rw [hp, if_pos rfl] at hplan
    have hplan := (Except.ok.inj hplan).symm
    have hact : plan.action = Schema.actionOf (k.changed st desired) := by
      rw [hplan]
      rfl
    rcases Schema.actionOf_cases (k.changed st desired) with
      ⟨ha, -⟩ | ⟨ha, himm⟩ | ⟨ha, -⟩ | ⟨ha, hne, hup⟩
    · exact execute_noOp (hact.trans ha)
    · exact execute_reject (hact.trans ha) hplan himm
    · exact execute_replace (hact.trans ha) hcheck hp (held hp)
    · exact execute_update (hact.trans ha) hcheck hne hup

end Execute

end Kind

end Provision
