import Provision.Schema.Plan

/-!
# What a plan says

With prior attributes, the action of a plan is decided by the mutabilities of the fields that change: one case analysis
(`actionOf_cases`) says which action stands for which fields. If none of them can change, the plan is refused with all
of them (`plan_of_changes`).
-/

namespace Provision.Schema

theorem actionOf_cases (changed : List Field) :
    (actionOf changed = .noOp ∧ changed = []) ∨
    (actionOf changed = .reject ∧ ∃ f ∈ changed, f.mutability = .immutable) ∨
    (actionOf changed = .replace ∧ (∀ f ∈ changed, f.mutability ≠ .immutable) ∧
      ∃ f ∈ changed, f.mutability = .forceNew) ∨
    (actionOf changed = .update ∧ changed ≠ [] ∧ ∀ f ∈ changed, f.mutability = .updatable) := by
  unfold actionOf
  split
  · rename_i hnil
    exact .inl ⟨rfl, List.isEmpty_iff.1 hnil⟩
  · rename_i hne
    split
    · rename_i himm
      exact .inr (.inl ⟨rfl, by simpa using himm⟩)
    · rename_i hno
      have hno : ∀ f ∈ changed, f.mutability ≠ .immutable := by simpa using hno
      split
      · rename_i hnew
        exact .inr (.inr (.inl ⟨rfl, hno, by simpa using hnew⟩))
      · rename_i hold
        have hold : ∀ f ∈ changed, f.mutability ≠ .forceNew := by simpa using hold
        refine .inr (.inr (.inr ⟨rfl, by simpa using hne, fun f hf => ?_⟩))
        have h1 := hno f hf
        have h2 := hold f hf
        cases hm : f.mutability with
        | updatable => rfl
        | immutable => exact absurd hm h1
        | forceNew => exact absurd hm h2

/-- The fields that cannot change are named in the order of the schema, so the first name is that of the first of
them. -/
theorem head?_rejected (s : Schema) (prior desired : Json) :
    (s.plan (some prior) desired).rejected.head? =
      (s.fields.find? fun f => f.changes prior desired && f.mutability == .immutable).map Field.name := by
  simp only [plan, changedFields, List.head?_map, List.filter_filter, List.head?_filter]
  congr 2
  funext f
  exact Bool.and_comm ..

/-- A plan of which it is known which fields change, if none of them can change. -/
theorem plan_of_changes {s : Schema} {prior desired : Json} {names : List String}
    (h : ∀ f ∈ s.fields, f.changes prior desired = names.contains f.name)
    (hnames : (s.fields.filter fun f => names.contains f.name).map Field.name = names)
    (hfixed : ∀ f ∈ s.fields, f.name ∈ names → f.mutability = .immutable) :
    s.plan (some prior) desired = ⟨if names = [] then .noOp else .reject, names, names⟩ := by
  have hchanged : s.changedFields prior desired = s.fields.filter fun f => names.contains f.name :=
    List.filter_congr h
  have himmutable : ∀ f ∈ s.changedFields prior desired, f.mutability = .immutable := by
    intro f hf
    rw [hchanged, List.mem_filter, List.contains_iff_mem] at hf
    exact hfixed f hf.1 hf.2
  have hrejected : (s.changedFields prior desired).filter (·.mutability == .immutable) =
      s.changedFields prior desired :=
    List.filter_eq_self.2 fun f hf => by rw [himmutable f hf]; rfl
  have haction : actionOf (s.changedFields prior desired) = if names = [] then .noOp else .reject := by
    rcases actionOf_cases (s.changedFields prior desired) with
      ⟨ha, hnil⟩ | ⟨ha, f, hf, -⟩ | ⟨-, hnone, f, hf, -⟩ | ⟨-, hne, hall⟩
    · rw [ha, if_pos]
      rw [← hnames, ← hchanged, hnil]
      rfl
    · rw [ha, if_neg]
      intro hnil
      rw [hchanged, hnil] at hf
      simp at hf
    · exact absurd (himmutable f hf) (hnone f hf)
    · obtain ⟨f, hf⟩ := List.exists_mem_of_ne_nil _ hne
      have hupdatable := hall f hf
      rw [himmutable f hf] at hupdatable
      cases hupdatable
  simp only [plan, haction, hrejected]
  rw [hchanged, hnames]

end Provision.Schema
