import Provision.Proofs.Schema.WellFormed

/-!
# What a checked configuration has

A configuration that breaks no rule of its schema has all that is required (`isSet_of_required`). A schema without
conflicts and bounds asks for that, and for members that name fields, and for nothing else (`violation?_eq_none_iff`).
-/

namespace Provision.Schema

/-- The fields that have to be set. -/
def Requires (s : Schema) (name : String) : Prop := ∃ f ∈ s.fields, f.name = name ∧ f.presence = .required

instance (s : Schema) (name : String) : Decidable (s.Requires name) :=
  inferInstanceAs (Decidable (∃ f ∈ s.fields, f.name = name ∧ f.presence = .required))

theorem isSet_of_required {s : Schema} {v : Json} {name : String} (h : s.violation? v = none)
    (hr : s.Requires name) : isSet (v.get? name) = true := by
  obtain ⟨f, hf, rfl, hreq⟩ := hr
  exact isSet_iff.2 ((violation?_eq_none_iff_wellFormed.1 h).complete f hf hreq)

/-- A schema without conflicts and without bounds of lengths. -/
def Plain (s : Schema) : Prop := ∀ f ∈ s.fields, f.conflicts = [] ∧ f.length = none

instance (s : Schema) : Decidable s.Plain :=
  inferInstanceAs (Decidable (∀ f ∈ s.fields, f.conflicts = [] ∧ f.length = none))

/-- **A plain schema only asks that every set member names a field and every required field is set.** -/
theorem violation?_eq_none_iff {s : Schema} (hs : s.Plain) {members : List (String × Json)} :
    s.violation? (.object members) = none ↔
      (∀ m ∈ members, isSet (some m.2) = true → (s.field? m.1).isSome) ∧
      ∀ f ∈ s.fields, f.presence = .required → isSet (Json.find f.name members) = true := by
  have hfield : ∀ name, (s.field? name).isSome ↔ ∃ f ∈ s.fields, f.name = name := by
    intro name
    simp [field?, List.find?_isSome]
  rw [violation?_eq_none_iff_wellFormed]
  constructor
  · intro h
    obtain ⟨_, ⟨rfl⟩, hnamed⟩ := h.named
    exact ⟨fun m hm hset => (hfield m.1).2 (hnamed m hm (isSet_some_iff.1 hset)),
      fun f hf hreq => isSet_iff.2 (h.complete f hf hreq)⟩
  · rintro ⟨hnamed, hrequired⟩
    refine ⟨⟨members, rfl, fun m hm hcounts => (hfield m.1).1 (hnamed m hm (isSet_some_iff.2 hcounts))⟩,
      fun f hf hreq => isSet_iff.1 (hrequired f hf hreq), fun f hf g _ _ _ hmem => ?_,
      fun f hf least most text hlength => ?_⟩
    · rw [(hs f hf).1] at hmem
      cases hmem
    · rw [(hs f hf).2] at hlength
      cases hlength

end Provision.Schema
