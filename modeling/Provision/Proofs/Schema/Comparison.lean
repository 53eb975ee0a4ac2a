import Provision.Proofs.Schema.Sets

/-!
# What it means that a field does not change

The values of a field are compared after they are put in order. A text that does not change is the same text
(`Field.text_eq`), and a set of texts that does not change has the same elements (`Field.mem_iff`).
-/

namespace Provision

namespace Schema

open Json

namespace Field

variable {f : Field} {prior desired : Json}

/-- A field of which the configuration alone decides does not change only if its two values are compared as equal. -/
theorem same_of_not_changes (hp : f.presence = .required) (h : f.changes prior desired = false) :
    (f.normalized (prior.get? f.name)).same (f.normalized (desired.get? f.name)) = true := by
  simpa [changes, hp] using h

theorem normalized_string (hk : f.kind = .string) (s : String) :
    f.normalized (some (.string s)) = if s = "" then .null else .string s := by
  by_cases hs : s = ""
  · simp [normalized, isSet, hs]
  · simp [normalized, isSet, hs, hk]

/-- **A text that does not change is the same text.** -/
theorem text_eq {s t : String} (hp : f.presence = .required) (hk : f.kind = .string)
    (hs : prior.get? f.name = some (.string s)) (ht : desired.get? f.name = some (.string t))
    (h : f.changes prior desired = false) : s = t := by
  have hsame := same_of_not_changes hp h
  rw [hs, ht, normalized_string hk, normalized_string hk] at hsame
  by_cases h1 : s = "" <;> by_cases h2 : t = ""
  · rw [h1, h2]
  · simp [h1, h2, Json.same] at hsame
  · simp [h1, h2, Json.same] at hsame
  · simpa [h1, h2, Json.same] using hsame

/-- **A set of texts that does not change has the same elements.** -/
theorem mem_iff {xs ys : List String} (hp : f.presence = .required) (hk : f.kind = .stringSet)
    (hxs : prior.get? f.name = some (.array (xs.map .string)))
    (hys : desired.get? f.name = some (.array (ys.map .string))) (h : f.changes prior desired = false) (x : String) :
    x ∈ xs ↔ x ∈ ys := by
  have hsame := same_of_not_changes hp h
  rw [hxs, hys] at hsame
  exact ((Lists.array xs).same_iff (.array ys) hk).1 hsame x

/-! ### Fields that need not be looked at any further -/

theorem not_changes_of_eq (h : prior.get? f.name = desired.get? f.name) : f.changes prior desired = false := by
  simp [changes, h]

/-- A field that the vendor chooses keeps its value when it is not set. -/
theorem not_changes_of_chosen (hp : f.presence = .optionalComputed) (h : isSet (desired.get? f.name) = false) :
    f.changes prior desired = false := by
  simp [changes, hp, h]

theorem not_changes_of_unset (hprior : isSet (prior.get? f.name) = false)
    (hdesired : isSet (desired.get? f.name) = false) : f.changes prior desired = false := by
  simp [changes, normalized, hprior, hdesired]

/-- A field that was not set and is set now changes. -/
theorem changes_of_set (hp : f.presence ≠ .computed) (hprior : isSet (prior.get? f.name) = false)
    (hdesired : isSet (desired.get? f.name) = true) : f.changes prior desired = true := by
  have hnull : f.normalized (prior.get? f.name) = .null := by simp [normalized, hprior]
  have hvalue : Json.null.same (f.normalized (desired.get? f.name)) = false := by
    unfold normalized
    rw [if_pos hdesired]
    cases hv : desired.get? f.name with
    | none => simp [hv, isSet] at hdesired
    | some v =>
      rw [hv] at hdesired
      cases v with
      | null => simp [isSet] at hdesired
      | array items => cases hk : f.kind <;> rfl
      | _ => cases hk : f.kind <;> rfl
  simp [changes, hp, hdesired, hnull, hvalue]

end Field

/-- No field changes if none of them does. -/
theorem changedFields_eq_nil {s : Schema} {prior desired : Json}
    (h : ∀ f ∈ s.fields, f.changes prior desired = false) : s.changedFields prior desired = [] :=
  List.filter_eq_nil_iff.2 fun f hf => by simp [h f hf]

/-- A field that has to be set, and cannot change in place. -/
def Fixes (s : Schema) (name : String) (kind : FieldKind) : Prop :=
  ∃ f ∈ s.fields, f.name = name ∧ f.kind = kind ∧ f.presence = .required ∧ f.mutability ≠ .updatable

instance (s : Schema) (name : String) (kind : FieldKind) : Decidable (s.Fixes name kind) :=
  inferInstanceAs (Decidable
    (∃ f ∈ s.fields, f.name = name ∧ f.kind = kind ∧ f.presence = .required ∧ f.mutability ≠ .updatable))

end Schema

end Provision
