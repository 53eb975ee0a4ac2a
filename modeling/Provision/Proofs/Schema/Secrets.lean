import Provision.Proofs.Json.Secrets
import Provision.Schema.Plan
import Provision.Schema.Validation

/-!
# Schemas with a secret

A schema does not tell one secret from another: a secret is a text of any length, so it counts as set whatever it is,
and it changes if and only if it is another one. Main statements: of alike configurations the same rules are broken
(`violation?_alike`), and the plans for them are the same (`plan_alike`).
-/

namespace Provision.Schema

open Json

/-- The field of a name takes a text of any length. -/
def Guards (s : Schema) (name : String) : Prop := ∀ f ∈ s.fields, f.name = name → f.kind = .string ∧ f.length = none

instance (s : Schema) (name : String) : Decidable (s.Guards name) :=
  inferInstanceAs (Decidable (∀ f ∈ s.fields, f.name = name → f.kind = .string ∧ f.length = none))

variable {s : Schema} {name p q key : String} {keys : List String} {v w v' w' : Json} {x y : Option Json}

theorem isSet_string {text : String} (h : text ≠ "") : isSet (some (.string text)) = true := by
  simp [isSet, h]

variable (hp : p ≠ "") (hq : q ≠ "")
include hp hq

theorem isSet_alike (h : Option.Rel (ValueAlike name p q key) x y) : isSet x = isSet y := by
  cases h with
  | none => rfl
  | some h =>
    by_cases hkey : key = name
    · subst hkey
      rcases valueAlike_self.1 h with ⟨rfl, rfl⟩ | ⟨rfl, -⟩
      · rw [isSet_string hp, isSet_string hq]
      · rfl
    · rw [(valueAlike_of_ne hkey).1 h]

/-! ## Rules -/

theorem unsupported?_alike {ms ns : List (String × Json)} (h : List.Forall₂ (MemberAlike name p q) ms ns) :
    s.unsupported? ms = s.unsupported? ns := by
  unfold unsupported?
  induction h with
  | nil => rfl
  | cons hm _ ih =>
    have hset := isSet_alike hp hq (.some hm.value)
    rw [List.find?_cons, List.find?_cons, ← hm.key, ← hset]
    split
    · rw [Option.map_some, Option.map_some, hm.key]
    · exact ih

theorem field_violation?_alike {f : Field} {ms ns : List (String × Json)} (hf : f.name = name → f.length = none)
    (h : List.Forall₂ (MemberAlike name p q) ms ns) : f.violation? ms = f.violation? ns := by
  have hset : ∀ other, isSet (find other ms) = isSet (find other ns) := fun other =>
    isSet_alike hp hq (find_alike other h)
  have hconflict : f.conflict? ms = f.conflict? ns := by
    unfold Field.conflict?
    simp only [hset]
  have hbounds : f.outOfBounds? (find f.name ms) = f.outOfBounds? (find f.name ns) := by
    by_cases hname : f.name = name
    · simp [Field.outOfBounds?, hf hname]
    · rw [eq_of_rel hname (find_alike f.name h)]
  simp only [Field.violation?, hset, hconflict, hbounds]

/-- **Of alike configurations the same rules are broken.** -/
theorem violation?_alike (hg : s.Guards name) (h : Alike name p q keys v w) : s.violation? v = s.violation? w := by
  cases h with
  | @object ms ns h =>
    have hfields : s.fields.findSome? (·.violation? ms) = s.fields.findSome? (·.violation? ns) := by
      rw [← List.head?_filterMap, ← List.head?_filterMap]
      refine congrArg List.head? (List.filterMap_congr fun f hf => ?_)
      exact field_violation?_alike hp hq (fun hname => (hg f hf hname).2) h
    simp only [violation?, unsupported?_alike hp hq h, hfields]
  | array h => rfl
  | scalar hlist hobject => rfl

/-! ## Plans -/

/-- Values of a secret as they are compared: one secret each, or the same value, which is no text. -/
theorem normalized_alike {f : Field} (hk : f.kind = .string) (h : Option.Rel (SecretAlike p q) x y) :
    f.normalized x = .string p ∧ f.normalized y = .string q ∨
      f.normalized x = f.normalized y ∧ ∀ s, f.normalized x ≠ .string s := by
  have hvalue : ∀ v, isSet (some v) = true → f.normalized (some v) = v := fun v hset => by
    simp [Field.normalized, hset, hk]
  cases h with
  | none => exact .inr ⟨rfl, fun s hs => by simp [Field.normalized, isSet] at hs⟩
  | @some v _ h =>
    rcases h with ⟨rfl, rfl⟩ | ⟨rfl, hno⟩
    · exact .inl ⟨hvalue _ (isSet_string hp), hvalue _ (isSet_string hq)⟩
    · refine .inr ⟨rfl, fun s hs => ?_⟩
      by_cases hset : isSet (some v) = true
      · rw [hvalue v hset] at hs
        rw [hs, hno s hs] at hset
        simp [isSet] at hset
      · simp [Field.normalized, hset] at hs

/-- A field changes between configurations if and only if it does between those that are alike. -/
theorem changes_alike {f : Field} (hf : f.name = name → f.kind = .string) (hprior : Alike name p q keys v w)
    (hdesired : Alike name p q keys v' w') : f.changes v v' = f.changes w w' := by
  have hset : isSet (v'.get? f.name) = isSet (w'.get? f.name) := isSet_alike hp hq (hdesired.get? f.name)
  have hsame : (f.normalized (v.get? f.name)).same (f.normalized (v'.get? f.name)) =
      (f.normalized (w.get? f.name)).same (f.normalized (w'.get? f.name)) := by
    have hbefore := hprior.get? f.name
    have hafter := hdesired.get? f.name
    by_cases hname : f.name = name
    · have hsecret : ValueAlike name p q f.name = SecretAlike p q := by
        funext v w
        rw [ValueAlike, if_pos hname]
      rw [hsecret] at hbefore hafter
      rcases normalized_alike hp hq (hf hname) hbefore with ⟨h1, h2⟩ | ⟨h1, h2⟩ <;>
        rcases normalized_alike hp hq (hf hname) hafter with ⟨h3, h4⟩ | ⟨h3, h4⟩
      · simp [h1, h2, h3, h4]
      · rw [h1, h2, ← h3]
        cases hv : f.normalized (v'.get? f.name) with
        | string text => exact absurd hv (h4 text)
        | _ => rfl
      · rw [h3, h4, ← h1]
        cases hv : f.normalized (v.get? f.name) with
        | string text => exact absurd hv (h2 text)
        | _ => rfl
      · rw [h1, h3]
    · rw [eq_of_rel hname hbefore, eq_of_rel hname hafter]
  simp only [Field.changes, hset, hsame]

theorem changedFields_alike (hg : s.Guards name) (hprior : Alike name p q keys v w)
    (hdesired : Alike name p q keys v' w') : s.changedFields v v' = s.changedFields w w' :=
  List.filter_congr fun f hf => changes_alike hp hq (fun hname => (hg f hf hname).1) hprior hdesired

/-- **The plans for alike configurations are the same.** -/
theorem plan_alike (hg : s.Guards name) (hprior : Option.Rel (Alike name p q keys) x y)
    (hdesired : Alike name p q keys v w) : s.plan x v = s.plan y w := by
  cases hprior with
  | none =>
    have hset : ∀ f : Field, isSet (v.get? f.name) = isSet (w.get? f.name) := fun f =>
      isSet_alike hp hq (hdesired.get? f.name)
    simp only [plan, hset]
  | some hprior => simp only [plan, changedFields_alike hp hq hg hprior hdesired]

end Provision.Schema
