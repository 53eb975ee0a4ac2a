import Mathlib.Tactic.ByContra
import Provision.Proofs.Json.Members
import Provision.Schema.Validation

/-!
# Well-formed configurations

The rules of a schema, stated without the check: what a configuration has that keeps all of them (`Schema.WellFormed`),
and the ways to break one (`Schema.Breaks`). The two exclude each other, and one of them holds
(`Schema.wellFormed_iff_not_breaks`). Main statement: for every table of fields and every value, the check accepts
exactly what is well-formed, and otherwise names a rule that the value breaks (`Schema.accepted_iff_wellFormed`).
-/

namespace Provision

namespace Json

/-- A value that counts as set: it is neither null, nor the empty text, nor the empty list. -/
def Counts (v : Json) : Prop := v ≠ .null ∧ v ≠ .string "" ∧ v ≠ .array []

/-- The value has a member of a name that counts as set. -/
def Sets (v : Json) (name : String) : Prop := ∃ value, v.get? name = some value ∧ value.Counts

end Json

theorem isSet_some_iff {v : Json} : isSet (some v) = true ↔ v.Counts := by
  cases v <;> simp [isSet, Json.Counts]

theorem isSet_iff {o : Option Json} : isSet o = true ↔ ∃ v, o = some v ∧ v.Counts := by
  cases o with
  | none => simp [isSet]
  | some v => simp [isSet_some_iff]

namespace Schema

open Json

/-! ## The rules -/

/-- **A configuration that keeps all rules of a schema.** Of two fields that are both set, neither is in the list of
conflicts of the other. -/
structure WellFormed (s : Schema) (v : Json) : Prop where
  named : ∃ members, v = .object members ∧ ∀ m ∈ members, m.2.Counts → ∃ f ∈ s.fields, f.name = m.1
  complete : ∀ f ∈ s.fields, f.presence = .required → v.Sets f.name
  compatible : ∀ f ∈ s.fields, ∀ g ∈ s.fields, v.Sets f.name → v.Sets g.name → g.name ∉ f.conflicts
  bounded : ∀ f ∈ s.fields, ∀ least most text, f.length = some (least, most) →
    v.get? f.name = some (.string text) → text ≠ "" → least ≤ text.length ∧ text.length ≤ most

/-- **The ways to break a rule of a schema.** -/
inductive Breaks (s : Schema) (v : Json) : Violation → Prop
  | notAnObject (other : ∀ members, v ≠ .object members) : Breaks s v .notAnObject
  | unsupported {members : List (String × Json)} {name : String} {value : Json} (object : v = .object members)
    (mem : (name, value) ∈ members) (counts : value.Counts) (unknown : ∀ f ∈ s.fields, f.name ≠ name) :
    Breaks s v (.unsupported name)
  | required {f : Field} (mem : f ∈ s.fields) (required : f.presence = .required) (unset : ¬v.Sets f.name) :
    Breaks s v (.required f.name)
  | conflict {f : Field} {other : String} (mem : f ∈ s.fields) (set : v.Sets f.name) (declared : other ∈ f.conflicts)
    (both : v.Sets other) : Breaks s v (.conflict f.name other)
  | length {f : Field} {least most : Nat} {text : String} (mem : f ∈ s.fields) (bounds : f.length = some (least, most))
    (value : v.get? f.name = some (.string text)) (set : text ≠ "") (out : text.length < least ∨ most < text.length) :
    Breaks s v (.length f.name least most text.length)

variable {s : Schema} {v : Json} {f : Field} {members : List (String × Json)} {why : Violation}

/-- A well-formed configuration names only fields, so a conflict is one between two fields. -/
theorem WellFormed.not_breaks (h : s.WellFormed v) : ¬s.Breaks v why := by
  obtain ⟨members, rfl, hnamed⟩ := h.named
  intro hbreaks
  cases hbreaks with
  | notAnObject other => exact other members rfl
  | unsupported object mem counts unknown =>
    cases object
    obtain ⟨f, hf, hname⟩ := hnamed _ mem counts
    exact unknown f hf hname
  | required mem required unset => exact unset (h.complete _ mem required)
  | conflict mem set declared both =>
    obtain ⟨value, hvalue, hcounts⟩ := both
    obtain ⟨g, hg, rfl⟩ := hnamed _ (mem_of_find hvalue) hcounts
    exact h.compatible _ mem g hg set ⟨value, hvalue, hcounts⟩ declared
  | length mem bounds value set out =>
    obtain ⟨hleast, hmost⟩ := h.bounded _ mem _ _ _ bounds value set
    omega

/-- **A configuration is well-formed if and only if it breaks no rule.** -/
theorem wellFormed_iff_not_breaks : s.WellFormed v ↔ ∀ why, ¬s.Breaks v why := by
  refine ⟨fun h why => h.not_breaks, fun h => ⟨?_, fun f hf hreq => ?_, fun f hf g hg hset hboth hmem => ?_,
    fun f hf least most text hlength hvalue hne => ?_⟩⟩
  · obtain ⟨members, rfl⟩ : ∃ members, v = .object members := by
      by_contra hother
      exact h _ (.notAnObject fun members hv => hother ⟨members, hv⟩)
    refine ⟨members, rfl, fun m hm hcounts => ?_⟩
    by_contra hunknown
    exact h _ (.unsupported rfl hm hcounts fun f hf hname => hunknown ⟨f, hf, hname⟩)
  · by_contra hunset
    exact h _ (.required hf hreq hunset)
  · exact h _ (.conflict hf hset hmem hboth)
  · by_contra hout
    exact h _ (.length hf hlength hvalue hne (by omega))

/-! ## The check -/

theorem unsupported?_ne_none {name : String} {value : Json} (mem : (name, value) ∈ members) (counts : value.Counts)
    (unknown : ∀ f ∈ s.fields, f.name ≠ name) : s.unsupported? members ≠ none := by
  intro hnone
  have hgood := List.find?_eq_none.1 (Option.map_eq_none_iff.1 hnone) _ mem
  have hfield : s.field? name = none := List.find?_eq_none.2 fun f hf => by simpa using unknown f hf
  simp [hfield, isSet_some_iff.2 counts] at hgood

theorem breaks_of_unsupported? {name : String} (h : s.unsupported? members = some name) :
    s.Breaks (.object members) (.unsupported name) := by
  obtain ⟨⟨key, value⟩, hfind, rfl⟩ := Option.map_eq_some_iff.1 h
  have hbad := List.find?_some hfind
  simp only [field?, Bool.and_eq_true, Option.isNone_iff_eq_none, List.find?_eq_none, beq_iff_eq,
    isSet_some_iff] at hbad
  exact .unsupported rfl (List.mem_of_find?_eq_some hfind) hbad.2 hbad.1

namespace Field

/-- The bounds of a text, and its length, if it is out of them. -/
theorem outOfBounds?_eq_some_iff {value : Option Json} {b : Nat × Nat × Nat} : f.outOfBounds? value = some b ↔
    ∃ least most text, f.length = some (least, most) ∧ value = some (.string text) ∧
      (text.length < least ∨ most < text.length) ∧ b = (least, most, text.length) := by
  unfold outOfBounds?
  split
  · rename_i least most text hlength
    simp only [hlength, Option.ite_none_right_eq_some, Option.some.injEq, Prod.mk.injEq, Json.string.injEq]
    constructor
    · rintro ⟨hout, rfl⟩
      exact ⟨least, most, text, ⟨rfl, rfl⟩, rfl, hout, rfl⟩
    · rintro ⟨_, _, _, ⟨rfl, rfl⟩, rfl, hout, rfl⟩
      exact ⟨hout, rfl⟩
  · rename_i hother
    refine ⟨fun h => (by cases h), ?_⟩
    rintro ⟨least, most, text, hlength, hvalue, -⟩
    exact (hother least most text hlength hvalue).elim

/-- What the check says of a field is a rule that is broken. -/
theorem breaks_of_violation? (hf : f ∈ s.fields) (h : f.violation? members = some why) :
    s.Breaks (.object members) why := by
  unfold violation? at h
  dsimp only at h
  split at h
  · rename_i hset
    have hset := isSet_iff.1 hset
    split at h
    · rename_i other hconflict
      cases h
      have hother := List.find?_some hconflict
      exact .conflict hf hset (List.mem_of_find?_eq_some hconflict) (isSet_iff.1 hother)
    · obtain ⟨b, hb, rfl⟩ := Option.map_eq_some_iff.1 h
      obtain ⟨least, most, text, hlength, hvalue, hout, rfl⟩ := outOfBounds?_eq_some_iff.1 hb
      obtain ⟨w, hw, hcounts⟩ := hset
      rw [hvalue] at hw
      cases hw
      exact .length hf hlength hvalue (fun hempty => hcounts.2.1 (by rw [hempty])) hout
  · rename_i hunset
    split at h
    · rename_i hreq
      cases h
      exact .required hf hreq fun hset => hunset (isSet_iff.2 hset)
    · cases h

theorem violation?_of_unset (hreq : f.presence = .required) (hunset : ¬(Json.object members).Sets f.name) :
    f.violation? members ≠ none := by
  have hset : isSet (find f.name members) = false := Bool.eq_false_iff.2 fun hset => hunset (isSet_iff.1 hset)
  simp [violation?, hset, hreq]

theorem violation?_of_conflict {other : String} (hset : (Json.object members).Sets f.name) (hmem : other ∈ f.conflicts)
    (hboth : (Json.object members).Sets other) : f.violation? members ≠ none := by
  have hconflict : f.conflict? members ≠ none := fun hnone =>
    List.find?_eq_none.1 hnone other hmem (isSet_iff.2 hboth)
  obtain ⟨first, hfirst⟩ := Option.ne_none_iff_exists'.1 hconflict
  have hset : isSet (find f.name members) = true := isSet_iff.2 hset
  simp [violation?, hset, hfirst]

theorem violation?_of_length {least most : Nat} {text : String} (hlength : f.length = some (least, most))
    (hvalue : (Json.object members).get? f.name = some (.string text)) (hne : text ≠ "")
    (hout : text.length < least ∨ most < text.length) : f.violation? members ≠ none := by
  have hvalue : find f.name members = some (.string text) := hvalue
  have hset : isSet (find f.name members) = true := isSet_iff.2 ⟨_, hvalue, by simp [Counts, hne]⟩
  have hbounds := outOfBounds?_eq_some_iff.2 ⟨least, most, text, hlength, hvalue, hout, rfl⟩
  unfold violation?
  dsimp only
  rw [if_pos hset, hbounds]
  cases f.conflict? members <;> simp

end Field

/-- What the check finds first, if it finds anything. -/
theorem violation?_object : s.violation? (.object members) =
    ((s.unsupported? members).map .unsupported).or (s.fields.findSome? (·.violation? members)) := by
  rw [violation?]
  cases s.unsupported? members <;> rfl

/-- **What the check says is a rule that is broken.** -/
theorem breaks_of_violation? (h : s.violation? v = some why) : s.Breaks v why := by
  cases v with
  | object members =>
    rw [violation?_object, Option.or_eq_some_iff] at h
    rcases h with h | ⟨-, h⟩
    · obtain ⟨name, hname, rfl⟩ := Option.map_eq_some_iff.1 h
      exact breaks_of_unsupported? hname
    · obtain ⟨f, hf, hwhy⟩ := List.exists_of_findSome?_eq_some h
      exact Field.breaks_of_violation? hf hwhy
  | _ =>
    cases h
    exact .notAnObject fun members hv => by cases hv

/-- **If a rule is broken, the check says something.** -/
theorem Breaks.violation?_ne_none (h : s.Breaks v why) : s.violation? v ≠ none := by
  -- a field of which the check says something is enough
  have hfields : ∀ {members f}, f ∈ s.fields → f.violation? members ≠ none →
      s.violation? (.object members) ≠ none := by
    intro members f hf hfield hnone
    rw [violation?_object, Option.or_eq_none_iff] at hnone
    exact hfield (List.findSome?_eq_none_iff.1 hnone.2 f hf)
  by_cases hobject : ∃ members, v = .object members
  · obtain ⟨members, rfl⟩ := hobject
    cases h with
    | notAnObject other => exact absurd rfl (other members)
    | unsupported object mem counts unknown =>
      cases object
      rw [violation?_object]
      simp [unsupported?_ne_none mem counts unknown]
    | required mem required unset => exact hfields mem (Field.violation?_of_unset required unset)
    | conflict mem set declared both => exact hfields mem (Field.violation?_of_conflict set declared both)
    | length mem bounds value set out => exact hfields mem (Field.violation?_of_length bounds value set out)
  · cases v with
    | object members => exact absurd ⟨members, rfl⟩ hobject
    | _ => exact Option.some_ne_none _

/-- The check accepts exactly the well-formed configurations. -/
theorem violation?_eq_none_iff_wellFormed : s.violation? v = none ↔ s.WellFormed v := by
  rw [wellFormed_iff_not_breaks]
  refine ⟨fun h why hbreaks => hbreaks.violation?_ne_none h, fun h => ?_⟩
  cases hv : s.violation? v with
  | none => rfl
  | some why => exact absurd (breaks_of_violation? hv) (h why)

/-- **The check accepts exactly the well-formed configurations, and otherwise it names a rule that is broken.** -/
theorem accepted_iff_wellFormed (s : Schema) (v : Json) : (s.violation? v = none ↔ s.WellFormed v) ∧
    ∀ why, s.violation? v = some why → s.Breaks v why :=
  ⟨violation?_eq_none_iff_wellFormed, fun _ => breaks_of_violation?⟩

end Schema

end Provision
