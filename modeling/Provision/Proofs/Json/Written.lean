import Provision.Proofs.Json.Records
import Provision.Schema.Basic

/-!
# Records that are written again

A record is read from members, and written as members again. What a value has set is set again if the reading of each
field gives it back (`Reading.Sets`, `Record.Field.WrittenBy`). Main statement: a record that is read from members of
different names is written with the members set that were set before, of those that are known
(`Record.WrittenBy.isSet_iff`).
-/

namespace Provision.Json

namespace Reading

variable {α : Type} {rd : Reading α}

/-! ## Values that are written again -/

/-- What is read is written again as something that is set if and only if the value was. -/
def Sets (rd : Reading α) (enc : α → Option Json) : Prop := ∀ v a, rd.value v = .ok a → isSet (enc a) = isSet (some v)

theorem sets_text : text.Sets fun s => some (.string s) := by
  intro v s h
  cases v <;> cases h
  rfl

theorem sets_within (low high : Int) (name : String) : (within low high name).Sets fun i => some (Json.int i) := by
  intro v i h
  cases v <;> first | cases h | rfl

theorem sets_nat64 : nat64.Sets fun n => some (Json.int n) := by
  intro v n h
  obtain ⟨i, hi, rfl⟩ := map_eq_ok_iff.1 h
  cases v <;> first | cases hi | rfl

/-- Null is written again as nothing. -/
theorem Sets.option {enc : α → Json} (h : rd.Sets fun a => some (enc a)) : rd.option.Sets fun o => o.map enc := by
  intro v o ho
  simp only [Reading.option] at ho
  split at ho
  · cases ho
    rfl
  · obtain ⟨a, ha, rfl⟩ := map_eq_ok_iff.1 ho
    exact h v a ha

/-- A list is written again as one with as many items, or it is left out if it has none. -/
theorem sets_list {enc : List α → Option Json} (h : ∀ as, isSet (enc as) = !as.isEmpty) : rd.list.Sets enc := by
  intro v as has
  simp only [Reading.list] at has
  split at has
  · rename_i items
    rw [h, isSet]
    cases items with
    | nil =>
      cases has
      rfl
    | cons w items =>
      rw [List.mapM_cons] at has
      obtain ⟨a, -, hrest⟩ := bind_eq_ok_iff.1 has
      obtain ⟨rest, -, hcons⟩ := bind_eq_ok_iff.1 hrest
      cases hcons
      rfl
  · cases has

end Reading

namespace Record

variable {σ : Type} {r : Record σ} {toJson : σ → Json} {members : List (String × Json)} {name : String} {x y : σ}

/-! ## Records that are written again -/

/-- **A field is written again as it was read**: reading it replaces one member of the list that is written, and the
member is set if and only if the value is from which the field was read. -/
def Field.WrittenBy (f : Field σ) (members : σ → List (String × Option Json)) : Prop :=
  ∀ v put, f.reading.value v = .ok put → ∃ w, isSet w = isSet (some v) ∧
    ∀ x, members (put x) = replaced f.name w (members x)

theorem writtenBy_keeping {α : Type} {members : σ → List (String × Option Json)} {rd : Reading α} {put : α → σ → σ}
    {enc : α → Option Json} (h : rd.Sets enc) (hput : ∀ a x, members (put a x) = replaced name (enc a) (members x)) :
    (Field.keeping name rd put).WrittenBy members := by
  intro v _ hread
  obtain ⟨a, ha, rfl⟩ := map_eq_ok_iff.1 hread
  exact ⟨enc a, h v a ha, hput a⟩

/-- A record that is written with one member for each of its fields, which are written again as they were read; while it
is blank, no member is set. -/
structure WrittenBy (r : Record σ) (toJson : σ → Json) (members : σ → List (String × Option Json)) : Prop where
  toJson_eq : ∀ x, toJson x = ofMembers (present (members x))
  names : ∀ x, (members x).map Prod.fst = r.fields.map Field.name
  distinct : (r.fields.map Field.name).Nodup
  blank : ∀ m ∈ members r.blank, isSet m.2 = false
  fields : ∀ f ∈ r.fields, f.WrittenBy members

theorem field?_mem {f : Field σ} (h : r.field? name = some f) : f ∈ r.fields ∧ f.name = name := by
  have hname := List.find?_some h
  exact ⟨List.mem_of_find?_eq_some h, by simpa using hname⟩

namespace WrittenBy

variable {writes : σ → List (String × Option Json)} (h : r.WrittenBy toJson writes)

include h

theorem get?_toJson (x : σ) (name : String) : (toJson x).get? name = (find name (writes x)).join := by
  rw [h.toJson_eq]
  exact get?_present (by rw [h.names]; exact h.distinct) name

theorem isSet_blank (name : String) : isSet ((toJson r.blank).get? name) = false := by
  rw [h.get?_toJson]
  cases hfind : find name (writes r.blank) with
  | none => rfl
  | some value => exact h.blank _ (mem_of_find hfind)

/-- Reading a field decides whether its member is set, and keeps the others. -/
theorem put {f : Field σ} {v : Json} {put : σ → σ} (hf : f ∈ r.fields) (hput : f.reading.value v = .ok put) (x : σ) :
    isSet ((toJson (put x)).get? f.name) = isSet (some v) ∧
      ∀ other, other ≠ f.name → (toJson (put x)).get? other = (toJson x).get? other := by
  obtain ⟨w, hw, hput⟩ := h.fields f hf v put hput
  refine ⟨?_, fun other hne => ?_⟩
  · have hknown : (find f.name (writes x)).isSome := by
      rw [mem_names_of_find, h.names]
      exact List.mem_map_of_mem hf
    obtain ⟨old, hold⟩ := Option.isSome_iff_exists.1 hknown
    rw [h.get?_toJson, hput, find_replaced, if_pos rfl, hold, ← hw]
    rfl
  · rw [h.get?_toJson, h.get?_toJson, hput, find_replaced, if_neg hne]

/-- One member: it is read into its field, or it is not known. -/
theorem frame_cons {v : Json} (hfill : r.fill x ((name, v) :: members) = .ok y) :
    ∃ z, r.fill z members = .ok y ∧ (∀ other, other ≠ name → (toJson z).get? other = (toJson x).get? other) ∧
      ((r.field? name).isSome → isSet ((toJson z).get? name) = isSet (some v)) ∧
      ((r.field? name).isSome = false → (toJson z).get? name = (toJson x).get? name) := by
  rw [fill_cons] at hfill
  cases hf : r.field? name with
  | none =>
    rw [hf] at hfill
    exact ⟨x, hfill, fun _ _ => rfl, fun hknown => Bool.noConfusion hknown, fun _ => rfl⟩
  | some f =>
    rw [hf] at hfill
    obtain ⟨put, hput, hrest⟩ := bind_eq_ok_iff.1 hfill
    obtain ⟨hmem, rfl⟩ := field?_mem hf
    obtain ⟨hset, hframe⟩ := h.put hmem hput x
    exact ⟨put x, hrest, hframe, fun _ => hset, fun hunknown => Bool.noConfusion hunknown⟩

/-- A name that no member has, or that is not known, keeps its value. -/
theorem get?_of_fill (hname : name ∉ members.map Prod.fst ∨ (r.field? name).isSome = false)
    (hfill : r.fill x members = .ok y) : (toJson y).get? name = (toJson x).get? name := by
  induction members generalizing x with
  | nil =>
    cases hfill
    rfl
  | cons m rest ih =>
    obtain ⟨k, v⟩ := m
    obtain ⟨z, hrest, hother, -, hunknown⟩ := h.frame_cons hfill
    have hlater : name ∉ rest.map Prod.fst ∨ (r.field? name).isSome = false :=
      hname.imp_left fun hn hmem => hn (List.mem_cons_of_mem _ hmem)
    rw [ih hlater hrest]
    by_cases hk : name = k
    · subst hk
      exact hunknown (hname.resolve_left fun hn => hn List.mem_cons_self)
    · exact hother name hk

/-- A known name is set if and only if its member is. -/
theorem isSet_of_fill {w : Json} (hnames : (members.map Prod.fst).Nodup) (hknown : (r.field? name).isSome)
    (hfind : find name members = some w) (hfill : r.fill x members = .ok y) :
    isSet ((toJson y).get? name) = isSet (some w) := by
  induction members generalizing x with
  | nil => cases hfind
  | cons m rest ih =>
    obtain ⟨k, v⟩ := m
    obtain ⟨hfresh, hdistinct⟩ := List.nodup_cons.1 hnames
    obtain ⟨z, hrest, -, hset, -⟩ := h.frame_cons hfill
    rw [find] at hfind
    split at hfind
    · rename_i heq
      subst heq
      cases hfind
      rw [h.get?_of_fill (.inl hfresh) hrest, hset hknown]
    · exact ih hdistinct hfind hrest

/-- **A configuration that is read is written again with the members set that were set before, of those that are
known.** -/
theorem isSet_iff (hnames : (members.map Prod.fst).Nodup) (hread : r.ofValue (.object members) = .ok y)
    (name : String) : isSet ((toJson y).get? name) = true ↔
      (r.field? name).isSome ∧ isSet (find name members) = true := by
  rw [ofValue] at hread
  obtain ⟨z, hfill, hy⟩ := bind_eq_ok_iff.1 hread
  obtain rfl : z = y := by
    split at hy
    · cases hy
    · exact Except.ok.inj hy
  by_cases hknown : (r.field? name).isSome
  · cases hfind : find name members with
    | none =>
      have hno : name ∉ members.map Prod.fst := by
        intro hmem
        obtain ⟨⟨k, v⟩, hm, rfl⟩ := List.mem_map.1 hmem
        rw [find_of_mem hnames hm] at hfind
        cases hfind
      rw [h.get?_of_fill (.inl hno) hfill, h.isSet_blank]
      simp [isSet]
    | some w =>
      rw [h.isSet_of_fill hnames hknown hfind hfill]
      simp [hknown]
  · have hunknown : (r.field? name).isSome = false := by simpa using hknown
    rw [h.get?_of_fill (.inr hunknown) hfill, h.isSet_blank]
    simp [hunknown]

end WrittenBy

end Record

end Provision.Json
