import Mathlib.Data.List.Sort
import Provision.Proofs.Json.Texts
import Provision.Resource.Attachment
import Provision.Schema.Plan

/-!
# Sets of texts as they are compared

A set of texts is compared by its elements in order of their JSON texts, each once. No two texts have the same JSON text
(`quoted_injective`), so this order is strict (`pairwise_distinct`), and a list of texts that is put in order depends on
its elements alone (`distinct_eq_iff`). Main statement: a field for a set of texts changes if and only if the two sets
differ, unless it is left to the vendor (`mem_changedFields_iff`).
-/

namespace Provision

namespace Json

/-! ## Texts as values -/

/-- A value that is a text. -/
def IsText (v : Json) : Prop := ∃ s, v = .string s

theorem isText_string (s : String) : IsText (.string s) := ⟨s, rfl⟩

theorem isText_of_mem_map {v : Json} {xs : List String} (h : v ∈ xs.map Json.string) : v.IsText := by
  obtain ⟨s, -, rfl⟩ := List.mem_map.1 h
  exact isText_string s

theorem same_string_iff {s : String} {v : Json} : (Json.string s).same v = true ↔ v = .string s := by
  cases v with
  | string t =>
    rw [same, beq_iff_eq, string.injEq]
    exact eq_comm
  | _ => simp [same]

theorem IsText.same_iff {v w : Json} (hv : v.IsText) : v.same w = true ↔ w = v := by
  obtain ⟨s, rfl⟩ := hv
  exact same_string_iff

/-- Lists of texts that are the same item by item are equal. -/
theorem eq_of_sameItems : ∀ {vs ws : List Json}, (∀ v ∈ vs, v.IsText) → sameItems vs ws = true → vs = ws
  | [], [], _, _ => rfl
  | [], _ :: _, _, h => by simp [sameItems] at h
  | _ :: _, [], _, h => by simp [sameItems] at h
  | v :: vs, w :: ws, ht, h => by
    rw [sameItems, Bool.and_eq_true] at h
    rw [(ht v List.mem_cons_self).same_iff.1 h.1, eq_of_sameItems (fun v hv => ht v (List.mem_cons_of_mem _ hv)) h.2]

/-- **Different texts are written differently**: each is read back from between its quotes. -/
theorem quoted_injective : Function.Injective quoted := by
  intro s t h
  have hinner : s.toList.flatMap escape ++ ['"'] = t.toList.flatMap escape ++ ['"'] := List.cons_injective h
  obtain ⟨ps, hps, hs⟩ := pieces_escaped s.toList []
  obtain ⟨qs, hqs, ht⟩ := pieces_escaped t.toList []
  rw [hinner, hqs] at hps
  cases hps
  rw [hs] at ht
  exact String.toList_inj.1 (Option.some.inj ht)

theorem IsText.eq_of_compact {v w : Json} (hv : v.IsText) (hw : w.IsText) (h : v.compact = w.compact) : v = w := by
  obtain ⟨s, rfl⟩ := hv
  obtain ⟨t, rfl⟩ := hw
  have hquoted : quoted s = quoted t := by
    simpa only [compact, chars] using String.ofList_injective h
  rw [quoted_injective hquoted]

end Json

namespace Schema

open Json

/-! ## Lists of texts in order -/

/-- The induction is on the list: an item that is dropped is the same as the one before it, which stays. -/
theorem mem_eraseRepsBy_loop {v : Json} : ∀ {items : List Json} {a : Json} {kept : List Json},
    (∀ w ∈ a :: items, w.IsText) →
    (v ∈ List.eraseRepsBy.loop Json.same a items kept ↔ v ∈ a :: items ∨ v ∈ kept)
  | [], a, kept, _ => by simp [List.eraseRepsBy.loop, or_comm]
  | b :: items, a, kept, ht => by
    rw [List.eraseRepsBy.loop]
    split
    · rename_i hsame
      have hab : b = a := (ht a List.mem_cons_self).same_iff.1 hsame
      rw [mem_eraseRepsBy_loop fun w hw => ht w (List.cons_subset_cons a (List.subset_cons_self b items) hw), hab]
      simp
    · rw [mem_eraseRepsBy_loop fun w hw => ht w (List.mem_cons_of_mem a hw)]
      simp only [List.mem_cons, or_assoc, or_left_comm]

/-- The same induction: an item that stays is behind all that were kept, which stand in the opposite order. -/
theorem pairwise_eraseRepsBy_loop : ∀ {items : List Json} {a : Json} {kept : List Json},
    (∀ w ∈ a :: items, w.IsText) → (a :: items).Pairwise (fun v w => v.compact ≤ w.compact) →
    (a :: kept).Pairwise (fun v w => w.compact < v.compact) →
    (List.eraseRepsBy.loop Json.same a items kept).Pairwise fun v w => v.compact < w.compact
  | [], a, kept, _, _, hkept => by
    rw [List.eraseRepsBy.loop]
    exact List.pairwise_reverse.2 hkept
  | b :: items, a, kept, ht, hsorted, hkept => by
    have hrest : (b :: items).Pairwise fun v w => v.compact ≤ w.compact := hsorted.of_cons
    have hfirst : ∀ w ∈ b :: items, a.compact ≤ w.compact := fun w hw => List.rel_of_pairwise_cons hsorted hw
    rw [List.eraseRepsBy.loop]
    split
    · refine pairwise_eraseRepsBy_loop
        (fun w hw => ht w (List.cons_subset_cons a (List.subset_cons_self b items) hw)) ?_ hkept
      exact List.pairwise_cons.2 ⟨fun w hw => hfirst w (List.mem_cons_of_mem b hw), hrest.of_cons⟩
    · rename_i hsame
      have hne : a.compact ≠ b.compact := by
        intro heq
        have hab : a = b := (ht a (by simp)).eq_of_compact (ht b (by simp)) heq
        rw [hab, same_self] at hsame
        cases hsame
      have hlt : a.compact < b.compact :=
        String.not_le.1 fun hle => hne (String.le_antisymm (hfirst b List.mem_cons_self) hle)
      refine pairwise_eraseRepsBy_loop (fun w hw => ht w (List.mem_cons_of_mem a hw)) hrest ?_
      refine List.pairwise_cons.2 ⟨fun w hw => ?_, hkept⟩
      rcases List.mem_cons.1 hw with rfl | hw
      · exact hlt
      · exact String.lt_trans (List.rel_of_pairwise_cons hkept hw) hlt

section Distinct

variable {v : Json} {items others : List Json} (ht : ∀ w ∈ items, w.IsText)
include ht

/-- Putting a list of texts in order keeps its elements. -/
theorem mem_distinct : v ∈ distinct items ↔ v ∈ items := by
  have hmem : ∀ {w}, w ∈ items.mergeSort (fun a b => a.compact ≤ b.compact) ↔ w ∈ items := List.mem_mergeSort
  rw [distinct, ← hmem]
  cases hs : items.mergeSort fun a b => a.compact ≤ b.compact with
  | nil => simp [List.eraseRepsBy]
  | cons a rest =>
    rw [List.eraseRepsBy, mem_eraseRepsBy_loop fun w hw => ht w (hmem.1 (hs ▸ hw))]
    simp

theorem isText_of_mem_distinct (hv : v ∈ distinct items) : v.IsText := ht v ((mem_distinct ht).1 hv)

/-- A list of texts that is put in order is strictly ordered. -/
theorem pairwise_distinct : (distinct items).Pairwise fun v w => v.compact < w.compact := by
  have hmem : ∀ {w}, w ∈ items.mergeSort (fun a b => a.compact ≤ b.compact) ↔ w ∈ items := List.mem_mergeSort
  have hsorted : (items.mergeSort fun a b => a.compact ≤ b.compact).Pairwise fun v w => v.compact ≤ w.compact := by
    have hdecided := @List.pairwise_mergeSort Json (fun a b => decide (a.compact ≤ b.compact))
      (fun a b c hab hbc => decide_eq_true (String.le_trans (of_decide_eq_true hab) (of_decide_eq_true hbc)))
      (fun a b => by simpa using String.le_total a.compact b.compact) items
    simpa using hdecided
  rw [distinct]
  cases hs : items.mergeSort fun a b => a.compact ≤ b.compact with
  | nil => exact .nil
  | cons a rest =>
    rw [hs] at hsorted
    rw [List.eraseRepsBy]
    exact pairwise_eraseRepsBy_loop (fun w hw => ht w (hmem.1 (hs ▸ hw))) hsorted (List.pairwise_singleton _ _)

/-- **Lists of texts that are put in order are equal if and only if they have the same elements.** -/
theorem distinct_eq_iff (ho : ∀ w ∈ others, w.IsText) :
    distinct items = distinct others ↔ ∀ v, v ∈ items ↔ v ∈ others := by
  constructor
  · intro h v
    rw [← mem_distinct ht, h, mem_distinct ho]
  · intro h
    have : Std.Antisymm fun v w : Json => v.compact < w.compact := 
      ⟨fun v _ hvw hwv => absurd (String.lt_trans hvw hwv) (String.lt_irrefl v.compact)⟩
    have : Std.Irrefl fun v w : Json => v.compact < w.compact := ⟨fun v => String.lt_irrefl v.compact⟩
    refine (pairwise_distinct ht).eq_of_mem_iff (pairwise_distinct ho) fun v => ?_
    rw [mem_distinct ht, h v, mem_distinct ho]

end Distinct

/-! ## Fields for sets of texts -/

/-- **A value of a field lists texts**; a value that is missing or null lists none. -/
inductive Lists : Option Json → List String → Prop
  | missing : Lists none []
  | null : Lists (some .null) []
  | array (xs : List String) : Lists (some (.array (xs.map .string))) xs

variable {s : Schema} {f : Field} {value value' : Option Json} {xs ys : List String} {prior desired : Json}

theorem Lists.isSet_iff (h : Lists value xs) : isSet value = true ↔ xs ≠ [] := by
  cases h <;> simp [isSet]

theorem Lists.normalized (h : Lists value xs) (hk : f.kind = .stringSet) :
    f.normalized value = if xs = [] then .null else .array (distinct (xs.map .string)) := by
  by_cases hne : xs = []
  · have hunset : isSet value = false := by simpa [hne] using h.isSet_iff
    simp [Field.normalized.eq_def, hunset, hne]
  · have hset : isSet value = true := h.isSet_iff.2 hne
    cases h with
    | missing => exact absurd rfl hne
    | null => exact absurd rfl hne
    | array => simp [Field.normalized.eq_def, hset, hne, hk]

/-- **Two values for a set of texts are compared as equal if and only if they list the same set.** -/
theorem Lists.same_iff (h : Lists value xs) (h' : Lists value' ys) (hk : f.kind = .stringSet) :
    (f.normalized value).same (f.normalized value') = true ↔ ∀ x, x ∈ xs ↔ x ∈ ys := by
  rw [h.normalized hk, h'.normalized hk]
  by_cases hx : xs = [] <;> by_cases hy : ys = []
  · simp [hx, hy]
  · obtain ⟨y, hmem⟩ := List.exists_mem_of_ne_nil ys hy
    rw [if_pos hx, if_neg hy, hx]
    exact iff_of_false (by simp [same]) fun hall => List.not_mem_nil ((hall y).2 hmem)
  · obtain ⟨x, hmem⟩ := List.exists_mem_of_ne_nil xs hx
    rw [if_neg hx, if_pos hy, hy]
    exact iff_of_false (by simp [same]) fun hall => List.not_mem_nil ((hall x).1 hmem)
  · have htexts : ∀ zs : List String, ∀ v ∈ zs.map Json.string, v.IsText := fun _ _ => isText_of_mem_map
    have hequal : (Json.array (distinct (xs.map .string))).same (.array (distinct (ys.map .string))) = true ↔
        distinct (xs.map .string) = distinct (ys.map .string) := by
      constructor
      · exact fun hsame => eq_of_sameItems (fun v => isText_of_mem_distinct (htexts xs)) (by simpa [same] using hsame)
      · exact fun heq => by rw [heq, same_self]
    rw [if_neg hx, if_neg hy, hequal, distinct_eq_iff (htexts xs) (htexts ys)]
    constructor
    · exact fun hall x => by simpa using hall (.string x)
    · exact fun hall v => by simp [hall]

/-- **A field for a set of texts changes if and only if the two sets differ**, whatever the order and the repetitions in
the lists, unless the vendor chooses its value and none is desired. -/
theorem mem_changedFields_iff (hf : f ∈ s.fields) (hk : f.kind = .stringSet) (hp : f.presence ≠ .computed)
    (hprior : Lists (prior.get? f.name) xs) (hdesired : Lists (desired.get? f.name) ys) :
    f ∈ s.changedFields prior desired ↔
      (¬∀ x, x ∈ xs ↔ x ∈ ys) ∧ ¬(f.presence = .optionalComputed ∧ ys = []) := by
  have hunset : isSet (desired.get? f.name) = false ↔ ys = [] := by
    rw [← Bool.not_eq_true, hdesired.isSet_iff, not_not]
  have hchanges : f.changes prior desired = true ↔
      ¬(f.normalized (prior.get? f.name)).same (f.normalized (desired.get? f.name)) = true ∧
        ¬(f.presence = .optionalComputed ∧ isSet (desired.get? f.name) = false) := by
    rw [Field.changes]
    grind
  rw [changedFields, List.mem_filter, and_iff_right hf, hchanges, hprior.same_iff hdesired hk, hunset]

/-- The instances of an attachment, two of them with a quote or a line feed: nothing changes if they are listed in
another order and one of them twice, and the field changes if none is left. -/
theorem mem_changedFields_iff_instances : ∃ f ∈ Attachment.schema.fields, f.name = "instance_ids" ∧
    f ∉ Attachment.schema.changedFields (.object [("instance_ids", .array [.string "b\"", .string "a", .string "\n"])])
      (.object [("instance_ids", .array [.string "\n", .string "a", .string "b\"", .string "a"])]) ∧
    f ∈ Attachment.schema.changedFields (.object [("instance_ids", .array [.string "b\"", .string "a", .string "\n"])])
      (.object [("instance_ids", .null)]) := by
  obtain ⟨f, hf, hname, hk, hp⟩ : ∃ f ∈ Attachment.schema.fields,
      f.name = "instance_ids" ∧ f.kind = .stringSet ∧ f.presence = .required := by decide
  have listed : ∀ {v xs}, Lists (some v) xs → Lists ((Json.object [("instance_ids", v)]).get? f.name) xs := by
    intro v xs h
    rw [hname]
    exact h
  have hprior := listed (.array ["b\"", "a", "\n"])
  refine ⟨f, hf, hname, fun h => ?_, ?_⟩
  · have hdiffer := ((mem_changedFields_iff hf hk (by simp [hp]) hprior
      (listed (.array ["\n", "a", "b\"", "a"]))).1 h).1
    exact hdiffer (by simp; tauto)
  · refine (mem_changedFields_iff hf hk (by simp [hp]) hprior (listed .null)).2 ⟨fun h => ?_, by simp [hp]⟩
    exact List.not_mem_nil ((h "a").1 (by simp))

end Schema

end Provision
