/-!
# Sets of texts

A finite set of texts as the list of its elements in order. Main statements: a set is determined by its elements
(`ext`), and the set of a list has the elements of the list (`mem_ofList`).
-/

namespace Provision

/-- A finite set of texts. -/
structure StringSet where
  toList : List String
  ordered : toList.Pairwise (· < ·) := by simp
deriving DecidableEq, Repr

namespace StringSet

/-- Puts a text at its place in a list; one that is there already stays alone. -/
def place (x : String) : List String → List String
  | [] => [x]
  | y :: rest => if x < y then x :: y :: rest else if x = y then y :: rest else y :: place x rest

theorem mem_place {a x : String} {l : List String} : a ∈ place x l ↔ a = x ∨ a ∈ l := by
  induction l with
  | nil => simp [place]
  | cons y r ih =>
    rw [place]
    split
    · simp
    · split
      · rename_i h
        simp [h]
      · simp only [List.mem_cons, ih]
        exact or_left_comm

theorem ordered_place {x : String} {l : List String} (h : l.Pairwise (· < ·)) : (place x l).Pairwise (· < ·) := by
  induction l with
  | nil => simp [place]
  | cons y r ih =>
    rw [List.pairwise_cons] at h
    rw [place]
    split
    · rename_i hxy
      simp only [List.pairwise_cons, List.mem_cons, forall_eq_or_imp]
      exact ⟨⟨hxy, fun a ha => String.lt_trans hxy (h.1 a ha)⟩, h.1, h.2⟩
    · split
      · exact List.pairwise_cons.2 h
      · rename_i hxy hne
        rw [List.pairwise_cons]
        refine ⟨fun a ha => ?_, ih h.2⟩
        rcases mem_place.1 ha with rfl | ha
        · exact String.not_le.1 fun hle => hne (String.le_antisymm hle (String.not_lt.1 hxy))
        · exact h.1 a ha

/-- The empty set. -/
def empty : StringSet := ⟨[], .nil⟩

instance : Inhabited StringSet := ⟨empty⟩

instance : Membership String StringSet := ⟨fun s x => x ∈ s.toList⟩

theorem mem_toList {x : String} {s : StringSet} : x ∈ s.toList ↔ x ∈ s := .rfl

/-- A set with one more element. -/
def insert (x : String) (s : StringSet) : StringSet := ⟨place x s.toList, ordered_place s.ordered⟩

/-- The set of the elements of a list. -/
def ofList (l : List String) : StringSet := l.foldr insert empty

/-- The set of one element. -/
def singleton (x : String) : StringSet := insert x empty

/-- Whether a set has no elements. -/
def isEmpty (s : StringSet) : Bool := s.toList.isEmpty

/-- Whether a text is an element. -/
def contains (s : StringSet) (x : String) : Bool := s.toList.contains x

/-- The elements that satisfy a test. -/
def filter (p : String → Bool) (s : StringSet) : StringSet := ⟨s.toList.filter p, s.ordered.filter _⟩

/-- The elements of both sets. -/
def inter (s t : StringSet) : StringSet := s.filter t.contains

@[simp] theorem mem_insert {a x : String} {s : StringSet} : a ∈ insert x s ↔ a = x ∨ a ∈ s := mem_place

@[simp] theorem not_mem_empty {a : String} : ¬ a ∈ empty := List.not_mem_nil

@[simp] theorem mem_ofList {a : String} {l : List String} : a ∈ ofList l ↔ a ∈ l := by
  induction l with
  | nil => simp [ofList]
  | cons x r ih => simp only [ofList, List.foldr_cons, mem_insert, List.mem_cons] at ih ⊢; rw [ih]

@[simp] theorem mem_singleton {a x : String} : a ∈ singleton x ↔ a = x := by simp [singleton]

@[simp] theorem contains_iff {a : String} {s : StringSet} : s.contains a = true ↔ a ∈ s := by
  simp [contains, mem_toList]

@[simp] theorem mem_filter {a : String} {p : String → Bool} {s : StringSet} : a ∈ s.filter p ↔ a ∈ s ∧ p a = true :=
  List.mem_filter

@[simp] theorem mem_inter {a : String} {s t : StringSet} : a ∈ s.inter t ↔ a ∈ s ∧ a ∈ t := by simp [inter]

private theorem toList_unique : ∀ {l m : List String}, l.Pairwise (· < ·) → m.Pairwise (· < ·) →
    (∀ x, x ∈ l ↔ x ∈ m) → l = m
  | [], [], _, _, _ => rfl
  | [], b :: m, _, _, h => absurd ((h b).2 (by simp)) (by simp)
  | a :: l, [], _, _, h => absurd ((h a).1 (by simp)) (by simp)
  | a :: l, b :: m, hl, hm, h => by
    rw [List.pairwise_cons] at hl hm
    have hab : a = b := by
      rcases List.mem_cons.1 ((h a).1 (by simp)) with e | ha
      · exact e
      · rcases List.mem_cons.1 ((h b).2 (by simp)) with e | hb
        · exact e.symm
        · exact absurd (String.lt_trans (hl.1 b hb) (hm.1 a ha)) (String.lt_irrefl a)
    subst hab
    congr 1
    refine toList_unique hl.2 hm.2 fun x => ⟨fun hx => ?_, fun hx => ?_⟩
    · rcases List.mem_cons.1 ((h x).1 (by simp [hx])) with rfl | hx'
      · exact absurd (hl.1 x hx) (String.lt_irrefl x)
      · exact hx'
    · rcases List.mem_cons.1 ((h x).2 (by simp [hx])) with rfl | hx'
      · exact absurd (hm.1 x hx) (String.lt_irrefl x)
      · exact hx'

/-- **Sets with the same elements are equal.** -/
theorem ext {s t : StringSet} (h : ∀ x, x ∈ s ↔ x ∈ t) : s = t := by
  obtain ⟨l, hl⟩ := s
  obtain ⟨m, hm⟩ := t
  congr 1
  exact toList_unique hl hm h

theorem ofList_toList (s : StringSet) : ofList s.toList = s := ext fun _ => mem_ofList

end StringSet

end Provision
