/-!
# Segments between separators

Cutting a text at every separator, and joining segments with separators between them. Main statements: joining what
was cut gives the text again (`join_split`), and cutting joined segments gives them again if none of them has a
separator (`split_join`).
-/

namespace Provision.Text.Segments

variable {sep : Char}

/-- The segments of a text between separators; there is at least one. -/
def split (sep : Char) : List Char → List (List Char)
  | [] => [[]]
  | c :: rest =>
    if c = sep then [] :: split sep rest
    else
      match split sep rest with
      | [] => [[c]]
      | s :: ss => (c :: s) :: ss

/-- Segments with a separator between each two. -/
def join (sep : Char) : List (List Char) → List Char
  | [] => []
  | [s] => s
  | s :: ss => s ++ sep :: join sep ss

theorem split_ne_nil (s : List Char) : split sep s ≠ [] := by
  cases s with
  | nil => simp [split]
  | cons c r =>
    rw [split]
    split
    · simp
    · split <;> simp

theorem join_cons {s : List Char} {ss : List (List Char)} (h : ss ≠ []) :
    join sep (s :: ss) = s ++ sep :: join sep ss := by
  cases ss with
  | nil => exact absurd rfl h
  | cons => rfl

theorem join_split (s : List Char) : join sep (split sep s) = s := by
  induction s with
  | nil => rfl
  | cons c r ih =>
    rw [split]
    split
    · rename_i h
      rw [join_cons (split_ne_nil r), ih, h]
      rfl
    · cases hr : split sep r with
      | nil => exact absurd hr (split_ne_nil r)
      | cons t ts =>
        rw [hr] at ih
        cases ts with
        | nil => simpa [join] using ih
        | cons u us => simpa [join] using ih

theorem split_of_not_mem {s : List Char} (h : sep ∉ s) : split sep s = [s] := by
  induction s with
  | nil => rfl
  | cons c r ih =>
    rw [List.mem_cons, not_or] at h
    rw [split, if_neg (Ne.symm h.1), ih h.2]

theorem split_append {s r : List Char} (h : sep ∉ s) : split sep (s ++ sep :: r) = s :: split sep r := by
  induction s with
  | nil => simp [split]
  | cons c t ih =>
    rw [List.mem_cons, not_or] at h
    rw [List.cons_append, split, if_neg (Ne.symm h.1), ih h.2]

theorem split_join {ss : List (List Char)} (hne : ss ≠ []) (h : ∀ s ∈ ss, sep ∉ s) : split sep (join sep ss) = ss := by
  induction ss with
  | nil => exact absurd rfl hne
  | cons s ts ih =>
    cases ts with
    | nil => exact split_of_not_mem (h s (by simp))
    | cons t us =>
      rw [join_cons (by simp), split_append (h s (by simp)), ih (by simp) fun x hx => h x (by simp_all)]

theorem not_mem_of_mem_split {s t : List Char} (h : t ∈ split sep s) : sep ∉ t := by
  induction s generalizing t with
  | nil => simp_all [split]
  | cons c r ih =>
    rw [split] at h
    split at h
    · rcases List.mem_cons.1 h with rfl | h
      · simp
      · exact ih h
    · rename_i hc
      split at h
      · rename_i hr
        exact absurd hr (split_ne_nil r)
      · rename_i u us hr
        rcases List.mem_cons.1 h with rfl | h
        · rw [List.mem_cons, not_or]
          exact ⟨Ne.symm hc, ih (by simp [hr])⟩
        · exact ih (by simp [hr, h])

end Provision.Text.Segments
