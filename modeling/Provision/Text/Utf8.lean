/-!
# Lengths in bytes

The length of a text in UTF-8 and the longest beginning of a text that fits in a number of bytes. Main statements:
what fits is a beginning of the text (`fitting_prefix`), has at most that many bytes (`bytes_fitting_le`), and
one character more would not fit (`bytes_fitting_append`).
-/

namespace Provision.Text

/-- The number of bytes of a text in UTF-8. -/
def bytes : List Char → Nat
  | [] => 0
  | c :: rest => c.utf8Size + bytes rest

@[simp] theorem bytes_nil : bytes [] = 0 := rfl

@[simp] theorem bytes_cons (c : Char) (s : List Char) : bytes (c :: s) = c.utf8Size + bytes s := rfl

/-- The longest beginning of a text of at most `limit` bytes that ends between two characters. -/
def fitting : Nat → List Char → List Char
  | _, [] => []
  | limit, c :: rest => if c.utf8Size ≤ limit then c :: fitting (limit - c.utf8Size) rest else []

theorem fitting_prefix (limit : Nat) (s : List Char) : fitting limit s <+: s := by
  induction s generalizing limit with
  | nil => simp [fitting]
  | cons c r ih =>
    rw [fitting]
    split
    · simpa using ih _
    · simp

theorem bytes_fitting_le (limit : Nat) (s : List Char) : bytes (fitting limit s) ≤ limit := by
  induction s generalizing limit with
  | nil => simp [fitting]
  | cons c r ih =>
    rw [fitting]
    split
    · have := ih (limit - c.utf8Size)
      rw [bytes_cons]
      omega
    · simp

/-- No longer beginning of the text fits. -/
theorem bytes_fitting_append {limit : Nat} {s r : List Char} {c : Char} (h : s = fitting limit s ++ c :: r) :
    limit < bytes (fitting limit s) + c.utf8Size := by
  induction s generalizing limit with
  | nil => simp [fitting] at h
  | cons d t ih =>
    rw [fitting] at h ⊢
    split at h <;> rename_i hd
    · have := ih (List.cons_inj_right d |>.1 h)
      rw [if_pos hd, bytes_cons]
      omega
    · rw [if_neg hd]
      simp only [List.nil_append, List.cons.injEq] at h
      rw [← h.1, bytes_nil]
      omega

end Provision.Text
