/-!
# Blank and control characters

The characters that count as white space when the ends of a text are trimmed (the Unicode property White_Space),
and the control characters (general category Cc). Main statement: a trimmed text neither begins nor ends with a
blank (`head?_trim`, `getLast?_trim`).
-/

namespace Provision.Text

/-- White space: the ASCII blanks, the next-line and no-break blanks, and the spaces and separators of Unicode. -/
def isBlank (c : Char) : Bool :=
  (9 ≤ c.toNat && c.toNat ≤ 13) || c.toNat == 0x20 || c.toNat == 0x85 || c.toNat == 0xA0 || c.toNat == 0x1680 ||
    (0x2000 ≤ c.toNat && c.toNat ≤ 0x200A) || c.toNat == 0x2028 || c.toNat == 0x2029 || c.toNat == 0x202F ||
    c.toNat == 0x205F || c.toNat == 0x3000

/-- Control characters: the C0 set, delete, and the C1 set. -/
def isControl (c : Char) : Bool :=
  c.toNat < 0x20 || (0x7F ≤ c.toNat && c.toNat ≤ 0x9F)

/-- Drops the elements at the end that satisfy `p`. -/
def dropEnd (p : Char → Bool) (s : List Char) : List Char := (s.reverse.dropWhile p).reverse

/-- Drops the blanks at both ends. -/
def trim (s : List Char) : List Char := dropEnd isBlank (s.dropWhile isBlank)

/-- Whether a text holds nothing but blanks. -/
def isBlankText (s : String) : Bool := s.toList.all isBlank

section Trim

variable {p : Char → Bool} {s : List Char}

theorem getLast?_dropEnd {c : Char} (h : (dropEnd p s).getLast? = some c) : p c = false := by
  rw [dropEnd, List.getLast?_reverse] at h
  cases hd : s.reverse.dropWhile p with
  | nil => simp [hd] at h
  | cons a r =>
    have := List.head?_dropWhile_not p s.reverse
    simp_all

/-- What is dropped at the end is a suffix. -/
theorem dropEnd_append : ∃ t, dropEnd p s ++ t = s ∧ ∀ c ∈ t, p c = true := by
  refine ⟨(s.reverse.takeWhile p).reverse, ?_, fun c hc => ?_⟩
  · rw [dropEnd, ← List.reverse_append, List.takeWhile_append_dropWhile, List.reverse_reverse]
  · exact List.all_eq_true.1 List.all_takeWhile c (List.mem_reverse.1 hc)

theorem getLast?_trim {c : Char} (h : (trim s).getLast? = some c) : isBlank c = false := getLast?_dropEnd h

theorem head?_trim {c : Char} (h : (trim s).head? = some c) : isBlank c = false := by
  obtain ⟨t, ht, -⟩ := dropEnd_append (p := isBlank) (s := s.dropWhile isBlank)
  have hn := List.head?_dropWhile_not isBlank s
  rw [trim] at h
  cases hd : dropEnd isBlank (s.dropWhile isBlank) with
  | nil => simp [hd] at h
  | cons a r =>
    rw [hd] at ht h
    rw [← ht] at hn
    simpa [← Option.some.inj h] using hn

end Trim

end Provision.Text
