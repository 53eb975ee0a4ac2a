import Mathlib.Tactic.SplitIfs
import Provision.Number.Shortest
import Provision.Text.Excerpt
import Provision.Text.Quoted
import Provision.Time.Span

/-!
# Texts that stay on their line

A text without control characters (`Text.Plain`) stays on the line on which it is written. Numbers, spans of time and
quoted texts are plain, whatever is quoted, and so are excerpts. Main statement: of a text of more than 200 bytes an
excerpt shows at most the first 200, and how many there are (`Text.excerpt_cases`).
-/

namespace Provision.Text

/-- Characters of which none is a control character. -/
def Clean (s : List Char) : Prop := ∀ c ∈ s, isControl c = false

/-- **A text without control characters.** -/
def Plain (s : String) : Prop := Clean s.toList

-- not over all characters, of which there are finitely many too
instance : DecidablePred Clean := List.decidableBAll _

instance : DecidablePred Plain := fun s => inferInstanceAs (Decidable (Clean s.toList))

@[simp] theorem clean_nil : Clean [] := fun _ h => by cases h

@[simp] theorem clean_cons {c : Char} {s : List Char} : Clean (c :: s) ↔ isControl c = false ∧ Clean s :=
  List.forall_mem_cons

@[simp] theorem clean_append {s t : List Char} : Clean (s ++ t) ↔ Clean s ∧ Clean t := List.forall_mem_append

theorem Clean.of_subset {s t : List Char} (h : Clean t) (hst : s ⊆ t) : Clean s := fun c hc => h c (hst hc)

theorem clean_replicate {n : Nat} {c : Char} (h : isControl c = false) : Clean (List.replicate n c) :=
  fun _ hd => List.eq_of_mem_replicate hd ▸ h

@[simp] theorem plain_append {a b : String} : Plain (a ++ b) ↔ Plain a ∧ Plain b := by
  simp [Plain]

theorem plain_ofList {s : List Char} : Plain (String.ofList s) ↔ Clean s := by
  simp [Plain]

/-! ## Numbers -/

theorem not_isControl_digitChar (d : Nat) : isControl (Nat.digitChar d) = false := by
  have small : ∀ d < 16, isControl (Nat.digitChar d) = false := by decide
  by_cases h : d < 16
  · exact small d h
  · have beyond : Nat.digitChar d = '*' := by
      unfold Nat.digitChar
      simp (disch := omega) only [if_neg]
    rw [beyond]
    rfl

theorem clean_toDigitsCore {base : Nat} : ∀ {fuel n : Nat} {ds : List Char}, Clean ds →
    Clean (Nat.toDigitsCore base fuel n ds)
  | 0, _, _, hds => hds
  | fuel + 1, n, ds, hds => by
    have hcons : Clean (Nat.digitChar (n % base) :: ds) := clean_cons.2 ⟨not_isControl_digitChar _, hds⟩
    rw [Nat.toDigitsCore]
    split
    · exact hcons
    · exact clean_toDigitsCore hcons

/-- The digits of a number, to any base. -/
theorem clean_toDigits (base n : Nat) : Clean (Nat.toDigits base n) := clean_toDigitsCore clean_nil

theorem clean_ofInt : ∀ i : Int, Clean (Decimal.ofInt i)
  | .ofNat n => clean_toDigits 10 n
  | .negSucc n => clean_cons.2 ⟨rfl, clean_toDigits 10 (n + 1)⟩

@[simp] theorem plain_decimal (i : Int) : Plain (Decimal.text i) := plain_ofList.2 (clean_ofInt i)

/-- The exponent of a decimal: its sign and its digits. -/
theorem clean_exponent (e : Int) : Clean ('e' :: (if e < 0 then ['-'] else []) ++ Nat.toDigits 10 e.natAbs) := by
  refine clean_append.2 ⟨clean_cons.2 ⟨rfl, ?_⟩, clean_toDigits 10 _⟩
  split
  · exact clean_cons.2 ⟨rfl, clean_nil⟩
  · exact clean_nil

/-- The text of a positive decimal is made of its digits, zeros, a point and an exponent. -/
theorem clean_positional (d : Binary64.Decimal) : Clean d.text := by
  have zeros : ∀ n, Clean (List.replicate n '0') := fun n => clean_replicate rfl
  unfold Binary64.Decimal.text
  have hdigits := clean_toDigits 10 d.digits
  generalize Nat.toDigits 10 d.digits = ds at hdigits ⊢
  have hexponent := clean_exponent (ds.length + d.exponent - 1)
  dsimp only
  generalize 'e' :: (if (ds.length + d.exponent - 1 : Int) < 0 then ['-'] else []) ++
    Nat.toDigits 10 (ds.length + d.exponent - 1 : Int).natAbs = exponent at hexponent ⊢
  split_ifs
  · exact clean_append.2 ⟨clean_append.2 ⟨hdigits, zeros _⟩, by decide⟩
  · exact clean_append.2 ⟨hdigits.of_subset (List.take_subset _ _),
      clean_cons.2 ⟨rfl, hdigits.of_subset (List.drop_subset _ _)⟩⟩
  · exact clean_append.2 ⟨clean_cons.2 ⟨rfl, clean_cons.2 ⟨rfl, zeros _⟩⟩, hdigits⟩
  · match ds, hdigits with
    | [], _ => exact hexponent
    | [c], hdigits => exact clean_cons.2 ⟨(clean_cons.1 hdigits).1, hexponent⟩
    | c :: _ :: _, hdigits =>
      have hsplit := clean_cons.1 hdigits
      exact clean_append.2 ⟨clean_cons.2 ⟨hsplit.1, clean_cons.2 ⟨rfl, hsplit.2⟩⟩, hexponent⟩

theorem clean_float (x : Binary64) : Clean x.text := by
  refine clean_append.2 ⟨?_, ?_⟩
  · split
    · exact clean_cons.2 ⟨rfl, clean_nil⟩
    · exact clean_nil
  · split
    · decide
    · exact clean_positional _

/-- Whole units, and a point and places if there are any. -/
theorem clean_decimal (n unit places : Nat) : Clean (Time.decimal n unit places) := by
  have hpadded : Clean (List.replicate (places - (Nat.toDigits 10 (n % unit)).length) '0' ++
      Nat.toDigits 10 (n % unit)) := clean_append.2 ⟨clean_replicate rfl, clean_toDigits 10 _⟩
  refine clean_append.2 ⟨clean_toDigits 10 _, ?_⟩
  split
  · exact clean_nil
  · refine clean_cons.2 ⟨rfl, hpadded.of_subset fun c hc => ?_⟩
    exact List.mem_reverse.1 ((List.dropWhile_sublist _).subset (List.mem_reverse.1 hc))

@[simp] theorem plain_spanText (n : Nat) : Plain (Time.spanText n) := by
  rw [Time.spanText, plain_ofList]
  split_ifs <;> exact clean_append.2 ⟨clean_decimal _ _ _, by decide⟩

/-! ## Quoted texts -/

/-- A character that is shown is no control character: the table of hidden ones has them. -/
theorem not_isControl_of_isShown {c : Char} (h : isShown c = true) : isControl c = false := by
  have hidden : ∀ {n}, 0x7F ≤ n → n ≤ 0xA0 → inRanges hiddenRanges n = true := fun hlow hhigh =>
    List.any_eq_true.2 ⟨(0x7F, 0xA0), .tail _ (.head _), by simpa using ⟨hlow, hhigh⟩⟩
  unfold isShown at h
  unfold isControl
  split at h
  · simp only [Bool.or_eq_false_iff, Bool.and_eq_false_iff, decide_eq_false_iff_not]
    have hlow : 0x20 ≤ c.toNat := of_decide_eq_true h
    omega
  · rename_i hlow
    by_cases hhigh : c.toNat ≤ 0x9F
    · rw [hidden (by omega) (by omega)] at h
      simp at h
    · simp only [Bool.or_eq_false_iff, Bool.and_eq_false_iff, decide_eq_false_iff_not]
      omega

theorem clean_escape (c : Char) : Clean (Quoted.escape c) := by
  unfold Quoted.escape
  split
  case h_7 =>
    split
    · rename_i hshown
      exact clean_cons.2 ⟨not_isControl_of_isShown hshown, clean_nil⟩
    · exact clean_append.2 ⟨clean_append.2 ⟨by decide, clean_toDigits 16 _⟩, by decide⟩
  all_goals decide

/-- **A quoted text is plain, whatever is quoted.** -/
@[simp] theorem plain_quote (s : String) : Plain (Quoted.quote s) := by
  refine plain_ofList.2 (clean_append.2 ⟨clean_append.2 ⟨by decide, fun c hc => ?_⟩, by decide⟩)
  obtain ⟨d, -, hd⟩ := List.mem_flatMap.1 hc
  exact clean_escape d c hd

/-! ## Excerpts -/

@[simp] theorem plain_excerptText (s : String) : Plain (excerptText s) :=
  plain_ofList.2 fun _ => not_isControl_excerpt

theorem bytes_append (s t : List Char) : bytes (s ++ t) = bytes s + bytes t := by
  induction s with
  | nil => simp
  | cons c s ih =>
    simp only [List.cons_append, bytes_cons, ih]
    omega

theorem bytes_strip_le (s : List Char) : bytes (strip s) ≤ bytes s := by
  induction s with
  | nil => exact Nat.le_refl _
  | cons c s ih =>
    rw [strip, List.filter_cons]
    split <;> simp only [bytes_cons] <;> rw [strip] at ih <;> omega

theorem strip_of_clean {s : List Char} (h : Clean s) : strip s = s :=
  List.filter_eq_self.2 fun c hc => by rw [h c hc]; rfl

theorem clean_cutNote (total : Nat) : Clean (cutNote total) :=
  clean_append.2 ⟨clean_append.2 ⟨by decide, clean_toDigits 10 total⟩, by decide⟩

/-- **An excerpt shows at most the first 200 bytes of a text,** and if there are more, how many there are. -/
theorem excerpt_cases (s : List Char) :
    (bytes s ≤ excerptLimit ∧ excerpt s = strip s) ∨
      excerptLimit < bytes s ∧ ∃ start, start <+: s ∧ bytes start ≤ excerptLimit ∧
        excerpt s = strip start ++ cutNote (bytes s) := by
  by_cases h : bytes s ≤ excerptLimit
  · exact .inl ⟨h, excerpt_of_bytes_le h⟩
  · refine .inr ⟨Nat.lt_of_not_le h, fitting excerptLimit s, fitting_prefix _ s, bytes_fitting_le _ s, ?_⟩
    have hnote := strip_of_clean (clean_cutNote (bytes s))
    rw [excerpt, if_neg h]
    rw [strip] at hnote
    rw [strip, strip, List.filter_append, hnote]

/-- So an excerpt has at most 200 bytes, besides the note. -/
theorem bytes_excerpt_le (s : List Char) : bytes (excerpt s) ≤ excerptLimit + bytes (cutNote (bytes s)) := by
  rcases excerpt_cases s with ⟨h, he⟩ | ⟨-, start, -, hstart, he⟩
  · rw [he]
    have := bytes_strip_le s
    omega
  · rw [he, bytes_append]
    have := bytes_strip_le start
    omega

/-- The number of bytes of a text. -/
def size (s : String) : Nat := bytes s.toList

@[simp] theorem size_append (s t : String) : size (s ++ t) = size s + size t := by
  rw [size, String.toList_append, bytes_append]
  rfl

theorem size_excerptText_le (s : String) :
    size (excerptText s) ≤ excerptLimit + bytes (cutNote (size s)) := by
  rw [size, excerptText, String.toList_ofList]
  exact bytes_excerpt_le s.toList

end Provision.Text
