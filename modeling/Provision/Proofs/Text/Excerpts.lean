import Provision.Proofs.Text.Plain

/-!
# Where a text is cut

A text that is too long is cut between two of its characters. A search that goes backwards from the limit, byte by byte,
finds the last such place (`lastBoundary?_eq_some_iff`), and it is where the longest beginning ends that fits in the
limit (`cutAt_fitting`). Main statement: an excerpt has no control characters; it is the text without them if this has
at most 200 bytes, and otherwise the text up to this place without them, and a note of the bytes of the whole text
(`excerptText_tight`).
-/

namespace Provision.Text

/-! ## Bytes -/

theorem bytes_eq_utf8ByteSize (l : List Char) : bytes l = (String.ofList l).utf8ByteSize := by
  induction l with
  | nil => rfl
  | cons c l ih =>
    rw [bytes_cons, ih, String.ofList_cons, String.utf8ByteSize_append, String.utf8ByteSize_singleton]

theorem bytes_toList (s : String) : bytes s.toList = s.utf8ByteSize := by
  rw [bytes_eq_utf8ByteSize, String.ofList_toList]

/-- Every beginning that fits is one of the longest that fits. -/
theorem prefix_fitting {limit : Nat} {s t : List Char} (h : t <+: s) (hfits : bytes t ≤ limit) :
    t <+: fitting limit s := by
  induction s generalizing limit t with
  | nil => rwa [fitting]
  | cons c s ih =>
    cases t with
    | nil => exact List.nil_prefix
    | cons d t =>
      obtain ⟨rfl, hrest⟩ := List.cons_prefix_cons.1 h
      rw [bytes_cons] at hfits
      rw [fitting, if_pos (by omega)]
      exact List.cons_prefix_cons.2 ⟨rfl, ih hrest (by omega)⟩

theorem bytes_le_of_prefix {s t : List Char} (h : t <+: s) : bytes t ≤ bytes s := by
  obtain ⟨rest, rfl⟩ := h
  rw [bytes_append]
  exact Nat.le_add_right _ _

/-- A character has at most four bytes, so at most three are given away. -/
theorem le_bytes_fitting {limit : Nat} {s : List Char} (h : limit < bytes s) : limit ≤ bytes (fitting limit s) + 3 := by
  obtain ⟨rest, hrest⟩ := fitting_prefix limit s
  cases rest with
  | nil =>
    rw [List.append_nil] at hrest
    have hfits := bytes_fitting_le limit s
    rw [hrest] at hfits
    omega
  | cons c rest =>
    have hnext := bytes_fitting_append hrest.symm
    have hfour := c.utf8Size_le_four
    omega

/-! ## Places to cut -/

/-- Whether a number of bytes of a text ends between two characters. -/
def isBoundary (s : String) (n : Nat) : Bool := String.Pos.Raw.isValid s ⟨n⟩

/-- The search for a place to cut a text, backwards from a number of bytes; none if it gets below zero. -/
def lastBoundary? (s : String) : Nat → Option Nat
  | 0 => if isBoundary s 0 then some 0 else none
  | n + 1 => if isBoundary s (n + 1) then some (n + 1) else lastBoundary? s n

variable {s start : String} {limit n m : Nat}

/-- What ends between two characters is the beginning of a text. -/
theorem isBoundary_iff : isBoundary s n = true ↔ ∃ t, t <+: s.toList ∧ bytes t = n := by
  rw [isBoundary, String.Pos.Raw.isValid_eq_true_iff, String.Pos.Raw.isValid_iff_exists_append]
  constructor
  · rintro ⟨start, rest, rfl, hn⟩
    rw [String.toList_append]
    exact ⟨start.toList, List.prefix_append _ _, by rw [bytes_toList]; exact (congrArg (·.byteIdx) hn).symm⟩
  · rintro ⟨t, ⟨rest, hrest⟩, rfl⟩
    refine ⟨.ofList t, .ofList rest, ?_, by rw [bytes_eq_utf8ByteSize]; rfl⟩
    rw [← String.ofList_append, hrest, String.ofList_toList]

theorem isBoundary_zero (s : String) : isBoundary s 0 = true := isBoundary_iff.2 ⟨[], List.nil_prefix, rfl⟩

/-- **The search finds the last place up to where it begins.** -/
theorem lastBoundary?_eq_some_iff : lastBoundary? s n = some m ↔
    isBoundary s m = true ∧ m ≤ n ∧ ∀ k ≤ n, isBoundary s k = true → k ≤ m := by
  induction n with
  | zero =>
    rw [lastBoundary?, if_pos (isBoundary_zero s)]
    constructor
    · rintro ⟨⟩
      exact ⟨isBoundary_zero s, Nat.le_refl 0, fun k hk _ => hk⟩
    · rintro ⟨-, hm, -⟩
      rw [Nat.le_zero.1 hm]
  | succ n ih =>
    rw [lastBoundary?]
    by_cases h : isBoundary s (n + 1) = true
    · rw [if_pos h, Option.some.injEq]
      constructor
      · rintro rfl
        exact ⟨h, Nat.le_refl _, fun k hk _ => hk⟩
      · rintro ⟨-, hm, hlast⟩
        exact Nat.le_antisymm (hlast _ (Nat.le_refl _) h) hm
    · rw [if_neg h, ih]
      -- the place above is none, so nothing changes for the places up to it
      have hbelow : ∀ k, isBoundary s k = true → (k ≤ n ↔ k ≤ n + 1) := by
        intro k hk
        have hne : k ≠ n + 1 := by
          rintro rfl
          exact h hk
        omega
      constructor
      · rintro ⟨hm, hle, hlast⟩
        exact ⟨hm, (hbelow m hm).1 hle, fun k hk hb => hlast k ((hbelow k hb).2 hk) hb⟩
      · rintro ⟨hm, hle, hlast⟩
        exact ⟨hm, (hbelow m hm).2 hle, fun k hk hb => hlast k ((hbelow k hb).1 hk) hb⟩

/-- **The beginning of a text that is left when it is cut**: it ends at the last place within the limit, which is near
the limit and which the search finds. -/
structure CutAt (limit : Nat) (s start : String) : Prop where
  begins : ∃ rest, s = start ++ rest
  boundary : isBoundary s start.utf8ByteSize = true
  fits : start.utf8ByteSize ≤ limit
  near : limit ≤ start.utf8ByteSize + 3
  longest : ∀ n ≤ limit, isBoundary s n = true → n ≤ start.utf8ByteSize
  found : lastBoundary? s limit = some start.utf8ByteSize

/-- A text that is too long is cut where its longest beginning ends that fits. -/
theorem cutAt_fitting (h : limit < s.utf8ByteSize) : CutAt limit s (.ofList (fitting limit s.toList)) := by
  have hsize := bytes_eq_utf8ByteSize (fitting limit s.toList)
  have hbegins := fitting_prefix limit s.toList
  have hboundary : isBoundary s (bytes (fitting limit s.toList)) = true := isBoundary_iff.2 ⟨_, hbegins, rfl⟩
  have hfits := bytes_fitting_le limit s.toList
  have hlongest : ∀ n ≤ limit, isBoundary s n = true → n ≤ bytes (fitting limit s.toList) := by
    intro n hn hb
    obtain ⟨t, ht, rfl⟩ := isBoundary_iff.1 hb
    exact bytes_le_of_prefix (prefix_fitting ht hn)
  refine ⟨?_, hsize ▸ hboundary, hsize ▸ hfits, ?_, hsize ▸ hlongest, ?_⟩
  · obtain ⟨rest, hrest⟩ := hbegins
    exact ⟨.ofList rest, by rw [← String.ofList_append, hrest, String.ofList_toList]⟩
  · rw [← hsize]
    exact le_bytes_fitting (by rwa [bytes_toList])
  · rw [← hsize]
    exact lastBoundary?_eq_some_iff.2 ⟨hboundary, hfits, hlongest⟩

/-! ## Excerpts -/

/-- A text without its control characters. -/
def stripped (s : String) : String := .ofList (strip s.toList)

theorem ofList_cutNote (n : Nat) :
    String.ofList (cutNote n) = "... [truncated, " ++ Nat.repr n ++ " bytes total]" := by
  have hdigits : String.ofList (Decimal.ofNat n) = Nat.repr n := rfl
  unfold cutNote
  rw [String.ofList_append, String.ofList_append, hdigits, String.ofList_toList, String.ofList_toList]

theorem excerptText_of_le (h : s.utf8ByteSize ≤ excerptLimit) : excerptText s = stripped s := by
  rw [excerptText, excerpt_of_bytes_le (by rwa [bytes_toList]), stripped]

theorem excerptText_of_lt (h : excerptLimit < s.utf8ByteSize) :
    excerptText s = stripped (.ofList (fitting excerptLimit s.toList)) ++
      ("... [truncated, " ++ Nat.repr s.utf8ByteSize ++ " bytes total]") := by
  have hlong : ¬bytes s.toList ≤ excerptLimit := by
    rw [bytes_toList]
    omega
  have hnote := strip_of_clean (clean_cutNote s.utf8ByteSize)
  rw [strip] at hnote
  rw [excerptText, excerpt, if_neg hlong, bytes_toList, strip, List.filter_append, hnote, String.ofList_append,
    ofList_cutNote, stripped, String.toList_ofList, strip]

/-- **An excerpt is safe and tight.** It has no control characters. It is the text without them if the text has at most
200 bytes; otherwise it is the longest beginning of at most 200 bytes that ends between two characters, without its
control characters, and a note of the bytes of the text. This beginning has at least 197 bytes, and a search backwards
from 200 finds its end. -/
theorem excerptText_tight (s : String) : Plain (excerptText s) ∧
    ((s.utf8ByteSize ≤ 200 ∧ excerptText s = stripped s) ∨
      200 < s.utf8ByteSize ∧ ∃ start, CutAt 200 s start ∧ excerptText s =
        stripped start ++ ("... [truncated, " ++ Nat.repr s.utf8ByteSize ++ " bytes total]")) := by
  refine ⟨plain_excerptText s, ?_⟩
  rcases Nat.lt_or_ge 200 s.utf8ByteSize with h | h
  · exact .inr ⟨h, _, cutAt_fitting h, excerptText_of_lt h⟩
  · exact .inl ⟨h, excerptText_of_le h⟩

end Provision.Text
