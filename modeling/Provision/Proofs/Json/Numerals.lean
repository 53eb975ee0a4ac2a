import Provision.Json.Printer
import Provision.Json.Scanner
import Provision.Proofs.Number.Texts

/-!
# Numbers in texts

A proper numeral is scanned off the front of a text, whatever follows it that does not go on with the number
(`numeral?_chars`). The texts of numbers are such numerals. A number that is read from its own text is the same if it is
an integer of 64 bits; a floating point number may come back as another one, but it does come back. Main statements:
`Number.numeral?_chars`, `Number.number_numeral`.
-/

namespace Provision.Json

/-! ## Scanning a numeral -/

/-- What may follow digits so that they end there. -/
def Ends (rest : List Char) : Prop := ∀ c ∈ rest.head?, c.isDigit = false

/-- What may follow a number so that the number ends there. -/
def Closes (rest : List Char) : Prop := ∀ c ∈ rest.head?, c.isDigit = false ∧ c ≠ '.' ∧ c ≠ 'e' ∧ c ≠ 'E'

variable {ds rest : List Char} {n : Numeral}

theorem Closes.ends (h : Closes rest) : Ends rest := fun c hc => (h c hc).1

theorem digits_append (hds : ∀ c ∈ ds, c.isDigit = true) (h : Ends rest) : digits (ds ++ rest) = (ds, rest) := by
  have htake : rest.takeWhile Char.isDigit = [] ∧ rest.dropWhile Char.isDigit = rest := by
    cases rest with
    | nil => exact ⟨rfl, rfl⟩
    | cons c rest =>
      have hc := h c rfl
      exact ⟨List.takeWhile_cons_of_neg (by simp [hc]), List.dropWhile_cons_of_neg (by simp [hc])⟩
  rw [digits, List.takeWhile_append_of_pos hds, List.dropWhile_append_of_pos hds, htake.1, htake.2, List.append_nil]

theorem fraction?_pointChars (hds : ∀ c ∈ ds, c.isDigit = true) (h : Ends rest) (hpoint : rest.head? ≠ some '.') :
    fraction? (Numeral.pointChars ds ++ rest) = some (ds, rest) := by
  cases ds with
  | nil =>
    rw [Numeral.pointChars, List.nil_append]
    unfold fraction?
    split
    · exact absurd rfl hpoint
    · rfl
  | cons d ds =>
    have hdigits := digits_append hds h
    rw [Numeral.pointChars, List.cons_append, fraction?, hdigits, if_neg (List.cons_ne_nil d ds)]

/-- Digits with or without a minus sign in front. -/
theorem sign_append (negative : Bool) (hne : ds ≠ []) (hds : ∀ c ∈ ds, c.isDigit = true) :
    sign ((if negative then ['-'] else []) ++ ds ++ rest) = (negative, ds ++ rest) := by
  obtain ⟨d, ds, rfl⟩ := List.exists_cons_of_ne_nil hne
  have hd : d.isDigit = true := hds d List.mem_cons_self
  cases negative with
  | true => rfl
  | false =>
    rw [if_neg Bool.false_ne_true, List.nil_append, List.cons_append, sign]
    · rintro r ⟨⟩
      cases hd
    · rintro r ⟨⟩
      cases hd

theorem exponent?_exponentChars {e : Option (Bool × List Char)}
    (he : ∀ p ∈ e, p.2 ≠ [] ∧ ∀ c ∈ p.2, c.isDigit = true) (h : Closes rest) :
    exponent? (Numeral.exponentChars e ++ rest) = some (e, rest) := by
  cases e with
  | none =>
    rw [Numeral.exponentChars, List.nil_append]
    unfold exponent?
    split
    · exact if_neg (not_or.2 ⟨(h _ rfl).2.2.1, (h _ rfl).2.2.2⟩)
    · rfl
  | some p =>
    obtain ⟨negative, ds⟩ := p
    obtain ⟨hne, hds⟩ := he _ rfl
    have hsign : sign ((if negative then ['-'] else []) ++ ds ++ rest) = (negative, ds ++ rest) :=
      sign_append negative hne hds
    have hexponent : exponent? ('e' :: ((if negative then ['-'] else []) ++ ds ++ rest)) =
        some (some (negative, ds), rest) := by
      unfold exponent?
      dsimp only
      rw [if_pos (.inl rfl), hsign, digits_append hds h.ends, if_neg hne]
    exact hexponent

theorem head?_exponentChars (e : Option (Bool × List Char)) (h : Closes rest) :
    Ends (Numeral.exponentChars e ++ rest) ∧ (Numeral.exponentChars e ++ rest).head? ≠ some '.' := by
  cases e with
  | none => exact ⟨h.ends, fun hpoint => (h _ hpoint).2.1 rfl⟩
  | some p =>
    refine ⟨?_, by simp [Numeral.exponentChars]⟩
    rintro c ⟨⟩
    rfl

theorem ends_pointChars (ds : List Char) (h : Ends rest) : Ends (Numeral.pointChars ds ++ rest) := by
  cases ds with
  | nil => exact h
  | cons d ds =>
    rintro c ⟨⟩
    rfl

theorem unsigned?_chars (h : n.Proper) (hrest : Closes rest) : unsigned? n.negative
    (n.whole ++ (Numeral.pointChars n.fraction ++ (Numeral.exponentChars n.exponent ++ rest))) = some (n, rest) := by
  obtain ⟨hends, hpoint⟩ := head?_exponentChars n.exponent hrest
  have hlead : ¬(n.whole = [] ∨ (n.whole.head? = some '0' ∧ n.whole ≠ ['0'])) := by
    rintro (hnil | ⟨hhead, hlong⟩)
    · exact h.begun hnil
    · exact hlong (h.lead hhead)
  simp only [unsigned?, digits_append h.whole (ends_pointChars n.fraction hends), if_neg hlead,
    fraction?_pointChars h.fraction hends hpoint, exponent?_exponentChars h.exponent hrest, Option.bind_eq_bind,
    Option.bind_some]

/-- What a number begins with. -/
def Begins (c : Char) : Prop := c.isDigit = true ∨ c = '-'

theorem ne_of_begins {c d : Char} (hc : Begins c) (hd : d.isDigit = false ∧ d ≠ '-') : c ≠ d := by
  rintro rfl
  rcases hc with hc | hc
  · rw [hd.1] at hc
    cases hc
  · exact hd.2 hc

theorem head_chars (h : n.Proper) : ∃ c t, n.chars = c :: t ∧ Begins c := by
  obtain ⟨c, t, hwhole⟩ := List.exists_cons_of_ne_nil h.begun
  rw [Numeral.chars, hwhole]
  cases n.negative with
  | true => exact ⟨'-', _, rfl, .inr rfl⟩
  | false => exact ⟨c, _, rfl, .inl (h.whole c (hwhole ▸ List.mem_cons_self))⟩

/-- **A proper numeral is scanned off the front of a text.** -/
theorem numeral?_chars (h : n.Proper) (hrest : Closes rest) : numeral? (n.chars ++ rest) = some (n, rest) := by
  have hunsigned := unsigned?_chars h hrest
  obtain ⟨negative, whole, fraction, exponent⟩ := n
  rw [Numeral.chars, List.append_assoc, List.append_assoc, List.append_assoc]
  cases negative with
  | true => exact hunsigned
  | false =>
    obtain ⟨c, t, hwhole⟩ := List.exists_cons_of_ne_nil h.begun
    obtain rfl : whole = c :: t := hwhole
    have hdigit : c.isDigit = true := h.whole c List.mem_cons_self
    rw [if_neg Bool.false_ne_true, List.nil_append, numeral?]
    · exact hunsigned
    · rintro r hr
      cases hr
      cases hdigit

/-! ## Integers -/

/-- An integer as it is written. -/
def numeral : Int → Numeral
  | .ofNat n => ⟨false, Text.Decimal.ofNat n, [], none⟩
  | .negSucc n => ⟨true, Text.Decimal.ofNat (n + 1), [], none⟩

theorem chars_numeral (i : Int) : (numeral i).chars = Text.Decimal.ofInt i := by
  cases i <;> simp [numeral, Numeral.chars, Numeral.pointChars, Numeral.exponentChars, Text.Decimal.ofInt]

theorem proper_numeral (i : Int) : (numeral i).Proper := by
  have key : ∀ negative m, Numeral.Proper ⟨negative, Text.Decimal.ofNat m, [], none⟩ := by
    refine fun negative m => ⟨fun c hc => Text.Decimal.isDigit_of_mem_ofNat hc, (Text.Decimal.ofNat_head m).1,
      fun hlead => ?_, fun c hc => (by cases hc), fun p hp => by cases hp⟩
    rw [(Text.Decimal.ofNat_head m).2 hlead]
    rfl
  cases i <;> exact key _ _

theorem takeWhole_ofNat {m : Nat} (h : m ≤ Text.Decimal.maxNat64) :
    Numeral.takeWhole ⟨0, 0⟩ (Text.Decimal.ofNat m) = ⟨m, 0⟩ := by
  have hm := Text.Decimal.ofDigitChars_ofNat m
  rw [Numeral.takeWhole_of_le (by omega), hm]

/-- The integers that are read as integers. -/
def Readable (i : Int) : Prop := Text.Decimal.minInt64 ≤ i ∧ i ≤ Text.Decimal.maxNat64

theorem number_numeral {i : Int} (h : Readable i) : (numeral i).number = some (.int i) := by
  obtain ⟨hlow, hhigh⟩ := h
  cases i with
  | ofNat n =>
    have hn : n ≤ Text.Decimal.maxNat64 := Int.ofNat_le.1 hhigh
    simp only [numeral, Numeral.number, takeWhole_ofNat hn]
    rfl
  | negSucc n =>
    have hmin : n + 1 ≤ 1 <<< 63 := by
      rw [Text.Decimal.minInt64] at hlow
      have : (1 : Nat) <<< 63 = 9223372036854775808 := by decide
      omega
    have hn : n + 1 ≤ Text.Decimal.maxNat64 := Nat.le_trans hmin (by decide)
    simp only [numeral, Numeral.number, takeWhole_ofNat hn]
    rw [if_pos ⟨trivial, trivial, trivial⟩, if_neg (by simp), if_neg (by omega)]
    rfl

end Provision.Json

namespace Provision.Number

/-! ## All numbers -/

/-- A number as it is written. -/
def numeral : Number → Numeral
  | .int i => Json.numeral i
  | .float x => x.numeral

/-- Whether a number is read back from its text: an integer has 64 bits, and a floating point number can be
represented. -/
def Legible : Number → Prop
  | .int i => Json.Readable i
  | .float x => Binary64.Represented x.magnitude

/-- A number as its text tells it. -/
def retold : Number → Number
  | .int i => .int i
  | .float x => x.numeral.number.getD (.float x)

theorem chars_numeral (n : Number) : n.numeral.chars = n.chars := by
  cases n with
  | int i => exact Json.chars_numeral i
  | float x => exact x.chars_numeral

theorem proper_numeral (n : Number) : n.numeral.Proper := by
  cases n with
  | int i => exact Json.proper_numeral i
  | float x => exact x.proper_numeral

/-- **The text of a number is scanned as its numeral.** -/
theorem numeral?_chars (n : Number) {rest : List Char} (h : Json.Closes rest) :
    Json.numeral? (n.chars ++ rest) = some (n.numeral, rest) := by
  rw [← n.chars_numeral]
  exact Json.numeral?_chars n.proper_numeral h

theorem head_chars (n : Number) : ∃ c t, n.chars = c :: t ∧ Json.Begins c := by
  rw [← n.chars_numeral]
  exact Json.head_chars n.proper_numeral

/-- **A legible number is read back from its numeral.** -/
theorem number_numeral {n : Number} (h : n.Legible) : n.numeral.number = some n.retold := by
  cases n with
  | int i => exact Json.number_numeral h
  | float x =>
    obtain ⟨y, hy⟩ := Binary64.exists_number_numeral h
    rw [numeral, retold, hy]
    rfl

/-- What is read is legible. -/
theorem legible_of_number {n : Numeral} {x : Number} (h : n.number = some x) : x.Legible := by
  cases x with
  | int i => exact Numeral.range_of_number h
  | float x => exact Numeral.represented_of_number h

end Provision.Number
