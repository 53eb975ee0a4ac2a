import Provision.Json.Source

/-!
# Scanning JSON texts

From characters to the tree of a text. The scanner refuses nothing: where a text is not JSON it leaves the tree
broken off and stops. Every step leaves fewer characters than it was given, so scanning ends. A value is nested at
most `maxLevels` deep.
-/

namespace Provision.Json

/-- The deepest nesting of arrays and objects that is read. -/
def maxLevels : Nat := 127

/-- The blanks of JSON. -/
def isSpace (c : Char) : Bool := c == ' ' || c == '\n' || c == '\t' || c == '\r'

/-- Drops the blanks at the front. -/
def skipSpace (s : List Char) : List Char := s.dropWhile isSpace

theorem length_skipSpace_le (s : List Char) : (skipSpace s).length ≤ s.length :=
  (List.dropWhile_suffix isSpace).length_le

/-! ## Strings -/

/-- A piece of a string as written: a character, or a UTF-16 unit of a hexadecimal escape. -/
inductive Piece where
  | char (c : Char)
  | unit (n : Nat)
deriving DecidableEq, Repr

/-- The value of a hexadecimal digit. -/
def hexDigit? (c : Char) : Option Nat :=
  if c.isDigit then some (c.toNat - '0'.toNat)
  else if 'a' ≤ c ∧ c ≤ 'f' then some (c.toNat - 'a'.toNat + 10)
  else if 'A' ≤ c ∧ c ≤ 'F' then some (c.toNat - 'A'.toNat + 10)
  else none

/-- The character of an escape of one letter. -/
def shortEscape? : Char → Option Char
  | '"' => some '"'
  | '\\' => some '\\'
  | '/' => some '/'
  | 'b' => some '\x08'
  | 'f' => some '\x0c'
  | 'n' => some '\n'
  | 'r' => some '\r'
  | 't' => some '\t'
  | _ => none

/-- The pieces up to the closing quote, and what follows it. -/
def pieces : List Char → Option (List Piece × List Char)
  | [] => none
  | '"' :: rest => some ([], rest)
  | '\\' :: 'u' :: a :: b :: c :: d :: rest =>
    match hexDigit? a, hexDigit? b, hexDigit? c, hexDigit? d with
    | some a, some b, some c, some d =>
      (pieces rest).map fun p => (.unit (((a * 16 + b) * 16 + c) * 16 + d) :: p.1, p.2)
    | _, _, _, _ => none
  | '\\' :: e :: rest =>
    match shortEscape? e with
    | some c => (pieces rest).map fun p => (.char c :: p.1, p.2)
    | none => none
  | c :: rest => if c.toNat < 0x20 ∨ c = '\\' then none else (pieces rest).map fun p => (.char c :: p.1, p.2)

/-- The text that pieces spell: two surrogate units in order make one character, and none stands alone. -/
def spell : List Piece → Option (List Char)
  | [] => some []
  | .char c :: rest => (spell rest).map (c :: ·)
  | .unit n :: .unit m :: rest =>
    if n < 0xD800 ∨ 0xDFFF < n then (spell (.unit m :: rest)).map (Char.ofNat n :: ·)
    else if n < 0xDC00 ∧ 0xDC00 ≤ m ∧ m ≤ 0xDFFF then
      (spell rest).map (Char.ofNat (0x10000 + (n - 0xD800) * 0x400 + (m - 0xDC00)) :: ·)
    else none
  | .unit n :: rest => if n < 0xD800 ∨ 0xDFFF < n then (spell rest).map (Char.ofNat n :: ·) else none

theorem length_pieces_lt {s : List Char} {p : List Piece × List Char} (h : pieces s = some p) :
    p.2.length < s.length := by
  fun_induction pieces s generalizing p with
  | case1 => simp at h
  | case2 rest => cases h; simp
  | case3 a b c d rest _ _ _ _ _ _ _ _ ih =>
    obtain ⟨q, hq, rfl⟩ := Option.map_eq_some_iff.1 h
    have := ih hq
    simp only [List.length_cons]; omega
  | case4 => simp at h
  | case5 e rest _ c _ ih =>
    obtain ⟨q, hq, rfl⟩ := Option.map_eq_some_iff.1 h
    have := ih hq
    simp only [List.length_cons]; omega
  | case6 => simp at h
  | case7 => simp at h
  | case8 c rest _ _ _ _ ih =>
    obtain ⟨q, hq, rfl⟩ := Option.map_eq_some_iff.1 h
    have := ih hq
    simp only [List.length_cons]; omega

/-! ## Numbers -/

/-- The digits at the front, and what follows them. -/
def digits (s : List Char) : List Char × List Char := (s.takeWhile Char.isDigit, s.dropWhile Char.isDigit)

theorem length_digits (s : List Char) : (digits s).1.length + (digits s).2.length = s.length := by
  rw [digits, ← List.length_append, List.takeWhile_append_dropWhile]

/-- Digits after a point, if there is one. -/
def fraction? (s : List Char) : Option (List Char × List Char) :=
  match s with
  | '.' :: rest => if (digits rest).1 = [] then none else some (digits rest)
  | s => some ([], s)

/-- A sign at the front: whether it is a minus, and what follows it. -/
def sign (s : List Char) : Bool × List Char :=
  match s with
  | '+' :: rest => (false, rest)
  | '-' :: rest => (true, rest)
  | s => (false, s)

/-- The exponent, if there is one: whether it is negative, and its digits. -/
def exponent? (s : List Char) : Option (Option (Bool × List Char) × List Char) :=
  match s with
  | e :: rest =>
    if e = 'e' ∨ e = 'E' then
      if (digits (sign rest).2).1 = [] then none
      else some (some ((sign rest).1, (digits (sign rest).2).1), (digits (sign rest).2).2)
    else some (none, e :: rest)
  | [] => some (none, [])

/-- A number without a sign at the front: digits without a needless zero, and if they are there digits after a point
and an exponent. -/
def unsigned? (negative : Bool) (s : List Char) : Option (Numeral × List Char) :=
  let whole := digits s
  if whole.1 = [] ∨ (whole.1.head? = some '0' ∧ whole.1 ≠ ['0']) then none
  else do
    let fraction ← fraction? whole.2
    let exponent ← exponent? fraction.2
    some (⟨negative, whole.1, fraction.1, exponent.1⟩, exponent.2)

/-- A number at the front. -/
def numeral? (s : List Char) : Option (Numeral × List Char) :=
  match s with
  | '-' :: rest => unsigned? true rest
  | s => unsigned? false s

theorem length_fraction?_le {s : List Char} {p : List Char × List Char} (h : fraction? s = some p) :
    p.2.length ≤ s.length := by
  unfold fraction? at h
  split at h
  · split at h
    · simp at h
    · cases h
      have := length_digits ‹_›
      simp only [List.length_cons]
      omega
  · cases h
    exact Nat.le_refl _

theorem length_sign_le (s : List Char) : (sign s).2.length ≤ s.length := by
  unfold sign
  split <;> simp

theorem length_exponent?_le {s : List Char} {p : Option (Bool × List Char) × List Char} (h : exponent? s = some p) :
    p.2.length ≤ s.length := by
  unfold exponent? at h
  split at h
  · rename_i e rest
    split at h
    · split at h
      · simp at h
      · cases h
        have h1 := length_digits (sign rest).2
        have h2 := length_sign_le rest
        simp only [List.length_cons]
        omega
    · cases h
      exact Nat.le_refl _
  · cases h
    exact Nat.le_refl _

theorem length_unsigned?_lt {b : Bool} {s : List Char} {p : Numeral × List Char} (h : unsigned? b s = some p) :
    p.2.length < s.length := by
  rw [unsigned?] at h
  split at h
  · simp at h
  · rename_i hw
    obtain ⟨f, hf, h⟩ := Option.bind_eq_some_iff.1 h
    obtain ⟨e, he, h⟩ := Option.bind_eq_some_iff.1 h
    cases h
    have h1 := length_fraction?_le hf
    have h2 := length_exponent?_le he
    have h3 := length_digits s
    have h4 : 0 < (digits s).1.length := List.length_pos_iff.2 fun h => hw (.inl h)
    simp only
    omega

theorem length_numeral?_lt {s : List Char} {p : Numeral × List Char} (h : numeral? s = some p) :
    p.2.length < s.length := by
  unfold numeral? at h
  split at h
  · have := length_unsigned?_lt h
    simp only [List.length_cons]
    omega
  · exact length_unsigned?_lt h

/-! ## Values -/

/-- What was scanned off a text, and what follows it unless the text broke off. -/
structure Scan (α : Type) (s : List Char) where
  value : α
  rest : Option { r : List Char // r.length < s.length }

/-- A scan of a shorter text as one of the whole. -/
def Scan.within {α β : Type} {s t : List Char} (f : α → β) (h : t.length < s.length) (x : Scan α t) : Scan β s :=
  ⟨f x.value, x.rest.map fun r => ⟨r.1, Nat.lt_trans r.2 h⟩⟩

/-- What follows `letters` at the front of a text. -/
def after? : List Char → List Char → Option (List Char)
  | [], s => some s
  | _ :: _, [] => none
  | l :: letters, c :: s => if l = c then after? letters s else none

theorem length_after?_le {letters s r : List Char} (h : after? letters s = some r) : r.length ≤ s.length := by
  fun_induction after? letters s with
  | case1 => cases h; exact Nat.le_refl _
  | case2 => simp at h
  | case3 letters c s ih => have := ih h; simp only [List.length_cons]; omega
  | case4 => simp at h

theorem lt_of_skipSpace {s rest : List Char} {c : Char} (h : skipSpace s = c :: rest) : rest.length < s.length := by
  have := length_skipSpace_le s
  rw [h] at this
  exact this

/-- A value that one word stands for: its letters follow the first character. -/
def word {s t : List Char} (letters : List Char) (value : Source) (ht : t.length < s.length) : Scan Source s :=
  match h : after? letters t with
  | some rest => ⟨value, some ⟨rest, Nat.lt_of_le_of_lt (length_after?_le h) ht⟩⟩
  | none => ⟨.broken, none⟩

mutual

/-- The value at the front of a text. -/
def scanValue (s : List Char) : Scan Source s :=
  match hs : skipSpace s with
  | [] => ⟨.broken, none⟩
  | c :: rest =>
    have hr : rest.length < s.length := lt_of_skipSpace hs
    if c = '"' then
      match hp : pieces rest with
      | some p =>
        ⟨.string ((spell p.1).map String.ofList), some ⟨p.2, Nat.lt_trans (length_pieces_lt hp) hr⟩⟩
      | none => ⟨.broken, none⟩
    else if c = '[' then
      match hb : skipSpace rest with
      | ']' :: rest' => ⟨.array [] true, some ⟨rest', Nat.lt_trans (lt_of_skipSpace hb) hr⟩⟩
      | _ => (scanItems rest).within (fun p => .array p.1 p.2) hr
    else if c = '\x7b' then
      match hb : skipSpace rest with
      | '\x7d' :: rest' => ⟨.object [] true, some ⟨rest', Nat.lt_trans (lt_of_skipSpace hb) hr⟩⟩
      | _ => (scanMembers rest).within (fun p => .object p.1 p.2) hr
    else if c = 'n' then word ['u', 'l', 'l'] .null hr
    else if c = 't' then word ['r', 'u', 'e'] (.bool true) hr
    else if c = 'f' then word ['a', 'l', 's', 'e'] (.bool false) hr
    else
      match hn : numeral? (c :: rest) with
      | some p =>
        ⟨.number p.1, some ⟨p.2, by
          have h1 := length_numeral?_lt hn
          have h2 := length_skipSpace_le s
          rw [hs] at h2
          exact Nat.lt_of_lt_of_le h1 h2⟩⟩
      | none => ⟨.broken, none⟩
termination_by (s.length, 0)

/-- Items and commas up to the closing bracket, and whether it was there. -/
def scanItems (s : List Char) : Scan (List Source × Bool) s :=
  let item := scanValue s
  match item.rest with
  | none => ⟨([item.value], false), none⟩
  | some ⟨r, hr⟩ =>
    match ht : skipSpace r with
    | ',' :: rest =>
      have := lt_of_skipSpace ht
      (scanItems rest).within (fun p => (item.value :: p.1, p.2)) (by omega)
    | ']' :: rest => ⟨([item.value], true), some ⟨rest, Nat.lt_trans (lt_of_skipSpace ht) hr⟩⟩
    | _ => ⟨([item.value], false), none⟩
termination_by (s.length, 1)

/-- Members and commas up to the closing brace, and whether it was there. -/
def scanMembers (s : List Char) : Scan (List (String × Source) × Bool) s :=
  match hs : skipSpace s with
  | '"' :: rest =>
    match hp : pieces rest with
    | none => ⟨([], false), none⟩
    | some p =>
      match spell p.1 with
      | none => ⟨([], false), none⟩
      | some name =>
        match hc : skipSpace p.2 with
        | ':' :: rest' =>
          have h1 := lt_of_skipSpace hs
          have h2 := length_pieces_lt hp
          have h3 := lt_of_skipSpace hc
          let member := scanValue rest'
          match member.rest with
          | none => ⟨([(String.ofList name, member.value)], false), none⟩
          | some ⟨r, hr⟩ =>
            match ht : skipSpace r with
            | ',' :: rest'' =>
              have h4 := lt_of_skipSpace ht
              (scanMembers rest'').within (fun p => ((String.ofList name, member.value) :: p.1, p.2)) (by omega)
            | '\x7d' :: rest'' =>
              ⟨([(String.ofList name, member.value)], true), some ⟨rest'', by have := lt_of_skipSpace ht; omega⟩⟩
            | _ => ⟨([(String.ofList name, member.value)], false), none⟩
        | _ => ⟨([(String.ofList name, .broken)], false), none⟩
  | _ => ⟨([], false), none⟩
termination_by (s.length, 1)

end

/-- A text as a whole: the tree of its value, and whether only blanks follow it. -/
structure Document where
  value : Source
  complete : Bool

/-- The tree of a text. -/
def scan (s : List Char) : Document :=
  let v := scanValue s
  ⟨v.value, v.rest.any fun r => (skipSpace r.1).isEmpty⟩

/-- The value that a text writes. -/
def parse? (text : String) : Option Json :=
  let d := scan text.toList
  if d.complete then d.value.toJson maxLevels else none

end Provision.Json
