import Provision.Json.Basic
import Provision.Json.Scanner
import Provision.Text.Blank
import Provision.Yaml.Scalar

/-!
# Quoted texts and lists between brackets

Texts between quotes, and lists and objects between brackets, over as many lines as they need. A line break in a text
is folded: one becomes a blank, and of several one is dropped.
-/

namespace Provision.Yaml

/-! ## Folding -/

/-- A part of a text: a character that stays, a blank, or a line break. -/
inductive Part where
  | char (c : Char)
  | blank (c : Char)
  | lineBreak
deriving DecidableEq, Repr

/-- Drops blanks at the front. -/
def dropBlanks : List Part → List Part
  | .blank _ :: rest => dropBlanks rest
  | parts => parts

theorem length_dropBlanks_le (parts : List Part) : (dropBlanks parts).length ≤ parts.length := by
  fun_induction dropBlanks parts with
  | case1 c rest ih => exact Nat.le_succ_of_le ih
  | case2 => exact Nat.le_refl _

/-- Counts line breaks at the front and drops them with the blanks around them. -/
def breaks (parts : List Part) : Nat × List Part :=
  match h : dropBlanks parts with
  | .lineBreak :: rest => ((breaks rest).1 + 1, (breaks rest).2)
  | other => (0, other)
termination_by parts.length
decreasing_by
  all_goals
    have := length_dropBlanks_le parts
    simp only [h, List.length_cons] at this
    omega

theorem length_breaks_le (parts : List Part) : (breaks parts).2.length ≤ parts.length := by
  fun_induction breaks parts with
  | case1 parts rest h ih =>
    have := length_dropBlanks_le parts
    simp only [h, List.length_cons] at this ⊢
    omega
  | case2 parts h => exact length_dropBlanks_le parts

/-- What line breaks become. -/
def foldedBreaks : Nat → List Char
  | 0 => []
  | 1 => [' ']
  | n + 2 => List.replicate (n + 1) '\n'

/-- A text with its line breaks folded. -/
def fold : List Part → List Char
  | [] => []
  | .char c :: rest => c :: fold rest
  | part :: rest =>
    if 0 < (breaks (part :: rest)).1 then foldedBreaks (breaks (part :: rest)).1 ++ fold (breaks (part :: rest)).2
    else
      match part with
      | .blank c => c :: fold rest
      | _ => fold rest
termination_by parts => parts.length
decreasing_by
  all_goals first
    | (rename_i h
       rw [breaks] at h ⊢
       split at h <;> rename_i hd
       · have := length_dropBlanks_le (part :: rest)
         have h2 := length_breaks_le ‹_›
         simp only [hd, List.length_cons] at this ⊢
         omega
       · simp at h)
    | simp

/-! ## Quoted texts -/

/-- The character of an escape of one letter. -/
def escaped? : Char → Option Char
  | '0' => some '\x00'
  | 'a' => some '\x07'
  | 'b' => some '\x08'
  | 't' | '\t' => some '\t'
  | 'n' => some '\n'
  | 'v' => some '\x0b'
  | 'f' => some '\x0c'
  | 'r' => some '\r'
  | 'e' => some '\x1b'
  | ' ' => some ' '
  | '"' => some '"'
  | '/' => some '/'
  | '\\' => some '\\'
  | 'N' => some '\u0085'
  | '_' => some '\u00a0'
  | 'L' => some '\u2028'
  | 'P' => some '\u2029'
  | _ => none

/-- The character of a code in hexadecimal digits. -/
def codePoint? (ds : List Char) : Option Char :=
  match ds.foldlM (fun acc c => (Json.hexDigit? c).map (acc * 16 + ·)) 0 with
  | some n => if n < 0xD800 ∨ (0xDFFF < n ∧ n < 0x110000) then some (Char.ofNat n) else none
  | none => none

/-- The blanks within a line. -/
def isSpace (c : Char) : Bool := c == ' ' || c == '\t'

/-- Blanks and line breaks. -/
def isGap (c : Char) : Bool := isSpace c || c == '\n'

/-- A character outside of an escape. -/
def partOf (c : Char) : Part := if c = '\n' then .lineBreak else if isSpace c then .blank c else .char c

/-- Adds parts in front of what was read. -/
def prepend (parts : List Part) (r : Option (List Part × List Char)) : Option (List Part × List Char) :=
  r.map fun p => (parts ++ p.1, p.2)

/-- The parts up to a closing double quote, and what follows it. -/
def doubleQuoted : List Char → Option (List Part × List Char)
  | [] => none
  | '"' :: rest => some ([], rest)
  | '\\' :: '\n' :: rest => doubleQuoted (rest.dropWhile isSpace)
  | '\\' :: 'x' :: a :: b :: rest => (codePoint? [a, b]).bind fun c => prepend [.char c] (doubleQuoted rest)
  | '\\' :: 'u' :: a :: b :: c :: d :: rest =>
    (codePoint? [a, b, c, d]).bind fun c => prepend [.char c] (doubleQuoted rest)
  | '\\' :: 'U' :: a :: b :: c :: d :: e :: f :: g :: h :: rest =>
    (codePoint? [a, b, c, d, e, f, g, h]).bind fun c => prepend [.char c] (doubleQuoted rest)
  | '\\' :: e :: rest => (escaped? e).bind fun c => prepend [.char c] (doubleQuoted rest)
  | c :: rest => prepend [partOf c] (doubleQuoted rest)
termination_by s => s.length
decreasing_by
  all_goals simp only [List.length_cons]
  all_goals first
    | omega
    | (have hle := (List.dropWhile_suffix isSpace (l := rest)).length_le
       omega)

/-- The parts up to a closing single quote, and what follows it; two quotes stand for one. -/
def singleQuoted : List Char → Option (List Part × List Char)
  | [] => none
  | '\'' :: '\'' :: rest => prepend [.char '\''] (singleQuoted rest)
  | '\'' :: rest => some ([], rest)
  | c :: rest => prepend [partOf c] (singleQuoted rest)

/-- A text between quotes, and what follows it. -/
def quoted? : List Char → Option (String × List Char)
  | '"' :: rest => (doubleQuoted rest).map fun p => (String.ofList (fold p.1), p.2)
  | '\'' :: rest => (singleQuoted rest).map fun p => (String.ofList (fold p.1), p.2)
  | _ => none

/-! ## Between brackets -/

/-- Drops blanks, line breaks and comments. -/
def skipFlow : List Char → List Char
  | [] => []
  | c :: rest =>
    if isGap c then skipFlow rest
    else if c = '#' then skipFlow (rest.dropWhile (· != '\n'))
    else c :: rest
termination_by s => s.length
decreasing_by
  · simp
  · have := (List.dropWhile_suffix (· != '\n') (l := rest)).length_le
    simp only [List.length_cons]
    omega

/-- Characters that separate values between brackets. -/
def isBracketOrComma (c : Char) : Bool := [',', '[', ']', '\x7b', '\x7d'].contains c

/-- The parts of a plain text between brackets, and what follows it. -/
def flowPlain : List Char → List Part × List Char
  | [] => ([], [])
  | c :: rest =>
    if isBracketOrComma c then ([], c :: rest)
    else if c = ':' ∧ rest.head?.all (fun d => isGap d || isBracketOrComma d) then ([], c :: rest)
    else if isGap c ∧ rest.head? = some '#' then ([], c :: rest)
    else (partOf c :: (flowPlain rest).1, (flowPlain rest).2)

/-- Drops blanks and line breaks at the end. -/
def dropEndBlanks (parts : List Part) : List Part :=
  (parts.reverse.dropWhile fun
    | .char _ => false
    | _ => true).reverse

/-- Whether a character cannot begin a plain text. -/
def isIndicator (c : Char) : Bool :=
  ['&', '*', '!', '|', '>', '%', '@', '`', '"', '\'', '#', ',', '[', ']', '\x7b', '\x7d'].contains c

/-- Whether a plain text between brackets can begin here. -/
def beginsFlowPlain : List Char → Bool
  | [] => false
  | c :: rest => !isIndicator c && c != ':' && c != '?' && !(c == '-' && rest.head?.all isGap)

/-- Whether a colon with a separator right behind it comes next. -/
def isCutOff : List Char → Bool
  | ':' :: c :: _ => isBracketOrComma c
  | _ => false

/-- A plain text between brackets with its line breaks folded, and what follows it. -/
def flowText? (s : List Char) : Option (List Char × List Char) :=
  let p := flowPlain s
  if beginsFlowPlain s && !isCutOff p.2 then some (fold (dropEndBlanks p.1), p.2) else none

mutual

/-- A value between brackets, and what follows it; `fuel` bounds the number of steps. -/
def flowValue : Nat → List Char → Option (Json × List Char)
  | 0, _ => none
  | fuel + 1, s =>
    match skipFlow s with
    | '[' :: rest => (flowItems fuel rest).map fun p => (.array p.1, p.2)
    | '\x7b' :: rest => (flowMembers fuel rest).map fun p => (Json.ofMembers p.1, p.2)
    | '"' :: rest => (quoted? ('"' :: rest)).map fun p => (.string p.1, p.2)
    | '\'' :: rest => (quoted? ('\'' :: rest)).map fun p => (.string p.1, p.2)
    | s => (flowText? s).bind fun p => (plain? p.1).map fun v => (v, p.2)

/-- Values and commas up to the closing bracket, and what follows it. -/
def flowItems : Nat → List Char → Option (List Json × List Char)
  | 0, _ => none
  | fuel + 1, s =>
    match skipFlow s with
    | ']' :: rest => some ([], rest)
    | s => do
      let (v, rest) ← flowValue fuel s
      match skipFlow rest with
      | ']' :: rest => some ([v], rest)
      | ',' :: rest => (flowItems fuel rest).map fun p => (v :: p.1, p.2)
      | _ => none

/-- Members and commas up to the closing brace, and what follows it; a key without a value means nothing. -/
def flowMembers : Nat → List Char → Option (List (String × Json) × List Char)
  | 0, _ => none
  | fuel + 1, s =>
    match skipFlow s with
    | '\x7d' :: rest => some ([], rest)
    | s => do
      let (key, rest) ← (quoted? s).or ((flowText? s).map fun p => (String.ofList p.1, p.2))
      let (v, rest) ← match skipFlow rest with
        | ':' :: rest =>
          match skipFlow rest with
          | ',' :: rest => some (Json.null, ',' :: rest)
          | '\x7d' :: rest => some (Json.null, '\x7d' :: rest)
          | rest => flowValue fuel rest
        | rest => some (Json.null, rest)
      match skipFlow rest with
      | '\x7d' :: rest => some ([(key, v)], rest)
      | ',' :: rest => (flowMembers fuel rest).map fun p => ((key, v) :: p.1, p.2)
      | _ => none

end

end Provision.Yaml
