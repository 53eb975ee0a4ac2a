import Provision.Url.Address
import Provision.Text.Shown

/-!
# Hosts

The host of a URL: a name, an address of four bytes, or an address of eight groups between brackets. The letters of a
name are lower-case, and a part of it with letters outside of ASCII is written in ASCII (`asciiPart`). Such letters are
taken as they are: two spellings of one letter make two names.
-/

namespace Provision.Url

open Text

/-- Why a text is not a URL. -/
inductive Fault where
  /-- It does not begin with a scheme. -/
  | relative
  | emptyHost
  | badName
  | badPort
  | badFourBytes
  | badEightGroups
  | badCharacter
deriving DecidableEq, Repr

/-- The wording of a fault. -/
def Fault.message : Fault → String
  | .relative => "relative URL without a base"
  | .emptyHost => "empty host"
  | .badName => "invalid international domain name"
  | .badPort => "invalid port number"
  | .badFourBytes => "invalid IPv4 address"
  | .badEightGroups => "invalid IPv6 address"
  | .badCharacter => "invalid domain character"

/-! ## Names in ASCII -/

/-- The digit of a value below 36: letters first. -/
def codeDigit (n : Nat) : Char := Char.ofNat (if n < 26 then 'a'.toNat + n else '0'.toNat + (n - 26))

/-- How much of an excess is divided off, and how often, until at most 455 is left. -/
def dampen (delta k : Nat) : Nat × Nat :=
  if 455 < delta then dampen (delta / 35) (k + 36) else (delta, k)
termination_by delta
decreasing_by omega

/-- The bias after a step of `delta` to one of `count` characters. -/
def bias (delta count : Nat) (first : Bool) : Nat :=
  let start := if first then delta / 700 else delta / 2
  let d := dampen (start + start / count) 0
  d.2 + 36 * d.1 / (d.1 + 38)

/-- From which value on a digit is not the last one of a number. -/
def threshold (biased k : Nat) : Nat := if k ≤ biased then 1 else if biased + 26 ≤ k then 26 else k - biased

theorem one_le_threshold (biased k : Nat) : 1 ≤ threshold biased k := by
  simp only [threshold]
  split
  · omega
  · split <;> omega

/-- A number in digits whose thresholds depend on the bias. -/
def codeNumber (biased k n : Nat) : List Char :=
  let t := threshold biased k
  if n < t then [codeDigit n]
  else codeDigit (t + (n - t) % (36 - t)) :: codeNumber biased (k + 36) ((n - t) / (36 - t))
termination_by n
decreasing_by
  have h := one_le_threshold biased k
  exact Nat.lt_of_le_of_lt (Nat.div_le_self _ _) (by omega)

/-- The state of writing the characters of a part in order of their codes. -/
structure CodeState where
  delta : Nat
  biased : Nat
  written : Nat
  output : List Char

/-- Goes over a part and writes the place of each character with code `n`. -/
def codePass (n basic : Nat) : CodeState → List Char → CodeState
  | s, [] => s
  | s, c :: rest =>
    if c.toNat < n then codePass n basic { s with delta := s.delta + 1 } rest
    else if c.toNat = n then
      codePass n basic
        ⟨0, bias s.delta (s.written + 1) (s.written == basic), s.written + 1,
          s.output ++ codeNumber s.biased 36 s.delta⟩ rest
    else codePass n basic s rest

/-- Writes the characters whose codes are listed in order; `previous` is the code up to which all are written. -/
def codeAll (part : List Char) (basic : Nat) : Nat → CodeState → List Nat → CodeState
  | _, s, [] => s
  | previous, s, n :: rest =>
    let s := codePass n basic { s with delta := s.delta + (n - previous) * (s.written + 1) } part
    codeAll part basic (n + 1) { s with delta := s.delta + 1 } rest

/-- A part of a name in ASCII: as it is, or its ASCII characters followed by the places of the others. -/
def asciiPart (part : List Char) : List Char :=
  if part.all (·.toNat < 128) then part
  else
    let basic := part.filter (·.toNat < 128)
    let others := ((part.filter fun c => !(c.toNat < 128)).map Char.toNat).mergeSort.eraseDups
    let start : CodeState := ⟨0, 72, basic.length, if basic = [] then [] else basic ++ ['-']⟩
    ['x', 'n', '-', '-'] ++ (codeAll part basic.length 128 start others).output

/-! ## Names -/

/-- ASCII characters that no name has. -/
def isForbidden (c : Char) : Bool :=
  c.toNat ≤ 0x20 || c.toNat == 0x7F ||
    ['#', '%', '/', ':', '<', '>', '?', '@', '[', '\\', ']', '^', '|'].contains c

/-- Whether a character can stand in a name. -/
def isNameChar (c : Char) : Bool := if c.toNat < 128 then !isForbidden c else isShown c

/-- Replaces a percent sign and two hexadecimal digits by the byte, and writes all else as bytes. -/
def unescaped : List Char → List UInt8
  | '%' :: a :: b :: rest =>
    match digit? 16 a, digit? 16 b with
    | some a, some b => UInt8.ofNat (a * 16 + b) :: unescaped rest
    | _, _ => '%'.toUInt8 :: unescaped (a :: b :: rest)
  | c :: rest => (String.singleton c).toUTF8.toList ++ unescaped rest
  | [] => []

/-- The characters of a name after its escapes are replaced. -/
def unescape? (s : List Char) : Option (List Char) :=
  (String.fromUTF8? ⟨(unescaped s).toArray⟩).map String.toList

/-- The name of a host in ASCII and lower-case. -/
def name? (s : List Char) : Option (List Char) := do
  let name ← unescape? s
  if name.all isNameChar then
    let parts := (Segments.split '.' (name.map Char.toLower)).map asciiPart
    if parts.contains ['x', 'n', '-', '-'] then none else some (Segments.join '.' parts)
  else none

/-- The address between brackets. -/
def bracketed (s : List Char) : Except Fault (List Char) :=
  match s.getLast? with
  | some ']' =>
    match eightGroups? s.dropLast with
    | some groups => .ok (['['] ++ eightGroupsText groups ++ [']'])
    | none => .error .badEightGroups
  | _ => .error .badEightGroups

/-- The host of a scheme whose hosts are computers. -/
def computer (s : List Char) : Except Fault (List Char) :=
  match s with
  | '[' :: rest => bracketed rest
  | s =>
    match name? s with
    | none => .error .badName
    | some [] => .error .emptyHost
    | some name =>
      if endsInNumber name then
        match fourBytes? name with
        | some address => .ok (fourBytesText address)
        | none => .error .badFourBytes
      else .ok name

/-- The host of any other scheme: what it means is not known, so it stays as it is. -/
def opaqueHost (s : List Char) : Except Fault (List Char) :=
  match s with
  | '[' :: rest => bracketed rest
  | s =>
    if s.any fun c =>
      c == '\x00' || c == ' ' || ['#', '/', ':', '<', '>', '?', '@', '[', '\\', ']', '^', '|'].contains c then
      .error .badCharacter
    else .ok s

end Provision.Url
