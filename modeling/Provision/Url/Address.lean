import Provision.Text.Segments

/-!
# Network addresses

Addresses of 32 bits, in up to four parts that may be decimal, octal or hexadecimal, and addresses of 128 bits, in
eight groups of which one run of zeros may be left out.
-/

namespace Provision.Url

open Text

/-- The value of a digit of a base up to sixteen. -/
def digit? (base : Nat) (c : Char) : Option Nat :=
  let value :=
    if '0' ≤ c ∧ c ≤ '9' then c.toNat - '0'.toNat
    else if 'a' ≤ c ∧ c ≤ 'f' then c.toNat - 'a'.toNat + 10
    else if 'A' ≤ c ∧ c ≤ 'F' then c.toNat - 'A'.toNat + 10
    else 16
  if value < base then some value else none

/-- The value of digits of a base. -/
def digits? (base : Nat) (s : List Char) : Option Nat :=
  s.foldlM (fun acc c => (digit? base c).map (acc * base + ·)) 0

/-! ## Four bytes -/

/-- A part of an address of four bytes: hexadecimal after `0x`, octal after `0`, else decimal. -/
def part? : List Char → Option Nat
  | [] => none
  | ['0'] => some 0
  | '0' :: 'x' :: rest | '0' :: 'X' :: rest => digits? 16 rest
  | '0' :: rest => digits? 8 rest
  | s => digits? 10 s

/-- The dotted parts of a name; a dot at the end ends no part. -/
def dotted (s : List Char) : List (List Char) :=
  let parts := Segments.split '.' s
  if parts.getLast? = some [] then parts.dropLast else parts

/-- Whether the last dotted part of a name is a number, so that the name has to be an address. -/
def endsInNumber (s : List Char) : Bool :=
  match (dotted s).getLast? with
  | none | some [] => false
  | some part => part.all Char.isDigit || (part? part).isSome

/-- Combines parts: each but the last stands for one byte, the last for all bytes that remain. -/
def combine : Nat → List Nat → Option Nat
  | _, [] => none
  | remaining, [last] => if last < 1 <<< (8 * remaining) then some last else none
  | remaining, n :: rest =>
    if n < 256 ∧ 1 < remaining then (combine (remaining - 1) rest).map ((n <<< (8 * (remaining - 1))) + ·) else none

/-- An address of four bytes in up to four parts. -/
def fourBytes? (s : List Char) : Option Nat := (dotted s).mapM part? >>= combine 4

/-- The four bytes of an address with dots between them. -/
def fourBytesText (address : Nat) : List Char :=
  Segments.join '.' <| [24, 16, 8, 0].map fun places => Nat.toDigits 10 ((address >>> places) % 256)

/-! ## Eight groups -/

/-- A group of one to four hexadecimal digits. -/
def group? (s : List Char) : Option Nat := if s.length = 0 ∨ 4 < s.length then none else digits? 16 s

/-- A decimal byte without needless zeros. -/
def byte? (s : List Char) : Option Nat :=
  if s = [] ∨ (s.head? = some '0' ∧ 1 < s.length) ∨ 3 < s.length then none
  else (digits? 10 s).filter (· < 256)

/-- Four decimal bytes as two groups. -/
def bytesAsGroups? (s : List Char) : Option (List Nat) :=
  match (Segments.split '.' s).mapM byte? with
  | some [a, b, c, d] => some [a * 256 + b, c * 256 + d]
  | _ => none

/-- Groups with colons between them; four decimal bytes may stand for the last two. -/
def groups? (s : List Char) : Option (List Nat) :=
  if s = [] then some []
  else
    let parts := Segments.split ':' s
    match parts.getLast? with
    | none => some []
    | some last =>
      if last.contains '.' then do
        let front ← parts.dropLast.mapM group?
        let back ← bytesAsGroups? last
        some (front ++ back)
      else parts.mapM group?

/-- Cuts a text at the first double colon. -/
def cut? : List Char → Option (List Char × List Char)
  | ':' :: ':' :: rest => some ([], rest)
  | [] => none
  | c :: rest => (cut? rest).map fun p => (c :: p.1, p.2)

/-- The eight groups of an address; a double colon stands for the groups that are missing, one at least. -/
def eightGroups? (s : List Char) : Option (List Nat) :=
  match cut? s with
  | none => (groups? s).filter (·.length = 8)
  | some (front, back) =>
    if front.contains '.' then none
    else do
      let front ← groups? front
      let back ← groups? back
      if front.length + back.length ≤ 7 then
        some (front ++ List.replicate (8 - front.length - back.length) 0 ++ back)
      else none

/-- The number of zeros at the front. -/
def leadingZeros : List Nat → Nat
  | 0 :: rest => leadingZeros rest + 1
  | _ => 0

/-- Where the longest run of zeros begins, and its length; of equal ones the first. -/
def longestZeros : Nat → List Nat → Nat × Nat
  | _, [] => (0, 0)
  | start, n :: rest =>
    let here := leadingZeros (n :: rest)
    let later := longestZeros (start + 1) rest
    if later.2 ≤ here then (start, here) else later

/-- Eight groups as text: the longest run of two or more zeros becomes a double colon. -/
def eightGroupsText (groups : List Nat) : List Char :=
  let run := longestZeros 0 groups
  let text (gs : List Nat) : List Char := Segments.join ':' (gs.map (Nat.toDigits 16))
  if run.2 < 2 then text groups
  else text (groups.take run.1) ++ [':', ':'] ++ text (groups.drop (run.1 + run.2))

end Provision.Url
