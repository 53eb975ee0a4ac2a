import Provision.Text.Shown

/-!
# Quoted texts

A text between double quotes in which every character that would not be seen, and the quote and the backslash, is
written as an escape: a short one for the common control characters, else the code point in lower-case hexadecimal
between braces.
-/

namespace Provision.Text.Quoted

/-- A code point as an escape. -/
def codePoint (c : Char) : List Char :=
  ['\\', 'u', '\x7b'] ++ Nat.toDigits 16 c.toNat ++ ['\x7d']

/-- How one character is written between the quotes. -/
def escape (c : Char) : List Char :=
  match c with
  | '\x00' => ['\\', '0']
  | '\t' => ['\\', 't']
  | '\r' => ['\\', 'r']
  | '\n' => ['\\', 'n']
  | '\\' => ['\\', '\\']
  | '"' => ['\\', '"']
  | c => if isShown c then [c] else codePoint c

/-- The quoted form of a text. -/
def quote (s : String) : String := String.ofList (['"'] ++ s.toList.flatMap escape ++ ['"'])

end Provision.Text.Quoted
