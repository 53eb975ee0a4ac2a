import Provision.Json.Basic
import Provision.Number.Shortest
import Provision.Text.Decimal

/-!
# Writing JSON

The compact text of a value, without blanks, and the indented one, with two blanks for each level. Both write the
members of an object in the order in which it lists them.
-/

namespace Provision

/-- The text of a number. -/
def Number.chars : Number → List Char
  | .int i => Text.Decimal.ofInt i
  | .float x => x.text

namespace Json

/-- The two hexadecimal digits of a small code. -/
def hexPair (n : Nat) : List Char := [Nat.digitChar (n / 16), Nat.digitChar (n % 16)]

/-- How one character is written inside a string: the quote, the backslash and the control characters of ASCII
below the blank are escaped. -/
def escape (c : Char) : List Char :=
  match c with
  | '"' => ['\\', '"']
  | '\\' => ['\\', '\\']
  | '\x08' => ['\\', 'b']
  | '\x09' => ['\\', 't']
  | '\x0a' => ['\\', 'n']
  | '\x0c' => ['\\', 'f']
  | '\x0d' => ['\\', 'r']
  | c => if c.toNat < 0x20 then ['\\', 'u', '0', '0'] ++ hexPair c.toNat else [c]

/-- A string between its quotes. -/
def quoted (s : String) : List Char := '"' :: s.toList.flatMap escape ++ ['"']

/-! ## Compact -/

mutual

/-- The compact text of a value. -/
def chars : Json → List Char
  | .null => "null".toList
  | .bool true => "true".toList
  | .bool false => "false".toList
  | .number n => n.chars
  | .string s => quoted s
  | .array items => '[' :: charsItems items ++ [']']
  | .object members => '\x7b' :: charsMembers members ++ ['\x7d']

/-- Items between commas. -/
def charsItems : List Json → List Char
  | [] => []
  | [v] => chars v
  | v :: rest => chars v ++ ',' :: charsItems rest

/-- Members between commas. -/
def charsMembers : List (String × Json) → List Char
  | [] => []
  | [(k, v)] => quoted k ++ ':' :: chars v
  | (k, v) :: rest => quoted k ++ ':' :: chars v ++ ',' :: charsMembers rest

end

/-- The compact text of a value. -/
def compact (v : Json) : String := String.ofList v.chars

/-! ## Indented -/

/-- A line break, and two blanks for each level. -/
def newline (level : Nat) : List Char := '\n' :: List.replicate (2 * level) ' '

mutual

/-- The indented text of a value that stands at a level. -/
def indented (level : Nat) : Json → List Char
  | .array [] => ['[', ']']
  | .array items => '[' :: indentedItems (level + 1) items ++ newline level ++ [']']
  | .object [] => ['\x7b', '\x7d']
  | .object members => '\x7b' :: indentedMembers (level + 1) members ++ newline level ++ ['\x7d']
  | .null => chars .null
  | .bool b => chars (.bool b)
  | .number n => n.chars
  | .string s => quoted s

/-- One item to a line, between commas. -/
def indentedItems (level : Nat) : List Json → List Char
  | [] => []
  | [v] => newline level ++ indented level v
  | v :: rest => newline level ++ indented level v ++ ',' :: indentedItems level rest

/-- One member to a line, between commas. -/
def indentedMembers (level : Nat) : List (String × Json) → List Char
  | [] => []
  | [(k, v)] => newline level ++ quoted k ++ ':' :: ' ' :: indented level v
  | (k, v) :: rest => newline level ++ quoted k ++ ':' :: ' ' :: indented level v ++ ',' :: indentedMembers level rest

end

/-- The indented text of a value. -/
def pretty (v : Json) : String := String.ofList (v.indented 0)

end Json

end Provision
