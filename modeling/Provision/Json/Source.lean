import Provision.Json.Basic
import Provision.Text.Decimal

/-!
# JSON texts as written

The tree of a JSON text before it is made into a value: members in the order of the text, a name as often as it is
written, numbers as digits, and, where the text stops being JSON, the part before that place. A reader that walks
the tree in order meets the first fault of the text first. A tree gives a value only if nothing in it is broken
(`Source.toJson`); a reader that skips a part asks less of it (`Source.skippable`).
-/

namespace Provision

/-! ## Numbers -/

/-- A number as written: digits before the point, digits after it if there is one, and the exponent. -/
structure Numeral where
  negative : Bool
  whole : List Char
  fraction : List Char
  exponent : Option (Bool × List Char)
deriving DecidableEq, Repr

namespace Numeral

/-- Leading digits that are counted: their value, and how many whole digits were left out after them. -/
structure Significand where
  value : Nat
  dropped : Nat
deriving DecidableEq, Repr

/-- Takes the digits before the point as long as the value stays in 64 bits, and counts the others. -/
def takeWhole : Significand → List Char → Significand
  | s, [] => s
  | s, c :: rest =>
    let next := s.value * 10 + (c.toNat - '0'.toNat)
    if s.dropped = 0 ∧ next ≤ Text.Decimal.maxNat64 then takeWhole ⟨next, 0⟩ rest
    else takeWhole ⟨s.value, s.dropped + 1⟩ rest

/-- Takes digits after the point as long as the value stays in 64 bits; each one taken lowers the exponent. -/
def takeFraction : Nat × Int → List Char → Nat × Int
  | s, [] => s
  | (value, exponent), c :: rest =>
    let next := value * 10 + (c.toNat - '0'.toNat)
    if next ≤ Text.Decimal.maxNat64 then takeFraction (next, exponent - 1) rest else (value, exponent)

/-- Divides a magnitude by `10 ^ e`, in steps of at most 308 places, each of them rounded. -/
def scaleDown (magnitude e : Nat) : Option Nat :=
  if e ≤ 308 then (Binary64.ofNat (Nat.pow 10 e)).bind (Binary64.div magnitude)
  else if magnitude = 0 then some 0
  else do
    let power ← Binary64.ofNat (Nat.pow 10 308)
    let magnitude ← Binary64.div magnitude power
    scaleDown magnitude (e - 308)
termination_by e
decreasing_by omega

/-- The magnitude of `significand * 10 ^ exponent`: the significand is rounded, then scaled. -/
def magnitude (significand : Nat) (exponent : Int) : Option Nat := do
  let start ← Binary64.ofNat significand
  match exponent with
  | .negSucc e => scaleDown start (e + 1)
  | .ofNat e =>
    if e ≤ 308 then (Binary64.ofNat (Nat.pow 10 e)).bind (Binary64.mul start)
    else if start = 0 then some 0
    else none

/-- The number that is written, or none if it is too large. An integer is one that is written without a point and
an exponent and fits in 64 bits; minus zero is a floating point number. -/
def number (n : Numeral) : Option Number :=
  let s := takeWhole ⟨0, 0⟩ n.whole
  let float (significand : Nat) (exponent : Int) : Option Number :=
    (magnitude significand exponent).map fun m => .float ⟨n.negative, m⟩
  let power : Int :=
    match n.exponent with
    | none => 0
    | some (false, ds) => Nat.ofDigitChars 10 ds 0
    | some (true, ds) => -Nat.ofDigitChars 10 ds 0
  if n.fraction = [] ∧ n.exponent = none ∧ s.dropped = 0 then
    if !n.negative then some (.int s.value)
    else if s.value = 0 ∨ 1 <<< 63 < s.value then float s.value 0
    else some (.int (-s.value))
  else
    let t := takeFraction (s.value, s.dropped) n.fraction
    float t.1 (t.2 + power)

end Numeral

/-! ## Trees -/

/-- A JSON text as written, up to the place where it breaks off. -/
inductive Source where
  | null
  | bool (value : Bool)
  | number (numeral : Numeral)
  /-- A string; none if its escapes spell no text. -/
  | string (text : Option String)
  /-- The items up to the bracket, or, if not `closed`, up to the place where the text breaks off. -/
  | array (items : List Source) (closed : Bool)
  /-- The members up to the brace, or, if not `closed`, up to the place where the text breaks off. -/
  | object (members : List (String × Source)) (closed : Bool)
  | broken
deriving Inhabited

namespace Source

mutual

/-- The value of a text, if it is one and nests at most `levels` deep. -/
def toJson (levels : Nat) : Source → Option Json
  | .null => some .null
  | .bool b => some (.bool b)
  | .number n => n.number.map .number
  | .string s => s.map .string
  | .array items closed =>
    match levels with
    | 0 => none
    | l + 1 => if closed then (itemsToJson l items).map .array else none
  | .object members closed =>
    match levels with
    | 0 => none
    | l + 1 => if closed then (membersToJson l members).map Json.ofMembers else none
  | .broken => none

/-- The values of the items. -/
def itemsToJson (levels : Nat) : List Source → Option (List Json)
  | [] => some []
  | s :: rest =>
    match toJson levels s, itemsToJson levels rest with
    | some v, some vs => some (v :: vs)
    | _, _ => none

/-- The values of the members. -/
def membersToJson (levels : Nat) : List (String × Source) → Option (List (String × Json))
  | [] => some []
  | (k, s) :: rest =>
    match toJson levels s, membersToJson levels rest with
    | some v, some vs => some ((k, v) :: vs)
    | _, _ => none

end

mutual

/-- Whether a part can be skipped: it is complete, but its numbers and strings need not be any. -/
def skippable : Source → Bool
  | .array items closed => closed && skippableItems items
  | .object members closed => closed && skippableMembers members
  | .broken => false
  | _ => true

/-- Whether all items can be skipped. -/
def skippableItems : List Source → Bool
  | [] => true
  | s :: rest => skippable s && skippableItems rest

/-- Whether all members can be skipped. -/
def skippableMembers : List (String × Source) → Bool
  | [] => true
  | (_, s) :: rest => skippable s && skippableMembers rest

end

end Source

end Provision
