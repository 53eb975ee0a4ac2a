import Provision.Schema.Basic
import Provision.Text.Decimal

/-!
# Checking a configuration against a schema

A configuration is an object in which every set member names a field, every required field is set, no set field has
a set field in its list of conflicts, and the texts of bounded fields have a length within the bounds. The members are
checked first, in their order, then the fields in the order of the schema; the first violation counts.
-/

namespace Provision

/-- A rule of a schema that a configuration breaks. -/
inductive Violation where
  | notAnObject
  /-- A set member that names no field. -/
  | unsupported (argument : String)
  | required (field : String)
  | conflict (field other : String)
  | length (field : String) (least most actual : Nat)
deriving DecidableEq, Repr

/-- The wording of a violation. -/
def Violation.message (typeName : String) : Violation → String
  | .notAnObject => typeName ++ ": attributes must be an object"
  | .unsupported argument => typeName ++ ": unsupported argument `" ++ argument ++ "`"
  | .required field => typeName ++ ": `" ++ field ++ "` is required"
  | .conflict field other => "\"" ++ field ++ "\": conflicts with " ++ other
  | .length field least most actual =>
    typeName ++ ": `" ++ field ++ "` length must be between " ++ Text.Decimal.text least ++ " and " ++
      Text.Decimal.text most ++ ", got " ++ Text.Decimal.text actual

namespace Schema

/-- The first set member that names no field. -/
def unsupported? (s : Schema) (members : List (String × Json)) : Option String :=
  (members.find? fun m => (s.field? m.1).isNone && isSet (some m.2)).map (·.1)

namespace Field

/-- The first field in the list of conflicts that is set. -/
def conflict? (f : Field) (members : List (String × Json)) : Option String :=
  f.conflicts.find? fun other => isSet (Json.find other members)

/-- The bounds that a text breaks, and its length. -/
def outOfBounds? (f : Field) (value : Option Json) : Option (Nat × Nat × Nat) :=
  match f.length, value with
  | some (least, most), some (.string s) =>
    if s.length < least ∨ most < s.length then some (least, most, s.length) else none
  | _, _ => none

/-- What is wrong with a field of an object. -/
def violation? (f : Field) (members : List (String × Json)) : Option Violation :=
  let value := Json.find f.name members
  if isSet value then
    match f.conflict? members with
    | some other => some (.conflict f.name other)
    | none => (f.outOfBounds? value).map fun b => .length f.name b.1 b.2.1 b.2.2
  else if f.presence = .required then some (.required f.name)
  else none

end Field

/-- The first rule that a configuration breaks. -/
def violation? (s : Schema) : Json → Option Violation
  | .object members =>
    match s.unsupported? members with
    | some argument => some (.unsupported argument)
    | none => s.fields.findSome? (·.violation? members)
  | _ => some .notAnObject

end Schema

end Provision
