import Provision.Json.Basic

/-!
# Schemas

The table of the fields of a resource or a data source: what kind of value a field takes, whether it has to be set,
and what a change of it means. A value counts as set unless it is null, the empty text or the empty list.
-/

namespace Provision

/-- What kind of value a field takes. -/
inductive FieldKind where
  | string
  | int
  | bool
  /-- A list of texts of which the order and repetitions do not matter. -/
  | stringSet
  /-- A list of tags, each with a key and a value. -/
  | tagList
  /-- A list of records. -/
  | objectList
deriving DecidableEq, Repr

/-- The name of a kind. -/
def FieldKind.name : FieldKind → String
  | .string => "string"
  | .int => "int"
  | .bool => "bool"
  | .stringSet => "string_set"
  | .tagList => "tag_list"
  | .objectList => "object_list"

/-- Whether a field must, may or cannot be set. -/
inductive Presence where
  | required
  | optional
  /-- It may be set; the vendor chooses a value if it is not. -/
  | optionalComputed
  /-- The vendor sets it. -/
  | computed
deriving DecidableEq, Repr

/-- The name of a presence. -/
def Presence.name : Presence → String
  | .required => "required"
  | .optional => "optional"
  | .optionalComputed => "optional_computed"
  | .computed => "computed"

/-- What a change of a field means for a resource that exists. -/
inductive Mutability where
  /-- The resource is changed in place. -/
  | updatable
  /-- The change is refused. -/
  | immutable
  /-- The resource is destroyed and created again. -/
  | forceNew
deriving DecidableEq, Repr

/-- The name of a mutability. -/
def Mutability.name : Mutability → String
  | .updatable => "updatable"
  | .immutable => "immutable"
  | .forceNew => "force_new"

/-- One row of a schema. -/
structure Schema.Field where
  name : String
  kind : FieldKind
  presence : Presence
  description : String
  mutability : Mutability := .immutable
  sensitive : Bool := false
  /-- The fields that cannot be set together with this one. -/
  conflicts : List String := []
  /-- The least and the greatest number of characters of a text. -/
  length : Option (Nat × Nat) := none
deriving DecidableEq, Repr

/-- The fields of one type of resource or data source. -/
structure Schema where
  typeName : String
  description : String
  fields : List Schema.Field
deriving DecidableEq, Repr

/-- Whether a value counts as set. -/
def isSet : Option Json → Bool
  | none | some .null => false
  | some (.string s) => !s.isEmpty
  | some (.array items) => !items.isEmpty
  | some _ => true

namespace Schema

/-- The field of a name. -/
def field? (s : Schema) (name : String) : Option Field := s.fields.find? (·.name == name)

/-- A field as a document. -/
def Field.toJson (f : Field) : Json :=
  .object [
    ("name", .string f.name),
    ("kind", .string f.kind.name),
    ("presence", .string f.presence.name),
    ("mutability", .string f.mutability.name),
    ("sensitive", .bool f.sensitive),
    ("conflicts_with", .array (f.conflicts.map .string)),
    ("length", match f.length with
      | some (least, most) => .array [.int least, .int most]
      | none => .null),
    ("description", .string f.description)]

/-- A schema as a document. -/
def toJson (s : Schema) : Json :=
  .object [
    ("type_name", .string s.typeName),
    ("description", .string s.description),
    ("fields", .array (s.fields.map Field.toJson))]

end Schema

end Provision
