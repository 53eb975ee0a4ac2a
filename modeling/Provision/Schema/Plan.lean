import Provision.Schema.Basic
import Provision.Json.Printer

/-!
# Plans

What has to happen so that a resource with given attributes becomes as desired. Two values of a field are compared
after normalization: an unset value is null, and a set of texts is sorted and free of repetitions.
-/

namespace Provision

/-- What applying a configuration does. -/
inductive Action where
  | create
  | noOp
  | update
  | replace
  | reject
deriving DecidableEq, Repr

/-- The name of an action. -/
def Action.name : Action → String
  | .create => "create"
  | .noOp => "no_op"
  | .update => "update"
  | .replace => "replace"
  | .reject => "reject"

/-- An action, the fields that change, and those of them that cannot change; both in the order of the schema. -/
structure Plan where
  action : Action
  changed : List String
  rejected : List String
deriving DecidableEq, Repr

/-- A plan as a document. -/
def Plan.toJson (p : Plan) : Json :=
  .object [
    ("action", .string p.action.name),
    ("changed", .array (p.changed.map .string)),
    ("rejected", .array (p.rejected.map .string))]

namespace Schema

/-- The elements of a set in order of their texts, each once. -/
def distinct (items : List Json) : List Json :=
  (items.mergeSort fun a b => a.compact ≤ b.compact).eraseRepsBy Json.same

/-- A value of a field as it is compared. -/
def Field.normalized (f : Field) (value : Option Json) : Json :=
  if isSet value then
    match f.kind, value with
    | .stringSet, some (.array items) => .array (distinct items)
    | _, some v => v
    | _, none => .null
  else .null

/-- Whether a field changes between two configurations. A computed field never does, and one that the vendor chooses
keeps its value when it is not set. -/
def Field.changes (f : Field) (prior desired : Json) : Bool :=
  let next := desired.get? f.name
  f.presence != .computed && !(f.presence == .optionalComputed && !isSet next) &&
    !(f.normalized (prior.get? f.name)).same (f.normalized next)

/-- The fields that change, in the order of the schema. -/
def changedFields (s : Schema) (prior desired : Json) : List Field :=
  s.fields.filter (·.changes prior desired)

/-- The action for a list of changed fields: one that cannot change decides first, then one that forces a new
resource. -/
def actionOf (changed : List Field) : Action :=
  if changed.isEmpty then .noOp
  else if changed.any (·.mutability == .immutable) then .reject
  else if changed.any (·.mutability == .forceNew) then .replace
  else .update

/-- The plan that leads from the prior attributes, if there are any, to the desired configuration. -/
def plan (s : Schema) (prior : Option Json) (desired : Json) : Plan :=
  match prior with
  | none => ⟨.create, (s.fields.filter fun f => isSet (desired.get? f.name)).map Field.name, []⟩
  | some prior =>
    let changed := s.changedFields prior desired
    ⟨actionOf changed, changed.map Field.name, (changed.filter (·.mutability == .immutable)).map Field.name⟩

end Schema

end Provision
