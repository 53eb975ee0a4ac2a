import Provision.Provider
import Provision.Schema.Plan

/-!
# The life of a resource

A type of resource is a schema, the form of its configurations as documents, and four ways to talk with the vendor.
What is known of one resource is its identity, which is empty while it does not exist, and its attributes. The steps of
its life (create, refresh, update, delete, import, apply) keep that knowledge true, also when they fail.
-/

namespace Provision

/-- What is known of a resource; without an identity it does not exist. -/
structure ResourceState (α : Type) where
  id : String
  attributes : α
deriving DecidableEq, Repr

/-- Whether there is an identity. -/
def ResourceState.present {α : Type} (s : ResourceState α) : Bool := !s.id.isEmpty

/-- A type of resources with configurations of type `α`. -/
structure Resource (α : Type) where
  schema : Schema
  /-- How a configuration is read from a document. -/
  record : Json.Record α
  /-- A configuration as a document. -/
  toJson : α → Json
  /-- Creates a resource and gives its identity. -/
  create : Provider → α → Run String
  /-- Looks an identity up; what the vendor does not tell is kept from the attributes known before. -/
  read : Provider → String → α → Run (Option α)
  /-- Changes the fields of the given names in place. -/
  update : Provider → String → List String → α → Run Unit
  delete : Provider → String → α → Run Unit

/-- How a step ended, and what is known after it. -/
structure Outcome (α : Type) where
  result : Except Failure Unit
  state : ResourceState α
  session : Session

namespace Resource

variable {α : Type}

/-- The name of a type. -/
def kind (r : Resource α) : String := r.schema.typeName

/-- A document against the schema. -/
def check (r : Resource α) (v : Json) : Except Failure Unit :=
  match r.schema.violation? v with
  | some why => .error (.violation r.kind why)
  | none => .ok ()

/-- What is known of a resource that does not exist. -/
def absent (r : Resource α) : ResourceState α := ⟨"", r.record.blank⟩

/-- The plan that leads from what is known to a configuration. -/
def plan (r : Resource α) (prior : Option (ResourceState α)) (desired : α) : Except Failure Plan := do
  let next := r.toJson desired
  r.check next
  .ok (r.schema.plan ((prior.filter (·.present)).map fun s => r.toJson s.attributes) next)

/-! ## Steps -/

/-- A state whose resource turned out not to exist. -/
def gone (r : Resource α) (st : ResourceState α) (s : Session) : Outcome α :=
  ⟨.error (.absent r.kind st.id), { st with id := "" }, s⟩

/-- Asks the vendor about a resource and takes over the answer. One that does not exist loses its identity; after any
other failure nothing has changed. -/
def refresh (r : Resource α) (p : Provider) (st : ResourceState α) (s : Session) : Outcome α :=
  if st.present then
    match r.read p st.id st.attributes s with
    | (.ok (some attributes), s) => ⟨.ok (), { st with attributes := attributes }, s⟩
    | (.ok none, s) => r.gone st s
    | (.error e, s) => if e.saysAbsent then r.gone st s else ⟨.error e, st, s⟩
  else ⟨.error (.absent r.kind ""), st, s⟩

/-- Creates a resource and asks about it. -/
def createFrom (r : Resource α) (p : Provider) (config : α) : Run (ResourceState α) := fun s =>
  match r.check (r.toJson config) with
  | .error e => (.error e, s)
  | .ok () =>
    match r.create p config s with
    | (.error e, s) => (.error e, s)
    | (.ok id, s) =>
      match r.refresh p ⟨id, config⟩ s with
      | ⟨.ok (), st, s⟩ => (.ok st, s)
      | ⟨.error e, _, s⟩ => (.error e, s)

/-- The names of the fields that change, or the first of them that cannot change in place. -/
def changes (r : Resource α) (st : ResourceState α) (planned : α) : Except Failure (List String) :=
  let changed := r.schema.changedFields (r.toJson st.attributes) (r.toJson planned)
  match changed.find? (·.mutability != .updatable) with
  | some f => .error (.notUpdatable f.name)
  | none => .ok (changed.map Schema.Field.name)

/-- Changes a resource in place and asks about it. -/
def updateTo (r : Resource α) (p : Provider) (st : ResourceState α) (planned : α) (s : Session) : Outcome α :=
  match r.check (r.toJson planned), r.changes st planned with
  | .error e, _ => ⟨.error e, st, s⟩
  | .ok (), .error e => ⟨.error e, st, s⟩
  | .ok (), .ok [] => r.refresh p { st with attributes := planned } s
  | .ok (), .ok names =>
    match r.update p st.id names planned s with
    | (.error e, s) => ⟨.error e, st, s⟩
    | (.ok (), s) => r.refresh p { st with attributes := planned } s

/-- Deletes a resource, if there is one. -/
def remove (r : Resource α) (p : Provider) (st : ResourceState α) (s : Session) : Outcome α :=
  if st.present then
    match r.delete p st.id st.attributes s with
    | (.error e, s) => ⟨.error e, st, s⟩
    | (.ok (), s) => ⟨.ok (), { st with id := "" }, s⟩
  else ⟨.ok (), st, s⟩

/-- Asks about a resource of which only the identity is known. -/
def importFrom (r : Resource α) (p : Provider) (id : String) : Run (ResourceState α) := fun s =>
  match r.refresh p ⟨id, r.record.blank⟩ s with
  | ⟨.ok (), st, s⟩ => (.ok st, s)
  | ⟨.error e, _, s⟩ => (.error e, s)

/-! ## Reaching a configuration -/

/-- Creates what is desired in place of a state, which stays if that fails. -/
def recreate (r : Resource α) (p : Provider) (st : ResourceState α) (desired : α) (s : Session) : Outcome α :=
  match r.createFrom p desired s with
  | (.ok st, s) => ⟨.ok (), st, s⟩
  | (.error e, s) => ⟨.error e, st, s⟩

/-- Does what a plan says. -/
def execute (r : Resource α) (p : Provider) (plan : Plan) (st : ResourceState α) (desired : α) (s : Session) :
    Outcome α :=
  match plan.action with
  | .reject => ⟨.error (.notUpdatable (plan.rejected.head?.getD "")), st, s⟩
  | .noOp => ⟨.ok (), st, s⟩
  | .update => r.updateTo p st desired s
  | .replace =>
    match r.remove p st s with
    | ⟨.ok (), st, s⟩ => r.recreate p st desired s
    | failed => failed
  | .create => r.recreate p st desired s

/-- A state as the vendor sees it now: one that does not exist is no failure. -/
def current (r : Resource α) (p : Provider) (st : ResourceState α) (s : Session) : Outcome α :=
  if st.present then
    match r.refresh p st s with
    | ⟨.error (.absent _ _), st, s⟩ => ⟨.ok (), st, s⟩
    | outcome => outcome
  else ⟨.ok (), st, s⟩

/-- Makes a resource as desired: asks about it, plans, and does what the plan says. -/
def apply (r : Resource α) (p : Provider) (st : ResourceState α) (desired : α) (s : Session) : Outcome α :=
  match r.check (r.toJson desired) with
  | .error e => ⟨.error e, st, s⟩
  | .ok () =>
    match r.current p st s with
    | ⟨.ok (), st, s⟩ =>
      match r.plan (some st) desired with
      | .error e => ⟨.error e, st, s⟩
      | .ok plan => r.execute p plan st desired s
    | failed => failed

end Resource

end Provision
