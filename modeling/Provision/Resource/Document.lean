import Provision.Resource.Basic

/-!
# State documents

What is known of a resource as a document: the name of its type, its identity, and its attributes. A step on a
document is the step on what the document says; afterwards the document says what is known then, also if the step
failed. A document of another type, or with attributes that cannot be read, is left as it is.
-/

namespace Provision

/-- What is known of a resource of some type. -/
structure Document where
  typeName : String
  id : String
  attributes : Json
deriving Repr, Inhabited

namespace Document

/-- The document of a resource that does not exist. -/
def absent (typeName : String) : Document := ⟨typeName, "", .null⟩

/-- A member that every document has. -/
def required {α : Type} (name : String) (r : Json.Reading α) (put : α → Document → Document) :
    Json.Record.Field Document :=
  { Json.Record.Field.keeping name r put with absence := .refused }

/-- How a document is read. -/
def record : Json.Record Document where
  title := "struct StateDocument"
  blank := absent ""
  fields := [
    required "type" .text fun v d => { d with typeName := v },
    required "id" .text fun v d => { d with id := v },
    required "attributes" (.any (Json.maxLevels - 1)) fun v d => { d with attributes := v }]

/-- A document as a value, with its members in the order in which they are written. -/
def toJson (d : Document) : Json :=
  .object [("type", .string d.typeName), ("id", .string d.id), ("attributes", d.attributes)]

end Document

/-- How a step on a document ended, and the document after it. -/
structure DocumentOutcome where
  result : Except Failure Unit
  document : Document
  session : Session

namespace Resource

variable {α : Type}

/-- A configuration from a document. -/
def decode (r : Resource α) (v : Json) : Except Failure α :=
  (r.record.ofValue v).mapError (.badAttributes r.kind)

/-- What a document says. Attributes without an identity say nothing. -/
def decodeState (r : Resource α) (d : Document) : Except Failure (ResourceState α) :=
  if d.typeName = r.kind then
    if d.id = "" then .ok r.absent
    else (r.decode d.attributes).map fun attributes => ⟨d.id, attributes⟩
  else .error (.invalid (.foreignState d.typeName r.kind))

/-- What is known as a document. -/
def encodeState (r : Resource α) (st : ResourceState α) : Document := ⟨r.kind, st.id, r.toJson st.attributes⟩

/-- A configuration from a document that fits the schema. -/
def decodeDesired (r : Resource α) (v : Json) : Except Failure α := do
  r.check v
  r.decode v

/-- The outcome of a step as one on documents. -/
def recorded (r : Resource α) (o : Outcome α) : DocumentOutcome := ⟨o.result, r.encodeState o.state, o.session⟩

/-- The plan that leads from a document, if there is one, to a configuration. -/
def planDocument (r : Resource α) (prior : Option Document) (desired : Json) : Except Failure Plan := do
  r.check desired
  let prior ← prior.mapM r.decodeState
  let desired ← r.decode desired
  r.plan prior desired

/-- Makes the resource of a document as desired. -/
def applyDocument (r : Resource α) (p : Provider) (d : Document) (desired : Json) (s : Session) : DocumentOutcome :=
  match r.decodeDesired desired, r.decodeState d with
  | .error e, _ => ⟨.error e, d, s⟩
  | .ok _, .error e => ⟨.error e, d, s⟩
  | .ok desired, .ok st => r.recorded (r.apply p st desired s)

/-- Asks about the resource of a document. -/
def readDocument (r : Resource α) (p : Provider) (d : Document) (s : Session) : DocumentOutcome :=
  match r.decodeState d with
  | .error e => ⟨.error e, d, s⟩
  | .ok st => r.recorded (r.refresh p st s)

/-- Deletes the resource of a document; the attributes of the document stay. -/
def deleteDocument (r : Resource α) (p : Provider) (d : Document) (s : Session) : DocumentOutcome :=
  match r.decodeState d with
  | .error e => ⟨.error e, d, s⟩
  | .ok st =>
    let o := r.remove p st s
    match o.result with
    | .ok () => ⟨.ok (), { d with id := o.state.id }, o.session⟩
    | .error e => ⟨.error e, d, o.session⟩

/-- The document of a resource of which only the identity is known. -/
def importDocument (r : Resource α) (p : Provider) (id : String) : Run Document := fun s =>
  match r.importFrom p id s with
  | (.ok st, s) => (.ok (r.encodeState st), s)
  | (.error e, s) => (.error e, s)

end Resource

end Provision
