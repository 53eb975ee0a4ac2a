import Provision.Resource.Account
import Provision.Resource.Attachment
import Provision.Resource.Document
import Provision.Resource.Instance

/-!
# The types of resources

The four types of resources, in order of their names, and the steps on documents for a type that is known by its name.
-/

namespace Provision

/-- A type of resources. -/
inductive Kind where
  | account
  | instance (billing : Billing)
  | attachment
deriving DecidableEq, Repr

namespace Kind

/-- The configurations of a type. -/
def Config : Kind → Type
  | .account => Account
  | .instance _ => Instance
  | .attachment => Attachment

/-- What a type of resources can do. -/
def resource : (k : Kind) → Resource k.Config
  | .account => Account.resource
  | .instance billing => Instance.resource billing
  | .attachment => Attachment.resource

/-- The schema of a type. -/
def schema (k : Kind) : Schema := k.resource.schema

/-- The name of a type. -/
def name (k : Kind) : String := k.resource.kind

/-- All types, in order of their names. -/
def all : List Kind := [.account, .instance .prepaid, .instance .hourly, .attachment]

/-- The type of a name. -/
def ofName? (name : String) : Option Kind := all.find? (·.name == name)

/-- The type of a name that has to be known. -/
def ofName (name : String) : Except Failure Kind :=
  match ofName? name with
  | some k => .ok k
  | none => .error (.unknownType name)

theorem mem_all (k : Kind) : k ∈ all := by
  match k with
  | .account => simp [all]
  | .instance .prepaid => simp [all]
  | .instance .hourly => simp [all]
  | .attachment => simp [all]

theorem ofName?_name (k : Kind) : ofName? k.name = some k := by
  match k with
  | .account => rfl
  | .instance .prepaid => rfl
  | .instance .hourly => rfl
  | .attachment => rfl

end Kind

end Provision
