import Provision.Identity
import Provision.Resource.Basic
import Provision.Vendor.Bindings
import Provision.Text.Blank

/-!
# Attachments as resources

The binding of one security group to a set of database instances. Its identity is made of the instances, in order and
with commas between them, and the group. Nothing of it can change in place. It exists as long as the group is bound to
one of the instances.
-/

namespace Provision

/-- The configuration of an attachment. -/
structure Attachment where
  product : String := ""
  securityGroupId : String := ""
  instanceIds : StringSet := .empty
deriving DecidableEq, Repr, Inhabited

namespace Attachment

open Provision.Json

/-- The name of the type. -/
def typeName : String := "tencentcloud_dcdb_security_group"

/-- The fields of an attachment. -/
def schema : Schema where
  typeName := typeName
  description := "Provides a resource to create a dcdb security group attachment"
  fields := [
    { name := "product", kind := .string, presence := .required, description := "db type, e.g. `dcdb`.",
      mutability := .forceNew },
    { name := "security_group_id", kind := .string, presence := .required, description := "security group id.",
      mutability := .forceNew },
    { name := "instance_ids", kind := .stringSet, presence := .required, description := "list of instance ids.",
      mutability := .forceNew }]

/-- How the configuration of an attachment is read. -/
def record : Record Attachment where
  title := "struct SecurityGroupConfig"
  blank := {}
  fields := [
    .keeping "product" .text fun v a => { a with product := v },
    .keeping "security_group_id" .text fun v a => { a with securityGroupId := v },
    .keeping "instance_ids" (.list .text) fun v a => { a with instanceIds := .ofList v }]

/-- The configuration of an attachment as a document. -/
def toJson (a : Attachment) : Json :=
  .ofMembers [
    ("product", .string a.product),
    ("security_group_id", .string a.securityGroupId),
    ("instance_ids", .array (a.instanceIds.toList.map .string))]

/-! ## Identities -/

/-- What stands between two instances. -/
def instanceSeparator : Char := ','

/-- The identity of an attachment. -/
def identity (instanceIds : StringSet) (group : String) : String :=
  Identity.join [String.ofList (Text.Segments.join instanceSeparator (instanceIds.toList.map String.toList)), group]

/-- The instances of a list with commas: blanks around them do not count, nor do empty ones. -/
def instancesOf (list : String) : StringSet :=
  .ofList (((Text.Segments.split instanceSeparator list.toList).map fun s => String.ofList (Text.trim s)).filter
    (· ≠ ""))

/-- The instances and the group of an identity; there has to be an instance. -/
def parts (id : String) : Except Failure (StringSet × String) :=
  match Identity.pair id with
  | .error e => .error e
  | .ok (list, group) =>
    let instances := instancesOf list
    if instances.isEmpty then .error (.brokenId id) else .ok (instances, group)

/-- The instances to release: those of the identity that were bound when they were last looked up. If none is known,
all of them. -/
def boundInstances (named known : StringSet) : StringSet := if known.isEmpty then named else named.inter known

/-- The type of the instances; databases if none is given. -/
def productOr (product : String) : String := if product = "" then Vendor.databaseType else product

/-! ## Talking with the vendor -/

/-- Binds a group. -/
def create (p : Provider) (a : Attachment) : Run String := do
  p.associateSecurityGroups a.product a.securityGroupId a.instanceIds
  pure (identity a.instanceIds a.securityGroupId)

/-- Whether a group is bound to an instance; it is not if the instance does not exist. -/
def isBound (p : Provider) (product group instanceId : String) : Run Bool := fun s =>
  match p.describeBoundGroups product instanceId s with
  | (.ok groups, s) => (.ok (groups.contains (some group)), s)
  | (.error e, s) => if e.saysAbsent then (.ok false, s) else (.error e, s)

/-- The instances of a list to which a group is bound, asked one after the other. -/
def bound (p : Provider) (product group : String) : List String → Run (List String)
  | [] => pure []
  | instanceId :: rest => do
    let here ← isBound p product group instanceId
    let others ← bound p product group rest
    pure (if here then instanceId :: others else others)

/-- Looks an attachment up. -/
def read (p : Provider) (id : String) (a : Attachment) : Run (Option Attachment) := do
  let (instances, group) ← .ofExcept (parts id)
  let product := productOr a.product
  let found ← bound p product group instances.toList
  pure (if found = [] then none else some ⟨product, group, .ofList found⟩)

/-- Nothing can change in place. -/
def update (_ : Provider) (_ : String) (changed : List String) (_ : Attachment) : Run Unit :=
  match changed with
  | field :: _ => .fail (.notUpdatable field)
  | [] => pure ()

/-- Releases the instances that are bound, if there are any. -/
def delete (p : Provider) (id : String) (a : Attachment) : Run Unit := do
  let (instances, group) ← .ofExcept (parts id)
  let bound := boundInstances instances a.instanceIds
  if bound.isEmpty then pure () else p.disassociateSecurityGroups (productOr a.product) group bound

/-- Attachments as a type of resources. -/
def resource : Resource Attachment := ⟨schema, record, toJson, create, read, update, delete⟩

end Attachment

end Provision
