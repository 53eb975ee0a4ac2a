import Provision.Identity
import Provision.Resource.Basic
import Provision.Vendor.Accounts

/-!
# Accounts as resources

An account of a database instance. Its identity is made of the instance and the user name. Only the description can
change in place. The vendor never tells the password, so it is kept; the host is kept unless the vendor tells one.
-/

namespace Provision

/-- The configuration of an account. -/
structure Account where
  instanceId : String := ""
  userName : String := ""
  host : String := ""
  password : String := ""
  readOnly : Option Int := none
  description : Option String := none
  maxUserConnections : Option Nat := none
deriving DecidableEq, Repr, Inhabited

namespace Account

open Provision.Json

/-- The name of the type. -/
def typeName : String := "tencentcloud_dcdb_account"

/-- The fields of an account. -/
def schema : Schema where
  typeName := typeName
  description := "Provides a resource to create a dcdb account"
  fields := [
    { name := "instance_id", kind := .string, presence := .required, description := "instance id." },
    { name := "user_name", kind := .string, presence := .required, description := "account name." },
    { name := "host", kind := .string, presence := .required, description := "db host." },
    { name := "password", kind := .string, presence := .required, description := "password.", sensitive := true },
    { name := "read_only", kind := .int, presence := .optionalComputed, description := "is it a readonly account." },
    { name := "description", kind := .string, presence := .optional, description := "description for account.",
      mutability := .updatable },
    { name := "max_user_connections", kind := .int, presence := .optionalComputed,
      description := "max user connections." }]

/-- How the configuration of an account is read. -/
def record : Record Account where
  title := "struct AccountConfig"
  blank := {}
  fields := [
    .keeping "instance_id" .text fun v a => { a with instanceId := v },
    .keeping "user_name" .text fun v a => { a with userName := v },
    .keeping "host" .text fun v a => { a with host := v },
    .keeping "password" .text fun v a => { a with password := v },
    .keeping "read_only" (.option .int64) fun v a => { a with readOnly := v },
    .keeping "description" (.option .text) fun v a => { a with description := v },
    .keeping "max_user_connections" (.option .nat64) fun v a => { a with maxUserConnections := v }]

/-- The configuration of an account as a document. -/
def toJson (a : Account) : Json :=
  .ofMembers (present [
    ("instance_id", some (.string a.instanceId)),
    ("user_name", some (.string a.userName)),
    ("host", some (.string a.host)),
    ("password", some (.string a.password)),
    ("read_only", a.readOnly.map Json.int),
    ("description", a.description.map .string),
    ("max_user_connections", a.maxUserConnections.map fun n => Json.int n)])

/-- The body of the request that creates an account. What is empty is not sent. -/
def creationBody (a : Account) : Json :=
  .ofMembers (present [
    ("InstanceId", nonEmpty? a.instanceId),
    ("UserName", nonEmpty? a.userName),
    ("Host", nonEmpty? a.host),
    ("Password", nonEmpty? a.password),
    ("ReadOnly", a.readOnly.map Json.int),
    ("Description", a.description.bind nonEmpty?),
    ("MaxUserConnections", a.maxUserConnections.map fun n => Json.int n)])

/-- The identity of an account. -/
def identity (instanceId userName : String) : String := Identity.join [instanceId, userName]

/-- The instance and the user name of an identity. -/
def parts (id : String) : Except Failure (String × String) := Identity.pair id

/-- An instance that an answer names, or the one that is known. -/
def instanceOr (named : Option String) (known : String) : String := (named.filter (· ≠ "")).getD known

/-- An account with what the vendor tells of it. -/
def merge (a : Account) (instanceId userName : String) (listed : Vendor.ListedAccount) : Account where
  instanceId := instanceId
  userName := userName
  host := listed.host.getD a.host
  password := a.password
  readOnly := listed.readOnly.or a.readOnly
  description := listed.description.or a.description
  maxUserConnections := listed.maxUserConnections.or a.maxUserConnections

/-- Creates an account. -/
def create (p : Provider) (a : Account) : Run String := do
  let named ← p.createAccount a.creationBody
  pure (identity (instanceOr named a.instanceId) a.userName)

/-- Looks an account up among those of its instance: the first one of its user name. -/
def read (p : Provider) (id : String) (a : Account) : Run (Option Account) := do
  let (instanceId, userName) ← .ofExcept (parts id)
  let accounts ← p.describeAccounts instanceId
  pure ((accounts.users.find? (·.userName == some userName)).map
    (a.merge (instanceOr accounts.instanceId instanceId) userName))

/-- Changes the description of an account. -/
def update (p : Provider) (id : String) (changed : List String) (planned : Account) : Run Unit := do
  let (instanceId, userName) ← .ofExcept (parts id)
  if changed.contains "description" then
    p.modifyAccountDescription instanceId userName planned.host (planned.description.getD "")
  else pure ()

/-- Deletes an account. -/
def delete (p : Provider) (id : String) (a : Account) : Run Unit := do
  let (instanceId, userName) ← .ofExcept (parts id)
  p.deleteAccount instanceId userName a.host

/-- Accounts as a type of resources. -/
def resource : Resource Account := ⟨schema, record, toJson, create, read, update, delete⟩

end Account

end Provision
