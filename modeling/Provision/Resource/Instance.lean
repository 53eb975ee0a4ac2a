import Provision.Resource.Basic
import Provision.StringSet
import Provision.Vendor.Instances

/-!
# Database instances as resources

A database instance, paid for in advance or by the hour. Its identity is the identifier that the vendor gives to it.
A creation is finished when the instance is running. Only the name can change in place. Of its zones the vendor tells
only the first one.
-/

namespace Provision

/-- The configuration of an instance. -/
structure Instance where
  zones : StringSet := .empty
  period : Option Int := none
  shardMemory : Option Int := none
  shardStorage : Option Int := none
  shardNodeCount : Option Int := none
  shardCount : Option Int := none
  vpcId : Option String := none
  subnetId : Option String := none
  versionId : Option String := none
  securityGroupId : Option String := none
  projectId : Option Int := none
  name : Option String := none
  tags : List Tag := []
deriving DecidableEq, Repr, Inhabited

namespace Instance

open Provision.Json

/-- The status of an instance that accepts connections. -/
def running : Int := 2

/-- The status of an instance that was destroyed. -/
def destroyed : Int := -2

/-- The name of the type of a billing. -/
def typeName : Billing → String
  | .prepaid => "tencentcloud_dcdb_db_instance"
  | .hourly => "tencentcloud_dcdb_hourdb_instance"

/-- The first field of every instance. -/
def zonesField : Schema.Field :=
  { name := "zones", kind := .stringSet, presence := .required,
    description := "available zone of shard. The first is the master zone." }

/-- The field of an instance that is paid for in advance. -/
def periodField : Schema.Field :=
  { name := "period", kind := .int, presence := .required,
    description := "the length of time you want to buy, in months." }

/-- The other fields of every instance. -/
def commonFields : List Schema.Field := [
  { name := "shard_memory", kind := .int, presence := .required, description := "memory(GB) for each shard." },
  { name := "shard_storage", kind := .int, presence := .required, description := "storage(GB) for each shard." },
  { name := "shard_node_count", kind := .int, presence := .required, description := "node count for each shard." },
  { name := "shard_count", kind := .int, presence := .required, description := "instance shard count." },
  { name := "vpc_id", kind := .string, presence := .optionalComputed, description := "vpc id." },
  { name := "subnet_id", kind := .string, presence := .optionalComputed,
    description := "subnet id, it's required when vpcId is set." },
  { name := "db_version_id", kind := .string, presence := .optionalComputed,
    description := "db engine version, default to 0." },
  { name := "security_group_id", kind := .string, presence := .optional, description := "security group id." },
  { name := "project_id", kind := .int, presence := .optionalComputed, description := "project id." },
  { name := "instance_name", kind := .string, presence := .optionalComputed, description := "name of this instance.",
    mutability := .updatable },
  { name := "resource_tags", kind := .tagList, presence := .optional, description := "resource tags." }]

/-- The fields of an instance of a billing. -/
def schema : Billing → Schema
  | .prepaid =>
    { typeName := typeName .prepaid, description := "Provides a resource to create a dcdb db instance",
      fields := zonesField :: periodField :: commonFields }
  | .hourly =>
    { typeName := typeName .hourly, description := "Provides a resource to create a dcdb hourdb instance",
      fields := zonesField :: commonFields }

/-- How a tag is read. -/
def tagRecord : Record Tag where
  title := "struct Tag"
  blank := {}
  fields := [
    .keeping "tag_key" (.option .text) fun v t => { t with key := v },
    .keeping "tag_value" (.option .text) fun v t => { t with value := v }]

/-- A tag as a document. -/
def tagToJson (t : Tag) : Json :=
  .ofMembers (present [("tag_key", t.key.map .string), ("tag_value", t.value.map .string)])

/-- How the configuration of an instance is read. -/
def record : Record Instance where
  title := "struct InstanceConfig"
  blank := {}
  fields := [
    .keeping "zones" (.list .text) fun v i => { i with zones := .ofList v },
    .keeping "period" (.option .int64) fun v i => { i with period := v },
    .keeping "shard_memory" (.option .int64) fun v i => { i with shardMemory := v },
    .keeping "shard_storage" (.option .int64) fun v i => { i with shardStorage := v },
    .keeping "shard_node_count" (.option .int64) fun v i => { i with shardNodeCount := v },
    .keeping "shard_count" (.option .int64) fun v i => { i with shardCount := v },
    .keeping "vpc_id" (.option .text) fun v i => { i with vpcId := v },
    .keeping "subnet_id" (.option .text) fun v i => { i with subnetId := v },
    .keeping "db_version_id" (.option .text) fun v i => { i with versionId := v },
    .keeping "security_group_id" (.option .text) fun v i => { i with securityGroupId := v },
    .keeping "project_id" (.option .int64) fun v i => { i with projectId := v },
    .keeping "instance_name" (.option .text) fun v i => { i with name := v },
    .keeping "resource_tags" (.list tagRecord.reading) fun v i => { i with tags := v }]

/-- The tags as one value, unless there are none. -/
def tagsValue (f : Tag → Json) (tags : List Tag) : Option Json :=
  if tags = [] then none else some (.array (tags.map f))

/-- The configuration of an instance as a document. -/
def toJson (i : Instance) : Json :=
  .ofMembers (present [
    ("zones", some (.array (i.zones.toList.map .string))),
    ("period", i.period.map Json.int),
    ("shard_memory", i.shardMemory.map Json.int),
    ("shard_storage", i.shardStorage.map Json.int),
    ("shard_node_count", i.shardNodeCount.map Json.int),
    ("shard_count", i.shardCount.map Json.int),
    ("vpc_id", i.vpcId.map .string),
    ("subnet_id", i.subnetId.map .string),
    ("db_version_id", i.versionId.map .string),
    ("security_group_id", i.securityGroupId.map .string),
    ("project_id", i.projectId.map Json.int),
    ("instance_name", i.name.map .string),
    ("resource_tags", tagsValue tagToJson i.tags)])

/-- The period is sent only if it is paid for. -/
def periodOf (billing : Billing) (i : Instance) : Option Int :=
  match billing with
  | .prepaid => i.period
  | .hourly => none

/-- The body of the request that creates an instance. What is empty is not sent. -/
def creationBody (billing : Billing) (i : Instance) : Json :=
  .ofMembers (present [
    ("Zones", if i.zones.isEmpty then none else some (.array (i.zones.toList.map .string))),
    ("Period", (i.periodOf billing).map Json.int),
    ("ShardMemory", i.shardMemory.map Json.int),
    ("ShardStorage", i.shardStorage.map Json.int),
    ("ShardNodeCount", i.shardNodeCount.map Json.int),
    ("ShardCount", i.shardCount.map Json.int),
    ("VpcId", i.vpcId.bind nonEmpty?),
    ("SubnetId", i.subnetId.bind nonEmpty?),
    ("DbVersionId", i.versionId.bind nonEmpty?),
    ("SecurityGroupId", i.securityGroupId.bind nonEmpty?),
    ("ProjectId", i.projectId.map Json.int),
    ("InstanceName", i.name.bind nonEmpty?),
    ("ResourceTags", tagsValue Vendor.tagBody i.tags)])

/-- The zones, if the vendor tells the first one: they are kept if it is among them. -/
def mergeZones (zones : StringSet) (told : Option String) : StringSet :=
  match told.filter (· ≠ "") with
  | some zone => if zones.contains zone then zones else .singleton zone
  | none => zones

/-- An instance with what the vendor tells of it. -/
def merge (i : Instance) (listed : Vendor.ListedInstance) : Instance where
  zones := mergeZones i.zones listed.zone
  period := i.period
  shardMemory := listed.memory.or i.shardMemory
  shardStorage := listed.storage.or i.shardStorage
  shardNodeCount := listed.nodeCount.or i.shardNodeCount
  shardCount := listed.shardCount.or i.shardCount
  vpcId := listed.vpcId.or i.vpcId
  subnetId := listed.subnetId.or i.subnetId
  versionId := listed.versionId.or i.versionId
  securityGroupId := i.securityGroupId
  projectId := listed.projectId.or i.projectId
  name := listed.name.or i.name
  tags := listed.tags.getD i.tags

/-- The status of the first instance of an answer. -/
def statusOf (listed : List Vendor.ListedInstance) : Int := (listed.head?.bind (·.status)).getD (-1)

/-- Asks once whether an instance is running. -/
def poll (p : Provider) (id : String) : Run Unit := do
  let listed ← p.listInstances id
  if statusOf listed = running then pure () else .fail (.notReady id (statusOf listed))

/-- Asks until an instance is running. -/
def waitRunning (p : Provider) (id : String) : Run Unit := p.ask "DescribeDCDBInstances" (poll p id)

/-- Creates an instance and waits until it is running. -/
def create (billing : Billing) (p : Provider) (i : Instance) : Run String := do
  let ids ← p.createInstance billing (i.creationBody billing)
  match ids.find? (· ≠ "") with
  | none => .fail (.unnamed billing.createAction)
  | some id => do
    waitRunning p id
    pure id

/-- Looks an instance up; one that was destroyed does not exist. -/
def read (p : Provider) (id : String) (i : Instance) : Run (Option Instance) := do
  let listed ← p.describeInstances id
  match listed.head? with
  | none => pure none
  | some first => if first.status = some destroyed then pure none else pure (some (i.merge first))

/-- Changes the name of an instance. -/
def update (p : Provider) (id : String) (changed : List String) (planned : Instance) : Run Unit :=
  if changed.contains "instance_name" then p.modifyInstanceName id (planned.name.getD "") else pure ()

/-- Instances of a billing as a type of resources. -/
def resource (billing : Billing) : Resource Instance :=
  ⟨schema billing, record, toJson, create billing, read, update, fun p id _ => p.destroyInstance billing id⟩

end Instance

end Provision
