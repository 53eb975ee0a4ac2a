import Provision.Vendor.Basic

/-!
# Database instances

The actions that create, list, name and destroy database instances. An instance is paid for in advance or by the
hour, and is created and destroyed accordingly.
-/

namespace Provision

/-- How an instance is paid for. -/
inductive Billing where
  | prepaid
  | hourly
deriving DecidableEq, Repr

namespace Billing

/-- The action that creates an instance. -/
def createAction : Billing → String
  | .prepaid => "CreateDCDBInstance"
  | .hourly => "CreateHourDCDBInstance"

/-- The action that destroys an instance. -/
def destroyAction : Billing → String
  | .prepaid => "DestroyDCDBInstance"
  | .hourly => "DestroyHourDCDBInstance"

end Billing

/-- A tag of an instance; its key or value may be missing. -/
structure Tag where
  key : Option String := none
  value : Option String := none
deriving DecidableEq, Repr

namespace Vendor

open Provision.Json

/-- A tag as it is sent. -/
def tagBody (t : Tag) : Json :=
  .ofMembers (present [("TagKey", t.key.map .string), ("TagValue", t.value.map .string)])

/-- How a tag is listed. -/
def listedTag : Record Tag where
  title := "struct ResourceTag"
  blank := {}
  fields := [
    { text "TagKey" fun v t => { t with key := v } with absence := .keepsByName },
    { text "TagValue" fun v t => { t with value := v } with absence := .keepsByName }]

/-- An instance that is listed. -/
structure ListedInstance where
  name : Option String := none
  projectId : Option Int := none
  zone : Option String := none
  status : Option Int := none
  memory : Option Int := none
  storage : Option Int := none
  shardCount : Option Int := none
  nodeCount : Option Int := none
  vpcId : Option String := none
  subnetId : Option String := none
  versionId : Option String := none
  tags : Option (List Tag) := none
deriving DecidableEq, Repr

/-- How an instance is listed. -/
def listedInstance : Record ListedInstance where
  title := "struct DcdbInstanceInfo"
  blank := {}
  fields := [
    unusedText "InstanceId",
    text "InstanceName" fun v i => { i with name := v },
    integer "ProjectId" fun v i => { i with projectId := v },
    unusedText "Region",
    text "Zone" fun v i => { i with zone := v },
    integer "Status" fun v i => { i with status := v },
    unusedText "StatusDesc",
    unusedText "Vip",
    unusedInteger "Vport",
    unusedText "CreateTime",
    integer "Memory" fun v i => { i with memory := v },
    integer "Storage" fun v i => { i with storage := v },
    integer "ShardCount" fun v i => { i with shardCount := v },
    integer "NodeCount" fun v i => { i with nodeCount := v },
    text "UniqueVpcId" fun v i => { i with vpcId := v },
    text "UniqueSubnetId" fun v i => { i with subnetId := v },
    text "DbVersionId" fun v i => { i with versionId := v },
    unusedText "Paymode",
    .keeping "ResourceTags" (.option (.list listedTag.reading)) fun v i => { i with tags := v }]

/-- The answer with the instances of an identifier. -/
def instanceList : Record (List ListedInstance) where
  title := "struct DescribeDcdbInstancesResponse"
  blank := []
  fields := [
    unusedInteger "TotalCount",
    .keeping "Instances" (.list listedInstance.reading) fun v _ => v,
    requestId]

/-- The answer to a creation: the identifiers of the new instances. -/
def createdInstances : Record (List String) where
  title := "struct CreateInstanceResponse"
  blank := []
  fields := [
    unusedText "DealName",
    .keeping "InstanceIds" (.list .text) fun v _ => v,
    unusedInteger "FlowId",
    requestId]

/-- The answer to a destruction. -/
def destroyedInstance : Record Unit where
  title := "struct DestroyInstanceResponse"
  blank := ()
  fields := [unusedText "InstanceId", unusedInteger "FlowId", requestId]

end Vendor

namespace Provider

open Provision.Vendor

/-- Creates an instance, and gives the identifiers in the answer. -/
def createInstance (p : Provider) (billing : Billing) (body : Json) : Run (List String) :=
  p.change billing.createAction (p.invoke .dcdb billing.createAction body createdInstances)

/-- Lists the instances of an identifier, in one attempt. -/
def listInstances (p : Provider) (id : String) : Run (List ListedInstance) :=
  p.invoke .dcdb "DescribeDCDBInstances" (.ofMembers [("InstanceIds", .array [.string id])]) instanceList

/-- Lists the instances of an identifier. -/
def describeInstances (p : Provider) (id : String) : Run (List ListedInstance) :=
  p.ask "DescribeDCDBInstances" (p.listInstances id)

/-- Changes the name of an instance. -/
def modifyInstanceName (p : Provider) (id name : String) : Run Unit :=
  p.change "ModifyDBInstanceName"
    (p.invoke .dcdb "ModifyDBInstanceName"
      (.ofMembers [("InstanceId", .string id), ("InstanceName", .string name)]) acknowledgement)

/-- Destroys an instance. -/
def destroyInstance (p : Provider) (billing : Billing) (id : String) : Run Unit :=
  p.change billing.destroyAction
    (p.invoke .dcdb billing.destroyAction (.ofMembers [("InstanceId", .string id)]) destroyedInstance)

end Provider

end Provision
