import Provision.StringSet
import Provision.Vendor.Basic

/-!
# Security groups of databases

The actions that bind a security group to database instances, release it, and list the groups of an instance.
-/

namespace Provision.Vendor

open Provision.Json

/-- How a security group of an instance is listed: its identifier. -/
def boundGroup : Record (Option String) where
  title := "struct DbSecurityGroup"
  blank := none
  fields := [
    unusedInteger "ProjectId",
    unusedText "CreateTime",
    text "SecurityGroupId" fun v _ => v,
    unusedText "SecurityGroupName",
    unusedText "SecurityGroupRemark"]

/-- The answer with the security groups of an instance. -/
def boundGroups : Record (List (Option String)) where
  title := "struct DescribeDbSecurityGroupsResponse"
  blank := []
  fields := [
    .keeping "Groups" (.list boundGroup.reading) fun v _ => v,
    unusedText "VIP",
    unusedInteger "VPort",
    requestId]

/-- The body of a request that binds or releases a group. -/
def bindingBody (product group : String) (instances : StringSet) : Json :=
  .ofMembers [
    ("Product", .string product),
    ("SecurityGroupId", .string group),
    ("InstanceIds", .array (instances.toList.map .string))]

end Provision.Vendor

namespace Provision.Provider

open Provision.Vendor

/-- Binds a security group to instances. -/
def associateSecurityGroups (p : Provider) (product group : String) (instances : StringSet) : Run Unit :=
  p.change "AssociateSecurityGroups"
    (p.invoke .dcdb "AssociateSecurityGroups" (bindingBody product group instances) acknowledgement)

/-- Releases a security group from instances. -/
def disassociateSecurityGroups (p : Provider) (product group : String) (instances : StringSet) : Run Unit :=
  p.change "DisassociateSecurityGroups"
    (p.invoke .dcdb "DisassociateSecurityGroups" (bindingBody product group instances) acknowledgement)

/-- Lists the security groups of an instance. -/
def describeBoundGroups (p : Provider) (product instanceId : String) : Run (List (Option String)) :=
  p.ask "DescribeDBSecurityGroups"
    (p.invoke .dcdb "DescribeDBSecurityGroups"
      (.ofMembers [("Product", .string product), ("InstanceId", .string instanceId)]) boundGroups)

end Provision.Provider
