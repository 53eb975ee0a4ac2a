import Provision.Vendor.Basic

/-!
# Security groups of networks

The actions that list security groups page by page and count what each is bound to.
-/

namespace Provision.Vendor

open Provision.Json

/-- A security group that is listed. The project is a decimal number in a text. -/
structure ListedGroup where
  id : Option String := none
  name : Option String := none
  description : Option String := none
  projectId : Option String := none
  isDefault : Option Bool := none
  createdTime : Option String := none
  updateTime : Option String := none
deriving DecidableEq, Repr

/-- How a security group is listed. -/
def listedGroup : Record ListedGroup where
  title := "struct SecurityGroup"
  blank := {}
  fields := [
    text "SecurityGroupId" fun v g => { g with id := v },
    text "SecurityGroupName" fun v g => { g with name := v },
    text "SecurityGroupDesc" fun v g => { g with description := v },
    text "ProjectId" fun v g => { g with projectId := v },
    .keeping "IsDefault" (.option .bool) fun v g => { g with isDefault := v },
    text "CreatedTime" fun v g => { g with createdTime := v },
    text "UpdateTime" fun v g => { g with updateTime := v }]

/-- The answer with one page of security groups. -/
def groupPage : Record (List ListedGroup) where
  title := "struct DescribeSecurityGroupsResponse"
  blank := []
  fields := [
    .checked "TotalCount" (.option .nat64),
    .keeping "SecurityGroupSet" (.list listedGroup.reading) fun v _ => v,
    requestId]

/-- How often a security group is used, by kind of user. -/
structure Usage where
  id : Option String := none
  machines : Nat := 0
  databases : Nat := 0
  interfaces : Nat := 0
  balancers : Nat := 0
deriving DecidableEq, Repr

/-- How often a group is used by anything that is bound to it. -/
def Usage.bound (u : Usage) : Nat := u.machines + u.interfaces + u.databases + u.balancers

/-- How the usage of a group is listed. -/
def usage : Record Usage where
  title := "struct SecurityGroupAssociationStatistics"
  blank := {}
  fields := [
    text "SecurityGroupId" fun v u => { u with id := v },
    .keeping "CVM" .nat64 fun v u => { u with machines := v },
    .keeping "CDB" .nat64 fun v u => { u with databases := v },
    .keeping "ENI" .nat64 fun v u => { u with interfaces := v },
    .checked "SG" .nat64,
    .keeping "CLB" .nat64 fun v u => { u with balancers := v },
    .checked "TotalCount" .nat64]

/-- The answer with the usage of groups. -/
def usages : Record (List Usage) where
  title := "struct DescribeSecurityGroupAssociationStatisticsResponse"
  blank := []
  fields := [.keeping "SecurityGroupAssociationStatisticsSet" (.list usage.reading) fun v _ => v, requestId]

/-- Which security groups are listed: one, or those of a name or a project. -/
structure GroupFilter where
  id : Option String := none
  name : Option String := none
  projectId : Option Int := none
deriving DecidableEq, Repr

/-- The most groups of one page. -/
def pageLimit : Nat := 100

/-- A condition on the groups of a listing. -/
def condition (name value : String) : Json :=
  .ofMembers [("Name", .string name), ("Values", .array [.string value])]

/-- The conditions of a filter. -/
def GroupFilter.conditions (f : GroupFilter) : List Json :=
  (f.name.map (condition "security-group-name")).toList ++
    (f.projectId.map fun id => condition "project-id" (Text.Decimal.text id)).toList

/-- The body of the request for the page that begins after `offset` groups. An empty list is not sent. -/
def GroupFilter.body (f : GroupFilter) (offset : Nat) : Json :=
  let items (vs : List Json) : Option Json := if vs = [] then none else some (.array vs)
  .ofMembers (Json.present [
    ("SecurityGroupIds", items (f.id.map Json.string).toList),
    ("Filters", items f.conditions),
    ("Offset", some (.string (Text.Decimal.text offset))),
    ("Limit", some (.string (Text.Decimal.text pageLimit)))])

end Provision.Vendor

namespace Provision.Provider

open Provision.Vendor

/-- The page of security groups that begins after `offset` groups, in one attempt. -/
def groupPage (p : Provider) (f : GroupFilter) (offset : Nat) : Run (List ListedGroup) :=
  p.invoke .vpc "DescribeSecurityGroups" (f.body offset) Vendor.groupPage

/-- The security groups after the first `offset` ones, page by page in one attempt; a page that is not full is the
last one. A listing does not go on beyond what 64 bits count. -/
def groupsFrom (p : Provider) (f : GroupFilter) (offset : Nat) : Run (List ListedGroup) := fun s =>
  match p.groupPage f offset s with
  | (.error e, s) => (.error e, s)
  | (.ok page, s) =>
    if pageLimit ≤ page.length ∧ offset + page.length ≤ Text.Decimal.maxNat64 then
      match groupsFrom p f (offset + page.length) s with
      | (.error e, s) => (.error e, s)
      | (.ok rest, s) => (.ok (page ++ rest), s)
    else (.ok page, s)
termination_by Text.Decimal.maxNat64 - offset
decreasing_by
  rename_i h
  simp only [pageLimit] at h
  omega

/-- All security groups of a filter, in one attempt. -/
def listGroups (p : Provider) (f : GroupFilter) : Run (List ListedGroup) := p.groupsFrom f 0

/-- The usage of one group. -/
def describeUsage (p : Provider) (id : String) : Run (List Usage) :=
  p.ask "DescribeSecurityGroupAssociationStatistics"
    (p.invoke .vpc "DescribeSecurityGroupAssociationStatistics"
      (.ofMembers [("SecurityGroupIds", .array [.string id])]) usages)

end Provision.Provider
