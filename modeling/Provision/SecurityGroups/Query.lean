import Provision.Schema.Validation
import Provision.Json.Reading
import Provision.Vendor.Groups

/-!
# Queries for security groups

A query asks for one group, or for the groups of a name or a project, and may name a file for the result. An empty
text asks for nothing, and neither does the project zero. The identity of a query names what it asks for.
-/

namespace Provision.SecurityGroups

open Provision.Json

/-- A query. -/
structure Query where
  securityGroupId : Option String := none
  name : Option String := none
  projectId : Option Int := none
  outputFile : Option String := none
deriving DecidableEq, Repr, Inhabited

/-- The name of the data source. -/
def typeName : String := "tencentcloud_security_groups"

/-- The fields of a query and of its result. -/
def schema : Schema where
  typeName := typeName
  description := "Use this data source to query detailed information of security groups"
  fields := [
    { name := "security_group_id", kind := .string, presence := .optional,
      description := "ID of the security group to be queried.", conflicts := ["name", "project_id"] },
    { name := "name", kind := .string, presence := .optional,
      description := "Name of the security group to be queried.", conflicts := ["security_group_id"],
      length := some (1, 60) },
    { name := "project_id", kind := .int, presence := .optional,
      description := "Project ID of the security group to be queried. `0` means no project filter.",
      conflicts := ["security_group_id"] },
    { name := "result_output_file", kind := .string, presence := .optional, description := "Used to save results." },
    { name := "security_groups", kind := .objectList, presence := .computed,
      description := "Information list of security group." }]

namespace Query

/-- How a query is read. -/
def record : Record Query where
  title := "struct SecurityGroupsQuery"
  blank := {}
  fields := [
    .keeping "security_group_id" (.option .text) fun v q => { q with securityGroupId := v },
    .keeping "name" (.option .text) fun v q => { q with name := v },
    .keeping "project_id" (.option .int64) fun v q => { q with projectId := v },
    .keeping "result_output_file" (.option .text) fun v q => { q with outputFile := v }]

/-- The group that is asked for. -/
def group? (q : Query) : Option String := q.securityGroupId.filter (· ≠ "")

/-- The name that is asked for. -/
def name? (q : Query) : Option String := q.name.filter (· ≠ "")

/-- The project that is asked for. -/
def project? (q : Query) : Option Int := q.projectId.filter (· ≠ 0)

/-- The file for the result. -/
def output? (q : Query) : Option String := q.outputFile.filter (· ≠ "")

/-- A query as a document. -/
def toJson (q : Query) : Json :=
  .ofMembers (present [
    ("security_group_id", q.securityGroupId.map .string),
    ("name", q.name.map .string),
    ("project_id", q.project?.map Json.int),
    ("result_output_file", q.outputFile.map .string)])

/-- What the result of a query is called: each thing that is asked for has its part. -/
def identity (q : Query) : String :=
  "securityGroups-" ++ (match q.group? with
    | some id => id ++ "-"
    | none => "") ++ (match q.name? with
    | some name => name ++ "-"
    | none => "") ++ (match q.project? with
    | some id => Text.Decimal.text id
    | none => "")

/-- The groups that are listed for a query. -/
def filter (q : Query) : Vendor.GroupFilter := ⟨q.group?, q.name?, q.project?⟩

/-- A query against its schema. -/
def check (q : Query) : Except Failure Unit :=
  match schema.violation? q.toJson with
  | some why => .error (.violation typeName why)
  | none => .ok ()

end Query

end Provision.SecurityGroups
