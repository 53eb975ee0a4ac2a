import Provision.SecurityGroups.Query
import Provision.Session.InFlight

/-!
# Reading security groups

A query is checked, the groups that it asks for are listed, and each gets the number of its uses; several of these
questions are under way at a time. The result has one record for each group, in the order of the listing. If the query
names a file, the records are written to it.
-/

namespace Provision

namespace SecurityGroups

/-- What the result says about one group. -/
structure Entry where
  id : String
  name : String
  description : String
  createTime : String
  useCount : Nat
  projectId : Int
deriving DecidableEq, Repr

/-- An entry as a document. -/
def Entry.toJson (e : Entry) : Json :=
  .object [
    ("id", .string e.id),
    ("name", .string e.name),
    ("description", .string e.description),
    ("create_time", .string e.createTime),
    ("be_associate_count", .int e.useCount),
    ("project_id", .int e.projectId)]

/-- The result of a query: what it is called, and the groups. -/
structure Result where
  id : String
  entries : List Entry
deriving DecidableEq, Repr

/-- The groups of a result as a document. -/
def Result.list (r : Result) : Json := .array (r.entries.map Entry.toJson)

/-- A result as a document. -/
def Result.toJson (r : Result) : Json := .object [("id", .string r.id), ("security_groups", r.list)]

/-- The number of uses of a group in an answer: that of the first record of the group. -/
def useCount (id : String) (usages : List Vendor.Usage) : Nat :=
  ((usages.find? (·.id == some id)).map Vendor.Usage.bound).getD 0

/-- The entry of a listed group with a number of uses; the project has to be a number. -/
def entry (g : Vendor.ListedGroup) (count : Nat) : Except Failure Entry :=
  match Text.Decimal.readInt64 (g.projectId.getD "").toList with
  | .ok project =>
    .ok ⟨g.id.getD "", g.name.getD "", g.description.getD "", g.createdTime.getD "", count, project⟩
  | .error why => .error (.invalid (.projectId (g.id.getD "") why))

/-- Asks for the uses of a group and makes its entry. -/
def enrich (p : Provider) (g : Vendor.ListedGroup) : Run Entry := do
  let usages ← p.describeUsage (g.id.getD "")
  .ofExcept (entry g (useCount (g.id.getD "") usages))

/-- The result of a query that fits its schema. -/
def gather (p : Provider) (q : Query) : Run Result := do
  let groups ← p.ask "DescribeSecurityGroups" (p.listGroups q.filter)
  let entries ← Run.inFlight p.out (enrich p) groups
  pure ⟨q.identity, entries⟩

end SecurityGroups

namespace Run

/-- Writes a document to the file of a path, in its indented form. -/
def writeFile (path : String) (v : Json) : Run Unit := fun s =>
  match s.files.save path v.pretty with
  | (files, true) => (.ok (), { s with files := files })
  | (files, false) => (.error (.unwritten path "the file cannot be written"), { s with files := files })

end Run

namespace SecurityGroups

/-- The result of a query, which is also written to the file that the query names. -/
def read (p : Provider) (q : Query) : Run Result := do
  .ofExcept q.check
  let result ← gather p q
  match q.output? with
  | some path => do
    Run.writeFile path result.list
    pure result
  | none => pure result

end SecurityGroups

end Provision
