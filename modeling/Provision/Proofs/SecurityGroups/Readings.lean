import Provision.Proofs.Resource.Addressed
import Provision.Proofs.Schema.WellFormed
import Provision.Proofs.SecurityGroups.Enrichment

/-!
# What a query asks for

A query is read three times: when it is checked against its schema, when the requests for its groups are written, and
when its result is given a name. Each time something else decides which of its fields count. All three agree with
`Query.criteria`: the fields that are there and are neither the empty text nor the project zero. A query is checked by
them alone (`Query.check_cases`), a request carries all of them (`Query.carries_body`), and they make the name
(`Query.identity_eq`). Main statement: what a query that is read asks for decides whether anything is sent, and what
(`read_agrees`). Nothing is sent either if there is no address for the requests (`read_misled`).
-/

namespace Provision

open Json Vendor

/-! ## Failures before a request -/

/-- Whether a failure reports two fields that exclude each other. -/
def Failure.isConflict : Failure → Bool
  | .violation _ (.conflict _ _) => true
  | _ => false

/-- Whether a failure reports anything else that cannot be used. -/
def Failure.isInvalid : Failure → Bool
  | .violation _ (.conflict _ _) => false
  | .violation _ _ | .invalid _ => true
  | _ => false

namespace Client

/-- There is no address for the requests to a product: its URL cannot be read, or has no host. -/
def Unaddressed (c : Client) (product : Product) : Prop :=
  (∃ why, c.readUrl (c.url product) = .error why) ∨ ∃ url, c.readUrl (c.url product) = .ok url ∧ url.host = none

/-- Without an address no request can be written, and that is the failure; with one, either none can be written as its
headers or its scheme are no good, or all can. -/
theorem posting_fates (c : Client) (product : Product) :
    (c.Unaddressed product ∧
      ∃ why, ∀ action body timestamp, c.posting product action body timestamp = .error (.invalid why)) ∨
    ¬c.Unaddressed product ∧
      ((∀ action body timestamp, c.posting product action body timestamp = .error .unanswered) ∨
        ∀ action, isHeaderValue action = true → ∀ body timestamp,
          ∃ x, c.posting product action body timestamp = .ok x) := by
  cases hparse : c.readUrl (c.url product) with
  | error why =>
    refine .inl ⟨.inl ⟨why, hparse⟩, .endpoint (c.url product) why, fun action body timestamp => ?_⟩
    simp only [posting, hparse]
  | ok url =>
    cases hhost : url.host with
    | none =>
      refine .inl ⟨.inr ⟨url, hparse, hhost⟩, .hostless (c.url product), fun action body timestamp => ?_⟩
      simp only [posting, hparse, hhost]
    | some name =>
      have haddress : ¬c.Unaddressed product := by
        rintro (⟨why, h⟩ | ⟨other, h, hnone⟩)
        · rw [hparse] at h
          cases h
        · rw [hparse] at h
          cases h
          rw [hhost] at hnone
          cases hnone
      refine .inr ⟨haddress, ?_⟩
      rcases c.posting_cases product with ⟨e, he⟩ | ⟨url, name, region, hx⟩
      · -- the failure is the same for all requests, and that of one of them is not the address
        have hone := he "" .null 0
        have hown : e = .unanswered := by
          simp only [posting, hparse, hhost] at hone
          generalize (if c.region = "" then none else some c.region) = region at hone
          split at hone
          · cases hone
          · cases hone
            rfl
        exact .inl (hown ▸ he)
      · refine .inr fun action ha body timestamp => ?_
        rw [hx, if_pos ha]
        exact ⟨_, rfl⟩

end Client

/-! ## Listings of groups -/

namespace Provider

variable {p : Provider}

/-- The requests for pages, in one attempt, are all for the filter. -/
theorem groupsFrom_grows (p : Provider) (f : GroupFilter) (offset : Nat) :
    (p.groupsFrom f offset).Along
      (Session.Grows fun x => ∃ offset, x.Asks "DescribeSecurityGroups" (f.body offset)) := by
  refine along_groupsFrom (fun offset s => ?_) offset
  obtain ⟨xs, hxs, hends⟩ := (p.attempt_invoke .vpc "DescribeSecurityGroups" (f.body offset) Vendor.groupPage).ensures s
  refine ⟨xs, hxs, fun x hx => ?_⟩
  rcases hends with ⟨rfl, -⟩ | ⟨y, rfl, hposts, -⟩
  · cases hx
  · obtain rfl := List.mem_singleton.1 hx
    exact ⟨offset, hposts.asks⟩

/-- The requests of a listing are all for the filter, however often it is attempted. -/
theorem listing_grows (p : Provider) (f : GroupFilter) :
    (p.listing f).Along (Session.Grows fun x => ∃ offset, x.Asks "DescribeSecurityGroups" (f.body offset)) :=
  (groupsFrom_grows p f 0).retried (Run.waits_grows _ _) p.out p.read

/-- The request for the first page comes before all others. -/
theorem after_groupPage (p : Provider) (f : GroupFilter) (offset : Nat) (s : Session) :
    ∃ ys, (p.groupsFrom f offset s).2.exchanges = ys ++ (p.groupPage f offset s).2.exchanges := by
  rw [groupsFrom]
  rcases p.groupPage f offset s with ⟨e | page, t⟩
  · exact ⟨[], rfl⟩
  · dsimp only
    split
    · obtain ⟨ys, hys, -⟩ := groupsFrom_grows p f (offset + page.length) t
      rcases hrest : p.groupsFrom f (offset + page.length) t with ⟨e | rest, u⟩ <;> rw [hrest] at hys
      · exact ⟨ys, hys⟩
      · exact ⟨ys, hys⟩
    · exact ⟨[], rfl⟩

/-- If requests can be written, each attempt to list groups sends one at least. -/
theorem listGroups_sends (hsent : ∀ body timestamp, ∃ x,
    p.client.posting .vpc "DescribeSecurityGroups" body timestamp = .ok x) (f : GroupFilter) :
    (p.listGroups f).Ensures fun xs _ => xs.reverse ≠ [] := by
  intro s
  obtain ⟨x, hx⟩ := hsent (f.body 0) ((p.paced "DescribeSecurityGroups" s).second p.out)
  have hfirst : (p.groupPage f 0 s).2.exchanges = ⟨x, p.out.reply s.exchanges x⟩ :: s.exchanges := by
    unfold groupPage
    exact (invoke_of_posting Vendor.groupPage hx).2
  obtain ⟨ys, hys⟩ := after_groupPage p f 0 s
  rw [hfirst] at hys
  exact ⟨ys ++ [⟨x, p.out.reply s.exchanges x⟩], by rw [listGroups, hys, List.append_assoc]; rfl, by simp⟩

/-- If no request can be written, an attempt to list groups fails as the first request does, and sends nothing. -/
theorem listGroups_of_error {e : Failure} (hx : ∀ body timestamp,
    p.client.posting .vpc "DescribeSecurityGroups" body timestamp = .error e) (f : GroupFilter) (s : Session) :
    (p.listGroups f s).1 = .error e ∧ (p.listGroups f s).2.exchanges = s.exchanges := by
  obtain ⟨hr, hs⟩ : (p.groupPage f 0 s).1 = .error e ∧ (p.groupPage f 0 s).2.exchanges = s.exchanges := by
    unfold groupPage
    exact invoke_of_error Vendor.groupPage (hx _ _)
  rcases hpage : p.groupPage f 0 s with ⟨r, t⟩
  rw [hpage] at hr hs
  obtain rfl : r = .error e := hr
  rw [listGroups, groupsFrom_of_error hpage]
  exact ⟨rfl, hs⟩

/-- How a listing begins: with the failure that there is no address, or without a request if none can be written, or
with a request. -/
theorem listing_cases (p : Provider) (f : GroupFilter) (s : Session) :
    (p.client.Unaddressed .vpc ∧ ∃ why, (p.listing f s).1 = .error (.invalid why) ∧
      (p.listing f s).2.exchanges = s.exchanges) ∨
    (¬p.client.Unaddressed .vpc ∧ ∃ elapsed,
      (p.listing f s).1 = .error (.timedOut "DescribeSecurityGroups" elapsed .unanswered)) ∨
    ¬p.client.Unaddressed .vpc ∧ ∃ xs, xs ≠ [] ∧ (p.listing f s).2.exchanges = xs ++ s.exchanges := by
  rcases p.client.posting_fates .vpc with ⟨hno, why, hx⟩ | ⟨haddress, hx | hx⟩
  · obtain ⟨hr, hs⟩ := listGroups_of_error (hx _) f s
    have hlist := Run.retried_of_final (Prod.ext hr rfl) (not_transient_error (by simp [Failure.retryable])) p.out
      p.read "DescribeSecurityGroups"
    refine .inl ⟨hno, why, ?_⟩
    rw [listing, ask, hlist]
    exact ⟨rfl, hs⟩
  · have hlist := Run.retried_of_constant (fun t => (listGroups_of_error (hx _) f t).1) p.out p.read
      "DescribeSecurityGroups" s
    exact .inr (.inl ⟨haddress, hlist.timedOut rfl⟩)
  · obtain ⟨repeated, begun, hproceeds⟩ := Run.attempts_proceeds p.out p.read "DescribeSecurityGroups" (p.listGroups f)
      s.now 1 p.read.initialDelay s
    obtain ⟨sent, hsent, hxs⟩ := hproceeds.exchanges (P := fun xs _ => xs ≠ [])
      (listGroups_sends (hx "DescribeSecurityGroups" (by decide)) f)
    refine .inr (.inr ⟨haddress, _, ?_, hxs⟩)
    rw [List.reverse_ne_nil_iff, List.range_succ_eq_map, List.flatMap_cons]
    exact List.append_ne_nil_of_left_ne_nil (hsent 0) _

end Provider

namespace SecurityGroups

/-! ## Criteria -/

/-- Something that a query asks for. -/
inductive Criterion where
  | group (id : String)
  | named (name : String)
  | project (id : Int)
deriving DecidableEq, Repr

namespace Criterion

/-- The group of a criterion, as it stands in the list of groups of a request. -/
def group? : Criterion → Option Json
  | .group id => some (.string id)
  | _ => none

/-- The filter of a criterion, as it stands in the list of filters of a request. -/
def filter? : Criterion → Option Json
  | .group _ => none
  | .named name => some (condition "security-group-name" name)
  | .project id => some (condition "project-id" (Text.Decimal.text id))

/-- The part of a criterion in the name of a result. -/
def segment : Criterion → String
  | .group id => id ++ "-"
  | .named name => name ++ "-"
  | .project id => Text.Decimal.text id

end Criterion

/-- A list as a request has it, which leaves out an empty one. -/
def listed (items : List Json) : Option Json := if items = [] then none else some (.array items)

/-- **A body carries exactly some criteria**: the groups in one list, and all others in another. -/
structure Carries (body : Json) (criteria : List Criterion) : Prop where
  groups : body.get? "SecurityGroupIds" = listed (criteria.filterMap Criterion.group?)
  filters : body.get? "Filters" = listed (criteria.filterMap Criterion.filter?)

namespace Query

variable {q : Query}

/-- **What a query asks for**, in the order of its fields. -/
def criteria (q : Query) : List Criterion :=
  (q.securityGroupId.toList.filter (· ≠ "")).map .group ++ (q.name.toList.filter (· ≠ "")).map .named ++
    (q.projectId.toList.filter (· ≠ 0)).map .project

/-- A query that asks for one group and for something else as well. -/
def Conflicting (q : Query) : Prop :=
  (∃ id, q.securityGroupId = some id ∧ id ≠ "") ∧
    ((∃ name, q.name = some name ∧ name ≠ "") ∨ ∃ id, q.projectId = some id ∧ id ≠ 0)

/-- A query for a name with more than 60 characters. -/
def Overlong (q : Query) : Prop := ∃ name, q.name = some name ∧ 60 < name.length

theorem criteria_eq (q : Query) :
    q.criteria = q.group?.toList.map .group ++ q.name?.toList.map .named ++ q.project?.toList.map .project := by
  rw [criteria, ← Option.toList_filter, ← Option.toList_filter, ← Option.toList_filter]
  rfl

/-- What a query asks for makes the name of its result. -/
theorem identity_eq (q : Query) : q.identity = "securityGroups-" ++ String.join (q.criteria.map Criterion.segment) := by
  rw [criteria_eq]
  unfold identity
  cases q.group? <;> cases q.name? <;> cases q.project? <;>
    simp [Criterion.segment, String.join, String.append_assoc]

/-- What a query asks for is what its requests carry. -/
theorem carries_body (q : Query) (offset : Nat) : Carries (q.filter.body offset) q.criteria where
  groups := by
    have hgroups : q.criteria.filterMap Criterion.group? = (q.group?.map Json.string).toList := by
      rw [criteria_eq]
      cases q.group? <;> cases q.name? <;> cases q.project? <;> rfl
    rw [GroupFilter.get?_body, hgroups, listed]
    simp [filter]
  filters := by
    have hfilters : q.criteria.filterMap Criterion.filter? = q.filter.conditions := by
      rw [criteria_eq, filter, GroupFilter.conditions]
      cases q.group? <;> cases q.name? <;> cases q.project? <;> rfl
    rw [GroupFilter.get?_body, hfilters, listed]
    simp

theorem conflicting_iff : q.Conflicting ↔ q.group? ≠ none ∧ (q.name? ≠ none ∨ q.project? ≠ none) := by
  have hset : ∀ {α : Type} (o : Option α) (p : α → Bool), (∃ a, o = some a ∧ p a = true) ↔ o.filter p ≠ none := by
    intro α o p
    rw [Option.ne_none_iff_exists']
    simp only [Option.filter_eq_some_iff]
  rw [group?, name?, project?, ← hset, ← hset, ← hset]
  simp [Conflicting]

/-- Without a conflict a body carries a group or filters, and never both. -/
theorem exclusive_of_carries {body : Json} (h : ¬q.Conflicting) (hcarries : Carries body q.criteria) :
    body.get? "SecurityGroupIds" = none ∨ body.get? "Filters" = none := by
  rw [hcarries.groups, hcarries.filters, criteria_eq]
  cases hgroup : q.group? with
  | none =>
    left
    cases q.name? <;> cases q.project? <;> rfl
  | some id =>
    right
    have hothers : q.name? = none ∧ q.project? = none := by
      rw [conflicting_iff, hgroup] at h
      simpa using h
    rw [hothers.1, hothers.2]
    rfl

/-! ## The check -/

theorem get?_toJson {name : String} {value : Option Json} (h : (name, value) ∈ [
    ("security_group_id", q.securityGroupId.map Json.string), ("name", q.name.map Json.string),
    ("project_id", q.project?.map Json.int), ("result_output_file", q.outputFile.map Json.string)]) :
    q.toJson.get? name = value :=
  get?_of_present (by simp) h

theorem sets_text {v : Json} {name : String} {o : Option String} (h : v.get? name = o.map Json.string) :
    v.Sets name ↔ ∃ text, o = some text ∧ text ≠ "" := by
  cases o <;> simp [Sets, h, Json.Counts]

theorem sets_group : q.toJson.Sets "security_group_id" ↔ ∃ id, q.securityGroupId = some id ∧ id ≠ "" :=
  sets_text (get?_toJson (by simp))

theorem get?_name (q : Query) : q.toJson.get? "name" = q.name.map Json.string := get?_toJson (by simp)

theorem sets_name : q.toJson.Sets "name" ↔ ∃ name, q.name = some name ∧ name ≠ "" :=
  sets_text q.get?_name

theorem sets_project : q.toJson.Sets "project_id" ↔ ∃ id, q.projectId = some id ∧ id ≠ 0 := by
  have hvalue : q.toJson.get? "project_id" = q.project?.map Json.int := get?_toJson (by simp)
  simp only [Sets, hvalue, project?]
  cases q.projectId <;> simp [Option.filter, Json.Counts]

/-- All members of a query are fields. -/
theorem mem_fields_of_get? {name : String} {value : Json} (h : q.toJson.get? name = some value) :
    ∃ f ∈ schema.fields, f.name = name := by
  rw [toJson, get?_present (by simp)] at h
  have hname := mem_names_of_find.1 (Option.isSome_of_mem (Option.join_eq_some_iff.1 h))
  simp only [List.map_cons, List.map_nil, List.mem_cons, List.not_mem_nil, or_false] at hname
  rcases hname with rfl | rfl | rfl | rfl <;> simp [schema]

theorem not_breaks_unsupported {name : String} : ¬schema.Breaks q.toJson (.unsupported name) := by
  intro h
  cases h with
  | unsupported object mem counts unknown =>
    obtain ⟨value, hvalue⟩ := Option.isSome_iff_exists.1 (mem_names_of_find.2 (List.mem_map_of_mem mem))
    obtain ⟨f, hf, hname⟩ := mem_fields_of_get? (q := q) (by rw [object]; exact hvalue)
    exact unknown f hf hname

/-- A query that asks for one group and for something else is rejected for that, whatever else is wrong with it. -/
theorem violation?_of_conflicting (h : q.Conflicting) :
    ∃ other, schema.violation? q.toJson = some (.conflict "security_group_id" other) := by
  obtain ⟨members, hmembers⟩ : ∃ members, q.toJson = .object members := ⟨_, rfl⟩
  obtain ⟨f, rest, hfields, hname, hconflicts⟩ : ∃ f rest, schema.fields = f :: rest ∧
    f.name = "security_group_id" ∧ f.conflicts = ["name", "project_id"] := ⟨_, _, rfl, rfl, rfl⟩
  have hset : isSet (find f.name members) = true := by
    have hgroup := isSet_iff.2 (sets_group.2 h.1)
    rwa [hmembers, ← hname] at hgroup
  obtain ⟨other, hother⟩ : ∃ other, f.conflict? members = some other := by
    rw [← Option.isSome_iff_exists, Schema.Field.conflict?, hconflicts, List.find?_isSome]
    rcases h.2 with hnamed | hproject
    · have hboth := isSet_iff.2 (sets_name.2 hnamed)
      rw [hmembers] at hboth
      exact ⟨"name", by simp, hboth⟩
    · have hboth := isSet_iff.2 (sets_project.2 hproject)
      rw [hmembers] at hboth
      exact ⟨"project_id", by simp, hboth⟩
  have hunsupported : schema.unsupported? members = none := by
    cases hu : schema.unsupported? members with
    | none => rfl
    | some name => exact absurd (hmembers ▸ Schema.breaks_of_unsupported? hu) not_breaks_unsupported
  have hfirst : f.violation? members = some (.conflict f.name other) := by
    simp only [Schema.Field.violation?, hset, hother, if_true]
  refine ⟨other, ?_⟩
  rw [hmembers, Schema.violation?_object, hunsupported, hfields, List.findSome?_cons, hfirst, hname, Option.map_none,
    Option.none_or]

/-- Otherwise only its name can be wrong. -/
theorem breaks_of_not_conflicting {why : Violation} (h : ¬q.Conflicting) (hbreaks : schema.Breaks q.toJson why) :
    q.Overlong ∧ ∃ actual, why = .length "name" 1 60 actual := by
  cases hbreaks with
  | notAnObject other => exact absurd rfl (other _)
  | unsupported object mem counts unknown =>
    exact absurd (.unsupported object mem counts unknown) not_breaks_unsupported
  | required mem required unset =>
    simp only [schema, List.mem_cons, List.not_mem_nil, or_false] at mem
    rcases mem with rfl | rfl | rfl | rfl | rfl <;> cases required
  | conflict mem set declared both =>
    refine absurd ?_ h
    simp only [schema, List.mem_cons, List.not_mem_nil, or_false] at mem
    rcases mem with rfl | rfl | rfl | rfl | rfl <;>
      simp only [List.mem_cons, List.not_mem_nil, or_false] at declared
    · rcases declared with rfl | rfl
      · exact ⟨sets_group.1 set, .inl (sets_name.1 both)⟩
      · exact ⟨sets_group.1 set, .inr (sets_project.1 both)⟩
    · subst declared
      exact ⟨sets_group.1 both, .inl (sets_name.1 set)⟩
    · subst declared
      exact ⟨sets_group.1 both, .inr (sets_project.1 set)⟩
  | length mem bounds value set out =>
    simp only [schema, List.mem_cons, List.not_mem_nil, or_false] at mem
    rcases mem with rfl | rfl | rfl | rfl | rfl <;> cases bounds
    rw [get?_name] at value
    obtain ⟨name, hname, hvalue⟩ := Option.map_eq_some_iff.1 value
    obtain rfl := Json.string.inj hvalue
    have hpos : name.length ≠ 0 := fun hzero => set (String.length_eq_zero_iff.1 hzero)
    exact ⟨⟨name, hname, by omega⟩, name.length, rfl⟩

theorem breaks_of_overlong (h : q.Overlong) : ∃ why, schema.Breaks q.toJson why := by
  obtain ⟨name, hname, hlong⟩ := h
  obtain ⟨f, hf, hfield, hbounds⟩ : ∃ f ∈ schema.fields, f.name = "name" ∧ f.length = some (1, 60) :=
    ⟨_, .tail _ (.head _), rfl, rfl⟩
  have hvalue : q.toJson.get? f.name = some (.string name) := by
    rw [hfield, get?_name, hname]
    rfl
  have hne : name ≠ "" := by
    rintro rfl
    exact absurd hlong (by decide)
  exact ⟨_, .length hf hbounds hvalue hne (.inr hlong)⟩

/-- **What the check says of a query**: first of all that it asks for too much, then that its name is too long. -/
theorem check_cases (q : Query) :
    (q.Conflicting ∧ ∃ other, q.check = .error (.violation typeName (.conflict "security_group_id" other))) ∨
    (¬q.Conflicting ∧ q.Overlong ∧ ∃ actual, q.check = .error (.violation typeName (.length "name" 1 60 actual))) ∨
    (¬q.Conflicting ∧ ¬q.Overlong ∧ q.check = .ok ()) := by
  by_cases hconflict : q.Conflicting
  · obtain ⟨other, hother⟩ := violation?_of_conflicting hconflict
    exact .inl ⟨hconflict, other, by rw [check, hother]⟩
  · refine .inr ?_
    cases hwhy : schema.violation? q.toJson with
    | some why =>
      obtain ⟨hlong, actual, rfl⟩ := breaks_of_not_conflicting hconflict (Schema.breaks_of_violation? hwhy)
      exact .inl ⟨hconflict, hlong, actual, by rw [check, hwhy]⟩
    | none =>
      exact .inr ⟨hconflict, fun hlong => (breaks_of_overlong hlong).elim fun _ h => h.violation?_ne_none hwhy,
        by rw [check, hwhy]⟩

end Query

/-! ## The requests of a query -/

section

variable {p : Provider} {q : Query} {s : Session}

/-- An exchange that asks for groups asks for those of a query. -/
def OfQuery (q : Query) (x : Exchange) : Prop :=
  x.posting.action = "DescribeSecurityGroups" → Carries x.posting.body q.criteria

theorem ofQuery_of_asks {x : Exchange} (h : ∃ offset, x.Asks "DescribeSecurityGroups" (q.filter.body offset)) :
    OfQuery q x := by
  obtain ⟨offset, -, hbody⟩ := h
  intro _
  rw [hbody]
  exact q.carries_body offset

theorem enrich_grows (p : Provider) (q : Query) (g : ListedGroup) :
    (enrich p g).Along (Session.Grows (OfQuery q)) := by
  have hcall : (p.describeUsage (g.id.getD "")).Along (Session.Grows (OfQuery q)) := by
    intro s
    refine ((p.attempt_invoke .vpc "DescribeSecurityGroupAssociationStatistics" (usageQuestion (g.id.getD ""))
      usages).retried p.out p.read _).grows (fun xs r h x hx haction => ?_) s
    rw [(h.1 x hx).asks.1] at haction
    exact absurd haction (by decide)
  exact hcall.bind fun _ => Run.along_ofExcept _

/-- What follows on the listing of the groups. -/
theorem gather_grows (p : Provider) (q : Query) (s : Session) :
    (p.listing q.filter s).2.Grows (OfQuery q) (gather p q s).2 := by
  rcases hl : p.listing q.filter s with ⟨e | groups, t⟩
  · have hg : gather p q s = (.error e, t) := Run.bind_error hl
    rw [hg]
    exact Session.grows_refl _ t
  · have hg : gather p q s = _ := Run.bind_ok hl
    rw [hg]
    exact Run.Along.bind (Run.Along.inFlight (enrich_grows p q) p.out groups) (fun _ => Run.along_pure _) t

theorem id_of_gather {result : Result} {t : Session} (h : gather p q s = (.ok result, t)) : result.id = q.identity := by
  rcases hl : p.listing q.filter s with ⟨e | groups, u⟩
  · have hg : gather p q s = (.error e, u) := Run.bind_error hl
    rw [hg] at h
    cases h
  · have hg : gather p q s = _ := Run.bind_ok hl
    rw [hg] at h
    rcases hi : Run.inFlight p.out (enrich p) groups u with ⟨e | entries, v⟩
    · rw [Run.bind_error hi] at h
      cases h
    · rw [Run.bind_ok hi] at h
      cases h
      rfl

section Checked

variable (hcheck : q.check = .ok ())
include hcheck

/-- To write the result to a file is no request, and leaves the result as it is. -/
theorem read_of_checked : (read p q s).2.exchanges = (gather p q s).2.exchanges ∧
    ∀ result, (read p q s).1 = .ok result → (gather p q s).1 = .ok result := by
  rcases hg : gather p q s with ⟨e | result, t⟩
  · rw [read_of_gather_error hcheck hg]
    exact ⟨rfl, fun _ h => h⟩
  · cases houtput : q.output? with
    | none =>
      rw [read_of_nowhere hcheck hg houtput]
      exact ⟨rfl, fun _ h => h⟩
    | some path =>
      rw [read_of_somewhere hcheck hg houtput, Run.bind_apply, Run.writeFile]
      rcases t.files.save path result.list.pretty with ⟨after, _ | _⟩
      · exact ⟨rfl, fun _ h => by cases h⟩
      · exact ⟨rfl, fun _ h => h⟩

theorem read_of_unlisted {e : Failure} {t : Session} (h : p.listing q.filter s = (.error e, t)) :
    read p q s = (.error e, t) := read_of_gather_error hcheck (Run.bind_error h)

end Checked

/-- **How the reading of a query begins**: it fails in the check, or without an address, or as no request can be
written; or groups are asked for, and all that follows comes after that. -/
inductive Begins (p : Provider) (q : Query) (s : Session) : Prop
  | conflicting (other : String) (conflicting : q.Conflicting)
      (result : read p q s = (.error (.violation typeName (.conflict "security_group_id" other)), s))
  | overlong (actual : Nat) (compatible : ¬q.Conflicting) (overlong : q.Overlong)
      (result : read p q s = (.error (.violation typeName (.length "name" 1 60 actual)), s))
  | unaddressed (why : Invalid) (compatible : ¬q.Conflicting) (unaddressed : p.client.Unaddressed .vpc)
      (result : (read p q s).1 = .error (.invalid why)) (unsent : (read p q s).2.exchanges = s.exchanges)
  | unwritten (elapsed : Nat) (compatible : ¬q.Conflicting) (short : ¬q.Overlong)
      (addressed : ¬p.client.Unaddressed .vpc)
      (result : (read p q s).1 = .error (.timedOut "DescribeSecurityGroups" elapsed .unanswered))
  | asked (later first : List Exchange) (compatible : ¬q.Conflicting) (short : ¬q.Overlong)
      (addressed : ¬p.client.Unaddressed .vpc) (sends : first ≠ [])
      (asks : ∀ x ∈ first, x.posting.action = "DescribeSecurityGroups")
      (exchanges : (read p q s).2.exchanges = later ++ (first ++ s.exchanges))

theorem read_begins (p : Provider) (q : Query) (s : Session) : Begins p q s := by
  have rejected : ∀ e, q.check = .error e → read p q s = (.error e, s) := by
    intro e he
    exact Run.bind_error (by rw [he]; rfl)
  rcases q.check_cases with ⟨hconflict, other, hc⟩ | ⟨hno, hlong, actual, hc⟩ | ⟨hno, hshort, hc⟩
  · exact .conflicting other hconflict (rejected _ hc)
  · exact .overlong actual hno hlong (rejected _ hc)
  · rcases hl : p.listing q.filter s with ⟨r, t⟩
    have hcases := p.listing_cases q.filter s
    rw [hl] at hcases
    rcases hcases with ⟨hua, why, rfl, ht⟩ | ⟨haddress, elapsed, rfl⟩ | ⟨haddress, first, hne, hfirst⟩
    · have hread := read_of_unlisted hc hl
      exact .unaddressed why hno hua (by rw [hread]) (by rw [hread]; exact ht)
    · exact .unwritten elapsed hno hshort haddress (by rw [read_of_unlisted hc hl])
    · obtain ⟨later, hlater, -⟩ := gather_grows p q s
      obtain ⟨xs, hxs, hasks⟩ := p.listing_grows q.filter s
      rw [hl] at hlater hxs
      obtain rfl : xs = first := List.append_cancel_right (hxs.symm.trans hfirst)
      refine .asked later xs hno hshort haddress hne (fun x hx => ?_) ?_
      · obtain ⟨offset, haction, -⟩ := hasks x hx
        exact haction
      · rw [(read_of_checked hc).1, hlater, ← hfirst]

/-- **A failure before a request** is the conflict, or says that something else is invalid, or that no request can be
written. -/
theorem kind_of_unsent {e : Failure} (he : (read p q s).1 = .error e)
    (hunsent : (read p q s).2.exchanges = s.exchanges) :
    (q.Conflicting ∧ e.isConflict = true ∧ e.isInvalid = false) ∨
    (¬q.Conflicting ∧ (q.Overlong ∨ p.client.Unaddressed .vpc) ∧ e.isConflict = false ∧ e.isInvalid = true) ∨
    (¬q.Conflicting ∧ ¬(q.Overlong ∨ p.client.Unaddressed .vpc) ∧ e.isConflict = false ∧ e.isInvalid = false) := by
  cases read_begins p q s with
  | conflicting other conflicting result =>
    rw [result] at he
    cases he
    exact .inl ⟨conflicting, rfl, rfl⟩
  | overlong actual compatible overlong result =>
    rw [result] at he
    cases he
    exact .inr (.inl ⟨compatible, .inl overlong, rfl, rfl⟩)
  | unaddressed why compatible unaddressed result unsent =>
    rw [result] at he
    cases he
    exact .inr (.inl ⟨compatible, .inr unaddressed, rfl, rfl⟩)
  | unwritten elapsed compatible short addressed result =>
    rw [result] at he
    cases he
    exact .inr (.inr ⟨compatible, not_or.2 ⟨short, addressed⟩, rfl, rfl⟩)
  | asked later first compatible short addressed sends asks exchanges =>
    rw [exchanges, ← List.append_assoc, List.append_left_eq_self, List.append_eq_nil_iff] at hunsent
    exact absurd hunsent.2 sends

/-- What is wrong with a query or with the address is found before a request is sent. -/
theorem exists_unsent (h : q.Conflicting ∨ q.Overlong ∨ p.client.Unaddressed .vpc) :
    ∃ e, (read p q s).1 = .error e ∧ (read p q s).2.exchanges = s.exchanges := by
  cases read_begins p q s with
  | conflicting other conflicting result => exact ⟨_, by rw [result], by rw [result]⟩
  | overlong actual compatible overlong result => exact ⟨_, by rw [result], by rw [result]⟩
  | unaddressed why compatible unaddressed result unsent => exact ⟨_, result, unsent⟩
  | unwritten elapsed compatible short addressed result =>
    exact absurd h (not_or.2 ⟨compatible, not_or.2 ⟨short, addressed⟩⟩)
  | asked later first compatible short addressed sends asks exchanges =>
    exact absurd h (not_or.2 ⟨compatible, not_or.2 ⟨short, addressed⟩⟩)

theorem read_conflict_iff : (∃ e, (read p q s).1 = .error e ∧ e.isConflict = true ∧
    (read p q s).2.exchanges = s.exchanges) ↔ q.Conflicting := by
  constructor
  · rintro ⟨e, he, hkind, hunsent⟩
    rcases kind_of_unsent he hunsent with ⟨hconflict, -⟩ | ⟨-, -, hother, -⟩ | ⟨-, -, hother, -⟩
    · exact hconflict
    · exact absurd hkind (by simp [hother])
    · exact absurd hkind (by simp [hother])
  · intro h
    obtain ⟨e, he, hunsent⟩ := exists_unsent (p := p) (s := s) (.inl h)
    rcases kind_of_unsent he hunsent with ⟨-, hkind, -⟩ | ⟨hno, -⟩ | ⟨hno, -⟩
    · exact ⟨e, he, hkind, hunsent⟩
    · exact absurd h hno
    · exact absurd h hno

theorem read_invalid_iff : (∃ e, (read p q s).1 = .error e ∧ e.isInvalid = true ∧
    (read p q s).2.exchanges = s.exchanges) ↔ ¬q.Conflicting ∧ (q.Overlong ∨ p.client.Unaddressed .vpc) := by
  constructor
  · rintro ⟨e, he, hkind, hunsent⟩
    rcases kind_of_unsent he hunsent with ⟨-, -, hother⟩ | ⟨hno, hwrong, -⟩ | ⟨-, -, -, hother⟩
    · exact absurd hkind (by simp [hother])
    · exact ⟨hno, hwrong⟩
    · exact absurd hkind (by simp [hother])
  · rintro ⟨hno, hwrong⟩
    obtain ⟨e, he, hunsent⟩ := exists_unsent (s := s) (.inr hwrong)
    rcases kind_of_unsent he hunsent with ⟨hconflict, -⟩ | ⟨-, -, -, hkind⟩ | ⟨-, hright, -⟩
    · exact absurd hconflict hno
    · exact ⟨e, he, hkind, hunsent⟩
    · exact absurd hwrong hright

theorem read_grows (p : Provider) (q : Query) (s : Session) : s.Grows (OfQuery q) (read p q s).2 := by
  cases hc : q.check with
  | error e =>
    have hread : read p q s = (.error e, s) := Run.bind_error (by rw [hc]; rfl)
    rw [hread]
    exact Session.grows_refl _ s
  | ok u =>
    have hlisting := (p.listing_grows q.filter s).mono fun x => ofQuery_of_asks (q := q)
    obtain ⟨xs, hxs, hQ⟩ := hlisting.trans (gather_grows p q s)
    exact ⟨xs, (read_of_checked hc).1.trans hxs, hQ⟩

/-- A result has the name of its query, and is made of answers. -/
theorem of_read_ok {result : Result} (h : (read p q s).1 = .ok result) : result.id = q.identity ∧
    ∃ later first, first ≠ [] ∧ (∀ x ∈ first, x.posting.action = "DescribeSecurityGroups") ∧
      (read p q s).2.exchanges = later ++ (first ++ s.exchanges) := by
  cases read_begins p q s with
  | conflicting other conflicting result =>
    rw [result] at h
    cases h
  | overlong actual compatible overlong result =>
    rw [result] at h
    cases h
  | unaddressed why compatible unaddressed result unsent =>
    rw [result] at h
    cases h
  | unwritten elapsed compatible short addressed result =>
    rw [result] at h
    cases h
  | asked later first compatible short addressed sends asks exchanges =>
    have hcheck : q.check = .ok () := by
      rcases q.check_cases with ⟨hconflict, -⟩ | ⟨-, hlong, -⟩ | ⟨-, -, hc⟩
      · exact absurd hconflict compatible
      · exact absurd hlong short
      · exact hc
    have hgather := (read_of_checked hcheck).2 _ h
    exact ⟨id_of_gather (Prod.ext hgather rfl), later, first, sends, asks, exchanges⟩

end

/-- **What a query asks for decides how it is read.** It is rejected for a conflict, and nothing is sent, if and only if
it asks for one group and for a name or a project. Anything else is found to be invalid before a request is sent if and
only if there is no conflict and the name has more than 60 characters or there is no address for the requests. In all
other cases each request for groups carries exactly what the query asks for, a group or filters and never both; the
name of the result has exactly these parts, and groups were asked for if there is a result. -/
theorem read_agrees (p : Provider) (q : Query) (s : Session) :
    ((∃ e, (read p q s).1 = .error e ∧ e.isConflict = true ∧ (read p q s).2.exchanges = s.exchanges) ↔
      q.Conflicting) ∧
    ((∃ e, (read p q s).1 = .error e ∧ e.isInvalid = true ∧ (read p q s).2.exchanges = s.exchanges) ↔
      ¬q.Conflicting ∧ (q.Overlong ∨ p.client.Unaddressed .vpc)) ∧
    q.identity = "securityGroups-" ++ String.join (q.criteria.map Criterion.segment) ∧
    ∃ xs, (read p q s).2.exchanges = xs ++ s.exchanges ∧
      (∀ x ∈ xs, x.posting.action = "DescribeSecurityGroups" → Carries x.posting.body q.criteria ∧
        (x.posting.body.get? "SecurityGroupIds" = none ∨ x.posting.body.get? "Filters" = none)) ∧
      ∀ result, (read p q s).1 = .ok result →
        result.id = q.identity ∧ ∃ x ∈ xs, x.posting.action = "DescribeSecurityGroups" := by
  refine ⟨read_conflict_iff, read_invalid_iff, q.identity_eq, ?_⟩
  obtain ⟨xs, hxs, hquery⟩ := read_grows p q s
  refine ⟨xs, hxs, fun x hx haction => ⟨hquery x hx haction, ?_⟩, fun result hresult => ?_⟩
  · by_cases hconflict : q.Conflicting
    · obtain ⟨-, -, -, hunsent⟩ := read_conflict_iff.2 hconflict
      rw [List.append_left_eq_self.1 (hxs.symm.trans hunsent)] at hx
      cases hx
    · exact Query.exclusive_of_carries hconflict (hquery x hx haction)
  · obtain ⟨hid, later, first, hne, hasks, hexchanges⟩ := of_read_ok hresult
    obtain ⟨x, hx⟩ := List.exists_mem_of_ne_nil first hne
    rw [← List.append_assoc] at hexchanges
    rw [List.append_cancel_right (hxs.symm.trans hexchanges)]
    exact ⟨hid, x, List.mem_append_right _ hx, hasks x hx⟩

/-- A provider whose requests go to an endpoint that is no URL. -/
def misled : Provider where
  client := { Client.plain with endpoint := some "not a url" }
  out := (Provider.plain fun _ _ => .closed).out

theorem misled_unaddressed : misled.client.Unaddressed .vpc := by
  have unread : (Url.parse "not a url/").toOption = none := by decide +kernel
  have hurl : misled.client.url .vpc = "not a url/" := by decide
  rw [Client.Unaddressed, hurl]
  cases hp : Url.parse "not a url/" with
  | error why => exact .inl ⟨why, hp⟩
  | ok url => simp [hp, Except.toOption] at unread

/-- **The fields of a query are not all that is found to be invalid before a request is sent**: an endpoint that is no
URL is found as well, with a query for a name of five characters. -/
theorem read_misled :
    ¬((∃ e, (read misled { name := some "group" } {}).1 = .error e ∧ e.isInvalid = true ∧
        (read misled { name := some "group" } {}).2.exchanges = []) ↔
      ¬Query.Conflicting { name := some "group" } ∧ Query.Overlong { name := some "group" }) := by
  intro h
  have hcompatible : ¬Query.Conflicting { name := some "group" } := by
    rintro ⟨⟨id, hid, -⟩, -⟩
    cases hid
  obtain ⟨-, name, hname, hlong⟩ := h.1 (read_invalid_iff.2 ⟨hcompatible, .inr misled_unaddressed⟩)
  cases hname
  exact absurd hlong (by decide)

end SecurityGroups

end Provision
