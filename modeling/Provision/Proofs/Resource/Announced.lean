import Mathlib.Data.List.Nodup
import Provision.Proofs.Resource.Addressed

/-!
# What the plan of a creation announces

The plan of a creation lists the fields that count as set. The request that creates the resource has one member for
each of them and no other, under the name that the field has in requests (`wireName`), with the configured value. Both
sides are the same list of fields, told twice: once as they are set, once as they are sent (`Json.sent`). Main
statement: for every type of resources, every configuration that passes its check, and every request that a creation
sends (`Kind.creation_announced`).
-/

namespace Provision

/-! ## Names and values in requests -/

/-- A word with a capital letter at its beginning. -/
def capitalized : List Char → List Char
  | [] => []
  | c :: rest => c.toUpper :: rest

/-- The name of a field in requests: the words between underscores, each with a capital letter. -/
def wireName (name : String) : String := String.ofList ((Text.Segments.split '_' name.toList).flatMap capitalized)

namespace Json

/-- A value with its members under the names that they have in requests. -/
def wireMembers : Json → Json
  | .object members => .ofMembers (members.map fun m => (wireName m.1, m.2))
  | v => v

/-- The value of a field in requests: a list keeps its order, and the members of its objects have other names. -/
def wireValue : Json → Json
  | .array items => .array (items.map wireMembers)
  | v => v

/-- The body that has the fields of the given names, with their values in a configuration. -/
def wireBody (config : Json) (names : List String) : Json :=
  .ofMembers (present (names.map fun name => (wireName name, (config.get? name).map wireValue)))

/-- What is sent of a field: its value in requests, if it counts as set. -/
def sent (value : Option Json) : Option Json := if isSet value then value.map wireValue else none

theorem sent_text (s : String) : sent (some (.string s)) = nonEmpty? s := by
  by_cases hs : s = "" <;> simp [sent, isSet, nonEmpty?, wireValue, hs]

theorem sent_texts (o : Option String) : sent (o.map .string) = o.bind nonEmpty? := by
  cases o with
  | none => rfl
  | some s => exact sent_text s

theorem sent_ints (o : Option Int) : sent (o.map Json.int) = o.map Json.int := by
  cases o <;> rfl

theorem wireValue_set (s : StringSet) : wireValue (.array (s.toList.map .string)) = .array (s.toList.map .string) := by
  simp [wireValue, wireMembers]

theorem sent_set (s : StringSet) : sent (some (.array (s.toList.map .string))) =
    if s.isEmpty then none else some (.array (s.toList.map .string)) := by
  cases hs : s.isEmpty <;> simp_all [sent, isSet, wireValue_set, StringSet.isEmpty]

theorem wireMembers_tag (t : Tag) : wireMembers (Instance.tagToJson t) = Vendor.tagBody t := by
  have hkey : wireName "tag_key" = "TagKey" := by decide
  have hvalue : wireName "tag_value" = "TagValue" := by decide
  obtain ⟨key, value⟩ := t
  have hordered : Ordered (present [("tag_key", key.map .string), ("tag_value", value.map .string)]) := by
    have hlt : "tag_key" < "tag_value" := by decide
    cases key <;> cases value <;> simp only [Ordered, present, List.filterMap_cons, List.filterMap_nil, Option.map_some,
      Option.map_none, List.pairwise_cons, List.mem_singleton, forall_eq, hlt, List.Pairwise.nil, List.not_mem_nil,
      false_implies, implies_true, and_self]
  show ofMembers ((sorted _).map _) = _
  rw [sorted_of_ordered hordered, Vendor.tagBody]
  cases key <;> cases value <;> simp only [present, List.filterMap_cons, List.filterMap_nil, Option.map_some,
    Option.map_none, List.map_cons, List.map_nil, hkey, hvalue]

theorem wireValue_tags (tags : List Tag) :
    wireValue (.array (tags.map Instance.tagToJson)) = .array (tags.map Vendor.tagBody) := by
  simp [wireValue, wireMembers_tag]

theorem sent_tags (tags : List Tag) :
    sent (Instance.tagsValue Instance.tagToJson tags) = Instance.tagsValue Vendor.tagBody tags := by
  unfold Instance.tagsValue
  by_cases htags : tags = []
  · simp [htags, sent, isSet]
  · simp [htags, sent, isSet, wireValue_tags]

section WireBody

variable {config : Json} {names : List String} (hnodup : (names.map wireName).Nodup)
include hnodup

theorem nodup_wireBody : ((names.map fun name => (wireName name, (config.get? name).map wireValue)).map
    Prod.fst).Nodup := by
  rw [List.map_map]
  exact hnodup

theorem get?_wireBody {name : String} (h : name ∈ names) :
    (wireBody config names).get? (wireName name) = (config.get? name).map wireValue :=
  get?_of_present (nodup_wireBody hnodup) (List.mem_map.2 ⟨name, h, rfl⟩)

/-- Each member of a body is that of a field. -/
theorem isSome_get?_wireBody (hset : ∀ name ∈ names, isSet (config.get? name) = true) {key : String} :
    ((wireBody config names).get? key).isSome ↔ ∃ name ∈ names, key = wireName name := by
  constructor
  · intro h
    rw [wireBody, get?_present (nodup_wireBody hnodup), Option.isSome_iff_exists] at h
    obtain ⟨v, hv⟩ := h
    obtain ⟨name, hname, heq⟩ := List.mem_map.1 (mem_of_find (Option.join_eq_some_iff.1 hv))
    exact ⟨name, hname, (congrArg Prod.fst heq).symm⟩
  · rintro ⟨name, hname, rfl⟩
    obtain ⟨v, hv, -⟩ := isSet_iff.1 (hset name hname)
    rw [get?_wireBody hnodup hname, hv]
    rfl

end WireBody

end Json

open Json

/-- The fields of a schema that are set, and what is sent of all fields, are the same members. -/
theorem Schema.wireBody_eq (s : Schema) (config : Json) :
    wireBody config ((s.fields.filter fun f => isSet (config.get? f.name)).map Field.name) =
      .ofMembers (present (s.fields.map fun f => (wireName f.name, sent (config.get? f.name)))) := by
  unfold wireBody
  congr 1
  induction s.fields with
  | nil => rfl
  | cons f rest ih =>
    cases hset : isSet (config.get? f.name) with
    | true =>
      obtain ⟨v, hv, -⟩ := isSet_iff.1 hset
      have hsent : sent (config.get? f.name) = some (wireValue v) := by rw [sent, hset, hv]; rfl
      simp only [List.filter_cons, hset, if_true, List.map_cons, hsent]
      rw [hv, Option.map_some, present_cons_some, present_cons_some, ih]
    | false =>
      have hsent : sent (config.get? f.name) = none := by rw [sent, hset, if_neg Bool.false_ne_true]
      simp only [List.filter_cons, hset, Bool.false_eq_true, if_false, List.map_cons, hsent]
      rw [present_cons_none, ih]

/-- The fields that are all the members of a document from a place on have the values of these members. -/
theorem Schema.map_get? {β : Type} (g : Option Json → β) {fields : List Field}
    {members : List (String × Option Json)} (n : Nat) (hnodup : (members.map Prod.fst).Nodup)
    (hnames : fields.map Field.name = (members.drop n).map Prod.fst) :
    fields.map (fun f => g ((ofMembers (present members)).get? f.name)) = (members.drop n).map (g ·.2) := by
  have hvalues : ∀ m ∈ members.drop n, (ofMembers (present members)).get? m.1 = m.2 := fun m hm =>
    get?_of_present hnodup (List.mem_of_mem_drop hm)
  calc fields.map (fun f => g ((ofMembers (present members)).get? f.name))
      = (fields.map Field.name).map fun name => g ((ofMembers (present members)).get? name) := by
        rw [List.map_map]
        rfl
    _ = (members.drop n).map fun m => g ((ofMembers (present members)).get? m.1) := by
        rw [hnames, List.map_map]
        rfl
    _ = (members.drop n).map (g ·.2) := List.map_congr_left fun m hm => by rw [hvalues m hm]

/-! ## Bodies of creations -/

theorem Account.creationBody_eq (a : Account) : a.creationBody =
    .ofMembers (present (schema.fields.map fun f => (wireName f.name, sent ((toJson a).get? f.name)))) := by
  have hnames : schema.fields.map (wireName ·.name) =
      ["InstanceId", "UserName", "Host", "Password", "ReadOnly", "Description", "MaxUserConnections"] := by decide
  have hvalues : schema.fields.map (fun f => sent ((toJson a).get? f.name)) =
      [nonEmpty? a.instanceId, nonEmpty? a.userName, nonEmpty? a.host, nonEmpty? a.password, a.readOnly.map Json.int,
        a.description.bind nonEmpty?, a.maxUserConnections.map fun n => Json.int n] := by
    unfold toJson
    rw [Schema.map_get? sent 0 (by simp) rfl]
    simp only [List.drop_zero, List.map_cons, List.map_nil, sent_text, sent_texts, sent_ints]
  rw [← List.zip_map', hnames, hvalues]
  rfl

theorem Instance.creationBody_eq (billing : Billing) (i : Instance) : i.creationBody billing =
    .ofMembers (present ((schema billing).fields.map fun f => (wireName f.name, sent ((toJson i).get? f.name)))) := by
  have hcommon : commonFields.map (wireName ·.name) = ["ShardMemory", "ShardStorage", "ShardNodeCount", "ShardCount",
      "VpcId", "SubnetId", "DbVersionId", "SecurityGroupId", "ProjectId", "InstanceName", "ResourceTags"] := by decide
  have hvalues : commonFields.map (fun f => sent ((toJson i).get? f.name)) =
      [i.shardMemory.map Json.int, i.shardStorage.map Json.int, i.shardNodeCount.map Json.int,
        i.shardCount.map Json.int, i.vpcId.bind nonEmpty?, i.subnetId.bind nonEmpty?, i.versionId.bind nonEmpty?,
        i.securityGroupId.bind nonEmpty?, i.projectId.map Json.int, i.name.bind nonEmpty?,
        tagsValue Vendor.tagBody i.tags] := by
    unfold toJson
    rw [Schema.map_get? sent 2 (by simp) rfl]
    simp only [List.drop_succ_cons, List.drop_zero, List.map_cons, List.map_nil, sent_texts, sent_ints, sent_tags]
  have hzones : (wireName zonesField.name, sent ((toJson i).get? zonesField.name)) =
      ("Zones", if i.zones.isEmpty then none else some (.array (i.zones.toList.map .string))) := by
    have hname : wireName zonesField.name = "Zones" := by decide
    rw [hname, show zonesField.name = "zones" from rfl, get?_zones, sent_set]
  have hperiod : (wireName periodField.name, sent ((toJson i).get? periodField.name)) =
      ("Period", i.period.map Json.int) := by
    have hname : wireName periodField.name = "Period" := by decide
    rw [hname, show periodField.name = "period" from rfl, get?_period, sent_ints]
  cases billing with
  | prepaid =>
    rw [schema, List.map_cons, List.map_cons, ← List.zip_map', hcommon, hvalues, hzones, hperiod]
    rfl
  | hourly =>
    rw [schema, List.map_cons, ← List.zip_map', hcommon, hvalues, hzones]
    rfl

/-- All fields of an attachment are required, so all of them are sent. -/
theorem Attachment.creationBody_eq {a : Attachment} (h : resource.check (resource.toJson a) = .ok ()) :
    Vendor.bindingBody a.product a.securityGroupId a.instanceIds =
      .ofMembers (present (schema.fields.map fun f => (wireName f.name, sent ((toJson a).get? f.name)))) := by
  have hnames : schema.fields.map (wireName ·.name) = ["Product", "SecurityGroupId", "InstanceIds"] := by decide
  have hrequired : ∀ f ∈ schema.fields, f.presence = .required := by decide
  have hsent : ∀ f ∈ schema.fields, sent ((toJson a).get? f.name) = ((toJson a).get? f.name).map wireValue :=
    fun f hf => if_pos (Schema.isSet_of_required (Resource.violation?_of_check h) ⟨f, hf, rfl, hrequired f hf⟩)
  have htold : toJson a = .ofMembers (present [("product", some (.string a.product)),
      ("security_group_id", some (.string a.securityGroupId)),
      ("instance_ids", some (.array (a.instanceIds.toList.map .string)))]) := rfl
  have hvalues : schema.fields.map (fun f => sent ((toJson a).get? f.name)) =
      [some (.string a.product), some (.string a.securityGroupId),
        some (.array (a.instanceIds.toList.map .string))] := by
    rw [List.map_congr_left hsent, htold, Schema.map_get? (Option.map wireValue) 0 (by simp) rfl]
    simp only [List.drop_zero, List.map_cons, List.map_nil, Option.map_some, wireValue_set]
    rfl
  rw [← List.zip_map', hnames, hvalues]
  rfl

namespace Kind

/-- The body of the request that creates a resource. -/
def creationBody : (k : Kind) → k.Config → Json
  | .account, a => Account.creationBody a
  | .instance billing, i => Instance.creationBody billing i
  | .attachment, a => Vendor.bindingBody a.product a.securityGroupId a.instanceIds

/-- The names of the fields that are set, in the order of the schema: what the plan of a creation lists. -/
def announced (k : Kind) (config : k.Config) : List String :=
  (k.schema.fields.filter fun f => isSet ((k.resource.toJson config).get? f.name)).map Schema.Field.name

/-- **The body of a creation has the fields that are set, and no others.** -/
theorem creationBody_eq : ∀ (k : Kind) (config : k.Config), k.resource.check (k.resource.toJson config) = .ok () →
    k.creationBody config = wireBody (k.resource.toJson config) (k.announced config)
  | .account, a, _ => (Account.creationBody_eq a).trans (Account.schema.wireBody_eq _).symm
  | .instance billing, i, _ =>
    (Instance.creationBody_eq billing i).trans ((Instance.schema billing).wireBody_eq _).symm
  | .attachment, _, h => (Attachment.creationBody_eq h).trans (Attachment.schema.wireBody_eq _).symm

/-! ## What a plan announces -/

theorem wireName_nodup (k : Kind) : (k.schema.fields.map (wireName ·.name)).Nodup := by
  rcases k with _ | ⟨_ | _⟩ | _ <;> decide

variable {k : Kind} {config : k.Config}

theorem mem_announced {name : String} : name ∈ k.announced config ↔
    (∃ f ∈ k.schema.fields, f.name = name) ∧ isSet ((k.resource.toJson config).get? name) = true := by
  simp only [announced, List.mem_map, List.mem_filter]
  constructor
  · rintro ⟨f, ⟨hf, hset⟩, rfl⟩
    exact ⟨⟨f, hf, rfl⟩, hset⟩
  · rintro ⟨⟨f, hf, rfl⟩, hset⟩
    exact ⟨f, ⟨hf, hset⟩, rfl⟩

/-- Different fields have different names in requests. -/
theorem nodup_announced (config : k.Config) : ((k.announced config).map wireName).Nodup := by
  rw [announced, List.map_map]
  exact k.wireName_nodup.sublist (List.filter_sublist.map _)

theorem wireName_injective {f g : Schema.Field} (hf : f ∈ k.schema.fields) (hg : g ∈ k.schema.fields)
    (h : wireName f.name = wireName g.name) : f = g :=
  List.inj_on_of_nodup_map k.wireName_nodup hf hg h

/-- **A body has a member for each field of a list, with the value of the field in a configuration, and no other.** -/
structure Announced (k : Kind) (config : k.Config) (names : List String) (body : Json) : Prop where
  body_eq : body = wireBody (k.resource.toJson config) names
  /-- The fields of the list have different names in the body, and all of its members are theirs. -/
  distinct : (names.map wireName).Nodup
  members : ∀ key, (body.get? key).isSome ↔ ∃ name ∈ names, key = wireName name
  /-- A field of the list is set, and its value is sent. -/
  value : ∀ name ∈ names, ∃ v, (k.resource.toJson config).get? name = some v ∧ isSet (some v) = true ∧
    body.get? (wireName name) = some (wireValue v)
  /-- What is not set is neither listed nor sent. -/
  unset : ∀ f ∈ k.schema.fields, isSet ((k.resource.toJson config).get? f.name) = false →
    f.name ∉ names ∧ body.get? (wireName f.name) = none
  /-- A zero is both. -/
  zero : ∀ f ∈ k.schema.fields, (k.resource.toJson config).get? f.name = some (.int 0) →
    f.name ∈ names ∧ body.get? (wireName f.name) = some (.int 0)
  /-- A set is sent in order, and a list of tags as it is. -/
  set : ∀ f ∈ k.schema.fields, f.kind = .stringSet → f.name ∈ names → ∃ texts : List String,
    texts.Pairwise (· < ·) ∧ (k.resource.toJson config).get? f.name = some (.array (texts.map .string)) ∧
      body.get? (wireName f.name) = some (.array (texts.map .string))
  tags : ∀ f ∈ k.schema.fields, f.kind = .tagList → f.name ∈ names → ∃ tags : List Tag,
    (k.resource.toJson config).get? f.name = some (.array (tags.map Instance.tagToJson)) ∧
      body.get? (wireName f.name) = some (.array (tags.map Vendor.tagBody))
  /-- By the hour no period is paid for. -/
  hourly : k = .instance .hourly → body.get? "Period" = none

/-- A set of a configuration has its elements in order. -/
theorem exists_set_of_field : ∀ {k : Kind} (config : k.Config) {f : Schema.Field}, f ∈ k.schema.fields →
    f.kind = .stringSet →
    ∃ s : StringSet, (k.resource.toJson config).get? f.name = some (.array (s.toList.map .string))
  | .account, _, f, hf, hk => by
    have hnone : ∀ f ∈ Account.schema.fields, f.kind ≠ .stringSet := by decide
    exact absurd hk (hnone f hf)
  | .instance billing, i, f, hf, hk => by
    have honly : ∀ f ∈ (Instance.schema billing).fields, f.kind = .stringSet → f.name = "zones" := by
      cases billing <;> decide
    rw [honly f hf hk]
    exact ⟨i.zones, Instance.get?_zones i⟩
  | .attachment, a, f, hf, hk => by
    have honly : ∀ f ∈ Attachment.schema.fields, f.kind = .stringSet → f.name = "instance_ids" := by decide
    rw [honly f hf hk]
    exact ⟨a.instanceIds, Attachment.get?_instanceIds a⟩

/-- The tags of a configuration that has any. -/
theorem exists_tags_of_field : ∀ {k : Kind} {config : k.Config} {f : Schema.Field}, f ∈ k.schema.fields →
    f.kind = .tagList → isSet ((k.resource.toJson config).get? f.name) = true →
    ∃ tags : List Tag, (k.resource.toJson config).get? f.name = some (.array (tags.map Instance.tagToJson))
  | .account, _, f, hf, hk, _ => by
    have hnone : ∀ f ∈ Account.schema.fields, f.kind ≠ .tagList := by decide
    exact absurd hk (hnone f hf)
  | .instance billing, i, f, hf, hk, hset => by
    have honly : ∀ f ∈ (Instance.schema billing).fields, f.kind = .tagList → f.name = "resource_tags" := by
      cases billing <;> decide
    rw [honly f hf hk] at hset ⊢
    have htags : ((resource (.instance billing)).toJson i).get? "resource_tags" =
        Instance.tagsValue Instance.tagToJson i.tags := Instance.get?_tags i
    rw [htags] at hset ⊢
    unfold Instance.tagsValue at hset ⊢
    split at hset
    · cases hset
    · rename_i hne
      rw [if_neg hne]
      exact ⟨i.tags, rfl⟩
  | .attachment, _, f, hf, hk, _ => by
    have hnone : ∀ f ∈ Attachment.schema.fields, f.kind ≠ .tagList := by decide
    exact absurd hk (hnone f hf)

/-- **The fields that are set announce the body that has them.** -/
theorem announced_wireBody (config : k.Config) :
    k.Announced config (k.announced config) (wireBody (k.resource.toJson config) (k.announced config)) := by
  have hnodup := nodup_announced config
  have hset : ∀ name ∈ k.announced config, isSet ((k.resource.toJson config).get? name) = true :=
    fun name h => (mem_announced.1 h).2
  have hmembers : ∀ key, ((wireBody (k.resource.toJson config) (k.announced config)).get? key).isSome ↔
      ∃ name ∈ k.announced config, key = wireName name := fun key => isSome_get?_wireBody hnodup hset
  have hvalue : ∀ {name v}, name ∈ k.announced config → (k.resource.toJson config).get? name = some v →
      (wireBody (k.resource.toJson config) (k.announced config)).get? (wireName name) = some (wireValue v) := by
    intro name v h hv
    rw [get?_wireBody hnodup h, hv]
    rfl
  refine ⟨rfl, hnodup, hmembers, fun name h => ?_, fun f hf hunset => ?_, fun f hf hzero => ?_,
    fun f hf hk h => ?_, fun f hf hk h => ?_, fun hk => ?_⟩
  · obtain ⟨v, hv, hvset⟩ := isSet_iff.1 (hset name h)
    exact ⟨v, hv, by rw [← hv]; exact hset name h, hvalue h hv⟩
  · have hno : f.name ∉ k.announced config := fun h => by
      rw [hset f.name h] at hunset
      cases hunset
    refine ⟨hno, Option.not_isSome_iff_eq_none.1 fun hsome => ?_⟩
    obtain ⟨name, hname, heq⟩ := (hmembers _).1 hsome
    obtain ⟨⟨g, hg, rfl⟩, -⟩ := mem_announced.1 hname
    exact hno (wireName_injective hf hg heq ▸ hname)
  · have h : f.name ∈ k.announced config := mem_announced.2 ⟨⟨f, hf, rfl⟩, by rw [hzero]; rfl⟩
    exact ⟨h, hvalue h hzero⟩
  · obtain ⟨s, hs⟩ := exists_set_of_field config hf hk
    exact ⟨s.toList, s.ordered, hs, by rw [hvalue h hs, wireValue_set]⟩
  · obtain ⟨tags, htags⟩ := exists_tags_of_field hf hk (hset f.name h)
    exact ⟨tags, htags, by rw [hvalue h htags, wireValue_tags]⟩
  · subst hk
    have hother : ∀ f ∈ (Instance.schema .hourly).fields, wireName f.name ≠ "Period" := by decide
    refine Option.not_isSome_iff_eq_none.1 fun hsome => ?_
    obtain ⟨name, hname, heq⟩ := (hmembers _).1 hsome
    obtain ⟨⟨g, hg, rfl⟩, -⟩ := mem_announced.1 hname
    exact hother g hg heq.symm

/-- What the plan of a creation says. -/
theorem plan_of_none (hcheck : k.resource.check (k.resource.toJson config) = .ok ()) :
    k.resource.plan none config = .ok ⟨.create, k.announced config, []⟩ := by
  rw [Resource.plan, hcheck]
  rfl

/-! ## What a creation sends -/

/-- **What a creation adds:** besides questions only requests to create with one body. One of them at least is sent by a
client that can write it, and if the creation succeeds. -/
structure Creates {α : Type} (k : Kind) (p : Provider) (body : Json) (xs : List Exchange) (r : Except Failure α) :
    Prop where
  sent : ∀ x ∈ xs, x.posting.action = k.question ∨ x.Asks k.creation body
  tried : (∀ e, ¬p.Unwritten .dcdb k.creation e) → ∃ x ∈ xs, x.Asks k.creation body
  created : (∃ a, r = .ok a) → ∃ x ∈ xs, x.Asks k.creation body

theorem create_grows (p : Provider) : ∀ (k : Kind) (config : k.Config) (s : Session),
    s.Grows (fun x => x.posting.action = k.question ∨ x.Asks k.creation (k.creationBody config))
      (k.resource.create p config s).2
  | .account, _, s => Account.create_ensures.grows (fun _ _ ⟨_, hc, _⟩ x hx => .inr (hc.asks x hx)) s
  | .instance _, _, s => Instance.create_ensures.grows
    (fun _ _ h x hx => (h.asks x hx).elim .inr fun ⟨_, _, hasks⟩ => .inl hasks.1) s
  | .attachment, _, s => Attachment.create_ensures.grows (fun _ _ ⟨_, hc, _⟩ x hx => .inr (hc.asks x hx)) s

theorem refresh_grows (p : Provider) (st : ResourceState k.Config) (body : Json) (s : Session) :
    s.Grows (fun x => x.posting.action = k.question ∨ x.Asks k.creation body) (k.resource.refresh p st s).session := by
  obtain ⟨xs, hxs, hask⟩ := refresh_asks p st s
  exact ⟨xs, hxs, fun x hx => .inl (hask x hx)⟩

/-- **A creation sends requests of one body.** -/
theorem createFrom_creates (hcheck : k.resource.check (k.resource.toJson config) = .ok ()) (p : Provider) :
    (k.resource.createFrom p config).Ensures (k.Creates p (k.creationBody config)) := by
  intro s
  obtain ⟨xs, hxs, hsent⟩ : s.Grows _ (k.resource.createFrom p config s).2 :=
    Resource.createFrom_along (fun s _ => create_grows p k config s) (refresh_grows p · (k.creationBody config)) s
  obtain ⟨ys, hys, -, htried, hmade⟩ := createFrom_ensures p config s
  obtain rfl : ys = xs := List.append_cancel_right (hys.symm.trans hxs)
  have hcreation : ∀ x ∈ ys, x.posting.action = k.creation → x.Asks k.creation (k.creationBody config) :=
    fun x hx ha => (hsent x hx).resolve_left fun hask => k.question_ne_creation (hask.symm.trans ha)
  refine ⟨ys, hxs, hsent, fun hp => ?_, ?_⟩
  · obtain ⟨x, hx, ha⟩ := htried hcheck hp
    exact ⟨x, hx, hcreation x hx ha⟩
  · rintro ⟨made, hr⟩
    obtain ⟨x, hx, hcreated⟩ := (hmade made hr).1
    exact ⟨x, hx, hcreation x hx (action_of_createdBy hcreated)⟩

/-- Carrying out the plan of a creation sends what the creation sends. -/
theorem execute_creates (hcheck : k.resource.check (k.resource.toJson config) = .ok ()) {plan : Plan}
    (h : plan.action = .create) (p : Provider) (st : ResourceState k.Config) (s : Session) :
    (k.resource.execute p plan st config s).Ends s fun xs r _ => k.Creates p (k.creationBody config) xs r := by
  obtain ⟨xs, hxs, hsent, htried, hsome⟩ := createFrom_creates hcheck p s
  rw [Resource.execute_of_create h]
  rcases k.resource.recreate_cases p st config s with ⟨e, t, hr, he⟩ | ⟨made, t, hr, he⟩ <;> rw [hr] at hxs hsome <;>
    rw [he]
  · exact ⟨xs, hxs, hsent, htried, fun ⟨_, h⟩ => by cases h⟩
  · exact ⟨xs, hxs, hsent, htried, fun _ => hsome ⟨made, rfl⟩⟩

/-- **The plan of a creation announces what is sent:** the fields that it lists are those of the body of every request
to create that follows, each with the configured value. -/
theorem creation_announced (k : Kind) (config : k.Config)
    (hcheck : k.resource.check (k.resource.toJson config) = .ok ()) :
    ∃ plan body, k.resource.plan none config = .ok plan ∧
      (∀ known, k.resource.plan (some ⟨"", known⟩) config = .ok plan) ∧ plan.action = .create ∧
      k.Announced config plan.changed body ∧
      ∀ p, (k.resource.createFrom p config).Ensures (k.Creates p body) ∧
        ∀ st s, (k.resource.execute p plan st config s).Ends s fun xs r _ => k.Creates p body xs r := by
  refine ⟨_, k.creationBody config, plan_of_none hcheck, fun known => ?_, rfl, ?_, fun p =>
    ⟨createFrom_creates hcheck p, fun st s => execute_creates hcheck rfl p st s⟩⟩
  · rw [Resource.plan_of_check _ hcheck]
    rfl
  · rw [creationBody_eq k config hcheck]
    exact announced_wireBody config

end Kind

/-- An instance by the hour in the default project, with tags out of order and an empty name. -/
def Instance.tagged : Instance where
  zones := .ofList ["ap-guangzhou-4", "ap-guangzhou-3"]
  shardMemory := some 2
  shardStorage := some 10
  shardNodeCount := some 2
  shardCount := some 2
  projectId := some 0
  name := some ""
  tags := [⟨some "team", some "b"⟩, ⟨some "env", none⟩]

theorem Instance.check_tagged : (resource .hourly).check ((resource .hourly).toJson tagged) = .ok () := by
  have valid : (resource .hourly).schema.violation? ((resource .hourly).toJson tagged) = none := by decide +kernel
  rw [Resource.check, valid]

/-- What is sent for it: a zero and both tags, but no name and no period. -/
def Instance.taggedBody : Json := .object [
  ("ProjectId", .int 0),
  ("ResourceTags", .array [.object [("TagKey", .string "team"), ("TagValue", .string "b")],
    .object [("TagKey", .string "env")]]),
  ("ShardCount", .int 2),
  ("ShardMemory", .int 2),
  ("ShardNodeCount", .int 2),
  ("ShardStorage", .int 10),
  ("Zones", .array [.string "ap-guangzhou-3", .string "ap-guangzhou-4"])]

/-- The plan of its creation announces what whoever can write requests sends. -/
theorem Kind.creation_announced_tagged : ∃ plan, (Instance.resource .hourly).plan none .tagged = .ok plan ∧
    plan.changed = ["zones", "shard_memory", "shard_storage", "shard_node_count", "shard_count", "project_id",
      "resource_tags"] ∧
    ∀ p : Provider, p.client.Writable → ((Instance.resource .hourly).createFrom p .tagged).Ensures fun xs _ =>
      (∀ x ∈ xs, x.posting.action = "DescribeDCDBInstances" ∨
        x.Asks "CreateHourDCDBInstance" Instance.taggedBody) ∧
      ∃ x ∈ xs, x.Asks "CreateHourDCDBInstance" Instance.taggedBody := by
  obtain ⟨plan, body, hplan, -, -, hbody, hsends⟩ :=
    creation_announced (.instance .hourly) Instance.tagged Instance.check_tagged
  have hchanged : plan.changed = ["zones", "shard_memory", "shard_storage", "shard_node_count", "shard_count",
      "project_id", "resource_tags"] := by
    have hsame := plan_of_none (k := .instance .hourly) Instance.check_tagged
    rw [← Except.ok.inj (hsame.symm.trans hplan)]
    decide +kernel
  have hsent : body = Instance.taggedBody := by
    rw [hbody.body_eq, hchanged]
    rfl
  subst hsent
  refine ⟨plan, hplan, hchanged, fun p hp => (hsends p).1.mono fun xs r h => ⟨h.sent, h.tried ?_⟩⟩
  exact hp.not_unwritten (by decide)

end Provision
