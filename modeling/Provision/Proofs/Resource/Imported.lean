import Provision.Proofs.Resource.Converging
import Provision.Proofs.Schema.Plan
import Provision.Proofs.Vendor.Answers

/-!
# Applications after an import

An import starts from an identity alone, so what is known after it is what the vendor told, and nothing is known of a
field that no answer has. Main statement: if the answer reports the value of a configuration in every field that it
has, then the import finds the resource, and an application of the configuration only asks. It succeeds if the answer
has all that is desired, and is refused otherwise, with the fields that an answer cannot tell (`Kind.apply_imported`).
These are the password of an account; and of an instance the zones, unless the one that is told is the only one, the
period that is paid for in advance, and the security group (`Kind.untold`). An account that was imported can never be
applied (`Account.imported_refused`).
-/

namespace Provision

open Json Vendor

/-! ## Answers that report a configuration -/

/-- What is told of a value is the value, if that is set. -/
def Reports {α : Type} (enc : α → Json) (told known : Option α) : Prop := isSet (known.map enc) = true → told = known

/-- A field that must be set, or that the vendor chooses, does not change if its value was reported. -/
theorem Schema.Field.not_changes_of_reports {α : Type} {enc : α → Json} {told known : Option α} {f : Schema.Field}
    {prior desired : Json} (h : Reports enc told known) (hprior : prior.get? f.name = told.map enc)
    (hdesired : desired.get? f.name = known.map enc)
    (hp : f.presence = .required ∧ isSet (desired.get? f.name) = true ∨ f.presence = .optionalComputed) :
    f.changes prior desired = false := by
  by_cases hset : isSet (known.map enc) = true
  · exact not_changes_of_eq (by rw [hprior, hdesired, h hset])
  · have hunset : isSet (desired.get? f.name) = false := by simpa [hdesired] using hset
    rcases hp with ⟨-, hreq⟩ | hchosen
    · rw [hunset] at hreq
      cases hreq
    · exact not_changes_of_chosen hchosen hunset

/-- The plan in which exactly these fields change, none of which can. -/
def Plan.refusing (names : List String) : Plan := ⟨if names = [] then .noOp else .reject, names, names⟩

/-- How an application ends in which exactly these fields change, none of which can. -/
def refusal : List String → Except Failure Unit
  | [] => .ok ()
  | name :: _ => .error (.notUpdatable name)

/-! ## Accounts -/

namespace Account

/-- An entry of a list has the values of an account. -/
structure ReportedBy (a : Account) (listed : ListedAccount) : Prop where
  host : listed.host = some a.host
  readOnly : Reports Json.int listed.readOnly a.readOnly
  description : listed.description.getD "" = a.description.getD ""
  maxUserConnections : Reports (fun n : Nat => Json.int n) listed.maxUserConnections a.maxUserConnections

/-- An answer about an identity reports an account: the identity has the user name and the identity or the answer the
instance, and the first entry of the user name has the values of the account. -/
structure Reported (a : Account) (id : String) (accounts : AccountList) : Prop where
  identified : ∃ instanceId, parts id = .ok (instanceId, a.userName) ∧
    (instanceId = a.instanceId ∨ accounts.instanceId = some a.instanceId)
  named : NamesOnly a.instanceId accounts.instanceId
  entry : ∃ listed, accounts.users.find? (·.userName == some a.userName) = some listed ∧ a.ReportedBy listed

/-- The fields that an answer cannot tell. -/
def untold : List String := ["password"]

variable {a : Account} {listed : ListedAccount} {id : String} {accounts : AccountList}

/-- The description that is told is the desired one, or neither is set. -/
theorem not_changes_reported_description {f : Schema.Field} {prior desired : Json} (h : a.ReportedBy listed)
    (hprior : prior.get? f.name = listed.description.map .string)
    (hdesired : desired.get? f.name = a.description.map .string) : f.changes prior desired = false := by
  have hsame : listed.description.getD "" = a.description.getD "" := h.description
  cases hl : listed.description with
  | none =>
    cases ha : a.description with
    | none => exact Schema.Field.not_changes_of_eq (by rw [hprior, hdesired, hl, ha])
    | some description =>
      obtain rfl : "" = description := by simpa [hl, ha] using hsame
      exact Schema.Field.not_changes_of_unset (by rw [hprior, hl]; rfl) (by rw [hdesired, ha]; rfl)
  | some told =>
    cases ha : a.description with
    | none =>
      obtain rfl : told = "" := by simpa [hl, ha] using hsame
      exact Schema.Field.not_changes_of_unset (by rw [hprior, hl]; rfl) (by rw [hdesired, ha]; rfl)
    | some description =>
      obtain rfl : told = description := by simpa [hl, ha] using hsame
      exact Schema.Field.not_changes_of_eq (by rw [hprior, hdesired, hl, ha])

/-- **Of an account that was reported, the password changes, and nothing else.** -/
theorem changes_of_reported (h : a.ReportedBy listed) (hcheck : resource.check (resource.toJson a) = .ok ()) :
    ∀ f ∈ schema.fields, f.changes (toJson (({} : Account).merge a.instanceId a.userName listed)) (toJson a) =
      untold.contains f.name := by
  have hv : schema.violation? (toJson a) = none := Resource.violation?_of_check hcheck
  have hpassword := Schema.isSet_of_required hv (by decide : schema.Requires "password")
  -- a natural number becomes an integer before it becomes a value
  have hnat : ∀ n : Option Nat, (n : Option Int).map Json.int = n.map fun n : Nat => Json.int n := by
    intro n
    cases n <;> rfl
  intro f hf
  simp only [schema, List.mem_cons, List.not_mem_nil, or_false] at hf
  rcases hf with rfl | rfl | rfl | rfl | rfl | rfl | rfl
  · exact Schema.Field.not_changes_of_eq ((get?_instanceId _).trans (get?_instanceId a).symm)
  · exact Schema.Field.not_changes_of_eq ((get?_userName _).trans (get?_userName a).symm)
  · refine Schema.Field.not_changes_of_eq ?_
    rw [get?_host, get?_host, merge, h.host, Option.getD_some]
  · refine Schema.Field.changes_of_set (by decide) ?_ hpassword
    rw [get?_password]
    rfl
  · exact Schema.Field.not_changes_of_reports h.readOnly (get?_of_present (by simp) (by simp [merge]))
      (get?_of_present (by simp) (by simp)) (.inr rfl)
  · exact not_changes_reported_description h (get?_of_present (by simp) (by simp [merge]))
      (get?_of_present (by simp) (by simp))
  · exact Schema.Field.not_changes_of_reports h.maxUserConnections
      ((get?_of_present (by simp) (by simp [merge])).trans (hnat _))
      ((get?_of_present (by simp) (by simp)).trans (hnat _)) (.inr rfl)

theorem plan_of_reported (h : a.Reported id accounts) (hcheck : resource.check (resource.toJson a) = .ok ()) :
    ∃ b, shown accounts id {} = some b ∧ schema.plan (some (toJson b)) (toJson a) = .refusing untold := by
  obtain ⟨instanceId, hparts, hinstance⟩ := h.identified
  obtain ⟨listed, hlisted, hreported⟩ := h.entry
  have hnamed : instanceOr accounts.instanceId instanceId = a.instanceId :=
    instanceOr_of_named (named_of_check hcheck).1 h.named hinstance
  refine ⟨({} : Account).merge a.instanceId a.userName listed, ?_, ?_⟩
  · rw [shown_of_parts hparts, found, hlisted, Option.map_some, hnamed]
  · exact Schema.plan_of_changes (changes_of_reported hreported hcheck) (by decide) (by decide)

/-- A look-up that is told of an account finds it. -/
theorem read_of_asked {p : Provider} {instanceId userName : String} {a b : Account} {s : Session}
    (hwritable : p.client.Writable) (hparts : parts id = .ok (instanceId, userName))
    (told : ∀ x : Posting, (⟨x, p.out.reply s.exchanges x⟩ : Exchange).Asks "DescribeAccounts"
      (.ofMembers [("InstanceId", .string instanceId)]) →
      (⟨x, p.out.reply s.exchanges x⟩ : Exchange).outcome accountList = .ok accounts)
    (hfound : found a instanceId userName accounts = some b) :
    ∃ x t, x.posting.action = "DescribeAccounts" ∧ resource.read p id a s = (.ok (some b), t) ∧
      t.exchanges = x :: s.exchanges := by
  obtain ⟨x, t, hasks, -, hr, hx⟩ := Provider.retried_of_asked hwritable (by decide) told (not_transient_ok accounts)
    .dcdb p.read "DescribeAccounts"
  have hlist : p.describeAccounts instanceId s = (.ok accounts, t) := hr
  refine ⟨x, t, hasks.1, ?_, hx⟩
  rw [resource_read, read_of_ok hparts, Run.bind_ok hlist, hfound]
  rfl

end Account

/-! ## Instances -/

namespace Instance

/-- An entry of a list has the values of an instance, as far as it can: of the zones it has one. -/
structure ReportedBy (i : Instance) (listed : ListedInstance) : Prop where
  status : listed.status ≠ some destroyed
  zone : ∃ zone ∈ i.zones, listed.zone = some zone
  memory : Reports Json.int listed.memory i.shardMemory
  storage : Reports Json.int listed.storage i.shardStorage
  nodeCount : Reports Json.int listed.nodeCount i.shardNodeCount
  shardCount : Reports Json.int listed.shardCount i.shardCount
  vpcId : Reports Json.string listed.vpcId i.vpcId
  subnetId : Reports Json.string listed.subnetId i.subnetId
  versionId : Reports Json.string listed.versionId i.versionId
  projectId : Reports Json.int listed.projectId i.projectId
  name : Reports Json.string listed.name i.name
  tags : listed.tags.getD [] = i.tags

/-- An answer reports an instance if its first entry does. -/
def Reported (i : Instance) (listed : List ListedInstance) : Prop :=
  ∃ first, listed.head? = some first ∧ i.ReportedBy first

/-- There is one zone, and it has a name. -/
def HasOneZone (i : Instance) : Prop := ∃ zone ∈ i.zones.toList, zone ≠ "" ∧ i.zones = .singleton zone

instance (i : Instance) : Decidable i.HasOneZone :=
  inferInstanceAs (Decidable (∃ zone ∈ i.zones.toList, zone ≠ "" ∧ i.zones = .singleton zone))

/-- The fields that an answer cannot tell, or not in full. -/
def untold (billing : Billing) (i : Instance) : List String :=
  (if i.HasOneZone then [] else ["zones"]) ++ (if billing = .prepaid then ["period"] else []) ++
    if isSet (i.securityGroupId.map .string) then ["security_group_id"] else []

variable {i : Instance} {listed : ListedInstance} {billing : Billing}

theorem mem_untold {name : String} : name ∈ untold billing i ↔
    name = "zones" ∧ ¬i.HasOneZone ∨ name = "period" ∧ billing = .prepaid ∨
      name = "security_group_id" ∧ isSet (i.securityGroupId.map .string) = true := by
  have one : ∀ (c : Prop) [Decidable c] (field : String), name ∈ (if c then [field] else []) ↔ name = field ∧ c := by
    intro c _ field
    by_cases hc : c <;> simp [hc]
  have other : name ∈ (if i.HasOneZone then [] else ["zones"]) ↔ name = "zones" ∧ ¬i.HasOneZone := by
    rw [← one, ite_not]
  rw [untold, List.mem_append, List.mem_append, other, one, one, or_assoc]

/-- The zones change unless the one that is told is the only one. -/
theorem zones_changes (h : i.ReportedBy listed) :
    zonesField.changes (toJson (({} : Instance).merge listed)) (toJson i) = !decide i.HasOneZone := by
  obtain ⟨zone, hzone, htold⟩ := h.zone
  have hset : isSet ((toJson i).get? zonesField.name) = true := by
    have hne : i.zones.toList ≠ [] := List.ne_nil_of_mem hzone
    rw [show zonesField.name = "zones" from rfl, get?_zones]
    simp [isSet, hne]
  by_cases hempty : zone = ""
  · -- nothing is known of the zones
    have hzones : (({} : Instance).merge listed).zones = .empty := by
      rw [merge, htold, hempty]
      rfl
    have hmany : ¬i.HasOneZone := by
      rintro ⟨only, -, hne, hall⟩
      rw [hall, StringSet.mem_singleton] at hzone
      exact hne (hzone.symm.trans hempty)
    rw [Schema.Field.changes_of_set (by decide) _ hset]
    · simp [hmany]
    · rw [show zonesField.name = "zones" from rfl, get?_zones, hzones]
      rfl
  · have hzones : (({} : Instance).merge listed).zones = .singleton zone := by
      rw [merge, htold]
      simp [mergeZones, Option.filter, hempty, StringSet.contains, StringSet.empty]
    by_cases hone : i.HasOneZone
    · obtain ⟨only, -, -, hall⟩ := id hone
      obtain rfl : zone = only := by
        rw [hall] at hzone
        exact StringSet.mem_singleton.1 hzone
      rw [Schema.Field.not_changes_of_eq]
      · simp [hone]
      · refine (get?_zones _).trans ?_
        rw [hzones, ← hall]
        exact (get?_zones i).symm
    · -- otherwise they would be the one that is told
      have hknown : (toJson (({} : Instance).merge listed)).get? zonesField.name =
          (toJson { zones := .singleton zone }).get? "zones" := by
        rw [get?_zones, ← hzones]
        exact get?_zones _
      have hchanges : zonesField.changes (toJson (({} : Instance).merge listed)) (toJson i) ≠ false := by
        intro hsame
        refine hone ⟨zone, hzone, hempty, StringSet.ext fun x => ?_⟩
        have hiff := Schema.Field.mem_iff rfl rfl (hknown.trans (get?_zones _)) (get?_zones i) hsame x
        exact hiff.symm
      simpa [hone] using hchanges

/-- **Of an instance that was reported, the fields that an answer cannot tell change, and nothing else.** -/
theorem changes_of_reported (h : i.ReportedBy listed)
    (hcheck : (resource billing).check ((resource billing).toJson i) = .ok ()) :
    ∀ f ∈ (schema billing).fields,
      f.changes (toJson (({} : Instance).merge listed)) (toJson i) = (untold billing i).contains f.name := by
  have hv : (schema billing).violation? (toJson i) = none := Resource.violation?_of_check hcheck
  -- all other fields are told in full
  have hother : ∀ {f : Schema.Field}, f.name ∉ ["zones", "period", "security_group_id"] →
      f.changes (toJson (({} : Instance).merge listed)) (toJson i) = false →
      f.changes (toJson (({} : Instance).merge listed)) (toJson i) = (untold billing i).contains f.name := by
    intro f hname hsame
    simp only [List.mem_cons, List.not_mem_nil, or_false, not_or] at hname
    rw [hsame, eq_comm, Bool.eq_false_iff, Ne, List.contains_iff_mem, mem_untold]
    simp [hname]
  have htags : listed.tags.getD ({} : Instance).tags = i.tags := h.tags
  intro f hf
  have hset : f.presence = .required → isSet ((toJson i).get? f.name) = true :=
    fun hp => Schema.isSet_of_required hv ⟨f, hf, rfl, hp⟩
  have hfield := mem_fields hf
  simp only [commonFields, List.mem_cons, List.not_mem_nil, or_false] at hfield
  rcases hfield with rfl | rfl | rfl | rfl | rfl | rfl | rfl | rfl | rfl | rfl | rfl | rfl | rfl
  · rw [zones_changes h, Bool.eq_iff_iff, List.contains_iff_mem, mem_untold]
    simp [zonesField]
  · have hbilling : billing = .prepaid := by
      cases billing with
      | prepaid => rfl
      | hourly => exact absurd hf (by decide)
    rw [Schema.Field.changes_of_set (by decide) _ (hset rfl), eq_comm, List.contains_iff_mem, mem_untold]
    · exact .inr (.inl ⟨rfl, hbilling⟩)
    · rw [show periodField.name = "period" from rfl, get?_period]
      rfl
  · exact hother (by decide) (Schema.Field.not_changes_of_reports h.memory
      (get?_of_present (by simp) (by simp [merge])) (get?_of_present (by simp) (by simp)) (.inl ⟨rfl, hset rfl⟩))
  · exact hother (by decide) (Schema.Field.not_changes_of_reports h.storage
      (get?_of_present (by simp) (by simp [merge])) (get?_of_present (by simp) (by simp)) (.inl ⟨rfl, hset rfl⟩))
  · exact hother (by decide) (Schema.Field.not_changes_of_reports h.nodeCount
      (get?_of_present (by simp) (by simp [merge])) (get?_of_present (by simp) (by simp)) (.inl ⟨rfl, hset rfl⟩))
  · exact hother (by decide) (Schema.Field.not_changes_of_reports h.shardCount
      (get?_of_present (by simp) (by simp [merge])) (get?_of_present (by simp) (by simp)) (.inl ⟨rfl, hset rfl⟩))
  · exact hother (by decide) (Schema.Field.not_changes_of_reports h.vpcId
      (get?_of_present (by simp) (by simp [merge])) (get?_of_present (by simp) (by simp)) (.inr rfl))
  · exact hother (by decide) (Schema.Field.not_changes_of_reports h.subnetId
      (get?_of_present (by simp) (by simp [merge])) (get?_of_present (by simp) (by simp)) (.inr rfl))
  · exact hother (by decide) (Schema.Field.not_changes_of_reports h.versionId
      (get?_of_present (by simp) (by simp [merge])) (get?_of_present (by simp) (by simp)) (.inr rfl))
  · have hprior : (toJson (({} : Instance).merge listed)).get? "security_group_id" = none := get?_securityGroupId _
    rw [Bool.eq_iff_iff, List.contains_iff_mem, mem_untold]
    by_cases hgroup : isSet (i.securityGroupId.map .string) = true
    · refine iff_of_true (Schema.Field.changes_of_set (by decide) ?_ ?_) (.inr (.inr ⟨rfl, hgroup⟩))
      · exact congrArg isSet hprior
      · exact (congrArg isSet (get?_securityGroupId i)).trans hgroup
    · refine iff_of_false (Bool.eq_false_iff.1 (Schema.Field.not_changes_of_unset ?_ ?_)) (by simp [hgroup])
      · exact congrArg isSet hprior
      · exact (congrArg isSet (get?_securityGroupId i)).trans (Bool.eq_false_iff.2 hgroup)
  · exact hother (by decide) (Schema.Field.not_changes_of_reports h.projectId
      (get?_of_present (by simp) (by simp [merge])) (get?_of_present (by simp) (by simp)) (.inr rfl))
  · exact hother (by decide) (Schema.Field.not_changes_of_reports h.name
      (get?_of_present (by simp) (by simp [merge])) (get?_of_present (by simp) (by simp)) (.inr rfl))
  · refine hother (by decide) (Schema.Field.not_changes_of_eq ((get?_tags _).trans ?_))
    rw [merge, htags]
    exact (get?_tags i).symm

/-- The fields that an answer cannot tell are fields of the schema, in its order. -/
theorem names_of_untold (billing : Billing) (i : Instance) :
    ((schema billing).fields.filter fun f => (untold billing i).contains f.name).map Schema.Field.name =
      untold billing i := by
  unfold untold
  by_cases hone : i.HasOneZone <;> by_cases hgroup : isSet (i.securityGroupId.map .string) = true <;>
    cases billing
  all_goals
    simp only [hone, hgroup, if_true, if_false]
    decide

theorem immutable_of_untold : ∀ f ∈ (schema billing).fields, f.name ∈ untold billing i → f.mutability = .immutable := by
  have hall : ∀ f ∈ (schema billing).fields, f.name ∈ ["zones", "period", "security_group_id"] →
      f.mutability = .immutable := by
    cases billing <;> decide
  intro f hf hname
  refine hall f hf ?_
  rcases mem_untold.1 hname with ⟨h, -⟩ | ⟨h, -⟩ | ⟨h, -⟩
  all_goals simp [h]

theorem plan_of_reported {all : List ListedInstance} (h : i.Reported all)
    (hcheck : (resource billing).check ((resource billing).toJson i) = .ok ()) :
    ∃ j, found {} all = some j ∧ (schema billing).plan (some (toJson j)) (toJson i) = .refusing (untold billing i) := by
  obtain ⟨first, hfirst, hreported⟩ := h
  refine ⟨({} : Instance).merge first, ?_, ?_⟩
  · rw [found, hfirst, Option.filter, if_pos (by simpa using hreported.status), Option.map_some]
  · exact Schema.plan_of_changes (changes_of_reported hreported hcheck) (names_of_untold billing i)
      immutable_of_untold

/-- A look-up that is told of an instance finds it. -/
theorem read_of_asked {p : Provider} {id : String} {j : Instance} {all : List ListedInstance} {s : Session}
    (hwritable : p.client.Writable)
    (told : ∀ x : Posting, (⟨x, p.out.reply s.exchanges x⟩ : Exchange).Asks "DescribeDCDBInstances"
      (Provider.instanceQuestion id) → (⟨x, p.out.reply s.exchanges x⟩ : Exchange).outcome instanceList = .ok all)
    (hfound : found i all = some j) :
    ∃ x t, x.posting.action = "DescribeDCDBInstances" ∧ (resource billing).read p id i s = (.ok (some j), t) ∧
      t.exchanges = x :: s.exchanges := by
  obtain ⟨x, t, hasks, -, hr, hx⟩ := Provider.retried_of_asked hwritable (by decide) told (not_transient_ok all)
    .dcdb p.read "DescribeDCDBInstances"
  have hlist : p.describeInstances id s = (.ok all, t) := hr
  refine ⟨x, t, hasks.1, ?_, hx⟩
  change read p id i s = _
  rw [read_eq, Run.bind_ok hlist, hfound]
  rfl

end Instance

/-! ## Any type -/

namespace Kind

/-- An exchange asks about an identity. -/
def AsksAbout : Kind → String → Exchange → Prop
  | .account, id, x => ∃ instanceId userName, Account.parts id = .ok (instanceId, userName) ∧
      x.Asks "DescribeAccounts" (.ofMembers [("InstanceId", .string instanceId)])
  | .instance _, id, x => x.Asks "DescribeDCDBInstances" (Provider.instanceQuestion id)
  | .attachment, _, _ => False

/-- Whenever it is asked about an identity, the vendor tells this. -/
def Describes (k : Kind) (p : Provider) (id : String) (told : k.Answer) : Prop :=
  ∀ xs x, k.AsksAbout id ⟨x, p.out.reply xs x⟩ → (⟨x, p.out.reply xs x⟩ : Exchange).outcome k.answer = .ok told

/-- **An answer about an identity reports the value of a configuration in every field that it has.** -/
def Reported : (k : Kind) → k.Config → String → k.Answer → Prop
  | .account, a, id, accounts => Account.Reported a id accounts
  | .instance _, i, _, listed => Instance.Reported i listed
  | .attachment, _, _, _ => True

/-- **The fields of a configuration that an answer cannot tell, or not in full.** -/
def untold : (k : Kind) → k.Config → List String
  | .account, _ => Account.untold
  | .instance billing, i => Instance.untold billing i
  | .attachment, _ => []

variable {p : Provider} {id : String}

/-- The plan for what a first look-up finds. -/
theorem plan_of_reported : ∀ {k : Kind} {desired : k.Config} {told : k.Answer}, k ≠ .attachment →
    k.resource.check (k.resource.toJson desired) = .ok () → k.Reported desired id told →
    ∃ a, k.shown told id k.resource.record.blank = some a ∧
      k.schema.plan (some (k.resource.toJson a)) (k.resource.toJson desired) = .refusing (k.untold desired)
  | .account, _, _, _, hcheck, h => Account.plan_of_reported h hcheck
  | .instance _, _, _, _, hcheck, h => Instance.plan_of_reported h hcheck
  | .attachment, _, _, hk, _, _ => absurd rfl hk

/-- **A look-up finds what the vendor tells of the identity**, with one question. -/
theorem read_of_describes (hwritable : p.client.Writable) (s : Session) : ∀ {k : Kind} {told : k.Answer}
    {a b : k.Config}, k.Describes p id told → k.shown told id a = some b →
    ∃ x t, x.posting.action = k.question ∧ k.resource.read p id a s = (.ok (some b), t) ∧ t.exchanges = x :: s.exchanges
  | .account, _, _, _, htold, hshown => by
    obtain ⟨instanceId, userName, hparts, hfound⟩ := Account.parts_of_shown hshown
    exact Account.read_of_asked hwritable hparts (fun x hx => htold s.exchanges x ⟨instanceId, userName, hparts, hx⟩)
      hfound
  | .instance _, _, _, _, htold, hshown => Instance.read_of_asked hwritable (fun x hx => htold s.exchanges x hx) hshown
  | .attachment, _, _, _, _, hshown => by cases hshown

/-- A plan in which nothing can change is carried out without a call. -/
theorem execute_of_refusing {α : Type} (r : Resource α) (p : Provider) (names : List String) (st : ResourceState α)
    (desired : α) (s : Session) : r.execute p (.refusing names) st desired s = ⟨refusal names, st, s⟩ := by
  cases names with
  | nil => exact Resource.execute_of_noOp rfl
  | cons name rest => exact Resource.execute_of_reject rfl

section Imported

variable {k : Kind} {desired : k.Config} {told : k.Answer}

/-- What is known after the import of a resource of which it is known what the plan is. -/
theorem imported_of_shown {a : k.Config} {names : List String} (hwritable : p.client.Writable) (hne : id ≠ "")
    (hcheck : k.resource.check (k.resource.toJson desired) = .ok ()) (htold : k.Describes p id told)
    (hshown : k.shown told id k.resource.record.blank = some a)
    (hplan : k.schema.plan (some (k.resource.toJson a)) (k.resource.toJson desired) = .refusing names) (s : Session) :
    ∃ t u x y, k.resource.importFrom p id s = (.ok ⟨id, a⟩, t) ∧
      k.resource.plan (some ⟨id, a⟩) desired = .ok (.refusing names) ∧
      k.resource.apply p ⟨id, a⟩ desired t = ⟨refusal names, ⟨id, a⟩, u⟩ ∧
      u.exchanges = y :: x :: s.exchanges ∧ x.posting.action = k.question ∧ y.posting.action = k.question := by
  obtain ⟨x, t, hx, hread, ht⟩ := read_of_describes hwritable s htold hshown
  obtain ⟨y, u, hy, hagain, hu⟩ := read_of_describes hwritable t htold (shown_of_shown hshown)
  have hpresent : (⟨id, a⟩ : ResourceState k.Config).present = true := ResourceState.present_iff.2 hne
  have hplans : k.resource.Plans p ⟨id, a⟩ desired t _ ⟨id, a⟩ u := Resource.plans_of_read hcheck hpresent hagain
  rw [show k.resource.schema = k.schema from rfl, hplan] at hplans
  refine ⟨t, u, x, y, Resource.importFrom_of_some hne hread, hplans.plan, ?_, by rw [hu, ht], hx, hy⟩
  rw [hplans.apply_eq, execute_of_refusing]

/-- **A resource of which the vendor reports the value of a configuration in every field that its answer has is found
by an import, and the application of the configuration after that only asks. Exactly the fields that an answer cannot
tell change, and the application succeeds if there are none.** -/
theorem apply_imported (hwritable : p.client.Writable) (hk : k ≠ .attachment) (hne : id ≠ "")
    (hcheck : k.resource.check (k.resource.toJson desired) = .ok ()) (hreported : k.Reported desired id told)
    (htold : k.Describes p id told) (s : Session) :
    ∃ a t u xs, k.resource.importFrom p id s = (.ok ⟨id, a⟩, t) ∧
      k.resource.plan (some ⟨id, a⟩) desired = .ok (.refusing (k.untold desired)) ∧
      k.resource.apply p ⟨id, a⟩ desired t = ⟨refusal (k.untold desired), ⟨id, a⟩, u⟩ ∧
      u.exchanges = xs ++ s.exchanges ∧ mutations xs = [] := by
  obtain ⟨a, hshown, hplan⟩ := plan_of_reported hk hcheck hreported
  obtain ⟨t, u, x, y, himport, hplans, happly, hu, hx, hy⟩ :=
    imported_of_shown hwritable hne hcheck htold hshown hplan s
  exact ⟨a, t, u, [y, x], himport, hplans, happly, hu, by simp [mutations, hx, hy, isQuestion_question]⟩

end Imported

end Kind

/-! ## An instance that is managed after its import, and an account that is not -/

namespace Instance

/-- An instance in one zone. -/
def single : Instance where
  zones := .singleton "ap-guangzhou-3"
  shardMemory := some 2
  shardStorage := some 10
  shardNodeCount := some 2
  shardCount := some 2
  name := some "orders"

/-- How it is written in a list. -/
def singleListed : Json :=
  .object [("InstanceName", .string "orders"), ("Zone", .string "ap-guangzhou-3"), ("Status", .int 2),
    ("Memory", .int 2), ("Storage", .int 10), ("NodeCount", .int 2), ("ShardCount", .int 2),
    ("UniqueVpcId", .string "vpc-1")]

/-- An answer that lists it. -/
def singleText : String := (Json.object [("Response", .object [("Instances", .array [singleListed])])]).pretty

/-- How it is read. -/
def listedSingle : ListedInstance where
  name := some "orders"
  zone := some "ap-guangzhou-3"
  status := some 2
  memory := some 2
  storage := some 10
  nodeCount := some 2
  shardCount := some 2
  vpcId := some "vpc-1"

theorem fits_single : Json.Fits 126 (.object [("Instances", .array [singleListed])]) := by
  simp only [singleListed, Json.Fits, Json.FitsMembers, Json.FitsItems, Number.Legible, Json.Readable]
  decide

theorem outcome_single (x : Posting) : (⟨x, .answer 200 singleText⟩ : Exchange).outcome instanceList =
    .ok [listedSingle] :=
  (Exchange.outcome_telling fits_single (by decide) instanceList).trans rfl

theorem check_single : (resource .hourly).check ((resource .hourly).toJson single) = .ok () := by
  have valid : (resource .hourly).schema.violation? ((resource .hourly).toJson single) = none := by decide +kernel
  rw [Resource.check, valid]

theorem reported_single : single.Reported [listedSingle] := by
  have unset : ∀ {α : Type} {enc : α → Json} {told : Option α}, Reports enc told none :=
    fun h => absurd h (by simp [isSet])
  exact ⟨listedSingle, rfl,
    { status := by decide
      zone := ⟨"ap-guangzhou-3", StringSet.mem_singleton.2 rfl, rfl⟩
      memory := fun _ => rfl
      storage := fun _ => rfl
      nodeCount := fun _ => rfl
      shardCount := fun _ => rfl
      vpcId := unset
      subnetId := unset
      versionId := unset
      projectId := unset
      name := fun _ => rfl
      tags := rfl }⟩

end Instance

/-- An instance that is paid by the hour and lies in one zone is managed after its import. -/
theorem Kind.apply_imported_single : ∃ i t u,
    (Instance.resource .hourly).importFrom (.saying Instance.singleText) "tdsqlshard-1" {} =
      (.ok ⟨"tdsqlshard-1", i⟩, t) ∧
    (Instance.resource .hourly).plan (some ⟨"tdsqlshard-1", i⟩) Instance.single = .ok ⟨.noOp, [], []⟩ ∧
    (Instance.resource .hourly).apply (.saying Instance.singleText) ⟨"tdsqlshard-1", i⟩ Instance.single t =
      ⟨.ok (), ⟨"tdsqlshard-1", i⟩, u⟩ ∧ mutations u.exchanges = [] := by
  have huntold : Kind.untold (.instance .hourly) Instance.single = [] := by decide
  have hreported : Kind.Reported (.instance .hourly) Instance.single "tdsqlshard-1" [Instance.listedSingle] :=
    Instance.reported_single
  have htold : Kind.Describes (.instance .hourly) (.saying Instance.singleText) "tdsqlshard-1"
      [Instance.listedSingle] := fun _ x _ => Instance.outcome_single x
  obtain ⟨i, t, u, xs, himport, hplan, happly, hu, hmutations⟩ :=
    Kind.apply_imported (k := .instance .hourly) Client.plain_writable (by decide) (by decide) Instance.check_single
      hreported htold {}
  rw [huntold] at hplan happly
  exact ⟨i, t, u, himport, hplan, happly, by rw [hu]; simpa using hmutations⟩

namespace Account

theorem outcome_named (x : Posting) : (⟨x, .answer 200 namedText⟩ : Exchange).outcome accountList = .ok namedList := by
  cbv

theorem reported_sample : sample.Reported "dcdbt-1#root" namedList where
  identified := ⟨"dcdbt-1", by rfl, .inl rfl⟩
  named := fun _ hname => .inr (Option.some.inj hname).symm
  entry := by
    refine ⟨{ userName := some "root", host := some "%" }, rfl, ?_⟩
    exact ⟨rfl, fun h => absurd h (by simp [sample, isSet]), rfl, fun h => absurd h (by simp [sample, isSet])⟩

/-- **The vendor reports all that it can tell of an account, and the account is imported, but the application after
that is refused for its password.** -/
theorem imported_refused : resource.check (resource.toJson sample) = .ok () ∧
    sample.Reported "dcdbt-1#root" namedList ∧
    Kind.account.Describes (.saying namedText) "dcdbt-1#root" namedList ∧
    ∃ a t u, resource.importFrom (.saying namedText) "dcdbt-1#root" {} = (.ok ⟨"dcdbt-1#root", a⟩, t) ∧
      resource.plan (some ⟨"dcdbt-1#root", a⟩) sample = .ok ⟨.reject, ["password"], ["password"]⟩ ∧
      resource.apply (.saying namedText) ⟨"dcdbt-1#root", a⟩ sample t =
        ⟨.error (.notUpdatable "password"), ⟨"dcdbt-1#root", a⟩, u⟩ := by
  have htold : Kind.account.Describes (.saying namedText) "dcdbt-1#root" namedList := fun _ x _ => outcome_named x
  obtain ⟨a, hshown, hplan⟩ := plan_of_reported reported_sample check_sample
  obtain ⟨t, u, -, -, himport, hplans, happly, -⟩ := Kind.imported_of_shown (k := .account) Client.plain_writable
    (by decide) check_sample htold hshown hplan {}
  exact ⟨check_sample, reported_sample, htold, a, t, u, himport, hplans, happly⟩

end Account

end Provision
