import Provision.Proofs.Resource.AccountHost
import Provision.Proofs.Schema.Comparison

/-!
# Answers that agree with a configuration

An answer agrees with a configuration if it confirms what the configuration sets, and tells nothing of an optional field
that the configuration leaves out, unless the vendor may choose its value (`Account.Agrees`, `Instance.Agrees`). Main
statement: what is known of a resource after a look-up that started from a configuration, and was answered in
agreement with it, differs in no field from the configuration (`Account.unchanged_merge`, `Instance.unchanged_merge`).
-/

namespace Provision

open Json Vendor

/-- What is told of a value is the value, if that is set. -/
def Confirms {α : Type} (enc : α → Json) (told known : Option α) : Prop :=
  ∀ v ∈ told, isSet (known.map enc) = true → known = some v

/-- A field that must be set, or that the vendor chooses, does not change by what confirms it. -/
theorem Schema.Field.not_changes_of_confirms {α : Type} {enc : α → Json} {told known : Option α} {f : Schema.Field}
    {prior desired : Json} (h : Confirms enc told known)
    (hprior : prior.get? f.name = (told.or known).map enc) (hdesired : desired.get? f.name = known.map enc)
    (hp : f.presence = .required ∧ isSet (desired.get? f.name) = true ∨ f.presence = .optionalComputed) :
    f.changes prior desired = false := by
  cases told with
  | none => exact not_changes_of_eq (hprior.trans hdesired.symm)
  | some v =>
    by_cases hset : isSet (known.map enc) = true
    · have hknown : known = some v := h v rfl hset
      refine not_changes_of_eq ?_
      rw [hprior, hdesired, hknown]
      rfl
    · have hunset : isSet (desired.get? f.name) = false := by simpa [hdesired] using hset
      rcases hp with ⟨-, hreq⟩ | hchosen
      · rw [hunset] at hreq
        cases hreq
      · exact not_changes_of_chosen hchosen hunset

/-! ## Accounts -/

namespace Account

/-- An entry of a list agrees with an account. -/
structure Confirmed (a : Account) (listed : ListedAccount) : Prop where
  host : ∀ host ∈ listed.host, host = a.host
  readOnly : Confirms Json.int listed.readOnly a.readOnly
  description : ∀ description ∈ listed.description, description = a.description.getD ""
  maxUserConnections : Confirms (fun n : Nat => Json.int n) listed.maxUserConnections a.maxUserConnections

/-- An answer that names an instance names this one. -/
def NamesOnly (instanceId : String) (named : Option String) : Prop := ∀ name ∈ named, name = "" ∨ name = instanceId

/-- An answer agrees with an account: it names no other instance, and the first entry of the user name agrees. -/
structure Agrees (a : Account) (accounts : AccountList) : Prop where
  named : NamesOnly a.instanceId accounts.instanceId
  confirmed : ∀ listed, accounts.users.find? (·.userName == some a.userName) = some listed → a.Confirmed listed

theorem instanceOr_of_namesOnly {instanceId : String} {named : Option String} (h : NamesOnly instanceId named) :
    instanceOr named instanceId = instanceId := by
  cases named with
  | none => exact instanceOr_of_same (.inl rfl)
  | some name =>
    rcases h name rfl with rfl | rfl
    · exact instanceOr_of_same (.inr (.inl rfl))
    · exact instanceOr_of_same (.inr (.inr rfl))

variable {a : Account} {listed : ListedAccount}

theorem get?_password (a : Account) : (toJson a).get? "password" = some (.string a.password) :=
  get?_of_present (by simp) (by simp)

/-- A description that is told although none is desired is the empty one. -/
theorem not_changes_description {f : Schema.Field} {prior desired : Json} (h : a.Confirmed listed)
    (hprior : prior.get? f.name = (listed.description.or a.description).map .string)
    (hdesired : desired.get? f.name = a.description.map .string) : f.changes prior desired = false := by
  cases hl : listed.description with
  | none =>
    rw [hl, Option.none_or] at hprior
    exact Schema.Field.not_changes_of_eq (hprior.trans hdesired.symm)
  | some told =>
    have htold : told = a.description.getD "" := h.description told hl
    rw [hl] at hprior
    cases ha : a.description with
    | none =>
      have hempty : told = "" := by rw [htold, ha, Option.getD_none]
      refine Schema.Field.not_changes_of_unset ?_ ?_
      · rw [hprior, hempty]
        rfl
      · rw [hdesired, ha]
        rfl
    | some description =>
      have hsame : told = description := by rw [htold, ha, Option.getD_some]
      refine Schema.Field.not_changes_of_eq ?_
      rw [hprior, hdesired, ha, hsame]
      rfl

/-- **What agrees with an account changes no field of it.** -/
theorem unchanged_merge (h : a.Confirmed listed) :
    schema.changedFields (toJson (a.merge a.instanceId a.userName listed)) (toJson a) = [] := by
  have hhost : listed.host.getD a.host = a.host := by
    cases hl : listed.host with
    | none => rfl
    | some host => exact h.host host hl
  -- a natural number becomes an integer before it becomes a value
  have hnat : ∀ n : Option Nat, (n : Option Int).map Json.int = n.map fun n : Nat => Json.int n := by
    intro n
    cases n <;> rfl
  refine Schema.changedFields_eq_nil fun f hf => ?_
  simp only [schema, List.mem_cons, List.not_mem_nil, or_false] at hf
  rcases hf with rfl | rfl | rfl | rfl | rfl | rfl | rfl
  · exact Schema.Field.not_changes_of_eq ((get?_instanceId _).trans (get?_instanceId a).symm)
  · exact Schema.Field.not_changes_of_eq ((get?_userName _).trans (get?_userName a).symm)
  · refine Schema.Field.not_changes_of_eq ?_
    rw [get?_host, get?_host, merge, hhost]
  · exact Schema.Field.not_changes_of_eq ((get?_password _).trans (get?_password a).symm)
  · exact Schema.Field.not_changes_of_confirms h.readOnly (get?_of_present (by simp) (by simp [merge]))
      (get?_of_present (by simp) (by simp)) (.inr rfl)
  · exact not_changes_description h (get?_of_present (by simp) (by simp [merge]))
      (get?_of_present (by simp) (by simp))
  · exact Schema.Field.not_changes_of_confirms h.maxUserConnections
      ((get?_of_present (by simp) (by simp [merge])).trans (hnat _))
      ((get?_of_present (by simp) (by simp)).trans (hnat _)) (.inr rfl)

end Account

/-! ## Instances -/

namespace Instance

/-- An entry of a list agrees with an instance. Of its zones only the first one is told. -/
structure Confirmed (i : Instance) (listed : ListedInstance) : Prop where
  zone : ∀ zone ∈ listed.zone, zone = "" ∨ zone ∈ i.zones
  memory : Confirms Json.int listed.memory i.shardMemory
  storage : Confirms Json.int listed.storage i.shardStorage
  nodeCount : Confirms Json.int listed.nodeCount i.shardNodeCount
  shardCount : Confirms Json.int listed.shardCount i.shardCount
  vpcId : Confirms Json.string listed.vpcId i.vpcId
  subnetId : Confirms Json.string listed.subnetId i.subnetId
  versionId : Confirms Json.string listed.versionId i.versionId
  projectId : Confirms Json.int listed.projectId i.projectId
  name : Confirms Json.string listed.name i.name
  tags : ∀ tags ∈ listed.tags, tags = i.tags

/-- An answer agrees with an instance if its first entry does. -/
def Agrees (i : Instance) (listed : List ListedInstance) : Prop :=
  ∀ first, listed.head? = some first → i.Confirmed first

variable {i : Instance} {listed : ListedInstance} {billing : Billing}

theorem get?_zones (i : Instance) : (toJson i).get? "zones" = some (.array (i.zones.toList.map .string)) :=
  get?_of_present (by simp) (by simp)

theorem get?_period (i : Instance) : (toJson i).get? "period" = i.period.map Json.int :=
  get?_of_present (by simp) (by simp)

theorem get?_securityGroupId (i : Instance) :
    (toJson i).get? "security_group_id" = i.securityGroupId.map Json.string :=
  get?_of_present (by simp) (by simp)

theorem get?_tags (i : Instance) : (toJson i).get? "resource_tags" = tagsValue tagToJson i.tags :=
  get?_of_present (by simp) (by simp)

theorem mergeZones_of_mem {zones : StringSet} {told : Option String} (h : ∀ zone ∈ told, zone = "" ∨ zone ∈ zones) :
    mergeZones zones told = zones := by
  unfold mergeZones
  cases hf : told.filter (· ≠ "") with
  | none => rfl
  | some zone =>
    obtain ⟨htold, hne⟩ := Option.filter_eq_some_iff.1 hf
    have hmem : zone ∈ zones := (h zone htold).resolve_left (by simpa using hne)
    simp [hmem]

theorem mem_fields {f : Schema.Field} (h : f ∈ (schema billing).fields) :
    f = zonesField ∨ f = periodField ∨ f ∈ commonFields := by
  cases billing with
  | prepaid => simpa [schema] using h
  | hourly => exact (List.mem_cons.1 h).imp_right .inr

/-- **What agrees with an instance changes no field of it.** -/
theorem unchanged_merge (h : i.Confirmed listed)
    (hcheck : (resource billing).check ((resource billing).toJson i) = .ok ()) :
    (schema billing).changedFields (toJson (i.merge listed)) (toJson i) = [] := by
  have hv : (schema billing).violation? (toJson i) = none := Resource.violation?_of_check hcheck
  have hzones : mergeZones i.zones listed.zone = i.zones := mergeZones_of_mem h.zone
  have htags : listed.tags.getD i.tags = i.tags := by
    cases hl : listed.tags with
    | none => rfl
    | some tags => exact h.tags tags hl
  refine Schema.changedFields_eq_nil fun f hf => ?_
  have hset : f.presence = .required → isSet ((toJson i).get? f.name) = true :=
    fun hp => Schema.isSet_of_required hv ⟨f, hf, rfl, hp⟩
  have hf := mem_fields hf
  simp only [commonFields, List.mem_cons, List.not_mem_nil, or_false] at hf
  rcases hf with rfl | rfl | rfl | rfl | rfl | rfl | rfl | rfl | rfl | rfl | rfl | rfl | rfl
  · refine Schema.Field.not_changes_of_eq ((get?_zones _).trans ?_)
    rw [merge, hzones]
    exact (get?_zones i).symm
  · exact Schema.Field.not_changes_of_eq ((get?_period _).trans (get?_period i).symm)
  · exact Schema.Field.not_changes_of_confirms h.memory (get?_of_present (by simp) (by simp [merge]))
      (get?_of_present (by simp) (by simp)) (.inl ⟨rfl, hset rfl⟩)
  · exact Schema.Field.not_changes_of_confirms h.storage (get?_of_present (by simp) (by simp [merge]))
      (get?_of_present (by simp) (by simp)) (.inl ⟨rfl, hset rfl⟩)
  · exact Schema.Field.not_changes_of_confirms h.nodeCount (get?_of_present (by simp) (by simp [merge]))
      (get?_of_present (by simp) (by simp)) (.inl ⟨rfl, hset rfl⟩)
  · exact Schema.Field.not_changes_of_confirms h.shardCount (get?_of_present (by simp) (by simp [merge]))
      (get?_of_present (by simp) (by simp)) (.inl ⟨rfl, hset rfl⟩)
  · exact Schema.Field.not_changes_of_confirms h.vpcId (get?_of_present (by simp) (by simp [merge]))
      (get?_of_present (by simp) (by simp)) (.inr rfl)
  · exact Schema.Field.not_changes_of_confirms h.subnetId (get?_of_present (by simp) (by simp [merge]))
      (get?_of_present (by simp) (by simp)) (.inr rfl)
  · exact Schema.Field.not_changes_of_confirms h.versionId (get?_of_present (by simp) (by simp [merge]))
      (get?_of_present (by simp) (by simp)) (.inr rfl)
  · exact Schema.Field.not_changes_of_eq ((get?_securityGroupId _).trans (get?_securityGroupId i).symm)
  · exact Schema.Field.not_changes_of_confirms h.projectId (get?_of_present (by simp) (by simp [merge]))
      (get?_of_present (by simp) (by simp)) (.inr rfl)
  · exact Schema.Field.not_changes_of_confirms h.name (get?_of_present (by simp) (by simp [merge]))
      (get?_of_present (by simp) (by simp)) (.inr rfl)
  · refine Schema.Field.not_changes_of_eq ((get?_tags _).trans ?_)
    rw [merge, htags]
    exact (get?_tags i).symm

end Instance

end Provision
