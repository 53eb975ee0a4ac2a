import Provision.Proofs.Json.Members
import Provision.Proofs.Resource.AttachmentIdentity
import Provision.Proofs.Resource.Creation
import Provision.Proofs.Schema.Validation

/-!
# Identities of created resources

A creation makes the identity of texts that the schema does not look into: it only asks that they are set. So the
identity reads back as these texts if they can stand in an identity, and otherwise it does not.
-/

namespace Provision

namespace Resource

variable {α : Type} {r : Resource α}

theorem violation?_of_check {v : Json} (h : r.check v = .ok ()) : r.schema.violation? v = none := by
  rw [check] at h
  split at h
  · cases h
  · assumption

end Resource

namespace Account

open Json

theorem get?_instanceId (a : Account) : (toJson a).get? "instance_id" = some (.string a.instanceId) := by
  rw [toJson, get?_ofMembers, reverse_present]
  simp

theorem get?_userName (a : Account) : (toJson a).get? "user_name" = some (.string a.userName) := by
  rw [toJson, get?_ofMembers, reverse_present]
  simp

/-- A checked account names an instance and a user. -/
theorem named_of_check {a : Account} (h : resource.check (resource.toJson a) = .ok ()) :
    a.instanceId ≠ "" ∧ a.userName ≠ "" := by
  have hv : schema.violation? (toJson a) = none := Resource.violation?_of_check h
  have hi := Schema.isSet_of_required hv (by decide : schema.Requires "instance_id")
  have hu := Schema.isSet_of_required hv (by decide : schema.Requires "user_name")
  rw [get?_instanceId] at hi
  rw [get?_userName] at hu
  exact ⟨by simpa [isSet] using hi, by simpa [isSet] using hu⟩

/-- A part that is set can stand in an identity if it has no separator. -/
theorem split?_identity_iff {instanceId userName : String} (hi : instanceId ≠ "") (hu : userName ≠ "") :
    Identity.split? 2 (identity instanceId userName) = some [instanceId, userName] ↔
      Identity.separator ∉ instanceId.toList ∧ Identity.separator ∉ userName.toList := by
  rw [identity, Identity.split?_two_join_iff]
  exact ⟨fun h => ⟨h.1.2, h.2.2⟩, fun h => ⟨⟨hi, h.1⟩, hu, h.2⟩⟩

/-- An identity with a separator too many is broken. -/
theorem parts_identity_error {instanceId userName : String}
    (h : ¬(Identity.separator ∉ instanceId.toList ∧ Identity.separator ∉ userName.toList)) :
    parts (identity instanceId userName) = .error (.brokenId (identity instanceId userName)) := by
  unfold parts
  cases hp : Identity.pair (identity instanceId userName) with
  | error e => rw [Identity.pair_eq_error hp]
  | ok named => exact absurd (Identity.not_mem_of_split?_join (Identity.pair_eq_ok_iff.1 hp)) h

theorem instanceOr_of_same {named : Option String} {known : String}
    (h : named = none ∨ named = some "" ∨ named = some known) : instanceOr named known = known := by
  rcases h with rfl | rfl | rfl
  · rfl
  · rfl
  · by_cases hk : known = "" <;> simp [instanceOr, Option.filter, hk]

end Account

namespace Attachment

open Json

theorem get?_securityGroupId (a : Attachment) :
    (toJson a).get? "security_group_id" = some (.string a.securityGroupId) := by
  rw [toJson, get?_ofMembers]
  simp [find]

theorem get?_instanceIds (a : Attachment) :
    (toJson a).get? "instance_ids" = some (.array (a.instanceIds.toList.map .string)) := by
  rw [toJson, get?_ofMembers]
  simp [find]

/-- A checked attachment names a group and an instance. -/
theorem named_of_check {a : Attachment} (h : resource.check (resource.toJson a) = .ok ()) :
    a.securityGroupId ≠ "" ∧ a.instanceIds.toList ≠ [] := by
  have hv : schema.violation? (toJson a) = none := Resource.violation?_of_check h
  have hg := Schema.isSet_of_required hv (by decide : schema.Requires "security_group_id")
  have hi := Schema.isSet_of_required hv (by decide : schema.Requires "instance_ids")
  rw [get?_securityGroupId] at hg
  rw [get?_instanceIds] at hi
  exact ⟨by simpa [isSet] using hg, by simpa [isSet] using hi⟩

end Attachment

/-- The attachment that is created. -/
def Attachment.sample : Attachment := ⟨"dcdb", "sg-1", .singleton "dcdbt-1"⟩

theorem Attachment.check_sample : resource.check (resource.toJson sample) = .ok () := by
  have valid : resource.schema.violation? (resource.toJson sample) = none := by decide +kernel
  rw [Resource.check, valid]

theorem Attachment.associate_of_refusing (product group : String) (instances : StringSet) (s : Session) :
    ∃ t, Provider.refusing.associateSecurityGroups product group instances s = (.ok (), t) := by
  have told : ∀ x : Posting, x.action = "AssociateSecurityGroups" →
      (⟨x, Provider.refusing.out.reply s.exchanges x⟩ : Exchange).outcome Vendor.acknowledgement = .ok () := by
    intro x hx
    have hchange : isQuestion x.action = false := by rw [hx]; decide
    rw [Exchange.outcome, Provider.content_of_change hchange]
    rfl
  obtain ⟨-, t, -, -, hr, -⟩ := Provider.retried_of_writable Client.plain_writable (by decide) told
    (not_transient_ok ()) .dcdb (Vendor.bindingBody product group instances) Provider.refusing.write
    "AssociateSecurityGroups"
  exact ⟨t, hr⟩

/-- **The identity of a created resource reads back as the configuration has it if and only if the texts in it can
stand in an identity.** The schema does not ask for that: an account with a separator in a name gets an identity that
is broken. -/
theorem created_identities (p : Provider) :
    (∀ (a : Account) (s t : Session) (named : Option String),
      Account.resource.check (Account.resource.toJson a) = .ok () →
      p.createAccount a.creationBody s = (.ok named, t) →
      (named = none ∨ named = some "" ∨ named = some a.instanceId) →
      ∃ id, Account.create p a s = (.ok id, t) ∧
        (Identity.split? 2 id = some [a.instanceId, a.userName] ↔
          Identity.separator ∉ a.instanceId.toList ∧ Identity.separator ∉ a.userName.toList) ∧
        (¬(Identity.separator ∉ a.instanceId.toList ∧ Identity.separator ∉ a.userName.toList) →
          Account.parts id = .error (.brokenId id))) ∧
    ∀ (a : Attachment) (s t : Session),
      Attachment.resource.check (Attachment.resource.toJson a) = .ok () →
      p.associateSecurityGroups a.product a.securityGroupId a.instanceIds s = (.ok (), t) →
      ∃ id, Attachment.create p a s = (.ok id, t) ∧
        (Attachment.parts id = .ok (a.instanceIds, a.securityGroupId) ↔
          Identity.separator ∉ a.securityGroupId.toList ∧ ∀ i ∈ a.instanceIds, Attachment.IsMember i) := by
  refine ⟨fun a s t named hcheck hcreate hnamed => ?_, fun a s t hcheck hcreate => ?_⟩
  · obtain ⟨hi, hu⟩ := Account.named_of_check hcheck
    refine ⟨Account.identity a.instanceId a.userName, ?_, Account.split?_identity_iff hi hu,
      Account.parts_identity_error⟩
    rw [Account.create, Run.bind_ok hcreate, Account.instanceOr_of_same hnamed]
    rfl
  · obtain ⟨hg, hi⟩ := Attachment.named_of_check hcheck
    refine ⟨Attachment.identity a.instanceIds a.securityGroupId, Run.bind_ok hcreate, fun h => ?_, fun h => ?_⟩
    · obtain ⟨-, hgroup, hall⟩ := Attachment.of_parts_identity h
      exact ⟨hgroup.2, hall⟩
    · exact Attachment.parts_identity hi ⟨hg, h.1⟩ h.2

theorem created_identities_sample :
    (∃ id t, Account.create .refusing .sample {} = (.ok id, t) ∧
      Identity.split? 2 id = some ["dcdbt-1", "root"]) ∧
    ∃ id t, Attachment.create .refusing .sample {} = (.ok id, t) ∧
      Attachment.parts id = .ok (.singleton "dcdbt-1", "sg-1") := by
  obtain ⟨-, t, -, -, hcreated, -⟩ := Account.create_of_refusing .sample {}
  obtain ⟨u, hbound⟩ := Attachment.associate_of_refusing "dcdb" "sg-1" (.singleton "dcdbt-1") {}
  constructor
  · obtain ⟨id, hid, hparts, -⟩ :=
      (created_identities .refusing).1 .sample {} t none Account.check_sample hcreated (.inl rfl)
    exact ⟨id, t, hid, hparts.2 (by decide)⟩
  · obtain ⟨id, hid, hparts⟩ :=
      (created_identities .refusing).2 .sample {} u Attachment.check_sample hbound
    refine ⟨id, u, hid, hparts.2 ⟨by decide, fun i hi => ?_⟩⟩
    obtain rfl := StringSet.mem_singleton.1 hi
    exact ⟨by decide, by decide, by decide, by decide⟩

/-- **An account that passes its check and is created may get an identity that is broken.** -/
theorem created_identity_broken : ∃ a t id, Account.resource.check (Account.resource.toJson a) = .ok () ∧
    Provider.refusing.createAccount a.creationBody {} = (.ok none, t) ∧
    Account.create .refusing a {} = (.ok id, t) ∧
    Identity.split? 2 id ≠ some [a.instanceId, a.userName] ∧ Account.parts id = .error (.brokenId id) := by
  let a : Account := { Account.sample with userName := "root#1" }
  have valid : Account.resource.schema.violation? (Account.resource.toJson a) = none := by decide +kernel
  have hsep : ¬(Identity.separator ∉ a.instanceId.toList ∧ Identity.separator ∉ a.userName.toList) := by decide
  obtain ⟨-, t, -, -, hcreated, -⟩ := Account.create_of_refusing a {}
  refine ⟨a, t, _, ?_, hcreated, Run.bind_ok hcreated, fun h => ?_, Account.parts_identity_error hsep⟩
  · rw [Resource.check, valid]
  · exact hsep (Identity.not_mem_of_split?_join h)

end Provision
