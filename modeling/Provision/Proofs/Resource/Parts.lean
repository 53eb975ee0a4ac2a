import Provision.Proofs.Identity
import Provision.Resource.Kind

/-!
# What identities are made of

The identity of an account has two parts, that of an attachment as well, and the first part of the latter names an
instance. Any other identity is broken (`Kind.Broken`), which is what reading it back finds out
(`Account.broken_iff`, `Attachment.broken_iff`).
-/

namespace Provision

open Text

/-- An identity of two parts with a separator between them. -/
def Identity.HasParts (id a b : String) : Prop := IsPart a ∧ IsPart b ∧ id = a ++ String.singleton separator ++ b

theorem Identity.hasParts_iff {id a b : String} : HasParts id a b ↔ pair id = .ok (a, b) := by
  have hjoin : join [a, b] = a ++ String.singleton separator ++ b := by
    refine String.toList_inj.1 ?_
    simp [join, Segments.join]
  rw [pair_eq_ok_iff]
  constructor
  · rintro ⟨ha, hb, rfl⟩
    rw [← hjoin]
    exact split?_two_join_iff.2 ⟨ha, hb⟩
  · intro h
    obtain ⟨rfl, -, hparts⟩ := of_split? h
    exact ⟨hparts a (by simp), hparts b (by simp), hjoin⟩

namespace Account

theorem parts_error {id : String} {e : Failure} (h : parts id = .error e) : e = .brokenId id := Identity.pair_eq_error h

theorem broken_iff {id : String} :
    (¬∃ instanceId userName, Identity.HasParts id instanceId userName) ↔ parts id = .error (.brokenId id) := by
  simp only [Identity.hasParts_iff]
  unfold parts
  cases h : Identity.pair id with
  | error e => simp [Identity.pair_eq_error h]
  | ok p => simpa using ⟨p.1, p.2, rfl⟩

end Account

namespace Attachment

/-- A list with commas names an instance if something is left of one of its items when it is trimmed. -/
def Names (list : String) : Prop := ∃ item ∈ Segments.split instanceSeparator list.toList, trim item ≠ []

theorem names_iff {list : String} : Names list ↔ (instancesOf list).isEmpty = false := by
  have hempty : (instancesOf list).isEmpty = true ↔ ∀ i, i ∉ instancesOf list := by
    rw [StringSet.isEmpty, List.isEmpty_iff, List.eq_nil_iff_forall_not_mem]
    rfl
  rw [← Bool.not_eq_true, hempty, Names]
  simp only [instancesOf, StringSet.mem_ofList, List.mem_filter, List.mem_map]
  constructor
  · rintro ⟨item, hitem, htrim⟩ hnone
    refine hnone (String.ofList (trim item)) ⟨⟨item, hitem, rfl⟩, ?_⟩
    simpa using htrim
  · refine fun h => Classical.byContradiction fun hno => h fun i hi => ?_
    obtain ⟨⟨item, hitem, rfl⟩, hne⟩ := hi
    refine hno ⟨item, hitem, fun htrim => ?_⟩
    rw [htrim] at hne
    exact absurd hne (by simp)

theorem parts_error {id : String} {e : Failure} (h : parts id = .error e) : e = .brokenId id := by
  rw [parts] at h
  split at h
  · rename_i hpair
    obtain rfl := Except.error.inj h
    exact Identity.pair_eq_error hpair
  · dsimp only at h
    split at h
    · exact (Except.error.inj h).symm
    · cases h

theorem broken_iff {id : String} : (¬∃ list group, Identity.HasParts id list group ∧ Names list) ↔
    parts id = .error (.brokenId id) := by
  simp only [Identity.hasParts_iff, names_iff]
  unfold parts
  cases h : Identity.pair id with
  | error e => simp [Identity.pair_eq_error h]
  | ok p =>
    obtain ⟨list, group⟩ := p
    cases hempty : (instancesOf list).isEmpty <;> simp [hempty]

end Attachment

/-- **An identity of which a type of resources can make nothing**: it has not two parts, or its first part names no
instance where it should. Instances take every identity. -/
def Kind.Broken : Kind → String → Prop
  | .account, id => ¬∃ instanceId userName, Identity.HasParts id instanceId userName
  | .instance _, _ => False
  | .attachment, id => ¬∃ list group, Identity.HasParts id list group ∧ Attachment.Names list

/-- Reading an identity back only fails if it is broken. -/
theorem Account.broken_of_parts {id : String} {e : Failure} (h : parts id = .error e) : Kind.account.Broken id :=
  broken_iff.2 (parts_error h ▸ h)

@[inherit_doc Account.broken_of_parts]
theorem Attachment.broken_of_parts {id : String} {e : Failure} (h : parts id = .error e) :
    Kind.attachment.Broken id :=
  broken_iff.2 (parts_error h ▸ h)

end Provision
