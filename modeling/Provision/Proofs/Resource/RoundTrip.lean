import Provision.Proofs.Resource.AccountHost
import Provision.Proofs.Resource.Kept
import Provision.Proofs.Vendor.Numbers

/-!
# Configurations as documents

A configuration that is written as a document is read back from it as it was, if its numbers fit in 64 bits
(`Kind.decode_toJson`). All configurations that are read have such numbers (`Kind.fits_of_decode`), and since the vendor
tells no others, every look-up keeps that (`Kind.keeps_fits`).
-/

namespace Provision

open Json Json.Reading Json.Record Vendor

namespace Resource

variable {α : Type} {r : Resource α} {v : Json} {a : α}

theorem decode_eq_ok_iff : r.decode v = .ok a ↔ r.record.ofValue v = .ok a := mapError_eq_ok_iff

end Resource

/-! ## Accounts -/

namespace Account

/-- The numbers of an account fit in 64 bits. -/
structure Fits (a : Account) : Prop where
  readOnly : Fits64 a.readOnly
  maxUserConnections : FitsNat64 a.maxUserConnections

theorem gives_fits : record.reading.Gives Fits := by
  refine Record.gives ⟨fits64_none, fitsNat64_none⟩ ?_
  simp only [record, List.forall_mem_cons]
  exact ⟨keeps_of_irrelevant fun _ _ h => ⟨h.1, h.2⟩, keeps_of_irrelevant fun _ _ h => ⟨h.1, h.2⟩,
    keeps_of_irrelevant fun _ _ h => ⟨h.1, h.2⟩, keeps_of_irrelevant fun _ _ h => ⟨h.1, h.2⟩,
    keeps_keeping gives_fits64 fun _ _ hv h => ⟨hv, h.2⟩, keeps_of_irrelevant fun _ _ h => ⟨h.1, h.2⟩,
    keeps_keeping gives_fitsNat64 fun _ _ hv h => ⟨h.1, hv⟩, fun _ h => by cases h⟩

/-- The members of an account in the order of their names. -/
theorem toJson_eq (a : Account) : toJson a = .object (present [
    ("description", a.description.map .string),
    ("host", some (.string a.host)),
    ("instance_id", some (.string a.instanceId)),
    ("max_user_connections", a.maxUserConnections.map fun n : Nat => Json.int n),
    ("password", some (.string a.password)),
    ("read_only", a.readOnly.map Json.int),
    ("user_name", some (.string a.userName))]) := by
  rw [toJson, ofMembers, sorted_present (by simp)]
  -- the names are literals, so their order is computed; what is left is how a natural number becomes an integer
  simp only [sorted, List.foldl, Json.insert, String.reduceLT, String.reduceEq, reduceIte]
  cases a.maxUserConnections <;> rfl

/-- An account is read back member by member. -/
theorem ofValue_toJson {a : Account} (h : a.Fits) : record.ofValue (toJson a) = .ok a := by
  rw [toJson_eq, ofValue_object (by decide)]
  refine Eq.trans (fill_present_option rfl rfl fun s _ => readsBack_text s) ?_
  refine Eq.trans (fill_present_some rfl (readsBack_text a.host).2) ?_
  refine Eq.trans (fill_present_some rfl (readsBack_text a.instanceId).2) ?_
  refine Eq.trans (fill_present_option rfl rfl fun n hn => readsBack_nat64 (h.maxUserConnections n hn)) ?_
  refine Eq.trans (fill_present_some rfl (readsBack_text a.password).2) ?_
  refine Eq.trans (fill_present_option rfl rfl fun i hi => readsBack_within "i64" (h.readOnly i hi)) ?_
  exact Eq.trans (fill_present_some rfl (readsBack_text a.userName).2) rfl

theorem Fits.merge {a : Account} {listed : ListedAccount} (h : a.Fits) (hl : listed.Fits)
    (instanceId userName : String) : (a.merge instanceId userName listed).Fits where
  readOnly := hl.readOnly.or h.readOnly
  maxUserConnections := hl.maxUserConnections.or h.maxUserConnections

theorem Fits.takenOver {id : String} {a b : Account} {xs : List Exchange} (h : a.Fits) (ht : TakenOver id a xs b) :
    b.Fits := by
  obtain ⟨instanceId, userName, x, accounts, listed, -, -, hout, hfind, rfl⟩ := ht
  have hlisted : listed.Fits := Exchange.satisfies gives_accountList hout listed (List.mem_of_find?_eq_some hfind)
  exact h.merge hlisted _ _

end Account

/-! ## Instances -/

namespace Instance

/-- The numbers of an instance fit in 64 bits. -/
structure Fits (i : Instance) : Prop where
  period : Fits64 i.period
  shardMemory : Fits64 i.shardMemory
  shardStorage : Fits64 i.shardStorage
  shardNodeCount : Fits64 i.shardNodeCount
  shardCount : Fits64 i.shardCount
  projectId : Fits64 i.projectId

theorem gives_fits : record.reading.Gives Fits := by
  refine Record.gives ⟨fits64_none, fits64_none, fits64_none, fits64_none, fits64_none, fits64_none⟩ ?_
  -- a field that is no number leaves all six as they are
  have other : ∀ {x y : Instance}, (y.period = x.period ∧ y.shardMemory = x.shardMemory ∧
      y.shardStorage = x.shardStorage ∧ y.shardNodeCount = x.shardNodeCount ∧ y.shardCount = x.shardCount ∧
      y.projectId = x.projectId) → x.Fits → y.Fits := by
    rintro x y ⟨h1, h2, h3, h4, h5, h6⟩ h
    exact ⟨h1 ▸ h.1, h2 ▸ h.2, h3 ▸ h.3, h4 ▸ h.4, h5 ▸ h.5, h6 ▸ h.6⟩
  simp only [record, List.forall_mem_cons]
  exact ⟨keeps_of_irrelevant fun _ _ => other ⟨rfl, rfl, rfl, rfl, rfl, rfl⟩,
    keeps_keeping gives_fits64 fun _ _ hv h => ⟨hv, h.2, h.3, h.4, h.5, h.6⟩,
    keeps_keeping gives_fits64 fun _ _ hv h => ⟨h.1, hv, h.3, h.4, h.5, h.6⟩,
    keeps_keeping gives_fits64 fun _ _ hv h => ⟨h.1, h.2, hv, h.4, h.5, h.6⟩,
    keeps_keeping gives_fits64 fun _ _ hv h => ⟨h.1, h.2, h.3, hv, h.5, h.6⟩,
    keeps_keeping gives_fits64 fun _ _ hv h => ⟨h.1, h.2, h.3, h.4, hv, h.6⟩,
    keeps_of_irrelevant fun _ _ => other ⟨rfl, rfl, rfl, rfl, rfl, rfl⟩,
    keeps_of_irrelevant fun _ _ => other ⟨rfl, rfl, rfl, rfl, rfl, rfl⟩,
    keeps_of_irrelevant fun _ _ => other ⟨rfl, rfl, rfl, rfl, rfl, rfl⟩,
    keeps_of_irrelevant fun _ _ => other ⟨rfl, rfl, rfl, rfl, rfl, rfl⟩,
    keeps_keeping gives_fits64 fun _ _ hv h => ⟨h.1, h.2, h.3, h.4, h.5, hv⟩,
    keeps_of_irrelevant fun _ _ => other ⟨rfl, rfl, rfl, rfl, rfl, rfl⟩,
    keeps_of_irrelevant fun _ _ => other ⟨rfl, rfl, rfl, rfl, rfl, rfl⟩, fun _ h => by cases h⟩

/-- The members of an instance in the order of their names. -/
theorem toJson_eq (i : Instance) : toJson i = .object (present [
    ("db_version_id", i.versionId.map .string),
    ("instance_name", i.name.map .string),
    ("period", i.period.map Json.int),
    ("project_id", i.projectId.map Json.int),
    ("resource_tags", tagsValue tagToJson i.tags),
    ("security_group_id", i.securityGroupId.map .string),
    ("shard_count", i.shardCount.map Json.int),
    ("shard_memory", i.shardMemory.map Json.int),
    ("shard_node_count", i.shardNodeCount.map Json.int),
    ("shard_storage", i.shardStorage.map Json.int),
    ("subnet_id", i.subnetId.map .string),
    ("vpc_id", i.vpcId.map .string),
    ("zones", some (.array (i.zones.toList.map .string)))]) := by
  rw [toJson, ofMembers, sorted_present (by simp)]
  simp only [sorted, List.foldl, Json.insert, String.reduceLT, String.reduceEq, reduceIte]

theorem tagToJson_eq (t : Tag) :
    tagToJson t = .object (present [("tag_key", t.key.map .string), ("tag_value", t.value.map .string)]) := by
  rw [tagToJson, ofMembers, sorted_present (by simp)]
  simp only [sorted, List.foldl, Json.insert, String.reduceLT, String.reduceEq, reduceIte]

theorem readsBack_tag (t : Tag) : tagRecord.reading.ReadsBack tagToJson t := by
  rw [ReadsBack, tagToJson_eq]
  refine ⟨by simp [head], ?_⟩
  rw [reading_value, ofValue_object (by decide)]
  refine Eq.trans (fill_present_option rfl rfl fun s _ => readsBack_text s) ?_
  exact Eq.trans (fill_present_option rfl rfl fun s _ => readsBack_text s) rfl

/-- Tags that are left out are none. -/
theorem fill_tags {i : Instance} {tags : List Tag} {rest : List (String × Option Json)} (h : i.tags = []) :
    record.fill i (present (("resource_tags", tagsValue tagToJson tags) :: rest)) =
      record.fill { i with tags := tags } (present rest) := by
  cases tags with
  | nil => rw [tagsValue, if_pos rfl, present_cons_none, ← h]
  | cons t tags => exact Eq.trans (fill_present_some rfl (readsBack_list fun t _ => readsBack_tag t).2) rfl

/-- An instance is read back member by member. -/
theorem ofValue_toJson {i : Instance} (h : i.Fits) : record.ofValue (toJson i) = .ok i := by
  rw [toJson_eq, ofValue_object (by decide)]
  refine Eq.trans (fill_present_option rfl rfl fun s _ => readsBack_text s) ?_
  refine Eq.trans (fill_present_option rfl rfl fun s _ => readsBack_text s) ?_
  refine Eq.trans (fill_present_option rfl rfl fun n hn => readsBack_within "i64" (h.period n hn)) ?_
  refine Eq.trans (fill_present_option rfl rfl fun n hn => readsBack_within "i64" (h.projectId n hn)) ?_
  refine Eq.trans (fill_tags rfl) ?_
  refine Eq.trans (fill_present_option rfl rfl fun s _ => readsBack_text s) ?_
  refine Eq.trans (fill_present_option rfl rfl fun n hn => readsBack_within "i64" (h.shardCount n hn)) ?_
  refine Eq.trans (fill_present_option rfl rfl fun n hn => readsBack_within "i64" (h.shardMemory n hn)) ?_
  refine Eq.trans (fill_present_option rfl rfl fun n hn => readsBack_within "i64" (h.shardNodeCount n hn)) ?_
  refine Eq.trans (fill_present_option rfl rfl fun n hn => readsBack_within "i64" (h.shardStorage n hn)) ?_
  refine Eq.trans (fill_present_option rfl rfl fun s _ => readsBack_text s) ?_
  refine Eq.trans (fill_present_option rfl rfl fun s _ => readsBack_text s) ?_
  refine Eq.trans (fill_present_some rfl (readsBack_texts i.zones.toList).2) ?_
  simp only [StringSet.ofList_toList]
  rfl

theorem Fits.merge {i : Instance} {listed : ListedInstance} (h : i.Fits) (hl : listed.Fits) :
    (i.merge listed).Fits where
  period := h.period
  shardMemory := hl.memory.or h.shardMemory
  shardStorage := hl.storage.or h.shardStorage
  shardNodeCount := hl.nodeCount.or h.shardNodeCount
  shardCount := hl.shardCount.or h.shardCount
  projectId := hl.projectId.or h.projectId

theorem Fits.read {p : Provider} {id : String} {i j : Instance} {s : Session} (h : i.Fits)
    (hr : (Instance.read p id i s).1 = .ok (some j)) : j.Fits := by
  obtain ⟨xs, -, r, hc, he⟩ := (read_ensures : (Instance.read p id i).Ensures _) s
  rw [hr] at he
  cases r with
  | error e => cases he
  | ok listed =>
    obtain ⟨x, -, hout⟩ := hc.settled.of_ok
    obtain ⟨first, hfirst, rfl⟩ := Option.map_eq_some_iff.1 (Except.ok.inj he).symm
    obtain ⟨hhead, -⟩ := Option.filter_eq_some_iff.1 hfirst
    exact h.merge (Exchange.satisfies gives_instanceList hout first (List.mem_of_head? hhead))

end Instance

/-! ## Attachments -/

namespace Attachment

/-- The members of an attachment in the order of their names. -/
theorem toJson_eq (a : Attachment) : toJson a = .object (present [
    ("instance_ids", some (.array (a.instanceIds.toList.map .string))),
    ("product", some (.string a.product)),
    ("security_group_id", some (.string a.securityGroupId))]) := by
  simp only [toJson, ofMembers, sorted, List.foldl, Json.insert, String.reduceLT, String.reduceEq, reduceIte]
  rfl

/-- An attachment is read back member by member. -/
theorem ofValue_toJson (a : Attachment) : record.ofValue (toJson a) = .ok a := by
  rw [toJson_eq, ofValue_object (by decide)]
  refine Eq.trans (fill_present_some rfl (readsBack_texts a.instanceIds.toList).2) ?_
  refine Eq.trans (fill_present_some rfl (readsBack_text a.product).2) ?_
  refine Eq.trans (fill_present_some rfl (readsBack_text a.securityGroupId).2) ?_
  simp only [StringSet.ofList_toList]
  rfl

end Attachment

/-! ## All types -/

namespace Kind

/-- The numbers of a configuration fit in 64 bits. -/
def Fits : (k : Kind) → k.Config → Prop
  | .account, a => Account.Fits a
  | .instance _, i => Instance.Fits i
  | .attachment, _ => True

variable {k : Kind}

/-- **Configurations that are read have numbers that fit.** -/
theorem fits_of_decode {v : Json} {a : k.Config} (h : k.resource.decode v = .ok a) : k.Fits a := by
  rw [Resource.decode_eq_ok_iff] at h
  match k, a, h with
  | .account, a, h => exact Account.gives_fits v a h
  | .instance _, i, h => exact Instance.gives_fits v i h
  | .attachment, _, _ => trivial

/-- **A configuration with numbers that fit is read back from its document.** -/
theorem decode_toJson {a : k.Config} (h : k.Fits a) : k.resource.decode (k.resource.toJson a) = .ok a := by
  rw [Resource.decode_eq_ok_iff]
  match k, a, h with
  | .account, a, h => exact Account.ofValue_toJson h
  | .instance _, i, h => exact Instance.ofValue_toJson h
  | .attachment, a, _ => exact Attachment.ofValue_toJson a

theorem fits_blank (k : Kind) : k.Fits k.resource.record.blank := by
  match k with
  | .account => exact ⟨fits64_none, fitsNat64_none⟩
  | .instance _ => exact ⟨fits64_none, fits64_none, fits64_none, fits64_none, fits64_none, fits64_none⟩
  | .attachment => trivial

theorem fits_of_read {p : Provider} {id : String} {a b : k.Config} {s : Session} (h : k.Fits a)
    (hr : (k.resource.read p id a s).1 = .ok (some b)) : k.Fits b := by
  match k, a, b, h, hr with
  | .account, a, b, h, hr =>
    obtain ⟨xs, -, htaken⟩ := Account.read_takesOver p id a s
    exact h.takenOver (htaken b hr)
  | .instance _, i, j, h, hr => exact Instance.Fits.read h hr
  | .attachment, _, _, _, _ => trivial

/-- **Every step keeps numbers that fit.** -/
theorem keeps_fits (k : Kind) : k.resource.Keeps k.Fits fun _ a => k.Fits a where
  blank := k.fits_blank
  known := id
  found := fits_of_read
  planned := fun hb _ _ => hb

end Kind

end Provision
