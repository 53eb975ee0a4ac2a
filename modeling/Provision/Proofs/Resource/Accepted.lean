import Provision.Proofs.Json.Written
import Provision.Proofs.Resource.Failing
import Provision.Proofs.Resource.Talks
import Provision.Proofs.Schema.Validation

/-!
# What is accepted, and what is not

A step on a document fails and changes nothing, not even the session, if what is desired does not pass the check or
cannot be read (`Resource.Refuses`), or if the document says nothing that can be used (`Resource.Unusable`). What is
desired is checked before a configuration is read from it, and the configuration is checked again as it is written. The
two checks agree: what passes the first one passes the second one (`Resource.Rechecks.check_toJson`). Main statement:
for every type of resources, bad input has no effect, and what is accepted once is accepted by every step that checks it
again (`Kind.accepts_once`).
-/

namespace Provision

open Json Json.Reading Json.Record

namespace Resource

variable {α : Type} {r : Resource α} {v : Json} {a : α}

theorem check_eq_ok_iff : r.check v = .ok () ↔ r.schema.violation? v = none := by
  unfold check
  cases r.schema.violation? v <;> simp

/-- **The check asks nothing of a configuration that its document has not shown before**: the record is written again
as it was read, nothing but names and requirements is checked, and what is required is known. -/
structure Rechecks (r : Resource α) : Prop where
  written : ∃ members, r.record.WrittenBy r.toJson members
  plain : r.schema.Plain
  known : ∀ f ∈ r.schema.fields, f.presence = .required → (r.record.field? f.name).isSome

/-- **What is read from a document that passes the check passes it again.** -/
theorem Rechecks.check_toJson (h : r.Rechecks) (hv : v.Distinct) (hcheck : r.check v = .ok ())
    (hdecode : r.decode v = .ok a) : r.check (r.toJson a) = .ok () := by
  rw [check_eq_ok_iff] at hcheck ⊢
  rw [decode_eq_ok_iff] at hdecode
  cases v with
  | object members =>
    obtain ⟨hnamed, hrequired⟩ := (Schema.violation?_eq_none_iff h.plain).1 hcheck
    obtain ⟨writes, hwritten⟩ := h.written
    have hset := hwritten.isSet_iff hv hdecode
    have hdistinct := (ordered_sorted (present (writes a))).nodup
    rw [hwritten.toJson_eq] at hset ⊢
    refine (Schema.violation?_eq_none_iff h.plain).2 ⟨fun m hm hmset => ?_, fun f hf hreq => ?_⟩
    · have hfound : (ofMembers (present (writes a))).get? m.1 = some m.2 := find_of_mem hdistinct hm
      obtain ⟨-, hbefore⟩ := (hset m.1).1 (by rw [hfound]; exact hmset)
      cases hfind : find m.1 members with
      | none =>
        rw [hfind] at hbefore
        cases hbefore
      | some w =>
        rw [hfind] at hbefore
        exact hnamed (m.1, w) (mem_of_find hfind) hbefore
    · exact (hset f.name).2 ⟨h.known f hf hreq, hrequired f hf hreq⟩
  | _ => cases hcheck

end Resource

/-! ## All types -/

theorem Account.rechecks : resource.Rechecks where
  written := by
    refine ⟨fun a => [
        ("instance_id", some (.string a.instanceId)),
        ("user_name", some (.string a.userName)),
        ("host", some (.string a.host)),
        ("password", some (.string a.password)),
        ("read_only", a.readOnly.map Json.int),
        ("description", a.description.map .string),
        ("max_user_connections", a.maxUserConnections.map fun n : Nat => Json.int n)],
      fun a => by cases h : a.maxUserConnections <;> simp [resource, toJson, h], fun _ => rfl, by decide,
      by simp [resource, record, isSet], ?_⟩
    simp only [resource, record, List.forall_mem_cons]
    exact ⟨writtenBy_keeping sets_text fun _ _ => rfl, writtenBy_keeping sets_text fun _ _ => rfl,
      writtenBy_keeping sets_text fun _ _ => rfl, writtenBy_keeping sets_text fun _ _ => rfl,
      writtenBy_keeping (sets_within _ _ _).option fun _ _ => rfl, writtenBy_keeping sets_text.option fun _ _ => rfl,
      writtenBy_keeping sets_nat64.option fun _ _ => rfl, fun _ h => by cases h⟩
  plain := by decide
  known := by decide

theorem sets_stringSet : text.list.Sets fun l => some (.array ((StringSet.ofList l).toList.map .string)) := by
  refine sets_list fun l => ?_
  cases l with
  | nil => rfl
  | cons s l =>
    have hmem : s ∈ (StringSet.ofList (s :: l)).toList := StringSet.mem_ofList.2 List.mem_cons_self
    cases hl : (StringSet.ofList (s :: l)).toList with
    | nil =>
      rw [hl] at hmem
      cases hmem
    | cons t rest => rfl

theorem Instance.rechecks (billing : Billing) : (resource billing).Rechecks where
  written := by
    refine ⟨fun i => [
        ("zones", some (.array (i.zones.toList.map .string))),
        ("period", i.period.map Json.int),
        ("shard_memory", i.shardMemory.map Json.int),
        ("shard_storage", i.shardStorage.map Json.int),
        ("shard_node_count", i.shardNodeCount.map Json.int),
        ("shard_count", i.shardCount.map Json.int),
        ("vpc_id", i.vpcId.map .string),
        ("subnet_id", i.subnetId.map .string),
        ("db_version_id", i.versionId.map .string),
        ("security_group_id", i.securityGroupId.map .string),
        ("project_id", i.projectId.map Json.int),
        ("instance_name", i.name.map .string),
        ("resource_tags", tagsValue tagToJson i.tags)],
      fun _ => rfl, fun _ => rfl, by cases billing <;> decide,
      by simp [resource, record, isSet, StringSet.empty, tagsValue], ?_⟩
    have sets_int64 := (sets_within Text.Decimal.minInt64 Text.Decimal.maxInt64 "i64").option
    have sets_tags : (Reading.list tagRecord.reading).Sets (tagsValue tagToJson) := by
      refine sets_list fun tags => ?_
      cases tags <;> rfl
    simp only [resource, record, List.forall_mem_cons]
    exact ⟨writtenBy_keeping sets_stringSet fun _ _ => rfl, writtenBy_keeping sets_int64 fun _ _ => rfl,
      writtenBy_keeping sets_int64 fun _ _ => rfl, writtenBy_keeping sets_int64 fun _ _ => rfl,
      writtenBy_keeping sets_int64 fun _ _ => rfl, writtenBy_keeping sets_int64 fun _ _ => rfl,
      writtenBy_keeping sets_text.option fun _ _ => rfl, writtenBy_keeping sets_text.option fun _ _ => rfl,
      writtenBy_keeping sets_text.option fun _ _ => rfl, writtenBy_keeping sets_text.option fun _ _ => rfl,
      writtenBy_keeping sets_int64 fun _ _ => rfl, writtenBy_keeping sets_text.option fun _ _ => rfl,
      writtenBy_keeping sets_tags fun _ _ => rfl, fun _ h => by cases h⟩
  plain := by cases billing <;> decide
  known := by cases billing <;> decide

theorem Attachment.rechecks : resource.Rechecks where
  written := by
    refine ⟨fun a => [
        ("product", some (.string a.product)),
        ("security_group_id", some (.string a.securityGroupId)),
        ("instance_ids", some (.array (a.instanceIds.toList.map .string)))],
      fun _ => rfl, fun _ => rfl, by decide, by simp [resource, record, isSet, StringSet.empty], ?_⟩
    simp only [resource, record, List.forall_mem_cons]
    exact ⟨writtenBy_keeping sets_text fun _ _ => rfl, writtenBy_keeping sets_text fun _ _ => rfl,
      writtenBy_keeping sets_stringSet fun _ _ => rfl, fun _ h => by cases h⟩
  plain := by decide
  known := by decide

theorem Kind.rechecks (k : Kind) : k.resource.Rechecks := by
  match k with
  | .account => exact Account.rechecks
  | .instance billing => exact Instance.rechecks billing
  | .attachment => exact Attachment.rechecks

/-! ## Input that is not accepted -/

namespace Resource

variable {α : Type} {r : Resource α} {v : Json} {a : α} {d : Document}

/-- What is desired does not pass the check, or no configuration can be read from it. -/
def Refuses (r : Resource α) (v : Json) : Prop := (∃ e, r.check v = .error e) ∨ ∃ e, r.decode v = .error e

/-- A document of another type, or with an identity and attributes that cannot be read. -/
def Unusable (r : Resource α) (d : Document) : Prop :=
  d.typeName ≠ r.kind ∨ (d.id ≠ "" ∧ ∃ e, r.decode d.attributes = .error e)

theorem Refuses.decodeDesired (h : r.Refuses v) : ∃ e, r.decodeDesired v = .error e := by
  cases hv : r.decodeDesired v with
  | error e => exact ⟨e, rfl⟩
  | ok a =>
    obtain ⟨hcheck, hdecode⟩ := decodeDesired_eq_ok_iff.1 hv
    rcases h with ⟨e, he⟩ | ⟨e, he⟩
    · rw [hcheck] at he
      cases he
    · rw [hdecode] at he
      cases he

theorem decodeDesired_of_not_refuses (h : ¬r.Refuses v) : ∃ a, r.decodeDesired v = .ok a := by
  obtain ⟨hcheck, hdecode⟩ := not_or.1 h
  cases hc : r.check v with
  | error e => exact absurd ⟨e, hc⟩ hcheck
  | ok _ =>
    cases hd : r.decode v with
    | error e => exact absurd ⟨e, hd⟩ hdecode
    | ok a => exact ⟨a, decodeDesired_eq_ok_iff.2 ⟨hc, hd⟩⟩

theorem Unusable.decodeState (h : r.Unusable d) : ∃ e, r.decodeState d = .error e := by
  rw [Resource.decodeState]
  rcases h with htype | ⟨hid, e, he⟩
  · rw [if_neg htype]
    exact ⟨_, rfl⟩
  · rw [if_neg hid, he]
    split
    · exact ⟨e, rfl⟩
    · exact ⟨_, rfl⟩

theorem decodeState_of_usable (h : ¬r.Unusable d) : ∃ st, r.decodeState d = .ok st := by
  obtain ⟨htype, hattributes⟩ := not_or.1 h
  rw [decodeState, if_pos (not_not.1 htype)]
  split
  · exact ⟨_, rfl⟩
  · rename_i hid
    cases hd : r.decode d.attributes with
    | error e => exact absurd ⟨hid, e, hd⟩ hattributes
    | ok a => exact ⟨_, rfl⟩

theorem unusable_of_decodeState {e : Failure} (h : r.decodeState d = .error e) : r.Unusable d := by
  by_contra husable
  obtain ⟨st, hst⟩ := decodeState_of_usable husable
  rw [hst] at h
  cases h

/-- A plan is made if and only if the parts of which it is made can be read. -/
theorem planDocument_eq_ok_iff {prior : Option Document} {plan : Plan} : r.planDocument prior v = .ok plan ↔
    ∃ states desired, prior.mapM r.decodeState = .ok states ∧ r.decodeDesired v = .ok desired ∧
      r.plan states desired = .ok plan := by
  unfold planDocument
  rw [bind_eq_ok_iff]
  constructor
  · rintro ⟨_, hcheck, h⟩
    obtain ⟨states, hstates, h⟩ := bind_eq_ok_iff.1 h
    obtain ⟨desired, hdesired, hplan⟩ := bind_eq_ok_iff.1 h
    exact ⟨states, desired, hstates, decodeDesired_eq_ok_iff.2 ⟨hcheck, hdesired⟩, hplan⟩
  · rintro ⟨states, desired, hstates, hdesired, hplan⟩
    obtain ⟨hcheck, hdecode⟩ := decodeDesired_eq_ok_iff.1 hdesired
    exact ⟨(), hcheck, bind_eq_ok_iff.2 ⟨states, hstates, bind_eq_ok_iff.2 ⟨desired, hdecode, hplan⟩⟩⟩

theorem Refuses.planDocument (h : r.Refuses v) (prior : Option Document) : ∃ e, r.planDocument prior v = .error e := by
  obtain ⟨e, he⟩ := h.decodeDesired
  cases hplan : r.planDocument prior v with
  | error e => exact ⟨e, rfl⟩
  | ok plan =>
    obtain ⟨_, _, -, hdesired, -⟩ := planDocument_eq_ok_iff.1 hplan
    rw [he] at hdesired
    cases hdesired

theorem Unusable.planDocument (h : r.Unusable d) (v : Json) : ∃ e, r.planDocument (some d) v = .error e := by
  obtain ⟨e, he⟩ := h.decodeState
  cases hplan : r.planDocument (some d) v with
  | error e => exact ⟨e, rfl⟩
  | ok plan =>
    obtain ⟨_, _, hstates, -, -⟩ := planDocument_eq_ok_iff.1 hplan
    rw [Option.mapM_some, he] at hstates
    cases hstates

theorem Refuses.applyDocument (h : r.Refuses v) (p : Provider) (d : Document) (s : Session) :
    ∃ e, r.applyDocument p d v s = ⟨.error e, d, s⟩ := by
  obtain ⟨e, he⟩ := h.decodeDesired
  exact ⟨e, by rw [Resource.applyDocument, he]⟩

section

variable (h : r.Unusable d) (p : Provider) (s : Session)

include h

theorem Unusable.applyDocument (v : Json) : ∃ e, r.applyDocument p d v s = ⟨.error e, d, s⟩ := by
  obtain ⟨e, he⟩ := h.decodeState
  rw [Resource.applyDocument, he]
  cases r.decodeDesired v with
  | error e' => exact ⟨e', rfl⟩
  | ok a => exact ⟨e, rfl⟩

theorem Unusable.readDocument : ∃ e, r.readDocument p d s = ⟨.error e, d, s⟩ := by
  obtain ⟨e, he⟩ := h.decodeState
  exact ⟨e, by rw [Resource.readDocument, he]⟩

theorem Unusable.deleteDocument : ∃ e, r.deleteDocument p d s = ⟨.error e, d, s⟩ := by
  obtain ⟨e, he⟩ := h.decodeState
  exact ⟨e, by rw [Resource.deleteDocument, he]⟩

end

/-- A plan for a configuration that passes the check is made. -/
theorem exists_plan_of_check (h : r.check (r.toJson a) = .ok ()) (prior : Option (ResourceState α)) :
    ∃ plan, r.plan prior a = .ok plan := by
  rw [plan, h]
  exact ⟨_, rfl⟩

end Resource

namespace Kind

/-- **Bad input has no effect, and what is accepted once is accepted again.** What does not pass the check or cannot be
read, as well as a document that says nothing usable, makes every step on a document fail before anything is sent, with
the document as it was. The other way round, a configuration that was read from a document which passed the check passes
it as it is written: no plan, no creation, no change and no application of it fails like a check. -/
theorem accepts_once (k : Kind) :
    (∀ v, k.resource.Refuses v → (∀ prior, ∃ e, k.resource.planDocument prior v = .error e) ∧
      ∀ p d s, ∃ e, k.resource.applyDocument p d v s = ⟨.error e, d, s⟩) ∧
    (∀ d, k.resource.Unusable d → (∀ v, ∃ e, k.resource.planDocument (some d) v = .error e) ∧
      ∀ p s, (∀ v, ∃ e, k.resource.applyDocument p d v s = ⟨.error e, d, s⟩) ∧
        (∃ e, k.resource.readDocument p d s = ⟨.error e, d, s⟩) ∧
        ∃ e, k.resource.deleteDocument p d s = ⟨.error e, d, s⟩) ∧
    ∀ v a, v.Distinct → k.resource.check v = .ok () → k.resource.decode v = .ok a →
      k.resource.check (k.resource.toJson a) = .ok () ∧
      (∀ prior, ∃ plan, k.resource.plan prior a = .ok plan) ∧
      (∀ prior, (∀ d ∈ prior, ¬k.resource.Unusable d) → ∃ plan, k.resource.planDocument prior v = .ok plan) ∧
      ∀ p s e, ((k.resource.createFrom p a s).1 = .error e → e.ofCheck = false) ∧
        (∀ st, (k.resource.updateTo p st a s).result = .error e → e.ofCheck = false) ∧
        (∀ st, (k.resource.apply p st a s).result = .error e → e.ofCheck = false) ∧
        ∀ d, ¬k.resource.Unusable d → (k.resource.applyDocument p d v s).result = .error e → e.ofCheck = false := by
  refine ⟨fun v h => ⟨h.planDocument, h.applyDocument⟩,
    fun d h => ⟨h.planDocument, fun p s => ⟨h.applyDocument p s, h.readDocument p s, h.deleteDocument p s⟩⟩,
    fun v a hv hcheck hdecode => ?_⟩
  have hagain : k.resource.check (k.resource.toJson a) = .ok () := k.rechecks.check_toJson hv hcheck hdecode
  have hdesired : k.resource.decodeDesired v = .ok a := Resource.decodeDesired_eq_ok_iff.2 ⟨hcheck, hdecode⟩
  refine ⟨hagain, Resource.exists_plan_of_check hagain, fun prior hprior => ?_, fun p s e => ?_⟩
  · have hstates : ∃ states, prior.mapM k.resource.decodeState = .ok states := by
      cases prior with
      | none => exact ⟨none, rfl⟩
      | some d =>
        obtain ⟨st, hst⟩ := Resource.decodeState_of_usable (hprior d rfl)
        exact ⟨some st, by rw [Option.mapM_some, hst]; rfl⟩
    obtain ⟨states, hstates⟩ := hstates
    obtain ⟨plan, hplan⟩ := Resource.exists_plan_of_check hagain states
    exact ⟨plan, Resource.planDocument_eq_ok_iff.2 ⟨states, a, hstates, hdesired, hplan⟩⟩
  · have htalks := k.talks p
    refine ⟨(htalks.createFrom a s).passed hagain e, fun st => (htalks.updateTo st a s).passed hagain e,
      fun st => (htalks.apply st a s).passed hagain e, fun d husable hd => ?_⟩
    obtain ⟨st, hst⟩ := Resource.decodeState_of_usable husable
    rw [Resource.applyDocument_eq hst hdesired] at hd
    exact (htalks.apply st a s).passed hagain e hd

/-- An account that is desired with members that are not set, known and unknown ones, and a document of it without
attributes. -/
theorem accepts_once_loose :
    let v : Json := .object [("note", .string ""), ("description", .null), ("instance_id", .string "dcdbt-1"),
      ("user_name", .string "root"), ("host", .string "%"), ("password", .string "secret")]
    let d : Document := ⟨Account.resource.kind, "dcdbt-1#root", .null⟩
    v.Distinct ∧ Account.resource.check v = .ok () ∧ Account.resource.decode v = .ok .sample ∧
      (∃ plan, Account.resource.planDocument none v = .ok plan) ∧ Account.resource.Unusable d ∧
      ∃ e, Account.resource.deleteDocument .refusing d {} = ⟨.error e, d, {}⟩ := by
  intro v d
  have hdistinct : v.Distinct := by
    show List.Nodup _
    decide
  have hcheck : Account.resource.check v = .ok () := Resource.check_eq_ok_iff.2 (by decide +kernel)
  have hdecode : Account.resource.decode v = .ok .sample := rfl
  have hunusable : Account.resource.Unusable d := .inr ⟨by decide, _, rfl⟩
  obtain ⟨-, hdocuments, haccepted⟩ := accepts_once .account
  obtain ⟨-, -, hplan, -⟩ := haccepted v .sample hdistinct hcheck hdecode
  obtain ⟨-, hsteps⟩ := hdocuments d hunusable
  exact ⟨hdistinct, hcheck, hdecode, hplan none (fun d hd => by cases hd), hunusable, (hsteps .refusing {}).2.2⟩

end Kind

end Provision
