import Provision.Proofs.Resource.AccountHost
import Provision.Proofs.Resource.Imported
import Provision.Proofs.Resource.Moves
import Provision.Proofs.Session.Along

/-!
# What requests are about

A request is about an instance, a user or a list of instances, and names them in its body (`Exchange.Addressed`). The
calls of each type of resources name what they are about if the identity is not empty (`Kind.sends`), and so do all
steps, with one exception: a change of the name of an instance that does not exist. That step does not look at the
identity, as the look-up and the deletion do, and asks to rename the instance of an empty identifier. Main statement:
no other request is sent on behalf of what does not exist, or without a name (`Kind.absent_unaddressed`); the exception
occurs (`Instance.absent_renamed`).
-/

namespace Provision

open Json Vendor

/-! ## Sessions with more exchanges -/

/-- **A session goes on in another one, and all exchanges in between satisfy a condition.** -/
def Session.Grows (Q : Exchange → Prop) (s t : Session) : Prop :=
  ∃ xs, t.exchanges = xs ++ s.exchanges ∧ ∀ x ∈ xs, Q x

namespace Session

variable {Q Q' : Exchange → Prop} {s t u : Session}

theorem grows_refl (Q : Exchange → Prop) (s : Session) : s.Grows Q s := ⟨[], rfl, fun _ hx => by cases hx⟩

theorem Grows.trans (h : s.Grows Q t) (h' : t.Grows Q u) : s.Grows Q u := by
  obtain ⟨xs, hxs, hQ⟩ := h
  obtain ⟨ys, hys, hQ'⟩ := h'
  refine ⟨ys ++ xs, by rw [hys, hxs, List.append_assoc], fun x hx => ?_⟩
  exact (List.mem_append.1 hx).elim (hQ' x) (hQ x)

instance : IsPreorder Session (Session.Grows Q) where
  refl := grows_refl Q
  trans _ _ _ := Grows.trans

theorem Grows.mono (h : s.Grows Q t) (weaker : ∀ x, Q x → Q' x) : s.Grows Q' t := by
  obtain ⟨xs, hxs, hQ⟩ := h
  exact ⟨xs, hxs, fun x hx => weaker x (hQ x hx)⟩

end Session

/-- What a computation is known to add may be forgotten but for a condition on each exchange. -/
theorem Run.Ensures.grows {α : Type} {act : Run α} {P : List Exchange → Except Failure α → Prop} {Q : Exchange → Prop}
    (h : act.Ensures P) (each : ∀ xs r, P xs r → ∀ x ∈ xs, Q x) (s : Session) : s.Grows Q (act s).2 := by
  obtain ⟨xs, hxs, hP⟩ := h s
  exact ⟨xs, hxs, each xs _ hP⟩

/-- Neither pauses nor lines of the log are exchanges. -/
theorem Run.waits_grows (Q : Exchange → Prop) (operation : String) : Run.Waits (Session.Grows Q) operation where
  notBefore s _ := Session.grows_refl Q s
  later s _ := Session.grows_refl Q s
  pause s _ := Session.grows_refl Q s
  again s _ _ _ _ := Session.grows_refl Q s
  exhausted s _ _ _ := Session.grows_refl Q s

/-! ## Names in requests -/

/-- **A body names what its action is about:** neither the instance nor the user is empty, nor a list of instances; in
a list that was made from an identity no instance is empty either. Only a creation makes its list from elsewhere. -/
structure Named (action : String) (body : Json) : Prop where
  instance_ne : body.get? "InstanceId" ≠ some (.string "")
  user_ne : body.get? "UserName" ≠ some (.string "")
  list_ne : body.get? "InstanceIds" ≠ some (.array [])
  items_ne : action ≠ "AssociateSecurityGroups" → ∀ items, body.get? "InstanceIds" = some (.array items) →
    Json.string "" ∉ items

/-- The request of an exchange names what it is about. -/
def Exchange.Addressed (x : Exchange) : Prop := Named x.posting.action x.posting.body

/-- The request of an exchange asks to rename the instance of an empty identifier. -/
def Exchange.RenamesNothing (x : Exchange) : Prop :=
  x.posting.action = "ModifyDBInstanceName" ∧ x.posting.body.get? "InstanceId" = some (.string "")

theorem Exchange.Asks.addressed {action : String} {body : Json} {x : Exchange} (h : x.Asks action body)
    (hnamed : Named action body) : x.Addressed := by
  obtain ⟨rfl, rfl⟩ := h
  exact hnamed

theorem Called.addressed {α : Type} {p : Provider} {b : Budget} {action : String} {body : Json} {answer : Record α}
    {xs : List Exchange} {r : Except Failure α} (h : Called p b action body answer xs r)
    (hnamed : Named action body) : ∀ x ∈ xs, x.Addressed := fun x hx => (h.asks x hx).addressed hnamed

theorem nonEmpty?_ne (s : String) : nonEmpty? s ≠ some (.string "") := by
  unfold nonEmpty?
  split <;> simp_all

/-- A body without a list of instances. -/
theorem named_of_texts {action : String} {body : Json} (hinstance : body.get? "InstanceId" ≠ some (.string ""))
    (huser : body.get? "UserName" ≠ some (.string "")) (hlist : body.get? "InstanceIds" = none) : Named action body :=
  ⟨hinstance, huser, by simp [hlist], fun _ items h => by rw [hlist] at h; cases h⟩

/-! ## Accounts -/

namespace Account

variable {id instanceId userName : String}

theorem parts_ne_empty (h : parts id = .ok (instanceId, userName)) : instanceId ≠ "" ∧ userName ≠ "" := by
  obtain ⟨-, -, hparts⟩ := Identity.of_split? (parts_eq_ok_iff.1 h)
  exact ⟨(hparts instanceId (by simp)).1, (hparts userName (by simp)).1⟩

theorem named_creationBody (a : Account) : Named "CreateAccount" a.creationBody := by
  refine named_of_texts ?_ ?_ ?_ <;> rw [creationBody, get?_ofMembers, reverse_present]
  · simpa using nonEmpty?_ne a.instanceId
  · simpa using nonEmpty?_ne a.userName
  · simp

theorem named_question {action : String} (hinstance : instanceId ≠ "") :
    Named action (.ofMembers [("InstanceId", .string instanceId)]) := by
  refine named_of_texts ?_ ?_ ?_ <;> simp [get?_ofMembers, find, hinstance]

theorem named_members {action : String} (h : parts id = .ok (instanceId, userName)) (host : String) :
    Named action (.ofMembers (Provider.accountMembers instanceId userName host)) := by
  obtain ⟨hinstance, huser⟩ := parts_ne_empty h
  refine named_of_texts ?_ ?_ ?_ <;> rw [Provider.accountMembers, get?_ofMembers, reverse_present] <;>
    simp [hinstance, huser]

theorem named_description {action : String} (h : parts id = .ok (instanceId, userName)) (host description : String) :
    Named action (.ofMembers (Provider.accountMembers instanceId userName host ++
      [("Description", .string description)])) := by
  obtain ⟨hinstance, huser⟩ := parts_ne_empty h
  refine named_of_texts ?_ ?_ ?_ <;>
    rw [Provider.accountMembers, get?_ofMembers, List.reverse_append, reverse_present] <;>
    simp [find, hinstance, huser]

theorem sends (p : Provider) : resource.Moves p (Session.Grows Exchange.Addressed) (· ≠ "") where
  named _ hid := hid
  create config s _ := (create_ensures (p := p) (a := config)).grows
    (fun _ _ ⟨_, hc, _⟩ => hc.addressed (named_creationBody config)) s
  read id a s _ := by
    cases h : parts id with
    | error e =>
      rw [resource_read, read_of_error h]
      exact s.grows_refl _
    | ok named =>
      refine (read_ensures (p := p) (a := a) h).grows (fun _ _ ⟨_, hc, _⟩ => hc.addressed ?_) s
      exact named_question (parts_ne_empty h).1
  update id names planned s _ := by
    cases h : parts id with
    | error e =>
      rw [resource_update, update, h]
      exact s.grows_refl _
    | ok named =>
      rw [resource_update, update_of_ok h]
      split
      · exact (p.modifyAccountDescription_ensures named.1 named.2 planned.host _).grows
          (fun _ _ hc => hc.addressed (named_description h _ _)) s
      · exact s.grows_refl _
  delete id a s _ := by
    cases h : parts id with
    | error e =>
      rw [resource_delete, delete, h]
      exact s.grows_refl _
    | ok named =>
      rw [resource_delete, delete_of_ok h]
      exact (p.deleteAccount_ensures named.1 named.2 a.host).grows (fun _ _ hc => hc.addressed (named_members h _)) s

end Account

/-! ## Instances -/

namespace Instance

variable {billing : Billing} {id : String}

theorem named_creationBody (billing : Billing) (i : Instance) :
    Named billing.createAction (i.creationBody billing) := by
  refine named_of_texts ?_ ?_ ?_ <;> rw [creationBody, get?_ofMembers, reverse_present] <;> simp

theorem named_instanceQuestion {action : String} (h : id ≠ "") : Named action (Provider.instanceQuestion id) where
  instance_ne := by simp [Provider.instanceQuestion, get?_ofMembers, find]
  user_ne := by simp [Provider.instanceQuestion, get?_ofMembers, find]
  list_ne := by simp [Provider.instanceQuestion, get?_ofMembers, find]
  items_ne _ items hitems := by
    have hsingle : items = [.string id] := by
      simpa [Provider.instanceQuestion, get?_ofMembers, find, eq_comm] using hitems
    simpa [hsingle] using Ne.symm h

theorem named_name {action name : String} (h : id ≠ "") :
    Named action (.ofMembers [("InstanceId", .string id), ("InstanceName", .string name)]) := by
  refine named_of_texts ?_ ?_ ?_ <;> simp [get?_ofMembers, find, h]

/-- A creation asks for the instance, and then about the one that the vendor named. -/
theorem Created.asks {p : Provider} {i : Instance} {xs : List Exchange} {r : Except Failure String}
    (h : Created p billing i xs r) : ∀ x ∈ xs, x.Asks billing.createAction (i.creationBody billing) ∨
      ∃ id, id ≠ "" ∧ x.Asks "DescribeDCDBInstances" (Provider.instanceQuestion id) := by
  obtain ⟨calls, created, hc, hcreated⟩ := h
  cases created with
  | error e =>
    obtain ⟨rfl, -⟩ := hcreated
    exact fun x hx => .inl (hc.asks x hx)
  | ok ids =>
    dsimp only at hcreated
    cases hfind : ids.find? (· ≠ "") with
    | none =>
      rw [hfind] at hcreated
      obtain ⟨rfl, -⟩ := hcreated
      exact fun x hx => .inl (hc.asks x hx)
    | some id =>
      rw [hfind] at hcreated
      obtain ⟨polls, ready, rfl, hpolls, -⟩ := hcreated
      have hid : id ≠ "" := by simpa using List.find?_some hfind
      intro x hx
      exact (List.mem_append.1 hx).elim (fun hx => .inr ⟨id, hid, hpolls.asks x hx⟩) fun hx => .inl (hc.asks x hx)

theorem sends (billing : Billing) (p : Provider) :
    (resource billing).Moves p (Session.Grows Exchange.Addressed) (· ≠ "") where
  named _ hid := hid
  create config s _ := by
    refine Run.Ensures.grows create_ensures (fun xs r h x hx => ?_) s
    rcases h.asks x hx with hasks | ⟨id, hid, hasks⟩
    · exact hasks.addressed (named_creationBody billing config)
    · exact hasks.addressed (named_instanceQuestion hid)
  read id i s hid := Run.Ensures.grows read_ensures
    (fun _ _ ⟨_, hc, _⟩ => hc.addressed (named_instanceQuestion hid)) s
  update id names planned s hid := by
    show s.Grows _ (update p id names planned s).2
    unfold update
    split
    · exact (p.modifyInstanceName_ensures id _).grows (fun _ _ hc => hc.addressed (named_name hid)) s
    · exact s.grows_refl _
  delete id _ s hid := (p.destroyInstance_ensures billing id).grows
    (fun _ _ hc => hc.addressed (Account.named_question hid)) s

end Instance

/-! ## Attachments -/

namespace Attachment

variable {id group product : String} {instances : StringSet}

theorem named_bindingBody {action : String} (hne : instances.toList ≠ [])
    (hitems : action ≠ "AssociateSecurityGroups" → "" ∉ instances) :
    Named action (bindingBody product group instances) := by
  have hlist : (bindingBody product group instances).get? "InstanceIds" =
      some (.array (instances.toList.map .string)) := by
    simp [bindingBody, get?_ofMembers, find]
  refine ⟨by simp [bindingBody, get?_ofMembers, find], by simp [bindingBody, get?_ofMembers, find], ?_, ?_⟩
  · simpa [hlist] using hne
  · intro haction items h hmem
    rw [hlist] at h
    cases h
    obtain ⟨i, hi, heq⟩ := List.mem_map.1 hmem
    cases heq
    exact hitems haction (StringSet.mem_toList.1 hi)

theorem named_boundGroupsQuestion {action i : String} (h : i ≠ "") :
    Named action (Provider.boundGroupsQuestion product i) := by
  refine named_of_texts ?_ ?_ ?_ <;> simp [Provider.boundGroupsQuestion, get?_ofMembers, find, h]

/-- The instances of an identity are not empty. -/
theorem ne_empty_of_parts (h : parts id = .ok (instances, group)) : ∀ i ∈ instances, i ≠ "" := by
  obtain ⟨list, -, rfl, -⟩ := parts_eq_ok_iff.1 h
  exact fun i hi => (of_mem_instancesOf hi).1

theorem sends (p : Provider) : resource.Moves p (Session.Grows Exchange.Addressed) (· ≠ "") where
  named _ hid := hid
  create config s hcheck := (create_ensures (p := p) (a := config)).grows
    (fun _ _ ⟨_, hc, _⟩ => hc.addressed (named_bindingBody (named_of_check hcheck).2 fun hne => absurd rfl hne)) s
  read id a s _ := by
    show s.Grows _ (read p id a s).2
    cases h : parts id with
    | error e =>
      rw [read_of_error h]
      exact s.grows_refl _
    | ok named =>
      refine (read_ensures (p := p) (a := a) h).grows (fun xs r ⟨_, hs, _⟩ x hx => ?_) s
      obtain ⟨i, hi, hasks⟩ := hs.asks x hx
      exact hasks.addressed (named_boundGroupsQuestion (ne_empty_of_parts h i (StringSet.mem_toList.1 hi)))
  update id names planned s _ := by
    cases names with
    | nil => exact s.grows_refl _
    | cons name rest => exact s.grows_refl _
  delete id a s _ := by
    show s.Grows _ (delete p id a s).2
    cases h : parts id with
    | error e =>
      rw [delete, h]
      exact s.grows_refl _
    | ok named =>
      obtain ⟨instances, group⟩ := named
      rw [delete, h, Run.ofExcept_ok, pure_bind]
      dsimp only
      split
      · exact s.grows_refl _
      · rename_i hsome
        refine (p.disassociateSecurityGroups_ensures _ group _).grows (fun _ _ hc => hc.addressed ?_) s
        refine named_bindingBody (fun hnil => hsome (by rw [StringSet.isEmpty, hnil]; rfl)) fun _ hmem => ?_
        have hinstances : "" ∈ instances := by
          unfold boundInstances at hmem
          split at hmem
          · exact hmem
          · exact (StringSet.mem_inter.1 hmem).1
        exact ne_empty_of_parts h "" hinstances rfl

end Attachment

/-! ## All types -/

namespace Kind

variable {p : Provider}

theorem sends (k : Kind) (p : Provider) : k.resource.Moves p (Session.Grows Exchange.Addressed) (· ≠ "") := by
  match k with
  | .account => exact Account.sends p
  | .instance billing => exact Instance.sends billing p
  | .attachment => exact Attachment.sends p

/-- A change in place whose checks succeed, and which changes the name of an instance. -/
def Renames (k : Kind) (known planned : k.Config) : Prop :=
  (∃ billing, k = .instance billing) ∧ k.resource.check (k.resource.toJson planned) = .ok () ∧
    ∃ names, k.resource.changes ⟨"", known⟩ planned = .ok names ∧ "instance_name" ∈ names

/-- What the call of a change in place sends for what does not exist. -/
def Unaddressed (k : Kind) (known planned : k.Config) (x : Exchange) : Prop :=
  x.RenamesNothing ∧ k.Renames known planned

/-- The call of a type of resources decides, if it is made. -/
theorem modify_grows {k : Kind} {known planned : k.Config} {Q : Exchange → Prop}
    (hupdate : ∀ names (s : Session), k.resource.check (k.resource.toJson planned) = .ok () →
      k.resource.changes ⟨"", known⟩ planned = .ok names → s.Grows Q (k.resource.update p "" names planned s).2)
    (s : Session) : s.Grows Q (k.resource.modify p ⟨"", known⟩ planned s).2 := by
  unfold Resource.modify
  split
  · exact s.grows_refl Q
  · exact s.grows_refl Q
  · exact s.grows_refl Q
  · rename_i hcheck hchanges
    exact hupdate _ s hcheck hchanges

/-- **Without an identity, the only request of a change in place is that for a new name of an instance.** -/
theorem updateTo_absent (k : Kind) (p : Provider) (known planned : k.Config) (s : Session) :
    s.Grows (k.Unaddressed known planned) (k.resource.updateTo p ⟨"", known⟩ planned s).session := by
  rw [Resource.updateTo_of_absent]
  match k, known, planned with
  | .account, known, planned =>
    refine modify_grows (k := .account) (fun names s _ _ => ?_) s
    have hparts : Account.parts "" = .error (.brokenId "") := by rfl
    show s.Grows _ (Account.update p "" names planned s).2
    unfold Account.update
    rw [hparts]
    exact s.grows_refl _
  | .attachment, known, planned =>
    refine modify_grows (k := .attachment) (fun names s _ _ => ?_) s
    cases names with
    | nil => exact s.grows_refl _
    | cons name rest => exact s.grows_refl _
  | .instance billing, known, planned =>
    refine modify_grows (k := .instance billing) (fun names s hcheck hchanges => ?_) s
    show s.Grows _ (Instance.update p "" names planned s).2
    unfold Instance.update
    split
    · rename_i hname
      refine (p.modifyInstanceName_ensures "" _).grows (fun xs r hc x hx => ?_) s
      obtain ⟨haction, hbody⟩ := hc.asks x hx
      refine ⟨⟨haction, ?_⟩, ⟨billing, rfl⟩, hcheck, names, hchanges, List.contains_iff_mem.1 hname⟩
      rw [hbody]
      simp [get?_ofMembers, find]
    · exact s.grows_refl _

/-- A step sends requests that name what they are about, or changes the name of an instance that does not exist. -/
theorem take_grows (k : Kind) (p : Provider) (step : Step k.Config) (st : ResourceState k.Config) (s : Session) :
    s.Grows (fun x => x.Addressed ∨ st.id = "" ∧ ∃ planned, step = .update planned ∧
      k.Unaddressed st.attributes planned x) (k.resource.take p step st s).session := by
  by_cases hstep : ∀ planned, step = .update planned → st.id ≠ ""
  · exact ((k.sends p).take hstep s).mono fun x hx => .inl hx
  · obtain ⟨planned, hstep⟩ := not_forall.1 hstep
    obtain ⟨rfl, hid⟩ := Classical.not_imp.1 hstep
    obtain ⟨id, known⟩ := st
    obtain rfl : id = "" := not_not.1 hid
    exact (k.updateTo_absent p known planned s).mono fun x hx => .inr ⟨rfl, planned, rfl, hx⟩

/-- **On behalf of what does not exist, a look-up and a deletion leave the session alone, and a change in place sends no
request but that for a new name of an instance.** Every other request of a step names the instance, the user or the
instances that it is about, and so does every request of a course but for such changes of a name. -/
theorem absent_unaddressed (k : Kind) (p : Provider) (s : Session) :
    (∀ known : k.Config,
      (k.resource.refresh p ⟨"", known⟩ s).session = s ∧ (k.resource.remove p ⟨"", known⟩ s).session = s ∧
      ∀ planned, s.Grows (k.Unaddressed known planned) (k.resource.updateTo p ⟨"", known⟩ planned s).session) ∧
    (∀ step st, s.Grows (fun x => x.Addressed ∨ st.id = "" ∧ ∃ planned, step = .update planned ∧
      k.Unaddressed st.attributes planned x) (k.resource.take p step st s).session) ∧
    ∀ steps st, ∀ t ∈ course (k.resource.take p) steps st s,
      s.Grows (fun x => x.Addressed ∨ x.RenamesNothing ∧ ∃ billing, k = .instance billing) t.session := by
  refine ⟨fun known => ⟨?_, ?_, fun planned => k.updateTo_absent p known planned s⟩,
    fun step st => k.take_grows p step st s, fun steps st t ht => ?_⟩
  · rw [Resource.refresh_of_not_present rfl]
  · rw [Resource.remove_of_not_present rfl]
  · refine moves_of_course (fun step st s => (k.take_grows p step st s).mono fun x hx => ?_) t ht
    rcases hx with hx | ⟨-, planned, -, hrename, hinstance, -⟩
    · exact .inl hx
    · exact .inr ⟨hrename, hinstance⟩

end Kind

/-! ## An instance that is renamed after its deletion -/

namespace Instance

/-- What is known of an instance after its import. -/
def imported : Instance := ({} : Instance).merge listedSingle

/-- The same instance under another name. -/
def renamed : Instance := { imported with name := some "archive" }

theorem check_renamed : (resource .hourly).check ((resource .hourly).toJson renamed) = .ok () := by
  have valid : (resource .hourly).schema.violation? ((resource .hourly).toJson renamed) = none := by decide +kernel
  rw [Resource.check, valid]

/-- Only the name changes. -/
theorem changes_renamed : (resource .hourly).changes ⟨"", imported⟩ renamed = .ok ["instance_name"] := by
  have updatable : ∀ f ∈ Kind.changed (.instance .hourly) ⟨"", imported⟩ renamed, f.mutability = .updatable := by
    decide +kernel
  have names : (Kind.changed (.instance .hourly) ⟨"", imported⟩ renamed).map Schema.Field.name =
      ["instance_name"] := by
    decide +kernel
  rw [← names]
  exact Kind.changes_of_updatable (k := .instance .hourly) updatable

/-- The same answer serves for a deletion and for a change of a name. -/
theorem outcome_destroyed (x : Posting) :
    (⟨x, .answer 200 singleText⟩ : Exchange).outcome destroyedInstance = .ok () :=
  (Exchange.outcome_telling fits_single (by decide) destroyedInstance).trans rfl

theorem outcome_acknowledged (x : Posting) :
    (⟨x, .answer 200 singleText⟩ : Exchange).outcome acknowledgement = .ok () :=
  (Exchange.outcome_telling fits_single (by decide) acknowledgement).trans rfl

/-- The call of a change of a name. -/
theorem update_name (billing : Billing) (p : Provider) (id : String) {i : Instance} {name : String}
    (h : i.name = some name) :
    (resource billing).update p id ["instance_name"] i = p.modifyInstanceName id name := by
  change update p id ["instance_name"] i = _
  rw [update, if_pos (by decide), h, Option.getD_some]

/-- **An instance is imported and deleted, and then a change of its name is sent for the empty identifier.** -/
theorem absent_renamed : ∃ x y z t u,
    (resource .hourly).importFrom (.saying singleText) "tdsqlshard-1" {} = (.ok ⟨"tdsqlshard-1", imported⟩, t) ∧
    (resource .hourly).remove (.saying singleText) ⟨"tdsqlshard-1", imported⟩ t = ⟨.ok (), ⟨"", imported⟩, u⟩ ∧
    ((resource .hourly).updateTo (.saying singleText) ⟨"", imported⟩ renamed u).session.exchanges = [z, y, x] ∧
    z.Asks "ModifyDBInstanceName" (.ofMembers [("InstanceId", .string ""), ("InstanceName", .string "archive")]) := by
  have hread : ∃ x t, x.posting.action = "DescribeDCDBInstances" ∧
      (resource .hourly).read (.saying singleText) "tdsqlshard-1" {} {} = (.ok (some imported), t) ∧
      t.exchanges = [x] :=
    read_of_asked Client.plain_writable (fun x _ => outcome_single x) (by rfl)
  obtain ⟨x, t, -, hread, hx⟩ := hread
  have destroy : Client.isHeaderValue (Billing.destroyAction .hourly) = true := by decide
  obtain ⟨y, u, -, -, hdelete, hy⟩ := Provider.retried_of_saying destroy outcome_destroyed .dcdb
    (.ofMembers [("InstanceId", .string "tdsqlshard-1")]) (Provider.saying singleText).write
    (Billing.destroyAction .hourly) t
  have hdestroy : (resource .hourly).delete (.saying singleText) "tdsqlshard-1" imported t = (.ok (), u) := hdelete
  have rename : Client.isHeaderValue "ModifyDBInstanceName" = true := by decide
  obtain ⟨z, v, hz, -, hmodify, hv⟩ := Provider.retried_of_saying rename outcome_acknowledged .dcdb
    (.ofMembers [("InstanceId", .string ""), ("InstanceName", .string "archive")]) (Provider.saying singleText).write
    "ModifyDBInstanceName" u
  have hrename : (Provider.saying singleText).modifyInstanceName "" "archive" u = (.ok (), v) := hmodify
  have hcall : (resource .hourly).modify (.saying singleText) ⟨"", imported⟩ renamed u = (.ok (), v) := by
    rw [Resource.modify_of_changes check_renamed changes_renamed (by decide),
      update_name .hourly _ "" (show renamed.name = some "archive" from rfl), hrename]
  refine ⟨x, y, z, t, u, Resource.importFrom_of_some (by decide) hread,
    Resource.remove_of_delete_ok (by decide) hdestroy, ?_, hz⟩
  rw [Resource.updateTo_of_absent, hcall, hv, hy, hx]

end Instance

end Provision
