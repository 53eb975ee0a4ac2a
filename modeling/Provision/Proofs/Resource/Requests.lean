import Provision.Proofs.Resource.Lookup

/-!
# What the steps of a resource send

Questions have actions that begin with "Describe"; all other requests may change something, and `mutations` lists them
in the order of time. Each type of resources has one action for a creation, one for a deletion, and at most one for a
change in place. Requests of an action can be sent about an identity that is not broken by a client that can write them
(`Kind.Able`). Main statements: a creation, a change and a deletion send no other changes than those of their own
action, and they send one if they succeed, or if one can be sent (`Kind.create_ensures`, `Kind.update_ensures`,
`Kind.delete_ensures`).
-/

namespace Provision

/-! ## Questions and changes -/

/-- Whether an action only asks. -/
def isQuestion (action : String) : Bool := "Describe".toList.isPrefixOf action.toList

/-- The actions of the requests that may change something, the earliest first, among exchanges with the latest first. -/
def mutations (xs : List Exchange) : List String :=
  ((xs.filter fun x => !isQuestion x.posting.action).map (·.posting.action)).reverse

@[simp] theorem mutations_nil : mutations [] = [] := rfl

theorem mem_mutations {a : String} {xs : List Exchange} :
    a ∈ mutations xs ↔ isQuestion a = false ∧ ∃ x ∈ xs, x.posting.action = a := by
  simp only [mutations, List.mem_reverse, List.mem_map, List.mem_filter, Bool.not_eq_true']
  constructor
  · rintro ⟨x, ⟨hx, hq⟩, rfl⟩
    exact ⟨hq, x, hx, rfl⟩
  · rintro ⟨hq, x, hx, rfl⟩
    exact ⟨x, ⟨hx, hq⟩, rfl⟩

theorem mutations_eq_nil {action : String} {xs : List Exchange} (h : ∀ x ∈ xs, x.posting.action = action)
    (ha : isQuestion action = true) : mutations xs = [] := by
  refine List.eq_nil_iff_forall_not_mem.2 fun a hm => ?_
  obtain ⟨hq, x, hx, rfl⟩ := mem_mutations.1 hm
  rw [h x hx, ha] at hq
  cases hq

theorem mutations_ne_nil {x : Exchange} {xs : List Exchange} (hx : x ∈ xs)
    (ha : isQuestion x.posting.action = false) : mutations xs ≠ [] :=
  List.ne_nil_of_mem (mem_mutations.2 ⟨ha, x, hx, rfl⟩)

/-- An answer that gives a value ends the attempts. -/
theorem Called.of_mem_ok {α : Type} {p : Provider} {b : Budget} {action : String} {body : Json}
    {answer : Json.Record α} {xs : List Exchange} {r : Except Failure α} {x : Exchange} {a : α}
    (h : Called p b action body answer xs r) (hx : x ∈ xs) (ha : x.outcome answer = .ok a) : r = .ok a := by
  have final : ¬Transient (x.outcome answer) := by
    rw [ha]
    exact not_transient_ok a
  cases h.settled with
  | answered handed before =>
    rcases List.mem_cons.1 hx with rfl | hx
    · rw [handed.eq_of_final final, ha]
    · exact absurd (before x hx) final
  | unwritten => cases hx

/-- A call that gives a value has sent a request. -/
theorem Called.exists_mem_of_ok {α : Type} {p : Provider} {b : Budget} {action : String} {body : Json}
    {answer : Json.Record α} {xs : List Exchange} {a : α} (h : Called p b action body answer xs (.ok a)) :
    ∃ x ∈ xs, x.posting.action = action ∧ x.outcome answer = .ok a := by
  obtain ⟨x, hx, ha⟩ := h.settled.of_ok
  have hm := List.mem_of_mem_head? hx
  exact ⟨x, hm, (h.asks x hm).1, ha⟩

/-- **Requests of an action can be sent about an identity**: it is not broken, and the client can write them. -/
def Kind.Able (k : Kind) (p : Provider) (id : String) (action : Option String) : Prop :=
  ¬k.Broken id ∧ ∀ a ∈ action, ∀ e, ¬p.Unwritten .dcdb a e

/-- What a change sends: requests of its own action only, and one at least if it is needed and either succeeds or can be
sent. -/
def Sent (action : Option String) (able needed : Prop) (xs : List Exchange) (r : Except Failure Unit) : Prop :=
  (∀ x ∈ xs, action = some x.posting.action) ∧ (r = .ok () ∨ able → needed → xs ≠ [])

theorem Sent.needs {action : Option String} {able needed needed' : Prop} {xs : List Exchange}
    {r : Except Failure Unit} (h : Sent action able needed xs r) (hn : needed' → needed) :
    Sent action able needed' xs r :=
  ⟨h.1, fun hr hn' => h.2 hr (hn hn')⟩

theorem sent_nothing {action : Option String} {able needed : Prop} {r : Except Failure Unit}
    (h : r = .ok () ∨ able → ¬needed) : Sent action able needed [] r :=
  ⟨by simp, fun hr hn => absurd hn (h hr)⟩

theorem Called.sent {p : Provider} {b : Budget} {action : String} {body : Json} {answer : Json.Record Unit}
    {k : Kind} {id : String} {needed : Prop} {xs : List Exchange} {r : Except Failure Unit}
    (h : Called p b action body answer xs r) : Sent (some action) (k.Able p id (some action)) needed xs r := by
  refine ⟨fun x hx => by rw [(h.asks x hx).1], ?_⟩
  rintro (rfl | able) -
  · obtain ⟨x, hx, -⟩ := h.exists_mem_of_ok
    exact List.ne_nil_of_mem hx
  · obtain ⟨x, hx, -⟩ := h.exists_asks (able.2 action rfl)
    exact List.ne_nil_of_mem hx

theorem sent_of_pure {action : Option String} {able needed : Prop} (h : ¬needed) :
    (pure () : Run Unit).Ensures (Sent action able needed) :=
  (Run.ensures_pure ()).mono fun xs r hr => by
    obtain ⟨rfl, rfl⟩ := hr
    exact sent_nothing fun _ => h

theorem sent_of_fail {action : Option String} {able needed : Prop} (e : Failure) (h : able → ¬needed) :
    (Run.fail e).Ensures (Sent action able needed) :=
  (Run.ensures_fail e).mono fun xs r hr => by
    obtain ⟨rfl, rfl⟩ := hr
    exact sent_nothing fun hr => hr.elim (fun hok => by cases hok) h

/-- A call on a broken identity fails. -/
theorem sent_of_broken {k : Kind} {p : Provider} {id : String} {action : Option String} {needed : Prop} (e : Failure)
    (h : k.Broken id) : (Run.fail e).Ensures (Sent action (k.Able p id action) needed) :=
  sent_of_fail e fun able => absurd h able.1

/-! ## Accounts -/

open Vendor

namespace Account

variable {p : Provider} {id instanceId userName : String} {a : Account}

/-- The identity of an account that an answer says to be created. -/
def acceptedBy (a : Account) (x : Exchange) : Option String :=
  (x.outcome createdAccount).toOption.map fun named => identity (instanceOr named a.instanceId) a.userName

theorem create_ensures : (create p a).Ensures fun xs r => ∃ created,
    Called p p.write "CreateAccount" a.creationBody createdAccount xs created ∧
      r = created.map fun named => identity (instanceOr named a.instanceId) a.userName :=
  (p.createAccount_ensures a.creationBody).map _

theorem update_ensures (p : Provider) (id : String) (changed : List String) (a : Account) :
    (update p id changed a).Ensures (Sent (some "ModifyAccountDescription")
      (Kind.account.Able p id (some "ModifyAccountDescription")) ("description" ∈ changed)) := by
  unfold update
  cases h : parts id with
  | error e => exact sent_of_broken e (broken_of_parts h)
  | ok named =>
    obtain ⟨instanceId, userName⟩ := named
    rw [Run.ofExcept_ok, pure_bind]
    dsimp only
    split
    · exact (p.modifyAccountDescription_ensures instanceId userName a.host (a.description.getD "")).mono
        fun xs r hc => hc.sent
    · rename_i hno
      exact sent_of_pure fun hn => hno (List.contains_iff_mem.2 hn)

theorem delete_ensures : (delete p id a).Ensures
    (Sent (some "DeleteAccount") (Kind.account.Able p id (some "DeleteAccount")) True) := by
  unfold delete
  cases h : parts id with
  | error e => exact sent_of_broken e (broken_of_parts h)
  | ok named =>
    obtain ⟨instanceId, userName⟩ := named
    exact (p.deleteAccount_ensures instanceId userName a.host).mono fun xs r hc => hc.sent

end Account

/-! ## Instances -/

namespace Instance

variable {p : Provider} {id : String} {i : Instance} {billing : Billing}

/-- The identifier of an instance that an answer says to be created. -/
def acceptedBy (x : Exchange) : Option String := (x.outcome createdInstances).toOption.bind (·.find? (· ≠ ""))

/-- What one question means for an instance that has to be running. -/
def readiness (id : String) (x : Exchange) : Except Failure Unit :=
  (x.outcome instanceList).bind fun listed =>
    if statusOf listed = running then .ok () else .error (.notReady id (statusOf listed))

/-- What waiting for an instance adds: questions, until one finds it running. -/
structure Awaited (p : Provider) (id : String) (xs : List Exchange) (r : Except Failure Unit) : Prop where
  posts : ∀ x ∈ xs, p.Posts .dcdb "DescribeDCDBInstances" (Provider.instanceQuestion id) x
  settled : Settled p.read "DescribeDCDBInstances" (p.Unwritten .dcdb "DescribeDCDBInstances") (readiness id) xs r

theorem Awaited.asks {xs : List Exchange} {r : Except Failure Unit} (h : Awaited p id xs r) :
    ∀ x ∈ xs, x.Asks "DescribeDCDBInstances" (Provider.instanceQuestion id) := fun x hx => (h.posts x hx).asks

theorem poll_eq : poll p id = p.listInstances id >>= fun listed =>
    Run.ofExcept (if statusOf listed = running then .ok () else .error (.notReady id (statusOf listed))) := by
  unfold poll
  congr 1
  funext listed
  split
  · rfl
  · rfl

theorem waitRunning_ensures : (waitRunning p id).Ensures (Awaited p id) := by
  have attempt : Run.Attempt (p.Posts .dcdb "DescribeDCDBInstances" (Provider.instanceQuestion id))
      (p.Unwritten .dcdb "DescribeDCDBInstances") (readiness id) (poll p id) := by
    rw [poll_eq]
    exact (p.attempt_invoke .dcdb "DescribeDCDBInstances" (Provider.instanceQuestion id) instanceList).judged _
  exact (attempt.retried p.out p.read _).mono fun _ _ h => ⟨h.1, h.2⟩

/-- What a creation adds: the vendor has to name the new instance, and then it has to run. -/
def Created (p : Provider) (billing : Billing) (i : Instance) (xs : List Exchange) (r : Except Failure String) :
    Prop :=
  ∃ calls created, Called p p.write billing.createAction (i.creationBody billing) createdInstances calls created ∧
    match created with
    | .error e => xs = calls ∧ r = .error e
    | .ok ids =>
      match ids.find? (· ≠ "") with
      | none => xs = calls ∧ r = .error (.unnamed billing.createAction)
      | some id => ∃ polls ready, xs = polls ++ calls ∧ Awaited p id polls ready ∧ r = ready.map fun _ => id

theorem create_ensures : (create billing p i).Ensures (Created p billing i) := by
  unfold create
  refine ((p.createInstance_ensures billing (i.creationBody billing)).bind
    (Q := fun ids xs r => match ids.find? (· ≠ "") with
      | none => xs = [] ∧ r = .error (.unnamed billing.createAction)
      | some id => ∃ ready, Awaited p id xs ready ∧ r = ready.map fun _ => id) fun ids => ?_).mono fun xs r h => ?_
  · cases ids.find? (· ≠ "") with
    | none => exact Run.ensures_fail _
    | some id => exact waitRunning_ensures.map _
  · rcases h with ⟨e, rfl, hc⟩ | ⟨ids, later, earlier, rfl, hc, h⟩
    · exact ⟨xs, .error e, hc, rfl, rfl⟩
    · refine ⟨earlier, .ok ids, hc, ?_⟩
      dsimp only
      cases hid : ids.find? (· ≠ "") with
      | none =>
        rw [hid] at h
        obtain ⟨rfl, rfl⟩ := h
        exact ⟨rfl, rfl⟩
      | some id =>
        rw [hid] at h
        obtain ⟨ready, ha, rfl⟩ := h
        exact ⟨later, ready, rfl, ha, rfl⟩

theorem update_ensures (p : Provider) (id : String) (changed : List String) (i : Instance) :
    (update p id changed i).Ensures (Sent (some "ModifyDBInstanceName")
      ((Kind.instance billing).Able p id (some "ModifyDBInstanceName")) ("instance_name" ∈ changed)) := by
  unfold update
  split
  · exact (p.modifyInstanceName_ensures id (i.name.getD "")).mono fun xs r hc => hc.sent
  · rename_i hno
    exact sent_of_pure fun hn => hno (List.contains_iff_mem.2 hn)

end Instance

/-! ## Attachments -/

namespace Attachment

variable {p : Provider} {id group : String} {a : Attachment} {instances : StringSet}

/-- The identity of an attachment that an answer says to be created. -/
def acceptedBy (a : Attachment) (x : Exchange) : Option String :=
  (x.outcome acknowledgement).toOption.map fun _ => identity a.instanceIds a.securityGroupId

theorem create_ensures : (create p a).Ensures fun xs r => ∃ created,
    Called p p.write "AssociateSecurityGroups" (bindingBody a.product a.securityGroupId a.instanceIds)
        acknowledgement xs created ∧
      r = created.map fun _ => identity a.instanceIds a.securityGroupId :=
  (p.associateSecurityGroups_ensures a.product a.securityGroupId a.instanceIds).map _

theorem update_ensures (p : Provider) (id : String) (changed : List String) (a : Attachment) :
    (update p id changed a).Ensures (Sent none (Kind.attachment.Able p id none) False) := by
  cases changed with
  | nil => exact sent_of_pure not_false
  | cons field rest => exact sent_of_fail (.notUpdatable field) fun _ => not_false

/-- Some instances of an identity are bound, as far as is known. -/
def Held (id : String) (a : Attachment) : Prop :=
  ∀ instances group, parts id = .ok (instances, group) → (boundInstances instances a.instanceIds).isEmpty = false

/-- If no instance has to be released, nothing is sent. -/
theorem delete_ensures : (delete p id a).Ensures (Sent (some "DisassociateSecurityGroups")
    (Kind.attachment.Able p id (some "DisassociateSecurityGroups")) (Held id a)) := by
  unfold delete
  cases h : parts id with
  | error e => exact sent_of_broken e (broken_of_parts h)
  | ok named =>
    obtain ⟨instances, group⟩ := named
    rw [Run.ofExcept_ok, pure_bind]
    dsimp only
    split
    · rename_i hempty
      refine sent_of_pure fun held => ?_
      rw [held instances group h] at hempty
      cases hempty
    · exact (p.disassociateSecurityGroups_ensures (productOr a.product) group
        (boundInstances instances a.instanceIds)).mono fun xs r hc => hc.sent

theorem isEmpty_of_mem {i : String} {s : StringSet} (h : i ∈ s) : s.isEmpty = false := by
  rw [StringSet.isEmpty, List.isEmpty_eq_false_iff]
  exact List.ne_nil_of_mem (StringSet.mem_toList.2 h)

/-- What a look-up finds is bound. -/
theorem held_of_read {b : Attachment} {s : Session} (hr : (read p id a s).1 = .ok (some b)) : Held id b := by
  intro instances group h
  obtain ⟨xs, -, r, hs, hrr⟩ := read_ensures (p := p) (a := a) h s
  rw [hr] at hrr
  cases r with
  | error e => cases hrr
  | ok found =>
    simp only [Except.map, Except.ok.injEq, foundOf] at hrr
    split at hrr
    · cases hrr
    · rename_i hne
      obtain ⟨i, hi⟩ := List.exists_mem_of_ne_nil found hne
      have hb : i ∈ b.instanceIds := by
        rw [Option.some.inj hrr]
        exact StringSet.mem_ofList.2 hi
      rw [boundInstances, isEmpty_of_mem hb]
      exact isEmpty_of_mem (StringSet.mem_inter.2 ⟨(hs.of_ok (nodup_toList instances)).1.subset hi, hb⟩)

end Attachment

/-! ## All types -/

namespace Kind

/-- The action that creates a resource. -/
def creation : Kind → String
  | .account => "CreateAccount"
  | .instance billing => billing.createAction
  | .attachment => "AssociateSecurityGroups"

/-- The action that changes a resource in place, if there is one. -/
def modification : Kind → Option String
  | .account => some "ModifyAccountDescription"
  | .instance _ => some "ModifyDBInstanceName"
  | .attachment => none

/-- The action that deletes a resource. -/
def deletion : Kind → String
  | .account => "DeleteAccount"
  | .instance billing => billing.destroyAction
  | .attachment => "DisassociateSecurityGroups"

theorem isQuestion_question (k : Kind) : isQuestion k.question = true := by
  rcases k with _ | ⟨_ | _⟩ | _ <;> decide

theorem isQuestion_creation (k : Kind) : isQuestion k.creation = false := by
  rcases k with _ | ⟨_ | _⟩ | _ <;> decide

theorem isQuestion_deletion (k : Kind) : isQuestion k.deletion = false := by
  rcases k with _ | ⟨_ | _⟩ | _ <;> decide

theorem isQuestion_modification {k : Kind} {action : String} (h : k.modification = some action) :
    isQuestion action = false := by
  rcases k with _ | _ | _ <;> cases h <;> decide

theorem modification_ne_creation {k : Kind} {action : String} (h : k.modification = some action) :
    action ≠ k.creation := by
  rcases k with _ | ⟨_ | _⟩ | _ <;> cases h <;> decide

theorem question_ne_creation (k : Kind) : k.question ≠ k.creation := by
  rcases k with _ | ⟨_ | _⟩ | _ <;> decide

theorem deletion_ne_creation (k : Kind) : k.deletion ≠ k.creation := by
  rcases k with _ | ⟨_ | _⟩ | _ <;> decide

/-- The identity that an answer to a creation gives to the new resource. -/
def acceptedBy : (k : Kind) → k.Config → Exchange → Option String
  | .account, a, x => Account.acceptedBy a x
  | .instance _, _, x => Instance.acceptedBy x
  | .attachment, a, x => Attachment.acceptedBy a x

/-- **The identity of the resource that the vendor created in an exchange**, if it accepted to create one; of an
instance it has to give an identifier. -/
def createdBy (k : Kind) (config : k.Config) (x : Exchange) : Option String :=
  if x.posting.action = k.creation then k.acceptedBy config x else none

theorem createdBy_of_creation {k : Kind} {config : k.Config} {x : Exchange} (h : x.posting.action = k.creation) :
    k.createdBy config x = k.acceptedBy config x := if_pos h

theorem action_of_createdBy {k : Kind} {config : k.Config} {x : Exchange} {id : String}
    (h : k.createdBy config x = some id) : x.posting.action = k.creation := by
  rw [createdBy] at h
  split at h
  · assumption
  · cases h

theorem acceptedBy_of_createdBy {k : Kind} {config : k.Config} {x : Exchange} {id : String}
    (h : k.createdBy config x = some id) : k.acceptedBy config x = some id :=
  (createdBy_of_creation (action_of_createdBy h)).symm.trans h

/-- **What a creation sends and gives.** -/
structure Created (k : Kind) (p : Provider) (config : k.Config) (xs : List Exchange) (r : Except Failure String) :
    Prop where
  sent : ∀ x ∈ xs, x.posting.action = k.question ∨ x.posting.action = k.creation
  tried : (∀ e, ¬p.Unwritten .dcdb k.creation e) → ∃ x ∈ xs, x.posting.action = k.creation
  accepted : ∀ id, r = .ok id → ∃ x ∈ xs, k.createdBy config x = some id
  only : ∀ x ∈ xs, ∀ id id', k.createdBy config x = some id → r = .ok id' → id' = id

/-- The call that creates, and the questions that may follow it. -/
theorem created_of_called {α : Type} {k : Kind} {config : k.Config} {p : Provider} {body : Json}
    {answer : Json.Record α} {named : α → Option String} {calls : List Exchange} {created : Except Failure α}
    {r : Except Failure String} (later : List Exchange) (h : Called p p.write k.creation body answer calls created)
    (accepts : ∀ x, k.acceptedBy config x = (x.outcome answer).toOption.bind named)
    (asked : ∀ x ∈ later, x.posting.action = k.question)
    (told : ∀ id, r = .ok id → ∃ a, created = .ok a ∧ named a = some id) : Created k p config (later ++ calls) r where
  sent := fun x hx => (List.mem_append.1 hx).elim (fun hl => .inl (asked x hl)) fun hc => .inr (h.asks x hc).1
  tried := fun hp => by
    obtain ⟨x, hx, hasks⟩ := h.exists_asks hp
    exact ⟨x, List.mem_append_right later hx, hasks.1⟩
  accepted := fun id hid => by
    obtain ⟨a, rfl, ha⟩ := told id hid
    obtain ⟨x, hx, hact, ho⟩ := h.exists_mem_of_ok
    refine ⟨x, List.mem_append_right later hx, ?_⟩
    rw [createdBy_of_creation hact, accepts, ho]
    exact ha
  only := fun x hx id id' hid hr => by
    obtain ⟨a, rfl, ha⟩ := told id' hr
    have hact := action_of_createdBy hid
    rcases List.mem_append.1 hx with hx | hx
    · rw [asked x hx] at hact
      exact absurd hact k.question_ne_creation
    · rw [createdBy_of_creation hact, accepts] at hid
      cases ho : x.outcome answer with
      | error e => simp [ho, Except.toOption] at hid
      | ok b =>
        cases h.of_mem_ok hx ho
        rw [ho] at hid
        exact Option.some.inj (ha.symm.trans hid)

/-- **A creation sends no other changes than its own, and what it gives is the identity of what the vendor created.** -/
theorem create_ensures (p : Provider) : ∀ (k : Kind) (config : k.Config),
    (k.resource.create p config).Ensures (Created k p config)
  | .account, a => Account.create_ensures.mono fun xs r ⟨created, h, hr⟩ => by
    have accepts : ∀ x, acceptedBy .account a x = (x.outcome createdAccount).toOption.bind fun named =>
        some (Account.identity (Account.instanceOr named a.instanceId) a.userName) := fun x => Option.map_eq_bind
    refine created_of_called (k := .account) [] h accepts (by simp) fun id hid => ?_
    cases created with
    | error e => simp [hr, Except.map] at hid
    | ok named =>
      rw [hid] at hr
      exact ⟨named, rfl, congrArg some (Except.ok.inj hr).symm⟩
  | .instance billing, i => Instance.create_ensures.mono fun xs r ⟨calls, created, h, hr⟩ => by
    have accepts : ∀ x, acceptedBy (.instance billing) i x =
        (x.outcome createdInstances).toOption.bind (·.find? (· ≠ "")) := fun x => rfl
    cases created with
    | error e =>
      obtain ⟨rfl, rfl⟩ := hr
      exact created_of_called (k := .instance billing) [] h accepts (by simp) (by simp)
    | ok ids =>
      dsimp only at hr
      cases hf : ids.find? (· ≠ "") with
      | none =>
        rw [hf] at hr
        obtain ⟨rfl, rfl⟩ := hr
        exact created_of_called (k := .instance billing) [] h accepts (by simp) (by simp)
      | some id =>
        rw [hf] at hr
        obtain ⟨polls, ready, rfl, hp, rfl⟩ := hr
        refine created_of_called (k := .instance billing) polls h accepts (fun x hx => (hp.asks x hx).1)
          fun id' hid => ?_
        cases ready with
        | error e => cases hid
        | ok _ =>
          cases hid
          exact ⟨ids, rfl, hf⟩
  | .attachment, a => Attachment.create_ensures.mono fun xs r ⟨created, h, hr⟩ => by
    have accepts : ∀ x, acceptedBy .attachment a x = (x.outcome acknowledgement).toOption.bind fun _ =>
        some (Attachment.identity a.instanceIds a.securityGroupId) := fun x => Option.map_eq_bind
    refine created_of_called (k := .attachment) [] h accepts (by simp) fun id hid => ?_
    cases created with
    | error e => simp [hr, Except.map] at hid
    | ok _ =>
      rw [hid] at hr
      exact ⟨(), rfl, congrArg some (Except.ok.inj hr).symm⟩

/-- A field that can change in place is named. -/
def NamesUpdatable (k : Kind) (names : List String) : Prop :=
  ∃ f ∈ k.schema.fields, f.mutability = .updatable ∧ f.name ∈ names

/-- **A change in place sends no other changes than its own, and one at least if it is needed and either succeeds or
can be sent.** -/
theorem update_ensures (p : Provider) (id : String) (names : List String) : ∀ (k : Kind) (config : k.Config),
    (k.resource.update p id names config).Ensures
      (Sent k.modification (k.Able p id k.modification) (k.NamesUpdatable names))
  | .account, a => by
    have only : ∀ f ∈ Account.schema.fields, f.mutability = .updatable → f.name = "description" := by decide
    refine (Account.update_ensures p id names a).mono fun xs r h => h.needs ?_
    rintro ⟨f, hf, hu, hn⟩
    exact only f hf hu ▸ hn
  | .instance billing, i => by
    have only : ∀ f ∈ (Instance.schema billing).fields, f.mutability = .updatable → f.name = "instance_name" := by
      cases billing <;> decide
    refine (Instance.update_ensures p id names i).mono fun xs r h => h.needs ?_
    rintro ⟨f, hf, hu, hn⟩
    exact only f hf hu ▸ hn
  | .attachment, a => by
    have none : ∀ f ∈ Attachment.schema.fields, f.mutability ≠ .updatable := by decide
    refine (Attachment.update_ensures p id names a).mono fun xs r h => h.needs ?_
    rintro ⟨f, hf, hu, -⟩
    exact none f hf hu

/-- What is known of a resource says that there is something to delete. -/
def Held : (k : Kind) → String → k.Config → Prop
  | .account, _, _ => True
  | .instance _, _, _ => True
  | .attachment, id, a => Attachment.Held id a

theorem held_of_read {p : Provider} {id : String} {s : Session} : ∀ {k : Kind} {a b : k.Config},
    (k.resource.read p id a s).1 = .ok (some b) → k.Held id b
  | .account, _, _, _ => trivial
  | .instance _, _, _, _ => trivial
  | .attachment, _, _, h => Attachment.held_of_read h

/-- **A deletion sends no other changes than its own, and one at least if it is needed and either succeeds or can be
sent.** -/
theorem delete_ensures (p : Provider) (id : String) : ∀ (k : Kind) (config : k.Config),
    (k.resource.delete p id config).Ensures
      (Sent (some k.deletion) (k.Able p id (some k.deletion)) (k.Held id config))
  | .account, _ => Account.delete_ensures
  | .instance billing, _ => (p.destroyInstance_ensures billing id).mono fun _ _ h => h.sent
  | .attachment, _ => Attachment.delete_ensures

end Kind

end Provision
