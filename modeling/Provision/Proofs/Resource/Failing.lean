import Provision.Proofs.Resource.Coherence
import Provision.Proofs.Resource.Simulation

/-!
# What is known after a failure

A step that fails leaves what is known as it was before the stage at which it failed. A deletion leaves everything; a
change in place does so up to the answer to its call. An application has more stages: each of them is a way to fail, and
there are no others (`Resource.apply_fails_iff`). Main statement: this holds for every type, and the document of the
resource says the same (`Kind.failures_recorded`).
-/

namespace Provision

namespace Resource

variable {α : Type}

/-- An application gets to its plan, with what the refresh made known. -/
structure Plans (r : Resource α) (p : Provider) (st : ResourceState α) (desired : α) (s : Session) (plan : Plan)
    (now : ResourceState α) (t : Session) : Prop where
  check : r.check (r.toJson desired) = .ok ()
  current : r.current p st s = ⟨.ok (), now, t⟩
  plan : r.plan (some now) desired = .ok plan

/-- **The ways in which an application fails**, with the failure, what is known then, and the session. -/
inductive Fails (r : Resource α) (p : Provider) (st : ResourceState α) (desired : α) (s : Session) :
    Failure → ResourceState α → Session → Prop
  /-- What is desired does not pass the check. -/
  | check {e : Failure} (h : r.check (r.toJson desired) = .error e) : Fails r p st desired s e st s
  /-- It is not known whether the resource is there. -/
  | refresh {e : Failure} {t : Session} (hcheck : r.check (r.toJson desired) = .ok ())
    (h : r.current p st s = ⟨.error e, st, t⟩) : Fails r p st desired s e st t
  /-- A field cannot change. -/
  | reject {plan : Plan} {now : ResourceState α} {t : Session} (h : r.Plans p st desired s plan now t)
    (ha : plan.action = .reject) : Fails r p st desired s (.notUpdatable (plan.rejected.head?.getD "")) now t
  /-- The call of a change in place fails: what the refresh made known stays. -/
  | modify {plan : Plan} {now : ResourceState α} {e : Failure} {t u : Session}
    (h : r.Plans p st desired s plan now t) (ha : plan.action = .update)
    (hm : r.modify p now desired t = (.error e, u)) : Fails r p st desired s e now u
  /-- The resource was changed in place, but the look-up after that fails. -/
  | lookUp {plan : Plan} {now after : ResourceState α} {e : Failure} {t u v : Session}
    (h : r.Plans p st desired s plan now t) (ha : plan.action = .update)
    (hm : r.modify p now desired t = (.ok (), u)) (hr : r.refresh p ⟨now.id, desired⟩ u = ⟨.error e, after, v⟩) :
    Fails r p st desired s e after v
  /-- The deletion before a new creation fails: what the refresh made known stays. -/
  | delete {plan : Plan} {now : ResourceState α} {e : Failure} {t u : Session}
    (h : r.Plans p st desired s plan now t) (ha : plan.action = .replace)
    (hd : r.delete p now.id now.attributes t = (.error e, u)) : Fails r p st desired s e now u
  /-- The creation after a deletion fails: there is no identity, and the attributes are those before the deletion. -/
  | recreate {plan : Plan} {now : ResourceState α} {e : Failure} {t u v : Session}
    (h : r.Plans p st desired s plan now t) (ha : plan.action = .replace)
    (hd : r.delete p now.id now.attributes t = (.ok (), u)) (hc : r.createFrom p desired u = (.error e, v)) :
    Fails r p st desired s e ⟨"", now.attributes⟩ v
  /-- The creation fails: there is no identity, and the attributes are those before it. -/
  | create {plan : Plan} {now : ResourceState α} {e : Failure} {t u : Session}
    (h : r.Plans p st desired s plan now t) (ha : plan.action = .create)
    (hc : r.createFrom p desired t = (.error e, u)) : Fails r p st desired s e ⟨"", now.attributes⟩ u

variable {r : Resource α} {p : Provider} {st now after : ResourceState α} {desired : α} {s t u : Session}
  {plan : Plan} {e : Failure}

/-- The plan for a resource that is found. -/
theorem plans_of_read {found : α} (hcheck : r.check (r.toJson desired) = .ok ()) (hp : st.present = true)
    (hread : r.read p st.id st.attributes s = (.ok (some found), t)) :
    r.Plans p st desired s (r.schema.plan (some (r.toJson found)) (r.toJson desired)) ⟨st.id, found⟩ t where
  check := hcheck
  current := by rw [current, if_pos hp, refresh_of_some hp hread]
  plan := by
    have hnow : (⟨st.id, found⟩ : ResourceState α).present = true := hp
    rw [plan_of_check _ hcheck, if_pos hnow]

theorem Plans.apply_eq (h : r.Plans p st desired s plan now t) :
    r.apply p st desired s = r.execute p plan now desired t := by
  unfold apply
  rw [h.check]
  dsimp only
  rw [h.current]
  dsimp only
  rw [h.plan]

/-- A plan creates if and only if the resource does not exist. -/
theorem Plans.create_iff (h : r.Plans p st desired s plan now t) : plan.action = .create ↔ now.present = false := by
  have hplan := plan_of_check now h.check
  rw [h.plan] at hplan
  rw [Except.ok.inj hplan]
  cases now.present with
  | false => exact iff_of_true rfl rfl
  | true =>
    refine iff_of_false (fun ha => ?_) Bool.noConfusion
    -- with prior attributes, no list of changed fields asks for a creation
    rcases Schema.actionOf_cases (r.schema.changedFields (r.toJson now.attributes) (r.toJson desired)) with
      ⟨h, -⟩ | ⟨h, -⟩ | ⟨h, -⟩ | ⟨h, -⟩
    all_goals cases h.symm.trans ha

theorem Plans.state_eq_of_create (h : r.Plans p st desired s plan now t) (ha : plan.action = .create) :
    now = ⟨"", now.attributes⟩ := by
  have hid : now.id = "" := by simpa [ResourceState.present] using h.create_iff.1 ha
  rw [← hid]

theorem Plans.present_of_replace (h : r.Plans p st desired s plan now t) (ha : plan.action = .replace) :
    now.present = true := by
  refine Bool.not_eq_false _ ▸ fun hp => ?_
  rw [h.create_iff.2 hp] at ha
  cases ha

/-- Each way to fail is one of an application. -/
theorem Fails.apply_eq (h : r.Fails p st desired s e after u) : r.apply p st desired s = ⟨.error e, after, u⟩ := by
  cases h with
  | check h => rw [apply, h]
  | refresh hcheck h =>
    rw [apply, hcheck]
    dsimp only
    rw [h]
  | reject h ha => rw [h.apply_eq, execute_of_reject ha]
  | modify h ha hm => rw [h.apply_eq, execute_of_update ha, updateTo_of_modify_error hm]
  | lookUp h ha hm hr => rw [h.apply_eq, execute_of_update ha, updateTo_of_modify_ok hm, hr]
  | delete h ha hd =>
    rw [h.apply_eq, execute_of_remove_error ha (remove_of_delete_error (h.present_of_replace ha) hd)]
  | recreate h ha hd hc =>
    rw [h.apply_eq, execute_of_remove_ok ha (remove_of_delete_ok (h.present_of_replace ha) hd), Resource.recreate, hc]
  | create h ha hc =>
    rw [h.apply_eq, execute_of_create ha, Resource.recreate, hc]
    rw [← h.state_eq_of_create ha]

/-- A plan that is carried out fails at one of the stages of its action. -/
theorem Plans.fails (h : r.Plans p st desired s plan now t)
    (he : r.execute p plan now desired t = ⟨.error e, after, u⟩) : r.Fails p st desired s e after u := by
  cases ha : plan.action with
  | noOp =>
    rw [execute_of_noOp ha] at he
    cases he
  | reject =>
    rw [execute_of_reject ha] at he
    cases he
    exact .reject h ha
  | update =>
    rw [execute_of_update ha] at he
    rcases hm : r.modify p now desired t with ⟨res, v⟩
    cases res with
    | error e' =>
      rw [updateTo_of_modify_error hm] at he
      cases he
      exact .modify h ha hm
    | ok _ =>
      rw [updateTo_of_modify_ok hm] at he
      exact .lookUp h ha hm he
  | replace =>
    rcases r.remove_cases p now t with ⟨hp, -⟩ | ⟨e', v, -, hd, hr⟩ | ⟨v, -, hd, hr⟩
    · rw [h.present_of_replace ha] at hp
      cases hp
    · rw [execute_of_remove_error ha hr] at he
      cases he
      exact .delete h ha hd
    · rw [execute_of_remove_ok ha hr] at he
      rcases r.recreate_cases p ⟨"", now.attributes⟩ desired v with ⟨e', w, hc, hrec⟩ | ⟨made, w, -, hrec⟩
      · rw [hrec] at he
        cases he
        exact .recreate h ha hd hc
      · rw [hrec] at he
        cases he
  | create =>
    rw [execute_of_create ha] at he
    rcases r.recreate_cases p now desired t with ⟨e', w, hc, hrec⟩ | ⟨made, w, -, hrec⟩
    · rw [hrec] at he
      cases he
      rw [h.state_eq_of_create ha]
      exact .create h ha hc
    · rw [hrec] at he
      cases he

/-- **An application fails in these ways, and in no others.** -/
theorem apply_fails_iff : r.apply p st desired s = ⟨.error e, after, u⟩ ↔ r.Fails p st desired s e after u := by
  refine ⟨fun h => ?_, Fails.apply_eq⟩
  rcases r.apply_cases p st desired s with ⟨e', hcheck, he⟩ | ⟨e', now, t, hcheck, hc, he⟩ |
    ⟨plan, now, t, hcheck, hc, hplan, he⟩
  · rw [he] at h
    cases h
    exact .check hcheck
  · rw [he] at h
    cases h
    rcases r.current_cases p st s with ⟨-, hcur⟩ | ⟨_, _, -, hcur⟩ | ⟨_, _, -, -, hcur⟩ | ⟨_, _, -, -, hcur⟩
    all_goals
      rw [hcur] at hc
      cases hc
    exact .refresh hcheck hcur
  · rw [he] at h
    exact Plans.fails ⟨hcheck, hc, hplan⟩ h

/-- A deletion that fails leaves what is known. -/
theorem eq_of_remove_error (h : r.remove p st s = ⟨.error e, now, t⟩) : now = st := by
  rcases r.remove_cases p st s with ⟨-, he⟩ | ⟨_, _, -, -, he⟩ | ⟨_, -, -, he⟩
  all_goals
    rw [he] at h
    cases h
  rfl

/-! ## Documents -/

section Documents

variable {d : Document} (hd : r.decodeState d = .ok st)
include hd

theorem corresponds_of_decodeState : r.Corresponds d st := by
  unfold decodeState at hd
  split at hd
  · rename_i htype
    split at hd
    · rename_i hid
      cases hd
      exact .of_empty htype hid rfl
    · obtain ⟨a, ha, rfl⟩ := map_eq_ok_iff.1 hd
      exact ⟨htype, rfl, fun _ => ha⟩
  · cases hd

theorem deleteDocument_of_error (h : r.remove p st s = ⟨.error e, now, t⟩) :
    r.deleteDocument p d s = ⟨.error e, d, t⟩ := by
  simp only [deleteDocument, hd, h]

theorem applyDocument_eq {v : Json} (hv : r.decodeDesired v = .ok desired) :
    r.applyDocument p d v s = r.recorded (r.apply p st desired s) := by
  simp only [applyDocument, hd, hv]

end Documents

/-- A deletion that fails leaves the document, whatever it says. -/
theorem document_of_deleteDocument_error {d : Document} (h : (r.deleteDocument p d s).result = .error e) :
    (r.deleteDocument p d s).document = d := by
  unfold deleteDocument at h ⊢
  cases hd : r.decodeState d with
  | error e => rfl
  | ok st =>
    rw [hd] at h
    dsimp only at h ⊢
    cases hres : (r.remove p st s).result with
    | error e => rfl
    | ok _ =>
      simp only [hres] at h
      cases h

/-- Without an identity, an application that fails leaves none. -/
theorem id_of_applyDocument_error {d : Document} {v : Json} (hid : d.id = "")
    (h : (r.applyDocument p d v s).result = .error e) : (r.applyDocument p d v s).document.id = "" := by
  unfold applyDocument at h ⊢
  cases hv : r.decodeDesired v with
  | error e => exact hid
  | ok desired =>
    cases hd : r.decodeState d with
    | error e => exact hid
    | ok st =>
      have hst : st.id = "" := (corresponds_of_decodeState hd).id.symm.trans hid
      have hp : st.present = false := by simp [ResourceState.present, hst]
      rw [hv, hd] at h
      dsimp only [recorded, encodeState] at h ⊢
      cases hcheck : r.check (r.toJson desired) with
      | error e => rw [apply, hcheck, hst]
      | ok _ =>
        rw [apply_of_not_present hcheck hp] at h ⊢
        rcases r.recreate_cases p st desired s with ⟨e', u, -, he⟩ | ⟨made, u, -, he⟩
        · rw [he, hst]
        · rw [he] at h
          cases h

/-- An application to a document deletes the resource for a new one, which is not created. -/
def LosesReplaced (r : Resource α) (p : Provider) (d : Document) (v : Json) (s : Session) : Prop :=
  ∃ st desired plan now t u e w, r.decodeState d = .ok st ∧ r.decodeDesired v = .ok desired ∧
    r.Plans p st desired s plan now t ∧ plan.action = .replace ∧ r.delete p now.id now.attributes t = (.ok (), u) ∧
      r.createFrom p desired u = (.error e, w)

/-- After that the document has no identity. -/
theorem id_of_losesReplaced {d : Document} {v : Json} (h : r.LosesReplaced p d v s) :
    (r.applyDocument p d v s).document.id = "" := by
  obtain ⟨st, desired, plan, now, t, u, e, w, hd, hv, hplans, ha, hdelete, hcreate⟩ := h
  rw [applyDocument_eq hd hv, (Fails.recreate hplans ha hdelete hcreate).apply_eq]
  rfl

end Resource

namespace Kind

/-- **What is known after a failure:** everything after a deletion that fails, or a change in place that fails up to
its call; after an application that fails, what was known before the stage at which it did; and the document says
so. -/
theorem failures_recorded (k : Kind) (p : Provider) (st : ResourceState k.Config) (s : Session) :
    (∀ e now t, k.resource.remove p st s = ⟨.error e, now, t⟩ → now = st) ∧
    (∀ planned e t, k.resource.modify p st planned s = (.error e, t) →
      k.resource.updateTo p st planned s = ⟨.error e, st, t⟩) ∧
    (∀ desired e after t, k.resource.apply p st desired s = ⟨.error e, after, t⟩ ↔
      k.resource.Fails p st desired s e after t) ∧
    ∀ d, k.resource.decodeState d = .ok st →
      (∀ e now t, k.resource.remove p st s = ⟨.error e, now, t⟩ →
        k.resource.deleteDocument p d s = ⟨.error e, d, t⟩) ∧
      ∀ v desired, k.resource.decodeDesired v = .ok desired → ∀ e after t,
        k.resource.apply p st desired s = ⟨.error e, after, t⟩ →
          k.resource.applyDocument p d v s = ⟨.error e, k.resource.encodeState after, t⟩ ∧
          (after.present = true → k.resource.decodeState (k.resource.encodeState after) = .ok after) := by
  refine ⟨fun e now t => Resource.eq_of_remove_error, fun planned e t => Resource.updateTo_of_modify_error,
    fun desired e after t => Resource.apply_fails_iff, fun d hd => ⟨fun e now t h => ?_, ?_⟩⟩
  · exact Resource.deleteDocument_of_error hd h
  · intro v desired hv e after t h
    have hst : st.Holds fun _ a => k.Fits a := k.faithful.holds_of_corresponds (Resource.corresponds_of_decodeState hd)
    have hdesired : k.Fits desired := fits_of_decode (Resource.decodeDesired_eq_ok_iff.1 hv).2
    have hafter : (k.resource.apply p st desired s).state.Holds fun _ a => k.Fits a := k.keeps_fits.apply hdesired hst
    rw [h] at hafter
    refine ⟨?_, fun hp => (k.faithful.corresponds_encodeState hafter).decodeState_of_present hp⟩
    rw [Resource.applyDocument_eq hd hv, h]
    rfl

end Kind

/-! ## A vendor that refuses every change -/

/-- A vendor that answers questions and refuses every change. -/
def Provider.reluctant : Provider := .plain fun _ x =>
  if isQuestion x.action then .answer 200 listedText
  else .answer 200 "\x7b\"Response\":\x7b\"Error\":\x7b\"Code\":\"AuthFailure\",\"Message\":\"no\"\x7d\x7d\x7d"

namespace Account

open Provider (reluctant refusal)

theorem read_of_reluctant (s : Session) : ∃ t, read reluctant "dcdbt-1#root" sample s = (.ok (some sample), t) := by
  have told : ∀ x : Posting, x.action = "DescribeAccounts" →
      (⟨x, reluctant.out.reply s.exchanges x⟩ : Exchange).outcome Vendor.accountList =
        .ok { users := [{ userName := some "root" }] } := by
    intro x hx
    have hquestion : isQuestion x.action = true := by rw [hx]; decide
    simp only [reluctant, Provider.plain, hquestion, if_true]
    cbv
  have hparts : parts "dcdbt-1#root" = .ok ("dcdbt-1", "root") := by rfl
  obtain ⟨-, t, -, -, hread, -⟩ := read_of_told (a := sample) Client.plain_writable hparts told (not_transient_ok _)
  exact ⟨t, hread⟩

/-- A change is refused. -/
theorem retried_of_reluctant (action : String) (hwritten : Client.isHeaderValue action = true)
    (hchange : isQuestion action = false) (body : Json) (s : Session) :
    ∃ t, Run.retried reluctant.out reluctant.write action
      (reluctant.invoke .dcdb action body Vendor.acknowledgement) s = (.error refusal, t) := by
  have told : ∀ x : Posting, x.action = action →
      (⟨x, reluctant.out.reply s.exchanges x⟩ : Exchange).outcome Vendor.acknowledgement = .error refusal := by
    intro x hx
    have hother : isQuestion x.action = false := hx ▸ hchange
    simp only [reluctant, Provider.plain, hother]
    cbv
  have final : ¬Transient (.error refusal : Except Failure Unit) := not_transient_error (by decide)
  obtain ⟨-, t, -, -, hr, -⟩ := Provider.retried_of_writable Client.plain_writable hwritten told final .dcdb body
    reluctant.write action
  exact ⟨t, hr⟩

theorem resource_update : resource.update = update := rfl

/-- The account with a description. -/
def described : Account := { sample with description := some "new" }

theorem check_described : resource.check (resource.toJson described) = .ok () := by
  have valid : resource.schema.violation? (resource.toJson described) = none := by decide +kernel
  rw [Resource.check, valid]

/-- Only the description changes. -/
theorem changes_described (id : String) : resource.changes ⟨id, sample⟩ described = .ok ["description"] := by
  have updatable : ∀ f ∈ Kind.account.changed ⟨"", sample⟩ described, f.mutability = .updatable := by
    decide +kernel
  have names : (Kind.account.changed ⟨"", sample⟩ described).map Schema.Field.name = ["description"] := by
    decide +kernel
  exact Resource.changes_eq_ok_iff.2 ⟨updatable, names.symm⟩

/-- A description that was refused is not known. -/
theorem modify_of_reluctant (s : Session) :
    ∃ t, resource.modify reluctant ⟨"dcdbt-1#root", sample⟩ described s = (.error refusal, t) := by
  obtain ⟨t, hr⟩ := retried_of_reluctant "ModifyAccountDescription" (by decide) (by decide)
    (.ofMembers (Provider.accountMembers "dcdbt-1" "root" "%" ++ [("Description", .string "new")])) s
  refine ⟨t, ?_⟩
  have hparts : parts "dcdbt-1#root" = .ok ("dcdbt-1", "root") := by rfl
  rw [Resource.modify_of_changes check_described (changes_described _) (by simp), resource_update, update_of_ok hparts,
    if_pos (by simp)]
  exact hr

theorem delete_of_reluctant (s : Session) :
    ∃ t, delete reluctant "dcdbt-1#root" sample s = (.error refusal, t) := by
  obtain ⟨t, hr⟩ := retried_of_reluctant "DeleteAccount" (by decide) (by decide)
    (.ofMembers (Provider.accountMembers "dcdbt-1" "root" "%")) s
  have hparts : parts "dcdbt-1#root" = .ok ("dcdbt-1", "root") := by rfl
  exact ⟨t, by rw [delete_of_ok hparts]; exact hr⟩

theorem plans_described : ∃ plan t, plan.action = .update ∧
    resource.Plans reluctant ⟨"dcdbt-1#root", sample⟩ described {} plan ⟨"dcdbt-1#root", sample⟩ t := by
  obtain ⟨t, hread⟩ := read_of_reluctant {}
  have action : (resource.schema.plan (some (resource.toJson sample)) (resource.toJson described)).action =
      .update := by decide +kernel
  exact ⟨_, t, action, Resource.plans_of_read check_described rfl hread⟩

theorem failures_recorded_reluctant :
    let st : ResourceState Account := ⟨"dcdbt-1#root", sample⟩
    let d := resource.encodeState st
    ∃ t u, resource.decodeState d = .ok st ∧
      resource.remove reluctant st {} = ⟨.error refusal, st, t⟩ ∧
      resource.deleteDocument reluctant d {} = ⟨.error refusal, d, t⟩ ∧
      resource.apply reluctant st described {} = ⟨.error refusal, st, u⟩ ∧
      resource.applyDocument reluctant d (resource.toJson described) {} = ⟨.error refusal, d, u⟩ := by
  intro st d
  have fits : ∀ a : Account, a.readOnly = none → a.maxUserConnections = none → a.Fits := by
    intro a h1 h2
    exact ⟨h1 ▸ fits64_none, h2 ▸ fitsNat64_none⟩
  have hdecode : ∀ a : Account, a.Fits → resource.decode (resource.toJson a) = .ok a :=
    fun a h => Kind.decode_toJson (k := .account) h
  have hd : resource.decodeState d = .ok st :=
    Resource.Corresponds.decodeState_of_present ⟨rfl, rfl, fun _ => hdecode sample (fits _ rfl rfl)⟩ rfl
  have hdesired : resource.decodeDesired (resource.toJson described) = .ok described :=
    Resource.decodeDesired_eq_ok_iff.2 ⟨check_described, hdecode described (fits _ rfl rfl)⟩
  obtain ⟨t, hdelete⟩ := delete_of_reluctant {}
  have hremove : resource.remove reluctant st {} = ⟨.error refusal, st, t⟩ :=
    Resource.remove_of_delete_error rfl (by rw [resource_delete]; exact hdelete)
  obtain ⟨plan, v, haction, hplans⟩ := plans_described
  obtain ⟨u, hmodify⟩ := modify_of_reluctant v
  obtain ⟨-, -, hfails, hdocuments⟩ := Kind.failures_recorded .account reluctant st {}
  have happly : resource.apply reluctant st described {} = ⟨.error refusal, st, u⟩ :=
    (hfails described refusal st u).2 (.modify hplans haction hmodify)
  obtain ⟨hdeleted, happlied⟩ := hdocuments d hd
  have hencode : Kind.account.resource.encodeState st = d := rfl
  have hrecorded := (happlied (resource.toJson described) described hdesired refusal st u happly).1
  rw [hencode] at hrecorded
  exact ⟨t, u, hd, hremove, hdeleted refusal st t hremove, happly, hrecorded⟩

end Account

end Provision
