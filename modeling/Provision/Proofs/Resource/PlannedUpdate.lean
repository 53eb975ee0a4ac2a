import Provision.Proofs.Resource.Announced
import Provision.Proofs.Resource.Failing
import Provision.Proofs.Resource.Talks

/-!
# A change in place follows the plan

The plan and the change in place judge the fields that change each on its own: the plan by the mutabilities of all of
them, the change by the first one that cannot change in place. Their verdicts are the same (`Resource.plan_verdict`).
So a change is refused where the plan rejects or replaces, it is only a look-up where the plan has nothing to do, and
otherwise it is the call of the type for the fields of the plan (`Resource.CallsFor`), which is one request with all of
them (`Kind.Modifies`). Main statement: all of this, for every type, every resource that exists and every configuration
that passes its check (`Kind.update_follows_plan`).
-/

namespace Provision

open Json Vendor

theorem Schema.changedFields_self (s : Schema) (v : Json) : s.changedFields v v = [] :=
  List.filter_eq_nil_iff.2 fun f _ => by simp [Field.changes]

namespace Resource

variable {α : Type} {r : Resource α} {p : Provider} {st : ResourceState α} {planned : α} {s : Session}
  {names : List String}

/-! ## Two verdicts -/

/-- **The plan and the change in place judge the same fields in the same way.** -/
theorem plan_verdict (r : Resource α) (st : ResourceState α) (planned : α) :
    let plan := r.schema.plan (some (r.toJson st.attributes)) (r.toJson planned)
    (plan.action = .noOp ∧ r.changes st planned = .ok []) ∨
    ((plan.action = .reject ∨ plan.action = .replace) ∧
      ∃ name ∈ plan.changed, r.changes st planned = .error (.notUpdatable name)) ∨
    (plan.action = .update ∧ plan.changed ≠ [] ∧ r.changes st planned = .ok plan.changed) := by
  have refused : ∀ {m : Mutability}, m ≠ .updatable →
      (∃ f ∈ r.schema.changedFields (r.toJson st.attributes) (r.toJson planned), f.mutability = m) →
      ∃ name ∈ (r.schema.changedFields (r.toJson st.attributes) (r.toJson planned)).map Schema.Field.name,
        r.changes st planned = .error (.notUpdatable name) := by
    rintro m hm ⟨f, hf, rfl⟩
    obtain ⟨g, hg, -, hchanges⟩ := changes_of_fixed ⟨f, hf, hm⟩
    exact ⟨g.name, List.mem_map_of_mem hg, hchanges⟩
  rcases Schema.actionOf_cases (r.schema.changedFields (r.toJson st.attributes) (r.toJson planned)) with
    ⟨ha, hnil⟩ | ⟨ha, hfixed⟩ | ⟨ha, -, hfixed⟩ | ⟨ha, hne, hup⟩
  · exact .inl ⟨ha, changes_eq_ok_iff.2 ⟨by simp [hnil], by simp [hnil]⟩⟩
  · exact .inr (.inl ⟨.inl ha, refused (by decide) hfixed⟩)
  · exact .inr (.inl ⟨.inr ha, refused (by decide) hfixed⟩)
  · exact .inr (.inr ⟨ha, by simpa [Schema.plan] using hne, changes_eq_ok_iff.2 ⟨hup, rfl⟩⟩)

/-! ## What a change in place does -/

/-- **A change in place is the call of a type for the fields of the given names, whatever this call does, and a look-up
after it.** -/
def CallsFor (r : Resource α) (p : Provider) (st : ResourceState α) (planned : α) (s : Session)
    (names : List String) : Prop :=
  ∀ update : Provider → String → List String → α → Run Unit,
    { r with update := update }.updateTo p st planned s =
      match update p st.id names planned s with
      | (.error e, t) => ⟨.error e, st, t⟩
      | (.ok (), t) => r.refresh p ⟨st.id, planned⟩ t

section Checked

variable (hcheck : r.check (r.toJson planned) = .ok ())
include hcheck

theorem updateTo_of_refused {e : Failure} (h : r.changes st planned = .error e) (p : Provider) (s : Session) :
    r.updateTo p st planned s = ⟨.error e, st, s⟩ := by
  rw [updateTo, hcheck, h]

theorem updateTo_of_unchanged (h : r.changes st planned = .ok []) (p : Provider) (s : Session) :
    r.updateTo p st planned s = r.refresh p ⟨st.id, planned⟩ s := by
  rw [updateTo, hcheck, h]

theorem callsFor_of_changes (h : r.changes st planned = .ok names) (hne : names ≠ []) (p : Provider) (s : Session) :
    r.CallsFor p st planned s names := by
  intro update
  have hcheck' : { r with update := update }.check (r.toJson planned) = .ok () := hcheck
  have hchanges : { r with update := update }.changes st planned = .ok names := h
  rw [updateTo_eq, modify_of_changes hcheck' hchanges hne]
  rfl

end Checked

/-- Where a call that fails with the fields that it is given is seen, these fields are known. -/
theorem CallsFor.of_failing (h : r.CallsFor p st planned s names) (failure : List String → Failure) :
    { r with update := fun _ _ names _ => Run.fail (failure names) }.updateTo p st planned s =
      ⟨.error (failure names), st, s⟩ :=
  h fun _ _ names _ => Run.fail (failure names)

theorem CallsFor.eq {names' : List String} (h : r.CallsFor p st planned s names)
    (h' : r.CallsFor p st planned s names') : names = names' := by
  let failure : List String → Failure := fun l => if l = names then .unanswered else .unnamed ""
  have hsame := (h.of_failing failure).symm.trans (h'.of_failing failure)
  have hfailure : failure names = failure names' := Except.error.inj (congrArg Outcome.result hsame)
  by_contra hne
  simp [failure, Ne.symm hne] at hfailure

/-- A change that ends in one way whatever the call does makes no call. -/
theorem not_callsFor {o : Outcome α}
    (h : ∀ update, { r with update := update }.updateTo p st planned s = o) : ¬r.CallsFor p st planned s names := by
  intro hcalls
  have hunanswered := (hcalls.of_failing fun _ => .unanswered).symm.trans (h _)
  have hunnamed := (hcalls.of_failing fun _ => .unnamed "").symm.trans (h _)
  have hsame := congrArg Outcome.result (hunanswered.trans hunnamed.symm)
  cases hsame

/-- A look-up does not fail as the checks before a call do. -/
theorem Talks.refresh_permits (h : r.Talks p) {e : Failure} (he : (r.refresh p st s).result = .error e) :
    e.beforehand = false := by
  cases hp : st.present with
  | false =>
    rw [refresh_of_not_present hp] at he
    cases he
    rfl
  | true =>
    rcases refresh_cases (r := r) (p := p) (s := s) hp with ⟨_, t, -, ho⟩ | ⟨_, t, -, -, ho⟩ | ⟨e', t, hr, -, ho⟩ <;>
      rw [ho] at he
    · cases he
    · cases he
      rfl
    · cases he
      exact (h.read st.id st.attributes).not_beforehand s e (by rw [hr])

end Resource

namespace Kind

variable {k : Kind} {p : Provider} {st : ResourceState k.Config} {planned : k.Config} {s : Session} {plan : Plan}
  {id : String} {names : List String}

/-! ## The call of a type -/

/-- The body of the request that changes a resource in place, if its identity says what it is about. -/
def modificationBody : (k : Kind) → String → k.Config → Option Json
  | .account, id, a => (Account.parts id).toOption.map fun named => .ofMembers
      (Provider.accountMembers named.1 named.2 a.host ++ [("Description", .string (a.description.getD ""))])
  | .instance _, id, i =>
    some (.ofMembers [("InstanceId", .string id), ("InstanceName", .string (i.name.getD ""))])
  | .attachment, _, _ => none

/-- **A body has all fields of the given names**, with their values in a configuration, and a text that is not set as an
empty one. -/
def Carries (k : Kind) (names : List String) (planned : k.Config) (body : Json) : Prop :=
  ∀ name ∈ names, body.get? (wireName name) = some (((k.resource.toJson planned).get? name).getD (.string ""))

/-- **What the call of a change in place adds**: requests with one body, which has all fields that change; or nothing,
if the identity is broken. -/
inductive Modifies (k : Kind) (p : Provider) (id : String) (names : List String) (planned : k.Config)
    (xs : List Exchange) (r : Except Failure Unit) : Prop
  | called (action : String) (body : Json) (own : k.modification = some action)
      (about : k.modificationBody id planned = some body) (carries : k.Carries names planned body)
      (call : Called p p.write action body acknowledgement xs r)
  | broken (identity : k.Broken id) (none : xs = []) (failure : r = .error (.brokenId id))

/-- All names are those of fields that can change in place, and there is one. -/
structure Updatable (k : Kind) (names : List String) : Prop where
  ne_nil : names ≠ []
  field : ∀ name ∈ names, ∃ f ∈ k.schema.fields, f.mutability = .updatable ∧ f.name = name

/-- The only field that can change in place is the only one that does. -/
theorem Updatable.eq_of_only (h : k.Updatable names) (name : String)
    (honly : ∀ f ∈ k.schema.fields, f.mutability = .updatable → f.name = name) :
    names.contains name = true ∧ ∀ other ∈ names, other = name := by
  have hall : ∀ other ∈ names, other = name := by
    intro other hother
    obtain ⟨f, hf, hup, rfl⟩ := h.field other hother
    exact honly f hf hup
  obtain ⟨first, hfirst⟩ := List.exists_mem_of_ne_nil names h.ne_nil
  exact ⟨List.contains_iff_mem.2 (hall first hfirst ▸ hfirst), hall⟩

theorem update_modifies_account (p : Provider) (id : String) (h : Kind.account.Updatable names) (planned : Account) :
    (Account.update p id names planned).Ensures (Kind.account.Modifies p id names planned) := by
  obtain ⟨hcontains, hall⟩ := h.eq_of_only "description" (by decide)
  cases hparts : Account.parts id with
  | error e =>
    rw [Account.update, hparts, Account.parts_error hparts]
    exact (Run.ensures_fail _).mono fun xs r hr => .broken (Account.broken_of_parts hparts) hr.1 hr.2
  | ok named =>
    rw [Account.update_of_ok hparts, if_pos hcontains]
    refine (p.modifyAccountDescription_ensures named.1 named.2 planned.host _).mono fun xs r hc =>
      .called _ _ rfl ?_ (fun name hname => ?_) hc
    · change (Account.parts id).toOption.map _ = _
      rw [hparts]
      rfl
    have hwire : wireName "description" = "Description" := by decide
    have hvalue : (Account.toJson planned).get? "description" = planned.description.map .string :=
      get?_of_present (by simp) (by simp)
    rw [hall name hname, hwire, get?_ofMembers, List.reverse_append]
    change _ = some (((Account.toJson planned).get? "description").getD (.string ""))
    rw [hvalue]
    cases planned.description <;> rfl

theorem update_modifies_instance (billing : Billing) (p : Provider) (id : String)
    (h : (Kind.instance billing).Updatable names) (planned : Instance) :
    (Instance.update p id names planned).Ensures ((Kind.instance billing).Modifies p id names planned) := by
  have honly : ∀ f ∈ (Kind.instance billing).schema.fields, f.mutability = .updatable → f.name = "instance_name" := by
    cases billing <;> decide
  obtain ⟨hcontains, hall⟩ := h.eq_of_only "instance_name" honly
  rw [Instance.update, if_pos hcontains]
  refine (p.modifyInstanceName_ensures id _).mono fun xs r hc => .called _ _ rfl rfl (fun name hname => ?_) hc
  have hwire : wireName "instance_name" = "InstanceName" := by decide
  have hvalue : (Instance.toJson planned).get? "instance_name" = planned.name.map .string :=
    get?_of_present (by simp) (by simp)
  rw [hall name hname, hwire, get?_ofMembers]
  change _ = some (((Instance.toJson planned).get? "instance_name").getD (.string ""))
  rw [hvalue]
  cases planned.name <;> rfl

/-- **The call of a change in place is one request with all fields that change.** -/
theorem update_modifies (p : Provider) (id : String) : ∀ {k : Kind} {names : List String}, k.Updatable names →
    ∀ planned : k.Config, (k.resource.update p id names planned).Ensures (k.Modifies p id names planned)
  | .account, _, h, planned => update_modifies_account p id h planned
  | .instance billing, _, h, planned => update_modifies_instance billing p id h planned
  | .attachment, names, h, _ => by
    have hnone : ∀ f ∈ Attachment.schema.fields, f.mutability ≠ .updatable := by decide
    obtain ⟨name, hname⟩ := List.exists_mem_of_ne_nil names h.ne_nil
    obtain ⟨f, hf, hup, -⟩ := h.field name hname
    exact absurd hup (hnone f hf)

/-- A call that succeeds has sent a request of its own action. -/
theorem Modifies.exists_mem {xs : List Exchange} (h : k.Modifies p id names planned xs (.ok ())) :
    ∃ x ∈ xs, isQuestion x.posting.action = false := by
  cases h with
  | called action body own about carries call =>
    obtain ⟨x, hx, rfl, -⟩ := call.exists_mem_of_ok
    exact ⟨x, hx, isQuestion_modification own⟩
  | broken identity none failure => cases failure

/-- **A request with all fields that change.** -/
def Carrier (k : Kind) (id : String) (names : List String) (planned : k.Config) (x : Exchange) : Prop :=
  ∃ action body, k.modification = some action ∧ k.modificationBody id planned = some body ∧ x.Asks action body ∧
    k.Carries names planned body

/-- If requests can be sent about the identity, one is sent. -/
theorem Modifies.exists_carrier {xs : List Exchange} {r : Except Failure Unit}
    (h : k.Modifies p id names planned xs r) (able : k.Able p id k.modification) :
    ∃ x ∈ xs, k.Carrier id names planned x := by
  cases h with
  | called action body own about carries call =>
    obtain ⟨x, hx, hasks⟩ := call.exists_asks (able.2 action own)
    exact ⟨x, hx, action, body, own, about, hasks, carries⟩
  | broken identity => exact absurd identity able.1

/-! ## The change in place -/

/-- What a change in place adds: the requests of its call, and, if this succeeds, questions after them; otherwise what
is known stays. -/
def Changes (k : Kind) (p : Provider) (st : ResourceState k.Config) (names : List String) (planned : k.Config)
    (xs : List Exchange) (r : Except Failure Unit) (now : ResourceState k.Config) : Prop :=
  ∃ asked sent called, xs = asked ++ sent ∧ (∀ x ∈ asked, x.posting.action = k.question) ∧
    k.Modifies p st.id names planned sent called ∧ ∀ e, called = .error e → asked = [] ∧ r = .error e ∧ now = st

theorem Changes.exists_carrier {xs : List Exchange} {r : Except Failure Unit} {now : ResourceState k.Config}
    (h : k.Changes p st names planned xs r now) (able : k.Able p st.id k.modification) :
    ∃ x ∈ xs, k.Carrier st.id names planned x := by
  obtain ⟨asked, sent, called, rfl, -, hmodifies, -⟩ := h
  obtain ⟨x, hx, hcarrier⟩ := hmodifies.exists_carrier able
  exact ⟨x, List.mem_append_right asked hx, hcarrier⟩

theorem updatable_of_changes (hchanges : k.resource.changes st planned = .ok names) (hne : names ≠ []) :
    k.Updatable names where
  ne_nil := hne
  field name hname := by
    obtain ⟨hup, rfl⟩ := Resource.changes_eq_ok_iff.1 hchanges
    obtain ⟨f, hf, rfl⟩ := List.mem_map.1 hname
    exact ⟨f, (List.mem_filter.1 hf).1, hup f hf, rfl⟩

section Update

variable (hcheck : k.resource.check (k.resource.toJson planned) = .ok ())
  (hchanges : k.resource.changes st planned = .ok names) (hne : names ≠ [])
include hcheck hchanges hne

theorem modify_modifies (p : Provider) :
    (k.resource.modify p st planned).Ensures (k.Modifies p st.id names planned) := by
  intro s
  rw [Resource.modify_of_changes hcheck hchanges hne]
  exact update_modifies p st.id (updatable_of_changes hchanges hne) planned s

theorem updateTo_changes (p : Provider) (s : Session) :
    (k.resource.updateTo p st planned s).Ends s (k.Changes p st names planned) := by
  obtain ⟨sent, hsent, hmodifies⟩ := modify_modifies hcheck hchanges hne p s
  rcases hm : k.resource.modify p st planned s with ⟨e | _, t⟩ <;> rw [hm] at hsent hmodifies
  · rw [Resource.updateTo_of_modify_error hm]
    refine ⟨sent, hsent, [], sent, _, rfl, by simp, hmodifies, fun e' he => ?_⟩
    cases he
    exact ⟨rfl, rfl, rfl⟩
  · rw [Resource.updateTo_of_modify_ok hm]
    obtain ⟨asked, hasked, hask⟩ := refresh_asks p ⟨st.id, planned⟩ t
    refine ⟨asked ++ sent, ?_, asked, sent, _, rfl, hask, hmodifies, fun e he => by cases he⟩
    rw [List.append_assoc, ← hsent]
    exact hasked

/-- A call that is made does not fail as the checks before it do. -/
theorem updateTo_permits (p : Provider) (s : Session) {e : Failure}
    (he : (k.resource.updateTo p st planned s).result = .error e) : e.beforehand = false := by
  obtain ⟨first, hfirst⟩ := List.exists_mem_of_ne_nil names hne
  obtain ⟨f, hf, hup, -⟩ := (updatable_of_changes hchanges hne).field first hfirst
  have htalks := (k.talks p).update st.id names planned fun _ => ⟨f, hf, hup⟩
  have hmodify := Resource.modify_of_changes (p := p) (s := s) hcheck hchanges hne
  rcases hm : k.resource.modify p st planned s with ⟨e' | _, t⟩
  · rw [Resource.updateTo_of_modify_error hm] at he
    cases he
    exact htalks.not_beforehand s e (by rw [← hmodify, hm])
  · rw [Resource.updateTo_of_modify_ok hm] at he
    exact (k.talks p).refresh_permits he

/-- A change in place that makes its call is no look-up: if the call succeeds, it has sent more than questions, and
otherwise what is known stays, while a look-up starts from the planned attributes. -/
theorem updateTo_ne_refresh (hp : st.present = true) (p : Provider) (s : Session) :
    k.resource.updateTo p st planned s ≠ k.resource.refresh p ⟨st.id, planned⟩ s := by
  intro hsame
  rcases hm : k.resource.modify p st planned s with ⟨e | _, t⟩
  · rw [Resource.updateTo_of_modify_error hm] at hsame
    have hpresent : (⟨st.id, planned⟩ : ResourceState k.Config).present = true := hp
    rcases Resource.refresh_cases (r := k.resource) (p := p) (s := s) hpresent with
      ⟨_, u, -, ho⟩ | ⟨_, u, -, -, ho⟩ | ⟨e', u, -, -, ho⟩ <;> rw [ho] at hsame
    · cases congrArg Outcome.result hsame
    · have hid : st.id = "" := congrArg (·.state.id) hsame
      exact ResourceState.present_iff.1 hp hid
    · have hst : st = ⟨st.id, planned⟩ := congrArg Outcome.state hsame
      have hnames := (Resource.changes_eq_ok_iff.1 hchanges).2
      rw [hst, Schema.changedFields_self] at hnames
      exact hne hnames
  · rw [Resource.updateTo_of_modify_ok hm] at hsame
    obtain ⟨sent, hsent, hmodifies⟩ := modify_modifies hcheck hchanges hne p s
    rw [hm] at hsent hmodifies
    obtain ⟨x, hx, hmutation⟩ := hmodifies.exists_mem
    obtain ⟨asked, hasked, -⟩ := refresh_asks p ⟨st.id, planned⟩ t
    obtain ⟨only, honly, hquestions⟩ := refresh_asks p ⟨st.id, planned⟩ s
    have hexchanges : asked ++ (sent ++ s.exchanges) = only ++ s.exchanges := by
      rw [← hsent, ← hasked, hsame, honly]
    rw [← List.append_assoc, List.append_cancel_right_eq] at hexchanges
    have hmem : x ∈ only := hexchanges ▸ List.mem_append_right asked hx
    rw [hquestions x hmem, k.isQuestion_question] at hmutation
    cases hmutation

end Update

/-! ## The plan and the change in place -/

/-- **A change in place follows a plan.** -/
structure Follows (k : Kind) (p : Provider) (st : ResourceState k.Config) (planned : k.Config) (plan : Plan)
    (s : Session) : Prop where
  /-- It is refused where the plan rejects or replaces, for a field of the plan, and then nothing else happens. -/
  refused_iff : (∃ name, (k.resource.updateTo p st planned s).result = .error (.notUpdatable name)) ↔
    plan.action = .reject ∨ plan.action = .replace
  refused : plan.action = .reject ∨ plan.action = .replace →
    ∃ name ∈ plan.changed, k.resource.updateTo p st planned s = ⟨.error (.notUpdatable name), st, s⟩
  /-- It is a call where the plan updates, for the fields of the plan, which are in the order of the schema. -/
  calls_iff : ∀ names, k.resource.CallsFor p st planned s names ↔ plan.action = .update ∧ names = plan.changed
  ordered : plan.changed.Sublist (k.schema.fields.map Schema.Field.name)
  /-- It is only a look-up where the plan has nothing to do. -/
  asks_iff : k.resource.updateTo p st planned s = k.resource.refresh p ⟨st.id, planned⟩ s ↔ plan.action = .noOp
  /-- The call is one request with all fields of the plan, and it is sent if it can be. -/
  sends : plan.action = .update → (k.resource.updateTo p st planned s).Ends s fun xs r now =>
    k.Changes p st plan.changed planned xs r now ∧
      (k.Able p st.id k.modification → ∃ x ∈ xs, k.Carrier st.id plan.changed planned x)
  /-- So an application that comes to this plan changes in place, and is not refused. -/
  applied : plan.action = .update → ∀ before u, k.resource.current p before u = ⟨.ok (), st, s⟩ →
    k.resource.apply p before planned u = k.resource.updateTo p st planned s ∧
      ∀ name, (k.resource.apply p before planned u).result ≠ .error (.notUpdatable name)

section Follows

variable (hcheck : k.resource.check (k.resource.toJson planned) = .ok ())
include hcheck

theorem follows_of_refused {name : String} (ha : plan.action = .reject ∨ plan.action = .replace)
    (hordered : plan.changed.Sublist (k.schema.fields.map Schema.Field.name)) (hname : name ∈ plan.changed)
    (hchanges : k.resource.changes st planned = .error (.notUpdatable name)) (p : Provider) (s : Session) :
    k.Follows p st planned plan s := by
  have hrefused := Resource.updateTo_of_refused hcheck hchanges p s
  have hupdate : plan.action ≠ .update := by rcases ha with ha | ha <;> rw [ha] <;> decide
  have hnoOp : plan.action ≠ .noOp := by rcases ha with ha | ha <;> rw [ha] <;> decide
  have hcalls : ∀ names, ¬k.resource.CallsFor p st planned s names := fun names =>
    Resource.not_callsFor fun update => Resource.updateTo_of_refused (r := { k.resource with update := update })
      hcheck hchanges p s
  refine ⟨iff_of_true ⟨name, by rw [hrefused]⟩ ha, fun _ => ⟨name, hname, hrefused⟩,
    fun names => iff_of_false (hcalls names) fun h => hupdate h.1, hordered, iff_of_false (fun hsame => ?_) hnoOp,
    fun h => absurd h hupdate, fun h => absurd h hupdate⟩
  have hresult := congrArg Outcome.result (hsame.symm.trans hrefused)
  cases (k.talks p).refresh_permits hresult

theorem follows_of_unchanged (ha : plan.action = .noOp)
    (hordered : plan.changed.Sublist (k.schema.fields.map Schema.Field.name))
    (hchanges : k.resource.changes st planned = .ok []) (p : Provider) (s : Session) :
    k.Follows p st planned plan s := by
  have hasks := Resource.updateTo_of_unchanged hcheck hchanges p s
  have hupdate : plan.action ≠ .update := by rw [ha]; decide
  have hrefuses : ¬(plan.action = .reject ∨ plan.action = .replace) := by rw [ha]; decide
  have hcalls : ∀ names, ¬k.resource.CallsFor p st planned s names := fun names =>
    Resource.not_callsFor (o := k.resource.refresh p ⟨st.id, planned⟩ s) fun update =>
      Resource.updateTo_of_unchanged (r := { k.resource with update := update }) hcheck hchanges p s
  refine ⟨iff_of_false ?_ hrefuses, fun h => absurd h hrefuses,
    fun names => iff_of_false (hcalls names) fun h => hupdate h.1, hordered, iff_of_true hasks ha,
    fun h => absurd h hupdate, fun h => absurd h hupdate⟩
  rintro ⟨name, hname⟩
  rw [hasks] at hname
  cases (k.talks p).refresh_permits hname

theorem follows_of_changes (hp : st.present = true) (ha : plan.action = .update) (hne : plan.changed ≠ [])
    (hordered : plan.changed.Sublist (k.schema.fields.map Schema.Field.name))
    (hplan : k.resource.plan (some st) planned = .ok plan)
    (hchanges : k.resource.changes st planned = .ok plan.changed) (p : Provider) (s : Session) :
    k.Follows p st planned plan s := by
  have hcalls := Resource.callsFor_of_changes hcheck hchanges hne p s
  have hrefuses : ¬(plan.action = .reject ∨ plan.action = .replace) := by rw [ha]; decide
  have hpermits : ∀ name, (k.resource.updateTo p st planned s).result ≠ .error (.notUpdatable name) :=
    fun name hname => by cases updateTo_permits hcheck hchanges hne p s hname
  refine ⟨iff_of_false (fun ⟨name, hname⟩ => hpermits name hname) hrefuses, fun h => absurd h hrefuses,
    fun names => ⟨fun h => ⟨ha, h.eq hcalls⟩, fun h => h.2 ▸ hcalls⟩, hordered,
    iff_of_false (updateTo_ne_refresh hcheck hchanges hne hp p s) (by rw [ha]; decide),
    fun _ => ?_, fun _ before u hcurrent => ?_⟩
  · obtain ⟨xs, hxs, h⟩ := updateTo_changes hcheck hchanges hne p s
    exact ⟨xs, hxs, h, h.exists_carrier⟩
  have hplans : k.resource.Plans p before planned u plan st s := ⟨hcheck, hcurrent, hplan⟩
  rw [hplans.apply_eq, Resource.execute_of_update ha]
  exact ⟨rfl, hpermits⟩

end Follows

/-- **A change in place follows the plan for the same resource and configuration**, whatever the vendor answers. -/
theorem update_follows_plan (k : Kind) {st : ResourceState k.Config} {planned : k.Config} (hp : st.present = true)
    (hcheck : k.resource.check (k.resource.toJson planned) = .ok ()) :
    ∃ plan, k.resource.plan (some st) planned = .ok plan ∧ ∀ p s, k.Follows p st planned plan s := by
  have hplan := Resource.plan_of_check st hcheck
  rw [if_pos hp] at hplan
  refine ⟨_, hplan, fun p s => ?_⟩
  have hordered : (k.resource.schema.plan (some (k.resource.toJson st.attributes))
      (k.resource.toJson planned)).changed.Sublist (k.schema.fields.map Schema.Field.name) :=
    List.filter_sublist.map _
  rcases k.resource.plan_verdict st planned with ⟨ha, hchanges⟩ | ⟨ha, name, hname, hchanges⟩ | ⟨ha, hne, hchanges⟩
  · exact follows_of_unchanged hcheck ha hordered hchanges p s
  · exact follows_of_refused hcheck ha hordered hname hchanges p s
  · exact follows_of_changes hcheck hp ha hne hordered hplan hchanges p s

end Kind

/-- The description of an account changes: whoever can write requests sends the one that does it. -/
theorem Kind.update_follows_plan_described : ∃ plan,
    Account.resource.plan (some ⟨"dcdbt-1#root", .sample⟩) .described = .ok plan ∧ plan.action = .update ∧
      plan.changed = ["description"] ∧
      ∀ (p : Provider) (s : Session), p.client.Writable →
        (Account.resource.updateTo p ⟨"dcdbt-1#root", .sample⟩ .described s).Ends s fun xs _ _ =>
          ∃ x ∈ xs, x.Asks "ModifyAccountDescription" (.object [("Description", .string "new"), ("Host", .string "%"),
            ("InstanceId", .string "dcdbt-1"), ("UserName", .string "root")]) := by
  have hpresent : (⟨"dcdbt-1#root", .sample⟩ : ResourceState Account).present = true := rfl
  obtain ⟨plan, hplan, hfollows⟩ := update_follows_plan .account hpresent Account.check_described
  have hsame := Resource.plan_of_check (⟨"dcdbt-1#root", .sample⟩ : ResourceState Account) Account.check_described
  obtain rfl := Except.ok.inj (hsame.symm.trans hplan)
  refine ⟨_, hplan, by decide +kernel, by decide +kernel, fun p s hp => ?_⟩
  obtain ⟨xs, hxs, -, hsent⟩ := (hfollows p s).sends (by decide +kernel)
  have hparts : Account.parts "dcdbt-1#root" = .ok ("dcdbt-1", "root") := by rfl
  have whole : ¬Kind.account.Broken "dcdbt-1#root" := fun hbroken => by
    rw [Account.broken_iff.1 hbroken] at hparts
    cases hparts
  have able : Kind.account.Able p "dcdbt-1#root" Kind.account.modification := by
    refine ⟨whole, fun a ha => ?_⟩
    cases ha
    exact hp.not_unwritten (by decide)
  obtain ⟨x, hx, action, body, haction, hbody, hasks, -⟩ := hsent able
  obtain rfl := Option.some.inj haction
  obtain rfl := Option.some.inj hbody
  exact ⟨xs, hxs, x, hx, hasks⟩

end Provision
