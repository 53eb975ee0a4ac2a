import Provision.Proofs.Resource.Course
import Provision.Proofs.Resource.Stages
import Provision.Proofs.Session.Attempts
import Provision.Proofs.Session.Files
import Provision.Proofs.Vendor.Replies
import Provision.Resource.Kind

/-!
# Talking with the vendor

What the types of resources do is put together from calls of actions, attempts, failures and functions of results
(`Provider.Talks`). Such a computation leaves the files alone, records what the vendor replied (`Provider.Talks.hears`),
and does not fail as the check of a configuration does (`Provider.Talks.ends`). A step in the life of a resource adds
checks to that, so it fails like a check only if the configuration does not pass (`Resource.Talks.apply` and its
siblings).
-/

namespace Provision

/-- The failures of the check of a configuration. -/
def Failure.ofCheck : Failure → Bool
  | .violation _ _ => true
  | _ => false

/-- The failures of the checks that come before any call: of a configuration, and of the fields that change. -/
def Failure.beforehand : Failure → Bool
  | .violation _ _ | .notUpdatable _ => true
  | _ => false

theorem Failure.not_ofCheck_of_not_beforehand {e : Failure} (h : e.beforehand = false) : e.ofCheck = false := by
  cases e <;> simp_all [beforehand, ofCheck]

/-- **A computation or a step that began in a session ended with the files as they were, and, if something was checked
before, not with a failure of the check.** -/
structure Unchecked {α : Type} (checked : Prop) (s : Session) (res : Except Failure α) (t : Session) : Prop where
  files : t.files = s.files
  passed : checked → ∀ e, res = .error e → e.ofCheck = false

namespace Unchecked

variable {α β : Type} {checked : Prop} {s t u : Session} {res : Except Failure α} {res' : Except Failure β}

theorem ok (a : α) (h : t.files = s.files) : Unchecked checked s (.ok a) t := ⟨h, fun _ _ he => by cases he⟩

theorem error {e : Failure} (h : t.files = s.files) (he : e.ofCheck = false) :
    Unchecked checked s (.error e : Except Failure α) t :=
  ⟨h, fun _ _ h => by cases h; exact he⟩

/-- What began where something else ended. -/
theorem trans (h : Unchecked checked s res t) (h' : Unchecked checked t res' u) : Unchecked checked s res' u :=
  ⟨h'.files.trans h.files, h'.passed⟩

/-- A failure that is passed on. -/
theorem failure {e : Failure} (h : Unchecked checked s (.error e : Except Failure α) t) :
    Unchecked checked s (.error e : Except Failure β) t :=
  ⟨h.files, fun hc _ he => by cases he; exact h.passed hc e rfl⟩

end Unchecked

/-! ## Computations -/

namespace Provider

/-- **Computations that are put together from calls of actions.** -/
inductive Talks (p : Provider) : {α : Type} → Run α → Prop
  /-- A result, or a failure that is not one of the checks. -/
  | result {α : Type} (r : Except Failure α) (h : ∀ e, r = .error e → e.beforehand = false) : Talks p (.ofExcept r)
  | bind {α β : Type} {x : Run α} {f : α → Run β} (hx : Talks p x) (hf : ∀ a, Talks p (f a)) : Talks p (x >>= f)
  /-- A function of the way in which a computation ended; it brings no new failures. -/
  | judged {α β : Type} {x : Run α} (f : Except Failure α → Except Failure β)
    (hf : ∀ r e, f r = .error e → r = .error e) (hx : Talks p x) : Talks p fun s => (f (x s).1, (x s).2)
  | invoke {α : Type} (product : Product) (action : String) (body : Json) (answer : Json.Record α) :
    Talks p (p.invoke product action body answer)
  | retried {α : Type} {x : Run α} (b : Budget) (operation : String) (hx : Talks p x) :
    Talks p (Run.retried p.out b operation x)

namespace Talks

variable {p : Provider} {α β : Type} {act : Run α}

theorem pure (a : α) : p.Talks (Pure.pure a : Run α) := .result (.ok a) fun _ h => by cases h

theorem fail {e : Failure} (h : e.beforehand = false) : p.Talks (Run.fail e : Run α) :=
  .result (.error e) fun _ he => by cases he; exact h

/-- A call in several attempts. -/
theorem call (b : Budget) (operation : String) (product : Product) (action : String) (body : Json)
    (answer : Json.Record α) : p.Talks (Run.retried p.out b operation (p.invoke product action body answer)) :=
  .retried b operation (.invoke product action body answer)

theorem keepsFiles (h : p.Talks act) : act.KeepsFiles := by
  induction h with
  | result r _ => exact Run.keepsFiles_ofExcept r
  | bind _ _ hx hf => exact hx.bind hf
  | judged f _ _ hx => exact fun s => hx s
  | invoke product action body answer => exact p.invoke_keepsFiles product action body answer
  | retried b operation _ hx => exact hx.retried p.out b operation

theorem hears (h : p.Talks act) : act.Along (Session.Hears p.out) := by
  induction h with
  | result r _ => exact Run.along_ofExcept r
  | bind _ _ hx hf => exact hx.bind hf
  | judged f _ _ hx => exact fun s => hx s
  | invoke product action body answer => exact p.invoke_hears product action body answer
  | retried b operation _ hx => exact hx.retried (Run.waits_hears p.out operation) p.out b

end Talks

end Provider

theorem Exchange.not_beforehand_content {x : Exchange} {e : Failure} (h : x.content = .error e) :
    e.beforehand = false := by
  unfold content Envelope.content at h
  split at h
  · split at h
    · split at h
      · split at h
        · cases h
          rfl
        · split at h
          · cases h
            rfl
          · cases h
      · cases h
        rfl
    · cases h
      rfl
  · cases h
    rfl
  · cases h
    rfl

theorem Exchange.not_beforehand_outcome {α : Type} {answer : Json.Record α} {x : Exchange} {e : Failure}
    (h : x.outcome answer = .error e) : e.beforehand = false := by
  rw [outcome] at h
  cases hc : x.content with
  | error e' =>
    rw [hc] at h
    cases h
    exact not_beforehand_content hc
  | ok c =>
    rw [hc] at h
    simp only [Except.bind, Provider.readContent] at h
    cases hv : answer.ofValue c with
    | ok a =>
      rw [hv] at h
      cases h
    | error why =>
      rw [hv] at h
      cases h
      rfl

theorem Failure.not_beforehand_of_own {e : Failure} (h : e.own = true) : e.beforehand = false := by
  cases e <;> simp_all [own, beforehand]

namespace Provider.Talks

variable {p : Provider} {α : Type} {act : Run α}

/-- An attempt that is made again does not fail like the checks if the single ones do not. -/
theorem not_beforehand_retried {b : Budget} {operation : String}
    (h : ∀ s e, (act s).1 = .error e → e.beforehand = false) {s : Session} {e : Failure}
    (he : (Run.retried p.out b operation act s).1 = .error e) : e.beforehand = false := by
  obtain ⟨repeated, begun, hproceeds⟩ := Run.attempts_proceeds p.out b operation act s.now 1 b.initialDelay s
  rcases hproceeds.concludes with ⟨-, hlast⟩ | ⟨last, -, -, -, hlast⟩
  · rw [Run.retried, hlast] at he
    exact h _ e he
  · rw [Run.retried, hlast] at he
    cases he
    rfl

/-- **A computation that only talks with the vendor does not fail like the checks.** -/
theorem not_beforehand (h : p.Talks act) : ∀ s e, (act s).1 = .error e → e.beforehand = false := by
  induction h with
  | result r hr => exact fun s e he => hr e he
  | @bind α β x f _ _ ihx ihf =>
    intro s e he
    rcases hs : x s with ⟨r, t⟩
    cases r with
    | error e' =>
      rw [Run.bind_error hs] at he
      cases he
      exact ihx s e (by rw [hs])
    | ok a =>
      rw [Run.bind_ok hs] at he
      exact ihf a t e he
  | judged f hf _ ih => exact fun s e he => ih s e (hf _ e he)
  | invoke product action body answer =>
    intro s e he
    obtain ⟨xs, -, ⟨-, e', hno, hr⟩ | ⟨x, -, -, hr⟩⟩ := (p.attempt_invoke product action body answer).ensures s
    · rw [hr] at he
      cases he
      rcases Client.own_of_posting (hno .null 0) with rfl | hown
      · rfl
      · exact Failure.not_beforehand_of_own hown
    · rw [hr] at he
      exact Exchange.not_beforehand_outcome he
  | retried b operation _ ih => exact fun s e he => not_beforehand_retried ih he

/-- **A computation that only talks with the vendor leaves the files alone, and does not fail like the checks.** -/
theorem ends (h : p.Talks act) (checked : Prop) (s : Session) : Unchecked checked s (act s).1 (act s).2 :=
  ⟨h.keepsFiles s, fun _ e he => Failure.not_ofCheck_of_not_beforehand (h.not_beforehand s e he)⟩

end Provider.Talks

/-! ## Types of resources -/

/-- A type of resources whose four ways to talk with the vendor do nothing else; something that changes in place has a
field that can. -/
structure Resource.Talks {α : Type} (r : Resource α) (p : Provider) : Prop where
  create : ∀ config, p.Talks (r.create p config)
  read : ∀ id attributes, p.Talks (r.read p id attributes)
  update : ∀ id names planned, (names ≠ [] → ∃ f ∈ r.schema.fields, f.mutability = .updatable) →
    p.Talks (r.update p id names planned)
  delete : ∀ id attributes, p.Talks (r.delete p id attributes)

namespace Account

theorem not_beforehand_parts {id : String} {e : Failure} (h : parts id = .error e) : e.beforehand = false := by
  rw [parts_error h]
  rfl

theorem talks (p : Provider) : resource.Talks p where
  create := fun _ => .bind (.call ..) fun _ => .pure _
  read := fun _ _ => .bind (.result _ fun _ => not_beforehand_parts) fun _ => .bind (.call ..) fun _ => .pure _
  update := fun id names planned _ => by
    refine .bind (.result _ fun _ => not_beforehand_parts) fun pair => ?_
    dsimp only
    split
    · exact .call ..
    · exact .pure _
  delete := fun _ _ => .bind (.result _ fun _ => not_beforehand_parts) fun _ => .call ..

end Account

namespace Instance

theorem talks (billing : Billing) (p : Provider) : (resource billing).Talks p where
  create := fun config => by
    refine .bind (.call ..) fun ids => ?_
    split
    · exact .fail rfl
    · rename_i id _
      refine .bind (.retried _ _ (.bind (.invoke ..) fun listed => ?_)) fun _ => .pure id
      split
      · exact .pure _
      · exact .fail rfl
  read := fun id attributes => by
    refine .bind (.call ..) fun listed => ?_
    split
    · exact .pure _
    · split <;> exact .pure _
  update := fun id names planned _ => by
    unfold resource update
    dsimp only
    split
    · exact .call ..
    · exact .pure _
  delete := fun _ _ => .call ..

end Instance

namespace Attachment

theorem not_beforehand_parts {id : String} {e : Failure} (h : parts id = .error e) : e.beforehand = false := by
  rw [parts_error h]
  rfl

theorem talks_isBound (p : Provider) (product group instanceId : String) :
    p.Talks (isBound p product group instanceId) := by
  have hcall : p.Talks (p.describeBoundGroups product instanceId) := .call ..
  have hjudged := hcall.judged (boundBy group) fun _ _ h => (boundBy_eq_error_iff.1 h).1
  rwa [← funext isBound_apply] at hjudged

theorem talks_bound (p : Provider) (product group : String) : ∀ instances : List String,
    p.Talks (bound p product group instances)
  | [] => .pure []
  | instanceId :: rest =>
    .bind (talks_isBound p product group instanceId) fun _ => .bind (talks_bound p product group rest) fun _ => .pure _

theorem talks (p : Provider) : resource.Talks p where
  create := fun _ => .bind (.call ..) fun _ => .pure _
  read := fun _ _ =>
    .bind (.result _ fun _ => not_beforehand_parts) fun _ => .bind (talks_bound p _ _ _) fun _ => .pure _
  update := fun id names planned hfields => by
    cases names with
    | nil => exact .pure ()
    | cons name names =>
      have hnone : ∀ f ∈ schema.fields, f.mutability ≠ .updatable := by decide
      obtain ⟨f, hf, hupdatable⟩ := hfields (List.cons_ne_nil name names)
      exact absurd hupdatable (hnone f hf)
  delete := fun id attributes => by
    refine .bind (.result _ fun _ => not_beforehand_parts) fun pair => ?_
    dsimp only
    split
    · exact .pure _
    · exact .call ..

end Attachment

theorem Kind.talks (k : Kind) (p : Provider) : k.resource.Talks p := by
  match k with
  | .account => exact Account.talks p
  | .instance billing => exact Instance.talks billing p
  | .attachment => exact Attachment.talks p

/-! ## Steps -/

/-- A step that ended with the files as they were, and not with a failure of a check that was passed before. -/
def Outcome.Unchecked {α : Type} (checked : Prop) (s : Session) (o : Outcome α) : Prop :=
  Provision.Unchecked checked s o.result o.session

namespace Resource.Talks

variable {α : Type} {r : Resource α} {p : Provider} (h : r.Talks p)

include h

theorem refresh (checked : Prop) (st : ResourceState α) (s : Session) :
    (r.refresh p st s).Unchecked checked s := by
  have hread := (h.read st.id st.attributes).ends checked s
  cases hp : st.present with
  | false =>
    rw [refresh_of_not_present hp]
    exact .error rfl rfl
  | true =>
    rcases refresh_cases (r := r) (p := p) (s := s) hp with ⟨_, t, hr, he⟩ | ⟨_, t, hr, -, he⟩ | ⟨e, t, hr, -, he⟩
    · rw [hr] at hread
      rw [he]
      exact .ok _ hread.files
    · rw [hr] at hread
      rw [he]
      exact .error hread.files rfl
    · rw [hr] at hread
      rw [he]
      exact hread.failure

theorem current (checked : Prop) (st : ResourceState α) (s : Session) :
    (r.current p st s).Unchecked checked s := by
  have hread := (h.read st.id st.attributes).ends checked s
  rcases r.current_cases p st s with
    ⟨-, he⟩ | ⟨_, t, hr, he⟩ | ⟨_, t, hr, -, he⟩ | ⟨e, t, hr, -, he⟩
  · rw [he]
    exact .ok _ rfl
  · rw [hr] at hread
    rw [he]
    exact .ok _ hread.files
  · rw [hr] at hread
    rw [he]
    exact .ok _ hread.files
  · rw [hr] at hread
    rw [he]
    exact hread.failure

theorem createFrom (config : α) (s : Session) : Unchecked (r.check (r.toJson config) = .ok ()) s
    (r.createFrom p config s).1 (r.createFrom p config s).2 := by
  unfold Resource.createFrom
  split
  · rename_i hcheck
    exact ⟨rfl, fun hc => by rw [hcheck] at hc; cases hc⟩
  · have hcreate := (h.create config).ends (r.check (r.toJson config) = .ok ()) s
    rcases hr : r.create p config s with ⟨_ | id, t⟩
    · rw [hr] at hcreate
      exact hcreate.failure
    · have hrefresh := h.refresh (r.check (r.toJson config) = .ok ()) ⟨id, config⟩ t
      rw [hr] at hcreate
      dsimp only
      rcases ho : r.refresh p ⟨id, config⟩ t with ⟨_ | _, made, u⟩
      · rw [ho] at hrefresh
        exact hcreate.trans hrefresh.failure
      · rw [ho] at hrefresh
        exact .ok _ (hrefresh.files.trans hcreate.files)

theorem recreate (st : ResourceState α) (desired : α) (s : Session) :
    (r.recreate p st desired s).Unchecked (r.check (r.toJson desired) = .ok ()) s := by
  have hcreate := h.createFrom desired s
  rcases r.recreate_cases p st desired s with ⟨e, t, hr, he⟩ | ⟨made, t, hr, he⟩
  · rw [hr] at hcreate
    rw [he]
    exact hcreate.failure
  · rw [hr] at hcreate
    rw [he]
    exact .ok _ hcreate.files

theorem modify (st : ResourceState α) (planned : α) (s : Session) : Unchecked (r.check (r.toJson planned) = .ok ()) s
    (r.modify p st planned s).1 (r.modify p st planned s).2 := by
  unfold Resource.modify
  split
  · rename_i hcheck
    exact ⟨rfl, fun hc => by rw [hcheck] at hc; cases hc⟩
  · rename_i e _ hchanges
    refine .error rfl ?_
    unfold changes at hchanges
    dsimp only at hchanges
    split at hchanges <;> cases hchanges
    rfl
  · exact .ok _ rfl
  · rename_i name names _ hchanges
    obtain ⟨hupdatable, hnames⟩ := changes_eq_ok_iff.1 hchanges
    obtain ⟨f, hf, -⟩ := List.mem_map.1 (hnames ▸ List.mem_cons_self : name ∈ _)
    exact (h.update _ _ _ fun _ => ⟨f, (List.mem_filter.1 hf).1, hupdatable f hf⟩).ends _ s

theorem updateTo (st : ResourceState α) (planned : α) (s : Session) :
    (r.updateTo p st planned s).Unchecked (r.check (r.toJson planned) = .ok ()) s := by
  have hmodify := h.modify st planned s
  rcases hm : r.modify p st planned s with ⟨_ | _, t⟩
  · rw [hm] at hmodify
    rw [updateTo_of_modify_error hm]
    exact hmodify
  · rw [hm] at hmodify
    rw [updateTo_of_modify_ok hm]
    exact hmodify.trans (h.refresh _ _ t)

theorem remove (checked : Prop) (st : ResourceState α) (s : Session) : (r.remove p st s).Unchecked checked s := by
  have hdelete := (h.delete st.id st.attributes).ends checked s
  rcases r.remove_cases p st s with ⟨-, he⟩ | ⟨e, t, -, hd, he⟩ | ⟨t, -, hd, he⟩
  · rw [he]
    exact .ok _ rfl
  · rw [hd] at hdelete
    rw [he]
    exact hdelete
  · rw [hd] at hdelete
    rw [he]
    exact hdelete

theorem execute (plan : Plan) (st : ResourceState α) (desired : α) (s : Session) :
    (r.execute p plan st desired s).Unchecked (r.check (r.toJson desired) = .ok ()) s := by
  cases ha : plan.action with
  | create =>
    rw [execute_of_create ha]
    exact h.recreate st desired s
  | noOp =>
    rw [execute_of_noOp ha]
    exact .ok _ rfl
  | update =>
    rw [execute_of_update ha]
    exact h.updateTo st desired s
  | replace =>
    have hremove := h.remove (r.check (r.toJson desired) = .ok ()) st s
    rcases hr : r.remove p st s with ⟨_ | _, now, t⟩
    · rw [hr] at hremove
      rw [execute_of_remove_error ha hr]
      exact hremove
    · rw [hr] at hremove
      rw [execute_of_remove_ok ha hr]
      exact hremove.trans (h.recreate now desired t)
  | reject =>
    rw [execute_of_reject ha]
    exact .error rfl rfl

/-- **An application fails like a check only if what is desired does not pass the check.** -/
theorem apply (st : ResourceState α) (desired : α) (s : Session) :
    (r.apply p st desired s).Unchecked (r.check (r.toJson desired) = .ok ()) s := by
  have hcurrent := h.current (r.check (r.toJson desired) = .ok ()) st s
  rcases r.apply_cases p st desired s with
    ⟨e, hcheck, he⟩ | ⟨e, now, t, -, hc, he⟩ | ⟨plan, now, t, -, hc, -, he⟩
  · rw [he]
    exact ⟨rfl, fun hc => by rw [hcheck] at hc; cases hc⟩
  · rw [hc] at hcurrent
    rw [he]
    exact hcurrent
  · rw [hc] at hcurrent
    rw [he]
    exact hcurrent.trans (h.execute plan now desired t)

theorem files_importFrom (id : String) (s : Session) : (r.importFrom p id s).2.files = s.files := by
  have hrefresh := h.refresh True ⟨id, r.record.blank⟩ s
  unfold Resource.importFrom
  rcases ho : r.refresh p ⟨id, r.record.blank⟩ s with ⟨_ | _, now, t⟩ <;> rw [ho] at hrefresh <;> exact hrefresh.files

/-! ## Steps on documents -/

/-- **A step on a document leaves the files alone.** -/
theorem files_takeDocument (step : DocumentStep) (d : Document) (s : Session) :
    (r.takeDocument p step d s).session.files = s.files := by
  cases step with
  | plan desired => rfl
  | read =>
    simp only [takeDocument, readDocument, Taken.ofDocument]
    cases r.decodeState d with
    | error e => rfl
    | ok st => exact (h.refresh True st s).files
  | apply desired =>
    simp only [takeDocument, applyDocument, Taken.ofDocument]
    cases r.decodeDesired desired with
    | error e => rfl
    | ok desired =>
      cases r.decodeState d with
      | error e => rfl
      | ok st => exact (h.apply st desired s).files
  | delete =>
    simp only [takeDocument, deleteDocument, Taken.ofDocument]
    cases r.decodeState d with
    | error e => rfl
    | ok st =>
      have hremove := h.remove True st s
      dsimp only
      cases hres : (r.remove p st s).result with
      | error e => exact hremove.files
      | ok _ => exact hremove.files
  | importFrom id =>
    have himport := h.files_importFrom id s
    simp only [takeDocument, importDocument]
    rcases ho : r.importFrom p id s with ⟨_ | _, t⟩ <;> rw [ho] at himport <;> exact himport

end Resource.Talks

end Provision
