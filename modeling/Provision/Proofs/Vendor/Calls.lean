import Provision.Proofs.Cloud.Posting
import Provision.Proofs.Session.Settled
import Provision.Vendor.Accounts
import Provision.Vendor.Bindings
import Provision.Vendor.Instances

/-!
# What calls of actions add to a session

An exchange stands for a content of the vendor, or for a failure (`Exchange.content`), and for a value of the type of
the answer (`Exchange.outcome`). A call sends one request of its action and body, and ends as the exchange stands for;
if the request cannot be written, nothing is sent (`invoke_of_posting`, `invoke_of_error`). So a call under a budget is
settled by the last exchange, unless its requests cannot be written (`Called`), and its failure is that of the last
exchange as well (`Failing`). Each action on databases is one such call.
-/

namespace Provision

/-! ## What an exchange stands for -/

namespace Exchange

variable {α : Type}

/-- The content of the vendor's answer, or the failure that came instead. -/
def content (x : Exchange) : Except Failure Json :=
  match x.reply with
  | .answer status text =>
    if Status.isSuccess status then
      match Json.parse? text with
      | some envelope => Envelope.content x.posting.action envelope
      | none => .error (.unreadable x.posting.action .notJson)
    else .error (.badStatus status)
  | .closed | .unreachable => .error .unanswered

/-- The content as a value of the type of the answer. -/
def outcome (answer : Json.Record α) (x : Exchange) : Except Failure α :=
  x.content.bind (Provider.readContent x.posting.action answer)

/-- A request of an action with a body. -/
def Asks (action : String) (body : Json) (x : Exchange) : Prop := x.posting.action = action ∧ x.posting.body = body

/-- The vendor refused the request with a code that says that something does not exist. -/
def RefusedAsAbsent (x : Exchange) : Prop :=
  ∃ code message requestId,
    x.content = .error (.refused code message requestId) ∧ Failure.listed Failure.absentCodes code = true

/-- An answer is never the library's own report that a resource does not exist. -/
theorem content_ne_absent (x : Exchange) (kind id : String) : x.content ≠ .error (.absent kind id) := by
  intro h
  unfold content Envelope.content at h
  cases hr : x.reply with
  | answer status text =>
    simp only [hr] at h
    split at h
    · cases hp : Json.parse? text with
      | none => simp [hp] at h
      | some envelope =>
        simp only [hp] at h
        cases hresponse : envelope.get? "Response" with
        | none => simp [hresponse] at h
        | some response => cases herror : response.get? "Error" <;> simp [hresponse, herror] at h
    · cases h
  | closed => simp [hr] at h
  | unreachable => simp [hr] at h

/-- The vendor's failures that say that something does not exist are the refusals with such a code. -/
theorem refusedAsAbsent_iff (answer : Json.Record α) {x : Exchange} :
    x.RefusedAsAbsent ↔ ∃ e, x.outcome answer = .error e ∧ e.saysAbsent = true := by
  constructor
  · rintro ⟨code, message, requestId, hx, hcode⟩
    exact ⟨.refused code message requestId, by rw [outcome, hx]; rfl, hcode⟩
  · rintro ⟨e, hx, he⟩
    rw [outcome] at hx
    cases hc : x.content with
    | ok c =>
      rw [hc] at hx
      simp only [Except.bind, Provider.readContent] at hx
      cases hv : answer.ofValue c with
      | ok a =>
        rw [hv] at hx
        cases hx
      | error why =>
        rw [hv] at hx
        cases hx
        cases he
    | error e' =>
      rw [hc] at hx
      cases hx
      cases e with
      | refused code message requestId => exact ⟨code, message, requestId, hc, he⟩
      | absent kind id => exact absurd hc (x.content_ne_absent kind id)
      | _ => simp [Failure.saysAbsent] at he

/-- The vendor says that something does not exist: by a refusal, or by an answer that says `no`. -/
def Denies (answer : Json.Record α) (no : α → Prop) (x : Exchange) : Prop :=
  x.RefusedAsAbsent ∨ ∃ a, x.outcome answer = .ok a ∧ no a

end Exchange

/-- The same of a result. -/
def Denying {α : Type} (no : α → Prop) (r : Except Failure α) : Prop :=
  (∃ e, r = .error e ∧ e.saysAbsent = true) ∨ ∃ a, r = .ok a ∧ no a

/-! ## Requests -/

namespace Client

variable {c : Client} {product : Product} {action : String} {body : Json} {timestamp : Int}

theorem asks_of_posting {x : Posting} (h : c.posting product action body timestamp = .ok x) (reply : Reply) :
    (⟨x, reply⟩ : Exchange).Asks action body := by
  simp only [posting] at h
  split at h
  · cases h
  · split at h
    · cases h
    · generalize (if c.region = "" then none else some c.region) = region at h
      split at h
      · cases h
        exact ⟨rfl, rfl⟩
      · cases h

theorem own_of_posting {e : Failure} (h : c.posting product action body timestamp = .error e) :
    e = .unanswered ∨ e.own = true := by
  simp only [posting] at h
  split at h
  · cases h
    exact .inr rfl
  · split at h
    · cases h
      exact .inr rfl
    · generalize (if c.region = "" then none else some c.region) = region at h
      split at h
      · cases h
      · cases h
        exact .inl rfl

variable {out : Surroundings} {s : Session}

theorem call_of_error {e : Failure} (h : c.posting product action body (s.second out) = .error e) :
    c.call out product action body s = (.error e, s) := by
  simp only [call, Run.bind_apply, Run.look, Run.ofExcept, h]

/-- A request that can be written is sent, and the answer is what the exchange stands for. -/
theorem call_of_posting {x : Posting} (h : c.posting product action body (s.second out) = .ok x) :
    (c.call out product action body s).1 = (⟨x, out.reply s.exchanges x⟩ : Exchange).content ∧
      (c.call out product action body s).2.exchanges = ⟨x, out.reply s.exchanges x⟩ :: s.exchanges := by
  have ha : x.action = action := (asks_of_posting h .closed).1
  simp only [call, Run.bind_apply, Run.look, Run.ofExcept, h, Run.send, Exchange.content, ha]
  cases out.reply s.exchanges x with
  | answer status text =>
    simp only [readAnswer]
    split
    · cases Json.parse? text with
      | none => exact ⟨rfl, rfl⟩
      | some envelope => exact ⟨rfl, rfl⟩
    · exact ⟨rfl, rfl⟩
  | closed => exact ⟨rfl, rfl⟩
  | unreachable => exact ⟨rfl, rfl⟩

end Client

/-! ## Calls -/

namespace Provider

variable {α : Type} {p : Provider} {product : Product} {action : String} {body : Json} {answer : Json.Record α}

/-- The session in which a call of an action goes on when its slot has come. -/
def paced (p : Provider) (action : String) (s : Session) : Session := (Run.pace p.client.rates action s).2

theorem exchanges_paced (s : Session) : (p.paced action s).exchanges = s.exchanges := rfl

theorem invoke_apply (s : Session) :
    p.invoke product action body answer s =
      match (p.client.call p.out product action body >>= fun c => Run.ofExcept (readContent action answer c))
        (p.paced action s) with
      | (.ok a, s) => (.ok a, s.logged (successLine action body))
      | (.error e, s) => (.error e, s.logged (failureLine action body e)) := by
  have hpace : Run.pace p.client.rates action s = (.ok (), p.paced action s) := rfl
  unfold invoke
  refine (Run.bind_ok hpace).trans ?_
  generalize (p.client.call p.out product action body >>= fun c => Run.ofExcept (readContent action answer c))
    (p.paced action s) = called
  rcases called with ⟨_ | _, _⟩ <;> rfl

theorem invoke_of_error (answer : Json.Record α) {s : Session} {e : Failure}
    (h : p.client.posting product action body ((p.paced action s).second p.out) = .error e) :
    (p.invoke product action body answer s).1 = .error e ∧
      (p.invoke product action body answer s).2.exchanges = s.exchanges := by
  rw [invoke_apply, Run.bind_error (Client.call_of_error h)]
  exact ⟨rfl, rfl⟩

/-- **A call of a request that can be written ends as the exchange stands for.** -/
theorem invoke_of_posting (answer : Json.Record α) {s : Session} {x : Posting}
    (h : p.client.posting product action body ((p.paced action s).second p.out) = .ok x) :
    (p.invoke product action body answer s).1 = (⟨x, p.out.reply s.exchanges x⟩ : Exchange).outcome answer ∧
      (p.invoke product action body answer s).2.exchanges = ⟨x, p.out.reply s.exchanges x⟩ :: s.exchanges := by
  have ha : x.action = action := (Client.asks_of_posting h .closed).1
  obtain ⟨hr, hx⟩ := Client.call_of_posting h
  rw [exchanges_paced] at hr hx
  rw [invoke_apply, Exchange.outcome, ha, ← hr]
  rcases hc : p.client.call p.out product action body (p.paced action s) with ⟨r, t⟩
  rw [hc] at hx
  cases r with
  | error e =>
    rw [Run.bind_error hc]
    exact ⟨rfl, hx⟩
  | ok c =>
    rw [Run.bind_ok hc]
    simp only [Run.ofExcept, Except.bind]
    cases readContent action answer c with
    | error e => exact ⟨rfl, hx⟩
    | ok a => exact ⟨rfl, hx⟩

/-- A request that is written for a call, at some time. -/
def Posts (p : Provider) (product : Product) (action : String) (body : Json) (x : Exchange) : Prop :=
  ∃ timestamp, p.client.posting product action body timestamp = .ok x.posting

theorem Posts.asks {x : Exchange} (h : p.Posts product action body x) : x.Asks action body := by
  obtain ⟨_, h⟩ := h
  exact Client.asks_of_posting h x.reply

/-- **Why no request of an action can be written:** the reason is the same for all bodies and at all times. -/
def Unwritten (p : Provider) (product : Product) (action : String) (e : Failure) : Prop :=
  ∀ body timestamp, p.client.posting product action body timestamp = .error e

theorem Unwritten.own {e : Failure} (h : p.Unwritten product action e) : e.retryable = true ∨ e.own = true := by
  rcases Client.own_of_posting (h .null 0) with rfl | hown
  · exact .inl rfl
  · exact .inr hown

theorem Posts.not_unwritten {x : Exchange} {e : Failure} (h : p.Posts product action body x) :
    ¬p.Unwritten product action e := by
  obtain ⟨timestamp, h⟩ := h
  intro hno
  rw [hno] at h
  cases h

/-- The attempts of a call send its request one by one, or none of them sends any. -/
theorem attempt_invoke (p : Provider) (product : Product) (action : String) (body : Json) (answer : Json.Record α) :
    Run.Attempt (p.Posts product action body) (p.Unwritten product action) (Exchange.outcome answer)
      (p.invoke product action body answer) := by
  rcases p.client.posting_fate product action with ⟨e, he⟩ | hx
  · refine .inl ⟨e, he, fun s => ?_⟩
    obtain ⟨hr, hs⟩ := invoke_of_error answer (he body ((p.paced action s).second p.out))
    exact ⟨[], hs, rfl, hr⟩
  · refine .inr fun s => ?_
    obtain ⟨x, h⟩ := hx body ((p.paced action s).second p.out)
    obtain ⟨hr, hs⟩ := invoke_of_posting answer h
    exact ⟨[_], hs, _, rfl, ⟨_, h⟩, hr⟩

end Provider

/-- **What a call of an action on databases adds** under a budget: requests of the action and the body, settled by the
last answer, or none if they cannot be written. -/
structure Called {α : Type} (p : Provider) (b : Budget) (action : String) (body : Json) (answer : Json.Record α)
    (xs : List Exchange) (r : Except Failure α) : Prop where
  posts : ∀ x ∈ xs, p.Posts .dcdb action body x
  settled : Settled b action (p.Unwritten .dcdb action) (Exchange.outcome answer) xs r

theorem Provider.called_of_retried {α : Type} (p : Provider) (b : Budget) (action : String) (body : Json)
    (answer : Json.Record α) :
    (Run.retried p.out b action (p.invoke .dcdb action body answer)).Ensures (Called p b action body answer) :=
  ((p.attempt_invoke .dcdb action body answer).retried p.out b action).mono fun _ _ h => ⟨h.1, h.2⟩

namespace Called

variable {α : Type} {p : Provider} {b : Budget} {action : String} {body : Json} {answer : Json.Record α}
  {xs : List Exchange} {r : Except Failure α}

theorem asks (h : Called p b action body answer xs r) : ∀ x ∈ xs, x.Asks action body := fun x hx => (h.posts x hx).asks

/-- Whoever can write a request of the action sends one. -/
theorem exists_asks (h : Called p b action body answer xs r) (hp : ∀ e, ¬p.Unwritten .dcdb action e) :
    ∃ x ∈ xs, x.Asks action body := by
  cases h.settled with
  | answered => exact ⟨_, List.mem_cons_self, h.asks _ List.mem_cons_self⟩
  | unwritten why => exact absurd why (hp _)

end Called

/-- **How calls of an action fail**, with the exchanges of all of them: the failure is what the last answer is handed on
as, or, if nothing was sent, the reason for which no request can be written. -/
inductive Failing {α : Type} (p : Provider) (b : Budget) (action : String) (answer : Json.Record α) :
    List Exchange → Failure → Prop
  | answered {x : Exchange} {earlier : List Exchange} {e : Failure}
      (handed : Run.HandedOn b action (x.outcome answer) (.error e)) : Failing p b action answer (x :: earlier) e
  | unwritten {why e : Failure} (unwritten : p.Unwritten .dcdb action why)
      (handed : Run.HandedOn b action (.error why : Except Failure α) (.error e)) : Failing p b action answer [] e

theorem Called.failing {α : Type} {p : Provider} {b : Budget} {action : String} {body : Json} {answer : Json.Record α}
    {xs : List Exchange} {e : Failure} (h : Called p b action body answer xs (.error e)) :
    Failing p b action answer xs e := by
  generalize hr : (Except.error e : Except Failure α) = r at h
  cases h.settled with
  | answered handed before =>
    subst hr
    exact .answered handed
  | unwritten why handed =>
    subst hr
    exact .unwritten why handed

/-- A failure that promises another attempt, or that is the program's own, does not say that something does not
exist. -/
theorem not_denying_error {α : Type} {no : α → Prop} {e : Failure} (he : e.retryable = true ∨ e.own = true) :
    ¬Denying no (.error e) := by
  rintro (⟨e', h', habs⟩ | ⟨a, h', -⟩)
  · cases h'
    rw [e.saysAbsent_of_inconclusive he] at habs
    cases habs
  · cases h'

theorem Exchange.denies_iff {α : Type} {answer : Json.Record α} {no : α → Prop} {x : Exchange} :
    x.Denies answer no ↔ Denying no (x.outcome answer) := by
  rw [Denies, refusedAsAbsent_iff answer, Denying]

/-- **A call says that something does not exist if and only if its last answer does.** -/
theorem Called.denies_iff {α : Type} {p : Provider} {b : Budget} {action : String} {body : Json}
    {answer : Json.Record α} {xs : List Exchange} {r : Except Failure α} {no : α → Prop}
    (h : Called p b action body answer xs r) : (∃ x, xs.head? = some x ∧ x.Denies answer no) ↔ Denying no r := by
  rw [← h.settled.head?_iff (fun _ why => why.own) fun _ => not_denying_error]
  simp only [Exchange.denies_iff]

namespace Provider

open Vendor

variable (p : Provider)

theorem createAccount_ensures (body : Json) :
    (p.createAccount body).Ensures (Called p p.write "CreateAccount" body createdAccount) :=
  p.called_of_retried p.write _ _ _

theorem describeAccounts_ensures (instanceId : String) :
    (p.describeAccounts instanceId).Ensures
      (Called p p.read "DescribeAccounts" (.ofMembers [("InstanceId", .string instanceId)]) accountList) :=
  p.called_of_retried p.read _ _ _

theorem modifyAccountDescription_ensures (instanceId userName host description : String) :
    (p.modifyAccountDescription instanceId userName host description).Ensures
      (Called p p.write "ModifyAccountDescription"
        (.ofMembers (accountMembers instanceId userName host ++ [("Description", .string description)]))
        acknowledgement) :=
  p.called_of_retried p.write _ _ _

theorem deleteAccount_ensures (instanceId userName host : String) :
    (p.deleteAccount instanceId userName host).Ensures
      (Called p p.write "DeleteAccount" (.ofMembers (accountMembers instanceId userName host)) acknowledgement) :=
  p.called_of_retried p.write _ _ _

theorem createInstance_ensures (billing : Billing) (body : Json) :
    (p.createInstance billing body).Ensures (Called p p.write billing.createAction body createdInstances) :=
  p.called_of_retried p.write _ _ _

/-- The body of a question about an instance. -/
def instanceQuestion (id : String) : Json := .ofMembers [("InstanceIds", .array [.string id])]

theorem describeInstances_ensures (id : String) :
    (p.describeInstances id).Ensures (Called p p.read "DescribeDCDBInstances" (instanceQuestion id) instanceList) :=
  p.called_of_retried p.read _ _ _

theorem modifyInstanceName_ensures (id name : String) :
    (p.modifyInstanceName id name).Ensures
      (Called p p.write "ModifyDBInstanceName" (.ofMembers [("InstanceId", .string id), ("InstanceName", .string name)])
        acknowledgement) :=
  p.called_of_retried p.write _ _ _

theorem destroyInstance_ensures (billing : Billing) (id : String) :
    (p.destroyInstance billing id).Ensures
      (Called p p.write billing.destroyAction (.ofMembers [("InstanceId", .string id)]) destroyedInstance) :=
  p.called_of_retried p.write _ _ _

theorem associateSecurityGroups_ensures (product group : String) (instances : StringSet) :
    (p.associateSecurityGroups product group instances).Ensures
      (Called p p.write "AssociateSecurityGroups" (bindingBody product group instances) acknowledgement) :=
  p.called_of_retried p.write _ _ _

theorem disassociateSecurityGroups_ensures (product group : String) (instances : StringSet) :
    (p.disassociateSecurityGroups product group instances).Ensures
      (Called p p.write "DisassociateSecurityGroups" (bindingBody product group instances) acknowledgement) :=
  p.called_of_retried p.write _ _ _

/-- The body of a question about the security groups of an instance. -/
def boundGroupsQuestion (product instanceId : String) : Json :=
  .ofMembers [("Product", .string product), ("InstanceId", .string instanceId)]

theorem describeBoundGroups_ensures (product instanceId : String) :
    (p.describeBoundGroups product instanceId).Ensures
      (Called p p.read "DescribeDBSecurityGroups" (boundGroupsQuestion product instanceId) boundGroups) :=
  p.called_of_retried p.read _ _ _

end Provider

end Provision
