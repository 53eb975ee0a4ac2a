import Provision.Proofs.Session.Along
import Provision.Proofs.Session.Notices
import Provision.Proofs.Vendor.Nulls

/-!
# What calls of actions write to the log

The log goes on in proper notices if whatever is written to it is the line of one (`Session.Tells`). No answer of the
vendor makes a decoding fault show what was decoded but in quotes (`Vendor.Answers.quotes`), so each call of an action
adds the line of a proper notice, after one about the status if that is no success, and each new attempt adds one more.
Main statement: calls and attempts write proper notices (`Provider.invoke_tells`, `Run.waits_tells`).
-/

namespace Provision

open Text Json Vendor

/-! ## Answers -/

namespace Vendor

section Fields

variable {σ : Type} {name : String}

@[simp] theorem quotes_text {put : Option String → σ → σ} : (text name put).reading.Quotes :=
  Record.Field.quotes_keeping (Reading.quotes_option Reading.quotes_text)

@[simp] theorem quotes_integer {put : Option Int → σ → σ} : (integer name put).reading.Quotes :=
  Record.Field.quotes_keeping (Reading.quotes_option Reading.quotes_int64)

@[simp] theorem quotes_unusedText : (unusedText name : Record.Field σ).reading.Quotes :=
  Record.Field.quotes_checked (Reading.quotes_option Reading.quotes_text)

@[simp] theorem quotes_unusedInteger : (unusedInteger name : Record.Field σ).reading.Quotes :=
  Record.Field.quotes_checked (Reading.quotes_option Reading.quotes_int64)

@[simp] theorem quotes_requestId : (requestId : Record.Field σ).reading.Quotes := quotes_unusedText

end Fields

theorem quotes_listedAccount : listedAccount.reading.Quotes :=
  Record.quotes (by simp [listedAccount]) (by decide) (by decide)

theorem quotes_listedTag : listedTag.reading.Quotes :=
  Record.quotes (by simp [listedTag]) (by decide) (by decide)

theorem quotes_listedInstance : listedInstance.reading.Quotes := by
  have htags : listedTag.reading.list.option.Quotes := Reading.quotes_option (Reading.quotes_list quotes_listedTag)
  exact Record.quotes (by simp [listedInstance, htags]) (by decide) (by decide)

theorem quotes_boundGroup : boundGroup.reading.Quotes :=
  Record.quotes (by simp [boundGroup]) (by decide) (by decide)

theorem quotes_listedGroup : listedGroup.reading.Quotes :=
  Record.quotes (by simp [listedGroup]) (by decide) (by decide)

theorem quotes_usage : usage.reading.Quotes :=
  Record.quotes (by simp [usage]) (by decide) (by decide)

namespace Answers

variable {action : String} {α : Type} {answer : Record α} {layout : Layout}

theorem plain (h : Answers action answer layout) : Plain action := by
  cases h with
  | createInstance billing => cases billing <;> decide
  | destroyInstance billing => cases billing <;> decide
  | _ => decide

/-- **What the vendor says is shown in quotes if it cannot be read.** -/
theorem quotes (h : Answers action answer layout) : answer.reading.Quotes := by
  cases h with
  | createAccount => exact Record.quotes (by simp [createdAccount]) (by decide) (by decide)
  | describeAccounts => exact Record.quotes (by simp [accountList, quotes_listedAccount]) (by decide) (by decide)
  | createInstance billing => exact Record.quotes (by simp [createdInstances]) (by decide) (by decide)
  | describeInstances => exact Record.quotes (by simp [instanceList, quotes_listedInstance]) (by decide) (by decide)
  | destroyInstance billing => exact Record.quotes (by simp [destroyedInstance]) (by decide) (by decide)
  | describeBoundGroups => exact Record.quotes (by simp [boundGroups, quotes_boundGroup]) (by decide) (by decide)
  | groupPage => exact Record.quotes (by simp [Vendor.groupPage, quotes_listedGroup]) (by decide) (by decide)
  | describeUsage => exact Record.quotes (by simp [usages, quotes_usage]) (by decide) (by decide)
  | modifyAccountDescription | deleteAccount | modifyInstanceName | associateSecurityGroups |
    disassociateSecurityGroups => exact Record.quotes (by simp [acknowledgement]) (by decide) (by decide)

end Answers

end Vendor

/-! ## Failures of calls -/

section Failures

variable {action : String} {α : Type} {answer : Record α} {layout : Layout}

/-- The wording of a fault of reading an answer is plain. -/
theorem Failure.tidy_unreadable {why : ReadFault} (haction : Plain action) (hwhy : Plain why.message) :
    (Failure.unreadable action why).Tidy :=
  fun t ht => .inr (List.forall_mem_cons.2 ⟨haction, why.plain_message_iff.1 hwhy⟩ t ht)

theorem Exchange.tidy_of_content {x : Exchange} {e : Failure} (haction : Plain x.posting.action)
    (h : x.content = .error e) : e.Tidy := by
  unfold content Envelope.content at h
  split at h
  · split at h
    · split at h
      · split at h
        · cases h
          exact Failure.tidy_unreadable haction (by decide)
        · split at h
          · cases h
            exact fun t ht => .inl ht
          · cases h
      · cases h
        exact Failure.tidy_unreadable haction (by decide)
    · cases h
      exact fun t ht => by cases ht
  · cases h
    exact fun t ht => by cases ht
  · cases h
    exact fun t ht => by cases ht

theorem Exchange.tidy_of_outcome {x : Exchange} {e : Failure} (hanswer : Answers x.posting.action answer layout)
    (h : x.outcome answer = .error e) : e.Tidy := by
  rw [outcome] at h
  cases hc : x.content with
  | error e' =>
    rw [hc] at h
    cases h
    exact tidy_of_content hanswer.plain hc
  | ok c =>
    rw [hc] at h
    simp only [Except.bind, Provider.readContent] at h
    cases hv : answer.ofValue c with
    | ok a =>
      rw [hv] at h
      cases h
    | error why =>
      rw [hv] at h
      cases h
      exact Failure.tidy_unreadable hanswer.plain (hanswer.quotes c why hv)

theorem Client.tidy_of_posting {c : Client} {product : Product} {body : Json} {timestamp : Int} {e : Failure}
    (h : c.posting product action body timestamp = .error e) : e.Tidy := by
  simp only [posting] at h
  split at h
  · cases h
    exact fun t ht => .inl ht
  · split at h
    · cases h
      exact fun t ht => .inl ht
    · generalize (if c.region = "" then none else some c.region) = region at h
      split at h
      · cases h
      · cases h
        exact fun t ht => by cases ht

theorem Provider.tidy_of_invoke {p : Provider} {product : Product} {body : Json} {s : Session} {e : Failure}
    (hanswer : Answers action answer layout) (h : (p.invoke product action body answer s).1 = .error e) : e.Tidy := by
  cases hx : p.client.posting product action body ((p.paced action s).second p.out) with
  | error e' =>
    rw [(invoke_of_error answer hx).1] at h
    cases h
    exact Client.tidy_of_posting hx
  | ok x =>
    obtain rfl : x.action = action := (Client.asks_of_posting hx .closed).1
    rw [(invoke_of_posting answer hx).1] at h
    exact Exchange.tidy_of_outcome hanswer h

end Failures

/-! ## The log -/

/-- **The log goes on in proper notices.** -/
def Session.Tells (s t : Session) : Prop :=
  ∃ notices : List Notice, t.log = notices.map Notice.line ++ s.log ∧ ∀ x ∈ notices, x.Proper

namespace Session

variable {s t u : Session}

theorem tells_of_log_eq (h : t.log = s.log) : s.Tells t := ⟨[], h, fun _ hx => by cases hx⟩

theorem tells_logged {x : Notice} (hx : x.Proper) (s : Session) : s.Tells (s.logged x.line) :=
  ⟨[x], rfl, List.forall_mem_singleton.2 hx⟩

theorem Tells.trans (h : s.Tells t) (h' : t.Tells u) : s.Tells u := by
  obtain ⟨xs, hxs, hproper⟩ := h
  obtain ⟨ys, hys, hproper'⟩ := h'
  refine ⟨ys ++ xs, by rw [hys, hxs, List.map_append, List.append_assoc], fun x hx => ?_⟩
  exact (List.mem_append.1 hx).elim (hproper' x) (hproper x)

instance : IsPreorder Session Tells where
  refl _ := tells_of_log_eq rfl
  trans _ _ _ := Tells.trans

end Session

/-- **Each attempt that is not the last one, or is one too many, adds one notice.** -/
theorem Run.waits_tells {operation : String} (h : Plain operation) : Waits Session.Tells operation where
  notBefore _ _ := Session.tells_of_log_eq rfl
  later _ _ := Session.tells_of_log_eq rfl
  pause _ _ := Session.tells_of_log_eq rfl
  again s number e pause he := Session.tells_logged (x := .again operation number e pause) ⟨h, he⟩ s
  exhausted s number e he := Session.tells_logged (x := .exhausted operation number e) ⟨h, he⟩ s

namespace Provider

variable {α : Type} {action : String} {answer : Record α} {layout : Layout}

theorem converses_tells (p : Provider) : p.Converses Session.Tells where
  pace _ _ := Session.tells_of_log_eq rfl
  send x s := by
    refine Session.tells_of_log_eq ?_
    unfold Run.send
    dsimp only
    cases p.out.reply s.exchanges x <;> rfl
  status s status text := Session.tells_logged (x := .badStatus status text) trivial s

/-- **A call of an action adds proper notices.** -/
theorem invoke_tells (p : Provider) (h : Answers action answer layout) (product : Product) (body : Json) :
    (p.invoke product action body answer).Along Session.Tells :=
  p.converses_tells.invoke (Session.tells_logged (x := .success action body) h.plain) fun _ e he =>
    Session.tells_logged (x := .failure action body e) ⟨h.plain, tidy_of_invoke h he⟩

/-- The line about how a call ended. -/
def endingLine (action : String) (body : Json) : Except Failure α → LogLine
  | .ok _ => successLine action body
  | .error e => failureLine action body e

/-- The last line of a call is about how it ended. -/
theorem head?_log_invoke (p : Provider) (product : Product) (action : String) (body : Json) (answer : Record α)
    (s : Session) :
    (p.invoke product action body answer s).2.log.head? =
      some (endingLine action body (p.invoke product action body answer s).1) := by
  rw [invoke_apply]
  rcases (p.client.call p.out product action body >>= fun c => Run.ofExcept (readContent action answer c))
    (p.paced action s) with ⟨_ | _, t⟩ <;> rfl

/-- A call in several attempts. -/
theorem call_tells (p : Provider) (h : Answers action answer layout) (product : Product) (body : Json) (b : Budget) :
    (Run.retried p.out b action (p.invoke product action body answer)).Along Session.Tells :=
  (p.invoke_tells h product body).retried (Run.waits_tells h.plain) p.out b

end Provider

end Provision
