import Provision.Proofs.Resource.Shown
import Provision.Proofs.Resource.Talks

/-!
# How a refresh ends

A look-up asks the vendor about the resource of an identity (`Kind.Questions`). What it finds is what the last answers
show (`Kind.Shows`); if it fails, then the last answer is handed on, or nothing could be asked (`Kind.Unknown`). Main
statement: a refresh ends in one of three ways, and the identity is lost if and only if the last answers deny the
resource (`Kind.refresh_refreshed`). In particular an answer that only promises something of another attempt never
clears an identity.
-/

namespace Provision

open Json Vendor

/-- **What an attachment was found to be**: the last answer about each instance of the identity says whether the group
is bound to it, and those to which it is bound are known. -/
structure Attachment.Found (id : String) (a : Attachment) (xs : List Exchange) (b : Attachment) : Prop where
  product : b.product = productOr a.product
  bound : ∃ first, first ∈ b.instanceIds
  named : ∃ instances, parts id = .ok (instances, b.securityGroupId) ∧ (∀ i ∈ b.instanceIds, i ∈ instances) ∧
    ∀ i ∈ instances, ∃ x, lastAbout i xs = some x ∧
      (i ∈ b.instanceIds ∧ BoundBy b.securityGroupId x ∨ i ∉ b.instanceIds ∧ DeniedBy b.securityGroupId x)

namespace Kind

/-- **A question about the resource of an identity.** Of an attachment, each instance is asked about by itself. -/
def Questions (p : Provider) (id : String) (x : Exchange) : (k : Kind) → k.Config → Prop
  | .attachment, a => ∃ instances group, Attachment.parts id = .ok (instances, group) ∧ ∃ i ∈ instances,
      p.Posts .dcdb "DescribeDBSecurityGroups" (Provider.boundGroupsQuestion (Attachment.productOr a.product) i) x
  | k, _ => ∃ body, k.inquiry id = some body ∧ p.Posts .dcdb k.question body x

/-- **The last answers show a resource.** -/
def Shows (id : String) (xs : List Exchange) : (k : Kind) → k.Config → k.Config → Prop
  | .attachment, a, b => Attachment.Found id a xs b
  | k, a, b => ∃ x told, xs.head? = some x ∧ x.outcome k.answer = .ok told ∧ k.shown told id a = some b

/-- **Why it is not known whether there is a resource**: nothing can be asked about a broken identity; otherwise the
failure is what the last answer is handed on as, or the reason for which no request can be written. -/
inductive Unknown (k : Kind) (p : Provider) (id : String) : List Exchange → Failure → Prop
  | broken (broken : k.Broken id) : Unknown k p id [] (.brokenId id)
  | failing {xs : List Exchange} {e : Failure} (failing : Failing p p.read k.question k.answer xs e) :
      Unknown k p id xs e

/-- What a look-up does: it asks, and its result comes from the last answers. -/
structure LooksUp (k : Kind) (p : Provider) (id : String) (a : k.Config) (xs : List Exchange)
    (r : Except Failure (Option k.Config)) : Prop where
  asks : ∀ x ∈ xs, k.Questions p id x a
  finds : ∀ b, r = .ok (some b) → k.Shows id xs a b
  fails : ∀ e, r = .error e → k.Unknown p id xs e

variable {k : Kind} {p : Provider} {id : String} {xs : List Exchange}

theorem shows_iff (hk : k ≠ .attachment) {a b : k.Config} : k.Shows id xs a b ↔
    ∃ x told, xs.head? = some x ∧ x.outcome k.answer = .ok told ∧ k.shown told id a = some b := by
  cases k with
  | attachment => exact absurd rfl hk
  | _ => exact Iff.rfl

theorem questions_iff (hk : k ≠ .attachment) {a : k.Config} {x : Exchange} :
    k.Questions p id x a ↔ ∃ body, k.inquiry id = some body ∧ p.Posts .dcdb k.question body x := by
  cases k with
  | attachment => exact absurd rfl hk
  | _ => exact Iff.rfl

theorem looksUp_of_broken (h : k.Broken id) (a : k.Config) : k.LooksUp p id a [] (.error (.brokenId id)) where
  asks := fun x hx => by cases hx
  finds := fun b hb => by cases hb
  fails := fun e he => by
    cases he
    exact .broken h

/-- A call of which the value is looked through. -/
theorem looksUp_of_called (hk : k ≠ .attachment) {body : Json} (hbody : k.inquiry id = some body)
    {called : Except Failure k.Answer} (h : Called p p.read k.question body k.answer xs called) (a : k.Config) :
    k.LooksUp p id a xs (called.map fun told => k.shown told id a) where
  asks := fun x hx => (questions_iff hk).2 ⟨body, hbody, h.posts x hx⟩
  finds := fun b hb => by
    cases called with
    | error e => cases hb
    | ok told =>
      obtain ⟨x, hx, hout⟩ := h.settled.of_ok
      exact (shows_iff hk).2 ⟨x, told, hx, hout, Except.ok.inj hb⟩
  fails := fun e he => by
    cases called with
    | ok told => cases he
    | error e' =>
      cases he
      exact .failing h.failing

end Kind

namespace Attachment

variable {p : Provider} {id group : String} {xs : List Exchange}

/-- What is found when all instances of an identity were asked about. -/
theorem found_of_surveyed {instances : StringSet} {found : List String} {a b : Attachment}
    (hparts : parts id = .ok (instances, group))
    (h : Surveyed p (productOr a.product) group instances.toList xs (.ok found))
    (hb : foundOf a group found = some b) : Found id a xs b := by
  obtain ⟨hsub, hsays⟩ := h.of_ok (nodup_toList instances)
  unfold foundOf at hb
  split at hb
  · cases hb
  · rename_i hne
    cases hb
    obtain ⟨first, hfirst⟩ := List.exists_mem_of_ne_nil found hne
    refine ⟨rfl, ⟨first, StringSet.mem_ofList.2 hfirst⟩, instances, hparts, fun i hi => ?_, fun i hi => ?_⟩
    · exact hsub.subset (StringSet.mem_ofList.1 hi)
    · obtain ⟨x, hx, hx'⟩ := hsays i hi
      refine ⟨x, hx, ?_⟩
      by_cases hm : i ∈ found
      · rw [decide_eq_true hm] at hx'
        exact .inl ⟨StringSet.mem_ofList.2 hm, hx'⟩
      · rw [decide_eq_false hm] at hx'
        exact .inr ⟨fun h => hm (StringSet.mem_ofList.1 h), hx'⟩

theorem read_looksUp (p : Provider) (id : String) (a : Attachment) :
    (read p id a).Ensures (Kind.attachment.LooksUp p id a) := by
  cases hparts : parts id with
  | error e =>
    rw [read_of_error hparts, parts_error hparts]
    refine (Run.ensures_fail _).mono fun xs r hr => ?_
    obtain ⟨rfl, rfl⟩ := hr
    exact Kind.looksUp_of_broken (broken_of_parts hparts) a
  | ok named =>
    obtain ⟨instances, group⟩ := named
    refine (read_ensures hparts).mono fun xs r hr => ?_
    obtain ⟨r', hsurvey, rfl⟩ := hr
    refine ⟨fun x hx => ⟨instances, group, hparts, hsurvey.posts x hx⟩, fun b hb => ?_, fun e he => ?_⟩
    · cases r' with
      | error e => cases hb
      | ok found => exact found_of_surveyed hparts hsurvey (Except.ok.inj hb)
    · cases r' with
      | ok found => cases he
      | error e' =>
        cases he
        exact .failing hsurvey.failing

end Attachment

namespace Kind

/-- **A look-up asks about the resource of its identity, and its result comes from the last answers.** -/
theorem read_looksUp (k : Kind) (p : Provider) (id : String) (a : k.Config) :
    (k.resource.read p id a).Ensures (k.LooksUp p id a) := by
  by_cases hk : k = .attachment
  · subst hk
    exact Attachment.read_looksUp p id a
  · refine (read_calls p id k hk a).mono fun xs r h => ?_
    rcases h with ⟨body, called, hbody, hcalled, rfl⟩ | ⟨hbroken, rfl, rfl⟩
    · exact looksUp_of_called hk hbody hcalled a
    · exact looksUp_of_broken hbroken a

/-- **The ways in which a refresh ends**, with the exchanges that it adds, the result, and what is known then. -/
inductive Refreshed (k : Kind) (p : Provider) (st : ResourceState k.Config) (xs : List Exchange) :
    Except Failure Unit → ResourceState k.Config → Prop
  /-- The resource is there, as the last answers show it. -/
  | found (attributes : k.Config) (shown : k.Shows st.id xs st.attributes attributes) (here : ¬k.Denied st.id xs) :
      Refreshed k p st xs (.ok ()) ⟨st.id, attributes⟩
  /-- The vendor said that there is no such resource. -/
  | gone (denied : k.Denied st.id xs) :
    Refreshed k p st xs (.error (.absent k.name st.id)) ⟨"", st.attributes⟩
  /-- It is not known whether there is one. -/
  | failed (e : Failure) (unknown : k.Unknown p st.id xs e) (other : e.saysAbsent = false)
      (undenied : ¬k.Denied st.id xs) : Refreshed k p st xs (.error e) st

/-- **A refresh of a resource with an identity only asks about it, and ends in one of three ways; the identity is lost
if and only if the last of what the vendor replied denies the resource.** -/
theorem refresh_refreshed (k : Kind) (p : Provider) (st : ResourceState k.Config) (s : Session)
    (h : st.present = true) : (k.resource.refresh p st s).Ends s fun xs r now =>
      p.out.Replied s.exchanges xs ∧ (∀ x ∈ xs, k.Questions p st.id x st.attributes) ∧ k.Refreshed p st xs r now := by
  obtain ⟨xs, hxs, hlooks⟩ := read_looksUp k p st.id st.attributes s
  obtain ⟨ys, hys, -, hden⟩ := read_ensures p st.id k st.attributes s
  obtain rfl := List.append_cancel_right (hxs.symm.trans hys)
  have hreplied := (((k.talks p).read st.id st.attributes).hears s).replied hxs
  rcases Resource.refresh_cases (r := k.resource) (p := p) (s := s) h with
    ⟨attributes, t, hr, he⟩ | ⟨res, t, hr, hgone, he⟩ | ⟨e, t, hr, hother, he⟩
  · rw [hr] at hxs hden hlooks
    rw [he]
    exact ⟨xs, hxs, hreplied, hlooks.asks, .found attributes (hlooks.finds _ rfl) fun hd =>
      not_saysGone_some (hden.1 hd)⟩
  · rw [hr] at hxs hden
    rw [he]
    exact ⟨xs, hxs, hreplied, hlooks.asks, .gone (hden.2 hgone)⟩
  · rw [hr] at hxs hden hlooks
    rw [he]
    exact ⟨xs, hxs, hreplied, hlooks.asks, .failed e (hlooks.fails e rfl) hother fun hd =>
      not_saysGone_error hother (hden.1 hd)⟩

end Kind

/-! ## One question -/

namespace Account

variable {id instanceId userName : String} {xs : List Exchange} {x : Exchange}

/-- The last answer denies an account if it shows none. -/
theorem denied_iff_shown (hparts : parts id = .ok (instanceId, userName)) (hx : xs.head? = some x) (a : Account) :
    Denied id xs ↔ Denying (fun accounts => shown accounts id a = none) (x.outcome accountList) := by
  simp only [shown_of_parts hparts, found_eq_none_iff, ← Exchange.denies_iff]
  simp only [Denied, hparts, Except.ok.injEq, Prod.mk.injEq, hx, Option.some.injEq]
  constructor
  · rintro ⟨_, _, ⟨rfl, rfl⟩, _, rfl, hdenied⟩
    exact hdenied
  · exact fun hdenied => ⟨_, _, ⟨rfl, rfl⟩, x, rfl, hdenied⟩

end Account

namespace Kind

variable {k : Kind} {p : Provider} {st now : ResourceState k.Config} {xs : List Exchange} {x : Exchange}
  {r : Except Failure Unit}

/-- The last answer denies a resource that is asked about in one question if it shows none. -/
theorem denied_iff {id : String} (hk : k ≠ .attachment) (hid : ¬k.Broken id) (hx : xs.head? = some x) (a : k.Config) :
    k.Denied id xs ↔ Denying (fun told => k.shown told id a = none) (x.outcome k.answer) := by
  match k with
  | .attachment => exact absurd rfl hk
  | .account =>
    obtain ⟨instanceId, userName, hparts⟩ := Classical.not_not.1 hid
    exact Account.denied_iff_shown (Identity.hasParts_iff.1 hparts) hx a
  | .instance _ =>
    have hiff : Instance.Denied xs ↔ Instance.DeniedBy x := by simp [Instance.Denied, hx]
    refine hiff.trans ?_
    simp only [Instance.DeniedBy, Exchange.denies_iff, ← Instance.found_eq_none_iff (i := a)]
    exact Iff.rfl

theorem exists_head?_of_denied {id : String} (hk : k ≠ .attachment) (h : k.Denied id xs) : ∃ x, xs.head? = some x := by
  match k with
  | .attachment => exact absurd rfl hk
  | .account =>
    obtain ⟨_, _, -, x, hx, -⟩ := h
    exact ⟨x, hx⟩
  | .instance _ =>
    obtain ⟨x, hx, -⟩ := h
    exact ⟨x, hx⟩

/-- **How a refresh ends that was told something at last**, with the result and what is known then. -/
structure Decided (k : Kind) (p : Provider) (st : ResourceState k.Config) (told : Except Failure k.Answer)
    (r : Except Failure Unit) (now : ResourceState k.Config) : Prop where
  found : ∀ content b, told = .ok content → k.shown content st.id st.attributes = some b →
    r = .ok () ∧ now = ⟨st.id, b⟩
  gone : Denying (fun content => k.shown content st.id st.attributes = none) told →
    r = .error (.absent k.name st.id) ∧ now = ⟨"", st.attributes⟩
  failed : ∀ e, told = .error e → e.saysAbsent = false →
    ∃ e', Run.HandedOn p.read k.question told (.error e') ∧ r = .error e' ∧ now = st

/-- **The last answer decides** how a refresh ends that asks one question, if the identity is not broken and requests
can be written. -/
theorem Refreshed.decided (hk : k ≠ .attachment) (hid : ¬k.Broken st.id) (can : ∀ e, ¬p.Unwritten .dcdb k.question e)
    (h : k.Refreshed p st xs r now) : ∃ x, xs.head? = some x ∧ k.Decided p st (x.outcome k.answer) r now := by
  cases h with
  | found attributes hshows here =>
    obtain ⟨x, told, hx, hout, hb⟩ := (shows_iff hk).1 hshows
    refine ⟨x, hx, fun told' b hout' hb' => ?_, fun hdenying => ?_, fun e he _ => ?_⟩
    · cases hout.symm.trans hout'
      cases hb.symm.trans hb'
      exact ⟨rfl, rfl⟩
    · exact absurd ((denied_iff hk hid hx _).2 hdenying) here
    · cases hout.symm.trans he
  | gone denied =>
    obtain ⟨x, hx⟩ := exists_head?_of_denied hk denied
    refine ⟨x, hx, fun told b hout hb => ?_, fun _ => ⟨rfl, rfl⟩, fun e he habs => ?_⟩
    all_goals
      rcases (denied_iff hk hid hx st.attributes).1 denied with ⟨e', he', habs'⟩ | ⟨told', hout', hnone⟩
    · cases hout.symm.trans he'
    · cases hout.symm.trans hout'
      rw [hb] at hnone
      cases hnone
    · cases he.symm.trans he'
      rw [habs] at habs'
      cases habs'
    · cases he.symm.trans hout'
  | failed e hunknown other undenied =>
    cases hunknown with
    | broken hbroken => exact absurd hbroken hid
    | failing hfailing =>
      cases hfailing with
      | unwritten why => exact absurd why (can _)
      | @answered x earlier _ handed =>
        refine ⟨x, rfl, fun told b hout hb => ?_, fun hdenying => ?_, fun _ _ _ => ⟨e, handed, rfl, rfl⟩⟩
        · rw [hout] at handed
          cases handed.eq_of_final (not_transient_ok told)
        · exact absurd ((denied_iff hk hid rfl _).2 hdenying) undenied

end Kind

/-! ## A vendor that always replies the same -/

/-- A vendor that always replies the same, or that never replies. -/
def Provider.replying (reply : Reply) : Provider := .plain fun _ _ => reply

namespace Account

open Provider (replying)

/-- An account as it is known, with another host than it has by now. -/
def remembered : ResourceState Account := ⟨"dcdbt-1#root", { host := "10.%", password := "secret" }⟩

/-- What the reply stands for decides how a refresh of it ends. -/
theorem decided_of_replying {reply : Reply} {told : Except Failure AccountList} {o : Outcome Account} {s : Session}
    (h : o.Ends s fun xs r now => (replying reply).out.Replied s.exchanges xs ∧
      (∀ x ∈ xs, Kind.account.Questions (replying reply) remembered.id x remembered.attributes) ∧
        Kind.account.Refreshed (replying reply) remembered xs r now)
    (htold : ∀ posting, (⟨posting, reply⟩ : Exchange).outcome accountList = told) :
    Kind.account.Decided (replying reply) remembered told o.result o.state := by
  have hid : ¬Kind.account.Broken remembered.id := fun hbroken => by cases broken_iff.1 hbroken
  have hwritten : Client.isHeaderValue Kind.account.question = true := by decide
  obtain ⟨xs, -, hreplied, -, hrefreshed⟩ := h
  obtain ⟨x, hx, hdecided⟩ := hrefreshed.decided (by decide) hid (Client.plain_writable.not_unwritten hwritten)
  have hout := hreplied.forall_mem (P := fun x => x.outcome accountList = told) (fun _ posting => htold posting) x
    (List.mem_of_head? hx)
  rwa [← hout]

/-- An answer that lists the account. -/
def hostedText : String :=
  "\x7b\"Response\":\x7b\"Users\":[\x7b\"UserName\":\"root\",\"Host\":\"%\"\x7d]\x7d\x7d"

/-- An answer that lists no account. -/
def desertedText : String := "\x7b\"Response\":\x7b\"Users\":[]\x7d\x7d"

/-- A refusal that says nothing of the account. -/
def refusingText : String :=
  "\x7b\"Response\":\x7b\"Error\":\x7b\"Code\":\"AuthFailure\",\"Message\":\"no\"\x7d\x7d\x7d"

end Account

/-- A step gives a result, and what is known then. -/
def Outcome.Gives {α : Type} (o : Outcome α) (r : Except Failure Unit) (now : ResourceState α) : Prop :=
  o.result = r ∧ o.state = now

namespace Kind

open Provider (replying)
open Account

/-- An account that is listed is found with its host, and one that is not is gone. A refusal for another reason leaves
the state as it was, and so does a vendor that never replies, when the time is over. -/
theorem refresh_refreshed_remembered :
    (account.resource.refresh (replying (.answer 200 hostedText)) remembered {}).Gives (.ok ())
      ⟨"dcdbt-1#root", (⟨"dcdbt-1", "root", "%", "secret", none, none, none⟩ : Account)⟩ ∧
    (account.resource.refresh (replying (.answer 200 desertedText)) remembered {}).Gives
      (.error (.absent "tencentcloud_dcdb_account" "dcdbt-1#root")) ⟨"", remembered.attributes⟩ ∧
    (account.resource.refresh (replying (.answer 200 refusingText)) remembered {}).Gives
      (.error (.refused "AuthFailure" "no" "")) remembered ∧
    ∃ elapsed, (account.resource.refresh (replying .unreachable) remembered {}).Gives
      (.error (.timedOut "DescribeAccounts" elapsed .unanswered)) remembered := by
  have ends := fun reply => refresh_refreshed account (replying reply) remembered {} (by decide)
  refine ⟨?_, ?_, ?_, ?_⟩
  · have told : ∀ x : Posting, (⟨x, .answer 200 hostedText⟩ : Exchange).outcome accountList =
        .ok { users := [{ userName := some "root", host := some "%" }] } := fun x => by cbv
    exact (decided_of_replying (ends _) told).found _ _ rfl rfl
  · have told : ∀ x : Posting, (⟨x, .answer 200 desertedText⟩ : Exchange).outcome accountList = .ok {} :=
      fun x => by cbv
    exact (decided_of_replying (ends _) told).gone (.inr ⟨_, rfl, rfl⟩)
  · have told : ∀ x : Posting, (⟨x, .answer 200 refusingText⟩ : Exchange).outcome accountList =
        .error (.refused "AuthFailure" "no" "") := fun x => by cbv
    have final : ¬Transient (.error (.refused "AuthFailure" "no" "") : Except Failure AccountList) :=
      not_transient_error (by decide)
    obtain ⟨e, handed, hr, hnow⟩ := (decided_of_replying (ends _) told).failed _ rfl (by decide)
    obtain rfl := Except.error.inj (handed.eq_of_final final)
    exact ⟨hr, hnow⟩
  · have told : ∀ x : Posting, (⟨x, .unreachable⟩ : Exchange).outcome accountList = .error .unanswered := fun x => rfl
    have hq : Kind.account.question = "DescribeAccounts" := rfl
    obtain ⟨e, handed, hr, hnow⟩ := (decided_of_replying (ends _) told).failed _ rfl (by decide)
    rw [hq] at handed
    obtain ⟨elapsed, he⟩ := handed.timedOut (by decide)
    obtain rfl := Except.error.inj he
    exact ⟨elapsed, hr, hnow⟩

end Kind

end Provision
