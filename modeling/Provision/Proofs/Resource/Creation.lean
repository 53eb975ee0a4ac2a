import Mathlib.Data.List.Permutation
import Provision.Proofs.Identity
import Provision.Proofs.Resource.Execute

/-!
# What is known of a resource that was just created

Between the answer that accepts a creation and the end of an application stand the wait for the new instance and the
look-up of the new resource. Main statement: the identity of the new resource is recorded if and only if all of that
succeeds, and otherwise no identity is (`Kind.apply_recorded`). So a resource is lost when only the look-up fails
(`Account.created_lost`).
-/

namespace Provision

namespace Kind

/-- A resource that the vendor created has an identity. -/
theorem acceptedBy_ne_empty {id : String} {x : Exchange} : ∀ {k : Kind} {config : k.Config},
    k.acceptedBy config x = some id → id ≠ ""
  | .account, a, h => by
    obtain ⟨named, -, rfl⟩ := Option.map_eq_some_iff.1 h
    exact Identity.join_pair_ne_empty _ _
  | .instance billing, i, h => by
    obtain ⟨ids, -, hf⟩ := Option.bind_eq_some_iff.1 h
    simpa using List.find?_some hf
  | .attachment, a, h => by
    obtain ⟨_, -, rfl⟩ := Option.map_eq_some_iff.1 h
    exact Identity.join_pair_ne_empty _ _

/-- **Of a resource that the vendor created, an application records the identity if and only if it succeeds; otherwise
it records none.** -/
theorem apply_recorded (k : Kind) (p : Provider) (st : ResourceState k.Config) (desired : k.Config) (s : Session) :
    (k.resource.apply p st desired s).Ends s fun xs r now => ∀ x ∈ xs, ∀ id, k.createdBy desired x = some id →
      id ≠ "" ∧ (now.id = id ↔ r = .ok ()) ∧ (r ≠ .ok () → now.id = "") := by
  obtain ⟨asked, hasked, hquestions, held⟩ := current_ends p st s
  have hnone : ∀ x ∈ asked, x.posting.action ≠ k.creation := by
    intro x hx
    rw [hquestions x hx]
    exact k.question_ne_creation
  have recorded : (k.resource.apply p st desired s).Ends s fun xs r now => Recorded k desired xs r now := by
    rcases k.resource.apply_cases p st desired s with
      ⟨e, -, ha⟩ | ⟨e, now, t, -, hc, ha⟩ | ⟨plan, now, t, hcheck, hc, hplan, ha⟩
    · rw [ha]
      exact ⟨[], rfl, recorded_of_not_created (by simp)⟩
    · rw [hc] at hasked
      rw [ha]
      exact ⟨asked, hasked, recorded_of_not_created hnone⟩
    · rw [hc] at hasked held
      rw [ha]
      obtain ⟨done, hdone, -, hrec⟩ := execute_ends hcheck (held rfl) hplan
      exact ⟨done ++ asked, by rw [hdone, hasked, List.append_assoc], hrec.append hnone⟩
  obtain ⟨xs, hxs, hrec⟩ := recorded
  refine ⟨xs, hxs, fun x hx id hid => ?_⟩
  have hne : id ≠ "" := by
    rw [createdBy_of_creation (action_of_createdBy hid)] at hid
    exact acceptedBy_ne_empty hid
  obtain ⟨hok, herr⟩ := hrec x hx id hid
  refine ⟨hne, ⟨fun h => ?_, hok⟩, herr⟩
  by_cases hr : (k.resource.apply p st desired s).result = .ok ()
  · exact hr
  · rw [herr hr] at h
    exact absurd h.symm hne

end Kind

/-! ## A vendor that answers no question -/

/-- A vendor that accepts every change and refuses every question. -/
def Provider.refusing : Provider := .plain fun _ x =>
  if isQuestion x.action then
    .answer 200 "\x7b\"Response\":\x7b\"Error\":\x7b\"Code\":\"AuthFailure\",\"Message\":\"no\"\x7d\x7d\x7d"
  else .answer 200 "\x7b\"Response\":\x7b\x7d\x7d"

/-- The failure of the vendor that refuses. -/
def Provider.refusal : Failure := .refused "AuthFailure" "no" ""

theorem Provider.content_of_change {x : Posting} (h : isQuestion x.action = false) (xs : List Exchange) :
    (⟨x, refusing.out.reply xs x⟩ : Exchange).content = .ok (.object []) := by
  simp only [refusing, plain, h]
  cbv

theorem Provider.content_of_question {x : Posting} (h : isQuestion x.action = true) (xs : List Exchange) :
    (⟨x, refusing.out.reply xs x⟩ : Exchange).content = .error refusal := by
  simp only [refusing, plain, h, if_true]
  cbv

/-! ## A lost account -/

namespace Account

open Provider (refusing refusal)

/-- The account that is created. -/
def sample : Account := { instanceId := "dcdbt-1", userName := "root", host := "%", password := "secret" }

theorem check_sample : resource.check (resource.toJson sample) = .ok () := by
  have valid : resource.schema.violation? (resource.toJson sample) = none := by decide +kernel
  rw [Resource.check, valid]

theorem create_of_refusing (a : Account) (s : Session) : ∃ x t, x.posting.action = "CreateAccount" ∧
    x.outcome Vendor.createdAccount = .ok none ∧ refusing.createAccount a.creationBody s = (.ok none, t) ∧
    t.exchanges = x :: s.exchanges := by
  have told : ∀ x : Posting, x.action = "CreateAccount" →
      (⟨x, refusing.out.reply s.exchanges x⟩ : Exchange).outcome Vendor.createdAccount = .ok none := by
    intro x hx
    have hchange : isQuestion x.action = false := by rw [hx]; decide
    rw [Exchange.outcome, Provider.content_of_change hchange]
    rfl
  obtain ⟨x, t, hasks, hout, hr, he⟩ := Provider.retried_of_writable Client.plain_writable (by decide) told
    (not_transient_ok none) .dcdb a.creationBody refusing.write "CreateAccount"
  exact ⟨x, t, hasks.1, hout, hr, he⟩

theorem read_of_refusing (s : Session) : ∃ x t, x.posting.action = "DescribeAccounts" ∧
    x.outcome Vendor.accountList = .error refusal ∧
    read refusing "dcdbt-1#root" sample s = (.error refusal, t) ∧ t.exchanges = x :: s.exchanges := by
  have told : ∀ x : Posting, x.action = "DescribeAccounts" →
      (⟨x, refusing.out.reply s.exchanges x⟩ : Exchange).outcome Vendor.accountList = .error refusal := by
    intro x hx
    have hquestion : isQuestion x.action = true := by rw [hx]; decide
    rw [Exchange.outcome, Provider.content_of_question hquestion]
    rfl
  have final : ¬Transient (.error refusal : Except Failure Vendor.AccountList) := not_transient_error (by decide)
  obtain ⟨x, t, hasks, hout, hr, he⟩ := Provider.retried_of_writable Client.plain_writable (by decide) told final .dcdb
    (.ofMembers [("InstanceId", .string "dcdbt-1")]) refusing.read "DescribeAccounts"
  refine ⟨x, t, hasks.1, hout, ?_, he⟩
  have hparts : parts "dcdbt-1#root" = .ok ("dcdbt-1", "root") := by rfl
  rw [read_of_ok hparts]
  exact Run.bind_error hr

theorem not_deniedBy_of_refusal {x : Exchange} {userName : String}
    (h : x.outcome Vendor.accountList = .error refusal) : ¬DeniedBy userName x := by
  rintro (habs | ⟨accounts, hok, -⟩)
  · obtain ⟨e, he, hsays⟩ := (Exchange.refusedAsAbsent_iff Vendor.accountList).1 habs
    rw [h] at he
    cases he
    exact absurd hsays (by decide)
  · rw [h] at hok
    cases hok

theorem resource_create : resource.create = create := rfl

theorem resource_read : resource.read = read := rfl

/-- **The vendor creates the account and never says that it does not exist, and yet its identity is lost.** -/
theorem created_lost : ∃ x y, (resource.apply refusing ⟨"", {}⟩ sample {}).session.exchanges = [y, x] ∧
    Kind.createdBy .account sample x = some "dcdbt-1#root" ∧ ¬DeniedBy "root" y ∧
    (resource.apply refusing ⟨"", {}⟩ sample {}).result = .error refusal ∧
    (resource.apply refusing ⟨"", {}⟩ sample {}).state = ⟨"", {}⟩ := by
  obtain ⟨x, t, hact, hout, hcreate, hx⟩ := create_of_refusing sample {}
  obtain ⟨y, u, -, hrefused, hread, hy⟩ := read_of_refusing t
  have hrefresh : resource.refresh refusing ⟨"dcdbt-1#root", sample⟩ t =
      ⟨.error refusal, ⟨"dcdbt-1#root", sample⟩, u⟩ :=
    Resource.refresh_of_error rfl (by rw [resource_read]; exact hread) (by decide)
  have hcreated : resource.createFrom refusing sample {} = (.error refusal, u) :=
    Resource.createFrom_of_refresh_error check_sample (by rw [resource_create]; exact Run.bind_ok hcreate) hrefresh
  have happly : resource.apply refusing ⟨"", {}⟩ sample {} = ⟨.error refusal, ⟨"", {}⟩, u⟩ := by
    rw [Resource.apply_of_not_present check_sample rfl, Resource.recreate, hcreated]
  rw [happly]
  refine ⟨x, y, by rw [hy, hx], ?_, not_deniedBy_of_refusal hrefused, rfl, rfl⟩
  refine (Kind.createdBy_of_creation hact).trans ?_
  change acceptedBy sample x = _
  rw [acceptedBy, hout]
  rfl

end Account

end Provision
