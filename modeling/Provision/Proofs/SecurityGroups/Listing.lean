import Provision.Proofs.Json.Records
import Provision.Proofs.Session.Attempts
import Provision.Proofs.Vendor.Answers
import Provision.Proofs.Vendor.Replies
import Provision.Proofs.Vendor.Writable
import Provision.Vendor.Groups

/-!
# Listings page by page

A vendor lists groups in pages (`Vendor.Lists`): it answers each request for a page with that part of the list, or with
a failure. One pass through the pages either gets all of them, one request for each (`Vendor.Complete`), or ends with
the first failure (`Vendor.Interrupted`); a listing is a pass that is made again after failures that promise something
of another attempt. Main statement: whatever fails in between, a listing gives all groups in their order, or a failure,
and never a part of them (`Provider.listing_complete`).
-/

namespace Provision

/-- No time passes between two sessions, and no pause is made. -/
def Session.Still (s t : Session) : Prop := t.now = s.now ∧ t.pauses = s.pauses

instance : IsPreorder Session Session.Still where
  refl _ := ⟨rfl, rfl⟩
  trans _ _ _ h h' := ⟨h'.1.trans h.1, h'.2.trans h.2⟩

end Provision

namespace Provision.Vendor

/-! ## Pages -/

/-- The page of a number, counted from zero. -/
def page (groups : List ListedGroup) (i : Nat) : List ListedGroup := (groups.drop (pageLimit * i)).take pageLimit

theorem length_page_of_lt {groups : List ListedGroup} {i : Nat} (h : i < groups.length / pageLimit) :
    (page groups i).length = pageLimit := by
  simp only [page, pageLimit, List.length_take, List.length_drop] at h ⊢
  omega

theorem length_page_of_last {groups : List ListedGroup} {i : Nat} (h : i = groups.length / pageLimit) :
    (page groups i).length < pageLimit := by
  simp only [page, pageLimit, List.length_take, List.length_drop] at h ⊢
  omega

theorem page_of_last {groups : List ListedGroup} {i : Nat} (h : i = groups.length / pageLimit) :
    page groups i = groups.drop (pageLimit * i) := by
  have hlast := length_page_of_last h
  rw [page, List.length_take] at hlast
  exact List.take_of_length_le (by omega)

theorem page_append (groups : List ListedGroup) (i : Nat) :
    page groups i ++ groups.drop (pageLimit * i + pageLimit) = groups.drop (pageLimit * i) := by
  rw [page, ← List.drop_drop, List.take_append_drop]

/-- A request for at most `limit` groups of a filter after the first `offset` ones. -/
structure GroupFilter.Requests (f : GroupFilter) (offset limit : Nat) (x : Posting) : Prop where
  action : x.action = "DescribeSecurityGroups"
  offset : x.body.get? "Offset" = some (.string (Text.Decimal.text offset))
  limit : x.body.get? "Limit" = some (.string (Text.Decimal.text limit))
  ids : x.body.get? "SecurityGroupIds" = (f.body 0).get? "SecurityGroupIds"
  conditions : x.body.get? "Filters" = (f.body 0).get? "Filters"

/-- **A vendor that lists groups in pages**: every request for a part of the list is answered with that part, or
fails. -/
def Lists (out : Surroundings) (f : GroupFilter) (groups : List ListedGroup) : Prop :=
  ∀ earlier x offset limit, f.Requests offset limit x →
    (⟨x, out.reply earlier x⟩ : Exchange).outcome groupPage = .ok ((groups.drop offset).take limit) ∨
      ∃ e, (⟨x, out.reply earlier x⟩ : Exchange).outcome groupPage = .error e

variable {p : Provider} {f : GroupFilter} {groups : List ListedGroup} {first : Nat} {x : Exchange}
  {xs : List Exchange} {e : Failure}

theorem GroupFilter.get?_body (f : GroupFilter) (offset : Nat) (name : String) :
    (f.body offset).get? name = Json.find name (Json.present [
      ("Limit", some (.string (Text.Decimal.text pageLimit))), ("Offset", some (.string (Text.Decimal.text offset))),
      ("Filters", if f.conditions = [] then none else some (.array f.conditions)),
      ("SecurityGroupIds",
        if (f.id.map Json.string).toList = [] then none else some (.array (f.id.map Json.string).toList))]) := by
  rw [body, Json.get?_ofMembers, Json.reverse_present]
  rfl

theorem GroupFilter.requests_body (f : GroupFilter) (offset : Nat) {x : Posting}
    (ha : x.action = "DescribeSecurityGroups") (hb : x.body = f.body offset) : f.Requests offset pageLimit x where
  action := ha
  offset := by
    rw [hb, get?_body]
    simp
  limit := by
    rw [hb, get?_body]
    simp
  ids := by
    rw [hb, get?_body, get?_body]
    simp
  conditions := by
    rw [hb, get?_body, get?_body]
    simp

/-! ## Passes -/

/-- An exchange that asks for the page of a number, as a client writes it. -/
def AsksPage (p : Provider) (f : GroupFilter) (i : Nat) (x : Exchange) : Prop :=
  p.Posts .vpc "DescribeSecurityGroups" (f.body (pageLimit * i)) x

/-- The offset of the page of a number. -/
theorem AsksPage.offset {i : Nat} (h : AsksPage p f i x) :
    x.posting.body.textOf "Offset" = Text.Decimal.text (pageLimit * i) := by
  have hasks := Provider.Posts.asks h
  rw [Json.textOf, (f.requests_body _ hasks.1 hasks.2).offset]
  rfl

/-- Exchanges that ask for one page after the other and get them. -/
def Answered (p : Provider) (f : GroupFilter) (groups : List ListedGroup) (first : Nat) (xs : List Exchange) : Prop :=
  ∀ i (h : i < xs.length), AsksPage p f (first + i) xs[i] ∧ xs[i].outcome groupPage = .ok (page groups (first + i))

/-- **A pass that is complete**: it gets every page from the first one on, and asks for nothing more. -/
structure Complete (p : Provider) (f : GroupFilter) (groups : List ListedGroup) (first : Nat) (xs : List Exchange) :
    Prop where
  answered : Answered p f groups first xs
  length : first + xs.length = groups.length / pageLimit + 1

/-- **A pass that is interrupted by a failure**: the exchange after the pages that it gets fails, or no request can be
written at all. -/
inductive Interrupted (p : Provider) (f : GroupFilter) (groups : List ListedGroup) (first : Nat) :
    List Exchange → Failure → Prop
  | failed (xs : List Exchange) (x : Exchange) (e : Failure) (answered : Answered p f groups first xs)
      (length : first + xs.length ≤ groups.length / pageLimit) (asks : AsksPage p f (first + xs.length) x)
      (fails : x.outcome groupPage = .error e) : Interrupted p f groups first (xs ++ [x]) e
  | unwritten (e : Failure) (why : p.Unwritten .vpc "DescribeSecurityGroups" e) : Interrupted p f groups first [] e

theorem Answered.nil (first : Nat) : Answered p f groups first [] := fun _ h => absurd h (Nat.not_lt_zero _)

/-- One more page at the front. -/
theorem Answered.cons (hasks : AsksPage p f first x) (hx : x.outcome groupPage = .ok (page groups first))
    (h : Answered p f groups (first + 1) xs) : Answered p f groups first (x :: xs) := by
  intro i hi
  cases i with
  | zero => exact ⟨hasks, hx⟩
  | succ i =>
    have hrest := h i (Nat.lt_of_succ_lt_succ hi)
    rw [Nat.add_assoc, Nat.add_comm 1 i] at hrest
    exact hrest

theorem Complete.cons (hasks : AsksPage p f first x) (hx : x.outcome groupPage = .ok (page groups first))
    (h : Complete p f groups (first + 1) xs) : Complete p f groups first (x :: xs) where
  answered := h.answered.cons hasks hx
  length := by
    have hlength := h.length
    rw [List.length_cons]
    omega

/-- A request that was sent could be written, so the pass is interrupted by a request that fails. -/
theorem Interrupted.cons (hasks : AsksPage p f first x) (hx : x.outcome groupPage = .ok (page groups first))
    (h : Interrupted p f groups (first + 1) xs e) : Interrupted p f groups first (x :: xs) e := by
  cases h with
  | failed xs y e answered length asks fails =>
    refine .failed (x :: xs) y e (answered.cons hasks hx) ?_ ?_ fails
    · rw [List.length_cons]
      omega
    · rwa [List.length_cons, Nat.add_comm xs.length, ← Nat.add_assoc]
  | unwritten e why => exact absurd why hasks.not_unwritten

theorem Answered.outcome_of_mem (h : Answered p f groups first xs) (hx : x ∈ xs) :
    ∃ groups, x.outcome groupPage = .ok groups := by
  obtain ⟨i, hi, rfl⟩ := List.mem_iff_getElem.1 hx
  exact ⟨_, (h i hi).2⟩

/-- No other request of a pass fails than the one that interrupts it. -/
theorem Interrupted.eq_of_mem {e' : Failure} (h : Interrupted p f groups first xs e) (hx : x ∈ xs)
    (he : x.outcome groupPage = .error e') : e' = e := by
  have other : ∀ ys, Answered p f groups first ys → x ∉ ys := by
    intro ys hys hmem
    obtain ⟨groups, hok⟩ := hys.outcome_of_mem hmem
    rw [he] at hok
    cases hok
  cases h with
  | failed xs y e answered length asks fails =>
    rcases List.mem_append.1 hx with hmem | hmem
    · exact absurd hmem (other xs answered)
    · rw [List.mem_singleton.1 hmem, fails] at he
      cases he
      rfl
  | unwritten e why => cases hx

/-- A pass is interrupted only if a request fails, or none can be written. -/
theorem Interrupted.exists_mem (h : Interrupted p f groups first xs e) :
    (∃ x ∈ xs, x.posting.action = "DescribeSecurityGroups" ∧ x.outcome groupPage = .error e) ∨
      p.Unwritten .vpc "DescribeSecurityGroups" e := by
  cases h with
  | failed xs x e answered length asks fails =>
    exact .inl ⟨x, List.mem_append_right xs List.mem_cons_self, (Provider.Posts.asks asks).1, fails⟩
  | unwritten e why => exact .inr why

/-- **A pass** from the page of a number on: all groups from there on, or the failure that interrupts it. -/
def Pass (p : Provider) (f : GroupFilter) (groups : List ListedGroup) (first : Nat) (xs : List Exchange)
    (r : Except Failure (List ListedGroup)) : Prop :=
  (Complete p f groups first xs ∧ r = .ok (groups.drop (pageLimit * first))) ∨
    ∃ e, Interrupted p f groups first xs e ∧ r = .error e

end Provision.Vendor

namespace Provision.Provider

open Vendor

variable {p : Provider} {f : GroupFilter} {groups : List ListedGroup}

/-- How the page of a number is asked for: it comes back, or the request fails, or no request can be written. -/
theorem groupPage_cases (h : Lists p.out f groups) (i : Nat) (s : Session) :
    (∃ e, (p.groupPage f (pageLimit * i) s).1 = .error e ∧ p.Unwritten .vpc "DescribeSecurityGroups" e ∧
      (p.groupPage f (pageLimit * i) s).2.exchanges = s.exchanges) ∨
      ∃ x, (p.groupPage f (pageLimit * i) s).2.exchanges = x :: s.exchanges ∧ AsksPage p f i x ∧
        (p.groupPage f (pageLimit * i) s).1 = x.outcome Vendor.groupPage ∧
        (x.outcome Vendor.groupPage = .ok (page groups i) ∨ ∃ e, x.outcome Vendor.groupPage = .error e) := by
  rcases p.client.posting_fate .vpc "DescribeSecurityGroups" with ⟨e, he⟩ | hwritten
  · obtain ⟨hr, hs⟩ := invoke_of_error Vendor.groupPage (he (f.body (pageLimit * i))
      ((p.paced "DescribeSecurityGroups" s).second p.out))
    exact .inl ⟨e, hr, he, hs⟩
  · obtain ⟨x, hx⟩ := hwritten (f.body (pageLimit * i)) ((p.paced "DescribeSecurityGroups" s).second p.out)
    obtain ⟨hr, hs⟩ := invoke_of_posting Vendor.groupPage hx
    have hasks := Client.asks_of_posting hx (p.out.reply s.exchanges x)
    exact .inr ⟨_, hs, ⟨_, hx⟩, hr, h s.exchanges x _ _ (f.requests_body _ hasks.1 hasks.2)⟩

theorem groupsFrom_of_error {offset : Nat} {s t : Session} {e : Failure}
    (h : p.groupPage f offset s = (.error e, t)) : p.groupsFrom f offset s = (.error e, t) := by
  rw [groupsFrom, h]

/-- A page that is not full ends the pass. -/
theorem groupsFrom_of_last {offset : Nat} {s t : Session} {page : List ListedGroup}
    (h : p.groupPage f offset s = (.ok page, t)) (hshort : page.length < pageLimit) :
    p.groupsFrom f offset s = (.ok page, t) := by
  rw [groupsFrom, h]
  exact if_neg fun hfull => absurd hfull.1 (Nat.not_le.2 hshort)

/-- After a full page the pass goes on behind it. -/
theorem groupsFrom_of_full {offset : Nat} {s t : Session} {page : List ListedGroup}
    (h : p.groupPage f offset s = (.ok page, t)) (hfull : page.length = pageLimit)
    (hlen : offset + pageLimit ≤ Text.Decimal.maxNat64) :
    p.groupsFrom f offset s =
      ((p.groupsFrom f (offset + pageLimit) t).1.map (page ++ ·), (p.groupsFrom f (offset + pageLimit) t).2) := by
  rw [groupsFrom, h]
  simp only [hfull, Nat.le_refl, hlen, and_self, if_true]
  rcases p.groupsFrom f (offset + pageLimit) t with ⟨r, u⟩
  cases r with
  | error e => rfl
  | ok rest => rfl

/-- A pass is interrupted at once, or gets its first page. -/
theorem groupsFrom_cases (h : Lists p.out f groups) {first : Nat} (hfirst : first ≤ groups.length / pageLimit)
    (s : Session) :
    (∃ xs, (p.groupsFrom f (pageLimit * first) s).2.exchanges = xs ++ s.exchanges ∧
      Pass p f groups first xs.reverse (p.groupsFrom f (pageLimit * first) s).1) ∨
      ∃ x t, p.groupPage f (pageLimit * first) s = (.ok (page groups first), t) ∧ t.exchanges = x :: s.exchanges ∧
        AsksPage p f first x ∧ x.outcome Vendor.groupPage = .ok (page groups first) := by
  rcases hpage : p.groupPage f (pageLimit * first) s with ⟨r, t⟩
  have hcases := groupPage_cases h first s
  rw [hpage] at hcases
  rcases hcases with ⟨e, rfl, why, hs⟩ | ⟨x, hs, hasks, rfl, hx | ⟨e, hx⟩⟩
  · left
    rw [groupsFrom_of_error hpage]
    exact ⟨[], hs, .inr ⟨e, .unwritten e why, rfl⟩⟩
  · right
    rw [hx]
    exact ⟨x, t, rfl, hs, hasks, hx⟩
  · left
    rw [hx] at hpage
    rw [groupsFrom_of_error hpage]
    exact ⟨[x], hs, .inr ⟨e, .failed [] x e (.nil first) hfirst hasks hx, rfl⟩⟩

/-- **Every pass through the pages is complete or interrupted**; the induction is on the pages that are left. -/
theorem groupsFrom_pass (h : Lists p.out f groups) (hlen : groups.length ≤ Text.Decimal.maxNat64) (left : Nat) :
    ∀ first, first + left = groups.length / pageLimit →
      (p.groupsFrom f (pageLimit * first)).Ensures fun xs r => Pass p f groups first xs.reverse r := by
  induction left with
  | zero =>
    intro first hfirst s
    rw [Nat.add_zero] at hfirst
    rcases groupsFrom_cases h (Nat.le_of_eq hfirst) s with hcut | ⟨x, t, hpage, hs, hasks, hx⟩
    · exact hcut
    · rw [groupsFrom_of_last hpage (length_page_of_last hfirst)]
      refine ⟨[x], hs, .inl ⟨⟨(Answered.nil _).cons hasks hx, ?_⟩, ?_⟩⟩
      · rw [List.reverse_singleton, List.length_singleton, ← hfirst]
      · rw [page_of_last hfirst]
  | succ left ih =>
    intro first hfirst s
    have hlt : first < groups.length / pageLimit := by omega
    rcases groupsFrom_cases h (Nat.le_of_lt hlt) s with hcut | ⟨x, t, hpage, hs, hasks, hx⟩
    · exact hcut
    · have hroom : pageLimit * first + pageLimit ≤ Text.Decimal.maxNat64 := by
        simp only [pageLimit] at hlt ⊢
        omega
      rw [groupsFrom_of_full hpage (length_page_of_lt hlt) hroom]
      obtain ⟨xs, hxs, hpass⟩ := ih (first + 1) (by omega) t
      rw [Nat.mul_succ] at hxs hpass
      refine ⟨xs ++ [x], ?_, ?_⟩
      · rw [hxs, hs, List.append_assoc]
        rfl
      · show Pass p f groups first (xs ++ [x]).reverse _
        rw [List.reverse_append, List.reverse_singleton]
        rcases hpass with ⟨hcomplete, hr⟩ | ⟨e, hcut, hr⟩
        · refine .inl ⟨hcomplete.cons hasks hx, ?_⟩
          rw [hr, ← page_append groups first]
          rfl
        · refine .inr ⟨e, hcut.cons hasks hx, ?_⟩
          rw [hr]
          rfl

theorem listGroups_pass (h : Lists p.out f groups) (hlen : groups.length ≤ Text.Decimal.maxNat64) :
    (p.listGroups f).Ensures fun xs r => Pass p f groups 0 xs.reverse r :=
  groupsFrom_pass h hlen _ 0 (Nat.zero_add _)

/-- What is recorded of a pass is what was replied. -/
theorem listGroups_hears (p : Provider) (f : GroupFilter) : (p.listGroups f).Along (Session.Hears p.out) :=
  along_groupsFrom (fun _ => p.invoke_hears _ _ _ _) 0

/-- **A pass in which no request can fail gets all groups.** -/
theorem listGroups_of_answered (h : Lists p.out f groups) (hlen : groups.length ≤ Text.Decimal.maxNat64)
    (hwritten : ∀ e, ¬p.Unwritten .vpc "DescribeSecurityGroups" e) {s : Session}
    (hanswered : ∀ later x, x.action = "DescribeSecurityGroups" → ∀ e,
      (⟨x, p.out.reply (later ++ s.exchanges) x⟩ : Exchange).outcome Vendor.groupPage ≠ .error e) :
    (p.listGroups f s).1 = .ok groups := by
  obtain ⟨xs, hxs, ⟨-, hr⟩ | ⟨e, hcut, -⟩⟩ := listGroups_pass h hlen s
  · exact hr
  · have hall := ((listGroups_hears p f s).replied hxs).forall_mem
      (P := fun x => x.posting.action = "DescribeSecurityGroups" → ∀ e, x.outcome Vendor.groupPage ≠ .error e)
      hanswered
    rcases hcut.exists_mem with ⟨x, hx, haction, he⟩ | hno
    · exact absurd he (hall x (List.mem_reverse.1 hx) haction e)
    · exact absurd hno (hwritten e)

/-! ## Listings -/

/-- The listing of the groups of a filter, attempted within the budget of questions. -/
def listing (p : Provider) (f : GroupFilter) : Run (List ListedGroup) :=
  p.ask "DescribeSecurityGroups" (p.listGroups f)

/-- **The course of a listing**: its passes, of which all but the last are interrupted by failures that promise
something of another attempt. The last one is complete, or its failure is handed on, or it promises something too but
the time is over. -/
structure ListsAll (p : Provider) (f : GroupFilter) (groups : List ListedGroup) (s : Session) (repeated : Nat)
    (begun : Nat → Session) (sent : Nat → List Exchange) (result : Except Failure (List ListedGroup) × Session) :
    Prop where
  proceeds : Run.Proceeds p.out p.read "DescribeSecurityGroups" (p.listGroups f) s.now 1 p.read.initialDelay s repeated
    begun result
  exchanges : result.2.exchanges = ((List.range (repeated + 1)).flatMap sent).reverse ++ s.exchanges
  replied : p.out.Replied s.exchanges ((List.range (repeated + 1)).flatMap sent).reverse
  interrupted : ∀ i < repeated, ∃ e, Interrupted p f groups 0 (sent i) e ∧ e.retryable = true
  ends : (Complete p f groups 0 (sent repeated) ∧ result.1 = .ok groups) ∨
    (∃ e, Interrupted p f groups 0 (sent repeated) e ∧ e.retryable = false ∧ result.1 = .error e) ∨
    ∃ e, Interrupted p f groups 0 (sent repeated) e ∧ e.retryable = true ∧
      p.read.timeout < Run.elapsed p.out (p.listGroups f) s.now (1 + repeated) (begun repeated) +
        Run.pauseAfter p.out (p.listGroups f) (p.read.delays p.read.initialDelay repeated) (begun repeated) ∧
      result.1 = .error (.timedOut "DescribeSecurityGroups"
        (Run.elapsed p.out (p.listGroups f) s.now (1 + repeated) (begun repeated)) e)

/-- A failure that promises nothing of another attempt is the failure of the listing. -/
theorem ListsAll.of_final {s : Session} {repeated : Nat} {begun : Nat → Session} {sent : Nat → List Exchange}
    {result : Except Failure (List ListedGroup) × Session} (h : ListsAll p f groups s repeated begun sent result)
    {x : Exchange} (hx : x ∈ (List.range (repeated + 1)).flatMap sent) {e : Failure}
    (he : x.outcome Vendor.groupPage = .error e) (final : e.retryable = false) : result.1 = .error e := by
  obtain ⟨i, hi, hmem⟩ := List.mem_flatMap.1 hx
  have retried : ∀ e', Interrupted p f groups 0 (sent i) e' → e'.retryable = false := by
    intro e' hcut
    rw [← hcut.eq_of_mem hmem he]
    exact final
  rcases Nat.lt_or_eq_of_le (Nat.le_of_lt_succ (List.mem_range.1 hi)) with hlt | rfl
  · obtain ⟨e', hcut, hr⟩ := h.interrupted i hlt
    rw [retried e' hcut] at hr
    cases hr
  · rcases h.ends with ⟨hcomplete, -⟩ | ⟨e', hcut, -, hresult⟩ | ⟨e', hcut, hr, -⟩
    · obtain ⟨groups, hok⟩ := hcomplete.answered.outcome_of_mem hmem
      rw [he] at hok
      cases hok
    · rw [hresult, hcut.eq_of_mem hmem he]
    · rw [retried e' hcut] at hr
      cases hr

/-- **If requests can be written, every failure promises another attempt, and the time is not over, then the last pass
is complete.** -/
theorem ListsAll.of_promising {s : Session} {repeated : Nat} {begun : Nat → Session} {sent : Nat → List Exchange}
    {result : Except Failure (List ListedGroup) × Session} (h : ListsAll p f groups s repeated begun sent result)
    (hwritten : ∀ e, ¬p.Unwritten .vpc "DescribeSecurityGroups" e)
    (promising : ∀ x ∈ (List.range (repeated + 1)).flatMap sent, ∀ e, x.outcome Vendor.groupPage = .error e →
      e.retryable = true)
    (intime : ∀ operation elapsed last, result.1 ≠ .error (.timedOut operation elapsed last)) :
    Complete p f groups 0 (sent repeated) ∧ result.1 = .ok groups := by
  rcases h.ends with hcomplete | ⟨e, hcut, hfinal, -⟩ | ⟨e, -, -, -, hlate⟩
  · exact hcomplete
  · rcases hcut.exists_mem with ⟨x, hx, -, he⟩ | hno
    · have hmem : x ∈ (List.range (repeated + 1)).flatMap sent :=
        List.mem_flatMap.2 ⟨repeated, List.mem_range.2 (Nat.lt_succ_self repeated), hx⟩
      rw [promising x hmem e he] at hfinal
      cases hfinal
    · exact absurd hno (hwritten e)
  · exact absurd hlate (intime _ _ _)

theorem listing_listsAll (h : Lists p.out f groups) (hlen : groups.length ≤ Text.Decimal.maxNat64) (s : Session) :
    ∃ repeated begun sent, ListsAll p f groups s repeated begun sent (p.listing f s) := by
  obtain ⟨repeated, begun, hproceeds⟩ := Run.attempts_proceeds p.out p.read "DescribeSecurityGroups" (p.listGroups f)
    s.now 1 p.read.initialDelay s
  obtain ⟨sent, hsent, hexchanges⟩ := hproceeds.exchanges (listGroups_pass h hlen)
  have cut : ∀ {i e}, (p.listGroups f (begun i)).1 = .error e → Interrupted p f groups 0 (sent i) e := by
    intro i e he
    rcases hsent i with ⟨-, hok⟩ | ⟨e', hcut, he'⟩
    · rw [he] at hok
      cases hok
    · rw [he] at he'
      cases he'
      exact hcut
  have hreplied := ((listGroups_hears p f).retried (Run.waits_hears p.out "DescribeSecurityGroups") p.out p.read
    s).replied hexchanges
  refine ⟨repeated, begun, sent, hproceeds, hexchanges, hreplied, fun i hi => ?_, ?_⟩
  · obtain ⟨e, he, hr, -⟩ := hproceeds.repeats i hi
    exact ⟨e, cut he, hr⟩
  · rcases hproceeds.concludes with ⟨hfinal, hlast⟩ | ⟨e, he, hr, hlate, hlast⟩
    · rcases hsent repeated with ⟨hcomplete, hok⟩ | ⟨e, hcut, he⟩
      · refine .inl ⟨hcomplete, ?_⟩
        exact (congrArg Prod.fst hlast).trans hok
      · refine .inr (.inl ⟨e, hcut, Bool.eq_false_iff.2 fun hr => hfinal ⟨e, he, hr⟩, ?_⟩)
        exact (congrArg Prod.fst hlast).trans he
    · exact .inr (.inr ⟨e, cut he, hr, hlate, congrArg Prod.fst hlast⟩)

/-- **A listing gives all groups in their order, or a failure, and never a part of them**, whichever requests fail and
however often. A failure that promises nothing of another attempt is its result. If every failure promises one, and the
time is not over, then all groups are given, and the last pass asks for each page once. -/
theorem listing_complete (h : Lists p.out f groups) (hlen : groups.length ≤ Text.Decimal.maxNat64) (s : Session) :
    ∃ repeated begun sent, ListsAll p f groups s repeated begun sent (p.listing f s) ∧
      (∀ x ∈ (List.range (repeated + 1)).flatMap sent, ∀ e, x.outcome Vendor.groupPage = .error e →
        e.retryable = false → (p.listing f s).1 = .error e) ∧
      ((∀ e, ¬p.Unwritten .vpc "DescribeSecurityGroups" e) →
        (∀ x ∈ (List.range (repeated + 1)).flatMap sent, ∀ e, x.outcome Vendor.groupPage = .error e →
          e.retryable = true) →
        (∀ operation elapsed last, (p.listing f s).1 ≠ .error (.timedOut operation elapsed last)) →
        Complete p f groups 0 (sent repeated) ∧ (p.listing f s).1 = .ok groups) := by
  obtain ⟨repeated, begun, sent, hlists⟩ := listing_listsAll h hlen s
  exact ⟨repeated, begun, sent, hlists, fun x hx e he final => hlists.of_final hx he final, hlists.of_promising⟩

/-! ## A vendor -/

/-- A group that is told only by its identity and its project. -/
def plainGroup (id project : String) : ListedGroup := { id := some id, projectId := some project }

/-- Groups as a vendor writes them. -/
def pageContent (groups : List (String × String)) : Json :=
  .object [("SecurityGroupSet", .array (groups.map fun g =>
    .object [("ProjectId", .string g.2), ("SecurityGroupId", .string g.1)]))]

theorem outcome_pageContent {x : Posting} (groups : List (String × String)) :
    (⟨x, .telling (pageContent groups)⟩ : Exchange).outcome Vendor.groupPage =
      .ok (groups.map fun g => plainGroup g.1 g.2) := by
  refine Exchange.outcome_list listedGroup (fun g _ => ?_) (fun g _ => ?_) rfl (by decide) (by decide)
  · simp only [Json.Fits, Json.FitsMembers, and_self]
  · have hordered : Json.Ordered [("ProjectId", Json.string g.2), ("SecurityGroupId", Json.string g.1)] := by
      simp only [Json.Ordered, List.pairwise_cons, List.mem_singleton, forall_eq]
      exact ⟨by decide, by simp, .nil⟩
    rw [Json.told_object hordered]
    simp only [List.map_cons, List.map_nil, Json.told_string]
    rfl

/-- The number that a body has under a name. -/
def numberOf (name : String) (body : Json) : Nat := Nat.ofDigitChars 10 (body.textOf name).toList 0

theorem numberOf_text {name : String} {body : Json} {n : Nat}
    (h : body.get? name = some (.string (Text.Decimal.text n))) : numberOf name body = n := by
  have hdigits : (Text.Decimal.text n).toList = Nat.toDigits 10 n := String.toList_ofList
  rw [numberOf, Json.textOf, h]
  simp only [Option.bind_some, Json.asString?, Option.getD_some, hdigits]
  exact Nat.ofDigitChars_toDigits (by omega) (by omega)

/-- A vendor that answers at once. -/
theorem plain_still (reply : List Exchange → Posting → Reply) (position : Nat) :
    (Provider.plain reply position).Converses Session.Still where
  pace action s := by
    refine ⟨?_, rfl⟩
    show Slots.wake s.now s.now = s.now
    simp [Slots.wake]
  send x s := by
    rw [Run.send]
    cases (Provider.plain reply position).out.reply s.exchanges x <;> exact ⟨rfl, rfl⟩
  status _ _ _ := ⟨rfl, rfl⟩

/-- What a vendor says that lists groups, and answers other requests as a function says. It closes the connection of
the first request for a page. -/
def listed (groups : List (String × String)) (others : Posting → Reply) (earlier : List Exchange) (x : Posting) :
    Reply :=
  if x.action = "DescribeSecurityGroups" then
    if earlier.isEmpty then .closed
    else .telling (pageContent ((groups.drop (numberOf "Offset" x.body)).take (numberOf "Limit" x.body)))
  else others x

/-- A vendor that lists groups, and closes the connection of the first request for a page. -/
def lister (groups : List (String × String)) (others : Posting → Reply := fun _ => .closed) (position : Nat := 0) :
    Provider := .plain (listed groups others) position

section Lister

variable {listing : List (String × String)} {others : Posting → Reply} {position : Nat} {s : Session}

/-- Every page but the first one is told at once. -/
theorem listed_of_later {earlier : List Exchange} (hearlier : earlier.isEmpty = false) {x : Posting}
    (hx : x.action = "DescribeSecurityGroups") : listed listing others earlier x =
      .telling (pageContent ((listing.drop (numberOf "Offset" x.body)).take (numberOf "Limit" x.body))) := by
  rw [listed, hearlier, if_pos hx, if_neg Bool.false_ne_true]

theorem lister_lists (f : GroupFilter) :
    Lists (lister listing others position).out f (listing.map fun g => plainGroup g.1 g.2) := by
  intro earlier x offset limit hx
  show (⟨x, listed listing others earlier x⟩ : Exchange).outcome _ = _ ∨
    ∃ e, (⟨x, listed listing others earlier x⟩ : Exchange).outcome _ = _
  cases hearlier : earlier.isEmpty with
  | true =>
    refine .inr ⟨.unanswered, ?_⟩
    rw [listed, hearlier, if_pos hx.action]
    rfl
  | false =>
    left
    rw [listed_of_later hearlier hx.action, numberOf_text hx.offset, numberOf_text hx.limit, outcome_pageContent,
      List.map_take, List.map_drop]

/-- Requests of a listing take no time if the vendor answers at once. -/
theorem listGroups_still (reply : List Exchange → Posting → Reply) (position : Nat) (f : GroupFilter) :
    ((Provider.plain reply position).listGroups f).Along Session.Still :=
  along_groupsFrom (fun _ => (plain_still reply position).invoke (fun _ => ⟨rfl, rfl⟩) fun _ _ _ _ => ⟨rfl, rfl⟩) 0

/-- The first pass gets no answer. -/
theorem listGroups_lister_first (listing : List (String × String)) (others : Posting → Reply) (position : Nat)
    (f : GroupFilter) (hs : s.exchanges = []) :
    ∃ x t, (lister listing others position).listGroups f s = (.error .unanswered, t) ∧ t.exchanges = [x] := by
  have hwritable : (lister listing others position).client.Writable := Client.plain_writable
  obtain ⟨x, hx⟩ := hwritable.posting (by decide : Client.isHeaderValue "DescribeSecurityGroups" = true) .vpc (f.body 0)
    (((lister listing others position).paced "DescribeSecurityGroups" s).second (lister listing others position).out)
  obtain ⟨hr, hexchanges⟩ := invoke_of_posting Vendor.groupPage hx
  have hclosed : (lister listing others position).out.reply s.exchanges x = .closed := by
    rw [hs]
    exact if_pos (Client.asks_of_posting hx .closed).1
  rw [hclosed] at hr hexchanges
  rw [hs] at hexchanges
  exact ⟨_, _, groupsFrom_of_error (Prod.ext hr rfl), hexchanges⟩

/-- A pass that is not the first one gets all groups. -/
theorem listGroups_lister_later (hlen : listing.length ≤ Text.Decimal.maxNat64) (f : GroupFilter) {x : Exchange}
    (hs : s.exchanges = [x]) :
    ((lister listing others position).listGroups f s).1 = .ok (listing.map fun g => plainGroup g.1 g.2) := by
  have hwritable : (lister listing others position).client.Writable := Client.plain_writable
  refine listGroups_of_answered (lister_lists f) (by rwa [List.length_map]) (hwritable.not_unwritten (by decide))
    fun later y hy e he => ?_
  have hlater : (later ++ s.exchanges).isEmpty = false := by
    rw [hs]
    cases later <;> rfl
  have hreply : (lister listing others position).out.reply (later ++ s.exchanges) y = .telling (pageContent
      ((listing.drop (numberOf "Offset" y.body)).take (numberOf "Limit" y.body))) := listed_of_later hlater hy
  rw [hreply, outcome_pageContent] at he
  cases he

/-- If the first pass of a listing gets no answer from a vendor that answers at once, there is time for a second one. -/
theorem listing_of_second {reply : List Exchange → Posting → Reply} {f : GroupFilter} {t : Session}
    {groups : List ListedGroup} (hfirst : (Provider.plain reply position).listGroups f {} = (.error .unanswered, t))
    (hsecond : ∀ s : Session, s.exchanges = t.exchanges →
      ((Provider.plain reply position).listGroups f s).1 = .ok groups) :
    ((Provider.plain reply position).listing f {}).1 = .ok groups := by
  have hstill := listGroups_still reply position f {}
  -- a nanosecond passes and half a second is waited for, which fits in three minutes
  have hpause : Run.pauseAfter (Provider.plain reply position).out ((Provider.plain reply position).listGroups f)
      (500 * Time.millisecond : Nat) {} = 500 * Time.millisecond := by
    have hstretch : Jitter.none.stretch (500 * Time.millisecond : Nat) = 500 * Time.millisecond := by decide +kernel
    exact hstretch
  have helapsed : Run.elapsed (Provider.plain reply position).out ((Provider.plain reply position).listGroups f) 0 1
      {} = 1 := by
    rw [Run.elapsed, Run.judged, Session.later, Session.notBefore, hstill.1]
    rfl
  have hfits : Run.elapsed (Provider.plain reply position).out ((Provider.plain reply position).listGroups f) 0 1 {} +
      Run.pauseAfter (Provider.plain reply position).out ((Provider.plain reply position).listGroups f)
        (500 * Time.millisecond : Nat) {} ≤ (Provider.plain reply position).read.timeout := by
    rw [helapsed, hpause]
    exact (by decide : 1 + 500 * Time.millisecond ≤ Budget.readTimeout)
  obtain ⟨next, hrepeats, hagain⟩ :=
    Run.attempts_of_fits (Provider.plain reply position).read "DescribeSecurityGroups" hfirst rfl hfits
  show (Run.attempts (Provider.plain reply position).out (Provider.plain reply position).read "DescribeSecurityGroups"
    ((Provider.plain reply position).listGroups f) 0 1 (500 * Time.millisecond : Nat) {}).1 = _
  rw [hagain, Run.attempts_of_ok (Prod.ext (hsecond next (by rw [hrepeats.exchanges, hfirst])) rfl)]

/-- **The first pass gets no answer, and the second one gets all groups.** -/
theorem listing_lister (hlen : listing.length ≤ Text.Decimal.maxNat64) (f : GroupFilter) :
    ((lister listing others position).listing f {}).1 = .ok (listing.map fun g => plainGroup g.1 g.2) := by
  obtain ⟨x, t, hfirst, hx⟩ := listGroups_lister_first listing others position (s := {}) f rfl
  exact listing_of_second hfirst fun s hs => listGroups_lister_later hlen f (hs.trans hx)

end Lister

/-- Groups for two pages. -/
def twoPages : List (String × String) := (List.range 101).map fun (i : Nat) => (Text.Decimal.text i, "0")

/-- **A listing of two pages whose first request fails** gives all groups after a second pass of two requests. -/
theorem listing_complete_lister :
    ((lister twoPages).listing {} {}).1 = .ok (twoPages.map fun g => plainGroup g.1 g.2) ∧
      ∃ repeated begun sent, ListsAll (lister twoPages) {} (twoPages.map fun g => plainGroup g.1 g.2) {} repeated begun
          sent ((lister twoPages).listing {} {}) ∧
        ∃ x y, sent repeated = [x, y] ∧ x.posting.body.textOf "Offset" = "0" ∧
          y.posting.body.textOf "Offset" = "100" := by
  have hlength : twoPages.length = 101 := by rw [twoPages, List.length_map, List.length_range]
  have hmap : (twoPages.map fun g => plainGroup g.1 g.2).length = 101 := by rw [List.length_map, hlength]
  have hlen : 101 ≤ Text.Decimal.maxNat64 := by decide
  have hlist : ((lister twoPages).listing {} {}).1 = .ok (twoPages.map fun g => plainGroup g.1 g.2) :=
    listing_lister (hlength.trans_le hlen) {}
  obtain ⟨repeated, begun, sent, hlists, -, -⟩ := listing_complete (lister_lists {}) (hmap.trans_le hlen) {}
  refine ⟨hlist, repeated, begun, sent, hlists, ?_⟩
  rcases hlists.ends with ⟨hcomplete, -⟩ | ⟨e, -, -, herror⟩ | ⟨e, -, -, -, herror⟩
  · have hlength := hcomplete.length
    rw [hmap, Nat.zero_add] at hlength
    obtain ⟨x, y, hsent⟩ := List.length_eq_two.1 hlength
    have hanswered := hcomplete.answered
    rw [hsent] at hanswered
    have hx := hanswered 0 Nat.zero_lt_two
    have hy := hanswered 1 Nat.one_lt_two
    have hpages : Text.Decimal.text (pageLimit * (0 + 0)) = "0" ∧ Text.Decimal.text (pageLimit * (0 + 1)) = "100" := by
      decide
    exact ⟨x, y, hsent, hx.1.offset.trans hpages.1, hy.1.offset.trans hpages.2⟩
  · rw [hlist] at herror
    cases herror
  · rw [hlist] at herror
    cases herror

end Provision.Provider
