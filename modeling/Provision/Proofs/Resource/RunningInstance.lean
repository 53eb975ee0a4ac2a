import Provision.Proofs.Resource.Announced
import Provision.Proofs.Vendor.Answers

/-!
# An instance that was created is running

A creation of an instance goes through three calls that are repeated as long as there is time: the request to create,
the wait until the instance runs, and the look-up of what the vendor made of it. Each of them succeeds with its last
answer (`Settled.exists_cons`), so the stages follow each other among the exchanges (`exists_of_create`). Main
statement: a creation that succeeds was accepted once, saw the instance run after that, and took over what the last
answer tells of it (`creation_launched`).
-/

namespace Provision

open Vendor

/-- The vendor answered a request of an action with a content, and not with an error. -/
def Exchange.accepts (action : String) (x : Exchange) : Bool := x.posting.action == action && x.content.toOption.isSome

/-- An answer after which another attempt is made has no content: one that cannot be read is final. -/
theorem Exchange.not_accepts_of_transient {α : Type} {answer : Json.Record α} {x : Exchange}
    (h : Transient (x.outcome answer)) (action : String) : x.accepts action = false := by
  obtain ⟨e, he, hretry⟩ := h
  rw [Exchange.outcome] at he
  cases hc : x.content with
  | error _ => simp [accepts, hc, Except.toOption]
  | ok content =>
    rw [hc, Except.bind, Provider.readContent] at he
    cases hv : answer.ofValue content with
    | ok a =>
      rw [hv] at he
      cases he
    | error why =>
      rw [hv] at he
      cases he
      cases hretry

theorem Exchange.accepts_of_outcome {α : Type} {answer : Json.Record α} {x : Exchange} {a : α} {action : String}
    (hx : x.posting.action = action) (h : x.outcome answer = .ok a) : x.accepts action = true := by
  rw [Exchange.outcome] at h
  cases hc : x.content with
  | error e =>
    rw [hc] at h
    cases h
  | ok content => simp [accepts, hx, hc, Except.toOption]

/-- Of requests, the accepted ones are found among those of the action. -/
theorem Exchange.filter_accepts {action : String} {later tried : List Exchange} {made : Exchange}
    (hlater : ∀ x ∈ later, x.posting.action ≠ action) (hmade : made.accepts action = true)
    (htried : ∀ x ∈ tried, x.accepts action = false) : (later ++ made :: tried).filter (·.accepts action) = [made] := by
  have hnone : later.filter (·.accepts action) = [] := by
    refine List.filter_eq_nil_iff.2 fun x hx haccepts => hlater x hx ?_
    rw [accepts, Bool.and_eq_true, beq_iff_eq] at haccepts
    exact haccepts.1
  have hrefused : tried.filter (·.accepts action) = [] := by
    refine List.filter_eq_nil_iff.2 fun x hx => ?_
    rw [htried x hx]
    exact Bool.false_ne_true
  rw [List.filter_append, hnone, List.filter_cons_of_pos hmade, hrefused]
  rfl

namespace Instance

variable {p : Provider} {billing : Billing} {i : Instance} {id : String}

/-- An answer whose first identifier that is not empty is that of an instance. -/
def Names (id : String) (x : Exchange) : Prop :=
  ∃ ids, x.outcome createdInstances = .ok ids ∧ ids.find? (· ≠ "") = some id

/-- An answer whose first instance is running. -/
def FindsRunning (x : Exchange) : Prop :=
  ∃ listed, x.outcome instanceList = .ok listed ∧ listed.head?.bind (·.status) = some running

/-- An answer whose first instance was not destroyed and, together with what was configured, is what is known now. -/
def TellsOf (configured known : Instance) (x : Exchange) : Prop :=
  ∃ listed first, x.outcome instanceList = .ok listed ∧ listed.head? = some first ∧ first.status ≠ some destroyed ∧
    known = configured.merge first

theorem findsRunning_of_readiness {x : Exchange} (h : readiness id x = .ok ()) : FindsRunning x := by
  rw [readiness] at h
  cases hx : x.outcome instanceList with
  | error e =>
    rw [hx] at h
    cases h
  | ok listed =>
    rw [hx, Except.bind] at h
    split at h
    · rename_i hstatus
      refine ⟨listed, hx, ?_⟩
      -- an answer without a status counts as one with a status that no running instance has
      rw [statusOf] at hstatus
      cases hs : listed.head?.bind (·.status) with
      | none =>
        rw [hs] at hstatus
        cases hstatus
      | some status =>
        rw [hs] at hstatus
        exact congrArg some hstatus
    · cases h

/-- A request about an instance. -/
def AsksOf (id : String) (x : Exchange) : Prop := x.Asks "DescribeDCDBInstances" (Provider.instanceQuestion id)

/-- A creation of the vendor's that succeeds: requests to create, of which the last is accepted, and then questions, of
which the last finds the instance running. -/
theorem exists_of_create {s t : Session} (h : create billing p i s = (.ok id, t)) :
    ∃ ready polled made tried, t.exchanges = (ready :: polled ++ made :: tried) ++ s.exchanges ∧
      (∀ x ∈ made :: tried, x.Asks billing.createAction (i.creationBody billing)) ∧
      (∀ x ∈ tried, x.accepts billing.createAction = false) ∧ Names id made ∧ (∀ x ∈ ready :: polled, AsksOf id x) ∧
      FindsRunning ready := by
  obtain ⟨xs, hxs, calls, created, hcalled, hcreated⟩ := (create_ensures : (create billing p i).Ensures _) s
  rw [h] at hxs hcreated
  cases created with
  | error e => cases hcreated.2
  | ok ids =>
    dsimp only at hcreated
    cases hid : ids.find? (· ≠ "") with
    | none =>
      rw [hid] at hcreated
      cases hcreated.2
    | some named =>
      rw [hid] at hcreated
      obtain ⟨polls, awaited, rfl, hawaited, hresult⟩ := hcreated
      cases awaited with
      | error e => cases hresult
      | ok _ =>
        cases hresult
        obtain ⟨made, tried, rfl, hmade, htried⟩ := hcalled.settled.exists_cons
        obtain ⟨ready, polled, rfl, hrunning, -⟩ := hawaited.settled.exists_cons
        have hrefused : ∀ x ∈ tried, x.accepts billing.createAction = false :=
          fun x hx => Exchange.not_accepts_of_transient (htried x hx) billing.createAction
        exact ⟨ready, polled, made, tried, hxs, hcalled.asks, hrefused, ⟨ids, hmade, hid⟩, hawaited.asks,
          findsRunning_of_readiness hrunning⟩

/-- A look-up that finds an instance: questions, of which the last tells what is taken over. -/
theorem exists_of_read {known : Instance} {s t : Session} (h : read p id i s = (.ok (some known), t)) :
    ∃ shown asked, t.exchanges = shown :: asked ++ s.exchanges ∧ (∀ x ∈ shown :: asked, AsksOf id x) ∧
      TellsOf i known shown := by
  obtain ⟨xs, hxs, called, hcalled, hr⟩ := (read_ensures : (read p id i).Ensures _) s
  rw [h] at hxs hr
  cases called with
  | error e => cases hr
  | ok listed =>
    obtain ⟨shown, asked, rfl, hshown, -⟩ := hcalled.settled.exists_cons
    have hfound : found i listed = some known := (Except.ok.inj hr).symm
    obtain ⟨first, hfirst, rfl⟩ := Option.map_eq_some_iff.1 hfound
    obtain ⟨hhead, hstatus⟩ := Option.filter_eq_some_iff.1 hfirst
    exact ⟨shown, asked, hxs, hcalled.asks, listed, first, hshown, hhead, by simpa using hstatus, rfl⟩

/-- **What a creation that succeeds adds**, with the request that was accepted, the answer that finds the instance
running, and the last one. -/
structure Launched (billing : Billing) (config : Instance) (now : ResourceState Instance) (xs : List Exchange)
    (made ready shown : Exchange) : Prop where
  /-- One request to create succeeded. -/
  once : xs.filter (·.accepts billing.createAction) = [made]
  /-- All requests to create have one body. -/
  bodies : ∀ x ∈ xs, x.posting.action = billing.createAction → x.posting.body = config.creationBody billing
  named : Names now.id made
  /-- After it come only questions about the new instance. -/
  order : ∃ asked polled tried, xs = shown :: asked ++ ready :: polled ++ made :: tried ∧
    ∀ x ∈ shown :: asked ++ ready :: polled, AsksOf now.id x
  running : FindsRunning ready
  told : TellsOf config now.attributes shown

/-- **A creation of an instance succeeds only when the instance runs**, whatever the vendor answers. -/
theorem creation_launched {config : Instance} {now : ResourceState Instance} {s t : Session}
    (h : (resource billing).createFrom p config s = (.ok now, t)) :
    ∃ xs made ready shown, t.exchanges = xs ++ s.exchanges ∧ Launched billing config now xs made ready shown := by
  rcases (resource billing).createFrom_cases p config s with ⟨e, u, he⟩ | ⟨id, u, _, v, hcreate, hrefresh, hfrom⟩
  · rw [he] at h
    cases h
  · rw [hfrom] at h
    cases h
    obtain ⟨ready, polled, made, tried, hu, hasks, htried, hnames, hpolled, hready⟩ := exists_of_create hcreate
    obtain ⟨-, hnow, hread⟩ := Resource.read_of_refresh hrefresh
    obtain ⟨shown, asked, hv, hasked, htold⟩ := exists_of_read hread
    have hquestions : ∀ x ∈ shown :: asked ++ ready :: polled, AsksOf now.id x := by
      intro x hx
      rw [hnow]
      exact (List.mem_append.1 hx).elim (hasked x) (hpolled x)
    have hother : ∀ x ∈ shown :: asked ++ ready :: polled, x.posting.action ≠ billing.createAction := by
      intro x hx heq
      exact Kind.question_ne_creation (k := .instance billing) ((hquestions x hx).1.symm.trans heq)
    have hmade : made.accepts billing.createAction = true := by
      obtain ⟨ids, hids, -⟩ := hnames
      exact Exchange.accepts_of_outcome (hasks made List.mem_cons_self).1 hids
    refine ⟨shown :: asked ++ ready :: polled ++ made :: tried, made, ready, shown, ?_,
      Exchange.filter_accepts hother hmade htried, fun x hx haction => ?_, hnow ▸ hnames,
      ⟨asked, polled, tried, rfl, hquestions⟩, hready, htold⟩
    · rw [hv, hu]
      simp only [List.append_assoc, List.cons_append]
    · rcases List.mem_append.1 hx with hx | hx
      · exact absurd haction (hother x hx)
      · exact (hasks x hx).2

/-! ## A vendor with a running instance -/

/-- What the vendor says of everything: the identifier of a new instance, and an instance that is running. -/
def runningContent : Json := .object [
  ("InstanceIds", .array [.string "", .string "dcdbt-1"]),
  ("Instances", .array [.object [("Status", .int running)]])]

/-- An answer with it. -/
def runningText : String := (Json.object [("Response", runningContent)]).pretty

theorem fits_running : Json.Fits 126 runningContent := by
  simp only [runningContent, Json.Fits, Json.FitsMembers, Json.FitsItems, Number.Legible, Json.Readable]
  decide

theorem outcome_created (x : Posting) : (⟨x, .answer 200 runningText⟩ : Exchange).outcome createdInstances =
    .ok ["", "dcdbt-1"] :=
  (Exchange.outcome_telling fits_running (by decide) createdInstances).trans rfl

theorem outcome_running (x : Posting) : (⟨x, .answer 200 runningText⟩ : Exchange).outcome instanceList =
    .ok [{ status := some running }] :=
  (Exchange.outcome_telling fits_running (by decide) instanceList).trans rfl

/-- Such a vendor takes one request to create and two questions. -/
theorem createFrom_of_running :
    ∃ now t, (resource .hourly).createFrom (.saying runningText) tagged {} = (.ok now, t) := by
  have creation : Client.isHeaderValue Billing.hourly.createAction = true := by decide
  have question : Client.isHeaderValue "DescribeDCDBInstances" = true := by decide
  obtain ⟨-, t, -, -, haccepted, -⟩ := Provider.retried_of_saying creation outcome_created .dcdb
    (tagged.creationBody .hourly) (Provider.saying runningText).write Billing.hourly.createAction {}
  obtain ⟨-, u, -, -, hasked, -⟩ := Provider.invoke_of_asked (p := .saying runningText) (s := t)
    Client.plain_writable question
    (fun x (_ : Exchange.Asks _ (Provider.instanceQuestion "dcdbt-1") _) => outcome_running x) .dcdb
  obtain ⟨-, v, -, -, hfound, -⟩ := Provider.retried_of_saying question outcome_running .dcdb
    (Provider.instanceQuestion "dcdbt-1") (Provider.saying runningText).read "DescribeDCDBInstances" u
  have hpoll : poll (.saying runningText) "dcdbt-1" t = (.ok (), u) := Run.bind_ok hasked
  have hwait : waitRunning (.saying runningText) "dcdbt-1" t = (.ok (), u) :=
    Run.retried_of_final hpoll (not_transient_ok ()) _ _ _
  have hcreate : create .hourly (.saying runningText) tagged {} = (.ok "dcdbt-1", u) :=
    (Run.bind_ok haccepted).trans (Run.bind_ok hwait)
  have hread : read (.saying runningText) "dcdbt-1" tagged u =
      (.ok (some (tagged.merge { status := some running })), v) := by
    rw [read_eq]
    exact Run.bind_ok hfound
  have hrefresh : (resource .hourly).refresh (.saying runningText) ⟨"dcdbt-1", tagged⟩ u =
      ⟨.ok (), ⟨"dcdbt-1", tagged.merge { status := some running }⟩, v⟩ := Resource.refresh_of_some (by decide) hread
  exact ⟨_, v, Resource.createFrom_of_refresh check_tagged hcreate hrefresh⟩

/-- An instance that is paid by the hour, created by a vendor that says at once that it runs. -/
theorem creation_launched_tagged : ∃ now t made ready shown,
    (resource .hourly).createFrom (.saying runningText) tagged {} = (.ok now, t) ∧
      Launched .hourly tagged now t.exchanges made ready shown := by
  obtain ⟨now, t, hcreated⟩ := createFrom_of_running
  obtain ⟨xs, made, ready, shown, hxs, hlaunched⟩ := creation_launched hcreated
  have hxs : t.exchanges = xs := hxs.trans (List.append_nil xs)
  exact ⟨now, t, made, ready, shown, hcreated, hxs ▸ hlaunched⟩

end Instance

end Provision
