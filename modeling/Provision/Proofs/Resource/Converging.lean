import Provision.Proofs.Resource.Coherence
import Provision.Proofs.Resource.Failing
import Provision.Proofs.Resource.Reached

/-!
# Applications converge

If an application succeeds, and what the vendor tells at its end agrees with the configuration, then all that is known
agrees with the configuration, and the same answer shows it again (`Kind.Converged`). Main statement: nothing is left
to plan then, and while the vendor tells the same, another application only asks and leaves the document as it is
(`Kind.apply_converges`). The vendor must not name another instance than the configuration does: an account that was
changed in place is looked up by its identity, and if that has another instance, which the vendor named otherwise
before the change and does not name after it, then the next plan is refused (`Account.apply_diverges`).
-/

namespace Provision

open Json Vendor

/-! ## Answers that agree -/

namespace Account

variable {a b : Account} {id instanceId userName : String} {xs : List Exchange} {accounts : AccountList}

/-- No answer to a creation names another instance than that of the account; and if the account was changed in place,
then its identity has that instance, or the list names it. -/
structure NamesInstance (a : Account) (id : String) (accounts : AccountList) (xs : List Exchange) : Prop where
  created : ∀ x ∈ xs, x.posting.action = "CreateAccount" → ∀ named, x.outcome createdAccount = .ok named →
    NamesOnly a.instanceId named
  changed : ∀ x ∈ xs, x.posting.action = "ModifyAccountDescription" → ∀ instanceId userName,
    parts id = .ok (instanceId, userName) → instanceId = a.instanceId ∨ accounts.instanceId = some a.instanceId

theorem instanceOr_of_named (hne : a.instanceId ≠ "") (hnames : NamesOnly a.instanceId accounts.instanceId)
    (h : instanceId = a.instanceId ∨ accounts.instanceId = some a.instanceId) :
    instanceOr accounts.instanceId instanceId = a.instanceId := by
  rcases h with rfl | h
  · exact instanceOr_of_namesOnly hnames
  · rw [h]
    simp [instanceOr, Option.filter, hne]

/-- A look-up by an identity with the user name and the instance of an account, answered in agreement with it. -/
theorem unchanged_of_shown (hcheck : resource.check (resource.toJson a) = .ok ()) (hagrees : a.Agrees accounts)
    (hid : ∀ instanceId userName, parts id = .ok (instanceId, userName) →
      userName = a.userName ∧ (instanceId = a.instanceId ∨ accounts.instanceId = some a.instanceId))
    (h : shown accounts id a = some b) : schema.changedFields (toJson b) (toJson a) = [] := by
  obtain ⟨instanceId, userName, hparts, hfound⟩ := parts_of_shown h
  obtain ⟨rfl, hinstance⟩ := hid instanceId userName hparts
  obtain ⟨listed, hlisted, rfl⟩ := Option.map_eq_some_iff.1 hfound
  rw [instanceOr_of_named (named_of_check hcheck).1 hagrees.named hinstance]
  exact unchanged_merge (hagrees.confirmed listed hlisted)

theorem outcome_of_acceptedBy {x : Exchange} (h : acceptedBy a x = some id) : ∃ named,
    x.outcome createdAccount = .ok named ∧ id = identity (instanceOr named a.instanceId) a.userName := by
  rw [acceptedBy] at h
  cases hout : x.outcome createdAccount with
  | error e =>
    rw [hout] at h
    cases h
  | ok named =>
    rw [hout] at h
    exact ⟨named, rfl, (Option.some.inj h).symm⟩

/-- The identity of a created account has the instance and the user name of the configuration. -/
theorem parts_of_created (hcheck : resource.check (resource.toJson a) = .ok ()) {x : Exchange}
    (hx : acceptedBy a x = some id)
    (hnames : ∀ named, x.outcome createdAccount = .ok named → NamesOnly a.instanceId named)
    (hparts : parts id = .ok (instanceId, userName)) : instanceId = a.instanceId ∧ userName = a.userName := by
  obtain ⟨hi, hu⟩ := named_of_check hcheck
  obtain ⟨named, hnamed, rfl⟩ := outcome_of_acceptedBy hx
  rw [instanceOr_of_namesOnly (hnames named hnamed)] at hparts
  have hsplit : Identity.split? 2 (identity a.instanceId a.userName) = some [instanceId, userName] :=
    parts_eq_ok_iff.1 hparts
  have hsame := (split?_identity_iff hi hu).2 (Identity.not_mem_of_split?_join hsplit)
  rw [hsplit] at hsame
  simpa using hsame

/-- The user name of an account that was found and only needs changes in place is the desired one. -/
theorem userName_of_changes {p : Provider} {s : Session} {found : Account} {names : List String}
    (hlook : (read p id b s).1 = .ok (some found)) (hchanges : resource.changes ⟨id, found⟩ a = .ok names)
    (hparts : parts id = .ok (instanceId, userName)) : userName = a.userName := by
  obtain ⟨_, -, htaken⟩ := read_takesOver p id b s
  obtain ⟨_, hid⟩ := coherent_of_takenOver (htaken found hlook)
  rw [parts_eq_ok_iff.1 hparts] at hid
  obtain ⟨-, rfl⟩ : instanceId = _ ∧ userName = found.userName := by simpa using hid
  exact Resource.text_eq_of_fixed hchanges (by decide : schema.Fixes "user_name" .string) (get?_userName found)
    (get?_userName a)

theorem unchanged_of_reached {p : Provider} {st now : ResourceState Account} {s : Session}
    (hcheck : resource.check (resource.toJson a) = .ok ()) (h : Kind.account.Reached p st a s xs now)
    (hlast : ∀ x, xs.head? = some x → x.Tells accountList accounts) (hagrees : a.Agrees accounts)
    (hnames : a.NamesInstance st.id accounts xs) :
    schema.changedFields (toJson now.attributes) (toJson a) = [] := by
  cases h with
  | kept known same shown => exact same
  | changed found names look changes sent id shown =>
    obtain ⟨x, hx, haction⟩ := sent
    obtain ⟨y, hy, htells⟩ := shown.last
    refine unchanged_of_shown hcheck hagrees (fun instanceId userName hparts => ?_) (htells accounts (hlast y hy))
    rw [id] at hparts
    exact ⟨userName_of_changes look changes hparts,
      hnames.changed x hx (Option.some.inj haction).symm instanceId userName hparts⟩
  | created accepted shown =>
    obtain ⟨x, hx, hcreated⟩ := accepted
    obtain ⟨y, hy, htells⟩ := shown.last
    have haction : x.posting.action = "CreateAccount" := Kind.action_of_createdBy hcreated
    refine unchanged_of_shown hcheck hagrees (fun instanceId userName hparts => ?_) (htells accounts (hlast y hy))
    obtain ⟨hi, hu⟩ := parts_of_created hcheck (Kind.acceptedBy_of_createdBy hcreated) (hnames.created x hx haction)
      hparts
    exact ⟨hu, .inl hi⟩

end Account

namespace Instance

variable {billing : Billing} {i j : Instance} {listed : List ListedInstance}

theorem unchanged_of_shown (hcheck : (resource billing).check ((resource billing).toJson i) = .ok ())
    (hagrees : i.Agrees listed) (h : found i listed = some j) :
    (schema billing).changedFields (toJson j) (toJson i) = [] := by
  obtain ⟨first, hfirst, rfl⟩ := Option.map_eq_some_iff.1 h
  obtain ⟨hhead, -⟩ := Option.filter_eq_some_iff.1 hfirst
  exact unchanged_merge (hagrees first hhead) hcheck

theorem unchanged_of_reached {p : Provider} {st now : ResourceState Instance} {s : Session} {xs : List Exchange}
    (hcheck : (resource billing).check ((resource billing).toJson i) = .ok ())
    (h : (Kind.instance billing).Reached p st i s xs now)
    (hlast : ∀ x, xs.head? = some x → x.Tells instanceList listed) (hagrees : i.Agrees listed) :
    (schema billing).changedFields (toJson now.attributes) (toJson i) = [] := by
  have hshown : (Kind.instance billing).ShownBy i xs now →
      (schema billing).changedFields (toJson now.attributes) (toJson i) = [] := by
    intro shown
    obtain ⟨y, hy, htells⟩ := shown.last
    exact unchanged_of_shown hcheck hagrees (htells listed (hlast y hy))
  cases h with
  | kept known same shown => exact same
  | changed found names look changes sent id shown => exact hshown shown
  | created accepted shown => exact hshown shown

end Instance

namespace Kind

variable {k : Kind} {p : Provider} {st now : ResourceState k.Config} {a desired : k.Config} {s : Session}
  {xs : List Exchange} {told : k.Answer}

/-- **An answer agrees with a configuration.** -/
def Agrees : (k : Kind) → k.Config → k.Answer → Prop
  | .account, a, accounts => Account.Agrees a accounts
  | .instance _, i, listed => Instance.Agrees i listed
  | .attachment, _, _ => True

/-- The vendor names no other instance than a configuration does, which only matters for accounts. -/
def NamesInstance : (k : Kind) → k.Config → String → k.Answer → List Exchange → Prop
  | .account, a, id, accounts, xs => Account.NamesInstance a id accounts xs
  | .instance _, _, _, _, _ => True
  | .attachment, _, _, _, _ => True

/-- **What is known of a resource is as desired, and stays so while this is told.** -/
structure Converged (k : Kind) (told : k.Answer) (desired : k.Config) (now : ResourceState k.Config) : Prop where
  present : now.present = true
  shown : k.shown told now.id now.attributes = some now.attributes
  unchanged : k.changed now desired = []

theorem Reached.shownBy (h : k.Reached p st desired s xs now) : ∃ a, k.ShownBy a xs now := by
  cases h with
  | kept a same shown => exact ⟨a, shown⟩
  | changed found names look changes sent id shown => exact ⟨desired, shown⟩
  | created accepted shown => exact ⟨desired, shown⟩

theorem Reached.unchanged : ∀ {k : Kind} {st now : ResourceState k.Config} {desired : k.Config} {told : k.Answer},
    k ≠ .attachment → k.resource.check (k.resource.toJson desired) = .ok () → k.Reached p st desired s xs now →
    (∀ x, xs.head? = some x → x.Tells k.answer told) → k.Agrees desired told → k.NamesInstance desired st.id told xs →
    k.changed now desired = []
  | .account, _, _, _, _, _, hcheck, h, hlast, hagrees, hnames =>
    Account.unchanged_of_reached hcheck h hlast hagrees hnames
  | .instance _, _, _, _, _, _, hcheck, h, hlast, hagrees, _ => Instance.unchanged_of_reached hcheck h hlast hagrees
  | .attachment, _, _, _, _, hk, _, _, _, _, _ => absurd rfl hk

theorem Reached.converged (h : k.Reached p st desired s xs now) (hk : k ≠ .attachment)
    (hcheck : k.resource.check (k.resource.toJson desired) = .ok ())
    (hlast : ∀ x, xs.head? = some x → x.Tells k.answer told) (hagrees : k.Agrees desired told)
    (hnames : k.NamesInstance desired st.id told xs) : k.Converged told desired now := by
  obtain ⟨a, shown⟩ := h.shownBy
  obtain ⟨x, hx, htells⟩ := shown.last
  exact ⟨shown.present, shown_of_shown (htells told (hlast x hx)), h.unchanged hk hcheck hlast hagrees hnames⟩

/-! ## What stays as it is -/

namespace Converged

/-- The look-up before a plan finds what is known, or the time is over. -/
theorem current_again (h : k.Converged told desired now) (hk : k ≠ .attachment) (p : Provider) (s : Session) :
    (k.resource.current p now s).Ends s fun xs _ after =>
      (∀ x ∈ xs, x.posting.action = k.question) ∧ ((∀ x ∈ xs, x.Tells k.answer told) → after = now) := by
  obtain ⟨xs, hxs, hlooked⟩ := read_looked p now.id k hk now.attributes s
  obtain ⟨ys, hys, hquestions, -⟩ := current_ends p now s
  rcases k.resource.current_cases p now s with
    ⟨hno, -⟩ | ⟨found, t, hread, he⟩ | ⟨res, t, hread, hgone, he⟩ | ⟨e, t, hread, -, he⟩
  · rw [h.present] at hno
    cases hno
  all_goals
    rw [hread] at hxs hlooked
    rw [he] at hys ⊢
    obtain rfl : xs = ys := List.append_cancel_right (hxs.symm.trans hys)
    refine ⟨xs, hxs, hquestions, fun htells => ?_⟩
  · rcases hlooked.only told now.attributes htells h.shown with hsame | ⟨e, hno, -⟩
    · cases hsame
      rfl
    · cases hno
  · have hres : res = .ok (some now.attributes) ∨ ∃ e, res = .error e ∧ e.saysAbsent = false :=
      hlooked.only told now.attributes htells h.shown
    rcases hres with rfl | ⟨e, rfl, habsent⟩
    · exact absurd hgone not_saysGone_some
    · exact absurd hgone (not_saysGone_error habsent)
  · rfl

variable (h : k.Converged told desired now) (hcheck : k.resource.check (k.resource.toJson desired) = .ok ())
include h hcheck

/-- Nothing is left to do. -/
theorem plan_eq : k.resource.plan (some now) desired = .ok ⟨.noOp, [], []⟩ := by
  have hnone : k.resource.schema.changedFields (k.resource.toJson now.attributes) (k.resource.toJson desired) = [] :=
    h.unchanged
  rw [Resource.plan_of_check now hcheck, if_pos h.present, Schema.plan, hnone]
  rfl

/-- Another application only asks, and what is known stays as it is, also if it fails. -/
theorem apply_again (hk : k ≠ .attachment) (p : Provider) (s : Session) {ys : List Exchange}
    (hys : (k.resource.apply p now desired s).session.exchanges = ys ++ s.exchanges)
    (htells : ∀ y ∈ ys, y.posting.action = k.question → y.Tells k.answer told) :
    (∀ y ∈ ys, y.posting.action = k.question) ∧ (k.resource.apply p now desired s).state = now := by
  obtain ⟨asked, hasked, hquestions, hsame⟩ := h.current_again hk p s
  rcases k.resource.apply_cases p now desired s with
    ⟨e, hno, -⟩ | ⟨e, after, t, -, hc, ha⟩ | ⟨plan, after, t, -, hc, hplan, ha⟩
  · rw [hcheck] at hno
    cases hno
  · rw [hc] at hasked hsame
    rw [ha] at hys ⊢
    obtain rfl : ys = asked := List.append_cancel_right (hys.symm.trans hasked)
    exact ⟨hquestions, hsame fun y hy => htells y hy (hquestions y hy)⟩
  · obtain ⟨_, -, -, held⟩ := current_ends p now s
    rw [hc] at hasked hsame held
    obtain ⟨done, hdone, -⟩ := execute_ends (p := p) (s := t) hcheck (held rfl) hplan
    have hall : ys = done ++ asked := by
      refine List.append_cancel_right (hys.symm.trans ?_)
      rw [ha, hdone, hasked, List.append_assoc]
    -- the answers before the plan are among those of the whole application
    obtain rfl : after = now :=
      hsame fun y hy => htells y (hall ▸ List.mem_append_right done hy) (hquestions y hy)
    rw [h.plan_eq hcheck] at hplan
    have hnoOp : plan.action = .noOp := by rw [← Except.ok.inj hplan]
    rw [Resource.execute_of_noOp hnoOp] at ha
    rw [ha] at hys ⊢
    obtain rfl : ys = asked := List.append_cancel_right (hys.symm.trans hasked)
    exact ⟨hquestions, rfl⟩

end Converged

theorem check_of_apply_ok (h : (k.resource.apply p st desired s).result = .ok ()) :
    k.resource.check (k.resource.toJson desired) = .ok () := by
  cases hcheck : k.resource.check (k.resource.toJson desired) with
  | error e =>
    rw [Resource.apply, hcheck] at h
    cases h
  | ok _ => rfl

/-- **An application that succeeds converges** if what the vendor tells at its end agrees with the configuration, and
the vendor names no other instance: nothing is left to plan, and while the vendor tells the same, another application
only asks, and the document stays as it is, also if the time is over. -/
theorem apply_converges (k : Kind) (hk : k ≠ .attachment) {p p' : Provider} {d : Document} {v : Json}
    {desired : k.Config} {told : k.Answer} {s s' : Session} {o o' : DocumentOutcome} {xs ys : List Exchange}
    (hv : k.resource.decodeDesired v = .ok desired)
    (ho : k.resource.applyDocument p d v s = o) (hok : o.result = .ok ())
    (hxs : o.session.exchanges = xs ++ s.exchanges) (hlast : ∀ x, xs.head? = some x → x.Tells k.answer told)
    (hagrees : k.Agrees desired told) (hnames : k.NamesInstance desired d.id told xs)
    (ho' : k.resource.applyDocument p' o.document v s' = o') (hys : o'.session.exchanges = ys ++ s'.exchanges)
    (htells : ∀ y ∈ ys, y.posting.action = k.question → y.Tells k.answer told) :
    k.resource.planDocument (some o.document) v = .ok ⟨.noOp, [], []⟩ ∧
      (∀ y ∈ ys, y.posting.action = k.question) ∧ o'.document = o.document := by
  cases hd : k.resource.decodeState d with
  | error e =>
    rw [Resource.applyDocument, hv, hd] at ho
    rw [← ho] at hok
    cases hok
  | ok st =>
    have hcorresponds := Resource.corresponds_of_decodeState hd
    rw [Resource.applyDocument_eq hd hv] at ho
    subst ho
    have hcheck := check_of_apply_ok hok
    obtain ⟨xs', hxs', hreached⟩ := apply_reached hk p st desired s
    obtain rfl : xs' = xs := List.append_cancel_right (hxs'.symm.trans hxs)
    rw [hcorresponds.id] at hnames
    have hconverged := (hreached hok).converged hk hcheck hlast hagrees hnames
    -- the document of what is known is read back as what is known
    have hfits : (k.resource.apply p st desired s).state.Holds fun _ a => k.Fits a :=
      k.keeps_fits.apply (fits_of_decode (Resource.decodeDesired_eq_ok_iff.1 hv).2)
        (k.faithful.holds_of_corresponds hcorresponds)
    have hwritten : k.resource.Corresponds (k.resource.recorded (k.resource.apply p st desired s)).document
        (k.resource.apply p st desired s).state := k.faithful.corresponds_encodeState hfits
    have hread := hwritten.decodeState_of_present hconverged.present
    have hplan := (Resource.Faithful.plan_alike hwritten hv).trans (hconverged.plan_eq hcheck)
    rw [Resource.applyDocument_eq hread hv] at ho'
    subst ho'
    obtain ⟨hquestions, hsame⟩ := hconverged.apply_again hcheck hk p' s' hys htells
    exact ⟨hplan, hquestions, congrArg k.resource.encodeState hsame⟩

end Kind

/-! ## A vendor that stops naming the instance -/

/-- A vendor that answers questions with one text before the first change, and with another one from there on. -/
def Provider.turning (before after : String) : Provider := .plain fun xs x =>
  .answer 200 (if isQuestion x.action && (mutations xs).isEmpty then before else after)

namespace Account

/-- An answer that names the instance. -/
def namedText : String :=
  "\x7b\"Response\":\x7b\"InstanceId\":\"dcdbt-1\",\"Users\":[\x7b\"UserName\":\"root\",\"Host\":\"%\"\x7d]\x7d\x7d"

/-- What it lists. -/
def namedList : AccountList where
  instanceId := some "dcdbt-1"
  users := [{ userName := some "root", host := some "%" }]

/-- An answer that names no instance, after the description was changed. -/
def describedText : String :=
  "\x7b\"Response\":\x7b\"Users\":[\x7b\"UserName\":\"root\",\"Host\":\"%\",\"Description\":\"new\"\x7d]\x7d\x7d"

/-- What it lists. -/
def describedList : AccountList where
  users := [{ userName := some "root", host := some "%", description := some "new" }]

/-- A vendor that names the instance only before the change. -/
def forgetful : Provider := .turning namedText describedText

theorem outcome_before {s : Session} (hs : mutations s.exchanges = []) (x : Posting)
    (hx : x.action = "DescribeAccounts") :
    (⟨x, forgetful.out.reply s.exchanges x⟩ : Exchange).outcome accountList = .ok namedList := by
  have hquestion : isQuestion x.action = true := by rw [hx]; decide
  simp only [forgetful, Provider.turning, Provider.plain, hquestion, hs, List.isEmpty_nil, Bool.and_self, if_true]
  cbv

theorem reply_after {s : Session} (x : Posting) (h : isQuestion x.action = false ∨ mutations s.exchanges ≠ []) :
    forgetful.out.reply s.exchanges x = .answer 200 describedText := by
  have hlater : (isQuestion x.action && (mutations s.exchanges).isEmpty) = false := by
    rcases h with h | h
    · rw [h, Bool.false_and]
    · rw [List.isEmpty_eq_false_iff.2 h, Bool.and_false]
  simp only [forgetful, Provider.turning, Provider.plain, hlater]
  rfl

theorem outcome_after {s : Session} (x : Posting) (h : isQuestion x.action = false ∨ mutations s.exchanges ≠ []) :
    (⟨x, forgetful.out.reply s.exchanges x⟩ : Exchange).outcome accountList = .ok describedList := by
  rw [reply_after x h]
  cbv

theorem acknowledged_after {s : Session} (x : Posting) (h : isQuestion x.action = false ∨ mutations s.exchanges ≠ []) :
    (⟨x, forgetful.out.reply s.exchanges x⟩ : Exchange).outcome acknowledgement = .ok () := by
  rw [reply_after x h]
  cbv

/-- What is known of the account once its description was changed under an identity. -/
def settled (instanceId : String) : Account := { described with instanceId := instanceId }

section Run

variable {id instanceId : String} {s : Session} (hid : parts id = .ok (instanceId, "root")) (hne : id ≠ "")
include hid

theorem read_before (hs : mutations s.exchanges = []) : ∃ x t, x.posting.action = "DescribeAccounts" ∧
    x.outcome accountList = .ok namedList ∧ read forgetful id sample s = (.ok (some sample), t) ∧
    t.exchanges = x :: s.exchanges := by
  have hfound : found sample instanceId "root" namedList = some sample := by
    simp [found, namedList, merge, instanceOr, sample, Option.filter]
  rw [← hfound]
  exact read_of_told Client.plain_writable hid (outcome_before hs) (not_transient_ok namedList)

theorem read_after (hs : mutations s.exchanges ≠ []) (a : Account) (ha : a = described ∨ a = settled instanceId) :
    ∃ x t, x.posting.action = "DescribeAccounts" ∧ x.outcome accountList = .ok describedList ∧
      read forgetful id a s = (.ok (some (settled instanceId)), t) ∧ t.exchanges = x :: s.exchanges := by
  have hfound : found a instanceId "root" describedList = some (settled instanceId) := by
    rcases ha with rfl | rfl
    · simp [found, describedList, merge, instanceOr, described, settled, sample]
    · simp [found, describedList, merge, instanceOr, described, settled, sample]
  rw [← hfound]
  exact read_of_told Client.plain_writable hid (fun x _ => outcome_after x (.inr hs)) (not_transient_ok describedList)

theorem modify_described (s : Session) : ∃ x t, x.posting.action = "ModifyAccountDescription" ∧
    resource.modify forgetful ⟨id, sample⟩ described s = (.ok (), t) ∧ t.exchanges = x :: s.exchanges := by
  have hchange : isQuestion "ModifyAccountDescription" = false := by decide
  obtain ⟨x, t, hasks, -, hr, hx⟩ := Provider.retried_of_writable (p := forgetful) (s := s) Client.plain_writable
    (by decide) (fun x hx => acknowledged_after x (.inl (hx ▸ hchange))) (not_transient_ok ()) .dcdb
    (.ofMembers (Provider.accountMembers instanceId "root" "%" ++ [("Description", .string "new")])) forgetful.write
    "ModifyAccountDescription"
  refine ⟨x, t, hasks.1, ?_, hx⟩
  rw [Resource.modify_of_changes check_described (changes_described _) (by simp), resource_update, update_of_ok hid,
    if_pos (by simp)]
  exact hr

include hne

/-- An application that changes the description. -/
theorem apply_described : ∃ x y z t, x.posting.action = "DescribeAccounts" ∧ x.outcome accountList = .ok namedList ∧
    y.posting.action = "ModifyAccountDescription" ∧ z.posting.action = "DescribeAccounts" ∧
    z.outcome accountList = .ok describedList ∧ t.exchanges = [z, y, x] ∧
    resource.apply forgetful ⟨id, sample⟩ described {} = ⟨.ok (), ⟨id, settled instanceId⟩, t⟩ := by
  have hp : ∀ a : Account, (⟨id, a⟩ : ResourceState Account).present = true :=
    fun a => ResourceState.present_iff.2 hne
  obtain ⟨x, t, hxa, hxc, hread, hx⟩ := read_before (s := {}) hid rfl
  obtain ⟨y, u, hya, hmodify, hy⟩ := modify_described hid t
  have hchanged : mutations u.exchanges ≠ [] := by
    rw [hy]
    exact mutations_ne_nil List.mem_cons_self (by rw [hya]; decide)
  obtain ⟨z, v, hza, hzc, hagain, hz⟩ := read_after hid hchanged described (.inl rfl)
  refine ⟨x, y, z, v, hxa, hxc, hya, hza, hzc, by rw [hz, hy, hx], ?_⟩
  have haction : (resource.schema.plan (some (resource.toJson sample)) (resource.toJson described)).action =
      .update := by decide +kernel
  have hplans := Resource.plans_of_read check_described (hp sample) hread
  rw [hplans.apply_eq, Resource.execute_of_update haction, Resource.updateTo_of_modify_ok hmodify]
  exact Resource.refresh_of_some (hp described) hagain

end Run

/-- An application where nothing is left to do. -/
theorem apply_settled {s : Session} (hs : mutations s.exchanges ≠ []) : ∃ x t,
    x.outcome accountList = .ok describedList ∧ t.exchanges = x :: s.exchanges ∧
    resource.apply forgetful ⟨"dcdbt-1#root", described⟩ described s =
      ⟨.ok (), ⟨"dcdbt-1#root", described⟩, t⟩ := by
  have hid : parts "dcdbt-1#root" = .ok ("dcdbt-1", "root") := by rfl
  have hsettled : settled "dcdbt-1" = described := rfl
  obtain ⟨x, t, -, hxc, hread, hx⟩ := read_after hid hs described (.inl rfl)
  rw [hsettled] at hread
  refine ⟨x, t, hxc, hx, ?_⟩
  have haction : (resource.schema.plan (some (resource.toJson described)) (resource.toJson described)).action =
      .noOp := by decide +kernel
  have hp : (⟨"dcdbt-1#root", described⟩ : ResourceState Account).present = true := rfl
  have hplans := Resource.plans_of_read check_described hp hread
  rw [hplans.apply_eq, Resource.execute_of_noOp haction]

theorem fits_of_none {a : Account} (hreadOnly : a.readOnly = none) (hmax : a.maxUserConnections = none) : a.Fits :=
  ⟨hreadOnly ▸ fits64_none, hmax ▸ fitsNat64_none⟩

theorem decodeDesired_described : resource.decodeDesired (resource.toJson described) = .ok described :=
  Resource.decodeDesired_eq_ok_iff.2
    ⟨check_described, Kind.decode_toJson (k := .account) (a := described) (fits_of_none rfl rfl)⟩

/-- The document of an account that exists is read back. -/
theorem applyDocument_encodeState {p : Provider} {id : String} {a : Account} {s : Session} (hne : id ≠ "")
    (ha : a.Fits) :
    resource.applyDocument p (resource.encodeState ⟨id, a⟩) (resource.toJson described) s =
      resource.recorded (resource.apply p ⟨id, a⟩ described s) := by
  have hwritten : resource.Corresponds (resource.encodeState ⟨id, a⟩) ⟨id, a⟩ :=
    ⟨rfl, rfl, fun _ => Kind.decode_toJson (k := .account) (a := a) ha⟩
  exact Resource.applyDocument_eq (hwritten.decodeState_of_present (ResourceState.present_iff.2 hne))
    decodeDesired_described

/-- What is told after the change agrees with what is desired. -/
theorem agrees_described : Kind.account.Agrees described describedList := by
  refine ⟨fun name hname => (by cases hname), fun listed hlisted => ?_⟩
  have hentry : listed = { userName := some "root", host := some "%", description := some "new" } := by
    exact (Option.some.inj hlisted).symm
  subst hentry
  exact ⟨fun host hhost => (Option.some.inj hhost).symm, fun v hv => (by cases hv),
    fun description hdescription => (Option.some.inj hdescription).symm, fun v hv => (by cases hv)⟩

/-- The description of an account of the named instance is changed; then nothing is left to do. -/
theorem described_converges :
    let d := resource.encodeState ⟨"dcdbt-1#root", sample⟩
    let v := resource.toJson described
    ∃ o o' xs y, resource.applyDocument forgetful d v {} = o ∧ o.result = .ok () ∧ o.session.exchanges = xs ∧
      mutations xs = ["ModifyAccountDescription"] ∧ resource.applyDocument forgetful o.document v o.session = o' ∧
      o'.session.exchanges = [y] ++ o.session.exchanges ∧ y.posting.action = "DescribeAccounts" ∧
      resource.planDocument (some o.document) v = .ok ⟨.noOp, [], []⟩ ∧ o'.document = o.document := by
  intro d v
  have hid : parts "dcdbt-1#root" = .ok ("dcdbt-1", "root") := by rfl
  have hsettled : settled "dcdbt-1" = described := rfl
  obtain ⟨x, y, z, t, hxa, -, hya, hza, hzc, ht, happly⟩ := apply_described hid (by decide)
  rw [hsettled] at happly
  have hquestion : isQuestion "DescribeAccounts" = true := by decide
  have hchange : isQuestion "ModifyAccountDescription" = false := by decide
  have hmutations : mutations t.exchanges = ["ModifyAccountDescription"] := by
    simp [ht, mutations, hxa, hya, hza, hquestion, hchange]
  have hother : ∀ x' ∈ [z, y, x], x'.posting.action ≠ "CreateAccount" := by
    simp [hxa, hya, hza]
  obtain ⟨w, u, hwc, hu, hagain⟩ := apply_settled (s := t) (by rw [hmutations]; simp)
  have ho : resource.applyDocument forgetful d v {} =
      ⟨.ok (), resource.encodeState ⟨"dcdbt-1#root", described⟩, t⟩ := by
    rw [applyDocument_encodeState (by decide) (fits_of_none rfl rfl), happly]
    rfl
  have ho' : resource.applyDocument forgetful (resource.encodeState ⟨"dcdbt-1#root", described⟩) v t =
      ⟨.ok (), resource.encodeState ⟨"dcdbt-1#root", described⟩, u⟩ := by
    rw [applyDocument_encodeState (by decide) (fits_of_none rfl rfl), hagain]
    rfl
  have hlast : ∀ x', [z, y, x].head? = some x' → x'.Tells accountList describedList := by
    intro x' hx'
    cases hx'
    exact .inl hzc
  have hnames : Kind.account.NamesInstance described "dcdbt-1#root" describedList [z, y, x] := by
    refine ⟨fun x' hx' hcreation => ?_, fun x' _ _ instanceId userName hparts => ?_⟩
    · exact absurd hcreation (hother x' hx')
    · rw [hid] at hparts
      cases hparts
      exact .inl rfl
  have htells : ∀ y' ∈ [w], y'.posting.action = "DescribeAccounts" →
      y'.Tells accountList describedList := by
    intro y' hy' _
    rw [List.mem_singleton.1 hy']
    exact .inl hwc
  obtain ⟨hplan, hquestions, hsame⟩ := Kind.apply_converges .account (by decide) decodeDesired_described ho rfl
    (ht.trans (List.append_nil _).symm) hlast agrees_described hnames ho' hu htells
  exact ⟨_, _, _, w, ho, rfl, rfl, hmutations, ho', hu, hquestions w List.mem_cons_self, hplan, hsame⟩

/-- **An account is looked up by its identity, which has another instance than the vendor named before the change: the
application succeeds, and the next plan is refused.** -/
theorem apply_diverges :
    let d := resource.encodeState ⟨"dcdbt-2#root", sample⟩
    let v := resource.toJson described
    let o := resource.applyDocument forgetful d v {}
    resource.decodeDesired v = .ok described ∧ o.result = .ok () ∧
      (∃ x y z, o.session.exchanges = [z, y, x] ∧ x.posting.action = "DescribeAccounts" ∧
        x.outcome accountList = .ok namedList ∧ NamesOnly described.instanceId namedList.instanceId ∧
        y.posting.action = "ModifyAccountDescription" ∧ z.posting.action = "DescribeAccounts" ∧
        z.outcome accountList = .ok describedList) ∧
      Kind.account.Agrees described describedList ∧
      resource.planDocument (some o.document) v = .ok ⟨.reject, ["instance_id"], ["instance_id"]⟩ := by
  intro d v o
  have hid : parts "dcdbt-2#root" = .ok ("dcdbt-2", "root") := by rfl
  obtain ⟨x, y, z, t, hxa, hxc, hya, hza, hzc, ht, happly⟩ := apply_described hid (by decide)
  have ho : o = ⟨.ok (), resource.encodeState ⟨"dcdbt-2#root", settled "dcdbt-2"⟩, t⟩ := by
    refine (applyDocument_encodeState (by decide) (fits_of_none rfl rfl)).trans ?_
    rw [happly]
    rfl
  have hwritten : resource.Corresponds (resource.encodeState ⟨"dcdbt-2#root", settled "dcdbt-2"⟩)
      ⟨"dcdbt-2#root", settled "dcdbt-2"⟩ :=
    ⟨rfl, rfl, fun _ => Kind.decode_toJson (k := .account) (a := settled "dcdbt-2") (fits_of_none rfl rfl)⟩
  have hplan : resource.schema.plan (some (resource.toJson (settled "dcdbt-2"))) (resource.toJson described) =
      ⟨.reject, ["instance_id"], ["instance_id"]⟩ := by decide +kernel
  have hnamed : NamesOnly described.instanceId namedList.instanceId :=
    fun name hname => .inr (Option.some.inj hname).symm
  have hp : (⟨"dcdbt-2#root", settled "dcdbt-2"⟩ : ResourceState Account).present = true := rfl
  rw [ho]
  refine ⟨decodeDesired_described, rfl, ⟨x, y, z, ht, hxa, hxc, hnamed, hya, hza, hzc⟩, agrees_described, ?_⟩
  rw [Resource.Faithful.plan_alike hwritten decodeDesired_described, Resource.plan_of_check _ check_described,
    if_pos hp, hplan]

end Account

end Provision
