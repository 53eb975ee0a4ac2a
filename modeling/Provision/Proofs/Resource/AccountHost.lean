import Provision.Proofs.Resource.CreatedIdentity
import Provision.Proofs.Resource.Stages

/-!
# The host of an account

An account of a database is known by its user name and its host, but its identity has the user name only. A look-up
takes over the first entry of the user name, whatever its host is (`Account.read_takesOver`), and later requests name
the host that is known then. Main statement: the host stays if and only if that entry has it or tells none, and the
requests that delete the account or change its description name the host of that entry (`Account.refresh_addresses`).
So an account next to another one of the same name may take its host, and be deleted in its place
(`Account.host_of_namesake`).
-/

namespace Provision

namespace Account

open Json Vendor

variable {p : Provider} {id instanceId userName host : String} {a planned : Account} {st : ResourceState Account}
  {s : Session}

theorem parts_eq_ok_iff :
    parts id = .ok (instanceId, userName) ↔ Identity.split? 2 id = some [instanceId, userName] :=
  Identity.pair_eq_ok_iff

/-- What a look-up takes over: in the last answer, the first entry of the user name. -/
def TakenOver (id : String) (a : Account) (xs : List Exchange) (b : Account) : Prop :=
  ∃ instanceId userName x accounts listed, Identity.split? 2 id = some [instanceId, userName] ∧ xs.head? = some x ∧
    x.outcome accountList = .ok accounts ∧ accounts.users.find? (·.userName == some userName) = some listed ∧
    b = a.merge (instanceOr accounts.instanceId instanceId) userName listed

theorem read_takesOver (p : Provider) (id : String) (a : Account) :
    (read p id a).Ensures fun xs r => ∀ b, r = .ok (some b) → TakenOver id a xs b := by
  cases h : parts id with
  | error e =>
    rw [read_of_error h]
    refine (Run.ensures_fail e).mono fun xs r hr b hb => ?_
    rw [hr.2] at hb
    cases hb
  | ok named =>
    obtain ⟨instanceId, userName⟩ := named
    refine (read_ensures h).mono fun xs r ⟨r', hc, hr⟩ b hb => ?_
    rw [hr] at hb
    cases r' with
    | error e => cases hb
    | ok accounts =>
      obtain ⟨x, hx, hout⟩ := hc.settled.of_ok
      obtain ⟨listed, hlisted, hmerge⟩ := Option.map_eq_some_iff.1 (Except.ok.inj hb)
      exact ⟨instanceId, userName, x, accounts, listed, parts_eq_ok_iff.1 h, hx, hout, hlisted, hmerge.symm⟩

/-! ## Requests that name a host -/

/-- All requests of an action name a host; one that is not known is left out. -/
def NamesHost (action host : String) (xs : List Exchange) : Prop :=
  ∀ x ∈ xs, x.posting.action = action → x.posting.body.get? "Host" = nonEmpty? host

theorem namesHost_nil {action : String} : NamesHost action host [] := fun x hx => by cases hx

theorem namesHost_of_asks {action action' : String} {body : Json} {xs : List Exchange}
    (hasks : ∀ x ∈ xs, x.Asks action' body) (hbody : body.get? "Host" = nonEmpty? host) : NamesHost action host xs := by
  intro x hx _
  rw [(hasks x hx).2, hbody]

theorem namesHost_of_other {action action' : String} {xs : List Exchange} (h : ∀ x ∈ xs, x.posting.action = action')
    (hne : action' ≠ action) : NamesHost action host xs :=
  fun x hx ha => absurd ((h x hx).symm.trans ha) hne

theorem get?_host_members (instanceId userName host : String) :
    (ofMembers (Provider.accountMembers instanceId userName host)).get? "Host" = nonEmpty? host := by
  rw [Provider.accountMembers, get?_ofMembers, reverse_present]
  simp

theorem get?_host_description (instanceId userName host description : String) :
    (ofMembers (Provider.accountMembers instanceId userName host ++ [("Description", .string description)])).get?
      "Host" = nonEmpty? host := by
  rw [Provider.accountMembers, get?_ofMembers, List.reverse_append, reverse_present]
  simp [find]

theorem delete_of_ok (h : parts id = .ok (instanceId, userName)) :
    delete p id a = p.deleteAccount instanceId userName a.host := by
  rw [delete, h]
  rfl

theorem update_of_ok {changed : List String} (h : parts id = .ok (instanceId, userName)) :
    update p id changed planned = if changed.contains "description" then
      p.modifyAccountDescription instanceId userName planned.host (planned.description.getD "") else pure () := by
  rw [update, h]
  rfl

theorem delete_namesHost (p : Provider) (id : String) (a : Account) :
    (delete p id a).Ensures fun xs _ => NamesHost "DeleteAccount" a.host xs := by
  cases h : parts id with
  | error e =>
    rw [delete, h]
    refine (Run.ensures_fail e).mono fun xs r hr => ?_
    rw [hr.1]
    exact namesHost_nil
  | ok named =>
    rw [delete_of_ok h]
    exact (p.deleteAccount_ensures named.1 named.2 a.host).mono fun xs r hc =>
      namesHost_of_asks hc.asks (get?_host_members named.1 named.2 a.host)

theorem update_namesHost (p : Provider) (id : String) (changed : List String) (planned : Account) :
    (update p id changed planned).Ensures fun xs _ => NamesHost "ModifyAccountDescription" planned.host xs := by
  cases h : parts id with
  | error e =>
    rw [update, h]
    refine (Run.ensures_fail e).mono fun xs r hr => ?_
    rw [hr.1]
    exact namesHost_nil
  | ok named =>
    rw [update_of_ok h]
    split
    · exact (p.modifyAccountDescription_ensures named.1 named.2 planned.host (planned.description.getD "")).mono
        fun xs r hc => namesHost_of_asks hc.asks (get?_host_description named.1 named.2 planned.host _)
    · refine (Run.ensures_pure ()).mono fun xs r hr => ?_
      rw [hr.1]
      exact namesHost_nil

/-- A deletion names the host that is known. -/
theorem remove_namesHost (p : Provider) (st : ResourceState Account) (s : Session) :
    (resource.remove p st s).Ends s fun xs _ _ => NamesHost "DeleteAccount" st.attributes.host xs := by
  cases hp : st.present with
  | true => exact Resource.remove_ends_of_delete hp (delete_namesHost p st.id st.attributes) s
  | false =>
    rw [Resource.remove_of_not_present hp]
    exact ⟨[], rfl, namesHost_nil⟩

theorem get?_host (a : Account) : (toJson a).get? "host" = some (.string a.host) := by
  rw [toJson, get?_ofMembers, reverse_present]
  simp

/-- A change in place names the host that is known, since the host cannot change in place. -/
theorem modify_namesHost (p : Provider) (st : ResourceState Account) (planned : Account) :
    (resource.modify p st planned).Ensures fun xs _ =>
      NamesHost "ModifyAccountDescription" st.attributes.host xs := by
  intro s
  unfold Resource.modify
  split
  · exact ⟨[], rfl, namesHost_nil⟩
  · exact ⟨[], rfl, namesHost_nil⟩
  · exact ⟨[], rfl, namesHost_nil⟩
  · rename_i name names _ hchanges
    have hhost : st.attributes.host = planned.host :=
      Resource.text_eq_of_fixed hchanges (by decide : schema.Fixes "host" .string) (get?_host st.attributes)
        (get?_host planned)
    rw [hhost]
    exact update_namesHost p st.id (name :: names) planned s

theorem updateTo_namesHost (p : Provider) (st : ResourceState Account) (planned : Account) (s : Session) :
    (resource.updateTo p st planned s).Ends s fun xs _ _ =>
      NamesHost "ModifyAccountDescription" st.attributes.host xs := by
  obtain ⟨xs, hxs, hnames⟩ := modify_namesHost p st planned s
  rcases hm : resource.modify p st planned s with ⟨res, t⟩
  rw [hm] at hxs
  cases res with
  | error e =>
    rw [Resource.updateTo_of_modify_error hm]
    exact ⟨xs, hxs, hnames⟩
  | ok _ =>
    obtain ⟨ys, hys, hask⟩ := Kind.refresh_asks (k := .account) p ⟨st.id, planned⟩ t
    change (resource.refresh p ⟨st.id, planned⟩ t).session.exchanges = _ at hys
    rw [Resource.updateTo_of_modify_ok hm]
    refine ⟨ys ++ xs, by rw [hys, hxs, List.append_assoc], fun x hx => ?_⟩
    rcases List.mem_append.1 hx with hx | hx
    · exact namesHost_of_other hask (by decide) x hx
    · exact hnames x hx

/-! ## The host after a look-up -/

/-- The host that is kept is told, or none is. -/
theorem getD_eq_iff {told : Option String} {known : String} :
    told.getD known = known ↔ told = none ∨ told = some known := by
  cases told with
  | none => simp
  | some host => simp

/-- **How an account is known and addressed after a look-up** that took over an entry. -/
structure Addressed (listed : ListedAccount) (known : Account) (now : ResourceState Account) : Prop where
  host : now.attributes.host = listed.host.getD known.host
  host_iff : now.attributes.host = known.host ↔ listed.host = none ∨ listed.host = some known.host
  description : now.attributes.description = listed.description.or known.description
  readOnly : now.attributes.readOnly = listed.readOnly.or known.readOnly
  maxUserConnections : now.attributes.maxUserConnections = listed.maxUserConnections.or known.maxUserConnections
  deletion : ∀ p s, (resource.remove p now s).Ends s fun xs _ _ => NamesHost "DeleteAccount" now.attributes.host xs
  modification : ∀ p planned s, (resource.updateTo p now planned s).Ends s fun xs _ _ =>
    NamesHost "ModifyAccountDescription" now.attributes.host xs

theorem addressed_merge (id instanceId userName : String) (listed : ListedAccount) (a : Account) :
    Addressed listed a ⟨id, a.merge instanceId userName listed⟩ where
  host := rfl
  host_iff := getD_eq_iff
  description := rfl
  readOnly := rfl
  maxUserConnections := rfl
  deletion := fun p s => remove_namesHost p _ s
  modification := fun p planned s => updateTo_namesHost p _ planned s

/-- **After a look-up, an account has the host of the first entry of its user name, if that tells one, and so do the
requests that delete it or change its description.** -/
theorem refresh_addresses (p : Provider) (st : ResourceState Account) (s : Session) :
    (resource.refresh p st s).Ends s fun xs r now => r = .ok () → ∃ instanceId userName x accounts listed,
      Identity.split? 2 st.id = some [instanceId, userName] ∧ xs.head? = some x ∧
      x.outcome accountList = .ok accounts ∧ accounts.users.find? (·.userName == some userName) = some listed ∧
      Addressed listed st.attributes now := by
  obtain ⟨xs, hxs, htaken⟩ := read_takesOver p st.id st.attributes s
  cases hp : st.present with
  | false =>
    rw [Resource.refresh_of_not_present hp]
    exact ⟨[], rfl, fun hr => by cases hr⟩
  | true =>
    rcases Resource.refresh_cases (r := resource) (p := p) (s := s) hp with
      ⟨b, t, hr, he⟩ | ⟨_, t, hr, -, he⟩ | ⟨_, t, hr, -, he⟩
    · rw [resource_read] at hr
      rw [hr] at hxs htaken
      obtain ⟨instanceId, userName, x, accounts, listed, hid, hx, hout, hfind, rfl⟩ := htaken b rfl
      rw [he]
      exact ⟨xs, hxs, fun _ => ⟨instanceId, userName, x, accounts, listed, hid, hx, hout, hfind,
        addressed_merge st.id _ userName listed st.attributes⟩⟩
    all_goals
      rw [resource_read] at hr
      rw [hr] at hxs
      rw [he]
      exact ⟨xs, hxs, fun hr => by cases hr⟩

/-! ## Namesakes -/

/-- A look-up that is answered for good takes over what the answer says. -/
theorem read_of_told {r : Except Failure AccountList} (hwritable : p.client.Writable)
    (hid : parts id = .ok (instanceId, userName))
    (told : ∀ x : Posting, x.action = "DescribeAccounts" →
      (⟨x, p.out.reply s.exchanges x⟩ : Exchange).outcome accountList = r) (final : ¬Transient r) :
    ∃ x t, x.posting.action = "DescribeAccounts" ∧ x.outcome accountList = r ∧
      read p id a s = (r.map (found a instanceId userName), t) ∧ t.exchanges = x :: s.exchanges := by
  obtain ⟨x, t, hasks, hout, hr, hx⟩ := Provider.retried_of_writable hwritable (by decide) told final .dcdb
    (.ofMembers [("InstanceId", .string instanceId)]) p.read "DescribeAccounts"
  have hlist : p.describeAccounts instanceId s = (r, t) := hr
  refine ⟨x, t, hasks.1, hout, ?_, hx⟩
  rw [read_of_ok hid]
  cases r with
  | error e => exact Run.bind_error hlist
  | ok accounts => exact Run.bind_ok hlist

/-- Two accounts with one user name. -/
def namesakes : AccountList where
  users := [{ userName := some "root", host := some "10.%" }, { userName := some "root", host := some "%" }]

/-- An answer that lists them. -/
def namesakesText : String :=
  "\x7b\"Response\":\x7b\"Users\":[\x7b\"UserName\":\"root\",\"Host\":\"10.%\"\x7d," ++
    "\x7b\"UserName\":\"root\",\"Host\":\"%\"\x7d]\x7d\x7d"

/-- A vendor that gives this answer to every request. -/
def namesakesVendor : Provider := .saying namesakesText

theorem outcome_namesakes (x : Posting) :
    (⟨x, .answer 200 namesakesText⟩ : Exchange).outcome accountList = .ok namesakes := by
  cbv

theorem acknowledged_namesakes (x : Posting) :
    (⟨x, .answer 200 namesakesText⟩ : Exchange).outcome acknowledgement = .ok () := by
  cbv

/-- The account that is known after a look-up. -/
def namesake : Account := { sample with host := "10.%" }

theorem found_namesakes : found sample "dcdbt-1" "root" namesakes = some namesake := by
  simp [found, namesakes, merge, instanceOr, sample, namesake]

theorem resource_delete : resource.delete = delete := rfl

theorem refresh_namesakes (s : Session) : ∃ x t, x.outcome accountList = .ok namesakes ∧
    t.exchanges = x :: s.exchanges ∧ resource.refresh namesakesVendor ⟨"dcdbt-1#root", sample⟩ s =
      ⟨.ok (), ⟨"dcdbt-1#root", namesake⟩, t⟩ := by
  have hparts : parts "dcdbt-1#root" = .ok ("dcdbt-1", "root") := by rfl
  obtain ⟨x, t, -, hout, hread, hx⟩ := read_of_told (p := namesakesVendor) (a := sample) (s := s) Client.plain_writable
    hparts (fun x _ => outcome_namesakes x) (not_transient_ok namesakes)
  have hfound : (Except.ok namesakes : Except Failure AccountList).map (found sample "dcdbt-1" "root") =
      .ok (some namesake) := congrArg Except.ok found_namesakes
  rw [hfound] at hread
  exact ⟨x, t, hout, hx, Resource.refresh_of_some rfl (by rw [resource_read]; exact hread)⟩

theorem refresh_addresses_namesake : ∃ t,
    resource.refresh namesakesVendor ⟨"dcdbt-1#root", sample⟩ {} =
      ⟨.ok (), ⟨"dcdbt-1#root", namesake⟩, t⟩ ∧
    (resource.remove namesakesVendor ⟨"dcdbt-1#root", namesake⟩ t).Ends t fun ys _ _ =>
      NamesHost "DeleteAccount" "10.%" ys := by
  obtain ⟨x, t, -, -, hr⟩ := refresh_namesakes {}
  obtain ⟨xs, -, hall⟩ := refresh_addresses namesakesVendor ⟨"dcdbt-1#root", sample⟩ {}
  rw [hr] at hall
  obtain ⟨_, _, _, _, _, _, _, _, _, haddressed⟩ := hall rfl
  exact ⟨t, hr, haddressed.deletion namesakesVendor t⟩

/-- **The vendor lists the account of the known host, and yet the host of its namesake is taken over, and the namesake
is deleted.** -/
theorem host_of_namesake : ∃ x y, let found := resource.refresh namesakesVendor ⟨"dcdbt-1#root", sample⟩ {}
    found.session.exchanges = [x] ∧ x.outcome accountList = .ok namesakes ∧
    (∃ listed ∈ namesakes.users, listed.userName = some "root" ∧ listed.host = some sample.host) ∧
    found.result = .ok () ∧ found.state.attributes.host = "10.%" ∧
    (resource.remove namesakesVendor found.state found.session).session.exchanges = [y, x] ∧
    (resource.remove namesakesVendor found.state found.session).result = .ok () ∧
    y.posting.action = "DeleteAccount" ∧ y.posting.body.get? "Host" = some (.string "10.%") := by
  obtain ⟨x, t, hout, hx, hr⟩ := refresh_namesakes {}
  have written : Client.isHeaderValue "DeleteAccount" = true := by decide
  obtain ⟨y, u, hasks, -, hd, hy⟩ := Provider.retried_of_saying written acknowledged_namesakes .dcdb
    (.ofMembers (Provider.accountMembers "dcdbt-1" "root" "10.%")) namesakesVendor.write "DeleteAccount" t
  have hparts : parts "dcdbt-1#root" = .ok ("dcdbt-1", "root") := by rfl
  have hdelete : delete namesakesVendor "dcdbt-1#root" namesake t = (.ok (), u) := by
    rw [delete_of_ok hparts]
    exact hd
  have hremove : resource.remove namesakesVendor ⟨"dcdbt-1#root", namesake⟩ t = ⟨.ok (), ⟨"", namesake⟩, u⟩ :=
    Resource.remove_of_delete_ok rfl (by rw [resource_delete]; exact hdelete)
  refine ⟨x, y, ?_⟩
  rw [hr]
  refine ⟨hx, hout, ⟨_, List.mem_cons_of_mem _ List.mem_cons_self, rfl, rfl⟩, rfl, rfl, ?_, ?_, hasks.1, ?_⟩
  · rw [hremove, hy, hx]
  · rw [hremove]
  · rw [hasks.2, get?_host_members]
    simp [nonEmpty?]

end Account

end Provision
