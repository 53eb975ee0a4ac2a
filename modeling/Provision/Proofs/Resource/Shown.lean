import Provision.Proofs.Resource.Agreement

/-!
# What an answer shows

A look-up takes over what the last answer shows (`Kind.shown`). Main statement: a look-up that finds a resource finds
what the last answer shows, and one that is told the same over and over finds what that shows, or the time is over
(`Kind.read_looked`). What was taken over is shown again by the same answer (`Kind.shown_of_shown`), so a resource that
was looked up stays as it is while the answer stays the same.
-/

namespace Provision

open Json Vendor

/-! ## What is told -/

/-- An exchange stands for a value, or only promises something of another attempt. -/
def Exchange.Tells {α : Type} (answer : Json.Record α) (told : α) (x : Exchange) : Prop :=
  x.outcome answer = .ok told ∨ Transient (x.outcome answer)

namespace Called

variable {α : Type} {p : Provider} {budget : Budget} {action : String} {body : Json} {answer : Json.Record α}
  {xs : List Exchange} {r : Except Failure α} {a : α}

/-- A call that gives a value gives what its last answer tells. -/
theorem exists_last (h : Called p budget action body answer xs (.ok a)) :
    ∃ x, xs.head? = some x ∧ ∀ told, x.Tells answer told → told = a := by
  obtain ⟨x, hx, hout⟩ := h.settled.of_ok
  refine ⟨x, hx, fun told ht => ?_⟩
  rw [Exchange.Tells, hout] at ht
  rcases ht with hsame | htransient
  · exact (Except.ok.inj hsame).symm
  · exact absurd htransient (not_transient_ok a)

/-- A call that is told the same over and over gives that, or the time is over. -/
theorem eq_of_tells (h : Called p budget action body answer xs r) (ht : ∀ x ∈ xs, x.Tells answer a) :
    r = .ok a ∨ ∃ e, r = .error e ∧ e.saysAbsent = false := by
  cases h.settled with
  | @answered x rest r handed before =>
    rcases ht x List.mem_cons_self with hout | htransient
    · rw [hout] at handed
      exact .inl (handed.eq_of_final (not_transient_ok a))
    · obtain ⟨e, he, hr⟩ := htransient
      rw [he] at handed
      obtain ⟨elapsed, rfl⟩ := handed.timedOut hr
      exact .inr ⟨_, rfl, rfl⟩
  | unwritten why handed =>
    cases handed with
    | final => exact .inr ⟨_, rfl, Failure.saysAbsent_of_inconclusive _ why.own⟩
    | late => exact .inr ⟨_, rfl, rfl⟩

end Called

/-! ## What is shown -/

namespace Account

variable {id instanceId userName : String} {a b : Account} {accounts : AccountList}

/-- The account that a look-up by an identity finds in a list. -/
def shown (accounts : AccountList) (id : String) (a : Account) : Option Account :=
  (parts id).toOption.bind fun named => found a named.1 named.2 accounts

theorem shown_of_parts (h : parts id = .ok (instanceId, userName)) :
    shown accounts id a = found a instanceId userName accounts := by
  rw [shown, h]
  rfl

theorem parts_of_shown (h : shown accounts id a = some b) : ∃ instanceId userName,
    parts id = .ok (instanceId, userName) ∧ found a instanceId userName accounts = some b := by
  rw [shown] at h
  cases hparts : parts id with
  | error e =>
    rw [hparts] at h
    cases h
  | ok named =>
    rw [hparts] at h
    exact ⟨named.1, named.2, rfl, h⟩

/-- What a look-up asks, if its identity has parts. -/
def inquiry (id : String) : Option Json :=
  (parts id).toOption.map fun named => .ofMembers [("InstanceId", .string named.1)]

/-- A look-up is a call of which the value is looked through; a broken identity ends it before the call. -/
theorem read_calls (p : Provider) (id : String) (a : Account) : (read p id a).Ensures fun xs r =>
    (∃ body called, inquiry id = some body ∧ Called p p.read "DescribeAccounts" body accountList xs called ∧
      r = called.map fun told => shown told id a) ∨
      Kind.account.Broken id ∧ xs = [] ∧ r = .error (.brokenId id) := by
  cases hparts : parts id with
  | error e =>
    rw [read_of_error hparts, parts_error hparts]
    exact (Run.ensures_fail _).mono fun xs r hr => .inr ⟨broken_of_parts hparts, hr⟩
  | ok named =>
    have hshown : found a named.1 named.2 = fun accounts => shown accounts id a := by
      funext accounts
      exact (shown_of_parts hparts).symm
    refine (read_ensures hparts).mono fun xs r ⟨called, hc, hr⟩ => .inl ⟨_, called, ?_, hc, ?_⟩
    · rw [inquiry, hparts]
      rfl
    · rw [hr, hshown]

/-- Nothing is shown of a broken identity. -/
theorem shown_of_broken (h : Kind.account.Broken id) (accounts : AccountList) : shown accounts id a = none := by
  rw [shown, broken_iff.1 h]
  rfl

/-- What was taken over is found again. -/
theorem found_of_found (h : found a instanceId userName accounts = some b) :
    found b instanceId userName accounts = some b := by
  obtain ⟨listed, hlisted, rfl⟩ := Option.map_eq_some_iff.1 h
  rw [found, hlisted, Option.map_some, Option.some.injEq]
  obtain ⟨_, host, description, readOnly, maxUserConnections⟩ := listed
  cases host <;> cases description <;> cases readOnly <;> cases maxUserConnections <;> rfl

end Account

namespace Instance

variable {i j : Instance} {listed : List ListedInstance}

/-- The zone that is told is among those that are known then. -/
theorem mem_mergeZones {zones : StringSet} {told : Option String} : ∀ zone ∈ told,
    zone = "" ∨ zone ∈ mergeZones zones told := by
  intro zone htold
  by_cases hne : zone = ""
  · exact .inl hne
  · have hfilter : told.filter (· ≠ "") = some zone := Option.filter_eq_some_iff.2 ⟨htold, by simpa using hne⟩
    refine .inr ?_
    unfold mergeZones
    rw [hfilter]
    dsimp only
    split
    · exact StringSet.contains_iff.1 (by assumption)
    · exact StringSet.mem_singleton.2 rfl

theorem merge_merge (i : Instance) (listed : ListedInstance) : (i.merge listed).merge listed = i.merge listed := by
  have hor : ∀ {α : Type} (told known : Option α), told.or (told.or known) = told.or known := by
    intro α told known
    cases told <;> rfl
  have htags : listed.tags.getD (listed.tags.getD i.tags) = listed.tags.getD i.tags := by
    cases listed.tags <;> rfl
  have hzones : mergeZones (mergeZones i.zones listed.zone) listed.zone = mergeZones i.zones listed.zone :=
    mergeZones_of_mem mem_mergeZones
  simp only [merge, hzones, hor, htags]

/-- What was taken over is found again. -/
theorem found_of_found (h : found i listed = some j) : found j listed = some j := by
  obtain ⟨first, hfirst, rfl⟩ := Option.map_eq_some_iff.1 h
  rw [found, hfirst, Option.map_some, merge_merge]

end Instance

namespace Kind

variable {k : Kind}

/-- What an answer to a look-up tells. -/
def Answer : Kind → Type
  | .account => AccountList
  | .instance _ => List ListedInstance
  | .attachment => List (Option String)

/-- How an answer to a look-up is read. -/
def answer : (k : Kind) → Json.Record k.Answer
  | .account => accountList
  | .instance _ => instanceList
  | .attachment => boundGroups

/-- **The resource that a look-up finds in an answer**, with what is kept of the attributes known before. Attachments
are not found in one answer. -/
def shown : (k : Kind) → k.Answer → String → k.Config → Option k.Config
  | .account, accounts, id, a => Account.shown accounts id a
  | .instance _, listed, _, i => Instance.found i listed
  | .attachment, _, _, _ => none

/-- **What was taken over from an answer is shown by it.** -/
theorem shown_of_shown {id : String} : ∀ {k : Kind} {told : k.Answer} {a b : k.Config},
    k.shown told id a = some b → k.shown told id b = some b
  | .account, _, _, _, h => by
    obtain ⟨instanceId, userName, hparts, hfound⟩ := Account.parts_of_shown h
    exact (Account.shown_of_parts hparts).trans (Account.found_of_found hfound)
  | .instance _, _, _, _, h => Instance.found_of_found h
  | .attachment, _, _, _, h => by cases h

/-- **How a look-up depends on what it is told.** -/
structure Looked (k : Kind) (id : String) (a : k.Config) (xs : List Exchange)
    (r : Except Failure (Option k.Config)) : Prop where
  /-- What is found is shown by the last answer. -/
  last : ∀ b, r = .ok (some b) → ∃ x, xs.head? = some x ∧ ∀ told, x.Tells k.answer told → k.shown told id a = some b
  /-- What all answers show is found, unless the time is over. -/
  only : ∀ told b, (∀ x ∈ xs, x.Tells k.answer told) → k.shown told id a = some b →
    r = .ok (some b) ∨ ∃ e, r = .error e ∧ e.saysAbsent = false

/-- A call of which the value is looked through. -/
theorem looked_of_called {k : Kind} {id : String} {a : k.Config} {p : Provider} {body : Json} {xs : List Exchange}
    {r : Except Failure k.Answer} (h : Called p p.read k.question body k.answer xs r) :
    k.Looked id a xs (r.map fun told => k.shown told id a) where
  last := fun b hb => by
    cases r with
    | error e => cases hb
    | ok value =>
      obtain ⟨x, hx, htells⟩ := h.exists_last
      refine ⟨x, hx, fun told ht => ?_⟩
      rw [htells told ht]
      exact Except.ok.inj hb
  only := fun told b htells hb => by
    rcases h.eq_of_tells htells with rfl | ⟨e, rfl, he⟩
    · exact .inl (congrArg Except.ok hb)
    · exact .inr ⟨e, rfl, he⟩

/-- What a look-up asks, for the types that ask one question. -/
def inquiry : Kind → String → Option Json
  | .account, id => Account.inquiry id
  | .instance _, id => some (Provider.instanceQuestion id)
  | .attachment, _ => none

/-- **A look-up is a call of which the value is looked through**, or the identity is broken, and nothing is sent. -/
theorem read_calls (p : Provider) (id : String) : ∀ (k : Kind), k ≠ .attachment → ∀ a : k.Config,
    (k.resource.read p id a).Ensures fun xs r =>
      (∃ body called, k.inquiry id = some body ∧ Called p p.read k.question body k.answer xs called ∧
        r = called.map fun told => k.shown told id a) ∨
        k.Broken id ∧ xs = [] ∧ r = .error (.brokenId id)
  | .account, _, a => Account.read_calls p id a
  | .instance _, _, _ => Instance.read_ensures.mono fun _ _ ⟨called, hc, hr⟩ => .inl ⟨_, called, rfl, hc, hr⟩
  | .attachment, hk, _ => absurd rfl hk

/-- Nothing is shown of a broken identity. -/
theorem shown_of_broken {id : String} : ∀ {k : Kind} {a : k.Config}, k.Broken id → ∀ told, k.shown told id a = none
  | .account, _, h, _ => Account.shown_of_broken h _
  | .instance _, _, h, _ => h.elim
  | .attachment, _, _, _ => rfl

/-- **A look-up finds what its last answer shows.** -/
theorem read_looked (p : Provider) (id : String) (k : Kind) (hk : k ≠ .attachment) (a : k.Config) :
    (k.resource.read p id a).Ensures (k.Looked id a) := by
  refine (read_calls p id k hk a).mono fun xs r h => ?_
  rcases h with ⟨body, called, -, hc, rfl⟩ | ⟨hbroken, -, rfl⟩
  · exact looked_of_called hc
  · refine ⟨fun b hb => (by cases hb), fun told b _ hb => ?_⟩
    rw [shown_of_broken hbroken told] at hb
    cases hb

/-- What a look-up finds was told by its last answer. -/
theorem read_told (hk : k ≠ .attachment) (p : Provider) (id : String) (a : k.Config) :
    (k.resource.read p id a).Ensures fun xs r => ∀ b, r = .ok (some b) →
      ∃ x told, xs.head? = some x ∧ x.outcome k.answer = .ok told ∧ k.shown told id a = some b := by
  refine (read_calls p id k hk a).mono fun xs r h b hb => ?_
  rcases h with ⟨body, called, -, hc, rfl⟩ | ⟨-, -, rfl⟩
  · cases called with
    | error e => cases hb
    | ok told =>
      obtain ⟨x, hx, hout⟩ := hc.settled.of_ok
      exact ⟨x, told, hx, hout, Except.ok.inj hb⟩
  · cases hb

end Kind

end Provision
