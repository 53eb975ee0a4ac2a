import Provision.Proofs.Json.Members
import Provision.Proofs.Resource.Parts
import Provision.Proofs.Vendor.Calls

/-!
# Looking resources up

What the vendor says when a resource is looked up. An account does not exist if no user of its instance has its name;
an instance, if none is listed or the first one was destroyed; an attachment, if the group is bound to none of its
instances. An answer may also refuse the question with a code that says so. Main statement: a look-up says that there
is no such resource if and only if the last answers do (`Kind.read_ensures`), and it only asks.
-/

namespace Provision

open Vendor

/-- A result of a look-up that says that there is no such resource. -/
def SaysGone {α : Type} (r : Except Failure (Option α)) : Prop := Denying (· = none) r

theorem saysGone_map {α β : Type} {found : β → Option α} {r : Except Failure β} :
    SaysGone (r.map found) ↔ Denying (fun b => found b = none) r := by
  cases r <;> simp [SaysGone, Denying, Except.map]

theorem not_saysGone_some {α : Type} {a : α} : ¬SaysGone (.ok (some a)) := by
  simp [SaysGone, Denying]

theorem not_saysGone_error {α : Type} {e : Failure} (h : e.saysAbsent = false) :
    ¬SaysGone (.error e : Except Failure (Option α)) := by
  simp [SaysGone, Denying, h]

/-! ## Accounts -/

namespace Account

variable {p : Provider} {id : String} {a : Account}

/-- The vendor says of an instance that it has no user of a name, or that there is no such instance. -/
def DeniedBy (userName : String) (x : Exchange) : Prop :=
  x.Denies accountList fun accounts => ∀ listed ∈ accounts.users, listed.userName ≠ some userName

/-- The last answer says that there is no account of an identity. -/
def Denied (id : String) (xs : List Exchange) : Prop :=
  ∃ instanceId userName, parts id = .ok (instanceId, userName) ∧ ∃ x, xs.head? = some x ∧ DeniedBy userName x

/-- The account of a user name in an answer, with what is known of it. -/
def found (a : Account) (instanceId userName : String) (accounts : AccountList) : Option Account :=
  (accounts.users.find? (·.userName == some userName)).map
    (a.merge (instanceOr accounts.instanceId instanceId) userName)

theorem found_eq_none_iff {instanceId userName : String} {accounts : AccountList} :
    found a instanceId userName accounts = none ↔ ∀ listed ∈ accounts.users, listed.userName ≠ some userName := by
  simp [found]

theorem read_of_error {e : Failure} (h : parts id = .error e) : read p id a = .fail e := by
  rw [read, h]
  rfl

theorem read_of_ok {instanceId userName : String} (h : parts id = .ok (instanceId, userName)) :
    read p id a = p.describeAccounts instanceId >>= fun accounts => pure (found a instanceId userName accounts) := by
  rw [read, h]
  rfl

/-- A look-up lists the accounts of the instance and picks the one of the user name. -/
theorem read_ensures {instanceId userName : String} (h : parts id = .ok (instanceId, userName)) :
    (read p id a).Ensures fun xs r =>
      ∃ r', Called p p.read "DescribeAccounts" (.ofMembers [("InstanceId", .string instanceId)]) accountList xs r' ∧
        r = r'.map (found a instanceId userName) := by
  rw [read_of_ok h]
  exact (p.describeAccounts_ensures instanceId).map _

theorem read_denied (p : Provider) (id : String) (a : Account) : (read p id a).Ensures fun xs r =>
    (∀ x ∈ xs, x.posting.action = "DescribeAccounts") ∧ (Denied id xs ↔ SaysGone r) := by
  cases h : parts id with
  | error e =>
    rw [read_of_error h]
    refine (Run.ensures_fail e).mono fun xs r hr => ?_
    obtain ⟨rfl, rfl⟩ := hr
    rw [parts_error h]
    simp [Denied, h, not_saysGone_error (e := .brokenId id) rfl]
  | ok named =>
    obtain ⟨instanceId, userName⟩ := named
    refine (read_ensures h).mono fun xs r hr => ?_
    obtain ⟨r', hc, rfl⟩ := hr
    have hd : Denied id xs ↔ ∃ x, xs.head? = some x ∧ DeniedBy userName x := by
      simp only [Denied, h, Except.ok.injEq, Prod.mk.injEq]
      exact ⟨fun ⟨_, _, ⟨rfl, rfl⟩, hx⟩ => hx, fun hx => ⟨_, _, ⟨rfl, rfl⟩, hx⟩⟩
    refine ⟨fun x hx => (hc.asks x hx).1, ?_⟩
    simp only [saysGone_map, found_eq_none_iff, ← hc.denies_iff, hd, DeniedBy]

end Account

/-! ## Instances -/

namespace Instance

variable {p : Provider} {id : String} {i : Instance}

/-- The vendor says that there is no instance, or that it was destroyed. -/
def DeniedBy (x : Exchange) : Prop :=
  x.Denies instanceList fun listed => listed = [] ∨ ∃ first, listed.head? = some first ∧ first.status = some destroyed

/-- The last answer says that there is no instance. -/
def Denied (xs : List Exchange) : Prop := ∃ x, xs.head? = some x ∧ DeniedBy x

/-- The instance in an answer, with what is known of it. -/
def found (i : Instance) (listed : List ListedInstance) : Option Instance :=
  (listed.head?.filter fun first => first.status ≠ some destroyed).map i.merge

theorem found_eq_none_iff {listed : List ListedInstance} :
    found i listed = none ↔ listed = [] ∨ ∃ first, listed.head? = some first ∧ first.status = some destroyed := by
  cases listed with
  | nil => simp [found]
  | cons first rest => simp [found, Option.filter_eq_none_iff]

theorem read_eq : read p id i = p.describeInstances id >>= fun listed => pure (found i listed) := by
  unfold read
  congr 1
  funext listed
  rw [found]
  cases listed.head? with
  | none => rfl
  | some first =>
    by_cases h : first.status = some destroyed
    · simp [Option.filter, h]
    · simp [Option.filter, h]

/-- A look-up lists the instances of the identifier and takes the first one. -/
theorem read_ensures : (read p id i).Ensures fun xs r =>
    ∃ r', Called p p.read "DescribeDCDBInstances" (Provider.instanceQuestion id) instanceList xs r' ∧
      r = r'.map (found i) := by
  rw [read_eq]
  exact (p.describeInstances_ensures id).map _

theorem read_denied (p : Provider) (id : String) (i : Instance) : (read p id i).Ensures fun xs r =>
    (∀ x ∈ xs, x.posting.action = "DescribeDCDBInstances") ∧ (Denied xs ↔ SaysGone r) := by
  refine read_ensures.mono fun xs r hr => ?_
  obtain ⟨r', hc, rfl⟩ := hr
  refine ⟨fun x hx => (hc.asks x hx).1, ?_⟩
  simp only [saysGone_map, found_eq_none_iff, ← hc.denies_iff, Denied, DeniedBy]

end Instance

/-! ## Attachments -/

namespace Attachment

variable {p : Provider} {product group : String}

/-- The vendor says that a group is not bound to an instance, or that there is no such instance. -/
def DeniedBy (group : String) (x : Exchange) : Prop := x.Denies boundGroups fun groups => some group ∉ groups

/-- The last exchange about an instance. -/
def lastAbout (instanceId : String) (xs : List Exchange) : Option Exchange :=
  xs.find? fun x => x.posting.body.textOf "InstanceId" == instanceId

/-- The last answer about each instance of an identity says that the group is not bound to it. -/
def Denied (id : String) (xs : List Exchange) : Prop :=
  ∃ instances group, parts id = .ok (instances, group) ∧
    ∀ instanceId ∈ instances, ∃ x, lastAbout instanceId xs = some x ∧ DeniedBy group x

/-- A question about the groups of an instance. -/
def AsksAbout (product instanceId : String) (x : Exchange) : Prop :=
  x.Asks "DescribeDBSecurityGroups" (Provider.boundGroupsQuestion product instanceId)

theorem AsksAbout.instanceId {instanceId : String} {x : Exchange} (h : AsksAbout product instanceId x) :
    x.posting.body.textOf "InstanceId" = instanceId := by
  rw [h.2]
  simp [Provider.boundGroupsQuestion, Json.textOf, Json.get?_ofMembers, Json.find, Json.asString?]

theorem lastAbout_of_asks {instanceId : String} : ∀ {xs : List Exchange}, (∀ x ∈ xs, AsksAbout product instanceId x) →
    lastAbout instanceId xs = xs.head?
  | [], _ => rfl
  | x :: xs, h => by simp [lastAbout, (h x List.mem_cons_self).instanceId]

theorem lastAbout_of_not_mem {instanceId : String} {instances : List String} {xs : List Exchange}
    (h : ∀ x ∈ xs, ∃ i ∈ instances, AsksAbout product i x) (hi : instanceId ∉ instances) :
    lastAbout instanceId xs = none := by
  refine List.find?_eq_none.2 fun x hx he => ?_
  obtain ⟨i, hm, hasks⟩ := h x hx
  rw [hasks.instanceId, beq_iff_eq] at he
  exact hi (he ▸ hm)

/-- What an answer about an instance means: a group is not bound to an instance that does not exist. -/
def boundBy (group : String) : Except Failure (List (Option String)) → Except Failure Bool
  | .ok groups => .ok (groups.contains (some group))
  | .error e => if e.saysAbsent then .ok false else .error e

/-- All other failures stay as they are. -/
theorem boundBy_eq_error_iff {r : Except Failure (List (Option String))} {e : Failure} :
    boundBy group r = .error e ↔ r = .error e ∧ e.saysAbsent = false := by
  cases r with
  | ok groups => simp [boundBy]
  | error e' =>
    cases he : e'.saysAbsent with
    | true =>
      refine iff_of_false (by simp [boundBy, he]) ?_
      rintro ⟨heq, hno⟩
      cases heq
      rw [he] at hno
      cases hno
    | false =>
      simp only [boundBy, he, Bool.false_eq_true, if_false, Except.error.injEq]
      exact ⟨fun h => ⟨h, h ▸ he⟩, And.left⟩

theorem isBound_apply {instanceId : String} (s : Session) : isBound p product group instanceId s =
    (boundBy group (p.describeBoundGroups product instanceId s).1, (p.describeBoundGroups product instanceId s).2) := by
  unfold isBound
  rcases p.describeBoundGroups product instanceId s with ⟨r, t⟩
  cases r with
  | ok groups => rfl
  | error e =>
    dsimp only [boundBy]
    split <;> rfl

/-- What a call that asks about an instance adds. -/
abbrev Asked (p : Provider) (product instanceId : String) (xs : List Exchange)
    (answer : Except Failure (List (Option String))) : Prop :=
  Called p p.read "DescribeDBSecurityGroups" (Provider.boundGroupsQuestion product instanceId) boundGroups xs answer

theorem isBound_ensures {instanceId : String} : (isBound p product group instanceId).Ensures fun xs r =>
    ∃ answer, Asked p product instanceId xs answer ∧ r = boundBy group answer := by
  intro s
  obtain ⟨xs, hxs, h⟩ := p.describeBoundGroups_ensures product instanceId s
  rw [isBound_apply]
  exact ⟨xs, hxs, _, h, rfl⟩

/-- The vendor says that a group is bound to an instance. -/
def BoundBy (group : String) (x : Exchange) : Prop := ∃ groups, x.outcome boundGroups = .ok groups ∧ some group ∈ groups

/-- What is said of an instance. -/
def Says (group : String) (x : Exchange) : Bool → Prop
  | true => BoundBy group x
  | false => DeniedBy group x

theorem says_iff {x : Exchange} (here : Bool) :
    Says group x here ↔ boundBy group (x.outcome boundGroups) = .ok here := by
  cases h : x.outcome boundGroups with
  | ok groups =>
    have hno : ¬x.RefusedAsAbsent := by
      rw [Exchange.refusedAsAbsent_iff boundGroups, h]
      rintro ⟨e, he, -⟩
      cases he
    cases here <;> simp [Says, BoundBy, DeniedBy, Exchange.Denies, boundBy, h, hno]
  | error e =>
    have hrefused : x.RefusedAsAbsent ↔ e.saysAbsent = true := by
      rw [Exchange.refusedAsAbsent_iff boundGroups, h]
      simp
    cases he : e.saysAbsent <;> cases here <;>
      simp [Says, BoundBy, DeniedBy, Exchange.Denies, boundBy, h, hrefused, he]

/-- The vendor does not say both. -/
theorem BoundBy.not_denied {x : Exchange} (h : BoundBy group x) : ¬DeniedBy group x := by
  intro hdenied
  have htrue := (says_iff true).1 h
  rw [(says_iff false).1 hdenied] at htrue
  cases htrue

/-- **Asking about each instance of a list**, one after the other, until it is not known whether the group is bound. -/
inductive Surveyed (p : Provider) (product group : String) :
    List String → List Exchange → Except Failure (List String) → Prop
  | nil : Surveyed p product group [] [] (.ok [])
  | unknown {instanceId : String} {rest : List String} {xs : List Exchange} {answer} {e : Failure}
      (asked : Asked p product instanceId xs answer) (means : boundBy group answer = .error e) :
      Surveyed p product group (instanceId :: rest) xs (.error e)
  | next {instanceId : String} {rest : List String} {xs later : List Exchange} {answer} {here : Bool}
      {r : Except Failure (List String)} (asked : Asked p product instanceId xs answer)
      (means : boundBy group answer = .ok here) (others : Surveyed p product group rest later r) :
      Surveyed p product group (instanceId :: rest) (later ++ xs)
        (r.map fun found => if here then instanceId :: found else found)

theorem bound_ensures : ∀ instances : List String,
    (bound p product group instances).Ensures (Surveyed p product group instances)
  | [] => (Run.ensures_pure []).mono fun xs r h => by
    obtain ⟨rfl, rfl⟩ := h
    exact .nil
  | instanceId :: rest => by
    unfold bound
    refine (isBound_ensures.bind fun here => (bound_ensures rest).map _).mono fun xs r h => ?_
    rcases h with ⟨e, rfl, answer, hasked, hmeans⟩ | ⟨here, later, earlier, rfl, ⟨answer, hasked, hmeans⟩, r', hl, rfl⟩
    · exact .unknown hasked hmeans.symm
    · exact .next hasked hmeans.symm hl

/-- **What an answer means is what the last exchange says.** -/
theorem Asked.says_iff {instanceId : String} {xs : List Exchange} {answer : Except Failure (List (Option String))}
    (h : Asked p product instanceId xs answer) (here : Bool) :
    (∃ x, xs.head? = some x ∧ Says group x here) ↔ boundBy group answer = .ok here := by
  simp only [Attachment.says_iff]
  refine h.settled.head?_iff (D := fun r => boundBy group r = .ok here) (fun _ why => why.own) fun e he hb => ?_
  rw [boundBy, e.saysAbsent_of_inconclusive he] at hb
  cases hb

namespace Surveyed

variable {instances : List String} {xs : List Exchange} {r : Except Failure (List String)} {found : List String}
  {e : Failure}

/-- Each question is about an instance of the list. -/
theorem posts (h : Surveyed p product group instances xs r) : ∀ x ∈ xs, ∃ i ∈ instances,
    p.Posts .dcdb "DescribeDBSecurityGroups" (Provider.boundGroupsQuestion product i) x := by
  induction h with
  | nil => simp
  | unknown asked means => exact fun x hx => ⟨_, List.mem_cons_self, asked.posts x hx⟩
  | next asked means others ih =>
    intro x hx
    rcases List.mem_append.1 hx with hx | hx
    · obtain ⟨i, hi, hposts⟩ := ih x hx
      exact ⟨i, List.mem_cons_of_mem _ hi, hposts⟩
    · exact ⟨_, List.mem_cons_self, asked.posts x hx⟩

theorem asks (h : Surveyed p product group instances xs r) : ∀ x ∈ xs, ∃ i ∈ instances, AsksAbout product i x := by
  intro x hx
  obtain ⟨i, hi, hposts⟩ := h.posts x hx
  exact ⟨i, hi, hposts.asks⟩

/-- Each instance is asked about once, so later exchanges are about other ones. -/
theorem lastAbout_append {instanceId : String} {later earlier : List Exchange}
    (h : Surveyed p product group instances later r) (hi : instanceId ∉ instances)
    (hearlier : ∀ x ∈ earlier, AsksAbout product instanceId x) :
    lastAbout instanceId (later ++ earlier) = earlier.head? ∧
      ∀ i ∈ instances, lastAbout i (later ++ earlier) = lastAbout i later := by
  constructor
  · rw [lastAbout, List.find?_append, ← lastAbout, lastAbout_of_not_mem h.asks hi, Option.none_or]
    exact lastAbout_of_asks hearlier
  · intro i hm
    have hne : i ∉ [instanceId] := fun h => hi (List.mem_singleton.1 h ▸ hm)
    have hnone : lastAbout i earlier = none :=
      lastAbout_of_not_mem (fun x hx => ⟨instanceId, List.mem_cons_self, hearlier x hx⟩) hne
    rw [lastAbout, List.find?_append, ← lastAbout, ← lastAbout, hnone, Option.or_none]

/-- **The instances that are found are those to which the group is bound by the last answer about each of them.** -/
theorem of_ok (h : Surveyed p product group instances xs (.ok found)) (hn : instances.Nodup) :
    found.Sublist instances ∧ ∀ i ∈ instances, ∃ x, lastAbout i xs = some x ∧ Says group x (decide (i ∈ found)) := by
  generalize hr : (Except.ok found : Except Failure (List String)) = r at h
  induction h generalizing found with
  | nil =>
    cases hr
    simp
  | unknown => cases hr
  | @next instanceId rest xs later answer here r asked means others ih =>
    obtain ⟨hi, hrest⟩ := List.nodup_cons.1 hn
    obtain ⟨hself, hother⟩ := others.lastAbout_append hi asked.asks
    cases r with
    | error e => cases hr
    | ok more =>
      obtain ⟨hsub, hall⟩ := ih hrest rfl
      obtain rfl := Except.ok.inj hr
      have hout : instanceId ∉ more := fun h => hi (hsub.subset h)
      refine ⟨?_, fun i hm => ?_⟩
      · cases here with
        | true => exact hsub.cons_cons instanceId
        | false => exact hsub.cons instanceId
      · rcases List.mem_cons.1 hm with rfl | hm
        · obtain ⟨x, hx, hsays⟩ := (asked.says_iff _).2 means
          refine ⟨x, hself.trans hx, ?_⟩
          cases here <;> simpa [hout] using hsays
        · obtain ⟨y, hy, hsays⟩ := hall i hm
          have hne : i ≠ instanceId := fun h => hi (h ▸ hm)
          refine ⟨y, (hother i hm).trans hy, ?_⟩
          cases here <;> simpa [hne] using hsays

/-- Of some instance it is not known whether the group is bound to it. -/
theorem of_error (h : Surveyed p product group instances xs (.error e)) (hn : instances.Nodup) :
    e.saysAbsent = false ∧ ∃ i ∈ instances, ∀ x, lastAbout i xs = some x → ¬DeniedBy group x := by
  generalize hr : (Except.error e : Except Failure (List String)) = r at h
  induction h with
  | nil => cases hr
  | unknown asked means =>
    cases hr
    refine ⟨(boundBy_eq_error_iff.1 means).2, _, List.mem_cons_self, fun x hx hdenied => ?_⟩
    rw [lastAbout_of_asks asked.asks] at hx
    rw [(asked.says_iff false).1 ⟨x, hx, hdenied⟩] at means
    cases means
  | @next instanceId rest xs later answer here r asked means others ih =>
    obtain ⟨hi, hrest⟩ := List.nodup_cons.1 hn
    obtain ⟨-, hother⟩ := others.lastAbout_append hi asked.asks
    cases r with
    | ok more => cases hr
    | error e' =>
      cases hr
      obtain ⟨habs, i, hm, hno⟩ := ih hrest rfl
      exact ⟨habs, i, List.mem_cons_of_mem _ hm, by rwa [hother i hm]⟩

/-- The failure is that of the last question. -/
theorem failing (h : Surveyed p product group instances xs (.error e)) :
    Failing p p.read "DescribeDBSecurityGroups" boundGroups xs e := by
  generalize hr : (Except.error e : Except Failure (List String)) = r at h
  induction h with
  | nil => cases hr
  | unknown asked means =>
    cases hr
    rw [(boundBy_eq_error_iff.1 means).1] at asked
    exact asked.failing
  | @next instanceId rest xs later answer here r asked means others ih =>
    cases r with
    | ok more => cases hr
    | error e' =>
      cases hr
      cases ih rfl with
      | answered handed => exact .answered handed
      | unwritten why =>
        -- the answer before was asked for, so requests can be written
        obtain ⟨x, hx, -⟩ := (asked.says_iff _).2 means
        exact absurd why (asked.posts x (List.mem_of_mem_head? hx)).not_unwritten

end Surveyed

theorem read_of_error {id : String} {a : Attachment} {e : Failure} (h : parts id = .error e) :
    read p id a = .fail e := by
  rw [read, h]
  rfl

/-- The instances that were found, as an attachment of a group. -/
def foundOf (a : Attachment) (group : String) (found : List String) : Option Attachment :=
  if found = [] then none else some ⟨productOr a.product, group, .ofList found⟩

theorem read_of_ok {id : String} {a : Attachment} {instances : StringSet} (h : parts id = .ok (instances, group)) :
    read p id a =
      bound p (productOr a.product) group instances.toList >>= fun found => pure (foundOf a group found) := by
  rw [read, h]
  rfl

/-- A look-up asks about each instance of the identity. -/
theorem read_ensures {id : String} {a : Attachment} {instances : StringSet} (h : parts id = .ok (instances, group)) :
    (read p id a).Ensures fun xs r =>
      ∃ r', Surveyed p (productOr a.product) group instances.toList xs r' ∧ r = r'.map (foundOf a group) := by
  rw [read_of_ok h]
  exact (bound_ensures instances.toList).map _

theorem nodup_toList (instances : StringSet) : instances.toList.Nodup := instances.ordered.imp String.ne_of_lt

/-- All instances are denied if and only if none is found. -/
theorem denied_iff {id : String} {a : Attachment} {instances : StringSet} {xs : List Exchange}
    {r : Except Failure (List String)} (h : parts id = .ok (instances, group))
    (hs : Surveyed p product group instances.toList xs r) :
    Denied id xs ↔ Denying (fun found => foundOf a group found = none) r := by
  have hd : Denied id xs ↔ ∀ i ∈ instances.toList, ∃ x, lastAbout i xs = some x ∧ DeniedBy group x := by
    simp only [Denied, h, Except.ok.injEq, Prod.mk.injEq]
    exact ⟨fun ⟨_, _, ⟨rfl, rfl⟩, hall⟩ => hall, fun hall => ⟨_, _, ⟨rfl, rfl⟩, hall⟩⟩
  rw [hd]
  cases r with
  | error e =>
    obtain ⟨habs, i, hm, hno⟩ := hs.of_error (nodup_toList instances)
    refine ⟨fun hall => ?_, ?_⟩
    · obtain ⟨x, hx, hdx⟩ := hall i hm
      exact absurd hdx (hno x hx)
    · rintro (⟨e', he', habs'⟩ | ⟨_, h', -⟩)
      · cases he'
        rw [habs] at habs'
        cases habs'
      · cases h'
  | ok found =>
    obtain ⟨hsub, hall⟩ := hs.of_ok (nodup_toList instances)
    have hnone : Denying (fun found => foundOf a group found = none) (.ok found) ↔ found = [] := by
      simp [Denying, foundOf]
    rw [hnone]
    refine ⟨fun hden => List.eq_nil_iff_forall_not_mem.2 fun i hi => ?_, ?_⟩
    · obtain ⟨x, hx, hsays⟩ := hall i (hsub.subset hi)
      obtain ⟨y, hy, hdy⟩ := hden i (hsub.subset hi)
      obtain rfl : x = y := Option.some.inj (hx.symm.trans hy)
      rw [decide_eq_true hi] at hsays
      exact BoundBy.not_denied hsays hdy
    · rintro rfl i hi
      obtain ⟨x, hx, hsays⟩ := hall i hi
      rw [decide_eq_false (List.not_mem_nil)] at hsays
      exact ⟨x, hx, hsays⟩

theorem read_denied (p : Provider) (id : String) (a : Attachment) : (read p id a).Ensures fun xs r =>
    (∀ x ∈ xs, x.posting.action = "DescribeDBSecurityGroups") ∧ (Denied id xs ↔ SaysGone r) := by
  cases h : parts id with
  | error e =>
    rw [read_of_error h]
    refine (Run.ensures_fail e).mono fun xs r hr => ?_
    obtain ⟨rfl, rfl⟩ := hr
    rw [parts_error h]
    simp [Denied, h, not_saysGone_error (e := .brokenId id) rfl]
  | ok named =>
    obtain ⟨instances, group⟩ := named
    refine (read_ensures h).mono fun xs r hr => ?_
    obtain ⟨r', hs, rfl⟩ := hr
    refine ⟨fun x hx => ?_, ?_⟩
    · obtain ⟨i, -, ha⟩ := hs.asks x hx
      exact ha.1
    · rw [saysGone_map, ← denied_iff h hs]

end Attachment

/-! ## All types -/

namespace Kind

/-- The action by which resources of a type are looked up. -/
def question : Kind → String
  | .account => "DescribeAccounts"
  | .instance _ => "DescribeDCDBInstances"
  | .attachment => "DescribeDBSecurityGroups"

/-- **The last answers, of exchanges with the latest first, say that there is no resource of an identity.** -/
def Denied : Kind → String → List Exchange → Prop
  | .account, id, xs => Account.Denied id xs
  | .instance _, _, xs => Instance.Denied xs
  | .attachment, id, xs => Attachment.Denied id xs

/-- **A look-up only asks, and says that there is no such resource if and only if the last answers do.** -/
theorem read_ensures (p : Provider) (id : String) : ∀ (k : Kind) (a : k.Config),
    (k.resource.read p id a).Ensures fun xs r =>
      (∀ x ∈ xs, x.posting.action = k.question) ∧ (k.Denied id xs ↔ SaysGone r)
  | .account, a => Account.read_denied p id a
  | .instance _, i => Instance.read_denied p id i
  | .attachment, a => Attachment.read_denied p id a

end Kind

end Provision
