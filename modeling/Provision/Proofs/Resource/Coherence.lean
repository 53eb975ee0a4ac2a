import Provision.Proofs.Resource.CreatedIdentity
import Provision.Proofs.Resource.AccountHost
import Provision.Proofs.Resource.Kept

/-!
# Identity and attributes agree

The identity of an account ends with its user name; the identity of an attachment ends with its group, and names all
instances that are known to be bound, of which there is at least one (`Account.Coherent`, `Attachment.Coherent`). A
look-up takes user name and group from the identity and finds bound instances among those of the identity only, and
none of these fields can change in place, so every step keeps the agreement. Main statement: it holds after every step
that begins with an absent resource, and a deletion of an attachment releases exactly the instances that are known
(`courses_coherent`).
-/

namespace Provision

open Json Vendor

/-! ## Accounts -/

namespace Account

/-- The identity ends with the user name. -/
def Coherent (id : String) (a : Account) : Prop := ∃ instanceId, Identity.split? 2 id = some [instanceId, a.userName]

theorem coherent_of_takenOver {id : String} {a b : Account} {xs : List Exchange} (h : TakenOver id a xs b) :
    Coherent id b := by
  obtain ⟨instanceId, userName, _, _, _, hid, -, -, -, rfl⟩ := h
  exact ⟨instanceId, hid⟩

theorem keeps_coherent : resource.Keeps (fun _ => True) Coherent where
  blank := trivial
  known := fun _ => trivial
  found := fun {p id a b s} _ hr => by
    obtain ⟨_, -, htaken⟩ := read_takesOver p id a s
    exact coherent_of_takenOver (htaken b hr)
  planned := fun {id a b names} _ ⟨instanceId, hid⟩ hchanges => by
    have huser : a.userName = b.userName :=
      Resource.text_eq_of_fixed hchanges (by decide : schema.Fixes "user_name" .string) (get?_userName a)
        (get?_userName b)
    exact ⟨instanceId, huser ▸ hid⟩

end Account

/-! ## Attachments -/

namespace Attachment

variable {p : Provider} {id group : String} {a b : Attachment} {st : ResourceState Attachment} {s : Session}

/-- The identity ends with the group and names the known instances, of which there is at least one. -/
def Coherent (id : String) (a : Attachment) : Prop :=
  ∃ list, Identity.split? 2 id = some [list, a.securityGroupId] ∧ a.instanceIds.toList ≠ [] ∧
    ∀ i ∈ a.instanceIds, i ∈ instancesOf list

theorem foundOf_eq_some {found : List String} (h : foundOf a group found = some b) :
    found ≠ [] ∧ b.securityGroupId = group ∧ b.instanceIds = .ofList found := by
  unfold foundOf at h
  split at h
  · cases h
  · cases h
    exact ⟨by assumption, rfl, rfl⟩

/-- What a look-up finds is among what the identity names. -/
theorem coherent_of_read (h : (read p id a s).1 = .ok (some b)) : Coherent id b := by
  cases hp : parts id with
  | error e =>
    rw [read_of_error hp] at h
    cases h
  | ok named =>
    obtain ⟨instances, group⟩ := named
    obtain ⟨_, -, r, hsurvey, hr⟩ := read_ensures hp s
    rw [hr] at h
    cases r with
    | error e => cases h
    | ok found =>
      obtain ⟨hne, hgroup, hinstances⟩ := foundOf_eq_some (Except.ok.inj h)
      obtain ⟨list, hid, rfl, -⟩ := parts_eq_ok_iff.1 hp
      obtain ⟨first, hfirst⟩ := List.exists_mem_of_ne_nil found hne
      refine ⟨list, hgroup ▸ hid, ?_, fun i hi => ?_⟩
      · rw [hinstances]
        exact List.ne_nil_of_mem (StringSet.mem_ofList.2 hfirst)
      · rw [hinstances, StringSet.mem_ofList] at hi
        exact (hsurvey.of_ok (nodup_toList _)).1.subset hi

theorem keeps_coherent : resource.Keeps (fun _ => True) Coherent where
  blank := trivial
  known := fun _ => trivial
  found := fun _ hr => coherent_of_read hr
  planned := fun {id a b names} _ ⟨list, hid, hne, hall⟩ hchanges => by
    have hgroup : a.securityGroupId = b.securityGroupId :=
      Resource.text_eq_of_fixed hchanges (by decide : schema.Fixes "security_group_id" .string)
        (get?_securityGroupId a) (get?_securityGroupId b)
    have hinstances : a.instanceIds = b.instanceIds :=
      Resource.set_eq_of_fixed hchanges (by decide : schema.Fixes "instance_ids" .stringSet) (get?_instanceIds a)
        (get?_instanceIds b)
    rw [hgroup] at hid
    rw [hinstances] at hne hall
    exact ⟨list, hid, hne, hall⟩

/-- Known instances that the identity names are those to release. -/
theorem boundInstances_of_subset {named known : StringSet} {first : String} (hfirst : first ∈ known)
    (h : ∀ i ∈ known, i ∈ named) : boundInstances named known = known := by
  rw [boundInstances, isEmpty_of_mem hfirst, if_neg Bool.false_ne_true]
  exact StringSet.ext fun i => StringSet.mem_inter.trans (and_iff_right_of_imp (h i))

/-- **A deletion is one call, and it names exactly the known instances.** -/
theorem delete_of_coherent (p : Provider) (h : Coherent id a) :
    delete p id a = p.disassociateSecurityGroups (productOr a.product) a.securityGroupId a.instanceIds := by
  obtain ⟨list, hid, hne, hall⟩ := h
  obtain ⟨first, hfirst⟩ := List.exists_mem_of_ne_nil _ hne
  have hparts : parts id = .ok (instancesOf list, a.securityGroupId) :=
    parts_eq_ok_iff.2 ⟨list, hid, rfl, List.ne_nil_of_mem (hall first hfirst)⟩
  rw [delete, hparts, Run.ofExcept_ok, pure_bind]
  dsimp only
  rw [boundInstances_of_subset hfirst hall, isEmpty_of_mem hfirst, if_neg Bool.false_ne_true]

/-- What a deletion adds: calls that release the known instances from the known group. -/
def Releases (p : Provider) (a : Attachment) (xs : List Exchange) (r : Except Failure Unit) : Prop :=
  Called p p.write "DisassociateSecurityGroups" (bindingBody (productOr a.product) a.securityGroupId a.instanceIds)
    acknowledgement xs r

theorem remove_releases (p : Provider) (s : Session) (hp : st.present = true) (h : Coherent st.id st.attributes) :
    (resource.remove p st s).Ends s fun xs r _ => st.attributes.Releases p xs r := by
  refine Resource.remove_ends_of_delete hp ?_ s
  change (delete p st.id st.attributes).Ensures _
  rw [delete_of_coherent p h]
  exact p.disassociateSecurityGroups_ensures _ _ _

end Attachment

/-! ## Whole courses -/

/-- **After every step of a course that begins with an absent resource, identity and attributes agree, and a deletion
of an attachment calls for the release of exactly the known instances.** -/
theorem courses_coherent (p : Provider) (s : Session) :
    (∀ (a : Account) (steps : List (Step Account)), ∀ t ∈ course (Account.resource.take p) steps ⟨"", a⟩ s,
      t.state.Holds Account.Coherent) ∧
    ∀ (a : Attachment) (steps : List (Step Attachment)), ∀ t ∈ course (Attachment.resource.take p) steps ⟨"", a⟩ s,
      t.state.Holds Attachment.Coherent ∧
      (t.state.present = true → ∀ p s, (Attachment.resource.remove p t.state s).Ends s fun xs r _ =>
        t.state.attributes.Releases p xs r) := by
  refine ⟨fun a steps => ?_, fun a steps t ht => ?_⟩
  · exact Account.keeps_coherent.course (fun x _ => x.uses_true) (ResourceState.holds_empty a)
  · have hholds : t.state.Holds Attachment.Coherent :=
      Attachment.keeps_coherent.course (fun x _ => x.uses_true) (ResourceState.holds_empty a) t ht
    exact ⟨hholds, fun hp p s => Attachment.remove_releases p s hp (hholds hp)⟩

/-- An answer that lists an account and a group. -/
def listedText : String :=
  "\x7b\"Response\":\x7b\"Users\":[\x7b\"UserName\":\"root\"\x7d]," ++
    "\"Groups\":[\x7b\"SecurityGroupId\":\"sg-1\"\x7d]\x7d\x7d"

/-- An account is imported from such an answer. -/
theorem Account.importFrom_listed : ∃ a t, a.userName = "root" ∧
    resource.importFrom (.saying listedText) "dcdbt-1#root" {} = (.ok ⟨"dcdbt-1#root", a⟩, t) := by
  have told : ∀ x : Posting, (⟨x, .answer 200 listedText⟩ : Exchange).outcome accountList =
      .ok { users := [{ userName := some "root" }] } := fun x => by cbv
  have hparts : parts "dcdbt-1#root" = .ok ("dcdbt-1", "root") := by rfl
  obtain ⟨-, t, -, -, hread, -⟩ := read_of_told (p := .saying listedText) (a := {}) (s := {}) Client.plain_writable
    hparts (fun x _ => told x) (not_transient_ok _)
  refine ⟨{ instanceId := "dcdbt-1", userName := "root" }, t, rfl, Resource.importFrom_of_some (by decide) ?_⟩
  rw [resource_read]
  exact hread

/-- An attachment is imported from such an answer. -/
theorem Attachment.importFrom_listed : ∃ t,
    resource.importFrom (.saying listedText) "dcdbt-1#sg-1" {} = (.ok ⟨"dcdbt-1#sg-1", .sample⟩, t) := by
  have written : Client.isHeaderValue "DescribeDBSecurityGroups" = true := by decide
  have told : ∀ x : Posting, (⟨x, .answer 200 listedText⟩ : Exchange).outcome boundGroups = .ok [some "sg-1"] :=
    fun x => by cbv
  obtain ⟨-, t, -, -, hr, -⟩ := Provider.retried_of_saying written told .dcdb
    (Provider.boundGroupsQuestion "dcdb" "dcdbt-1") (Provider.saying listedText).read "DescribeDBSecurityGroups" {}
  have hlist : (Provider.saying listedText).describeBoundGroups "dcdb" "dcdbt-1" {} = (.ok [some "sg-1"], t) := hr
  have hbound : bound (.saying listedText) "dcdb" "sg-1" ["dcdbt-1"] {} = (.ok ["dcdbt-1"], t) := by
    have here : isBound (.saying listedText) "dcdb" "sg-1" "dcdbt-1" {} = (.ok true, t) := by
      rw [isBound, hlist]
      rfl
    rw [bound, Run.bind_ok here]
    rfl
  have hparts : parts "dcdbt-1#sg-1" = .ok (.singleton "dcdbt-1", "sg-1") := by rfl
  refine ⟨t, Resource.importFrom_of_some (by decide) ?_⟩
  change read (.saying listedText) "dcdbt-1#sg-1" {} {} = _
  rw [read_of_ok hparts]
  exact Run.bind_ok hbound

theorem courses_coherent_imported : ∃ (a : Account) (t u : Session),
    Account.resource.importFrom (.saying listedText) "dcdbt-1#root" {} = (.ok ⟨"dcdbt-1#root", a⟩, t) ∧
    Attachment.resource.importFrom (.saying listedText) "dcdbt-1#sg-1" {} = (.ok ⟨"dcdbt-1#sg-1", .sample⟩, u) ∧
    Account.Coherent "dcdbt-1#root" a ∧ Attachment.Coherent "dcdbt-1#sg-1" .sample ∧
    (Attachment.resource.remove (.saying listedText) ⟨"dcdbt-1#sg-1", .sample⟩ u).Ends u fun xs r _ =>
      Attachment.sample.Releases (.saying listedText) xs r := by
  obtain ⟨a, t, -, ha⟩ := Account.importFrom_listed
  obtain ⟨u, hb⟩ := Attachment.importFrom_listed
  obtain ⟨haccounts, hattachments⟩ := courses_coherent (.saying listedText) {}
  refine ⟨a, t, u, ha, hb, ?_, ?_⟩
  · refine haccounts {} [.importFrom "dcdbt-1#root"] ⟨.ok none, ⟨"dcdbt-1#root", a⟩, t⟩ ?_ rfl
    rw [course, Resource.take, ha]
    exact List.mem_cons_self
  · have hmem : ⟨.ok none, ⟨"dcdbt-1#sg-1", .sample⟩, u⟩ ∈
        course (Attachment.resource.take (.saying listedText)) [.importFrom "dcdbt-1#sg-1"] ⟨"", {}⟩ {} := by
      rw [course, Resource.take, hb]
      exact List.mem_cons_self
    obtain ⟨hcoherent, hreleases⟩ := hattachments {} [.importFrom "dcdbt-1#sg-1"] _ hmem
    exact ⟨hcoherent rfl, hreleases rfl (.saying listedText) u⟩

end Provision
