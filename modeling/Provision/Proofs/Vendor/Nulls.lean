import Provision.Proofs.Json.Nulls
import Provision.Proofs.Vendor.Answers
import Provision.Proofs.Vendor.Writable
import Provision.Vendor.Groups

/-!
# Null in answers

What is known of the members of an answer: the fields of its record and those of the items it lists. All of them can be
null, except for the lists of an answer and the counters of how often a group is used (`Answers`). An answer that loses
a member that is null and can be stands for the same (`Exchange.outcome_of_loses`), and one whose list or counter is
null cannot be read (`Exchange.outcome_of_spoilt`). Main statement: a call of an action does not tell null from absent
where null can be (`Provider.null_as_absent`). For the lists of an answer it does (`Provider.null_list`).
-/

namespace Provision

open Json

namespace Vendor

/-! ## Layouts of answers -/

section Layouts

variable {σ : Type}

/-- A record without lists, of which each field can be null. -/
def flatLayout (r : Record σ) : Layout := r.layout [] fun _ => .scalar

/-- A record that lists items under a name; the list cannot be null. -/
def listLayout (r : Record σ) (name : String) (item : Layout) : Layout :=
  r.layout [name] fun n => if n = name then .list item else .scalar

/-- An instance lists its tags, and that list can be null. -/
def instanceLayout : Layout :=
  listedInstance.layout [] fun n => if n = "ResourceTags" then .list (flatLayout listedTag) else .scalar

/-- The counters of how often a group is used cannot be null. -/
def usageLayout : Layout := usage.layout ["CVM", "CDB", "ENI", "SG", "CLB", "TotalCount"] fun _ => .scalar

variable {blank : σ} {strict : List String} {inner : String → Layout} {name : String}

theorem takes_text {put : Option String → σ → σ} (hname : name ∉ strict) (hblank : put none blank = blank)
    (hinner : inner name = .scalar) : (text name put).Takes blank strict inner :=
  Record.takes_option hname hblank (hinner ▸ Reading.follows_scalar _)

theorem takes_integer {put : Option Int → σ → σ} (hname : name ∉ strict) (hblank : put none blank = blank)
    (hinner : inner name = .scalar) : (integer name put).Takes blank strict inner :=
  Record.takes_option hname hblank (hinner ▸ Reading.follows_scalar _)

theorem takes_unusedText (hname : name ∉ strict) (hinner : inner name = .scalar) :
    (unusedText name).Takes blank strict inner :=
  Record.takes_option hname rfl (hinner ▸ Reading.follows_scalar _)

theorem takes_unusedInteger (hname : name ∉ strict) (hinner : inner name = .scalar) :
    (unusedInteger name).Takes blank strict inner :=
  Record.takes_option hname rfl (hinner ▸ Reading.follows_scalar _)

end Layouts

/-! ## Records of answers -/

theorem follows_createdAccount : createdAccount.reading.Follows (flatLayout createdAccount) := by
  refine Record.follows (by decide) ?_ ?_
  · simp only [createdAccount, List.pairwise_cons, List.forall_mem_cons, List.not_mem_nil, false_implies, implies_true,
      List.Pairwise.nil, and_true]
    and_intros <;> exact Record.apart_keeping fun _ _ _ => rfl
  · simp only [createdAccount, List.forall_mem_cons, List.not_mem_nil, false_implies, implies_true, and_true]
    exact ⟨takes_text (by decide) rfl rfl, takes_unusedText (by decide) rfl, takes_unusedText (by decide) rfl,
      takes_unusedInteger (by decide) rfl, takes_unusedText (by decide) rfl⟩

theorem follows_acknowledgement : acknowledgement.reading.Follows (flatLayout acknowledgement) := by
  refine Record.follows (by decide) ?_ ?_
  · exact List.pairwise_singleton _ _
  · simp only [acknowledgement, List.forall_mem_cons, List.not_mem_nil, false_implies, implies_true, and_true]
    exact takes_unusedText (by decide) rfl

theorem follows_listedAccount : listedAccount.reading.Follows (flatLayout listedAccount) := by
  refine Record.follows (by decide) ?_ ?_
  · simp only [listedAccount, List.pairwise_cons, List.forall_mem_cons, List.not_mem_nil, false_implies, implies_true,
      List.Pairwise.nil, and_true]
    and_intros <;> exact Record.apart_keeping fun _ _ _ => rfl
  · simp only [listedAccount, List.forall_mem_cons, List.not_mem_nil, false_implies, implies_true, and_true]
    exact ⟨takes_text (by decide) rfl rfl, takes_text (by decide) rfl rfl, takes_text (by decide) rfl rfl,
      takes_unusedText (by decide) rfl, takes_unusedText (by decide) rfl, takes_integer (by decide) rfl rfl,
      takes_unusedInteger (by decide) rfl, Record.takes_option (by decide) rfl (Reading.follows_scalar _)⟩

theorem follows_accountList :
    accountList.reading.Follows (listLayout accountList "Users" (flatLayout listedAccount)) := by
  refine Record.follows (by decide) ?_ ?_
  · simp only [accountList, List.pairwise_cons, List.forall_mem_cons, List.not_mem_nil, false_implies, implies_true,
      List.Pairwise.nil, and_true]
    and_intros <;> exact Record.apart_keeping fun _ _ _ => rfl
  · simp only [accountList, List.forall_mem_cons, List.not_mem_nil, false_implies, implies_true, and_true]
    exact ⟨takes_text (by decide) rfl rfl, Record.takes_strict (by decide) rfl follows_listedAccount.list,
      takes_unusedText (by decide) rfl⟩

theorem follows_createdInstances :
    createdInstances.reading.Follows (listLayout createdInstances "InstanceIds" .scalar) := by
  refine Record.follows (by decide) ?_ ?_
  · simp only [createdInstances, List.pairwise_cons, List.forall_mem_cons, List.not_mem_nil, false_implies,
      implies_true, List.Pairwise.nil, and_true]
    and_intros <;> exact Record.apart_keeping fun _ _ _ => rfl
  · simp only [createdInstances, List.forall_mem_cons, List.not_mem_nil, false_implies, implies_true, and_true]
    exact ⟨takes_unusedText (by decide) rfl, Record.takes_strict (by decide) rfl (Reading.follows_scalar _).list,
      takes_unusedInteger (by decide) rfl, takes_unusedText (by decide) rfl⟩

theorem follows_listedTag : listedTag.reading.Follows (flatLayout listedTag) := by
  refine Record.follows (by decide) ?_ ?_
  · simp only [listedTag, List.pairwise_cons, List.forall_mem_cons, List.not_mem_nil, false_implies, implies_true,
      List.Pairwise.nil, and_true]
    refine Record.Field.Apart.absence ?_ _ _
    exact Record.apart_keeping fun _ _ _ => rfl
  · simp only [listedTag, List.forall_mem_cons, List.not_mem_nil, false_implies, implies_true, and_true]
    exact ⟨(takes_text (by decide) rfl rfl).absence _, (takes_text (by decide) rfl rfl).absence _⟩

theorem follows_listedInstance : listedInstance.reading.Follows instanceLayout := by
  refine Record.follows (by decide) ?_ ?_
  · simp only [listedInstance, List.pairwise_cons, List.forall_mem_cons, List.not_mem_nil, false_implies, implies_true,
      List.Pairwise.nil, and_true]
    and_intros <;> exact Record.apart_keeping fun _ _ _ => rfl
  · simp only [listedInstance, List.forall_mem_cons, List.not_mem_nil, false_implies, implies_true, and_true]
    exact ⟨takes_unusedText (by decide) rfl, takes_text (by decide) rfl rfl, takes_integer (by decide) rfl rfl,
      takes_unusedText (by decide) rfl, takes_text (by decide) rfl rfl, takes_integer (by decide) rfl rfl,
      takes_unusedText (by decide) rfl, takes_unusedText (by decide) rfl, takes_unusedInteger (by decide) rfl,
      takes_unusedText (by decide) rfl, takes_integer (by decide) rfl rfl, takes_integer (by decide) rfl rfl,
      takes_integer (by decide) rfl rfl, takes_integer (by decide) rfl rfl, takes_text (by decide) rfl rfl,
      takes_text (by decide) rfl rfl, takes_text (by decide) rfl rfl, takes_unusedText (by decide) rfl,
      Record.takes_option (by decide) rfl follows_listedTag.list⟩

theorem follows_instanceList : instanceList.reading.Follows (listLayout instanceList "Instances" instanceLayout) := by
  refine Record.follows (by decide) ?_ ?_
  · simp only [instanceList, List.pairwise_cons, List.forall_mem_cons, List.not_mem_nil, false_implies, implies_true,
      List.Pairwise.nil, and_true]
    and_intros <;> exact Record.apart_keeping fun _ _ _ => rfl
  · simp only [instanceList, List.forall_mem_cons, List.not_mem_nil, false_implies, implies_true, and_true]
    exact ⟨takes_unusedInteger (by decide) rfl, Record.takes_strict (by decide) rfl follows_listedInstance.list,
      takes_unusedText (by decide) rfl⟩

theorem follows_destroyedInstance : destroyedInstance.reading.Follows (flatLayout destroyedInstance) := by
  refine Record.follows (by decide) ?_ ?_
  · simp only [destroyedInstance, List.pairwise_cons, List.forall_mem_cons, List.not_mem_nil, false_implies,
      implies_true, List.Pairwise.nil, and_true]
    and_intros <;> exact Record.apart_keeping fun _ _ _ => rfl
  · simp only [destroyedInstance, List.forall_mem_cons, List.not_mem_nil, false_implies, implies_true, and_true]
    exact ⟨takes_unusedText (by decide) rfl, takes_unusedInteger (by decide) rfl, takes_unusedText (by decide) rfl⟩

theorem follows_boundGroup : boundGroup.reading.Follows (flatLayout boundGroup) := by
  refine Record.follows (by decide) ?_ ?_
  · simp only [boundGroup, List.pairwise_cons, List.forall_mem_cons, List.not_mem_nil, false_implies, implies_true,
      List.Pairwise.nil, and_true]
    and_intros <;> exact Record.apart_keeping fun _ _ _ => rfl
  · simp only [boundGroup, List.forall_mem_cons, List.not_mem_nil, false_implies, implies_true, and_true]
    exact ⟨takes_unusedInteger (by decide) rfl, takes_unusedText (by decide) rfl, takes_text (by decide) rfl rfl,
      takes_unusedText (by decide) rfl, takes_unusedText (by decide) rfl⟩

theorem follows_boundGroups :
    boundGroups.reading.Follows (listLayout boundGroups "Groups" (flatLayout boundGroup)) := by
  refine Record.follows (by decide) ?_ ?_
  · simp only [boundGroups, List.pairwise_cons, List.forall_mem_cons, List.not_mem_nil, false_implies, implies_true,
      List.Pairwise.nil, and_true]
    and_intros <;> exact Record.apart_keeping fun _ _ _ => rfl
  · simp only [boundGroups, List.forall_mem_cons, List.not_mem_nil, false_implies, implies_true, and_true]
    exact ⟨Record.takes_strict (by decide) rfl follows_boundGroup.list, takes_unusedText (by decide) rfl,
      takes_unusedInteger (by decide) rfl, takes_unusedText (by decide) rfl⟩

theorem follows_listedGroup : listedGroup.reading.Follows (flatLayout listedGroup) := by
  refine Record.follows (by decide) ?_ ?_
  · simp only [listedGroup, List.pairwise_cons, List.forall_mem_cons, List.not_mem_nil, false_implies, implies_true,
      List.Pairwise.nil, and_true]
    and_intros <;> exact Record.apart_keeping fun _ _ _ => rfl
  · simp only [listedGroup, List.forall_mem_cons, List.not_mem_nil, false_implies, implies_true, and_true]
    exact ⟨takes_text (by decide) rfl rfl, takes_text (by decide) rfl rfl, takes_text (by decide) rfl rfl,
      takes_text (by decide) rfl rfl, Record.takes_option (by decide) rfl (Reading.follows_scalar _),
      takes_text (by decide) rfl rfl, takes_text (by decide) rfl rfl⟩

theorem follows_groupPage :
    groupPage.reading.Follows (listLayout groupPage "SecurityGroupSet" (flatLayout listedGroup)) := by
  refine Record.follows (by decide) ?_ ?_
  · simp only [groupPage, List.pairwise_cons, List.forall_mem_cons, List.not_mem_nil, false_implies, implies_true,
      List.Pairwise.nil, and_true]
    and_intros <;> exact Record.apart_keeping fun _ _ _ => rfl
  · simp only [groupPage, List.forall_mem_cons, List.not_mem_nil, false_implies, implies_true, and_true]
    exact ⟨Record.takes_option (by decide) rfl (Reading.follows_scalar _),
      Record.takes_strict (by decide) rfl follows_listedGroup.list, takes_unusedText (by decide) rfl⟩

theorem follows_usage : usage.reading.Follows usageLayout := by
  refine Record.follows (by decide) ?_ ?_
  · simp only [usage, List.pairwise_cons, List.forall_mem_cons, List.not_mem_nil, false_implies, implies_true,
      List.Pairwise.nil, and_true]
    and_intros <;> exact Record.apart_keeping fun _ _ _ => rfl
  · simp only [usage, List.forall_mem_cons, List.not_mem_nil, false_implies, implies_true, and_true]
    exact ⟨takes_text (by decide) rfl rfl, Record.takes_strict (by decide) rfl (Reading.follows_scalar _),
      Record.takes_strict (by decide) rfl (Reading.follows_scalar _),
      Record.takes_strict (by decide) rfl (Reading.follows_scalar _),
      Record.takes_strict (by decide) rfl (Reading.follows_scalar _),
      Record.takes_strict (by decide) rfl (Reading.follows_scalar _),
      Record.takes_strict (by decide) rfl (Reading.follows_scalar _)⟩

theorem follows_usages :
    usages.reading.Follows (listLayout usages "SecurityGroupAssociationStatisticsSet" usageLayout) := by
  refine Record.follows (by decide) ?_ ?_
  · simp only [usages, List.pairwise_cons, List.forall_mem_cons, List.not_mem_nil, false_implies, implies_true,
      List.Pairwise.nil, and_true]
    exact Record.apart_keeping fun _ _ _ => rfl
  · simp only [usages, List.forall_mem_cons, List.not_mem_nil, false_implies, implies_true, and_true]
    exact ⟨Record.takes_strict (by decide) rfl follows_usage.list, takes_unusedText (by decide) rfl⟩

/-- **The actions of the vendor, the records of their answers, and what is known of their members.** -/
inductive Answers : String → {α : Type} → Record α → Layout → Prop
  | createAccount : Answers "CreateAccount" createdAccount (flatLayout createdAccount)
  | describeAccounts :
      Answers "DescribeAccounts" accountList (listLayout accountList "Users" (flatLayout listedAccount))
  | modifyAccountDescription : Answers "ModifyAccountDescription" acknowledgement (flatLayout acknowledgement)
  | deleteAccount : Answers "DeleteAccount" acknowledgement (flatLayout acknowledgement)
  | createInstance (billing : Billing) :
      Answers billing.createAction createdInstances (listLayout createdInstances "InstanceIds" .scalar)
  | describeInstances :
      Answers "DescribeDCDBInstances" instanceList (listLayout instanceList "Instances" instanceLayout)
  | modifyInstanceName : Answers "ModifyDBInstanceName" acknowledgement (flatLayout acknowledgement)
  | destroyInstance (billing : Billing) :
      Answers billing.destroyAction destroyedInstance (flatLayout destroyedInstance)
  | associateSecurityGroups : Answers "AssociateSecurityGroups" acknowledgement (flatLayout acknowledgement)
  | disassociateSecurityGroups : Answers "DisassociateSecurityGroups" acknowledgement (flatLayout acknowledgement)
  | describeBoundGroups :
      Answers "DescribeDBSecurityGroups" boundGroups (listLayout boundGroups "Groups" (flatLayout boundGroup))
  | groupPage :
      Answers "DescribeSecurityGroups" groupPage (listLayout groupPage "SecurityGroupSet" (flatLayout listedGroup))
  | describeUsage : Answers "DescribeSecurityGroupAssociationStatistics" usages
      (listLayout usages "SecurityGroupAssociationStatisticsSet" usageLayout)

namespace Answers

variable {action : String} {α : Type} {answer : Record α} {layout : Layout}

theorem follows (h : Answers action answer layout) : answer.reading.Follows layout := by
  cases h with
  | createAccount => exact follows_createdAccount
  | describeAccounts => exact follows_accountList
  | modifyAccountDescription => exact follows_acknowledgement
  | deleteAccount => exact follows_acknowledgement
  | createInstance => exact follows_createdInstances
  | describeInstances => exact follows_instanceList
  | modifyInstanceName => exact follows_acknowledgement
  | destroyInstance => exact follows_destroyedInstance
  | associateSecurityGroups => exact follows_acknowledgement
  | disassociateSecurityGroups => exact follows_acknowledgement
  | describeBoundGroups => exact follows_boundGroups
  | groupPage => exact follows_groupPage
  | describeUsage => exact follows_usages

/-- No answer has a field of the name under which refusals stand. -/
theorem error_unknown (h : Answers action answer layout) :
    ∃ names strict inner, layout = .record names strict inner ∧ "Error" ∉ names := by
  cases h <;> exact ⟨_, _, _, rfl, by decide⟩

end Answers

end Vendor

/-! ## What answers stand for -/

namespace Envelope

/-- The response that a text tells. -/
def response? (text : String) : Option Json := (Json.parse? text).bind (·.get? "Response")

/-- The text that tells a response. -/
def answered (response : Json) : String := (Json.object [("Response", response)]).pretty

theorem response?_answered {v : Json} (h : Fits 126 v) : response? (answered v) = some v.told := by
  have hfits : Fits maxLevels (.object [("Response", v)]) := by
    rw [maxLevels, Fits, fitsMembers_iff]
    simpa using h
  rw [response?, answered, parse?_pretty hfits, told_object (List.pairwise_singleton _ _)]
  rfl

end Envelope

open Envelope Vendor

namespace Exchange

variable {x : Posting} {status : Nat} {text text' : String} {v w : Json}

theorem content_of_accepted (hv : response? text = some v) (hsuccess : Status.isSuccess status = true)
    (accepted : v.get? "Error" = none) : (⟨x, .answer status text⟩ : Exchange).content = .ok v := by
  obtain ⟨envelope, hparse, hresponse⟩ := Option.bind_eq_some_iff.1 hv
  simp only [content, hsuccess, if_true, hparse, Envelope.content, hresponse, accepted]

theorem content_of_refused {refusal : Json} (hv : response? text = some v) (hsuccess : Status.isSuccess status = true)
    (refused : v.get? "Error" = some refusal) :
    (⟨x, .answer status text⟩ : Exchange).content =
      .error (.refused (refusal.textOf "Code") (refusal.textOf "Message") (v.textOf "RequestId")) := by
  obtain ⟨envelope, hparse, hresponse⟩ := Option.bind_eq_some_iff.1 hv
  simp only [content, hsuccess, if_true, hparse, Envelope.content, hresponse, refused]

theorem content_of_failure (hstatus : ¬Status.isSuccess status = true) :
    (⟨x, .answer status text⟩ : Exchange).content = .error (.badStatus status) :=
  if_neg hstatus

variable {α : Type} {answer : Record α} {layout : Layout}

/-- **An answer that loses a null member stands for the same.** -/
theorem outcome_of_loses (h : Answers x.action answer layout) (hv : response? text = some v)
    (hw : response? text' = some w) (hloses : layout.Loses v w) :
    (⟨x, .answer status text'⟩ : Exchange).outcome answer = (⟨x, .answer status text⟩ : Exchange).outcome answer := by
  obtain ⟨names, strict, inner, rfl, hunknown⟩ := h.error_unknown
  have hsame : answer.ofValue w = answer.ofValue v := h.follows.same hloses
  have herror : w.get? "Error" = v.get? "Error" := hloses.get?_of_unknown hunknown
  rw [outcome, outcome]
  by_cases hsuccess : Status.isSuccess status = true
  · cases refused : v.get? "Error" with
    | some refusal =>
      rw [content_of_refused hv hsuccess refused, content_of_refused hw hsuccess (herror.trans refused), hloses.textOf]
    | none =>
      rw [content_of_accepted hv hsuccess refused, content_of_accepted hw hsuccess (herror.trans refused)]
      simp only [Except.bind, Provider.readContent, hsame]
  · rw [content_of_failure hsuccess, content_of_failure hsuccess]

/-- **An answer whose list or counter is null cannot be read.** -/
theorem outcome_of_spoilt (h : Answers x.action answer layout) (hsuccess : Status.isSuccess status = true)
    (hv : response? text = some v) (accepted : v.get? "Error" = none) (hspoilt : layout.Spoilt v) :
    ∃ why, (⟨x, .answer status text⟩ : Exchange).outcome answer = .error (.unreadable x.action (.mismatch why)) := by
  obtain ⟨why, hwhy⟩ := h.follows.fails hspoilt
  refine ⟨why, ?_⟩
  have hread : answer.ofValue v = .error why := hwhy
  rw [outcome, content_of_accepted hv hsuccess accepted]
  simp only [Except.bind, Provider.readContent, hread]
  rfl

end Exchange

/-! ## Calls -/

namespace Provider

/-- A provider whose vendor gives one reply. -/
def hearing (p : Provider) (reply : Reply) : Provider := { p with out := { p.out with reply := fun _ _ => reply } }

variable {α : Type} {answer : Record α} {layout : Layout} {action : String}

/-- **A call of an action does not tell null from absent where null can be, and fails where it cannot.** -/
theorem null_as_absent (h : Answers action answer layout) (p : Provider) (product : Product) (body : Json)
    (s : Session) :
    (∀ status text text' v w, response? text = some v → response? text' = some w → layout.Loses v w →
      ((p.hearing (.answer status text')).invoke product action body answer s).1 =
        ((p.hearing (.answer status text)).invoke product action body answer s).1) ∧
    ∀ status text v x, Status.isSuccess status = true → response? text = some v → v.get? "Error" = none →
      layout.Spoilt v → p.client.posting product action body ((p.paced action s).second p.out) = .ok x →
        ∃ why, ((p.hearing (.answer status text)).invoke product action body answer s).1 =
          .error (.unreadable action (.mismatch why)) := by
  -- neither what is sent nor whether it can be sent depends on what comes back
  have heard : ∀ reply x, p.client.posting product action body ((p.paced action s).second p.out) = .ok x →
      ((p.hearing reply).invoke product action body answer s).1 = (⟨x, reply⟩ : Exchange).outcome answer ∧
        x.action = action := by
    intro reply x hx
    have hposting : (p.hearing reply).client.posting product action body
        (((p.hearing reply).paced action s).second (p.hearing reply).out) = .ok x := hx
    exact ⟨(invoke_of_posting answer hposting).1, (Client.asks_of_posting hx reply).1⟩
  constructor
  · intro status text text' v w hv hw hloses
    cases hx : p.client.posting product action body ((p.paced action s).second p.out) with
    | error e =>
      have unsent : ∀ reply, ((p.hearing reply).invoke product action body answer s).1 = .error e := by
        intro reply
        have hposting : (p.hearing reply).client.posting product action body
            (((p.hearing reply).paced action s).second (p.hearing reply).out) = .error e := hx
        exact (invoke_of_error answer hposting).1
      rw [unsent, unsent]
    | ok x =>
      obtain ⟨hwith, rfl⟩ := heard (.answer status text) x hx
      obtain ⟨hwithout, -⟩ := heard (.answer status text') x hx
      rw [hwith, hwithout]
      exact Exchange.outcome_of_loses h hv hw hloses
  · intro status text v x hsuccess hv accepted hspoilt hx
    obtain ⟨hheard, rfl⟩ := heard (.answer status text) x hx
    rw [hheard]
    exact Exchange.outcome_of_spoilt h hsuccess hv accepted hspoilt

/-- A tag whose value is null, and a list that is. -/
theorem null_as_absent_tagged :
    let instances (tag : Json) : Json :=
      .object [("Instances", .array [.object [("ResourceTags", .array [tag])]])]
    let full : Json := instances (.object [("TagKey", .string "team"), ("TagValue", .null)])
    let bare : Json := instances (.object [("TagKey", .string "team")])
    let spoilt : Json := .object [("Instances", .null)]
    let call (v : Json) := (((saying "").hearing (.answer 200 (answered v))).invoke .dcdb "DescribeDCDBInstances"
      (instanceQuestion "dcdbt-1") instanceList {}).1
    call bare = call full ∧ ∃ why, call spoilt = .error (.unreadable "DescribeDCDBInstances" (.mismatch why)) := by
  intro instances full bare spoilt call
  have hvalue : "DescribeDCDBInstances".toList.all Client.isHeaderChar = true := by decide
  obtain ⟨x, hx⟩ := Client.plain_writable.posting hvalue .dcdb (instanceQuestion "dcdbt-1")
    (((saying "").paced "DescribeDCDBInstances" {}).second (saying "").out)
  obtain ⟨hsame, hfails⟩ := null_as_absent .describeInstances (saying "") .dcdb (instanceQuestion "dcdbt-1") {}
  have htag : (flatLayout listedTag).Loses (.object [("TagKey", .string "team"), ("TagValue", .null)])
      (.object [("TagKey", .string "team")]) :=
    @Layout.Loses.here _ _ _ "TagValue" [("TagKey", .string "team")] [] (by decide) (by decide) (by decide)
  have hinstance : instanceLayout.Loses
      (.object [("ResourceTags", .array [.object [("TagKey", .string "team"), ("TagValue", .null)]])])
      (.object [("ResourceTags", .array [.object [("TagKey", .string "team")]])]) :=
    @Layout.Loses.within _ _ _ "ResourceTags" _ _ [] [] (by decide) (@Layout.Loses.item _ _ _ [] [] htag)
  have hloses : (listLayout instanceList "Instances" instanceLayout).Loses full bare :=
    @Layout.Loses.within _ _ _ "Instances" _ _ [] [] (by decide) (@Layout.Loses.item _ _ _ [] [] hinstance)
  have hspoilt : (listLayout instanceList "Instances" instanceLayout).Spoilt spoilt :=
    .here (by decide) (List.mem_singleton_self _) (List.mem_singleton_self _)
  have hfull : response? (answered full) = some full :=
    response?_answered (by simp [Fits, FitsItems, FitsMembers, full, instances])
  have hbare : response? (answered bare) = some bare :=
    response?_answered (by simp [Fits, FitsItems, FitsMembers, bare, instances])
  have hnull : response? (answered spoilt) = some spoilt := response?_answered (by simp [Fits, FitsMembers, spoilt])
  exact ⟨hsame 200 (answered full) (answered bare) full bare hfull hbare hloses,
    hfails 200 (answered spoilt) spoilt x (by decide) hnull rfl hspoilt hx⟩

/-- **A list that is null is not one that is absent**: the accounts of an instance cannot be read from the one, and are
none in the other. -/
theorem null_list :
    let spoilt : Json := .object [("Users", .null)]
    let bare : Json := .object []
    let call (v : Json) := ((saying (answered v)).invoke .dcdb "DescribeAccounts"
      (.ofMembers [("InstanceId", .string "dcdbt-1")]) accountList {}).1
    "Users" ∈ accountList.fields.map Record.Field.name ∧ response? (answered spoilt) = some spoilt ∧
      response? (answered bare) = some bare ∧
      call spoilt = .error (.unreadable "DescribeAccounts" (.mismatch (.kind .null "a sequence"))) ∧
      call bare = .ok {} := by
  intro spoilt bare call
  have hvalue : "DescribeAccounts".toList.all Client.isHeaderChar = true := by decide
  have hspoilt : response? (answered spoilt) = some spoilt := response?_answered (by simp [Fits, FitsMembers, spoilt])
  have hbare : response? (answered bare) = some bare := response?_answered (by simp [Fits, FitsMembers, bare])
  have hcall : ∀ v r, response? (answered v) = some v → v.get? "Error" = none →
      readContent "DescribeAccounts" accountList v = r → call v = r := by
    intro v r hv accepted hread
    obtain ⟨x, hx⟩ := Client.plain_writable.posting hvalue .dcdb (.ofMembers [("InstanceId", .string "dcdbt-1")])
      (((saying (answered v)).paced "DescribeAccounts" {}).second (saying (answered v)).out)
    have ha : x.action = "DescribeAccounts" := (Client.asks_of_posting hx .closed).1
    show ((saying (answered v)).invoke _ _ _ accountList {}).1 = r
    rw [(invoke_of_posting (p := saying (answered v)) accountList hx).1]
    show (⟨x, .answer 200 (answered v)⟩ : Exchange).outcome accountList = r
    rw [Exchange.outcome, Exchange.content_of_accepted hv (by decide) accepted, ha]
    exact hread
  exact ⟨by decide, hspoilt, hbare, hcall _ _ hspoilt rfl rfl, hcall _ _ hbare rfl rfl⟩

end Provider

end Provision
