import Provision.Proofs.Resource.Moves
import Provision.Proofs.Vendor.Tells
import Provision.Proofs.Vendor.Writable
import Provision.Resource.Kind
import Provision.SecurityGroups.Read

/-!
# What is written to the log

Whatever is done with resources, and whatever the vendor answers, the log goes on in proper notices (`Kind.tells`,
`SecurityGroups.read_tells`). So a line leaves its line only through the texts of a refusal, the identifier of an
instance that is not ready, or the address of an endpoint, which are shown as they are and in full; what is sent and
what comes back is shown as an excerpt otherwise, and values that cannot be read in quotes. Main statements: all that
is written (`Provider.lines_logged`), and a refusal that breaks the line and is longer than an excerpt
(`Provider.refusal_logged`).
-/

namespace Provision

open Text Vendor

/-! ## Types of resources -/

namespace Account

theorem tells (p : Provider) : resource.Moves p Session.Tells fun _ => True where
  create config s _ := (Run.Along.bind (p.call_tells .createAccount .dcdb _ _) fun _ => Run.along_pure _) s
  read id a s _ := by
    refine Run.Along.bind (Run.along_ofExcept _) (fun pair => ?_) s
    exact Run.Along.bind (p.call_tells .describeAccounts .dcdb _ _) fun _ => Run.along_pure _
  update id names planned s _ := by
    refine Run.Along.bind (Run.along_ofExcept _) (fun pair => ?_) s
    dsimp only
    split
    · exact p.call_tells .modifyAccountDescription .dcdb _ _
    · exact Run.along_pure _
  delete id a s _ := by
    refine Run.Along.bind (Run.along_ofExcept _) (fun pair => ?_) s
    exact p.call_tells .deleteAccount .dcdb _ _
  named _ _ := trivial

end Account

namespace Instance

theorem tells (billing : Billing) (p : Provider) : (resource billing).Moves p Session.Tells fun _ => True where
  create config s _ := by
    refine Run.Along.bind (p.call_tells (.createInstance billing) .dcdb _ _) (fun ids => ?_) s
    split
    · exact Run.along_fail _
    · rename_i id _
      have hpoll : (poll p id).Along Session.Tells := by
        refine Run.Along.bind (p.invoke_tells .describeInstances .dcdb _) fun listed => ?_
        split
        · exact Run.along_pure _
        · exact Run.along_fail _
      exact Run.Along.bind (hpoll.retried (Run.waits_tells (by decide)) p.out p.read) fun _ => Run.along_pure id
  read id i s _ := by
    refine Run.Along.bind (p.call_tells .describeInstances .dcdb _ _) (fun listed => ?_) s
    split
    · exact Run.along_pure _
    · split <;> exact Run.along_pure _
  update id names planned s _ := by
    show s.Tells (update p id names planned s).2
    unfold update
    split
    · exact p.call_tells .modifyInstanceName .dcdb _ _ s
    · exact Run.along_pure () s
  delete id i s _ := p.call_tells (.destroyInstance billing) .dcdb _ _ s
  named _ _ := trivial

end Instance

namespace Attachment

theorem isBound_tells (p : Provider) (product group instanceId : String) :
    (isBound p product group instanceId).Along Session.Tells := by
  intro s
  rw [isBound_apply]
  exact p.call_tells .describeBoundGroups .dcdb _ _ s

theorem bound_tells (p : Provider) (product group : String) : ∀ instances : List String,
    (bound p product group instances).Along Session.Tells
  | [] => Run.along_pure _
  | instanceId :: rest =>
    Run.Along.bind (isBound_tells p product group instanceId) fun _ =>
      Run.Along.bind (bound_tells p product group rest) fun _ => Run.along_pure _

theorem tells (p : Provider) : resource.Moves p Session.Tells fun _ => True where
  create config s _ := (Run.Along.bind (p.call_tells .associateSecurityGroups .dcdb _ _) fun _ => Run.along_pure _) s
  read id a s _ := by
    refine Run.Along.bind (Run.along_ofExcept _) (fun pair => ?_) s
    exact Run.Along.bind (bound_tells p _ _ _) fun _ => Run.along_pure _
  update id names planned s _ := by
    cases names with
    | nil => exact Run.along_pure () s
    | cons name rest => exact Run.along_fail _ s
  delete id a s _ := by
    refine Run.Along.bind (Run.along_ofExcept _) (fun pair => ?_) s
    dsimp only
    split
    · exact Run.along_pure _
    · exact p.call_tells .disassociateSecurityGroups .dcdb _ _
  named _ _ := trivial

end Attachment

theorem Kind.tells (k : Kind) (p : Provider) : k.resource.Moves p Session.Tells fun _ => True := by
  match k with
  | .account => exact Account.tells p
  | .instance billing => exact Instance.tells billing p
  | .attachment => exact Attachment.tells p

/-! ## Security groups -/

namespace SecurityGroups

theorem enrich_tells (p : Provider) (g : ListedGroup) : (enrich p g).Along Session.Tells :=
  Run.Along.bind (p.call_tells .describeUsage .vpc _ _) fun _ => Run.along_ofExcept _

/-- Pages are asked for in one attempt; several of the questions about uses are under way at a time. -/
theorem gather_tells (p : Provider) (q : Query) : (gather p q).Along Session.Tells := by
  have hlist : (p.listGroups q.filter).Along Session.Tells :=
    Provider.along_groupsFrom (fun _ => p.invoke_tells .groupPage .vpc _) 0
  refine Run.Along.bind (hlist.retried (Run.waits_tells (by decide)) p.out p.read) fun groups => ?_
  exact Run.Along.bind (Run.Along.inFlight (enrich_tells p) p.out groups) fun _ => Run.along_pure _

theorem read_tells (p : Provider) (q : Query) : (read p q).Along Session.Tells := by
  refine Run.Along.bind (Run.along_ofExcept _) fun _ => Run.Along.bind (gather_tells p q) fun result => ?_
  split
  · refine Run.Along.bind (fun s => Session.tells_of_log_eq ?_) fun _ => Run.along_pure _
    unfold Run.writeFile
    split <;> rfl
  · exact Run.along_pure _

end SecurityGroups

/-! ## All lines -/

/-- **What calls, attempts, steps and the reading of security groups write to the log are proper notices**, and the last
one of a call is about how it ended. The line of a proper notice has a control character if and only if one of the
texts from outside has one that it shows as they are, and it shows these in full. Of what is sent and of an answer with
a status that is no success it shows an excerpt, and besides its parts it has at most 64 bytes. -/
theorem Provider.lines_logged (p : Provider) :
    (∀ {α : Type} {action : String} {answer : Json.Record α} {layout : Json.Layout}, Answers action answer layout →
      ∀ product body, (p.invoke product action body answer).Along Session.Tells ∧
        ∀ s, (p.invoke product action body answer s).2.log.head? =
          some (endingLine action body (p.invoke product action body answer s).1)) ∧
    (∀ {α : Type} {act : Run α}, act.Along Session.Tells → ∀ b operation, Plain operation →
      (Run.retried p.out b operation act).Along Session.Tells) ∧
    (∀ (k : Kind) steps st s, ∀ t ∈ course (k.resource.take p) steps st s, s.Tells t.session) ∧
    (∀ q, (SecurityGroups.read p q).Along Session.Tells) ∧
    ∀ x : Notice, x.Proper →
      (Plain x.line.text ↔ ∀ t ∈ x.foreign, Plain t) ∧ (∀ t ∈ x.foreign, Shows x.line.text t) ∧
      (∀ t ∈ x.content?, excerptText t ∈ x.parts ∧
        size (excerptText t) ≤ excerptLimit + bytes (cutNote (size t))) ∧
      size x.line.text ≤ 64 + size (String.join x.parts) := by
  refine ⟨fun h product body => ⟨p.invoke_tells h product body, fun s => p.head?_log_invoke product _ body _ s⟩,
    fun hact b operation hoperation => hact.retried (Run.waits_tells hoperation) p.out b, ?_,
    SecurityGroups.read_tells p, fun x hx => ⟨x.plain_iff hx, x.shows_foreign, fun t ht => ?_, x.size_line_le⟩⟩
  · intro k steps st s t ht
    exact moves_of_course (fun x st s => (k.tells p).take (fun _ _ => trivial) s) t ht
  · exact ⟨x.excerpt_mem_parts t ht, size_excerptText_le t⟩

/-! ## A refusal that breaks a line -/

namespace Provider

/-- A refusal with a text. -/
def refusalOf (message : String) : Json :=
  .object [("Error", .object [("Code", .string "AuthFailure"), ("Message", .string message)])]

theorem outcome_refusal (message : String) (x : Posting) :
    (⟨x, .answer 200 (Envelope.answered (refusalOf message))⟩ : Exchange).outcome accountList =
      .error (.refused "AuthFailure" message "") := by
  have hfits : Json.Fits 126 (refusalOf message) := by simp [refusalOf, Json.Fits, Json.FitsMembers]
  have hordered : Json.Ordered [("Code", Json.string "AuthFailure"), ("Message", Json.string message)] :=
    List.pairwise_pair.2 (show "Code" < "Message" by decide)
  have htold : (refusalOf message).told = refusalOf message := by
    rw [refusalOf, Json.told_object (List.pairwise_singleton _ _), List.map_singleton, Json.told_object hordered]
    rfl
  have hresponse := (Envelope.response?_answered hfits).trans (congrArg some htold)
  have hcontent := Exchange.content_of_refused (x := x) hresponse (by decide : Status.isSuccess 200 = true)
    (by rfl)
  rw [Exchange.outcome, hcontent]
  rfl

/-- How a call ends that can be written. -/
theorem invoke_of_writable {α : Type} {p : Provider} (h : p.client.Writable) {action : String}
    (hvalue : Client.isHeaderValue action = true) {s : Session} {answer : Json.Record α} {r : Except Failure α}
    (told : ∀ x : Posting, (⟨x, p.out.reply s.exchanges x⟩ : Exchange).outcome answer = r) (product : Product)
    (body : Json) : (p.invoke product action body answer s).1 = r := by
  obtain ⟨x, hx⟩ := h.posting hvalue product body ((p.paced action s).second p.out)
  exact (invoke_of_posting answer hx).1.trans (told x)

/-- **The text of a refusal is logged in full, and breaks the line if it has a line break.** -/
theorem shows_refusal (message : String) (product : Product) (body : Json) :
    ∃ line ∈ ((saying (Envelope.answered (refusalOf message))).invoke product "DescribeAccounts" body
        accountList {}).2.log,
      Shows line.text message ∧ (Plain line.text ↔ Plain message) := by
  generalize htext : Envelope.answered (refusalOf message) = text
  have told : ∀ x : Posting, (⟨x, .answer 200 text⟩ : Exchange).outcome accountList =
      .error (.refused "AuthFailure" message "") := fun x => htext ▸ outcome_refusal message x
  have hended : ((saying text).invoke product "DescribeAccounts" body accountList {}).1 =
      .error (.refused "AuthFailure" message "") := invoke_of_writable Client.plain_writable (by decide) told _ _
  have hlogged := (saying text).head?_log_invoke product "DescribeAccounts" body accountList {}
  rw [hended] at hlogged
  generalize hnotice : Notice.failure "DescribeAccounts" body (.refused "AuthFailure" message "") = notice
  have hline : endingLine (α := AccountList) "DescribeAccounts" body (.error (.refused "AuthFailure" message "")) =
      notice.line := by
    rw [← hnotice]
    rfl
  have hforeign : notice.foreign = ["AuthFailure", message, ""] := by
    rw [← hnotice]
    rfl
  have hproper : notice.Proper := by
    rw [← hnotice]
    exact ⟨by decide, fun t ht => .inl ht⟩
  refine ⟨notice.line, List.mem_of_mem_head? (hlogged.trans (congrArg some hline)),
    notice.shows_foreign message (by simp [hforeign]), (notice.plain_iff hproper).trans ?_⟩
  rw [hforeign]
  simp +decide

/-- **A text of two lines that is longer than an excerpt is logged as it is.** -/
theorem refusal_logged :
    let message := "\n" ++ String.ofList (List.replicate 300 'x')
    ∃ line ∈ ((saying (Envelope.answered (refusalOf message))).invoke .dcdb "DescribeAccounts"
        (.ofMembers [("InstanceId", .string "dcdbt-1")]) accountList {}).2.log,
      ¬Plain line.text ∧ Shows line.text message ∧ excerptLimit < size message := by
  intro message
  obtain ⟨line, hline, hshows, hplain⟩ := shows_refusal message .dcdb (.ofMembers [("InstanceId", .string "dcdbt-1")])
  have hbreak : ¬Plain "\n" := by decide
  have hlong : excerptLimit < size message := by
    have htail : size (String.ofList (List.replicate 300 'x')) = 300 := by
      rw [size, String.toList_ofList]
      decide +kernel
    rw [size_append, htail]
    decide
  exact ⟨line, hline, fun h => hbreak (plain_append.1 (hplain.1 h)).1, hshows, hlong⟩

end Provider

end Provision
