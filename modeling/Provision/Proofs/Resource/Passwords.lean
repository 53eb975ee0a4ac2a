import Provision.Proofs.Resource.Converging
import Provision.Proofs.Resource.SideBySide
import Provision.Proofs.Schema.Secrets
import Provision.Proofs.Vendor.SideBySide

/-!
# Passwords of accounts

The password of an account is read, checked and compared like any text, sent once, and never told by the vendor. So
nothing depends on which password it is, as long as there is one (`Account.indifferent`). Main statement: if a sequence
of steps is taken again with another password in all configurations and documents, and the vendor does not look at the
password, then every step reports the same, leaves the same lines in the log, sends the same requests but for the
password in the body of a creation and the signature over it, and leads to the same states and documents but for the
password (`Account.passwords_unseen`).
-/

namespace Provision

open Json Vendor

namespace Account

/-- **Two accounts that are the same but for a password**, of which one has `p` and the other one `q`, or both none. -/
structure Alike (p q : String) (a b : Account) : Prop where
  rest : b = { a with password := b.password }
  password : a.password = p ∧ b.password = q ∨ a.password = "" ∧ b.password = ""

/-- The names under which an account is read. -/
def keys : List String := record.fields.map Record.Field.name

/-- Documents of accounts that are the same but for a password. -/
def DocumentAlike (p q : String) : Json → Json → Prop := Json.Alike "password" p q keys

variable {p q : String} {a b : Account} {v w : Json}

/-! ## Accounts as values -/

theorem toJson_alike (h : a.Alike p q b) : DocumentAlike p q (toJson a) (toJson b) := by
  have hsecret : SecretAlike p q (.string a.password) (.string b.password) := by
    rcases h.password with ⟨rfl, rfl⟩ | ⟨ha, hb⟩
    · exact .inl ⟨rfl, rfl⟩
    · rw [ha, hb]
      exact .inr ⟨rfl, fun s hs => (string.inj hs).symm⟩
  rw [h.rest]
  exact alike_ofMembers [("instance_id", _), ("user_name", _), ("host", _)]
    [("read_only", _), ("description", _), ("max_user_connections", _)] (by simp) (by simp) (.some hsecret)

/-- **Documents that are alike are read as accounts that are alike.** -/
theorem decode_alike (h : DocumentAlike p q v w) : EndAlike (Alike p q) (resource.decode v) (resource.decode w) := by
  refine (Record.ofValue_alike (fun f hf => ?_) ⟨rfl, .inr ⟨rfl, rfl⟩⟩ h).mapError _
  simp only [record, List.mem_cons, List.not_mem_nil, or_false] at hf
  rcases hf with rfl | rfl | rfl | rfl | rfl | rfl | rfl
  case inr.inr.inr.inl =>
    refine Record.Field.respects_secret (fun a b hab => ?_) (fun a b hab => ?_)
    · exact ⟨by rw [hab.rest], .inl ⟨rfl, rfl⟩⟩
    · exact ⟨by rw [hab.rest], .inr ⟨rfl, rfl⟩⟩
  all_goals
    exact Record.Field.respects_keeping (by decide) fun _ a b hab => ⟨by rw [hab.rest], hab.password⟩

section Secrets

variable (hp : p ≠ "") (hq : q ≠ "")
include hp hq

/-- The body of a creation shows the password, if there is one. -/
theorem creationBody_alike (h : a.Alike p q b) : BodyAlike p q "CreateAccount" a.creationBody b.creationBody := by
  have hsecret : Option.Rel (SecretAlike p q) (nonEmpty? a.password) (nonEmpty? b.password) := by
    rcases h.password with ⟨ha, hb⟩ | ⟨ha, hb⟩
    · rw [ha, hb, nonEmpty?, nonEmpty?, if_neg hp, if_neg hq]
      exact .some (.inl ⟨rfl, rfl⟩)
    · rw [ha, hb]
      exact .none
  rw [BodyAlike, if_pos rfl, h.rest]
  exact alike_ofMembers [("InstanceId", _), ("UserName", _), ("Host", _)]
    [("ReadOnly", _), ("Description", _), ("MaxUserConnections", _)] (by simp) (by simp) hsecret

theorem check_alike (h : DocumentAlike p q v w) : resource.check v = resource.check w := by
  have hviolation : resource.schema.violation? v = resource.schema.violation? w :=
    Schema.violation?_alike hp hq (by decide : schema.Guards "password") h
  rw [Resource.check, Resource.check, hviolation]

end Secrets

/-! ## Talking with the vendor -/

section Calls

variable {pr : Provider} (hvendor : pr.out.Indifferent pr.client p q)
include hvendor

/-- A call of another action than that which creates an account. -/
theorem invoke_same {β : Type} {action : String} (h : action ≠ "CreateAccount") (body : Json)
    (answer : Json.Record β) : Run.Alike (Exchange.Alike pr.client p q) Eq (pr.invoke .dcdb action body answer)
      (pr.invoke .dcdb action body answer) :=
  Provider.invoke_alike hvendor .dcdb (bodyAlike_refl h body) answer

theorem create_alike (hp : p ≠ "") (hq : q ≠ "") (h : a.Alike p q b) :
    Run.Alike (Exchange.Alike pr.client p q) Eq (create pr a) (create pr b) := by
  have hcall : Run.Alike (Exchange.Alike pr.client p q) Eq (pr.createAccount a.creationBody)
      (pr.createAccount b.creationBody) :=
    (Provider.invoke_alike hvendor .dcdb (creationBody_alike hp hq h) createdAccount).retried pr.out pr.write _
  refine hcall.map fun named _ heq => ?_
  rw [← heq, h.rest]

theorem read_alike (id : String) (h : a.Alike p q b) :
    Run.Alike (Exchange.Alike pr.client p q) (Option.Rel (Alike p q)) (read pr id a) (read pr id b) := by
  cases hparts : parts id with
  | error e =>
    rw [read_of_error hparts, read_of_error hparts]
    exact Run.alike_fail e
  | ok named =>
    have hcall : Run.Alike (Exchange.Alike pr.client p q) Eq (pr.describeAccounts named.1)
        (pr.describeAccounts named.1) :=
      (invoke_same hvendor (by decide) _ accountList).retried pr.out pr.read _
    rw [read_of_ok hparts, read_of_ok hparts]
    refine hcall.map fun accounts _ heq => ?_
    obtain rfl := heq
    rw [found, found]
    cases accounts.users.find? (·.userName == some named.2) with
    | none => exact .none
    | some listed => exact .some ⟨by rw [h.rest]; rfl, h.password⟩

theorem update_alike (id : String) (names : List String) (h : a.Alike p q b) :
    Run.Alike (Exchange.Alike pr.client p q) Eq (update pr id names a) (update pr id names b) := by
  unfold update
  refine (Run.alike_ofExcept (.of_eq rfl)).bind fun named _ heq => ?_
  obtain rfl := heq
  dsimp only
  rw [h.rest]
  split
  · exact (invoke_same hvendor (by decide) _ acknowledgement).retried pr.out pr.write _
  · exact Run.alike_pure rfl

theorem delete_alike (id : String) (h : a.Alike p q b) :
    Run.Alike (Exchange.Alike pr.client p q) Eq (delete pr id a) (delete pr id b) := by
  unfold delete
  refine (Run.alike_ofExcept (.of_eq rfl)).bind fun named _ heq => ?_
  obtain rfl := heq
  rw [h.rest]
  exact (invoke_same hvendor (by decide) _ acknowledgement).retried pr.out pr.write _

/-- **Nothing depends on which password an account has.** -/
theorem indifferent (hp : p ≠ "") (hq : q ≠ "") :
    resource.Indifferent pr (Exchange.Alike pr.client p q) (DocumentAlike p q) (Alike p q) where
  blank := ⟨rfl, .inr ⟨rfl, rfl⟩⟩
  encode := toJson_alike
  decode := decode_alike
  check := check_alike hp hq
  plan := fun hprior hdesired => Schema.plan_alike hp hq (by decide : schema.Guards "password") hprior hdesired
  changed := fun hprior hdesired =>
    Schema.changedFields_alike hp hq (by decide : schema.Guards "password") hprior hdesired
  create := create_alike hvendor hp hq
  read := read_alike hvendor
  update := update_alike hvendor
  delete := delete_alike hvendor

/-- **Sequences of steps with one password, and with another one.** Every step reports the same, and leaves the same
lines in the log; the requests are the same but for the password in the body of a creation and the signature over it,
and what is known and the documents are the same but for the password. -/
theorem passwords_unseen (hp : p ≠ "") (hq : q ≠ "") {xs ys : List (AnyStep Account)}
    {known known' : ResourceState Account × Document} {s t : Session}
    (hsteps : List.Forall₂ (AnyStep.Alike (DocumentAlike p q) (Alike p q)) xs ys)
    (hknown : BothAlike (DocumentAlike p q) (Alike p q) known known')
    (hs : s.Alike (Exchange.Alike pr.client p q) t) :
    List.Forall₂ (Taken.Paired (Session.Alike (Exchange.Alike pr.client p q))
        (BothAlike (DocumentAlike p q) (Alike p q)))
      (course (resource.takeAny pr) xs known s) (course (resource.takeAny pr) ys known' t) :=
  (indifferent hvendor hp hq).courses_paired hsteps hknown hs

end Calls

/-- The account that is created, with another password. -/
def renewed : Account := { sample with password := "other" }

theorem alike_renewed : sample.Alike "secret" "other" renewed := ⟨rfl, .inl ⟨rfl, rfl⟩⟩

/-- A vendor that always says the same does not look at passwords. -/
theorem indifferent_saying (text : String) (c : Client) (p q : String) :
    (Provider.saying text).out.Indifferent c p q :=
  ⟨fun _ _ => rfl, fun _ _ => rfl⟩

theorem passwords_unseen_renewed :
    let steps : Account → List (AnyStep Account) := fun a => [.state (.create a), .state .read, .state (.apply a),
      .state .delete, .hold ⟨typeName, "dcdbt-1#root", toJson a⟩, .document (.apply (toJson a)),
      .document (.plan (toJson a)), .document (.importFrom "dcdbt-1#root"), .document .delete]
    sample.creationBody.get? "Password" = some (.string "secret") ∧
    renewed.creationBody.get? "Password" = some (.string "other") ∧
    List.Forall₂ (Taken.Paired (Session.Alike (Exchange.Alike .plain "secret" "other"))
        (BothAlike (DocumentAlike "secret" "other") (Alike "secret" "other")))
      (course (resource.takeAny (.saying namedText)) (steps sample) (⟨"", {}⟩, .absent typeName) {})
      (course (resource.takeAny (.saying namedText)) (steps renewed) (⟨"", {}⟩, .absent typeName) {}) := by
  intro steps
  have hdocument : DocumentAlike "secret" "other" (toJson sample) (toJson renewed) := toJson_alike alike_renewed
  have hsteps : List.Forall₂ (AnyStep.Alike (DocumentAlike "secret" "other") (Alike "secret" "other")) (steps sample)
      (steps renewed) :=
    .cons (.state (.create alike_renewed)) <| .cons (.state .read) <| .cons (.state (.apply alike_renewed)) <|
      .cons (.state .delete) <| .cons (.hold ⟨rfl, rfl, hdocument⟩) <| .cons (.document (.apply hdocument)) <|
        .cons (.document (.plan hdocument)) <| .cons (.document (.importFrom _)) <| .cons (.document .delete) .nil
  have hknown : BothAlike (DocumentAlike "secret" "other") (Alike "secret" "other") (⟨"", {}⟩, .absent typeName)
      (⟨"", {}⟩, .absent typeName) :=
    ⟨⟨rfl, rfl, .inr ⟨rfl, rfl⟩⟩, ⟨rfl, rfl, .scalar (fun _ => by simp [Document.absent]) fun _ => by
      simp [Document.absent]⟩⟩
  refine ⟨get?_of_present (by simp) (by simp [sample, nonEmpty?]),
    get?_of_present (by simp) (by simp [renewed, nonEmpty?]), ?_⟩
  exact passwords_unseen (indifferent_saying namedText .plain "secret" "other") (by decide) (by decide) hsteps hknown
    Session.alike_empty

end Account

end Provision
