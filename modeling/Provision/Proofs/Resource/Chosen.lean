import Provision.Proofs.Resource.Converging

/-!
# Values that the vendor chose

The vendor chooses a value for a field that may be left unset, and a configuration that leaves it unset does not change
it. A change in place puts the planned attributes in the place of those that were known, and only the look-up after it
tells the value again. Main statement: the value survives a change in place if the call fails, if the look-up succeeds
and its answer reports the field, or if there was none; otherwise it is lost (`Kind.updateTo_survives_iff`). So an
answer that leaves a field out drops the value that was known (`Account.readOnly_dropped`).
-/

namespace Provision

open Json Vendor

/-! ## What an answer reports -/

namespace Account

/-- What an answer reports of the fields of an account that the vendor chooses: in the first entry of its user name. -/
def reported (accounts : AccountList) (id name : String) : Option Json :=
  (parts id).toOption.bind fun named => (accounts.users.find? (·.userName == some named.2)).bind fun listed =>
    match name with
    | "read_only" => listed.readOnly.map Json.int
    | "max_user_connections" => listed.maxUserConnections.map fun n => Json.int n
    | _ => none

/-- A look-up takes over what is reported of such a field, and keeps the others. -/
theorem get?_of_shown {accounts : AccountList} {id : String} {a b : Account} {f : Schema.Field}
    (hf : f ∈ schema.fields) (hcomputed : f.presence = .optionalComputed) (h : shown accounts id a = some b) :
    (toJson b).get? f.name = (reported accounts id f.name).or ((toJson a).get? f.name) := by
  obtain ⟨instanceId, userName, hparts, hfound⟩ := parts_of_shown h
  obtain ⟨listed, hlisted, rfl⟩ := Option.map_eq_some_iff.1 hfound
  have hnames : ∀ f ∈ schema.fields, f.presence = .optionalComputed →
      f.name = "read_only" ∨ f.name = "max_user_connections" := by decide
  have hreadOnly : ∀ a : Account, (toJson a).get? "read_only" = a.readOnly.map Json.int :=
    fun a => get?_of_present (by simp) (by simp)
  have hmax : ∀ a : Account, (toJson a).get? "max_user_connections" = a.maxUserConnections.map fun n => Json.int n :=
    fun a => get?_of_present (by simp) (by simp)
  rcases hnames f hf hcomputed with hname | hname <;> rw [hname]
  · simp only [hreadOnly, reported, hparts, Except.toOption, Option.bind_some, hlisted, merge, Option.map_or]
  · simp only [hmax, reported, hparts, Except.toOption, Option.bind_some, hlisted, merge]
    cases listed.maxUserConnections <;> rfl

end Account

namespace Instance

/-- What an answer reports of the fields of an instance that the vendor chooses: in its first entry. -/
def reported (listed : List ListedInstance) (name : String) : Option Json :=
  listed.head?.bind fun first =>
    match name with
    | "vpc_id" => first.vpcId.map .string
    | "subnet_id" => first.subnetId.map .string
    | "db_version_id" => first.versionId.map .string
    | "project_id" => first.projectId.map Json.int
    | "instance_name" => first.name.map .string
    | _ => none

/-- A look-up takes over what is reported of such a field, and keeps the others. -/
theorem get?_of_found {billing : Billing} {listed : List ListedInstance} {i j : Instance} {f : Schema.Field}
    (hf : f ∈ (schema billing).fields) (hcomputed : f.presence = .optionalComputed) (h : found i listed = some j) :
    (toJson j).get? f.name = (reported listed f.name).or ((toJson i).get? f.name) := by
  obtain ⟨first, hfirst, rfl⟩ := Option.map_eq_some_iff.1 h
  have hhead : listed.head? = some first := (Option.filter_eq_some_iff.1 hfirst).1
  have hnames : ∀ f ∈ (schema billing).fields, f.presence = .optionalComputed → f.name = "vpc_id" ∨
      f.name = "subnet_id" ∨ f.name = "db_version_id" ∨ f.name = "project_id" ∨ f.name = "instance_name" := by
    cases billing <;> decide
  have hvpc : ∀ i : Instance, (toJson i).get? "vpc_id" = i.vpcId.map .string :=
    fun i => get?_of_present (by simp) (by simp)
  have hsubnet : ∀ i : Instance, (toJson i).get? "subnet_id" = i.subnetId.map .string :=
    fun i => get?_of_present (by simp) (by simp)
  have hversion : ∀ i : Instance, (toJson i).get? "db_version_id" = i.versionId.map .string :=
    fun i => get?_of_present (by simp) (by simp)
  have hproject : ∀ i : Instance, (toJson i).get? "project_id" = i.projectId.map Json.int :=
    fun i => get?_of_present (by simp) (by simp)
  have hname : ∀ i : Instance, (toJson i).get? "instance_name" = i.name.map .string :=
    fun i => get?_of_present (by simp) (by simp)
  rcases hnames f hf hcomputed with heq | heq | heq | heq | heq <;> rw [heq]
  · simp only [hvpc, reported, hhead, Option.bind_some, merge, Option.map_or]
  · simp only [hsubnet, reported, hhead, Option.bind_some, merge, Option.map_or]
  · simp only [hversion, reported, hhead, Option.bind_some, merge, Option.map_or]
  · simp only [hproject, reported, hhead, Option.bind_some, merge, Option.map_or]
  · simp only [hname, reported, hhead, Option.bind_some, merge, Option.map_or]

end Instance

namespace Kind

variable {k : Kind} {p : Provider} {st now : ResourceState k.Config} {a b planned : k.Config} {s : Session}
  {id name : String} {xs : List Exchange} {f : Schema.Field}

/-- What an answer reports of a field that the vendor chooses, of the resource of an identity. -/
def reported : (k : Kind) → k.Answer → String → String → Option Json
  | .account, accounts, id, name => Account.reported accounts id name
  | .instance _, listed, _, name => Instance.reported listed name
  | .attachment, _, _, _ => none

/-- A resource has a field that the vendor chooses. -/
def Chooses (k : Kind) (f : Schema.Field) : Prop := f ∈ k.schema.fields ∧ f.presence = .optionalComputed

theorem Chooses.ne_attachment (h : k.Chooses f) : k ≠ .attachment := by
  rintro rfl
  have hnone : ∀ f ∈ Attachment.schema.fields, f.presence ≠ .optionalComputed := by decide
  exact hnone f h.1 h.2

/-- **A look-up takes over what is reported of such a field, and otherwise keeps its value.** -/
theorem get?_of_shown : ∀ {k : Kind} {told : k.Answer} {a b : k.Config}, k.Chooses f → k.shown told id a = some b →
    (k.resource.toJson b).get? f.name =
      (k.reported told id f.name).or ((k.resource.toJson a).get? f.name)
  | .account, _, _, _, hf, h => Account.get?_of_shown hf.1 hf.2 h
  | .instance _, _, _, _, hf, h => Instance.get?_of_found hf.1 hf.2 h
  | .attachment, _, _, _, hf, _ => absurd rfl hf.ne_attachment

/-- The last answer reports a value of a field. -/
def Reports (k : Kind) (id name : String) (xs : List Exchange) (v : Json) : Prop :=
  ∃ x told, xs.head? = some x ∧ x.outcome k.answer = .ok told ∧ k.reported told id name = some v

theorem reports_iff {x : Exchange} {told : k.Answer} {v : Json} (hx : xs.head? = some x)
    (hout : x.outcome k.answer = .ok told) : k.Reports id name xs v ↔ k.reported told id name = some v := by
  constructor
  · rintro ⟨y, told', hy, hout', hreported⟩
    obtain rfl := Option.some.inj (hx.symm.trans hy)
    obtain rfl := Except.ok.inj (hout.symm.trans hout')
    exact hreported
  · exact fun hreported => ⟨x, told, hx, hout, hreported⟩

/-- A look-up takes over what its last answer shows, or fails and leaves the attributes. -/
theorem refresh_told (hk : k ≠ .attachment) (p : Provider) (st : ResourceState k.Config) (s : Session) :
    (k.resource.refresh p st s).Ends s fun xs r now =>
      (r = .ok () ∧ ∃ x told, xs.head? = some x ∧ x.outcome k.answer = .ok told ∧
        k.shown told st.id st.attributes = some now.attributes) ∨ r ≠ .ok () ∧ now.attributes = st.attributes := by
  obtain ⟨xs, hxs, htold⟩ := read_told hk p st.id st.attributes s
  obtain ⟨ys, hys, ⟨hok, rfl, -, -, hr⟩ | ⟨hne, -, hkept⟩⟩ := Resource.refresh_ends hxs
  · exact ⟨ys, hys, .inl ⟨hok, htold _ hr⟩⟩
  · exact ⟨ys, hys, .inr ⟨hne, hkept⟩⟩

/-- The call of a change in place sends nothing but requests of its own action. -/
theorem modify_sends (p : Provider) (st : ResourceState k.Config) (planned : k.Config) :
    (k.resource.modify p st planned).Ensures
      (Sent k.modification (k.Able p st.id k.modification) False) := by
  intro s
  unfold Resource.modify
  split
  · exact ⟨[], rfl, sent_nothing fun _ h => h⟩
  · exact ⟨[], rfl, sent_nothing fun _ h => h⟩
  · exact ⟨[], rfl, sent_nothing fun _ h => h⟩
  · obtain ⟨xs, hxs, hsent⟩ := update_ensures p st.id _ k planned s
    exact ⟨xs, hxs, hsent.needs False.elim⟩

/-! ## What a change in place keeps -/

/-- The value of a field of a configuration, if it is set. -/
def setting (k : Kind) (a : k.Config) (name : String) : Option Json :=
  ((k.resource.toJson a).get? name).filter fun v => isSet (some v)

/-- **After a step a field has the value that it had before, or one that the look-up just reported.** -/
def Survives (k : Kind) (name : String) (st : ResourceState k.Config) (xs : List Exchange) (r : Except Failure Unit)
    (now : ResourceState k.Config) : Prop :=
  k.setting now.attributes name = k.setting st.attributes name ∨
    r = .ok () ∧ ∃ v, k.Reports st.id name xs v ∧ (k.resource.toJson now.attributes).get? name = some v

theorem setting_of_unset (h : isSet ((k.resource.toJson a).get? name) = false) : k.setting a name = none := by
  refine Option.filter_eq_none_iff.2 fun v hv => ?_
  rw [← hv, h]
  exact Bool.false_ne_true

/-- A look-up that starts from attributes without a value keeps one that is reported, and no other. -/
theorem survives_of_shown (st : ResourceState k.Config) {x : Exchange} {told : k.Answer} (hf : k.Chooses f)
    (hunset : isSet ((k.resource.toJson planned).get? f.name) = false) (hx : xs.head? = some x)
    (hout : x.outcome k.answer = .ok told) (hshown : k.shown told st.id planned = some now.attributes) :
    (k.Survives f.name st xs (.ok ()) now ↔
      (∃ v, k.Reports st.id f.name xs v) ∨ k.setting st.attributes f.name = none) ∧
    (¬k.Survives f.name st xs (.ok ()) now → k.setting now.attributes f.name = none) := by
  have hvalue := get?_of_shown hf hshown
  cases hreported : k.reported told st.id f.name with
  | some v =>
    rw [hreported, Option.some_or] at hvalue
    have hreports : k.Reports st.id f.name xs v := (reports_iff hx hout).2 hreported
    have hfresh : k.Survives f.name st xs (.ok ()) now := .inr ⟨rfl, v, hreports, hvalue⟩
    exact ⟨iff_of_true hfresh (.inl ⟨v, hreports⟩), fun hno => absurd hfresh hno⟩
  | none =>
    rw [hreported, Option.none_or] at hvalue
    have hlost : k.setting now.attributes f.name = none := setting_of_unset (hvalue ▸ hunset)
    refine ⟨?_, fun _ => hlost⟩
    simp only [Survives, reports_iff hx hout, hreported, hlost, reduceCtorEq, false_and, exists_false, and_false,
      or_false, false_or, eq_comm (a := none)]

/-- **A value that the vendor chose survives a change in place if the call for it fails, if the look-up succeeds and its
answer reports the field, or if there was none. Otherwise it is lost.** -/
theorem updateTo_survives_iff (k : Kind) (p : Provider) (st : ResourceState k.Config) (planned : k.Config)
    (s : Session) {f : Schema.Field} (hf : k.Chooses f)
    (hunset : isSet ((k.resource.toJson planned).get? f.name) = false) :
    (k.resource.updateTo p st planned s).Ends s fun xs r now =>
      (k.Survives f.name st xs r now ↔
        (∃ e t, k.resource.modify p st planned s = (.error e, t)) ∨
          (r = .ok () ∧ ∃ v, k.Reports st.id f.name xs v) ∨ k.setting st.attributes f.name = none) ∧
      (¬k.Survives f.name st xs r now → k.setting now.attributes f.name = none) := by
  have hplanned := setting_of_unset hunset
  obtain ⟨sent, hsent, -⟩ := modify_sends p st planned s
  rcases hm : k.resource.modify p st planned s with ⟨e | _, t⟩ <;> rw [hm] at hsent
  · rw [Resource.updateTo_of_modify_error hm]
    have hkept : k.Survives f.name st sent (.error e) st := .inl rfl
    exact ⟨sent, hsent, iff_of_true hkept (.inl ⟨e, t, rfl⟩), fun hno => absurd hkept hno⟩
  · rw [Resource.updateTo_of_modify_ok hm]
    obtain ⟨asked, hasked, htold⟩ := refresh_told hf.ne_attachment p ⟨st.id, planned⟩ t
    have hmodified : ¬∃ e u, ((.ok (), t) : Except Failure Unit × Session) = (.error e, u) := by
      rintro ⟨e, u, h⟩
      cases h
    refine ⟨asked ++ sent, by rw [List.append_assoc, ← hsent]; exact hasked, ?_⟩
    rcases htold with ⟨hr, x, told, hx, hout, hshown⟩ | ⟨hr, hattributes⟩
    · have hlast : (asked ++ sent).head? = some x := by rw [List.head?_append, hx]; rfl
      rw [hr]
      simpa only [hmodified, false_or, true_and] using
        survives_of_shown st hf hunset hlast hout hshown
    · -- the look-up fails: the planned attributes stay
      rw [Survives, hattributes, hplanned]
      simp only [hmodified, hr, false_and, or_false, false_or, eq_comm (a := none), and_true, implies_true]

end Kind

/-! ## An answer that leaves a field out -/

namespace Account

/-- The account, for which the vendor chose that it only reads. -/
def readonly : Account := { sample with readOnly := some 1 }

theorem changes_readonly (id : String) : resource.changes ⟨id, readonly⟩ described = .ok ["description"] := by
  have updatable : ∀ f ∈ Kind.account.changed ⟨"", readonly⟩ described, f.mutability = .updatable := by
    decide +kernel
  have names : (Kind.account.changed ⟨"", readonly⟩ described).map Schema.Field.name = ["description"] := by
    decide +kernel
  exact Resource.changes_eq_ok_iff.2 ⟨updatable, names.symm⟩

theorem outcome_described (x : Posting) :
    (⟨x, .answer 200 describedText⟩ : Exchange).outcome accountList = .ok describedList := by
  cbv

theorem acknowledged_described (x : Posting) :
    (⟨x, .answer 200 describedText⟩ : Exchange).outcome acknowledgement = .ok () := by
  cbv

/-- **The vendor accepts a new description and lists the account, and yet it is not known any more that the account only
reads.** -/
theorem readOnly_dropped : ∃ x y t,
    resource.check (resource.toJson described) = .ok () ∧
    resource.changes ⟨"dcdbt-1#root", readonly⟩ described = .ok ["description"] ∧
    resource.updateTo (.saying describedText) ⟨"dcdbt-1#root", readonly⟩ described {} =
      ⟨.ok (), ⟨"dcdbt-1#root", described⟩, t⟩ ∧
    t.exchanges = [y, x] ∧ y.outcome accountList = .ok describedList ∧
    Kind.setting .account readonly "read_only" = some (.int 1) ∧
    Kind.setting .account described "read_only" = none ∧
    ¬Kind.Survives .account "read_only" ⟨"dcdbt-1#root", readonly⟩ [y, x] (.ok ())
      ⟨"dcdbt-1#root", described⟩ := by
  have hparts : parts "dcdbt-1#root" = .ok ("dcdbt-1", "root") := by rfl
  have written : Client.isHeaderValue "ModifyAccountDescription" = true := by decide
  obtain ⟨x, t, -, -, hmodified, hx⟩ := Provider.retried_of_saying written acknowledged_described .dcdb
    (.ofMembers (Provider.accountMembers "dcdbt-1" "root" "%" ++ [("Description", .string "new")]))
    (Provider.saying describedText).write "ModifyAccountDescription" {}
  have hmodify : resource.modify (.saying describedText) ⟨"dcdbt-1#root", readonly⟩ described {} = (.ok (), t) := by
    rw [Resource.modify_of_changes check_described (changes_readonly _) (by simp), resource_update,
      update_of_ok hparts, if_pos (by simp)]
    exact hmodified
  obtain ⟨y, u, -, hy, hread, hu⟩ := read_of_told (p := .saying describedText) (a := described) (s := t)
    Client.plain_writable hparts (fun x _ => outcome_described x) (not_transient_ok _)
  have hupdated : resource.updateTo (.saying describedText) ⟨"dcdbt-1#root", readonly⟩ described {} =
      ⟨.ok (), ⟨"dcdbt-1#root", described⟩, u⟩ := by
    rw [Resource.updateTo_of_modify_ok hmodify]
    exact Resource.refresh_of_some rfl hread
  have hbefore : Kind.setting .account readonly "read_only" = some (.int 1) := by
    have hvalue : (toJson readonly).get? "read_only" = some (.int 1) := get?_of_present (by simp) (by simp [readonly])
    show ((toJson readonly).get? "read_only").filter _ = _
    rw [hvalue]
    rfl
  have hafter : Kind.setting .account described "read_only" = none := by
    have hvalue : (toJson described).get? "read_only" = none :=
      get?_of_present (by simp) (by simp [described, sample])
    show ((toJson described).get? "read_only").filter _ = _
    rw [hvalue]
    rfl
  refine ⟨x, y, u, check_described, changes_readonly _, hupdated, by rw [hu, hx], hy, hbefore, hafter, ?_⟩
  rintro (hkept | ⟨-, v, ⟨z, told, hz, hout, hreported⟩, -⟩)
  · cases hafter.symm.trans (hkept.trans hbefore)
  · obtain rfl := Option.some.inj hz
    obtain rfl := Except.ok.inj (hy.symm.trans hout)
    cases hreported

end Account

theorem Kind.updateTo_survives_readonly : ∃ f, Kind.Chooses .account f ∧ f.name = "read_only" ∧
    isSet ((Account.toJson .described).get? f.name) = false ∧
    (Account.resource.updateTo (.saying Account.describedText) ⟨"dcdbt-1#root", .readonly⟩ .described {}).Ends {}
      fun xs r now =>
        (Kind.Survives .account f.name ⟨"dcdbt-1#root", Account.readonly⟩ xs r now ↔
          (∃ e t, Account.resource.modify (.saying Account.describedText) ⟨"dcdbt-1#root", .readonly⟩ .described {} =
              (.error e, t)) ∨
            (r = .ok () ∧ ∃ v, Kind.Reports .account "dcdbt-1#root" f.name xs v) ∨
              Kind.setting .account Account.readonly f.name = none) ∧
        (¬Kind.Survives .account f.name ⟨"dcdbt-1#root", Account.readonly⟩ xs r now →
          Kind.setting .account now.attributes f.name = none) := by
  let f : Schema.Field :=
    { name := "read_only", kind := .int, presence := .optionalComputed, description := "is it a readonly account." }
  have hf : Kind.Chooses .account f := ⟨by decide, rfl⟩
  have hvalue : (Account.toJson .described).get? "read_only" = none :=
    get?_of_present (by simp) (by simp [Account.described, Account.sample])
  have hunset : isSet ((Account.toJson .described).get? f.name) = false := congrArg isSet hvalue
  exact ⟨f, hf, rfl, hunset, updateTo_survives_iff .account (.saying Account.describedText)
    ⟨"dcdbt-1#root", Account.readonly⟩ Account.described {} hf hunset⟩

end Provision
