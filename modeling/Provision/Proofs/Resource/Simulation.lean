import Provision.Proofs.Resource.RoundTrip

/-!
# Documents and states go hand in hand

A document corresponds to a state if it is of the type, has the same identity, and its attributes are read as those of
the state; the attributes of a resource that does not exist say nothing, so they need not agree
(`Resource.Corresponds`). If configurations are read back from their documents (`Resource.Faithful`), then a step on a
document does what the step with the configurations that were read does on the state (`Faithful.take_alike`). Main
statement: for every type, a course on documents reports the same plans and results as the course on states, sends the
same requests, and stays in correspondence with it (`Kind.courses_correspond`).
-/

namespace Provision

variable {α : Type}

namespace Resource

/-- **A document says what is known of a resource.** -/
structure Corresponds (r : Resource α) (d : Document) (st : ResourceState α) : Prop where
  typeName : d.typeName = r.kind
  id : d.id = st.id
  attributes : st.present = true → r.decode d.attributes = .ok st.attributes

/-- A step on a document is a step on a state: what it desires passes the check and is read as the configuration. -/
inductive Says (r : Resource α) : DocumentStep → Step α → Prop
  | plan {v : Json} {desired : α} (h : r.decodeDesired v = .ok desired) : Says r (.plan v) (.plan desired)
  | read : Says r .read .read
  | apply {v : Json} {desired : α} (h : r.decodeDesired v = .ok desired) : Says r (.apply v) (.apply desired)
  | delete : Says r .delete .delete
  | importFrom (id : String) : Says r (.importFrom id) (.importFrom id)

/-- **Configurations are read back from their documents, and every step keeps them so.** -/
structure Faithful (r : Resource α) (Fits : α → Prop) : Prop where
  fits_of_decode : ∀ {v a}, r.decode v = .ok a → Fits a
  decode_toJson : ∀ {a}, Fits a → r.decode (r.toJson a) = .ok a
  keeps : r.Keeps Fits fun _ a => Fits a

variable {r : Resource α} {p : Provider} {d : Document} {st st' : ResourceState α} {v : Json} {desired : α}
  {s : Session}

theorem decodeDesired_eq_ok_iff :
    r.decodeDesired v = .ok desired ↔ r.check v = .ok () ∧ r.decode v = .ok desired :=
  bind_eq_ok_iff.trans ⟨fun ⟨_, hcheck, h⟩ => ⟨hcheck, h⟩, fun h => ⟨(), h⟩⟩

/-! ## States without an identity -/

theorem not_present_absent (r : Resource α) : r.absent.present = false := rfl

/-- The attributes of a resource that does not exist play no part in a plan. -/
theorem plan_of_not_present (h : st.present = false) (h' : st'.present = false) (desired : α) :
    r.plan (some st) desired = r.plan (some st') desired := by
  simp only [plan, Option.filter, h, h']
  rfl

/-- Nor do they in an application: it fails and leaves what is known, or makes the same resource known. -/
theorem apply_of_not_present_alike (h : st.present = false) (h' : st'.present = false) (desired : α) :
    (∃ e t, r.apply p st desired s = ⟨.error e, st, t⟩ ∧ r.apply p st' desired s = ⟨.error e, st', t⟩) ∨
    ∃ made t, r.apply p st desired s = ⟨.ok (), made, t⟩ ∧ r.apply p st' desired s = ⟨.ok (), made, t⟩ := by
  cases hcheck : r.check (r.toJson desired) with
  | error e => exact .inl ⟨e, s, by rw [apply, hcheck], by rw [apply, hcheck]⟩
  | ok _ =>
    rw [apply_of_not_present hcheck h, apply_of_not_present hcheck h']
    rcases hc : r.createFrom p desired s with ⟨created, t⟩
    cases created with
    | error e => exact .inl ⟨e, t, by rw [recreate, hc], by rw [recreate, hc]⟩
    | ok made => exact .inr ⟨made, t, by rw [recreate, hc], by rw [recreate, hc]⟩

/-! ## Correspondence -/

namespace Corresponds

theorem of_not_present (h : r.Corresponds d st) (hp : st.present = false) : d.id = "" ∧ st.id = "" := by
  have hid : st.id = "" := by simpa [ResourceState.present] using hp
  exact ⟨h.id.trans hid, hid⟩

/-- A document of a resource that does not exist is read as an absent state, whatever its attributes are. -/
theorem decodeState_of_not_present (h : r.Corresponds d st) (hp : st.present = false) :
    r.decodeState d = .ok r.absent := by
  rw [decodeState, if_pos h.typeName, if_pos (h.of_not_present hp).1]

/-- The document of a resource that exists is read as the state. -/
theorem decodeState_of_present (h : r.Corresponds d st) (hp : st.present = true) : r.decodeState d = .ok st := by
  have hne : d.id ≠ "" := h.id ▸ ResourceState.present_iff.1 hp
  rw [decodeState, if_pos h.typeName, if_neg hne, h.attributes hp, h.id]
  rfl

/-- Two documents of resources that do not exist. -/
theorem of_empty (htype : d.typeName = r.kind) (hid : d.id = "") (hst : st.id = "") : r.Corresponds d st where
  typeName := htype
  id := hid.trans hst.symm
  attributes := fun hp => absurd hst (ResourceState.present_iff.1 hp)

end Corresponds

/-! ## Steps -/

namespace Faithful

variable {Fits : α → Prop} (F : r.Faithful Fits)
include F

/-- What is known is read back from its document. -/
theorem corresponds_encodeState (h : st.Holds fun _ a => Fits a) : r.Corresponds (r.encodeState st) st where
  typeName := rfl
  id := rfl
  attributes := fun hp => F.decode_toJson (h hp)

theorem holds_of_corresponds (h : r.Corresponds d st) : st.Holds fun _ a => Fits a :=
  fun hp => F.fits_of_decode (h.attributes hp)

/-- The outcome of a step on a state, and its record. -/
theorem recorded_alike {o : Outcome α} (h : o.state.Holds fun _ a => Fits a) :
    (Taken.ofDocument (r.recorded o)).Alike r.Corresponds (.ofOutcome o) where
  report := rfl
  session := rfl
  state := F.corresponds_encodeState h

omit F in
theorem plan_alike (h : r.Corresponds d st) (hv : r.decodeDesired v = .ok desired) :
    r.planDocument (some d) v = r.plan (some st) desired := by
  obtain ⟨hcheck, hdecode⟩ := decodeDesired_eq_ok_iff.1 hv
  -- a plan on a document is one on the state that is read, which may have other attributes if it is absent
  have step : ∀ st', r.decodeState d = .ok st' → r.planDocument (some d) v = r.plan (some st') desired := by
    intro st' hst'
    rw [planDocument, hcheck, Option.mapM_some, hst', hdecode]
    rfl
  cases hp : st.present with
  | true => exact step st (h.decodeState_of_present hp)
  | false =>
    rw [step r.absent (h.decodeState_of_not_present hp)]
    exact plan_of_not_present r.not_present_absent hp desired

theorem read_alike (h : r.Corresponds d st) :
    (Taken.ofDocument (r.readDocument p d s)).Alike r.Corresponds (.ofOutcome (r.refresh p st s)) := by
  unfold readDocument
  cases hp : st.present with
  | true =>
    rw [h.decodeState_of_present hp]
    exact F.recorded_alike (F.keeps.refresh (F.holds_of_corresponds h))
  | false =>
    rw [h.decodeState_of_not_present hp]
    dsimp only
    rw [refresh_of_not_present r.not_present_absent, refresh_of_not_present hp]
    exact ⟨rfl, rfl, .of_empty rfl rfl (h.of_not_present hp).2⟩

theorem apply_alike (h : r.Corresponds d st) (hv : r.decodeDesired v = .ok desired) :
    (Taken.ofDocument (r.applyDocument p d v s)).Alike r.Corresponds (.ofOutcome (r.apply p st desired s)) := by
  have hfits : Fits desired := F.fits_of_decode (decodeDesired_eq_ok_iff.1 hv).2
  unfold applyDocument
  rw [hv]
  cases hp : st.present with
  | true =>
    rw [h.decodeState_of_present hp]
    exact F.recorded_alike (F.keeps.apply hfits (F.holds_of_corresponds h))
  | false =>
    rw [h.decodeState_of_not_present hp]
    dsimp only
    rcases apply_of_not_present_alike (r := r) (p := p) (s := s) r.not_present_absent hp desired with
      ⟨e, t, he, he'⟩ | ⟨made, t, he, he'⟩
    · rw [he, he']
      exact ⟨rfl, rfl, .of_empty rfl rfl (h.of_not_present hp).2⟩
    · have hmade : (r.apply p st desired s).state.Holds fun _ a => Fits a :=
        F.keeps.apply hfits (F.holds_of_corresponds h)
      rw [he'] at hmade
      rw [he, he']
      exact F.recorded_alike hmade

omit F in
/-- A deletion only empties the identity, on either side. -/
theorem delete_alike (h : r.Corresponds d st) :
    (Taken.ofDocument (r.deleteDocument p d s)).Alike r.Corresponds (.ofOutcome (r.remove p st s)) := by
  unfold deleteDocument
  cases hp : st.present with
  | true =>
    rw [h.decodeState_of_present hp]
    rcases r.remove_cases p st s with ⟨habsent, -⟩ | ⟨e, t, -, -, he⟩ | ⟨t, -, -, he⟩
    · rw [hp] at habsent
      cases habsent
    · dsimp only
      rw [he]
      exact ⟨rfl, rfl, h⟩
    · dsimp only
      rw [he]
      exact ⟨rfl, rfl, .of_empty h.typeName rfl rfl⟩
  | false =>
    rw [h.decodeState_of_not_present hp]
    dsimp only
    rw [remove_of_not_present r.not_present_absent, remove_of_not_present hp]
    exact ⟨rfl, rfl, .of_empty h.typeName rfl (h.of_not_present hp).2⟩

theorem import_alike (h : r.Corresponds d st) (id : String) :
    (Taken.instead d (r.importDocument p id s)).Alike r.Corresponds (.instead st (r.importFrom p id s)) := by
  unfold importDocument
  rcases hi : r.importFrom p id s with ⟨found, t⟩
  cases found with
  | error e => exact ⟨rfl, rfl, h⟩
  | ok now => exact ⟨rfl, rfl, F.corresponds_encodeState (F.keeps.importFrom hi)⟩

/-- **A step on a document does what the step on the state does.** -/
theorem take_alike {x : DocumentStep} {y : Step α} (hxy : r.Says x y) (h : r.Corresponds d st) :
    (r.takeDocument p x d s).Alike r.Corresponds (r.take p y st s) := by
  cases hxy with
  | plan hv => exact ⟨congrArg (Except.map some) (plan_alike h hv), rfl, h⟩
  | read => exact F.read_alike h
  | apply hv => exact F.apply_alike h hv
  | delete => exact delete_alike h
  | importFrom id => exact F.import_alike h id

end Faithful

end Resource

/-! ## Courses -/

namespace Kind

theorem faithful (k : Kind) : k.resource.Faithful k.Fits where
  fits_of_decode := fits_of_decode
  decode_toJson := decode_toJson
  keeps := k.keeps_fits

/-- **A course on documents goes hand in hand with the course on states:** step by step, the reports are the same, and
so are the sessions with all requests in them, and the document says what is known of the resource. -/
theorem courses_correspond (k : Kind) (p : Provider) {xs : List DocumentStep} {ys : List (Step k.Config)}
    {d : Document} {st : ResourceState k.Config} (s : Session) (hsteps : List.Forall₂ k.resource.Says xs ys)
    (h : k.resource.Corresponds d st) :
    List.Forall₂ (Taken.Alike k.resource.Corresponds) (course (k.resource.takeDocument p) xs d s)
      (course (k.resource.take p) ys st s) := by
  have hstep : ∀ x y d st s, k.resource.Says x y → k.resource.Corresponds d st →
      (k.resource.takeDocument p x d s).Alike k.resource.Corresponds (k.resource.take p y st s) :=
    fun _ _ _ _ _ hxy h => k.faithful.take_alike hxy h
  exact course_alike hstep hsteps h

theorem courses_correspond_sample :
    let r := Kind.attachment.resource
    let v := r.toJson Attachment.sample
    let d : Document := ⟨r.kind, "dcdbt-1#sg-1", v⟩
    let st : ResourceState Attachment := ⟨"dcdbt-1#sg-1", .sample⟩
    r.decodeDesired v = .ok Attachment.sample ∧ r.Corresponds d st ∧
      List.Forall₂ (Taken.Alike r.Corresponds)
        (course (r.takeDocument .refusing) [.read, .apply v, .plan v, .delete] d {})
        (course (r.take .refusing) [.read, .apply Attachment.sample, .plan Attachment.sample, .delete] st {}) := by
  intro r v d st
  have hdecode : r.decode v = .ok Attachment.sample := decode_toJson (k := .attachment) trivial
  have hdesired : r.decodeDesired v = .ok Attachment.sample :=
    Resource.decodeDesired_eq_ok_iff.2 ⟨Attachment.check_sample, hdecode⟩
  have hcorresponds : r.Corresponds d st := ⟨rfl, rfl, fun _ => hdecode⟩
  exact ⟨hdesired, hcorresponds, courses_correspond .attachment .refusing {}
    (.cons .read (.cons (.apply hdesired) (.cons (.plan hdesired) (.cons .delete .nil)))) hcorresponds⟩

end Kind

end Provision
