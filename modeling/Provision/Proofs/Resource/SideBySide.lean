import Provision.Proofs.Resource.Course
import Provision.Proofs.Session.SideBySide

/-!
# Steps side by side

Two courses of one type of resources, with configurations and documents that are alike. If the type treats them alike
when it reads, checks and compares them, and when it talks with the vendor (`Resource.Indifferent`), then so does every
step of the life of a resource (`Indifferent.take_paired`) and every step on its document
(`Indifferent.takeDocument_paired`). Main statement: a sequence of such steps, on whatever states and documents,
reports the same as one with configurations and documents that are alike, and leads to alike states, documents and
sessions (`Indifferent.courses_paired`).
-/

namespace Provision

variable {α : Type}

/-! ## States, outcomes and documents that are alike -/

/-- The same identity, and attributes in a relation. -/
structure ResourceState.Alike (R : α → α → Prop) (st st' : ResourceState α) : Prop where
  id : st.id = st'.id
  attributes : R st.attributes st'.attributes

/-- The same result, and states and sessions that are alike. -/
structure Outcome.Alike (E : Exchange → Exchange → Prop) (R : α → α → Prop) (o o' : Outcome α) : Prop where
  result : o.result = o'.result
  state : o.state.Alike R o'.state
  session : o.session.Alike E o'.session

/-- The same type and identity, and attributes in a relation. -/
structure Document.Alike (J : Json → Json → Prop) (d d' : Document) : Prop where
  typeName : d.typeName = d'.typeName
  id : d.id = d'.id
  attributes : J d.attributes d'.attributes

/-- The same step, with configurations in a relation. -/
inductive Step.Alike (R : α → α → Prop) : Step α → Step α → Prop
  | plan {a b : α} (h : R a b) : Alike R (.plan a) (.plan b)
  | create {a b : α} (h : R a b) : Alike R (.create a) (.create b)
  | read : Alike R .read .read
  | update {a b : α} (h : R a b) : Alike R (.update a) (.update b)
  | apply {a b : α} (h : R a b) : Alike R (.apply a) (.apply b)
  | delete : Alike R .delete .delete
  | importFrom (id : String) : Alike R (.importFrom id) (.importFrom id)

/-- The same step on a document, with values in a relation. -/
inductive DocumentStep.Alike (J : Json → Json → Prop) : DocumentStep → DocumentStep → Prop
  | plan {v w : Json} (h : J v w) : Alike J (.plan v) (.plan w)
  | read : Alike J .read .read
  | apply {v w : Json} (h : J v w) : Alike J (.apply v) (.apply w)
  | delete : Alike J .delete .delete
  | importFrom (id : String) : Alike J (.importFrom id) (.importFrom id)

namespace Resource

/-- **A type of resources treats alike what is alike.** -/
structure Indifferent (r : Resource α) (p : Provider) (E : Exchange → Exchange → Prop) (J : Json → Json → Prop)
    (R : α → α → Prop) : Prop where
  blank : R r.record.blank r.record.blank
  encode : ∀ {a b}, R a b → J (r.toJson a) (r.toJson b)
  decode : ∀ {v w}, J v w → EndAlike R (r.decode v) (r.decode w)
  check : ∀ {v w}, J v w → r.check v = r.check w
  plan : ∀ {x y v w}, Option.Rel J x y → J v w → r.schema.plan x v = r.schema.plan y w
  changed : ∀ {v w v' w'}, J v w → J v' w' → r.schema.changedFields v v' = r.schema.changedFields w w'
  create : ∀ {a b}, R a b → Run.Alike E Eq (r.create p a) (r.create p b)
  read : ∀ {a b} (id : String), R a b → Run.Alike E (Option.Rel R) (r.read p id a) (r.read p id b)
  update : ∀ {a b} (id : String) (names : List String), R a b →
    Run.Alike E Eq (r.update p id names a) (r.update p id names b)
  delete : ∀ {a b} (id : String), R a b → Run.Alike E Eq (r.delete p id a) (r.delete p id b)

end Resource

variable {r : Resource α} {p : Provider} {E : Exchange → Exchange → Prop} {J : Json → Json → Prop}
  {R : α → α → Prop} {a b : α} {v w : Json} {st st' : ResourceState α} {d d' : Document} {s t : Session}

theorem ResourceState.Alike.present (h : st.Alike R st') : st.present = st'.present := by
  rw [ResourceState.present, ResourceState.present, h.id]

/-- Outcomes that are alike are those of steps that both succeed or both fail. -/
theorem Outcome.Alike.ends {o o' : Outcome α} (h : o.Alike E R o') :
    ∃ res now now' u u', o = ⟨res, now, u⟩ ∧ o' = ⟨res, now', u'⟩ ∧ now.Alike R now' ∧ u.Alike E u' := by
  obtain ⟨res, now, u⟩ := o
  obtain ⟨res', now', u'⟩ := o'
  obtain ⟨rfl, hstate, hsession⟩ := h
  exact ⟨res, now, now', u, u', rfl, rfl, hstate, hsession⟩

namespace Resource.Indifferent

variable (h : r.Indifferent p E J R)
include h

/-! ## Steps on states -/

theorem check_toJson (hab : R a b) : r.check (r.toJson a) = r.check (r.toJson b) := h.check (h.encode hab)

theorem plan_alike {x y : Option (ResourceState α)} (hxy : Option.Rel (ResourceState.Alike R) x y) (hab : R a b) :
    r.plan x a = r.plan y b := by
  have hprior : Option.Rel J ((x.filter (·.present)).map fun st => r.toJson st.attributes)
      ((y.filter (·.present)).map fun st => r.toJson st.attributes) := by
    cases hxy with
    | none => exact .none
    | @some st st' hst =>
      simp only [Option.filter, ← hst.present]
      split
      · exact .some (h.encode hst.attributes)
      · exact .none
  rw [Resource.plan, Resource.plan, h.check_toJson hab, h.plan hprior (h.encode hab)]

omit h in
theorem gone_alike (hst : st.Alike R st') (hs : s.Alike E t) : (r.gone st s).Alike E R (r.gone st' t) where
  result := congrArg (fun id => Except.error (Failure.absent r.kind id)) hst.id
  state := ⟨rfl, hst.attributes⟩
  session := hs

theorem refresh_alike (hst : st.Alike R st') (hs : s.Alike E t) :
    (r.refresh p st s).Alike E R (r.refresh p st' t) := by
  unfold refresh
  rw [← hst.present, ← hst.id]
  split
  · rcases (h.read st.id hst.attributes).ends hs with ⟨x, y, u, u', hx, hy, hfound, hnext⟩ | ⟨e, u, u', hx, hy, hnext⟩
    · rw [hx, hy]
      cases hfound with
      | none => exact gone_alike hst hnext
      | some hab => exact ⟨rfl, ⟨rfl, hab⟩, hnext⟩
    · rw [hx, hy]
      dsimp only
      split
      · exact gone_alike hst hnext
      · exact ⟨rfl, hst, hnext⟩
  · exact ⟨rfl, hst, hs⟩

theorem createFrom_alike (hab : R a b) :
    Run.Alike E (ResourceState.Alike R) (r.createFrom p a) (r.createFrom p b) := by
  intro s t hs
  unfold createFrom
  rw [h.check_toJson hab]
  cases r.check (r.toJson b) with
  | error e => exact ⟨.error e, hs⟩
  | ok _ =>
    dsimp only
    rcases (h.create hab).ends hs with ⟨id, _, u, u', hx, hy, rfl, hnext⟩ | ⟨e, u, u', hx, hy, hnext⟩
    · have hfound : (r.refresh p ⟨id, a⟩ u).Alike E R (r.refresh p ⟨id, b⟩ u') := h.refresh_alike ⟨rfl, hab⟩ hnext
      obtain ⟨res, now, now', v, v', ho, ho', hnow, hlast⟩ := hfound.ends
      rw [hx, hy]
      dsimp only
      rw [ho, ho']
      cases res with
      | ok _ => exact ⟨.ok hnow, hlast⟩
      | error e => exact ⟨.error e, hlast⟩
    · rw [hx, hy]
      exact ⟨.error e, hnext⟩

theorem changes_alike (hst : st.Alike R st') (hab : R a b) : r.changes st a = r.changes st' b := by
  rw [changes, changes, h.changed (h.encode hst.attributes) (h.encode hab)]

theorem updateTo_alike (hst : st.Alike R st') (hab : R a b) (hs : s.Alike E t) :
    (r.updateTo p st a s).Alike E R (r.updateTo p st' b t) := by
  unfold updateTo
  rw [h.check_toJson hab, h.changes_alike hst hab, ← hst.id]
  cases r.check (r.toJson b) with
  | error e => exact ⟨rfl, hst, hs⟩
  | ok _ =>
    cases r.changes st' b with
    | error e => exact ⟨rfl, hst, hs⟩
    | ok names =>
      cases names with
      | nil => exact h.refresh_alike ⟨rfl, hab⟩ hs
      | cons name names =>
        dsimp only
        rcases (h.update st.id (name :: names) hab).ends hs with
          ⟨_, _, u, u', hx, hy, -, hnext⟩ | ⟨e, u, u', hx, hy, hnext⟩
        · rw [hx, hy]
          exact h.refresh_alike ⟨rfl, hab⟩ hnext
        · rw [hx, hy]
          exact ⟨rfl, hst, hnext⟩

theorem remove_alike (hst : st.Alike R st') (hs : s.Alike E t) :
    (r.remove p st s).Alike E R (r.remove p st' t) := by
  unfold remove
  rw [← hst.present, ← hst.id]
  split
  · rcases (h.delete st.id hst.attributes).ends hs with ⟨_, _, u, u', hx, hy, -, hnext⟩ | ⟨e, u, u', hx, hy, hnext⟩
    · rw [hx, hy]
      exact ⟨rfl, ⟨rfl, hst.attributes⟩, hnext⟩
    · rw [hx, hy]
      exact ⟨rfl, hst, hnext⟩
  · exact ⟨rfl, hst, hs⟩

theorem importFrom_alike (id : String) :
    Run.Alike E (ResourceState.Alike R) (r.importFrom p id) (r.importFrom p id) := by
  intro s t hs
  have hfound : (r.refresh p ⟨id, r.record.blank⟩ s).Alike E R (r.refresh p ⟨id, r.record.blank⟩ t) :=
    h.refresh_alike ⟨rfl, h.blank⟩ hs
  obtain ⟨res, now, now', u, u', ho, ho', hnow, hnext⟩ := hfound.ends
  rw [importFrom, importFrom, ho, ho']
  cases res with
  | ok _ => exact ⟨.ok hnow, hnext⟩
  | error e => exact ⟨.error e, hnext⟩

theorem recreate_alike (hst : st.Alike R st') (hab : R a b) (hs : s.Alike E t) :
    (r.recreate p st a s).Alike E R (r.recreate p st' b t) := by
  unfold recreate
  rcases (h.createFrom_alike hab).ends hs with ⟨now, now', u, u', hx, hy, hnow, hnext⟩ | ⟨e, u, u', hx, hy, hnext⟩
  · rw [hx, hy]
    exact ⟨rfl, hnow, hnext⟩
  · rw [hx, hy]
    exact ⟨rfl, hst, hnext⟩

theorem execute_alike (plan : Plan) (hst : st.Alike R st') (hab : R a b) (hs : s.Alike E t) :
    (r.execute p plan st a s).Alike E R (r.execute p plan st' b t) := by
  unfold execute
  cases plan.action with
  | reject => exact ⟨rfl, hst, hs⟩
  | noOp => exact ⟨rfl, hst, hs⟩
  | update => exact h.updateTo_alike hst hab hs
  | create => exact h.recreate_alike hst hab hs
  | replace =>
    dsimp only
    obtain ⟨res, now, now', u, u', ho, ho', hnow, hnext⟩ := (h.remove_alike hst hs).ends
    rw [ho, ho']
    cases res with
    | ok _ => exact h.recreate_alike hnow hab hnext
    | error e => exact ⟨rfl, hnow, hnext⟩

theorem current_alike (hst : st.Alike R st') (hs : s.Alike E t) :
    (r.current p st s).Alike E R (r.current p st' t) := by
  unfold current
  rw [← hst.present]
  split
  · obtain ⟨res, now, now', u, u', ho, ho', hnow, hnext⟩ := (h.refresh_alike hst hs).ends
    rw [ho, ho']
    cases res with
    | ok _ => exact ⟨rfl, hnow, hnext⟩
    | error e => cases e <;> exact ⟨rfl, hnow, hnext⟩
  · exact ⟨rfl, hst, hs⟩

theorem apply_alike (hst : st.Alike R st') (hab : R a b) (hs : s.Alike E t) :
    (r.apply p st a s).Alike E R (r.apply p st' b t) := by
  unfold apply
  rw [h.check_toJson hab]
  cases r.check (r.toJson b) with
  | error e => exact ⟨rfl, hst, hs⟩
  | ok _ =>
    dsimp only
    obtain ⟨res, now, now', u, u', ho, ho', hnow, hnext⟩ := (h.current_alike hst hs).ends
    rw [ho, ho']
    cases res with
    | error e => exact ⟨rfl, hnow, hnext⟩
    | ok _ =>
      dsimp only
      rw [h.plan_alike (.some hnow) hab]
      cases r.plan (some now') b with
      | error e => exact ⟨rfl, hnow, hnext⟩
      | ok plan => exact h.execute_alike plan hnow hab hnext

/-! ## Steps on documents -/

theorem decodeState_alike (hd : d.Alike J d') :
    EndAlike (ResourceState.Alike R) (r.decodeState d) (r.decodeState d') := by
  unfold decodeState
  rw [← hd.typeName, ← hd.id]
  split
  · split
    · exact .ok ⟨rfl, h.blank⟩
    · exact (h.decode hd.attributes).map fun a b hab => ⟨rfl, hab⟩
  · exact .error _

theorem decodeDesired_alike (hvw : J v w) : EndAlike R (r.decodeDesired v) (r.decodeDesired w) := by
  unfold decodeDesired
  rw [h.check hvw]
  exact (EndAlike.of_eq rfl).bind fun _ _ _ => h.decode hvw

theorem encodeState_alike (hst : st.Alike R st') : (r.encodeState st).Alike J (r.encodeState st') :=
  ⟨rfl, hst.id, h.encode hst.attributes⟩

theorem planDocument_alike (hd : d.Alike J d') (hvw : J v w) :
    r.planDocument (some d) v = r.planDocument (some d') w := by
  refine EndAlike.eq ?_
  unfold planDocument
  rw [h.check hvw, Option.mapM_some, Option.mapM_some]
  refine (EndAlike.of_eq rfl).bind fun _ _ _ => ?_
  have hprior : EndAlike (Option.Rel (ResourceState.Alike R)) (some <$> r.decodeState d) (some <$> r.decodeState d') :=
    (h.decodeState_alike hd).map fun st st' hst => .some hst
  refine hprior.bind fun x y hxy => ?_
  exact (h.decode hvw).bind fun a b hab => .of_eq (h.plan_alike hxy hab)

end Resource.Indifferent

/-- The outcomes of steps on documents that are alike. -/
structure DocumentOutcome.Alike (E : Exchange → Exchange → Prop) (J : Json → Json → Prop) (o o' : DocumentOutcome) :
    Prop where
  result : o.result = o'.result
  document : o.document.Alike J o'.document
  session : o.session.Alike E o'.session

namespace Resource.Indifferent

variable (h : r.Indifferent p E J R)
include h

theorem recorded_alike {o o' : Outcome α} (ho : o.Alike E R o') : (r.recorded o).Alike E J (r.recorded o') :=
  ⟨ho.result, h.encodeState_alike ho.state, ho.session⟩

theorem applyDocument_alike (hd : d.Alike J d') (hvw : J v w) (hs : s.Alike E t) :
    (r.applyDocument p d v s).Alike E J (r.applyDocument p d' w t) := by
  have hdesired := h.decodeDesired_alike hvw
  have hstate := h.decodeState_alike hd
  unfold applyDocument
  generalize r.decodeDesired v = x at hdesired
  generalize r.decodeDesired w = y at hdesired
  generalize r.decodeState d = known at hstate
  generalize r.decodeState d' = known' at hstate
  cases hdesired with
  | error e => exact ⟨rfl, hd, hs⟩
  | ok hab =>
    cases hstate with
    | error e => exact ⟨rfl, hd, hs⟩
    | ok hst => exact h.recorded_alike (h.apply_alike hst hab hs)

theorem readDocument_alike (hd : d.Alike J d') (hs : s.Alike E t) :
    (r.readDocument p d s).Alike E J (r.readDocument p d' t) := by
  have hstate := h.decodeState_alike hd
  unfold readDocument
  generalize r.decodeState d = known at hstate
  generalize r.decodeState d' = known' at hstate
  cases hstate with
  | error e => exact ⟨rfl, hd, hs⟩
  | ok hst => exact h.recorded_alike (h.refresh_alike hst hs)

theorem deleteDocument_alike (hd : d.Alike J d') (hs : s.Alike E t) :
    (r.deleteDocument p d s).Alike E J (r.deleteDocument p d' t) := by
  have hstate := h.decodeState_alike hd
  unfold deleteDocument
  generalize r.decodeState d = known at hstate
  generalize r.decodeState d' = known' at hstate
  cases hstate with
  | error e => exact ⟨rfl, hd, hs⟩
  | ok hst =>
    obtain ⟨res, now, now', u, u', ho, ho', hnow, hnext⟩ := (h.remove_alike hst hs).ends
    dsimp only
    rw [ho, ho']
    cases res with
    | error e => exact ⟨rfl, hd, hnext⟩
    | ok _ => exact ⟨rfl, ⟨hd.typeName, hnow.id, hd.attributes⟩, hnext⟩

theorem importDocument_alike (id : String) :
    Run.Alike E (Document.Alike J) (r.importDocument p id) (r.importDocument p id) := by
  intro s t hs
  unfold importDocument
  rcases (h.importFrom_alike id).ends hs with ⟨now, now', u, u', hx, hy, hnow, hnext⟩ | ⟨e, u, u', hx, hy, hnext⟩
  · rw [hx, hy]
    exact ⟨.ok (h.encodeState_alike hnow), hnext⟩
  · rw [hx, hy]
    exact ⟨.error e, hnext⟩

end Resource.Indifferent

/-! ## Courses -/

namespace Taken

variable {σ : Type} {S : σ → σ → Prop}

theorem paired_ofOutcome {o o' : Outcome α} (ho : o.Alike E R o') :
    (ofOutcome o).Paired (Session.Alike E) (ResourceState.Alike R) (ofOutcome o') :=
  ⟨congrArg (Except.map fun _ => none) ho.result, ho.session, ho.state⟩

theorem paired_ofDocument {o o' : DocumentOutcome} (ho : o.Alike E J o') :
    (ofDocument o).Paired (Session.Alike E) (Document.Alike J) (ofDocument o') :=
  ⟨congrArg (Except.map fun _ => none) ho.result, ho.session, ho.document⟩

theorem paired_instead {x y : Run σ} {known known' : σ} (hxy : Run.Alike E S x y) (hknown : S known known')
    (hs : s.Alike E t) : (instead known (x s)).Paired (Session.Alike E) S (instead known' (y t)) := by
  rcases hxy.ends hs with ⟨now, now', u, u', hx, hy, hnow, hnext⟩ | ⟨e, u, u', hx, hy, hnext⟩
  · rw [hx, hy]
    exact ⟨rfl, hnext, hnow⟩
  · rw [hx, hy]
    exact ⟨rfl, hnext, hknown⟩

end Taken

/-- A step on a state or on a document; both can be exchanged for others in between. -/
inductive AnyStep (α : Type) where
  | state (x : Step α)
  | document (x : DocumentStep)
  | know (st : ResourceState α)
  | hold (d : Document)
deriving Repr

/-- Takes a step on a state or on a document, of which the other one stays as it is. -/
def Resource.takeAny (r : Resource α) (p : Provider) :
    AnyStep α → ResourceState α × Document → Session → Taken (ResourceState α × Document)
  | .state x, (st, d), s => let t := r.take p x st s; ⟨t.report, (t.state, d), t.session⟩
  | .document x, (st, d), s => let t := r.takeDocument p x d s; ⟨t.report, (st, t.state), t.session⟩
  | .know st, (_, d), s => ⟨.ok none, (st, d), s⟩
  | .hold d, (st, _), s => ⟨.ok none, (st, d), s⟩

/-- The same step, with what is known and what is desired in relations. -/
inductive AnyStep.Alike (J : Json → Json → Prop) (R : α → α → Prop) : AnyStep α → AnyStep α → Prop
  | state {x y : Step α} (h : x.Alike R y) : Alike J R (.state x) (.state y)
  | document {x y : DocumentStep} (h : x.Alike J y) : Alike J R (.document x) (.document y)
  | know {st st' : ResourceState α} (h : st.Alike R st') : Alike J R (.know st) (.know st')
  | hold {d d' : Document} (h : d.Alike J d') : Alike J R (.hold d) (.hold d')

/-- A state and a document that are alike to others. -/
structure BothAlike (J : Json → Json → Prop) (R : α → α → Prop) (x y : ResourceState α × Document) : Prop where
  state : x.1.Alike R y.1
  document : x.2.Alike J y.2

namespace Resource.Indifferent

variable (h : r.Indifferent p E J R)
include h

/-- **A step on a state.** -/
theorem take_paired {x y : Step α} (hxy : x.Alike R y) (hst : st.Alike R st') (hs : s.Alike E t) :
    (r.take p x st s).Paired (Session.Alike E) (ResourceState.Alike R) (r.take p y st' t) := by
  cases hxy with
  | plan hab => exact ⟨congrArg (Except.map some) (h.plan_alike (.some hst) hab), hs, hst⟩
  | create hab => exact Taken.paired_instead (h.createFrom_alike hab) hst hs
  | read => exact Taken.paired_ofOutcome (h.refresh_alike hst hs)
  | update hab => exact Taken.paired_ofOutcome (h.updateTo_alike hst hab hs)
  | apply hab => exact Taken.paired_ofOutcome (h.apply_alike hst hab hs)
  | delete => exact Taken.paired_ofOutcome (h.remove_alike hst hs)
  | importFrom id => exact Taken.paired_instead (h.importFrom_alike id) hst hs

/-- **A step on a document.** -/
theorem takeDocument_paired {x y : DocumentStep} (hxy : x.Alike J y) (hd : d.Alike J d') (hs : s.Alike E t) :
    (r.takeDocument p x d s).Paired (Session.Alike E) (Document.Alike J) (r.takeDocument p y d' t) := by
  cases hxy with
  | plan hvw => exact ⟨congrArg (Except.map some) (h.planDocument_alike hd hvw), hs, hd⟩
  | read => exact Taken.paired_ofDocument (h.readDocument_alike hd hs)
  | apply hvw => exact Taken.paired_ofDocument (h.applyDocument_alike hd hvw hs)
  | delete => exact Taken.paired_ofDocument (h.deleteDocument_alike hd hs)
  | importFrom id => exact Taken.paired_instead (h.importDocument_alike id) hd hs

theorem takeAny_paired {x y : AnyStep α} {known known' : ResourceState α × Document} (hxy : x.Alike J R y)
    (hknown : BothAlike J R known known') (hs : s.Alike E t) :
    (r.takeAny p x known s).Paired (Session.Alike E) (BothAlike J R) (r.takeAny p y known' t) := by
  cases hxy with
  | state hstep =>
    have hpaired := h.take_paired hstep hknown.state hs
    exact ⟨hpaired.report, hpaired.session, hpaired.state, hknown.document⟩
  | document hstep =>
    have hpaired := h.takeDocument_paired hstep hknown.document hs
    exact ⟨hpaired.report, hpaired.session, hknown.state, hpaired.state⟩
  | know hst => exact ⟨rfl, hs, hst, hknown.document⟩
  | hold hd => exact ⟨rfl, hs, hknown.state, hd⟩

/-- **Sequences of steps.** -/
theorem courses_paired {xs ys : List (AnyStep α)} {known known' : ResourceState α × Document}
    (hsteps : List.Forall₂ (AnyStep.Alike J R) xs ys) (hknown : BothAlike J R known known') (hs : s.Alike E t) :
    List.Forall₂ (Taken.Paired (Session.Alike E) (BothAlike J R)) (course (r.takeAny p) xs known s)
      (course (r.takeAny p) ys known' t) := by
  refine course_paired (fun x y known known' s t hxy hknown hs => ?_) hsteps hknown hs
  exact h.takeAny_paired hxy hknown hs

end Resource.Indifferent

end Provision
