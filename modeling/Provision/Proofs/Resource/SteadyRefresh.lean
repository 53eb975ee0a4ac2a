import Provision.Proofs.Resource.Imported
import Provision.Proofs.Vendor.Steady

/-!
# Refreshing twice

A look-up asks, and takes over what it was told. It asks the same when it starts from what it found, and the same answer
tells it the same again (`rereads_of_recurs`). Main statement: as long as the vendor says the same, a second refresh
after one that succeeded sends the same requests and changes nothing (`Kind.refresh_refresh`).
-/

namespace Provision

/-- **A look-up that starts from what it found finds the same again**, by the same requests, as long as the vendor says
the same. -/
def Rereads {α γ : Type} (answer : Json.Record γ) (read : α → Run (Option α)) : Prop :=
  ∀ (a b : α) (s s' : Session) (xs ys : List Exchange), (read a s).1 = .ok (some b) →
    (read a s).2.exchanges = xs ++ s.exchanges → (read b s').2.exchanges = ys ++ s'.exchanges →
    Steady answer (ys ++ xs) → (read b s').1 = .ok (some b) ∧ requests ys = requests xs

theorem rereads_of_error {α γ : Type} {answer : Json.Record γ} {read : α → Run (Option α)} {e : Failure}
    (h : ∀ a, read a = .fail e) : Rereads answer read := by
  intro a b s s' xs ys hb
  rw [h] at hb
  cases hb

/-- A look-up that asks, and takes from the answer what it takes from it again. -/
theorem rereads_of_recurs {α β γ : Type} {answer : Json.Record γ} {read : α → Run (Option α)} {act : α → Run β}
    {take : α → β → Option α} (hact : ∀ a, (act a).Recurs answer)
    (hread : ∀ a, read a = act a >>= fun told => pure (take a told))
    (hkeeps : ∀ {a b told}, take a told = some b → take b told = some b ∧ act b = act a) : Rereads answer read := by
  intro a b s s' xs ys hb hxs hys hsteady
  rw [hread] at hb hxs hys ⊢
  rw [Run.session_map] at hxs hys
  rcases hs : act a s with ⟨r, t⟩
  cases r with
  | error e =>
    rw [Run.bind_error hs] at hb
    cases hb
  | ok told =>
    rw [Run.bind_ok hs] at hb
    obtain ⟨htake, hsame⟩ := hkeeps (Except.ok.inj hb)
    rw [hsame] at hys ⊢
    obtain ⟨hr, hrequests⟩ := (hact a).again (congrArg Prod.fst hs) hxs hys hsteady
    have hs' : act a s' = (.ok told, (act a s').2) := Prod.ext hr rfl
    rw [Run.bind_ok hs']
    exact ⟨congrArg Except.ok htake, hrequests⟩

open Vendor

namespace Attachment

variable {p : Provider} {product group instanceId : String} {a b : Attachment} {found : List String}

theorem conclusive_of_boundBy {r : Except Failure (List (Option String))} {here : Bool}
    (h : boundBy group r = .ok here) : Conclusive r := by
  cases r with
  | ok groups => exact .inr ⟨groups, rfl, trivial⟩
  | error e =>
    rw [boundBy] at h
    split at h
    · rename_i he
      exact .inl ⟨e, rfl, he⟩
    · cases h

theorem boundBy_of_agree {r r' : Except Failure (List (Option String))} {here : Bool} (h : boundBy group r = .ok here)
    (hagree : Agree r r') : boundBy group r' = .ok here := by
  cases r with
  | ok groups =>
    rw [hagree.eq_ok rfl]
    exact h
  | error e =>
    rw [boundBy] at h
    split at h
    · rename_i he
      obtain ⟨e', rfl, he'⟩ := hagree.absent.1 ⟨e, rfl, he⟩
      rw [boundBy, if_pos he']
      exact h
    · cases h

/-- A question about one instance recurs: that there is no such instance is told again as well. -/
theorem recurs_isBound : (isBound p product group instanceId).Recurs boundGroups where
  grows := isBound_ensures.mono fun _ _ _ => trivial
  again := fun {s s' here xs ys} hhere hxs hys hsteady => by
    rw [isBound_apply] at hhere hxs hys ⊢
    obtain ⟨hagree, hrequests⟩ := Provider.retried_again hxs hys hsteady (conclusive_of_boundBy hhere)
    exact ⟨boundBy_of_agree hhere hagree, hrequests⟩

theorem recurs_bound : ∀ instances : List String, (bound p product group instances).Recurs boundGroups
  | [] => Run.recurs_pure []
  | _ :: rest => recurs_isBound.bind fun _ => (recurs_bound rest).bind fun _ => Run.recurs_pure _

theorem productOr_productOr (product : String) : productOr (productOr product) = productOr product := by
  by_cases hempty : product = ""
  · subst hempty
    rfl
  · have hkept : productOr product = product := if_neg hempty
    rw [hkept, hkept]

/-- What was found is found again, and for the same type of instances. -/
theorem foundOf_of_foundOf (h : foundOf a group found = some b) :
    foundOf b group found = some b ∧ productOr b.product = productOr a.product := by
  rw [foundOf] at h ⊢
  split at h
  · cases h
  · rename_i hne
    cases h
    rw [if_neg hne]
    exact ⟨by rw [productOr_productOr], productOr_productOr a.product⟩

theorem rereads (p : Provider) (id : String) : Rereads boundGroups (read p id) := by
  cases hparts : parts id with
  | error e => exact rereads_of_error fun _ => read_of_error hparts
  | ok named =>
    refine rereads_of_recurs (fun _ => recurs_bound named.1.toList) (fun _ => read_of_ok hparts) fun h => ?_
    obtain ⟨hfound, hproduct⟩ := foundOf_of_foundOf h
    exact ⟨hfound, by rw [hproduct]⟩

end Attachment

theorem Account.rereads (p : Provider) (id : String) : Rereads accountList (read p id) := by
  cases hparts : parts id with
  | error e => exact rereads_of_error fun _ => read_of_error hparts
  | ok named =>
    exact rereads_of_recurs (fun _ => Run.recurs_retried _ _ _) (fun _ => read_of_ok hparts) fun h =>
      ⟨found_of_found h, rfl⟩

theorem Instance.rereads (p : Provider) (id : String) : Rereads instanceList (read p id) :=
  rereads_of_recurs (fun _ => Run.recurs_retried _ _ _) (fun _ => read_eq) fun h => ⟨found_of_found h, rfl⟩

namespace Kind

theorem rereads (p : Provider) (id : String) : ∀ k : Kind, Rereads k.answer (k.resource.read p id)
  | .account => Account.rereads p id
  | .instance _ => Instance.rereads p id
  | .attachment => Attachment.rereads p id

/-- **A refresh that follows another one changes nothing.** -/
theorem refresh_refresh {k : Kind} {p : Provider} {st now : ResourceState k.Config} {s s' t : Session}
    {xs ys : List Exchange} (h : k.resource.refresh p st s = ⟨.ok (), now, t⟩) (hxs : t.exchanges = xs ++ s.exchanges)
    (hys : (k.resource.refresh p now s').session.exchanges = ys ++ s'.exchanges)
    (hsteady : Steady k.answer (ys ++ xs)) :
    now.id = st.id ∧ (k.resource.refresh p now s').result = .ok () ∧ (k.resource.refresh p now s').state = now ∧
      requests ys = requests xs := by
  obtain ⟨hp, hid, hread⟩ := Resource.read_of_refresh h
  have hpresent : now.present = true := by
    rw [ResourceState.present_iff, hid]
    exact ResourceState.present_iff.1 hp
  rw [← hid] at hread
  rw [Resource.session_refresh hpresent] at hys
  obtain ⟨hagain, hrequests⟩ := rereads p now.id k st.attributes now.attributes s s' xs ys (congrArg Prod.fst hread)
    ((congrArg (·.2.exchanges) hread).trans hxs) hys hsteady
  have hrefresh := Resource.refresh_of_some hpresent (Prod.ext hagain rfl)
  rw [hrefresh]
  exact ⟨hid, rfl, rfl, hrequests⟩

end Kind

/-! ## A vendor that always lists the same instance -/

namespace Instance

/-- A refresh with such a vendor takes one question. -/
theorem refresh_of_single (st : ResourceState Instance) (h : st.present = true) (s : Session) : ∃ x t,
    (resource .hourly).refresh (.saying singleText) st s = ⟨.ok (), ⟨st.id, st.attributes.merge listedSingle⟩, t⟩ ∧
      x.outcome instanceList = .ok [listedSingle] ∧ t.exchanges = x :: s.exchanges := by
  have question : Client.isHeaderValue "DescribeDCDBInstances" = true := by decide
  obtain ⟨x, t, -, hout, hr, hx⟩ := Provider.retried_of_saying question outcome_single .dcdb
    (Provider.instanceQuestion st.id) (Provider.saying singleText).read "DescribeDCDBInstances" s
  have hread : read (.saying singleText) st.id st.attributes s =
      (.ok (some (st.attributes.merge listedSingle)), t) := by
    rw [read_eq]
    exact Run.bind_ok hr
  exact ⟨x, t, Resource.refresh_of_some h hread, hout, hx⟩

end Instance

/-- An instance of which nothing but the identifier is known is refreshed twice. -/
theorem Kind.refresh_refresh_single : ∃ now t x y,
    (Instance.resource .hourly).refresh (.saying Instance.singleText) ⟨"tdsqlshard-1", {}⟩ {} = ⟨.ok (), now, t⟩ ∧
      ((Instance.resource .hourly).refresh (.saying Instance.singleText) now t).state = now ∧
      ((Instance.resource .hourly).refresh (.saying Instance.singleText) now t).session.exchanges = [y, x] ∧
      y.posting.unsigned = x.posting.unsigned := by
  obtain ⟨x, t, hfirst, hx, ht⟩ := Instance.refresh_of_single ⟨"tdsqlshard-1", {}⟩ (by decide) {}
  obtain ⟨y, u, hsecond, hy, hu⟩ := Instance.refresh_of_single
    ⟨"tdsqlshard-1", ({} : Instance).merge Instance.listedSingle⟩ (by decide) t
  have hbefore : t.exchanges = [x] ++ ({} : Session).exchanges := ht
  have hsession : ((Instance.resource .hourly).refresh (.saying Instance.singleText)
      ⟨"tdsqlshard-1", ({} : Instance).merge Instance.listedSingle⟩ t).session.exchanges = [y] ++ t.exchanges := by
    rw [hsecond]
    exact hu
  have hsteady : Steady Vendor.instanceList ([y] ++ [x]) := by
    have told : ∀ z ∈ [y, x], z.outcome Vendor.instanceList = .ok [Instance.listedSingle] := by simp [hx, hy]
    intro z hz w hw _ _
    rw [told z hz, told w hw]
    exact ⟨rfl, Iff.rfl⟩
  obtain ⟨-, -, hstate, hrequests⟩ := refresh_refresh (k := .instance .hourly) hfirst hbefore hsession hsteady
  exact ⟨_, t, x, y, hfirst, hstate, hsession.trans (congrArg ([y] ++ ·) ht), List.head_eq_of_cons_eq hrequests⟩

end Provision
