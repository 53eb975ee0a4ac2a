import Provision.Proofs.Resource.Accepted
import Provision.Proofs.Resource.Parts

/-!
# Broken identities

Each call on a broken identity fails before anything is sent (`Resource.Rejects`), and so does each step. Main
statement: no step on a broken identity sends a request or changes the identity, and the failure carries the whole
identity (`Kind.broken_rejected`).
-/

namespace Provision

/-! ## Calls and steps -/

namespace Resource

variable {α : Type}

/-- **Every call on an identity fails before anything is sent.** A change in place is only called with fields. -/
structure Rejects (r : Resource α) (p : Provider) (id : String) : Prop where
  ne_empty : id ≠ ""
  read : ∀ attributes s, r.read p id attributes s = (.error (.brokenId id), s)
  update : ∀ names planned s, names ≠ [] → ∃ e, r.update p id names planned s = (.error e, s)
  delete : ∀ attributes s, r.delete p id attributes s = (.error (.brokenId id), s)

namespace Rejects

variable {r : Resource α} {p : Provider} {id : String} (h : r.Rejects p id)

include h

theorem refresh (attributes : α) (s : Session) :
    r.refresh p ⟨id, attributes⟩ s = ⟨.error (.brokenId id), ⟨id, attributes⟩, s⟩ :=
  refresh_of_error (ResourceState.present_iff.2 h.ne_empty) (h.read attributes s) rfl

theorem remove (attributes : α) (s : Session) :
    r.remove p ⟨id, attributes⟩ s = ⟨.error (.brokenId id), ⟨id, attributes⟩, s⟩ :=
  remove_of_delete_error (ResourceState.present_iff.2 h.ne_empty) (h.delete attributes s)

theorem importFrom (s : Session) : r.importFrom p id s = (.error (.brokenId id), s) := by
  rw [Resource.importFrom, h.refresh]

theorem current (attributes : α) (s : Session) :
    r.current p ⟨id, attributes⟩ s = ⟨.error (.brokenId id), ⟨id, attributes⟩, s⟩ := by
  have hp : (⟨id, attributes⟩ : ResourceState α).present = true := ResourceState.present_iff.2 h.ne_empty
  rw [Resource.current, if_pos hp, h.refresh]

/-- A change in place stops at its checks, at its call, or at the look-up after it if no field changes. -/
theorem updateTo (attributes planned : α) (s : Session) : ∃ e known,
    r.updateTo p ⟨id, attributes⟩ planned s = ⟨.error e, ⟨id, known⟩, s⟩ := by
  have hmodify : (∃ e, r.modify p ⟨id, attributes⟩ planned s = (.error e, s)) ∨
      r.modify p ⟨id, attributes⟩ planned s = (.ok (), s) := by
    unfold Resource.modify
    split
    · exact .inl ⟨_, rfl⟩
    · exact .inl ⟨_, rfl⟩
    · exact .inr rfl
    · exact .inl (h.update _ planned s (by simp))
  rcases hmodify with ⟨e, he⟩ | hok
  · exact ⟨e, attributes, updateTo_of_modify_error he⟩
  · exact ⟨_, planned, by rw [updateTo_of_modify_ok hok, h.refresh]⟩

theorem apply (attributes desired : α) (s : Session) : ∃ e,
    r.apply p ⟨id, attributes⟩ desired s = ⟨.error e, ⟨id, attributes⟩, s⟩ ∧
      (r.check (r.toJson desired) = .ok () → e = .brokenId id) := by
  unfold Resource.apply
  cases r.check (r.toJson desired) with
  | error e => exact ⟨e, rfl, fun hc => by cases hc⟩
  | ok _ =>
    rw [h.current]
    exact ⟨_, rfl, fun _ => rfl⟩

/-! ## Steps on documents -/

theorem importDocument (s : Session) : r.importDocument p id s = (.error (.brokenId id), s) := by
  rw [Resource.importDocument, h.importFrom]

variable {d : Document}

/-- A step on a document with a rejected identity: the identity and the session stay, and the failure carries the
identity if the document can be used. -/
theorem readDocument (hid : d.id = id) (s : Session) : ∃ e known,
    r.readDocument p d s = ⟨.error e, known, s⟩ ∧ known.id = id ∧ (¬r.Unusable d → e = .brokenId id) := by
  cases hd : r.decodeState d with
  | error e =>
    exact ⟨e, d, by rw [Resource.readDocument, hd], hid, fun husable => absurd (unusable_of_decodeState hd) husable⟩
  | ok st =>
    obtain ⟨_, attributes⟩ := st
    obtain rfl : _ = id := (corresponds_of_decodeState hd).id.symm.trans hid
    refine ⟨_, r.encodeState ⟨_, attributes⟩, ?_, rfl, fun _ => rfl⟩
    rw [Resource.readDocument, hd]
    dsimp only
    rw [h.refresh, recorded]

theorem deleteDocument (hid : d.id = id) (s : Session) : ∃ e,
    r.deleteDocument p d s = ⟨.error e, d, s⟩ ∧ (¬r.Unusable d → e = .brokenId id) := by
  cases hd : r.decodeState d with
  | error e =>
    exact ⟨e, by rw [Resource.deleteDocument, hd], fun husable => absurd (unusable_of_decodeState hd) husable⟩
  | ok st =>
    obtain ⟨_, attributes⟩ := st
    obtain rfl : _ = id := (corresponds_of_decodeState hd).id.symm.trans hid
    exact ⟨_, deleteDocument_of_error hd (h.remove attributes s), fun _ => rfl⟩

theorem applyDocument (hid : d.id = id) (v : Json) (s : Session) : ∃ e known,
    r.applyDocument p d v s = ⟨.error e, known, s⟩ ∧ known.id = id ∧
      (¬r.Unusable d → ∀ desired, r.decodeDesired v = .ok desired → r.check (r.toJson desired) = .ok () →
        e = .brokenId id) := by
  cases hv : r.decodeDesired v with
  | error e => exact ⟨e, d, by rw [Resource.applyDocument, hv], hid, fun _ _ hdesired => by cases hdesired⟩
  | ok desired =>
    cases hd : r.decodeState d with
    | error e =>
      exact ⟨e, d, by rw [Resource.applyDocument, hv, hd], hid,
        fun husable => absurd (unusable_of_decodeState hd) husable⟩
    | ok st =>
      obtain ⟨_, attributes⟩ := st
      obtain rfl : _ = id := (corresponds_of_decodeState hd).id.symm.trans hid
      obtain ⟨e, he, hbroken⟩ := h.apply attributes desired s
      refine ⟨e, r.encodeState ⟨_, attributes⟩, ?_, rfl, ?_⟩
      · rw [applyDocument_eq hd hv, he, recorded]
      · rintro - _ ⟨⟩ hcheck
        exact hbroken hcheck

end Rejects

end Resource

/-! ## All types -/

namespace Account

theorem rejects {id : String} (h : parts id = .error (.brokenId id)) (hne : id ≠ "") (p : Provider) :
    resource.Rejects p id where
  ne_empty := hne
  read := fun a s => congrFun (read_of_error (a := a) h) s
  update := fun names planned s _ => by
    refine ⟨.brokenId id, ?_⟩
    show update p id names planned s = _
    rw [update, h]
    rfl
  delete := fun a s => by
    show delete p id a s = _
    rw [delete, h]
    rfl

end Account

namespace Attachment

theorem rejects {id : String} (h : parts id = .error (.brokenId id)) (hne : id ≠ "") (p : Provider) :
    resource.Rejects p id where
  ne_empty := hne
  read := fun a s => congrFun (read_of_error (a := a) h) s
  update := fun names planned s hnames => by
    obtain ⟨name, rest, rfl⟩ := List.exists_cons_of_ne_nil hnames
    exact ⟨_, rfl⟩
  delete := fun a s => by
    show delete p id a s = _
    rw [delete, h]
    rfl

end Attachment

namespace Kind

theorem rejects {k : Kind} {id : String} (h : k.Broken id) (hne : id ≠ "") (p : Provider) :
    k.resource.Rejects p id := by
  match k, h with
  | .account, h => exact Account.rejects (Account.broken_iff.1 h) hne p
  | .attachment, h => exact Attachment.rejects (Attachment.broken_iff.1 h) hne p

/-- **A broken identity never reaches the vendor.** No step on it sends a request, or touches the session in any other
way, and the identity stays. Looking up, deleting, importing and applying what passes the check fail with the whole
identity, on states as well as on documents which can be used. -/
theorem broken_rejected (k : Kind) (p : Provider) (id : String) (s : Session) (hne : id ≠ "") (h : k.Broken id) :
    (∀ attributes,
      k.resource.refresh p ⟨id, attributes⟩ s = ⟨.error (.brokenId id), ⟨id, attributes⟩, s⟩ ∧
      k.resource.remove p ⟨id, attributes⟩ s = ⟨.error (.brokenId id), ⟨id, attributes⟩, s⟩ ∧
      (∀ planned, ∃ e known, k.resource.updateTo p ⟨id, attributes⟩ planned s = ⟨.error e, ⟨id, known⟩, s⟩) ∧
      ∀ desired, ∃ e, k.resource.apply p ⟨id, attributes⟩ desired s = ⟨.error e, ⟨id, attributes⟩, s⟩ ∧
        (k.resource.check (k.resource.toJson desired) = .ok () → e = .brokenId id)) ∧
    k.resource.importFrom p id s = (.error (.brokenId id), s) ∧
    k.resource.importDocument p id s = (.error (.brokenId id), s) ∧
    ∀ d : Document, d.id = id →
      (∃ e known, k.resource.readDocument p d s = ⟨.error e, known, s⟩ ∧ known.id = id ∧
        (¬k.resource.Unusable d → e = .brokenId id)) ∧
      (∃ e, k.resource.deleteDocument p d s = ⟨.error e, d, s⟩ ∧ (¬k.resource.Unusable d → e = .brokenId id)) ∧
      ∀ v : Json, ∃ e known, k.resource.applyDocument p d v s = ⟨.error e, known, s⟩ ∧ known.id = id ∧
        (¬k.resource.Unusable d → ¬k.resource.Refuses v → v.Distinct → e = .brokenId id) := by
  have hr := k.rejects h hne p
  refine ⟨fun attributes => ⟨hr.refresh attributes s, hr.remove attributes s,
    fun planned => hr.updateTo attributes planned s, fun desired => hr.apply attributes desired s⟩,
    hr.importFrom s, hr.importDocument s,
    fun d hid => ⟨hr.readDocument hid s, hr.deleteDocument hid s, fun v => ?_⟩⟩
  obtain ⟨e, known, happly, hknown, hbroken⟩ := hr.applyDocument hid v s
  refine ⟨e, known, happly, hknown, fun husable hv hdistinct => ?_⟩
  obtain ⟨desired, hdesired⟩ := Resource.decodeDesired_of_not_refuses hv
  obtain ⟨hcheck, hdecode⟩ := Resource.decodeDesired_eq_ok_iff.1 hdesired
  exact hbroken husable desired hdesired (k.rechecks.check_toJson hdistinct hcheck hdecode)

/-- A list of instances that names none. -/
theorem broken_rejected_unnamed :
    let id := " ,#sg-1"
    let st : ResourceState Attachment := ⟨id, .sample⟩
    id ≠ "" ∧ Kind.attachment.Broken id ∧
      Attachment.resource.refresh .refusing st {} = ⟨.error (.brokenId id), st, {}⟩ ∧
      Attachment.resource.remove .refusing st {} = ⟨.error (.brokenId id), st, {}⟩ ∧
      Attachment.resource.importFrom .refusing id {} = (.error (.brokenId id), {}) := by
  intro id st
  have hne : id ≠ "" := by decide
  have hparts : Attachment.parts id = .error (.brokenId id) := by decide +kernel
  have hbroken : Kind.attachment.Broken id := Attachment.broken_iff.2 hparts
  obtain ⟨hstates, himport, -⟩ := broken_rejected .attachment .refusing id {} hne hbroken
  obtain ⟨hrefresh, hremove, -⟩ := hstates .sample
  exact ⟨hne, hbroken, hrefresh, hremove, himport⟩

end Kind

end Provision
