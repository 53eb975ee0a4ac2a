import Provision.Proofs.Json.Retold
import Provision.Proofs.Resource.SideBySide
import Provision.Proofs.Resource.Simulation

/-!
# Documents that are written and read again

A document that is written as a text reads back with the attributes that the text tells (`Document.ofText_pretty`), if
they can be stored. Those of a document that was read from a text can (`Document.stored_of_ofText`), and so can those
of a configuration whose numbers fit, so every step on a document leaves one that can be stored
(`Kind.stored_takeDocument`). The attributes that come back are read as the same configuration, for every type: the
document says the same (`Document.same_told`).
-/

namespace Provision

open Json

/-! ## Texts of documents -/

namespace Document

variable {d : Document}

/-- How deep the attributes of a document are nested at most. -/
abbrev levels : Nat := maxLevels - 1

/-- The attributes of a document can be written and read again. -/
def Storable (d : Document) : Prop := Stored levels d.attributes

theorem storable_absent (typeName : String) : (absent typeName).Storable :=
  ⟨by rw [absent, Fits]; trivial, by rw [absent, Tidy]; trivial⟩

/-- A document as its text tells it. -/
def retold (d : Document) : Document := { d with attributes := told d.attributes }

theorem fields_of_names : record.field? "type" = some (required "type" .text fun v d => { d with typeName := v }) ∧
    record.field? "id" = some (required "id" .text fun v d => { d with id := v }) ∧
    record.field? "attributes" = some (required "attributes" (.any levels) fun v d => { d with attributes := v }) :=
  ⟨rfl, rfl, rfl⟩

/-- **A document that is written reads back.** -/
theorem ofText_pretty (h : d.Storable) : record.ofText d.toJson.pretty = .ok d.retold := by
  obtain ⟨htype, hid, hattributes⟩ := fields_of_names
  have hfill : record.fillSource [] record.blank [("type", .string (some d.typeName)), ("id", .string (some d.id)),
      ("attributes", tree d.attributes)] = .ok d.retold := by
    simp only [Record.fillSource, htype, hid, hattributes, required, Record.Field.keeping, Reading.map, Reading.text,
      Reading.any, Reading.ofHead, Source.head, toJson_tree h.1]
    rfl
  have hmissing : record.missing? ["type", "id", "attributes"] = none := by decide
  simp only [Record.ofText, scan_pretty, toJson, tree, treeMembers, Record.ofSource, List.map_cons, List.map_nil, hfill,
    hmissing]
  rfl

/-- **A document that was read from a text can be written.** -/
theorem storable_of_ofText {text : String} (h : record.ofText text = .ok d) : d.Storable := by
  refine Record.holds_of_ofText (P := Storable) (storable_absent "") ?_ h
  -- the type and the identity do not change the attributes
  have other : ∀ (name : String) (put : String → Document → Document),
      (∀ v d, (put v d).attributes = d.attributes) → (required name .text put).KeepsRead Storable := by
    intro name put hput s change hchange d hd
    obtain ⟨v, -, rfl⟩ := map_eq_ok_iff.1 hchange
    rw [Storable, hput]
    exact hd
  simp only [record, List.forall_mem_cons]
  refine ⟨other _ _ fun _ _ => rfl, other _ _ fun _ _ => rfl, ?_, fun _ h => by cases h⟩
  intro s change hchange d _
  obtain ⟨v, hv, rfl⟩ := map_eq_ok_iff.1 hchange
  simp only [Reading.any] at hv
  split at hv
  · rename_i w hw
    cases hv
    exact stored_of_toJson hw
  · cases hv

end Document

/-! ## What is read of attributes that were told -/

open Reading Record

theorem Account.retells : Account.record.reading.Retells := by
  refine Record.retells ?_
  simp only [Account.record, List.forall_mem_cons]
  exact ⟨retells_keeping retells_text _ _, retells_keeping retells_text _ _, retells_keeping retells_text _ _,
    retells_keeping retells_text _ _, retells_keeping (retells_within _ _ _).option _ _,
    retells_keeping retells_text.option _ _, retells_keeping retells_nat64.option _ _, fun _ h => by cases h⟩

theorem Instance.retells_tag : Instance.tagRecord.reading.Retells := by
  refine Record.retells ?_
  simp only [Instance.tagRecord, List.forall_mem_cons]
  exact ⟨retells_keeping retells_text.option _ _, retells_keeping retells_text.option _ _, fun _ h => by cases h⟩

theorem Instance.retells : Instance.record.reading.Retells := by
  have number : int64.option.Retells := (retells_within _ _ _).option
  refine Record.retells ?_
  simp only [Instance.record, List.forall_mem_cons]
  exact ⟨retells_keeping retells_text.list _ _, retells_keeping number _ _, retells_keeping number _ _,
    retells_keeping number _ _, retells_keeping number _ _, retells_keeping number _ _,
    retells_keeping retells_text.option _ _, retells_keeping retells_text.option _ _,
    retells_keeping retells_text.option _ _, retells_keeping retells_text.option _ _, retells_keeping number _ _,
    retells_keeping retells_text.option _ _, retells_keeping retells_tag.list _ _, fun _ h => by cases h⟩

theorem Attachment.retells : Attachment.record.reading.Retells := by
  refine Record.retells ?_
  simp only [Attachment.record, List.forall_mem_cons]
  exact ⟨retells_keeping retells_text _ _, retells_keeping retells_text _ _, retells_keeping retells_text.list _ _,
    fun _ h => by cases h⟩

/-- **Every type reads the same configuration from attributes and from what their text tells.** -/
theorem Kind.retells (k : Kind) : k.resource.record.reading.Retells := by
  match k with
  | .account => exact Account.retells
  | .instance _ => exact Instance.retells
  | .attachment => exact Attachment.retells

namespace Document

variable {d : Document}

/-- **Two documents say the same:** they have the same type and identity, and every type reads the same configuration
from their attributes, or none. -/
structure Same (d d' : Document) : Prop where
  typeName : d.typeName = d'.typeName
  id : d.id = d'.id
  attributes : ∀ (k : Kind) (a : k.Config),
    k.resource.decode d.attributes = .ok a ↔ k.resource.decode d'.attributes = .ok a

theorem Same.refl (d : Document) : d.Same d := ⟨rfl, rfl, fun _ _ => Iff.rfl⟩

/-- **A document says the same when it was written and read again.** -/
theorem same_retold (h : d.Storable) : d.retold.Same d where
  typeName := rfl
  id := rfl
  attributes := fun k a => by
    rw [Resource.decode_eq_ok_iff, Resource.decode_eq_ok_iff]
    exact k.retells d.attributes h.2 a

end Document

/-! ## Configurations -/

theorem stored_string {levels : Nat} (s : String) : Stored levels (.string s) :=
  ⟨by rw [Fits]; trivial, by rw [Tidy]; trivial⟩

theorem stored_int {levels : Nat} {i : Int} (h : Readable i) : Stored levels (.int i) :=
  ⟨by rw [Fits]; exact h, by rw [Tidy]; trivial⟩

theorem stored_strings {levels : Nat} (l : List String) : Stored (levels + 1) (.array (l.map .string)) :=
  stored_array fun v hv => by
    obtain ⟨s, -, rfl⟩ := List.mem_map.1 hv
    exact stored_string s

/-- Members that can be stored make an object that can. -/
theorem stored_ofMembers {levels : Nat} {members : List (String × Json)} (h : ∀ m ∈ members, Stored levels m.2) :
    Stored (levels + 1) (ofMembers members) :=
  stored_object (ordered_sorted members) fun m hm => h m (mem_of_mem_sorted hm)

theorem stored_present {levels : Nat} {members : List (String × Option Json)}
    (h : ∀ m ∈ members, ∀ v ∈ m.2, Stored levels v) : Stored (levels + 1) (ofMembers (present members)) := by
  refine stored_ofMembers fun m hm => ?_
  obtain ⟨⟨k, o⟩, hmem, hsome⟩ := List.mem_filterMap.1 hm
  obtain ⟨v, hv, rfl⟩ := Option.map_eq_some_iff.1 hsome
  exact h (k, o) hmem v hv

/-- The values that an option may have. -/
theorem stored_map {levels : Nat} {α : Type} {enc : α → Json} {o : Option α} (h : ∀ a ∈ o, Stored levels (enc a)) :
    ∀ v ∈ o.map enc, Stored levels v := by
  intro v hv
  obtain ⟨a, ha, rfl⟩ := Option.map_eq_some_iff.1 hv
  exact h a ha

section Options

variable {levels : Nat}

theorem stored_some {v : Json} (h : Stored levels v) : ∀ w ∈ some v, Stored levels w := by
  rintro w ⟨⟩
  exact h

theorem stored_text (o : Option String) : ∀ v ∈ o.map Json.string, Stored levels v :=
  stored_map fun s _ => stored_string s

theorem stored_fits64 {o : Option Int} (h : Fits64 o) : ∀ v ∈ o.map Json.int, Stored levels v :=
  stored_map fun i hi => stored_int ⟨(h i hi).1, (h i hi).2.trans (by decide)⟩

theorem stored_fitsNat64 {o : Option Nat} (h : FitsNat64 o) : ∀ v ∈ (o : Option Int).map Json.int, Stored levels v := by
  refine stored_map fun i hi => ?_
  cases o with
  | none => cases hi
  | some n =>
    obtain rfl := Option.some.inj hi
    exact stored_int ⟨(by decide : Text.Decimal.minInt64 ≤ 0).trans (Int.natCast_nonneg n), Int.ofNat_le.2 (h n rfl)⟩

end Options

theorem Account.stored_toJson {levels : Nat} {a : Account} (h : a.Fits) : Stored (levels + 1) (toJson a) := by
  refine stored_present ?_
  simp only [List.forall_mem_cons]
  exact ⟨stored_some (stored_string _), stored_some (stored_string _), stored_some (stored_string _),
    stored_some (stored_string _), stored_fits64 h.readOnly, stored_text _, stored_fitsNat64 h.maxUserConnections,
    fun _ h => by cases h⟩

theorem Instance.stored_tags {levels : Nat} (tags : List Tag) :
    ∀ v ∈ tagsValue tagToJson tags, Stored (levels + 2) v := by
  intro v hv
  unfold tagsValue at hv
  split at hv
  · cases hv
  · cases hv
    refine stored_array fun w hw => ?_
    obtain ⟨t, -, rfl⟩ := List.mem_map.1 hw
    refine stored_present ?_
    simp only [List.forall_mem_cons]
    exact ⟨stored_text _, stored_text _, fun _ h => by cases h⟩

theorem Instance.stored_toJson {levels : Nat} {i : Instance} (h : i.Fits) : Stored (levels + 3) (toJson i) := by
  refine stored_present ?_
  simp only [List.forall_mem_cons]
  exact ⟨stored_some (stored_strings _), stored_fits64 h.period, stored_fits64 h.shardMemory,
    stored_fits64 h.shardStorage, stored_fits64 h.shardNodeCount, stored_fits64 h.shardCount, stored_text _,
    stored_text _, stored_text _, stored_text _, stored_fits64 h.projectId, stored_text _, stored_tags _,
    fun _ h => by cases h⟩

theorem Attachment.stored_toJson {levels : Nat} (a : Attachment) : Stored (levels + 2) (toJson a) := by
  refine stored_ofMembers ?_
  simp only [List.forall_mem_cons]
  exact ⟨stored_string _, stored_string _, stored_strings _, fun _ h => by cases h⟩

namespace Kind

variable {k : Kind}

/-- **A configuration whose numbers fit can be stored.** -/
theorem stored_toJson {a : k.Config} (h : k.Fits a) : Stored Document.levels (k.resource.toJson a) := by
  match k, a, h with
  | .account, a, h => exact Account.stored_toJson h
  | .instance _, i, h => exact Instance.stored_toJson h
  | .attachment, a, _ => exact Attachment.stored_toJson a

end Kind

/-! ## Steps -/

/-- Sessions with the same exchanges are alike only if they are the same. -/
theorem Session.eq_of_alike {s t : Session} (h : s.Alike Eq t) : s = t := by
  obtain ⟨hnow, hslots, hexchanges, hlog, hfiles, hpauses⟩ := h
  rw [List.forall₂_eq_eq_eq] at hexchanges
  cases s
  cases t
  simp_all only

theorem Session.alike_refl (s : Session) : s.Alike Eq s :=
  ⟨rfl, rfl, List.forall₂_eq_eq_eq ▸ rfl, rfl, rfl, rfl⟩

/-- A computation is alike to itself if its results are. -/
theorem Run.alike_self {α : Type} {R : α → α → Prop} {x : Run α} (h : ∀ s a, (x s).1 = .ok a → R a a) :
    Run.Alike Eq R x x := by
  intro s t hs
  obtain rfl := Session.eq_of_alike hs
  refine ⟨?_, Session.alike_refl _⟩
  cases hx : (x s).1 with
  | ok a => exact .ok (h s a hx)
  | error e => exact .error e

namespace Kind

/-- Every type treats alike the same configurations and the same values, if these can be stored. -/
theorem indifferent_stored (k : Kind) (p : Provider) :
    k.resource.Indifferent p Eq (fun v w => v = w ∧ Stored Document.levels v) fun a b => a = b ∧ k.Fits a where
  blank := ⟨rfl, k.fits_blank⟩
  encode := by
    rintro a _ ⟨rfl, h⟩
    exact ⟨rfl, stored_toJson h⟩
  decode := by
    rintro v _ ⟨rfl, -⟩
    cases hv : k.resource.decode v with
    | ok a => exact .ok ⟨rfl, fits_of_decode hv⟩
    | error e => exact .error e
  check := by
    rintro v _ ⟨rfl, -⟩
    rfl
  plan := by
    rintro x y v _ hxy ⟨rfl, -⟩
    cases hxy with
    | none => rfl
    | some h => rw [h.1]
  changed := by
    rintro v _ w _ ⟨rfl, -⟩ ⟨rfl, -⟩
    rfl
  create := by
    rintro a _ ⟨rfl, -⟩
    exact Run.alike_self fun _ _ _ => rfl
  read := by
    rintro a _ id ⟨rfl, h⟩
    refine Run.alike_self fun s found hfound => ?_
    cases found with
    | none => exact .none
    | some b => exact .some ⟨rfl, fits_of_read h hfound⟩
  update := by
    rintro a _ id names ⟨rfl, -⟩
    exact Run.alike_self fun _ _ _ => rfl
  delete := by
    rintro a _ id ⟨rfl, -⟩
    exact Run.alike_self fun _ _ _ => rfl

/-- **Every step leaves a document that can be stored**, whatever is desired. -/
theorem storable_takeDocument (k : Kind) (p : Provider) (step : DocumentStep) {d : Document} (h : d.Storable)
    (s : Session) : (k.resource.takeDocument p step d s).state.Storable := by
  have hindifferent := k.indifferent_stored p
  have hd : d.Alike (fun v w => v = w ∧ Stored Document.levels v) d := ⟨rfl, rfl, rfl, h⟩
  have hs := s.alike_refl
  cases step with
  | plan desired => exact h
  | read => exact (hindifferent.readDocument_alike hd hs).document.attributes.2
  | delete => exact (hindifferent.deleteDocument_alike hd hs).document.attributes.2
  | importFrom id => exact (hindifferent.takeDocument_paired (.importFrom id) hd hs).state.attributes.2
  | apply v =>
    -- what is desired need not be storable, but what is read of it is a configuration whose numbers fit
    have hstate := hindifferent.decodeState_alike hd
    simp only [Resource.takeDocument, Resource.applyDocument]
    cases hv : k.resource.decodeDesired v with
    | error e => exact h
    | ok desired =>
      cases hst : k.resource.decodeState d with
      | error e => exact h
      | ok st =>
        rw [hst] at hstate
        cases hstate with
        | ok hsame =>
          have hfits : k.Fits desired := fits_of_decode (Resource.decodeDesired_eq_ok_iff.1 hv).2
          exact (hindifferent.recorded_alike (hindifferent.apply_alike hsame ⟨rfl, hfits⟩ hs)).document.attributes.2

end Kind

end Provision
