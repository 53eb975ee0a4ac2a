import Provision.Proofs.Cli.Recorded

/-!
# States that are kept as documents

A state with an identity is written as a document, the document as a text, and the text to a file; what is read from
the file says the same state again. The other way round, what is read of a document can take the place of the document:
it is read as the same, and every plan that starts from it is the same. Main statement: both hold for every type of
resources (`Kind.states_kept`).
-/

namespace Provision

namespace Document

variable {k : Kind} {d d' : Document} {st : ResourceState k.Config}

/-- Documents that say the same are read as the same states. -/
theorem Same.decodeState_iff (h : d.Same d') :
    k.resource.decodeState d = .ok st ↔ k.resource.decodeState d' = .ok st := by
  unfold Resource.decodeState
  rw [h.typeName, h.id]
  split
  · split
    · exact Iff.rfl
    · simp only [map_eq_ok_iff, h.attributes k]
  · exact Iff.rfl

end Document

namespace Resource

variable {α : Type} {r : Resource α} {d d' : Document} {st : ResourceState α}

/-- A document says that there is no resource, or tells an identity and attributes. -/
theorem decodeState_cases (h : r.decodeState d = .ok st) :
    st = r.absent ∨ st.id ≠ "" ∧ r.decode d.attributes = .ok st.attributes := by
  unfold decodeState at h
  split at h
  · split at h
    · exact .inl (Except.ok.inj h).symm
    · obtain ⟨a, ha, rfl⟩ := map_eq_ok_iff.1 h
      exact .inr ⟨by assumption, ha⟩
  · cases h

/-- A plan depends on what the document says, and on nothing else of it. -/
theorem planDocument_congr (h : r.decodeState d = r.decodeState d') (v : Json) :
    r.planDocument (some d) v = r.planDocument (some d') v := by
  simp only [planDocument, Option.mapM_some, h]

end Resource

namespace Kind

variable {k : Kind} {st : ResourceState k.Config} {d : Document}

theorem decodeState_encodeState (hid : st.id ≠ "") (h : k.Fits st.attributes) :
    k.resource.decodeState (k.resource.encodeState st) = .ok st :=
  (k.faithful.corresponds_encodeState fun _ => h).decodeState_of_present (ResourceState.present_iff.2 hid)

/-- What a document says, its own document says again. -/
theorem decodeState_of_decodeState (h : k.resource.decodeState d = .ok st) :
    k.resource.decodeState (k.resource.encodeState st) = .ok st := by
  rcases Resource.decodeState_cases h with rfl | ⟨hid, hattributes⟩
  · have habsent := k.resource.not_present_absent
    exact (k.faithful.corresponds_encodeState (ResourceState.holds_empty _)).decodeState_of_not_present habsent
  · exact decodeState_encodeState hid (fits_of_decode hattributes)

theorem storable_encodeState (h : k.Fits st.attributes) : (k.resource.encodeState st).Storable := stored_toJson h

/-- **States are kept by their documents.** A state with an identity, whose numbers fit in 64 bits, is read back from
the text of its document, and from a file to which the text was written. What a document says is what its own document
says, and both lead to the same plans. -/
theorem states_kept (k : Kind) :
    (∀ st : ResourceState k.Config, st.id ≠ "" → k.Fits st.attributes →
      (∃ d, Document.record.ofText (k.resource.encodeState st).toJson.pretty = .ok d ∧
        k.resource.decodeState d = .ok st) ∧
      ∀ (fs fs' : Files) (path : String), fs.write? path (k.resource.encodeState st).toJson.pretty = some fs' →
        ∃ d, Cli.stateIn fs' path = .ok (some d) ∧ k.resource.decodeState d = .ok st) ∧
    ∀ (d : Document) (st : ResourceState k.Config), k.resource.decodeState d = .ok st →
      k.resource.decodeState (k.resource.encodeState st) = .ok st ∧
      ∀ desired, k.resource.planDocument (some (k.resource.encodeState st)) desired =
        k.resource.planDocument (some d) desired := by
  refine ⟨fun st hid h => ?_, fun d st h => ?_⟩
  · have hstorable := storable_encodeState h
    have hread := Document.ofText_pretty hstorable
    have hdecode := (Document.same_retold hstorable).decodeState_iff.2 (decodeState_encodeState hid h)
    refine ⟨⟨_, hread, hdecode⟩, fun fs fs' path hw => ⟨_, ?_, hdecode⟩⟩
    have hknown : Cli.known? (k.resource.encodeState st).retold = some (k.resource.encodeState st).retold := if_neg hid
    rw [Cli.stateIn_of_read? (Files.read?_written hw), Cli.toldBy, hread]
    exact congrArg Except.ok hknown
  · have hback := decodeState_of_decodeState h
    exact ⟨hback, Resource.planDocument_congr (hback.trans h.symm)⟩

end Kind

namespace Instance

/-- An instance with the least and the greatest number, a name with quotes, a line break and letters outside ASCII,
and tags without a key or a value. -/
def extreme : Instance where
  zones := .ofList ["z-2", "z-1", "z-2"]
  period := some Text.Decimal.minInt64
  projectId := some Text.Decimal.maxInt64
  name := some "a\"b\\c\nd é 漢"
  tags := [⟨none, some "v"⟩, ⟨some "", none⟩, ⟨none, none⟩]

theorem fits_extreme : extreme.Fits where
  period := fun i hi => by
    obtain rfl := Option.some.inj hi
    decide
  shardMemory := fits64_none
  shardStorage := fits64_none
  shardNodeCount := fits64_none
  shardCount := fits64_none
  projectId := fun i hi => by
    obtain rfl := Option.some.inj hi
    decide

end Instance

/-- Such an instance, and an attachment whose attributes are a list with repetitions. -/
theorem Kind.states_kept_extreme :
    let st : ResourceState Instance := ⟨"dcdbt-1", .extreme⟩
    let d : Document := ⟨Attachment.typeName, "dcdbt-2,dcdbt-1#sg-1",
      .array [.string "dcdb", .string "sg-1", .array [.string "dcdbt-2", .string "dcdbt-1", .string "dcdbt-2"]]⟩
    let known : ResourceState Attachment :=
      ⟨"dcdbt-2,dcdbt-1#sg-1", ⟨"dcdb", "sg-1", .ofList ["dcdbt-1", "dcdbt-2"]⟩⟩
    st.id ≠ "" ∧ Instance.extreme.Fits ∧
      (∃ e, Document.record.ofText ((Instance.resource .prepaid).encodeState st).toJson.pretty = .ok e ∧
        (Instance.resource .prepaid).decodeState e = .ok st) ∧
      Attachment.resource.decodeState d = .ok known ∧
      Attachment.resource.decodeState (Attachment.resource.encodeState known) = .ok known := by
  intro st d known
  have hid : st.id ≠ "" := by decide
  have hdecode : Attachment.resource.decodeState d = .ok known := by rfl
  obtain ⟨hinstance, -⟩ := states_kept (.instance .prepaid)
  obtain ⟨-, hattachment⟩ := states_kept .attachment
  exact ⟨hid, Instance.fits_extreme, (hinstance st hid Instance.fits_extreme).1, hdecode,
    (hattachment d known hdecode).1⟩

end Provision
