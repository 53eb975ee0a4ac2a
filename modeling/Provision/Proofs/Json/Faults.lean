import Provision.Proofs.Json.Records
import Provision.Proofs.Text.Plain

/-!
# What faults of reading show

The wording of a mismatch shows the value that was found in quotes, so it is plain if the texts are that the type of
the value brings (`Mismatch.plain_message_iff`). A reading quotes if the wording of all its mismatches is plain
(`Reading.Quotes`), with one rule for each way in which readings are put together. Main statement: a record quotes if
its title and the names of its fields are plain and their readings quote (`Record.quotes`).
-/

namespace Provision.Json

open Text

/-! ## Mismatches -/

@[simp] theorem Head.plain_text : ∀ h : Head, Plain h.text
  | .null | .sequence | .map => by decide
  | .bool true | .bool false => by decide
  | .number (.int i) => by
    exact plain_append.2 ⟨plain_append.2 ⟨by decide, plain_decimal i⟩, by decide⟩
  | .number (.float x) => by
    exact plain_append.2 ⟨plain_append.2 ⟨by decide, plain_ofList.2 (clean_float x)⟩, by decide⟩
  | .string s => by
    exact plain_append.2 ⟨by decide, plain_quote s⟩

/-- The texts that the wording of a mismatch shows as they are. -/
def Mismatch.texts : Mismatch → List String
  | .kind _ expected | .range _ expected | .tooShort _ expected => [expected]
  | .missing field | .duplicate field => [field]
  | .tooLong _ | .noEnvelope => []
  | .stated reason => [reason]

/-- **Of a mismatch, only the texts of the type can leave the line.** -/
theorem Mismatch.plain_message_iff : ∀ why : Mismatch, Plain why.message ↔ ∀ t ∈ why.texts, Plain t
  | .kind found _ | .range found _ => by
    change Plain (_ ++ found.text ++ _ ++ _) ↔ ∀ t ∈ [_], Plain t
    simp +decide
  | .missing _ | .duplicate _ => by
    change Plain (_ ++ _ ++ _) ↔ ∀ t ∈ [_], Plain t
    simp +decide
  | .tooLong length => by
    change Plain (_ ++ Decimal.text length ++ _) ↔ ∀ t ∈ [], Plain t
    simp +decide
  | .tooShort length _ => by
    change Plain (_ ++ Decimal.text length ++ _ ++ _) ↔ ∀ t ∈ [_], Plain t
    simp +decide
  | .noEnvelope => by decide
  | .stated _ => List.forall_mem_singleton.symm

/-- The texts that the wording of a fault shows as they are. -/
def ReadFault.texts : ReadFault → List String
  | .notJson => []
  | .mismatch why => why.texts

theorem ReadFault.plain_message_iff : ∀ why : ReadFault, Plain why.message ↔ ∀ t ∈ why.texts, Plain t
  | .notJson => ⟨fun _ _ h => (by cases h), fun _ => by decide⟩
  | .mismatch why => why.plain_message_iff

/-! ## Readings -/

/-- **A reading shows what it does not accept in quotes:** the wording of its mismatches is plain. -/
def Reading.Quotes {α : Type} (rd : Reading α) : Prop := ∀ v why, rd.value v = .error why → Plain why.message

namespace Reading

variable {α β : Type} {rd : Reading α}

theorem quotes_ofHead {f : Head → Except Mismatch α} (h : ∀ found why, f found = .error why → Plain why.message) :
    (ofHead f).Quotes := fun v why => h v.head why

/-- Another kind than expected. -/
theorem plain_kind {expected : String} (h : Plain expected) (found : Head) :
    Plain (Mismatch.kind found expected).message :=
  (Mismatch.plain_message_iff _).2 (List.forall_mem_singleton.2 h)

@[simp] theorem quotes_text : text.Quotes := quotes_ofHead fun found why h => by
  split at h <;> cases h
  exact plain_kind (by decide) _

@[simp] theorem quotes_bool : bool.Quotes := quotes_ofHead fun found why h => by
  split at h <;> cases h
  exact plain_kind (by decide) _

theorem quotes_within (low high : Int) {name : String} (hname : Plain name) : (within low high name).Quotes :=
  quotes_ofHead fun found why h => by
    split at h
    · split at h <;> cases h
      exact (Mismatch.plain_message_iff _).2 (List.forall_mem_singleton.2 hname)
    · cases h
      exact plain_kind hname _

@[simp] theorem quotes_map {f : α → β} (h : rd.Quotes) : (rd.map f).Quotes := fun v why hv => by
  refine h v why ?_
  change (rd.value v).map f = .error why at hv
  cases hr : rd.value v with
  | ok a =>
    rw [hr] at hv
    cases hv
  | error e =>
    rw [hr] at hv
    cases hv
    rfl

@[simp] theorem quotes_int64 : int64.Quotes := quotes_within _ _ (by decide)

@[simp] theorem quotes_nat64 : nat64.Quotes := quotes_map (quotes_within _ _ (by decide))

@[simp] theorem quotes_option (h : rd.Quotes) : rd.option.Quotes := fun v why hv => by
  cases v with
  | null => cases hv
  | _ => exact quotes_map (f := some) h _ why hv

@[simp] theorem quotes_list (h : rd.Quotes) : rd.list.Quotes := fun v why hv => by
  cases v with
  | array items =>
    obtain ⟨item, -, hitem⟩ := exists_mem_of_mapM_error hv
    exact h item why hitem
  | _ =>
    cases hv
    exact plain_kind (by decide) _

end Reading

/-! ## Records -/

namespace Record

variable {σ : Type} {r : Record σ}

@[simp] theorem Field.quotes_keeping {α : Type} {name : String} {rd : Reading α} {put : α → σ → σ} (h : rd.Quotes) :
    (Field.keeping name rd put).reading.Quotes := Reading.quotes_map h

@[simp] theorem Field.quotes_checked {α : Type} {name : String} {rd : Reading α} (h : rd.Quotes) :
    (Field.checked name rd : Field σ).reading.Quotes := Reading.quotes_map h

section Readings

variable (readings : ∀ f ∈ r.fields, f.reading.Quotes)

include readings

/-- The induction is on the members. -/
theorem quotes_fill {why : Mismatch} : ∀ {members : List (String × Json)} {x : σ}, r.fill x members = .error why →
    Plain why.message
  | [], _, h => by cases h
  | (k, v) :: members, x, h => by
    rw [fill_cons] at h
    split at h
    · exact quotes_fill h
    · rename_i f hf
      cases hv : f.reading.value v with
      | error e =>
        rw [hv] at h
        cases h
        exact readings f (List.mem_of_find?_eq_some hf) v _ hv
      | ok put =>
        rw [hv] at h
        exact quotes_fill h

/-- The induction is on the fields. -/
theorem quotes_fillItems {length : Nat} {why : Mismatch} (wanted : Plain r.wanted) : ∀ {fields : List (Field σ)}
    {items : List Json} {x : σ}, fields ⊆ r.fields → r.fillItems length x fields items = .error why →
    Plain why.message
  | [], [], _, _, h => by cases h
  | [], _ :: _, _, _, h => by
    cases h
    exact (Mismatch.plain_message_iff _).2 (fun _ h => by cases h)
  | f :: fields, [], x, hfields, h => by
    rw [fillItems] at h
    split at h
    · exact quotes_fillItems wanted (List.subset_of_cons_subset hfields) h
    · cases h
      exact (Mismatch.plain_message_iff _).2 (List.forall_mem_singleton.2 wanted)
  | f :: fields, v :: items, x, hfields, h => by
    rw [fillItems] at h
    cases hv : f.reading.value v with
    | error e =>
      rw [hv] at h
      cases h
      exact readings f (hfields List.mem_cons_self) v _ hv
    | ok put =>
      rw [hv] at h
      exact quotes_fillItems wanted (List.subset_of_cons_subset hfields) h

/-- **A record shows in quotes what it does not accept.** -/
theorem quotes (title : Plain r.title) (names : ∀ f ∈ r.fields, Plain f.name) : r.reading.Quotes := by
  have wanted : Plain r.wanted := by
    simp only [Record.wanted, plain_append, plain_decimal, title, true_and, and_true]
    decide
  intro v why h
  change r.ofValue v = .error why at h
  unfold ofValue at h
  split at h
  · rename_i members
    cases hfill : r.fill r.blank members with
    | error e =>
      rw [hfill] at h
      cases h
      exact quotes_fill readings hfill
    | ok x =>
      rw [hfill] at h
      cases hmissing : r.missing? (members.map (·.1)) with
      | none =>
        simp [hmissing, bind, Except.bind] at h
      | some name =>
        have hwhy : why = .missing name := by simpa [hmissing, bind, Except.bind, eq_comm] using h
        obtain ⟨f, hf, rfl⟩ := Option.map_eq_some_iff.1 hmissing
        rw [hwhy]
        exact (Mismatch.plain_message_iff _).2
          (List.forall_mem_singleton.2 (names f (List.mem_of_find?_eq_some hf)))
  · exact quotes_fillItems readings wanted (List.Subset.refl _) h
  · cases h
    exact Reading.plain_kind title _

end Readings

end Record

end Provision.Json
