import Provision.Json.Reading
import Provision.Proofs.Json.Members

/-!
# Laws of readings and records

What a reading gives, whatever value it reads: a reading gives only what satisfies a condition (`Reading.Gives`), with
one rule for each way in which readings are put together. A record satisfies a condition if it does so while it is
blank and each of its fields keeps the condition (`Record.gives`). The other way round, members that were written by
name are read back one after the other (`fill_present_some`, `fill_present_option`), and a list item by item
(`Reading.readsBack_list`).
-/

namespace Provision

/-! ## Results -/

section Results

variable {ε ε' α β : Type} {x : Except ε α} {a : α} {b : β}

theorem map_eq_ok_iff {f : α → β} : x.map f = .ok b ↔ ∃ a, x = .ok a ∧ f a = b := by
  cases x <;> simp [Except.map]

theorem map_eq_error_iff {f : α → β} {e : ε} : x.map f = .error e ↔ x = .error e := by
  cases x <;> simp [Except.map]

theorem mapError_eq_ok_iff {f : ε → ε'} : x.mapError f = .ok a ↔ x = .ok a := by
  cases x with
  | error e => exact iff_of_false (fun h => by cases h) fun h => by cases h
  | ok b => exact ⟨fun h => congrArg Except.ok (Except.ok.inj h), fun h => congrArg Except.ok (Except.ok.inj h)⟩

theorem bind_eq_ok_iff {f : α → Except ε β} : (x >>= f) = .ok b ↔ ∃ a, x = .ok a ∧ f a = .ok b := by
  cases x <;> simp [bind, Except.bind]

end Results

namespace Json

variable {α β σ : Type}

/-- Items that are all read stand for values that were read. -/
theorem exists_mem_of_mapM_ok {ε : Type} {f : β → Except ε α} : ∀ {items : List β} {as : List α},
    items.mapM f = .ok as → ∀ a ∈ as, ∃ v ∈ items, f v = .ok a
  | [], as, h, a, ha => by
    cases h
    cases ha
  | v :: items, as, h, a, ha => by
    rw [List.mapM_cons] at h
    obtain ⟨b, hv, hrest⟩ := bind_eq_ok_iff.1 h
    obtain ⟨bs, hbs, hcons⟩ := bind_eq_ok_iff.1 hrest
    cases hcons
    rcases List.mem_cons.1 ha with rfl | ha
    · exact ⟨v, List.mem_cons_self, hv⟩
    · obtain ⟨w, hw, hwa⟩ := exists_mem_of_mapM_ok hbs a ha
      exact ⟨w, List.mem_cons_of_mem v hw, hwa⟩

/-- A list that cannot be read has an item that cannot be read. -/
theorem exists_mem_of_mapM_error {ε : Type} {f : β → Except ε α} {e : ε} : ∀ {items : List β},
    items.mapM f = .error e → ∃ v ∈ items, f v = .error e
  | [], h => by cases h
  | v :: items, h => by
    rw [List.mapM_cons] at h
    cases hv : f v with
    | error e' =>
      rw [hv] at h
      cases h
      exact ⟨v, List.mem_cons_self, hv⟩
    | ok b =>
      cases hrest : items.mapM f with
      | error e' =>
        rw [hv, hrest] at h
        cases h
        obtain ⟨w, hw, he⟩ := exists_mem_of_mapM_error hrest
        exact ⟨w, List.mem_cons_of_mem v hw, he⟩
      | ok bs =>
        rw [hv, hrest] at h
        cases h

/-- Values that are read one by one are read as a list. -/
theorem mapM_map_of_ok {ε γ : Type} {f : β → Except ε α} {enc : γ → β} {g : γ → α} : ∀ {cs : List γ},
    (∀ c ∈ cs, f (enc c) = .ok (g c)) → (cs.map enc).mapM f = .ok (cs.map g)
  | [], _ => rfl
  | c :: cs, h => by
    rw [List.map_cons, List.mapM_cons, h c List.mem_cons_self,
      mapM_map_of_ok fun d hd => h d (List.mem_cons_of_mem c hd)]
    rfl

/-- Values that are read back one by one are read back as a list. -/
theorem mapM_map_ok {ε : Type} {f : β → Except ε α} {enc : α → β} {as : List α}
    (h : ∀ a ∈ as, f (enc a) = .ok a) : (as.map enc).mapM f = .ok as :=
  (mapM_map_of_ok h).trans (congrArg Except.ok (List.map_id as))

namespace Reading

variable {r : Reading α} {P : α → Prop}

/-! ## What a reading gives -/

/-- Whatever a reading gives satisfies a condition. -/
def Gives (r : Reading α) (P : α → Prop) : Prop := ∀ v a, r.value v = .ok a → P a

theorem gives_true (r : Reading α) : r.Gives fun _ => True := fun _ _ _ => trivial

theorem Gives.map {Q : β → Prop} {f : α → β} (h : r.Gives P) (hf : ∀ a, P a → Q (f a)) : (r.map f).Gives Q := by
  intro v b hb
  obtain ⟨a, ha, rfl⟩ := map_eq_ok_iff.1 hb
  exact hf a (h v a ha)

theorem gives_within (low high : Int) (name : String) : (within low high name).Gives fun i => low ≤ i ∧ i ≤ high := by
  intro v i h
  simp only [within, ofHead] at h
  split at h
  · split at h
    · cases h
      assumption
    · cases h
  · cases h

theorem Gives.option (h : r.Gives P) : r.option.Gives fun o => ∀ a ∈ o, P a := by
  intro v o ho a ha
  obtain rfl : o = some a := ha
  simp only [Reading.option] at ho
  split at ho
  · cases ho
  · obtain ⟨b, hb, hsome⟩ := map_eq_ok_iff.1 ho
    cases hsome
    exact h v a hb

theorem Gives.list (h : r.Gives P) : r.list.Gives fun as => ∀ a ∈ as, P a := by
  intro v as has a ha
  simp only [Reading.list] at has
  split at has
  · obtain ⟨w, -, hw⟩ := exists_mem_of_mapM_ok has a ha
    exact h w a hw
  · cases has

theorem option_value_of_ne {v : Json} (h : v ≠ .null) : r.option.value v = (r.value v).map some := by
  cases v with
  | null => exact absurd rfl h
  | _ => rfl

/-! ## Reading back -/

/-- A value is written as something else than null, and reads back. -/
def ReadsBack (r : Reading α) (enc : α → Json) (a : α) : Prop := (enc a).head ≠ .null ∧ r.value (enc a) = .ok a

theorem readsBack_text (s : String) : text.ReadsBack .string s := ⟨by simp [head], rfl⟩

theorem readsBack_within {low high i : Int} (name : String) (h : low ≤ i ∧ i ≤ high) :
    (within low high name).ReadsBack Json.int i :=
  ⟨by simp [head], if_pos h⟩

theorem readsBack_nat64 {n : Nat} (h : n ≤ Text.Decimal.maxNat64) : nat64.ReadsBack (fun n => Json.int n) n := by
  have hrange : (0 : Int) ≤ n ∧ (n : Int) ≤ Text.Decimal.maxNat64 := ⟨Int.natCast_nonneg n, Int.ofNat_le.2 h⟩
  refine ⟨by simp [head], ?_⟩
  change ((within 0 Text.Decimal.maxNat64 "u64").value (.int n)).map Int.toNat = _
  rw [(readsBack_within "u64" hrange).2]
  rfl

theorem readsBack_list {enc : α → Json} {as : List α} (h : ∀ a ∈ as, r.ReadsBack enc a) :
    r.list.ReadsBack (fun as => .array (as.map enc)) as :=
  ⟨by simp [head], mapM_map_ok fun a ha => (h a ha).2⟩

theorem readsBack_texts (l : List String) : text.list.ReadsBack (fun l => .array (l.map .string)) l :=
  readsBack_list fun s _ => readsBack_text s

/-- A value that is not null is read as it would be without the option. -/
theorem ReadsBack.option {enc : α → Json} {a : α} (h : r.ReadsBack enc a) : r.option.value (enc a) = .ok (some a) := by
  obtain ⟨hne, hvalue⟩ := h
  have hmap : (r.value (enc a)).map some = .ok (some a) := by
    rw [hvalue]
    rfl
  cases hv : enc a with
  | null =>
    rw [hv] at hne
    exact absurd rfl hne
  | _ =>
    rw [hv] at hmap
    exact hmap

end Reading

namespace Record

variable {r : Record σ} {P : σ → Prop}

/-! ## What a record keeps -/

/-- Reading a field keeps a condition on the record. -/
def Field.Keeps (f : Field σ) (P : σ → Prop) : Prop := f.reading.Gives fun put => ∀ x, P x → P (put x)

theorem keeps_keeping {name : String} {rd : Reading α} {Q : α → Prop} {put : α → σ → σ} (h : rd.Gives Q)
    (hput : ∀ a x, Q a → P x → P (put a x)) : (Field.keeping name rd put).Keeps P :=
  h.map fun a ha x => hput a x ha

/-- A field whose value does not matter. -/
theorem keeps_of_irrelevant {name : String} {rd : Reading α} {put : α → σ → σ} (hput : ∀ a x, P x → P (put a x)) :
    (Field.keeping name rd put).Keeps P :=
  keeps_keeping rd.gives_true fun a x _ => hput a x

theorem keeps_checked (name : String) (rd : Reading α) : (Field.checked name rd).Keeps P :=
  keeps_of_irrelevant fun _ _ => id

theorem holds_of_fill (h : ∀ f ∈ r.fields, f.Keeps P) : ∀ {members : List (String × Json)} {x y : σ}, P x →
    r.fill x members = .ok y → P y
  | [], x, y, hx, hy => by
    cases hy
    exact hx
  | (k, v) :: rest, x, y, hx, hy => by
    rw [fill_cons] at hy
    cases hf : r.field? k with
    | none =>
      rw [hf] at hy
      exact holds_of_fill h hx hy
    | some f =>
      rw [hf] at hy
      obtain ⟨put, hput, hrest⟩ := bind_eq_ok_iff.1 hy
      exact holds_of_fill h (h f (List.mem_of_find?_eq_some hf) v put hput x hx) hrest

theorem holds_of_fillItems {length : Nat} : ∀ {fields : List (Field σ)} {items : List Json} {x y : σ},
    (∀ f ∈ fields, f.Keeps P) → P x → r.fillItems length x fields items = .ok y → P y
  | [], [], x, y, _, hx, hy => by
    cases hy
    exact hx
  | [], _ :: _, _, _, _, _, hy => by cases hy
  | f :: fields, [], x, y, h, hx, hy => by
    rw [fillItems] at hy
    split at hy
    · exact holds_of_fillItems (fun g hg => h g (List.mem_cons_of_mem f hg)) hx hy
    · cases hy
  | f :: fields, v :: rest, x, y, h, hx, hy => by
    rw [fillItems] at hy
    cases hput : f.reading.value v with
    | error e =>
      simp only [hput] at hy
      cases hy
    | ok put =>
      simp only [hput] at hy
      exact holds_of_fillItems (fun g hg => h g (List.mem_cons_of_mem f hg)) (h f List.mem_cons_self v put hput x hx) hy

theorem reading_value (r : Record σ) (v : Json) : r.reading.value v = r.ofValue v := rfl

/-- **What holds of a blank record, and is kept by each of its fields, holds of every record that is read.** -/
theorem gives (hblank : P r.blank) (h : ∀ f ∈ r.fields, f.Keeps P) : r.reading.Gives P := by
  intro v x hx
  rw [reading_value] at hx
  cases v with
  | object members =>
    rw [ofValue] at hx
    obtain ⟨y, hfill, hy⟩ := bind_eq_ok_iff.1 hx
    split at hy
    · cases hy
    · cases hy
      exact holds_of_fill h hblank hfill
  | array items => exact holds_of_fillItems h hblank hx
  | _ => cases hx

/-! ## Reading back -/

/-- If no field has to be there, an object is read by filling in its members. -/
theorem ofValue_object (h : ∀ f ∈ r.fields, f.absence ≠ .refused) (members : List (String × Json)) :
    r.ofValue (.object members) = r.fill r.blank members := by
  have hnone : r.missing? (members.map (·.1)) = none := by
    rw [missing?, Option.map_eq_none_iff, List.find?_eq_none]
    intro f hf
    simp [h f hf]
  rw [ofValue, hnone]
  cases r.fill r.blank members <;> rfl

variable {x : σ} {k : String} {rest : List (String × Option Json)}

theorem fill_present_some {rd : Reading α} {put : α → σ → σ} {v : Json} {a : α}
    (hf : r.field? k = some (.keeping k rd put)) (hread : rd.value v = .ok a) :
    r.fill x (present ((k, some v) :: rest)) = r.fill (put a x) (present rest) := by
  have hvalue : (Field.keeping k rd put).reading.value v = .ok (put a) := by
    change (rd.value v).map put = _
    rw [hread]
    rfl
  rw [present_cons_some, fill_cons, hf]
  simp only [hvalue, Except.bind]

/-- A field that was left out keeps its value, which is that of a field left out. -/
theorem fill_present_option {rd : Reading α} {put : Option α → σ → σ} {enc : α → Json} {o : Option α}
    (hf : r.field? k = some (.keeping k rd.option put)) (hnone : put none x = x) (hread : ∀ a ∈ o, rd.ReadsBack enc a) :
    r.fill x (present ((k, o.map enc) :: rest)) = r.fill (put o x) (present rest) := by
  cases o with
  | none => rw [Option.map_none, present_cons_none, hnone]
  | some a => exact fill_present_some hf (hread a rfl).option

end Record

end Json

end Provision
