import Provision.Proofs.Json.Records
import Provision.Proofs.Json.Texts

/-!
# Values that are written and read again

A value that a text gives is legible and not nested too deep, and the members of its objects are in order
(`stored_of_toJson`). So it can be written and read again, which may change its floating point numbers. A reading of
texts, integers, lists or records does not see that (`Reading.Retells`). Main statement: a record reads the same from a
value and from what its text tells (`Record.retells`).
-/

namespace Provision.Json

/-! ## Values in order -/

mutual

/-- The members of all objects in a value are in order. -/
def Tidy : Json → Prop
  | .array items => TidyItems items
  | .object members => Ordered members ∧ TidyMembers members
  | .null | .bool _ | .number _ | .string _ => True

/-- The same of all items. -/
def TidyItems : List Json → Prop
  | [] => True
  | v :: rest => Tidy v ∧ TidyItems rest

/-- The same of all members. -/
def TidyMembers : List (String × Json) → Prop
  | [] => True
  | (_, v) :: rest => Tidy v ∧ TidyMembers rest

end

theorem tidyItems_iff {items : List Json} : TidyItems items ↔ ∀ v ∈ items, Tidy v := by
  induction items with
  | nil => simp [TidyItems]
  | cons v rest ih => simp [TidyItems, ih]

theorem tidyMembers_iff {members : List (String × Json)} : TidyMembers members ↔ ∀ m ∈ members, Tidy m.2 := by
  induction members with
  | nil => simp [TidyMembers]
  | cons m rest ih => simp [TidyMembers, ih]

theorem tidy_array {items : List Json} : Tidy (.array items) ↔ ∀ v ∈ items, Tidy v := by
  rw [Tidy, tidyItems_iff]

theorem tidy_object {members : List (String × Json)} :
    Tidy (.object members) ↔ Ordered members ∧ ∀ m ∈ members, Tidy m.2 := by
  rw [Tidy, tidyMembers_iff]

/-- A value that can be written and read again. -/
def Stored (levels : Nat) (v : Json) : Prop := Fits levels v ∧ Tidy v

/-! ## What a text gives -/

theorem mem_of_mem_insert {α : Type} {k : String} {v : α} {m : String × α} : ∀ {members : List (String × α)},
    m ∈ insert k v members → m = (k, v) ∨ m ∈ members
  | [], h => .inl (List.mem_singleton.1 h)
  | (j, w) :: rest, h => by
    rw [insert] at h
    split at h
    · exact (List.mem_cons.1 h).imp_right id
    · split at h
      · exact (List.mem_cons.1 h).imp_right (List.mem_cons_of_mem _)
      · rcases List.mem_cons.1 h with rfl | h
        · exact .inr List.mem_cons_self
        · exact (mem_of_mem_insert h).imp_right (List.mem_cons_of_mem _)

theorem mem_of_mem_sorted {α : Type} {members : List (String × α)} {m : String × α} (h : m ∈ sorted members) :
    m ∈ members := by
  have key : ∀ (members acc : List (String × α)),
      m ∈ members.foldl (fun acc m => insert m.1 m.2 acc) acc → m ∈ acc ∨ m ∈ members := by
    intro members
    induction members with
    | nil => exact fun acc h => .inl h
    | cons n rest ih =>
      intro acc h
      rcases ih _ h with h | h
      · rcases mem_of_mem_insert h with rfl | h
        · exact .inr List.mem_cons_self
        · exact .inl h
      · exact .inr (List.mem_cons_of_mem n h)
  exact (key members [] h).resolve_left List.not_mem_nil

theorem stored_array {levels : Nat} {items : List Json} (h : ∀ v ∈ items, Stored levels v) :
    Stored (levels + 1) (.array items) := by
  refine ⟨?_, tidy_array.2 fun v hv => (h v hv).2⟩
  rw [Fits]
  exact fitsItems_iff.2 fun v hv => (h v hv).1

theorem stored_object {levels : Nat} {members : List (String × Json)} (hordered : Ordered members)
    (h : ∀ m ∈ members, Stored levels m.2) : Stored (levels + 1) (.object members) := by
  refine ⟨?_, tidy_object.2 ⟨hordered, fun m hm => (h m hm).2⟩⟩
  rw [Fits]
  exact fitsMembers_iff.2 fun m hm => (h m hm).1

mutual

/-- **A value that a text gives can be written and read again.** -/
theorem stored_of_toJson : ∀ {levels : Nat} {s : Source} {v : Json}, s.toJson levels = some v → Stored levels v
  | _, .null, _, h => by
    rw [Source.toJson] at h
    cases h
    exact ⟨by rw [Fits]; trivial, by rw [Tidy]; trivial⟩
  | _, .bool _, _, h => by
    rw [Source.toJson] at h
    cases h
    exact ⟨by rw [Fits]; trivial, by rw [Tidy]; trivial⟩
  | _, .number _, _, h => by
    rw [Source.toJson] at h
    obtain ⟨n, hn, rfl⟩ := Option.map_eq_some_iff.1 h
    exact ⟨by rw [Fits]; exact Number.legible_of_number hn, by rw [Tidy]; trivial⟩
  | _, .string _, _, h => by
    rw [Source.toJson] at h
    obtain ⟨s, -, rfl⟩ := Option.map_eq_some_iff.1 h
    exact ⟨by rw [Fits]; trivial, by rw [Tidy]; trivial⟩
  | 0, .array _ _, _, h => by simp only [Source.toJson, reduceCtorEq] at h
  | levels + 1, .array items closed, _, h => by
    simp only [Source.toJson] at h
    split at h
    · obtain ⟨vs, hvs, rfl⟩ := Option.map_eq_some_iff.1 h
      exact stored_array (stored_of_itemsToJson hvs)
    · cases h
  | 0, .object _ _, _, h => by simp only [Source.toJson, reduceCtorEq] at h
  | levels + 1, .object members closed, _, h => by
    simp only [Source.toJson] at h
    split at h
    · obtain ⟨ms, hms, rfl⟩ := Option.map_eq_some_iff.1 h
      exact stored_object (ordered_sorted ms) fun m hm => stored_of_membersToJson hms m (mem_of_mem_sorted hm)
    · cases h
  | _, .broken, _, h => by simp only [Source.toJson, reduceCtorEq] at h

theorem stored_of_itemsToJson : ∀ {levels : Nat} {items : List Source} {vs : List Json},
    Source.itemsToJson levels items = some vs → ∀ v ∈ vs, Stored levels v
  | _, [], _, h, _, hv => by
    rw [Source.itemsToJson] at h
    cases h
    cases hv
  | levels, s :: rest, _, h, w, hw => by
    rw [Source.itemsToJson] at h
    split at h
    · rename_i v vs hv hvs
      cases h
      rcases List.mem_cons.1 hw with rfl | hw
      · exact stored_of_toJson hv
      · exact stored_of_itemsToJson hvs w hw
    · cases h

theorem stored_of_membersToJson : ∀ {levels : Nat} {members : List (String × Source)} {ms : List (String × Json)},
    Source.membersToJson levels members = some ms → ∀ m ∈ ms, Stored levels m.2
  | _, [], _, h, _, hm => by
    rw [Source.membersToJson] at h
    cases h
    cases hm
  | levels, (k, s) :: rest, _, h, m, hm => by
    rw [Source.membersToJson] at h
    split at h
    · rename_i v ms hv hms
      cases h
      rcases List.mem_cons.1 hm with rfl | hm
      · exact stored_of_toJson hv
      · exact stored_of_membersToJson hms m hm
    · cases h

end

/-! ## Results that are the same -/

section Results

variable {ε α β : Type} {x y : Except ε α}

/-- Two results have the same value, or none. -/
def SameResult (x y : Except ε α) : Prop := ∀ a, x = .ok a ↔ y = .ok a

theorem SameResult.refl (x : Except ε α) : SameResult x x := fun _ => Iff.rfl

theorem sameResult_error (e e' : ε) : SameResult (.error e : Except ε α) (.error e') :=
  fun _ => iff_of_false (fun h => by cases h) fun h => by cases h

theorem SameResult.cases (h : SameResult x y) :
    (∃ a, x = .ok a ∧ y = .ok a) ∨ ∃ e e', x = .error e ∧ y = .error e' := by
  cases x with
  | ok a => exact .inl ⟨a, rfl, (h a).1 rfl⟩
  | error e =>
    cases y with
    | ok b => cases (h b).2 rfl
    | error e' => exact .inr ⟨e, e', rfl, rfl⟩

theorem SameResult.bind {f g : α → Except ε β} (h : SameResult x y) (hfg : ∀ a, SameResult (f a) (g a)) :
    SameResult (x >>= f) (y >>= g) := by
  rcases h.cases with ⟨a, rfl, rfl⟩ | ⟨e, e', rfl, rfl⟩
  · exact hfg a
  · exact sameResult_error e e'

theorem SameResult.map (f : α → β) (h : SameResult x y) : SameResult (x.map f) (y.map f) := by
  rcases h.cases with ⟨a, rfl, rfl⟩ | ⟨e, e', rfl, rfl⟩
  · exact .refl _
  · exact sameResult_error e e'

theorem sameResult_mapM {γ : Type} {f : γ → Except ε α} {g : γ → γ} : ∀ {items : List γ},
    (∀ v ∈ items, SameResult (f (g v)) (f v)) → SameResult ((items.map g).mapM f) (items.mapM f)
  | [], _ => .refl _
  | v :: items, h => by
    rw [List.map_cons, List.mapM_cons, List.mapM_cons]
    exact (h v List.mem_cons_self).bind fun a =>
      (sameResult_mapM fun w hw => h w (List.mem_cons_of_mem v hw)).bind fun as => .refl _

end Results

/-! ## Readings that do not see how numbers are told -/

/-- A floating point number is told as one. -/
theorem exists_retold_float (x : Binary64) : ∃ y, Number.retold (.float x) = .float y := by
  rcases x.number_numeral_cases with h | ⟨y, h⟩
  · exact ⟨x, by rw [Number.retold, h, Option.getD_none]⟩
  · exact ⟨y, by rw [Number.retold, h, Option.getD_some]⟩

/-- What is seen of a value as a text tells it. -/
def Head.retold : Head → Head
  | .number n => .number n.retold
  | head => head

theorem head_told (v : Json) : (told v).head = v.head.retold := by
  cases v <;> simp only [told, head, Head.retold, ofMembers]

namespace Reading

variable {α β : Type} {r : Reading α}

/-- **A reading gives the same from a value and from what its text tells.** -/
def Retells (r : Reading α) : Prop := ∀ v, Tidy v → SameResult (r.value (told v)) (r.value v)

/-- A reading that accepts no floating point number. -/
theorem retells_ofHead {f : Head → Except Mismatch α} (h : ∀ x, ∃ e, f (.number (.float x)) = .error e) :
    (ofHead f).Retells := by
  intro v _
  simp only [ofHead, head_told]
  cases v.head with
  | number n =>
    cases n with
    | int i => exact .refl _
    | float x =>
      obtain ⟨y, hy⟩ := exists_retold_float x
      obtain ⟨e, he⟩ := h x
      obtain ⟨e', he'⟩ := h y
      rw [Head.retold, hy, he, he']
      exact sameResult_error e' e
  | _ => exact .refl _

theorem retells_text : text.Retells := retells_ofHead fun _ => ⟨_, rfl⟩

theorem retells_within (low high : Int) (name : String) : (within low high name).Retells :=
  retells_ofHead fun _ => ⟨_, rfl⟩

theorem Retells.map (h : r.Retells) (f : α → β) : (r.map f).Retells := fun v hv => (h v hv).map f

theorem retells_nat64 : nat64.Retells := (retells_within _ _ _).map _

/-- Null is told as null, and nothing else is. -/
theorem told_eq_null {v : Json} : told v = .null ↔ v = .null := by
  cases v <;> simp [told, ofMembers]

theorem Retells.option (h : r.Retells) : r.option.Retells := by
  intro v hv
  by_cases hnull : v = .null
  · rw [told_eq_null.2 hnull, hnull]
    exact .refl _
  · rw [option_value_of_ne hnull, option_value_of_ne fun htold => hnull (told_eq_null.1 htold)]
    exact (h v hv).map some

theorem Retells.list (h : r.Retells) : r.list.Retells := by
  intro v hv
  cases v with
  | array items =>
    rw [told_array]
    exact sameResult_mapM fun w hw => h w (tidy_array.1 hv w hw)
  | _ =>
    simp only [told, ofMembers]
    exact sameResult_error _ _

end Reading

/-! ## Records -/

namespace Record

variable {σ : Type} {r : Record σ}

theorem retells_keeping {α : Type} {rd : Reading α} (h : rd.Retells) (name : String) (put : α → σ → σ) :
    (Field.keeping name rd put).reading.Retells := h.map put

theorem retells_fill (h : ∀ f ∈ r.fields, f.reading.Retells) : ∀ {members : List (String × Json)} (x : σ),
    (∀ m ∈ members, Tidy m.2) →
      SameResult (r.fill x (members.map fun m => (m.1, told m.2))) (r.fill x members)
  | [], _, _ => .refl _
  | (k, v) :: rest, x, htidy => by
    have hrest : ∀ y, SameResult (r.fill y (rest.map fun m => (m.1, told m.2))) (r.fill y rest) :=
      fun y => retells_fill h y fun m hm => htidy m (List.mem_cons_of_mem _ hm)
    rw [List.map_cons, fill_cons, fill_cons]
    cases hf : r.field? k with
    | none => exact hrest x
    | some f =>
      exact (h f (List.mem_of_find?_eq_some hf) v (htidy (k, v) List.mem_cons_self)).bind fun put => hrest (put x)

theorem fillItems_cons (r : Record σ) (length : Nat) (x : σ) (f : Field σ) (fields : List (Field σ)) (v : Json)
    (rest : List Json) :
    r.fillItems length x (f :: fields) (v :: rest) =
      (f.reading.value v).bind fun put => r.fillItems length (put x) fields rest := by
  rw [fillItems]
  cases f.reading.value v <;> rfl

theorem retells_fillItems {length : Nat} : ∀ {fields : List (Field σ)} {items : List Json} (x : σ),
    (∀ f ∈ fields, f.reading.Retells) → (∀ v ∈ items, Tidy v) →
      SameResult (r.fillItems length x fields (items.map told)) (r.fillItems length x fields items)
  | _, [], _, _, _ => .refl _
  | [], _ :: _, _, _, _ => sameResult_error _ _
  | f :: fields, v :: rest, x, h, htidy => by
    rw [List.map_cons, fillItems_cons, fillItems_cons]
    exact (h f List.mem_cons_self v (htidy v List.mem_cons_self)).bind fun put =>
      retells_fillItems (put x) (fun g hg => h g (List.mem_cons_of_mem f hg)) fun w hw =>
        htidy w (List.mem_cons_of_mem v hw)

/-- **A record whose fields read the same from what a text tells does so itself.** -/
theorem retells (h : ∀ f ∈ r.fields, f.reading.Retells) : r.reading.Retells := by
  intro v hv
  rw [reading_value, reading_value]
  cases v with
  | object members =>
    obtain ⟨hordered, hmembers⟩ := tidy_object.1 hv
    rw [told_object hordered, ofValue, ofValue, List.map_map]
    refine (retells_fill h r.blank hmembers).bind fun x => ?_
    exact .refl _
  | array items =>
    rw [told_array, ofValue, ofValue, List.length_map]
    exact retells_fillItems r.blank h (tidy_array.1 hv)
  | _ =>
    simp only [told]
    exact sameResult_error _ _

/-! ## What a text gives to a record -/

/-- Reading a field off a text keeps a condition on the record. -/
def Field.KeepsRead (f : Field σ) (P : σ → Prop) : Prop := ∀ s put, f.reading.source s = .ok put → ∀ x, P x → P (put x)

variable {P : σ → Prop}

theorem holds_of_fillSource (h : ∀ f ∈ r.fields, f.KeepsRead P) : ∀ {members : List (String × Source)}
    {seen : List String} {x y : σ}, P x → r.fillSource seen x members = .ok y → P y
  | [], _, _, _, hx, hy => by
    cases hy
    exact hx
  | (k, s) :: rest, seen, x, y, hx, hy => by
    rw [fillSource] at hy
    split at hy
    · split at hy
      · exact holds_of_fillSource h hx hy
      · cases hy
    · rename_i f hf
      split at hy
      · cases hy
      · split at hy
        · rename_i put hput
          exact holds_of_fillSource h (h f (List.mem_of_find?_eq_some hf) s put hput x hx) hy
        · cases hy

theorem holds_of_fillItemsSource {closed : Bool} : ∀ {fields : List (Field σ)} {items : List Source} {count : Nat}
    {x y : σ}, (∀ f ∈ fields, f.KeepsRead P) → P x → r.fillItemsSource closed count x fields items = .ok y → P y
  | [], [], _, _, _, _, hx, hy => by
    rw [fillItemsSource] at hy
    split at hy
    · cases hy
      exact hx
    · cases hy
  | [], _ :: _, _, _, _, _, _, hy => by cases hy
  | f :: fields, [], _, _, _, h, hx, hy => by
    rw [fillItemsSource] at hy
    split at hy
    · cases hy
    · split at hy
      · exact holds_of_fillItemsSource (fun g hg => h g (List.mem_cons_of_mem f hg)) hx hy
      · cases hy
  | f :: fields, s :: rest, _, x, _, h, hx, hy => by
    rw [fillItemsSource] at hy
    split at hy
    · rename_i put hput
      exact holds_of_fillItemsSource (fun g hg => h g (List.mem_cons_of_mem f hg))
        (h f List.mem_cons_self s put hput x hx) hy
    · cases hy

/-- **What holds of a blank record, and is kept by each of its fields, holds of every record that a text gives.** -/
theorem holds_of_ofText (hblank : P r.blank) (h : ∀ f ∈ r.fields, f.KeepsRead P) {text : String} {x : σ}
    (hx : r.ofText text = .ok x) : P x := by
  rw [ofText] at hx
  obtain ⟨y, hsource, hy⟩ := bind_eq_ok_iff.1 hx
  split at hy
  · cases hy
    generalize (scan text.toList).value = s at hsource
    rw [ofSource.eq_def] at hsource
    split at hsource
    · obtain ⟨z, hfill, hz⟩ := bind_eq_ok_iff.1 hsource
      split at hz
      · cases hz
      · split at hz
        · cases hz
        · cases hz
          exact holds_of_fillSource h hblank hfill
    · exact holds_of_fillItemsSource h hblank hsource
    · obtain ⟨head, -, hhead⟩ := bind_eq_ok_iff.1 hsource
      cases hhead
  · cases hy

end Record

end Provision.Json
