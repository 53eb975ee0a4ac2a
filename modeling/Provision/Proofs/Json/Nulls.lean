import Mathlib.Data.List.Pairwise
import Provision.Proofs.Json.Written

/-!
# Members that are null

A layout says which members of a value are known, and which of them cannot be null. A value loses a null member if one
that is known and can be null is left out, at the value itself or anywhere in its lists (`Layout.Loses`); a value is
spoilt if a member is null that cannot be (`Layout.Spoilt`). A reading follows a layout if it does not see such a loss
and fails at a spoilt value (`Reading.Follows`), with one rule for each way in which readings are put together. Main
statement: a record follows the layout of its fields if it does not matter in which order they are read, and a field
that can be null leaves a blank record blank (`Record.follows`).
-/

namespace Provision.Json

/-! ## Layouts -/

/-- What is known of the members of a value. -/
inductive Layout where
  /-- A value without members. -/
  | scalar
  /-- A list of values of one layout. -/
  | list (item : Layout)
  /-- An object: the names that are known, those of them that cannot be null, and what is known below each name. -/
  | record (names strict : List String) (inner : String → Layout)

namespace Layout

/-- **A value becomes another one by leaving out one member that is null**, and is known and can be so. -/
inductive Loses : Layout → Json → Json → Prop
  | here {names strict : List String} {inner : String → Layout} {name : String} {before after : List (String × Json)}
      (known : name ∈ names) (optional : name ∉ strict) (once : name ∉ (before ++ after).map Prod.fst) :
      Loses (.record names strict inner) (.object (before ++ (name, .null) :: after)) (.object (before ++ after))
  | within {names strict : List String} {inner : String → Layout} {name : String} {v w : Json}
      {before after : List (String × Json)} (known : name ∈ names) (below : Loses (inner name) v w) :
      Loses (.record names strict inner) (.object (before ++ (name, v) :: after))
        (.object (before ++ (name, w) :: after))
  | item {item : Layout} {v w : Json} {before after : List Json} (below : Loses item v w) :
      Loses (.list item) (.array (before ++ v :: after)) (.array (before ++ w :: after))

/-- **A member of a value is null** that is known and cannot be so. -/
inductive Spoilt : Layout → Json → Prop
  | here {names strict : List String} {inner : String → Layout} {name : String} {members : List (String × Json)}
      (known : name ∈ names) (needed : name ∈ strict) (null : (name, .null) ∈ members) :
      Spoilt (.record names strict inner) (.object members)
  | within {names strict : List String} {inner : String → Layout} {name : String} {v : Json}
      {members : List (String × Json)} (known : name ∈ names) (member : (name, v) ∈ members)
      (below : Spoilt (inner name) v) : Spoilt (.record names strict inner) (.object members)
  | item {item : Layout} {v : Json} {items : List Json} (member : v ∈ items) (below : Spoilt item v) :
      Spoilt (.list item) (.array items)

variable {l : Layout} {v w : Json}

/-- Only lists and objects have members to lose. -/
theorem Loses.shape (h : l.Loses v w) :
    (∃ items items', v = .array items ∧ w = .array items') ∨
      ∃ members members', v = .object members ∧ w = .object members' := by
  cases h with
  | here known optional once => exact .inr ⟨_, _, rfl, rfl⟩
  | within known below => exact .inr ⟨_, _, rfl, rfl⟩
  | item below => exact .inl ⟨_, _, rfl, rfl⟩

theorem Loses.ne_null (h : l.Loses v w) : v ≠ .null ∧ w ≠ .null := by
  rcases h.shape with ⟨_, _, rfl, rfl⟩ | ⟨_, _, rfl, rfl⟩ <;> simp

theorem Loses.asString? (h : l.Loses v w) : v.asString? = none ∧ w.asString? = none := by
  rcases h.shape with ⟨_, _, rfl, rfl⟩ | ⟨_, _, rfl, rfl⟩ <;> exact ⟨rfl, rfl⟩

theorem Spoilt.ne_null (h : l.Spoilt v) : v ≠ .null := by
  cases h <;> simp

section Object

variable {names strict : List String} {inner : String → Layout} {key : String}

/-- Of an object, a name that is not known is not touched. -/
theorem Loses.get?_of_unknown (h : Loses (.record names strict inner) v w) (unknown : key ∉ names) :
    w.get? key = v.get? key := by
  cases h with
  | @here _ _ _ name before after known optional once =>
    have hne : name ≠ key := fun heq => unknown (heq ▸ known)
    rw [get?, get?, find_append, find_append, find, if_neg hne]
  | @within _ _ _ name v w before after known below =>
    have hne : name ≠ key := fun heq => unknown (heq ▸ known)
    rw [get?, get?, find_append, find_append, find, if_neg hne, find, if_neg hne]

/-- The texts of an object stay as they are. -/
theorem Loses.textOf (h : Loses (.record names strict inner) v w) : w.textOf key = v.textOf key := by
  cases h with
  | @here _ _ _ name before after known optional once =>
    by_cases hkey : name = key
    · subst hkey
      rw [List.map_append, List.mem_append, not_or] at once
      have hbefore : find name before = none := by
        rw [← Option.not_isSome_iff_eq_none, mem_names_of_find]
        exact once.1
      have hafter : find name after = none := by
        rw [← Option.not_isSome_iff_eq_none, mem_names_of_find]
        exact once.2
      simp [Json.textOf, get?, find_append, find, hbefore, hafter, Json.asString?]
    · simp only [Json.textOf, get?, find_append, find, if_neg hkey]
  | @within _ _ _ name v w before after known below =>
    by_cases hkey : name = key
    · obtain ⟨hv, hw⟩ := below.asString?
      cases hbefore : find key before <;> simp [Json.textOf, get?, find_append, find, hkey, hbefore, hv, hw]
    · simp only [Json.textOf, get?, find_append, find, if_neg hkey]

end Object

end Layout

/-! ## Readings -/

namespace Reading

variable {α β : Type} {rd : Reading α} {l : Layout}

/-- **A reading takes a null member for one that is not there** if the layout says that it can be null, and fails if
the layout says that it cannot. -/
structure Follows (rd : Reading α) (l : Layout) : Prop where
  same : ∀ {v w}, l.Loses v w → rd.value w = rd.value v
  fails : ∀ {v}, l.Spoilt v → ∃ e, rd.value v = .error e

theorem follows_scalar (rd : Reading α) : rd.Follows .scalar := ⟨nofun, nofun⟩

theorem Follows.map (h : rd.Follows l) (f : α → β) : (rd.map f).Follows l where
  same hlost := by
    rw [Reading.map]
    dsimp only
    rw [h.same hlost]
  fails hspoilt := by
    obtain ⟨e, he⟩ := h.fails hspoilt
    refine ⟨e, ?_⟩
    rw [Reading.map]
    dsimp only
    rw [he]
    rfl

theorem Follows.option (h : rd.Follows l) : rd.option.Follows l where
  same hlost := by
    rw [option_value_of_ne hlost.ne_null.1, option_value_of_ne hlost.ne_null.2, h.same hlost]
  fails hspoilt := by
    obtain ⟨e, he⟩ := h.fails hspoilt
    refine ⟨e, ?_⟩
    rw [option_value_of_ne hspoilt.ne_null, he]
    rfl

/-- A list with an item that cannot be read cannot be read. -/
theorem mapM_error_of_mem {ε : Type} {f : β → Except ε α} {e : ε} : ∀ {items : List β} {v : β},
    v ∈ items → f v = .error e → ∃ e, items.mapM f = .error e
  | u :: items, v, hv, he => by
    rw [List.mapM_cons]
    cases hu : f u with
    | error e' => exact ⟨e', rfl⟩
    | ok a =>
      rcases List.mem_cons.1 hv with rfl | hv
      · rw [he] at hu
        cases hu
      · obtain ⟨e', he'⟩ := mapM_error_of_mem hv he
        rw [he']
        exact ⟨e', rfl⟩

theorem Follows.list (h : rd.Follows l) : rd.list.Follows (.list l) where
  same hlost := by
    cases hlost with
    | item below => simp only [Reading.list, List.mapM_append, List.mapM_cons, h.same below]
  fails hspoilt := by
    cases hspoilt with
    | item member below =>
      obtain ⟨e, he⟩ := h.fails below
      exact mapM_error_of_mem member he

end Reading

/-! ## Records -/

namespace Record

variable {α β σ : Type} {r : Record σ}

/-- It does not matter which of two fields is read first. -/
def Field.Apart (f g : Field σ) : Prop := f.reading.Gives fun p => g.reading.Gives fun q => ∀ x, p (q x) = q (p x)

instance : Std.Symm (Field.Apart (σ := σ)) := ⟨fun _ _ h v q hq w p hp x => (h w p hp v q hq x).symm⟩

theorem apart_keeping {name name' : String} {rd : Reading α} {rd' : Reading β} {put : α → σ → σ} {put' : β → σ → σ}
    (h : ∀ a b x, put a (put' b x) = put' b (put a x)) :
    (Field.keeping name rd put).Apart (.keeping name' rd' put') := by
  intro v p hp w q hq x
  obtain ⟨a, -, rfl⟩ := map_eq_ok_iff.1 hp
  obtain ⟨b, -, rfl⟩ := map_eq_ok_iff.1 hq
  exact h a b x

theorem Field.Apart.absence {f g : Field σ} (h : f.Apart g) (a b : Absence) :
    { f with absence := a : Field σ }.Apart { g with absence := b } := h

/-- How a field takes null: a strict one fails, and any other leaves a blank record blank. -/
structure Field.Takes (f : Field σ) (blank : σ) (strict : List String) (inner : String → Layout) : Prop where
  optional : f.name ∉ strict → ∃ put, f.reading.value .null = .ok put ∧ put blank = blank
  needed : f.name ∈ strict → ∃ e, f.reading.value .null = .error e
  below : f.reading.Follows (inner f.name)

variable {blank : σ} {strict : List String} {inner : String → Layout} {name : String} {rd : Reading α}

theorem takes_option {put : Option α → σ → σ} (hname : name ∉ strict) (hblank : put none blank = blank)
    (h : rd.Follows (inner name)) : (Field.keeping name rd.option put).Takes blank strict inner where
  optional _ := ⟨put none, rfl, hblank⟩
  needed hstrict := absurd hstrict hname
  below := h.option.map put

theorem takes_strict {put : α → σ → σ} {e : Mismatch} (hname : name ∈ strict) (hnull : rd.value .null = .error e)
    (h : rd.Follows (inner name)) : (Field.keeping name rd put).Takes blank strict inner where
  optional hoptional := absurd hname hoptional
  needed _ := ⟨e, map_eq_error_iff.2 hnull⟩
  below := h.map put

theorem Field.Takes.absence {f : Field σ} (h : f.Takes blank strict inner) (a : Absence) :
    { f with absence := a : Field σ }.Takes blank strict inner := ⟨h.optional, h.needed, h.below⟩

/-- What is known of the members of a record: the names of its fields. -/
def layout (r : Record σ) (strict : List String) (inner : String → Layout) : Layout :=
  .record (r.fields.map Field.name) strict inner

theorem exists_field? (h : name ∈ r.fields.map Field.name) :
    ∃ f ∈ r.fields, f.name = name ∧ r.field? name = some f := by
  obtain ⟨g, hg, hname⟩ := List.mem_map.1 h
  have hsome : (r.field? name).isSome := by
    rw [field?, List.find?_isSome]
    exact ⟨g, hg, beq_iff_eq.2 hname⟩
  obtain ⟨f, hf⟩ := Option.isSome_iff_exists.1 hsome
  obtain ⟨hmem, hname⟩ := field?_mem hf
  exact ⟨f, hmem, hname, hf⟩

theorem fill_append (x : σ) (before after : List (String × Json)) :
    r.fill x (before ++ after) = (r.fill x before).bind fun y => r.fill y after := by
  induction before generalizing x with
  | nil => rfl
  | cons m rest ih =>
    obtain ⟨k, v⟩ := m
    rw [List.cons_append, fill_cons, fill_cons]
    cases r.field? k with
    | none => exact ih x
    | some f =>
      dsimp only
      cases f.reading.value v with
      | error e => rfl
      | ok put => exact ih (put x)

/-- What the fields of other names keep holds after their members are read. -/
theorem holds_of_fill_others {P : σ → Prop} (h : ∀ f ∈ r.fields, f.name ≠ name → f.Keeps P) :
    ∀ {members : List (String × Json)} {x y : σ}, name ∉ members.map Prod.fst → P x → r.fill x members = .ok y → P y
  | [], x, y, _, hx, hy => by
    cases hy
    exact hx
  | (k, v) :: rest, x, y, hname, hx, hy => by
    rw [List.map_cons, List.mem_cons, not_or] at hname
    rw [fill_cons] at hy
    cases hf : r.field? k with
    | none =>
      rw [hf] at hy
      exact holds_of_fill_others h hname.2 hx hy
    | some f =>
      rw [hf] at hy
      obtain ⟨put, hput, hrest⟩ := bind_eq_ok_iff.1 hy
      obtain ⟨hmem, hk⟩ := field?_mem hf
      have hother : f.name ≠ name := fun heq => hname.1 (heq.symm.trans hk)
      exact holds_of_fill_others h hname.2 (h f hmem hother v put hput x hx) hrest

/-- An object with a member that cannot be read cannot be read. -/
theorem fill_error_of_mem {f : Field σ} {e : Mismatch} {v : Json} (hf : r.field? name = some f)
    (he : f.reading.value v = .error e) : ∀ {members : List (String × Json)} (x : σ),
    (name, v) ∈ members → ∃ e, r.fill x members = .error e
  | (k, w) :: rest, x, hmem => by
    rw [fill_cons]
    rcases List.mem_cons.1 hmem with heq | hmem
    · cases heq
      rw [hf]
      dsimp only
      rw [he]
      exact ⟨e, rfl⟩
    · cases r.field? k with
      | none => exact fill_error_of_mem hf he x hmem
      | some g =>
        dsimp only
        cases g.reading.value w with
        | error e' => exact ⟨e', rfl⟩
        | ok put => exact fill_error_of_mem hf he (put x) hmem

/-- **A record follows the layout of its fields.** -/
theorem follows (free : ∀ f ∈ r.fields, f.absence ≠ .refused) (apart : r.fields.Pairwise Field.Apart)
    (takes : ∀ f ∈ r.fields, f.Takes r.blank strict inner) : r.reading.Follows (r.layout strict inner) where
  same hlost := by
    rw [reading_value, reading_value]
    cases hlost with
    | @here _ _ _ name before after known optional once =>
      obtain ⟨f, hf, hname, hfield⟩ := exists_field? known
      obtain ⟨put, hput, hblank⟩ := (takes f hf).optional (hname.symm ▸ optional)
      -- what null gives does nothing to the blank record, and the other fields keep it so
      have others : ∀ g ∈ r.fields, g.name ≠ name → g.Keeps fun x => put x = x := by
        intro g hg hother v q hq x hx
        have hne : f ≠ g := fun heq => hother (heq ▸ hname)
        have hapart : f.Apart g := apart.forall hf hg hne
        rw [hapart .null put hput v q hq x, hx]
      have hbefore : name ∉ before.map Prod.fst := fun hmem => once (by simp [hmem])
      rw [ofValue_object free, ofValue_object free, fill_append, fill_append]
      cases hfill : r.fill r.blank before with
      | error e => rfl
      | ok y =>
        have hy : put y = y := holds_of_fill_others others hbefore hblank hfill
        simp only [Except.bind, fill_cons, hfield, hput, hy]
    | @within _ _ _ name v w before after known below =>
      obtain ⟨f, hf, hname, hfield⟩ := exists_field? known
      have hsame : f.reading.value w = f.reading.value v := (takes f hf).below.same (hname.symm ▸ below)
      rw [ofValue_object free, ofValue_object free, fill_append, fill_append]
      simp only [fill_cons, hfield, hsame]
  fails hspoilt := by
    rw [reading_value]
    cases hspoilt with
    | @here _ _ _ name members known needed null =>
      obtain ⟨f, hf, hname, hfield⟩ := exists_field? known
      obtain ⟨e, he⟩ := (takes f hf).needed (hname.symm ▸ needed)
      rw [ofValue_object free]
      exact fill_error_of_mem hfield he r.blank null
    | @within _ _ _ name v members known member below =>
      obtain ⟨f, hf, hname, hfield⟩ := exists_field? known
      obtain ⟨e, he⟩ := (takes f hf).below.fails (hname.symm ▸ below)
      rw [ofValue_object free]
      exact fill_error_of_mem hfield he r.blank member

end Record

end Provision.Json
