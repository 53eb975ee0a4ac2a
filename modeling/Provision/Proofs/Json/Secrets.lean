import Mathlib.Data.List.Forall2
import Provision.Json.Reading

/-!
# Values with a secret

Two values are alike if they are the same but for a secret, which is the member of a name, or in a list the item at the
place of the field of that name (`Json.Alike`). What is not the secret is found alike in them (`Alike.get?`), members
that are alike are so in order (`membersAlike_sorted`). Main statement: a record reads alike values in the same
way, if each of its fields does (`Record.ofValue_alike`).
-/

namespace Provision

/-- Two results: the same failure, or values in a relation. -/
inductive EndAlike {ε α β : Type} (R : α → β → Prop) : Except ε α → Except ε β → Prop
  | ok {a : α} {b : β} (h : R a b) : EndAlike R (.ok a) (.ok b)
  | error (e : ε) : EndAlike R (.error e) (.error e)

namespace EndAlike

variable {ε ε' α β γ δ : Type} {R : α → β → Prop} {Q : γ → δ → Prop} {x : Except ε α} {y : Except ε β}

theorem of_eq {x y : Except ε α} (h : x = y) : EndAlike Eq x y := by
  subst h
  cases x with
  | ok a => exact .ok rfl
  | error e => exact .error e

theorem eq {x y : Except ε α} (h : EndAlike Eq x y) : x = y := by
  cases h with
  | ok h => rw [h]
  | error e => rfl

theorem map {f : α → γ} {g : β → δ} (h : EndAlike R x y) (hfg : ∀ a b, R a b → Q (f a) (g b)) :
    EndAlike Q (x.map f) (y.map g) := by
  cases h with
  | ok h => exact .ok (hfg _ _ h)
  | error e => exact .error e

theorem mapError (h : EndAlike R x y) (f : ε → ε') : EndAlike R (x.mapError f) (y.mapError f) := by
  cases h with
  | ok h => exact .ok h
  | error e => exact .error _

theorem bind {f : α → Except ε γ} {g : β → Except ε δ} (h : EndAlike R x y)
    (hfg : ∀ a b, R a b → EndAlike Q (f a) (g b)) : EndAlike Q (x >>= f) (y >>= g) := by
  cases h with
  | ok h => exact hfg _ _ h
  | error e => exact .error e

end EndAlike

namespace Json

/-! ## Values that are alike -/

section Values

variable (name p q : String)

/-- Two values of a secret: one secret each, or the same value, which is no text then, or the empty one. -/
def SecretAlike (v w : Json) : Prop := v = .string p ∧ w = .string q ∨ v = w ∧ ∀ s, v = .string s → s = ""

/-- Two values of a member: those of a secret, or the same. -/
def ValueAlike (key : String) (v w : Json) : Prop := if key = name then SecretAlike p q v w else v = w

/-- Two members of the same name. -/
structure MemberAlike (m n : String × Json) : Prop where
  key : m.1 = n.1
  value : ValueAlike name p q m.1 m.2 n.2

/-- Two lists of items, of which each has the name of a field; those behind the last field are the same. -/
def ItemsAlike : List String → List Json → List Json → Prop
  | key :: keys, v :: vs, w :: ws => ValueAlike name p q key v w ∧ ItemsAlike keys vs ws
  | _, vs, ws => vs = ws

/-- **Two values that are the same but for a secret**, which has a name among those of the fields. -/
inductive Alike (keys : List String) : Json → Json → Prop
  | object {ms ns : List (String × Json)} (h : List.Forall₂ (MemberAlike name p q) ms ns) :
      Alike keys (.object ms) (.object ns)
  | array {vs ws : List Json} (h : ItemsAlike name p q keys vs ws) : Alike keys (.array vs) (.array ws)
  | scalar {v : Json} (hlist : ∀ vs, v ≠ .array vs) (hobject : ∀ ms, v ≠ .object ms) : Alike keys v v

end Values

variable {name p q key : String} {v w : Json} {ms ns : List (String × Json)}

theorem valueAlike_of_ne (h : key ≠ name) : ValueAlike name p q key v w ↔ v = w := by rw [ValueAlike, if_neg h]

theorem valueAlike_self : ValueAlike name p q name v w ↔ SecretAlike p q v w := by rw [ValueAlike, if_pos rfl]

theorem eq_of_rel {x y : Option Json} (hne : key ≠ name) (h : Option.Rel (ValueAlike name p q key) x y) : x = y := by
  cases h with
  | none => rfl
  | some h => rw [(valueAlike_of_ne hne).1 h]

theorem names_of_membersAlike (h : List.Forall₂ (MemberAlike name p q) ms ns) :
    ms.map Prod.fst = ns.map Prod.fst := by
  induction h with
  | nil => rfl
  | cons hm _ ih => rw [List.map_cons, List.map_cons, hm.key, ih]

theorem find_alike (key : String) (h : List.Forall₂ (MemberAlike name p q) ms ns) :
    Option.Rel (ValueAlike name p q key) (find key ms) (find key ns) := by
  induction h with
  | nil => exact .none
  | @cons m n _ _ hm _ ih =>
    obtain ⟨j, v⟩ := m
    obtain ⟨k, w⟩ := n
    obtain ⟨rfl, hvalue⟩ := hm
    rw [find, find]
    split
    · rename_i hj
      exact .some (hj ▸ hvalue)
    · exact ih

/-- **Members are found alike.** -/
theorem Alike.get? {keys : List String} (h : Alike name p q keys v w) (key : String) :
    Option.Rel (ValueAlike name p q key) (v.get? key) (w.get? key) := by
  cases h with
  | object h => exact find_alike key h
  | array h => exact .none
  | scalar hlist hobject =>
    cases v with
    | object ms => exact absurd rfl (hobject ms)
    | _ => exact .none

/-! ## Members in order -/

theorem membersAlike_insert {j k : String} (hm : MemberAlike name p q (j, v) (k, w))
    (h : List.Forall₂ (MemberAlike name p q) ms ns) :
    List.Forall₂ (MemberAlike name p q) (insert j v ms) (insert k w ns) := by
  obtain rfl : j = k := hm.key
  induction h with
  | nil => exact .cons hm .nil
  | @cons m n _ _ hmn hrest ih =>
    obtain ⟨i, x⟩ := m
    obtain ⟨i', y⟩ := n
    obtain rfl : i = i' := hmn.key
    rw [insert, insert]
    split
    · exact .cons hm (.cons hmn hrest)
    · split
      · exact .cons hm hrest
      · exact .cons hmn ih

/-- **Members that are alike are so in order.** -/
theorem membersAlike_sorted (h : List.Forall₂ (MemberAlike name p q) ms ns) :
    List.Forall₂ (MemberAlike name p q) (sorted ms) (sorted ns) := by
  have key : ∀ {ms ns acc acc' : List (String × Json)}, List.Forall₂ (MemberAlike name p q) ms ns →
      List.Forall₂ (MemberAlike name p q) acc acc' → List.Forall₂ (MemberAlike name p q)
        (ms.foldl (fun acc m => insert m.1 m.2 acc) acc) (ns.foldl (fun acc m => insert m.1 m.2 acc) acc') := by
    intro ms ns acc acc' h
    induction h generalizing acc acc' with
    | nil => exact id
    | cons hm _ ih => exact fun hacc => ih (membersAlike_insert hm hacc)
  exact key h .nil

/-- Members that are left out of both lists or of none. -/
theorem membersAlike_present {ms ns : List (String × Option Json)}
    (h : List.Forall₂ (fun m n => m.1 = n.1 ∧ Option.Rel (ValueAlike name p q m.1) m.2 n.2) ms ns) :
    List.Forall₂ (MemberAlike name p q) (present ms) (present ns) := by
  induction h with
  | nil => exact .nil
  | @cons m n _ _ hm _ ih =>
    obtain ⟨j, x⟩ := m
    obtain ⟨k, y⟩ := n
    obtain ⟨rfl, hvalue⟩ := hm
    cases hvalue with
    | none => exact ih
    | some hvalue => exact .cons ⟨rfl, hvalue⟩ ih

/-- An object whose members may be left out, with a secret between those that are the same. -/
theorem alike_ofMembers {keys : List String} (before after : List (String × Option Json)) {x y : Option Json}
    (hbefore : ∀ m ∈ before, m.1 ≠ name) (hafter : ∀ m ∈ after, m.1 ≠ name) (h : Option.Rel (SecretAlike p q) x y) :
    Alike name p q keys (ofMembers (present (before ++ (name, x) :: after)))
      (ofMembers (present (before ++ (name, y) :: after))) := by
  have same : ∀ ms : List (String × Option Json), (∀ m ∈ ms, m.1 ≠ name) →
      List.Forall₂ (fun m n => m.1 = n.1 ∧ Option.Rel (ValueAlike name p q m.1) m.2 n.2) ms ms := by
    intro ms hms
    refine List.forall₂_same.2 fun m hm => ⟨rfl, ?_⟩
    cases m.2 with
    | none => exact .none
    | some v => exact .some ((valueAlike_of_ne (hms m hm)).2 rfl)
  have hsecret : Option.Rel (ValueAlike name p q name) x y := by
    cases h with
    | none => exact .none
    | some h => exact .some (valueAlike_self.2 h)
  refine .object (membersAlike_sorted (membersAlike_present ?_))
  exact List.rel_append (same before hbefore) (.cons ⟨rfl, hsecret⟩ (same after hafter))

/-! ## Records -/

namespace Record

variable {σ : Type} {R : σ → σ → Prop}

/-- A field reads alike values in the same way, and changes records in the relation to records in the relation. -/
def Field.Respects (name p q : String) (R : σ → σ → Prop) (f : Field σ) : Prop :=
  ∀ v w, ValueAlike name p q f.name v w →
    EndAlike (fun put put' => ∀ x y, R x y → R (put x) (put' y)) (f.reading.value v) (f.reading.value w)

theorem Field.respects_keeping {α : Type} {r : Reading α} {put : α → σ → σ} (hname : key ≠ name)
    (hput : ∀ a x y, R x y → R (put a x) (put a y)) : (Field.keeping key r put).Respects name p q R := by
  intro v w h
  obtain rfl : v = w := (valueAlike_of_ne hname).1 h
  exact (EndAlike.of_eq rfl).map fun a b hab => hab ▸ hput a

theorem Field.respects_secret {put : String → σ → σ} (hput : ∀ x y, R x y → R (put p x) (put q y))
    (hempty : ∀ x y, R x y → R (put "" x) (put "" y)) : (Field.keeping name .text put).Respects name p q R := by
  intro v w h
  rcases valueAlike_self.1 h with ⟨rfl, rfl⟩ | ⟨rfl, hno⟩
  · exact .ok hput
  · cases v with
    | string s =>
      obtain rfl : s = "" := hno s rfl
      exact .ok hempty
    | _ => exact .error _

variable {r : Record σ} {x y : σ}

theorem fill_alike (hr : ∀ f ∈ r.fields, f.Respects name p q R) (h : List.Forall₂ (MemberAlike name p q) ms ns) :
    ∀ {x y : σ}, R x y → EndAlike R (r.fill x ms) (r.fill y ns) := by
  induction h with
  | nil => exact .ok
  | @cons m n _ _ hm _ ih =>
    obtain ⟨j, v⟩ := m
    obtain ⟨k, w⟩ := n
    obtain ⟨rfl, hvalue⟩ := hm
    intro x y hxy
    rw [fill_cons, fill_cons]
    cases hf : r.field? j with
    | none => exact ih hxy
    | some f =>
      have hname : f.name = j := by simpa using List.find?_some hf
      have hread := hr f (List.mem_of_find?_eq_some hf) v w (hname ▸ hvalue)
      exact hread.bind fun put put' hput => ih (hput x y hxy)

theorem fillItems_alike (length : Nat) : ∀ {fields : List (Field σ)} {vs ws : List Json} {x y : σ},
    (∀ f ∈ fields, f.Respects name p q R) → ItemsAlike name p q (fields.map Field.name) vs ws → R x y →
    EndAlike R (r.fillItems length x fields vs) (r.fillItems length y fields ws)
  | [], [], ws, _, _, _, h, hxy => by
    obtain rfl : [] = ws := h
    exact .ok hxy
  | [], _ :: _, ws, _, _, _, h, _ => by
    obtain rfl : _ :: _ = ws := h
    exact .error _
  | f :: fields, [], ws, x, y, hr, h, hxy => by
    obtain rfl : [] = ws := h
    rw [fillItems, fillItems]
    split
    · exact fillItems_alike length (fun g hg => hr g (List.mem_cons_of_mem f hg)) (by
        cases fields <;> rfl) hxy
    · exact .error _
  | f :: fields, v :: vs, [], _, _, _, h, _ => by cases h
  | f :: fields, v :: vs, w :: ws, x, y, hr, h, hxy => by
    obtain ⟨hvalue, hrest⟩ := h
    have hread := hr f List.mem_cons_self v w hvalue
    rw [fillItems, fillItems]
    generalize f.reading.value v = left at hread
    generalize f.reading.value w = right at hread
    cases hread with
    | ok hput => exact fillItems_alike length (fun g hg => hr g (List.mem_cons_of_mem f hg)) hrest (hput x y hxy)
    | error e => exact .error e

theorem length_of_itemsAlike : ∀ {keys : List String} {vs ws : List Json}, ItemsAlike name p q keys vs ws →
    vs.length = ws.length
  | [], _, _, h => congrArg List.length h
  | _ :: _, [], _, h => congrArg List.length h
  | _ :: _, _ :: _, [], h => congrArg List.length h
  | _ :: _, _ :: _, _ :: _, h => congrArg (· + 1) (length_of_itemsAlike h.2)

/-- **A record reads alike values in the same way.** -/
theorem ofValue_alike (hr : ∀ f ∈ r.fields, f.Respects name p q R) (hblank : R r.blank r.blank)
    (h : Alike name p q (r.fields.map Field.name) v w) : EndAlike R (r.ofValue v) (r.ofValue w) := by
  cases h with
  | @object ms ns h =>
    have hnames : ms.map (·.1) = ns.map (·.1) := names_of_membersAlike h
    rw [ofValue, ofValue, hnames]
    refine (fill_alike hr h hblank).bind fun x y hxy => ?_
    cases r.missing? (ns.map (·.1)) with
    | some missing => exact .error _
    | none => exact .ok hxy
  | array h =>
    rw [ofValue, ofValue, length_of_itemsAlike h]
    exact fillItems_alike _ hr h hblank
  | scalar hlist hobject =>
    cases v with
    | array vs => exact absurd rfl (hlist vs)
    | object ms => exact absurd rfl (hobject ms)
    | _ => exact .error _

end Record

end Json

end Provision
