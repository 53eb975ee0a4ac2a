import Mathlib.Data.List.Induction
import Provision.Json.Basic

/-!
# Members of objects

Members are looked up in an object that was put in order as in the list from which it was made, from the end
(`get?_ofMembers`); members that are left out are not found (`find_present_cons`), and of different names each one is
found (`get?_of_present`, `get?_present`). Replacing the value of a member is seen under its name only
(`find_replaced`). Members that are put in order have different names (`Ordered.nodup`); those of different names are
only put in another order (`sorted_perm`), and may be left out before or after that (`sorted_present`).
-/

namespace Provision.Json

variable {α : Type}

theorem find_append (key : String) (xs ys : List (String × α)) :
    find key (xs ++ ys) = (find key xs).or (find key ys) := by
  induction xs with
  | nil => rfl
  | cons m rest ih =>
    obtain ⟨k, v⟩ := m
    by_cases hk : k = key
    · simp [find, hk]
    · simp [find, hk, ih]

/-- Insertions one after the other: the later ones count. -/
theorem find_foldl_insert (key : String) : ∀ (members acc : List (String × α)),
    find key (members.foldl (fun acc m => insert m.1 m.2 acc) acc) = (find key members.reverse).or (find key acc)
  | [], _ => rfl
  | (k, v) :: rest, acc => by
    rw [List.foldl_cons, find_foldl_insert key rest, find_insert, List.reverse_cons, find_append, Option.or_assoc]
    by_cases hk : k = key
    · simp [find, hk]
    · simp [find, hk]

theorem get?_ofMembers (key : String) (members : List (String × Json)) :
    (ofMembers members).get? key = find key members.reverse := by
  rw [ofMembers, get?, sorted, find_foldl_insert]
  simp [find]

theorem reverse_present (members : List (String × Option Json)) :
    (present members).reverse = present members.reverse := by
  simp [present, List.filterMap_reverse]

@[simp] theorem find_present_nil (key : String) : find key (present []) = none := rfl

@[simp] theorem find_present_cons (key k : String) (value : Option Json) (members : List (String × Option Json)) :
    find key (present ((k, value) :: members)) =
      if k = key then value.or (find key (present members)) else find key (present members) := by
  cases value with
  | none => simp [present]
  | some v => by_cases hk : k = key <;> simp [present, find, hk]

theorem find_present_of_not_mem {key : String} {members : List (String × Option Json)}
    (h : key ∉ members.map Prod.fst) : find key (present members) = none := by
  induction members with
  | nil => rfl
  | cons m rest ih =>
    obtain ⟨k, value⟩ := m
    rw [List.map_cons, List.mem_cons, not_or] at h
    rw [find_present_cons, if_neg (Ne.symm h.1), ih h.2]

/-- Among members of different names each one is found. -/
theorem find_present_of_mem {key : String} {value : Option Json} {members : List (String × Option Json)}
    (hnames : (members.map Prod.fst).Nodup) (h : (key, value) ∈ members) : find key (present members) = value := by
  induction members with
  | nil => cases h
  | cons m rest ih =>
    obtain ⟨k, first⟩ := m
    rw [List.map_cons, List.nodup_cons] at hnames
    rw [find_present_cons]
    rcases List.mem_cons.1 h with heq | h
    · cases heq
      rw [if_pos rfl, find_present_of_not_mem hnames.1, Option.or_none]
    · have hmem : key ∈ rest.map Prod.fst := List.mem_map.2 ⟨(key, value), h, rfl⟩
      have hne : k ≠ key := fun hk => hnames.1 (hk ▸ hmem)
      rw [if_neg hne, ih hnames.2 h]

theorem get?_of_present {key : String} {value : Option Json} {members : List (String × Option Json)}
    (hnames : (members.map Prod.fst).Nodup) (h : (key, value) ∈ members) :
    (ofMembers (present members)).get? key = value := by
  rw [get?_ofMembers, reverse_present]
  refine find_present_of_mem ?_ (List.mem_reverse.2 h)
  rw [List.map_reverse, List.nodup_iff_pairwise_ne, List.pairwise_reverse]
  exact hnames.imp Ne.symm

theorem find_of_mem {name : String} {value : α} : ∀ {members : List (String × α)},
    (members.map Prod.fst).Nodup → (name, value) ∈ members → find name members = some value
  | [], _, h => by cases h
  | (k, v) :: rest, hnames, h => by
    obtain ⟨hfresh, hrest⟩ := List.nodup_cons.1 hnames
    rcases List.mem_cons.1 h with heq | h
    · cases heq
      exact if_pos rfl
    · have hname : name ∈ rest.map Prod.fst := List.mem_map_of_mem h
      have hne : k ≠ name := fun heq => hfresh (heq ▸ hname)
      rw [find, if_neg hne, find_of_mem hrest h]

theorem mem_of_find {name : String} {value : α} : ∀ {members : List (String × α)},
    find name members = some value → (name, value) ∈ members
  | [], h => by cases h
  | (k, v) :: rest, h => by
    rw [find] at h
    split at h
    · rename_i heq
      cases h
      exact heq ▸ List.mem_cons_self
    · exact List.mem_cons_of_mem _ (mem_of_find h)

theorem mem_names_of_find {name : String} {members : List (String × α)} :
    (find name members).isSome ↔ name ∈ members.map Prod.fst := by
  induction members with
  | nil => simp [find]
  | cons m rest ih =>
    obtain ⟨k, v⟩ := m
    by_cases hk : k = name
    · simp [find, hk]
    · simp [find, hk, ih, Ne.symm hk]

/-- The value of a member that may be left out. -/
theorem get?_present {members : List (String × Option Json)} (hnames : (members.map Prod.fst).Nodup) (name : String) :
    (ofMembers (present members)).get? name = (find name members).join := by
  cases hfind : find name members with
  | some value => exact get?_of_present hnames (mem_of_find hfind)
  | none =>
    have hno : name ∉ members.map Prod.fst := by
      rw [← mem_names_of_find, hfind]
      exact Bool.false_ne_true
    rw [get?_ofMembers, reverse_present]
    refine find_present_of_not_mem ?_
    rw [List.map_reverse, List.mem_reverse]
    exact hno

/-- Members of which one has another value. -/
def replaced (name : String) (value : α) (members : List (String × α)) : List (String × α) :=
  members.map fun m => if m.1 = name then (m.1, value) else m

theorem find_replaced (name key : String) (value : α) (members : List (String × α)) :
    find key (replaced name value members) =
      if key = name then (find key members).map fun _ => value else find key members := by
  induction members with
  | nil => simp [replaced, find]
  | cons m rest ih =>
    obtain ⟨k, v⟩ := m
    rw [replaced, List.map_cons, ← replaced]
    by_cases hk : k = name <;> by_cases hkey : k = key <;> simp_all [find]

/-! ## Order -/

/-- Members in the order of their names. -/
def Ordered (members : List (String × α)) : Prop := members.Pairwise fun m n => m.1 < n.1

variable {name : String} {value : α} {members : List (String × α)}

theorem mem_names_insert {k : String} :
    k ∈ (insert name value members).map Prod.fst ↔ k = name ∨ k ∈ members.map Prod.fst := by
  induction members with
  | nil => simp [insert]
  | cons m rest ih =>
    obtain ⟨j, v⟩ := m
    rw [insert]
    split
    · simp
    · split
      · rename_i h
        simp [h]
      · rw [List.map_cons, List.map_cons, List.mem_cons, List.mem_cons, ih]
        exact or_left_comm

/-- A name that is less than all others comes first. -/
theorem insert_of_lt (h : ∀ m ∈ members, name < m.1) : insert name value members = (name, value) :: members := by
  cases members with
  | nil => rfl
  | cons m rest => rw [insert, if_pos (h m List.mem_cons_self)]

theorem Ordered.insert (h : Ordered members) : Ordered (insert name value members) := by
  induction members with
  | nil => simp [Json.insert, Ordered]
  | cons m rest ih =>
    obtain ⟨j, v⟩ := m
    obtain ⟨hhead, htail⟩ := List.pairwise_cons.1 h
    rw [Json.insert]
    split
    · rename_i hlt
      refine List.pairwise_cons.2 ⟨fun m hm => ?_, h⟩
      rcases List.mem_cons.1 hm with rfl | hm
      · exact hlt
      · exact String.lt_trans hlt (hhead m hm)
    · split
      · rename_i heq
        exact List.pairwise_cons.2 ⟨heq ▸ hhead, htail⟩
      · rename_i hlt hne
        refine List.pairwise_cons.2 ⟨fun m hm => ?_, ih htail⟩
        rcases mem_names_insert.1 (List.mem_map_of_mem hm) with heq | hold
        · rw [heq]
          exact String.not_le.1 fun hle => hne (String.le_antisymm hle (String.not_lt.1 hlt))
        · obtain ⟨n, hn, hname⟩ := List.mem_map.1 hold
          rw [← hname]
          exact hhead n hn

/-- A member whose name is greater than all others comes last. -/
theorem insert_of_gt (h : ∀ m ∈ members, m.1 < name) : insert name value members = members ++ [(name, value)] := by
  induction members with
  | nil => rfl
  | cons m rest ih =>
    obtain ⟨j, v⟩ := m
    have hj : j < name := h (j, v) List.mem_cons_self
    have hlt : ¬name < j := fun hlt => String.lt_irrefl _ (String.lt_trans hj hlt)
    have hne : name ≠ j := fun heq => String.lt_irrefl j (heq ▸ hj)
    rw [insert, if_neg hlt, if_neg hne, ih fun m hm => h m (List.mem_cons_of_mem _ hm)]
    rfl

/-- Members that are in order stay as they are. -/
theorem sorted_of_ordered (h : Ordered members) : sorted members = members := by
  have key : ∀ members acc : List (String × α), Ordered (acc ++ members) →
      members.foldl (fun acc m => insert m.1 m.2 acc) acc = acc ++ members := by
    intro members
    induction members with
    | nil => simp
    | cons m rest ih =>
      intro acc hordered
      have hlast : ∀ n ∈ acc, n.1 < m.1 := fun n hn =>
        (List.pairwise_append.1 hordered).2.2 n hn m List.mem_cons_self
      have hnext : Ordered (acc ++ [(m.1, m.2)] ++ rest) := by
        rw [List.append_assoc]
        exact hordered
      rw [List.foldl_cons, insert_of_gt hlast, ih _ hnext, List.append_assoc]
      rfl
  exact key members [] h

theorem ordered_sorted (members : List (String × α)) : Ordered (sorted members) :=
  List.foldlRecOn members (fun acc m => insert m.1 m.2 acc) .nil fun _ hacc _ _ => hacc.insert

theorem Ordered.nodup (h : Ordered members) :
    (members.map Prod.fst).Nodup := by
  rw [List.Nodup, List.pairwise_map]
  have hlt : members.Pairwise fun m n => m.1 < n.1 := h
  refine hlt.imp fun hmn => ?_
  rintro heq
  exact String.lt_irrefl _ (heq ▸ hmn)

/-- A new name is put among the others. -/
theorem insert_perm {name : String} {value : α} : ∀ {members : List (String × α)},
    name ∉ members.map Prod.fst → (insert name value members).Perm ((name, value) :: members)
  | [], _ => .refl _
  | (k, v) :: rest, h => by
    rw [List.map_cons, List.mem_cons, not_or] at h
    rw [insert]
    split
    · exact .refl _
    · rw [if_neg h.1]
      exact ((insert_perm h.2).cons _).trans (.swap _ _ _)

/-- Members of different names are only put in another order. -/
theorem sorted_perm {members : List (String × α)} (h : (members.map Prod.fst).Nodup) :
    (sorted members).Perm members := by
  induction members using List.reverseRecOn with
  | nil => exact .refl _
  | append_singleton rest m ih =>
    rw [List.map_append, List.nodup_append] at h
    have hrest := ih h.1
    have hfresh : m.1 ∉ (sorted rest).map Prod.fst := by
      rw [(hrest.map Prod.fst).mem_iff]
      exact fun hm => h.2.2 m.1 hm m.1 (by simp) rfl
    have hsorted : sorted (rest ++ [m]) = insert m.1 m.2 (sorted rest) := by
      rw [sorted, List.foldl_append]
      rfl
    rw [hsorted]
    exact (insert_perm hfresh).trans ((hrest.cons m).trans (List.perm_append_singleton m rest).symm)

/-- An object names no member twice. -/
def Distinct : Json → Prop
  | .object members => (members.map Prod.fst).Nodup
  | _ => True

theorem mem_names_of_mem_present {members : List (String × Option Json)} {m : String × Json}
    (h : m ∈ present members) : ∃ n ∈ members, n.1 = m.1 := by
  obtain ⟨n, hn, hm⟩ := List.mem_filterMap.1 h
  obtain ⟨v, -, rfl⟩ := Option.map_eq_some_iff.1 hm
  exact ⟨n, hn, rfl⟩

theorem present_cons_none (k : String) (members : List (String × Option Json)) :
    present ((k, none) :: members) = present members := rfl

theorem present_cons_some (k : String) (v : Json) (members : List (String × Option Json)) :
    present ((k, some v) :: members) = (k, v) :: present members := rfl

/-- A member that is present keeps its place among ordered ones when the others are left out. -/
theorem present_insert_some {v : Json} {members : List (String × Option Json)} (h : Ordered members) :
    present (insert name (some v) members) = insert name v (present members) := by
  induction members with
  | nil => rfl
  | cons m rest ih =>
    obtain ⟨j, w⟩ := m
    obtain ⟨hhead, htail⟩ := List.pairwise_cons.1 h
    have first : ∀ k, (∀ n ∈ rest, k < n.1) → insert k v (present rest) = (k, v) :: present rest := by
      refine fun k hk => insert_of_lt fun m hm => ?_
      obtain ⟨n, hn, hname⟩ := mem_names_of_mem_present hm
      exact hname ▸ hk n hn
    rw [insert]
    split
    · rename_i hlt
      cases w with
      | none =>
        rw [present_cons_some, present_cons_none, first name fun n hn => String.lt_trans hlt (hhead n hn)]
      | some w => rw [present_cons_some, present_cons_some, insert, if_pos hlt]
    · rename_i hlt
      split
      · rename_i heq
        cases w with
        | none => rw [present_cons_some, present_cons_none, first name fun n hn => heq ▸ hhead n hn]
        | some w => rw [present_cons_some, present_cons_some, insert, if_neg hlt, if_pos heq]
      · rename_i hne
        cases w with
        | none => rw [present_cons_none, present_cons_none, ih htail]
        | some w => rw [present_cons_some, present_cons_some, insert, if_neg hlt, if_neg hne, ih htail]

/-- A new member that is left out leaves no trace. -/
theorem present_insert_none {members : List (String × Option Json)} (h : name ∉ members.map Prod.fst) :
    present (insert name none members) = present members := by
  induction members with
  | nil => rfl
  | cons m rest ih =>
    obtain ⟨j, w⟩ := m
    rw [List.map_cons, List.mem_cons, not_or] at h
    rw [insert]
    split
    · rfl
    · rw [if_neg h.1]
      cases w with
      | none => rw [present_cons_none, present_cons_none, ih h.2]
      | some w => rw [present_cons_some, present_cons_some, ih h.2]

/-- The induction is on the members that are still to be put in order. -/
theorem present_foldl_insert : ∀ (members acc : List (String × Option Json)), Ordered acc →
    (members.map Prod.fst).Nodup → (∀ m ∈ members, m.1 ∉ acc.map Prod.fst) →
    present (members.foldl (fun acc m => insert m.1 m.2 acc) acc) =
      (present members).foldl (fun acc m => insert m.1 m.2 acc) (present acc)
  | [], _, _, _, _ => rfl
  | (k, v) :: rest, acc, hacc, hn, hnew => by
    obtain ⟨hk, hrest⟩ := List.nodup_cons.1 hn
    have later : ∀ m ∈ rest, m.1 ∉ (insert k v acc).map Prod.fst := by
      intro m hm hmem
      rcases mem_names_insert.1 hmem with heq | hold
      · have hname : m.1 ∈ rest.map Prod.fst := List.mem_map_of_mem hm
        exact hk (heq ▸ hname)
      · exact hnew m (List.mem_cons_of_mem _ hm) hold
    rw [List.foldl_cons, present_foldl_insert rest (insert k v acc) hacc.insert hrest later]
    cases v with
    | none => rw [present_cons_none, present_insert_none (hnew (k, none) List.mem_cons_self)]
    | some v => rw [present_cons_some, List.foldl_cons, present_insert_some hacc]

/-- **Members of different names may be left out before or after they are put in order.** -/
theorem sorted_present {members : List (String × Option Json)} (h : (members.map Prod.fst).Nodup) :
    sorted (present members) = present (sorted members) :=
  (present_foldl_insert members [] .nil h fun _ _ hm => by cases hm).symm

end Provision.Json
