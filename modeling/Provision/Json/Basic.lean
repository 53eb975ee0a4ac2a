import Provision.Number.Binary64

/-!
# JSON values

A number is an integer or a finite floating point number, and the two are never equal. The members of an object
are a list of names and values; the objects that the library reads and builds are ordered by name and name no
member twice (`Json.ofMembers`). Main statement: looking a name up after an insertion (`find_insert`).
-/

namespace Provision

/-- A number: written without a point and an exponent, or with one. -/
inductive Number where
  | int (value : Int)
  | float (value : Binary64)
deriving DecidableEq, Repr, Inhabited

/-- Equality of numbers of one kind. -/
def Number.same : Number → Number → Bool
  | .int a, .int b => a == b
  | .float a, .float b => a.same b
  | _, _ => false

@[simp] theorem Number.same_self (n : Number) : n.same n = true := by cases n <;> simp [Number.same]

/-- A JSON value. -/
inductive Json where
  | null
  | bool (value : Bool)
  | number (value : Number)
  | string (value : String)
  | array (items : List Json)
  | object (members : List (String × Json))
deriving Repr, Inhabited

namespace Json

/-- An integer as a value. -/
abbrev int (i : Int) : Json := .number (.int i)

/-! ## Equality -/

mutual

/-- Whether two values are equal, numbers as `Number.same` and objects member by member. -/
def same : Json → Json → Bool
  | .null, .null => true
  | .bool a, .bool b => a == b
  | .number a, .number b => a.same b
  | .string a, .string b => a == b
  | .array as, .array bs => sameItems as bs
  | .object as, .object bs => sameMembers as bs
  | _, _ => false

/-- Whether two lists of values are equal item by item. -/
def sameItems : List Json → List Json → Bool
  | [], [] => true
  | a :: as, b :: bs => same a b && sameItems as bs
  | _, _ => false

/-- Whether two lists of members are equal member by member. -/
def sameMembers : List (String × Json) → List (String × Json) → Bool
  | [], [] => true
  | (j, a) :: as, (k, b) :: bs => j == k && same a b && sameMembers as bs
  | _, _ => false

end

mutual

@[simp] theorem same_self : ∀ v : Json, same v v = true
  | .null | .bool _ | .number _ | .string _ => by simp [same]
  | .array items => by simp [same, sameItems_self items]
  | .object members => by simp [same, sameMembers_self members]

theorem sameItems_self : ∀ vs : List Json, sameItems vs vs = true
  | [] => rfl
  | v :: vs => by simp [sameItems, same_self v, sameItems_self vs]

theorem sameMembers_self : ∀ ms : List (String × Json), sameMembers ms ms = true
  | [] => rfl
  | (k, v) :: ms => by simp [sameMembers, same_self v, sameMembers_self ms]

end

/-! ## Members -/

/-- Puts a member at its place by name; an earlier one of the same name is replaced. -/
def insert {α : Type} (name : String) (value : α) : List (String × α) → List (String × α)
  | [] => [(name, value)]
  | (k, v) :: rest =>
    if name < k then (name, value) :: (k, v) :: rest
    else if name = k then (name, value) :: rest
    else (k, v) :: insert name value rest

/-- Members in order of their names; of two with one name the later one counts. -/
def sorted {α : Type} (members : List (String × α)) : List (String × α) :=
  members.foldl (fun acc m => insert m.1 m.2 acc) []

/-- The object with the given members. -/
def ofMembers (members : List (String × Json)) : Json := .object (sorted members)

/-- The value of the first member of a name. -/
def find {α : Type} (name : String) : List (String × α) → Option α
  | [] => none
  | (k, v) :: rest => if k = name then some v else find name rest

/-- The value of a member; only objects have any. -/
def get? (name : String) : Json → Option Json
  | .object members => find name members
  | _ => none

/-- The text of a string value. -/
def asString? : Json → Option String
  | .string s => some s
  | _ => none

/-- The text of a member, empty if there is no such text. -/
def textOf (name : String) (v : Json) : String := ((v.get? name).bind asString?).getD ""

/-- A text as a value, unless it is empty. -/
def nonEmpty? (s : String) : Option Json := if s = "" then none else some (.string s)

/-- Members that may be left out, of which the present ones are kept. -/
def present (members : List (String × Option Json)) : List (String × Json) :=
  members.filterMap fun m => m.2.map (m.1, ·)

theorem find_insert {α : Type} (name key : String) (value : α) (members : List (String × α)) :
    find key (insert name value members) = if name = key then some value else find key members := by
  induction members with
  | nil => rfl
  | cons m rest ih =>
    obtain ⟨k, v⟩ := m
    rw [insert]
    split
    · rfl
    · split
      · rename_i h
        subst h
        by_cases hk : name = key <;> simp [find, hk]
      · rename_i h
        by_cases hk : k = key
        · subst hk
          simp [find, h]
        · simp [find, hk, ih]

end Json

end Provision
