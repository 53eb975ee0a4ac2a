import Provision.Json.Mismatch
import Provision.Json.Scanner

/-!
# Reading values of a type

A reading turns a JSON value into a value of a type, or says why not; it also reads from a text as written, where the
first fault of the text counts. Records are read from an object by name, visiting its members in order, or from a list
by position; unknown members are ignored. Main statements: what a record reads from an object with one member more is
decided by that member's field alone (`Record.fill_cons`).
-/

namespace Provision.Json

/-- How a value of a type is read. -/
structure Reading (α : Type) where
  value : Json → Except Mismatch α
  source : Source → Except ReadFault α

namespace Reading

variable {α β : Type}

/-- A reading that looks at the head of a value only. -/
def ofHead (f : Head → Except Mismatch α) : Reading α where
  value v := f v.head
  source s := s.head.bind fun h => (f h).mapError .mismatch

/-- A reading followed by a function. -/
def map (f : α → β) (r : Reading α) : Reading β where
  value v := (r.value v).map f
  source s := (r.source s).map f

/-- Any text. -/
def text : Reading String :=
  ofHead fun
    | .string s => .ok s
    | found => .error (.kind found "a string")

/-- A truth value. -/
def bool : Reading Bool :=
  ofHead fun
    | .bool b => .ok b
    | found => .error (.kind found "a boolean")

/-- An integer of a range, which has a name. -/
def within (low high : Int) (name : String) : Reading Int :=
  ofHead fun
    | .number (.int i) => if low ≤ i ∧ i ≤ high then .ok i else .error (.range (.number (.int i)) name)
    | found => .error (.kind found name)

/-- An integer of 64 bits. -/
def int64 : Reading Int := within Text.Decimal.minInt64 Text.Decimal.maxInt64 "i64"

/-- A natural number of 64 bits. -/
def nat64 : Reading Nat := (within 0 Text.Decimal.maxNat64 "u64").map Int.toNat

/-- A natural number of 32 bits. -/
def nat32 : Reading Nat := (within 0 Text.Decimal.maxNat32 "u32").map Int.toNat

/-- Any value, nested at most `levels` deep if it is read from a text. -/
def any (levels : Nat) : Reading Json where
  value v := .ok v
  source s := match s.toJson levels with
    | some v => .ok v
    | none => .error .notJson

/-- Null, or a value of the type. -/
def option (r : Reading α) : Reading (Option α) where
  value v := match v with
    | .null => .ok none
    | v => (r.value v).map some
  source s := match s with
    | .null => .ok none
    | s => (r.source s).map some

/-- A list of values of the type. -/
def list (r : Reading α) : Reading (List α) where
  value v := match v with
    | .array items => items.mapM r.value
    | v => .error (.kind v.head "a sequence")
  source s := match s with
    | .array items closed => do
      let values ← items.mapM r.source
      if closed then .ok values else .error .notJson
    | s => s.head.bind fun h => .error (.mismatch (.kind h "a sequence"))

/-- An object with values of the type, under any names. -/
def table (r : Reading α) : Reading (List (String × α)) where
  value v := match v with
    | .object members => members.mapM fun m => (r.value m.2).map (m.1, ·)
    | v => .error (.kind v.head "a map")
  source s := match s with
    | .object members closed => do
      let values ← members.mapM fun m => (r.source m.2).map (m.1, ·)
      if closed then .ok values else .error .notJson
    | s => s.head.bind fun h => .error (.mismatch (.kind h "a map"))

end Reading

/-! ## Records -/

/-- What it means that a field is not there. -/
inductive Absence where
  /-- It keeps its value. -/
  | keeps
  /-- It keeps its value in an object, but a list has to reach it. -/
  | keepsByName
  /-- It has to be there. -/
  | refused
deriving DecidableEq, Repr

/-- A field of a record: its name, and how its value changes the record. -/
structure Record.Field (σ : Type) where
  name : String
  absence : Absence
  reading : Reading (σ → σ)

/-- A field that keeps its value when it is not there. -/
def Record.Field.keeping {σ α : Type} (name : String) (r : Reading α) (put : α → σ → σ) : Record.Field σ :=
  ⟨name, .keeps, r.map put⟩

/-- A field whose value is read, but not kept. -/
def Record.Field.checked {σ α : Type} (name : String) (r : Reading α) : Record.Field σ := .keeping name r fun _ x => x

/-- A record: its name in words, what it is before any field is read, and its fields in order. -/
structure Record (σ : Type) where
  title : String
  blank : σ
  fields : List (Record.Field σ)

namespace Record

variable {σ : Type}

/-- The field of a name. -/
def field? (r : Record σ) (name : String) : Option (Field σ) := r.fields.find? (·.name == name)

/-- What is expected of a list that is too short. -/
def wanted (r : Record σ) : String :=
  r.title ++ " with " ++ Text.Decimal.text r.fields.length ++ " elements"

/-- A field that had to be there and is not among the names. -/
def missing? (r : Record σ) (names : List String) : Option String :=
  (r.fields.find? fun f => f.absence == .refused && !names.contains f.name).map Field.name

/-- Reads the members of an object into a record, in their order. -/
def fill (r : Record σ) : σ → List (String × Json) → Except Mismatch σ
  | x, [] => .ok x
  | x, (k, v) :: rest =>
    match r.field? k with
    | none => fill r x rest
    | some f =>
      match f.reading.value v with
      | .ok put => fill r (put x) rest
      | .error e => .error e

/-- Reads the items of a list of `length` into the fields, by position. -/
def fillItems (r : Record σ) (length : Nat) : σ → List (Field σ) → List Json → Except Mismatch σ
  | x, [], [] => .ok x
  | _, [], _ :: _ => .error (.tooLong length)
  | x, f :: fields, [] =>
    if f.absence = .keeps then fillItems r length x fields [] else .error (.tooShort length r.wanted)
  | x, f :: fields, v :: rest =>
    match f.reading.value v with
    | .ok put => fillItems r length (put x) fields rest
    | .error e => .error e

/-- Reads a record from a value. -/
def ofValue (r : Record σ) : Json → Except Mismatch σ
  | .object members => do
    let x ← r.fill r.blank members
    match r.missing? (members.map (·.1)) with
    | some name => .error (.missing name)
    | none => .ok x
  | .array items => r.fillItems items.length r.blank r.fields items
  | v => .error (.kind v.head r.title)

/-- Reads members as written into a record; `seen` are the fields already read. -/
def fillSource (r : Record σ) (seen : List String) : σ → List (String × Source) → Except ReadFault σ
  | x, [] => .ok x
  | x, (k, s) :: rest =>
    match r.field? k with
    | none => if s.skippable then fillSource r seen x rest else .error .notJson
    | some f =>
      if seen.contains k then .error (.mismatch (.duplicate k))
      else
        match f.reading.source s with
        | .ok put => fillSource r (k :: seen) (put x) rest
        | .error e => .error e

/-- Reads items as written into the fields; `count` are already read. -/
def fillItemsSource (r : Record σ) (closed : Bool) (count : Nat) :
    σ → List (Field σ) → List Source → Except ReadFault σ
  | x, [], [] => if closed then .ok x else .error .notJson
  | _, [], _ :: _ => .error .notJson
  | x, f :: fields, [] =>
    if !closed then .error .notJson
    else if f.absence = .keeps then fillItemsSource r closed count x fields []
    else .error (.mismatch (.tooShort count r.wanted))
  | x, f :: fields, s :: rest =>
    match f.reading.source s with
    | .ok put => fillItemsSource r closed (count + 1) (put x) fields rest
    | .error e => .error e

/-- Reads a record from a text as written. -/
def ofSource (r : Record σ) : Source → Except ReadFault σ
  | .object members closed => do
    let x ← r.fillSource [] r.blank members
    if !closed then .error .notJson
    else
      match r.missing? (members.map (·.1)) with
      | some name => .error (.mismatch (.missing name))
      | none => .ok x
  | .array items closed => r.fillItemsSource closed 0 r.blank r.fields items
  | s => s.head.bind fun h => .error (.mismatch (.kind h r.title))

/-- A record as a reading. -/
def reading (r : Record σ) : Reading σ := ⟨r.ofValue, r.ofSource⟩

/-- Reads a record from a text that holds nothing else. -/
def ofText (r : Record σ) (text : String) : Except ReadFault σ := do
  let document := scan text.toList
  let x ← r.ofSource document.value
  if document.complete then .ok x else .error .notJson

theorem fill_cons (r : Record σ) (x : σ) (k : String) (v : Json) (rest : List (String × Json)) :
    r.fill x ((k, v) :: rest) =
      match r.field? k with
      | none => r.fill x rest
      | some f => (f.reading.value v).bind fun put => r.fill (put x) rest := by
  rw [fill]
  cases r.field? k with
  | none => rfl
  | some f =>
    dsimp only
    cases f.reading.value v <;> rfl

end Record

end Provision.Json
