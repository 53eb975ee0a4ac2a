import Provision.Failure
import Provision.Text.Segments

/-!
# Composite identities

The identity of a relation between resources is made of parts with a separator between each two. It reads back as
its parts only if none of them is empty or has a separator (`split?`). An identity that does not have as many parts as
are asked for is broken (`split`).
-/

namespace Provision.Identity

/-- What stands between two parts. -/
def separator : Char := '#'

/-- The identity made of parts. -/
def join (parts : List String) : String := String.ofList (Text.Segments.join separator (parts.map String.toList))

/-- The parts of an identity, if there are `count` of them and none is empty. -/
def split? (count : Nat) (id : String) : Option (List String) :=
  let parts := (Text.Segments.split separator id.toList).map String.ofList
  if parts.any (·.isEmpty) ∨ parts.length ≠ count then none else some parts

theorem length_of_split? {count : Nat} {id : String} {parts : List String} (h : split? count id = some parts) :
    parts.length = count := by
  simp only [split?] at h
  split at h
  · cases h
  · rename_i hall
    rw [not_or, Decidable.not_not] at hall
    exact Option.some.inj h ▸ hall.2

/-- As many texts as are asked for. -/
abbrev Parts (count : Nat) := { parts : List String // parts.length = count }

/-- The parts of an identity, which is broken if there are not `count` of them or one of them is empty. -/
def split (count : Nat) (id : String) : Except Failure (Parts count) :=
  match h : split? count id with
  | some parts => .ok ⟨parts, length_of_split? h⟩
  | none => .error (.brokenId id)

/-- The two parts of an identity. -/
def pair (id : String) : Except Failure (String × String) :=
  match split 2 id with
  | .ok ⟨[a, b], _⟩ => .ok (a, b)
  | .error e => .error e

end Provision.Identity
