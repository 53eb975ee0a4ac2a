import Provision.Time.Span

/-!
# Pacing

The calls of an action are spread evenly: each gets a slot, and the slots of one action keep a distance. A slot is the
time of the call, or the earliest time that keeps the distance to the slot before. Actions do not affect each other.
Main statements: a slot is not before the call (`le_reserve`), it keeps the distance to the slot before
(`reserve_reserve`), and the slots of other actions stay as they are (`lookup_reserve_of_ne`).
-/

namespace Provision

/-- How many calls a second are made of each action; zero sets no limit. -/
structure Rates where
  usual : Nat := 20
  overrides : List (String × Nat) := []
deriving DecidableEq, Repr, Inhabited

/-- The earliest times of the next slots of actions. -/
abbrev Slots := List (String × Nat)

namespace Rates

/-- The rate of an action. -/
def rate (r : Rates) (action : String) : Nat := (r.overrides.lookup action).getD r.usual

/-- The distance between two slots of an action, if it is limited. -/
def interval? (r : Rates) (action : String) : Option Nat :=
  if r.rate action = 0 then none else some (Time.second / r.rate action)

end Rates

namespace Slots

/-- The slot of a call at time `now`. -/
def next (slots : Slots) (action : String) (now : Nat) : Nat :=
  match slots.lookup action with
  | some earliest => max now earliest
  | none => now

/-- Slots after one was given that keeps the following ones at a distance. -/
def advance (slots : Slots) (action : String) (now interval : Nat) : Slots :=
  (action, slots.next action now + interval) :: slots.filter (·.1 != action)

/-- The slot of a call of an action at time `now`, and the slots after it. -/
def reserve (r : Rates) (slots : Slots) (action : String) (now : Nat) : Nat × Slots :=
  match r.interval? action with
  | none => (now, slots)
  | some interval => (slots.next action now, slots.advance action now interval)

/-- When a call that waits for a slot goes on: at the first whole millisecond that is not before it. -/
def wake (now slot : Nat) : Nat :=
  if slot ≤ now then now else (slot + (Time.millisecond - 1)) / Time.millisecond * Time.millisecond

variable {r : Rates} {slots : Slots} {action other : String} {now later : Nat}

theorem le_next : now ≤ slots.next action now := by
  unfold next
  split
  · exact Nat.le_max_left _ _
  · exact Nat.le_refl _

theorem le_reserve : now ≤ (reserve r slots action now).1 := by
  unfold reserve
  split
  · exact Nat.le_refl _
  · exact le_next

theorem next_advance {interval : Nat} :
    (slots.advance action now interval).next action later = max later (slots.next action now + interval) := by
  simp [advance, next]

theorem lookup_filter_of_ne (h : other ≠ action) :
    (slots.filter (·.1 != action)).lookup other = slots.lookup other := by
  induction slots with
  | nil => rfl
  | cons m rest ih =>
    obtain ⟨k, t⟩ := m
    by_cases hk : k = action
    · subst hk
      simpa [List.filter_cons, List.lookup_cons, beq_false_of_ne h] using ih
    · by_cases ho : other = k
      · simp [hk, ho]
      · simpa [List.filter_cons, hk, List.lookup_cons, beq_false_of_ne ho] using ih

theorem lookup_reserve_of_ne (h : other ≠ action) :
    (reserve r slots action now).2.lookup other = slots.lookup other := by
  unfold reserve
  split
  · rfl
  · simp only [advance, List.lookup_cons, beq_false_of_ne h]
    exact lookup_filter_of_ne h

/-- **The slot of the next call is the time of the call, or keeps the distance to the slot before.** -/
theorem reserve_reserve {interval : Nat} (h : r.interval? action = some interval) :
    (reserve r (reserve r slots action now).2 action later).1 =
      max later ((reserve r slots action now).1 + interval) := by
  simp only [reserve, h, next_advance]

theorem le_wake {slot : Nat} : slot ≤ wake now slot := by
  unfold wake
  split
  · assumption
  · have := Nat.div_add_mod (slot + (Time.millisecond - 1)) Time.millisecond
    have := Nat.mod_lt (slot + (Time.millisecond - 1)) (show 0 < Time.millisecond by decide)
    rw [Nat.mul_comm]
    omega

end Slots

end Provision
