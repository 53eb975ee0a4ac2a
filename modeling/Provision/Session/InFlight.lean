import Provision.Session.Basic

/-!
# Several calls in flight

A computation on every element of a list, of which several may be under way at a time. The results come in the order of
the elements, whichever is finished first; the first element that failed decides the failure. Elements behind it that
are not finished by then are given up.
-/

namespace Provision.Run

variable {α β : Type}

/-- An element that was taken up: not served yet, or its result. -/
inductive Slot (α β : Type) where
  | waiting (a : α)
  | done (b : Except Failure β)

/-- The work that a slot still needs: to be served, and to be handed on. -/
def Slot.work : Slot α β → Nat
  | .waiting _ => 2
  | .done _ => 1

/-- The work that slots still need. -/
def workOf : List (Slot α β) → Nat
  | [] => 0
  | s :: rest => s.work + workOf rest

/-- The work that remains for slots and elements. -/
def remaining (slots : List (Slot α β)) (todo : List α) : Nat := workOf slots + 3 * todo.length

/-- Serves the waiting slot with `index` waiting ones before it, or the last one. -/
def serve (f : α → Run β) : Nat → List (Slot α β) → Session → List (Slot α β) × Session
  | _, [], s => ([], s)
  | index, .done b :: rest, s => (.done b :: (serve f index rest s).1, (serve f index rest s).2)
  | 0, .waiting a :: rest, s => (.done (f a s).1 :: rest, (f a s).2)
  | index + 1, .waiting a :: rest, s =>
    if rest.any fun
      | .waiting _ => true
      | .done _ => false
    then (.waiting a :: (serve f index rest s).1, (serve f index rest s).2)
    else (.done (f a s).1 :: rest, (f a s).2)

theorem work_serve_le (f : α → Run β) (index : Nat) (slots : List (Slot α β)) (s : Session) :
    workOf (serve f index slots s).1 ≤ workOf slots := by
  fun_induction serve f index slots s with
  | case1 => exact Nat.le_refl _
  | case2 index b rest s ih => simp only [workOf]; omega
  | case3 a rest s => simp only [workOf, Slot.work]; omega
  | case4 index a rest s h ih => simp only [workOf]; omega
  | case5 index a rest s h => simp only [workOf, Slot.work]; omega

theorem work_serve_lt (f : α → Run β) (index : Nat) {slots : List (Slot α β)} (h : ∃ a, .waiting a ∈ slots)
    (s : Session) : workOf (serve f index slots s).1 < workOf slots := by
  fun_induction serve f index slots s with
  | case1 => simp at h
  | case2 index b rest s ih =>
    have := ih (by simpa using h)
    simp only [workOf]; omega
  | case3 a rest s => simp only [workOf, Slot.work]; omega
  | case4 index c rest s hw ih =>
    obtain ⟨x, hx, hp⟩ := List.any_eq_true.1 hw
    cases x with
    | done => simp at hp
    | waiting d =>
      have := ih ⟨d, hx⟩
      simp only [workOf]; omega
  | case5 index a rest s h => simp only [workOf, Slot.work]; omega

/-- How many elements are under way at a time. -/
def width : Nat := 4

/-- Takes elements up as long as there is room. -/
def takeUp (slots : List (Slot α β)) (todo : List α) : List (Slot α β) × List α :=
  (slots ++ (todo.take (width - slots.length)).map .waiting, todo.drop (width - slots.length))

theorem workOf_waiting (todo : List α) : workOf (todo.map (.waiting · : α → Slot α β)) = 2 * todo.length := by
  induction todo with
  | nil => rfl
  | cons a r ih => simp only [List.map_cons, workOf, Slot.work, List.length_cons, ih]; omega

theorem workOf_append (a b : List (Slot α β)) : workOf (a ++ b) = workOf a + workOf b := by
  induction a with
  | nil => simp [workOf]
  | cons x r ih => simp only [List.cons_append, workOf, ih]; omega

theorem remaining_takeUp_le (slots : List (Slot α β)) (todo : List α) :
    remaining (takeUp slots todo).1 (takeUp slots todo).2 ≤ remaining slots todo := by
  simp only [remaining, takeUp, workOf_append, workOf_waiting, List.length_take,
    List.length_drop]
  omega

theorem waiting_mem_takeUp {a : α} {slots : List (Slot α β)} (todo : List α) (h : .waiting a ∈ slots) :
    .waiting a ∈ (takeUp slots todo).1 := List.mem_append_left _ h

/-- The results of slots and elements, in their order. The slot at the front is handed on when it is done; until then
one waiting slot after the other is served, as the surroundings choose. -/
def results (out : Surroundings) (f : α → Run β) (slots : List (Slot α β)) (todo : List α) (s : Session) :
    Except Failure (List β) × Session :=
  match slots, todo with
  | [], [] => (.ok [], s)
  | .done (.error e) :: _, _ => (.error e, s)
  | .done (.ok b) :: rest, todo =>
    match results out f rest todo s with
    | (.ok bs, s) => (.ok (b :: bs), s)
    | failed => failed
  | [], a :: todo => results out f [.waiting a] todo s
  | .waiting a :: rest, todo =>
    let taken := takeUp (.waiting a :: rest) todo
    let served := serve f (out.pick s.exchanges) taken.1 s
    results out f served.1 taken.2 served.2
termination_by remaining slots todo
decreasing_by
  · simp only [remaining, workOf, Slot.work]; omega
  · simp only [remaining, workOf, Slot.work, List.length_cons]; omega
  · have h := work_serve_lt f (out.pick s.exchanges)
      ⟨a, waiting_mem_takeUp todo (List.mem_cons_self (l := rest))⟩ s
    have := remaining_takeUp_le (.waiting a :: rest) todo
    simp only [remaining] at this ⊢
    exact Nat.lt_of_lt_of_le (Nat.add_lt_add_right h _) this

/-- The results of a computation on every element of a list. -/
def inFlight (out : Surroundings) (f : α → Run β) (elements : List α) : Run (List β) := results out f [] elements

end Provision.Run
