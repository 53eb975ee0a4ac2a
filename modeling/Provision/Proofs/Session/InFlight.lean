import Mathlib.Data.List.Forall2
import Provision.Proofs.Session.Attempts
import Provision.Session.InFlight

/-!
# Results of several calls in flight

Whichever of the calls in flight is finished first, the results are those of calls that are made one by one: one for
each element and in their order, or the failure of the first element that fails (`InOrder`). The slots always stand for
elements in the order of the list (`Holds`), and neither serving one of them nor taking up others changes that. Main
statement: `inFlight_inOrder`.
-/

namespace Provision.Run

variable {α β : Type} {Q : α → Except Failure β → Prop} {f : α → Run β}

/-- **Results one by one**: an element `a` ends as `Q a` says. All elements have a result, in their order, or the first
one that has none decides the failure. -/
def InOrder (Q : α → Except Failure β → Prop) (elements : List α) : Except Failure (List β) → Prop
  | .ok results => List.Forall₂ (fun a b => Q a (.ok b)) elements results
  | .error e => ∃ before a after, elements = before ++ a :: after ∧ (∀ c ∈ before, ∃ b, Q c (.ok b)) ∧ Q a (.error e)

theorem InOrder.cons_ok {a : α} {b : β} {elements : List α} {results : List β} (h : Q a (.ok b))
    (hrest : InOrder Q elements (.ok results)) : InOrder Q (a :: elements) (.ok (b :: results)) := .cons h hrest

theorem InOrder.cons_error {a : α} {b : β} {elements : List α} {e : Failure} (h : Q a (.ok b))
    (hrest : InOrder Q elements (.error e)) : InOrder Q (a :: elements) (.error e) := by
  obtain ⟨before, c, after, rfl, hbefore, hc⟩ := hrest
  refine ⟨a :: before, c, after, rfl, fun d hd => ?_, hc⟩
  rcases List.mem_cons.1 hd with rfl | hd
  · exact ⟨b, h⟩
  · exact hbefore d hd

/-- Each result is that of an element. -/
theorem InOrder.exists_of_mem {elements : List α} {results : List β} {b : β} (h : InOrder Q elements (.ok results))
    (hb : b ∈ results) : ∃ a ∈ elements, Q a (.ok b) := by
  obtain ⟨i, hi, rfl⟩ := List.mem_iff_getElem.1 hb
  have hlength := List.Forall₂.length_eq h
  exact ⟨elements[i], List.getElem_mem _, List.Forall₂.get h (hlength ▸ hi) hi⟩

/-- If each element can end in one way only, so can the list. -/
theorem InOrder.eq_of_forall {F : α → Except Failure β} (hF : ∀ a r, Q a r → r = F a) {elements : List α}
    {r : Except Failure (List β)} (h : InOrder Q elements r) : r = elements.mapM F := by
  cases r with
  | ok results =>
    induction h with
    | nil => rfl
    | cons ha _ ih =>
      rw [List.mapM_cons, ← hF _ _ ha, ← ih]
      rfl
  | error e =>
    obtain ⟨before, a, after, rfl, hbefore, ha⟩ := h
    induction before with
    | nil =>
      rw [List.nil_append, List.mapM_cons, ← hF _ _ ha]
      rfl
    | cons c before ih =>
      obtain ⟨b, hb⟩ := hbefore c List.mem_cons_self
      rw [List.cons_append, List.mapM_cons, ← hF _ _ hb, ← ih fun d hd => hbefore d (List.mem_cons_of_mem c hd)]
      rfl

/-- An element and its slot. -/
inductive Holds (Q : α → Except Failure β → Prop) : α → Slot α β → Prop
  | waiting (a : α) : Holds Q a (.waiting a)
  | done {a : α} {r : Except Failure β} (h : Q a r) : Holds Q a (.done r)

/-- Serving a slot gives it the result of its element. -/
theorem holds_serve (hf : ∀ a s, Q a (f a s).1) (index : Nat) (slots : List (Slot α β)) (s : Session) :
    ∀ elements, List.Forall₂ (Holds Q) elements slots →
      List.Forall₂ (Holds Q) elements (serve f index slots s).1 := by
  fun_induction serve f index slots s with
  | case1 => exact fun _ h => h
  | case2 index b rest s ih =>
    intro elements h
    cases h with
    | cons hd hrest => exact .cons hd (ih _ hrest)
  | case3 a rest s =>
    intro elements h
    cases h with
    | cons hd hrest =>
      cases hd
      exact .cons (.done (hf a s)) hrest
  | case4 index a rest s hw ih =>
    intro elements h
    cases h with
    | cons hd hrest => exact .cons hd (ih _ hrest)
  | case5 index a rest s hw =>
    intro elements h
    cases h with
    | cons hd hrest =>
      cases hd
      exact .cons (.done (hf a s)) hrest

/-- Elements that are taken up move from the list to the slots. -/
theorem holds_takeUp {elements : List α} {slots : List (Slot α β)} (h : List.Forall₂ (Holds Q) elements slots)
    (todo : List α) : ∃ taken, List.Forall₂ (Holds Q) taken (takeUp slots todo).1 ∧
      taken ++ (takeUp slots todo).2 = elements ++ todo := by
  have hwaiting : ∀ as : List α, List.Forall₂ (Holds Q) as (as.map .waiting) := by
    intro as
    induction as with
    | nil => exact .nil
    | cons a as ih => exact .cons (.waiting a) ih
  refine ⟨elements ++ todo.take (width - slots.length), List.rel_append h (hwaiting _), ?_⟩
  rw [takeUp, List.append_assoc, List.take_append_drop]

/-- The results of slots and elements; the induction follows the steps by which they come about. -/
theorem results_inOrder (hf : ∀ a s, Q a (f a s).1) (out : Surroundings) (slots : List (Slot α β)) (todo : List α)
    (s : Session) : ∀ elements, List.Forall₂ (Holds Q) elements slots →
      InOrder Q (elements ++ todo) (results out f slots todo s).1 := by
  fun_induction results out f slots todo s with
  | case1 s =>
    intro elements h
    cases h
    exact .nil
  | case2 s e rest todo =>
    intro elements h
    cases h with
    | cons hd hrest =>
      cases hd with
      | done hQ => exact ⟨[], _, _, rfl, fun c hc => absurd hc (List.not_mem_nil), hQ⟩
  | case3 s b rest todo bs t hr ih =>
    intro elements h
    cases h with
    | cons hd hrest =>
      cases hd with
      | done hQ =>
        have hin := ih _ hrest
        rw [hr] at hin
        exact hin.cons_ok hQ
  | case4 s b rest todo hr ih =>
    intro elements h
    cases h with
    | cons hd hrest =>
      cases hd with
      | done hQ =>
        have hin := ih _ hrest
        rcases hfailed : results out f rest todo s with ⟨r, t⟩
        rw [hfailed] at hin
        cases r with
        | ok bs => exact absurd hfailed (hr bs t)
        | error e => exact hin.cons_error hQ
  | case5 s a todo ih =>
    intro elements h
    cases h
    exact ih [a] (.cons (.waiting a) .nil)
  | case6 s a rest todo taken served ih =>
    intro elements h
    obtain ⟨front, hfront, hsplit⟩ := holds_takeUp h todo
    rw [← hsplit]
    exact ih front (holds_serve hf _ _ _ front hfront)

/-- **Results of calls in flight are those of calls made one by one**, whichever of them is finished first. -/
theorem inFlight_inOrder (hf : ∀ a s, Q a (f a s).1) (out : Surroundings) (elements : List α) (s : Session) :
    InOrder Q elements (inFlight out f elements s).1 :=
  results_inOrder hf out [] elements s [] .nil

end Provision.Run
