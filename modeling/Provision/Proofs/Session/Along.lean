import Mathlib.Order.Defs.Unbundled
import Provision.Proofs.Session.InFlight
import Provision.Proofs.Vendor.Calls
import Provision.Vendor.Groups

/-!
# Computations along a relation

A computation goes along a relation between sessions if every session in which it begins is related to the one in which
it ends (`Run.Along`). For a preorder there is one rule for each way in which computations are put together: one after
the other, attempted again (`Run.Along.retried`), several in flight (`Run.Along.inFlight`), and the calls of actions
(`Provider.Converses.invoke`).
-/

namespace Provision

namespace Run

variable {α β : Type} {R : Session → Session → Prop} {x : Run α} {f : α → Run β}

/-- **Every session is related to the one that a computation passes on from it.** -/
def Along (R : Session → Session → Prop) (act : Run α) : Prop := ∀ s, R s (act s).2

/-- The relation holds for a pause, and for the lines about attempts of an operation. -/
structure Waits (R : Session → Session → Prop) (operation : String) : Prop where
  notBefore : ∀ s time, R s (s.notBefore time)
  later : ∀ s span, R s (s.later span)
  pause : ∀ s span, R s (s.pause span)
  again : ∀ s number e pause, e.retryable = true → R s (s.logged (again operation number e pause))
  exhausted : ∀ s number e, e.retryable = true → R s (s.logged (exhausted operation number e))

variable [IsPreorder Session R]

theorem along_ofExcept (r : Except Failure α) : (ofExcept r).Along R := fun s => refl_of R s

theorem along_pure (a : α) : (pure a : Run α).Along R := fun s => refl_of R s

theorem along_fail (e : Failure) : (fail e : Run α).Along R := fun s => refl_of R s

theorem along_look (g : Session → α) : (look g).Along R := fun s => refl_of R s

theorem Along.bind (hx : x.Along R) (hf : ∀ a, (f a).Along R) : (x >>= f).Along R := by
  intro s
  have hfirst := hx s
  rcases h : x s with ⟨r, t⟩
  rw [h] at hfirst
  cases r with
  | error e =>
    rw [bind_error h]
    exact hfirst
  | ok a =>
    rw [bind_ok h]
    exact trans_of R hfirst (hf a t)

/-! ## Attempts -/

/-- The induction is on the attempts. -/
theorem Along.attempts {operation : String} (hx : x.Along R) (hw : Waits R operation) (out : Surroundings) (b : Budget)
    (start number : Nat) (delay : Rat) (s : Session) :
    R s (attempts out b operation x start number delay s).2 := by
  fun_induction Run.attempts out b operation x start number delay s with
  | case1 number delay s a t hs =>
    have hfirst := hx s
    rwa [hs] at hfirst
  | case2 number delay s e t hs he u pause late =>
    have hfirst := hx s
    rw [hs] at hfirst
    have hjudged : R t u := trans_of R (hw.notBefore t _) (hw.later _ _)
    exact trans_of R hfirst (trans_of R hjudged (hw.exhausted u number e he))
  | case3 number delay s e t hs he u pause late ih =>
    have hfirst := hx s
    rw [hs] at hfirst
    have hjudged : R t u := trans_of R (hw.notBefore t _) (hw.later _ _)
    have hnext := trans_of R (hw.again u number e pause he) (hw.pause _ pause)
    exact trans_of R hfirst (trans_of R hjudged (trans_of R hnext ih))
  | case4 number delay s e t hs he =>
    have hfirst := hx s
    rwa [hs] at hfirst

theorem Along.retried {operation : String} (hx : x.Along R) (hw : Waits R operation) (out : Surroundings)
    (b : Budget) : (retried out b operation x).Along R :=
  fun s => hx.attempts hw out b s.now 1 b.initialDelay s

/-! ## Several in flight -/

theorem along_serve (hf : ∀ a, (f a).Along R) (index : Nat) (slots : List (Slot α β)) (s : Session) :
    R s (serve f index slots s).2 := by
  fun_induction serve f index slots s with
  | case1 => exact refl_of R _
  | case2 index b rest s ih => exact ih
  | case3 a rest s => exact hf a s
  | case4 index a rest s hw ih => exact ih
  | case5 index a rest s hw => exact hf a s

theorem along_results (hf : ∀ a, (f a).Along R) (out : Surroundings) (slots : List (Slot α β)) (todo : List α)
    (s : Session) : R s (results out f slots todo s).2 := by
  fun_induction results out f slots todo s with
  | case1 => exact refl_of R _
  | case2 => exact refl_of R _
  | case3 s b rest todo bs t hr ih => rwa [hr] at ih
  | case4 s b rest todo hr ih => exact ih
  | case5 s a todo ih => exact ih
  | case6 s a rest todo taken served ih => exact trans_of R (along_serve hf _ _ s) ih

theorem Along.inFlight (hf : ∀ a, (f a).Along R) (out : Surroundings) (elements : List α) :
    (inFlight out f elements).Along R :=
  fun s => along_results hf out [] elements s

end Run

/-! ## Calls of actions -/

/-- The relation holds for a wait for a slot, an exchange, and the line about a status that is no success. -/
structure Provider.Converses (R : Session → Session → Prop) (p : Provider) : Prop where
  pace : ∀ action, (Run.pace p.client.rates action).Along R
  send : ∀ x, (Run.send p.out x).Along R
  status : ∀ s status text,
    R s (s.logged ⟨.error, "API error: " ++ Status.text status ++ " - " ++ Text.excerptText text, []⟩)

namespace Provider.Converses

variable {α : Type} {R : Session → Session → Prop} [IsPreorder Session R] {p : Provider} (h : p.Converses R)

include h

theorem readAnswer (action : String) (status : Nat) (text : String) :
    (Client.readAnswer action status text).Along R := by
  intro s
  unfold Client.readAnswer
  split
  · cases Json.parse? text with
    | none => exact refl_of R s
    | some envelope => exact refl_of R s
  · exact h.status s status text

theorem call (product : Product) (action : String) (body : Json) :
    (p.client.call p.out product action body).Along R :=
  (Run.along_look _).bind fun _ => (Run.along_ofExcept _).bind fun x =>
    (h.send x).bind fun answer => h.readAnswer action answer.1 answer.2

/-- **A call of an action goes along a relation** that holds for its one line. -/
theorem invoke {product : Product} {action : String} {body : Json} {answer : Json.Record α}
    (success : ∀ s, R s (s.logged (successLine action body)))
    (failure : ∀ s e, (p.invoke product action body answer s).1 = .error e →
      ∀ t, R t (t.logged (failureLine action body e))) : (p.invoke product action body answer).Along R := by
  intro s
  have hpace : R s (p.paced action s) := h.pace action s
  have hcall := ((h.call product action body).bind fun c => Run.along_ofExcept (readContent action answer c))
    (p.paced action s)
  have hfailure := failure s
  rw [invoke_apply] at hfailure ⊢
  rcases hr : (p.client.call p.out product action body >>= fun c => Run.ofExcept (readContent action answer c))
    (p.paced action s) with ⟨e | a, t⟩ <;> rw [hr] at hcall
  · rw [hr] at hfailure
    exact trans_of R hpace (trans_of R hcall (hfailure e rfl t))
  · exact trans_of R hpace (trans_of R hcall (success t))

end Provider.Converses

/-- Several pages, if each page goes along the relation. -/
theorem Provider.along_groupsFrom {R : Session → Session → Prop} [IsPreorder Session R] {p : Provider}
    {f : Vendor.GroupFilter} (hpage : ∀ offset, (p.groupPage f offset).Along R) (offset : Nat) :
    (p.groupsFrom f offset).Along R := by
  intro s
  fun_induction Provider.groupsFrom p f offset s with
  | case1 offset s e t hs =>
    have hfirst := hpage offset s
    rwa [hs] at hfirst
  | case2 offset s page t hs hfull e u hrest ih =>
    have hfirst := hpage offset s
    rw [hs] at hfirst
    rw [hrest] at ih
    exact trans_of R hfirst ih
  | case3 offset s page t hs hfull rest u hrest ih =>
    have hfirst := hpage offset s
    rw [hs] at hfirst
    rw [hrest] at ih
    exact trans_of R hfirst ih
  | case4 offset s page t hs hlast =>
    have hfirst := hpage offset s
    rwa [hs] at hfirst

end Provision
