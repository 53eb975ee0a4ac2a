import Provision.Proofs.Session.Along

/-!
# Computations that leave the files alone

Whatever is asked of the vendor, however often and how much at a time, leaves the files as they are
(`Run.KeepsFiles`). There is one rule for each way in which computations are put together, and the calls of actions
follow from the rules (`Provider.invoke_keepsFiles`).
-/

namespace Provision

/-- The files have not changed. -/
def Session.SameFiles (s t : Session) : Prop := t.files = s.files

instance : IsPreorder Session Session.SameFiles where
  refl _ := rfl
  trans _ _ _ h h' := Eq.trans h' h

namespace Run

variable {α β : Type} {x : Run α} {f : α → Run β}

/-- **From every session, a computation passes on the files as they are.** -/
def KeepsFiles (act : Run α) : Prop := ∀ s, (act s).2.files = s.files

theorem keepsFiles_iff : x.KeepsFiles ↔ x.Along Session.SameFiles := Iff.rfl

/-- Neither pauses nor lines of the log change files. -/
theorem waits_sameFiles (operation : String) : Waits Session.SameFiles operation where
  notBefore _ _ := rfl
  later _ _ := rfl
  pause _ _ := rfl
  again _ _ _ _ _ := rfl
  exhausted _ _ _ _ := rfl

theorem keepsFiles_ofExcept (r : Except Failure α) : (ofExcept r).KeepsFiles :=
  keepsFiles_iff.2 (along_ofExcept r)

theorem KeepsFiles.bind (hx : x.KeepsFiles) (hf : ∀ a, (f a).KeepsFiles) : (x >>= f).KeepsFiles :=
  keepsFiles_iff.2 (Along.bind (keepsFiles_iff.1 hx) fun a => keepsFiles_iff.1 (hf a))

theorem KeepsFiles.retried (hx : x.KeepsFiles) (out : Surroundings) (b : Budget) (operation : String) :
    (retried out b operation x).KeepsFiles :=
  keepsFiles_iff.2 (Along.retried (keepsFiles_iff.1 hx) (waits_sameFiles operation) out b)

theorem keepsFiles_inFlight (hf : ∀ a, (f a).KeepsFiles) (out : Surroundings) (elements : List α) :
    (inFlight out f elements).KeepsFiles :=
  keepsFiles_iff.2 (Along.inFlight (fun a => keepsFiles_iff.1 (hf a)) out elements)

end Run

/-! ## Calls of actions -/

namespace Provider

variable {α : Type} (p : Provider)

theorem converses_sameFiles : p.Converses Session.SameFiles where
  pace _ _ := rfl
  send x s := by
    unfold Run.send
    show Session.SameFiles s _
    cases p.out.reply s.exchanges x <;> rfl
  status _ _ _ := rfl

theorem invoke_keepsFiles (product : Product) (action : String) (body : Json) (answer : Json.Record α) :
    (p.invoke product action body answer).KeepsFiles :=
  Run.keepsFiles_iff.2 (p.converses_sameFiles.invoke (fun _ => rfl) fun _ _ _ _ => rfl)

theorem ask_keepsFiles {act : Run α} (h : act.KeepsFiles) (operation : String) : (p.ask operation act).KeepsFiles :=
  h.retried p.out p.read operation

end Provider

end Provision
