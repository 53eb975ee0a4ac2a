import Mathlib.Data.List.Forall2
import Provision.Resource.Document

/-!
# Courses of steps

What can be done with a resource, one step after the other: on what is known of it (`Step`), or on its document
(`DocumentStep`). A course takes the steps of a list and keeps what each of them reports, what is known after it, and
the session (`course`). Main statements: what every step keeps, holds after every step of a course (`holds_of_course`),
and if the steps of two courses go hand in hand, then so do the courses (`course_paired`).
-/

namespace Provision

/-- A step in the life of a resource with configurations of type `α`. -/
inductive Step (α : Type) where
  | plan (desired : α)
  | create (config : α)
  | read
  | update (planned : α)
  | apply (desired : α)
  | delete
  | importFrom (id : String)
deriving Repr

/-- A step on the document of a resource. -/
inductive DocumentStep where
  | plan (desired : Json)
  | read
  | apply (desired : Json)
  | delete
  | importFrom (id : String)
deriving Repr

/-- How a step ended: its result, with the plan if one was asked for, and what is known after it. -/
structure Taken (σ : Type) where
  report : Except Failure (Option Plan)
  state : σ
  session : Session

namespace Taken

variable {α σ : Type}

/-- A step that changes what is known. -/
def ofOutcome (o : Outcome α) : Taken (ResourceState α) := ⟨o.result.map fun _ => none, o.state, o.session⟩

/-- A step on a document. -/
def ofDocument (o : DocumentOutcome) : Taken Document := ⟨o.result.map fun _ => none, o.document, o.session⟩

/-- A step that puts something else in the place of what is known, unless it fails. -/
def instead (known : σ) : Except Failure σ × Session → Taken σ
  | (.ok now, s) => ⟨.ok none, now, s⟩
  | (.error e, s) => ⟨.error e, known, s⟩

end Taken

namespace Resource

variable {α : Type}

/-- Takes a step. -/
def take (r : Resource α) (p : Provider) : Step α → ResourceState α → Session → Taken (ResourceState α)
  | .plan desired, st, s => ⟨(r.plan (some st) desired).map some, st, s⟩
  | .create config, st, s => .instead st (r.createFrom p config s)
  | .read, st, s => .ofOutcome (r.refresh p st s)
  | .update planned, st, s => .ofOutcome (r.updateTo p st planned s)
  | .apply desired, st, s => .ofOutcome (r.apply p st desired s)
  | .delete, st, s => .ofOutcome (r.remove p st s)
  | .importFrom id, st, s => .instead st (r.importFrom p id s)

/-- Takes a step on a document. -/
def takeDocument (r : Resource α) (p : Provider) : DocumentStep → Document → Session → Taken Document
  | .plan desired, d, s => ⟨(r.planDocument (some d) desired).map some, d, s⟩
  | .read, d, s => .ofDocument (r.readDocument p d s)
  | .apply desired, d, s => .ofDocument (r.applyDocument p d desired s)
  | .delete, d, s => .ofDocument (r.deleteDocument p d s)
  | .importFrom id, d, s => .instead d (r.importDocument p id s)

end Resource

section Course

variable {ι κ σ τ : Type}

/-- **The steps of a list, one after the other.** -/
def course (take : ι → σ → Session → Taken σ) : List ι → σ → Session → List (Taken σ)
  | [], _, _ => []
  | x :: rest, st, s => take x st s :: course take rest (take x st s).state (take x st s).session

variable {take : ι → σ → Session → Taken σ} {take' : κ → τ → Session → Taken τ}

/-- **What every step keeps, holds after every step of a course.** -/
theorem holds_of_course {I : σ → Prop} : ∀ {steps : List ι} {st : σ} {s : Session},
    (∀ x ∈ steps, ∀ st s, I st → I (take x st s).state) → I st → ∀ t ∈ course take steps st s, I t.state
  | [], _, _, _, _, t, ht => by cases ht
  | x :: rest, st, s, hstep, hst, t, ht => by
    have hx : I (take x st s).state := hstep x List.mem_cons_self st s hst
    rcases List.mem_cons.1 ht with rfl | ht
    · exact hx
    · exact holds_of_course (fun y hy => hstep y (List.mem_cons_of_mem x hy)) hx t ht

/-- Two steps report the same, and lead to states and sessions in relations. -/
structure Taken.Paired (S : Session → Session → Prop) (R : σ → τ → Prop) (x : Taken σ) (y : Taken τ) : Prop where
  report : x.report = y.report
  session : S x.session y.session
  state : R x.state y.state

/-- **If the steps of two courses go hand in hand, then so do the courses**, each in its sessions. -/
theorem course_paired {S : Session → Session → Prop} {M : ι → κ → Prop} {R : σ → τ → Prop}
    (hstep : ∀ x y st ts s t, M x y → R st ts → S s t → (take x st s).Paired S R (take' y ts t)) {xs : List ι}
    {ys : List κ} (h : List.Forall₂ M xs ys) : ∀ {st : σ} {ts : τ} {s t : Session}, R st ts → S s t →
      List.Forall₂ (Taken.Paired S R) (course take xs st s) (course take' ys ts t) := by
  induction h with
  | nil => exact fun _ _ => .nil
  | cons hxy _ ih =>
    intro st ts s t hR hS
    have hpaired := hstep _ _ st ts s t hxy hR hS
    exact .cons hpaired (ih hpaired.state hpaired.session)

/-- Two steps report the same, end in the same session, and lead to states in a relation. -/
structure Taken.Alike (R : σ → τ → Prop) (x : Taken σ) (y : Taken τ) : Prop where
  report : x.report = y.report
  session : x.session = y.session
  state : R x.state y.state

/-- The same for courses in one session. -/
theorem course_alike {M : ι → κ → Prop} {R : σ → τ → Prop}
    (hstep : ∀ x y st ts s, M x y → R st ts → (take x st s).Alike R (take' y ts s)) {xs : List ι} {ys : List κ}
    (h : List.Forall₂ M xs ys) {st : σ} {ts : τ} {s : Session} (hR : R st ts) :
    List.Forall₂ (Taken.Alike R) (course take xs st s) (course take' ys ts s) := by
  have hpaired : List.Forall₂ (Taken.Paired Eq R) (course take xs st s) (course take' ys ts s) := by
    refine course_paired (fun x y st ts s t hxy hR hst => ?_) h hR rfl
    obtain rfl := hst
    have halike := hstep x y st ts s hxy hR
    exact ⟨halike.report, halike.session, halike.state⟩
  exact hpaired.imp fun _ _ h => ⟨h.report, h.session, h.state⟩

end Course

end Provision
