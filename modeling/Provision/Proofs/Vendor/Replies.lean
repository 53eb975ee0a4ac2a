import Provision.Proofs.Session.Along

/-!
# What the vendor replied

The exchanges of a session are the program's own record. Main statement: whatever is put together from calls and
attempts records for each request what the surroundings replied to it, after the exchanges before it
(`Session.Hears`, `Provider.hears`). A condition on all replies to requests of an action is thus one on all exchanges
of it (`Surroundings.Replied.forall_mem`).
-/

namespace Provision

/-- **Each exchange holds what came back for its request**, after the exchanges before it; the latest comes first. -/
def Surroundings.Replied (out : Surroundings) (before : List Exchange) : List Exchange → Prop
  | [] => True
  | x :: xs => x.reply = out.reply (xs ++ before) x.posting ∧ out.Replied before xs

namespace Surroundings.Replied

variable {out : Surroundings} {before later earlier xs : List Exchange}

theorem append (h : out.Replied before earlier) : ∀ {later : List Exchange}, out.Replied (earlier ++ before) later →
    out.Replied before (later ++ earlier)
  | [], _ => h
  | x :: xs, ⟨hx, hxs⟩ => by
    refine ⟨?_, append h hxs⟩
    rw [hx, ← List.append_assoc]
    rfl

/-- What holds of every reply that may come holds of every exchange. -/
theorem forall_mem {P : Exchange → Prop} (h : out.Replied before xs)
    (hP : ∀ later posting, P ⟨posting, out.reply (later ++ before) posting⟩) : ∀ x ∈ xs, P x := by
  induction xs with
  | nil => exact fun x hx => by cases hx
  | cons y ys ih =>
    obtain ⟨hy, hys⟩ := h
    intro x hx
    rcases List.mem_cons.1 hx with rfl | hx
    · have hP := hP ys x.posting
      rwa [← hy] at hP
    · exact ih hys x hx

end Surroundings.Replied

/-- **A session goes on in another one, and what was exchanged in between is what was replied.** -/
def Session.Hears (out : Surroundings) (s t : Session) : Prop :=
  ∃ xs, t.exchanges = xs ++ s.exchanges ∧ out.Replied s.exchanges xs

namespace Session

variable {out : Surroundings} {s t u : Session}

theorem hears_of_eq (h : t.exchanges = s.exchanges) : s.Hears out t := ⟨[], h, trivial⟩

theorem Hears.trans (h : s.Hears out t) (h' : t.Hears out u) : s.Hears out u := by
  obtain ⟨earlier, hearlier, hfirst⟩ := h
  obtain ⟨later, hlater, hsecond⟩ := h'
  rw [hearlier] at hsecond
  exact ⟨later ++ earlier, by rw [hlater, hearlier, List.append_assoc], hfirst.append hsecond⟩

instance : IsPreorder Session (Session.Hears out) where
  refl _ := hears_of_eq rfl
  trans _ _ _ := Hears.trans

/-- The exchanges in between are known. -/
theorem Hears.replied {xs : List Exchange} (h : s.Hears out t) (hxs : t.exchanges = xs ++ s.exchanges) :
    out.Replied s.exchanges xs := by
  obtain ⟨ys, hys, hreplied⟩ := h
  rwa [List.append_cancel_right (hxs.symm.trans hys)]

end Session

/-- Neither time that passes nor lines of the log are exchanges. -/
theorem Run.waits_hears (out : Surroundings) (operation : String) : Waits (Session.Hears out) operation where
  notBefore _ _ := Session.hears_of_eq rfl
  later _ _ := Session.hears_of_eq rfl
  pause _ _ := Session.hears_of_eq rfl
  again _ _ _ _ _ := Session.hears_of_eq rfl
  exhausted _ _ _ _ := Session.hears_of_eq rfl

namespace Provider

/-- **A request is recorded with what was replied to it.** -/
theorem hears (p : Provider) : p.Converses (Session.Hears p.out) where
  pace _ _ := Session.hears_of_eq rfl
  send x s := by
    refine ⟨[⟨x, p.out.reply s.exchanges x⟩], ?_, rfl, trivial⟩
    rw [Run.send]
    cases p.out.reply s.exchanges x <;> rfl
  status _ _ _ := Session.hears_of_eq rfl

variable {α : Type}

theorem invoke_hears (p : Provider) (product : Product) (action : String) (body : Json) (answer : Json.Record α) :
    (p.invoke product action body answer).Along (Session.Hears p.out) :=
  p.hears.invoke (fun _ => Session.hears_of_eq rfl) fun _ _ _ _ => Session.hears_of_eq rfl

end Provider

end Provision
