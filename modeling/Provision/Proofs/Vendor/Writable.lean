import Provision.Proofs.Vendor.Calls

/-!
# Calls that are sent

A client of which the requests can be written sends one in every attempt. So a call whose answer promises nothing of
another attempt takes one exchange (`Provider.retried_of_asked`).
-/

namespace Provision

/-- A provider that sends everything to one address, where a vendor answers as a function says. Of the calls in flight
it is always one of the same position that is served next. -/
def Provider.plain (reply : List Exchange → Posting → Reply) (position : Nat := 0) : Provider where
  client := .plain
  out := ⟨0, reply, fun _ _ => 0, fun _ => .none, .steady, fun _ => position⟩

/-- Requests of a client that can write are never prevented. -/
theorem Client.Writable.not_unwritten {p : Provider} (h : p.client.Writable) {action : String}
    (ha : Client.isHeaderValue action = true) {product : Product} (e : Failure) : ¬p.Unwritten product action e := by
  intro hno
  obtain ⟨x, hx⟩ := h.posting ha product .null 0
  rw [hno] at hx
  cases hx

/-! ## Calls -/

theorem Run.retried_of_final {α : Type} {act : Run α} {s t : Session} {r : Except Failure α} (h : act s = (r, t))
    (final : ¬Transient r) (out : Surroundings) (b : Budget) (operation : String) :
    retried out b operation act s = (r, t) := by
  rw [retried, attempts, h]
  cases r with
  | ok a => rfl
  | error e => exact if_neg fun he => final ⟨e, rfl, he⟩

/-- An attempt of a client that can be written takes one exchange. -/
theorem Provider.invoke_of_asked {α : Type} {p : Provider} (h : p.client.Writable) {action : String}
    (ha : Client.isHeaderValue action = true) {s : Session} {answer : Json.Record α} {r : Except Failure α}
    {body : Json} (told : ∀ x : Posting, (⟨x, p.out.reply s.exchanges x⟩ : Exchange).Asks action body →
      (⟨x, p.out.reply s.exchanges x⟩ : Exchange).outcome answer = r) (product : Product) :
    ∃ x t, x.Asks action body ∧ x.outcome answer = r ∧ p.invoke product action body answer s = (r, t) ∧
      t.exchanges = x :: s.exchanges := by
  obtain ⟨x, hx⟩ := h.posting ha product body ((p.paced action s).second p.out)
  obtain ⟨hr, he⟩ := Provider.invoke_of_posting answer hx
  have hasks := Client.asks_of_posting hx (p.out.reply s.exchanges x)
  rw [told x hasks] at hr
  exact ⟨_, (p.invoke product action body answer s).2, hasks, told x hasks, Prod.ext hr rfl, he⟩

/-- **A call of a client that can be written takes one exchange if its answer promises nothing of another attempt.** -/
theorem Provider.retried_of_asked {α : Type} {p : Provider} (h : p.client.Writable) {action : String}
    (ha : Client.isHeaderValue action = true) {s : Session} {answer : Json.Record α} {r : Except Failure α}
    {body : Json} (told : ∀ x : Posting, (⟨x, p.out.reply s.exchanges x⟩ : Exchange).Asks action body →
      (⟨x, p.out.reply s.exchanges x⟩ : Exchange).outcome answer = r)
    (final : ¬Transient r) (product : Product) (b : Budget) (operation : String) :
    ∃ x t, x.Asks action body ∧ x.outcome answer = r ∧
      Run.retried p.out b operation (p.invoke product action body answer) s = (r, t) ∧
      t.exchanges = x :: s.exchanges := by
  obtain ⟨x, t, hasks, hout, hr, he⟩ := invoke_of_asked h ha told product
  exact ⟨x, t, hasks, hout, Run.retried_of_final hr final p.out b operation, he⟩

/-- The same if the answer depends on the action only. -/
theorem Provider.retried_of_writable {α : Type} {p : Provider} (h : p.client.Writable) {action : String}
    (ha : Client.isHeaderValue action = true) {s : Session} {answer : Json.Record α} {r : Except Failure α}
    (told : ∀ x : Posting, x.action = action → (⟨x, p.out.reply s.exchanges x⟩ : Exchange).outcome answer = r)
    (final : ¬Transient r) (product : Product) (body : Json) (b : Budget) (operation : String) :
    ∃ x t, x.Asks action body ∧ x.outcome answer = r ∧
      Run.retried p.out b operation (p.invoke product action body answer) s = (r, t) ∧
      t.exchanges = x :: s.exchanges :=
  retried_of_asked h ha (fun x hx => told x hx.1) final product b operation

/-! ## A vendor that always says the same -/

namespace Provider

/-- A vendor that gives the same answer to every request. -/
def saying (text : String) : Provider := plain fun _ _ => .answer 200 text

theorem retried_of_saying {α : Type} {text action : String} {answer : Json.Record α} {a : α}
    (ha : Client.isHeaderValue action = true)
    (told : ∀ x : Posting, (⟨x, .answer 200 text⟩ : Exchange).outcome answer = .ok a) (product : Product) (body : Json)
    (b : Budget) (operation : String) (s : Session) :
    ∃ x t, x.Asks action body ∧ x.outcome answer = .ok a ∧
      Run.retried (saying text).out b operation ((saying text).invoke product action body answer) s = (.ok a, t) ∧
      t.exchanges = x :: s.exchanges :=
  retried_of_writable Client.plain_writable ha (fun x _ => told x) (not_transient_ok a) product body b operation

end Provider

end Provision
