import Provision.Proofs.Session.SideBySide
import Provision.Proofs.Vendor.Writable

/-!
# Calls that carry a secret

The password of an account is sent in one member of the body of one action. Two requests are alike if they are the same
but for that member and the signature over the body (`Posting.Alike`). Whether a request can be written does not depend
on its body (`Client.posting_cases`), the log does not show the member (`Provider.shownBody_alike`), and a vendor that
does not look at it answers both requests in the same way (`Surroundings.Indifferent`). Main statement: calls with
alike bodies end in the same way, and leave the same lines in the log (`Provider.invoke_alike`).
-/

namespace Provision

/-! ## Requests -/

/-- Two bodies of an action that are the same but for the password that is sent to create an account. -/
def BodyAlike (p q action : String) (v w : Json) : Prop :=
  if action = "CreateAccount" then Json.Alike "Password" p q [] v w else v = w

/-- **Two requests of a client that are the same but for a password in the body, and the signature over it.** -/
structure Posting.Alike (c : Client) (p q : String) (x y : Posting) : Prop where
  rest : y = { x with authorization := y.authorization, body := y.body }
  body : BodyAlike p q x.action x.body y.body
  left : c.posting x.product x.action x.body x.timestamp = .ok x
  right : c.posting y.product y.action y.body y.timestamp = .ok y

/-- Two such requests that got the same answer. -/
structure Exchange.Alike (c : Client) (p q : String) (x y : Exchange) : Prop where
  posting : x.posting.Alike c p q y.posting
  reply : x.reply = y.reply

/-- **The vendor does not look at the password**: its answers are the same for alike requests after alike exchanges,
and take the same time. -/
structure Surroundings.Indifferent (out : Surroundings) (c : Client) (p q : String) : Prop where
  reply : ∀ {xs ys x y}, List.Forall₂ (Exchange.Alike c p q) xs ys → x.Alike c p q y → out.reply xs x = out.reply ys y
  latency : ∀ {xs ys x y}, List.Forall₂ (Exchange.Alike c p q) xs ys → x.Alike c p q y →
    out.latency xs x = out.latency ys y

variable {p q action : String} {v w : Json}

theorem bodyAlike_refl (h : action ≠ "CreateAccount") (v : Json) : BodyAlike p q action v v := by
  rw [BodyAlike, if_neg h]

namespace Client

theorem posting_alike (c : Client) (product : Product) (h : BodyAlike p q action v w) (timestamp : Int) :
    EndAlike (Posting.Alike c p q) (c.posting product action v timestamp) (c.posting product action w timestamp) := by
  rcases c.posting_cases product with ⟨e, he⟩ | ⟨url, name, region, hx⟩
  · rw [he, he]
    exact .error e
  · by_cases haction : isHeaderValue action = true
    · have hwritten := fun body => (hx action body timestamp).trans (if_pos haction)
      rw [hwritten, hwritten]
      exact .ok ⟨rfl, h, hwritten v, hwritten w⟩
    · rw [hx, hx, if_neg haction, if_neg haction]
      exact .error _

end Client

/-! ## Calls -/

section Calls

variable {out : Surroundings} {c : Client}

theorem Run.send_alike (h : out.Indifferent c p q) {x y : Posting} (hxy : x.Alike c p q y) :
    Run.Alike (Exchange.Alike c p q) Eq (Run.send out x) (Run.send out y) := by
  intro s t hs
  have hreply : out.reply s.exchanges x = out.reply t.exchanges y := h.reply hs.exchanges hxy
  have hlatency : out.latency s.exchanges x = out.latency t.exchanges y := h.latency hs.exchanges hxy
  unfold Run.send
  dsimp only
  rw [← hreply, ← hlatency, ← hs.now]
  have hnext : ∀ reply, Session.Alike (Exchange.Alike c p q)
      { s with exchanges := ⟨x, reply⟩ :: s.exchanges, now := s.now + out.latency s.exchanges x }
      { t with exchanges := ⟨y, reply⟩ :: t.exchanges, now := s.now + out.latency s.exchanges x } :=
    fun reply => { hs with now := rfl, exchanges := .cons ⟨hxy, rfl⟩ hs.exchanges }
  cases out.reply s.exchanges x with
  | answer status body => exact ⟨.ok rfl, hnext _⟩
  | closed => exact ⟨.error _, hnext _⟩
  | unreachable => exact ⟨.error _, hnext _⟩

theorem Client.readAnswer_alike {E : Exchange → Exchange → Prop} (action : String) (status : Nat) (text : String) :
    Run.Alike E Eq (readAnswer action status text) (readAnswer action status text) := by
  unfold readAnswer
  split
  · split
    · exact Run.alike_ofExcept (.of_eq rfl)
    · exact Run.alike_fail _
  · exact (Run.alike_log _).bind fun _ _ _ => Run.alike_fail _

/-- **Calls with alike bodies end in the same way.** -/
theorem Client.call_alike (h : out.Indifferent c p q) (product : Product) (hbody : BodyAlike p q action v w) :
    Run.Alike (Exchange.Alike c p q) Eq (c.call out product action v) (c.call out product action w) := by
  refine Run.Alike.bind (Run.alike_look fun s t hs => hs.second out) fun second _ heq => ?_
  cases heq
  refine Run.Alike.bind (Run.alike_ofExcept (c.posting_alike product hbody second)) fun x y hxy => ?_
  refine Run.Alike.bind (Run.send_alike h hxy) fun answer _ heq => ?_
  cases heq
  exact Client.readAnswer_alike action answer.1 answer.2

end Calls

namespace Provider

/-- **The log shows no password.** -/
theorem shownBody_alike (h : BodyAlike p q action v w) : shownBody v = shownBody w := by
  unfold BodyAlike at h
  split at h
  · cases h with
    | object h =>
      refine congrArg Json.object ?_
      induction h with
      | nil => rfl
      | @cons m n _ _ hm _ ih =>
        obtain ⟨j, x⟩ := m
        obtain ⟨k, y⟩ := n
        obtain ⟨rfl, hvalue⟩ := hm
        rw [List.map_cons, List.map_cons, ih]
        by_cases hname : j = "Password"
        · subst hname
          rfl
        · obtain rfl : x = y := (Json.valueAlike_of_ne hname).1 hvalue
          rfl
    | array h =>
      obtain rfl := h
      rfl
    | scalar => rfl
  · rw [h]

variable {α : Type} {pr : Provider}

theorem invoke_alike (h : pr.out.Indifferent pr.client p q) (product : Product) (hbody : BodyAlike p q action v w)
    (answer : Json.Record α) :
    Run.Alike (Exchange.Alike pr.client p q) Eq (pr.invoke product action v answer)
      (pr.invoke product action w answer) := by
  have hshown : loggedBody v = loggedBody w := by rw [loggedBody, loggedBody, shownBody_alike hbody]
  refine Run.Alike.bind (Run.alike_pace pr.client.rates action) fun _ _ _ s t hs => ?_
  have hcall : Run.Alike (Exchange.Alike pr.client p q) Eq
      (pr.client.call pr.out product action v >>= fun c => Run.ofExcept (readContent action answer c))
      (pr.client.call pr.out product action w >>= fun c => Run.ofExcept (readContent action answer c)) :=
    (Client.call_alike h product hbody).bind fun c _ heq => heq ▸ Run.alike_ofExcept (.of_eq rfl)
  rcases hcall.ends hs with ⟨a, b, s', t', hx, hy, hab, hnext⟩ | ⟨e, s', t', hx, hy, hnext⟩
  · rw [hx, hy]
    dsimp only
    rw [successLine, successLine, hshown]
    exact ⟨.ok hab, hnext.logged _⟩
  · rw [hx, hy]
    dsimp only
    rw [failureLine, failureLine, hshown]
    exact ⟨.error e, hnext.logged _⟩

end Provider

end Provision
