import Provision.Proofs.Vendor.Writable

/-!
# A vendor that says the same each time

Questions are asked again and again, and a vendor of which nothing changes answers each of them in the same way
(`Steady`). Then one attempt is enough, and the same call from another session sends the same request, its signature
and its time apart, and comes to the same end (`Provider.retried_again`). Main statement: what is put together from such
calls recurs as well (`Run.Recurs.bind`): a computation that succeeds once succeeds again with the same value and the
same requests.
-/

namespace Provision

/-! ## Answers that say the same -/

/-- A result that tells something: a value, or that something does not exist. -/
def Conclusive {α : Type} (r : Except Failure α) : Prop := Denying (fun _ => True) r

/-- **Two results that tell the same**; how they fail otherwise does not matter. -/
structure Agree {α : Type} (r r' : Except Failure α) : Prop where
  value : r.toOption = r'.toOption
  absent : (∃ e, r = .error e ∧ e.saysAbsent = true) ↔ ∃ e, r' = .error e ∧ e.saysAbsent = true

section Agree

variable {α : Type} {r r' : Except Failure α}

theorem Conclusive.not_transient (h : Conclusive r) : ¬Transient r := by
  rintro ⟨e, rfl, he⟩
  exact not_denying_error (.inl he) h

theorem Agree.conclusive (h : Agree r r') (hr : Conclusive r) : Conclusive r' := by
  rcases hr with habsent | ⟨a, rfl, -⟩
  · exact .inl (h.absent.1 habsent)
  · cases r' with
    | ok a' => exact .inr ⟨a', rfl, trivial⟩
    | error e => cases h.value

theorem Agree.eq_ok {a : α} (h : Agree r r') (hr : r = .ok a) : r' = .ok a := by
  have hvalue := h.value
  subst hr
  cases r' with
  | ok a' =>
    cases hvalue
    rfl
  | error e => cases hvalue

end Agree

/-- **The same question gets the same answer each time**, as far as it is read: the numbers of the requests may
differ. -/
def Steady {α : Type} (answer : Json.Record α) (xs : List Exchange) : Prop :=
  ∀ x ∈ xs, ∀ y ∈ xs, x.posting.action = y.posting.action → x.posting.body = y.posting.body →
    Agree (x.outcome answer) (y.outcome answer)

theorem Steady.subset {α : Type} {answer : Json.Record α} {xs ys : List Exchange} (h : Steady answer ys)
    (hsub : xs ⊆ ys) : Steady answer xs :=
  fun x hx y hy => h x (hsub hx) y (hsub hy)

/-! ## The same request -/

/-- A request without the signature and the time. -/
def Posting.unsigned (x : Posting) : Posting := { x with authorization := "", timestamp := 0 }

theorem Posting.unsigned_mk (url : Url) (product : Product) (action : String) (region token : Option String)
    (authorization : String) (timestamp : Int) (body : Json) :
    Posting.unsigned ⟨url, product, action, region, token, authorization, timestamp, body⟩ =
      ⟨url, product, action, region, token, "", 0, body⟩ := rfl

/-- The requests of some exchanges, signatures and times apart. -/
def requests (xs : List Exchange) : List Posting := xs.map (·.posting.unsigned)

theorem requests_append (xs ys : List Exchange) : requests (xs ++ ys) = requests xs ++ requests ys := List.map_append

namespace Client

variable {c : Client} {product : Product} {action : String} {body : Json} {timestamp : Int} {x : Posting}

/-- Only the signature and the time of a request depend on the time. -/
theorem unsigned_of_posting {timestamp' : Int} {y : Posting} (h : c.posting product action body timestamp = .ok x)
    (h' : c.posting product action body timestamp' = .ok y) : x.unsigned = y.unsigned := by
  rcases c.posting_cases product with ⟨e, he⟩ | ⟨url, name, region, hx⟩
  · rw [he] at h
    cases h
  · rw [hx] at h h'
    split at h
    · rename_i ha
      rw [if_pos ha] at h'
      -- the signature is never computed
      rw [← Except.ok.inj h, ← Except.ok.inj h', Posting.unsigned_mk, Posting.unsigned_mk]
    · cases h

end Client

/-! ## The same call -/

namespace Provider

variable {α : Type} {p : Provider} {product : Product} {action : String} {body : Json} {answer : Json.Record α}
  {out : Surroundings} {b : Budget} {operation : String} {s s' : Session} {xs ys : List Exchange}

/-- **A call that told something tells the same again**, and takes one request each time. -/
theorem retried_again
    (hxs : (Run.retried out b operation (p.invoke product action body answer) s).2.exchanges = xs ++ s.exchanges)
    (hys : (Run.retried out b operation (p.invoke product action body answer) s').2.exchanges = ys ++ s'.exchanges)
    (hsteady : Steady answer (ys ++ xs))
    (hr : Conclusive (Run.retried out b operation (p.invoke product action body answer) s).1) :
    Agree (Run.retried out b operation (p.invoke product action body answer) s).1
        (Run.retried out b operation (p.invoke product action body answer) s').1 ∧ requests ys = requests xs := by
  have hcalled := (p.attempt_invoke product action body answer).retried out b operation
  obtain ⟨xs', hxs', hposts, hsettled⟩ := hcalled s
  obtain ⟨ys', hys', hposts', hsettled'⟩ := hcalled s'
  obtain rfl : xs' = xs := List.append_cancel_right (hxs'.symm.trans hxs)
  obtain rfl : ys' = ys := List.append_cancel_right (hys'.symm.trans hys)
  -- what was told is told by the last answer, and by all the others since they are to the same question
  obtain ⟨x, hx, hconclusive⟩ := (hsettled.head?_iff (fun _ why => why.own) fun _ => not_denying_error).2 hr
  have hxmem : x ∈ xs' := List.mem_of_mem_head? hx
  have hasks : ∀ y ∈ ys' ++ xs', y.Asks action body := by
    intro y hy
    exact (List.mem_append.1 hy).elim (fun h => (hposts' y h).asks) fun h => (hposts y h).asks
  have hagree : ∀ y ∈ ys' ++ xs', Agree (x.outcome answer) (y.outcome answer) := by
    intro y hy
    have hxall : x ∈ ys' ++ xs' := List.mem_append_right ys' hxmem
    exact hsteady x hxall y hy ((hasks x hxall).1.trans (hasks y hy).1.symm)
      ((hasks x hxall).2.trans (hasks y hy).2.symm)
  have hfinal : ∀ y ∈ ys' ++ xs', ¬Transient (y.outcome answer) :=
    fun y hy => ((hagree y hy).conclusive hconclusive).not_transient
  -- the request was written once, so it is written again
  have hsent : ys' ≠ [] := by
    rintro rfl
    cases hsettled' with
    | unwritten why => exact (hposts x hxmem).not_unwritten why
  obtain ⟨y, rfl, hyr⟩ := hsettled'.single hsent fun y hy => hfinal y (List.mem_append_left xs' hy)
  obtain ⟨x', rfl, hxr⟩ := hsettled.single (List.ne_nil_of_mem hxmem) fun z hz =>
    hfinal z (List.mem_append_right [y] hz)
  obtain rfl : x = x' := List.mem_singleton.1 hxmem
  obtain ⟨_, hposting⟩ := hposts x List.mem_cons_self
  obtain ⟨_, hposting'⟩ := hposts' y List.mem_cons_self
  refine ⟨?_, ?_⟩
  · rw [hxr, hyr]
    exact hagree y List.mem_cons_self
  · rw [requests, requests, List.map_singleton, List.map_singleton, Client.unsigned_of_posting hposting' hposting]

end Provider

/-! ## Computations that recur -/

namespace Run

variable {α β γ : Type} {answer : Json.Record γ} {act : Run α} {f : α → Run β}

/-- **If a computation succeeds in one session, it does so in every other one in which the vendor says the same**, with
the same value and the same requests. -/
structure Recurs (answer : Json.Record γ) (act : Run α) : Prop where
  grows : act.Ensures fun _ _ => True
  again : ∀ {s s' : Session} {a : α} {xs ys : List Exchange}, (act s).1 = .ok a →
    (act s).2.exchanges = xs ++ s.exchanges → (act s').2.exchanges = ys ++ s'.exchanges → Steady answer (ys ++ xs) →
    (act s').1 = .ok a ∧ requests ys = requests xs

theorem recurs_pure (a : α) : (pure a : Run α).Recurs answer where
  grows := (ensures_pure a).mono fun _ _ _ => trivial
  again := fun {s s' b xs ys} hb hxs hys _ => by
    have hnil : xs = [] := List.self_eq_append_left.1 hxs
    have hnil' : ys = [] := List.self_eq_append_left.1 hys
    rw [hnil, hnil']
    exact ⟨hb, rfl⟩

/-- Of two computations, the second one goes on from where the first one leads. -/
theorem Recurs.bind (h : act.Recurs answer) (hf : ∀ a, (f a).Recurs answer) : (act >>= f).Recurs answer where
  grows := (h.grows.bind fun a => (hf a).grows).mono fun _ _ _ => trivial
  again := fun {s s' b xs ys} hb hxs hys hsteady => by
    rcases hs : act s with ⟨r, t⟩
    cases r with
    | error e =>
      rw [bind_error hs] at hb
      cases hb
    | ok a =>
      rw [bind_ok hs] at hb hxs
      obtain ⟨xs₁, hx₁, -⟩ := h.grows s
      obtain ⟨xs₂, hx₂, -⟩ := (hf a).grows t
      obtain ⟨ys₁, hy₁, -⟩ := h.grows s'
      obtain ⟨ys₂, hy₂⟩ := Ensures.after (x := act) (fun a => (hf a).grows) s'
      have ht : t.exchanges = xs₁ ++ s.exchanges := (congrArg (·.2.exchanges) hs).symm.trans hx₁
      obtain rfl : xs = xs₂ ++ xs₁ := Session.added_append hxs hx₂ ht
      obtain rfl : ys = ys₂ ++ ys₁ := Session.added_append hys hy₂ hy₁
      have hsub₁ : ys₁ ++ xs₁ ⊆ ys₂ ++ ys₁ ++ (xs₂ ++ xs₁) :=
        List.append_subset.2 ⟨List.subset_append_of_subset_left _ (List.subset_append_right ys₂ ys₁),
          List.subset_append_of_subset_right _ (List.subset_append_right xs₂ xs₁)⟩
      have hsub₂ : ys₂ ++ xs₂ ⊆ ys₂ ++ ys₁ ++ (xs₂ ++ xs₁) :=
        List.append_subset.2 ⟨List.subset_append_of_subset_left _ (List.subset_append_left ys₂ ys₁),
          List.subset_append_of_subset_right _ (List.subset_append_left xs₂ xs₁)⟩
      obtain ⟨hr, hfirst⟩ := h.again (congrArg Prod.fst hs) hx₁ hy₁ (hsteady.subset hsub₁)
      have hs' : act s' = (.ok a, (act s').2) := Prod.ext hr rfl
      rw [bind_ok hs'] at hy₂ ⊢
      obtain ⟨hb', hsecond⟩ := (hf a).again hb hx₂ hy₂ (hsteady.subset hsub₂)
      exact ⟨hb', by rw [requests_append, requests_append, hfirst, hsecond]⟩

/-- A call recurs. -/
theorem recurs_retried {p : Provider} {product : Product} {action : String} {body : Json} (out : Surroundings)
    (b : Budget) (operation : String) :
    (retried out b operation (p.invoke product action body answer)).Recurs answer where
  grows := ((p.attempt_invoke product action body answer).retried out b operation).mono fun _ _ _ => trivial
  again := fun ha hxs hys hsteady => by
    obtain ⟨hagree, hrequests⟩ := Provider.retried_again hxs hys hsteady (.inr ⟨_, ha, trivial⟩)
    exact ⟨hagree.eq_ok ha, hrequests⟩

end Run

end Provision
