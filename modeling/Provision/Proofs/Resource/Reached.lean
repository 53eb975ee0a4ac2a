import Provision.Proofs.Resource.Shown
import Provision.Proofs.Resource.Stages

/-!
# How a configuration is reached

An application that succeeds ends with a look-up, so what is known then is what the last answer shows. Main statement:
it has found that nothing has to be changed, or has changed the resource in place, or has created it, and in the last
two cases the look-up started from the configuration (`Kind.apply_reached`).
-/

namespace Provision

namespace Kind

variable {k : Kind} {p : Provider} {st now : ResourceState k.Config} {a desired : k.Config} {s : Session}
  {xs earlier : List Exchange}

/-! ## How a configuration is reached -/

/-- What is known of a resource is what the last answer shows to a look-up that starts from some attributes. -/
structure ShownBy (k : Kind) (a : k.Config) (xs : List Exchange) (now : ResourceState k.Config) : Prop where
  present : now.present = true
  last : ∃ x, xs.head? = some x ∧ ∀ told, x.Tells k.answer told → k.shown told now.id a = some now.attributes

theorem ShownBy.append (h : k.ShownBy a xs now) (earlier : List Exchange) : k.ShownBy a (xs ++ earlier) now := by
  obtain ⟨x, hx, hlast⟩ := h.last
  exact ⟨h.present, x, by rw [List.head?_append, hx]; rfl, hlast⟩

theorem refresh_shown (hk : k ≠ .attachment) (p : Provider) (st : ResourceState k.Config) (s : Session) :
    (k.resource.refresh p st s).Ends s fun xs r now =>
      r = .ok () → now.id = st.id ∧ k.ShownBy st.attributes xs now := by
  obtain ⟨xs, hxs, hlooked⟩ := read_looked p st.id k hk st.attributes s
  obtain ⟨ys, hys, ⟨-, rfl, hp, hid, hr⟩ | ⟨hne, -⟩⟩ := Resource.refresh_ends hxs
  · exact ⟨ys, hys, fun _ => ⟨hid, hp, hid ▸ hlooked.last _ hr⟩⟩
  · exact ⟨ys, hys, fun hok => absurd hok hne⟩

/-- A creation ends with a look-up of the new resource that starts from the configuration. -/
theorem recreate_shown (hk : k ≠ .attachment) (p : Provider) (st : ResourceState k.Config) (desired : k.Config)
    (s : Session) : (k.resource.recreate p st desired s).Ends s fun xs r now =>
      r = .ok () → (∃ x ∈ xs, k.createdBy desired x = some now.id) ∧ k.ShownBy desired xs now := by
  obtain ⟨xs, hxs, -, -, hmade, -⟩ := recreate_ends p st desired s
  refine ⟨xs, hxs, fun hr => ⟨(hmade hr).1, ?_⟩⟩
  rcases k.resource.createFrom_cases p desired s with ⟨e, t, he⟩ | ⟨id, u, made, t, hcreate, hrefresh, hfrom⟩
  · rw [Resource.recreate, he] at hr
    cases hr
  · obtain ⟨zs, hzs, -⟩ := create_ensures p k desired s
    obtain ⟨ys, hys, hshown⟩ := refresh_shown hk p ⟨id, desired⟩ u
    have hrecreate : k.resource.recreate p st desired s = ⟨.ok (), made, t⟩ := by rw [Resource.recreate, hfrom]
    rw [hcreate] at hzs
    rw [hrefresh] at hys hshown
    rw [hrecreate] at hxs ⊢
    obtain rfl : xs = ys ++ zs := Session.added_append hxs hys hzs
    exact (hshown rfl).2.append zs

/-- A change in place ends with a look-up that starts from the configuration. -/
theorem updateTo_shown (hk : k ≠ .attachment) (hcheck : k.resource.check (k.resource.toJson desired) = .ok ())
    (hne : k.changed st desired ≠ []) (hup : ∀ f ∈ k.changed st desired, f.mutability = .updatable) :
    (k.resource.updateTo p st desired s).Ends s fun xs r now => r = .ok () →
      (∃ x ∈ xs, k.modification = some x.posting.action) ∧ now.id = st.id ∧ k.ShownBy desired xs now := by
  obtain ⟨xs, hxs, -, hsent⟩ := updateTo_ends (p := p) (s := s) hup hcheck hne
  refine ⟨xs, hxs, fun hr => ⟨hsent (.inl hr), ?_⟩⟩
  have hnames : (k.changed st desired).map Schema.Field.name ≠ [] := by simpa using hne
  have hmodify := Resource.modify_of_changes (p := p) (s := s) hcheck (changes_of_updatable hup) hnames
  rcases hm : k.resource.modify p st desired s with ⟨res, u⟩
  cases res with
  | error e =>
    rw [Resource.updateTo_of_modify_error hm] at hr
    cases hr
  | ok _ =>
    obtain ⟨zs, hzs, -⟩ := update_ensures p st.id ((k.changed st desired).map Schema.Field.name) k desired s
    obtain ⟨ys, hys, hshown⟩ := refresh_shown hk p ⟨st.id, desired⟩ u
    rw [← hmodify, hm] at hzs
    rw [Resource.updateTo_of_modify_ok hm] at hr hxs ⊢
    obtain rfl : xs = ys ++ zs := Session.added_append hxs hys hzs
    obtain ⟨hid, hshown⟩ := hshown hr
    exact ⟨hid, hshown.append zs⟩

/-- **The ways in which an application reaches a configuration**, with the exchanges that it adds, and what is known
then. -/
inductive Reached (k : Kind) (p : Provider) (st : ResourceState k.Config) (desired : k.Config) (s : Session)
    (xs : List Exchange) (now : ResourceState k.Config) : Prop
  /-- Nothing had to be changed. -/
  | kept (a : k.Config) (same : k.changed now desired = []) (shown : k.ShownBy a xs now)
  /-- The resource that was found was changed in place. -/
  | changed (found : k.Config) (names : List String)
    (look : (k.resource.read p st.id st.attributes s).1 = .ok (some found))
    (changes : k.resource.changes ⟨st.id, found⟩ desired = .ok names)
    (sent : ∃ x ∈ xs, k.modification = some x.posting.action) (id : now.id = st.id) (shown : k.ShownBy desired xs now)
  /-- The resource was created. -/
  | created (accepted : ∃ x ∈ xs, k.createdBy desired x = some now.id) (shown : k.ShownBy desired xs now)

/-- A creation may follow on questions and on a deletion. -/
theorem recreate_reached (hk : k ≠ .attachment) (p : Provider) {st before : ResourceState k.Config} {s t : Session}
    (ht : t.exchanges = earlier ++ s.exchanges) :
    (k.resource.recreate p before desired t).Ends s fun xs r now => r = .ok () → k.Reached p st desired s xs now := by
  obtain ⟨xs, hxs, hshown⟩ := recreate_shown hk p before desired t
  refine ⟨xs ++ earlier, by rw [hxs, ht, List.append_assoc], fun hr => ?_⟩
  obtain ⟨⟨x, hx, hid⟩, hshown⟩ := hshown hr
  exact .created ⟨x, List.mem_append_left earlier hx, hid⟩ (hshown.append earlier)

/-- Carrying out the plan for a resource that was just found. -/
theorem execute_reached (hk : k ≠ .attachment) {found : k.Config} {plan : Plan} {t : Session}
    (hcheck : k.resource.check (k.resource.toJson desired) = .ok ()) (hp : st.present = true)
    (hread : k.resource.read p st.id st.attributes s = (.ok (some found), t))
    (hplan : plan.action = Schema.actionOf (k.changed ⟨st.id, found⟩ desired)) :
    (k.resource.execute p plan ⟨st.id, found⟩ desired t).Ends s fun xs r now =>
      r = .ok () → k.Reached p st desired s xs now := by
  obtain ⟨asked, hasked, hlooked⟩ := read_looked p st.id k hk st.attributes s
  rw [hread] at hasked hlooked
  rcases Schema.actionOf_cases (k.changed ⟨st.id, found⟩ desired) with
    ⟨ha, hsame⟩ | ⟨ha, -⟩ | ⟨ha, -⟩ | ⟨ha, hne, hup⟩
  · rw [Resource.execute_of_noOp (hplan.trans ha)]
    exact ⟨asked, hasked, fun _ => .kept st.attributes hsame ⟨hp, hlooked.last found rfl⟩⟩
  · rw [Resource.execute_of_reject (hplan.trans ha)]
    exact ⟨asked, hasked, fun hr => by cases hr⟩
  · have hnow : (⟨st.id, found⟩ : ResourceState k.Config).present = true := hp
    obtain ⟨deleted, hdeleted, -⟩ := remove_ends (p := p) (s := t) hnow (held_of_read (congrArg Prod.fst hread))
    rcases hremove : k.resource.remove p ⟨st.id, found⟩ t with ⟨res, gone, u⟩
    rw [hremove] at hdeleted
    have hu : u.exchanges = (deleted ++ asked) ++ s.exchanges := by
      rw [hdeleted, hasked, List.append_assoc]
    cases res with
    | error e =>
      rw [Resource.execute_of_remove_error (hplan.trans ha) hremove]
      exact ⟨deleted ++ asked, hu, fun hr => by cases hr⟩
    | ok _ =>
      rw [Resource.execute_of_remove_ok (hplan.trans ha) hremove]
      exact recreate_reached hk p hu
  · obtain ⟨xs, hxs, hshown⟩ := updateTo_shown (p := p) (s := t) hk hcheck hne hup
    rw [Resource.execute_of_update (hplan.trans ha)]
    refine ⟨xs ++ asked, by rw [hxs, hasked, List.append_assoc], fun hr => ?_⟩
    obtain ⟨⟨x, hx, hsent⟩, hid, hshown⟩ := hshown hr
    exact .changed found _ (congrArg Prod.fst hread) (changes_of_updatable hup)
      ⟨x, List.mem_append_left asked hx, hsent⟩ hid (hshown.append asked)

/-- **An application that succeeds reaches the configuration in one of three ways.** -/
theorem apply_reached (hk : k ≠ .attachment) (p : Provider) (st : ResourceState k.Config) (desired : k.Config)
    (s : Session) : (k.resource.apply p st desired s).Ends s fun xs r now =>
      r = .ok () → k.Reached p st desired s xs now := by
  rcases k.resource.apply_cases p st desired s with
    ⟨e, -, ha⟩ | ⟨e, now, t, -, hc, ha⟩ | ⟨plan, now, t, hcheck, hc, hplan, ha⟩
  · rw [ha]
    exact ⟨[], rfl, fun hr => by cases hr⟩
  · obtain ⟨asked, hasked, -⟩ := current_ends p st s
    rw [hc] at hasked
    rw [ha]
    exact ⟨asked, hasked, fun hr => by cases hr⟩
  · rw [Resource.plan_of_check now hcheck] at hplan
    have hplan := (Except.ok.inj hplan).symm
    -- without an identity there is nothing to compare with
    have hcreate : now.present = false → plan.action = .create := by
      intro hnow
      rw [hplan, hnow]
      rfl
    obtain ⟨asked, hasked, -⟩ := current_ends p st s
    rw [hc] at hasked
    rw [ha]
    cases hp : st.present with
    | false =>
      have hsame : k.resource.current p st s = ⟨.ok (), st, s⟩ := by simp [Resource.current, hp]
      rw [hc] at hsame
      cases hsame
      rw [Resource.execute_of_create (hcreate hp)]
      exact recreate_reached hk p hasked
    | true =>
      rcases k.resource.current_cases p st s with
        ⟨hno, -⟩ | ⟨found, u, hread, he⟩ | ⟨_, u, -, -, he⟩ | ⟨e, u, -, -, he⟩
      · rw [hp] at hno
        cases hno
      · rw [hc] at he
        cases he
        have hnow : (⟨st.id, found⟩ : ResourceState k.Config).present = true := hp
        refine execute_reached hk hcheck hp hread ?_
        rw [hplan, if_pos hnow]
        rfl
      · rw [hc] at he
        cases he
        rw [Resource.execute_of_create (hcreate rfl)]
        exact recreate_reached hk p hasked
      · rw [hc] at he
        cases he

end Kind

end Provision
