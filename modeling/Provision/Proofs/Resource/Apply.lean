import Provision.Proofs.Resource.Execute

/-!
# Applying a configuration sends what the plan says

An application refreshes the state, plans, and carries out the plan. Main statement: it sends what the plan of the
refreshed state says, and asking, importing and planning change nothing (`Kind.apply_carried`).
-/

namespace Provision.Kind

variable {k : Kind} {p : Provider}

theorem mutations_of_questions {xs : List Exchange} (h : ∀ x ∈ xs, x.posting.action = k.question) :
    mutations xs = [] :=
  mutations_eq_nil h k.isQuestion_question

/-- **An application sends what the plan of the refreshed state says, and nothing that changes anything before; a
refresh and an import change nothing** (and planning sends nothing at all, as it has no session). -/
theorem apply_carried (k : Kind) (p : Provider) :
    (∀ (st : ResourceState k.Config) (desired : k.Config) (s : Session),
      (k.resource.apply p st desired s).Ends s fun xs r _ =>
        match k.resource.check (k.resource.toJson desired), k.resource.current p st s with
        | .error e, _ => xs = [] ∧ r = .error e
        | .ok (), ⟨.error e, _, _⟩ => mutations xs = [] ∧ r = .error e
        | .ok (), ⟨.ok (), now, t⟩ => ∃ plan done asked, k.resource.plan (some now) desired = .ok plan ∧
          xs = done ++ asked ∧ t.exchanges = asked ++ s.exchanges ∧ mutations asked = [] ∧
          Carried k p plan now desired t done r) ∧
    (∀ (st : ResourceState k.Config) (s : Session),
      (k.resource.refresh p st s).Ends s fun xs _ _ => mutations xs = []) ∧
    ∀ id, (k.resource.importFrom p id).Ensures fun xs _ => mutations xs = [] := by
  refine ⟨fun st desired s => ?_, fun st s => ?_, fun id s => ?_⟩
  · obtain ⟨asked, hasked, hquestions, held⟩ := current_ends p st s
    have hnone := mutations_of_questions hquestions
    rcases k.resource.apply_cases p st desired s with
      ⟨e, hcheck, ha⟩ | ⟨e, now, t, hcheck, hc, ha⟩ | ⟨plan, now, t, hcheck, hc, hplan, ha⟩
    · rw [hcheck, ha]
      exact ⟨[], rfl, rfl, rfl⟩
    · rw [hc] at hasked
      rw [hcheck, hc, ha]
      exact ⟨asked, hasked, hnone, rfl⟩
    · rw [hc] at hasked held
      rw [hcheck, hc, ha]
      obtain ⟨done, hdone, hcarried, -⟩ := execute_ends hcheck (held rfl) hplan
      refine ⟨done ++ asked, ?_, plan, done, asked, hplan, rfl, hasked, hnone, hcarried⟩
      rw [hdone, hasked, List.append_assoc]
  · obtain ⟨xs, hxs, hask⟩ := refresh_asks p st s
    exact ⟨xs, hxs, mutations_of_questions hask⟩
  · obtain ⟨xs, hxs, hask⟩ := refresh_asks p (⟨id, k.resource.record.blank⟩ : ResourceState k.Config) s
    unfold Resource.importFrom
    rcases hr : k.resource.refresh p ⟨id, k.resource.record.blank⟩ s with ⟨res, now, t⟩
    rw [hr] at hxs
    cases res with
    | error e => exact ⟨xs, hxs, mutations_of_questions hask⟩
    | ok _ => exact ⟨xs, hxs, mutations_of_questions hask⟩

end Provision.Kind
