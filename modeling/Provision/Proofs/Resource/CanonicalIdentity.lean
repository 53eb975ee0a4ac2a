import Provision.Proofs.Resource.AttachmentIdentity

/-!
# Canonical identities of attachments

The instances in an identity may be given in any order, more than once and with blanks around them: what is read depends
on the set of them only (`parts_spelled_iff`). The identity made of what was read is the canonical one. Main
statement: an identity reads back exactly if its instances are members of a list and its group is a part, the canonical
identity is its own, and identities that spell the same set have the same one (`canonical_identities`).
-/

namespace Provision.Attachment

open Text

/-- An identity whose instances are written piece by piece. -/
def spelled (pieces : List String) (group : String) : String := Identity.join [joined pieces, group]

/-- The identity made of what is read from an identity. -/
def canonical? (id : String) : Option String := (parts id).toOption.map fun named => identity named.1 named.2

/-- **Two identities that spell the same set**: their pieces, blanks and empty ones apart, are the same in any order and
number. -/
inductive Respelled : String → String → Prop
  | mk {pieces pieces' : List String} (group : String) (commas : ∀ p ∈ pieces, instanceSeparator ∉ p.toList)
      (commas' : ∀ p ∈ pieces', instanceSeparator ∉ p.toList)
      (same : ∀ i ≠ "", (∃ p ∈ pieces, tidied p = i) ↔ ∃ p ∈ pieces', tidied p = i) :
      Respelled (spelled pieces group) (spelled pieces' group)

theorem canonical?_eq_some_iff {id c : String} :
    canonical? id = some c ↔ ∃ instances group, parts id = .ok (instances, group) ∧ identity instances group = c := by
  rw [canonical?]
  cases parts id with
  | error e => simp [Except.toOption]
  | ok named =>
    rw [Except.toOption, Option.map_some, Option.some.injEq]
    constructor
    · intro h
      exact ⟨named.1, named.2, rfl, h⟩
    · rintro ⟨instances, group, heq, h⟩
      cases heq
      exact h

section Spelled

variable {pieces pieces' : List String} {group group' : String} {instances : StringSet}

/-- **What is read from an identity**: all of its pieces that are not empty, if there is one. -/
theorem parts_spelled_iff (hc : ∀ p ∈ pieces, instanceSeparator ∉ p.toList) :
    parts (spelled pieces group) = .ok (instances, group') ↔
      group' = group ∧ Identity.IsPart group ∧ (∀ p ∈ pieces, Identity.separator ∉ p.toList) ∧
        (∃ i, i ∈ instances) ∧ ∀ i, i ∈ instances ↔ i ≠ "" ∧ ∃ p ∈ pieces, tidied p = i := by
  have hsep : Identity.separator ∉ (joined pieces).toList ↔ ∀ p ∈ pieces, Identity.separator ∉ p.toList := by
    rw [mem_joined (by decide)]
    simp only [not_exists, not_and]
  rw [parts_eq_ok_iff]
  constructor
  · rintro ⟨list, hs, hi, hne⟩
    obtain ⟨rfl, rfl, hlist, hgroup⟩ := Identity.split?_two_join_eq_some_iff.1 hs
    refine ⟨rfl, hgroup, hsep.1 hlist.2, List.exists_mem_of_ne_nil _ hne, fun i => ?_⟩
    rw [← hi, mem_instancesOf_joined hc]
  · rintro ⟨rfl, hgroup, hp, ⟨i, hi⟩, hmem⟩
    obtain ⟨hne, p, hpp, hpi⟩ := (hmem i).1 hi
    have hlist : Identity.IsPart (joined pieces) :=
      ⟨joined_ne_empty hpp (hc p hpp) (hpi ▸ hne), hsep.2 hp⟩
    refine ⟨joined pieces, Identity.split?_two_join_iff.2 ⟨hlist, hgroup⟩, ?_, List.ne_nil_of_mem hi⟩
    refine StringSet.ext fun x => ?_
    rw [mem_instancesOf_joined hc, hmem]

/-- Every identity that is read is spelled in pieces. -/
theorem exists_spelled {id : String} (h : parts id = .ok (instances, group)) :
    ∃ pieces, id = spelled pieces group ∧ ∀ p ∈ pieces, instanceSeparator ∉ p.toList := by
  obtain ⟨list, hs, -⟩ := parts_eq_ok_iff.1 h
  obtain ⟨pieces, rfl, hc⟩ := exists_joined list
  exact ⟨pieces, (Identity.of_split? hs).1.symm, hc⟩

/-- A separator in a piece does not get lost when its blanks are dropped. -/
theorem separator_of_same
    (h : ∀ i ≠ "", (∃ p ∈ pieces, tidied p = i) ↔ ∃ p ∈ pieces', tidied p = i)
    (hp : ∀ p ∈ pieces', Identity.separator ∉ p.toList) : ∀ p ∈ pieces, Identity.separator ∉ p.toList := by
  intro p hmem hsep
  have hread : ∀ q : String, Identity.separator ∈ (tidied q).toList ↔ Identity.separator ∈ q.toList := by
    intro q
    rw [tidied, String.toList_ofList, mem_trim (by decide)]
  have htidied : tidied p ≠ "" := by
    intro he
    have hnil := (hread p).2 hsep
    rw [he] at hnil
    cases hnil
  obtain ⟨q, hq, heq⟩ := (h (tidied p) htidied).1 ⟨p, hmem, rfl⟩
  exact hp q hq ((hread q).1 (heq ▸ (hread p).2 hsep))

end Spelled

theorem Respelled.symm {id id' : String} (h : Respelled id id') : Respelled id' id := by
  obtain ⟨group, commas, commas', same⟩ := h
  exact .mk group commas' commas fun i hi => (same i hi).symm

/-- Identities that spell the same set are read as the same instances and the same group. -/
theorem Respelled.parts {id id' group : String} {instances : StringSet} (h : Respelled id id')
    (hid : parts id = .ok (instances, group)) : Attachment.parts id' = .ok (instances, group) := by
  obtain ⟨g, commas, commas', same⟩ := h
  obtain ⟨rfl, hgroup, hsep, hne, hmem⟩ := (parts_spelled_iff commas).1 hid
  refine (parts_spelled_iff commas').2 ⟨rfl, hgroup, separator_of_same (fun i hi => (same i hi).symm) hsep, hne, ?_⟩
  intro i
  rw [hmem i]
  exact and_congr_right fun hi => same i hi

theorem Respelled.canonical?_eq {id id' : String} (h : Respelled id id') : canonical? id = canonical? id' := by
  refine Option.ext fun c => ?_
  rw [canonical?_eq_some_iff, canonical?_eq_some_iff]
  constructor
  · rintro ⟨instances, group, hid, hc⟩
    exact ⟨instances, group, h.parts hid, hc⟩
  · rintro ⟨instances, group, hid, hc⟩
    exact ⟨instances, group, h.symm.parts hid, hc⟩

/-- What is read from an identity can be written in one. -/
theorem identity_of_parts {id group : String} {instances : StringSet} (h : parts id = .ok (instances, group)) :
    parts (identity instances group) = .ok (instances, group) := by
  obtain ⟨pieces, rfl, hc⟩ := exists_spelled h
  obtain ⟨-, hgroup, hsep, ⟨i, hi⟩, hmem⟩ := (parts_spelled_iff hc).1 h
  refine parts_identity (List.ne_nil_of_mem hi) hgroup fun i hi => ?_
  obtain ⟨hne, p, hp, rfl⟩ := (hmem i).1 hi
  have hsub : ∀ c ∈ (tidied p).toList, c ∈ p.toList := by
    intro c hcp
    rw [tidied, String.toList_ofList] at hcp
    exact mem_of_mem_trim hcp
  exact ⟨hne, tidied_tidied p, fun hcomma => hc p hp (hsub _ hcomma), fun hs => hsep p hp (hsub _ hs)⟩

/-- **Identities of attachments are read exactly.** One reads back as the set and the group of which it was made if and
only if the set has an element, each element can stand in a list, and the group can be a part. What any identity is read
as does read back, so that the canonical identity is its own; and it is the same for every spelling of the set. -/
theorem canonical_identities :
    (∀ (instances : StringSet) (group : String), parts (identity instances group) = .ok (instances, group) ↔
      (∃ i, i ∈ instances) ∧ (∀ i ∈ instances, IsMember i) ∧ Identity.IsPart group) ∧
    (∀ (id : String) (instances : StringSet) (group : String), parts id = .ok (instances, group) →
      parts (identity instances group) = .ok (instances, group) ∧ canonical? id = some (identity instances group) ∧
        canonical? (identity instances group) = some (identity instances group)) ∧
    ∀ id id' : String, Respelled id id' → canonical? id = canonical? id' := by
  refine ⟨fun instances group => ⟨fun h => ?_, ?_⟩, fun id instances group h => ?_, fun id id' h => h.canonical?_eq⟩
  · obtain ⟨hne, hgroup, hall⟩ := of_parts_identity h
    exact ⟨List.exists_mem_of_ne_nil _ hne, hall, hgroup⟩
  · rintro ⟨⟨i, hi⟩, hall, hgroup⟩
    exact parts_identity (List.ne_nil_of_mem hi) hgroup hall
  · have hback := identity_of_parts h
    exact ⟨hback, canonical?_eq_some_iff.2 ⟨instances, group, h, rfl⟩,
      canonical?_eq_some_iff.2 ⟨instances, group, hback, rfl⟩⟩

/-- Instances out of order, one of them twice, blanks around another and an empty piece. -/
theorem canonical_identities_respelled :
    canonical? " b,a,, b#sg-1" = some (identity (.ofList ["b", "a"]) "sg-1") := by
  have hmembers : ∀ i ∈ StringSet.ofList ["b", "a"], IsMember i := by
    intro i hi
    have hlist : i = "b" ∨ i = "a" := by simpa using hi
    rcases hlist with rfl | rfl <;> exact ⟨by decide, by decide, by decide, by decide⟩
  have hparts := (canonical_identities.1 (.ofList ["b", "a"]) "sg-1").2
    ⟨⟨"a", by simp⟩, hmembers, by decide, by decide⟩
  have hspelled : Respelled (spelled [" b", "a", "", " b"] "sg-1") (identity (.ofList ["b", "a"]) "sg-1") :=
    .mk "sg-1" (by decide) (by decide) fun i hi => by
      have hwritten : [" b", "a", "", " b"].map tidied = ["b", "a", "", "b"] := by decide
      have hlisted : (StringSet.ofList ["b", "a"]).toList.map tidied = ["a", "b"] := by decide
      rw [← List.mem_map, ← List.mem_map, hwritten, hlisted]
      grind
  exact (canonical_identities.2.2 _ _ hspelled).trans (canonical_identities.2.1 _ _ _ hparts).2.1

end Provision.Attachment
