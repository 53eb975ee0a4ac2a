import Provision.Proofs.Identity
import Provision.Resource.Attachment

/-!
# Identities of attachments

The identity of an attachment lists its instances with commas between them. Reading the list back trims the instances
and drops the empty ones, so it gives the same set only if each instance can be a member of a list (`IsMember`). Main
statements: an identity reads back as the instances and the group of which it was made if all of them can stand in it
(`parts_identity`), and only then (`of_parts_identity`).
-/

namespace Provision

namespace Text

variable {s : List Char}

theorem dropWhile_of_head {p : Char → Bool} (h : ∀ c, s.head? = some c → p c = false) : s.dropWhile p = s := by
  cases s with
  | nil => rfl
  | cons c r => rw [List.dropWhile_cons, if_neg (by simp [h c rfl])]

/-- A text with no blank at its ends is trimmed already. -/
theorem trim_of_ends (hh : ∀ c, s.head? = some c → isBlank c = false)
    (hl : ∀ c, s.getLast? = some c → isBlank c = false) : trim s = s := by
  rw [trim, dropWhile_of_head hh, dropEnd, dropWhile_of_head, List.reverse_reverse]
  intro c hc
  rw [List.head?_reverse] at hc
  exact hl c hc

theorem trim_trim (s : List Char) : trim (trim s) = trim s :=
  trim_of_ends (fun _ => head?_trim) fun _ => getLast?_trim

theorem mem_of_mem_trim {c : Char} (h : c ∈ trim s) : c ∈ s := by
  obtain ⟨t, ht, -⟩ := dropEnd_append (p := isBlank) (s := s.dropWhile isBlank)
  have hmem : c ∈ s.dropWhile isBlank := ht ▸ List.mem_append_left t h
  exact (List.dropWhile_sublist isBlank).subset hmem

/-- Only blanks are dropped. -/
theorem mem_trim {c : Char} (hc : isBlank c = false) : c ∈ trim s ↔ c ∈ s := by
  refine ⟨mem_of_mem_trim, fun h => ?_⟩
  have hstart : c ∈ s.dropWhile isBlank := by
    rw [← List.takeWhile_append_dropWhile (p := isBlank) (l := s), List.mem_append] at h
    rcases h with h | h
    · rw [List.all_eq_true.1 List.all_takeWhile c h] at hc
      cases hc
    · exact h
  obtain ⟨t, ht, hall⟩ := dropEnd_append (p := isBlank) (s := s.dropWhile isBlank)
  rw [← ht, List.mem_append] at hstart
  rcases hstart with h | h
  · exact h
  · rw [hall c h] at hc
    cases hc

end Text

namespace Attachment

open Text

/-- An instance that can be listed in an identity. -/
structure IsMember (i : String) : Prop where
  ne_empty : i ≠ ""
  trimmed : String.ofList (trim i.toList) = i
  no_comma : instanceSeparator ∉ i.toList
  no_separator : Identity.separator ∉ i.toList

/-! ## Lists with commas -/

/-- Pieces with commas between them. -/
def joined (pieces : List String) : String :=
  String.ofList (Segments.join instanceSeparator (pieces.map String.toList))

/-- The instance that is read from a piece of a list; none if it is empty. -/
def tidied (piece : String) : String := String.ofList (trim piece.toList)

theorem tidied_tidied (piece : String) : tidied (tidied piece) = tidied piece := by
  rw [tidied, tidied, String.toList_ofList, trim_trim]

/-- Every text is such a list. -/
theorem exists_joined (list : String) :
    ∃ pieces, list = joined pieces ∧ ∀ p ∈ pieces, instanceSeparator ∉ p.toList := by
  refine ⟨(Segments.split instanceSeparator list.toList).map String.ofList, ?_, fun p hp => ?_⟩
  · have hback : ((Segments.split instanceSeparator list.toList).map String.ofList).map String.toList =
        Segments.split instanceSeparator list.toList := by
      simp [Function.comp_def]
    rw [joined, hback, Segments.join_split, String.ofList_toList]
  · obtain ⟨s, hs, rfl⟩ := List.mem_map.1 hp
    rw [String.toList_ofList]
    exact Segments.not_mem_of_mem_split hs

section Joined

variable {pieces : List String}

/-- The characters of a list, commas apart, are those of its pieces. -/
theorem mem_joined {c : Char} (hc : c ≠ instanceSeparator) :
    c ∈ (joined pieces).toList ↔ ∃ p ∈ pieces, c ∈ p.toList := by
  rw [joined, String.toList_ofList, Segments.mem_join hc]
  constructor
  · rintro ⟨s, hs, hmem⟩
    obtain ⟨p, hp, rfl⟩ := List.mem_map.1 hs
    exact ⟨p, hp, hmem⟩
  · rintro ⟨p, hp, hmem⟩
    exact ⟨p.toList, List.mem_map.2 ⟨p, hp, rfl⟩, hmem⟩

theorem joined_ne_empty {p : String} (hp : p ∈ pieces) (hc : instanceSeparator ∉ p.toList) (hne : tidied p ≠ "") :
    joined pieces ≠ "" := by
  intro he
  obtain ⟨c, hmem⟩ := List.exists_mem_of_ne_nil (tidied p).toList fun h0 => hne (String.toList_eq_nil_iff.1 h0)
  rw [tidied, String.toList_ofList] at hmem
  have hcp : c ∈ p.toList := mem_of_mem_trim hmem
  have hlist : c ∈ (joined pieces).toList := (mem_joined fun heq => hc (heq ▸ hcp)).2 ⟨p, hp, hcp⟩
  rw [he] at hlist
  cases hlist

/-- **What is read from a list with commas are its pieces**, without the blanks around them and without those that are
empty. -/
theorem mem_instancesOf_joined {i : String} (hc : ∀ p ∈ pieces, instanceSeparator ∉ p.toList) :
    i ∈ instancesOf (joined pieces) ↔ i ≠ "" ∧ ∃ p ∈ pieces, tidied p = i := by
  rw [instancesOf, StringSet.mem_ofList, List.mem_filter, decide_eq_true_iff, and_comm]
  refine and_congr_right fun hne => ?_
  by_cases hnil : pieces = []
  · subst hnil
    have hempty :
        (Segments.split instanceSeparator (joined []).toList).map (fun s => String.ofList (trim s)) = [""] := rfl
    simp [hempty, hne]
  · have hsplit : Segments.split instanceSeparator (joined pieces).toList = pieces.map String.toList := by
      rw [joined, String.toList_ofList, Segments.split_join (by simpa using hnil)]
      intro s hs
      obtain ⟨p, hp, rfl⟩ := List.mem_map.1 hs
      exact hc p hp
    rw [hsplit, List.map_map, List.mem_map]
    rfl

end Joined

/-- The instances of a set with commas between them. -/
def listed (instances : StringSet) : String :=
  String.ofList (Segments.join instanceSeparator (instances.toList.map String.toList))

theorem identity_eq (instances : StringSet) (group : String) :
    identity instances group = Identity.join [listed instances, group] := rfl

theorem listed_eq (instances : StringSet) : listed instances = joined instances.toList := rfl

/-- What is read from a list with commas. -/
theorem of_mem_instancesOf {i list : String} (h : i ∈ instancesOf list) :
    i ≠ "" ∧ String.ofList (trim i.toList) = i ∧ instanceSeparator ∉ i.toList ∧ ∀ c ∈ i.toList, c ∈ list.toList := by
  rw [instancesOf, StringSet.mem_ofList, List.mem_filter] at h
  obtain ⟨hm, hne⟩ := h
  obtain ⟨s, hs, rfl⟩ := List.mem_map.1 hm
  rw [String.toList_ofList, trim_trim]
  exact ⟨by simpa using hne, rfl, fun hc => Segments.not_mem_of_mem_split hs (mem_of_mem_trim hc),
    fun c hc => Segments.mem_of_mem_split hs (mem_of_mem_trim hc)⟩

/-- Members are read back from their list. -/
theorem instancesOf_listed {instances : StringSet}
    (h : ∀ i ∈ instances, i ≠ "" ∧ String.ofList (trim i.toList) = i ∧ instanceSeparator ∉ i.toList) :
    instancesOf (listed instances) = instances := by
  refine StringSet.ext fun x => ?_
  rw [listed_eq, mem_instancesOf_joined fun i hi => (h i hi).2.2]
  constructor
  · rintro ⟨-, i, hi, rfl⟩
    rw [tidied, (h i hi).2.1]
    exact hi
  · exact fun hx => ⟨(h x hx).1, x, hx, (h x hx).2.1⟩

/-! ## Identities -/

theorem parts_eq_ok_iff {id group : String} {instances : StringSet} : parts id = .ok (instances, group) ↔
    ∃ list, Identity.split? 2 id = some [list, group] ∧ instancesOf list = instances ∧ instances.toList ≠ [] := by
  unfold parts
  split
  · rename_i e herror
    refine iff_of_false (fun h => by cases h) ?_
    rintro ⟨list, hs, -⟩
    rw [Identity.pair_eq_ok_iff.2 hs] at herror
    cases herror
  · rename_i list group' hok
    have hs := Identity.pair_eq_ok_iff.1 hok
    dsimp only
    split
    · rename_i hempty
      refine iff_of_false (fun h => by cases h) ?_
      rintro ⟨list', hs', rfl, hne⟩
      rw [hs] at hs'
      cases hs'
      exact hne (List.isEmpty_iff.1 hempty)
    · rename_i hne
      constructor
      · rintro h
        cases h
        exact ⟨list, hs, rfl, fun h0 => hne (List.isEmpty_iff.2 h0)⟩
      · rintro ⟨list', hs', rfl, -⟩
        rw [hs] at hs'
        cases hs'
        rfl

/-- The list has a separator if and only if one of its instances has. -/
theorem separator_mem_listed {instances : StringSet} :
    Identity.separator ∈ (listed instances).toList ↔ ∃ i ∈ instances, Identity.separator ∈ i.toList :=
  mem_joined (by decide)

theorem isPart_listed {instances : StringSet} (hne : instances.toList ≠ []) (h : ∀ i ∈ instances, IsMember i) :
    Identity.IsPart (listed instances) := by
  refine ⟨?_, fun hc => ?_⟩
  · obtain ⟨i, hi⟩ := List.exists_mem_of_ne_nil _ hne
    refine joined_ne_empty hi (h i hi).no_comma ?_
    rw [tidied, (h i hi).trimmed]
    exact (h i hi).ne_empty
  · obtain ⟨i, hi, hsep⟩ := separator_mem_listed.1 hc
    exact (h i hi).no_separator hsep

/-- **An identity made of members and a part reads back as these.** -/
theorem parts_identity {instances : StringSet} {group : String} (hne : instances.toList ≠ [])
    (hg : Identity.IsPart group) (h : ∀ i ∈ instances, IsMember i) :
    parts (identity instances group) = .ok (instances, group) :=
  parts_eq_ok_iff.2 ⟨listed instances, Identity.split?_two_join_iff.2 ⟨isPart_listed hne h, hg⟩,
    instancesOf_listed fun i hi => ⟨(h i hi).ne_empty, (h i hi).trimmed, (h i hi).no_comma⟩, hne⟩

/-- **Only such an identity reads back as that of which it was made.** -/
theorem of_parts_identity {instances : StringSet} {group : String}
    (h : parts (identity instances group) = .ok (instances, group)) :
    instances.toList ≠ [] ∧ Identity.IsPart group ∧ ∀ i ∈ instances, IsMember i := by
  obtain ⟨list, hs, hi, hne⟩ := parts_eq_ok_iff.1 h
  obtain ⟨hjoin, -, hparts⟩ := Identity.of_split? hs
  obtain rfl : list = listed instances := Identity.join_pair_inj (hjoin.trans (identity_eq instances group))
  refine ⟨hne, hparts group (by simp), fun i hm => ?_⟩
  have hread : i ∈ instancesOf (listed instances) := hi.symm ▸ hm
  obtain ⟨hempty, htrim, hcomma, -⟩ := of_mem_instancesOf hread
  exact ⟨hempty, htrim, hcomma, fun hsep => (hparts (listed instances) (by simp)).2
    (separator_mem_listed.2 ⟨i, hm, hsep⟩)⟩

end Attachment

end Provision
