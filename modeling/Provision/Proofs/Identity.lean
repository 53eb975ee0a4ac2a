import Provision.Identity

/-!
# Reading identities back

An identity is read back as its parts if and only if each of them can be one: it is not empty and has no separator
(`split?_join`, `of_split?`). Two texts are read back from the identity made of them in exactly that case
(`split?_two_join_eq_some_iff`). No identity is made of parts in two ways (`MadeOf.unique`). Main statement: what is
read from an identity are the parts of which it is made, and an identity that is not made of as many parts as are asked
for is broken (`split_madeOf`).
-/

namespace Provision

namespace Text.Segments

variable {sep c : Char}

/-- A separator apart, the characters of joined segments are those of the segments. -/
theorem mem_join (hc : c ≠ sep) : ∀ {ss : List (List Char)}, c ∈ join sep ss ↔ ∃ s ∈ ss, c ∈ s
  | [] => by simp [join]
  | [s] => by simp [join]
  | s :: t :: ss => by
    rw [join_cons (by simp), List.mem_append, List.mem_cons, mem_join hc]
    simp [hc]

theorem mem_of_mem_split {s t : List Char} (h : t ∈ split sep s) (hc : c ∈ t) : c ∈ s := by
  have hne : c ≠ sep := fun he => not_mem_of_mem_split h (he ▸ hc)
  have hmem : c ∈ join sep (split sep s) := (mem_join hne).2 ⟨t, h, hc⟩
  rwa [join_split] at hmem

end Text.Segments

namespace Identity

open Text

/-- A text that can be a part of an identity. -/
def IsPart (p : String) : Prop := p ≠ "" ∧ separator ∉ p.toList

instance : DecidablePred IsPart := fun p => inferInstanceAs (Decidable (p ≠ "" ∧ separator ∉ p.toList))

/-- **An identity that is made of parts.** -/
structure MadeOf (id : String) (parts : List String) : Prop where
  joined : id = join parts
  isPart : ∀ p ∈ parts, IsPart p

/-- Texts without separators are what is between the separators of the identity made of them. -/
theorem segments_join {texts : List String} (hne : texts ≠ []) (h : ∀ t ∈ texts, separator ∉ t.toList) :
    (Segments.split separator (join texts).toList).map String.ofList = texts := by
  have hsplit : Segments.split separator (join texts).toList = texts.map String.toList := by
    rw [join, String.toList_ofList, Segments.split_join (by simpa using hne)]
    intro s hs
    obtain ⟨t, ht, rfl⟩ := List.mem_map.1 hs
    exact h t ht
  rw [hsplit]
  simp [Function.comp_def]

theorem MadeOf.segments {id : String} {parts : List String} (h : MadeOf id parts) (hne : parts ≠ []) :
    (Segments.split separator id.toList).map String.ofList = parts := by
  rw [h.joined]
  exact segments_join hne fun p hp => (h.isPart p hp).2

/-- **No identity is made of parts in two ways**, however many they are. -/
theorem MadeOf.unique {id : String} {parts parts' : List String} (h : MadeOf id parts) (h' : MadeOf id parts')
    (hne : parts ≠ []) (hne' : parts' ≠ []) : parts = parts' := by
  rw [← h.segments hne, ← h'.segments hne']

theorem split?_join {parts : List String} (hne : parts ≠ []) (h : ∀ p ∈ parts, IsPart p) :
    split? parts.length (join parts) = some parts := by
  have hmade : MadeOf (join parts) parts := ⟨rfl, h⟩
  simp only [split?, hmade.segments hne]
  rw [if_neg]
  rintro (hempty | hlen)
  · obtain ⟨p, hp, he⟩ := List.any_eq_true.1 hempty
    exact (h p hp).1 (String.isEmpty_iff.1 he)
  · exact hlen rfl

/-- What is read from an identity are parts of which it is made. -/
theorem of_split? {count : Nat} {id : String} {parts : List String} (h : split? count id = some parts) :
    join parts = id ∧ parts.length = count ∧ ∀ p ∈ parts, IsPart p := by
  have hlen := length_of_split? h
  simp only [split?] at h
  split at h
  · cases h
  · rename_i hall
    rw [not_or] at hall
    obtain rfl := Option.some.inj h
    refine ⟨?_, hlen, fun p hp => ⟨?_, ?_⟩⟩
    · have hback : ((Segments.split separator id.toList).map String.ofList).map String.toList =
          Segments.split separator id.toList := by
        simp [Function.comp_def]
      rw [join, hback, Segments.join_split, String.ofList_toList]
    · rintro rfl
      exact hall.1 (List.any_eq_true.2 ⟨"", hp, rfl⟩)
    · obtain ⟨s, hs, rfl⟩ := List.mem_map.1 hp
      rw [String.toList_ofList]
      exact Segments.not_mem_of_mem_split hs

/-- An identity of two texts has two parts only if neither of them has a separator: the separators are counted. -/
theorem not_mem_of_split?_join {a b : String} {parts : List String} (h : split? 2 (join [a, b]) = some parts) :
    separator ∉ a.toList ∧ separator ∉ b.toList := by
  obtain ⟨hjoin, hlen, hparts⟩ := of_split? h
  obtain ⟨c, d, rfl⟩ : ∃ c d, parts = [c, d] := by
    match parts, hlen with
    | [c, d], _ => exact ⟨c, d, rfl⟩
  have htext : c.toList ++ separator :: d.toList = a.toList ++ separator :: b.toList := String.ofList_injective hjoin
  have hc : c.toList.count separator = 0 := List.count_eq_zero.2 (hparts c (by simp)).2
  have hd : d.toList.count separator = 0 := List.count_eq_zero.2 (hparts d (by simp)).2
  have hcount := congrArg (List.count separator) htext
  rw [List.count_append, List.count_append, List.count_cons_self, List.count_cons_self, hc, hd] at hcount
  exact ⟨List.count_eq_zero.1 (by omega), List.count_eq_zero.1 (by omega)⟩

/-- **Two texts are read back as the same two texts, and only if each of them can be a part.** -/
theorem split?_two_join_eq_some_iff {a b c d : String} :
    split? 2 (join [a, b]) = some [c, d] ↔ c = a ∧ d = b ∧ IsPart a ∧ IsPart b := by
  constructor
  · intro h
    have hsep := not_mem_of_split?_join h
    obtain ⟨htext, -, hparts⟩ := of_split? h
    have hmade : MadeOf (join [a, b]) [c, d] := ⟨htext.symm, hparts⟩
    have hpieces : [c, d] = [a, b] := by
      rw [← hmade.segments (by simp), segments_join (by simp) (by simpa using hsep)]
    obtain ⟨rfl, rfl⟩ : c = a ∧ d = b := by simpa using hpieces
    exact ⟨rfl, rfl, by simpa using hparts⟩
  · rintro ⟨rfl, rfl, ha, hb⟩
    have hback : split? [c, d].length (join [c, d]) = some [c, d] := split?_join (by simp) (by simp [ha, hb])
    exact hback

theorem split?_two_join_iff {a b : String} : split? 2 (join [a, b]) = some [a, b] ↔ IsPart a ∧ IsPart b := by
  simp [split?_two_join_eq_some_iff]

/-- Identities with the same second part have the same first part only if they are equal. -/
theorem join_pair_inj {a a' b : String} (h : join [a, b] = join [a', b]) : a = a' := by
  have hl := String.ofList_injective h
  exact String.toList_inj.1 (List.append_cancel_right hl)

theorem join_pair_ne_empty (a b : String) : join [a, b] ≠ "" := by
  intro h
  have hl := congrArg String.toList h
  simp [join, Segments.join] at hl

/-! ## Identities that are broken -/

theorem split_eq_ok_iff {count : Nat} {id : String} {parts : Parts count} :
    split count id = .ok parts ↔ split? count id = some parts.val := by
  unfold split
  split
  · rename_i found h
    rw [Except.ok.injEq, Subtype.ext_iff]
    show found = parts.val ↔ split? count id = some parts.val
    rw [h, Option.some.injEq]
  · rename_i h
    simp [h]

theorem split_eq_error_iff {count : Nat} {id : String} {e : Failure} :
    split count id = .error e ↔ e = .brokenId id ∧ split? count id = none := by
  unfold split
  split
  · rename_i found h
    simp [h]
  · rename_i h
    rw [h, Except.error.injEq, eq_comm]
    simp

theorem pair_eq_ok_iff {id a b : String} : pair id = .ok (a, b) ↔ split? 2 id = some [a, b] := by
  have hsplit : split 2 id = .ok ⟨[a, b], rfl⟩ ↔ split? 2 id = some [a, b] := split_eq_ok_iff
  rw [← hsplit]
  unfold pair
  split
  · rename_i c d _ h
    simp [h]
  · rename_i e h
    simp [h]

theorem pair_eq_error {id : String} {e : Failure} (h : pair id = .error e) : e = .brokenId id := by
  unfold pair at h
  split at h
  · cases h
  · rename_i hsplit
    obtain rfl := Except.error.inj h
    exact (split_eq_error_iff.1 hsplit).1

theorem split?_eq_some_iff {count : Nat} (hcount : 0 < count) {id : String} {parts : List String} :
    split? count id = some parts ↔ MadeOf id parts ∧ parts.length = count := by
  constructor
  · intro h
    obtain ⟨hjoin, hlen, hparts⟩ := of_split? h
    exact ⟨⟨hjoin.symm, hparts⟩, hlen⟩
  · rintro ⟨hmade, rfl⟩
    rw [hmade.joined]
    exact split?_join (List.ne_nil_of_length_pos hcount) hmade.isPart

/-- **What is read from an identity are the parts of which it is made.** An identity that is not made of as many parts
as are asked for is broken, and the failure has the whole of it. At least one part has to be asked for: the empty
identity is made of none, but it is broken. -/
theorem split_madeOf {count : Nat} (hcount : 0 < count) (id : String) :
    (∀ parts : Parts count, split count id = .ok parts ↔ MadeOf id parts) ∧
      ∀ e, split count id = .error e ↔ e = .brokenId id ∧ ¬∃ parts : Parts count, MadeOf id parts := by
  have hread : ∀ parts : Parts count, split? count id = some parts.val ↔ MadeOf id parts := fun parts => by
    rw [split?_eq_some_iff hcount, and_iff_left parts.property]
  refine ⟨fun parts => split_eq_ok_iff.trans (hread parts), fun e => ?_⟩
  rw [split_eq_error_iff]
  refine and_congr_right fun _ => ?_
  constructor
  · rintro hnone ⟨parts, hmade⟩
    rw [(hread parts).2 hmade] at hnone
    cases hnone
  · intro hnot
    rw [Option.eq_none_iff_forall_ne_some]
    intro parts h
    have hmade : MadeOf id parts := ((split?_eq_some_iff hcount).1 h).1
    exact hnot ⟨⟨parts, length_of_split? h⟩, hmade⟩

theorem split_madeOf_three :
    0 < 3 ∧ split 3 "dcdbt-1#root#%" = .ok ⟨["dcdbt-1", "root", "%"], rfl⟩ ∧
      0 < 2 ∧ split 2 "dcdbt-1#root#%" = .error (.brokenId "dcdbt-1#root#%") := by
  have three : MadeOf "dcdbt-1#root#%" ["dcdbt-1", "root", "%"] := ⟨by decide, by decide⟩
  refine ⟨by decide, ((split_madeOf (by decide) _).1 _).2 three, by decide, ?_⟩
  refine ((split_madeOf (by decide) _).2 _).2 ⟨rfl, ?_⟩
  rintro ⟨⟨parts, htwo⟩, hmade⟩
  have hparts : parts ≠ [] := List.ne_nil_of_length_pos (by omega)
  obtain rfl := three.unique hmade (by simp) hparts
  cases htwo

end Identity

end Provision
