import Provision.Proofs.Json.Members
import Provision.Proofs.Json.Numerals

/-!
# Reading back what was written

A value that is written in its indented form reads back, with the members of its objects in order. A string comes back
character by character (`pieces_escaped`), a number as its digits (`Number.numeral?_chars`), and the tree of a value
comes back from its text whatever follows it (`scanValue_indented`). Main statements: `scan_pretty`, `parse?_pretty`.
-/

namespace Provision.Json

/-! ## Strings -/

theorem hexDigit?_digitChar : ∀ d < 16, hexDigit? (Nat.digitChar d) = some d := by decide

theorem pieces_hexPair {n : Nat} (h : n < 0x20) (rest : List Char) :
    pieces ('\\' :: 'u' :: '0' :: '0' :: (hexPair n ++ rest)) = (pieces rest).map fun p => (.unit n :: p.1, p.2) := by
  have zero : hexDigit? '0' = some 0 := by decide
  have value : ((0 * 16 + 0) * 16 + n / 16) * 16 + n % 16 = n := by omega
  simp only [hexPair, List.cons_append, List.nil_append, pieces, zero, hexDigit?_digitChar (n / 16) (by omega),
    hexDigit?_digitChar (n % 16) (by omega), value]

theorem spell_unit {n : Nat} (h : n < 0xD800) (ps : List Piece) :
    spell (.unit n :: ps) = (spell ps).map (Char.ofNat n :: ·) := by
  cases ps with
  | nil => simp only [spell, if_pos (Or.inl h : n < 0xD800 ∨ 0xDFFF < n)]
  | cons q ps => cases q <;> simp only [spell, if_pos (Or.inl h : n < 0xD800 ∨ 0xDFFF < n)]

/-- A character comes back as one piece, which spells the character. -/
theorem exists_piece (c : Char) : ∃ q : Piece,
    (∀ rest, pieces (escape c ++ rest) = (pieces rest).map fun p => (q :: p.1, p.2)) ∧
      ∀ ps, spell (q :: ps) = (spell ps).map (c :: ·) := by
  unfold escape
  split
  · exact ⟨.char '"', fun _ => rfl, fun _ => rfl⟩
  · exact ⟨.char '\\', fun _ => rfl, fun _ => rfl⟩
  · exact ⟨.char '\x08', fun _ => rfl, fun _ => rfl⟩
  · exact ⟨.char '\x09', fun _ => rfl, fun _ => rfl⟩
  · exact ⟨.char '\x0a', fun _ => rfl, fun _ => rfl⟩
  · exact ⟨.char '\x0c', fun _ => rfl, fun _ => rfl⟩
  · exact ⟨.char '\x0d', fun _ => rfl, fun _ => rfl⟩
  · rename_i hquote hbackslash _ _ _ _ _
    split
    · rename_i hlow
      refine ⟨.unit c.toNat, fun rest => pieces_hexPair hlow rest, fun ps => ?_⟩
      rw [spell_unit (Nat.lt_trans hlow (by omega)), Char.ofNat_toNat]
    · rename_i hlow
      refine ⟨.char c, fun rest => ?_, fun _ => rfl⟩
      have plain : ¬(c.toNat < 0x20 ∨ c = '\\') := not_or.2 ⟨hlow, hbackslash⟩
      rw [List.cons_append, List.nil_append, pieces, if_neg plain]
      · exact hquote
      · exact fun _ _ _ _ _ h => absurd h hbackslash
      · exact fun _ _ h => absurd h hbackslash

/-- **A string is read back from between its quotes.** -/
theorem pieces_escaped (s rest : List Char) :
    ∃ ps, pieces (s.flatMap escape ++ '"' :: rest) = some (ps, rest) ∧ spell ps = some s := by
  induction s with
  | nil => exact ⟨[], rfl, rfl⟩
  | cons c s ih =>
    obtain ⟨q, hpieces, hspell⟩ := exists_piece c
    obtain ⟨ps, hps, hs⟩ := ih
    refine ⟨q :: ps, ?_, ?_⟩
    · rw [List.flatMap_cons, List.append_assoc, hpieces, hps]
      rfl
    · rw [hspell, hs]
      rfl

/-! ## Values -/

mutual

/-- Whether a value is read back from a text: its numbers are legible, and it is nested at most `levels` deep. -/
def Fits (levels : Nat) : Json → Prop
  | .number n => n.Legible
  | .array items =>
    match levels with
    | 0 => False
    | l + 1 => FitsItems l items
  | .object members =>
    match levels with
    | 0 => False
    | l + 1 => FitsMembers l members
  | .null | .bool _ | .string _ => True

/-- The same of all items. -/
def FitsItems (levels : Nat) : List Json → Prop
  | [] => True
  | v :: rest => Fits levels v ∧ FitsItems levels rest

/-- The same of all members. -/
def FitsMembers (levels : Nat) : List (String × Json) → Prop
  | [] => True
  | (_, v) :: rest => Fits levels v ∧ FitsMembers levels rest

end

mutual

/-- A value as a text tells it: the members of its objects are in order, and of two with one name the later counts;
its numbers are what is read of them. -/
def told : Json → Json
  | .array items => .array (toldItems items)
  | .object members => ofMembers (toldMembers members)
  | .null => .null
  | .bool b => .bool b
  | .number n => .number n.retold
  | .string s => .string s

/-- The items as a text tells them. -/
def toldItems : List Json → List Json
  | [] => []
  | v :: rest => told v :: toldItems rest

/-- The members as a text tells them, in the order of the text. -/
def toldMembers : List (String × Json) → List (String × Json)
  | [] => []
  | (k, v) :: rest => (k, told v) :: toldMembers rest

end

theorem fitsItems_iff {levels : Nat} {items : List Json} :
    FitsItems levels items ↔ ∀ v ∈ items, Fits levels v := by
  induction items with
  | nil => simp [FitsItems]
  | cons v rest ih => simp [FitsItems, ih]

theorem fitsMembers_iff {levels : Nat} {members : List (String × Json)} :
    FitsMembers levels members ↔ ∀ m ∈ members, Fits levels m.2 := by
  induction members with
  | nil => simp [FitsMembers]
  | cons m rest ih => simp [FitsMembers, ih]

theorem toldItems_eq (items : List Json) : toldItems items = items.map told := by
  induction items with
  | nil => rfl
  | cons v rest ih => rw [toldItems, ih, List.map_cons]

theorem toldMembers_eq (members : List (String × Json)) :
    toldMembers members = members.map fun m => (m.1, told m.2) := by
  induction members with
  | nil => rfl
  | cons m rest ih => rw [toldMembers, ih, List.map_cons]

@[simp] theorem told_string (s : String) : told (.string s) = .string s := by rw [told]

@[simp] theorem told_int (i : Int) : told (.int i) = .int i := by rw [told, Number.retold]

@[simp] theorem told_array (items : List Json) : told (.array items) = .array (items.map told) := by
  rw [told, toldItems_eq]

/-- Members that are in order stay so. -/
theorem told_object {members : List (String × Json)} (h : Ordered members) :
    told (.object members) = .object (members.map fun m => (m.1, told m.2)) := by
  have hordered : Ordered (members.map fun m => (m.1, told m.2)) := List.pairwise_map.2 h
  rw [told, toldMembers_eq, ofMembers, sorted_of_ordered hordered]

mutual

/-- The tree of the text of a value. -/
def tree : Json → Source
  | .null => .null
  | .bool b => .bool b
  | .number n => .number n.numeral
  | .string s => .string (some s)
  | .array items => .array (trees items) true
  | .object members => .object (treeMembers members) true

/-- The trees of the items. -/
def trees : List Json → List Source
  | [] => []
  | v :: rest => tree v :: trees rest

/-- The trees of the members. -/
def treeMembers : List (String × Json) → List (String × Source)
  | [] => []
  | (k, v) :: rest => (k, tree v) :: treeMembers rest

end

theorem treeMembers_eq (members : List (String × Json)) :
    treeMembers members = members.map fun m => (m.1, tree m.2) := by
  induction members with
  | nil => rfl
  | cons m rest ih => rw [treeMembers, ih, List.map_cons]

mutual

theorem toJson_tree : ∀ {levels : Nat} {v : Json}, Fits levels v → (tree v).toJson levels = some (told v)
  | _, .null, _ => by simp only [tree, Source.toJson, told]
  | _, .bool _, _ => by simp only [tree, Source.toJson, told]
  | _, .number n, h => by
    rw [Fits] at h
    simp only [tree, Source.toJson, told, Number.number_numeral h, Option.map_some]
  | _, .string _, _ => by simp only [tree, Source.toJson, told, Option.map_some]
  | 0, .array _, h => by simp only [Fits] at h
  | levels + 1, .array items, h => by
    simp only [Fits] at h
    simp only [tree, Source.toJson, told, if_true, itemsToJson_trees h, Option.map_some]
  | 0, .object _, h => by simp only [Fits] at h
  | levels + 1, .object members, h => by
    simp only [Fits] at h
    simp only [tree, Source.toJson, told, if_true, membersToJson_treeMembers h, Option.map_some]

theorem itemsToJson_trees : ∀ {levels : Nat} {items : List Json}, FitsItems levels items →
    Source.itemsToJson levels (trees items) = some (toldItems items)
  | _, [], _ => by simp only [trees, Source.itemsToJson, toldItems]
  | _, v :: rest, h => by
    rw [FitsItems] at h
    simp only [trees, Source.itemsToJson, toldItems, toJson_tree h.1, itemsToJson_trees h.2]

theorem membersToJson_treeMembers : ∀ {levels : Nat} {members : List (String × Json)}, FitsMembers levels members →
    Source.membersToJson levels (treeMembers members) = some (toldMembers members)
  | _, [], _ => by simp only [treeMembers, Source.membersToJson, toldMembers]
  | _, (k, v) :: rest, h => by
    rw [FitsMembers] at h
    simp only [treeMembers, Source.membersToJson, toldMembers, toJson_tree h.1, membersToJson_treeMembers h.2]

end

/-! ## Scanning -/

/-- A scan gives a value and leaves the rest of a text. -/
def Scan.Gives {α : Type} {s : List Char} (x : Scan α s) (a : α) (rest : List Char) : Prop :=
  x.value = a ∧ x.rest.map Subtype.val = some rest

theorem Scan.Gives.within {α β : Type} {s t rest : List Char} {x : Scan α t} {a : α} (hx : x.Gives a rest) (f : α → β)
    (h : t.length < s.length) : (x.within f h : Scan β s).Gives (f a) rest := by
  obtain ⟨rfl, hrest⟩ := hx
  refine ⟨rfl, ?_⟩
  rw [Scan.within, Option.map_map]
  exact hrest

variable {s t rest : List Char}

theorem after?_append (letters : List Char) : after? letters (letters ++ rest) = some rest := by
  induction letters with
  | nil => rfl
  | cons l letters ih => rw [List.cons_append, after?, if_pos rfl, ih]

theorem word_gives (letters : List Char) {value : Source} (ht : t.length < s.length) (h : t = letters ++ rest) :
    (word letters value ht).Gives value rest := by
  subst h
  unfold word
  split
  · rename_i rest' h'
    rw [after?_append] at h'
    cases h'
    exact ⟨rfl, rfl⟩
  · rename_i h'
    rw [after?_append] at h'
    cases h'

/-- A value whose first character is known. -/
theorem scanValue_eq {c : Char} (h : skipSpace s = c :: t) : scanValue s =
    if c = '"' then
      match hp : pieces t with
      | some p =>
        ⟨.string ((spell p.1).map String.ofList), some ⟨p.2, Nat.lt_trans (length_pieces_lt hp) (lt_of_skipSpace h)⟩⟩
      | none => ⟨.broken, none⟩
    else if c = '[' then
      match hb : skipSpace t with
      | ']' :: rest => ⟨.array [] true, some ⟨rest, Nat.lt_trans (lt_of_skipSpace hb) (lt_of_skipSpace h)⟩⟩
      | _ => (scanItems t).within (fun p => .array p.1 p.2) (lt_of_skipSpace h)
    else if c = '\x7b' then
      match hb : skipSpace t with
      | '\x7d' :: rest => ⟨.object [] true, some ⟨rest, Nat.lt_trans (lt_of_skipSpace hb) (lt_of_skipSpace h)⟩⟩
      | _ => (scanMembers t).within (fun p => .object p.1 p.2) (lt_of_skipSpace h)
    else if c = 'n' then word ['u', 'l', 'l'] .null (lt_of_skipSpace h)
    else if c = 't' then word ['r', 'u', 'e'] (.bool true) (lt_of_skipSpace h)
    else if c = 'f' then word ['a', 'l', 's', 'e'] (.bool false) (lt_of_skipSpace h)
    else
      match hn : numeral? (c :: t) with
      | some p =>
        ⟨.number p.1, some ⟨p.2, Nat.lt_of_lt_of_le (length_numeral?_lt hn) (h ▸ length_skipSpace_le s)⟩⟩
      | none => ⟨.broken, none⟩ := by
  rw [scanValue]
  split
  · rename_i hs
    rw [h] at hs
    cases hs
  · rename_i c' t' hs
    rw [h] at hs
    cases hs
    rfl

theorem scanValue_null (h : skipSpace s = 'n' :: 'u' :: 'l' :: 'l' :: rest) : (scanValue s).Gives .null rest := by
  rw [scanValue_eq h]
  exact word_gives ['u', 'l', 'l'] (lt_of_skipSpace h) rfl

theorem scanValue_true (h : skipSpace s = 't' :: 'r' :: 'u' :: 'e' :: rest) :
    (scanValue s).Gives (.bool true) rest := by
  rw [scanValue_eq h]
  exact word_gives ['r', 'u', 'e'] (lt_of_skipSpace h) rfl

theorem scanValue_false (h : skipSpace s = 'f' :: 'a' :: 'l' :: 's' :: 'e' :: rest) :
    (scanValue s).Gives (.bool false) rest := by
  rw [scanValue_eq h]
  exact word_gives ['a', 'l', 's', 'e'] (lt_of_skipSpace h) rfl

theorem scanValue_string {k : List Char} (h : skipSpace s = '"' :: (k.flatMap escape ++ '"' :: rest)) :
    (scanValue s).Gives (.string (some (String.ofList k))) rest := by
  obtain ⟨ps, hps, hspell⟩ := pieces_escaped k rest
  rw [scanValue_eq h, if_pos rfl]
  split
  · rename_i p hp
    rw [hps] at hp
    cases hp
    exact ⟨by rw [hspell, Option.map_some], rfl⟩
  · rename_i hp
    rw [hps] at hp
    cases hp

theorem scanValue_number {c : Char} {n : Numeral} (h : skipSpace s = c :: t) (hc : Begins c)
    (hn : numeral? (c :: t) = some (n, rest)) : (scanValue s).Gives (.number n) rest := by
  rw [scanValue_eq h, if_neg (ne_of_begins hc (by decide)), if_neg (ne_of_begins hc (by decide)),
    if_neg (ne_of_begins hc (by decide)), if_neg (ne_of_begins hc (by decide)),
    if_neg (ne_of_begins hc (by decide)), if_neg (ne_of_begins hc (by decide))]
  split
  · rename_i p hp
    rw [hn] at hp
    cases hp
    exact ⟨rfl, rfl⟩
  · rename_i hp
    rw [hn] at hp
    cases hp

theorem scanValue_array_nil (h : skipSpace s = '[' :: t) (ht : skipSpace t = ']' :: rest) :
    (scanValue s).Gives (.array [] true) rest := by
  rw [scanValue_eq h, if_neg (by decide), if_pos rfl]
  split
  · rename_i rest' hb
    rw [ht] at hb
    cases hb
    exact ⟨rfl, rfl⟩
  · rename_i hb
    exact absurd ht (hb rest)

theorem scanValue_array {items : List Source} {closed : Bool} (h : skipSpace s = '[' :: t)
    (ht : ∀ r, skipSpace t ≠ ']' :: r) (hi : (scanItems t).Gives (items, closed) rest) :
    (scanValue s).Gives (.array items closed) rest := by
  rw [scanValue_eq h, if_neg (by decide), if_pos rfl]
  split
  · rename_i rest' hb
    exact absurd hb (ht rest')
  · exact hi.within (fun p => Source.array p.1 p.2) _

theorem scanValue_object_nil (h : skipSpace s = '\x7b' :: t) (ht : skipSpace t = '\x7d' :: rest) :
    (scanValue s).Gives (.object [] true) rest := by
  rw [scanValue_eq h, if_neg (by decide), if_neg (by decide), if_pos rfl]
  split
  · rename_i rest' hb
    rw [ht] at hb
    cases hb
    exact ⟨rfl, rfl⟩
  · rename_i hb
    exact absurd ht (hb rest)

theorem scanValue_object {members : List (String × Source)} {closed : Bool} (h : skipSpace s = '\x7b' :: t)
    (ht : ∀ r, skipSpace t ≠ '\x7d' :: r) (hm : (scanMembers t).Gives (members, closed) rest) :
    (scanValue s).Gives (.object members closed) rest := by
  rw [scanValue_eq h, if_neg (by decide), if_neg (by decide), if_pos rfl]
  split
  · rename_i rest' hb
    exact absurd hb (ht rest')
  · exact hm.within (fun p => Source.object p.1 p.2) _

/-- After an item the bracket ends the list, and a comma goes on to the other items. -/
theorem scanItems_step {v : Source} {r : List Char} (hv : (scanValue s).Gives v r) :
    (skipSpace r = ']' :: rest → (scanItems s).Gives ([v], true) rest) ∧
      ∀ {items closed}, skipSpace r = ',' :: t → (scanItems t).Gives (items, closed) rest →
        (scanItems s).Gives (v :: items, closed) rest := by
  obtain ⟨hvalue, hrest⟩ := hv
  rw [scanItems]
  simp only
  split
  · rename_i hx
    rw [hx] at hrest
    cases hrest
  · rename_i r' hr' hx
    rw [hx] at hrest
    cases hrest
    split
    · rename_i ht
      refine ⟨fun hr => ?_, fun hr hi => ?_⟩
      · rw [hr] at ht
        cases ht
      · rw [hr] at ht
        cases ht
        rw [hvalue]
        exact hi.within (fun p => (v :: p.1, p.2)) _
    · rename_i ht
      refine ⟨fun hr => ?_, fun hr => ?_⟩
      · rw [hr] at ht
        cases ht
        exact ⟨by rw [hvalue], rfl⟩
      · rw [hr] at ht
        cases ht
    · rename_i hcomma hbracket
      exact ⟨fun hr => absurd hr (hbracket rest), fun hr => absurd hr (hcomma t)⟩

/-- After a member the brace ends the object, and a comma goes on to the other members. -/
theorem scanMembers_step {k u r : List Char} {v : Source}
    (hs : skipSpace s = '"' :: (k.flatMap escape ++ '"' :: ':' :: u)) (hv : (scanValue u).Gives v r) :
    (skipSpace r = '\x7d' :: rest → (scanMembers s).Gives ([(String.ofList k, v)], true) rest) ∧
      ∀ {members closed}, skipSpace r = ',' :: t → (scanMembers t).Gives (members, closed) rest →
        (scanMembers s).Gives ((String.ofList k, v) :: members, closed) rest := by
  obtain ⟨hvalue, hrest⟩ := hv
  obtain ⟨ps, hps, hspell⟩ := pieces_escaped k (':' :: u)
  rw [scanMembers]
  split
  · rename_i t' ht'
    rw [hs] at ht'
    cases ht'
    split
    · rename_i hp
      rw [hps] at hp
      cases hp
    · rename_i p hp
      rw [hps] at hp
      cases hp
      split
      · rename_i hk
        rw [hspell] at hk
        cases hk
      · rename_i name hk
        rw [hspell] at hk
        cases hk
        split
        · rename_i u' hc
          obtain rfl : u = u' := (List.cons.inj hc).2
          simp only
          split
          · rename_i hx
            rw [hx] at hrest
            cases hrest
          · rename_i r' hr' hx
            rw [hx] at hrest
            cases hrest
            split
            · rename_i ht
              refine ⟨fun hr => ?_, fun hr hm => ?_⟩
              · rw [hr] at ht
                cases ht
              · rw [hr] at ht
                cases ht
                rw [hvalue]
                exact hm.within (fun p => ((String.ofList k, v) :: p.1, p.2)) _
            · rename_i ht
              refine ⟨fun hr => ?_, fun hr => ?_⟩
              · rw [hr] at ht
                cases ht
                exact ⟨by rw [hvalue], rfl⟩
              · rw [hr] at ht
                cases ht
            · rename_i hcomma hbrace
              exact ⟨fun hr => absurd hr (hbrace rest), fun hr => absurd hr (hcomma t)⟩
        · rename_i hc
          exact absurd rfl (hc u)
  · rename_i hquote
    exact absurd hs (hquote _)

/-! ## Indented texts -/

theorem skipSpace_of_not {c : Char} (h : isSpace c = false) (t : List Char) : skipSpace (c :: t) = c :: t :=
  List.dropWhile_cons_of_neg (by simp [h])

theorem skipSpace_newline (level : Nat) (t : List Char) : skipSpace (newline level ++ t) = skipSpace t := by
  have blanks : ∀ c ∈ newline level, isSpace c = true := by
    intro c hc
    rcases List.mem_cons.1 hc with rfl | hc
    · rfl
    · rw [List.eq_of_mem_replicate hc]
      rfl
  exact List.dropWhile_append_of_pos blanks

theorem closes_newline (level : Nat) (t : List Char) : Closes (newline level ++ t) := by
  intro c hc
  obtain rfl : '\n' = c := Option.some.inj hc
  decide

theorem closes_comma (t : List Char) : Closes (',' :: t) := by
  intro c hc
  obtain rfl : ',' = c := Option.some.inj hc
  decide

/-- A character that is neither a blank nor a closing bracket or brace. -/
def Opens (c : Char) : Prop := isSpace c = false ∧ c ≠ ']' ∧ c ≠ '\x7d'

instance (c : Char) : Decidable (Opens c) := inferInstanceAs (Decidable (_ ∧ _ ∧ _))

theorem opens_of_begins {c : Char} (h : Begins c) : Opens c := by
  refine ⟨?_, ne_of_begins h (by decide), ne_of_begins h (by decide)⟩
  simp only [isSpace, Bool.or_eq_false_iff, beq_eq_false_iff_ne]
  exact ⟨⟨⟨ne_of_begins h (by decide), ne_of_begins h (by decide)⟩, ne_of_begins h (by decide)⟩,
    ne_of_begins h (by decide)⟩

theorem word_toList : "null".toList = ['n', 'u', 'l', 'l'] ∧ "true".toList = ['t', 'r', 'u', 'e'] ∧
    "false".toList = ['f', 'a', 'l', 's', 'e'] := by decide

theorem indented_head : ∀ (v : Json) (level : Nat), ∃ c t, indented level v = c :: t ∧ Opens c
  | .null, _ => ⟨'n', ['u', 'l', 'l'], by simp only [indented, chars, word_toList], by decide⟩
  | .bool true, _ => ⟨'t', ['r', 'u', 'e'], by simp only [indented, chars, word_toList], by decide⟩
  | .bool false, _ => ⟨'f', ['a', 'l', 's', 'e'], by simp only [indented, chars, word_toList], by decide⟩
  | .number n, level => by
    obtain ⟨c, t, h, hc⟩ := n.head_chars
    exact ⟨c, t, by simp only [indented, h], opens_of_begins hc⟩
  | .string _, _ => ⟨'"', _, by rw [indented, quoted, List.cons_append], by decide⟩
  | .array [], _ => ⟨'[', [']'], by rw [indented], by decide⟩
  | .array (_ :: _), _ => ⟨'[', _, by rw [indented, List.cons_append, List.cons_append]; simp, by decide⟩
  | .object [], _ => ⟨'\x7b', ['\x7d'], by rw [indented], by decide⟩
  | .object (_ :: _), _ => ⟨'\x7b', _, by rw [indented, List.cons_append, List.cons_append]; simp, by decide⟩

/-- A value is found behind blanks. -/
theorem skipSpace_indented (v : Json) (level : Nat) (t : List Char) :
    skipSpace (indented level v ++ t) = indented level v ++ t := by
  obtain ⟨c, u, hhead, hc⟩ := indented_head v level
  rw [hhead, List.cons_append, skipSpace_of_not hc.1]

theorem skipSpace_item (v : Json) (level : Nat) (t : List Char) :
    skipSpace (newline level ++ indented level v ++ t) = indented level v ++ t := by
  rw [List.append_assoc, skipSpace_newline, skipSpace_indented]

theorem skipSpace_member (k : String) (v : Json) (level : Nat) (t : List Char) :
    skipSpace (newline level ++ quoted k ++ ':' :: ' ' :: indented level v ++ t) =
      '"' :: (k.toList.flatMap escape ++ '"' :: ':' :: ' ' :: (indented level v ++ t)) := by
  simp only [quoted, List.append_assoc, List.cons_append, List.nil_append, skipSpace_newline]
  rfl

mutual

/-- **A value is scanned off its text, whatever follows it.** -/
theorem scanValue_indented : ∀ (v : Json) (level : Nat) {s rest : List Char},
    skipSpace s = indented level v ++ rest → Closes rest → (scanValue s).Gives (tree v) rest
  | .null, level, s, rest, h, _ => by
    simp only [indented, chars, word_toList] at h
    rw [tree]
    exact scanValue_null h
  | .bool true, level, s, rest, h, _ => by
    simp only [indented, chars, word_toList] at h
    rw [tree]
    exact scanValue_true h
  | .bool false, level, s, rest, h, _ => by
    simp only [indented, chars, word_toList] at h
    rw [tree]
    exact scanValue_false h
  | .number n, level, s, rest, h, hrest => by
    simp only [indented] at h
    obtain ⟨c, t, hhead, hc⟩ := n.head_chars
    have hn := n.numeral?_chars hrest
    rw [hhead] at h hn
    rw [tree]
    exact scanValue_number h hc hn
  | .string k, level, s, rest, h, _ => by
    rw [indented, quoted, List.cons_append, List.cons_append, List.append_assoc] at h
    rw [tree]
    have hstring := scanValue_string h
    rwa [String.ofList_toList] at hstring
  | .array [], level, s, rest, h, _ => by
    rw [indented] at h
    rw [tree, trees]
    exact scanValue_array_nil h rfl
  | .array (v :: items), level, s, rest, h, _ => by
    obtain ⟨hnot, hitems⟩ := scanItems_indented (v :: items) (List.cons_ne_nil v items) (level + 1) level rest
    rw [tree]
    refine scanValue_array ?_ hnot hitems
    rw [h, indented]
    · simp only [List.cons_append, List.append_assoc, List.nil_append]
    · exact List.cons_ne_nil _ _
  | .object [], level, s, rest, h, _ => by
    rw [indented] at h
    rw [tree, treeMembers]
    exact scanValue_object_nil h rfl
  | .object (m :: members), level, s, rest, h, _ => by
    obtain ⟨hnot, hmembers⟩ := scanMembers_indented (m :: members) (List.cons_ne_nil m members) (level + 1) level rest
    rw [tree]
    refine scanValue_object ?_ hnot hmembers
    rw [h, indented]
    · simp only [List.cons_append, List.append_assoc, List.nil_append]
    · exact List.cons_ne_nil _ _

theorem scanItems_indented : ∀ (items : List Json), items ≠ [] → ∀ (level below : Nat) (rest : List Char),
    (∀ r, skipSpace (indentedItems level items ++ (newline below ++ ']' :: rest)) ≠ ']' :: r) ∧
      (scanItems (indentedItems level items ++ (newline below ++ ']' :: rest))).Gives (trees items, true) rest
  | [], hne, _, _, _ => absurd rfl hne
  | [v], _, level, below, rest => by
    obtain ⟨c, t, hhead, hc⟩ := indented_head v level
    have hskip := skipSpace_item v level (newline below ++ ']' :: rest)
    have hv := scanValue_indented v level hskip (closes_newline below _)
    rw [indentedItems, trees, trees]
    refine ⟨fun r hr => ?_, (scanItems_step (t := []) hv).1 (skipSpace_newline below _)⟩
    rw [hskip, hhead] at hr
    exact hc.2.1 (List.cons.inj hr).1
  | v :: w :: items, _, level, below, rest => by
    obtain ⟨c, t, hhead, hc⟩ := indented_head v level
    have hskip := skipSpace_item v level
      (',' :: (indentedItems level (w :: items) ++ (newline below ++ ']' :: rest)))
    have hv := scanValue_indented v level hskip (closes_comma _)
    obtain ⟨-, hitems⟩ := scanItems_indented (w :: items) (List.cons_ne_nil w items) level below rest
    rw [indentedItems, trees, List.append_assoc, List.cons_append]
    · refine ⟨fun r hr => ?_, (scanItems_step hv).2 rfl hitems⟩
      rw [hskip, hhead] at hr
      exact hc.2.1 (List.cons.inj hr).1
    · exact List.cons_ne_nil _ _

theorem scanMembers_indented : ∀ (members : List (String × Json)), members ≠ [] → ∀ (level below : Nat)
    (rest : List Char),
    (∀ r, skipSpace (indentedMembers level members ++ (newline below ++ '\x7d' :: rest)) ≠ '\x7d' :: r) ∧
      (scanMembers (indentedMembers level members ++ (newline below ++ '\x7d' :: rest))).Gives
        (treeMembers members, true) rest
  | [], hne, _, _, _ => absurd rfl hne
  | [(k, v)], _, level, below, rest => by
    have hskip := skipSpace_member k v level (newline below ++ '\x7d' :: rest)
    have hv := scanValue_indented (s := ' ' :: (indented level v ++ (newline below ++ '\x7d' :: rest))) v level
      (skipSpace_indented v level _) (closes_newline below _)
    rw [indentedMembers, treeMembers, treeMembers]
    refine ⟨fun r hr => ?_, ?_⟩
    · rw [hskip] at hr
      cases hr
    · have hstep := (scanMembers_step (t := []) hskip hv).1 (skipSpace_newline below _)
      rwa [String.ofList_toList] at hstep
  | (k, v) :: n :: members, _, level, below, rest => by
    have hskip := skipSpace_member k v level
      (',' :: (indentedMembers level (n :: members) ++ (newline below ++ '\x7d' :: rest)))
    have hv : ∀ others, (scanValue (' ' :: (indented level v ++ ',' :: others))).Gives (tree v) (',' :: others) :=
      fun others => scanValue_indented v level (skipSpace_indented v level _) (closes_comma others)
    obtain ⟨-, hmembers⟩ := scanMembers_indented (n :: members) (List.cons_ne_nil n members) level below rest
    rw [indentedMembers, treeMembers, List.append_assoc, List.cons_append]
    · refine ⟨fun r hr => ?_, ?_⟩
      · rw [hskip] at hr
        cases hr
      · have hstep := (scanMembers_step hskip (hv _)).2 rfl hmembers
        rwa [String.ofList_toList] at hstep
    · exact List.cons_ne_nil _ _

end

/-- **The tree of a value is scanned off its indented text.** -/
theorem scan_pretty (v : Json) : scan v.pretty.toList = ⟨tree v, true⟩ := by
  have hrest : Closes [] := fun c hc => by cases hc
  have hskip : skipSpace v.pretty.toList = indented 0 v ++ [] := by
    have hindented := skipSpace_indented v 0 []
    rw [List.append_nil] at hindented ⊢
    rw [pretty, String.toList_ofList, hindented]
  obtain ⟨hvalue, hend⟩ := scanValue_indented v 0 hskip hrest
  obtain ⟨r, hr, hnil⟩ := Option.map_eq_some_iff.1 hend
  simp only [scan, hr, hnil, Option.any_some, hvalue]
  rfl

/-- **A value that is written in its indented form reads back.** -/
theorem parse?_pretty {v : Json} (h : Fits maxLevels v) : parse? v.pretty = some (told v) := by
  rw [parse?, scan_pretty]
  exact toJson_tree h

end Provision.Json
