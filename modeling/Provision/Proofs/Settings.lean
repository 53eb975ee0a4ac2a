import Provision.Proofs.Files
import Provision.Proofs.Json.Records
import Provision.Proofs.Json.Texts
import Provision.Settings

/-!
# Settings that are saved and loaded again

The text of saved settings is read field by field: each value comes back from the tree of its text
(`Reading.Rereads`), and so does the table of the rates (`rereads_table`). The table is a map, which has no order of
its own, so settings may be saved as any text that has its entries in some order (`Settings.Writes`). Main statement:
each of these texts is loaded as the same settings without the secrets, and it does not depend on the secrets
(`Settings.saved_reloads`).
-/

namespace Provision

namespace Json

variable {α β σ : Type}

/-! ## Reading the tree of a text -/

namespace Reading

variable {r : Reading α}

/-- A value is read back from the tree of its text. -/
def Rereads (r : Reading α) (enc : α → Json) (a : α) : Prop := r.source (tree (enc a)) = .ok a

theorem rereads_within {low high i : Int} (name : String) (h : low ≤ i ∧ i ≤ high) (hread : Readable i) :
    (within low high name).Rereads Json.int i := by
  have hhead : (tree (.int i)).head = .ok (.number (.int i)) := by
    have hnumber : (Number.int i).numeral.number = some (.int i) := number_numeral hread
    rw [Json.int, tree, Source.head, hnumber]
  simp only [Rereads, within, ofHead, hhead, Except.bind, if_pos h]
  rfl

/-- A natural number of at most 64 bits. -/
theorem rereads_natural {n limit : Nat} (name : String) (h : n ≤ limit) (hlimit : limit ≤ Text.Decimal.maxNat64) :
    ((within 0 limit name).map Int.toNat).Rereads (fun n => Json.int n) n := by
  have hrange : (0 : Int) ≤ n ∧ (n : Int) ≤ limit := ⟨Int.natCast_nonneg n, Int.ofNat_le.2 h⟩
  have hread : Readable n :=
    ⟨(by decide : Text.Decimal.minInt64 ≤ 0).trans hrange.1, hrange.2.trans (Int.ofNat_le.2 hlimit)⟩
  have hwithin : (within 0 limit name).source (tree (.int n)) = .ok n := rereads_within name hrange hread
  rw [Rereads, map]
  dsimp only
  rw [hwithin]
  rfl

theorem rereads_nat64 {n : Nat} (h : n ≤ Text.Decimal.maxNat64) : nat64.Rereads (fun n => Json.int n) n :=
  rereads_natural "u64" h (Nat.le_refl _)

theorem rereads_nat32 {n : Nat} (h : n ≤ Text.Decimal.maxNat32) : nat32.Rereads (fun n => Json.int n) n :=
  rereads_natural "u32" h (by decide)

/-- A text or null. -/
theorem rereads_optional (o : Option String) : text.option.Rereads Settings.optional o := by
  cases o <;> rfl

/-- A table comes back entry by entry. -/
theorem rereads_table {enc : α → Json} {entries : List (String × α)} (h : ∀ e ∈ entries, r.Rereads enc e.2) :
    r.table.Rereads (fun es => .object (es.map fun e => (e.1, enc e.2))) entries := by
  have hentries : (treeMembers (entries.map fun e => (e.1, enc e.2))).mapM
      (fun m => (r.source m.2).map (m.1, ·)) = .ok entries := by
    rw [treeMembers_eq, List.map_map]
    refine mapM_map_ok fun e he => ?_
    have hvalue : r.source (tree (enc e.2)) = .ok e.2 := h e he
    dsimp only [Function.comp]
    rw [hvalue]
    rfl
  simp only [Rereads, table, tree, hentries]
  rfl

end Reading

/-- A member that is read back changes the record by its value. -/
theorem Record.fillSource_of_rereads {r : Record σ} {name : String} {rd : Reading α} {put : α → σ → σ} {enc : α → Json}
    {a : α} {seen : List String} (hfield : r.field? name = some (.keeping name rd put)) (hseen : name ∉ seen)
    (h : rd.Rereads enc a) (x : σ) (rest : List (String × Source)) :
    r.fillSource seen x ((name, tree (enc a)) :: rest) = r.fillSource (name :: seen) (put a x) rest := by
  have hput : (Field.keeping name rd put).reading.source (tree (enc a)) = .ok (put a) := by
    show (rd.source (tree (enc a))).map put = .ok (put a)
    rw [h]
    rfl
  rw [fillSource, hfield]
  dsimp only
  rw [if_neg (by simpa using hseen), hput]

end Json

namespace Settings

open Json Reading

variable {s t : Settings}

/-! ## What is read of saved settings -/

/-- **The numbers and the table of settings are those of their types.** -/
structure Fits (s : Settings) : Prop where
  write : s.writeTimeoutSeconds ≤ Text.Decimal.maxNat64
  read : s.readTimeoutSeconds ≤ Text.Decimal.maxNat64
  rate : s.rateLimit ≤ Text.Decimal.maxNat32
  overrides : ∀ o ∈ s.rateLimitOverrides, o.2 ≤ Text.Decimal.maxNat32
  names : (s.rateLimitOverrides.map Prod.fst).Nodup

/-- All fields of saved settings are read, one after the other. -/
theorem ofText_pretty (h : s.Fits) : record.ofText s.saved.pretty =
    .ok { s.withoutSecrets with rateLimitOverrides := sorted s.rateLimitOverrides } := by
  have hfill : record.fillSource [] record.blank (treeMembers [
      ("region", optional s.region), ("secret_id", optional s.secretId), ("endpoint", optional s.endpoint),
      ("domain", optional s.domain), ("write_timeout_secs", .int s.writeTimeoutSeconds),
      ("read_timeout_secs", .int s.readTimeoutSeconds), ("rate_limit", .int s.rateLimit),
      ("rate_limit_overrides", .object (s.rateLimitOverrides.map fun o => (o.1, .int o.2)))]) =
      .ok { s.withoutSecrets with rateLimitOverrides := sorted s.rateLimitOverrides } := by
    simp only [treeMembers]
    rw [Record.fillSource_of_rereads (by rfl) (by simp) (rereads_optional s.region),
      Record.fillSource_of_rereads (by rfl) (by simp) (rereads_optional s.secretId),
      Record.fillSource_of_rereads (by rfl) (by simp) (rereads_optional s.endpoint),
      Record.fillSource_of_rereads (by rfl) (by simp) (rereads_optional s.domain),
      Record.fillSource_of_rereads (by rfl) (by simp) (rereads_nat64 h.write),
      Record.fillSource_of_rereads (by rfl) (by simp) (rereads_nat64 h.read),
      Record.fillSource_of_rereads (by rfl) (by simp) (rereads_nat32 h.rate),
      Record.fillSource_of_rereads (by rfl) (by simp) (rereads_table fun o ho => rereads_nat32 (h.overrides o ho))]
    rfl
  have hmissing : ∀ names, record.missing? names = none := fun _ => rfl
  simp only [Record.ofText, scan_pretty, saved, tree, Record.ofSource, hfill, hmissing]
  rfl

/-! ## Loading what was saved -/

/-- **Two settings are the same**: all fields are equal, and the overrides are the same map. -/
structure Same (s t : Settings) : Prop where
  fields : { s with rateLimitOverrides := [] } = { t with rateLimitOverrides := [] }
  overrides : s.rateLimitOverrides.Perm t.rateLimitOverrides

theorem Same.symm (h : s.Same t) : t.Same s := ⟨h.fields.symm, h.overrides.symm⟩

/-- **A text that settings are saved as**: the overrides are a map, and may be written in any order. -/
def Writes (s : Settings) (text : String) : Prop :=
  ∃ order, order.Perm s.rateLimitOverrides ∧ text = { s with rateLimitOverrides := order }.saved.pretty

/-- Settings that differ in the secrets only are saved as the same texts. -/
theorem Writes.of_same {text : String} (h : s.withoutSecrets.Same t.withoutSecrets) (hs : s.Writes text) :
    t.Writes text := by
  obtain ⟨order, horder, rfl⟩ := hs
  refine ⟨order, horder.trans h.overrides, congrArg Json.pretty (saved_of_eq_except ?_)⟩
  have hfields := congrArg (fun u : Settings => { u with rateLimitOverrides := order }) h.fields
  exact hfields

/-- Settings that are accepted when they are loaded: their endpoint is read as a URL. -/
def Addressed (readUrl : Url.Reader) (s : Settings) : Prop :=
  ∀ text, s.endpoint = some text → ∃ url, readUrl text = .ok url

variable {readUrl : Url.Reader}

theorem check_of_addressed (h : s.Addressed readUrl) : s.check readUrl = .ok s := by
  unfold check
  cases hendpoint : s.endpoint with
  | none => rfl
  | some text =>
    obtain ⟨url, hurl⟩ := h text hendpoint
    simp only [hurl]

theorem ofText_of_writes {text : String} (hfits : s.Fits) (haddress : s.Addressed readUrl) (h : s.Writes text)
    (path : String) : ∃ t, ofText readUrl path text = .ok t ∧ t.Same s.withoutSecrets := by
  obtain ⟨order, horder, rfl⟩ := h
  have hnames : (order.map Prod.fst).Nodup := (horder.map Prod.fst).nodup_iff.2 hfits.names
  have hordered : Fits { s with rateLimitOverrides := order } :=
    ⟨hfits.write, hfits.read, hfits.rate, fun o ho => hfits.overrides o (horder.mem_iff.1 ho), hnames⟩
  refine ⟨{ s.withoutSecrets with rateLimitOverrides := sorted order }, ?_, rfl, (sorted_perm hnames).trans horder⟩
  rw [ofText, ofText_pretty hordered]
  exact check_of_addressed haddress

/-- **Settings are saved without the secrets and without loss.** Whatever text they are saved as, it is loaded as the
same settings without the secrets, also from the file to which it was saved; and settings that differ in the secrets
only are saved as the same texts. All of this whichever texts are URLs, as long as the endpoint is one. -/
theorem saved_reloads (readUrl : Url.Reader) (s : Settings) (hfits : s.Fits) (haddress : s.Addressed readUrl) :
    (∀ text, s.Writes text → ∀ path, ∃ t, ofText readUrl path text = .ok t ∧ t.Same s.withoutSecrets) ∧
    (∀ order fs path after, order.Perm s.rateLimitOverrides →
      save fs path { s with rateLimitOverrides := order } = (after, true) →
      ∃ t, ofFile readUrl after path = .ok t ∧ t.Same s.withoutSecrets) ∧
    ∀ t : Settings, t.withoutSecrets.Same s.withoutSecrets → ∀ text, t.Writes text ↔ s.Writes text := by
  refine ⟨fun text h => ofText_of_writes hfits haddress h, fun order fs path after horder hsave => ?_,
    fun t ht text => ⟨.of_same ht, .of_same ht.symm⟩⟩
  rw [ofFile, Files.read?_of_save hsave]
  exact ofText_of_writes hfits haddress ⟨order, horder, rfl⟩ path

/-- Settings with a line feed, an empty text, the greatest numbers, and overrides that are not in order. -/
def wide : Settings where
  region := some "广州\n"
  secretId := some ""
  secretKey := some "key"
  securityToken := some "token"
  endpoint := some "https://example.com"
  writeTimeoutSeconds := 18446744073709551615
  readTimeoutSeconds := 0
  rateLimitOverrides := [("b", 1), ("a", 4294967295)]

theorem wide_reloads :
    (wide.Fits ∧ wide.Addressed Url.parse) ∧
    (∃ t, ofText Url.parse "config.json" wide.saved.pretty = .ok t ∧ t.Same wide.withoutSecrets) ∧
    wide.Writes { wide with secretKey := none, rateLimitOverrides := [("a", 4294967295), ("b", 1)] }.saved.pretty := by
  have hfits : wide.Fits := ⟨by decide, by decide, by decide, by decide, by decide⟩
  have haddress : wide.Addressed Url.parse := by
    have parsed : (Url.parse "https://example.com").toOption.isSome = true := by decide +kernel
    rintro text ⟨⟩
    cases hp : Url.parse "https://example.com" with
    | ok url => exact ⟨url, rfl⟩
    | error why => simp [hp, Except.toOption] at parsed
  obtain ⟨hloads, -, halike⟩ := saved_reloads Url.parse wide hfits haddress
  have hswap : [("a", 4294967295), ("b", 1)].Perm wide.rateLimitOverrides := .swap _ _ _
  refine ⟨⟨hfits, haddress⟩, hloads _ ⟨_, .refl _, rfl⟩ _, ?_⟩
  exact (halike { wide with secretKey := none } ⟨rfl, .refl _⟩ _).1 ⟨_, hswap, rfl⟩

end Settings

end Provision
