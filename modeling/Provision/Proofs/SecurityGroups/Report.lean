import Provision.Proofs.Json.Records
import Provision.Proofs.Json.Texts
import Provision.SecurityGroups.Read

/-!
# Reports of security groups

The list of groups that a query writes to a file reads back. An entry is written in the order of its fields; a text
tells its members in the order of their names (`Entry.told_toJson`), and a reader of entries finds them by name
(`Entry.ofValue_told`). Main statement: the text of a list of entries stands for exactly these entries
(`entriesOf?_list`).
-/

namespace Provision.SecurityGroups

open Json Json.Record Json.Reading

namespace Entry

/-- How an entry is read. -/
def record : Record Entry where
  title := "struct SecurityGroupRecord"
  blank := ⟨"", "", "", "", 0, 0⟩
  fields := [
    .keeping "id" .text fun v e => { e with id := v },
    .keeping "name" .text fun v e => { e with name := v },
    .keeping "description" .text fun v e => { e with description := v },
    .keeping "create_time" .text fun v e => { e with createTime := v },
    .keeping "be_associate_count" .nat64 fun v e => { e with useCount := v },
    .keeping "project_id" .int64 fun v e => { e with projectId := v }]

/-- The numbers of an entry have 64 bits. -/
structure Fits (e : Entry) : Prop where
  useCount : e.useCount ≤ Text.Decimal.maxNat64
  projectId : Text.Decimal.minInt64 ≤ e.projectId ∧ e.projectId ≤ Text.Decimal.maxInt64

variable {e : Entry}

/-- An entry as a text tells it: its members in the order of their names. -/
theorem told_toJson (e : Entry) : e.toJson.told = .object (present [
    ("be_associate_count", some (.int e.useCount)),
    ("create_time", some (.string e.createTime)),
    ("description", some (.string e.description)),
    ("id", some (.string e.id)),
    ("name", some (.string e.name)),
    ("project_id", some (.int e.projectId))]) := by
  rw [toJson, told, toldMembers_eq, ofMembers]
  simp only [List.map_cons, List.map_nil, told_string, told_int, sorted, List.foldl, Json.insert, String.reduceLT,
    String.reduceEq, reduceIte]
  rfl

/-- An entry is found in what a text tells. -/
theorem ofValue_told (h : e.Fits) : record.ofValue e.toJson.told = .ok e := by
  rw [told_toJson, ofValue_object (by decide)]
  refine Eq.trans (fill_present_some rfl (readsBack_nat64 h.useCount).2) ?_
  refine Eq.trans (fill_present_some rfl (readsBack_text e.createTime).2) ?_
  refine Eq.trans (fill_present_some rfl (readsBack_text e.description).2) ?_
  refine Eq.trans (fill_present_some rfl (readsBack_text e.id).2) ?_
  refine Eq.trans (fill_present_some rfl (readsBack_text e.name).2) ?_
  exact Eq.trans (fill_present_some rfl (readsBack_within "i64" h.projectId).2) rfl

theorem fits_toJson (h : e.Fits) (levels : Nat) : Json.Fits (levels + 1) e.toJson := by
  have hcount : Readable e.useCount := by
    refine ⟨Int.le_trans ?_ (Int.natCast_nonneg _), Int.ofNat_le.2 h.useCount⟩
    decide
  have hproject : Readable e.projectId := ⟨h.projectId.1, Int.le_trans h.projectId.2 (by decide)⟩
  simp only [toJson, Json.Fits, FitsMembers, and_true, true_and]
  exact ⟨hcount, hproject⟩

end Entry

/-- The entries that a text stands for. -/
def entriesOf? (text : String) : Option (List Entry) :=
  (parse? text).bind fun v => ((Reading.list Entry.record.reading).value v).toOption

/-- **The text of a result stands for exactly its entries.** -/
theorem entriesOf?_list {r : Result} (h : ∀ e ∈ r.entries, e.Fits) : entriesOf? r.list.pretty = some r.entries := by
  have hfits : Json.Fits maxLevels r.list := by
    rw [Result.list, maxLevels, Json.Fits]
    refine fitsItems_iff.2 fun v hv => ?_
    obtain ⟨e, he, rfl⟩ := List.mem_map.1 hv
    exact Entry.fits_toJson (h e he) 125
  have htold : r.list.told = .array (r.entries.map fun e => e.toJson.told) := by
    rw [Result.list, told_array, List.map_map]
    rfl
  have hread : (Reading.list Entry.record.reading).value (.array (r.entries.map fun e => e.toJson.told)) =
      .ok r.entries := mapM_map_ok fun e he => Entry.ofValue_told (h e he)
  rw [entriesOf?, parse?_pretty hfits, Option.bind_some, htold, hread]
  rfl

end Provision.SecurityGroups
