import Provision.Proofs.Json.Records
import Provision.Proofs.Json.Texts
import Provision.Proofs.Vendor.Calls

/-!
# Answers as texts

An answer of the vendor that is written in its indented form stands for the content that was written
(`Exchange.content_telling`). So a list whose items are read one by one comes back as a list (`Exchange.outcome_list`).
-/

namespace Provision

/-- The answer with a content, in its indented form. -/
def Reply.telling (content : Json) : Reply := .answer 200 (Json.object [("Response", content)]).pretty

namespace Exchange

variable {α : Type} {content : Json} {x : Posting}

/-- **What is written comes back**, unless it names a refusal. -/
theorem content_telling (h : Json.Fits 126 content) (accepted : content.told.get? "Error" = none) :
    (⟨x, .telling content⟩ : Exchange).content = .ok content.told := by
  have hfits : Json.Fits Json.maxLevels (.object [("Response", content)]) := by
    rw [Json.maxLevels, Json.Fits]
    exact Json.fitsMembers_iff.2 (by simpa using h)
  have htold : (Json.object [("Response", content)]).told.get? "Response" = some content.told := by
    rw [Json.told, Json.toldMembers_eq, Json.get?_ofMembers]
    rfl
  have hsuccess : Status.isSuccess 200 = true := by decide
  simp only [Exchange.content, Reply.telling, hsuccess, if_true, Json.parse?_pretty hfits, Envelope.content, htold,
    accepted]

theorem outcome_telling (h : Json.Fits 126 content) (accepted : content.told.get? "Error" = none)
    (answer : Json.Record α) :
    (⟨x, .telling content⟩ : Exchange).outcome answer = Provider.readContent x.action answer content.told := by
  rw [outcome, content_telling h accepted]
  rfl

/-- **A list that is written comes back item by item.** -/
theorem outcome_list {γ : Type} {items : List γ} {enc : γ → Json} {g : γ → α} (item : Json.Record α)
    {answer : Json.Record (List α)} {name : String} (hfits : ∀ c ∈ items, Json.Fits 124 (enc c))
    (hread : ∀ c ∈ items, item.ofValue (enc c).told = .ok (g c))
    (hfield : answer.field? name = some (.keeping name (.list item.reading) fun v _ => v))
    (hoptional : ∀ f ∈ answer.fields, f.absence ≠ .refused) (hname : name ≠ "Error") :
    (⟨x, .telling (.object [(name, .array (items.map enc))])⟩ : Exchange).outcome answer = .ok (items.map g) := by
  have hcontent : Json.Fits 126 (.object [(name, .array (items.map enc))]) := by
    simp only [Json.Fits, Json.FitsMembers, and_true, Json.fitsItems_iff]
    intro v hv
    obtain ⟨c, hc, rfl⟩ := List.mem_map.1 hv
    exact hfits c hc
  have htold : (Json.object [(name, .array (items.map enc))]).told =
      .object [(name, .array (items.map fun c => (enc c).told))] := by
    rw [Json.told_object (List.pairwise_singleton _ _), List.map_singleton, Json.told_array, List.map_map]
    rfl
  have hlist : (Json.Reading.list item.reading).value (.array (items.map fun c => (enc c).told)) = .ok (items.map g) :=
    Json.mapM_map_of_ok hread
  have hvalue : answer.ofValue (.object [(name, .array (items.map fun c => (enc c).told))]) = .ok (items.map g) := by
    rw [Json.Record.ofValue_object hoptional]
    show answer.fill answer.blank (Json.present [(name, some _)]) = _
    rw [Json.Record.fill_present_some hfield hlist]
    rfl
  have haccepted : (Json.object [(name, .array (items.map enc))]).told.get? "Error" = none := by
    rw [htold, Json.get?, Json.find, if_neg hname, Json.find]
  rw [outcome_telling hcontent haccepted, htold, Provider.readContent, hvalue]
  rfl

end Exchange

end Provision
