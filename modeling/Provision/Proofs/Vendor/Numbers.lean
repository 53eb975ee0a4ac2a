import Provision.Proofs.Json.Records
import Provision.Proofs.Vendor.Calls

/-!
# Numbers in answers of the vendor

The numbers that are read are those of 64 bits: an answer with any other number is not accepted. So the numbers that
the library takes over from an answer fit in 64 bits. Main statements: this holds of every account and every instance
that an answer lists (`Vendor.gives_accountList`, `Vendor.gives_instanceList`).
-/

namespace Provision

open Json Json.Reading Json.Record

/-- An integer fits in 64 bits, if there is one. -/
def Fits64 (o : Option Int) : Prop := ∀ i ∈ o, Text.Decimal.minInt64 ≤ i ∧ i ≤ Text.Decimal.maxInt64

/-- A natural number fits in 64 bits, if there is one. -/
def FitsNat64 (o : Option Nat) : Prop := ∀ n ∈ o, n ≤ Text.Decimal.maxNat64

theorem fits64_none : Fits64 none := fun _ h => by cases h

theorem fitsNat64_none : FitsNat64 none := fun _ h => by cases h

theorem Fits64.or {o o' : Option Int} (h : Fits64 o) (h' : Fits64 o') : Fits64 (o.or o') := by
  cases o with
  | none => exact h'
  | some i => exact h

theorem FitsNat64.or {o o' : Option Nat} (h : FitsNat64 o) (h' : FitsNat64 o') : FitsNat64 (o.or o') := by
  cases o with
  | none => exact h'
  | some n => exact h

theorem gives_fits64 : int64.option.Gives Fits64 := (gives_within _ _ _).option

theorem gives_fitsNat64 : nat64.option.Gives FitsNat64 :=
  ((gives_within _ _ _).map fun i h => by omega).option

/-- What holds of all answers that are read, holds of the one for which an exchange stands. -/
theorem Exchange.satisfies {α : Type} {P : α → Prop} {answer : Json.Record α} {x : Exchange} {a : α}
    (h : answer.reading.Gives P) (ha : x.outcome answer = .ok a) : P a := by
  obtain ⟨content, -, hread⟩ := bind_eq_ok_iff.1 ha
  exact h content a (mapError_eq_ok_iff.1 hread)

namespace Vendor

/-! ## Accounts -/

/-- The numbers of an account in an answer fit in 64 bits. -/
structure ListedAccount.Fits (a : ListedAccount) : Prop where
  readOnly : Fits64 a.readOnly
  maxUserConnections : FitsNat64 a.maxUserConnections

theorem gives_listedAccount : listedAccount.reading.Gives ListedAccount.Fits := by
  refine Record.gives ⟨fits64_none, fitsNat64_none⟩ ?_
  simp only [listedAccount, List.forall_mem_cons]
  exact ⟨keeps_of_irrelevant fun _ _ h => ⟨h.1, h.2⟩, keeps_of_irrelevant fun _ _ h => ⟨h.1, h.2⟩,
    keeps_of_irrelevant fun _ _ h => ⟨h.1, h.2⟩, keeps_checked _ _, keeps_checked _ _,
    keeps_keeping gives_fits64 fun _ _ hv h => ⟨hv, h.2⟩, keeps_checked _ _,
    keeps_keeping gives_fitsNat64 fun _ _ hv h => ⟨h.1, hv⟩, fun _ h => by cases h⟩

/-- **The numbers of listed accounts fit in 64 bits.** -/
theorem gives_accountList : accountList.reading.Gives fun l => ∀ a ∈ l.users, a.Fits := by
  refine Record.gives (fun _ h => by cases h) ?_
  simp only [accountList, List.forall_mem_cons]
  exact ⟨keeps_of_irrelevant fun _ _ h => h, keeps_keeping gives_listedAccount.list fun _ _ hv _ => hv,
    keeps_checked _ _, fun _ h => by cases h⟩

/-! ## Instances -/

/-- The numbers of an instance in an answer fit in 64 bits. -/
structure ListedInstance.Fits (i : ListedInstance) : Prop where
  projectId : Fits64 i.projectId
  memory : Fits64 i.memory
  storage : Fits64 i.storage
  shardCount : Fits64 i.shardCount
  nodeCount : Fits64 i.nodeCount

theorem gives_listedInstance : listedInstance.reading.Gives ListedInstance.Fits := by
  refine Record.gives ⟨fits64_none, fits64_none, fits64_none, fits64_none, fits64_none⟩ ?_
  simp only [listedInstance, List.forall_mem_cons]
  exact ⟨keeps_checked _ _, keeps_of_irrelevant fun _ _ h => ⟨h.1, h.2, h.3, h.4, h.5⟩,
    keeps_keeping gives_fits64 fun _ _ hv h => ⟨hv, h.2, h.3, h.4, h.5⟩,
    keeps_checked _ _, keeps_of_irrelevant fun _ _ h => ⟨h.1, h.2, h.3, h.4, h.5⟩,
    keeps_of_irrelevant fun _ _ h => ⟨h.1, h.2, h.3, h.4, h.5⟩,
    keeps_checked _ _, keeps_checked _ _, keeps_checked _ _, keeps_checked _ _,
    keeps_keeping gives_fits64 fun _ _ hv h => ⟨h.1, hv, h.3, h.4, h.5⟩,
    keeps_keeping gives_fits64 fun _ _ hv h => ⟨h.1, h.2, hv, h.4, h.5⟩,
    keeps_keeping gives_fits64 fun _ _ hv h => ⟨h.1, h.2, h.3, hv, h.5⟩,
    keeps_keeping gives_fits64 fun _ _ hv h => ⟨h.1, h.2, h.3, h.4, hv⟩,
    keeps_of_irrelevant fun _ _ h => ⟨h.1, h.2, h.3, h.4, h.5⟩,
    keeps_of_irrelevant fun _ _ h => ⟨h.1, h.2, h.3, h.4, h.5⟩,
    keeps_of_irrelevant fun _ _ h => ⟨h.1, h.2, h.3, h.4, h.5⟩,
    keeps_checked _ _, keeps_of_irrelevant fun _ _ h => ⟨h.1, h.2, h.3, h.4, h.5⟩, fun _ h => by cases h⟩

/-- **The numbers of listed instances fit in 64 bits.** -/
theorem gives_instanceList : instanceList.reading.Gives fun l => ∀ i ∈ l, i.Fits := by
  refine Record.gives (fun _ h => by cases h) ?_
  simp only [instanceList, List.forall_mem_cons]
  exact ⟨keeps_checked _ _, keeps_keeping gives_listedInstance.list fun _ _ hv _ => hv, keeps_checked _ _,
    fun _ h => by cases h⟩

end Vendor

end Provision
