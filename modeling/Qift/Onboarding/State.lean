import Qift.Lib.Delegate
import Qift.Shop.Gifts

/-!
# The stored state of merchants

The rows behind a store's application, its review and its tax facts, with the columns a modelled service uses.

* `Onboarding` is the database with its clock; `Onboarding.empty` is the database before its first write.
* `Step` labels an atomic action: an owner's status write carries the status its call had read, an administrator's the
  decision, a write of tax facts the proposal its call had read.
-/

namespace Qift.Onboarding

open Relational Interleaving

/-! ### Enumerated columns -/

inductive StoreStatus
  | draft | submitted | pending | pending_review | approved | rejected | changes_requested | suspended
  deriving DecidableEq

def StoreStatus.text : StoreStatus → String
  | draft => "draft"
  | submitted => "submitted"
  | pending => "pending"
  | pending_review => "pending_review"
  | approved => "approved"
  | rejected => "rejected"
  | changes_requested => "changes_requested"
  | suspended => "suspended"

def PUBLIC_STORE_STATUSES : List StoreStatus := [.approved, .pending]

/-- `ALLOWED_STORE_STATUSES`, by the texts an administrator sends. -/
def allowedStoreStatus? : String → Option StoreStatus
  | "pending" => some .pending
  | "approved" => some .approved
  | "rejected" => some .rejected
  | "suspended" => some .suspended
  | _ => none

inductive ProposalStatus
  | pending | approved | rejected
  deriving DecidableEq

inductive Role
  | user | store

/-! ### Rows -/

structure User where
  id : String
  role : Role

/-- The four columns of `VAT_FACTS_SELECT`. -/
structure VatFacts where
  vatRegistered : Bool
  vatNumber : Option String
  pricesIncludeVat : Bool
  taxCountry : String
  deriving DecidableEq

structure Store where
  id : String
  ownerId : String
  name : String
  city : String
  category : String
  status : StoreStatus
  rejectionReason : Option String
  submittedAt : Option Time
  reviewedAt : Option Time
  reviewedBy : Option String
  facts : VatFacts

structure Product where
  id : String
  storeId : String
  price : Number
  isAvailable : Bool
  stockStatus : String

structure StoreVatFactsProposal where
  id : String
  storeId : String
  facts : VatFacts
  evidenceNote : String
  status : ProposalStatus
  proposedBy : String
  decidedBy : Option String
  decidedAt : Option Time
  deriving DecidableEq

end Qift.Onboarding

namespace Qift

open Relational

/-- Merchants: the tables and the clock. -/
structure Onboarding where
  now : Time
  users : Table Onboarding.User.id
  stores : Table Onboarding.Store.id
  products : Table Onboarding.Product.id
  proposals : Table Onboarding.StoreVatFactsProposal.id

end Qift

namespace Qift.Onboarding

open Relational Interleaving

def empty : Onboarding where
  now := 0
  users := Table.empty
  stores := Table.empty
  products := Table.empty
  proposals := Table.empty

/-! ### Client delegates -/

abbrev user : Delegate Onboarding User.id where
  table := Onboarding.users
  store t w := { w with users := t }
  conflict _ _ := false

abbrev store : Delegate Onboarding Store.id where
  table := Onboarding.stores
  store t w := { w with stores := t }
  conflict _ _ := false

abbrev storeVatFactsProposal : Delegate Onboarding StoreVatFactsProposal.id where
  table := Onboarding.proposals
  store t w := { w with proposals := t }
  conflict _ _ := false

/-! ### Actions -/

/-- What an owner's `patch` writes: the texts of the request, and the resubmission where it makes one. -/
structure PatchData where
  name : Option String := none
  city : Option String := none
  category : Option String := none
  /-- The number the request names, trimmed; an empty one clears the column. -/
  vatNumber : Option (Option String) := none
  /-- The instant of a resubmission. -/
  resubmittedAt : Option Time := none

def PatchData.write (data : PatchData) (s : Store) : Store :=
  { s with
    name := data.name.getD s.name
    city := data.city.getD s.city
    category := data.category.getD s.category
    facts := { s.facts with vatNumber := data.vatNumber.getD s.facts.vatNumber }
    status := if data.resubmittedAt.isSome then .submitted else s.status
    rejectionReason := if data.resubmittedAt.isSome then none else s.rejectionReason
    submittedAt := data.resubmittedAt.or s.submittedAt }

@[simp] theorem PatchData.write_id (data : PatchData) (s : Store) : (data.write s).id = s.id := rfl

/-- An atomic action. -/
inductive Step
  /-- A query or a clock read. -/
  | read
  /-- The clock, the accounts and the products. -/
  | environment
  | createStore
  /-- The owner's write of a store whose status its call has read at `found`. -/
  | patch (storeId : String) (found : StoreStatus) (data : PatchData)
  | submit (storeId : String) (found : StoreStatus)
  /-- An administrator's decision on a store. -/
  | decide (storeId : String) (decision : StoreStatus)
  | propose (proposalId storeId : String)
  /-- An operator applies the facts of a proposal, as the call has read it, to its store. -/
  | applyFacts (proposal : StoreVatFactsProposal) (actorUserId : String)
  /-- An operator decides a proposal the call has read. -/
  | settle (proposal : StoreVatFactsProposal) (actorUserId : String) (outcome : ProposalStatus)

/-- A service call. -/
abbrev Service := Svc Onboarding Step Err

/-- The body of a database transaction. -/
abbrev Transaction := Tx Onboarding Err

/-- `Date.now()`. -/
def dateNow : Service Time := Svc.query .read Onboarding.now

/-- `update` of one row by its identifier, which must exist; the row it leaves. -/
def updateById {ρ : Type} {key : ρ → String} (d : Delegate Onboarding key) (id : String) (f : ρ → ρ)
    (hf : ∀ r, key (f r) = key r) : Transaction ρ := do
  let _ ← d.updateMany (fun r => key r = id) f hf
  let written ← Tx.read fun w => (d.table w).find id
  match written with
  | none => Tx.fail (.error "record to update not found")
  | some row => pure row

/-- The write of `updateById`. -/
theorem updateById_eq_ok {ρ : Type} {key : ρ → String} {d : Delegate Onboarding key} {id : String} {f : ρ → ρ}
    {hf : ∀ r, key (f r) = key r} {r : ρ} {w w' : Onboarding} (h : updateById d id f hf w = .ok (r, w')) :
    w' = d.store ((d.table w).updateMany (fun r => key r = id) f hf) w := by
  obtain ⟨n, w₁, hupdate, h⟩ := Tx.bind_eq_ok.mp h
  obtain ⟨written, w₂, hread, h⟩ := Tx.bind_eq_ok.mp h
  obtain ⟨-, rfl⟩ := Tx.read_eq_ok.mp hread
  obtain ⟨-, rfl⟩ := Delegate.updateMany_eq_ok.mp hupdate
  cases written with
  | none => cases h
  | some row =>
      obtain ⟨-, rfl⟩ := Tx.pure_eq_ok.mp h
      rfl

theorem updateById_eq_error {ρ : Type} {key : ρ → String} {d : Delegate Onboarding key} {id : String} {f : ρ → ρ}
    {hf : ∀ r, key (f r) = key r} {e : Err} {w : Onboarding}
    (htable : ∀ t, d.table (d.store t w) = t) (h : updateById d id f hf w = .error e) : (d.table w).find id = none := by
  cases hfound : (d.table w).find id with
  | none => rfl
  | some r =>
      rcases Tx.bind_eq_error.mp h with hupdate | ⟨n, w₁, hupdate, h⟩
      · cases hupdate
      · obtain ⟨-, rfl⟩ := Delegate.updateMany_eq_ok.mp hupdate
        rcases Tx.bind_eq_error.mp h with hread | ⟨written, w₂, hread, h⟩
        · cases hread
        · obtain ⟨rfl, rfl⟩ := Tx.read_eq_ok.mp hread
          rw [htable, Table.find_updateMany_some hf hfound] at h
          cases h

end Qift.Onboarding
