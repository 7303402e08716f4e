import Qift.Onboarding.State

/-!
# Stores, their review and their tax facts

* `create`, `patch`, `submit`, `review` and `update` of `stores.service.ts`, and `setStoreStatus` of the admin desk.
* The public reads of stores and products, which show the stores of `PUBLIC_STORE_STATUSES`.
* `propose`, `approve` and `reject` of `vat-facts.service.ts`.
* `Call` and `program` are the requests; `Run` is any interleaving of them.
-/

namespace Qift.Onboarding

open Relational Interleaving

def FORBIDDEN_MSG : String := "غير مصرح لك"

/-! ### Owners -/

structure CreateStoreInput where
  name : Option String := none
  city : Option String := none
  category : Option String := none
  vatNumber : Option String := none

structure UpdateStoreInput where
  name : Option String := none
  city : Option String := none
  category : Option String := none
  vatNumber : Option String := none

/-- The row of a new store: the status and the tax facts are the defaults of their columns. -/
def newStore (id ownerId name city category : String) (vatNumber : Option String) : Store where
  id := id
  ownerId := ownerId
  name := name
  city := city
  category := category
  status := .pending
  rejectionReason := none
  submittedAt := none
  reviewedAt := none
  reviewedBy := none
  facts := { vatRegistered := false, vatNumber := vatNumber, pricesIncludeVat := true, taxCountry := "SA" }

/-- `$transaction`: the store, and the role of its owner. -/
def createStoreTx (row : Store) : Transaction Store := do
  let created ← store.create (.p2002 "Store") row
  let _ ← updateById user row.ownerId (fun u => { u with role := .store }) fun _ => rfl
  pure created

/-- `storeId` is the identifier drawn for the row. -/
def create (viewerUserId : String) (body : CreateStoreInput) (storeId : String) : Service Store :=
  match Shop.trimOrNull body.name, Shop.trimOrNull body.city, Shop.trimOrNull body.category with
  | some name, some city, some category =>
      Svc.transaction .createStore
        (createStoreTx (newStore storeId viewerUserId name city category (Shop.trimOrNull body.vatNumber)))
  | _, _, _ => Svc.fail (.badRequest "name, city and category are required")

def assertOwner (viewerUserId storeId : String) : Service Store := do
  let found ← Svc.query .read fun w => w.stores.find storeId
  match found with
  | none => Svc.fail (.notFound "Store not found")
  | some store => do
      Svc.ensure (store.ownerId = viewerUserId) (.forbidden FORBIDDEN_MSG)
      pure store

/-- The columns of a patch; a store that was sent back is resubmitted by it. -/
def UpdateStoreInput.data (body : UpdateStoreInput) (status : StoreStatus) (now : Time) : PatchData where
  name := body.name.map trim
  city := body.city.map trim
  category := body.category.map trim
  vatNumber := body.vatNumber.map fun v => Shop.trimOrNull (some v)
  resubmittedAt := if status = .changes_requested then some now else none

def patch (viewerUserId storeId : String) (body : UpdateStoreInput) : Service Store := do
  let existing ← assertOwner viewerUserId storeId
  let now ← dateNow
  let data := body.data existing.status now
  Svc.transaction (.patch storeId existing.status data) (updateById store storeId data.write data.write_id)

/-- The statuses an owner may submit from. -/
def submittable : List StoreStatus := [.draft, .pending, .changes_requested]

/-- The row of a submitted store. -/
def submitStore (now : Time) (s : Store) : Store :=
  { s with status := .submitted, submittedAt := some now, rejectionReason := none }

def submit (viewerUserId storeId : String) : Service Store := do
  let existing ← assertOwner viewerUserId storeId
  Svc.ensure (existing.status ∈ submittable)
    (.badRequest ("Cannot submit a store in status \"" ++ existing.status.text ++ "\""))
  let now ← dateNow
  Svc.transaction (.submit storeId existing.status) (updateById store storeId (submitStore now) fun _ => rfl)

/-- `StoresService.update`: name, city and category only. -/
def update (viewerUserId storeId : String) (body : UpdateStoreInput) : Service Store := do
  let existing ← assertOwner viewerUserId storeId
  let data : PatchData :=
    { name := body.name.map trim, city := body.city.map trim, category := body.category.map trim }
  Svc.transaction (.patch storeId existing.status data) (updateById store storeId data.write data.write_id)

/-! ### Administrators -/

inductive ReviewAction
  | approve | reject | request_changes
  deriving DecidableEq

def ReviewAction.nextStatus : ReviewAction → StoreStatus
  | approve => .approved
  | reject => .rejected
  | request_changes => .changes_requested

/-- The row a review leaves. -/
def reviewStore (decision : StoreStatus) (reason : Option String) (now : Time) (adminUserId : String) (s : Store) :
    Store :=
  { s with status := decision, rejectionReason := reason, reviewedAt := some now, reviewedBy := some adminUserId }

def review (adminUserId storeId : String) (action : ReviewAction) (reason : Option String) : Service Store := do
  let existing ← Svc.query .read fun w => w.stores.find storeId
  match existing with
  | none => Svc.fail (.notFound "Store not found")
  | some _ => do
      Svc.ensure (action = .approve ∨ Shop.trimOrNull reason ≠ none)
        (.badRequest "reason is required when rejecting or requesting changes")
      let now ← dateNow
      Svc.transaction (.decide storeId action.nextStatus) (updateById store storeId
        (reviewStore action.nextStatus (if action = .approve then none else Shop.trimOrNull reason) now adminUserId)
        fun _ => rfl)

def setStoreStatus (storeId status : String) : Service Store :=
  match allowedStoreStatus? status with
  | none => Svc.fail (.badRequest "Invalid store status")
  | some decision => do
      let existing ← Svc.query .read fun w => w.stores.find storeId
      match existing with
      | none => Svc.fail (.notFound "Store not found")
      | some _ =>
          Svc.transaction (.decide storeId decision)
            (updateById store storeId (fun s => { s with status := decision }) fun _ => rfl)

/-! ### Public surfaces -/

def Store.public (s : Store) : Bool := s.status ∈ PUBLIC_STORE_STATUSES

/-- `StoresService.list`. -/
def listStores : Service (List Store) := Svc.query .read fun w => w.stores.rows.filter Store.public

/-- `StoresService.findOne`. -/
def findStore (storeId : String) : Service Store := do
  let found ← Svc.query .read fun w => (w.stores.find storeId).filter Store.public
  match found with
  | none => Svc.fail (.notFound "Store not found")
  | some store => pure store

def Product.sold (p : Product) : Bool := p.isAvailable && p.stockStatus = "in_stock"

/-- `ProductsService.list`. -/
def listProducts (storeId : String) (includeUnavailable : Bool) : Service (List Product) := do
  if storeId = "" then pure []
  else do
    let found ← Svc.query .read fun w => (w.stores.find storeId).filter Store.public
    match found with
    | none => pure []
    | some _ =>
        Svc.query .read fun w => w.products.rows.filter fun p => p.storeId = storeId && (includeUnavailable || p.sold)

/-- The product's store is public. -/
def Product.listed (w : Onboarding) (p : Product) : Bool := (w.stores.find p.storeId).any Store.public

/-- `ProductsService.findOne`. -/
def findProduct (productId : String) : Service Product := do
  let found ← Svc.query .read fun w => (w.products.find productId).filter (Product.listed w)
  match found with
  | none => Svc.fail (.notFound "Product not found")
  | some product => pure product

def checkAvailability (productId : Option String) : Service (Option Product) :=
  match productId.filter fun id => id ≠ "" with
  | none => pure none
  | some productId => do
      let found ← Svc.query .read fun w => (w.products.find productId).map fun p => (p, p.listed w)
      match found with
      | none => Svc.fail (.badRequest "المنتج غير موجود")
      | some (product, listed) => do
          Svc.ensure (product.sold = true) (.badRequest "المنتج غير متوفر حاليًا")
          Svc.ensure (listed = true) (.badRequest "المنتج غير متوفر حاليًا")
          pure (some product)

/-! ### Tax facts -/

def ACTIVE_TAX_COUNTRIES : List String := ["SA"]

def EVIDENCE_MIN_LENGTH : Nat := 8

structure VatFactsProposalInput where
  vatRegistered : Option Bool := none
  vatNumber : Option String := none
  pricesIncludeVat : Option Bool := none
  taxCountry : Option String := none
  evidenceNote : Option String := none

/-- The facts a proposal asks for; what it does not name is as the store has it, but for the number. -/
def VatFactsProposalInput.facts (body : VatFactsProposalInput) (stored : VatFacts) : VatFacts where
  vatRegistered := body.vatRegistered.getD stored.vatRegistered
  vatNumber := Shop.trimOrNull body.vatNumber
  pricesIncludeVat := body.pricesIncludeVat.getD stored.pricesIncludeVat
  taxCountry := Settlement.toUpperCase ((Shop.trimOrNull body.taxCountry).getD stored.taxCountry)

/-- A change without written evidence is refused. -/
@[irreducible] def checkEvidence (evidenceNote : String) : Service Unit :=
  Svc.ensure (EVIDENCE_MIN_LENGTH ≤ (codeUnits evidenceNote).length) (.badRequest "verification_evidence_required")

/-- Facts a store may be given. -/
def checkFacts (facts : VatFacts) : Service Unit := do
  Svc.ensure (facts.vatRegistered = true → facts.vatNumber ≠ none)
    (.badRequest "vat_number_required_when_registered")
  Svc.ensure (facts.taxCountry ∈ ACTIVE_TAX_COUNTRIES) (.badRequest "tax_country_not_active")

def propose (actorUserId storeId : String) (body : VatFactsProposalInput) (proposalId : String) :
    Service StoreVatFactsProposal := do
  let found ← Svc.query .read fun w => w.stores.find storeId
  match found with
  | none => Svc.fail (.notFound "store_not_found")
  | some stored => do
      let evidenceNote := trim (body.evidenceNote.getD "")
      checkEvidence evidenceNote
      let facts := body.facts stored.facts
      checkFacts facts
      let existing ← Svc.query .read fun w => w.proposals.rows.any fun p => p.storeId = storeId ∧ p.status = .pending
      Svc.ensure (existing = false) (.conflict "proposal_already_pending")
      Svc.transaction (.propose proposalId storeId) (storeVatFactsProposal.create (.p2002 "StoreVatFactsProposal")
        { id := proposalId
          storeId := storeId
          facts := facts
          evidenceNote := evidenceNote
          status := .pending
          proposedBy := actorUserId
          decidedBy := none
          decidedAt := none })

def findPending (storeId proposalId : String) : Service StoreVatFactsProposal := do
  let found ← Svc.query .read fun w =>
    (w.proposals.find proposalId).filter fun p => p.storeId = storeId ∧ p.status = .pending
  match found with
  | none => Svc.fail (.notFound "proposal_not_found")
  | some proposal => pure proposal

/-- A decided proposal. -/
def settleProposal (outcome : ProposalStatus) (actorUserId : String) (now : Time) (p : StoreVatFactsProposal) :
    StoreVatFactsProposal :=
  { p with status := outcome, decidedBy := some actorUserId, decidedAt := some now }

/-- The decision of a proposal. -/
def settleTx (proposalId actorUserId : String) (outcome : ProposalStatus) (now : Time) :
    Transaction StoreVatFactsProposal :=
  updateById storeVatFactsProposal proposalId (settleProposal outcome actorUserId now) fun _ => rfl

structure ApprovedFacts where
  proposal : StoreVatFactsProposal
  before : VatFacts
  after : VatFacts

def approve (actorUserId storeId proposalId : String) : Service ApprovedFacts := do
  let proposal ← findPending storeId proposalId
  Svc.ensure (proposal.proposedBy ≠ actorUserId) (.forbidden "sod_maker_cannot_approve")
  let found ← Svc.query .read fun w => w.stores.find storeId
  match found with
  | none => Svc.fail (.notFound "store_not_found")
  | some stored => do
      let written ← Svc.transaction (.applyFacts proposal actorUserId)
        (updateById store storeId (fun s => { s with facts := proposal.facts }) fun _ => rfl)
      let now ← dateNow
      let decided ← Svc.transaction (.settle proposal actorUserId .approved)
        (settleTx proposalId actorUserId .approved now)
      pure { proposal := decided, before := stored.facts, after := written.facts }

def reject (actorUserId storeId proposalId : String) : Service StoreVatFactsProposal := do
  let proposal ← findPending storeId proposalId
  let now ← dateNow
  Svc.transaction (.settle proposal actorUserId .rejected) (settleTx proposalId actorUserId .rejected now)

/-! ### Requests -/

/-- A request, the clock, or a change of the accounts and the products. -/
inductive Call
  | tick (elapsed : Nat)
  | books (users : Table User.id) (products : Table Product.id)
  | create (viewerUserId : String) (body : CreateStoreInput) (storeId : String)
  | patch (viewerUserId storeId : String) (body : UpdateStoreInput)
  | submit (viewerUserId storeId : String)
  | update (viewerUserId storeId : String) (body : UpdateStoreInput)
  | review (adminUserId storeId : String) (action : ReviewAction) (reason : Option String)
  | setStoreStatus (storeId status : String)
  | listStores
  | findStore (storeId : String)
  | listProducts (storeId : String) (includeUnavailable : Bool)
  | findProduct (productId : String)
  | checkAvailability (productId : Option String)
  | propose (actorUserId storeId : String) (body : VatFactsProposalInput) (proposalId : String)
  | approve (actorUserId storeId proposalId : String)
  | reject (actorUserId storeId proposalId : String)

inductive Reply
  | done
  | store (s : Store)
  | stores (list : List Store)
  | product (p : Option Product)
  | products (list : List Product)
  | proposal (p : StoreVatFactsProposal)
  | approved (r : ApprovedFacts)

def environment (f : Onboarding → Onboarding) : Service Unit := Svc.transaction .environment (Tx.modify f)

def program : Call → Service Reply
  | .tick elapsed => (fun _ => Reply.done) <$> environment fun w => { w with now := w.now + elapsed }
  | .books users products => (fun _ => Reply.done) <$> environment fun w =>
      { w with users := users, products := products }
  | .create viewerUserId body storeId => Reply.store <$> create viewerUserId body storeId
  | .patch viewerUserId storeId body => Reply.store <$> patch viewerUserId storeId body
  | .submit viewerUserId storeId => Reply.store <$> submit viewerUserId storeId
  | .update viewerUserId storeId body => Reply.store <$> update viewerUserId storeId body
  | .review adminUserId storeId action reason => Reply.store <$> review adminUserId storeId action reason
  | .setStoreStatus storeId status => Reply.store <$> setStoreStatus storeId status
  | .listStores => Reply.stores <$> listStores
  | .findStore storeId => Reply.store <$> findStore storeId
  | .listProducts storeId includeUnavailable => Reply.products <$> listProducts storeId includeUnavailable
  | .findProduct productId => (fun p => Reply.product (some p)) <$> findProduct productId
  | .checkAvailability productId => Reply.product <$> checkAvailability productId
  | .propose actorUserId storeId body proposalId => Reply.proposal <$> propose actorUserId storeId body proposalId
  | .approve actorUserId storeId proposalId => Reply.approved <$> approve actorUserId storeId proposalId
  | .reject actorUserId storeId proposalId => Reply.proposal <$> reject actorUserId storeId proposalId

/-- Any interleaving of requests, from an empty database. -/
abbrev Run (tr : List (Event Onboarding Step)) (cfg : Config Onboarding Step (Except Err Reply)) : Prop :=
  Exec program empty tr cfg

end Qift.Onboarding
