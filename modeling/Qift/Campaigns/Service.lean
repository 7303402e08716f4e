import Qift.Campaigns.State

/-!
# Rosters and campaigns

`roster.service.ts`, `roster-purge.service.ts` and `campaign.service.ts`.

* `importRoster` and `archiveContact` keep the roster; `RosterPurge.runOnce` deletes the rows whose deadline has passed.
* `createCampaign`, `updateCampaign`, `setGiftOption`, `addRecipients` and `removeRecipient` draft a campaign.
* `submitForApproval`, `approveCampaign`, `requestChanges` and `cancelCampaign` move it.  Each reads the status, checks it
  and writes in an action of its own.
-/

namespace Qift.Campaigns

open Relational Interleaving

/-! ### The roster -/

/-- What `importRoster` answers with. -/
structure ImportReport where
  batchId : String
  imported : Nat
  skipped : List SkippedRow
  ignoredColumns : List String

/-- The body of the answer to a file that is rejected. -/
structure RosterRefusal where
  code : String
  columns : List String
  message : String

def RosterRejection.refusal (r : RosterRejection) : RosterRefusal where
  code := r.code
  columns := r.columns
  message :=
    if r.code = "roster_address_columns_forbidden" then
      "Roster files must not contain address columns. Recipients confirm their own delivery address at claim time."
    else "Roster file could not be imported"

def RosterRow.contact (row : RosterRow) (orgId : Nat) (batchId : String) (purgeAfter now : Time) (id : Nat) :
    CorporateContact where
  id := id
  orgId := orgId
  fullName := row.fullName
  email := row.email
  phone := row.phone
  department := row.department
  employeeRef := row.employeeRef
  status := .active
  importBatchId := batchId
  purgeAfter := purgeAfter
  archivedAt := none
  createdAt := now

/-- The contacts of an import, all with one deadline. -/
def importTx (orgId : Nat) (rows : List RosterRow) (batchId : String) : Transaction Unit := do
  let now ← Tx.read Campaigns.now
  let purgeAfter ← Tx.read retainUntil
  let base ← freshIds rows.length
  corporateContact.createMany (.p2002 "CorporateContact")
    (rows.mapIdx fun i row => row.contact orgId batchId purgeAfter now (base + i))

/-- The insert of an import; nothing is written for no rows. -/
def insertRows (orgId : Nat) (rows : List RosterRow) (batchId : String) : Service Unit :=
  if rows = [] then pure () else Svc.transaction (.importRows orgId rows) (importTx orgId rows batchId)

/-- The channels of the active contacts of an organization. -/
def takenChannels (orgId : Nat) (w : Campaigns) : List Channel :=
  (w.contacts.rows.filter fun c => c.orgId = orgId ∧ c.status = .active).flatMap CorporateContact.channels

/-- Import the rows of a file that are not on the active roster. -/
def importParsed (actorUserId : String) (orgId : Nat) (parsed : ParsedRoster) (batchId : String) : Service ImportReport := do
  let taken ← Svc.query .read (takenChannels orgId)
  let known (row : RosterRow) : Bool := row.channels.any fun c => c ∈ taken
  let toInsert := parsed.rows.filter fun row => !known row
  let skipped := parsed.skipped ++ (parsed.rows.filter known).map fun row => ⟨row.line, .duplicate_existing⟩
  insertRows orgId toInsert batchId
  orgAudit (some actorUserId) "org.roster.import" (some orgId)
    [("batchId", some batchId), ("imported", some (toString toInsert.length)),
      ("skipped", some (toString skipped.length)), ("ignoredColumns", some (",".intercalate parsed.ignoredColumns))]
  pure
    { batchId := batchId
      imported := toInsert.length
      skipped := skipped.insertionSort fun a b => a.line ≤ b.line
      ignoredColumns := parsed.ignoredColumns }

/-- `importRoster`; `csv` is `none` where the body holds no text. -/
def importRoster (actorUserId : String) (orgId : Nat) (csv : Option String) (batchId : String) :
    Service (Except RosterRefusal ImportReport) :=
  match csv.filter fun text => trim text ≠ "" with
  | none => Svc.fail (.badRequest "roster_csv_required")
  | some text => do
      let org ← Svc.query .read fun w => w.organizations.find? fun o => o.id = orgId
      match org with
      | none => Svc.fail (.notFound "org_not_found")
      | some org => do
          Svc.ensure (org.status = .approved) (.badRequest "org_not_approved")
          match parseRoster text with
          | .error rejection => pure (.error rejection.refusal)
          | .ok parsed => .ok <$> importParsed actorUserId orgId parsed batchId

/-- The guarded write of `archiveContact`; the number of rows written. -/
def archiveTx (orgId contactId : Nat) : Transaction Nat := do
  let now ← Tx.read Campaigns.now
  let purgeAfter ← Tx.read graceUntil
  corporateContact.updateMany (fun c => c.id = contactId && c.orgId = orgId && c.status = .active) fun c =>
    { c with status := .archived, archivedAt := some now, purgeAfter := purgeAfter }

def archiveContact (actorUserId : String) (orgId contactId : Nat) : Service Unit := do
  let count ← Svc.transaction (.archive orgId contactId) (archiveTx orgId contactId)
  Svc.ensure (count ≠ 0) (.notFound "contact_not_found")
  orgAudit (some actorUserId) "org.roster.archive" (some orgId) [("contactId", some (toString contactId))]

/-! ### The purge -/

/-- A contact that a submitted, approved or dispatching campaign has selected. -/
def protects (w : Campaigns) (contactId : Nat) : Bool :=
  w.recipients.rows.any fun r =>
    r.contactId = contactId && (w.campaigns.find r.campaignId).any fun c => c.status ∈ PURGE_PROTECTING_CAMPAIGN_STATES

/-- A row that a sweep deletes. -/
def purgeable (w : Campaigns) (c : CorporateContact) : Bool := decide (c.purgeAfter < w.now) && !protects w c.id

/-- The deletion; the recipients of a deleted contact go with it. -/
def sweepTx : Transaction Nat := do
  let expired ← Tx.read purgeable
  let gone ← Tx.read fun w => (w.contacts.rows.filter expired).map CorporateContact.id
  let count ← corporateContact.deleteMany expired
  let _ ← campaignRecipient.deleteMany fun r => r.contactId ∈ gone
  pure count

namespace RosterPurge

/-- What the sweep leaves in the audit log: a count. -/
def report (deleted : Nat) : Service Unit :=
  if 0 < deleted then
    record
      { actorUserId := none
        actorType := "system"
        action := "system.roster.purge"
        targetType := "system"
        targetId := none
        metadata := [("deleted", some (toString deleted))] }
  else pure ()

/-- One sweep; a failure is logged and nothing more. -/
def runOnce : Service Nat :=
  Svc.tryCatch
    (do
      let deleted ← Svc.transaction .sweep sweepTx
      report deleted
      pure deleted)
    fun _ => pure 0

end RosterPurge

/-! ### References -/

def MAX_ALLOCATION_ATTEMPTS : Nat := 5

/-- `allocateReference`: the first of the drawn candidates that is not taken. -/
def allocateReference (kind : String) (isTaken : String → Campaigns → Bool) : List String → Nat → Service String
  | candidate :: rest, attempts + 1 => do
      let taken ← Svc.query .read (isTaken candidate)
      if taken then allocateReference kind isTaken rest attempts else pure candidate
  | _, _ => Svc.fail (.error ("reference_allocation_exhausted: " ++ kind))

/-- The bounded retry around an insert: a collision draws a new reference. -/
def createWithReference {α : Type} (allocate : List String → Service String) (create : String → Service α) :
    Nat → List (List String) → Service α
  | 0, draws => do
      let reference ← allocate (draws.headD [])
      create reference
  | retries + 1, draws => do
      let reference ← allocate (draws.headD [])
      Svc.tryCatch (create reference) fun e =>
        match e with
        | .p2002 _ => createWithReference allocate create retries draws.tail
        | e => Svc.fail e

/-! ### Drafting a campaign -/

structure CampaignDraftInput where
  name : Option String := none
  occasion : Option String := none
  message : Option String := none

/-- `CAMPAIGN_SELECT`: not who approved or cancelled it. -/
structure CampaignView where
  id : Nat
  referenceNumber : String
  name : String
  occasion : Option String
  message : Option String
  status : CampaignStatus
  createdBy : String
  submittedAt : Option Time
  approvedAt : Option Time
  reviewNote : Option String
  cancelledAt : Option Time
  createdAt : Time
  updatedAt : Time

def GiftCampaign.view (c : GiftCampaign) : CampaignView where
  id := c.id
  referenceNumber := c.referenceNumber
  name := c.name
  occasion := c.occasion
  message := c.message
  status := c.status
  createdBy := c.createdBy
  submittedAt := c.submittedAt
  approvedAt := c.approvedAt
  reviewNote := c.reviewNote
  cancelledAt := c.cancelledAt
  createdAt := c.createdAt
  updatedAt := c.updatedAt

/-- A campaign of the organization. -/
def loadCampaign (orgId campaignId : Nat) : Service GiftCampaign := do
  let campaign ← Svc.query .read fun w => (w.campaigns.find campaignId).filter fun c => c.orgId = orgId
  match campaign with
  | none => Svc.fail (.notFound "campaign_not_found")
  | some campaign => pure campaign

def assertEditable (status : CampaignStatus) : Service Unit :=
  Svc.ensure (status ∈ EDITABLE) (.badRequest "campaign_not_editable")

def campaignAudit (actorUserId action : String) (orgId : Nat) (metadata : List (String × Option String)) : Service Unit :=
  orgAudit (some actorUserId) action (some orgId) metadata

/-- The draft of a request. -/
def CampaignDraftInput.draft (body : CampaignDraftInput) (actorUserId : String) (orgId : Nat)
    (name referenceNumber : String) (id : Nat) (now : Time) : GiftCampaign where
  id := id
  orgId := orgId
  name := name
  referenceNumber := referenceNumber
  occasion := Shop.trimOrNull body.occasion
  message := Shop.trimOrNull body.message
  status := .draft
  createdBy := actorUserId
  submittedAt := none
  approvedBy := none
  approvedAt := none
  reviewNote := none
  cancelledBy := none
  cancelledAt := none
  createdAt := now
  updatedAt := now

def createCampaignTx (body : CampaignDraftInput) (actorUserId : String) (orgId : Nat) (name referenceNumber : String) :
    Transaction GiftCampaign := do
  let now ← Tx.read Campaigns.now
  let id ← freshId
  giftCampaign.create (.p2002 "GiftCampaign") (body.draft actorUserId orgId name referenceNumber id now)

/-- The first free reference of the kind `QB`. -/
def allocateCampaignReference (candidates : List String) : Service String :=
  allocateReference "QB" (fun candidate w => w.campaigns.rows.any fun c => c.referenceNumber = candidate) candidates
    MAX_ALLOCATION_ATTEMPTS

/-- `createCampaign`; `draws` are the references that are drawn, attempt by attempt. -/
def createCampaign (actorUserId : String) (orgId : Nat) (body : CampaignDraftInput) (draws : List (List String)) :
    Service CampaignView :=
  match Organizations.nameOf 3 body.name with
  | none => Svc.fail (.badRequest "campaign_name_required")
  | some name => do
      let org ← Svc.query .read fun w => w.organizations.find? fun o => o.id = orgId
      match org with
      | none => Svc.fail (.notFound "org_not_found")
      | some org => do
          Svc.ensure (org.status = .approved) (.badRequest "org_not_approved")
          let campaign ← createWithReference allocateCampaignReference
            (fun referenceNumber =>
              Svc.transaction .createCampaign (createCampaignTx body actorUserId orgId name referenceNumber)) 2 draws
          campaignAudit actorUserId "org.campaign.create" orgId
            [("campaignId", some (toString campaign.id)), ("campaignReference", some campaign.referenceNumber),
              ("name", some name)]
          pure campaign.view

/-- `giftCampaign.update`, stamped with the clock. -/
def writeCampaign (campaignId : Nat) (f : Time → GiftCampaign → GiftCampaign)
    (hf : ∀ now c, (f now c).id = c.id := by intros; rfl) : Transaction GiftCampaign := do
  let now ← Tx.read Campaigns.now
  giftCampaign.update (.error "record to update not found") campaignId (fun c => { f now c with updatedAt := now })
    (hf now)

/-- The fields of a request that are there, over the campaign. -/
def CampaignDraftInput.apply (body : CampaignDraftInput) (c : GiftCampaign) : GiftCampaign :=
  { c with
    name := (body.name.map trim).getD c.name
    occasion := if body.occasion.isSome then Shop.trimOrNull body.occasion else c.occasion
    message := if body.message.isSome then Shop.trimOrNull body.message else c.message }

def updateCampaign (orgId campaignId : Nat) (body : CampaignDraftInput) : Service CampaignView := do
  let campaign ← loadCampaign orgId campaignId
  assertEditable campaign.status
  Svc.ensure (body.name.all (fun name => 3 ≤ (codeUnits (trim name)).length) = true)
    (.badRequest "campaign_name_required")
  let updated ← Svc.transaction (.editCampaign campaignId) (writeCampaign campaignId fun _ => body.apply)
  pure updated.view

/-- The option is replaced, never added to. -/
def setOptionTx (campaignId : Nat) (productId : String) : Transaction Unit := do
  let _ ← campaignGiftOption.deleteMany fun o => o.campaignId = campaignId
  let id ← freshId
  let _ ← campaignGiftOption.create (.p2002 "CampaignGiftOption")
    { id := id, campaignId := campaignId, productId := productId, approvalSnapshot := none, snapshotAt := none }
  pure ()

/-- `setGiftOption`; `productId` is `none` where the body holds no text. -/
def setGiftOption (actorUserId : String) (orgId campaignId : Nat) (productId : Option String) : Service Unit :=
  match present productId with
  | none => Svc.fail (.badRequest "product_id_required")
  | some productId => do
      let campaign ← loadCampaign orgId campaignId
      assertEditable campaign.status
      let product ← Svc.query .read fun w => w.products.find? fun p => p.id = productId
      Svc.ensure (product.any (fun p => p.isAvailable && p.stockStatus = "in_stock") = true)
        (.badRequest "product_unavailable")
      Svc.transaction (.setOption campaignId) (setOptionTx campaignId productId)
      campaignAudit actorUserId "org.campaign.set_option" orgId
        [("campaignId", some (toString campaignId)), ("campaignReference", some campaign.referenceNumber),
          ("productId", some productId)]

/-! ### Recipients -/

/-- The recipients that are added; one that is there already is skipped. -/
def addRecipientsTx (campaignId : Nat) (contactIds : List Nat) : Transaction Nat := do
  let known ← Tx.read fun w => contactIds.all fun contactId => (w.contacts.find contactId).isSome
  Tx.ensure (known = true) (.error "foreign key constraint")
  let base ← freshIds contactIds.length
  campaignRecipient.createManyNew
    (contactIds.mapIdx fun i contactId => ⟨base + i, campaignId, contactId⟩)

/-- How many of the contacts were added, and how many not. -/
structure AddedRecipients where
  added : Nat
  skipped : Nat

/-- How many recipients a campaign has. -/
def recipientCount (campaignId : Nat) (w : Campaigns) : Nat := w.recipients.count fun r => r.campaignId = campaignId

/-- `addRecipients`; `contactIds` is `none` where the body holds no list of texts. -/
def addRecipients (actorUserId : String) (orgId campaignId : Nat) (contactIds : Option (List Nat)) :
    Service AddedRecipients :=
  match contactIds.filter fun ids => ids ≠ [] with
  | none => Svc.fail (.badRequest "contact_ids_required")
  | some contactIds => do
      let campaign ← loadCampaign orgId campaignId
      assertEditable campaign.status
      let unique := contactIds.dedup
      let validIds ← Svc.query .read fun w =>
        (w.contacts.rows.filter fun c => c.id ∈ unique ∧ c.orgId = orgId ∧ c.status = .active).map CorporateContact.id
      let current ← Svc.query .read (recipientCount campaignId)
      Svc.ensure (current + validIds.length ≤ MAX_CAMPAIGN_RECIPIENTS) (.badRequest "campaign_recipient_cap_exceeded")
      let added ← Svc.transaction (.addRecipients campaignId validIds) (addRecipientsTx campaignId validIds)
      campaignAudit actorUserId "org.campaign.add_recipients" orgId
        [("campaignId", some (toString campaignId)), ("added", some (toString added)),
          ("skipped", some (toString (unique.length - added)))]
      pure ⟨added, unique.length - added⟩

def removeRecipient (orgId campaignId recipientId : Nat) : Service Unit := do
  let campaign ← loadCampaign orgId campaignId
  assertEditable campaign.status
  let count ← Svc.transaction (.removeRecipient campaignId recipientId)
    (campaignRecipient.deleteMany fun r => r.id = recipientId && r.campaignId = campaignId)
  Svc.ensure (count ≠ 0) (.notFound "recipient_not_found")

/-! ### The state machine -/

def submitForApproval (actorUserId : String) (orgId campaignId : Nat) : Service CampaignView := do
  let campaign ← loadCampaign orgId campaignId
  assertEditable campaign.status
  let optionCount ← Svc.query .read fun w => w.options.count fun o => o.campaignId = campaignId
  let recipients ← Svc.query .read (recipientCount campaignId)
  Svc.ensure (optionCount ≠ 0) (.badRequest "campaign_option_required")
  Svc.ensure (recipients ≠ 0) (.badRequest "campaign_recipients_required")
  let updated ← Svc.transaction (.setStatus campaignId campaign.status .pending_approval)
    (writeCampaign campaignId fun now c =>
      { c with status := .pending_approval, submittedAt := some now, reviewNote := none })
  campaignAudit actorUserId "org.campaign.submit" orgId
    [("campaignId", some (toString campaignId)), ("campaignReference", some campaign.referenceNumber),
      ("recipients", some (toString recipients))]
  pure updated.view

/-- What the option freezes. -/
def Product.snapshot (p : Product) (s : Store) : GiftSnapshot where
  productId := p.id
  productName := p.name
  price := p.price
  imageUrl := p.imageUrl
  category := p.category
  storeId := p.storeId
  storeName := s.name

/-- The product with its store, where it can be given. -/
def liveProduct (productId : String) (w : Campaigns) : Option (Product × Store) :=
  (w.products.find? fun p => p.id = productId ∧ p.isAvailable = true ∧ p.stockStatus = "in_stock").bind fun p =>
    (w.stores.find? fun s => s.id = p.storeId ∧ s.status = "approved").map fun s => (p, s)

/-- The status and the snapshot, together. -/
def approveTx (actorUserId : String) (campaignId optionId : Nat) (snapshot : GiftSnapshot) :
    Transaction GiftCampaign := do
  let updated ← writeCampaign campaignId fun now c =>
    { c with status := .approved, approvedBy := some actorUserId, approvedAt := some now }
  let now ← Tx.read Campaigns.now
  let _ ← campaignGiftOption.update (.error "record to update not found") optionId fun o =>
    { o with approvalSnapshot := some snapshot, snapshotAt := some now }
  pure updated

/-- `approveCampaign`; the invoices that follow an approval are written by services of their own. -/
def approveCampaign (actorUserId : String) (orgId campaignId : Nat) : Service CampaignView := do
  let campaign ← loadCampaign orgId campaignId
  Svc.ensure (campaign.status = .pending_approval) (.badRequest "campaign_not_pending")
  Svc.ensure (campaign.createdBy ≠ actorUserId) (.forbidden "campaign_sod_creator_cannot_approve")
  let option ← Svc.query .read fun w => w.options.rows.find? fun o => o.campaignId = campaignId
  match option with
  | none => Svc.fail (.badRequest "campaign_option_required")
  | some option => do
      let live ← Svc.query .read (liveProduct option.productId)
      match live with
      | none => Svc.fail (.badRequest "product_unavailable")
      | some (product, store) => do
          let updated ← Svc.transaction (.setStatus campaignId campaign.status .approved)
            (approveTx actorUserId campaignId option.id (product.snapshot store))
          campaignAudit actorUserId "org.campaign.approve" orgId
            [("campaignId", some (toString campaignId)), ("campaignReference", some campaign.referenceNumber),
              ("productId", some product.id)]
          pure updated.view

def requestChanges (actorUserId : String) (orgId campaignId : Nat) (note : Option String) : Service CampaignView :=
  match Shop.trimOrNull note with
  | none => Svc.fail (.badRequest "campaign_review_note_required")
  | some trimmed => do
      let campaign ← loadCampaign orgId campaignId
      Svc.ensure (campaign.status = .pending_approval) (.badRequest "campaign_not_pending")
      Svc.ensure (campaign.createdBy ≠ actorUserId) (.forbidden "campaign_sod_creator_cannot_approve")
      let updated ← Svc.transaction (.setStatus campaignId campaign.status .changes_requested)
        (writeCampaign campaignId fun _ c => { c with status := .changes_requested, reviewNote := some trimmed })
      campaignAudit actorUserId "org.campaign.request_changes" orgId
        [("campaignId", some (toString campaignId)), ("campaignReference", some campaign.referenceNumber),
          ("note", some trimmed)]
      pure updated.view

def CampaignStatus.text : CampaignStatus → String
  | draft => "draft"
  | pending_approval => "pending_approval"
  | changes_requested => "changes_requested"
  | approved => "approved"
  | dispatching => "dispatching"
  | completed => "completed"
  | cancelled => "cancelled"

def cancelCampaign (actorUserId : String) (orgId campaignId : Nat) : Service CampaignView := do
  let campaign ← loadCampaign orgId campaignId
  Svc.ensure (campaign.status ∈ CANCELLABLE) (.badRequest "campaign_not_cancellable")
  let updated ← Svc.transaction (.setStatus campaignId campaign.status .cancelled)
    (writeCampaign campaignId fun now c =>
      { c with status := .cancelled, cancelledBy := some actorUserId, cancelledAt := some now })
  campaignAudit actorUserId "org.campaign.cancel" orgId
    [("campaignId", some (toString campaignId)), ("campaignReference", some campaign.referenceNumber),
      ("fromStatus", some campaign.status.text)]
  pure updated.view

end Qift.Campaigns
