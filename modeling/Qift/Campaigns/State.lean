import Qift.Campaigns.Roster
import Qift.Lib.Bulk
import Qift.Organizations.Service

/-!
# The stored state of corporate gifting

* One structure for each model of the schema: contacts, campaigns, gift options, recipients, dispatch jobs, claimable
  gifts and their addresses.
* `Campaigns` is the database with the clock and the configuration. Organizations, products, stores and invoices are
  written by other services; here they are read.
* `Step` labels an atomic action. A write carries what its call had read and decided.
-/

namespace Qift.Campaigns

open Relational Interleaving

/-! ### Enumerated columns -/

inductive ContactStatus
  | active | archived
  deriving DecidableEq

inductive CampaignStatus
  | draft | pending_approval | changes_requested | approved | dispatching | completed | cancelled
  deriving DecidableEq

def EDITABLE : List CampaignStatus := [.draft, .changes_requested]

def CANCELLABLE : List CampaignStatus := [.draft, .pending_approval, .changes_requested, .approved]

/-- The states that protect a selected contact from the purge. -/
def PURGE_PROTECTING_CAMPAIGN_STATES : List CampaignStatus := [.pending_approval, .approved, .dispatching]

def MAX_CAMPAIGN_RECIPIENTS : Nat := 1000

/-- `cancelled` is reserved; no service writes it. -/
inductive JobStatus
  | pending | processing | dispatched | failed | cancelled
  deriving DecidableEq

/-- `revoked` is reserved, and a later version may write any other text. -/
inductive ClaimStatus
  | pending | claimed | declined | mismatch | expired | revoked
  | other (text : String)
  deriving DecidableEq

inductive ClaimChannel
  | phone | email
  deriving DecidableEq

/-! ### Rows of other services -/

structure Product where
  id : String
  name : String
  price : Number
  imageUrl : Option String
  category : String
  isAvailable : Bool
  stockStatus : String
  isFastDelivery : Bool
  storeId : String

structure Store where
  id : String
  name : String
  status : String
  city : String
  /-- The `deliveryZones` column. -/
  deliveryZones : Json

/-- The invoice of the service fee. -/
structure CorporateInvoice where
  id : Nat
  orgId : Nat
  campaignId : Nat
  invoiceNumber : String
  status : InvoiceStatus
  currency : CurrencyCode
  recipientCount : Nat
  platformFeeAmount : Decimal
  vatAmount : Option Decimal
  totalAmount : Decimal
  issuedAt : Option Time

/-- The merchant's invoice of the goods. -/
structure MerchantInvoice where
  id : Nat
  orgId : Nat
  campaignId : Nat
  storeId : String
  /-- `metadata.storeName`. -/
  storeName : Option String
  merchantInvoiceNumber : Option String
  invoiceNumberSource : String
  status : InvoiceStatus
  currency : CurrencyCode
  recipientCount : Nat
  goodsSubtotalAmount : Decimal
  vatAmount : Option Decimal
  totalAmount : Decimal
  issuedAt : Option Time

/-! ### Rows -/

structure CorporateContact where
  id : Nat
  orgId : Nat
  fullName : String
  email : Option String
  phone : Option String
  department : Option String
  employeeRef : Option String
  status : ContactStatus
  importBatchId : String
  purgeAfter : Time
  archivedAt : Option Time
  createdAt : Time

def CorporateContact.channels (c : CorporateContact) : List Channel := channelsOf c.email c.phone

/-- `phone ?? email`: the value a claim of the contact is bound to. -/
def CorporateContact.bound (c : CorporateContact) : Option String := c.phone.or c.email

structure GiftCampaign where
  id : Nat
  orgId : Nat
  name : String
  referenceNumber : String
  occasion : Option String
  message : Option String
  status : CampaignStatus
  createdBy : String
  submittedAt : Option Time
  approvedBy : Option String
  approvedAt : Option Time
  reviewNote : Option String
  cancelledBy : Option String
  cancelledAt : Option Time
  createdAt : Time
  updatedAt : Time

/-- What the option freezes when the campaign is approved. -/
structure GiftSnapshot where
  productId : String
  productName : String
  price : Number
  imageUrl : Option String
  category : String
  storeId : String
  storeName : String

structure CampaignGiftOption where
  id : Nat
  campaignId : Nat
  productId : String
  approvalSnapshot : Option GiftSnapshot
  snapshotAt : Option Time

/-- A contact that is selected for a campaign. -/
structure CampaignRecipient where
  id : Nat
  campaignId : Nat
  contactId : Nat

/-- One unit of delivery; its `idempotencyKey` is the campaign with the contact. -/
structure DispatchJob where
  id : Nat
  campaignId : Nat
  contactId : Nat
  status : JobStatus
  attempts : Nat
  lastError : Option String
  claimRef : Option Nat
  processedAt : Option Time
  createdAt : Time

structure ClaimableGift where
  id : Nat
  campaignId : Nat
  contactId : Nat
  jobId : Nat
  tokenHash : String
  giftReference : String
  status : ClaimStatus
  recipientName : String
  channel : ClaimChannel
  channelValue : String
  orgDisplayName : String
  campaignMessage : Option String
  giftSnapshot : GiftSnapshot
  sessionTokenHash : Option String
  sessionExpiresAt : Option Time
  otpVerifiedAt : Option Time
  claimedAt : Option Time
  declinedAt : Option Time
  expiresAt : Time
  createdAt : Time

/-- What a recipient submits. -/
structure SubmittedAddress where
  fullName : Option String
  phone : String
  country : String
  region : Option String
  city : String
  district : Option String
  line1 : String
  notes : Option String
  deriving DecidableEq

structure ClaimAddress where
  claimId : Nat
  address : SubmittedAddress

end Qift.Campaigns

namespace Qift

open Relational

/-- The database of corporate gifting, with the clock and the configuration. -/
structure Campaigns where
  now : Time
  /-- `QIFT_ROSTER_RETENTION_DAYS`; `none` when it is no number. -/
  retentionDays : Option Number
  archiveGraceDays : Option Number
  claimTtlDays : Option Number
  qiftClaimBaseUrl : Option String
  dispatchPaused : Bool
  organizations : List Organizations.Organization
  products : List Campaigns.Product
  stores : List Campaigns.Store
  corporateInvoices : List Campaigns.CorporateInvoice
  merchantInvoices : List Campaigns.MerchantInvoice
  contacts : Table Campaigns.CorporateContact.id
  campaigns : Table Campaigns.GiftCampaign.id
  options : Table Campaigns.CampaignGiftOption.id
  recipients : Table Campaigns.CampaignRecipient.id
  jobs : Table Campaigns.DispatchJob.id
  claims : Table Campaigns.ClaimableGift.id
  addresses : Table Campaigns.ClaimAddress.claimId
  audits : List Organizations.AuditRecord
  nextId : Nat

end Qift

namespace Qift.Campaigns

open Relational Interleaving

def empty : Campaigns where
  now := 0
  retentionDays := none
  archiveGraceDays := none
  claimTtlDays := none
  qiftClaimBaseUrl := none
  dispatchPaused := false
  organizations := []
  products := []
  stores := []
  corporateInvoices := []
  merchantInvoices := []
  contacts := Table.empty
  campaigns := Table.empty
  options := Table.empty
  recipients := Table.empty
  jobs := Table.empty
  claims := Table.empty
  addresses := Table.empty
  audits := []
  nextId := 0

/-! ### Client delegates -/

abbrev corporateContact : Delegate Campaigns CorporateContact.id where
  table := Campaigns.contacts
  store t w := { w with contacts := t }
  conflict _ _ := false

abbrev giftCampaign : Delegate Campaigns GiftCampaign.id where
  table := Campaigns.campaigns
  store t w := { w with campaigns := t }
  conflict a b := decide (a.referenceNumber = b.referenceNumber)

abbrev campaignGiftOption : Delegate Campaigns CampaignGiftOption.id where
  table := Campaigns.options
  store t w := { w with options := t }
  conflict _ _ := false

abbrev campaignRecipient : Delegate Campaigns CampaignRecipient.id where
  table := Campaigns.recipients
  store t w := { w with recipients := t }
  conflict a b := decide (a.campaignId = b.campaignId ∧ a.contactId = b.contactId)

abbrev dispatchJob : Delegate Campaigns DispatchJob.id where
  table := Campaigns.jobs
  store t w := { w with jobs := t }
  conflict a b := decide (a.campaignId = b.campaignId ∧ a.contactId = b.contactId)

/-- Claims are unique by job, by token and by reference. -/
abbrev claimableGift : Delegate Campaigns ClaimableGift.id where
  table := Campaigns.claims
  store t w := { w with claims := t }
  conflict a b := decide (a.jobId = b.jobId ∨ a.tokenHash = b.tokenHash ∨ a.giftReference = b.giftReference)

abbrev claimAddress : Delegate Campaigns ClaimAddress.claimId where
  table := Campaigns.addresses
  store t w := { w with addresses := t }
  conflict _ _ := false

/-! ### Actions -/

/-- An atomic action. -/
inductive Step
  /-- A query or a clock read. -/
  | read
  /-- The clock, the configuration and what other services write. -/
  | environment
  /-- An audit record. -/
  | record
  | importRows (orgId : Nat) (rows : List RosterRow)
  | archive (orgId contactId : Nat)
  | createCampaign
  | editCampaign (campaignId : Nat)
  | setOption (campaignId : Nat)
  /-- Contacts are selected, by a call that had found room for them. -/
  | addRecipients (campaignId : Nat) (contactIds : List Nat)
  | removeRecipient (campaignId recipientId : Nat)
  /-- A change of status, by a call that had read the status `found`. -/
  | setStatus (campaignId : Nat) (found target : CampaignStatus)
  /-- The jobs of a campaign, by a call that had read its recipients. -/
  | dispatch (campaignId : Nat) (contactIds : List Nat)
  | complete
  | startJob (jobId : Nat)
  | settleJob (jobId : Nat) (target : JobStatus)
  | mint (jobId : Nat)
  | rotate (claimId : Nat)
  | expire (claimId : Nat)
  | session (claimId : Nat)
  | finalize (claimId : Nat) (target : ClaimStatus)
  | claim (claimId : Nat) (address : SubmittedAddress)
  | sweep
  deriving DecidableEq

/-- A service call. -/
abbrev Service := Svc Campaigns Step Err

/-- The body of a database transaction. -/
abbrev Transaction := Tx Campaigns Err

/-- `Date.now()`. -/
def dateNow : Service Time := Svc.query .read Campaigns.now

/-- An identifier that was not handed out before. -/
def freshId : Transaction Nat := fun w => .ok (w.nextId, { w with nextId := w.nextId + 1 })

/-- The first of `n` identifiers that were not handed out before. -/
def freshIds (n : Nat) : Transaction Nat := fun w => .ok (w.nextId, { w with nextId := w.nextId + n })

/-- `audit.record`; its failure is logged and nothing more. -/
def record (r : Organizations.AuditRecord) : Service Unit :=
  Svc.transaction .record (Tx.modify fun w => { w with audits := w.audits ++ [r] })

/-- A record about an organization. -/
def orgAudit (actorUserId : Option String) (action : String) (orgId : Option Nat)
    (metadata : List (String × Option String)) : Service Unit :=
  record
    { actorUserId := actorUserId
      actorType := "user"
      action := action
      targetType := "organization"
      targetId := orgId
      metadata := metadata }

/-! ### Windows -/

def DAY_MS : Int := 24 * 60 * 60 * 1000
def DEFAULT_RETENTION_DAYS : Int := 365
def DEFAULT_ARCHIVE_GRACE_DAYS : Int := 30
def DEFAULT_CLAIM_TTL_DAYS : Int := 30

def envDays (value : Option Number) (fallback : Int) : Int :=
  match value with
  | some n => if 1 ≤ n then ⌊n⌋ else fallback
  | none => fallback

/-- The purge deadline of a row that is imported now. -/
def retainUntil (w : Campaigns) : Time := w.now + envDays w.retentionDays DEFAULT_RETENTION_DAYS * DAY_MS

/-- The purge deadline of a row that is archived now. -/
def graceUntil (w : Campaigns) : Time := w.now + envDays w.archiveGraceDays DEFAULT_ARCHIVE_GRACE_DAYS * DAY_MS

/-- When a claim that is minted now expires. -/
def claimUntil (w : Campaigns) : Time := w.now + envDays w.claimTtlDays DEFAULT_CLAIM_TTL_DAYS * DAY_MS

end Qift.Campaigns
