import Qift.Campaigns.Claiming
import Qift.Shop.Payments

/-!
# What the organization reads

`report.service.ts`, `billing-summary.service.ts` and the reads of campaigns, dispatch and invoices.

* `countsFor` groups the jobs and the claims of a campaign by status; `orgCampaignReport` collapses the outcomes of the
  claims to claimed, pending and the rest.
* `OrgRead` are the reads of the organization plane, `respond` answers them.
-/

namespace Qift.Campaigns

open Relational Interleaving

/-! ### The funnel -/

/-- `groupBy`: each value that occurs, with the number of its rows. -/
def groupCount {τ : Type} [DecidableEq τ] (values : List τ) : List (τ × Nat) :=
  values.dedup.map fun v => (v, values.count v)

def jobStatuses (campaignId : Nat) (w : Campaigns) : List JobStatus :=
  (w.jobs.rows.filter fun j => j.campaignId = campaignId).map DispatchJob.status

def claimStatuses (campaignId : Nat) (w : Campaigns) : List ClaimStatus :=
  (w.claims.rows.filter fun c => c.campaignId = campaignId).map ClaimableGift.status

/-- A pending claim whose link nobody touched after its expiry. -/
def ClaimableGift.lapsed (now : Time) (c : ClaimableGift) : Bool := c.status = .pending && c.expiresAt < now

structure CampaignCounts where
  recipients : Nat
  jobs : List (JobStatus × Nat)
  claims : List (ClaimStatus × Nat)
  pendingExpired : Nat

def countsFor (campaignId : Nat) : Service CampaignCounts := do
  let recipients ← Svc.query .read (recipientCount campaignId)
  let jobs ← Svc.query .read fun w => groupCount (jobStatuses campaignId w)
  let claims ← Svc.query .read fun w => groupCount (claimStatuses campaignId w)
  let pendingExpired ← Svc.query .read fun w =>
    w.claims.count fun c => c.campaignId = campaignId && c.lapsed w.now
  pure ⟨recipients, jobs, claims, pendingExpired⟩

/-- `REPORT_CAMPAIGN_SELECT`. -/
structure ReportedCampaign where
  id : Nat
  referenceNumber : String
  name : String
  occasion : Option String
  status : CampaignStatus
  submittedAt : Option Time
  approvedAt : Option Time
  createdAt : Time

def GiftCampaign.reported (c : GiftCampaign) : ReportedCampaign where
  id := c.id
  referenceNumber := c.referenceNumber
  name := c.name
  occasion := c.occasion
  status := c.status
  submittedAt := c.submittedAt
  approvedAt := c.approvedAt
  createdAt := c.createdAt

/-- The figures of the gifts. -/
structure GiftFigures where
  issued : Int
  claimed : Int
  pending : Int
  didNotParticipate : Int
  deriving DecidableEq

structure CampaignReport where
  campaign : ReportedCampaign
  recipients : Nat
  dispatched : Nat
  gifts : GiftFigures

/-- The figures of the counts: what neither was claimed nor can be claimed any more is the rest. -/
def CampaignCounts.gifts (counts : CampaignCounts) : GiftFigures :=
  let issued : Int := ((counts.claims.map Prod.snd).sum : Nat)
  let claimed : Int := ((counts.claims.lookup .claimed).getD 0 : Nat)
  let pending : Int := ((counts.claims.lookup .pending).getD 0 : Nat) - counts.pendingExpired
  { issued := issued
    claimed := claimed
    pending := pending
    didNotParticipate := issued - claimed - pending }

def orgCampaignReport (orgId campaignId : Nat) : Service CampaignReport := do
  let campaign ← loadCampaign orgId campaignId
  let counts ← countsFor campaignId
  pure
    { campaign := campaign.reported
      recipients := counts.recipients
      dispatched := (counts.jobs.lookup .dispatched).getD 0
      gifts := counts.gifts }

/-! ### Campaigns and their dispatch -/

structure ListedCampaign where
  campaign : CampaignView
  recipients : Nat
  options : Nat

/-- The latest hundred campaigns, with counts only. -/
def listCampaigns (orgId : Nat) : Service (List ListedCampaign) :=
  Svc.query .read fun w =>
    (((w.campaigns.rows.filter fun c => c.orgId = orgId).insertionSort fun a b => b.createdAt ≤ a.createdAt).take
      100).map fun c => ⟨c.view, recipientCount c.id w, w.options.count fun o => o.campaignId = c.id⟩

/-- A recipient as the approver sees it. -/
structure RecipientView where
  id : Nat
  contactId : Nat
  fullName : String
  department : Option String
  status : ContactStatus

structure CampaignDetail where
  campaign : CampaignView
  options : List CampaignGiftOption
  recipients : List RecipientView

/-- The recipients of a campaign with their contacts. -/
def recipientViews (campaignId : Nat) (w : Campaigns) : List RecipientView :=
  ((w.recipients.rows.filter fun r => r.campaignId = campaignId).take MAX_CAMPAIGN_RECIPIENTS).filterMap fun r =>
    (w.contacts.find r.contactId).map fun c => ⟨r.id, r.contactId, c.fullName, c.department, c.status⟩

def getCampaign (orgId campaignId : Nat) : Service CampaignDetail := do
  let found ← Svc.query .read fun w =>
    ((w.campaigns.find campaignId).filter fun c => c.orgId = orgId).map fun c =>
      (⟨c.view, w.options.rows.filter fun o => o.campaignId = campaignId, recipientViews campaignId w⟩ : CampaignDetail)
  match found with
  | none => Svc.fail (.notFound "campaign_not_found")
  | some detail => pure detail

structure DispatchStatus where
  campaignStatus : CampaignStatus
  jobs : List (JobStatus × Nat)

def getDispatchStatus (orgId campaignId : Nat) : Service DispatchStatus := do
  let campaign ← loadCampaign orgId campaignId
  let jobs ← Svc.query .read fun w => groupCount (jobStatuses campaignId w)
  pure ⟨campaign.status, jobs⟩

/-! ### Invoices and the billing summary -/

def getInvoiceForCampaign (orgId campaignId : Nat) : Service (Option CorporateInvoice) :=
  Svc.query .read fun w => w.corporateInvoices.find? fun i => i.campaignId = campaignId ∧ i.orgId = orgId

def getMerchantInvoiceForCampaign (orgId campaignId : Nat) : Service (Option MerchantInvoice) :=
  Svc.query .read fun w => w.merchantInvoices.find? fun i => i.campaignId = campaignId ∧ i.orgId = orgId

/-- The goods leg: the merchant's sale to the company. -/
structure MerchantLegSummary where
  invoiceId : Nat
  merchantInvoiceNumber : Option String
  invoiceNumberSource : String
  status : InvoiceStatus
  issuedAt : Option Time
  storeId : String
  storeName : Option String
  goodsSubtotalAmount : Number
  vatAmount : Number
  totalAmount : Number

/-- The service leg: Qift's fee. -/
structure QiftLegSummary where
  invoiceId : Nat
  invoiceNumber : String
  status : InvoiceStatus
  issuedAt : Option Time
  serviceFeeAmount : Number
  vatAmount : Number
  totalAmount : Number

inductive MissingLeg
  | merchant_invoice | qift_service_invoice

/-- Qift is an agent: the goods are the merchant's sale, the fee is Qift's. -/
structure CampaignBillingSummary where
  campaignId : Nat
  campaignReference : String
  orgId : Nat
  currency : CurrencyCode
  merchantInvoice : Option MerchantLegSummary
  qiftInvoice : Option QiftLegSummary
  grandTotalAmount : Option Number
  complete : Bool
  missing : List MissingLeg

/-- A column that may be empty; an empty one counts nothing. -/
def columnAmount (d : Option Decimal) : Number := (d.map moneyToNumber).getD 0

def CorporateInvoice.leg (i : CorporateInvoice) : QiftLegSummary where
  invoiceId := i.id
  invoiceNumber := i.invoiceNumber
  status := i.status
  issuedAt := i.issuedAt
  serviceFeeAmount := moneyToNumber i.platformFeeAmount
  vatAmount := columnAmount i.vatAmount
  totalAmount := moneyToNumber i.totalAmount

def MerchantInvoice.leg (i : MerchantInvoice) : MerchantLegSummary where
  invoiceId := i.id
  merchantInvoiceNumber := i.merchantInvoiceNumber
  invoiceNumberSource := i.invoiceNumberSource
  status := i.status
  issuedAt := i.issuedAt
  storeId := i.storeId
  storeName := i.storeName
  goodsSubtotalAmount := moneyToNumber i.goodsSubtotalAmount
  vatAmount := columnAmount i.vatAmount
  totalAmount := moneyToNumber i.totalAmount

/-- What the company pays over both legs; nothing is summed over two currencies. -/
def grandTotal (merchant : Option MerchantInvoice) (qift : Option CorporateInvoice) : Option Number :=
  match merchant, qift with
  | some m, some q =>
      if m.currency = q.currency then some (Shop.addMoney [m.leg.totalAmount, q.leg.totalAmount]) else none
  | _, _ => none

def missingLegs (merchant : Option MerchantInvoice) (qift : Option CorporateInvoice) : List MissingLeg :=
  (if merchant = none then [.merchant_invoice] else []) ++ (if qift = none then [.qift_service_invoice] else [])

def getCampaignBillingSummary (orgId campaignId : Nat) : Service CampaignBillingSummary := do
  let campaign ← loadCampaign orgId campaignId
  let qift ← getInvoiceForCampaign orgId campaignId
  let merchant ← getMerchantInvoiceForCampaign orgId campaignId
  pure
    { campaignId := campaignId
      campaignReference := campaign.referenceNumber
      orgId := orgId
      currency := ((qift.map CorporateInvoice.currency).or (merchant.map MerchantInvoice.currency)).getD .SAR
      merchantInvoice := merchant.map MerchantInvoice.leg
      qiftInvoice := qift.map CorporateInvoice.leg
      grandTotalAmount := grandTotal merchant qift
      complete := decide (missingLegs merchant qift = [])
      missing := missingLegs merchant qift }

/-! ### The organization plane -/

/-- The reads of a seat of the organization. -/
inductive OrgRead
  | orgCampaignReport (orgId campaignId : Nat)
  | listCampaigns (orgId : Nat)
  | getCampaign (orgId campaignId : Nat)
  | getDispatchStatus (orgId campaignId : Nat)
  | getInvoiceForCampaign (orgId campaignId : Nat)
  | getMerchantInvoiceForCampaign (orgId campaignId : Nat)
  | getCampaignBillingSummary (orgId campaignId : Nat)

inductive OrgResponse
  | report (report : CampaignReport)
  | campaigns (campaigns : List ListedCampaign)
  | campaign (detail : CampaignDetail)
  | dispatchStatus (status : DispatchStatus)
  | invoice (invoice : Option CorporateInvoice)
  | merchantInvoice (invoice : Option MerchantInvoice)
  | billingSummary (summary : CampaignBillingSummary)

def respond : OrgRead → Service OrgResponse
  | .orgCampaignReport orgId campaignId => .report <$> orgCampaignReport orgId campaignId
  | .listCampaigns orgId => .campaigns <$> listCampaigns orgId
  | .getCampaign orgId campaignId => .campaign <$> getCampaign orgId campaignId
  | .getDispatchStatus orgId campaignId => .dispatchStatus <$> getDispatchStatus orgId campaignId
  | .getInvoiceForCampaign orgId campaignId => .invoice <$> getInvoiceForCampaign orgId campaignId
  | .getMerchantInvoiceForCampaign orgId campaignId => .merchantInvoice <$> getMerchantInvoiceForCampaign orgId campaignId
  | .getCampaignBillingSummary orgId campaignId => .billingSummary <$> getCampaignBillingSummary orgId campaignId

end Qift.Campaigns
