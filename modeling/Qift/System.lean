import Qift.Fees.TaxEngine
import Qift.Settlement.Execution
import Qift.Settlement.RefundRequests
import Qift.Treasury.Reconciliation

/-!
# The platform

The calls of the financial services and of their surroundings as one system.

* The first part is the environment: the clock and configuration, the invoices that are issued, the legal
  number a merchant supplies and the postings of the consumer lane.
* `Call` names every call, `program` is the service that answers it.  The interleavings of `program` are the
  runs of the platform.
-/

namespace Qift

open Relational Interleaving Settlement Financial Treasury

/-! ### The environment -/

/-- What the modelled services read and never write. -/
structure Surroundings where
  now : Time
  gatesAttested : Bool
  seniorApprovers : List Nat
  stores : Table Store.id
  campaigns : Table GiftCampaign.id
  claims : Table ClaimableGift.id

/-- The surroundings change in any way. -/
def surround (s : Surroundings) : Service Unit :=
  Svc.transaction .environment (Tx.modify fun w =>
    { w with db := { w.db with
      now := s.now
      gatesAttested := s.gatesAttested
      seniorApprovers := s.seniorApprovers
      stores := s.stores
      campaigns := s.campaigns
      claims := s.claims } })

/-- A campaign that is invoiced: the catalogue price of its gift and the number of its recipients. -/
structure InvoicedCampaign where
  orgId : Nat
  campaignId : Nat
  currency : CurrencyCode
  unitAmount : Number
  recipientCount : Nat

/-- What stands before an invoice is issued: the price a product was accepted with, and recipients. -/
def assertInvoiceable (campaign : InvoicedCampaign) : Service Unit := do
  Svc.ensure (0 ≤ campaign.unitAmount) (.badRequest "price must be a non-negative number")
  Svc.ensure (0 < campaign.recipientCount) (.badRequest "campaign_recipients_required")

structure IssueMerchantInvoice where
  campaign : InvoicedCampaign
  storeId : Nat
  vatRegistered : Bool
  pricesIncludeVat : Bool

/-- The tax of the goods leg. -/
def goodsTaxOf (input : IssueMerchantInvoice) : Except Err MerchantGoodsTaxBreakdown :=
  let amounts := computeInvoiceAmounts input.campaign.unitAmount input.campaign.recipientCount
  computeMerchantGoodsTax
    { goodsSubtotalAmount := amounts.subtotalAmount
      vatRegistered := input.vatRegistered
      pricesIncludeVat := input.pricesIncludeVat }

def merchantInvoiceRow (input : IssueMerchantInvoice) (goodsTax : MerchantGoodsTaxBreakdown)
    (id : Nat) : MerchantInvoice where
  id := id
  storeId := input.storeId
  orgId := input.campaign.orgId
  campaignId := input.campaign.campaignId
  status := .issued
  merchantInvoiceNumber := none
  currency := input.campaign.currency
  vatAmount := Decimal.ofNumber goodsTax.vatAmount
  totalAmount := Decimal.ofNumber goodsTax.totalAmount
  paidAt := none

def goodsInvoicedPosting (inv : MerchantInvoice) : RecordLedgerInput where
  eventType := .MERCHANT_INVOICE_ISSUED
  reasonCode := "MERCHANT_GOODS_INVOICED"
  amount := moneyToNumber inv.totalAmount
  currency := inv.currency
  direction := .credit
  storeId := some inv.storeId
  metadata := { invoiceId := some inv.id }
  idempotencyKey := some (ledgerIdempotencyKey .MERCHANT_INVOICE_ISSUED (.id inv.id))

/-- A posting that never fails its caller. -/
def recordBestEffort (input : RecordLedgerInput) : Service Unit :=
  Svc.tryCatch
    (do
      let _ ← Svc.transaction .environment (record input)
      pure ())
    fun _ => pure ()

def issueMerchantInvoice (input : IssueMerchantInvoice) : Service MerchantInvoice := do
  assertInvoiceable input.campaign
  let goodsTax ← Svc.ofExcept (goodsTaxOf input)
  let inv ← Svc.transaction .environment
    (insert Model.merchantInvoice (merchantInvoiceRow input goodsTax))
  recordBestEffort (goodsInvoicedPosting inv)
  pure inv

structure IssueCorporateInvoice where
  campaign : InvoicedCampaign
  invoiceNumber : String
  buyerSnapshot : Option Json
  sellerSnapshot : Option Json

/-- The amounts of the fee leg. -/
def feeAmountsOf (input : IssueCorporateInvoice) : InvoiceAmounts :=
  computeInvoiceAmounts input.campaign.unitAmount input.campaign.recipientCount

/-- The tax of the fee leg. -/
def feeTaxOf (input : IssueCorporateInvoice) : Except Err TaxBreakdown :=
  let amounts := feeAmountsOf input
  computeTax
    { subtotalAmount := amounts.subtotalAmount
      platformFeeAmount := amounts.platformFeeAmount }

def corporateInvoiceRow (input : IssueCorporateInvoice) (tax : TaxBreakdown) (id : Nat) :
    CorporateInvoice where
  id := id
  invoiceNumber := input.invoiceNumber
  orgId := input.campaign.orgId
  campaignId := input.campaign.campaignId
  status := .issued
  balanceStatus := .open
  currency := input.campaign.currency
  platformFeeAmount := Decimal.ofNumber (feeAmountsOf input).platformFeeAmount
  vatAmount := some (Decimal.ofNumber tax.vatAmount)
  totalAmount := Decimal.ofNumber tax.totalAmount
  taxRuleVersion := some TAX_RULE_VERSION
  buyerSnapshot := input.buyerSnapshot
  sellerSnapshot := input.sellerSnapshot
  paidAt := none

/-- The receivable posting of an issued fee invoice. -/
def receivablePostingOf (inv : CorporateInvoice) : RecordLedgerInput where
  eventType := .CORPORATE_INVOICE_ISSUED
  reasonCode := "CORPORATE_RECEIVABLE"
  amount := moneyToNumber inv.totalAmount
  currency := inv.currency
  direction := .credit
  metadata := { invoiceId := some inv.id }
  idempotencyKey := some (ledgerIdempotencyKey .CORPORATE_INVOICE_ISSUED (.id inv.id))

def issueCorporateInvoice (input : IssueCorporateInvoice) : Service CorporateInvoice := do
  assertInvoiceable input.campaign
  let tax ← Svc.ofExcept (feeTaxOf input)
  let inv ← Svc.transaction .environment
    (insert Model.corporateInvoice (corporateInvoiceRow input tax))
  recordBestEffort (receivablePostingOf inv)
  pure inv

/-- `attachLegalReference`: a number that is set stands. -/
def attachLegalReference (invoiceId : Nat) (merchantInvoiceNumber : Option String) :
    Service Unit := do
  let invoice ← Svc.query .read (findUnique Model.merchantInvoice invoiceId)
  match invoice with
  | none => Svc.fail (.notFound "merchant_invoice_not_found")
  | some invoice => do
      let number := trimmed merchantInvoiceNumber
      Svc.ensure (invoice.merchantInvoiceNumber.isSome → number.isSome →
          number = invoice.merchantInvoiceNumber)
        (.badRequest "merchant_invoice_number_immutable")
      let _ ← Svc.transaction .environment (updateMany Model.merchantInvoice
        (fun i => i.id = invoiceId)
        (fun i => { i with merchantInvoiceNumber := invoice.merchantInvoiceNumber.or number }))
      pure ()

structure PaidOrder where
  storeId : Option Nat
  productPrice : Number
  serviceFee : Number
  deliveryFee : Number
  totalAmount : Number
  currency : CurrencyCode

/-- A leg of the allocation of an order. -/
def orderLeg (order : PaidOrder) (orderId : Nat) (eventType : FinancialEvent)
    (reasonCode : String) (amount : Number) (direction : LedgerDirection) : RecordLedgerInput where
  eventType := eventType
  reasonCode := reasonCode
  amount := amount
  currency := order.currency
  direction := direction
  orderId := some orderId
  storeId := order.storeId
  idempotencyKey := some (ledgerIdempotencyKey eventType (.id orderId))

def buildOrderLedgerEntries (order : PaidOrder) (orderId : Nat) : List RecordLedgerInput :=
  [orderLeg order orderId .ORDER_PAID "ORDER_PAID" order.totalAmount .credit] ++
    (if 0 < order.serviceFee then
      [orderLeg order orderId .QIFT_SERVICE_FEE_ACCRUED "QIFT_SERVICE_FEE" order.serviceFee .credit]
    else []) ++
    (if order.storeId.isSome ∧ 0 < order.productPrice then
      [orderLeg order orderId .MERCHANT_PAYABLE_ACCRUED "MERCHANT_PAYABLE" order.productPrice .debit]
    else []) ++
    if 0 < order.deliveryFee then
      [orderLeg order orderId .DELIVERY_FEE_ACCRUED "DELIVERY_FEE" order.deliveryFee .debit]
    else []

/-- Draw the identifier of an order. -/
def createOrder : Transaction Nat := fun w =>
  .ok (w.db.nextId, { w with db := { w.db with nextId := w.db.nextId + 1 } })

/-- A consumer order that is paid posts its legs. -/
def payOrder (order : PaidOrder) : Service Unit := do
  let orderId ← Svc.transaction .environment createOrder
  Svc.forEach (buildOrderLedgerEntries order orderId) recordBestEffort

/-! ### Calls -/

/-- The calls of the platform. -/
inductive Call
  | surround (s : Surroundings)
  | issueMerchantInvoice (input : IssueMerchantInvoice)
  | issueCorporateInvoice (input : IssueCorporateInvoice)
  | attachLegalReference (invoiceId : Nat) (merchantInvoiceNumber : Option String)
  | payOrder (order : PaidOrder)
  | verifyPayoutIdentity (storeId : Nat) (evidence : String)
  | evaluate (storeId : Nat)
  | recordReceipt (actor : Nat) (input : RecordReceiptInput)
  | deriveAndApplyCoverage (invoiceType : InvoiceType) (invoiceId : Nat)
  | recordRefund (actor : Nat) (input : RecordRefundInput) (candidates : List String)
  | requestRefund (actor : Nat) (input : RequestRefundInput)
  | approveRefund (actor requestId : Nat)
  | executeRefund (actor requestId : Nat) (input : ExecuteRefundInput) (candidates : List String)
  | cancelRefundRequest (actor requestId : Nat)
  | simulate (storeId : Nat) (currency : String)
  | assembleBatch (actor storeId : Nat) (currency : String) (draws : Nat → List String)
  | markFailed (batchId : Nat) (evidence : String)
  | retry (batchId : Nat)
  | holdBatch (batchId : Nat) (evidence : String)
  | supersede (batchId : Nat) (cause : String) (affectedItemIds : List Nat)
      (hold : Option SupersedeHold)
  | linkSuccessor (supersededId successorId : Nat)
  | markSettled (batchId : Nat) (evidence : RemittanceInput)
  | markSettledZeroNet (batchId : Nat)
  | preview (actor batchId : Nat)
  | approve (actor batchId : Nat) (calculationHash : String) (note : Option String)
  | execute (actor batchId : Nat) (input : ExecuteInput)
  | closeZeroNet (actor batchId : Nat) (previewHash : String)
  | replay (actor batchId : Nat)
  | recordInternalTransfer (actor : Nat) (input : InternalTransferInput)
  | pendingInternalTransfers
  | gatherMovements

/-- What a call answers, as far as some property speaks about it. -/
inductive Reply
  | done
  | executed (result : Executed)
  | replayed (report : ReplayReport)

/-- A call whose answer no property speaks about. -/
def answer {α : Type} (x : Service α) : Service Reply := do
  let _ ← x
  pure .done

section Program

variable [Runtime]

def program : Call → Service Reply
  | .surround s => answer (surround s)
  | .issueMerchantInvoice input => answer (issueMerchantInvoice input)
  | .issueCorporateInvoice input => answer (issueCorporateInvoice input)
  | .attachLegalReference invoiceId number => answer (attachLegalReference invoiceId number)
  | .payOrder order => answer (payOrder order)
  | .verifyPayoutIdentity storeId evidence => answer (verifyPayoutIdentity storeId evidence)
  | .evaluate storeId => answer (evaluate storeId)
  | .recordReceipt actor input => answer (recordReceipt actor input)
  | .deriveAndApplyCoverage invoiceType invoiceId =>
      answer (deriveAndApplyCoverage invoiceType invoiceId)
  | .recordRefund actor input candidates => answer (recordRefund none actor input candidates)
  | .requestRefund actor input => answer (requestRefund actor input)
  | .approveRefund actor requestId => answer (approveRefund actor requestId)
  | .executeRefund actor requestId input candidates =>
      answer (executeRefund actor requestId input candidates)
  | .cancelRefundRequest actor requestId => answer (cancelRefundRequest actor requestId)
  | .simulate storeId currency => answer (simulate storeId currency)
  | .assembleBatch actor storeId currency draws =>
      answer (assembleBatch actor storeId currency draws)
  | .markFailed batchId evidence => answer (markFailed batchId evidence)
  | .retry batchId => answer (retry batchId)
  | .holdBatch batchId evidence => answer (holdBatch batchId evidence)
  | .supersede batchId cause affected hold => answer (supersede batchId cause affected hold)
  | .linkSuccessor supersededId successorId => answer (linkSuccessor supersededId successorId)
  | .markSettled batchId evidence => answer (markSettled batchId evidence none)
  | .markSettledZeroNet batchId => answer (markSettledZeroNet batchId none)
  | .preview actor batchId => answer (preview actor batchId)
  | .approve actor batchId hash note => answer (approve actor batchId hash note)
  | .execute actor batchId input => do
      let result ← execute actor batchId input
      pure (.executed result)
  | .closeZeroNet actor batchId previewHash => do
      let result ← closeZeroNet actor batchId previewHash
      pure (.executed result)
  | .replay actor batchId => do
      let report ← replay actor batchId
      pure (.replayed report)
  | .recordInternalTransfer actor input => answer (recordInternalTransfer actor input)
  | .pendingInternalTransfers => answer pendingInternalTransfers
  | .gatherMovements => answer gatherMovements

/-- The runs of the platform: the interleavings of its calls from the empty database. -/
abbrev Run : List (Event World Site) → Config World Site (Except Err Reply) → Prop :=
  Exec program World.empty

end Program

end Qift
