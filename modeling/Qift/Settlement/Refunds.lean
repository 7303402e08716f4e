import Qift.Settlement.Receipts
import Qift.Settlement.CreditNote
import Qift.Settlement.ApprovalPolicy

/-!
# Refunds

`settlement-refunds.service.ts`: refunds on both invoice legs, each in one transaction.

* `refundTx` is the goods leg.  The state of the settlement item decides the interaction: before settlement
  the item shrinks, after it a receivable is accrued, and an item bound to a batch refuses.
* `feeRefundTx` is the fee leg: a credit on an unpaid invoice, a cash refund with its revenue reversal on a
  paid one.
* `vatComponentMinor` is the frozen VAT proportion both legs reverse.
-/

namespace Qift.Settlement

open Relational Interleaving Financial

structure RecordRefundInput where
  invoiceType : InvoiceType
  invoiceId : Nat
  amount : Number
  reason : String
  evidenceRef : String
  /-- `none` when the text is no date. -/
  refundedAt : Option Time
  merchantCreditNoteNumber : Option String := none
  issuanceSource : Option String := none
  onBehalfAuthorizationRef : Option String := none
  reasonCode : Option String := none

def FEE_REFUND_REASON_CODES : List String :=
  ["service_not_rendered", "billing_error", "campaign_cancelled", "goodwill", "other"]

def MERCHANT_NUMBER_SOURCES : List String := ["MERCHANT", "ACCOUNTING_CONNECTOR", "QIFT_ON_BEHALF"]

/-- The text of an optional field, `none` when it is blank. -/
def trimmed (s : Option String) : Option String :=
  (s.map trim).bind fun t => if t = "" then none else some t

/-- The VAT share of a refund: the frozen proportion rounded half up, capped at the VAT that remains; the
completing refund takes the remainder. -/
def vatComponentMinor (totalMinor vatMinor priorMinor priorVatMinor amountMinor : Int) : Int :=
  let remaining := max 0 (vatMinor - priorVatMinor)
  if priorMinor + amountMinor = totalMinor then min amountMinor remaining
  else
    min (if totalMinor = 0 then 0 else (amountMinor * vatMinor + totalMinor / 2) / totalMinor)
      remaining

def refundsOf (invoiceType : InvoiceType) (invoiceId : Nat) (w : World) : List SettlementRefund :=
  findMany Model.settlementRefund
    (fun r => r.invoiceType = invoiceType ∧ r.invoiceId = invoiceId) w

def refundByEvidence (invoiceType : InvoiceType) (invoiceId : Nat) (evidenceRef : String)
    (w : World) : Option SettlementRefund :=
  findFirst Model.settlementRefund (fun r => r.invoiceType = invoiceType ∧
    r.invoiceId = invoiceId ∧ r.evidenceRef = evidenceRef) w

def refundTotalMinor (refunds : List SettlementRefund) : Int :=
  (refunds.map fun r => toMinor (moneyToNumber r.amount) .SAR).sum

def refundVatMinor (refunds : List SettlementRefund) : Int :=
  (refunds.map fun r => toMinor (moneyToNumber r.vatComponent) .SAR).sum

/-- A refund whose input passed the checks that read no table. -/
structure RefundDraft where
  invoiceId : Nat
  amountMinor : Int
  reason : String
  evidenceRef : String
  refundedAt : Time
  recordedBy : Nat
  merchantCreditNoteNumber : Option String
  issuanceSource : Option String
  onBehalfAuthorizationRef : Option String
  reasonCode : String

def RefundDraft.amount (draft : RefundDraft) : Number := fromMinor draft.amountMinor .SAR

/-- `mintQn`: an unused reference among the drawn candidates. -/
def mintQn (candidates : List String) : Transaction String :=
  txAllocateReference
    (fun c w => (findFirst Model.creditNote (fun n => n.referenceNumber = c) w).isSome) candidates

section Issue

variable [Runtime]

/-- Issue a credit note with its first version. -/
def issueCreditNote (facts : CreditNoteFacts) (issuedAt : Time) : Transaction CreditNote := do
  let canonical := creditNoteCanonical facts
  let documentHash := creditNoteHash facts
  let note ← insert Model.creditNote (noteRow facts issuedAt canonical documentHash)
  let _ ← insert Model.creditNoteVersion fun _ =>
    { creditNoteId := note.id
      versionNumber := 1
      changeReason := "issued"
      canonicalJson := canonical
      documentHash := documentHash
      statementSettlementId := none
      createdBy := facts.issuedBy }
  pure note

/-! ### The goods leg -/

/-- The item of a merchant invoice. -/
def itemOfInvoice (invoiceId : Nat) (w : World) : Option SettlementItem :=
  findFirst Model.settlementItem (fun i => i.occurrenceType = "merchant_invoice" ∧
    i.occurrenceId = invoiceId) w

/-- Take the refund off an item that has not settled. -/
def reduceItem (item : SettlementItem) (amountMinor : Int) : Transaction Unit := do
  let newAmount := fromMinor (toMinor (moneyToNumber item.amount) .SAR - amountMinor) .SAR
  Tx.ensure (¬ newAmount < 0) (.conflict "refund_exceeds_item")
  let shrunk ← updateMany Model.settlementItem
    (fun i => i.id = item.id ∧ i.state = item.state ∧ i.batchId = none)
    (fun i => { i with amount := Decimal.ofNumber newAmount })
  Tx.ensure (shrunk = 1) (.conflict "settlement_items_contended")

/-- How a refund meets the item, decided on the state of the item. -/
def interact (item : SettlementItem) (amountMinor : Int) : Transaction SettlementInteraction :=
  match item.state with
  | .ready => Tx.fail (.conflict "item_bound_supersede_first")
  | .disputed => Tx.fail (.conflict "item_disputed")
  | .settled | .reversed => pure .receivable_accrued
  | .pending | .eligible | .held => do
      reduceItem item amountMinor
      pure .item_reduced

/-- The refund row of a draft on the goods leg. -/
def refundRow (draft : RefundDraft) (invoice : MerchantInvoice) (vatComponent : Number)
    (interaction : SettlementInteraction) (id : Nat) : SettlementRefund where
  id := id
  invoiceType := .merchant_invoice
  invoiceId := invoice.id
  storeId := some invoice.storeId
  orgId := invoice.orgId
  campaignId := invoice.campaignId
  currency := .SAR
  amount := Decimal.ofNumber draft.amount
  vatComponent := Decimal.ofNumber vatComponent
  reason := draft.reason
  evidenceRef := draft.evidenceRef
  refundedAt := draft.refundedAt
  recordedBy := draft.recordedBy
  settlementInteraction := interaction

/-- The legal-identity checks of a goods credit note. -/
def checkIssuance (draft : RefundDraft) : Except Err String :=
  let issuanceSource := draft.issuanceSource.getD "MERCHANT"
  if issuanceSource = "QIFT" then
    .error (.badRequest "credit_note_series_separation:merchant_goods_never_qift_series")
  else if issuanceSource ∉ MERCHANT_NUMBER_SOURCES then
    .error (.badRequest "credit_note_source_unknown")
  else if issuanceSource = "QIFT_ON_BEHALF" ∧ trimmed draft.merchantCreditNoteNumber = none then
    .error (.badRequest "on_behalf_requires_legal_number")
  else if issuanceSource = "QIFT_ON_BEHALF" ∧ trimmed draft.onBehalfAuthorizationRef = none then
    .error (.badRequest "on_behalf_requires_authorization_evidence")
  else .ok issuanceSource

def goodsNoteFacts (draft : RefundDraft) (invoice : MerchantInvoice) (refundId : Nat)
    (referenceNumber issuanceSource : String) (vatComponent : Number) (issuedAt : Time) :
    CreditNoteFacts where
  referenceNumber := referenceNumber
  refundId := refundId
  noteType := "merchant_goods"
  invoiceType := .merchant_invoice
  invoiceId := invoice.id
  merchantInvoiceNumber := invoice.merchantInvoiceNumber
  merchantCreditNoteNumber := trimmed draft.merchantCreditNoteNumber
  qiftCreditNoteNumber := none
  issuerType := "MERCHANT"
  issuanceSource := issuanceSource
  onBehalfAuthorizationRef := trimmed draft.onBehalfAuthorizationRef
  creditNoteUuid := none
  originalInvoiceNumber := invoice.merchantInvoiceNumber
  netComponent := none
  reasonCode := none
  taxRuleVersion := none
  buyerSnapshot := none
  issuerSnapshot := none
  storeId := some invoice.storeId
  orgId := invoice.orgId
  campaignId := invoice.campaignId
  currency := .SAR
  amount := draft.amount
  vatComponent := vatComponent
  reason := draft.reason
  issuedAt := toISOString issuedAt
  issuedBy := draft.recordedBy
  statementSettlementId := none

/-- The account a goods refund is paid from: client money before settlement, Qift's own after it. -/
def refundAccount : SettlementInteraction → String
  | .receivable_accrued => "operating"
  | _ => "safeguarding"

def goodsRefundPosting (draft : RefundDraft) (invoice : MerchantInvoice) (refundId : Nat)
    (interaction : SettlementInteraction) : RecordLedgerInput where
  eventType := .REFUND_PAID
  reasonCode := "REFUND_GOODS"
  amount := draft.amount
  currency := .SAR
  direction := .debit
  storeId := some invoice.storeId
  metadata :=
    { invoiceId := some invoice.id
      invoiceNumber := invoice.merchantInvoiceNumber
      evidenceRef := some draft.evidenceRef
      account := some (refundAccount interaction) }
  idempotencyKey := some (ledgerIdempotencyKey .REFUND_PAID (.id refundId))

def receivableRow (draft : RefundDraft) (invoice : MerchantInvoice) (refundId : Nat)
    (accruedAt : Time) (id : Nat) : SettlementReceivable where
  id := id
  storeId := invoice.storeId
  currency := .SAR
  amount := Decimal.ofNumber draft.amount
  occurrenceId := refundId
  state := .open
  amountRecovered := ⟨0⟩
  stagedBySettlementId := none
  accruedAt := accruedAt
  recoveredAt := none
  recoveredBySettlementId := none

/-- The accrual posting of a receivable. -/
def receivablePosting (draft : RefundDraft) (invoice : MerchantInvoice) (refundId : Nat) :
    RecordLedgerInput where
  eventType := .MERCHANT_RECEIVABLE_ACCRUED
  reasonCode := "MERCHANT_RECEIVABLE"
  amount := draft.amount
  currency := .SAR
  direction := .credit
  storeId := some invoice.storeId
  metadata := { invoiceId := some invoice.id, invoiceNumber := invoice.merchantInvoiceNumber }
  idempotencyKey := some (ledgerIdempotencyKey .MERCHANT_RECEIVABLE_ACCRUED (.id refundId))

/-- Accrue the receivable; a settled item whose amount is clawed back in full is reversed. -/
def accrueReceivable (draft : RefundDraft) (invoice : MerchantInvoice) (item : SettlementItem)
    (refunds : List SettlementRefund) (refundId : Nat) : Transaction Unit := do
  let accruedAt ← txNow
  let _ ← insert Model.settlementReceivable (receivableRow draft invoice refundId accruedAt)
  let _ ← record (receivablePosting draft invoice refundId)
  let clawedMinor :=
    refundTotalMinor (refunds.filter fun r => r.settlementInteraction = .receivable_accrued) +
      draft.amountMinor
  if item.state = .settled ∧ toMinor (moneyToNumber item.amount) .SAR ≤ clawedMinor then do
    Tx.ofExcept (assertItemTransition .settled .reversed)
    let flipped ← updateMany Model.settlementItem
      (fun i => i.id = item.id ∧ i.state = .settled) (fun i => { i with state := .reversed })
    Tx.ensure (flipped = 1) (.conflict "settlement_items_contended")
  else pure ()

/-- What a refund transaction answers. -/
structure RefundOutcome where
  refund : SettlementRefund
  replayed : Bool

/-- The writes of a goods refund once its guards hold. -/
def writeRefund (draft : RefundDraft) (invoice : MerchantInvoice) (item : SettlementItem)
    (refunds : List SettlementRefund) (vatComponent : Number)
    (interaction : SettlementInteraction) (candidates : List String) :
    Transaction RefundOutcome := do
  let refund ← insert Model.settlementRefund (refundRow draft invoice vatComponent interaction)
  let issuanceSource ← Tx.ofExcept (checkIssuance draft)
  let referenceNumber ← mintQn candidates
  let issuedAt ← txNow
  let _ ← issueCreditNote (goodsNoteFacts draft invoice refund.id referenceNumber issuanceSource
    vatComponent issuedAt) issuedAt
  let _ ← record (goodsRefundPosting draft invoice refund.id interaction)
  if interaction = .receivable_accrued then
    accrueReceivable draft invoice item refunds refund.id
  else pure ()
  pure { refund := refund, replayed := false }

/-- The guards of a goods refund and its writes. -/
def applyRefund (draft : RefundDraft) (invoice : MerchantInvoice) (candidates : List String) :
    Transaction RefundOutcome := do
  Tx.ensure (invoice.status = .paid)
    (.badRequest ("refund_requires_paid_invoice:" ++ InvoiceStatus.name invoice.status))
  let receivedMinor ← Tx.read fun w =>
    receiptTotalMinor (receiptsOf .merchant_invoice invoice.id w)
  let refunds ← Tx.read (refundsOf .merchant_invoice invoice.id)
  Tx.ensure (refundTotalMinor refunds + draft.amountMinor ≤ receivedMinor)
    (.conflict "refund_exceeds_collected")
  let vatComponent := fromMinor
    (vatComponentMinor (toMinor (moneyToNumber invoice.totalAmount) .SAR)
      (toMinor (moneyToNumber invoice.vatAmount) .SAR) (refundTotalMinor refunds)
      (refundVatMinor refunds) draft.amountMinor) .SAR
  let item ← Tx.read (itemOfInvoice invoice.id)
  match item with
  | none => Tx.fail (.conflict "settlement_item_missing")
  | some item => do
      let interaction ← interact item draft.amountMinor
      writeRefund draft invoice item refunds vatComponent interaction candidates

/-- The transaction of `recordRefund` on the goods leg. -/
def refundTx (draft : RefundDraft) (candidates : List String) : Transaction RefundOutcome := do
  let invoice ← Tx.read (findUnique Model.merchantInvoice draft.invoiceId)
  match invoice with
  | none => Tx.fail (.notFound "invoice_not_found")
  | some invoice => do
      Tx.ensure (invoice.currency = .SAR) (.badRequest "refund_currency_unsupported")
      let existing ← Tx.read (refundByEvidence .merchant_invoice invoice.id draft.evidenceRef)
      match existing with
      | some existing => pure { refund := existing, replayed := true }
      | none => applyRefund draft invoice candidates

/-! ### The fee leg -/

/-- The next number of a series, created at one. -/
def nextSequence (seriesKey : String) : Transaction Nat := do
  let count ← updateMany Model.numberSequence (fun s => s.seriesKey = seriesKey)
    (fun s => { s with lastValue := s.lastValue + 1 })
  if count = 0 then do
    let created ← insert Model.numberSequence fun _ => { seriesKey := seriesKey, lastValue := 1 }
    pure created.lastValue
  else do
    let row ← Tx.read (findUnique Model.numberSequence seriesKey)
    pure ((row.map NumberSequence.lastValue).getD 0)

def formatSequentialReference (seriesPrefix : String) (seriesYear : Int) (value : Nat) :
    Except Err String :=
  if seriesYear < 2020 ∨ 2099 < seriesYear then
    .error (.error ("reference_series_year_invalid: " ++ toString seriesYear))
  else if value < 1 then
    .error (.error ("reference_sequence_value_invalid: " ++ toString value))
  else .ok (seriesPrefix ++ "-" ++ toString seriesYear ++ "-" ++ padNumber 5 value)

def feeNoteFacts (draft : RefundDraft) (invoice : CorporateInvoice) (refundId : Nat)
    (referenceNumber qiftCreditNoteNumber : String) (vatComponent netComponent : Number)
    (issuedAt : Time) : CreditNoteFacts where
  referenceNumber := referenceNumber
  refundId := refundId
  noteType := "qift_service_fee"
  invoiceType := .corporate_invoice
  invoiceId := invoice.id
  merchantInvoiceNumber := none
  merchantCreditNoteNumber := none
  qiftCreditNoteNumber := some qiftCreditNoteNumber
  issuerType := "QIFT"
  issuanceSource := "QIFT"
  onBehalfAuthorizationRef := none
  creditNoteUuid := none
  originalInvoiceNumber := some invoice.invoiceNumber
  netComponent := some netComponent
  reasonCode := some draft.reasonCode
  taxRuleVersion := invoice.taxRuleVersion
  buyerSnapshot := invoice.buyerSnapshot
  issuerSnapshot := invoice.sellerSnapshot
  storeId := none
  orgId := invoice.orgId
  campaignId := invoice.campaignId
  currency := .SAR
  amount := draft.amount
  vatComponent := vatComponent
  reason := draft.reason
  issuedAt := toISOString issuedAt
  issuedBy := draft.recordedBy
  statementSettlementId := none

def feeRefundRow (draft : RefundDraft) (invoice : CorporateInvoice) (vatComponent : Number)
    (interaction : SettlementInteraction) (id : Nat) : SettlementRefund where
  id := id
  invoiceType := .corporate_invoice
  invoiceId := invoice.id
  storeId := none
  orgId := invoice.orgId
  campaignId := invoice.campaignId
  currency := .SAR
  amount := Decimal.ofNumber draft.amount
  vatComponent := Decimal.ofNumber vatComponent
  reason := draft.reason
  evidenceRef := draft.evidenceRef
  refundedAt := draft.refundedAt
  recordedBy := draft.recordedBy
  settlementInteraction := interaction

/-- A posting of the fee leg. -/
def feePosting (invoice : CorporateInvoice) (eventType : FinancialEvent) (reasonCode : String)
    (amount : Number) (anchor : Anchor) (metadata : LedgerMetadata) : RecordLedgerInput where
  eventType := eventType
  reasonCode := reasonCode
  amount := amount
  currency := .SAR
  direction := .debit
  metadata :=
    { metadata with
      invoiceId := some invoice.id
      invoiceNumber := some invoice.invoiceNumber }
  idempotencyKey := some (ledgerIdempotencyKey eventType anchor)

/-- The postings of a fee refund: cash and revenue reversal on a paid invoice, a smaller receivable on an
unpaid one, and the VAT reversal on both. -/
def feePostings (draft : RefundDraft) (invoice : CorporateInvoice) (refundId : Nat)
    (vatMinor : Int) : List RecordLedgerInput :=
  let net := draft.amountMinor - vatMinor
  let main :=
    if invoice.status = .paid then
      feePosting invoice .REFUND_PAID "REFUND_FEE" draft.amount (.id refundId)
          { account := some "operating", evidenceRef := some draft.evidenceRef } ::
        (if 0 < net then
          [feePosting invoice .QIFT_REVENUE_RECOGNIZED "QIFT_REVENUE" (fromMinor net .SAR)
            (.reversal invoice.id refundId) {}]
        else [])
    else
      [feePosting invoice .REFUND_APPROVED "CORPORATE_RECEIVABLE" draft.amount (.id refundId)
        { evidenceRef := some draft.evidenceRef }]
  let vat :=
    if 0 < vatMinor then
      [feePosting invoice .REFUND_APPROVED "QIFT_VAT" (fromMinor vatMinor .SAR) (.vat refundId) {}]
    else []
  main ++ vat

/-- The interaction of a fee refund. -/
def feeInteraction (invoice : CorporateInvoice) : SettlementInteraction :=
  if invoice.status = .paid then .revenue_reversed else .invoice_reduced

/-- The writes of a fee refund once its guards hold. -/
def writeFeeRefund (draft : RefundDraft) (invoice : CorporateInvoice) (vatMinor : Int)
    (candidates : List String) : Transaction RefundOutcome := do
  let vatComponent := fromMinor vatMinor .SAR
  let netComponent := fromMinor (draft.amountMinor - vatMinor) .SAR
  let refund ← insert Model.settlementRefund
    (feeRefundRow draft invoice vatComponent (feeInteraction invoice))
  let issuedAt ← txNow
  let seriesYear := utcFullYear issuedAt
  let lastValue ← nextSequence ("QD-" ++ toString seriesYear)
  let qiftCreditNoteNumber ← Tx.ofExcept (formatSequentialReference "QD" seriesYear lastValue)
  let referenceNumber ← mintQn candidates
  let _ ← issueCreditNote (feeNoteFacts draft invoice refund.id referenceNumber
    qiftCreditNoteNumber vatComponent netComponent issuedAt) issuedAt
  Tx.forEach (feePostings draft invoice refund.id vatMinor) fun input => do
    let _ ← record input
    pure ()
  pure { refund := refund, replayed := false }

/-- The guards of a fee refund and its writes. -/
def applyFeeRefund (draft : RefundDraft) (invoice : CorporateInvoice)
    (candidates : List String) : Transaction RefundOutcome := do
  Tx.ensure (invoice.status = .issued ∨ invoice.status = .paid)
    (.badRequest ("refund_requires_active_invoice:" ++ InvoiceStatus.name invoice.status))
  let totalMinor := toMinor (moneyToNumber invoice.totalAmount) .SAR
  let vatMinor := toMinor ((invoice.vatAmount.map moneyToNumber).getD 0) .SAR
  let receivedMinor ← Tx.read fun w =>
    receiptTotalMinor (receiptsOf .corporate_invoice invoice.id w)
  let priorRefunds ← Tx.read (refundsOf .corporate_invoice invoice.id)
  let priorMinor := refundTotalMinor priorRefunds
  let priorCashMinor := refundTotalMinor
    (priorRefunds.filter fun r => r.settlementInteraction = .revenue_reversed)
  Tx.ensure (priorMinor + draft.amountMinor ≤ totalMinor) (.conflict "refund_exceeds_invoice")
  if invoice.status = .paid then
    Tx.ensure (priorCashMinor + draft.amountMinor ≤ receivedMinor)
      (.conflict "refund_exceeds_collected")
  else
    Tx.ensure (priorMinor + draft.amountMinor ≤ totalMinor - receivedMinor)
      (.conflict "refund_exceeds_unpaid_balance")
  writeFeeRefund draft invoice
    (vatComponentMinor totalMinor vatMinor priorMinor (refundVatMinor priorRefunds)
      draft.amountMinor) candidates

/-- The transaction of `recordFeeRefund`. -/
def feeRefundTx (draft : RefundDraft) (candidates : List String) : Transaction RefundOutcome := do
  let invoice ← Tx.read (findUnique Model.corporateInvoice draft.invoiceId)
  match invoice with
  | none => Tx.fail (.notFound "invoice_not_found")
  | some invoice => do
      Tx.ensure (invoice.currency = .SAR) (.badRequest "refund_currency_unsupported")
      let existing ← Tx.read (refundByEvidence .corporate_invoice invoice.id draft.evidenceRef)
      match existing with
      | some existing => pure { refund := existing, replayed := true }
      | none => applyFeeRefund draft invoice candidates

/-! ### Recording a refund -/

/-- The checks both legs make first: evidence and reason. -/
def refundTexts (input : RecordRefundInput) : Except Err (String × String) :=
  if trim input.evidenceRef = "" then .error (.badRequest "refund_evidence_required")
  else if trim input.reason = "" then .error (.badRequest "refund_reason_required")
  else .ok (trim input.evidenceRef, trim input.reason)

def checkFeeFields (input : RecordRefundInput) : Except Err Unit :=
  if trim (input.reasonCode.getD "") ∉ FEE_REFUND_REASON_CODES then
    .error (.badRequest "fee_refund_reason_code_required")
  else if input.merchantCreditNoteNumber.getD "" ≠ "" ∨
      input.onBehalfAuthorizationRef.getD "" ≠ "" then
    .error (.badRequest "credit_note_series_separation:fee_leg_never_merchant_series")
  else .ok ()

/-- The date and amount checks both legs share. -/
def refundDraft (actorUserId : Nat) (input : RecordRefundInput) (texts : String × String)
    (nowMs : Time) : Except Err RefundDraft :=
  match input.refundedAt with
  | none => .error (.badRequest "refund_refunded_at_invalid")
  | some refundedAt =>
      if withinWindow nowMs refundedAt = false then
        .error (.badRequest "refund_refunded_at_out_of_window")
      else if toMinor input.amount .SAR ≤ 0 then
        .error (.badRequest "refund_amount_must_be_positive")
      else
        .ok
          { invoiceId := input.invoiceId
            amountMinor := toMinor input.amount .SAR
            reason := texts.2
            evidenceRef := texts.1
            refundedAt := refundedAt
            recordedBy := actorUserId
            merchantCreditNoteNumber := input.merchantCreditNoteNumber
            issuanceSource := input.issuanceSource
            onBehalfAuthorizationRef := input.onBehalfAuthorizationRef
            reasonCode := trim (input.reasonCode.getD "") }

/-- A refund under a reused evidence reference must be the same movement. -/
def assertSameRefund (draft : RefundDraft) (existing : SettlementRefund) : Service Unit :=
  Svc.ensure
    (toMinor (moneyToNumber existing.amount) .SAR = draft.amountMinor ∧
      existing.refundedAt = draft.refundedAt)
    (.conflict "refund_evidence_conflict")

/-- Run a refund transaction; a lost race on the evidence reference answers with the stored refund. -/
def runRefund (site : Site) (invoiceType : InvoiceType) (draft : RefundDraft)
    (tx : Transaction RefundOutcome) : Service RefundOutcome :=
  Svc.tryCatch (Svc.transaction site tx) fun e =>
    match e with
    | .p2002 target => do
        let existing ← Svc.query .read
          (refundByEvidence invoiceType draft.invoiceId draft.evidenceRef)
        match existing with
        | none => Svc.fail (.p2002 target)
        | some existing => pure { refund := existing, replayed := true }
    | e => Svc.fail e

/-- A credit on an unpaid invoice may complete its coverage. -/
def healCredit (refund : SettlementRefund) : Service Unit :=
  if refund.settlementInteraction = .invoice_reduced then do
    let _ ← deriveAndApplyCoverage .corporate_invoice refund.invoiceId
    pure ()
  else pure ()

def recordFeeRefund (origin : Option RefundOrigin) (actorUserId : Nat)
    (input : RecordRefundInput) (candidates : List String) : Service RefundOutcome := do
  let texts ← Svc.ofExcept (refundTexts input)
  Svc.ofExcept (checkFeeFields input)
  let nowMs ← now
  let draft ← Svc.ofExcept (refundDraft actorUserId input texts nowMs)
  let outcome ← runRefund (.feeRefund origin) .corporate_invoice draft
    (feeRefundTx draft candidates)
  if outcome.replayed then do
    assertSameRefund draft outcome.refund
    healCredit outcome.refund
    audit ⟨"finance.refund.recorded", outcome.refund.id⟩
  else do
    audit ⟨"finance.credit_note.issued", outcome.refund.id⟩
    audit ⟨"finance.refund.recorded", outcome.refund.id⟩
    healCredit outcome.refund
  pure outcome

/-- `recordRefund`; `origin` is the request it is called for. -/
def recordRefund (origin : Option RefundOrigin) (actorUserId : Nat) (input : RecordRefundInput)
    (candidates : List String) : Service RefundOutcome := do
  assertGatesOpen
  match input.invoiceType with
  | .corporate_invoice => recordFeeRefund origin actorUserId input candidates
  | .merchant_invoice => do
      let texts ← Svc.ofExcept (refundTexts input)
      let nowMs ← now
      let draft ← Svc.ofExcept (refundDraft actorUserId input texts nowMs)
      let outcome ← runRefund (.refund origin) .merchant_invoice draft (refundTx draft candidates)
      if outcome.replayed then assertSameRefund draft outcome.refund
      else audit ⟨"finance.credit_note.issued", outcome.refund.id⟩
      audit ⟨"finance.refund.recorded", outcome.refund.id⟩
      pure outcome

/-! ### Replaying a credit note -/

structure CreditNoteReplay where
  creditNoteReference : String
  identical : Bool
  canonicalIdentical : Bool
  hashIdentical : Bool
  storedHash : String
  regeneratedHash : String

/-- `replayCreditNote`: the document rebuilt from the stored columns, compared with the stored bytes and hash. -/
def replayCreditNote (refundId : Nat) : Service CreditNoteReplay := do
  let note ← Svc.query .read (findUnique Model.creditNote refundId)
  match note with
  | none => Svc.fail (.notFound "credit_note_not_found")
  | some note =>
      let facts := factsOf note note.statementSettlementId
      let regeneratedCanonical := creditNoteCanonical facts
      let regeneratedHash := creditNoteHash facts
      let canonicalIdentical := decide (regeneratedCanonical = note.canonicalJson)
      let hashIdentical := decide (regeneratedHash = note.documentHash)
      pure
        { creditNoteReference := note.referenceNumber
          identical := canonicalIdentical && hashIdentical
          canonicalIdentical := canonicalIdentical
          hashIdentical := hashIdentical
          storedHash := note.documentHash
          regeneratedHash := regeneratedHash }

end Issue

end Qift.Settlement
