import Qift.Settlement.Eligibility

/-!
# Receipts and coverage

`settlement-receipts.service.ts`: the one write path of receipts and the derivation of `paid`.

* `receiptTx` is the transaction of `recordReceipt`: replay by bank reference first, then the status and
  balance guards, then the row with its ledger postings.
* `deriveAndApplyCoverage` re-reads the invoice and its receipts and flips the status under a guard;
  `ensureCoverageArtifacts` gives a paid goods invoice its settlement item and a paid fee invoice its revenue
  posting.
-/

namespace Qift.Settlement

open Relational Interleaving Financial

structure RecordReceiptInput where
  invoiceType : InvoiceType
  invoiceId : Nat
  amount : Number
  currency : String := "SAR"
  bankReference : String
  /-- `none` when the text is no date. -/
  receivedAt : Option Time
  rail : String := "manual_bank_transfer"

structure InvoiceFacts where
  id : Nat
  status : InvoiceStatus
  totalAmount : Number
  orgId : Nat
  campaignId : Nat
  storeId : Option Nat
  platformFeeAmount : Option Number
  invoiceNumber : Option String

def merchantFacts (inv : MerchantInvoice) : InvoiceFacts where
  id := inv.id
  status := inv.status
  totalAmount := moneyToNumber inv.totalAmount
  orgId := inv.orgId
  campaignId := inv.campaignId
  storeId := some inv.storeId
  platformFeeAmount := none
  invoiceNumber := inv.merchantInvoiceNumber

def corporateFacts (inv : CorporateInvoice) : InvoiceFacts where
  id := inv.id
  status := inv.status
  totalAmount := moneyToNumber inv.totalAmount
  orgId := inv.orgId
  campaignId := inv.campaignId
  storeId := none
  platformFeeAmount := some (moneyToNumber inv.platformFeeAmount)
  invoiceNumber := some inv.invoiceNumber

/-- `loadInvoice`: the facts of a stored invoice; only SAR documents are receivable. -/
def invoiceFacts (invoiceType : InvoiceType) (invoiceId : Nat) (w : World) :
    Except Err InvoiceFacts :=
  match invoiceType with
  | .merchant_invoice =>
      match findUnique Model.merchantInvoice invoiceId w with
      | none => .error (.notFound "invoice_not_found")
      | some inv =>
          if inv.currency = .SAR then .ok (merchantFacts inv)
          else .error (.badRequest "receipt_invoice_currency_unsupported")
  | .corporate_invoice =>
      match findUnique Model.corporateInvoice invoiceId w with
      | none => .error (.notFound "invoice_not_found")
      | some inv =>
          if inv.currency = .SAR then .ok (corporateFacts inv)
          else .error (.badRequest "receipt_invoice_currency_unsupported")

def loadInvoice (invoiceType : InvoiceType) (invoiceId : Nat) : Service InvoiceFacts := do
  let facts ← Svc.query .read (invoiceFacts invoiceType invoiceId)
  Svc.ofExcept facts

/-- The pre-payment credits of a fee invoice. -/
def feeCredits (invoiceId : Nat) (w : World) : List SettlementRefund :=
  findMany Model.settlementRefund (fun r => r.invoiceType = .corporate_invoice ∧
    r.invoiceId = invoiceId ∧ r.settlementInteraction = .invoice_reduced) w

/-- What credit notes took off an invoice in minor units; goods invoices have no such credit. -/
def feeCreditsMinor (invoiceType : InvoiceType) (invoiceId : Nat) (w : World) : Int :=
  match invoiceType with
  | .merchant_invoice => 0
  | .corporate_invoice =>
      ((feeCredits invoiceId w).map fun r => toMinor (moneyToNumber r.amount) .SAR).sum

def receiptByReference (invoiceType : InvoiceType) (invoiceId : Nat) (bankReference : String)
    (w : World) : Option PaymentReceipt :=
  findFirst Model.paymentReceipt (fun r => r.invoiceType = invoiceType ∧
    r.invoiceId = invoiceId ∧ r.bankReference = bankReference) w

/-- A receipt whose input passed the checks that read nothing. -/
structure ReceiptDraft where
  invoiceType : InvoiceType
  invoiceId : Nat
  amountMinor : Int
  bankReference : String
  receivedAt : Time
  rail : String
  recordedBy : Nat

def ReceiptDraft.amount (draft : ReceiptDraft) : Number := fromMinor draft.amountMinor .SAR

def receiptRow (draft : ReceiptDraft) (inv : InvoiceFacts) (id : Nat) : PaymentReceipt where
  id := id
  invoiceType := draft.invoiceType
  invoiceId := inv.id
  orgId := inv.orgId
  campaignId := inv.campaignId
  storeId := inv.storeId
  amount := Decimal.ofNumber draft.amount
  currency := .SAR
  rail := draft.rail
  bankReference := draft.bankReference
  receivedAt := draft.receivedAt
  recordedBy := draft.recordedBy

/-- The account a receipt lands on. -/
def receiptAccount : InvoiceType → String
  | .merchant_invoice => "safeguarding"
  | .corporate_invoice => "operating"

/-- The cash posting of a receipt. -/
def paymentPosting (draft : ReceiptDraft) (inv : InvoiceFacts) (receiptId : Nat) :
    RecordLedgerInput where
  eventType := .INVOICE_PAYMENT_RECEIVED
  reasonCode := "INVOICE_PAYMENT"
  amount := draft.amount
  currency := .SAR
  direction := .credit
  storeId := inv.storeId
  metadata :=
    { invoiceId := some inv.id
      invoiceNumber := inv.invoiceNumber
      bankReference := some draft.bankReference
      account := some (receiptAccount draft.invoiceType) }
  idempotencyKey := some (ledgerIdempotencyKey .INVOICE_PAYMENT_RECEIVED (.id receiptId))

def payablePosting (draft : ReceiptDraft) (inv : InvoiceFacts) (receiptId : Nat) :
    RecordLedgerInput where
  eventType := .MERCHANT_PAYABLE_ACCRUED
  reasonCode := "MERCHANT_PAYABLE"
  amount := draft.amount
  currency := .SAR
  direction := .debit
  storeId := inv.storeId
  metadata := { invoiceId := some inv.id, invoiceNumber := inv.invoiceNumber }
  idempotencyKey := some (ledgerIdempotencyKey .MERCHANT_PAYABLE_ACCRUED (.id receiptId))

/-- The text of a status. -/
def InvoiceStatus.name : InvoiceStatus → String
  | .issued => "issued"
  | .paid => "paid"
  | .cancelled => "cancelled"

/-- What the transaction of `recordReceipt` answers: the receipt already stored under the reference, or the
one it created. -/
structure ReceiptOutcome where
  receipt : PaymentReceipt
  replayed : Bool
  invoice : InvoiceFacts

/-- The postings of a new receipt. -/
def postReceipt (draft : ReceiptDraft) (inv : InvoiceFacts) (receiptId : Nat) :
    Transaction Unit := do
  let _ ← record (paymentPosting draft inv receiptId)
  match draft.invoiceType with
  | .merchant_invoice => do
      let _ ← record (payablePosting draft inv receiptId)
      pure ()
  | .corporate_invoice => pure ()

/-- The transaction of `recordReceipt`. -/
def receiptTx (draft : ReceiptDraft) : Transaction ReceiptOutcome := do
  let facts ← Tx.read (invoiceFacts draft.invoiceType draft.invoiceId)
  let inv ← Tx.ofExcept facts
  let existing ← Tx.read (receiptByReference draft.invoiceType inv.id draft.bankReference)
  match existing with
  | some existing => pure { receipt := existing, replayed := true, invoice := inv }
  | none => do
      Tx.ensure (inv.status = .issued)
        (.badRequest ("receipt_invoice_not_receivable:" ++ InvoiceStatus.name inv.status))
      let already ← Tx.read fun w => receiptTotalMinor (receiptsOf draft.invoiceType inv.id w)
      let credits ← Tx.read (feeCreditsMinor draft.invoiceType inv.id)
      Tx.ensure (already + draft.amountMinor ≤ toMinor inv.totalAmount .SAR - credits)
        (.conflict "receipt_exceeds_invoice_balance")
      let created ← insert Model.paymentReceipt (receiptRow draft inv)
      postReceipt draft inv created.id
      pure { receipt := created, replayed := false, invoice := inv }

/-! ### Coverage -/

structure Coverage where
  invoiceType : InvoiceType
  invoiceId : Nat
  totalAmount : Number
  creditedAmount : Number
  receiptCount : Nat
  amountReceived : Number
  balance : Number
  covered : Bool
  paymentStatus : String
  balanceStatus : BalanceStatus
  status : InvoiceStatus

/-- The item row a covered goods invoice is given. -/
def itemRow (invoice : InvoiceFacts) (storeId : Nat) (createdAt : Time) (id : Nat) :
    SettlementItem where
  id := id
  occurrenceType := "merchant_invoice"
  occurrenceId := invoice.id
  storeId := storeId
  currency := .SAR
  amount := Decimal.ofNumber invoice.totalAmount
  state := .pending
  batchId := none
  holdType := none
  holdEvidence := none
  createdAt := createdAt

def revenuePosting (invoice : InvoiceFacts) (feeNet : Number) : RecordLedgerInput where
  eventType := .QIFT_REVENUE_RECOGNIZED
  reasonCode := "QIFT_REVENUE"
  amount := feeNet
  currency := .SAR
  direction := .credit
  metadata := { invoiceId := some invoice.id, invoiceNumber := invoice.invoiceNumber }
  idempotencyKey := some (ledgerIdempotencyKey .QIFT_REVENUE_RECOGNIZED (.id invoice.id))

def feeNetOf (invoice : InvoiceFacts) (credits : List SettlementRefund) : Number :=
  let creditedNetMinor := (credits.map fun r =>
    toMinor (moneyToNumber r.amount) .SAR - toMinor (moneyToNumber r.vatComponent) .SAR).sum
  fromMinor (max 0 (toMinor (invoice.platformFeeAmount.getD 0) .SAR - creditedNetMinor)) .SAR

/-- Create the item of an occurrence. -/
def createItemTx (invoice : InvoiceFacts) (storeId : Nat) : Transaction SettlementItem := do
  let createdAt ← txNow
  insert Model.settlementItem (itemRow invoice storeId createdAt)

def ensureCoverageArtifacts (invoiceType : InvoiceType) (invoice : InvoiceFacts) :
    Service Unit :=
  match invoiceType with
  | .corporate_invoice => do
      let credits ← Svc.query .read (feeCredits invoice.id)
      let feeNet := feeNetOf invoice credits
      if 0 < feeNet then do
        let _ ← Svc.transaction .revenue (record (revenuePosting invoice feeNet))
        pure ()
      else pure ()
  | .merchant_invoice =>
      match invoice.storeId with
      | none => pure ()
      | some storeId =>
          Svc.tryCatch
            (do
              let _ ← Svc.transaction .settlementItem (createItemTx invoice storeId)
              pure ())
            fun e =>
              -- the occurrence already has its item
              match e with
              | .p2002 _ => pure ()
              | e => Svc.fail e

/-- The guarded flip of an invoice to `paid`. -/
def flipPaid (invoiceType : InvoiceType) (invoiceId : Nat) (paidAt : Time) : Transaction Nat :=
  match invoiceType with
  | .merchant_invoice =>
      updateMany Model.merchantInvoice (fun i => i.id = invoiceId ∧ i.status = .issued)
        (fun i => { i with status := .paid, paidAt := some paidAt })
  | .corporate_invoice =>
      updateMany Model.corporateInvoice (fun i => i.id = invoiceId ∧ i.status = .issued)
        (fun i =>
          { i with status := .paid, paidAt := some paidAt, balanceStatus := .closed_by_payment })

def writeBalanceStatus (invoiceId : Nat) (guard : CorporateInvoice → Bool)
    (balanceStatus : BalanceStatus) : Service Nat :=
  Svc.transaction .coverage (updateMany Model.corporateInvoice
    (fun i => i.id = invoiceId && guard i) (fun i => { i with balanceStatus := balanceStatus }))

def deriveBalanceStatus (coveredByPayment coveredByCredit : Bool) (creditsMinor : Int) :
    BalanceStatus :=
  if coveredByPayment then .closed_by_payment
  else if coveredByCredit then .closed_by_credit
  else if 0 < creditsMinor then .partially_credited
  else .open

def deriveCoverage (invoiceType : InvoiceType) (invoice : InvoiceFacts)
    (receipts : List PaymentReceipt) (creditsMinor : Int) : Coverage :=
  let paidMinor := receiptTotalMinor receipts
  let totalMinor := toMinor invoice.totalAmount .SAR - creditsMinor
  let coveredByPayment := decide (receipts ≠ [] ∧ totalMinor ≤ paidMinor)
  let coveredByCredit := !coveredByPayment && decide (totalMinor ≤ 0 ∧ 0 < creditsMinor)
  { invoiceType := invoiceType
    invoiceId := invoice.id
    totalAmount := fromMinor totalMinor .SAR
    creditedAmount := fromMinor creditsMinor .SAR
    receiptCount := receipts.length
    amountReceived := fromMinor paidMinor .SAR
    balance := fromMinor (totalMinor - paidMinor) .SAR
    covered := coveredByPayment
    paymentStatus :=
      if paidMinor ≤ 0 then "unpaid"
      else if coveredByPayment then "paid"
      else "partially_paid"
    balanceStatus := deriveBalanceStatus coveredByPayment coveredByCredit creditsMinor
    status := invoice.status }

def paidAuditKey (invoiceType : InvoiceType) (invoiceId : Nat) : AuditKey :=
  match invoiceType with
  | .merchant_invoice => ⟨"finance.invoice.paid:merchant_invoice", invoiceId⟩
  | .corporate_invoice => ⟨"finance.invoice.paid:corporate_invoice", invoiceId⟩

/-- The branch of a re-derivation on an invoice that is already paid: heal its artifacts. -/
def healPaid (invoiceType : InvoiceType) (invoice : InvoiceFacts) (result : Coverage) :
    Service Coverage := do
  ensureCoverageArtifacts invoiceType invoice
  audit (paidAuditKey invoiceType invoice.id)
  match invoiceType with
  | .merchant_invoice => pure ()
  | .corporate_invoice => do
      let _ ← writeBalanceStatus invoice.id
        (fun i => i.status = .paid ∧ i.balanceStatus = .open) .closed_by_payment
      pure ()
  pure { result with status := .paid, balanceStatus := .closed_by_payment }

/-- The branch that flips the invoice; `paidAt` is the value date of the completing receipt. -/
def applyPaid (invoiceType : InvoiceType) (invoice : InvoiceFacts)
    (receipts : List PaymentReceipt) (result : Coverage) : Service Coverage := do
  match receipts.getLast? with
  | none => pure result
  | some last => do
      let flipped ← Svc.transaction .coverage (flipPaid invoiceType invoice.id last.receivedAt)
      if flipped = 1 then audit (paidAuditKey invoiceType invoice.id) else pure ()
      ensureCoverageArtifacts invoiceType invoice
      pure { result with status := .paid }

def deriveAndApplyCoverage (invoiceType : InvoiceType) (invoiceId : Nat) : Service Coverage := do
  let invoice ← loadInvoice invoiceType invoiceId
  let receipts ← Svc.query .read fun w =>
    orderBy PaymentReceipt.receivedAt PaymentReceipt.id (receiptsOf invoiceType invoiceId w)
  let creditsMinor ← Svc.query .read (feeCreditsMinor invoiceType invoiceId)
  let result := deriveCoverage invoiceType invoice receipts creditsMinor
  if invoiceType = .corporate_invoice ∧ result.balanceStatus = .closed_by_credit then do
    let closed ← writeBalanceStatus invoiceId
      (fun i => i.status = .issued ∧ i.balanceStatus ≠ .closed_by_credit) .closed_by_credit
    if closed = 1 then audit ⟨"finance.invoice.closed_by_credit", invoiceId⟩ else pure ()
    pure result
  else do
    if invoiceType = .corporate_invoice ∧ result.balanceStatus = .partially_credited then do
      let _ ← writeBalanceStatus invoiceId (fun i => i.balanceStatus = .open) .partially_credited
      pure ()
    else pure ()
    if result.covered = false ∨ invoice.status = .paid then
      if invoice.status = .paid then healPaid invoiceType invoice result
      else pure result
    else applyPaid invoiceType invoice receipts result

/-! ### Recording a receipt -/

structure RecordedReceipt where
  receipt : PaymentReceipt
  replayed : Bool
  coverage : Coverage

def assertGatesOpen : Service Unit := do
  let attested ← gatesAttested
  Svc.ensure (attested = true) (.conflict "financial_gates_not_attested")

/-- A receipt under a reused reference must be the same movement. -/
def assertSameReceipt (draft : ReceiptDraft) (existing : PaymentReceipt) : Service Unit :=
  Svc.ensure
    (toMinor (moneyToNumber existing.amount) .SAR = draft.amountMinor ∧
      existing.receivedAt = draft.receivedAt)
    (.conflict "receipt_reference_conflict")

/-- The answer to a lost race on the bank reference. -/
def receiptCollision (draft : ReceiptDraft) (e : Err) : Service ReceiptOutcome := do
  let existing ← Svc.query .read
    (receiptByReference draft.invoiceType draft.invoiceId draft.bankReference)
  match existing with
  | none => Svc.fail e
  | some existing => do
      assertSameReceipt draft existing
      let inv ← loadInvoice draft.invoiceType draft.invoiceId
      audit ⟨"finance.receipt.recorded", existing.id⟩
      pure { receipt := existing, replayed := true, invoice := inv }

/-- The checks of `recordReceipt` that read nothing. -/
def receiptDraft (actorUserId : Nat) (input : RecordReceiptInput) : Except Err ReceiptDraft :=
  if trim input.bankReference = "" then .error (.badRequest "receipt_bank_reference_required")
  else
    match input.receivedAt with
    | none => .error (.badRequest "receipt_received_at_invalid")
    | some receivedAt =>
        if toUpperCase input.currency ≠ "SAR" then
          .error (.badRequest "receipt_currency_unsupported")
        else if toMinor input.amount .SAR ≤ 0 then
          .error (.badRequest "receipt_amount_must_be_positive")
        else
          .ok
            { invoiceType := input.invoiceType
              invoiceId := input.invoiceId
              amountMinor := toMinor input.amount .SAR
              bankReference := trim input.bankReference
              receivedAt := receivedAt
              rail := input.rail
              recordedBy := actorUserId }

def recordReceipt (actorUserId : Nat) (input : RecordReceiptInput) : Service RecordedReceipt := do
  assertGatesOpen
  let draft ← Svc.ofExcept (receiptDraft actorUserId input)
  let outcome ← Svc.tryCatch
    (do
      let outcome ← Svc.transaction .receipt (receiptTx draft)
      if outcome.replayed then assertSameReceipt draft outcome.receipt else pure ()
      pure (outcome, outcome.replayed))
    fun e =>
      match e with
      | .p2002 target => do
          let outcome ← receiptCollision draft (.p2002 target)
          pure (outcome, true)
      | e => Svc.fail e
  if outcome.2 then do
    let coverage ← deriveAndApplyCoverage draft.invoiceType draft.invoiceId
    pure { receipt := outcome.1.receipt, replayed := true, coverage := coverage }
  else do
    audit ⟨"finance.receipt.recorded", outcome.1.receipt.id⟩
    let coverage ← deriveAndApplyCoverage draft.invoiceType outcome.1.invoice.id
    pure { receipt := outcome.1.receipt, replayed := false, coverage := coverage }

end Qift.Settlement
