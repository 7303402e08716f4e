import Qift.Settlement.Refunds

/-!
# Refund requests

The maker–checker part of `settlement-refunds.service.ts`: request, independent approval, evidenced execution.

* `requestRefund` quotes the invoice into a snapshot; `verifySnapshot` refuses a request whose row no longer
  hashes to it.
* `executeRefund` latches the request, posts through `recordRefund` and completes the request with the refund.
  A typed refusal releases the latch; any other failure holds it for the same executor.
-/

namespace Qift.Settlement

open Relational Interleaving Financial

structure RequestRefundInput where
  invoiceType : InvoiceType
  invoiceId : Nat
  amount : Number
  reason : String
  reasonCode : Option String := none

structure ExecuteRefundInput where
  evidenceRef : String
  /-- `none` when the text is no date. -/
  refundedAt : Option Time
  confirmedAmount : Number

/-- The text of a request state. -/
def RefundRequestState.name : RefundRequestState → String
  | .requested => "requested"
  | .approved => "approved"
  | .executing => "executing"
  | .executed => "executed"
  | .cancelled => "cancelled"

/-- The columns of an invoice a request quotes. -/
structure QuotedInvoice where
  id : Nat
  orgId : Nat
  storeId : Option Nat
  invoiceNumber : Option String
  totalAmount : Decimal
  vatAmount : Decimal

def quotedMerchantInvoice (inv : MerchantInvoice) : QuotedInvoice where
  id := inv.id
  orgId := inv.orgId
  storeId := some inv.storeId
  invoiceNumber := inv.merchantInvoiceNumber
  totalAmount := inv.totalAmount
  vatAmount := inv.vatAmount

def quotedCorporateInvoice (inv : CorporateInvoice) : QuotedInvoice where
  id := inv.id
  orgId := inv.orgId
  storeId := none
  invoiceNumber := some inv.invoiceNumber
  totalAmount := inv.totalAmount
  vatAmount := inv.vatAmount.getD ⟨0⟩

/-- The invoice of a request on either leg. -/
def quotedInvoice (invoiceType : InvoiceType) (invoiceId : Nat) (w : World) : Option QuotedInvoice :=
  match invoiceType with
  | .merchant_invoice =>
      (findUnique Model.merchantInvoice invoiceId w).map quotedMerchantInvoice
  | .corporate_invoice =>
      (findUnique Model.corporateInvoice invoiceId w).map quotedCorporateInvoice

/-- The VAT of a request: the frozen proportion, whatever was refunded before. -/
def quotedVatMinor (totalMinor vatMinor amountMinor : Int) : Int :=
  if totalMinor = 0 then 0
  else min ((amountMinor * vatMinor + totalMinor / 2) / totalMinor) vatMinor

structure RefundSnapshot where
  invoiceType : InvoiceType
  invoiceId : Nat
  invoiceNumber : Option String
  amount : Number
  vatComponent : Number
  reason : String
  reasonCode : Option String
  recipientType : String
  recipientOrgId : Nat
  method : String

def RefundSnapshot.toJson (snapshot : RefundSnapshot) : Json :=
  .obj
    [("invoiceType", .str (InvoiceType.name snapshot.invoiceType)),
      ("invoiceId", .str (idText snapshot.invoiceId)),
      ("invoiceNumber", textOrNull snapshot.invoiceNumber),
      ("amount", .num snapshot.amount),
      ("vatComponent", .num snapshot.vatComponent),
      ("reason", .str snapshot.reason),
      ("reasonCode", textOrNull snapshot.reasonCode),
      ("recipientType", .str snapshot.recipientType),
      ("recipientOrgId", .str (idText snapshot.recipientOrgId)),
      ("method", .str snapshot.method)]

/-- The snapshot a request is filed with. -/
def snapshotOf (invoiceType : InvoiceType) (invoice : QuotedInvoice) (amountMinor : Int)
    (reason : String) (reasonCode : Option String) : RefundSnapshot where
  invoiceType := invoiceType
  invoiceId := invoice.id
  invoiceNumber := invoice.invoiceNumber
  amount := fromMinor amountMinor .SAR
  vatComponent := fromMinor
    (quotedVatMinor (toMinor (moneyToNumber invoice.totalAmount) .SAR)
      (toMinor (moneyToNumber invoice.vatAmount) .SAR) amountMinor) .SAR
  reason := reason
  reasonCode := reasonCode
  recipientType := "company"
  recipientOrgId := invoice.orgId
  method := "manual_bank_transfer"

/-- The snapshot a stored request stands for, on an invoice that carries a legal number. -/
def snapshotOfRequest (request : RefundRequest) (invoiceNumber : Option String) : RefundSnapshot where
  invoiceType := request.invoiceType
  invoiceId := request.invoiceId
  invoiceNumber := invoiceNumber
  amount := moneyToNumber request.amount
  vatComponent := moneyToNumber request.vatComponent
  reason := request.reason
  reasonCode := request.reasonCode
  recipientType := request.recipientType
  recipientOrgId := request.orgId
  method := request.method

section Services

variable [Runtime]

def refundSnapshotHash (snapshot : RefundSnapshot) : String :=
  hashCanonical (canonicalJson snapshot.toJson)

/-! ### Requesting -/

/-- The row of a filed request. -/
def requestRow (snapshot : RefundSnapshot) (storeId : Option Nat) (actorUserId : Nat)
    (requestedAt : Time) (id : Nat) : RefundRequest where
  id := id
  invoiceType := snapshot.invoiceType
  invoiceId := snapshot.invoiceId
  orgId := snapshot.recipientOrgId
  storeId := storeId
  currency := .SAR
  amount := Decimal.ofNumber snapshot.amount
  vatComponent := Decimal.ofNumber snapshot.vatComponent
  reason := snapshot.reason
  reasonCode := snapshot.reasonCode
  recipientType := snapshot.recipientType
  method := snapshot.method
  snapshotHash := refundSnapshotHash snapshot
  state := .requested
  requestedBy := actorUserId
  requestedAt := requestedAt
  approvedBy := none
  approvedAt := none
  executedBy := none
  executedAt := none
  cancelledBy := none
  cancelledAt := none
  refundId := none

/-- The transaction of `requestRefund`. -/
def requestTx (snapshot : RefundSnapshot) (storeId : Option Nat) (actorUserId : Nat) :
    Transaction RefundRequest := do
  let requestedAt ← txNow
  let created ← insert Model.refundRequest (requestRow snapshot storeId actorUserId requestedAt)
  recordGuaranteed ⟨"finance.refund.requested", created.id⟩
  pure created

def requestRefund (actorUserId : Nat) (input : RequestRefundInput) : Service RefundRequest := do
  assertGatesOpen
  let reason := trim input.reason
  Svc.ensure (reason ≠ "") (.badRequest "refund_reason_required")
  let reasonCode := trimmed input.reasonCode
  Svc.ensure (input.invoiceType = .corporate_invoice →
      reasonCode.getD "" ∈ FEE_REFUND_REASON_CODES)
    (.badRequest "fee_refund_reason_code_required")
  let amountMinor := toMinor input.amount .SAR
  Svc.ensure (0 < amountMinor) (.badRequest "refund_amount_must_be_positive")
  let invoice ← Svc.query .read (quotedInvoice input.invoiceType input.invoiceId)
  match invoice with
  | none => Svc.fail (.notFound "invoice_not_found")
  | some invoice =>
      Svc.transaction .requestRefund (requestTx
        (snapshotOf input.invoiceType invoice amountMinor reason reasonCode) invoice.storeId
        actorUserId)

/-! ### Approval and cancellation -/

def loadRequest (requestId : Nat) : Service RefundRequest := do
  let request ← Svc.query .read (findUnique Model.refundRequest requestId)
  match request with
  | none => Svc.fail (.notFound "refund_request_not_found")
  | some request => pure request

/-- A stored request still hashes to its snapshot; a legal number may have arrived since. -/
def verifySnapshot (request : RefundRequest) : Service Unit := do
  let invoice ← Svc.query .read (quotedInvoice request.invoiceType request.invoiceId)
  let invoiceNumber := invoice.bind QuotedInvoice.invoiceNumber
  Svc.ensure
    (refundSnapshotHash (snapshotOfRequest request invoiceNumber) = request.snapshotHash ∨
      invoiceNumber ≠ none ∧
        refundSnapshotHash (snapshotOfRequest request none) = request.snapshotHash)
    (.conflict "refund_snapshot_tampered")

/-- A one-shot move of a request with its audit line. -/
def moveRequest (requestId : Nat) (state : RefundRequestState) (action : String)
    (data : Time → RefundRequest → RefundRequest) (hdata : ∀ t r, (data t r).id = r.id) :
    Transaction Unit := do
  let movedAt ← txNow
  let moved ← updateMany Model.refundRequest (fun r => r.id = requestId ∧ r.state = state)
    (data movedAt) (hdata movedAt)
  Tx.ensure (moved = 1) (.conflict "refund_request_contended")
  recordGuaranteed ⟨action, requestId⟩

/-- A request once it is approved. -/
def approveRow (actorUserId : Nat) (approvedAt : Time) (r : RefundRequest) : RefundRequest :=
  { r with state := .approved, approvedBy := some actorUserId, approvedAt := some approvedAt }

/-- A request once it is cancelled. -/
def cancelRow (actorUserId : Nat) (cancelledAt : Time) (r : RefundRequest) : RefundRequest :=
  { r with state := .cancelled, cancelledBy := some actorUserId, cancelledAt := some cancelledAt }

def approveRefund (actorUserId requestId : Nat) : Service RefundRequest := do
  let request ← loadRequest requestId
  Svc.ensure (request.state = .requested)
    (.conflict ("refund_request_not_requested:" ++ RefundRequestState.name request.state))
  Svc.ensure (request.requestedBy ≠ actorUserId) (.conflict "refund_self_approval_rejected")
  verifySnapshot request
  Svc.transaction (.approveRefund requestId)
    (moveRequest requestId .requested "finance.refund.approved" (approveRow actorUserId)
      fun _ _ => rfl)
  loadRequest requestId

def cancelRefundRequest (actorUserId requestId : Nat) : Service RefundRequest := do
  let request ← loadRequest requestId
  Svc.ensure (request.state = .requested ∨ request.state = .approved)
    (.conflict ("refund_request_not_cancellable:" ++ RefundRequestState.name request.state))
  Svc.transaction (.cancelRefund requestId)
    (moveRequest requestId request.state "finance.refund.cancelled" (cancelRow actorUserId)
      fun _ _ => rfl)
  loadRequest requestId

/-! ### Execution -/

/-- A request once an execution has latched it. -/
def latchRow (actorUserId : Nat) (r : RefundRequest) : RefundRequest :=
  { r with state := .executing, executedBy := some actorUserId }

/-- A request once its latch is released. -/
def unlatchRow (r : RefundRequest) : RefundRequest :=
  { r with state := .approved, executedBy := none }

def finalizeRow (actorUserId refundId : Nat) (executedAt : Time) (r : RefundRequest) : RefundRequest :=
  { r with
    state := .executed
    executedBy := some actorUserId
    executedAt := some executedAt
    refundId := some refundId }

/-- Latch a request in the state it was read in; only the executor of a latch may take it up again. -/
def latchRequest (actorUserId requestId : Nat) (state : RefundRequestState) : Transaction Nat :=
  updateMany Model.refundRequest
    (fun r => r.id = requestId ∧ r.state = state ∧
      (state = .executing → r.executedBy = some actorUserId))
    (latchRow actorUserId)

/-- Release the latch; the attempt is labelled with the evidence it named. -/
def releaseRequest (requestId : Nat) (evidenceRef : String) : Service Unit := do
  let _ ← Svc.transaction (.releaseRefund requestId evidenceRef)
    (updateMany Model.refundRequest (fun r => r.id = requestId ∧ r.state = .executing) unlatchRow)
  pure ()

/-- A business refusal. -/
def isTypedRefusal : Err → Bool
  | .conflict _ | .badRequest _ | .notFound _ => true
  | _ => false

/-- A refund the evidence already paid must be unowned and of the approved amount. -/
def assertUnowned (requestId : Nat) (request : RefundRequest) (refund : SettlementRefund) :
    Service Unit := do
  let owner ← Svc.query .read
    (findFirst Model.refundRequest fun r => r.refundId = some refund.id)
  Svc.ensure (∀ r ∈ owner, r.id = requestId) (.conflict "refund_evidence_already_used")
  Svc.ensure (toMinor (moneyToNumber refund.amount) .SAR =
      toMinor (moneyToNumber request.amount) .SAR)
    (.conflict "refund_evidence_already_used")

/-- The posting of a latched request. -/
def postRequest (actorUserId requestId : Nat) (request : RefundRequest) (input : ExecuteRefundInput)
    (candidates : List String) : Service RefundOutcome := do
  let result ← recordRefund
    (some { requestId := requestId, evidenceRef := trim input.evidenceRef }) actorUserId
    { invoiceType := request.invoiceType
      invoiceId := request.invoiceId
      amount := moneyToNumber request.amount
      reason := request.reason
      reasonCode := request.reasonCode
      evidenceRef := input.evidenceRef
      refundedAt := input.refundedAt } candidates
  if result.replayed then assertUnowned requestId request result.refund else pure ()
  pure result

/-- The transaction that completes a request. -/
def finalizeTx (actorUserId requestId : Nat) (result : RefundOutcome) : Transaction Nat := do
  let executedAt ← txNow
  let moved ← updateUnique Model.refundRequest
    (fun r => r.id = requestId ∧ r.state = .executing)
    (finalizeRow actorUserId result.refund.id executedAt)
  if moved = 1 ∨ result.replayed = true then
    recordGuaranteed ⟨"finance.refund.executed", requestId⟩
  else pure ()
  pure moved

structure RefundExecution where
  request : RefundRequest
  refund : SettlementRefund
  replayed : Bool

def executeRefund (actorUserId requestId : Nat) (input : ExecuteRefundInput)
    (candidates : List String) : Service RefundExecution := do
  let request ← loadRequest requestId
  Svc.ensure (request.state = .approved ∨ request.state = .executing)
    (.conflict ("refund_request_not_approved:" ++ RefundRequestState.name request.state))
  Svc.ensure (request.approvedBy ≠ some actorUserId) (.conflict "refund_approver_cannot_execute")
  Svc.ensure (request.state = .executing → request.executedBy = some actorUserId)
    (.conflict "refund_request_contended")
  verifySnapshot request
  Svc.ensure (toMinor input.confirmedAmount .SAR = toMinor (moneyToNumber request.amount) .SAR)
    (.conflict "refund_confirmed_amount_mismatch")
  let latched ← Svc.transaction (.latchRefund requestId)
    (latchRequest actorUserId requestId request.state)
  Svc.ensure (latched = 1) (.conflict "refund_request_contended")
  let result ← Svc.tryCatch (postRequest actorUserId requestId request input candidates)
    fun e =>
      if isTypedRefusal e then do
        releaseRequest requestId (trim input.evidenceRef)
        Svc.fail e
      else Svc.fail e
  let moved ← Svc.tryCatch
    (Svc.transaction (.finalizeRefund requestId result.refund.id)
      (finalizeTx actorUserId requestId result))
    fun e =>
      match e with
      | .p2002 _ => do
          -- another request was completed with this refund first
          releaseRequest requestId (trim input.evidenceRef)
          Svc.fail (.conflict "refund_evidence_already_used")
      | e => Svc.fail e
  Svc.ensure (moved = 1 ∨ result.replayed = true) (.conflict "refund_request_contended")
  let request ← loadRequest requestId
  pure { request := request, refund := result.refund, replayed := result.replayed }

end Services

end Qift.Settlement
