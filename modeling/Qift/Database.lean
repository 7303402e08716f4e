import Qift.Lib.Table
import Qift.Lib.Transaction
import Qift.Settlement.ExecutionBinding

/-!
# The stored state

The rows of `schema.prisma` the financial services read and write, and the client operations on them.

* One structure for each model of the schema, with the columns a modelled service uses; identifiers come from
  one counter, an enumerated text column is an inductive type.
* `Db` holds the tables, `World` adds the audit log; `World.empty` is the platform before its first write.
* `Model` is a client delegate: a table of `Db` with its unique constraint beside the key.  `insert`,
  `updateMany` and `findMany` are the client operations, `insert_eq_ok` and `updateMany_eq_ok` what a
  successful write did.
-/

namespace Qift

open Relational Interleaving

/-! ### Enumerated columns -/

inductive InvoiceType
  | merchant_invoice | corporate_invoice
  deriving DecidableEq

inductive InvoiceStatus
  | issued | paid | cancelled
  deriving DecidableEq

inductive BalanceStatus
  | open | partially_credited | closed_by_credit | closed_by_payment
  deriving DecidableEq

/-- How a batch reached its terminal state. -/
inductive ClosureType
  | remitted | zero_net_no_transfer
  deriving DecidableEq

inductive SettlementInteraction
  | item_reduced | receivable_accrued | invoice_reduced | revenue_reversed
  deriving DecidableEq

inductive ClaimStatus
  | pending | verified | claimed | declined | expired | mismatch | revoked
  deriving DecidableEq

inductive TransferStatus
  | completed | failed
  deriving DecidableEq

inductive RefundRequestState
  | requested | approved | executing | executed | cancelled
  deriving DecidableEq

inductive LedgerDirection
  | credit | debit
  deriving DecidableEq

/-- `FINANCIAL_EVENTS`, the events of the modelled services. -/
inductive FinancialEvent
  | ORDER_PAID
  | QIFT_SERVICE_FEE_ACCRUED
  | MERCHANT_PAYABLE_ACCRUED
  | DELIVERY_FEE_ACCRUED
  | CORPORATE_INVOICE_ISSUED
  | MERCHANT_INVOICE_ISSUED
  | INVOICE_PAYMENT_RECEIVED
  | QIFT_REVENUE_RECOGNIZED
  | MERCHANT_REMITTANCE_PAID
  | SETTLEMENT_STARTED
  | SETTLEMENT_COMPLETED
  | SETTLEMENT_SUPERSEDED
  | REFUND_APPROVED
  | REFUND_PAID
  | MERCHANT_RECEIVABLE_ACCRUED
  | MERCHANT_RECEIVABLE_RECOVERED
  | INTERNAL_TRANSFER_COMPLETED
  deriving DecidableEq

namespace FinancialEvent

/-- The event as text. -/
def name : FinancialEvent → String
  | ORDER_PAID => "order.paid"
  | QIFT_SERVICE_FEE_ACCRUED => "qift.service_fee.accrued"
  | MERCHANT_PAYABLE_ACCRUED => "merchant.payable.accrued"
  | DELIVERY_FEE_ACCRUED => "delivery.fee.accrued"
  | CORPORATE_INVOICE_ISSUED => "corporate.invoice.issued"
  | MERCHANT_INVOICE_ISSUED => "merchant.invoice.issued"
  | INVOICE_PAYMENT_RECEIVED => "invoice.payment.received"
  | QIFT_REVENUE_RECOGNIZED => "qift.revenue.recognized"
  | MERCHANT_REMITTANCE_PAID => "merchant.remittance.paid"
  | SETTLEMENT_STARTED => "settlement.started"
  | SETTLEMENT_COMPLETED => "settlement.completed"
  | SETTLEMENT_SUPERSEDED => "settlement.superseded"
  | REFUND_APPROVED => "refund.approved"
  | REFUND_PAID => "refund.paid"
  | MERCHANT_RECEIVABLE_ACCRUED => "merchant.receivable.accrued"
  | MERCHANT_RECEIVABLE_RECOVERED => "merchant.receivable.recovered"
  | INTERNAL_TRANSFER_COMPLETED => "treasury.internal_transfer.completed"

end FinancialEvent

/-! ### Rows -/

structure Store where
  id : Nat
  payoutIdentityVerifiedAt : Option Time
  payoutIdentityEvidence : Option String

structure GiftCampaign where
  id : Nat
  referenceNumber : Option String

structure ClaimableGift where
  id : Nat
  campaignId : Nat
  status : ClaimStatus
  expiresAt : Time

structure MerchantInvoice where
  id : Nat
  storeId : Nat
  orgId : Nat
  campaignId : Nat
  status : InvoiceStatus
  merchantInvoiceNumber : Option String
  currency : CurrencyCode
  vatAmount : Decimal
  totalAmount : Decimal
  paidAt : Option Time

structure CorporateInvoice where
  id : Nat
  invoiceNumber : String
  orgId : Nat
  campaignId : Nat
  status : InvoiceStatus
  balanceStatus : BalanceStatus
  currency : CurrencyCode
  platformFeeAmount : Decimal
  vatAmount : Option Decimal
  totalAmount : Decimal
  /-- `taxSnapshot.ruleVersion`. -/
  taxRuleVersion : Option String
  buyerSnapshot : Option Json
  sellerSnapshot : Option Json
  paidAt : Option Time

structure PaymentReceipt where
  id : Nat
  invoiceType : InvoiceType
  invoiceId : Nat
  orgId : Nat
  campaignId : Nat
  storeId : Option Nat
  amount : Decimal
  currency : CurrencyCode
  rail : String
  bankReference : String
  receivedAt : Time
  recordedBy : Nat

structure SettlementRefund where
  id : Nat
  invoiceType : InvoiceType
  invoiceId : Nat
  storeId : Option Nat
  orgId : Nat
  campaignId : Nat
  currency : CurrencyCode
  amount : Decimal
  vatComponent : Decimal
  reason : String
  evidenceRef : String
  refundedAt : Time
  recordedBy : Nat
  settlementInteraction : SettlementInteraction

structure RefundRequest where
  id : Nat
  invoiceType : InvoiceType
  invoiceId : Nat
  orgId : Nat
  storeId : Option Nat
  currency : CurrencyCode
  amount : Decimal
  vatComponent : Decimal
  reason : String
  reasonCode : Option String
  recipientType : String
  method : String
  snapshotHash : String
  state : RefundRequestState
  requestedBy : Nat
  requestedAt : Time
  approvedBy : Option Nat
  approvedAt : Option Time
  executedBy : Option Nat
  executedAt : Option Time
  cancelledBy : Option Nat
  cancelledAt : Option Time
  /-- The refund the request executed into. -/
  refundId : Option Nat

structure CreditNote where
  id : Nat
  referenceNumber : String
  refundId : Nat
  noteType : String
  invoiceType : InvoiceType
  invoiceId : Nat
  merchantInvoiceNumber : Option String
  merchantCreditNoteNumber : Option String
  qiftCreditNoteNumber : Option String
  issuerType : String
  issuanceSource : String
  onBehalfAuthorizationRef : Option String
  creditNoteUuid : Option String
  originalInvoiceNumber : Option String
  currentVersion : Nat
  storeId : Option Nat
  orgId : Nat
  campaignId : Nat
  currency : CurrencyCode
  amount : Decimal
  vatComponent : Decimal
  netComponent : Option Decimal
  reasonCode : Option String
  reason : String
  taxRuleVersion : Option String
  buyerSnapshot : Option Json
  issuerSnapshot : Option Json
  issuedAt : Time
  issuedBy : Nat
  canonicalJson : String
  documentHash : String
  statementSettlementId : Option Nat

structure CreditNoteVersion where
  creditNoteId : Nat
  versionNumber : Nat
  changeReason : String
  canonicalJson : String
  documentHash : String
  statementSettlementId : Option Nat
  createdBy : Nat

structure SettlementItem where
  id : Nat
  occurrenceType : String
  occurrenceId : Nat
  storeId : Nat
  currency : CurrencyCode
  amount : Decimal
  state : Settlement.ItemState
  batchId : Option Nat
  holdType : Option String
  holdEvidence : Option String
  createdAt : Time

structure SettlementBatch where
  id : Nat
  settlementReference : String
  storeId : Nat
  currency : CurrencyCode
  status : Settlement.BatchState
  windowType : String
  grossAmount : Decimal
  netAmount : Decimal
  composition : List Settlement.FrozenCompositionEntry
  calculationSnapshot : Settlement.SettlementCalculation
  recoveryAllocation : List Settlement.RecoveryAllocation
  assembledBy : Option Nat
  supersededById : Option Nat
  failureEvidence : Option String
  closureType : Option ClosureType
  closedAt : Option Time

structure SettlementReceivable where
  id : Nat
  storeId : Nat
  currency : CurrencyCode
  amount : Decimal
  /-- The refund that accrued it. -/
  occurrenceId : Nat
  state : Settlement.ReceivableState
  amountRecovered : Decimal
  stagedBySettlementId : Option Nat
  accruedAt : Time
  recoveredAt : Option Time
  recoveredBySettlementId : Option Nat

structure SettlementRemittance where
  id : Nat
  settlementId : Nat
  settlementReference : String
  storeId : Nat
  currency : CurrencyCode
  amount : Decimal
  bankTransferReference : String
  executedAt : Time
  executedBy : Nat
  createdAt : Time

structure SettlementExecutionPreview where
  id : Nat
  settlementId : Nat
  settlementReference : String
  calculationHash : String
  replayVerified : Bool
  previewedBy : Nat
  previewedAt : Time

structure SettlementApproval where
  id : Nat
  settlementId : Nat
  settlementReference : String
  calculationHash : String
  requiredLevel : Nat
  approvedBy : Nat
  approvedAt : Time
  note : Option String

structure SettlementStatementRecord where
  id : Nat
  settlementId : Nat
  settlementReference : String
  storeId : Nat
  statementVersion : String
  payload : Settlement.SettlementStatement
  canonicalJson : String
  statementHash : String
  issuedAt : Time

structure SettlementReplayRecord where
  id : Nat
  settlementId : Nat
  settlementReference : String
  replayEngineVersion : String
  calculationReplayVerified : Bool
  statementIntegrityVerified : Bool
  statementIdentical : Bool
  ranBy : Nat
  ranAt : Time

structure TreasuryInternalTransfer where
  id : Nat
  settlementId : Nat
  settlementReference : String
  currency : CurrencyCode
  confirmedAmount : Decimal
  bankReference : String
  valueDate : Time
  accountFromMasked : String
  accountToMasked : String
  status : TransferStatus
  recordedBy : Nat
  notes : Option String

/-- A counter of a legal number series. -/
structure NumberSequence where
  seriesKey : String
  lastValue : Nat

/-- The occurrence a ledger key names; the parts of a compound anchor are separated in its text. -/
inductive Anchor
  | id (id : Nat)
  | pair (first second : Nat)
  | reversal (invoice refund : Nat)
  | vat (refund : Nat)
  deriving DecidableEq

/-- `ledgerIdempotencyKey`: the event and its occurrence. -/
structure LedgerKey where
  event : FinancialEvent
  anchor : Anchor
  deriving DecidableEq

/-- The metadata of a posting that some service reads back; an instant stands for its ISO text. -/
structure LedgerMetadata where
  account : Option String := none
  invoiceId : Option Nat := none
  invoiceNumber : Option String := none
  bankReference : Option String := none
  settlementReference : Option String := none
  bankTransferReference : Option String := none
  evidenceRef : Option String := none
  closureType : Option ClosureType := none
  closedAt : Option Time := none
  valueDate : Option Time := none

structure FinancialLedgerEntry where
  id : Nat
  createdAt : Time
  eventType : FinancialEvent
  reasonCode : String
  amount : Decimal
  currency : CurrencyCode
  direction : LedgerDirection
  orderId : Option Nat
  storeId : Option Nat
  metadata : LedgerMetadata
  idempotencyKey : Option LedgerKey

/-- The key of a guaranteed audit line. -/
structure AuditKey where
  action : String
  subject : Nat
  deriving DecidableEq

/-! ### Tables -/

structure Db where
  now : Time
  nextId : Nat
  gatesAttested : Bool
  seniorApprovers : List Nat
  stores : Table Store.id
  campaigns : Table GiftCampaign.id
  claims : Table ClaimableGift.id
  merchantInvoices : Table MerchantInvoice.id
  corporateInvoices : Table CorporateInvoice.id
  receipts : Table PaymentReceipt.id
  refunds : Table SettlementRefund.id
  refundRequests : Table RefundRequest.id
  creditNotes : Table CreditNote.refundId
  creditNoteVersions : Table fun v : CreditNoteVersion => (v.creditNoteId, v.versionNumber)
  sequences : Table NumberSequence.seriesKey
  items : Table SettlementItem.id
  batches : Table SettlementBatch.id
  receivables : Table SettlementReceivable.id
  remittances : Table SettlementRemittance.settlementId
  previews : Table SettlementExecutionPreview.id
  approvals : Table SettlementApproval.id
  statements : Table SettlementStatementRecord.settlementId
  replays : Table SettlementReplayRecord.id
  internalTransfers : Table TreasuryInternalTransfer.bankReference
  ledger : Table FinancialLedgerEntry.id

structure World where
  db : Db
  auditLog : List AuditKey

namespace World

/-- Nothing is stored yet. -/
def empty : World where
  db :=
    { now := 0
      nextId := 0
      gatesAttested := false
      seniorApprovers := []
      stores := Table.empty
      campaigns := Table.empty
      claims := Table.empty
      merchantInvoices := Table.empty
      corporateInvoices := Table.empty
      receipts := Table.empty
      refunds := Table.empty
      refundRequests := Table.empty
      creditNotes := Table.empty
      creditNoteVersions := Table.empty
      sequences := Table.empty
      items := Table.empty
      batches := Table.empty
      receivables := Table.empty
      remittances := Table.empty
      previews := Table.empty
      approvals := Table.empty
      statements := Table.empty
      replays := Table.empty
      internalTransfers := Table.empty
      ledger := Table.empty }
  auditLog := []

end World

/-! ### Client delegates -/

/-- A client delegate: a table of the database and its unique constraint beside the key. -/
structure Model {ρ κ : Type} (key : ρ → κ) where
  table : Db → Table key
  store : Table key → Db → Db
  /-- Two rows that violate a unique constraint together. -/
  conflict : ρ → ρ → Bool
  name : String

namespace Model

abbrev merchantInvoice : Model MerchantInvoice.id where
  table := Db.merchantInvoices
  store t db := { db with merchantInvoices := t }
  conflict a b := decide (a.campaignId = b.campaignId ∧ a.storeId = b.storeId)
  name := "MerchantInvoice"

abbrev corporateInvoice : Model CorporateInvoice.id where
  table := Db.corporateInvoices
  store t db := { db with corporateInvoices := t }
  conflict a b := decide (a.invoiceNumber = b.invoiceNumber ∨ a.campaignId = b.campaignId)
  name := "CorporateInvoice"

abbrev paymentReceipt : Model PaymentReceipt.id where
  table := Db.receipts
  store t db := { db with receipts := t }
  conflict a b := decide (a.invoiceType = b.invoiceType ∧ a.invoiceId = b.invoiceId ∧
    a.bankReference = b.bankReference)
  name := "PaymentReceipt"

abbrev settlementRefund : Model SettlementRefund.id where
  table := Db.refunds
  store t db := { db with refunds := t }
  conflict a b := decide (a.invoiceType = b.invoiceType ∧ a.invoiceId = b.invoiceId ∧
    a.evidenceRef = b.evidenceRef)
  name := "SettlementRefund"

abbrev refundRequest : Model RefundRequest.id where
  table := Db.refundRequests
  store t db := { db with refundRequests := t }
  conflict a b := decide (a.refundId = b.refundId ∧ a.refundId ≠ none)
  name := "RefundRequest"

abbrev creditNote : Model CreditNote.refundId where
  table := Db.creditNotes
  store t db := { db with creditNotes := t }
  conflict a b := decide (a.id = b.id ∨ a.referenceNumber = b.referenceNumber ∨
    (a.qiftCreditNoteNumber = b.qiftCreditNoteNumber ∧ a.qiftCreditNoteNumber ≠ none))
  name := "CreditNote"

abbrev creditNoteVersion :
    Model fun v : CreditNoteVersion => (v.creditNoteId, v.versionNumber) where
  table := Db.creditNoteVersions
  store t db := { db with creditNoteVersions := t }
  conflict _ _ := false
  name := "CreditNoteVersion"

abbrev numberSequence : Model NumberSequence.seriesKey where
  table := Db.sequences
  store t db := { db with sequences := t }
  conflict _ _ := false
  name := "NumberSequence"

abbrev settlementItem : Model SettlementItem.id where
  table := Db.items
  store t db := { db with items := t }
  conflict a b := decide (a.occurrenceType = b.occurrenceType ∧ a.occurrenceId = b.occurrenceId)
  name := "SettlementItem"

abbrev settlementBatch : Model SettlementBatch.id where
  table := Db.batches
  store t db := { db with batches := t }
  conflict a b := decide (a.settlementReference = b.settlementReference)
  name := "SettlementBatch"

abbrev settlementReceivable : Model SettlementReceivable.id where
  table := Db.receivables
  store t db := { db with receivables := t }
  conflict a b := decide (a.occurrenceId = b.occurrenceId)
  name := "SettlementReceivable"

abbrev settlementRemittance : Model SettlementRemittance.settlementId where
  table := Db.remittances
  store t db := { db with remittances := t }
  conflict a b := decide (a.id = b.id)
  name := "SettlementRemittance"

abbrev settlementExecutionPreview : Model SettlementExecutionPreview.id where
  table := Db.previews
  store t db := { db with previews := t }
  conflict _ _ := false
  name := "SettlementExecutionPreview"

abbrev settlementApproval : Model SettlementApproval.id where
  table := Db.approvals
  store t db := { db with approvals := t }
  conflict a b := decide (a.settlementId = b.settlementId ∧ a.approvedBy = b.approvedBy ∧
    a.approvedAt = b.approvedAt)
  name := "SettlementApproval"

abbrev settlementStatementRecord : Model SettlementStatementRecord.settlementId where
  table := Db.statements
  store t db := { db with statements := t }
  conflict a b := decide (a.id = b.id)
  name := "SettlementStatementRecord"

abbrev settlementReplayRecord : Model SettlementReplayRecord.id where
  table := Db.replays
  store t db := { db with replays := t }
  conflict _ _ := false
  name := "SettlementReplayRecord"

/-- One completed transfer a settlement: the partial unique index. -/
abbrev treasuryInternalTransfer : Model TreasuryInternalTransfer.bankReference where
  table := Db.internalTransfers
  store t db := { db with internalTransfers := t }
  conflict a b := decide (a.id = b.id ∨ (a.settlementId = b.settlementId ∧
    a.status = .completed ∧ b.status = .completed))
  name := "TreasuryInternalTransfer"

abbrev financialLedgerEntry : Model FinancialLedgerEntry.id where
  table := Db.ledger
  store t db := { db with ledger := t }
  conflict a b := decide (a.idempotencyKey = b.idempotencyKey ∧ a.idempotencyKey ≠ none)
  name := "FinancialLedgerEntry"

end Model

section Client

variable {ρ κ : Type} {key : ρ → κ} [DecidableEq κ]

/-- The row of a key. -/
def findUnique (m : Model key) (k : κ) (w : World) : Option ρ := (m.table w.db).find k

/-- The rows that match a condition, in storage order. -/
def findMany (m : Model key) (cond : ρ → Bool) (w : World) : List ρ :=
  (m.table w.db).rows.filter cond

/-- The first row that matches a condition. -/
def findFirst (m : Model key) (cond : ρ → Bool) (w : World) : Option ρ :=
  (m.table w.db).rows.find? cond

/-- Create a row from a fresh identifier; a unique constraint refuses it with `P2002`. -/
def insert (m : Model key) (row : Nat → ρ) : Tx World Err ρ := fun w =>
  match (m.table w.db).createUnless m.conflict (row w.db.nextId) with
  | none => .error (.p2002 m.name)
  | some t =>
      .ok (row w.db.nextId,
        { w with db := { m.store t w.db with nextId := w.db.nextId + 1 } })

/-- Rewrite every row that matches a condition; the answer is their number. -/
def updateMany (m : Model key) (cond : ρ → Bool) (data : ρ → ρ)
    (hdata : ∀ r, key (data r) = key r := by intro _; rfl) : Tx World Err Nat := fun w =>
  .ok ((m.table w.db).count cond,
    { w with db := m.store ((m.table w.db).updateMany cond data hdata) w.db })

/-- Rewrite the rows that match a condition in a column with a unique constraint; rows that would violate it
refuse the write with `P2002`. -/
def updateUnique (m : Model key) (cond : ρ → Bool) (data : ρ → ρ)
    (hdata : ∀ r, key (data r) = key r := by intro _; rfl) : Tx World Err Nat := fun w =>
  let t := (m.table w.db).updateMany cond data hdata
  if t.rows.any fun a => t.rows.any fun b => decide (key a ≠ key b) && m.conflict a b then
    .error (.p2002 m.name)
  else updateMany m cond data hdata w

theorem insert_eq_ok {m : Model key} {row : Nat → ρ} {w w' : World} {r : ρ} :
    insert m row w = .ok (r, w') ↔
      r = row w.db.nextId ∧ ∃ t, (m.table w.db).create r = some t ∧
        (∀ x ∈ (m.table w.db).rows, m.conflict r x = false) ∧
        w' = { w with db := { m.store t w.db with nextId := w.db.nextId + 1 } } := by
  unfold insert
  cases hcreate : (m.table w.db).createUnless m.conflict (row w.db.nextId) with
  | none =>
      constructor
      · rintro ⟨⟩
      · rintro ⟨rfl, t, ht, hclash, -⟩
        rw [Table.createUnless_eq_some.mpr ⟨ht, hclash⟩] at hcreate
        cases hcreate
  | some t =>
      obtain ⟨ht, hclash⟩ := Table.createUnless_eq_some.mp hcreate
      constructor
      · rintro ⟨⟩
        exact ⟨rfl, t, ht, hclash, rfl⟩
      · rintro ⟨rfl, t', ht', -, rfl⟩
        rw [ht] at ht'
        cases ht'
        rfl

/-- An insert fails only on a unique constraint. -/
theorem insert_eq_error {m : Model key} {row : Nat → ρ} {w : World} {e : Err}
    (h : insert m row w = .error e) : e = .p2002 m.name := by
  unfold insert at h
  split at h
  · cases h
    rfl
  · cases h

theorem exists_insert {m : Model key} {row : Nat → ρ} {w : World}
    (hkey : ∀ x ∈ (m.table w.db).rows, key x ≠ key (row w.db.nextId))
    (hclash : ∀ x ∈ (m.table w.db).rows, m.conflict (row w.db.nextId) x = false) :
    ∃ r w', insert m row w = .ok (r, w') := by
  obtain ⟨t, ht⟩ := Table.exists_create hkey
  exact ⟨_, _, insert_eq_ok.mpr ⟨rfl, t, ht, hclash, rfl⟩⟩

omit [DecidableEq κ] in
theorem updateMany_eq_ok {m : Model key} {cond : ρ → Bool} {data : ρ → ρ}
    {hdata : ∀ r, key (data r) = key r} {w w' : World} {n : Nat} :
    updateMany m cond data hdata w = .ok (n, w') ↔
      n = (m.table w.db).count cond ∧
        w' = { w with db := m.store ((m.table w.db).updateMany cond data hdata) w.db } := by
  simp [updateMany, eq_comm]

theorem updateUnique_eq_ok {m : Model key} {cond : ρ → Bool} {data : ρ → ρ}
    {hdata : ∀ r, key (data r) = key r} {w w' : World} {n : Nat} :
    updateUnique m cond data hdata w = .ok (n, w') ↔
      (∀ a ∈ ((m.table w.db).updateMany cond data hdata).rows,
        ∀ b ∈ ((m.table w.db).updateMany cond data hdata).rows,
          key a ≠ key b → m.conflict a b = false) ∧
        updateMany m cond data hdata w = .ok (n, w') := by
  unfold updateUnique
  dsimp only
  split
  · rename_i hclash
    simp only [List.any_eq_true, Bool.and_eq_true, decide_eq_true_eq] at hclash
    obtain ⟨a, ha, b, hb, hne, hconflict⟩ := hclash
    constructor
    · rintro ⟨⟩
    · rintro ⟨hfree, -⟩
      rw [hfree a ha b hb hne] at hconflict
      cases hconflict
  · rename_i hfree
    refine ⟨fun h => ⟨fun a ha b hb hne => ?_, h⟩, fun h => h.2⟩
    by_contra hconflict
    refine hfree (List.any_eq_true.mpr ⟨a, ha, List.any_eq_true.mpr ⟨b, hb, ?_⟩⟩)
    rw [Bool.not_eq_false] at hconflict
    simp [hne, hconflict]

end Client

/-- Order rows by a date, ties by identifier. -/
def orderBy {ρ : Type} (date : ρ → Int) (id : ρ → Nat) (rows : List ρ) : List ρ :=
  rows.insertionSort fun a b => date a < date b ∨ (date a = date b ∧ id a ≤ id b)

theorem mem_orderBy {ρ : Type} {date : ρ → Int} {id : ρ → Nat} {rows : List ρ} {r : ρ} :
    r ∈ orderBy date id rows ↔ r ∈ rows :=
  List.mem_insertionSort _

theorem orderBy_perm {ρ : Type} (date : ρ → Int) (id : ρ → Nat) (rows : List ρ) :
    (orderBy date id rows).Perm rows :=
  List.perm_insertionSort _ rows

theorem orderBy_pairwise {ρ : Type} (date : ρ → Int) (id : ρ → Nat) (rows : List ρ) :
    (orderBy date id rows).Pairwise fun a b =>
      date a < date b ∨ (date a = date b ∧ id a ≤ id b) := by
  have htotal : Std.Total fun a b : ρ =>
      date a < date b ∨ (date a = date b ∧ id a ≤ id b) := ⟨fun a b => by omega⟩
  have htrans : IsTrans ρ fun a b =>
      date a < date b ∨ (date a = date b ∧ id a ≤ id b) := ⟨fun a b c => by omega⟩
  exact List.pairwise_insertionSort _ rows

/-- A guaranteed audit line; a key that is already delivered collides and stands. -/
def recordGuaranteed (auditKey : AuditKey) : Tx World Err Unit :=
  Tx.modify fun w =>
    if auditKey ∈ w.auditLog then w else { w with auditLog := w.auditLog ++ [auditKey] }

/-- An audit line changes no table. -/
theorem recordGuaranteed_eq_ok {auditKey : AuditKey} {w w' : World} {u : Unit} :
    recordGuaranteed auditKey w = .ok (u, w') → w'.db = w.db := by
  intro h
  rw [recordGuaranteed, Tx.modify_eq_ok] at h
  subst h
  split <;> rfl

end Qift
