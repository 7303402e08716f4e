import Qift.Settlement.Assembly
import Qift.Settlement.Closing
import Qift.Requests
import Qift.System

/-!
# The books

The part of the stored state the financial properties speak about, and how it moves.

* `Books` are the tables of money and settlement; `Db.books` forgets the rest of the database.
* The sums of `Books` are what was received, refunded and credited on an invoice.
* `Effect` lists what one atomic action may do to the books, with the facts the action checked: the program
  does nothing else to them (`Qift.Guarantee`), and every invariant is an induction over effects.
-/

namespace Qift

open Relational Relational.Table Interleaving Settlement Financial Treasury

structure Books where
  nextId : Nat
  merchantInvoices : Table MerchantInvoice.id
  corporateInvoices : Table CorporateInvoice.id
  receipts : Table PaymentReceipt.id
  refunds : Table SettlementRefund.id
  refundRequests : Table RefundRequest.id
  items : Table SettlementItem.id
  batches : Table SettlementBatch.id
  receivables : Table SettlementReceivable.id
  remittances : Table SettlementRemittance.settlementId
  previews : Table SettlementExecutionPreview.id
  approvals : Table SettlementApproval.id
  statements : Table SettlementStatementRecord.settlementId
  replays : Table SettlementReplayRecord.id
  internalTransfers : Table TreasuryInternalTransfer.bankReference
  ledger : Ledger

/-- The books of a database. -/
def Db.books (db : Db) : Books where
  nextId := db.nextId
  merchantInvoices := db.merchantInvoices
  corporateInvoices := db.corporateInvoices
  receipts := db.receipts
  refunds := db.refunds
  refundRequests := db.refundRequests
  items := db.items
  batches := db.batches
  receivables := db.receivables
  remittances := db.remittances
  previews := db.previews
  approvals := db.approvals
  statements := db.statements
  replays := db.replays
  internalTransfers := db.internalTransfers
  ledger := db.ledger

namespace Books

variable (b : Books)

def receivedMinor (invoiceType : InvoiceType) (invoiceId : Nat) : Int :=
  b.receipts.sumOf fun r =>
    if r.invoiceType = invoiceType ∧ r.invoiceId = invoiceId then r.amount.cents else 0

/-- A total over the refunds of an invoice. -/
def sumRefunds (invoiceType : InvoiceType) (invoiceId : Nat) (value : SettlementRefund → Int) : Int :=
  b.refunds.sumOf fun r =>
    if r.invoiceType = invoiceType ∧ r.invoiceId = invoiceId then value r else 0

/-- What was refunded on an invoice, in cash or as a credit. -/
def refundedMinor (invoiceType : InvoiceType) (invoiceId : Nat) : Int :=
  b.sumRefunds invoiceType invoiceId fun r => r.amount.cents

/-- The VAT reversed with it. -/
def refundedVatMinor (invoiceType : InvoiceType) (invoiceId : Nat) : Int :=
  b.sumRefunds invoiceType invoiceId fun r => r.vatComponent.cents

/-- The part that was credited on an unpaid invoice. -/
def creditedMinor (invoiceType : InvoiceType) (invoiceId : Nat) : Int :=
  b.sumRefunds invoiceType invoiceId fun r =>
    if r.settlementInteraction = .invoice_reduced then r.amount.cents else 0

/-- The part that was paid back on a paid fee invoice. -/
def reversedMinor (invoiceId : Nat) : Int :=
  b.sumRefunds .corporate_invoice invoiceId fun r =>
    if r.settlementInteraction = .revenue_reversed then r.amount.cents else 0

/-- The part that was refunded on a goods invoice after its settlement. -/
def accruedMinor (invoiceId : Nat) : Int :=
  b.sumRefunds .merchant_invoice invoiceId fun r =>
    if r.settlementInteraction = .receivable_accrued then r.amount.cents else 0

def creditedNetMinor (invoiceId : Nat) : Int :=
  b.sumRefunds .corporate_invoice invoiceId fun r =>
    if r.settlementInteraction = .invoice_reduced then r.amount.cents - r.vatComponent.cents else 0

/-- A goods invoice with receipts that make up its total. -/
def Covered (inv : MerchantInvoice) : Prop :=
  (∃ r ∈ b.receipts.rows, r.invoiceType = .merchant_invoice ∧ r.invoiceId = inv.id) ∧
    inv.totalAmount.cents ≤ b.receivedMinor .merchant_invoice inv.id

/-- A fee invoice with receipts that make up what its credits leave of its total. -/
def FeeCovered (inv : CorporateInvoice) : Prop :=
  (∃ r ∈ b.receipts.rows, r.invoiceType = .corporate_invoice ∧ r.invoiceId = inv.id) ∧
    inv.totalAmount.cents - b.creditedMinor .corporate_invoice inv.id ≤
      b.receivedMinor .corporate_invoice inv.id

/-- A goods invoice has its settlement item. -/
def HasItem (invoiceId : Nat) : Prop :=
  ∃ i ∈ b.items.rows, i.occurrenceType = "merchant_invoice" ∧ i.occurrenceId = invoiceId

/-- The recovery postings of a settlement that closed without a transfer, in minor units. -/
def zeroNetDueMinor (settlementId : Nat) : Int :=
  b.ledger.sumOf fun row => if zeroNetSettlement row = some settlementId then row.amount.cents else 0

end Books

/-! ### Invoices -/

/-- The total of an invoice and the VAT in it, in minor units. -/
structure InvoiceTerms where
  totalMinor : Int
  vatMinor : Int
  deriving DecidableEq

/-- The VAT is a part of the total. -/
def InvoiceTerms.Taxed (terms : InvoiceTerms) : Prop :=
  0 ≤ terms.vatMinor ∧ terms.vatMinor ≤ terms.totalMinor

def MerchantInvoice.terms (inv : MerchantInvoice) : InvoiceTerms where
  totalMinor := inv.totalAmount.cents
  vatMinor := inv.vatAmount.cents

def CorporateInvoice.terms (inv : CorporateInvoice) : InvoiceTerms where
  totalMinor := inv.totalAmount.cents
  vatMinor := (inv.vatAmount.getD ⟨0⟩).cents

/-- The terms of a stored invoice. -/
def Books.terms (b : Books) (invoiceType : InvoiceType) (invoiceId : Nat) : Option InvoiceTerms :=
  match invoiceType with
  | .merchant_invoice => (b.merchantInvoices.find invoiceId).map MerchantInvoice.terms
  | .corporate_invoice => (b.corporateInvoices.find invoiceId).map CorporateInvoice.terms

def Books.refundVatMinor (b : Books) (invoiceType : InvoiceType) (invoiceId : Nat)
    (terms : InvoiceTerms) (amountMinor : Int) : Int :=
  vatComponentMinor terms.totalMinor terms.vatMinor (b.refundedMinor invoiceType invoiceId)
    (b.refundedVatMinor invoiceType invoiceId) amountMinor

/-- What an invoice keeps. -/
structure MerchantInvoice.Same (i i' : MerchantInvoice) : Prop where
  storeId : i'.storeId = i.storeId
  currency : i'.currency = i.currency
  totalAmount : i'.totalAmount = i.totalAmount
  vatAmount : i'.vatAmount = i.vatAmount

/-- What a fee invoice keeps; one that is paid stays paid. -/
structure CorporateInvoice.Same (i i' : CorporateInvoice) : Prop where
  currency : i'.currency = i.currency
  totalAmount : i'.totalAmount = i.totalAmount
  vatAmount : i'.vatAmount = i.vatAmount
  platformFeeAmount : i'.platformFeeAmount = i.platformFeeAmount
  paid : i.status = .paid → i'.status = .paid

/-- A write of the payment columns of an invoice: it leaves them alone, or the invoice becomes paid. -/
def Redated (status : InvoiceStatus) (paidAt : Option Time) (status' : InvoiceStatus)
    (paidAt' : Option Time) : Prop :=
  status' = status ∧ paidAt' = paidAt ∨ status = .issued ∧ status' = .paid ∧ paidAt' ≠ none

/-! ### Row updates -/

/-- An item a refund took an amount off. -/
def reduceRow (newCents : Int) (i : SettlementItem) : SettlementItem :=
  { i with amount := ⟨newCents⟩ }

@[simp] theorem reduceRow_id (newCents : Int) (i : SettlementItem) :
    (reduceRow newCents i).id = i.id := rfl

@[simp] theorem bindRow_id (batchId : Nat) (i : SettlementItem) : (bindRow batchId i).id = i.id :=
  rfl

@[simp] theorem stageRow_id (batchId : Nat) (r : SettlementReceivable) :
    (stageRow batchId r).id = r.id := rfl

/-! ### Preconditions -/

/-- The events whose postings stand for stored rows. -/
def TRACKED_EVENTS : List FinancialEvent := .QIFT_REVENUE_RECOGNIZED :: SAFEGUARDING_EVENTS

/-- The key of a posting is a key of its event. -/
def Keyed (input : RecordLedgerInput) : Prop :=
  ∀ k, input.idempotencyKey = some k → k.event = input.eventType

theorem keyed_of_key {input : RecordLedgerInput} {anchor : Anchor}
    (h : input.idempotencyKey = some (ledgerIdempotencyKey input.eventType anchor)) : Keyed input := by
  intro k hk
  rw [← Option.some.inj (h.symm.trans hk)]
  rfl

/-- A posting outside these lanes: another event, or a consumer order's payable. -/
def Neutral (bound : Nat) (input : RecordLedgerInput) : Prop :=
  Keyed input ∧ (input.eventType ∉ TRACKED_EVENTS ∨
    input.eventType = .MERCHANT_PAYABLE_ACCRUED ∧ input.orderId ≠ none ∧
      ∃ n < bound, input.idempotencyKey =
        some (ledgerIdempotencyKey .MERCHANT_PAYABLE_ACCRUED (.id n)))

/-- A batch about to be stored over eligible items and open receivables. -/
structure Assembles (b : Books) (batch : SettlementBatch) : Prop where
  fresh : batch.id = b.nextId
  ready : batch.status = .ready
  unclosed : batch.closureType = none
  frozen : WellFrozen batch
  nodup : (memberIds batch).Nodup
  members : ∀ c ∈ batch.composition, ∃ i, b.items.find c.itemId = some i ∧ i.state = .eligible ∧
    i.batchId = none ∧ c.amount = moneyToNumber i.amount ∧ i.storeId = batch.storeId ∧
    i.currency = batch.currency
  allocations : (batch.recoveryAllocation.map RecoveryAllocation.receivableId).Nodup
  allocated : ∀ alloc ∈ batch.recoveryAllocation, ∃ r take,
    b.receivables.find alloc.receivableId = some r ∧
      alloc = allocationOf batch.currency (r, take) ∧ 0 < take ∧
      take ≤ SettlementReceivable.balanceMinor r ∧ r.storeId = batch.storeId ∧
      r.currency = batch.currency ∧ r.stagedBySettlementId = none

/-- A stored batch whose items and receivables are all in place for its closing. -/
structure Closable (b : Books) (batch : SettlementBatch) : Prop where
  stored : b.batches.find batch.id = some batch
  ready : batch.status = .ready
  unclosed : batch.closureType = none
  members : ∀ i ∈ memberIds batch, ∃ item, b.items.find i = some item ∧
    item.batchId = some batch.id ∧ item.state = .ready
  allocations : (batch.recoveryAllocation.map RecoveryAllocation.receivableId).Nodup
  allocated : ∀ alloc ∈ batch.recoveryAllocation, ∃ r,
    b.receivables.find alloc.receivableId = some r ∧ r.stagedBySettlementId = some batch.id ∧
      moneyToNumber r.amountRecovered = alloc.amountRecoveredAtPlan

/-- The books after a closing, whose postings led to a ledger; the remittance is not among it. -/
def Books.close (b : Books) (batch : SettlementBatch) (closureType : ClosureType)
    (closedAt consumedAt : Time) (ledger : Ledger) (n : Nat) : Books :=
  { b with
    batches := b.batches.updateMany (fun r => r.id = batch.id ∧ r.status = .ready)
      (closeRow closureType closedAt) (closeRow_id _ _)
    items := b.items.updateMany
      (fun i => i.id ∈ memberIds batch ∧ i.batchId = some batch.id ∧ i.state = .ready)
      (fun i => { i with state := .settled }) settled_id
    receivables := b.receivables.rewriteEach batch.recoveryAllocation
      RecoveryAllocation.receivableId (consumeRow batch.id consumedAt)
      (consumed_id batch consumedAt)
    ledger := ledger
    nextId := n }

section Close

variable (b : Books) (batch : SettlementBatch) (closureType : ClosureType)
  (closedAt consumedAt : Time) (ledger : Ledger) (n : Nat)

theorem Books.close_batches :
    (b.close batch closureType closedAt consumedAt ledger n).batches =
      b.batches.updateMany (fun r => r.id = batch.id ∧ r.status = .ready)
        (closeRow closureType closedAt) (closeRow_id _ _) := rfl

theorem Books.close_items :
    (b.close batch closureType closedAt consumedAt ledger n).items =
      b.items.updateMany
        (fun i => i.id ∈ memberIds batch ∧ i.batchId = some batch.id ∧ i.state = .ready)
        (fun i => { i with state := .settled }) fun _ => rfl := rfl

end Close

def StatementBasis (b : Books) (batch : SettlementBatch) (remittance : Option RemittanceEvidence)
    (closure : Option ZeroNetClosureFacts) : Prop :=
  (∃ r, b.remittances.find batch.id = some r ∧ remittance = some (remittanceEvidence r) ∧
      closure = none) ∨
    ∃ t, batch.closureType = some .zero_net_no_transfer ∧ batch.closedAt = some t ∧
      remittance = none ∧ closure = some (closureFacts t)

/-- A receipt about to be stored on a goods invoice it does not overpay. -/
structure Receives (b : Books) (draft : ReceiptDraft) (inv : MerchantInvoice) : Prop where
  stored : b.merchantInvoices.find inv.id = some inv
  lane : draft.invoiceType = .merchant_invoice
  positive : 0 < draft.amountMinor
  bounded : b.receivedMinor .merchant_invoice inv.id + draft.amountMinor ≤ inv.totalAmount.cents

/-- A receipt about to be stored on a fee invoice: its credits count as paid. -/
structure FeeReceives (b : Books) (draft : ReceiptDraft) (inv : CorporateInvoice) : Prop where
  stored : b.corporateInvoices.find inv.id = some inv
  lane : draft.invoiceType = .corporate_invoice
  positive : 0 < draft.amountMinor
  bounded : b.receivedMinor .corporate_invoice inv.id + draft.amountMinor ≤
    inv.totalAmount.cents - b.creditedMinor .corporate_invoice inv.id

/-- A refund recorded for a request is the one the request asks for. -/
def Ordered (b : Books) (origin : Option RefundOrigin) (invoiceType : InvoiceType) (invoiceId : Nat)
    (draft : RefundDraft) : Prop :=
  ∀ o, origin = some o → o.evidenceRef = draft.evidenceRef ∧
    ∃ r, b.refundRequests.find o.requestId = some r ∧ r.invoiceType = invoiceType ∧
      r.invoiceId = invoiceId ∧ r.amount.cents = draft.amountMinor

/-- No refund of an invoice names the evidence. -/
def Unused (b : Books) (invoiceType : InvoiceType) (invoiceId : Nat) (evidenceRef : String) : Prop :=
  ∀ r ∈ b.refunds.rows, r.invoiceType = invoiceType → r.invoiceId = invoiceId →
    r.evidenceRef ≠ evidenceRef

/-- A goods refund about to be stored on an invoice whose item a state condition allows. -/
structure Refunds (b : Books) (origin : Option RefundOrigin) (draft : RefundDraft)
    (inv : MerchantInvoice) (item : SettlementItem) : Prop where
  stored : b.merchantInvoices.find inv.id = some inv
  itemStored : b.items.find item.id = some item
  occurrence : item.occurrenceType = "merchant_invoice" ∧ item.occurrenceId = inv.id
  positive : 0 < draft.amountMinor
  bounded : b.refundedMinor .merchant_invoice inv.id + draft.amountMinor ≤
    b.receivedMinor .merchant_invoice inv.id
  unused : Unused b .merchant_invoice inv.id draft.evidenceRef
  ordered : Ordered b origin .merchant_invoice inv.id draft

/-- A fee refund about to be stored: a credit on an unpaid invoice, cash on a paid one. -/
structure FeeRefunds (b : Books) (origin : Option RefundOrigin) (draft : RefundDraft)
    (inv : CorporateInvoice) : Prop where
  stored : b.corporateInvoices.find inv.id = some inv
  positive : 0 < draft.amountMinor
  total : b.refundedMinor .corporate_invoice inv.id + draft.amountMinor ≤ inv.totalAmount.cents
  cash : inv.status = .paid → b.reversedMinor inv.id + draft.amountMinor ≤
    b.receivedMinor .corporate_invoice inv.id
  credit : inv.status ≠ .paid → b.refundedMinor .corporate_invoice inv.id + draft.amountMinor ≤
    inv.totalAmount.cents - b.receivedMinor .corporate_invoice inv.id
  unused : Unused b .corporate_invoice inv.id draft.evidenceRef
  ordered : Ordered b origin .corporate_invoice inv.id draft

/-- A request about to be filed quotes a stored invoice. -/
structure Filed (b : Books) (row : RefundRequest) : Prop where
  fresh : row.id = b.nextId
  state : row.state = .requested
  unapproved : row.approvedBy = none
  unbound : row.refundId = none
  positive : 0 < row.amount.cents
  quoted : ∃ terms, b.terms row.invoiceType row.invoiceId = some terms ∧
    row.vatComponent.cents = quotedVatMinor terms.totalMinor terms.vatMinor row.amount.cents

section Authorized

variable [Runtime]

/-- What an execution rests on: an act of preview and the votes of distinct others, all on the frozen
calculation and not lapsed, as many and as senior as the magnitude of the day requires. -/
structure Authorized (b : Books) (batch : SettlementBatch) (g : Gate) : Prop where
  previewed : ∃ p ∈ b.previews.rows, p.settlementId = batch.id ∧
    p.calculationHash = calculationHash batch.calculationSnapshot ∧
    withinTtl g.checkedAt p.previewedAt = true
  approved : ∃ (votes : List SettlementApproval) (basis : Int),
    (votes.map SettlementApproval.approvedBy).Nodup ∧
    (∀ v ∈ votes, v ∈ b.approvals.rows ∧ v.settlementId = batch.id ∧
      v.calculationHash = calculationHash batch.calculationSnapshot ∧
      withinTtl g.checkedAt v.approvedAt = true ∧ v.approvedBy ≠ g.executor) ∧
    authorizationBasisMinor (SettlementBatch.frozen batch) = .ok basis ∧
    (requiredExecutionApproval basis g.aggregateMinor).approvalsNeeded ≤ votes.length ∧
    ((requiredExecutionApproval basis g.aggregateMinor).seniorRequired = true →
      ∃ v ∈ votes, v.approvedBy ∈ g.seniors)

/-- A closing that passed a gate is authorized by it. -/
def Gated (b : Books) (batch : SettlementBatch) (gate : Option Gate) : Prop :=
  ∀ g, gate = some g → Authorized b batch g

end Authorized

/-! ### Effects -/

section Effects

variable [Runtime]

/-- What one atomic action may do to the books. -/
inductive Effect : Site → Books → Books → Prop
  /-- Nothing; identifiers may have been drawn. -/
  | skip {l : Site} {b : Books} {n : Nat} (hn : b.nextId ≤ n) : Effect l b { b with nextId := n }
  | posting {l : Site} {b : Books} {input : RecordLedgerInput} {ledger : Ledger} {n : Nat}
      (hneutral : Neutral b.nextId input) (hposts : Posts input b.ledger ledger)
      (hn : b.nextId ≤ n) : Effect l b { b with ledger := ledger, nextId := n }
  | invoice {b : Books} {inv : MerchantInvoice} {invoices : Table MerchantInvoice.id} {n : Nat}
      (hid : inv.id = b.nextId) (hissued : inv.status = .issued ∧ inv.paidAt = none)
      (htaxed : inv.terms.Taxed)
      (hcreate : b.merchantInvoices.create inv = some invoices) (hn : b.nextId < n) :
      Effect .environment b { b with merchantInvoices := invoices, nextId := n }
  /-- The status, the payment date or the legal number of invoices; only a covered one becomes paid, and only
  one that is paid has a payment date. -/
  | invoiceUpdate {l : Site} {b : Books} {invoices : Table MerchantInvoice.id}
      {g : MerchantInvoice → MerchantInvoice}
      (hrows : invoices.rows = b.merchantInvoices.rows.map g)
      (hkeep : ∀ i, (g i).id = i.id ∧ MerchantInvoice.Same i (g i))
      (hdated : ∀ i, Redated i.status i.paidAt (g i).status (g i).paidAt)
      (hpaid : ∀ i ∈ b.merchantInvoices.rows, (g i).status = .paid → i.status = .paid ∨ b.Covered i) :
      Effect l b { b with merchantInvoices := invoices }
  | corporateInvoice {b : Books} {inv : CorporateInvoice}
      {invoices : Table CorporateInvoice.id} {n : Nat} (hid : inv.id = b.nextId)
      (hissued : inv.status = .issued ∧ inv.paidAt = none) (htaxed : inv.terms.Taxed)
      (hfee : inv.platformFeeAmount.cents + inv.terms.vatMinor = inv.totalAmount.cents)
      (hcreate : b.corporateInvoices.create inv = some invoices) (hn : b.nextId < n) :
      Effect .environment b { b with corporateInvoices := invoices, nextId := n }
  /-- The status or the balance status of fee invoices. -/
  | corporateUpdate {l : Site} {b : Books} {invoices : Table CorporateInvoice.id}
      {g : CorporateInvoice → CorporateInvoice}
      (hrows : invoices.rows = b.corporateInvoices.rows.map g)
      (hkeep : ∀ i, (g i).id = i.id ∧ CorporateInvoice.Same i (g i))
      (hdated : ∀ i, Redated i.status i.paidAt (g i).status (g i).paidAt)
      (hpaid : ∀ i ∈ b.corporateInvoices.rows, (g i).status = .paid →
        i.status = .paid ∨ b.FeeCovered i) :
      Effect l b { b with corporateInvoices := invoices }
  | goodsReceipt {b : Books} {draft : ReceiptDraft} {inv : MerchantInvoice}
      {receipts : Table PaymentReceipt.id} {l l' : Ledger} {n : Nat}
      (hreceives : Receives b draft inv)
      (hcreate : b.receipts.create (receiptRow draft (merchantFacts inv) b.nextId) = some receipts)
      (hpayment : Posts (paymentPosting draft (merchantFacts inv) b.nextId) b.ledger l)
      (hpayable : Posts (payablePosting draft (merchantFacts inv) b.nextId) l l')
      (hn : b.nextId < n) :
      Effect .receipt b { b with receipts := receipts, ledger := l', nextId := n }
  | feeReceipt {b : Books} {draft : ReceiptDraft} {inv : CorporateInvoice}
      {receipts : Table PaymentReceipt.id} {l : Ledger} {n : Nat}
      (hreceives : FeeReceives b draft inv)
      (hcreate : b.receipts.create (receiptRow draft (corporateFacts inv) b.nextId) = some receipts)
      (hpayment : Posts (paymentPosting draft (corporateFacts inv) b.nextId) b.ledger l)
      (hn : b.nextId < n) :
      Effect .receipt b { b with receipts := receipts, ledger := l, nextId := n }
  /-- The revenue of a paid fee invoice: its fee less the net of its credits. -/
  | revenue {b : Books} {inv : CorporateInvoice} {facts : InvoiceFacts} {ledger : Ledger} {n : Nat}
      (hstored : b.corporateInvoices.find inv.id = some inv) (hpaid : inv.status = .paid)
      (hfacts : facts.id = inv.id)
      (hposts : Posts (revenuePosting facts (fromMinor
        (max 0 (inv.platformFeeAmount.cents - b.creditedNetMinor inv.id)) .SAR)) b.ledger ledger)
      (hn : b.nextId ≤ n) : Effect .revenue b { b with ledger := ledger, nextId := n }
  | item {b : Books} {inv : MerchantInvoice} {createdAt : Time} {items : Table SettlementItem.id}
      {n : Nat} (hstored : b.merchantInvoices.find inv.id = some inv) (hcurrency : inv.currency = .SAR)
      (hcovered : b.Covered inv) (hfresh : ¬ b.HasItem inv.id)
      (hcreate : b.items.create (itemRow (merchantFacts inv) inv.storeId createdAt b.nextId) =
        some items) (hn : b.nextId < n) :
      Effect .settlementItem b { b with items := items, nextId := n }
  | eligible {b : Books} {itemId : Nat} :
      Effect .eligible b { b with
        items := b.items.updateMany
          (fun i => i.id = itemId ∧ i.state = .pending ∧ i.batchId = none)
          (fun i => { i with state := .eligible }) fun _ => rfl }
  | assemble {b : Books} {batch : SettlementBatch} {batches : Table SettlementBatch.id}
      {ledger : Ledger} {n : Nat} (hassembles : Assembles b batch)
      (hcreate : b.batches.create batch = some batches)
      (hposts : Posts (marker .SETTLEMENT_STARTED "SETTLEMENT_STARTED" batch.currency
        batch.storeId batch.id { settlementReference := some batch.settlementReference })
        b.ledger ledger) (hn : b.nextId < n) :
      Effect .assemble b { b with
        batches := batches
        items := b.items.updateMany (fun i => decide (i.id ∈ memberIds batch))
          (bindRow batch.id) (bindRow_id _)
        receivables := b.receivables.updateMany
          (fun r => decide (r.id ∈ batch.recoveryAllocation.map RecoveryAllocation.receivableId))
          (stageRow batch.id) (stageRow_id _)
        ledger := ledger
        nextId := n }
  /-- A write of the failure lane; it looks at no status. -/
  | statusWrite {b : Books} {batchId : Nat} {readStatus target : BatchState}
      {failureEvidence : Option String} (hlegal : target ∈ BATCH_TRANSITIONS readStatus)
      (htarget : target = .failed ∨ target = .ready ∨ target = .held) :
      Effect (.statusWrite batchId readStatus target) b { b with
        batches := b.batches.updateMany (fun r => r.id = batchId)
          (fun r =>
            { r with status := target, failureEvidence := failureEvidence.or r.failureEvidence })
          fun _ => rfl }
  | supersede {b : Books} {batch : SettlementBatch} {cause : String} {disposition : ItemState}
      {affectedItemIds : List Nat} {hold : Option SupersedeHold} {ledger : Ledger} {n : Nat}
      (hstored : b.batches.find batch.id = some batch)
      (hcause : SUPERSEDE_ITEM_DISPOSITION cause = some disposition)
      (hlegal : ∀ i ∈ b.items.rows, i.batchId = some batch.id →
        supersededState disposition affectedItemIds i.id ∈ ITEM_TRANSITIONS i.state)
      (hposts : Posts (marker .SETTLEMENT_SUPERSEDED "SETTLEMENT_SUPERSEDED" batch.currency
        batch.storeId batch.id { settlementReference := some batch.settlementReference })
        b.ledger ledger) (hn : b.nextId ≤ n) :
      Effect (.supersede batch.id cause affectedItemIds) b { b with
        batches := b.batches.updateMany (fun r => r.id = batch.id)
          (fun r => { r with status := .superseded }) fun _ => rfl
        items := b.items.updateMany (fun i => i.batchId = some batch.id)
          (unbindRow disposition affectedItemIds hold) (unbindRow_id _ _ _)
        receivables := b.receivables.updateMany
          (fun r => r.stagedBySettlementId = some batch.id) releaseRow releaseRow_id
        ledger := ledger
        nextId := n }
  | link {b : Books} {p : SettlementBatch → Bool} {successorId : Nat} :
      Effect .linkSuccessor b { b with
        batches := b.batches.updateMany p
          (fun r => { r with supersededById := some successorId }) fun _ => rfl }
  | markSettled {b : Books} {batch : SettlementBatch} {evidence : RemittanceInput} {closedAt : Time}
      {remittances : Table SettlementRemittance.settlementId} {ledger : Ledger}
      {markerMetadata : LedgerMetadata} {gate : Option Gate} {n : Nat}
      (hclosable : Closable b batch) (hgated : Gated b batch gate)
      (hcreate : b.remittances.create (remittanceRow batch evidence closedAt b.nextId) =
        some remittances)
      (hposts : PostsAll (closingPostings batch {} markerMetadata) b.ledger ledger)
      (hn : b.nextId < n) :
      Effect (.markSettled batch.id gate) b
        { b.close batch .remitted closedAt evidence.executedAt ledger n with
          remittances := remittances }
  | markSettledZeroNet {b : Books} {batch : SettlementBatch} {closedAt : Time} {ledger : Ledger}
      {markerMetadata : LedgerMetadata} {gate : Option Gate} {n : Nat}
      (hclosable : Closable b batch) (hgated : Gated b batch gate)
      (hzero : batch.netAmount.cents = 0)
      (hposts : PostsAll (closingPostings batch (zeroNetMetadata closedAt) markerMetadata)
        b.ledger ledger) (hn : b.nextId ≤ n) :
      Effect (.markSettledZeroNet batch.id gate) b
        (b.close batch .zero_net_no_transfer closedAt closedAt ledger n)
  /-- A goods refund before settlement. -/
  | reduce {b : Books} {origin : Option RefundOrigin} {draft : RefundDraft} {inv : MerchantInvoice}
      {item : SettlementItem} {refunds : Table SettlementRefund.id} {ledger : Ledger} {n : Nat}
      (hrefunds : Refunds b origin draft inv item)
      (hstate : item.state = .pending ∨ item.state = .eligible ∨ item.state = .held)
      (hunbound : item.batchId = none) (hamount : draft.amountMinor ≤ item.amount.cents)
      (hcreate : b.refunds.create (refundRow draft inv (fromMinor (b.refundVatMinor
        .merchant_invoice inv.id inv.terms draft.amountMinor) .SAR) .item_reduced b.nextId) =
          some refunds)
      (hposts : Posts (goodsRefundPosting draft inv b.nextId .item_reduced) b.ledger ledger)
      (hn : b.nextId < n) :
      Effect (.refund origin) b { b with
        items := b.items.updateMany (fun i => i.id = item.id)
          (reduceRow (item.amount.cents - draft.amountMinor)) (reduceRow_id _)
        refunds := refunds
        ledger := ledger
        nextId := n }
  /-- A goods refund after settlement. -/
  | accrue {b : Books} {origin : Option RefundOrigin} {draft : RefundDraft} {inv : MerchantInvoice}
      {item : SettlementItem} {refunds : Table SettlementRefund.id}
      {receivables : Table SettlementReceivable.id} {accruedAt : Time} {reversed : Bool}
      {ledger : Ledger} {id n : Nat} (hrefunds : Refunds b origin draft inv item)
      (hstate : item.state = .settled ∨ item.state = .reversed)
      (hreversed : reversed = true ↔ item.state = .settled ∧
        item.amount.cents ≤ b.accruedMinor inv.id + draft.amountMinor)
      (hcreate : b.refunds.create (refundRow draft inv (fromMinor (b.refundVatMinor
        .merchant_invoice inv.id inv.terms draft.amountMinor) .SAR) .receivable_accrued b.nextId) =
          some refunds)
      (haccrue : b.receivables.create (receivableRow draft inv b.nextId accruedAt id) =
        some receivables)
      (hposts : PostsAll [goodsRefundPosting draft inv b.nextId .receivable_accrued,
        receivablePosting draft inv b.nextId] b.ledger ledger)
      (hid : b.nextId < id) (hn : id < n) :
      Effect (.refund origin) b { b with
        items := b.items.updateMany (fun i => reversed && decide (i.id = item.id ∧ i.state = .settled))
          (fun i => { i with state := .reversed }) fun _ => rfl
        refunds := refunds
        receivables := receivables
        ledger := ledger
        nextId := n }
  | feeRefund {b : Books} {origin : Option RefundOrigin} {draft : RefundDraft}
      {inv : CorporateInvoice} {refunds : Table SettlementRefund.id} {ledger : Ledger} {n : Nat}
      (hrefunds : FeeRefunds b origin draft inv)
      (hcreate : b.refunds.create (feeRefundRow draft inv (fromMinor (b.refundVatMinor
        .corporate_invoice inv.id inv.terms draft.amountMinor) .SAR) (feeInteraction inv) b.nextId) =
          some refunds)
      (hposts : PostsAll (feePostings draft inv b.nextId (b.refundVatMinor .corporate_invoice inv.id
        inv.terms draft.amountMinor)) b.ledger ledger) (hn : b.nextId < n) :
      Effect (.feeRefund origin) b { b with refunds := refunds, ledger := ledger, nextId := n }
  | request {b : Books} {row : RefundRequest} {requests : Table RefundRequest.id} {n : Nat}
      (hfiled : Filed b row) (hcreate : b.refundRequests.create row = some requests)
      (hn : b.nextId < n) :
      Effect .requestRefund b { b with refundRequests := requests, nextId := n }
  | requestUpdate {l : Site} {b : Books} {requests : Table RefundRequest.id}
      {g : RefundRequest → RefundRequest}
      (hrows : requests.rows = b.refundRequests.rows.map g)
      (hmove : ∀ r ∈ b.refundRequests.rows, RequestMove b.refunds b.refundRequests l r (g r)) :
      Effect l b { b with refundRequests := requests }
  | preview {b : Books} {row : SettlementExecutionPreview}
      {previews : Table SettlementExecutionPreview.id} {n : Nat}
      (hcreate : b.previews.create row = some previews) (hn : b.nextId ≤ n) :
      Effect .preview b { b with previews := previews, nextId := n }
  /-- A vote on the frozen calculation of a batch, by somebody else than its proposer. -/
  | approve {b : Books} {batch : SettlementBatch} {row : SettlementApproval}
      {approvals : Table SettlementApproval.id} {n : Nat}
      (hstored : b.batches.find batch.id = some batch) (hbatch : row.settlementId = batch.id)
      (hhash : row.calculationHash = calculationHash batch.calculationSnapshot)
      (hproposer : batch.assembledBy ≠ some row.approvedBy)
      (hcreate : b.approvals.create row = some approvals) (hn : b.nextId ≤ n) :
      Effect .approve b { b with approvals := approvals, nextId := n }
  | remittancePaid {b : Books} {frozen : FrozenBatchRecord} {remittance : SettlementRemittance}
      {ledger : Ledger} {n : Nat}
      (hstored : b.remittances.find remittance.settlementId = some remittance)
      (hstore : frozen.storeId = remittance.storeId)
      (hcurrency : frozen.currency = remittance.currency)
      (hposts : Posts (remittancePosting frozen remittance) b.ledger ledger) (hn : b.nextId ≤ n) :
      Effect .remittancePaid b { b with ledger := ledger, nextId := n }
  | statement {b : Books} {batch : SettlementBatch} {statement : SettlementStatement}
      {issuedAt : Time} {remittance : Option RemittanceEvidence}
      {closure : Option ZeroNetClosureFacts}
      {statements : Table SettlementStatementRecord.settlementId} {n : Nat}
      (hstored : b.batches.find batch.id = some batch)
      (hbasis : StatementBasis b batch remittance closure)
      (hgenerated : generateSettlementStatement (SettlementBatch.frozen batch) (toISOString issuedAt)
        remittance closure = .ok statement)
      (hcreate : b.statements.create
        (statementRow (SettlementBatch.frozen batch) statement issuedAt b.nextId) = some statements)
      (hn : b.nextId < n) :
      Effect .statement b { b with statements := statements, nextId := n }
  | replay {b : Books} {row : SettlementReplayRecord}
      {replays : Table SettlementReplayRecord.id} {n : Nat} (hid : row.id = b.nextId)
      (hcreate : b.replays.create row = some replays) (hn : b.nextId < n) :
      Effect .replay b { b with replays := replays, nextId := n }
  | transfer {b : Books} {draft : TransferDraft} {due : InternalTransferDue}
      {transfers : Table TreasuryInternalTransfer.bankReference} {ledger : Ledger} {n : Nat}
      (hcompleted : draft.status = .completed)
      (hdue : due.dueMinor = b.zeroNetDueMinor draft.settlementId)
      (hdigits : due.currency.minorDigits = 2)
      (hclosed : ∃ row ∈ b.ledger.rows, zeroNetSettlement row = some draft.settlementId ∧
        row.currency = due.currency)
      (hfirst : ∀ t ∈ b.internalTransfers.rows, t.settlementId = draft.settlementId →
        t.status ≠ .completed)
      (hcreate : b.internalTransfers.create (transferRow draft due
        (fromMinor due.dueMinor due.currency) b.nextId) = some transfers)
      (hposts : Posts (transferPosting draft due due.dueMinor) b.ledger ledger)
      (hn : b.nextId < n) :
      Effect (.internalTransfer draft.settlementId draft.valueDate .completed) b
        { b with internalTransfers := transfers, ledger := ledger, nextId := n }
  /-- The evidence of a transfer that failed. -/
  | failedTransfer {b : Books} {row : TreasuryInternalTransfer} {valueDate : Time}
      {transfers : Table TreasuryInternalTransfer.bankReference} {n : Nat}
      (hfailed : row.status = .failed)
      (hcreate : b.internalTransfers.create row = some transfers) (hn : b.nextId < n) :
      Effect (.internalTransfer row.settlementId valueDate .failed) b
        { b with internalTransfers := transfers, nextId := n }

end Effects

end Qift
