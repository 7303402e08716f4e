import Qift.Later

/-!
# Where postings come from

Every row of the tracked lanes of the ledger stands for a stored row, and every stored row has its postings.

* `Origin` — the receipt, remittance, refund, recovery, transfer or invoice a ledger row was posted for, with
  the columns the two share.
* `Posted` — the postings of every stored receipt, refund, closed batch and completed transfer are in the
  ledger.
* **`Postings.effect`** — every effect keeps both, and no key is posted twice.
-/

namespace Qift

open Relational Relational.Table Interleaving Settlement Financial Treasury

/-- The columns of a ledger row posted under an anchor of its event. -/
structure Row (event : FinancialEvent) (anchor : Anchor) (amount : Decimal) (currency : CurrencyCode)
    (storeId : Option Nat) (e : FinancialLedgerEntry) : Prop where
  eventType : e.eventType = event
  key : e.idempotencyKey = some (ledgerIdempotencyKey event anchor)
  amount : e.amount = amount
  currency : e.currency = currency
  storeId : e.storeId = storeId

/-- The account the cash of a refund leaves. -/
def cashAccount : SettlementInteraction → String
  | .item_reduced => "safeguarding"
  | _ => "operating"

/-- A recovery posting tells how its batch was closed. -/
def TellsClosing (batch : SettlementBatch) (e : FinancialLedgerEntry) : Prop :=
  batch.closureType = some .zero_net_no_transfer ∧
      e.metadata.closureType = some .zero_net_no_transfer ∧ e.metadata.closedAt = batch.closedAt ∨
    batch.closureType = some .remitted ∧ e.metadata.closureType = none

/-- The stored row a ledger row was posted for. -/
inductive Origin (b : Books) (e : FinancialLedgerEntry) : Prop
  | other (hevent : e.eventType ∉ TRACKED_EVENTS)
  | consumer (hevent : e.eventType = .MERCHANT_PAYABLE_ACCRUED) (horder : e.orderId ≠ none)
      (hkey : ∃ n < b.nextId, e.idempotencyKey =
        some (ledgerIdempotencyKey .MERCHANT_PAYABLE_ACCRUED (.id n)))
  | payment {r : PaymentReceipt} (hr : r ∈ b.receipts.rows)
      (hrow : Row .INVOICE_PAYMENT_RECEIVED (.id r.id) r.amount .SAR r.storeId e)
      (haccount : e.metadata.account = some (receiptAccount r.invoiceType))
  | payable {r : PaymentReceipt} (hr : r ∈ b.receipts.rows) (hlane : r.invoiceType = .merchant_invoice)
      (hrow : Row .MERCHANT_PAYABLE_ACCRUED (.id r.id) r.amount .SAR r.storeId e)
      (horder : e.orderId = none)
  | remittance {r : SettlementRemittance} (hr : r ∈ b.remittances.rows)
      (hrow : Row .MERCHANT_REMITTANCE_PAID (.id r.id) r.amount r.currency (some r.storeId) e)
  | refund {r : SettlementRefund} (hr : r ∈ b.refunds.rows)
      (hcash : r.settlementInteraction ≠ .invoice_reduced)
      (hrow : Row .REFUND_PAID (.id r.id) r.amount .SAR r.storeId e)
      (haccount : e.metadata.account = some (cashAccount r.settlementInteraction))
  | recovery {batch : SettlementBatch} {alloc : RecoveryAllocation} (hbatch : batch ∈ b.batches.rows)
      (hclosing : TellsClosing batch e) (halloc : alloc ∈ batch.recoveryAllocation)
      (hrow : Row .MERCHANT_RECEIVABLE_RECOVERED (.pair alloc.receivableId batch.id)
        (Decimal.ofNumber alloc.amount) batch.currency (some batch.storeId) e)
  | transfer {t : TreasuryInternalTransfer} (ht : t ∈ b.internalTransfers.rows)
      (hcompleted : t.status = .completed)
      (hrow : Row .INTERNAL_TRANSFER_COMPLETED (.id t.settlementId) t.confirmedAmount t.currency none e)
      (hdate : e.metadata.valueDate = some t.valueDate)
  | revenue {inv : CorporateInvoice} (hinv : inv ∈ b.corporateInvoices.rows) (hpaid : inv.status = .paid)
      (hrow : Row .QIFT_REVENUE_RECOGNIZED (.id inv.id)
        ⟨max 0 (inv.platformFeeAmount.cents - b.creditedNetMinor inv.id)⟩ .SAR none e)
      (hdirection : e.direction = .credit)
  | reversal {r : SettlementRefund} (hr : r ∈ b.refunds.rows) (hlane : r.invoiceType = .corporate_invoice)
      (hreversed : r.settlementInteraction = .revenue_reversed)
      (hrow : Row .QIFT_REVENUE_RECOGNIZED (.reversal r.invoiceId r.id)
        ⟨r.amount.cents - r.vatComponent.cents⟩ .SAR none e)
      (hdirection : e.direction = .debit)

/-- A posting is in the ledger. -/
def InLedger (b : Books) (eventType : FinancialEvent) (anchor : Anchor) : Prop :=
  ∃ e ∈ b.ledger.rows, e.idempotencyKey = some (ledgerIdempotencyKey eventType anchor)

structure Posted (b : Books) : Prop where
  payment : ∀ r ∈ b.receipts.rows, InLedger b .INVOICE_PAYMENT_RECEIVED (.id r.id)
  payable : ∀ r ∈ b.receipts.rows, r.invoiceType = .merchant_invoice →
    InLedger b .MERCHANT_PAYABLE_ACCRUED (.id r.id)
  refund : ∀ r ∈ b.refunds.rows, r.settlementInteraction ≠ .invoice_reduced →
    InLedger b .REFUND_PAID (.id r.id)
  recovery : ∀ batch ∈ b.batches.rows, batch.closureType ≠ none → ∀ alloc ∈ batch.recoveryAllocation,
    InLedger b .MERCHANT_RECEIVABLE_RECOVERED (.pair alloc.receivableId batch.id)
  transfer : ∀ t ∈ b.internalTransfers.rows, t.status = .completed →
    InLedger b .INTERNAL_TRANSFER_COMPLETED (.id t.settlementId)

structure Postings (b : Books) : Prop where
  keyed : ∀ e ∈ b.ledger.rows, ∀ k, e.idempotencyKey = some k → k.event = e.eventType
  unique : ∀ e ∈ b.ledger.rows, ∀ e' ∈ b.ledger.rows, e.idempotencyKey = e'.idempotencyKey →
    e.idempotencyKey ≠ none → e = e'
  origin : ∀ e ∈ b.ledger.rows, Origin b e
  posted : Posted b
  once : ∀ t ∈ b.internalTransfers.rows, ∀ t' ∈ b.internalTransfers.rows,
    t.status = .completed → t'.status = .completed → t.settlementId = t'.settlementId → t = t'
  remittanceIds : ∀ r ∈ b.remittances.rows, r.id < b.nextId

theorem postings_empty : Postings World.empty.db.books where
  keyed := by simp [Db.books, World.empty]
  unique := by simp [Db.books, World.empty]
  origin := by simp [Db.books, World.empty]
  posted := by constructor <;> simp [Db.books, World.empty]
  once := by simp [Db.books, World.empty]
  remittanceIds := by simp [Db.books, World.empty]

/-! ### Later states -/

theorem TellsClosing.same {batch row : SettlementBatch} {e : FinancialLedgerEntry}
    (h : TellsClosing batch e) (hsame : SettlementBatch.Same batch row) : TellsClosing row e := by
  rcases h with ⟨htype, hmeta, hat⟩ | ⟨htype, hmeta⟩
  · obtain ⟨htype', hat'⟩ := hsame.closure (by rw [htype]; nofun)
    exact Or.inl ⟨htype'.trans htype, hmeta, hat.trans hat'.symm⟩
  · obtain ⟨htype', -⟩ := hsame.closure (by rw [htype]; nofun)
    exact Or.inr ⟨htype'.trans htype, hmeta⟩

theorem Origin.later {b b' : Books} {e : FinancialLedgerEntry} (h : Origin b e) (hlater : Later b b') :
    Origin b' e := by
  cases h with
  | other hevent => exact .other hevent
  | consumer hevent horder hkey =>
      obtain ⟨n, hn, hkey⟩ := hkey
      exact .consumer hevent horder ⟨n, lt_of_lt_of_le hn hlater.nextId, hkey⟩
  | payment hr hrow haccount => exact .payment (hlater.receipts _ hr) hrow haccount
  | payable hr hlane hrow horder => exact .payable (hlater.receipts _ hr) hlane hrow horder
  | remittance hr hrow => exact .remittance (hlater.remittances.keep hr) hrow
  | refund hr hcash hrow haccount => exact .refund (hlater.refunds.keep hr) hcash hrow haccount
  | @recovery batch alloc hbatch hclosing halloc hrow =>
      obtain ⟨row, hstored, hsame⟩ := hlater.batches _ _ (find_of_mem hbatch)
      refine .recovery (mem_of_find hstored) (hclosing.same hsame) (hsame.recoveryAllocation ▸ halloc) ?_
      rw [hsame.id, hsame.currency, hsame.storeId]
      exact hrow
  | transfer ht hcompleted hrow hdate =>
      exact .transfer (hlater.internalTransfers.keep ht) hcompleted hrow hdate
  | @revenue inv hinv hpaid hrow hdirection =>
      obtain ⟨inv', hstored, hsame⟩ := hlater.feeInvoices _ _ (find_of_mem hinv)
      have hid : inv'.id = inv.id := key_of_find hstored
      refine .revenue (mem_of_find hstored) (hsame.paid hpaid) ?_ hdirection
      rw [hid, hsame.platformFeeAmount, hlater.credited inv hinv hpaid]
      exact hrow
  | reversal hr hlane hreversed hrow hdirection =>
      exact .reversal (hlater.refunds.keep hr) hlane hreversed hrow hdirection

theorem InLedger.later {b b' : Books} {eventType : FinancialEvent} {anchor : Anchor}
    (h : InLedger b eventType anchor) (hlater : Later b b') : InLedger b' eventType anchor := by
  obtain ⟨e, he, hkey⟩ := h
  exact ⟨e, hlater.ledger e he, hkey⟩

/-- No batch was closed in between. -/
def NoneClosed (b b' : Books) : Prop :=
  ∀ r' ∈ b'.batches.rows, r'.closureType ≠ none → ∃ r ∈ b.batches.rows, r.closureType ≠ none ∧
    r.id = r'.id ∧ r.recoveryAllocation = r'.recoveryAllocation

theorem NoneClosed.of_eq {b b' : Books} (h : b'.batches = b.batches) : NoneClosed b b' :=
  fun r' hr' hc => ⟨r', h ▸ hr', hc, rfl, rfl⟩

theorem NoneClosed.updateMany {b b' : Books} {p : SettlementBatch → Bool}
    {f : SettlementBatch → SettlementBatch}
    (hrows : b'.batches.rows = b.batches.rows.map fun r => if p r then f r else r)
    (hf : ∀ r, (f r).closureType = r.closureType ∧ (f r).id = r.id ∧
      (f r).recoveryAllocation = r.recoveryAllocation) : NoneClosed b b' := by
  intro r' hr' hc
  rw [hrows] at hr'
  obtain ⟨r, hr, rfl⟩ := List.mem_map.mp hr'
  refine ⟨r, hr, ?_⟩
  by_cases hp : p r = true
  · rw [if_pos hp] at hc ⊢
    exact ⟨(hf r).1 ▸ hc, (hf r).2.1.symm, (hf r).2.2.symm⟩
  · rw [if_neg hp] at hc ⊢
    exact ⟨hc, rfl, rfl⟩

theorem Posted.keep {b c : Books} (h : Posted b) (hlater : Later b c)
    (hreceipts : c.receipts = b.receipts) (hrefunds : c.refunds = b.refunds)
    (htransfers : c.internalTransfers = b.internalTransfers) (hbatches : NoneClosed b c) :
    Posted c where
  payment := fun r hr => (h.payment r (hreceipts ▸ hr)).later hlater
  payable := fun r hr hlane => (h.payable r (hreceipts ▸ hr) hlane).later hlater
  refund := fun r hr hcash => (h.refund r (hrefunds ▸ hr) hcash).later hlater
  recovery := fun r' hr' hc alloc halloc => by
    obtain ⟨r, hr, hclosed, hid, hallocs⟩ := hbatches r' hr' hc
    exact hid ▸ (h.recovery r hr hclosed alloc (hallocs ▸ halloc)).later hlater
  transfer := fun t ht hc => (h.transfer t (htransfers ▸ ht) hc).later hlater

/-! ### Postings on the ledger -/

theorem Financial.Posts.inLedger {input : RecordLedgerInput} {l l' : Ledger} (h : Posts input l l')
    {eventType : FinancialEvent} {anchor : Anchor}
    (hkey : input.idempotencyKey = some (ledgerIdempotencyKey eventType anchor)) :
    ∃ e ∈ l'.rows, e.idempotencyKey = some (ledgerIdempotencyKey eventType anchor) := by
  obtain ⟨e, he, heq⟩ := h.posted
  exact ⟨e, he, heq.trans hkey⟩

theorem Financial.PostsAll.inLedger {inputs : List RecordLedgerInput} {l l' : Ledger}
    (h : PostsAll inputs l l') {input : RecordLedgerInput} (hinput : input ∈ inputs)
    {eventType : FinancialEvent} {anchor : Anchor}
    (hkey : input.idempotencyKey = some (ledgerIdempotencyKey eventType anchor)) :
    ∃ e ∈ l'.rows, e.idempotencyKey = some (ledgerIdempotencyKey eventType anchor) := by
  induction h with
  | nil => cases hinput
  | cons hpost hrest ih =>
      rcases List.mem_cons.mp hinput with rfl | hinput
      · obtain ⟨e, he, heq⟩ := hpost.inLedger hkey
        exact ⟨e, hrest.keep he, heq⟩
      · exact ih hinput

theorem Financial.PostsAll.unique {inputs : List RecordLedgerInput} {l l' : Ledger}
    (h : PostsAll inputs l l')
    (hunique : ∀ e ∈ l.rows, ∀ e' ∈ l.rows, e.idempotencyKey = e'.idempotencyKey →
      e.idempotencyKey ≠ none → e = e') :
    ∀ e ∈ l'.rows, ∀ e' ∈ l'.rows, e.idempotencyKey = e'.idempotencyKey →
      e.idempotencyKey ≠ none → e = e' := by
  induction h with
  | nil => exact hunique
  | @cons input rest l l' l'' hpost _ ih =>
      refine ih ?_
      cases hpost with
      | existing => exact hunique
      | fresh hcreate hkey =>
          intro e he e' he' heq hne
          rcases (mem_create hcreate).mp he with hold | rfl
          · rcases (mem_create hcreate).mp he' with hold' | rfl
            · exact hunique e hold e' hold' heq hne
            · exact absurd heq (hkey e hold fun hnone => hne (heq.trans hnone))
          · rcases (mem_create hcreate).mp he' with hold' | rfl
            · exact absurd heq.symm (hkey e' hold' hne)
            · rfl

/-- A posting whose row has an origin. -/
def Sourced (b : Books) (input : RecordLedgerInput) : Prop :=
  Keyed input ∧ ∀ id createdAt, Origin b (input.row id createdAt)

theorem Postings.posts {b b' : Books} (h : Postings b) (hlater : Later b b')
    {inputs : List RecordLedgerInput} (hposts : PostsAll inputs b.ledger b'.ledger)
    (hsourced : ∀ input ∈ inputs, Sourced b' input) (hposted : Posted b')
    (honce : ∀ t ∈ b'.internalTransfers.rows, ∀ t' ∈ b'.internalTransfers.rows,
      t.status = .completed → t'.status = .completed → t.settlementId = t'.settlementId → t = t')
    (hids : ∀ r ∈ b'.remittances.rows, r.id < b'.nextId) : Postings b' where
  keyed := by
    intro e he k hk
    rcases hposts.mem he with hold | ⟨input, hinput, id, createdAt, rfl⟩
    · exact h.keyed e hold k hk
    · exact (hsourced input hinput).1 k hk
  unique := hposts.unique h.unique
  origin := by
    intro e he
    rcases hposts.mem he with hold | ⟨input, hinput, id, createdAt, rfl⟩
    · exact (h.origin e hold).later hlater
    · exact (hsourced input hinput).2 id createdAt
  posted := hposted
  once := honce
  remittanceIds := hids

theorem approved_untracked : FinancialEvent.REFUND_APPROVED ∉ TRACKED_EVENTS := by decide

theorem accrued_untracked : FinancialEvent.MERCHANT_RECEIVABLE_ACCRUED ∉ TRACKED_EVENTS := by decide

theorem sourced_marker {b : Books} {eventType : FinancialEvent} (h : eventType ∉ TRACKED_EVENTS)
    {reasonCode : String} {currency : CurrencyCode} {storeId batchId : Nat} {metadata : LedgerMetadata} :
    Sourced b (marker eventType reasonCode currency storeId batchId metadata) :=
  ⟨keyed_of_key rfl, fun _ _ => .other h⟩

theorem SettlementInteraction.account_goods {interaction : SettlementInteraction}
    (h : interaction = .item_reduced ∨ interaction = .receivable_accrued) :
    refundAccount interaction = cashAccount interaction := by
  rcases h with rfl | rfl <;> rfl

theorem sourced_goodsRefund {b : Books} {draft : RefundDraft} {inv : MerchantInvoice}
    {interaction : SettlementInteraction} {vatComponent : Number} {id : Nat}
    (h : interaction = .item_reduced ∨ interaction = .receivable_accrued)
    (hr : refundRow draft inv vatComponent interaction id ∈ b.refunds.rows) :
    Sourced b (goodsRefundPosting draft inv id interaction) := by
  refine ⟨keyed_of_key rfl, fun _ _ => .refund hr ?_ ⟨rfl, rfl, rfl, rfl, rfl⟩ ?_⟩
  · rcases h with rfl | rfl <;> nofun
  · exact congrArg some (SettlementInteraction.account_goods h)

theorem sourced_payment {b : Books} {draft : ReceiptDraft} {facts : InvoiceFacts} {id : Nat}
    (hr : receiptRow draft facts id ∈ b.receipts.rows) : Sourced b (paymentPosting draft facts id) :=
  ⟨keyed_of_key rfl, fun _ _ => .payment hr ⟨rfl, rfl, rfl, rfl, rfl⟩ rfl⟩

theorem sourced_payable {b : Books} {draft : ReceiptDraft} {facts : InvoiceFacts} {id : Nat}
    (hlane : draft.invoiceType = .merchant_invoice) (hr : receiptRow draft facts id ∈ b.receipts.rows) :
    Sourced b (payablePosting draft facts id) :=
  ⟨keyed_of_key rfl, fun _ _ => .payable hr hlane ⟨rfl, rfl, rfl, rfl, rfl⟩ rfl⟩

theorem sourced_recovery {b : Books} {batch row : SettlementBatch} {metadata : LedgerMetadata}
    {alloc : RecoveryAllocation} (hbatch : row ∈ b.batches.rows) (hsame : SettlementBatch.Same batch row)
    (halloc : alloc ∈ batch.recoveryAllocation)
    (hclosing : row.closureType = some .zero_net_no_transfer ∧
        metadata.closureType = some .zero_net_no_transfer ∧ metadata.closedAt = row.closedAt ∨
      row.closureType = some .remitted ∧ metadata.closureType = none) :
    Sourced b (recoveryPosting batch metadata alloc) := by
  refine ⟨keyed_of_key rfl, fun _ _ => .recovery hbatch hclosing (hsame.recoveryAllocation ▸ halloc) ?_⟩
  rw [hsame.id, hsame.currency, hsame.storeId]
  exact ⟨rfl, rfl, rfl, rfl, rfl⟩

theorem ofNumber_SAR (minor : Int) : Decimal.ofNumber (fromMinor minor .SAR) = ⟨minor⟩ :=
  @Decimal.ofNumber_fromMinor .SAR rfl minor

theorem sourced_feePostings {b : Books} {draft : RefundDraft} {inv : CorporateInvoice} {vatMinor : Int}
    {id : Nat} (hr : feeRefundRow draft inv (fromMinor vatMinor .SAR) (feeInteraction inv) id ∈
      b.refunds.rows) : ∀ input ∈ feePostings draft inv id vatMinor, Sourced b input := by
  intro input hinput
  simp only [feePostings, List.mem_append] at hinput
  rcases hinput with hmain | hvat
  · split at hmain
    · rename_i hpaid
      rcases List.mem_cons.mp hmain with rfl | hreversal
      · refine ⟨keyed_of_key rfl, fun _ _ => .refund hr ?_ ⟨rfl, rfl, rfl, rfl, rfl⟩ ?_⟩
        · simp [feeRefundRow, feeInteraction, hpaid]
        · simp [feeRefundRow, feeInteraction, hpaid, cashAccount, feePosting, RecordLedgerInput.row]
      · split at hreversal
        · obtain rfl := List.mem_singleton.mp hreversal
          refine ⟨keyed_of_key rfl, fun _ _ => .reversal hr rfl ?_ ⟨rfl, rfl, ?_, rfl, rfl⟩ rfl⟩
          · simp [feeRefundRow, feeInteraction, hpaid]
          · simp only [feePosting, RecordLedgerInput.row, feeRefundRow, RefundDraft.amount, ofNumber_SAR]
        · cases hreversal
    · obtain rfl := List.mem_singleton.mp hmain
      exact ⟨keyed_of_key rfl, fun _ _ => .other approved_untracked⟩
  · split at hvat
    · obtain rfl := List.mem_singleton.mp hvat
      exact ⟨keyed_of_key rfl, fun _ _ => .other approved_untracked⟩
    · cases hvat

section Effects

variable [Runtime]

omit [Runtime] in
theorem Closable.postings {b b' : Books} {batch : SettlementBatch} (h : Closable b batch)
    {closureType : ClosureType} {closedAt : Time} {metadata markerMetadata : LedgerMetadata}
    (hbatches : b'.batches = b.batches.updateMany (fun r => r.id = batch.id ∧ r.status = .ready)
      (closeRow closureType closedAt) (closeRow_id _ _))
    (hclosing : closureType = .zero_net_no_transfer ∧
        metadata.closureType = some .zero_net_no_transfer ∧ metadata.closedAt = some closedAt ∨
      closureType = .remitted ∧ metadata.closureType = none) :
    ∀ input ∈ closingPostings batch metadata markerMetadata, Sourced b' input := by
  intro input hinput
  rcases List.mem_append.mp hinput with hrecovery | hmarker
  · obtain ⟨alloc, halloc, rfl⟩ := List.mem_map.mp hrecovery
    have hrow : closeRow closureType closedAt batch ∈ b'.batches.rows := by
      rw [hbatches]
      exact mem_updateMany.mpr ⟨batch, mem_of_find h.stored, by simp [h.ready]⟩
    refine sourced_recovery hrow ⟨rfl, rfl, rfl, rfl, fun hc => absurd h.unclosed hc⟩ halloc ?_
    rcases hclosing with ⟨rfl, hmeta, hat⟩ | ⟨rfl, hmeta⟩
    · exact Or.inl ⟨rfl, hmeta, hat⟩
    · exact Or.inr ⟨rfl, hmeta⟩
  · obtain rfl := List.mem_singleton.mp hmarker
    exact sourced_marker (by decide)

omit [Runtime] in
theorem Closable.posted {b b' : Books} {batch : SettlementBatch} (h : Posted b) (hlater : Later b b')
    {closureType : ClosureType} {closedAt : Time} {metadata markerMetadata : LedgerMetadata}
    (hbatches : b'.batches = b.batches.updateMany (fun r => r.id = batch.id ∧ r.status = .ready)
      (closeRow closureType closedAt) (closeRow_id _ _))
    (hposts : PostsAll (closingPostings batch metadata markerMetadata) b.ledger b'.ledger)
    (hstored : b.batches.find batch.id = some batch)
    (hreceipts : b'.receipts = b.receipts) (hrefunds : b'.refunds = b.refunds)
    (htransfers : b'.internalTransfers = b.internalTransfers) : Posted b' where
  payment := fun r hr => (h.payment r (hreceipts ▸ hr)).later hlater
  payable := fun r hr hlane => (h.payable r (hreceipts ▸ hr) hlane).later hlater
  refund := fun r hr hcash => (h.refund r (hrefunds ▸ hr) hcash).later hlater
  transfer := fun t ht hc => (h.transfer t (htransfers ▸ ht) hc).later hlater
  recovery := by
    intro r' hr' hc alloc halloc
    rw [hbatches] at hr'
    obtain ⟨r, hr, rfl⟩ := mem_updateMany.mp hr'
    by_cases hp : decide (r.id = batch.id ∧ r.status = .ready) = true
    · rw [if_pos hp] at halloc ⊢
      obtain rfl := row_unique _ hr (mem_of_find hstored) (of_decide_eq_true hp).1
      exact hposts.inLedger (List.mem_append_left _ (List.mem_map_of_mem halloc)) rfl
    · rw [if_neg hp] at hc halloc ⊢
      exact (h.recovery r hr hc alloc halloc).later hlater

/-- **Every effect keeps the postings.** -/
theorem Postings.effect {l : Site} {b b' : Books} (h : Postings b) (heffect : Effect l b b') :
    Postings b' := by
  have hlater := heffect.later
  have hids : ∀ r ∈ b.remittances.rows, r.id < b'.nextId :=
    fun r hr => lt_of_lt_of_le (h.remittanceIds r hr) hlater.nextId
  cases heffect with
  | posting hneutral hposts hn =>
      refine h.posts hlater (.cons hposts (.nil _)) ?_
        (h.posted.keep hlater rfl rfl rfl (.of_eq rfl)) h.once hids
      intro input hinput
      obtain rfl := List.mem_singleton.mp hinput
      obtain ⟨hkeyed, hevent | ⟨hevent, horder, n, hlt, hkey⟩⟩ := hneutral
      · exact ⟨hkeyed, fun _ _ => .other hevent⟩
      · exact ⟨hkeyed, fun _ _ => .consumer hevent horder ⟨n, lt_of_lt_of_le hlt hn, hkey⟩⟩
  | @goodsReceipt _ draft inv receipts l l' n hreceives hcreate hpayment hpayable hn =>
      have hmem := (mem_create hcreate).mpr (Or.inr rfl)
      refine h.posts hlater (.cons hpayment (.cons hpayable (.nil _))) ?_
        { h.posted.keep (c := { b with ledger := l', nextId := n })
            { Later.refl b with nextId := hn.le, ledger := fun _ he => hpayable.keep (hpayment.keep he) }
            rfl rfl rfl (.of_eq rfl) with
          payment := fun r hr => ?_
          payable := fun r hr hlane => ?_ } h.once hids
      · intro input hinput
        simp only [List.mem_cons, List.not_mem_nil, or_false] at hinput
        rcases hinput with rfl | rfl
        · exact sourced_payment hmem
        · exact sourced_payable hreceives.lane hmem
      · rcases (mem_create hcreate).mp hr with hold | rfl
        · exact (h.posted.payment r hold).later hlater
        · obtain ⟨e, he, hkey⟩ := hpayment.inLedger rfl
          exact ⟨e, hpayable.keep he, hkey⟩
      · rcases (mem_create hcreate).mp hr with hold | rfl
        · exact (h.posted.payable r hold hlane).later hlater
        · exact hpayable.inLedger rfl
  | @feeReceipt _ draft inv receipts l n hreceives hcreate hpayment hn =>
      have hmem := (mem_create hcreate).mpr (Or.inr rfl)
      refine h.posts hlater (.cons hpayment (.nil _)) ?_
        { h.posted.keep (c := { b with ledger := l, nextId := n })
            { Later.refl b with nextId := hn.le, ledger := fun _ => hpayment.keep }
            rfl rfl rfl (.of_eq rfl) with
          payment := fun r hr => ?_
          payable := fun r hr hlane => ?_ } h.once hids
      · intro input hinput
        obtain rfl := List.mem_singleton.mp hinput
        exact sourced_payment hmem
      · rcases (mem_create hcreate).mp hr with hold | rfl
        · exact (h.posted.payment r hold).later hlater
        · exact hpayment.inLedger rfl
      · rcases (mem_create hcreate).mp hr with hold | rfl
        · exact (h.posted.payable r hold hlane).later hlater
        · change draft.invoiceType = .merchant_invoice at hlane
          rw [hreceives.lane] at hlane
          cases hlane
  | revenue hstored hpaid hfacts hposts hn =>
      refine h.posts hlater (.cons hposts (.nil _)) ?_
        (h.posted.keep hlater rfl rfl rfl (.of_eq rfl)) h.once hids
      intro input hinput
      obtain rfl := List.mem_singleton.mp hinput
      refine ⟨keyed_of_key rfl, fun _ _ => .revenue (mem_of_find hstored) hpaid ⟨rfl, ?_, ?_, rfl, rfl⟩ rfl⟩
      · rw [← hfacts]
        rfl
      · exact ofNumber_SAR _
  | assemble hassembles hcreate hposts hn =>
      refine h.posts hlater (.cons hposts (.nil _)) ?_
        (h.posted.keep hlater rfl rfl rfl fun r hr hc => ?_) h.once hids
      · intro input hinput
        obtain rfl := List.mem_singleton.mp hinput
        exact sourced_marker (by decide)
      · rcases (mem_create hcreate).mp hr with hold | rfl
        · exact ⟨r, hold, hc, rfl, rfl⟩
        · exact absurd hassembles.unclosed hc
  | statusWrite hlegal htarget =>
      exact h.posts hlater (.nil _) (by simp) (h.posted.keep hlater rfl rfl rfl
        (.updateMany rfl fun _ => ⟨rfl, rfl, rfl⟩)) h.once hids
  | link =>
      exact h.posts hlater (.nil _) (by simp) (h.posted.keep hlater rfl rfl rfl
        (.updateMany rfl fun _ => ⟨rfl, rfl, rfl⟩)) h.once hids
  | supersede hstored hcause hlegal hposts hn =>
      refine h.posts hlater (.cons hposts (.nil _)) ?_ (h.posted.keep hlater rfl rfl rfl
        (.updateMany rfl fun _ => ⟨rfl, rfl, rfl⟩)) h.once hids
      intro input hinput
      obtain rfl := List.mem_singleton.mp hinput
      exact sourced_marker (by decide)
  | markSettled hclosable hgated hcreate hposts hn =>
      refine h.posts hlater hposts (hclosable.postings rfl (Or.inr ⟨rfl, rfl⟩))
        (Closable.posted h.posted hlater rfl hposts hclosable.stored rfl rfl rfl) h.once fun r hr => ?_
      rcases (mem_create hcreate).mp hr with hold | rfl
      · exact (h.remittanceIds r hold).trans hn
      · exact hn
  | markSettledZeroNet hclosable hgated hzero hposts hn =>
      exact h.posts hlater hposts (hclosable.postings rfl (Or.inl ⟨rfl, rfl, rfl⟩))
        (Closable.posted h.posted hlater rfl hposts hclosable.stored rfl rfl rfl) h.once hids
  | @reduce _ origin draft inv item refunds ledger n hrefunds hstate hunbound hamount hcreate hposts hn =>
      refine h.posts hlater (.cons hposts (.nil _)) ?_
        { h.posted.keep (c := { b with ledger := ledger, nextId := n })
            { Later.refl b with nextId := hn.le, ledger := fun _ => hposts.keep }
            rfl rfl rfl (.of_eq rfl) with
          refund := fun r hr hcash => ?_ } h.once hids
      · intro input hinput
        obtain rfl := List.mem_singleton.mp hinput
        exact sourced_goodsRefund (Or.inl rfl) ((mem_create hcreate).mpr (Or.inr rfl))
      · rcases (mem_create hcreate).mp hr with hold | rfl
        · exact (h.posted.refund r hold hcash).later hlater
        · exact hposts.inLedger rfl
  | @accrue _ origin draft inv item refunds receivables accruedAt reversed ledger id n hrefunds hstate
      hreversed hcreate haccrue hposts hid hn =>
      refine h.posts hlater hposts ?_
        { h.posted.keep (c := { b with ledger := ledger, nextId := n })
            { Later.refl b with nextId := (hid.trans hn).le, ledger := fun _ => hposts.keep }
            rfl rfl rfl (.of_eq rfl) with
          refund := fun r hr hcash => ?_ } h.once hids
      · intro input hinput
        simp only [List.mem_cons, List.not_mem_nil, or_false] at hinput
        rcases hinput with rfl | rfl
        · exact sourced_goodsRefund (Or.inr rfl) ((mem_create hcreate).mpr (Or.inr rfl))
        · exact ⟨keyed_of_key rfl, fun _ _ => .other accrued_untracked⟩
      · rcases (mem_create hcreate).mp hr with hold | rfl
        · exact (h.posted.refund r hold hcash).later hlater
        · exact hposts.inLedger List.mem_cons_self rfl
  | @feeRefund _ origin draft inv refunds ledger n hrefunds hcreate hposts hn =>
      refine h.posts hlater hposts (sourced_feePostings ((mem_create hcreate).mpr (Or.inr rfl)))
        { h.posted.keep (c := { b with ledger := ledger, nextId := n })
            { Later.refl b with nextId := hn.le, ledger := fun _ => hposts.keep }
            rfl rfl rfl (.of_eq rfl) with
          refund := fun r hr hcash => ?_ } h.once hids
      rcases (mem_create hcreate).mp hr with hold | rfl
      · exact (h.posted.refund r hold hcash).later hlater
      · have hpaid : inv.status = .paid := by
          by_contra hnot
          exact hcash (by simp [feeRefundRow, feeInteraction, hnot])
        have hfirst : feePosting inv .REFUND_PAID "REFUND_FEE" draft.amount (.id b.nextId)
            { account := some "operating", evidenceRef := some draft.evidenceRef } ∈
            feePostings draft inv b.nextId (b.refundVatMinor .corporate_invoice inv.id inv.terms
              draft.amountMinor) := by
          simp [feePostings, hpaid]
        exact hposts.inLedger hfirst rfl
  | remittancePaid hstored hstore hcurrency hposts hn =>
      refine h.posts hlater (.cons hposts (.nil _)) ?_
        (h.posted.keep hlater rfl rfl rfl (.of_eq rfl)) h.once hids
      intro input hinput
      obtain rfl := List.mem_singleton.mp hinput
      refine ⟨keyed_of_key rfl, fun _ _ => .remittance (mem_of_find hstored) ⟨rfl, rfl, ?_, hcurrency, ?_⟩⟩
      · exact Decimal.ofNumber_moneyToNumber _
      · exact congrArg some hstore
  | @transfer _ draft due transfers ledger n hcompleted hdue hdigits hclosed hfirst hcreate hposts hn =>
      refine h.posts hlater (.cons hposts (.nil _)) ?_
        { h.posted.keep (c := { b with ledger := ledger, nextId := n })
            { Later.refl b with nextId := hn.le, ledger := fun _ => hposts.keep }
            rfl rfl rfl (.of_eq rfl) with
          transfer := fun t ht hc => ?_ } ?_ hids
      · intro input hinput
        obtain rfl := List.mem_singleton.mp hinput
        refine ⟨keyed_of_key rfl, fun _ _ => .transfer ((mem_create hcreate).mpr (Or.inr rfl)) hcompleted
          ⟨rfl, rfl, ?_, rfl, rfl⟩ rfl⟩
        simp only [transferRow, transferPosting, RecordLedgerInput.row, Decimal.ofNumber_fromMinor hdigits]
        exact ofNumber_SAR _
      · rcases (mem_create hcreate).mp ht with hold | rfl
        · exact (h.posted.transfer t hold hc).later hlater
        · exact hposts.inLedger rfl
      · intro t ht t' ht' hc hc' heq
        rcases (mem_create hcreate).mp ht with hold | rfl
        · rcases (mem_create hcreate).mp ht' with hold' | rfl
          · exact h.once t hold t' hold' hc hc' heq
          · exact absurd hc (hfirst t hold heq)
        · rcases (mem_create hcreate).mp ht' with hold' | rfl
          · exact absurd hc' (hfirst t' hold' heq.symm)
          · rfl
  | @failedTransfer _ row valueDate transfers n hfailed hcreate hn =>
      have hold : ∀ t ∈ transfers.rows, t.status = .completed → t ∈ b.internalTransfers.rows := by
        intro t ht hc
        rcases (mem_create hcreate).mp ht with hold | rfl
        · exact hold
        · rw [hfailed] at hc
          cases hc
      refine h.posts hlater (.nil _) (by simp)
        { h.posted.keep (c := { b with nextId := n }) { Later.refl b with nextId := hn.le }
            rfl rfl rfl (.of_eq rfl) with
          transfer := fun t ht hc => (h.posted.transfer t (hold t ht hc) hc).later hlater } ?_ hids
      exact fun t ht t' ht' hc hc' heq => h.once t (hold t ht hc) t' (hold t' ht' hc') hc hc' heq
  | _ =>
      exact h.posts hlater (.nil _) (by simp) (h.posted.keep hlater rfl rfl rfl (.of_eq rfl)) h.once hids

end Effects

end Qift
