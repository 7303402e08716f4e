import Qift.Archive
import Qift.Derivation
import Qift.Guarantee

/-!
# Guarantees of the archive

What each call of the platform does to the archive.
-/

namespace Qift

open Relational Relational.Table Interleaving Settlement Financial Treasury

-- a judgment is used by its rules, never by what it unfolds to
attribute [local irreducible] Prog.Meets

section Frames

/-! ### Shared calls -/

@[grind ←] theorem now_quiet : Svc.Keeps Quiet now := by
  unfold now
  grind

@[grind ←] theorem gatesAttested_quiet : Svc.Keeps Quiet gatesAttested := by
  unfold gatesAttested
  grind

@[grind ←] theorem audit_quiet (k : AuditKey) : Svc.Keeps Quiet (audit k) := by
  unfold audit
  grind

@[grind ←] theorem allocateReference_quiet (isTaken : String → World → Bool) (candidates : List String)
    (attempts : Nat) : Svc.Keeps Quiet (allocateReference isTaken candidates attempts) := by
  fun_induction allocateReference isTaken candidates attempts with
  | case1 candidate rest attempts ih => grind
  | case2 => exact Svc.Keeps.fail _

@[grind ←] theorem txAllocateReference_quiet (isTaken : String → World → Bool) (candidates : List String) :
    Tx.Keeps Quiet (txAllocateReference isTaken candidates) := by
  intro w c w' h
  rw [txAllocateReference] at h
  split at h
  · cases h
    exact refl_of Quiet w
  · cases h

/-! ### Settlement engine -/

@[grind ←] theorem loadBatch_quiet (batchId : Nat) : Svc.Keeps Quiet (loadBatch batchId) := by
  unfold loadBatch
  grind

@[grind ←] theorem eligibleItems_quiet (storeId : Nat) (currency : String) :
    Svc.Keeps Quiet (eligibleItems storeId currency) := by
  unfold eligibleItems
  grind

@[grind ←] theorem planRecovery_quiet (storeId : Nat) (currency : String)
    (items : List SettlementItemInput) : Svc.Keeps Quiet (planRecovery storeId currency items) := by
  unfold planRecovery
  grind

@[grind ←] theorem simulate_quiet (storeId : Nat) (currency : String) :
    Svc.Keeps Quiet (simulate storeId currency) := by
  unfold simulate
  grind

@[grind ←] theorem occurrenceReferences_quiet (items : List SettlementItem) :
    Svc.Keeps Quiet (occurrenceReferences items) := by
  unfold occurrenceReferences
  grind

@[grind ←] theorem bindItems_quiet (batchId : Nat) (items : List SettlementItem) :
    Tx.Keeps Quiet (bindItems batchId items) := by
  induction items with
  | nil => grind [bindItems]
  | cons item rest ih => grind [bindItems]

@[grind ←] theorem stageReceivable_quiet (batchId : Nat) (alloc : RecoveryAllocation) :
    Tx.Keeps Quiet (stageReceivable batchId alloc) := by
  unfold stageReceivable
  grind

@[grind ←] theorem assembleTx_quiet (row : Nat → SettlementBatch) (items : List SettlementItem) :
    Tx.Keeps Quiet (assembleTx row items) := by
  unfold assembleTx
  grind

@[grind ←] theorem assembleAttempts_quiet (row : String → Nat → SettlementBatch)
    (items : List SettlementItem) (draws : Nat → List String) (n : Nat) :
    Svc.Keeps Quiet (assembleAttempts row items draws n) := by
  induction n with
  | zero => grind [assembleAttempts]
  | succ remaining ih => grind [assembleAttempts]

@[grind ←] theorem assembleBatch_quiet (actor storeId : Nat) (currency : String)
    (draws : Nat → List String) : Svc.Keeps Quiet (assembleBatch actor storeId currency draws) := by
  unfold assembleBatch
  refine Svc.Keeps.bind (by grind) fun _ => Svc.Keeps.bind (by grind) fun _ => ?_
  refine Svc.Keeps.bind (by grind) fun _ => Svc.Keeps.bind (by grind) fun _ => ?_
  grind

@[grind ←] theorem updateBatch_quiet (batchId : Nat) (data : SettlementBatch → SettlementBatch)
    (hdata : ∀ b, (data b).id = b.id) : Tx.Keeps Quiet (updateBatch batchId data hdata) := by
  unfold updateBatch
  grind

@[grind ←] theorem writeStatus_quiet (batch : SettlementBatch) (target : BatchState)
    (failureEvidence : Option String) : Svc.Keeps Quiet (writeStatus batch target failureEvidence) := by
  unfold writeStatus
  grind

@[grind ←] theorem markFailed_quiet (batchId : Nat) (evidence : String) :
    Svc.Keeps Quiet (markFailed batchId evidence) := by
  unfold markFailed
  grind

@[grind ←] theorem retry_quiet (batchId : Nat) : Svc.Keeps Quiet (retry batchId) := by
  unfold retry
  grind

@[grind ←] theorem holdBatch_quiet (batchId : Nat) (evidence : String) :
    Svc.Keeps Quiet (holdBatch batchId evidence) := by
  unfold holdBatch
  grind

@[grind ←] theorem unbindItem_quiet (batchId : Nat) (disposition : ItemState) (affected : List Nat)
    (hold : Option SupersedeHold) (item : Nat × ItemState) :
    Tx.Keeps Quiet (unbindItem batchId disposition affected hold item) := by
  unfold unbindItem
  grind

@[grind ←] theorem supersedeTx_quiet (batch : SettlementBatch) (disposition : ItemState)
    (affected : List Nat) (hold : Option SupersedeHold) (items : List (Nat × ItemState)) :
    Tx.Keeps Quiet (supersedeTx batch disposition affected hold items) := by
  unfold supersedeTx
  grind

@[grind ←] theorem supersede_quiet (batchId : Nat) (cause : String) (affected : List Nat)
    (hold : Option SupersedeHold) : Svc.Keeps Quiet (supersede batchId cause affected hold) := by
  unfold supersede
  cases SUPERSEDE_ITEM_DISPOSITION cause with
  | none => exact Svc.Keeps.fail _
  | some disposition =>
      refine Svc.Keeps.bind (Svc.Keeps.ensure _ _) fun _ => Svc.Keeps.bind (by grind) fun _ => ?_
      refine Svc.Keeps.bind (by grind) fun _ => Svc.Keeps.bind (by grind) fun _ => ?_
      refine Svc.Keeps.bind (by grind) fun _ => Svc.Keeps.bind (by grind) fun _ => ?_
      exact Svc.Keeps.bind (Svc.Keeps.ensure _ _) (by grind)

@[grind ←] theorem linkSuccessor_quiet (supersededId successorId : Nat) :
    Svc.Keeps Quiet (linkSuccessor supersededId successorId) := by
  unfold linkSuccessor
  grind

@[grind ←] theorem consumeOne_quiet (batch : SettlementBatch) (at_ : Time) (metadata : LedgerMetadata)
    (alloc : RecoveryAllocation) : Tx.Keeps Quiet (consumeOne batch at_ metadata alloc) := by
  unfold consumeOne
  grind

@[grind ←] theorem consumeRecoveryAllocation_quiet (batch : SettlementBatch) (at_ : Time)
    (metadata : LedgerMetadata) : Tx.Keeps Quiet (consumeRecoveryAllocation batch at_ metadata) := by
  unfold consumeRecoveryAllocation
  grind

@[grind ←] theorem closeBatch_quiet (batch : SettlementBatch) (closureType : ClosureType)
    (closedAt : Time) : Tx.Keeps Quiet (closeBatch batch closureType closedAt) := by
  unfold closeBatch
  grind

@[grind ←] theorem markSettledTx_quiet (batch : SettlementBatch) (evidence : RemittanceInput) :
    Tx.Keeps Quiet (markSettledTx batch evidence) := by
  unfold markSettledTx
  grind

@[grind ←] theorem markSettled_quiet (batchId : Nat) (evidence : RemittanceInput)
    (gate : Option Gate) : Svc.Keeps Quiet (markSettled batchId evidence gate) := by
  unfold markSettled
  grind

@[grind ←] theorem markSettledZeroNetTx_quiet (batch : SettlementBatch) (closedAt : Time) :
    Tx.Keeps Quiet (markSettledZeroNetTx batch closedAt) := by
  unfold markSettledZeroNetTx
  grind

@[grind ←] theorem markSettledZeroNet_quiet (batchId : Nat) (gate : Option Gate) :
    Svc.Keeps Quiet (markSettledZeroNet batchId gate) := by
  unfold markSettledZeroNet
  grind

@[grind ←] theorem frozenRecord_quiet (batchId : Nat) :
    Svc.Keeps Quiet (frozenRecord batchId) := by
  unfold frozenRecord
  grind

@[grind ←] theorem zeroNetClosedGrossMinor_quiet (own storeId : Nat) (currency : CurrencyCode)
    (fromTime toTime : Time) :
    Svc.Keeps Quiet (zeroNetClosedGrossMinor own storeId currency fromTime toTime) := by
  unfold zeroNetClosedGrossMinor
  grind

@[grind ←] theorem batchItems_quiet (batchId : Nat) : Svc.Keeps Quiet (batchItems batchId) := by
  unfold batchItems
  grind

/-! ### Eligibility -/

@[grind ←] theorem verifyPayoutIdentity_quiet (storeId : Nat) (evidence : String) :
    Svc.Keeps Quiet (verifyPayoutIdentity storeId evidence) := by
  refine Svc.Keeps.bind (Svc.Keeps.ensure _ _) fun _ => Svc.Keeps.bind (by grind) fun store => ?_
  refine Svc.Keeps.bind (Svc.Keeps.ensure _ _) fun _ => Svc.Keeps.bind now_quiet fun _ => ?_
  refine Svc.Keeps.transaction fun w u w' h => ?_
  obtain rfl := Tx.modify_eq_ok.mp h
  exact ⟨Logged.of_eq rfl, rfl, rfl⟩

@[grind ←] theorem moneyReceived_quiet (item : SettlementItem) : Svc.Keeps Quiet (moneyReceived item) := by
  unfold moneyReceived
  grind

@[grind ←] theorem deliveryState_quiet (campaignId : Option Nat) :
    Svc.Keeps Quiet (deliveryState campaignId) := by
  unfold deliveryState
  grind

@[grind ←] theorem evaluateItem_quiet (item : SettlementItem) (store : Store) :
    Svc.Keeps Quiet (evaluateItem item store) := by
  unfold evaluateItem
  grind

@[grind ←] theorem evaluateOne_quiet (store : Store) (item : SettlementItem) :
    Svc.Keeps Quiet (evaluateOne store item) := by
  unfold evaluateOne
  grind

@[grind ←] theorem evaluate_quiet (storeId : Nat) : Svc.Keeps Quiet (evaluate storeId) := by
  unfold evaluate
  grind

/-! ### Receipts -/

@[grind ←] theorem postReceipt_quiet (draft : ReceiptDraft) (inv : InvoiceFacts) (receiptId : Nat) :
    Tx.Keeps Quiet (postReceipt draft inv receiptId) := by
  unfold postReceipt
  grind

@[grind ←] theorem receiptTx_quiet (draft : ReceiptDraft) : Tx.Keeps Quiet (receiptTx draft) := by
  unfold receiptTx
  refine Tx.Keeps.bind (Tx.Keeps.read _) fun _ => Tx.Keeps.bind (Tx.Keeps.ofExcept _) fun _ => ?_
  refine Tx.Keeps.bind (Tx.Keeps.read _) fun existing => ?_
  cases existing with
  | some existing => exact Tx.Keeps.pure _
  | none => exact Tx.Keeps.bind (Tx.Keeps.ensure _ _) (by grind)

@[grind ←] theorem createItemTx_quiet (invoice : InvoiceFacts) (storeId : Nat) :
    Tx.Keeps Quiet (createItemTx invoice storeId) := by
  unfold createItemTx
  grind

@[grind ←] theorem flipPaid_quiet (invoiceType : InvoiceType) (invoiceId : Nat) (paidAt : Time) :
    Tx.Keeps Quiet (flipPaid invoiceType invoiceId paidAt) := by
  unfold flipPaid
  grind

@[grind ←] theorem writeBalanceStatus_quiet (invoiceId : Nat) (guard : CorporateInvoice → Bool)
    (balanceStatus : BalanceStatus) :
    Svc.Keeps Quiet (writeBalanceStatus invoiceId guard balanceStatus) := by
  unfold writeBalanceStatus
  grind

theorem derivation_quiet : DerivationFrame Quiet where
  item := createItemTx_quiet
  revenue _ _ := record_quiet _
  flip := flipPaid_quiet
  balance := writeBalanceStatus_quiet
  paid _ _ := audit_quiet _
  closed _ := audit_quiet _

@[grind ←] theorem deriveAndApplyCoverage_quiet (invoiceType : InvoiceType) (invoiceId : Nat) :
    Svc.Keeps Quiet (deriveAndApplyCoverage invoiceType invoiceId) := derivation_quiet.derive invoiceType invoiceId

@[grind ←] theorem assertGatesOpen_quiet : Svc.Keeps Quiet assertGatesOpen := by
  unfold assertGatesOpen
  grind

@[grind ←] theorem assertSameReceipt_quiet (draft : ReceiptDraft) (existing : PaymentReceipt) :
    Svc.Keeps Quiet (assertSameReceipt draft existing) := by
  unfold assertSameReceipt
  grind

@[grind ←] theorem receiptCollision_quiet (draft : ReceiptDraft) (e : Err) :
    Svc.Keeps Quiet (receiptCollision draft e) := by
  unfold receiptCollision
  grind

@[grind ←] theorem recordReceipt_quiet (actor : Nat) (input : RecordReceiptInput) :
    Svc.Keeps Quiet (recordReceipt actor input) := by
  unfold recordReceipt
  refine Svc.Keeps.bind (by grind) fun _ => Svc.Keeps.bind (by grind) fun _ => ?_
  refine Svc.Keeps.bind (by grind) fun _ => ?_
  grind

/-! ### Refunds and refund requests -/

@[grind ←] theorem mintQn_quiet (candidates : List String) :
    Tx.Keeps Quiet (mintQn candidates) := by
  unfold mintQn
  grind

@[grind ←] theorem reduceItem_quiet (item : SettlementItem) (amountMinor : Int) :
    Tx.Keeps Quiet (reduceItem item amountMinor) := by
  unfold reduceItem
  grind

@[grind ←] theorem interact_quiet (item : SettlementItem) (amountMinor : Int) :
    Tx.Keeps Quiet (interact item amountMinor) := by
  unfold interact
  grind

@[grind ←] theorem accrueReceivable_quiet (draft : RefundDraft) (invoice : MerchantInvoice)
    (item : SettlementItem) (refunds : List SettlementRefund) (refundId : Nat) :
    Tx.Keeps Quiet (accrueReceivable draft invoice item refunds refundId) := by
  unfold accrueReceivable
  grind

@[grind ←] theorem nextSequence_quiet (seriesKey : String) : Tx.Keeps Quiet (nextSequence seriesKey) := by
  unfold nextSequence
  grind

@[grind ←] theorem assertSameRefund_quiet (draft : RefundDraft) (existing : SettlementRefund) :
    Svc.Keeps Quiet (assertSameRefund draft existing) := by
  unfold assertSameRefund
  grind

@[grind ←] theorem healCredit_quiet (refund : SettlementRefund) :
    Svc.Keeps Quiet (healCredit refund) := by
  unfold healCredit
  grind

@[grind ←] theorem requestTx_quiet [Runtime] (snapshot : RefundSnapshot) (storeId : Option Nat)
    (actor : Nat) : Tx.Keeps Quiet (requestTx snapshot storeId actor) := by
  unfold requestTx
  grind

@[grind ←] theorem requestRefund_quiet [Runtime] (actor : Nat) (input : RequestRefundInput) :
    Svc.Keeps Quiet (requestRefund actor input) := by
  unfold requestRefund
  refine Svc.Keeps.bind (by grind) fun _ => Svc.Keeps.bind (Svc.Keeps.ensure _ _) fun _ => ?_
  refine Svc.Keeps.bind (Svc.Keeps.ensure _ _) fun _ => ?_
  grind

@[grind ←] theorem loadRequest_quiet (requestId : Nat) : Svc.Keeps Quiet (loadRequest requestId) := by
  unfold loadRequest
  grind

@[grind ←] theorem verifySnapshot_quiet [Runtime] (request : RefundRequest) :
    Svc.Keeps Quiet (verifySnapshot request) := by
  unfold verifySnapshot
  grind

@[grind ←] theorem moveRequest_quiet (requestId : Nat) (state : RefundRequestState) (action : String)
    (data : Time → RefundRequest → RefundRequest) (hdata : ∀ t r, (data t r).id = r.id) :
    Tx.Keeps Quiet (moveRequest requestId state action data hdata) := by
  unfold moveRequest
  grind

@[grind ←] theorem approveRefund_quiet [Runtime] (actor requestId : Nat) :
    Svc.Keeps Quiet (approveRefund actor requestId) := by
  unfold approveRefund
  grind

@[grind ←] theorem cancelRefundRequest_quiet (actor requestId : Nat) :
    Svc.Keeps Quiet (cancelRefundRequest actor requestId) := by
  unfold cancelRefundRequest
  grind

@[grind ←] theorem latchRequest_quiet (actor requestId : Nat) (state : RefundRequestState) :
    Tx.Keeps Quiet (latchRequest actor requestId state) := by
  unfold latchRequest
  grind

@[grind ←] theorem releaseRequest_quiet (requestId : Nat) (evidenceRef : String) :
    Svc.Keeps Quiet (releaseRequest requestId evidenceRef) := by
  unfold releaseRequest
  grind

@[grind ←] theorem assertUnowned_quiet (requestId : Nat) (request : RefundRequest)
    (refund : SettlementRefund) : Svc.Keeps Quiet (assertUnowned requestId request refund) := by
  unfold assertUnowned
  grind

@[grind ←] theorem finalizeTx_quiet (actor requestId : Nat) (result : RefundOutcome) :
    Tx.Keeps Quiet (finalizeTx actor requestId result) := by
  unfold finalizeTx
  grind

/-! ### Execution -/

@[grind ←] theorem dayAggregateMinor_quiet (own storeId : Nat) (currency : CurrencyCode)
    (day : Time) (basis : AggregateBasis) :
    Svc.Keeps Quiet (dayAggregateMinor own storeId currency day basis) := by
  unfold dayAggregateMinor
  grind

@[grind ←] theorem previewTx_quiet (frozen : FrozenBatchRecord) (preview : ExecutionPreview) (actor : Nat) :
    Tx.Keeps Quiet (previewTx frozen preview actor) := by
  unfold previewTx
  grind

@[grind ←] theorem preview_quiet [Runtime] (actor batchId : Nat) :
    Svc.Keeps Quiet (preview actor batchId) := by
  unfold preview
  grind

@[grind ←] theorem approveTx_quiet (frozen : FrozenBatchRecord) (hash : String) (level actor : Nat)
    (note : Option String) : Tx.Keeps Quiet (approveTx frozen hash level actor note) := by
  unfold approveTx
  grind

@[grind ←] theorem approve_quiet [Runtime] (actor batchId : Nat) (hash : String) (note : Option String) :
    Svc.Keeps Quiet (approve actor batchId hash note) := by
  unfold approve
  refine Svc.Keeps.bind (by grind) fun _ => Svc.Keeps.bind (by grind) fun _ => ?_
  refine Svc.Keeps.bind (by grind) fun _ => Svc.Keeps.bind (by grind) fun _ => ?_
  refine Svc.Keeps.bind (by grind) fun _ => Svc.Keeps.bind (by grind) fun _ => ?_
  refine Svc.Keeps.bind (by grind) fun _ => Svc.Keeps.bind (by grind) fun _ => ?_
  refine Svc.Keeps.bind (by grind) fun _ => Svc.Keeps.bind (by grind) fun _ => ?_
  refine Svc.Keeps.bind (by grind) fun _ => Svc.Keeps.bind (Svc.Keeps.tryCatch (by grind) ?_) fun _ =>
    Svc.Keeps.pure _
  intro e
  cases e <;> exact Svc.Keeps.fail _

@[grind ←] theorem bindApprovals_quiet [Runtime] (actor : Nat) (frozen : FrozenBatchRecord)
    (previewHash : String) (nowMs : Time) :
    Svc.Keeps Quiet (bindApprovals actor frozen previewHash nowMs) := by
  unfold bindApprovals
  refine Svc.Keeps.bind (by grind) fun _ => Svc.Keeps.bind (by grind) fun _ => ?_
  refine Svc.Keeps.bind (by grind) fun _ => Svc.Keeps.bind (by grind) fun _ => ?_
  grind

@[grind ←] theorem assertLevel_quiet (frozen : FrozenBatchRecord) (aggregate : Int)
    (approvals : List ExecutionApproval) : Svc.Keeps Quiet (assertLevel frozen aggregate approvals) := by
  unfold assertLevel
  grind

@[grind ←] theorem assertNoDrift_quiet (batchId : Nat) (frozen : FrozenBatchRecord) :
    Svc.Keeps Quiet (assertNoDrift batchId frozen) := by
  unfold assertNoDrift
  grind

@[grind ←] theorem issueStatement_quiet [Runtime] (frozen : FrozenBatchRecord)
    (remittance : Option RemittanceEvidence) (closure : Option ZeroNetClosureFacts) :
    Svc.Keeps Quiet (issueStatement frozen remittance closure) := by
  unfold issueStatement
  grind

@[grind ←] theorem ensureStatement_quiet [Runtime] (frozen : FrozenBatchRecord)
    (remittance : SettlementRemittance) : Svc.Keeps Quiet (ensureStatement frozen remittance) := by
  unfold ensureStatement
  grind

@[grind ←] theorem ensureStatementZeroNet_quiet [Runtime] (frozen : FrozenBatchRecord) (closedAt : Time) :
    Svc.Keeps Quiet (ensureStatementZeroNet frozen closedAt) := by
  unfold ensureStatementZeroNet
  grind

@[grind ←] theorem assertRemittanceIdentity_quiet (remittance : SettlementRemittance) (reference : String)
    (executedAt : Time) (netMinor : Int) (currency : CurrencyCode) :
    Svc.Keeps Quiet (assertRemittanceIdentity remittance reference executedAt netMinor currency) := by
  unfold assertRemittanceIdentity
  grind

@[grind ←] theorem replay_quiet [Runtime] (actor batchId : Nat) :
    Svc.Keeps Quiet (replay actor batchId) := by
  unfold replay
  refine Svc.Keeps.bind (by grind) fun _ => Svc.Keeps.bind (by grind) fun record => ?_
  cases record with
  | none => exact Svc.Keeps.fail _
  | some record => grind

/-! ### Treasury -/

@[grind ←] theorem gatherDues_quiet : Svc.Keeps Quiet gatherDues := by
  unfold gatherDues
  grind

@[grind ←] theorem pendingInternalTransfers_quiet : Svc.Keeps Quiet pendingInternalTransfers := by
  unfold pendingInternalTransfers
  grind

@[grind ←] theorem transferTx_quiet (draft : TransferDraft) (due : InternalTransferDue)
    (confirmedMinor : Int) (code : CurrencyCode) :
    Tx.Keeps Quiet (transferTx draft due confirmedMinor code) := by
  unfold transferTx
  grind

@[grind ←] theorem transferCollision_quiet (draft : TransferDraft) :
    Svc.Keeps Quiet (transferCollision draft) := by
  unfold transferCollision
  refine Svc.Keeps.bind (by grind) fun _ => ?_
  split <;> exact Svc.Keeps.fail _

@[grind ←] theorem recordInternalTransfer_quiet (actor : Nat) (input : InternalTransferInput) :
    Svc.Keeps Quiet (recordInternalTransfer actor input) := by
  unfold recordInternalTransfer
  refine Svc.Keeps.bind (by grind) fun _ => Svc.Keeps.bind (by grind) fun dues => ?_
  cases dues.find? _ with
  | none => exact Svc.Keeps.fail _
  | some due =>
      refine Svc.Keeps.bind (by grind) fun _ => Svc.Keeps.bind (by grind) fun _ => ?_
      grind

@[grind ←] theorem gatherMovements_quiet : Svc.Keeps Quiet gatherMovements := by
  unfold gatherMovements
  grind

/-! ### The environment -/

@[grind ←] theorem surround_quiet (s : Surroundings) : Svc.Keeps Quiet (surround s) := by
  refine Svc.Keeps.transaction fun w u w' h => ?_
  obtain rfl := Tx.modify_eq_ok.mp h
  exact ⟨Logged.of_eq rfl, rfl, rfl⟩

@[grind ←] theorem createOrder_quiet : Tx.Keeps Quiet createOrder := by
  intro w n w' h
  cases h
  exact ⟨Logged.of_eq rfl, rfl, rfl⟩

@[grind ←] theorem assertInvoiceable_quiet (campaign : InvoicedCampaign) :
    Svc.Keeps Quiet (assertInvoiceable campaign) := by
  unfold assertInvoiceable
  grind

@[grind ←] theorem recordBestEffort_quiet (input : RecordLedgerInput) :
    Svc.Keeps Quiet (recordBestEffort input) := by
  unfold recordBestEffort
  refine Svc.Keeps.tryCatch (Svc.Keeps.bind (by grind) fun _ => Svc.Keeps.pure _) fun _ => ?_
  exact Svc.Keeps.pure _

@[grind ←] theorem issueMerchantInvoice_quiet (input : IssueMerchantInvoice) :
    Svc.Keeps Quiet (issueMerchantInvoice input) := by
  unfold issueMerchantInvoice
  grind

@[grind ←] theorem issueCorporateInvoice_quiet (input : IssueCorporateInvoice) :
    Svc.Keeps Quiet (issueCorporateInvoice input) := by
  unfold issueCorporateInvoice
  grind

@[grind ←] theorem attachLegalReference_quiet (invoiceId : Nat) (number : Option String) :
    Svc.Keeps Quiet (attachLegalReference invoiceId number) := by
  unfold attachLegalReference
  grind

@[grind ←] theorem payOrder_quiet (order : PaidOrder) : Svc.Keeps Quiet (payOrder order) := by
  unfold payOrder
  grind

end Frames

/-! ### Issuing credit notes -/

section Filings

variable [Runtime]

theorem Tx.Keeps.quiet_bind {l : Site} {α β : Type} {x : Transaction α} {g : α → Transaction β}
    (hx : Tx.Keeps Quiet x) (hg : ∀ a, Tx.Keeps (Filing l) (g a)) : Tx.Keeps (Filing l) (x >>= g) := by
  have hafter : ∀ s t u, Quiet s t → Filing l t u → Filing l s u := fun _ _ _ => Filing.after
  exact Tx.Keeps.comp hafter hx hg

theorem Tx.Keeps.bind_quiet {l : Site} {α β : Type} {x : Transaction α} {g : α → Transaction β}
    (hx : Tx.Keeps (Filing l) x) (hg : ∀ a, Tx.Keeps Quiet (g a)) : Tx.Keeps (Filing l) (x >>= g) := by
  have hbefore : ∀ s t u, Filing l s t → Quiet t u → Filing l s u := fun _ _ _ => Filing.before
  exact Tx.Keeps.comp hbefore hx hg

omit [Runtime] in
/-- A column of an amount in minor units gives the amount back. -/
theorem moneyToNumber_ofNumber (minor : Int) :
    moneyToNumber (Decimal.ofNumber (fromMinor minor .SAR)) = fromMinor minor .SAR := by
  rw [ofNumber_SAR]
  exact moneyToNumber_eq_fromMinor rfl ⟨minor⟩

omit [Runtime] in
theorem factsOf_noteRow {facts : CreditNoteFacts} {issuedAt : Time}
    (hat : facts.issuedAt = toISOString issuedAt) (hdetached : facts.statementSettlementId = none)
    (hamount : moneyToNumber (Decimal.ofNumber facts.amount) = facts.amount)
    (hvat : moneyToNumber (Decimal.ofNumber facts.vatComponent) = facts.vatComponent)
    (hnet : ∀ net ∈ facts.netComponent, moneyToNumber (Decimal.ofNumber net) = net)
    (canonical documentHash : String) (id : Nat) :
    factsOf (noteRow facts issuedAt canonical documentHash id) none = facts := by
  have hnets : (facts.netComponent.map Decimal.ofNumber).map moneyToNumber = facts.netComponent := by
    cases hn : facts.netComponent with
    | none => rfl
    | some net => simpa using hnet net hn
  cases facts
  simp_all [factsOf, noteRow]

/-- A note whose columns give back its facts is filed with its first version. -/
theorem issueCreditNote_files {facts : CreditNoteFacts} {issuedAt : Time} {l : Site}
    (hfacts : ∀ canonical documentHash id,
      factsOf (noteRow facts issuedAt canonical documentHash id) none = facts) :
    Tx.Keeps (Filing l) (issueCreditNote facts issuedAt) := by
  intro w note w' h
  simp only [issueCreditNote, Tx.bind_eq_ok, insert_eq_ok, Tx.pure_eq_ok] at h
  obtain ⟨_, w₁, ⟨rfl, notes, hnotes, hclash, rfl⟩, v, w₂, ⟨rfl, versions, hversions, -, rfl⟩, rfl, rfl⟩ := h
  have hwritten : Written (noteRow facts issuedAt (creditNoteCanonical facts) (creditNoteHash facts)
      w.db.nextId) := by
    constructor
    · exact congrArg creditNoteCanonical (hfacts _ _ _).symm
    · exact congrArg creditNoteHash (hfacts _ _ _).symm
  refine Filing.issue (Logged.of_eq rfl) ⟨hwritten, rfl, rfl⟩ ⟨rfl, rfl, rfl, rfl, rfl⟩ (fun x hx heq => ?_)
    hnotes hversions
  exact absurd (Or.inl heq.symm) (of_decide_eq_false (hclash x hx))

theorem writeRefund_files {draft : RefundDraft} {invoice : MerchantInvoice} {item : SettlementItem}
    {refunds : List SettlementRefund} {vatMinor : Int} {interaction : SettlementInteraction}
    {candidates : List String} {l : Site} : Tx.Keeps (Filing l)
      (writeRefund draft invoice item refunds (fromMinor vatMinor .SAR) interaction candidates) := by
  unfold writeRefund
  refine Tx.Keeps.quiet_bind (by grind) fun refund => Tx.Keeps.quiet_bind (by grind) fun source => ?_
  refine Tx.Keeps.quiet_bind (by grind) fun reference => Tx.Keeps.quiet_bind (by grind) fun issuedAt => ?_
  refine Tx.Keeps.bind_quiet (issueCreditNote_files ?_) (by grind)
  exact factsOf_noteRow rfl rfl (moneyToNumber_ofNumber draft.amountMinor) (moneyToNumber_ofNumber vatMinor)
    nofun

theorem refundTx_files (draft : RefundDraft) (candidates : List String) (l : Site) :
    Tx.Keeps (Filing l) (refundTx draft candidates) := by
  unfold refundTx
  refine Tx.Keeps.quiet_bind (Tx.Keeps.read _) fun invoice => ?_
  cases invoice with
  | none => exact Tx.Keeps.fail _
  | some invoice =>
      refine Tx.Keeps.quiet_bind (Tx.Keeps.ensure _ _) fun _ => Tx.Keeps.quiet_bind (Tx.Keeps.read _) fun old => ?_
      cases old with
      | some old => exact (Tx.Keeps.pure _ : Tx.Keeps Quiet _).mono fun _ _ => Filing.quiet
      | none =>
          unfold applyRefund
          refine Tx.Keeps.quiet_bind (by grind) fun _ => Tx.Keeps.quiet_bind (by grind) fun _ => ?_
          refine Tx.Keeps.quiet_bind (by grind) fun _ => Tx.Keeps.quiet_bind (by grind) fun _ => ?_
          refine Tx.Keeps.quiet_bind (Tx.Keeps.read _) fun item => ?_
          cases item with
          | none => exact Tx.Keeps.fail _
          | some item => exact Tx.Keeps.quiet_bind (by grind) fun _ => writeRefund_files

theorem writeFeeRefund_files {draft : RefundDraft} {invoice : CorporateInvoice} {vatMinor : Int}
    {candidates : List String} {l : Site} :
    Tx.Keeps (Filing l) (writeFeeRefund draft invoice vatMinor candidates) := by
  unfold writeFeeRefund
  refine Tx.Keeps.quiet_bind (by grind) fun refund => Tx.Keeps.quiet_bind (by grind) fun issuedAt => ?_
  refine Tx.Keeps.quiet_bind (by grind) fun value => Tx.Keeps.quiet_bind (by grind) fun number => ?_
  refine Tx.Keeps.quiet_bind (by grind) fun reference => ?_
  refine Tx.Keeps.bind_quiet (issueCreditNote_files ?_) fun _ => ?_
  · refine factsOf_noteRow rfl rfl (moneyToNumber_ofNumber draft.amountMinor) (moneyToNumber_ofNumber vatMinor)
      fun net hnet => ?_
    obtain rfl : fromMinor (draft.amountMinor - vatMinor) .SAR = net := Option.some.inj hnet
    exact moneyToNumber_ofNumber _
  · refine Tx.Keeps.bind (Tx.Keeps.forEach fun _ => ?_) fun _ => Tx.Keeps.pure _
    exact Tx.Keeps.bind (record_quiet _) fun _ => Tx.Keeps.pure _

theorem feeRefundTx_files (draft : RefundDraft) (candidates : List String) (l : Site) :
    Tx.Keeps (Filing l) (feeRefundTx draft candidates) := by
  unfold feeRefundTx
  refine Tx.Keeps.quiet_bind (Tx.Keeps.read _) fun invoice => ?_
  cases invoice with
  | none => exact Tx.Keeps.fail _
  | some invoice =>
      refine Tx.Keeps.quiet_bind (Tx.Keeps.ensure _ _) fun _ => Tx.Keeps.quiet_bind (Tx.Keeps.read _) fun old => ?_
      cases old with
      | some old => exact (Tx.Keeps.pure _ : Tx.Keeps Quiet _).mono fun _ _ => Filing.quiet
      | none =>
          unfold applyFeeRefund
          refine Tx.Keeps.quiet_bind (by grind) fun _ => Tx.Keeps.quiet_bind (by grind) fun _ => ?_
          refine Tx.Keeps.quiet_bind (by grind) fun _ => Tx.Keeps.quiet_bind (by grind) fun _ => ?_
          dsimp only
          split <;> exact Tx.Keeps.quiet_bind (Tx.Keeps.ensure _ _) fun _ => writeFeeRefund_files

/-! ### What each call files -/

/-- Every action of a call files something, whatever the other calls file in the meantime. -/
abbrev Files {α : Type} (x : Service α) (w : World) : Prop :=
  x.Ensures (Rely Filing) Filing (fun _ _ => True) w

variable {w : World}

theorem Svc.Keeps.files {α : Type} {x : Service α} (h : Svc.Keeps Quiet x) : Files x w :=
  h.meets (fun _ _ _ => Filing.quiet) _ w

theorem Files.bind {α β : Type} {x : Service α} {g : α → Service β} (hx : Files x w)
    (hg : ∀ a t, Files (g a) t) : Files (x >>= g) w :=
  Svc.Ensures.bind hx fun a t _ => hg a t

theorem Files.seq {α β : Type} {x : Service α} {g : α → Service β} (hx : Svc.Keeps Quiet x)
    (hg : ∀ a t, Files (g a) t) : Files (x >>= g) w :=
  (Svc.Keeps.files hx).bind hg

theorem Files.tryCatch {α : Type} {x : Service α} {handler : Err → Service α} (hx : Files x w)
    (hh : ∀ e t, Files (handler e) t) : Files (Svc.tryCatch x handler) w :=
  Prog.Meets.bind hx fun r t _ => by
    cases r with
    | ok a => exact Svc.Ensures.pure trivial
    | error e => exact hh e t

theorem Files.transaction {l : Site} {α : Type} {tx : Transaction α} (h : Tx.Keeps (Filing l) tx) :
    Files (Svc.transaction l tx) w :=
  Svc.Ensures.transaction (fun t _ => Filing.quiet (refl_of Quiet t)) fun t a u _ htx => ⟨h t a u htx, trivial⟩

section Services

theorem runRefund_files {l : Site} {invoiceType : InvoiceType} {draft : RefundDraft}
    {tx : Transaction RefundOutcome} (h : Tx.Keeps (Filing l) tx) : Files (runRefund l invoiceType draft tx) w := by
  refine Files.tryCatch (Files.transaction h) fun e t => Svc.Keeps.files ?_
  cases e <;> grind

theorem recordFeeRefund_files (origin : Option RefundOrigin) (actor : Nat) (input : RecordRefundInput)
    (candidates : List String) : Files (recordFeeRefund origin actor input candidates) w := by
  unfold recordFeeRefund
  refine Files.seq (by grind) fun texts _ => Files.seq (by grind) fun _ _ => ?_
  refine Files.seq (by grind) fun nowMs _ => Files.seq (by grind) fun draft _ => ?_
  refine Files.bind (runRefund_files (feeRefundTx_files draft candidates _)) fun outcome _ => ?_
  exact Svc.Keeps.files (by grind)

theorem recordRefund_files (origin : Option RefundOrigin) (actor : Nat) (input : RecordRefundInput)
    (candidates : List String) : Files (recordRefund origin actor input candidates) w := by
  unfold recordRefund
  refine Files.seq (by grind) fun _ _ => ?_
  cases input.invoiceType with
  | corporate_invoice => exact recordFeeRefund_files origin actor input candidates
  | merchant_invoice =>
      refine Files.seq (by grind) fun texts _ => Files.seq (by grind) fun nowMs _ => ?_
      refine Files.seq (by grind) fun draft _ => ?_
      refine Files.bind (runRefund_files (refundTx_files draft candidates _)) fun outcome _ => ?_
      exact Svc.Keeps.files (by grind)

theorem postRequest_files (actor requestId : Nat) (request : RefundRequest) (input : ExecuteRefundInput)
    (candidates : List String) : Files (postRequest actor requestId request input candidates) w := by
  unfold postRequest
  refine Files.bind (recordRefund_files _ _ _ _) fun result _ => ?_
  exact Svc.Keeps.files (by grind)

theorem executeRefund_files (actor requestId : Nat) (input : ExecuteRefundInput) (candidates : List String) :
    Files (executeRefund actor requestId input candidates) w := by
  unfold executeRefund
  refine Files.seq (by grind) fun request _ => Files.seq (by grind) fun _ _ => ?_
  refine Files.seq (by grind) fun _ _ => Files.seq (by grind) fun _ _ => ?_
  refine Files.seq (by grind) fun _ _ => Files.seq (by grind) fun _ _ => ?_
  refine Files.seq (by grind) fun latched _ => Files.seq (by grind) fun _ _ => ?_
  refine Files.bind (Files.tryCatch (postRequest_files _ _ _ _ _) fun e t => ?_) fun result _ => ?_
  · refine Svc.Keeps.files ?_
    split
    · exact Svc.Keeps.bind (by grind) fun _ => Svc.Keeps.fail _
    · exact Svc.Keeps.fail _
  · refine Svc.Keeps.files (Svc.Keeps.bind (Svc.Keeps.tryCatch (by grind) fun e => ?_) fun moved => ?_)
    · cases e <;> grind
    · grind

/-- What the write of the head stores: the columns that were read decide the bytes. -/
def headRow (note : CreditNote) (settlementId : Nat) (n : CreditNote) : CreditNote :=
  { n with
    statementSettlementId := some settlementId
    canonicalJson := creditNoteCanonical (factsOf note (some settlementId))
    documentHash := creditNoteHash (factsOf note (some settlementId))
    currentVersion := note.currentVersion + 1 }

theorem attachHead_filing {k settlementId n : Nat} {note note' : CreditNote} {u v : World}
    (hnote : u.db.creditNotes.find k = some note') (hsame : note'.statementSettlementId = none → note' = note)
    (h : updateMany Model.creditNote (fun n => n.refundId = k ∧ n.statementSettlementId = none)
      (headRow note settlementId) (fun _ => rfl) u = .ok (n, v)) :
    Filing .attachStatement u v ∧ (n = 1 → v.db.creditNotes.find k = some (attachRow settlementId note)) := by
  obtain ⟨hn, rfl⟩ := updateMany_eq_ok.mp h
  have hkey : note'.refundId = k := key_of_find hnote
  have honly : ∀ r ∈ u.db.creditNotes.rows, r.refundId = k → r = note' := fun r hr hrk =>
    row_unique u.db.creditNotes hr (mem_of_find hnote) (hrk.trans hkey.symm)
  by_cases hdetached : note'.statementSettlementId = none
  · obtain rfl := hsame hdetached
    have hmoved : u.db.creditNotes.updateMany (fun n => n.refundId = k ∧ n.statementSettlementId = none)
        (headRow note' settlementId) (fun _ => rfl) =
        u.db.creditNotes.updateMany (fun n => n.refundId = note'.refundId) (attachRow settlementId)
          fun _ => rfl := by
      refine updateMany_congr fun r hr => ?_
      by_cases hrk : r.refundId = k
      · obtain rfl := honly r hr hrk
        simp [hrk, hdetached, attachRow, headRow]
      · simp [hrk, hkey]
    refine ⟨Filing.attach (Logged.of_eq rfl) (hkey.symm ▸ hnote) hdetached hmoved rfl, fun _ => ?_⟩
    exact (congrArg (fun t => t.find k) hmoved).trans (find_attachRow hnote)
  · have hnone : ∀ r ∈ u.db.creditNotes.rows,
        decide (r.refundId = k ∧ r.statementSettlementId = none) = false := by
      intro r hr
      by_cases hrk : r.refundId = k
      · obtain rfl := honly r hr hrk
        simp [hdetached]
      · simp [hrk]
    have hsame : u.db.creditNotes.updateMany (fun n => n.refundId = k ∧ n.statementSettlementId = none)
        (headRow note settlementId) (fun _ => rfl) = u.db.creditNotes := updateMany_of_false _ hnone
    refine ⟨Filing.quiet ⟨Logged.of_eq rfl, hsame, rfl⟩, fun hone => ?_⟩
    have hzero : n = 0 := hn.trans (List.countP_eq_zero.mpr fun r hr => by simpa using hnone r hr)
    omega

theorem attachOne_files (actor : Nat) (frozen : FrozenBatchRecord) (alloc : RecoveryAllocation) :
    Files (attachOne actor frozen alloc) w := by
  unfold attachOne
  -- what a note read at any time says about the note that is stored later
  refine Svc.Ensures.bind (P := fun note t => ∀ n ∈ note, t.db.creditNotes.find alloc.occurrenceId = some n)
    (Svc.Ensures.query (fun t _ => Filing.quiet (refl_of Quiet t)) fun t _ n hn => hn) fun note t hnote => ?_
  cases note with
  | none => exact Svc.Ensures.pure trivial
  | some note =>
      have hstored := hnote note rfl
      dsimp only
      split
      · exact Svc.Ensures.pure trivial
      · rename_i hdetached
        rw [not_not] at hdetached
        refine Svc.Ensures.bind (Svc.Ensures.transaction (fun t _ => Filing.quiet (refl_of Quiet t))
          (P := fun n u => n = 1 →
            u.db.creditNotes.find alloc.occurrenceId = some (attachRow frozen.settlementId note)) ?_)
          fun attached u hattached => ?_
        · intro u n v hu hv
          obtain ⟨note', hnote', hsame⟩ := detached_of_rely hu hstored
          exact attachHead_filing hnote' hsame hv
        · split
          · rename_i hone
            have hhead := hattached hone
            refine Svc.Ensures.bind (Svc.Ensures.transaction (fun t _ => Filing.quiet (refl_of Quiet t))
              (P := fun _ _ => True) fun v row v' hv hinsert => ⟨?_, trivial⟩) fun _ _ _ => Svc.Keeps.files (audit_quiet _)
            obtain ⟨rfl, versions, hversions, -, rfl⟩ := insert_eq_ok.mp hinsert
            have hstands := attached_of_rely hv (by simp) hhead
            exact Filing.version (Logged.of_eq rfl) (mem_of_find hstands) (by simp)
              ⟨rfl, rfl, rfl, rfl, rfl⟩ rfl hversions
          · exact Svc.Ensures.pure trivial

theorem attachStatementToCreditNotes_files (actor : Nat) (frozen : FrozenBatchRecord) :
    Files (attachStatementToCreditNotes actor frozen) w :=
  Svc.Ensures.forEach (I := fun _ => True) (fun alloc _ _ _ => attachOne_files actor frozen alloc) trivial

theorem completeChain_files (actor : Nat) (frozen : FrozenBatchRecord) (remittance : SettlementRemittance) :
    Files (completeChain actor frozen remittance) w := by
  unfold completeChain
  refine Files.seq (by grind) fun _ _ => Files.seq (by grind) fun statement _ => ?_
  refine Files.bind (attachStatementToCreditNotes_files actor frozen) fun _ _ => ?_
  exact Svc.Keeps.files (by grind)

theorem completeChainZeroNet_files (actor : Nat) (frozen : FrozenBatchRecord) (closedAt : Time) :
    Files (completeChainZeroNet actor frozen closedAt) w := by
  unfold completeChainZeroNet
  refine Files.seq (by grind) fun statement _ => ?_
  refine Files.bind (attachStatementToCreditNotes_files actor frozen) fun _ _ => ?_
  exact Svc.Keeps.files (by grind)

theorem executeReady_files (actor batchId : Nat) (frozen : FrozenBatchRecord) (previewHash reference : String)
    (executedAt : Time) (netMinor : Int) (currency : CurrencyCode) :
    Files (executeReady actor batchId frozen previewHash reference executedAt netMinor currency) w := by
  unfold executeReady
  refine Files.seq (by grind) fun nowMs _ => Files.seq (by grind) fun _ _ => ?_
  refine Files.seq (by grind) fun approvals _ => Files.seq (by grind) fun aggValueDay _ => ?_
  refine Files.seq (by grind) fun recordingDay _ => Files.seq (by grind) fun aggRecordingDay _ => ?_
  refine Files.seq (by grind) fun seniors _ => Files.seq (by grind) fun _ _ => ?_
  refine Files.seq (by grind) fun settled _ => ?_
  dsimp only
  split
  · exact Files.seq (by grind) fun _ _ => completeChain_files actor frozen settled.remittance
  · exact completeChain_files actor frozen settled.remittance

theorem execute_files (actor batchId : Nat) (input : ExecuteInput) : Files (execute actor batchId input) w := by
  unfold execute
  refine Files.seq (by grind) fun _ _ => Files.seq (by grind) fun _ _ => ?_
  cases input.executedAt with
  | none => exact Svc.Keeps.files (Svc.Keeps.fail _)
  | some executedAt =>
      refine Files.seq (by grind) fun view _ => Files.seq (by grind) fun _ _ => ?_
      refine Files.seq (by grind) fun currency _ => Files.seq (by grind) fun _ _ => ?_
      refine Files.seq (by grind) fun _ _ => ?_
      split
      · refine Files.seq (by grind) fun remittance _ => ?_
        cases remittance with
        | none => exact Svc.Keeps.files (Svc.Keeps.fail _)
        | some remittance => exact Files.seq (by grind) fun _ _ => completeChain_files actor _ remittance
      · exact executeReady_files _ _ _ _ _ _ _ _

theorem closeZeroNetReady_files (actor batchId : Nat) (frozen : FrozenBatchRecord) (previewHash : String) :
    Files (closeZeroNetReady actor batchId frozen previewHash) w := by
  unfold closeZeroNetReady
  refine Files.seq (by grind) fun nowMs _ => Files.seq (by grind) fun approvals _ => ?_
  refine Files.seq (by grind) fun day _ => Files.seq (by grind) fun aggregate _ => ?_
  refine Files.seq (by grind) fun seniors _ => Files.seq (by grind) fun _ _ => ?_
  refine Files.seq (by grind) fun closed _ => ?_
  cases closed.batch.closedAt with
  | none => exact Svc.Keeps.files (Svc.Keeps.fail _)
  | some closedAt => exact completeChainZeroNet_files actor frozen closedAt

theorem closeZeroNet_files (actor batchId : Nat) (previewHash : String) :
    Files (closeZeroNet actor batchId previewHash) w := by
  unfold closeZeroNet
  refine Files.seq (by grind) fun _ _ => Files.seq (by grind) fun view _ => ?_
  refine Files.seq (by grind) fun currency _ => ?_
  dsimp only
  split
  · split
    · exact completeChainZeroNet_files actor _ _
    · exact Svc.Keeps.files (Svc.Keeps.fail _)
  · refine Files.seq (by grind) fun _ _ => Files.seq (by grind) fun _ _ => ?_
    exact closeZeroNetReady_files actor batchId _ previewHash

theorem program_files (c : Call) : Files (program c) w := by
  cases c with
  | recordRefund actor input candidates => exact Files.bind (recordRefund_files _ _ _ _) fun _ _ => Svc.Ensures.pure trivial
  | executeRefund actor requestId input candidates => exact Files.bind (executeRefund_files _ _ _ _) fun _ _ => Svc.Ensures.pure trivial
  | execute actor batchId input => exact Files.bind (execute_files _ _ _) fun _ _ => Svc.Ensures.pure trivial
  | closeZeroNet actor batchId previewHash => exact Files.bind (closeZeroNet_files _ _ _) fun _ _ => Svc.Ensures.pure trivial
  | replay actor batchId => exact Files.seq (replay_quiet _ _) fun _ _ => Svc.Ensures.pure trivial
  | _ => exact Files.seq (by grind) fun _ _ => Svc.Ensures.pure trivial

end Services

end Filings

end Qift
