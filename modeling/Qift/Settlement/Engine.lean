import Qift.Financial.Ledger

/-!
# The settlement engine

The operations of `settlement-engine.service.ts` on batches and items.

* `simulate` and `assembleBatch` share `planRecovery` and the one calculator; assembly freezes the composition
  and binds items and receivables under guards, all in `assembleTx`.
* `markFailed`, `retry` and `holdBatch` check the transition on a status they read and then write by
  identifier.
* `supersede`, `markSettled` and `markSettledZeroNet` read first and act in one transaction each;
  `consumeRecoveryAllocation` is the consumption both closings share.
* `frozenRecord`, `batchItems` and `zeroNetClosedGrossMinor` are the read seams of the execution service.
-/

namespace Qift.Settlement

open Relational Interleaving Financial

/-! ### Reads -/

def loadBatch (batchId : Nat) : Service SettlementBatch := do
  let batch ← Svc.query .read (findUnique Model.settlementBatch batchId)
  match batch with
  | none => Svc.fail (.notFound "settlement_batch_not_found")
  | some batch => pure batch

/-- The items a batch of a store may claim, in the fixed iteration order. -/
def eligibleItems (storeId : Nat) (currency : String) : Service (List SettlementItem) :=
  Svc.query .read fun w =>
    orderBy SettlementItem.createdAt SettlementItem.id
      (findMany Model.settlementItem
        (fun i => i.storeId = storeId ∧ i.state = .eligible ∧
          i.currency.name = toUpperCase currency) w)

def toCalculatorInput (item : SettlementItem) : SettlementItemInput where
  itemId := item.id
  occurrenceType := item.occurrenceType
  occurrenceId := item.occurrenceId
  amount := moneyToNumber item.amount
  currency := item.currency

/-- The receivables a recovery may draw on, oldest first. -/
def openReceivables (storeId : Nat) (currency : String) (w : World) : List SettlementReceivable :=
  orderBy SettlementReceivable.accruedAt SettlementReceivable.id
    (findMany Model.settlementReceivable
      (fun r => r.storeId = storeId ∧ r.currency.name = currency ∧
        (r.state = .open ∨ r.state = .partially_recovered) ∧ r.stagedBySettlementId = none) w)

/-- The loop of `planRecovery`: what is taken from each receivable while the budget lasts, and the total. -/
def planLoop (code : CurrencyCode) :
    List SettlementReceivable → Int → List RecoveryAllocation × Int
  | [], _ => ([], 0)
  | r :: rest, budgetMinor =>
      if budgetMinor ≤ 0 then ([], 0)
      else
        let recoveredMinor := toMinor (moneyToNumber r.amountRecovered) code
        let balanceMinor := toMinor (moneyToNumber r.amount) code - recoveredMinor
        if balanceMinor ≤ 0 then planLoop code rest budgetMinor
        else
          let take := min balanceMinor budgetMinor
          let tail := planLoop code rest (budgetMinor - take)
          ({ receivableId := r.id
             occurrenceId := r.occurrenceId
             amount := fromMinor take code
             amountRecoveredAtPlan := fromMinor recoveredMinor code
             balanceAfter := fromMinor (balanceMinor - take) code } :: tail.1,
            take + tail.2)

/-- The gross of the items in minor units: the budget of a recovery. -/
def budgetMinor (code : CurrencyCode) (items : List SettlementItemInput) : Int :=
  (items.map fun i => toMinor i.amount code).sum

structure RecoveryPlan where
  allocation : List RecoveryAllocation
  total : Number

def planRecovery (storeId : Nat) (currency : String) (items : List SettlementItemInput) :
    Service RecoveryPlan := do
  let receivables ← Svc.query .read (openReceivables storeId currency)
  let code ← Svc.ofExcept (asCurrencyCode currency)
  let plan := planLoop code receivables (budgetMinor code items)
  pure { allocation := plan.1, total := fromMinor plan.2 code }

structure Simulation where
  snapshotAt : String
  storeId : Nat
  currency : String
  itemCount : Nat
  calculation : Option SettlementCalculation
  recoveryAllocation : List RecoveryAllocation

def simulate (storeId : Nat) (currency : String) : Service Simulation := do
  let items ← eligibleItems storeId currency
  if items = [] then do
    let snapshotAt ← now
    pure
      { snapshotAt := toISOString snapshotAt
        storeId := storeId
        currency := toUpperCase currency
        itemCount := 0
        calculation := none
        recoveryAllocation := [] }
  else do
    let recovery ← planRecovery storeId (toUpperCase currency) (items.map toCalculatorInput)
    let calculation ← Svc.ofExcept (calculateSettlement (items.map toCalculatorInput)
      { receivableRecovery := some recovery.total })
    let snapshotAt ← now
    pure
      { snapshotAt := toISOString snapshotAt
        storeId := storeId
        currency := calculation.currency.name
        itemCount := items.length
        calculation := some calculation
        recoveryAllocation := recovery.allocation }

/-- The references of the merchant invoices among some occurrences. -/
def occurrenceReferences (items : List SettlementItem) : Service (List (Nat × References)) := do
  let invoiceIds := (items.filter fun i => i.occurrenceType = "merchant_invoice").map
    SettlementItem.occurrenceId
  if invoiceIds = [] then pure []
  else do
    let invoices ← Svc.query .read
      (findMany Model.merchantInvoice fun inv => decide (inv.id ∈ invoiceIds))
    let campaigns ← Svc.query .read fun w =>
      w.db.campaigns.rows.filter fun c => decide (c.id ∈ invoices.map MerchantInvoice.campaignId)
    pure (invoices.map fun inv =>
      (inv.id,
        [("merchantInvoiceNumber", inv.merchantInvoiceNumber),
          ("campaignReference",
            (campaigns.find? fun c => c.id = inv.campaignId).bind GiftCampaign.referenceNumber)]))

/-- The composition assembly freezes. -/
def composition (items : List SettlementItem) (references : List (Nat × References)) :
    List FrozenCompositionEntry :=
  items.map fun i =>
    { itemId := i.id
      occurrenceType := i.occurrenceType
      occurrenceId := i.occurrenceId
      amount := moneyToNumber i.amount
      currency := i.currency
      references :=
        if i.occurrenceType = "merchant_invoice" then
          ((references.find? fun r => r.1 = i.occurrenceId).map Prod.snd).getD []
        else [] }

/-! ### Assembly -/

/-- Bind each item that is still eligible, unbound and of the amount that was read; the answer is how many
were. -/
def bindItems (batchId : Nat) : List SettlementItem → Transaction Nat
  | [] => pure 0
  | item :: rest => do
      let count ← updateMany Model.settlementItem
        (fun i => i.id = item.id ∧ i.state = .eligible ∧ i.batchId = none ∧ i.amount = item.amount)
        (fun i => { i with state := .ready, batchId := some batchId })
      let bound ← bindItems batchId rest
      pure (count + bound)

/-- Stage one receivable that still stands as the plan read it. -/
def stageReceivable (batchId : Nat) (alloc : RecoveryAllocation) : Transaction Unit := do
  let staged ← updateMany Model.settlementReceivable
    (fun r => r.id = alloc.receivableId ∧ (r.state = .open ∨ r.state = .partially_recovered) ∧
      r.stagedBySettlementId = none ∧
      moneyToNumber r.amountRecovered = alloc.amountRecoveredAtPlan)
    (fun r => { r with stagedBySettlementId := some batchId })
  Tx.ensure (staged = 1) (.conflict "settlement_receivables_contended")

/-- The batch row assembly creates. -/
def batchRow (actorUserId storeId : Nat) (settlementReference : String)
    (calculation : SettlementCalculation) (entries : List FrozenCompositionEntry)
    (allocation : List RecoveryAllocation) (id : Nat) : SettlementBatch where
  id := id
  settlementReference := settlementReference
  storeId := storeId
  currency := calculation.currency
  status := .ready
  windowType := "manual"
  grossAmount := Decimal.ofNumber calculation.lines.merchantGross
  netAmount := Decimal.ofNumber calculation.netAmount
  composition := entries
  calculationSnapshot := calculation
  recoveryAllocation := allocation
  assembledBy := some actorUserId
  supersededById := none
  failureEvidence := none
  closureType := none
  closedAt := none

/-- A zero-amount lifecycle marker of a batch. -/
def marker (eventType : FinancialEvent) (reasonCode : String) (currency : CurrencyCode)
    (storeId batchId : Nat) (metadata : LedgerMetadata) : RecordLedgerInput where
  eventType := eventType
  reasonCode := reasonCode
  amount := 0
  currency := currency
  direction := .debit
  storeId := some storeId
  metadata := metadata
  idempotencyKey := some (ledgerIdempotencyKey eventType (.id batchId))

/-- The transaction of `assembleBatch`. -/
def assembleTx (row : Nat → SettlementBatch) (items : List SettlementItem) :
    Transaction SettlementBatch := do
  let created ← insert Model.settlementBatch row
  let bound ← bindItems created.id items
  Tx.ensure (bound = items.length) (.conflict "settlement_items_contended")
  Tx.forEach created.recoveryAllocation (stageReceivable created.id)
  let _ ← record (marker .SETTLEMENT_STARTED "SETTLEMENT_STARTED" created.currency created.storeId
    created.id { settlementReference := some created.settlementReference })
  recordGuaranteed ⟨"settlement.batch.assembled", created.id⟩
  pure created

def MAX_ASSEMBLE_ATTEMPTS : Nat := 3

/-- The retry loop of assembly: a fresh reference for each attempt that ends in `P2002`. -/
def assembleAttempts (row : String → Nat → SettlementBatch) (items : List SettlementItem)
    (draws : Nat → List String) : Nat → Service SettlementBatch
  | 0 => Svc.fail (.p2002 "SettlementBatch")
  | remaining + 1 => do
      let settlementReference ← allocateReference
        (fun candidate w =>
          (findFirst Model.settlementBatch (fun b => b.settlementReference = candidate) w).isSome)
        (draws remaining) MAX_ALLOCATION_ATTEMPTS
      Svc.tryCatch (Svc.transaction .assemble (assembleTx (row settlementReference) items))
        fun e =>
          match e with
          | .p2002 target =>
              if remaining = 0 then Svc.fail (.p2002 target)
              else assembleAttempts row items draws remaining
          | e => Svc.fail e

/-- Assembly; `draws` are the reference candidates of each attempt. -/
def assembleBatch (actorUserId storeId : Nat) (currency : String) (draws : Nat → List String) :
    Service SettlementBatch := do
  let items ← eligibleItems storeId currency
  Svc.ensure (items ≠ []) (.badRequest "settlement_nothing_eligible")
  let recovery ← planRecovery storeId (toUpperCase currency) (items.map toCalculatorInput)
  let calculation ← Svc.ofExcept (calculateSettlement (items.map toCalculatorInput)
    { receivableRecovery := some recovery.total })
  let code ← Svc.ofExcept (asCurrencyCode calculation.currency.name)
  Svc.ensure (¬ toMinor calculation.netAmount code < 0)
    (.badRequest "settlement_negative_net_deferred")
  let references ← occurrenceReferences items
  Svc.forEach items fun item => Svc.ofExcept (assertItemTransition item.state .ready)
  assembleAttempts
    (fun settlementReference =>
      batchRow actorUserId storeId settlementReference calculation
        (composition items references) recovery.allocation)
    items draws MAX_ASSEMBLE_ATTEMPTS

/-! ### The failure lane -/

/-- `update` of a batch by its identifier alone. -/
def updateBatch (batchId : Nat) (data : SettlementBatch → SettlementBatch)
    (hdata : ∀ b, (data b).id = b.id := by intro _; rfl) : Transaction SettlementBatch := do
  let _ ← updateMany Model.settlementBatch (fun b => b.id = batchId) data hdata
  let batch ← Tx.read (findUnique Model.settlementBatch batchId)
  match batch with
  | none => Tx.fail (.error "P2025")
  | some batch => pure batch

/-- A status write of the failure lane: the transition is checked on the status that was read, the write is by
identifier. -/
def writeStatus (batch : SettlementBatch) (target : BatchState) (failureEvidence : Option String) :
    Service SettlementBatch :=
  Svc.transaction (.statusWrite batch.id batch.status target)
    (updateBatch batch.id fun b =>
      { b with status := target, failureEvidence := failureEvidence.or b.failureEvidence })

def markFailed (batchId : Nat) (evidence : String) : Service SettlementBatch := do
  let batch ← loadBatch batchId
  Svc.ofExcept (assertBatchTransition batch.status .failed)
  Svc.ensure (trim evidence ≠ "") (.badRequest "failure_evidence_required")
  writeStatus batch .failed (some (trim evidence))

def retry (batchId : Nat) : Service SettlementBatch := do
  let batch ← loadBatch batchId
  Svc.ofExcept (assertBatchTransition batch.status .ready)
  writeStatus batch .ready none

def holdBatch (batchId : Nat) (evidence : String) : Service SettlementBatch := do
  let batch ← loadBatch batchId
  Svc.ofExcept (assertBatchTransition batch.status .held)
  Svc.ensure (trim evidence ≠ "") (.badRequest "hold_evidence_required")
  writeStatus batch .held none

/-! ### Supersession -/

/-- Where a cause sends the affected items. -/
def SUPERSEDE_ITEM_DISPOSITION : String → Option ItemState
  | "composition_drift" => some .eligible
  | "hold_landed" => some .held
  | "dispute_landed" => some .disputed
  | "withdrawn" => some .eligible
  | _ => none

def HOLD_TYPES : List String :=
  ["risk_review", "verification_pending", "dispute_adjacent", "regulatory", "manual"]

structure SupersedeHold where
  holdType : String
  holdEvidence : String

/-- Where a supersession sends one item. -/
def supersededState (disposition : ItemState) (affectedItemIds : List Nat) (itemId : Nat) :
    ItemState :=
  if itemId ∈ affectedItemIds then disposition else .eligible

def unbindItem (batchId : Nat) (disposition : ItemState) (affectedItemIds : List Nat)
    (hold : Option SupersedeHold) (item : Nat × ItemState) : Transaction Unit := do
  let target := supersededState disposition affectedItemIds item.1
  Tx.ofExcept (assertItemTransition item.2 target)
  let parked : Bool := decide (item.1 ∈ affectedItemIds ∧ disposition = .held)
  let count ← updateMany Model.settlementItem
    (fun i => i.id = item.1 ∧ i.batchId = some batchId ∧ i.state = item.2)
    (fun i =>
      { i with
        state := target
        batchId := none
        holdType := if parked then hold.map SupersedeHold.holdType else i.holdType
        holdEvidence :=
          if parked then hold.map fun h => trim h.holdEvidence else i.holdEvidence })
  Tx.ensure (count = 1) (.conflict "settlement_items_contended")

/-- The transaction of `supersede`. -/
def supersedeTx (batch : SettlementBatch) (disposition : ItemState) (affectedItemIds : List Nat)
    (hold : Option SupersedeHold) (items : List (Nat × ItemState)) : Transaction Unit := do
  let _ ← updateBatch batch.id fun b => { b with status := .superseded }
  Tx.forEach items (unbindItem batch.id disposition affectedItemIds hold)
  let _ ← updateMany Model.settlementReceivable
    (fun r => r.stagedBySettlementId = some batch.id)
    (fun r => { r with stagedBySettlementId := none })
  let _ ← record (marker .SETTLEMENT_SUPERSEDED "SETTLEMENT_SUPERSEDED" batch.currency
    batch.storeId batch.id { settlementReference := some batch.settlementReference })
  recordGuaranteed ⟨"settlement.batch.superseded", batch.id⟩

def boundItems (batchId : Nat) (w : World) : List (Nat × ItemState) :=
  (orderBy SettlementItem.createdAt SettlementItem.id
    (findMany Model.settlementItem (fun i => i.batchId = some batchId) w)).map
      fun i => (i.id, i.state)

def supersede (batchId : Nat) (cause : String) (affectedItemIds : List Nat)
    (hold : Option SupersedeHold) : Service SettlementBatch := do
  match SUPERSEDE_ITEM_DISPOSITION cause with
  | none => Svc.fail (.badRequest "supersede_cause_unknown")
  | some disposition => do
      Svc.ensure
        (disposition = .held → ∃ h ∈ hold, h.holdType ∈ HOLD_TYPES ∧ trim h.holdEvidence ≠ "")
        (.badRequest "hold_type_and_evidence_required")
      let batch ← loadBatch batchId
      Svc.ofExcept (assertBatchTransition batch.status .superseded)
      let remitted ← Svc.query .read (findUnique Model.settlementRemittance batchId)
      Svc.ensure (remitted.isNone = true) (.conflict "supersede_refused_remittance_exists")
      let items ← Svc.query .read (boundItems batchId)
      Svc.ensure (∀ id ∈ affectedItemIds, id ∈ items.map Prod.fst)
        (.badRequest "supersede_item_not_in_batch")
      Svc.transaction (.supersede batchId cause affectedItemIds)
        (supersedeTx batch disposition affectedItemIds hold items)
      loadBatch batchId

/-! ### Closing -/

def consumedState (alloc : RecoveryAllocation) : ReceivableState :=
  if alloc.balanceAfter ≤ 0 then .recovered else .partially_recovered

def consumeRow (batchId : Nat) (at_ : Time) (alloc : RecoveryAllocation)
    (r : SettlementReceivable) : SettlementReceivable :=
  { r with
    state := consumedState alloc
    amountRecovered := Decimal.ofNumber (alloc.amountRecoveredAtPlan + alloc.amount)
    stagedBySettlementId := none
    recoveredAt := if consumedState alloc = .recovered then some at_ else r.recoveredAt
    recoveredBySettlementId :=
      if consumedState alloc = .recovered then some batchId else r.recoveredBySettlementId }

def recoveryPosting (batch : SettlementBatch) (metadata : LedgerMetadata)
    (alloc : RecoveryAllocation) : RecordLedgerInput where
  eventType := .MERCHANT_RECEIVABLE_RECOVERED
  reasonCode := "MERCHANT_RECEIVABLE"
  amount := alloc.amount
  currency := batch.currency
  direction := .debit
  storeId := some batch.storeId
  metadata := { metadata with settlementReference := some batch.settlementReference }
  idempotencyKey := some (ledgerIdempotencyKey .MERCHANT_RECEIVABLE_RECOVERED
    (.pair alloc.receivableId batch.id))

/-- Consume one allocation under its guards and post it. -/
def consumeOne (batch : SettlementBatch) (at_ : Time) (metadata : LedgerMetadata)
    (alloc : RecoveryAllocation) : Transaction Unit := do
  let row ← Tx.read (findUnique Model.settlementReceivable alloc.receivableId)
  match row with
  | none => Tx.fail (.conflict "settlement_receivables_contended")
  | some row => do
      Tx.ofExcept
        (if row.state = consumedState alloc then .ok ()
         else assertReceivableTransition row.state (consumedState alloc))
      let consumed ← updateMany Model.settlementReceivable
        (fun r => r.id = alloc.receivableId ∧ r.stagedBySettlementId = some batch.id ∧
          r.state = row.state ∧ moneyToNumber r.amountRecovered = alloc.amountRecoveredAtPlan)
        (consumeRow batch.id at_ alloc)
      Tx.ensure (consumed = 1) (.conflict "settlement_receivables_contended")
      let _ ← record (recoveryPosting batch metadata alloc)
      pure ()

def consumeRecoveryAllocation (batch : SettlementBatch) (at_ : Time) (metadata : LedgerMetadata) :
    Transaction Unit :=
  Tx.forEach batch.recoveryAllocation (consumeOne batch at_ metadata)

/-- The items of a frozen composition. -/
def memberIds (batch : SettlementBatch) : List Nat :=
  batch.composition.map FrozenCompositionEntry.itemId

/-- The guarded part both closings share: the batch from `ready` to `settled`, then every member. -/
def closeBatch (batch : SettlementBatch) (closureType : ClosureType) (closedAt : Time) :
    Transaction Unit := do
  let closed ← updateMany Model.settlementBatch
    (fun b => b.id = batch.id ∧ b.status = .ready)
    (fun b =>
      { b with status := .settled, closureType := some closureType, closedAt := some closedAt })
  Tx.ensure (closed = 1) (.conflict "settlement_batch_contended")
  Tx.ofExcept (assertItemTransition .ready .settled)
  let settledItems ← updateMany Model.settlementItem
    (fun i => i.id ∈ memberIds batch ∧ i.batchId = some batch.id ∧ i.state = .ready)
    (fun i => { i with state := .settled })
  Tx.ensure (settledItems = (memberIds batch).length) (.conflict "settlement_items_contended")

structure RemittanceInput where
  bankTransferReference : String
  executedAt : Time
  executedBy : Nat

/-- The remittance of a batch: its frozen net. -/
def remittanceRow (batch : SettlementBatch) (evidence : RemittanceInput) (createdAt : Time)
    (id : Nat) : SettlementRemittance where
  id := id
  settlementId := batch.id
  settlementReference := batch.settlementReference
  storeId := batch.storeId
  currency := batch.currency
  amount := batch.netAmount
  bankTransferReference := evidence.bankTransferReference
  executedAt := evidence.executedAt
  executedBy := evidence.executedBy
  createdAt := createdAt

/-- The transaction of `markSettled`. -/
def markSettledTx (batch : SettlementBatch) (evidence : RemittanceInput) :
    Transaction SettlementRemittance := do
  let closedAt ← txNow
  closeBatch batch .remitted closedAt
  let created ← insert Model.settlementRemittance (remittanceRow batch evidence closedAt)
  consumeRecoveryAllocation batch evidence.executedAt {}
  let _ ← record (marker .SETTLEMENT_COMPLETED "SETTLEMENT_COMPLETED" batch.currency batch.storeId
    batch.id
    { settlementReference := some batch.settlementReference
      bankTransferReference := some evidence.bankTransferReference })
  recordGuaranteed ⟨"settlement.batch.settled", batch.id⟩
  pure created

structure Settled where
  batch : SettlementBatch
  remittance : SettlementRemittance
  replayed : Bool

def markSettled (batchId : Nat) (evidence : RemittanceInput) (gate : Option Gate) :
    Service Settled := do
  let batch ← loadBatch batchId
  if batch.status = .settled then do
    Svc.ensure (batch.closureType ≠ some .zero_net_no_transfer)
      (.conflict "settlement_closed_zero_net")
    let remittance ← Svc.query .read (findUnique Model.settlementRemittance batchId)
    match remittance with
    | none => Svc.fail (.conflict "settled_without_remittance")
    | some remittance => pure { batch := batch, remittance := remittance, replayed := true }
  else do
    Svc.ofExcept (assertBatchTransition batch.status .settled)
    let remittance ← Svc.transaction (.markSettled batchId gate) (markSettledTx batch evidence)
    let batch ← loadBatch batchId
    pure { batch := batch, remittance := remittance, replayed := false }

/-- The metadata of a position extinguished without a transfer. -/
def zeroNetMetadata (closedAt : Time) : LedgerMetadata where
  closureType := some .zero_net_no_transfer
  closedAt := some closedAt

/-- The transaction of `markSettledZeroNet`. -/
def markSettledZeroNetTx (batch : SettlementBatch) (closedAt : Time) : Transaction Unit := do
  closeBatch batch .zero_net_no_transfer closedAt
  consumeRecoveryAllocation batch closedAt (zeroNetMetadata closedAt)
  let _ ← record (marker .SETTLEMENT_COMPLETED "SETTLEMENT_COMPLETED" batch.currency batch.storeId
    batch.id
    { zeroNetMetadata closedAt with settlementReference := some batch.settlementReference })
  recordGuaranteed ⟨"settlement.batch.closed_zero_net", batch.id⟩

structure Closed where
  batch : SettlementBatch
  replayed : Bool

def markSettledZeroNet (batchId : Nat) (gate : Option Gate) : Service Closed := do
  let batch ← loadBatch batchId
  if batch.status = .settled then do
    Svc.ensure (batch.closureType = some .zero_net_no_transfer)
      (.conflict "settlement_already_remitted")
    pure { batch := batch, replayed := true }
  else do
    Svc.ofExcept (assertBatchTransition batch.status .settled)
    let code ← Svc.ofExcept (asCurrencyCode batch.currency.name)
    Svc.ensure (toMinor (moneyToNumber batch.netAmount) code = 0)
      (.conflict "zero_net_close_requires_exact_zero")
    let closedAt ← now
    Svc.transaction (.markSettledZeroNet batchId gate) (markSettledZeroNetTx batch closedAt)
    let batch ← loadBatch batchId
    pure { batch := batch, replayed := false }

/-! ### Read seams -/

/-- What execution sees of a batch. -/
structure FrozenView where
  status : BatchState
  assembledBy : Option Nat
  closureType : Option ClosureType
  closedAt : Option Time
  frozen : FrozenBatchRecord

/-- The frozen part of a batch row. -/
def SettlementBatch.frozen (batch : SettlementBatch) : FrozenBatchRecord where
  settlementId := batch.id
  settlementReference := batch.settlementReference
  storeId := batch.storeId
  currency := batch.currency
  windowType := batch.windowType
  composition := batch.composition
  calculationSnapshot := batch.calculationSnapshot
  recoveryAllocation := batch.recoveryAllocation

def frozenRecord (batchId : Nat) : Service FrozenView := do
  let batch ← loadBatch batchId
  pure
    { status := batch.status
      assembledBy := batch.assembledBy
      closureType := batch.closureType
      closedAt := batch.closedAt
      frozen := SettlementBatch.frozen batch }

def zeroNetClosedGrossMinor (ownSettlementId storeId : Nat) (currency : CurrencyCode)
    (fromTime toTime : Time) : Service Int := do
  let rows ← Svc.query .read (findMany Model.settlementBatch fun b =>
    b.storeId = storeId ∧ b.currency = currency ∧ b.id ≠ ownSettlementId ∧
      b.closureType = some .zero_net_no_transfer ∧
      ∃ t ∈ b.closedAt, fromTime ≤ t ∧ t < toTime)
  let code ← Svc.ofExcept (asCurrencyCode currency.name)
  pure (rows.map fun r => toMinor (moneyToNumber r.grossAmount) code).sum

def batchItems (batchId : Nat) : Service (List SettlementItem) := do
  let _ ← loadBatch batchId
  Svc.query .read fun w =>
    orderBy SettlementItem.createdAt SettlementItem.id
      (findMany Model.settlementItem (fun i => i.batchId = some batchId) w)

def linkSuccessor (supersededId successorId : Nat) : Service SettlementBatch := do
  Svc.ensure (supersededId ≠ successorId) (.badRequest "successor_cannot_be_self")
  let _ ← loadBatch successorId
  let count ← Svc.transaction .linkSuccessor (updateMany Model.settlementBatch
    (fun b => b.id = supersededId ∧ b.status = .superseded ∧ b.supersededById = none)
    (fun b => { b with supersededById := some successorId }))
  if count = 0 then do
    let batch ← loadBatch supersededId
    Svc.ensure (batch.supersededById ≠ none) (.conflict "successor_link_requires_superseded")
    pure batch
  else loadBatch supersededId

end Qift.Settlement
