import Qift.Settlement.Refunds

/-!
# Execution

`settlement-execution.service.ts`: preview, approval, execution, the statement-only close and replay.

* `execute` and `closeZeroNet` pass the same gate (`authorize`), close the batch through the engine and then
  run a completion tail, `completeChain` or `completeChainZeroNet`.
* Both tails are idempotent: the remittance posting and the statement are keyed on the settlement, and a call
  on a settled batch only runs its tail again.
* `replay` regenerates the statement from the frozen record and the stored facts and compares it with the
  stored document.
-/

namespace Qift.Settlement

open Relational Interleaving Financial

section Services

variable [Runtime]

/-! ### Day aggregates -/

/-- The two bases of the day aggregate of remittances. -/
inductive AggregateBasis
  | executedAt | createdAt

def AggregateBasis.date : AggregateBasis → SettlementRemittance → Time
  | .executedAt => SettlementRemittance.executedAt
  | .createdAt => SettlementRemittance.createdAt

/-- The start of the UTC day of an instant. -/
def dayStart (t : Time) : Time := t / dayMillis * dayMillis

def dayAggregateMinor (ownSettlementId storeId : Nat) (currency : CurrencyCode) (day : Time)
    (basis : AggregateBasis) : Service Int := do
  let fromTime := dayStart day
  let toTime := fromTime + dayMillis
  let rows ← Svc.query .read (findMany Model.settlementRemittance fun r =>
    decide (r.storeId = storeId ∧ r.currency = currency ∧ r.settlementId ≠ ownSettlementId ∧
      fromTime ≤ basis.date r ∧ basis.date r < toTime))
  let zeroNetMinor ← zeroNetClosedGrossMinor ownSettlementId storeId currency fromTime toTime
  let code ← Svc.ofExcept (asCurrencyCode currency.name)
  pure ((rows.map fun r => toMinor (moneyToNumber r.amount) code).sum + zeroNetMinor)

/-- The magnitude an execution is authorised for: the net, or the gross when nothing moves. -/
def authorizationBasisMinor (frozen : FrozenBatchRecord) : Except Err Int := do
  let currency ← asCurrencyCode frozen.currency.name
  let netMinor := toMinor frozen.calculationSnapshot.netAmount currency
  if netMinor ≠ 0 then .ok netMinor
  else .ok (toMinor frozen.calculationSnapshot.lines.merchantGross currency)

/-! ### Preview and approval -/

/-- The transaction of `preview`. -/
def previewTx (frozen : FrozenBatchRecord) (preview : ExecutionPreview) (actorUserId : Nat) :
    Transaction Unit := do
  let previewedAt ← txNow
  let act ← insert Model.settlementExecutionPreview fun id =>
    { id := id
      settlementId := frozen.settlementId
      settlementReference := frozen.settlementReference
      calculationHash := preview.calculationHash
      replayVerified := preview.replayVerified
      previewedBy := actorUserId
      previewedAt := previewedAt }
  recordGuaranteed ⟨"settlement.execution.previewed", act.id⟩

def preview (actorUserId batchId : Nat) : Service ExecutionPreview := do
  let view ← frozenRecord batchId
  Svc.ensure (view.status = .ready) (.badRequest ("preview_requires_ready:" ++ view.status.name))
  let asOf ← now
  let preview ← Svc.ofExcept (buildExecutionPreview view.frozen (toISOString asOf))
  Svc.transaction .preview (previewTx view.frozen preview actorUserId)
  pure preview

/-- The transaction of `approve`. -/
def approveTx (frozen : FrozenBatchRecord) (frozenHash : String) (level actorUserId : Nat)
    (note : Option String) : Transaction SettlementApproval := do
  let approvedAt ← txNow
  let vote ← insert Model.settlementApproval fun id =>
    { id := id
      settlementId := frozen.settlementId
      settlementReference := frozen.settlementReference
      calculationHash := frozenHash
      requiredLevel := level
      approvedBy := actorUserId
      approvedAt := approvedAt
      note := trimmed note }
  recordGuaranteed ⟨"settlement.execution.approved", vote.id⟩
  pure vote

def approve (actorUserId batchId : Nat) (calculationHashInput : String) (note : Option String) :
    Service (SettlementApproval × ExecutionApprovalRequirement) := do
  let view ← frozenRecord batchId
  let frozen := view.frozen
  Svc.ensure (view.status = .ready) (.badRequest ("approval_requires_ready:" ++ view.status.name))
  Svc.ensure (view.assembledBy ≠ none) (.conflict "batch_proposer_unknown")
  Svc.ensure (view.assembledBy ≠ some actorUserId) (.conflict "approver_cannot_be_proposer")
  let frozenHash := calculationHash frozen.calculationSnapshot
  Svc.ensure (calculationHashInput = frozenHash) (.conflict "approval_snapshot_stale")
  let nowMs ← now
  let mine ← Svc.query .read (findMany Model.settlementApproval fun r =>
    decide (r.settlementId = frozen.settlementId ∧ r.approvedBy = actorUserId))
  Svc.ensure ((mine.any fun r => withinTtl nowMs r.approvedAt) = false)
    (.conflict "already_approved_by_user")
  let basis ← Svc.ofExcept (authorizationBasisMinor frozen)
  let day ← now
  let aggregate ← dayAggregateMinor frozen.settlementId frozen.storeId frozen.currency day .createdAt
  let requirement := requiredExecutionApproval basis aggregate
  let approval ← Svc.tryCatch
    (Svc.transaction .approve (approveTx frozen frozenHash requirement.level actorUserId note))
    fun e =>
      match e with
      | .p2002 _ => Svc.fail (.conflict "already_approved_by_user")
      | e => Svc.fail e
  pure (approval, requirement)

/-! ### The gate -/

/-- The latest vote of each approver, in the order of their first votes. -/
def latestByApprover (rows : List SettlementApproval) : List SettlementApproval :=
  (rows.map SettlementApproval.approvedBy).eraseDups.filterMap fun user =>
    (rows.filter fun r => r.approvedBy = user).getLast?

/-- A vote as the gate sees it. -/
def toExecutionApproval (r : SettlementApproval) : ExecutionApproval where
  settlementId := r.settlementId
  settlementReference := r.settlementReference
  calculationHash := r.calculationHash
  approvedBy := r.approvedBy
  level := r.requiredLevel
  approvedAt := toISOString r.approvedAt

/-- The preview, its recorded act and the active approvals of a frozen record, checked against each other. -/
def bindApprovals (actorUserId : Nat) (frozen : FrozenBatchRecord) (previewHash : String)
    (nowMs : Time) : Service (List ExecutionApproval) := do
  let asOf ← now
  let preview ← Svc.ofExcept (buildExecutionPreview frozen (toISOString asOf))
  Svc.ensure (previewHash = preview.calculationHash) (.conflict "preview_hash_mismatch")
  let previewActs ← Svc.query .read (findMany Model.settlementExecutionPreview fun p =>
    decide (p.settlementId = frozen.settlementId ∧
      p.calculationHash = preview.calculationHash))
  Svc.ensure ((previewActs.any fun p => withinTtl nowMs p.previewedAt) = true)
    (.conflict "preview_act_required")
  let rows ← Svc.query .read fun w =>
    orderBy SettlementApproval.approvedAt SettlementApproval.id
      (findMany Model.settlementApproval (fun r => r.settlementId = frozen.settlementId) w)
  let approvals := ((latestByApprover rows).filter fun r => withinTtl nowMs r.approvedAt).map
    toExecutionApproval
  match assertExecutionBinding frozen preview.settlementId preview.settlementReference
      preview.calculationHash preview.replayVerified approvals actorUserId with
  | .ok () => pure approvals
  | .error e =>
      -- votes existed but all have lapsed
      if e = illegalExecutionBinding "approval_required" ∧ rows ≠ [] then
        Svc.fail (.conflict "settlement_approval_expired")
      else Svc.fail e

/-- The level check on the approvals that count; the answer are the senior approvers it looked up. -/
def assertLevel (frozen : FrozenBatchRecord) (aggregate : Int)
    (approvals : List ExecutionApproval) : Service (List Nat) := do
  let basis ← Svc.ofExcept (authorizationBasisMinor frozen)
  let requirement := requiredExecutionApproval basis aggregate
  Svc.ensure (requirement.approvalsNeeded ≤ approvals.length) (.conflict "insufficient_approvals")
  if requirement.seniorRequired then do
    let seniors ← Svc.query .read fun w => w.db.seniorApprovers
    Svc.ensure (∃ a ∈ approvals, a.approvedBy ∈ seniors) (.conflict "senior_approval_required")
    pure seniors
  else pure []

/-- Every frozen item is still ready and bound. -/
def assertNoDrift (batchId : Nat) (frozen : FrozenBatchRecord) : Service Unit := do
  let items ← batchItems batchId
  Svc.ensure
    (∀ c ∈ frozen.composition, ∃ i ∈ items, i.id = c.itemId ∧ i.state = .ready)
    (.conflict "batch_drifted")

/-! ### The completion tails -/

/-- A remittance as evidence in a statement. -/
def remittanceEvidence (remittance : SettlementRemittance) : RemittanceEvidence where
  remittanceId := remittance.id
  bankTransferReference := remittance.bankTransferReference
  executedAt := toISOString remittance.executedAt
  amount := moneyToNumber remittance.amount

def closureFacts (closedAt : Time) : ZeroNetClosureFacts where
  closedAt := toISOString closedAt
  issuedUnderReplayEngine := REPLAY_ENGINE_VERSION

def statementRow (frozen : FrozenBatchRecord) (statement : SettlementStatement)
    (issuedAt : Time) (id : Nat) : SettlementStatementRecord where
  id := id
  settlementId := frozen.settlementId
  settlementReference := frozen.settlementReference
  storeId := frozen.storeId
  statementVersion := statement.statementVersion
  payload := statement
  canonicalJson := canonicalJson statement.toJson
  statementHash := hashCanonical (canonicalJson statement.toJson)
  issuedAt := issuedAt

/-- Issue the statement of a batch; a statement that exists stands. -/
def issueStatement (frozen : FrozenBatchRecord) (remittance : Option RemittanceEvidence)
    (closure : Option ZeroNetClosureFacts) : Service (Option SettlementStatementRecord) := do
  let issuedAt ← now
  let statement ← Svc.ofExcept
    (generateSettlementStatement frozen (toISOString issuedAt) remittance closure)
  Svc.tryCatch
    (do
      let created ← Svc.transaction .statement
        (insert Model.settlementStatementRecord (statementRow frozen statement issuedAt))
      pure (some created))
    fun e =>
      match e with
      | .p2002 _ => Svc.query .read
          (findUnique Model.settlementStatementRecord frozen.settlementId)
      | e => Svc.fail e

def ensureStatement (frozen : FrozenBatchRecord) (remittance : SettlementRemittance) :
    Service (Option SettlementStatementRecord) :=
  issueStatement frozen (some (remittanceEvidence remittance)) none

def ensureStatementZeroNet (frozen : FrozenBatchRecord) (closedAt : Time) :
    Service (Option SettlementStatementRecord) :=
  issueStatement frozen none (some (closureFacts closedAt))

/-- Attach the statement of a batch to the credit note behind one allocation. -/
def attachOne (actorUserId : Nat) (frozen : FrozenBatchRecord) (alloc : RecoveryAllocation) :
    Service Unit := do
  let note ← Svc.query .read (findUnique Model.creditNote alloc.occurrenceId)
  match note with
  | none => pure ()
  | some note =>
      if note.statementSettlementId ≠ none then pure ()
      else do
        let facts := factsOf note (some frozen.settlementId)
        let canonical := creditNoteCanonical facts
        let documentHash := creditNoteHash facts
        let attached ← Svc.transaction .attachStatement (updateMany Model.creditNote
          (fun n => n.refundId = alloc.occurrenceId ∧ n.statementSettlementId = none)
          (fun n =>
            { n with
              statementSettlementId := some frozen.settlementId
              canonicalJson := canonical
              documentHash := documentHash
              currentVersion := note.currentVersion + 1 }))
        if attached = 1 then do
          let _ ← Svc.transaction .creditNoteVersion (insert Model.creditNoteVersion fun _ =>
            { creditNoteId := note.id
              versionNumber := note.currentVersion + 1
              changeReason := "statement_attached"
              canonicalJson := canonical
              documentHash := documentHash
              statementSettlementId := some frozen.settlementId
              createdBy := actorUserId })
          audit ⟨"settlement.credit_note.statement_attached", note.refundId⟩
        else pure ()

def attachStatementToCreditNotes (actorUserId : Nat) (frozen : FrozenBatchRecord) :
    Service Unit :=
  Svc.forEach frozen.recoveryAllocation (attachOne actorUserId frozen)

/-- The posting of an executed remittance. -/
def remittancePosting (frozen : FrozenBatchRecord) (remittance : SettlementRemittance) :
    RecordLedgerInput where
  eventType := .MERCHANT_REMITTANCE_PAID
  reasonCode := "MERCHANT_REMITTANCE"
  amount := moneyToNumber remittance.amount
  currency := frozen.currency
  direction := .credit
  storeId := some frozen.storeId
  metadata :=
    { settlementReference := some frozen.settlementReference
      bankTransferReference := some remittance.bankTransferReference
      account := some "safeguarding" }
  idempotencyKey := some (ledgerIdempotencyKey .MERCHANT_REMITTANCE_PAID (.id remittance.id))

/-- What an execution answers. -/
structure Executed where
  settlementId : Nat
  settlementReference : String
  remittance : Option SettlementRemittance
  statement : Option SettlementStatementRecord

def completeChain (actorUserId : Nat) (frozen : FrozenBatchRecord)
    (remittance : SettlementRemittance) : Service Executed := do
  let _ ← Svc.transaction .remittancePaid (record (remittancePosting frozen remittance))
  let statement ← ensureStatement frozen remittance
  attachStatementToCreditNotes actorUserId frozen
  audit ⟨"settlement.execution.completed", frozen.settlementId⟩
  pure
    { settlementId := frozen.settlementId
      settlementReference := frozen.settlementReference
      remittance := some remittance
      statement := statement }

def completeChainZeroNet (actorUserId : Nat) (frozen : FrozenBatchRecord) (closedAt : Time) :
    Service Executed := do
  let statement ← ensureStatementZeroNet frozen closedAt
  attachStatementToCreditNotes actorUserId frozen
  audit ⟨"settlement.zero_net_statement", frozen.settlementId⟩
  pure
    { settlementId := frozen.settlementId
      settlementReference := frozen.settlementReference
      remittance := none
      statement := statement }

/-! ### Execution -/

structure ExecuteInput where
  previewHash : String
  bankTransferReference : String
  /-- `none` when the text is no date. -/
  executedAt : Option Time

/-- The movement recorded for a batch must be the one that is asked for. -/
def assertRemittanceIdentity (remittance : SettlementRemittance) (bankTransferReference : String)
    (executedAt : Time) (netMinor : Int) (currency : CurrencyCode) : Service Unit :=
  Svc.ensure
    (remittance.bankTransferReference = bankTransferReference ∧
      remittance.executedAt = executedAt ∧
      toMinor (moneyToNumber remittance.amount) currency = netMinor)
    (.conflict "remittance_conflict")

/-- The execution of a ready batch: window, gate, level, drift, close, tail. -/
def executeReady (actorUserId batchId : Nat) (frozen : FrozenBatchRecord) (previewHash : String)
    (bankTransferReference : String) (executedAt : Time) (netMinor : Int)
    (currency : CurrencyCode) : Service Executed := do
  let nowMs ← now
  Svc.ensure (withinWindow nowMs executedAt = true)
    (.badRequest "remittance_executed_at_out_of_window")
  let approvals ← bindApprovals actorUserId frozen previewHash nowMs
  let aggValueDay ← dayAggregateMinor frozen.settlementId frozen.storeId frozen.currency
    executedAt .executedAt
  let recordingDay ← now
  let aggRecordingDay ← dayAggregateMinor frozen.settlementId frozen.storeId frozen.currency
    recordingDay .createdAt
  let aggregate := max aggValueDay aggRecordingDay
  let seniors ← assertLevel frozen aggregate approvals
  assertNoDrift batchId frozen
  let settled ← markSettled batchId
    { bankTransferReference := bankTransferReference
      executedAt := executedAt
      executedBy := actorUserId }
    (some
      { executor := actorUserId
        checkedAt := nowMs
        aggregateMinor := aggregate
        seniors := seniors })
  if settled.replayed then
    assertRemittanceIdentity settled.remittance bankTransferReference executedAt netMinor currency
  else pure ()
  completeChain actorUserId frozen settled.remittance

def execute (actorUserId batchId : Nat) (input : ExecuteInput) : Service Executed := do
  assertGatesOpen
  let bankTransferReference := trim input.bankTransferReference
  Svc.ensure (bankTransferReference ≠ "") (.badRequest "remittance_bank_reference_required")
  match input.executedAt with
  | none => Svc.fail (.badRequest "remittance_executed_at_invalid")
  | some executedAt => do
      let view ← frozenRecord batchId
      let frozen := view.frozen
      Svc.ensure (view.status = .ready ∨ view.status = .settled)
        (.badRequest ("execution_requires_ready:" ++ view.status.name))
      let currency ← Svc.ofExcept (asCurrencyCode frozen.currency.name)
      let netMinor := toMinor frozen.calculationSnapshot.netAmount currency
      Svc.ensure (netMinor ≠ 0) (.badRequest "execution_use_zero_net_close")
      Svc.ensure (¬ netMinor < 0) (.badRequest "execution_requires_positive_net")
      if view.status = .settled then do
        let remittance ← Svc.query .read
          (findUnique Model.settlementRemittance frozen.settlementId)
        match remittance with
        | none => Svc.fail (.conflict "settled_without_remittance")
        | some remittance => do
            assertRemittanceIdentity remittance bankTransferReference executedAt netMinor currency
            completeChain actorUserId frozen remittance
      else
        executeReady actorUserId batchId frozen input.previewHash bankTransferReference
          executedAt netMinor currency

def closeZeroNetReady (actorUserId batchId : Nat) (frozen : FrozenBatchRecord)
    (previewHash : String) : Service Executed := do
  let nowMs ← now
  let approvals ← bindApprovals actorUserId frozen previewHash nowMs
  let day ← now
  let aggregate ← dayAggregateMinor frozen.settlementId frozen.storeId frozen.currency day .createdAt
  let seniors ← assertLevel frozen aggregate approvals
  assertNoDrift batchId frozen
  let closed ← markSettledZeroNet batchId
    (some
      { executor := actorUserId
        checkedAt := nowMs
        aggregateMinor := aggregate
        seniors := seniors })
  match closed.batch.closedAt with
  | none => Svc.fail (.conflict "zero_net_close_state_missing")
  | some closedAt => completeChainZeroNet actorUserId frozen closedAt

def closeZeroNet (actorUserId batchId : Nat) (previewHash : String) : Service Executed := do
  assertGatesOpen
  let view ← frozenRecord batchId
  let frozen := view.frozen
  let currency ← Svc.ofExcept (asCurrencyCode frozen.currency.name)
  let netMinor := toMinor frozen.calculationSnapshot.netAmount currency
  if view.status = .settled then
    match view.closureType, view.closedAt with
    | some .zero_net_no_transfer, some closedAt =>
        completeChainZeroNet actorUserId frozen closedAt
    | _, _ => Svc.fail (.conflict "settlement_already_remitted")
  else do
    Svc.ensure (view.status = .ready)
      (.badRequest ("execution_requires_ready:" ++ view.status.name))
    Svc.ensure (netMinor = 0) (.conflict "zero_net_close_requires_exact_zero")
    closeZeroNetReady actorUserId batchId frozen previewHash

/-! ### Replay -/

/-- The stored document is authentic: its bytes hash to its digest and its payload renders to its bytes. -/
def statementIntegrityOk (record : SettlementStatementRecord) : Bool :=
  decide (hashCanonical record.canonicalJson = record.statementHash ∧
    canonicalJson record.payload.toJson = record.canonicalJson)

structure ReplayReport where
  settlementId : Nat
  settlementReference : String
  replayEngineVersion : String
  calculationReplayVerified : Bool
  statementIntegrityVerified : Bool
  statementIdentical : Bool
  storedStatementHash : String
  regeneratedStatementHash : String
  statement : SettlementStatement

/-- The statement regenerated from the frozen record and the stored facts. -/
def regenerate (frozen : FrozenBatchRecord) (record : SettlementStatementRecord)
    (remittance : Option SettlementRemittance) : Except Err SettlementStatement :=
  generateSettlementStatement frozen (toISOString record.issuedAt)
    (remittance.map remittanceEvidence)
    (record.payload.closure.map fun c =>
      { closedAt := c.closedAt, issuedUnderReplayEngine := c.issuedUnderReplayEngine })

def replay (actorUserId batchId : Nat) : Service ReplayReport := do
  let view ← frozenRecord batchId
  let frozen := view.frozen
  let record ← Svc.query .read (findUnique Model.settlementStatementRecord frozen.settlementId)
  match record with
  | none => Svc.fail (.notFound "statement_not_issued")
  | some record => do
      let integrity := statementIntegrityOk record
      let remittance ← Svc.query .read (findUnique Model.settlementRemittance frozen.settlementId)
      let preview ← Svc.ofExcept (buildExecutionPreview frozen (toISOString record.issuedAt))
      let regenerated ← Svc.ofExcept (regenerate frozen record remittance)
      let regeneratedHash := statementHash regenerated
      let identical := integrity && decide (regeneratedHash = record.statementHash)
      let ranAt ← now
      let _ ← Svc.transaction .replay (insert Model.settlementReplayRecord fun id =>
        { id := id
          settlementId := frozen.settlementId
          settlementReference := frozen.settlementReference
          replayEngineVersion := REPLAY_ENGINE_VERSION
          calculationReplayVerified := preview.replayVerified
          statementIntegrityVerified := integrity
          statementIdentical := identical
          ranBy := actorUserId
          ranAt := ranAt })
      pure
        { settlementId := frozen.settlementId
          settlementReference := frozen.settlementReference
          replayEngineVersion := REPLAY_ENGINE_VERSION
          calculationReplayVerified := preview.replayVerified
          statementIntegrityVerified := integrity
          statementIdentical := identical
          storedStatementHash := record.statementHash
          regeneratedStatementHash := regeneratedHash
          statement := regenerated }

end Services

end Qift.Settlement
