import Qift.Settlement.Statement

/-!
# Execution binding

The gate of `settlement-execution-binding.ts` between a frozen batch and its execution.

* `buildExecutionPreview` renders the frozen record and recomputes it through the one calculator, comparing
  canonical bytes.
* `assertExecutionBinding` accepts an execution only from the preview of that frozen calculation and from
  approvals that quote it.
* **`replayVerified_of_frozen`** — a record whose composition and allocation are those its snapshot was
  calculated from replays; `assertExecutionBinding_ok` — the gate accepts the preview of such a record.
-/

namespace Qift.Settlement

def REPLAY_ENGINE_VERSION : String := "settle2-replay@v1"

structure ExecutionPreview where
  settlementId : Nat
  settlementReference : String
  storeId : Nat
  currency : CurrencyCode
  netAmount : Number
  itemCount : Nat
  calculationHash : String
  replayVerified : Bool
  statementDraft : SettlementStatement
  asOf : String

structure ExecutionApproval where
  settlementId : Nat
  settlementReference : String
  calculationHash : String
  approvedBy : Nat
  level : Nat
  approvedAt : String

/-- `IllegalExecutionBinding`. -/
def illegalExecutionBinding (code : String) : Err := .error ("illegal_execution_binding:" ++ code)

/-- The calculator input an entry of the composition gives back. -/
def FrozenCompositionEntry.toInput (c : FrozenCompositionEntry) : SettlementItemInput where
  itemId := c.itemId
  occurrenceType := c.occurrenceType
  occurrenceId := c.occurrenceId
  amount := c.amount
  currency := c.currency

/-- The recovery line a frozen allocation gives back. -/
def frozenRecovery (allocation : List RecoveryAllocation) : Number :=
  allocation.foldl (fun t r => t + r.amount) 0

section Binding

variable [Runtime]

def buildExecutionPreview (frozen : FrozenBatchRecord) (asOf : String) :
    Except Err ExecutionPreview := do
  let recomputed ← calculateSettlement (frozen.composition.map FrozenCompositionEntry.toInput)
    { receivableRecovery := some (frozenRecovery frozen.recoveryAllocation) }
  let replayVerified :=
    decide (canonicalJson recomputed.toJson = canonicalJson frozen.calculationSnapshot.toJson)
  let statementDraft ← generateSettlementStatement frozen asOf none none
  .ok
    { settlementId := frozen.settlementId
      settlementReference := frozen.settlementReference
      storeId := frozen.storeId
      currency := frozen.currency
      netAmount := frozen.calculationSnapshot.netAmount
      itemCount := frozen.calculationSnapshot.itemCount
      calculationHash := calculationHash frozen.calculationSnapshot
      replayVerified := replayVerified
      statementDraft := statementDraft
      asOf := asOf }

/-- The checks of the gate on one approval. -/
def assertApproval (frozen : FrozenBatchRecord) (frozenHash : String) (executorUserId : Nat)
    (approval : ExecutionApproval) : Except Err Unit :=
  if approval.settlementId ≠ frozen.settlementId ∨
      approval.settlementReference ≠ frozen.settlementReference then
    .error (illegalExecutionBinding "approval_batch_mismatch")
  else if approval.calculationHash ≠ frozenHash then
    .error (illegalExecutionBinding "approval_snapshot_mismatch")
  else if approval.approvedBy = executorUserId then
    .error (illegalExecutionBinding "executor_cannot_approve")
  else .ok ()

/-- The checks of the gate on every approval, in order. -/
def assertApprovals (frozen : FrozenBatchRecord) (frozenHash : String) (executorUserId : Nat) :
    List ExecutionApproval → Except Err Unit
  | [] => .ok ()
  | approval :: rest => do
      assertApproval frozen frozenHash executorUserId approval
      assertApprovals frozen frozenHash executorUserId rest

def assertExecutionBinding (frozen : FrozenBatchRecord) (previewSettlementId : Nat)
    (previewSettlementReference previewCalculationHash : String) (previewReplayVerified : Bool)
    (approvals : List ExecutionApproval) (executorUserId : Nat) : Except Err Unit :=
  let frozenHash := calculationHash frozen.calculationSnapshot
  if previewSettlementId ≠ frozen.settlementId then
    .error (illegalExecutionBinding "preview_batch_mismatch")
  else if previewSettlementReference ≠ frozen.settlementReference then
    .error (illegalExecutionBinding "preview_reference_mismatch")
  else if previewCalculationHash ≠ frozenHash then
    .error (illegalExecutionBinding "preview_snapshot_mismatch")
  else if previewReplayVerified = false then
    .error (illegalExecutionBinding "replay_not_verified")
  else if approvals = [] then
    .error (illegalExecutionBinding "approval_required")
  else assertApprovals frozen frozenHash executorUserId approvals

def ApprovalsQuote (frozen : FrozenBatchRecord) (executorUserId : Nat)
    (approvals : List ExecutionApproval) : Prop :=
  approvals ≠ [] ∧ ∀ a ∈ approvals, a.settlementId = frozen.settlementId ∧
    a.settlementReference = frozen.settlementReference ∧
    a.calculationHash = calculationHash frozen.calculationSnapshot ∧
    a.approvedBy ≠ executorUserId

omit [Runtime] in
theorem assertApprovals_eq_ok {frozen : FrozenBatchRecord} {frozenHash : String} {executor : Nat}
    {approvals : List ExecutionApproval} :
    assertApprovals frozen frozenHash executor approvals = .ok () ↔
      ∀ a ∈ approvals, a.settlementId = frozen.settlementId ∧
        a.settlementReference = frozen.settlementReference ∧
        a.calculationHash = frozenHash ∧ a.approvedBy ≠ executor := by
  induction approvals with
  | nil => simp [assertApprovals]
  | cons a rest ih =>
      have hone : assertApproval frozen frozenHash executor a = .ok () ↔
          a.settlementId = frozen.settlementId ∧
            a.settlementReference = frozen.settlementReference ∧
            a.calculationHash = frozenHash ∧ a.approvedBy ≠ executor := by
        unfold assertApproval
        split_ifs <;> (simp_all; try tauto)
      cases h : assertApproval frozen frozenHash executor a with
      | error e => simp [assertApprovals, h, bind, Except.bind, ← hone]
      | ok u => simp [assertApprovals, h, bind, Except.bind, ih, ← hone]

/-- The gate accepts the preview's own values of a record that replays. -/
theorem assertExecutionBinding_ok {frozen : FrozenBatchRecord} {approvals : List ExecutionApproval}
    {executor : Nat} (h : ApprovalsQuote frozen executor approvals) :
    assertExecutionBinding frozen frozen.settlementId frozen.settlementReference
      (calculationHash frozen.calculationSnapshot) true approvals executor = .ok () := by
  have hne : approvals ≠ [] := h.1
  cases approvals with
  | nil => exact absurd rfl hne
  | cons a rest =>
      simpa [assertExecutionBinding] using assertApprovals_eq_ok.mpr h.2

/-- **Replay of a frozen record.**  A record whose snapshot is what the calculator gives on its composition
and allocation replays, and its preview quotes the frozen calculation. -/
theorem replayVerified_of_frozen {frozen : FrozenBatchRecord}
    (h : calculateSettlement (frozen.composition.map FrozenCompositionEntry.toInput)
      { receivableRecovery := some (frozenRecovery frozen.recoveryAllocation) } =
        .ok frozen.calculationSnapshot) (asOf : String) :
    ∃ preview, buildExecutionPreview frozen asOf = .ok preview ∧
      preview.replayVerified = true ∧
      preview.settlementId = frozen.settlementId ∧
      preview.settlementReference = frozen.settlementReference ∧
      preview.netAmount = frozen.calculationSnapshot.netAmount ∧
      preview.calculationHash = calculationHash frozen.calculationSnapshot := by
  obtain ⟨draft, hdraft⟩ := generateSettlementStatement_ok frozen asOf none none (Or.inl rfl)
  simp only [buildExecutionPreview, h, hdraft, bind, Except.bind]
  exact ⟨_, rfl, by simp, rfl, rfl, rfl, rfl⟩

end Binding

end Qift.Settlement
