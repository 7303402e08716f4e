import Qift.Settlement.Engine

/-!
# Eligibility

The evaluator of `settlement-eligibility.service.ts`: a pending item becomes eligible when every condition
holds on what the call read, through an update guarded on the item.
-/

namespace Qift.Settlement

open Relational Interleaving

def TERMINAL_CLAIM_STATES : List ClaimStatus :=
  [.claimed, .declined, .expired, .mismatch, .revoked]

structure ConditionResult where
  condition : String
  met : Bool
  policyVersion : Option String := none

inductive EvaluationOutcome
  | eligible | pending | contended
  deriving DecidableEq

structure EvaluatedItem where
  settlementItemId : Nat
  occurrenceId : Nat
  state : ItemState
  outcome : EvaluationOutcome
  conditions : List ConditionResult

structure Evaluation where
  storeId : Nat
  evaluatedAt : String
  itemCount : Nat
  eligibleCount : Nat
  items : List EvaluatedItem

def verifyPayoutIdentity (storeId : Nat) (evidence : String) : Service Unit := do
  Svc.ensure (trim evidence ≠ "") (.badRequest "payout_identity_evidence_required")
  let store ← Svc.query .read fun w => w.db.stores.find storeId
  Svc.ensure (store.isSome = true) (.notFound "store_not_found")
  let verifiedAt ← now
  Svc.transaction .environment (Tx.modify fun w =>
    { w with db := { w.db with
      stores := w.db.stores.updateMany (fun s => s.id = storeId)
        (fun s =>
          { s with
            payoutIdentityVerifiedAt := some verifiedAt
            payoutIdentityEvidence := some (trim evidence) })
        fun _ => rfl } })

def receiptsOf (invoiceType : InvoiceType) (invoiceId : Nat) (w : World) : List PaymentReceipt :=
  findMany Model.paymentReceipt (fun r => r.invoiceType = invoiceType ∧ r.invoiceId = invoiceId) w

def receiptTotalMinor (receipts : List PaymentReceipt) : Int :=
  (receipts.map fun r => toMinor (moneyToNumber r.amount) .SAR).sum

/-- The first condition, with the campaign it resolves. -/
def moneyReceived (item : SettlementItem) : Service (ConditionResult × Option Nat) := do
  if item.occurrenceType = "merchant_invoice" then do
    let invoice ← Svc.query .read (findUnique Model.merchantInvoice item.occurrenceId)
    match invoice with
    | none => pure ({ condition := "money_received", met := false }, none)
    | some invoice => do
        let receipts ← Svc.query .read (receiptsOf .merchant_invoice item.occurrenceId)
        let covered := receipts ≠ [] ∧
          toMinor (moneyToNumber invoice.totalAmount) .SAR ≤ receiptTotalMinor receipts
        pure ({ condition := "money_received", met := decide covered }, some invoice.campaignId)
  else pure ({ condition := "money_received", met := false }, none)

/-- The second condition: every claim of the campaign is at rest. -/
def deliveryState (campaignId : Option Nat) : Service ConditionResult := do
  let policyVersion := some "claim_window_settled@pilot-1"
  match campaignId with
  | none => pure { condition := "delivery_state", met := false, policyVersion := policyVersion }
  | some campaignId => do
      let claims ← Svc.query .read fun w =>
        w.db.claims.rows.filter fun c => c.campaignId = campaignId
      let nowMs ← now
      let unsettled := claims.filter fun c =>
        decide (c.status ∉ TERMINAL_CLAIM_STATES ∧ ¬(c.status = .pending ∧ c.expiresAt < nowMs))
      pure
        { condition := "delivery_state"
          met := decide (0 < claims.length ∧ unsettled.length = 0)
          policyVersion := policyVersion }

def evaluateItem (item : SettlementItem) (store : Store) : Service (List ConditionResult) := do
  let (received, campaignId) ← moneyReceived item
  let delivery ← deliveryState campaignId
  let gates ← gatesAttested
  pure
    [received, delivery,
      { condition := "dispute_free", met := true
        policyVersion := some "no_dispute_system@pilot-1" },
      { condition := "payout_identity_verified"
        met := store.payoutIdentityVerifiedAt.isSome },
      { condition := "no_blocking_hold", met := item.holdType.isNone },
      { condition := "threshold", met := true, policyVersion := some "threshold_zero@pilot-1" },
      { condition := "platform_gates", met := gates
        policyVersion := some "gates_attestation_env@pilot-1" }]

/-- Evaluate one item and move it when every condition is met. -/
def evaluateOne (store : Store) (item : SettlementItem) : Service EvaluatedItem := do
  let conditions ← evaluateItem item store
  let result (state : ItemState) (outcome : EvaluationOutcome) : EvaluatedItem :=
    { settlementItemId := item.id
      occurrenceId := item.occurrenceId
      state := state
      outcome := outcome
      conditions := conditions }
  if conditions.all ConditionResult.met then do
    Svc.ofExcept (assertItemTransition item.state .eligible)
    let moved ← Svc.transaction .eligible (updateMany Model.settlementItem
      (fun i => i.id = item.id ∧ i.state = .pending ∧ i.batchId = none)
      (fun i => { i with state := .eligible }))
    if moved = 1 then pure (result .eligible .eligible)
    else pure (result item.state .contended)
  else pure (result .pending .pending)

def evaluate (storeId : Nat) : Service Evaluation := do
  let store ← Svc.query .read fun w => w.db.stores.find storeId
  match store with
  | none => Svc.fail (.notFound "store_not_found")
  | some store => do
      let items ← Svc.query .read fun w =>
        orderBy SettlementItem.createdAt SettlementItem.id
          (findMany Model.settlementItem (fun i => i.storeId = storeId ∧ i.state = .pending) w)
      let results ← Svc.collect items (evaluateOne store)
      let evaluatedAt ← now
      pure
        { storeId := storeId
          evaluatedAt := toISOString evaluatedAt
          itemCount := items.length
          eligibleCount := results.countP fun r => decide (r.outcome = .eligible)
          items := results }

end Qift.Settlement
