import Qift.Treasury.InternalTransfer

/-!
# Gathering the movements

`gatherMovements` of `treasury-reconciliation.service.ts`: every safeguarding row of the ledger as a movement
of the cash view, of the obligations view or of both, dated by the evidence its key names.

* `Evidence` is what the lookups found; `movementsOf` classifies one ledger row.
* A row of another account or lane is excluded and counted, a row without evidence stays undated.
-/

namespace Qift.Treasury

open Relational Interleaving Settlement Financial

/-- The evidence rows a gathering looked up. -/
structure Evidence where
  receipts : List PaymentReceipt
  remittances : List SettlementRemittance
  refunds : List SettlementRefund
  /-- The remittances of the settlements recoveries were drawn by. -/
  recoveryRemittances : List SettlementRemittance

/-- `anchorOf`: the anchor of a key of the row's own event. -/
def anchorOf (row : FinancialLedgerEntry) : Option Anchor :=
  row.idempotencyKey.bind fun k => if k.event = row.eventType then some k.anchor else none

/-- The single identifier an anchor names. -/
def Anchor.single : Anchor → Option Nat
  | .id id => some id
  | _ => none

/-- The second part of a compound anchor. -/
def Anchor.second : Anchor → Option Nat
  | .pair _ second => some second
  | _ => none

def Evidence.receipt (ev : Evidence) (row : FinancialLedgerEntry) : Option PaymentReceipt :=
  ((anchorOf row).bind Anchor.single).bind fun id => ev.receipts.find? fun r => r.id = id

def Evidence.remittance (ev : Evidence) (row : FinancialLedgerEntry) :
    Option SettlementRemittance :=
  ((anchorOf row).bind Anchor.single).bind fun id => ev.remittances.find? fun r => r.id = id

def Evidence.refund (ev : Evidence) (row : FinancialLedgerEntry) : Option SettlementRefund :=
  ((anchorOf row).bind Anchor.single).bind fun id => ev.refunds.find? fun r => r.id = id

def Evidence.recovery (ev : Evidence) (row : FinancialLedgerEntry) :
    Option SettlementRemittance :=
  ((anchorOf row).bind Anchor.second).bind fun settlementId =>
    ev.recoveryRemittances.find? fun r => r.settlementId = settlementId

/-- The movement of a row, before its date and references are filled in. -/
def baseMovement (row : FinancialLedgerEntry) (direction : MovementDirection) :
    TreasuryMovement where
  ledgerId := row.id
  eventType := row.eventType
  direction := direction
  amountMinor := toMinor (moneyToNumber row.amount) .SAR
  valueDate := none
  recordedAt := toISOString row.createdAt
  reference := toString row.id
  storeId := row.storeId
  evidenceRef := none

/-- How a row names its document: invoice number, else invoice, else the row itself. -/
def invoiceReference (row : FinancialLedgerEntry) : String :=
  (row.metadata.invoiceNumber.or (row.metadata.invoiceId.map toString)).getD (toString row.id)

/-- What a row contributes to the two views, or the class it is excluded under. -/
structure Contribution where
  cash : Option TreasuryMovement := none
  obligation : Option TreasuryMovement := none
  excludedAs : Option String := none

/-- A movement of both views. -/
def Contribution.both (m : TreasuryMovement) : Contribution where
  cash := some m
  obligation := some m

def receivedMovement (ev : Evidence) (row : FinancialLedgerEntry) : TreasuryMovement :=
  let receipt := ev.receipt row
  { baseMovement row .inward with
    valueDate := receipt.map fun r => toISOString r.receivedAt
    reference := invoiceReference row
    evidenceRef := some ((receipt.map PaymentReceipt.bankReference).getD
      (row.metadata.bankReference.getD "")) }

def payableMovement (ev : Evidence) (row : FinancialLedgerEntry) : TreasuryMovement :=
  let receipt := ev.receipt row
  { baseMovement row .inward with
    valueDate := receipt.map fun r => toISOString r.receivedAt
    reference := invoiceReference row
    evidenceRef := receipt.map PaymentReceipt.bankReference }

def remittanceMovement (ev : Evidence) (row : FinancialLedgerEntry) : TreasuryMovement :=
  let remittance := ev.remittance row
  { baseMovement row .outward with
    valueDate := remittance.map fun r => toISOString r.executedAt
    reference := (row.metadata.settlementReference.or
      (remittance.map SettlementRemittance.settlementReference)).getD (toString row.id)
    evidenceRef := some ((remittance.map SettlementRemittance.bankTransferReference).getD
      (row.metadata.bankTransferReference.getD "")) }

def refundMovement (ev : Evidence) (row : FinancialLedgerEntry) : TreasuryMovement :=
  let refund := ev.refund row
  { baseMovement row .outward with
    valueDate := refund.map fun r => toISOString r.refundedAt
    reference := invoiceReference row
    evidenceRef := some ((refund.map SettlementRefund.evidenceRef).getD
      (row.metadata.evidenceRef.getD "")) }

def transferMovement (row : FinancialLedgerEntry) : TreasuryMovement :=
  { baseMovement row .outward with
    valueDate := row.metadata.valueDate.map toISOString
    reference := row.metadata.settlementReference.getD (toString row.id)
    evidenceRef := some (row.metadata.bankReference.getD "") }

/-- A position extinguished without a transfer. -/
def nonCashMovement (row : FinancialLedgerEntry) : TreasuryMovement :=
  { baseMovement row .outward with
    valueDate := row.metadata.closedAt.map toISOString
    reference := row.metadata.settlementReference.getD (toString row.id)
    nonCash := true }

def recoveryMovement (ev : Evidence) (row : FinancialLedgerEntry) : TreasuryMovement :=
  let remittance := ev.recovery row
  { baseMovement row .outward with
    valueDate := remittance.map fun r => toISOString r.executedAt
    reference := (row.metadata.settlementReference.or
      (remittance.map SettlementRemittance.settlementReference)).getD (toString row.id)
    evidenceRef := remittance.map SettlementRemittance.bankTransferReference }

/-- The events of the safeguarding views. -/
def SAFEGUARDING_EVENTS : List FinancialEvent :=
  [.INVOICE_PAYMENT_RECEIVED, .MERCHANT_PAYABLE_ACCRUED, .MERCHANT_REMITTANCE_PAID, .REFUND_PAID,
    .MERCHANT_RECEIVABLE_RECOVERED, .INTERNAL_TRANSFER_COMPLETED]

/-- How one row of the ledger enters the views. -/
def contribution (ev : Evidence) (row : FinancialLedgerEntry) : Contribution :=
  match row.eventType with
  | .INVOICE_PAYMENT_RECEIVED =>
      if row.metadata.account ≠ some SAFEGUARDING then
        { excludedAs := some "operating_account_cash" }
      else { cash := some (receivedMovement ev row) }
  | .MERCHANT_PAYABLE_ACCRUED =>
      if row.orderId.isSome then { excludedAs := some "consumer_lane_payable" }
      else { obligation := some (payableMovement ev row) }
  | .MERCHANT_REMITTANCE_PAID => .both (remittanceMovement ev row)
  | .REFUND_PAID =>
      if row.metadata.account ≠ some SAFEGUARDING then
        { excludedAs := some "operating_account_refund" }
      else .both (refundMovement ev row)
  | .INTERNAL_TRANSFER_COMPLETED => { cash := some (transferMovement row) }
  | .MERCHANT_RECEIVABLE_RECOVERED =>
      if row.metadata.closureType = some .zero_net_no_transfer then
        { obligation := some (nonCashMovement row) }
      else .both (recoveryMovement ev row)
  | _ => {}

/-- Count an excluded row under its class. -/
def exclude (acc : List ExcludedClass) (className : String) (amountMinor : Int) :
    List ExcludedClass :=
  if acc.any fun e => e.className = className then
    acc.map fun e =>
      if e.className = className then
        { e with count := e.count + 1, amountMinor := e.amountMinor + amountMinor }
      else e
  else acc ++ [{ className := className, count := 1, amountMinor := amountMinor }]

structure GatheredMovements where
  cashMovements : List TreasuryMovement
  obligationMovements : List TreasuryMovement
  excluded : List ExcludedClass

/-- The views of some ledger rows under the evidence that was found. -/
def gather (ev : Evidence) (rows : List FinancialLedgerEntry) : GatheredMovements where
  cashMovements := rows.filterMap fun row => (contribution ev row).cash
  obligationMovements := rows.filterMap fun row => (contribution ev row).obligation
  excluded := rows.foldl
    (fun acc row =>
      match (contribution ev row).excludedAs with
      | some className => exclude acc className (toMinor (moneyToNumber row.amount) .SAR)
      | none => acc) []

/-- The ledger rows a gathering classifies, in order. -/
def safeguardingRows (w : World) : List FinancialLedgerEntry :=
  orderBy FinancialLedgerEntry.createdAt FinancialLedgerEntry.id
    (findMany Model.financialLedgerEntry (fun r => r.eventType ∈ SAFEGUARDING_EVENTS) w)

/-- The identifiers some rows of one event are anchored by. -/
def anchoredIds (rows : List FinancialLedgerEntry) (cond : FinancialLedgerEntry → Bool)
    (part : Anchor → Option Nat) : List Nat :=
  (rows.filter cond).filterMap fun row => (anchorOf row).bind part

def gatherMovements : Service GatheredMovements := do
  let rows ← Svc.query .read safeguardingRows
  let receiptIds := anchoredIds rows (fun r => decide ((r.eventType = .INVOICE_PAYMENT_RECEIVED ∨
    r.eventType = .MERCHANT_PAYABLE_ACCRUED) ∧ r.orderId = none)) Anchor.single
  let remittanceIds := anchoredIds rows
    (fun r => decide (r.eventType = .MERCHANT_REMITTANCE_PAID)) Anchor.single
  let refundIds := anchoredIds rows (fun r => decide (r.eventType = .REFUND_PAID)) Anchor.single
  let recoverySettlementIds := anchoredIds rows
    (fun r => decide (r.eventType = .MERCHANT_RECEIVABLE_RECOVERED)) Anchor.second
  let receipts ← Svc.query .read
    (findMany Model.paymentReceipt fun r => decide (r.id ∈ receiptIds))
  let remittances ← Svc.query .read
    (findMany Model.settlementRemittance fun r => decide (r.id ∈ remittanceIds))
  let refunds ← Svc.query .read
    (findMany Model.settlementRefund fun r => decide (r.id ∈ refundIds))
  let recoveryRemits ← Svc.query .read
    (findMany Model.settlementRemittance fun r => decide (r.settlementId ∈ recoverySettlementIds))
  pure (gather
    { receipts := receipts
      remittances := remittances
      refunds := refunds
      recoveryRemittances := recoveryRemits } rows)

end Qift.Treasury
