import Qift.Treasury.Reconciliation

/-!
# The snapshot as totals over ledger rows

The legs of a snapshot of gathered movements, as sums of what each ledger row contributes at the cut-off.

* `countedMinor` — what a view counts of a movement at a cut-off.
* **`cashVsObligations_eq`** — remittances, safeguarding refunds, recoveries and internal transfers balance row by
  row; the difference of the two views is that of payments and payables.
* `outstanding_eq` — what is outstanding internally is what closings without a transfer left, less the transfers.
-/

namespace Qift.Treasury

open Relational Settlement Financial

def countedMinor (asOfDate : String) (value : TreasuryMovement → Int) : Option TreasuryMovement → Int
  | some m => if inCut asOfDate m then value m else 0
  | none => 0

theorem sum_included (rows : List FinancialLedgerEntry)
    (view : FinancialLedgerEntry → Option TreasuryMovement) (asOfDate : String)
    (value : TreasuryMovement → Int) :
    ((splitByAsOf (rows.filterMap view) asOfDate).included.map value).sum =
      (rows.map fun row => countedMinor asOfDate value (view row)).sum := by
  have hperm := List.perm_insertionSort byDeterministicOrder (rows.filterMap view)
  unfold splitByAsOf
  rw [((hperm.filter _).map value).sum_eq, Table.sum_map_filter]
  induction rows with
  | nil => rfl
  | cons row rest ih =>
      have hrest := ih (List.perm_insertionSort _ _)
      cases hview : view row with
      | none =>
          rw [List.filterMap_cons_none hview, hrest, List.map_cons, List.sum_cons, hview]
          simp [countedMinor]
      | some m =>
          rw [List.filterMap_cons_some hview, List.map_cons, List.sum_cons, hrest, List.map_cons,
            List.sum_cons, hview]
          rfl

/-- The part of a movement that a closing without a transfer left in the account. -/
def TreasuryMovement.dueMinor (m : TreasuryMovement) : Int := if m.nonCash then -m.signedMinor else 0

/-- The part of a movement that completes such a closing. -/
def TreasuryMovement.completedMinor (m : TreasuryMovement) : Int :=
  if m.eventType = .INTERNAL_TRANSFER_COMPLETED then m.amountMinor else 0

/-- What a row adds to the difference of the two views. -/
def asymmetryMinor (asOfDate : String) (c : Contribution) : Int :=
  countedMinor asOfDate TreasuryMovement.signedMinor c.cash -
    countedMinor asOfDate TreasuryMovement.signedMinor c.obligation -
      (countedMinor asOfDate TreasuryMovement.dueMinor c.obligation -
        countedMinor asOfDate TreasuryMovement.completedMinor c.cash)

/-- What a row adds to the internal transfers outstanding. -/
def outstandingMinor (asOfDate : String) (c : Contribution) : Int :=
  countedMinor asOfDate TreasuryMovement.dueMinor c.obligation -
    countedMinor asOfDate TreasuryMovement.completedMinor c.cash

section Legs

variable [Runtime] (ev : Evidence) (rows : List FinancialLedgerEntry)

/-- Inputs whose movements are those of some rows. -/
def Gathers (inputs : TreasuryInputs) (ev : Evidence) (rows : List FinancialLedgerEntry) : Prop :=
  inputs.cashMovements = (gather ev rows).cashMovements ∧
    inputs.obligationMovements = (gather ev rows).obligationMovements

variable {ev rows} {inputs : TreasuryInputs} (h : Gathers inputs ev rows)

include h

/-- **The internal transfers outstanding**, row by row. -/
theorem outstanding_rows : (buildTreasurySnapshot inputs).snapshot.legs.internalTransferOutstandingMinor =
    (rows.map fun row => outstandingMinor inputs.asOfDate (contribution ev row)).sum := by
  have hdue := sum_included rows (fun row => (contribution ev row).obligation) inputs.asOfDate
    TreasuryMovement.dueMinor
  have hcompleted := sum_included rows (fun row => (contribution ev row).cash) inputs.asOfDate
    TreasuryMovement.completedMinor
  have hsplit : (rows.map fun row => outstandingMinor inputs.asOfDate (contribution ev row)).sum =
      (rows.map fun row =>
        countedMinor inputs.asOfDate TreasuryMovement.dueMinor (contribution ev row).obligation).sum -
      (rows.map fun row =>
        countedMinor inputs.asOfDate TreasuryMovement.completedMinor (contribution ev row).cash).sum := by
    rw [← Table.sum_map_sub]
    rfl
  rw [hsplit, ← hdue, ← hcompleted]
  change transferDueMinor _ - completedTransferMinor _ = _
  unfold transferDueMinor completedTransferMinor
  rw [Table.sum_map_filter, Table.sum_map_filter, h.1, h.2]
  simp only [decide_eq_true_eq]
  rfl

/-- **The difference of the two views**, row by row. -/
theorem cashVsObligations_rows : (buildTreasurySnapshot inputs).snapshot.deltas.cashVsObligationsMinor =
    (rows.map fun row => asymmetryMinor inputs.asOfDate (contribution ev row)).sum := by
  have hcash := sum_included rows (fun row => (contribution ev row).cash) inputs.asOfDate
    TreasuryMovement.signedMinor
  have hobligations := sum_included rows (fun row => (contribution ev row).obligation) inputs.asOfDate
    TreasuryMovement.signedMinor
  have houtstanding := outstanding_rows h
  have hsplit : (rows.map fun row => asymmetryMinor inputs.asOfDate (contribution ev row)).sum =
      (rows.map fun row =>
        countedMinor inputs.asOfDate TreasuryMovement.signedMinor (contribution ev row).cash).sum -
      (rows.map fun row =>
        countedMinor inputs.asOfDate TreasuryMovement.signedMinor (contribution ev row).obligation).sum -
      (rows.map fun row => outstandingMinor inputs.asOfDate (contribution ev row)).sum := by
    rw [← Table.sum_map_sub, ← Table.sum_map_sub]
    rfl
  have hdelta : (buildTreasurySnapshot inputs).snapshot.deltas.cashVsObligationsMinor =
      sumMinor (splitByAsOf inputs.cashMovements inputs.asOfDate).included -
        sumMinor (splitByAsOf inputs.obligationMovements inputs.asOfDate).included -
          (buildTreasurySnapshot inputs).snapshot.legs.internalTransferOutstandingMinor := rfl
  rw [hdelta, houtstanding, h.1, h.2, hsplit, ← hcash, ← hobligations]
  rfl

end Legs

/-! ### One row -/

/-- The receipt of a row is in the cut. -/
def receivedBy (ev : Evidence) (row : FinancialLedgerEntry) (asOfDate : String) : Bool :=
  (ev.receipt row).any fun r => decide (textLE (toISOString r.receivedAt) asOfDate)

/-- A payment into the safeguarding account, at the cut-off. -/
def paymentMinor (asOfDate : String) (ev : Evidence) (row : FinancialLedgerEntry) : Int :=
  if row.eventType = .INVOICE_PAYMENT_RECEIVED ∧ row.metadata.account = some SAFEGUARDING ∧
      receivedBy ev row asOfDate = true then toMinor (moneyToNumber row.amount) .SAR else 0

/-- A payable of the corporate lane, at the cut-off. -/
def payableMinor (asOfDate : String) (ev : Evidence) (row : FinancialLedgerEntry) : Int :=
  if row.eventType = .MERCHANT_PAYABLE_ACCRUED ∧ row.orderId = none ∧
      receivedBy ev row asOfDate = true then toMinor (moneyToNumber row.amount) .SAR else 0

theorem inCut_received (ev : Evidence) (row : FinancialLedgerEntry) (asOfDate : String)
    {m : TreasuryMovement} (hm : m.valueDate = (ev.receipt row).map fun r => toISOString r.receivedAt) :
    inCut asOfDate m = receivedBy ev row asOfDate := by
  unfold inCut receivedBy
  rw [hm]
  cases ev.receipt row <;> rfl

/-- What enters both views alike makes no difference. -/
theorem asymmetry_both (asOfDate : String) {m : TreasuryMovement} (hcash : m.nonCash = false)
    (hevent : m.eventType ≠ .INTERNAL_TRANSFER_COMPLETED) : asymmetryMinor asOfDate (.both m) = 0 := by
  simp [asymmetryMinor, Contribution.both, countedMinor, TreasuryMovement.dueMinor,
    TreasuryMovement.completedMinor, hcash, hevent]

/-- **Every row but payments and payables enters both views alike**, or as what is outstanding. -/
theorem asymmetry_contribution (asOfDate : String) (ev : Evidence) (row : FinancialLedgerEntry) :
    asymmetryMinor asOfDate (contribution ev row) =
      paymentMinor asOfDate ev row - payableMinor asOfDate ev row := by
  unfold paymentMinor payableMinor contribution
  cases hevent : row.eventType with
  | INVOICE_PAYMENT_RECEIVED =>
      have hcut := inCut_received ev row asOfDate (m := receivedMovement ev row) rfl
      by_cases haccount : row.metadata.account = some SAFEGUARDING
      · simp only [haccount, ne_eq, not_true_eq_false, if_false, asymmetryMinor, countedMinor, hcut]
        simp [TreasuryMovement.completedMinor, receivedMovement, baseMovement, hevent,
          TreasuryMovement.signedMinor]
      · simp [haccount, asymmetryMinor, countedMinor]
  | MERCHANT_PAYABLE_ACCRUED =>
      have hcut := inCut_received ev row asOfDate (m := payableMovement ev row) rfl
      cases horder : row.orderId with
      | none =>
          simp only [Option.isSome_none, Bool.false_eq_true, if_false, asymmetryMinor, countedMinor, hcut]
          simp [TreasuryMovement.dueMinor, payableMovement, baseMovement, TreasuryMovement.signedMinor]
      | some orderId => simp [asymmetryMinor, countedMinor]
  | MERCHANT_REMITTANCE_PAID =>
      have hboth := asymmetry_both asOfDate (m := remittanceMovement ev row) rfl
        (by simp [remittanceMovement, baseMovement, hevent])
      simpa using hboth
  | REFUND_PAID =>
      by_cases haccount : row.metadata.account = some SAFEGUARDING
      · have hboth := asymmetry_both asOfDate (m := refundMovement ev row) rfl
          (by simp [refundMovement, baseMovement, hevent])
        simpa [haccount] using hboth
      · simp [haccount, asymmetryMinor, countedMinor]
  | INTERNAL_TRANSFER_COMPLETED =>
      -- cash that leaves completes what was outstanding
      simp only [asymmetryMinor, countedMinor]
      by_cases hcut : inCut asOfDate (transferMovement row) = true
      · simp only [hcut, if_true]
        simp [TreasuryMovement.completedMinor, transferMovement, baseMovement, hevent,
          TreasuryMovement.signedMinor]
      · simp [hcut]
  | MERCHANT_RECEIVABLE_RECOVERED =>
      by_cases hclosure : row.metadata.closureType = some .zero_net_no_transfer
      · -- an obligation that ends without cash is outstanding
        simp only [hclosure, if_true, asymmetryMinor, countedMinor]
        by_cases hcut : inCut asOfDate (nonCashMovement row) = true
        · simp only [hcut, if_true]
          simp [TreasuryMovement.dueMinor, nonCashMovement]
        · simp [hcut]
      · have hboth := asymmetry_both asOfDate (m := recoveryMovement ev row) rfl
          (by simp [recoveryMovement, baseMovement, hevent])
        simpa [hclosure] using hboth
  | _ => simp [asymmetryMinor, countedMinor]

/-- What a closing without a transfer left in the account, at the cut-off. -/
def nonCashMinor (asOfDate : String) (row : FinancialLedgerEntry) : Int :=
  if row.eventType = .MERCHANT_RECEIVABLE_RECOVERED ∧
      row.metadata.closureType = some .zero_net_no_transfer ∧
      (row.metadata.closedAt.any fun t => decide (textLE (toISOString t) asOfDate)) = true then
    toMinor (moneyToNumber row.amount) .SAR
  else 0

/-- What a completed internal transfer took out of it, at the cut-off. -/
def transferredMinor (asOfDate : String) (row : FinancialLedgerEntry) : Int :=
  if row.eventType = .INTERNAL_TRANSFER_COMPLETED ∧
      (row.metadata.valueDate.any fun t => decide (textLE (toISOString t) asOfDate)) = true then
    toMinor (moneyToNumber row.amount) .SAR
  else 0

theorem inCut_dated (asOfDate : String) {m : TreasuryMovement} {t : Option Time}
    (hm : m.valueDate = t.map toISOString) :
    inCut asOfDate m = t.any fun t => decide (textLE (toISOString t) asOfDate) := by
  unfold inCut
  rw [hm]
  cases t <;> rfl

theorem outstanding_both (asOfDate : String) {m : TreasuryMovement} (hcash : m.nonCash = false)
    (hevent : m.eventType ≠ .INTERNAL_TRANSFER_COMPLETED) : outstandingMinor asOfDate (.both m) = 0 := by
  simp [outstandingMinor, Contribution.both, countedMinor, TreasuryMovement.dueMinor,
    TreasuryMovement.completedMinor, hcash, hevent]

/-- **Only closings without a transfer and completed transfers change what is outstanding.** -/
theorem outstanding_contribution (asOfDate : String) (ev : Evidence) (row : FinancialLedgerEntry) :
    outstandingMinor asOfDate (contribution ev row) =
      nonCashMinor asOfDate row - transferredMinor asOfDate row := by
  unfold nonCashMinor transferredMinor contribution
  cases hevent : row.eventType with
  | INVOICE_PAYMENT_RECEIVED =>
      by_cases haccount : row.metadata.account = some SAFEGUARDING
      · simp [haccount, outstandingMinor, countedMinor, TreasuryMovement.completedMinor, receivedMovement,
          baseMovement, hevent]
      · simp [haccount, outstandingMinor, countedMinor]
  | MERCHANT_PAYABLE_ACCRUED =>
      cases horder : row.orderId with
      | none =>
          simp [outstandingMinor, countedMinor, TreasuryMovement.dueMinor, payableMovement, baseMovement]
      | some orderId => simp [outstandingMinor, countedMinor]
  | MERCHANT_REMITTANCE_PAID =>
      have hboth := outstanding_both asOfDate (m := remittanceMovement ev row) rfl
        (by simp [remittanceMovement, baseMovement, hevent])
      simpa using hboth
  | REFUND_PAID =>
      by_cases haccount : row.metadata.account = some SAFEGUARDING
      · have hboth := outstanding_both asOfDate (m := refundMovement ev row) rfl
          (by simp [refundMovement, baseMovement, hevent])
        simpa [haccount] using hboth
      · simp [haccount, outstandingMinor, countedMinor]
  | INTERNAL_TRANSFER_COMPLETED =>
      have hcut := inCut_dated asOfDate (m := transferMovement row) (t := row.metadata.valueDate) rfl
      simp only [outstandingMinor, countedMinor, hcut]
      simp [TreasuryMovement.completedMinor, transferMovement, baseMovement, hevent]
  | MERCHANT_RECEIVABLE_RECOVERED =>
      by_cases hclosure : row.metadata.closureType = some .zero_net_no_transfer
      · have hcut := inCut_dated asOfDate (m := nonCashMovement row) (t := row.metadata.closedAt) rfl
        simp only [hclosure, if_true, outstandingMinor, countedMinor, hcut]
        simp [TreasuryMovement.dueMinor, nonCashMovement, baseMovement, TreasuryMovement.signedMinor]
      · have hboth := outstanding_both asOfDate (m := recoveryMovement ev row) rfl
          (by simp [recoveryMovement, baseMovement, hevent])
        simpa [hclosure] using hboth
  | _ => simp [outstandingMinor, countedMinor]

section Totals

variable [Runtime] {ev : Evidence} {rows : List FinancialLedgerEntry} {inputs : TreasuryInputs}

/-- **The difference of the two views** is that of payments and payables. -/
theorem cashVsObligations_eq (h : Gathers inputs ev rows) :
    (buildTreasurySnapshot inputs).snapshot.deltas.cashVsObligationsMinor =
      (rows.map (paymentMinor inputs.asOfDate ev)).sum - (rows.map (payableMinor inputs.asOfDate ev)).sum := by
  have hrow := List.map_congr_left (l := rows) fun row _ => asymmetry_contribution inputs.asOfDate ev row
  rw [cashVsObligations_rows h, hrow, Table.sum_map_sub]

/-- **What is outstanding** is what closings without a transfer left, less the transfers. -/
theorem outstanding_eq (h : Gathers inputs ev rows) :
    (buildTreasurySnapshot inputs).snapshot.legs.internalTransferOutstandingMinor =
      (rows.map (nonCashMinor inputs.asOfDate)).sum - (rows.map (transferredMinor inputs.asOfDate)).sum := by
  have hrow := List.map_congr_left (l := rows) fun row _ => outstanding_contribution inputs.asOfDate ev row
  rw [outstanding_rows h, hrow, Table.sum_map_sub]

end Totals

end Qift.Treasury
