import Qift.Runtime

/-!
# The approval policy

The batch-execution row of `settlement-approval-policy.ts`: the band of an amount, the level it requires and
the window a bank value date must lie in.
-/

namespace Qift.Settlement

def HOUR_MS : Int := 3600000

/-- `APPROVAL_POLICY.t1Minor`. -/
def t1Minor : Int := 500000

/-- `APPROVAL_POLICY.t2Minor`. -/
def t2Minor : Int := 5000000

/-- `APPROVAL_POLICY.approvalTtlHours`. -/
def approvalTtlHours : Int := 72

/-- `APPROVAL_POLICY.executedAtMaxAgeHours`. -/
def executedAtMaxAgeHours : Int := 168

/-- `APPROVAL_POLICY.executedAtMaxSkewHours`. -/
def executedAtMaxSkewHours : Int := 24

/-- A value date inside the recording window. -/
def withinWindow (nowMs valueDate : Time) : Bool :=
  decide (¬(nowMs - valueDate > executedAtMaxAgeHours * HOUR_MS ∨
    valueDate - nowMs > executedAtMaxSkewHours * HOUR_MS))

/-- A recorded act that has not lapsed. -/
def withinTtl (nowMs recordedAt : Time) : Bool :=
  decide (nowMs - recordedAt ≤ approvalTtlHours * HOUR_MS)

inductive ExecutionBand
  | le_t1 | t1_t2 | gt_t2
  deriving DecidableEq

def executionBand (amountMinor : Int) : ExecutionBand :=
  if amountMinor ≤ t1Minor then .le_t1
  else if amountMinor ≤ t2Minor then .t1_t2
  else .gt_t2

structure ExecutionApprovalRequirement where
  level : Nat
  approvalsNeeded : Nat
  seniorRequired : Bool
  band : ExecutionBand
  aggregateBand : ExecutionBand

def requiredExecutionApproval (netMinor otherMinorToday : Int) : ExecutionApprovalRequirement :=
  let band := executionBand netMinor
  let aggregateBand := executionBand (netMinor + otherMinorToday)
  let effective :=
    if aggregateBand = .gt_t2 ∨ band = .gt_t2 then ExecutionBand.gt_t2
    else if aggregateBand = .t1_t2 ∨ band = .t1_t2 then .t1_t2
    else .le_t1
  let level := if effective = .gt_t2 then 3 else 2
  { level := level
    approvalsNeeded := if level = 3 then 2 else 1
    seniorRequired := decide (level = 3)
    band := band
    aggregateBand := effective }

end Qift.Settlement
