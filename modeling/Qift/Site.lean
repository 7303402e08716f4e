import Qift.Database

/-!
# Where a service acts

Every atomic action of a service call is labelled with the place in the program that performs it: a read, a
single write or a transaction.  `Service` and `Transaction` are the two monads the services are written in.
-/

namespace Qift

open Interleaving

/-- What an execution had established when it settled: who executed, the instant it compared ages with, the day
aggregate it counted and the senior approvers it looked up. -/
structure Gate where
  executor : Nat
  checkedAt : Time
  aggregateMinor : Int
  seniors : List Nat

/-- The refund request a refund is recorded for and the evidence it names. -/
structure RefundOrigin where
  requestId : Nat
  evidenceRef : String

/-- The place of an atomic action. -/
inductive Site
  /-- A query, a clock read or an audit line on its own. -/
  | read
  /-- What the modelled services do not own: clock, configuration, invoices issued, claims, consumer orders. -/
  | environment
  | assemble
  /-- `markFailed`, `retry`, `holdBatch`: the batch, the status the call read and the status it writes. -/
  | statusWrite (batchId : Nat) (readStatus target : Settlement.BatchState)
  | supersede (batchId : Nat) (cause : String) (affectedItemIds : List Nat)
  /-- A closing; an execution passes the gate it went through, a bare closing has none. -/
  | markSettled (batchId : Nat) (gate : Option Gate)
  | markSettledZeroNet (batchId : Nat) (gate : Option Gate)
  | linkSuccessor
  | eligible
  | receipt
  | coverage
  | settlementItem
  | revenue
  | refund (origin : Option RefundOrigin)
  | feeRefund (origin : Option RefundOrigin)
  | requestRefund
  | approveRefund (requestId : Nat)
  /-- The latch of an execution, its release after a refusal and its completion. -/
  | latchRefund (requestId : Nat)
  | releaseRefund (requestId : Nat) (evidenceRef : String)
  | finalizeRefund (requestId refundId : Nat)
  | cancelRefund (requestId : Nat)
  | preview
  | approve
  | remittancePaid
  | statement
  | attachStatement
  | creditNoteVersion
  | replay
  /-- An internal transfer recorded for a settlement with a bank value date. -/
  | internalTransfer (settlementId : Nat) (valueDate : Time) (status : TransferStatus)

/-- A service call on the platform. -/
abbrev Service := Svc World Site Err

/-- The body of a database transaction. -/
abbrev Transaction := Tx World Err

/-- `clock.now()`. -/
def now : Service Time := Svc.query .read fun w => w.db.now

/-- `clock.now()` inside a transaction. -/
def txNow : Transaction Time := Tx.read fun w => w.db.now

@[simp] theorem txNow_eq_ok {w w' : World} {t : Time} :
    txNow w = .ok (t, w') ↔ w.db.now = t ∧ w = w' :=
  Tx.read_eq_ok

/-- `process.env` holds the gates attestation. -/
def gatesAttested : Service Bool := Svc.query .read fun w => w.db.gatesAttested

/-- A guaranteed audit line outside a transaction. -/
def audit (auditKey : AuditKey) : Service Unit := Svc.transaction .read (recordGuaranteed auditKey)

def MAX_ALLOCATION_ATTEMPTS : Nat := 5

/-- `allocateReference`: the first of the drawn candidates that is not taken; every check is a read. -/
def allocateReference (isTaken : String → World → Bool) : List String → Nat → Service String
  | candidate :: rest, attempts + 1 => do
      let taken ← Svc.query .read (isTaken candidate)
      if taken then allocateReference isTaken rest attempts else pure candidate
  | _, _ => Svc.fail (.error "reference_allocation_exhausted")

/-- `allocateReference` inside a transaction. -/
def txAllocateReference (isTaken : String → World → Bool) (candidates : List String) :
    Transaction String := fun w =>
  match (candidates.take MAX_ALLOCATION_ATTEMPTS).find? fun c => !isTaken c w with
  | some candidate => .ok (candidate, w)
  | none => .error (.error "reference_allocation_exhausted")

end Qift
