import Qift.Treasury.Snapshot
import Qift.Financial.Ledger

/-!
# Internal transfers

`treasury-internal-transfer.service.ts`: the evidence that money left the safeguarding account after a closing
without a remittance.

* `gatherDues` totals the recovery postings of such closings by settlement.
* `recordInternalTransfer` records one bank movement for a due; a completed one posts its cash event and must
  confirm the due to the minor unit.
* `pendingInternalTransfers` is what is due and not completed, with its age.
-/

namespace Qift.Treasury

open Relational Interleaving Settlement Financial

/-- The account the treasury view is about. -/
def SAFEGUARDING : String := "safeguarding"

/-! ### What is due -/

structure InternalTransferDue where
  settlementReference : String
  currency : CurrencyCode
  dueMinor : Int
  closedAt : Option Time

/-- The settlement of a recovery posting made by a closing without a transfer. -/
def zeroNetSettlement (row : FinancialLedgerEntry) : Option Nat :=
  if row.metadata.closureType = some .zero_net_no_transfer then
    match row.idempotencyKey with
    | some ⟨.MERCHANT_RECEIVABLE_RECOVERED, .pair _ settlementId⟩ => some settlementId
    | _ => none
  else none

/-- Count a posting towards the due of its settlement. -/
def addDue (dues : List (Nat × InternalTransferDue)) (settlementId : Nat)
    (row : FinancialLedgerEntry) (amountMinor : Int) : List (Nat × InternalTransferDue) :=
  if dues.any fun d => d.1 = settlementId then
    dues.map fun d =>
      if d.1 = settlementId then (d.1, { d.2 with dueMinor := d.2.dueMinor + amountMinor }) else d
  else
    dues ++ [(settlementId,
      { settlementReference := row.metadata.settlementReference.getD (toString settlementId)
        currency := row.currency
        dueMinor := amountMinor
        closedAt := row.metadata.closedAt })]

/-- The dues of some recovery postings by settlement. -/
def collectDues (dues : List (Nat × InternalTransferDue)) :
    List FinancialLedgerEntry → Except Err (List (Nat × InternalTransferDue))
  | [] => .ok dues
  | row :: rest =>
      match zeroNetSettlement row with
      | none => collectDues dues rest
      | some settlementId => do
          let code ← asCurrencyCode row.currency.name
          collectDues (addDue dues settlementId row (toMinor (moneyToNumber row.amount) code)) rest

/-- The recovery postings of the ledger, in order. -/
def recoveryRows (w : World) : List FinancialLedgerEntry :=
  orderBy FinancialLedgerEntry.createdAt FinancialLedgerEntry.id
    (findMany Model.financialLedgerEntry
      (fun r => r.eventType = .MERCHANT_RECEIVABLE_RECOVERED) w)

def gatherDues : Service (List (Nat × InternalTransferDue)) := do
  let rows ← Svc.query .read recoveryRows
  Svc.ofExcept (collectDues [] rows)

def pendingInternalTransfers : Service (List PendingInternalTransfer) := do
  let dues ← gatherDues
  let completed ← Svc.query .read
    (findMany Model.treasuryInternalTransfer fun t => t.status = .completed)
  let failed ← Svc.query .read
    (findMany Model.treasuryInternalTransfer fun t => t.status = .failed)
  let nowMs ← now
  let sorted := dues.insertionSort fun x y => x.1 ≤ y.1
  let pending := sorted.filter fun d => !completed.any fun t => t.settlementId = d.1
  pure (pending.map fun d =>
    { settlementId := d.1
      settlementReference := d.2.settlementReference
      currency := d.2.currency
      outstandingMinor := d.2.dueMinor
      closedAt := d.2.closedAt
      ageDays := max 0 ((nowMs - d.2.closedAt.getD nowMs) / dayMillis)
      failedAttempts := failed.countP fun t => t.settlementId = d.1 })

/-! ### Recording a transfer -/

structure InternalTransferInput where
  /-- `none` when the text is blank. -/
  settlementId : Option Nat
  bankReference : String
  /-- `none` when the text is no date. -/
  valueDate : Option Time
  confirmedAmount : Number
  accountFromMasked : String
  accountToMasked : String
  status : Option String := none
  notes : Option String := none

/-- `MASKED_RE`: up to six letters, four stars, two to four digits. -/
def isMasked (s : String) : Bool :=
  let letters := s.toList.takeWhile Char.isAlpha
  let rest := s.toList.dropWhile Char.isAlpha
  let digits := rest.drop 4
  decide (letters.length ≤ 6 ∧ rest.take 4 = ['*', '*', '*', '*'] ∧
    2 ≤ digits.length ∧ digits.length ≤ 4) && digits.all Char.isDigit

/-- The text of an optional field, `none` when it is blank. -/
def nonBlank (s : Option String) : Option String :=
  (s.map trim).bind fun t => if t = "" then none else some t

/-- A transfer whose input passed the checks that read nothing. -/
structure TransferDraft where
  settlementId : Nat
  bankReference : String
  valueDate : Time
  confirmedAmount : Number
  accountFromMasked : String
  accountToMasked : String
  status : TransferStatus
  recordedBy : Nat
  notes : Option String

/-- The status asked for. -/
def transferStatus (status : Option String) : Except Err TransferStatus :=
  match (nonBlank status).getD "completed" with
  | "completed" => .ok .completed
  | "failed" => .ok .failed
  | _ => .error (.badRequest "internal_transfer_status_unknown")

/-- The checks of `recordInternalTransfer` that read nothing. -/
def transferDraft (actorUserId : Nat) (input : InternalTransferInput) :
    Except Err TransferDraft :=
  match input.settlementId with
  | none => .error (.badRequest "internal_transfer_settlement_required")
  | some settlementId =>
      if trim input.bankReference = "" then
        .error (.badRequest "internal_transfer_evidence_required")
      else
        match input.valueDate with
        | none => .error (.badRequest "internal_transfer_value_date_invalid")
        | some valueDate =>
            if input.confirmedAmount ≤ 0 then
              .error (.badRequest "internal_transfer_amount_invalid")
            else if isMasked (trim input.accountFromMasked) = false ∨
                isMasked (trim input.accountToMasked) = false then
              .error (.badRequest "internal_transfer_account_not_masked")
            else
              (transferStatus input.status).map fun status =>
                { settlementId := settlementId
                  bankReference := trim input.bankReference
                  valueDate := valueDate
                  confirmedAmount := input.confirmedAmount
                  accountFromMasked := trim input.accountFromMasked
                  accountToMasked := trim input.accountToMasked
                  status := status
                  recordedBy := actorUserId
                  notes := nonBlank input.notes }

def transferRow (draft : TransferDraft) (due : InternalTransferDue) (confirmed : Number) (id : Nat) :
    TreasuryInternalTransfer where
  id := id
  settlementId := draft.settlementId
  settlementReference := due.settlementReference
  currency := due.currency
  confirmedAmount := Decimal.ofNumber confirmed
  bankReference := draft.bankReference
  valueDate := draft.valueDate
  accountFromMasked := draft.accountFromMasked
  accountToMasked := draft.accountToMasked
  status := draft.status
  recordedBy := draft.recordedBy
  notes := draft.notes

/-- The cash event of a completed transfer. -/
def transferPosting (draft : TransferDraft) (due : InternalTransferDue) (confirmedMinor : Int) :
    RecordLedgerInput where
  eventType := .INTERNAL_TRANSFER_COMPLETED
  reasonCode := "TREASURY_INTERNAL_TRANSFER"
  amount := fromMinor confirmedMinor .SAR
  currency := due.currency
  direction := .debit
  metadata :=
    { settlementReference := some due.settlementReference
      bankReference := some draft.bankReference
      valueDate := some draft.valueDate
      account := some SAFEGUARDING }
  idempotencyKey := some (ledgerIdempotencyKey .INTERNAL_TRANSFER_COMPLETED
    (.id draft.settlementId))

/-- The audit line of a transfer. -/
def transferAuditKey (status : TransferStatus) (id : Nat) : AuditKey :=
  match status with
  | .completed => ⟨"finance.treasury.internal_transfer.completed", id⟩
  | .failed => ⟨"finance.treasury.internal_transfer.failed", id⟩

/-- The transaction of `recordInternalTransfer`. -/
def transferTx (draft : TransferDraft) (due : InternalTransferDue) (confirmedMinor : Int)
    (code : CurrencyCode) : Transaction TreasuryInternalTransfer := do
  let row ← insert Model.treasuryInternalTransfer
    (transferRow draft due (fromMinor confirmedMinor code))
  if draft.status = .completed then do
    let _ ← record (transferPosting draft due confirmedMinor)
    pure ()
  else pure ()
  recordGuaranteed (transferAuditKey draft.status row.id)
  pure row

def completedTransfer (settlementId : Nat) (w : World) : Option TreasuryInternalTransfer :=
  findFirst Model.treasuryInternalTransfer
    (fun t => t.settlementId = settlementId ∧ t.status = .completed) w

/-- Two constraints can refuse the row: the settlement was completed meanwhile, or the bank movement was
claimed before. -/
def transferCollision (draft : TransferDraft) : Service TreasuryInternalTransfer := do
  let nowCompleted ← Svc.query .read (completedTransfer draft.settlementId)
  if ∃ t ∈ nowCompleted, t.bankReference ≠ draft.bankReference then
    Svc.fail (.conflict "internal_transfer_already_completed")
  else Svc.fail (.conflict "internal_transfer_evidence_reused")

def recordInternalTransfer (actorUserId : Nat) (input : InternalTransferInput) :
    Service TreasuryInternalTransfer := do
  let draft ← Svc.ofExcept (transferDraft actorUserId input)
  let dues ← gatherDues
  match dues.find? fun d => d.1 = draft.settlementId with
  | none => Svc.fail (.conflict "internal_transfer_nothing_outstanding")
  | some (_, due) => do
      Svc.ensure (0 < due.dueMinor) (.conflict "internal_transfer_nothing_outstanding")
      let existing ← Svc.query .read (completedTransfer draft.settlementId)
      Svc.ensure (existing.isNone = true) (.conflict "internal_transfer_already_completed")
      let code ← Svc.ofExcept (asCurrencyCode due.currency.name)
      let confirmedMinor := toMinor draft.confirmedAmount code
      Svc.ensure (draft.status = .completed → confirmedMinor = due.dueMinor)
        (.conflict "internal_transfer_amount_mismatch")
      Svc.tryCatch
        (Svc.transaction (.internalTransfer draft.settlementId draft.valueDate draft.status)
          (transferTx draft due confirmedMinor code))
        fun e =>
          match e with
          | .p2002 _ => transferCollision draft
          | e => Svc.fail e

end Qift.Treasury
