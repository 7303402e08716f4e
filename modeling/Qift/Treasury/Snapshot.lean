import Qift.Database

/-!
# The treasury snapshot

The pure builder of `treasury-snapshot.ts`: attested bank balance against the cash view and the obligations
view of the ledger at a cut-off date.

* `TreasuryMovement` is one signed movement with the value date of its evidence; `splitByAsOf` sets aside what
  lies after the cut-off and what has no date.
* `buildTreasurySnapshot` enumerates the differences between the three legs.  Closings without a transfer are
  non-cash: they lower the obligations and are due internally until a transfer completes them.
-/

namespace Qift.Treasury

def TREASURY_RECON_SCOPE : String := "corporate_manual_rail@pilot-1"

def TREASURY_SNAPSHOT_VERSION : String := "treasury-3way@v3"

def TREASURY_ALERT_POLICY : String := "treasury-alerts@pilot-1"

def INTERNAL_TRANSFER_AGING_ALERT_DAYS : Int := 3

inductive MovementDirection
  | inward | outward

def MovementDirection.name : MovementDirection → String
  | .inward => "in"
  | .outward => "out"

structure TreasuryMovement where
  ledgerId : Nat
  eventType : FinancialEvent
  direction : MovementDirection
  amountMinor : Int
  /-- The bank value date of the evidence; `none` when the evidence is missing. -/
  valueDate : Option String
  recordedAt : String
  reference : String
  storeId : Option Nat
  evidenceRef : Option String
  nonCash : Bool := false

structure TreasuryAttestationInput where
  id : Nat
  balanceMinor : Int
  asOfDate : String
  source : String
  evidenceRef : String

structure PendingInternalTransfer where
  settlementId : Nat
  settlementReference : String
  currency : CurrencyCode
  outstandingMinor : Int
  closedAt : Option Time
  ageDays : Int
  failedAttempts : Nat

structure TreasuryAlert where
  kind : String
  detail : String

structure ExcludedClass where
  className : String
  count : Nat
  amountMinor : Int

structure TreasuryInputs where
  accountType : String
  currency : String
  asOfDate : String
  timezone : Option String := none
  attestation : Option TreasuryAttestationInput
  pendingInternalTransfers : List PendingInternalTransfer := []
  cashMovements : List TreasuryMovement
  obligationMovements : List TreasuryMovement
  excluded : List ExcludedClass

structure TreasuryDifference where
  kind : String
  deltaMinor : Int
  detail : String
  ledgerId : Option Nat := none
  eventType : Option FinancialEvent := none

/-! ### The cut-off -/

/-- Text comparison by code units. -/
def textLE (a b : String) : Prop := codeUnits a ≤ codeUnits b

instance (a b : String) : Decidable (textLE a b) :=
  inferInstanceAs (Decidable (codeUnits a ≤ codeUnits b))

theorem textLE_trans {a b c : String} (hab : textLE a b) (hbc : textLE b c) : textLE a c :=
  le_trans (α := List Nat) hab hbc

/-- `byDeterministicOrder`: by value date, undated movements last, ties by ledger row. -/
def byDeterministicOrder (a b : TreasuryMovement) : Prop :=
  let av := a.valueDate.getD "9999-12-31T23:59:59.999Z"
  let bv := b.valueDate.getD "9999-12-31T23:59:59.999Z"
  if av = bv then a.ledgerId ≤ b.ledgerId else textLE av bv

instance (a b : TreasuryMovement) : Decidable (byDeterministicOrder a b) := by
  unfold byDeterministicOrder
  infer_instance

structure SplitMovements where
  included : List TreasuryMovement
  timing : List TreasuryMovement
  unresolved : List TreasuryMovement

/-- A movement whose value date is known and not after the cut-off. -/
def inCut (asOfDate : String) (m : TreasuryMovement) : Bool :=
  m.valueDate.any fun d => decide (textLE d asOfDate)

def splitByAsOf (movements : List TreasuryMovement) (asOfDate : String) : SplitMovements :=
  let sorted := movements.insertionSort byDeterministicOrder
  { included := sorted.filter (inCut asOfDate)
    timing := sorted.filter fun m => m.valueDate.isSome && !inCut asOfDate m
    unresolved := sorted.filter fun m => m.valueDate.isNone }

def TreasuryMovement.signedMinor (m : TreasuryMovement) : Int :=
  match m.direction with
  | .inward => m.amountMinor
  | .outward => -m.amountMinor

def sumMinor (ms : List TreasuryMovement) : Int := (ms.map TreasuryMovement.signedMinor).sum

/-! ### The legs -/

/-- Completed internal transfers among the cash movements. -/
def completedTransferMinor (cash : List TreasuryMovement) : Int :=
  ((cash.filter fun m => m.eventType = .INTERNAL_TRANSFER_COMPLETED).map
    TreasuryMovement.amountMinor).sum

/-- What closings without a transfer left in the account. -/
def transferDueMinor (obligations : List TreasuryMovement) : Int :=
  ((obligations.filter TreasuryMovement.nonCash).map fun m => -m.signedMinor).sum

structure TreasuryLegs where
  bankBalanceMinor : Option Int
  ledgerCashMinor : Int
  obligationsMinor : Int
  internalTransferDueMinor : Int
  internalTransferCompletedMinor : Int
  internalTransferOutstandingMinor : Int

structure TreasuryDeltas where
  bankVsCashMinor : Option Int
  rawCashVsObligationsMinor : Int
  cashVsObligationsMinor : Int

/-- The legs of included movements. -/
def treasuryLegs (attestation : Option TreasuryAttestationInput)
    (cash obligations : List TreasuryMovement) : TreasuryLegs :=
  let due := transferDueMinor obligations
  let completed := completedTransferMinor cash
  { bankBalanceMinor := attestation.map TreasuryAttestationInput.balanceMinor
    ledgerCashMinor := sumMinor cash
    obligationsMinor := sumMinor obligations
    internalTransferDueMinor := due
    internalTransferCompletedMinor := completed
    internalTransferOutstandingMinor := due - completed }

/-- The differences of the legs; only what is outstanding explains the raw one. -/
def TreasuryLegs.deltas (legs : TreasuryLegs) : TreasuryDeltas :=
  let raw := legs.ledgerCashMinor - legs.obligationsMinor
  { bankVsCashMinor := legs.bankBalanceMinor.map fun b => b - legs.ledgerCashMinor
    rawCashVsObligationsMinor := raw
    cashVsObligationsMinor := raw - legs.internalTransferOutstandingMinor }

/-! ### Differences and alerts -/

/-- Add a value under an event; a new event goes to the end. -/
def addByEvent (acc : List (FinancialEvent × Int)) (event : FinancialEvent) (v : Int) :
    List (FinancialEvent × Int) :=
  if acc.any fun e => e.1 = event then
    acc.map fun e => if e.1 = event then (e.1, e.2 + v) else e
  else acc ++ [(event, v)]

/-- The asymmetry of the two views by event, as text. -/
def breakdown (cash obligations : List TreasuryMovement) : String :=
  let byCash := cash.foldl (fun acc m => addByEvent acc m.eventType m.signedMinor) []
  let byEvent := obligations.foldl (fun acc m => addByEvent acc m.eventType (-m.signedMinor)) byCash
  let nonzero := (byEvent.filter fun e => e.2 ≠ 0).insertionSort fun a b =>
    textLE a.1.name b.1.name
  String.intercalate ", " (nonzero.map fun e => e.1.name ++ ":" ++ toString e.2)

def unresolvedRows : List TreasuryMovement → List Nat → List TreasuryMovement
  | [], _ => []
  | m :: rest, seen =>
      if m.ledgerId ∈ seen then unresolvedRows rest seen
      else m :: unresolvedRows rest (m.ledgerId :: seen)

def unresolvedDifference (m : TreasuryMovement) : TreasuryDifference where
  kind := "unresolved_evidence"
  deltaMinor := m.signedMinor
  detail := "Ledger row " ++ toString m.ledgerId ++ " (" ++ m.eventType.name ++
    ") has no resolvable evidence row — value date unknown."
  ledgerId := some m.ledgerId
  eventType := some m.eventType

/-- The enumerated differences, in the order of the source. -/
def enumerateDifferences (deltas : TreasuryDeltas)
    (attestation : Option TreasuryAttestationInput) (cash obligations : SplitMovements) :
    List TreasuryDifference :=
  let bank := (deltas.bankVsCashMinor.filter fun d => d ≠ 0).toList.map fun d =>
    { kind := "bank_vs_ledger_cash"
      deltaMinor := d
      detail := "Attested bank balance differs from the ledger safeguarding cash view at asOfDate (after timing items were set aside)." }
  let views : List TreasuryDifference :=
    if deltas.cashVsObligationsMinor ≠ 0 then
      [{ kind := "cash_vs_obligations"
         deltaMinor := deltas.cashVsObligationsMinor
         detail := "Ledger cash view and obligations view disagree — posting asymmetry by event type (minor units): " ++
           breakdown cash.included obligations.included }]
    else []
  let unresolved := (unresolvedRows (cash.unresolved ++ obligations.unresolved) []).map
    unresolvedDifference
  let negative := (attestation.filter fun a => decide (a.balanceMinor < 0)).toList.map fun a =>
    { kind := "negative_bank_balance"
      deltaMinor := a.balanceMinor
      detail := "Attested safeguarding balance is NEGATIVE — client money must never be overdrawn." }
  bank ++ views ++ unresolved ++ negative

inductive ReconciliationStatus
  | pending | matched | mismatched
  deriving DecidableEq

def ReconciliationStatus.name : ReconciliationStatus → String
  | .pending => "pending"
  | .matched => "matched"
  | .mismatched => "mismatched"

def enumerateAlerts (deltas : TreasuryDeltas) (status : ReconciliationStatus)
    (differences : List TreasuryDifference) (pending : List PendingInternalTransfer) :
    List TreasuryAlert :=
  let zero : List TreasuryAlert :=
    if (∃ d ∈ deltas.bankVsCashMinor, d ≠ 0) ∨ deltas.cashVsObligationsMinor ≠ 0 then
      [{ kind := "reconciliation_zero_violated"
         detail := "Reconciliation-zero health metric violated: bankVsCash=" ++
           deltas.bankVsCashMinor.elim "n/a" toString ++ ", cashVsObligations(adjusted)=" ++
           toString deltas.cashVsObligationsMinor ++ " (minor units)." }]
    else []
  let mismatched : List TreasuryAlert :=
    if status = .mismatched then
      [{ kind := "mismatched_run"
         detail := "Run is MISMATCHED with " ++ toString differences.length ++
           " enumerated difference(s) — investigate → resolve required." }]
    else []
  let unresolved : List TreasuryAlert :=
    if differences.any fun d => d.kind = "unresolved_evidence" then
      [{ kind := "unresolved_evidence"
         detail := "One or more ledger rows have no resolvable evidence — excluded from balances and enumerated." }]
    else []
  let aging := (pending.filter fun t => decide (INTERNAL_TRANSFER_AGING_ALERT_DAYS ≤ t.ageDays)).map
    fun t =>
      { kind := "internal_transfer_pending_aging"
        detail := "Internal transfer for " ++ t.settlementReference ++ " outstanding " ++
          toString t.outstandingMinor ++ " minor units for " ++ toString t.ageDays ++
          " day(s) (threshold " ++ toString INTERNAL_TRANSFER_AGING_ALERT_DAYS ++ ")." }
  zero ++ mismatched ++ unresolved ++ aging

/-! ### The snapshot -/

structure TreasurySnapshot where
  accountType : String
  currency : String
  asOfDate : String
  timezone : String
  attestationEvidenceHash : Option String
  attestation : Option TreasuryAttestationInput
  legs : TreasuryLegs
  deltas : TreasuryDeltas
  pendingInternalTransfers : List PendingInternalTransfer
  alerts : List TreasuryAlert
  nonCashClosures : List TreasuryMovement
  cash : SplitMovements
  obligations : SplitMovements
  excluded : List ExcludedClass
  differences : List TreasuryDifference
  status : ReconciliationStatus

section Rendering

/-- A whole number of minor units. -/
def minorJson (v : Int) : Json := .num v

def optionalText (s : Option String) : Json := s.elim .null .str

def TreasuryMovement.toJson (m : TreasuryMovement) : Json :=
  .obj
    ([("ledgerId", .str (toString m.ledgerId)),
      ("eventType", .str m.eventType.name),
      ("direction", .str m.direction.name),
      ("amountMinor", minorJson m.amountMinor),
      ("valueDate", optionalText m.valueDate),
      ("recordedAt", .str m.recordedAt),
      ("reference", .str m.reference),
      ("storeId", optionalText (m.storeId.map toString)),
      ("evidenceRef", optionalText m.evidenceRef)] ++
      if m.nonCash then [("nonCash", .bool true)] else [])

def SplitMovements.toJson (s : SplitMovements) : Json :=
  .obj
    [("included", .arr (s.included.map TreasuryMovement.toJson)),
      ("timing", .arr (s.timing.map TreasuryMovement.toJson)),
      ("unresolved", .arr (s.unresolved.map TreasuryMovement.toJson))]

def TreasuryAttestationInput.toJson (a : TreasuryAttestationInput) : Json :=
  .obj
    [("id", .str (toString a.id)),
      ("balanceMinor", minorJson a.balanceMinor),
      ("asOfDate", .str a.asOfDate),
      ("source", .str a.source),
      ("evidenceRef", .str a.evidenceRef)]

/-- The facts the evidence digest of an attestation covers. -/
def TreasuryAttestationInput.evidenceJson (a : TreasuryAttestationInput) : Json :=
  .obj
    [("source", .str a.source),
      ("evidenceRef", .str a.evidenceRef),
      ("balanceMinor", minorJson a.balanceMinor),
      ("asOfDate", .str a.asOfDate)]

def PendingInternalTransfer.toJson (t : PendingInternalTransfer) : Json :=
  .obj
    [("settlementId", .str (toString t.settlementId)),
      ("settlementReference", .str t.settlementReference),
      ("currency", .str t.currency.name),
      ("outstandingMinor", minorJson t.outstandingMinor),
      ("closedAt", optionalText (t.closedAt.map toISOString)),
      ("ageDays", minorJson t.ageDays),
      ("failedAttempts", minorJson t.failedAttempts)]

def TreasuryDifference.toJson (d : TreasuryDifference) : Json :=
  .obj
    ([("kind", .str d.kind), ("deltaMinor", minorJson d.deltaMinor), ("detail", .str d.detail)] ++
      (d.ledgerId.elim [] fun id => [("ledgerId", .str (toString id))]) ++
      (d.eventType.elim [] fun e => [("eventType", .str e.name)]))

def ExcludedClass.toJson (e : ExcludedClass) : Json :=
  .obj
    [("class", .str e.className), ("count", minorJson e.count),
      ("amountMinor", minorJson e.amountMinor)]

def TreasuryLegs.toJson (l : TreasuryLegs) : Json :=
  .obj
    [("bankBalanceMinor", l.bankBalanceMinor.elim .null minorJson),
      ("ledgerCashMinor", minorJson l.ledgerCashMinor),
      ("obligationsMinor", minorJson l.obligationsMinor),
      ("internalTransferDueMinor", minorJson l.internalTransferDueMinor),
      ("internalTransferCompletedMinor", minorJson l.internalTransferCompletedMinor),
      ("internalTransferOutstandingMinor", minorJson l.internalTransferOutstandingMinor)]

def TreasuryDeltas.toJson (d : TreasuryDeltas) : Json :=
  .obj
    [("bankVsCashMinor", d.bankVsCashMinor.elim .null minorJson),
      ("rawCashVsObligationsMinor", minorJson d.rawCashVsObligationsMinor),
      ("cashVsObligationsMinor", minorJson d.cashVsObligationsMinor)]

def TreasurySnapshot.toJson (s : TreasurySnapshot) : Json :=
  .obj
    [("snapshotVersion", .str TREASURY_SNAPSHOT_VERSION),
      ("alertPolicy", .str TREASURY_ALERT_POLICY),
      ("identity", .obj
        [("accountType", .str s.accountType), ("currency", .str s.currency),
          ("cutoffAt", .str s.asOfDate), ("timezone", .str s.timezone)]),
      ("attestationEvidenceHash", optionalText s.attestationEvidenceHash),
      ("scope", .str TREASURY_RECON_SCOPE),
      ("accountType", .str s.accountType),
      ("currency", .str s.currency),
      ("asOfDate", .str s.asOfDate),
      ("attestation", s.attestation.elim .null TreasuryAttestationInput.toJson),
      ("legs", s.legs.toJson),
      ("deltas", s.deltas.toJson),
      ("pendingInternalTransfers",
        .arr (s.pendingInternalTransfers.map PendingInternalTransfer.toJson)),
      ("alerts", .arr (s.alerts.map fun a =>
        .obj [("kind", .str a.kind), ("detail", .str a.detail)])),
      ("nonCashClosures", .arr (s.nonCashClosures.map TreasuryMovement.toJson)),
      ("cash", s.cash.toJson),
      ("obligations", s.obligations.toJson),
      ("excluded", .arr (s.excluded.map ExcludedClass.toJson)),
      ("differences", .arr (s.differences.map TreasuryDifference.toJson)),
      ("status", .str s.status.name)]

end Rendering

structure BuiltSnapshot where
  snapshot : TreasurySnapshot
  canonical : String
  hash : String

section Build

variable [Runtime]

def buildTreasurySnapshot (inputs : TreasuryInputs) : BuiltSnapshot :=
  let cash := splitByAsOf inputs.cashMovements inputs.asOfDate
  let obligations := splitByAsOf inputs.obligationMovements inputs.asOfDate
  let legs := treasuryLegs inputs.attestation cash.included obligations.included
  let deltas := legs.deltas
  let differences := enumerateDifferences deltas inputs.attestation cash obligations
  let status : ReconciliationStatus :=
    if differences ≠ [] then .mismatched
    else if inputs.attestation.isNone then .pending
    else .matched
  let pending := inputs.pendingInternalTransfers.insertionSort fun x y =>
    x.settlementId ≤ y.settlementId
  let snapshot : TreasurySnapshot :=
    { accountType := inputs.accountType
      currency := inputs.currency
      asOfDate := inputs.asOfDate
      timezone := inputs.timezone.getD "UTC"
      attestationEvidenceHash :=
        inputs.attestation.map fun a => hashCanonical (canonicalJson a.evidenceJson)
      attestation := inputs.attestation
      legs := legs
      deltas := deltas
      pendingInternalTransfers := pending
      alerts := enumerateAlerts deltas status differences pending
      nonCashClosures := obligations.included.filter TreasuryMovement.nonCash
      cash := cash
      obligations := obligations
      excluded := inputs.excluded.insertionSort fun a b => textLE a.className b.className
      differences := differences
      status := status }
  let canonical := canonicalJson snapshot.toJson
  { snapshot := snapshot
    canonical := canonical
    hash := hashCanonical canonical }

end Build

end Qift.Treasury
