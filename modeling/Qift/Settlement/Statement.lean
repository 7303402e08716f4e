import Qift.Settlement.Calculator

/-!
# The settlement statement

The pure document of `settlement-statement.ts`: a function of the frozen record of a batch and of supplied
facts.

* `FrozenBatchRecord` is what assembly froze; `RemittanceEvidence` and `ZeroNetClosureFacts` are the facts a
  closing adds.
* `calculationHash` names a frozen calculation, `statementHash` a statement; both are digests of canonical
  JSON.
* `generateSettlementStatement` builds the remitted (`v1`) and the statement-only (`v2`) document and refuses
  a closing that is both.
-/

namespace Qift.Settlement

structure FrozenCompositionEntry where
  itemId : Nat
  occurrenceType : String
  occurrenceId : Nat
  amount : Number
  currency : CurrencyCode
  references : References

/-- One receivable offset behind the recovery line. -/
structure RecoveryAllocation where
  receivableId : Nat
  occurrenceId : Nat
  amount : Number
  amountRecoveredAtPlan : Number
  balanceAfter : Number

structure FrozenBatchRecord where
  settlementId : Nat
  settlementReference : String
  storeId : Nat
  currency : CurrencyCode
  windowType : String
  composition : List FrozenCompositionEntry
  calculationSnapshot : SettlementCalculation
  recoveryAllocation : List RecoveryAllocation

structure RemittanceEvidence where
  remittanceId : Nat
  bankTransferReference : String
  executedAt : String
  amount : Number

structure ZeroNetClosureFacts where
  closedAt : String
  issuedUnderReplayEngine : String

def ZERO_NET_NO_TRANSFER_TEXT : String :=
  "No bank transfer occurred. The frozen net of this settlement batch is exactly zero; this Settlement Statement is the sole and complete instrument of closure (Settlement Constitution §26). No remittance exists for this batch and none is due."

/-- The closing section of a statement-only document. -/
structure StatementClosure where
  noTransferStatement : String
  closedAt : String
  issuedUnderReplayEngine : String
  merchantGross : Number
  receivableRecovery : Number
  net : Number

/-- An occurrence as a statement covers it. -/
structure CoveredOccurrence where
  occurrenceType : String
  occurrenceId : Nat
  amount : Number
  currency : CurrencyCode
  references : References

structure SettlementStatement where
  statementVersion : String
  settlementReference : String
  settlementId : Nat
  storeId : Nat
  currency : CurrencyCode
  windowType : String
  issuedAt : String
  coveredOccurrences : List CoveredOccurrence
  lines : SettlementLines
  netAmount : Number
  itemCount : Nat
  remittance : Option RemittanceEvidence
  calculationHash : String
  closure : Option StatementClosure

/-! ### The documents as JSON -/

/-- Identifiers are text. -/
def idText (id : Nat) : String := toString id

def SettlementLines.toJson (lines : SettlementLines) : Json :=
  .obj
    [("merchantGross", .num lines.merchantGross),
      ("marketplaceAdjustments", .num lines.marketplaceAdjustments),
      ("qiftFees", .num lines.qiftFees),
      ("taxes", .num lines.taxes),
      ("refunds", .num lines.refunds),
      ("chargebacks", .num lines.chargebacks),
      ("reserveHeld", .num lines.reserveHeld),
      ("reserveReleased", .num lines.reserveReleased),
      ("manualAdjustments", .num lines.manualAdjustments),
      ("receivableRecovery", .num lines.receivableRecovery)]

def SettlementCalculation.toJson (calculation : SettlementCalculation) : Json :=
  .obj
    [("currency", .str calculation.currency.name),
      ("lines", calculation.lines.toJson),
      ("netAmount", .num calculation.netAmount),
      ("itemCount", .num calculation.itemCount)]

/-- References as an object; a missing reference is `null`. -/
def referencesJson (references : References) : Json :=
  .obj (references.map fun r => (r.1, r.2.elim .null .str))

def CoveredOccurrence.toJson (c : CoveredOccurrence) : Json :=
  .obj
    [("occurrenceType", .str c.occurrenceType),
      ("occurrenceId", .str (idText c.occurrenceId)),
      ("amount", .num c.amount),
      ("currency", .str c.currency.name),
      ("references", referencesJson c.references)]

def RemittanceEvidence.toJson (r : RemittanceEvidence) : Json :=
  .obj
    [("remittanceId", .str (idText r.remittanceId)),
      ("bankTransferReference", .str r.bankTransferReference),
      ("executedAt", .str r.executedAt),
      ("amount", .num r.amount)]

def StatementClosure.toJson (c : StatementClosure) : Json :=
  .obj
    [("closureType", .str "ZERO_NET_NO_TRANSFER"),
      ("noTransferStatement", .str c.noTransferStatement),
      ("closedAt", .str c.closedAt),
      ("issuedUnderReplayEngine", .str c.issuedUnderReplayEngine),
      ("openingPosition", .obj
        [("merchantGross", .num c.merchantGross),
          ("receivableRecovery", .num c.receivableRecovery),
          ("net", .num c.net)])]

def SettlementStatement.toJson (s : SettlementStatement) : Json :=
  .obj
    ([("statementVersion", .str s.statementVersion),
      ("settlementReference", .str s.settlementReference),
      ("settlementId", .str (idText s.settlementId)),
      ("storeId", .str (idText s.storeId)),
      ("currency", .str s.currency.name),
      ("windowType", .str s.windowType),
      ("issuedAt", .str s.issuedAt),
      ("coveredOccurrences", .arr (s.coveredOccurrences.map CoveredOccurrence.toJson)),
      ("lines", s.lines.toJson),
      ("netAmount", .num s.netAmount),
      ("itemCount", .num s.itemCount),
      ("remittance", s.remittance.elim .null RemittanceEvidence.toJson),
      ("calculationHash", .str s.calculationHash)] ++
      -- absent, not null, on a remitted statement
      (s.closure.elim [] fun c => [("closure", c.toJson)]))

/-! ### Hashes and generation -/

section Generation

variable [Runtime]

def calculationHash (snapshot : SettlementCalculation) : String :=
  hashCanonical (canonicalJson snapshot.toJson)

def statementHash (statement : SettlementStatement) : String :=
  hashCanonical (canonicalJson statement.toJson)

def FrozenCompositionEntry.covered (c : FrozenCompositionEntry) : CoveredOccurrence where
  occurrenceType := c.occurrenceType
  occurrenceId := c.occurrenceId
  amount := c.amount
  currency := c.currency
  references := c.references

def generateSettlementStatement (frozen : FrozenBatchRecord) (issuedAt : String)
    (remittance : Option RemittanceEvidence) (closure : Option ZeroNetClosureFacts) :
    Except Err SettlementStatement :=
  match closure, remittance with
  | some _, some _ => .error (.error "statement_closure_and_remittance_exclusive")
  | some facts, none =>
      .ok
        { statementVersion := "v2"
          settlementReference := frozen.settlementReference
          settlementId := frozen.settlementId
          storeId := frozen.storeId
          currency := frozen.currency
          windowType := frozen.windowType
          issuedAt := issuedAt
          coveredOccurrences := frozen.composition.map FrozenCompositionEntry.covered
          lines := frozen.calculationSnapshot.lines
          netAmount := frozen.calculationSnapshot.netAmount
          itemCount := frozen.calculationSnapshot.itemCount
          remittance := none
          calculationHash := calculationHash frozen.calculationSnapshot
          closure := some
            { noTransferStatement := ZERO_NET_NO_TRANSFER_TEXT
              closedAt := facts.closedAt
              issuedUnderReplayEngine := facts.issuedUnderReplayEngine
              merchantGross := frozen.calculationSnapshot.lines.merchantGross
              receivableRecovery := frozen.calculationSnapshot.lines.receivableRecovery
              net := frozen.calculationSnapshot.netAmount } }
  | none, remittance =>
      .ok
        { statementVersion := "v1"
          settlementReference := frozen.settlementReference
          settlementId := frozen.settlementId
          storeId := frozen.storeId
          currency := frozen.currency
          windowType := frozen.windowType
          issuedAt := issuedAt
          coveredOccurrences := frozen.composition.map FrozenCompositionEntry.covered
          lines := frozen.calculationSnapshot.lines
          netAmount := frozen.calculationSnapshot.netAmount
          itemCount := frozen.calculationSnapshot.itemCount
          remittance := remittance
          calculationHash := calculationHash frozen.calculationSnapshot
          closure := none }

theorem generateSettlementStatement_ok (frozen : FrozenBatchRecord) (issuedAt : String)
    (remittance : Option RemittanceEvidence) (closure : Option ZeroNetClosureFacts)
    (h : closure = none ∨ remittance = none) :
    ∃ statement, generateSettlementStatement frozen issuedAt remittance closure = .ok statement := by
  rcases h with rfl | rfl
  · exact ⟨_, rfl⟩
  · cases closure with
    | none => exact ⟨_, rfl⟩
    | some facts => exact ⟨_, rfl⟩

theorem calculationHash_of_generated {frozen : FrozenBatchRecord} {issuedAt : String}
    {remittance : Option RemittanceEvidence} {closure : Option ZeroNetClosureFacts}
    {statement : SettlementStatement}
    (h : generateSettlementStatement frozen issuedAt remittance closure = .ok statement) :
    statement.calculationHash = calculationHash frozen.calculationSnapshot := by
  cases closure with
  | none => cases h; rfl
  | some facts =>
      cases remittance with
      | none => cases h; rfl
      | some r => cases h

end Generation

end Qift.Settlement
