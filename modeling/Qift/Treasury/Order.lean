import Qift.Canonical
import Qift.Treasury.Snapshot

/-!
# The snapshot forgets the order of its rows

`buildTreasurySnapshot` sorts every list it is given by a key that tells the rows apart: movements by value date and
ledger row, pending transfers by settlement, excluded classes by name. Rows in another order give the same snapshot,
with the same canonical text, hash and status.
-/

namespace Qift.Treasury

open Qift.Lib

/-- The key of `byDeterministicOrder`. -/
def movementKey (m : TreasuryMovement) : List Nat ×ₗ Nat :=
  toLex (codeUnits (m.valueDate.getD "9999-12-31T23:59:59.999Z"), m.ledgerId)

theorem byDeterministicOrder_iff (a b : TreasuryMovement) :
    byDeterministicOrder a b ↔ movementKey a ≤ movementKey b := by
  rw [byDeterministicOrder, movementKey, movementKey, Prod.Lex.toLex_le_toLex]
  dsimp only
  split
  · next hdate => simp [hdate]
  · next hdate =>
      have hunits : codeUnits (a.valueDate.getD "9999-12-31T23:59:59.999Z") ≠
          codeUnits (b.valueDate.getD "9999-12-31T23:59:59.999Z") := codeUnits_injective.ne hdate
      rw [textLE, le_iff_lt_or_eq]
      simp [hunits]

theorem movementKey_nodup {movements : List TreasuryMovement}
    (h : (movements.map TreasuryMovement.ledgerId).Nodup) : (movements.map movementKey).Nodup := by
  have hid : movements.map TreasuryMovement.ledgerId = (movements.map movementKey).map fun k => (ofLex k).2 := by
    rw [List.map_map]
    rfl
  rw [hid] at h
  exact List.Nodup.of_map _ h

/-- The cut-off of distinct ledger rows does not depend on the order they come in. -/
theorem splitByAsOf_perm {movements movements' : List TreasuryMovement} (asOfDate : String)
    (hperm : movements.Perm movements') (hnodup : (movements.map TreasuryMovement.ledgerId).Nodup) :
    splitByAsOf movements asOfDate = splitByAsOf movements' asOfDate := by
  have hsort : movements.insertionSort byDeterministicOrder = movements'.insertionSort byDeterministicOrder :=
    insertionSort_eq_of_perm byDeterministicOrder_iff hperm (movementKey_nodup hnodup)
  rw [splitByAsOf, splitByAsOf, hsort]

/-- The inputs of a snapshot list distinct rows: movements by ledger row on each leg, pending transfers by
settlement, excluded rows by class. -/
structure TreasuryInputs.Distinct (inputs : TreasuryInputs) : Prop where
  cash : (inputs.cashMovements.map TreasuryMovement.ledgerId).Nodup
  obligations : (inputs.obligationMovements.map TreasuryMovement.ledgerId).Nodup
  pending : (inputs.pendingInternalTransfers.map PendingInternalTransfer.settlementId).Nodup
  excluded : (inputs.excluded.map ExcludedClass.className).Nodup

/-- The same inputs, with the rows of each list in some other order. -/
structure TreasuryInputs.Reordered (inputs inputs' : TreasuryInputs) : Prop where
  cash : inputs.cashMovements.Perm inputs'.cashMovements
  obligations : inputs.obligationMovements.Perm inputs'.obligationMovements
  pending : inputs.pendingInternalTransfers.Perm inputs'.pendingInternalTransfers
  excluded : inputs.excluded.Perm inputs'.excluded
  rest : { inputs with
    cashMovements := inputs'.cashMovements
    obligationMovements := inputs'.obligationMovements
    pendingInternalTransfers := inputs'.pendingInternalTransfers
    excluded := inputs'.excluded } = inputs'

theorem sort_pending_perm {pending pending' : List PendingInternalTransfer} (hperm : pending.Perm pending')
    (hnodup : (pending.map PendingInternalTransfer.settlementId).Nodup) :
    (pending.insertionSort fun x y => x.settlementId ≤ y.settlementId) =
      pending'.insertionSort fun x y => x.settlementId ≤ y.settlementId :=
  insertionSort_eq_of_perm (fun _ _ => Iff.rfl) hperm hnodup

theorem sort_excluded_perm {excluded excluded' : List ExcludedClass} (hperm : excluded.Perm excluded')
    (hnodup : (excluded.map ExcludedClass.className).Nodup) :
    (excluded.insertionSort fun a b => textLE a.className b.className) =
      excluded'.insertionSort fun a b => textLE a.className b.className := by
  have hkeys : (excluded.map fun e => codeUnits e.className).Nodup := by
    have hmap := hnodup.map codeUnits_injective
    rwa [List.map_map] at hmap
  exact insertionSort_eq_of_perm (fun _ _ => Iff.rfl) hperm hkeys

section Build

variable [Runtime]

/-- Inputs in another order build the same snapshot, with the same canonical text and hash. -/
theorem buildTreasurySnapshot_reordered (inputs inputs' : TreasuryInputs) (hdistinct : inputs.Distinct)
    (hreordered : inputs.Reordered inputs') :
    buildTreasurySnapshot inputs = buildTreasurySnapshot inputs' := by
  have hcash := splitByAsOf_perm inputs.asOfDate hreordered.cash hdistinct.cash
  have hobligations := splitByAsOf_perm inputs.asOfDate hreordered.obligations hdistinct.obligations
  have hpending := sort_pending_perm hreordered.pending hdistinct.pending
  have hexcluded := sort_excluded_perm hreordered.excluded hdistinct.excluded
  rw [← hreordered.rest]
  unfold buildTreasurySnapshot
  dsimp only
  rw [hcash, hobligations, hpending, hexcluded]

end Build

/-- A dated movement of the cash leg. -/
def datedMovement (ledgerId : Nat) (amountMinor : Int) : TreasuryMovement where
  ledgerId := ledgerId
  eventType := .MERCHANT_PAYABLE_ACCRUED
  direction := .inward
  amountMinor := amountMinor
  valueDate := some "2026-01-01T00:00:00.000Z"
  recordedAt := "2026-01-01T00:00:00.000Z"
  reference := "R"
  storeId := none
  evidenceRef := none

/-- Inputs with the given cash movements and nothing else. -/
def cashInputs (movements : List TreasuryMovement) : TreasuryInputs where
  accountType := "safeguarding"
  currency := "SAR"
  asOfDate := "2026-02-01T00:00:00.000Z"
  attestation := none
  cashMovements := movements
  obligationMovements := []
  excluded := []

/-- Two movements of one date, listed either way. -/
theorem buildTreasurySnapshot_reordered_swap :
    @buildTreasurySnapshot plainRuntime (cashInputs [datedMovement 1 500, datedMovement 2 700]) =
      @buildTreasurySnapshot plainRuntime (cashInputs [datedMovement 2 700, datedMovement 1 500]) :=
  @buildTreasurySnapshot_reordered plainRuntime _ _
    { cash := by decide
      obligations := by decide
      pending := by decide
      excluded := by decide }
    { cash := .swap _ _ _
      obligations := .refl _
      pending := .refl _
      excluded := .refl _
      rest := rfl }

end Qift.Treasury
