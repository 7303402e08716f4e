import Qift.Settlement.Assembly

/-!
# Supersession and closing

The transactions of `supersede`, `markSettled` and `markSettledZeroNet`, read as what a successful one did.

* `unbindAll_eq_ok` and `consumeAll_eq_ok` read their loops as one guarded rewriting each.
* `supersedeTx_eq_ok`, `closeBatch_eq_ok`, `markSettledTx_eq_ok` and `markSettledZeroNetTx_eq_ok` are the
  transactions.
-/

namespace Qift.Settlement

open Relational Interleaving Financial Table

/-! ### Rows -/

def closeRow (closureType : ClosureType) (closedAt : Time) (r : SettlementBatch) :
    SettlementBatch :=
  { r with status := .settled, closureType := some closureType, closedAt := some closedAt }

@[simp] theorem closeRow_id (closureType : ClosureType) (closedAt : Time) (r : SettlementBatch) :
    (closeRow closureType closedAt r).id = r.id := rfl

theorem settled_id (i : SettlementItem) : ({ i with state := .settled } : SettlementItem).id = i.id := rfl

/-- An item of a superseded batch. -/
def unbindRow (disposition : ItemState) (affectedItemIds : List Nat) (hold : Option SupersedeHold)
    (i : SettlementItem) : SettlementItem :=
  { i with
    state := supersededState disposition affectedItemIds i.id
    batchId := none
    holdType :=
      if i.id ∈ affectedItemIds ∧ disposition = .held then hold.map SupersedeHold.holdType
      else i.holdType
    holdEvidence :=
      if i.id ∈ affectedItemIds ∧ disposition = .held then hold.map fun h => trim h.holdEvidence
      else i.holdEvidence }

@[simp] theorem unbindRow_id (disposition : ItemState) (affectedItemIds : List Nat)
    (hold : Option SupersedeHold) (i : SettlementItem) :
    (unbindRow disposition affectedItemIds hold i).id = i.id := rfl

/-- A receivable no batch stages any more. -/
def releaseRow (r : SettlementReceivable) : SettlementReceivable :=
  { r with stagedBySettlementId := none }

@[simp] theorem releaseRow_id (r : SettlementReceivable) : (releaseRow r).id = r.id := rfl
@[simp] theorem consumeRow_id (batchId : Nat) (at_ : Time) (alloc : RecoveryAllocation)
    (r : SettlementReceivable) : (consumeRow batchId at_ alloc r).id = r.id := rfl

theorem consumed_id (batch : SettlementBatch) (consumedAt : Time) (alloc : RecoveryAllocation)
    (r : SettlementReceivable) : (consumeRow batch.id consumedAt alloc r).id = r.id := rfl

/-! ### Supersession -/

/-- A write by identifier alone. -/
theorem updateBatch_eq_ok {batchId : Nat} {data : SettlementBatch → SettlementBatch}
    {hdata : ∀ b, (data b).id = b.id} {w w' : World} {r : SettlementBatch}
    (h : updateBatch batchId data hdata w = .ok (r, w')) :
    w' = { w with db := { w.db with
      batches := w.db.batches.updateMany (fun b => b.id = batchId) data hdata } } ∧
      ∃ row, w.db.batches.find batchId = some row := by
  simp only [updateBatch, Tx.bind_eq_ok, updateMany_eq_ok, Tx.read_eq_ok] at h
  obtain ⟨_, _, ⟨-, rfl⟩, found, _, ⟨hfound, rfl⟩, h⟩ := h
  cases found with
  | none => exact (Tx.fail_eq_ok.mp h).elim
  | some row =>
      obtain ⟨-, rfl⟩ := Tx.pure_eq_ok.mp h
      refine ⟨rfl, ?_⟩
      simp only [findUnique, find_updateMany, Option.map_eq_some_iff] at hfound
      obtain ⟨old, hold, -⟩ := hfound
      exact ⟨old, hold⟩

/-- The guard of `unbindItem`. -/
def unbindGuard (batchId : Nat) (item : Nat × ItemState) (i : SettlementItem) : Bool :=
  decide (i.id = item.1 ∧ i.batchId = some batchId ∧ i.state = item.2)

theorem unbindGuard_iff {batchId : Nat} {item : Nat × ItemState} {i : SettlementItem} :
    unbindGuard batchId item i = true ↔
      i.id = item.1 ∧ i.batchId = some batchId ∧ i.state = item.2 := by
  simp [unbindGuard]

section Unbind

variable {batchId : Nat} {disposition : ItemState} {affectedItemIds : List Nat}
  {hold : Option SupersedeHold}

theorem unbindItem_eq_ok {item : Nat × ItemState} {w w' : World} {u : Unit}
    (h : unbindItem batchId disposition affectedItemIds hold item w = .ok (u, w')) :
    supersededState disposition affectedItemIds item.1 ∈ ITEM_TRANSITIONS item.2 ∧
      w.db.items.count (unbindGuard batchId item) ≠ 0 ∧
      w' = { w with db := { w.db with
        items := w.db.items.updateMany (unbindGuard batchId item)
          (unbindRow disposition affectedItemIds hold) (unbindRow_id _ _ _) } } := by
  simp only [unbindItem, Tx.bind_eq_ok, Tx.ofExcept_eq_ok, assertItemTransition_eq_ok,
    updateMany_eq_ok, Tx.ensure_eq_ok] at h
  obtain ⟨_, _, ⟨hlegal, rfl⟩, _, _, ⟨rfl, rfl⟩, hcount, rfl⟩ := h
  have hone : w.db.items.count (unbindGuard batchId item) = 1 := hcount
  refine ⟨hlegal, by omega, ?_⟩
  congr 2
  refine updateMany_congr fun i _ => ?_
  by_cases hguard : unbindGuard batchId item i = true
  · obtain ⟨hid, hbatch, hstate⟩ := unbindGuard_iff.mp hguard
    simp [unbindGuard, unbindRow, hid, hbatch, hstate]
  · have hguard' : ¬(i.id = item.1 ∧ i.batchId = some batchId ∧ i.state = item.2) :=
      fun h => hguard (unbindGuard_iff.mpr h)
    simp [hguard, hguard']

theorem unbindAll_rewrites {items : List (Nat × ItemState)} {w w' : World} {u : Unit}
    (h : Tx.forEach items (unbindItem batchId disposition affectedItemIds hold) w = .ok (u, w')) :
    ∃ t, w' = { w with db := { w.db with items := t } } ∧
      Rewrites (unbindGuard batchId) (fun _ => unbindRow disposition affectedItemIds hold)
        (fun _ => unbindRow_id _ _ _) items w.db.items t ∧
      ∀ item ∈ items,
        supersededState disposition affectedItemIds item.1 ∈ ITEM_TRANSITIONS item.2 := by
  induction items generalizing w with
  | nil =>
      obtain ⟨-, rfl⟩ := Tx.pure_eq_ok.mp h
      exact ⟨w.db.items, rfl, .nil _, by simp⟩
  | cons item rest ih =>
      obtain ⟨t, hone, hrest⟩ := Tx.forEach_cons_eq_ok.mp h
      obtain ⟨hlegal, hcount, rfl⟩ := unbindItem_eq_ok hone
      obtain ⟨t, hw, hrewrites, hall⟩ := ih hrest
      exact ⟨t, hw, .cons hcount hrewrites, List.forall_mem_cons.mpr ⟨hlegal, hall⟩⟩

/-- The items table after all of them were unbound. -/
theorem unbindAll_eq_ok {items : List (Nat × ItemState)} {w w' : World} {u : Unit}
    (h : Tx.forEach items (unbindItem batchId disposition affectedItemIds hold) w = .ok (u, w')) :
    w' = { w with db := { w.db with
      items := w.db.items.updateMany (fun i => decide (i.id ∈ items.map Prod.fst))
        (unbindRow disposition affectedItemIds hold) (unbindRow_id _ _ _) } } ∧
      ∀ item ∈ items,
        supersededState disposition affectedItemIds item.1 ∈ ITEM_TRANSITIONS item.2 ∧
          ∃ i, w.db.items.find item.1 = some i ∧ unbindGuard batchId item i = true := by
  obtain ⟨t, rfl, hrewrites, hall⟩ := unbindAll_rewrites h
  have hdead (x y : Nat × ItemState) (i : SettlementItem) (_ : unbindGuard batchId x i = true)
      (_ : y.1 = x.1) :
      unbindGuard batchId y (unbindRow disposition affectedItemIds hold i) = false := by
    simp [unbindGuard, unbindRow]
  obtain ⟨-, heq, hfound⟩ := hrewrites.eq (k := Prod.fst)
    (fun _ _ h => (unbindGuard_iff.mp h).1) hdead
  obtain rfl := heq.trans (rewriteEach_const _ _ _ (unbindRow disposition affectedItemIds hold)
    (unbindRow_id _ _ _))
  exact ⟨rfl, fun item hitem => ⟨hall item hitem, hfound item hitem⟩⟩

theorem supersedeTx_eq_ok {batch : SettlementBatch} {items : List (Nat × ItemState)} {w w' : World}
    {u : Unit} (h : supersedeTx batch disposition affectedItemIds hold items w = .ok (u, w')) :
    ∃ ledger n,
      w'.db = { w.db with
        batches := w.db.batches.updateMany (fun b => b.id = batch.id)
          (fun b => { b with status := .superseded }) fun _ => rfl
        items := w.db.items.updateMany (fun i => decide (i.id ∈ items.map Prod.fst))
          (unbindRow disposition affectedItemIds hold) (unbindRow_id _ _ _)
        receivables := w.db.receivables.updateMany
          (fun r => r.stagedBySettlementId = some batch.id) releaseRow releaseRow_id
        ledger := ledger
        nextId := n } ∧
      w.db.nextId ≤ n ∧
      Posts (marker .SETTLEMENT_SUPERSEDED "SETTLEMENT_SUPERSEDED" batch.currency batch.storeId
        batch.id { settlementReference := some batch.settlementReference }) w.db.ledger ledger ∧
      ∀ item ∈ items,
        supersededState disposition affectedItemIds item.1 ∈ ITEM_TRANSITIONS item.2 ∧
          ∃ i, w.db.items.find item.1 = some i ∧ unbindGuard batch.id item i = true := by
  simp only [supersedeTx, Tx.bind_eq_ok, updateMany_eq_ok] at h
  obtain ⟨_, w₁, hbatch, _, w₂, hitems, _, w₃, ⟨-, rfl⟩, _, w₄, hrecord, haudit⟩ := h
  obtain ⟨rfl, -⟩ := updateBatch_eq_ok hbatch
  obtain ⟨rfl, hall⟩ := unbindAll_eq_ok hitems
  obtain ⟨ledger, n, rfl, hn, hposts, -⟩ := record_eq_ok hrecord
  exact ⟨ledger, n, recordGuaranteed_eq_ok haudit, hn, hposts, hall⟩

end Unbind

/-! ### Closing -/

def consumeGuard (batchId : Nat) (alloc : RecoveryAllocation) (r : SettlementReceivable) : Bool :=
  decide (r.id = alloc.receivableId ∧ r.stagedBySettlementId = some batchId ∧
    moneyToNumber r.amountRecovered = alloc.amountRecoveredAtPlan)

theorem consumeGuard_iff {batchId : Nat} {alloc : RecoveryAllocation} {r : SettlementReceivable} :
    consumeGuard batchId alloc r = true ↔
      r.id = alloc.receivableId ∧ r.stagedBySettlementId = some batchId ∧
        moneyToNumber r.amountRecovered = alloc.amountRecoveredAtPlan := by
  simp [consumeGuard]

section Consume

variable {batch : SettlementBatch} {at_ : Time} {metadata : LedgerMetadata}

theorem consumeOne_eq_ok {alloc : RecoveryAllocation} {w w' : World} {u : Unit}
    (h : consumeOne batch at_ metadata alloc w = .ok (u, w')) :
    w.db.receivables.count (consumeGuard batch.id alloc) ≠ 0 ∧ ∃ ledger n,
      w' = { w with db := { w.db with
        receivables := w.db.receivables.updateMany (consumeGuard batch.id alloc)
          (consumeRow batch.id at_ alloc) (consumeRow_id _ _ _)
        ledger := ledger
        nextId := n } } ∧
      w.db.nextId ≤ n ∧ Posts (recoveryPosting batch metadata alloc) w.db.ledger ledger := by
  simp only [consumeOne, Tx.bind_eq_ok, Tx.read_eq_ok] at h
  obtain ⟨found, _, ⟨hfound, rfl⟩, h⟩ := h
  cases found with
  | none => exact (Tx.fail_eq_ok.mp h).elim
  | some row =>
      simp only [Tx.bind_eq_ok, Tx.ofExcept_eq_ok, Tx.ensure_eq_ok, Tx.pure_eq_ok] at h
      obtain ⟨_, _, ⟨-, rfl⟩, _, _, ⟨rfl, rfl⟩, _, _, ⟨hcount, rfl⟩, _, _, hrecord, -, rfl⟩ := h
      have hfind : w.db.receivables.find alloc.receivableId = some row := hfound
      -- the guard on the state that was read holds of the only row under the key
      have hguard : ∀ r ∈ w.db.receivables.rows,
          decide (r.id = alloc.receivableId ∧ r.stagedBySettlementId = some batch.id ∧
            r.state = row.state ∧ moneyToNumber r.amountRecovered = alloc.amountRecoveredAtPlan) =
          consumeGuard batch.id alloc r := by
        intro r hr
        by_cases hid : r.id = alloc.receivableId
        · obtain rfl := row_unique _ hr (mem_of_find hfind) (hid.trans (key_of_find hfind).symm)
          simp [consumeGuard]
        · simp [consumeGuard, hid]
      obtain ⟨ledger, n, rfl, hn, hposts, -⟩ := record_eq_ok hrecord
      refine ⟨?_, ledger, n, ?_, hn, hposts⟩
      · have hone : w.db.receivables.count (consumeGuard batch.id alloc) = 1 := by
          rw [← hcount]
          exact (List.countP_congr fun r hr => by rw [hguard r hr]).symm
        omega
      · have htable : w.db.receivables.updateMany
            (fun r => r.id = alloc.receivableId ∧ r.stagedBySettlementId = some batch.id ∧
              r.state = row.state ∧ moneyToNumber r.amountRecovered = alloc.amountRecoveredAtPlan)
            (consumeRow batch.id at_ alloc) (consumeRow_id _ _ _) =
              w.db.receivables.updateMany (consumeGuard batch.id alloc)
                (consumeRow batch.id at_ alloc) (consumeRow_id _ _ _) := by
          refine updateMany_congr fun r hr => ?_
          rw [hguard r hr]
        rw [← htable]

theorem consumeAll_rewrites {allocation : List RecoveryAllocation} {w w' : World} {u : Unit}
    (h : Tx.forEach allocation (consumeOne batch at_ metadata) w = .ok (u, w')) :
    ∃ t ledger n,
      w' = { w with db := { w.db with receivables := t, ledger := ledger, nextId := n } } ∧
      w.db.nextId ≤ n ∧
      Rewrites (consumeGuard batch.id) (consumeRow batch.id at_) (consumeRow_id _ _) allocation
        w.db.receivables t ∧
      PostsAll (allocation.map (recoveryPosting batch metadata)) w.db.ledger ledger := by
  induction allocation generalizing w with
  | nil =>
      obtain ⟨-, rfl⟩ := Tx.pure_eq_ok.mp h
      exact ⟨_, _, _, rfl, le_refl _, .nil _, .nil _⟩
  | cons alloc rest ih =>
      obtain ⟨t, hone, hrest⟩ := Tx.forEach_cons_eq_ok.mp h
      obtain ⟨hcount, ledger, n, rfl, hn, hposts⟩ := consumeOne_eq_ok hone
      obtain ⟨t, ledger', n', hw, hn', hrewrites, hall⟩ := ih hrest
      exact ⟨t, ledger', n', hw, hn.trans hn', .cons hcount hrewrites, .cons hposts hall⟩

theorem consumeAll_eq_ok {w w' : World} {u : Unit}
    (h : consumeRecoveryAllocation batch at_ metadata w = .ok (u, w')) :
    ∃ ledger n,
      w' = { w with db := { w.db with
        receivables := w.db.receivables.rewriteEach batch.recoveryAllocation
          RecoveryAllocation.receivableId (consumeRow batch.id at_) (consumeRow_id _ _)
        ledger := ledger
        nextId := n } } ∧
      w.db.nextId ≤ n ∧
      PostsAll (batch.recoveryAllocation.map (recoveryPosting batch metadata)) w.db.ledger ledger ∧
      (batch.recoveryAllocation.map RecoveryAllocation.receivableId).Nodup ∧
      ∀ alloc ∈ batch.recoveryAllocation, ∃ r,
        w.db.receivables.find alloc.receivableId = some r ∧
          consumeGuard batch.id alloc r = true := by
  obtain ⟨t, ledger, n, rfl, hn, hrewrites, hposts⟩ := consumeAll_rewrites h
  have hdead (x y : RecoveryAllocation) (r : SettlementReceivable)
      (_ : consumeGuard batch.id x r = true) (_ : y.receivableId = x.receivableId) :
      consumeGuard batch.id y (consumeRow batch.id at_ x r) = false := by
    simp [consumeGuard, consumeRow]
  obtain ⟨hnodup, rfl, hfound⟩ := hrewrites.eq (k := RecoveryAllocation.receivableId)
    (fun _ _ h => (consumeGuard_iff.mp h).1) hdead
  exact ⟨ledger, n, rfl, hn, hposts, hnodup, hfound⟩

end Consume

/-- The guarded part of a closing. -/
theorem closeBatch_eq_ok {batch : SettlementBatch} {closureType : ClosureType} {closedAt : Time}
    {w w' : World} {u : Unit} (h : closeBatch batch closureType closedAt w = .ok (u, w')) :
    w' = { w with db := { w.db with
      batches := w.db.batches.updateMany (fun b => b.id = batch.id ∧ b.status = .ready)
        (closeRow closureType closedAt) (closeRow_id _ _)
      items := w.db.items.updateMany
        (fun i => i.id ∈ memberIds batch ∧ i.batchId = some batch.id ∧ i.state = .ready)
        (fun i => { i with state := .settled }) fun _ => rfl } } ∧
      (∃ row, w.db.batches.find batch.id = some row ∧ row.status = .ready) ∧
      ∀ i ∈ memberIds batch, ∃ item, w.db.items.find i = some item ∧
        item.batchId = some batch.id ∧ item.state = .ready := by
  simp only [closeBatch, Tx.bind_eq_ok, updateMany_eq_ok, Tx.ensure_eq_ok, Tx.ofExcept_eq_ok] at h
  obtain ⟨_, _, ⟨rfl, rfl⟩, _, _, ⟨hclosed, rfl⟩, _, _, ⟨-, rfl⟩, _, _, ⟨rfl, rfl⟩, hsettled, rfl⟩ := h
  refine ⟨rfl, ?_, fun i hi => ?_⟩
  · have hcount : w.db.batches.count
        (fun b => decide (b.id = batch.id ∧ b.status = .ready)) ≠ 0 := by
      have hone : w.db.batches.count
        (fun b => decide (b.id = batch.id ∧ b.status = .ready)) = 1 := hclosed
      omega
    obtain ⟨row, hrow, hguard⟩ := count_pos (k := batch.id) (by simp_all) hcount
    exact ⟨row, hrow, by simp_all⟩
  · have hcount : w.db.items.count (fun i => decide (i.id ∈ memberIds batch) &&
        decide (i.batchId = some batch.id ∧ i.state = .ready)) = (memberIds batch).length := by
      rw [← hsettled]
      exact List.countP_congr fun i _ => by simp
    obtain ⟨item, hitem, hguard⟩ := count_eq_length hcount hi
    exact ⟨item, hitem, by simpa using hguard⟩

/-- What a closing found in place: the batch `ready`, its members and the receivables it staged. -/
structure InPlace (db : Db) (batch : SettlementBatch) : Prop where
  ready : ∃ row, db.batches.find batch.id = some row ∧ row.status = .ready
  members : ∀ i ∈ memberIds batch, ∃ item, db.items.find i = some item ∧
    item.batchId = some batch.id ∧ item.state = .ready
  allocations : (batch.recoveryAllocation.map RecoveryAllocation.receivableId).Nodup
  allocated : ∀ alloc ∈ batch.recoveryAllocation, ∃ r,
    db.receivables.find alloc.receivableId = some r ∧ consumeGuard batch.id alloc r = true

/-- The tables after a closing, whose postings led to a ledger. -/
def closedDb (db : Db) (batch : SettlementBatch) (closureType : ClosureType)
    (closedAt consumedAt : Time) (ledger : Ledger) (n : Nat) : Db :=
  { db with
    batches := db.batches.updateMany (fun b => b.id = batch.id ∧ b.status = .ready)
      (closeRow closureType closedAt) (closeRow_id _ _)
    items := db.items.updateMany
      (fun i => i.id ∈ memberIds batch ∧ i.batchId = some batch.id ∧ i.state = .ready)
      (fun i => { i with state := .settled }) settled_id
    receivables := db.receivables.rewriteEach batch.recoveryAllocation
      RecoveryAllocation.receivableId (consumeRow batch.id consumedAt) (consumed_id batch consumedAt)
    ledger := ledger
    nextId := n }

def closingPostings (batch : SettlementBatch) (metadata markerMetadata : LedgerMetadata) :
    List RecordLedgerInput :=
  batch.recoveryAllocation.map (recoveryPosting batch metadata) ++
    [marker .SETTLEMENT_COMPLETED "SETTLEMENT_COMPLETED" batch.currency batch.storeId batch.id
      markerMetadata]

/-- What a successful `markSettled` transaction did. -/
theorem markSettledTx_eq_ok {batch : SettlementBatch} {evidence : RemittanceInput} {w w' : World}
    {r : SettlementRemittance} (h : markSettledTx batch evidence w = .ok (r, w')) :
    r = remittanceRow batch evidence w.db.now w.db.nextId ∧ InPlace w.db batch ∧
      ∃ remittances ledger n markerMetadata,
        w.db.remittances.create r = some remittances ∧
        w'.db = { closedDb w.db batch .remitted w.db.now evidence.executedAt ledger n with
          remittances := remittances } ∧
        w.db.nextId < n ∧
        PostsAll (closingPostings batch {} markerMetadata) w.db.ledger ledger := by
  simp only [markSettledTx, Tx.bind_eq_ok, txNow_eq_ok, insert_eq_ok, Tx.pure_eq_ok] at h
  obtain ⟨_, _, ⟨rfl, rfl⟩, _, _, hclose, created, _, ⟨hrow, remittances, hcreate, -, rfl⟩, _, _,
    hconsume, _, _, hrecord, _, _, haudit, rfl, rfl⟩ := h
  obtain ⟨rfl, hready, hmembers⟩ := closeBatch_eq_ok hclose
  obtain ⟨ledger, n, rfl, hn, hposts, hnodup, hguards⟩ := consumeAll_eq_ok hconsume
  obtain ⟨ledger', n', rfl, hn', hmarker, -⟩ := record_eq_ok hrecord
  refine ⟨hrow, ⟨hready, hmembers, hnodup, hguards⟩, remittances, ledger', n', _, hrow ▸ hcreate,
    recordGuaranteed_eq_ok haudit, ?_, hposts.snoc hmarker⟩
  exact lt_of_lt_of_le (Nat.lt_succ_self _) (hn.trans hn')

/-- What a successful `markSettledZeroNet` transaction did. -/
theorem markSettledZeroNetTx_eq_ok {batch : SettlementBatch} {closedAt : Time} {w w' : World}
    {u : Unit} (h : markSettledZeroNetTx batch closedAt w = .ok (u, w')) :
    InPlace w.db batch ∧ ∃ ledger n markerMetadata,
      w'.db = closedDb w.db batch .zero_net_no_transfer closedAt closedAt ledger n ∧
      w.db.nextId ≤ n ∧
      PostsAll (closingPostings batch (zeroNetMetadata closedAt) markerMetadata)
        w.db.ledger ledger := by
  simp only [markSettledZeroNetTx, Tx.bind_eq_ok] at h
  obtain ⟨_, _, hclose, _, _, hconsume, _, _, hrecord, haudit⟩ := h
  obtain ⟨rfl, hready, hmembers⟩ := closeBatch_eq_ok hclose
  obtain ⟨ledger, n, rfl, hn, hposts, hnodup, hguards⟩ := consumeAll_eq_ok hconsume
  obtain ⟨ledger', n', rfl, hn', hmarker, -⟩ := record_eq_ok hrecord
  exact ⟨⟨hready, hmembers, hnodup, hguards⟩, ledger', n', _, recordGuaranteed_eq_ok haudit,
    hn.trans hn', hposts.snoc hmarker⟩

end Qift.Settlement
