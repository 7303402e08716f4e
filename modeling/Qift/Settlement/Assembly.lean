import Qift.Settlement.Planning

/-!
# What assembly freezes

The transaction of `assembleBatch` and the batch row it leaves.

* `bindItems_eq_ok` and `stageAll_eq_ok` read the loops of the transaction as one guarded rewriting each;
  `assembleTx_eq_ok` is the whole transaction.
* `WellFrozen` relates the frozen columns of a batch to each other: the snapshot is the calculation of the
  composition and the allocation.
* **`assembled_replays`** — the frozen record of an assembled batch replays in every state that still stores
  its row, and the execution gate accepts its preview.
-/

namespace Qift.Settlement

open Relational Interleaving Financial Table

/-! ### The loops -/

/-- The guard and the write of `bindItems` on one item. -/
def bindGuard (item i : SettlementItem) : Bool :=
  decide (i.id = item.id ∧ i.state = .eligible ∧ i.batchId = none ∧ i.amount = item.amount)

def bindRow (batchId : Nat) (i : SettlementItem) : SettlementItem :=
  { i with state := .ready, batchId := some batchId }

theorem bindGuard_iff {item i : SettlementItem} :
    bindGuard item i = true ↔
      i.id = item.id ∧ i.state = .eligible ∧ i.batchId = none ∧ i.amount = item.amount := by
  simp [bindGuard]

theorem bindGuard_bindRow (batchId : Nat) (item i : SettlementItem) :
    bindGuard item (bindRow batchId i) = false := by
  simp [bindGuard, bindRow]

theorem count_bindGuard_le (items : Table SettlementItem.id) (item : SettlementItem) :
    items.count (bindGuard item) ≤ 1 :=
  count_le_one (k := item.id) fun _ h => (bindGuard_iff.mp h).1

theorem bindItems_le {batchId : Nat} {items : List SettlementItem} {w w' : World} {n : Nat}
    (h : bindItems batchId items w = .ok (n, w')) : n ≤ items.length := by
  induction items generalizing w w' n with
  | nil =>
      obtain ⟨rfl, -⟩ := Tx.pure_eq_ok.mp h
      exact le_refl _
  | cons item rest ih =>
      simp only [bindItems, Tx.bind_eq_ok, updateMany_eq_ok, Tx.pure_eq_ok] at h
      obtain ⟨_, _, ⟨rfl, rfl⟩, bound, _, hrest, rfl, -⟩ := h
      have hone := count_bindGuard_le w.db.items item
      rw [List.length_cons, Nat.add_comm rest.length]
      exact Nat.add_le_add hone (ih hrest)

theorem bindItems_rewrites {batchId : Nat} {items : List SettlementItem} {w w' : World}
    (h : bindItems batchId items w = .ok (items.length, w')) :
    ∃ t, w' = { w with db := { w.db with items := t } } ∧
      Rewrites bindGuard (fun _ => bindRow batchId) (fun _ _ => rfl) items w.db.items t := by
  induction items generalizing w w' with
  | nil =>
      obtain ⟨-, rfl⟩ := Tx.pure_eq_ok.mp h
      exact ⟨w.db.items, rfl, .nil _⟩
  | cons item rest ih =>
      simp only [bindItems, Tx.bind_eq_ok, updateMany_eq_ok, Tx.pure_eq_ok] at h
      obtain ⟨_, _, ⟨rfl, rfl⟩, bound, _, hrest, hsum, rfl⟩ := h
      have hone := count_bindGuard_le w.db.items item
      have hbound := bindItems_le hrest
      have hcount : w.db.items.count (bindGuard item) = 1 ∧ bound = rest.length := by
        have hsum' : w.db.items.count (bindGuard item) + bound = rest.length + 1 := hsum
        omega
      obtain ⟨t, hw, hrewrites⟩ := ih (hcount.2 ▸ hrest)
      exact ⟨t, hw, .cons (hcount.1 ▸ one_ne_zero) hrewrites⟩

theorem bindItems_eq_ok {batchId : Nat} {items : List SettlementItem} {w w' : World}
    (h : bindItems batchId items w = .ok (items.length, w')) :
    w' = { w with db := { w.db with
      items := w.db.items.updateMany (fun i => decide (i.id ∈ items.map SettlementItem.id))
        (bindRow batchId) fun _ => rfl } } ∧
      (items.map SettlementItem.id).Nodup ∧
      ∀ item ∈ items, ∃ i, w.db.items.find item.id = some i ∧ bindGuard item i = true := by
  obtain ⟨t, rfl, hrewrites⟩ := bindItems_rewrites h
  obtain ⟨hnodup, heq, hfound⟩ := hrewrites.eq (k := SettlementItem.id)
    (fun _ _ h => (bindGuard_iff.mp h).1) (fun _ item i _ _ => bindGuard_bindRow batchId item i)
  obtain rfl := heq.trans (rewriteEach_const _ _ _ (bindRow batchId) fun _ => rfl)
  exact ⟨rfl, hnodup, hfound⟩

/-- The guard of `stageReceivable` on one allocation. -/
def stageGuard (alloc : RecoveryAllocation) (r : SettlementReceivable) : Bool :=
  decide (r.id = alloc.receivableId ∧ (r.state = .open ∨ r.state = .partially_recovered) ∧
    r.stagedBySettlementId = none ∧ moneyToNumber r.amountRecovered = alloc.amountRecoveredAtPlan)

theorem stageGuard_iff {alloc : RecoveryAllocation} {r : SettlementReceivable} :
    stageGuard alloc r = true ↔
      r.id = alloc.receivableId ∧ (r.state = .open ∨ r.state = .partially_recovered) ∧
        r.stagedBySettlementId = none ∧
        moneyToNumber r.amountRecovered = alloc.amountRecoveredAtPlan := by
  simp [stageGuard]

def stageRow (batchId : Nat) (r : SettlementReceivable) : SettlementReceivable :=
  { r with stagedBySettlementId := some batchId }

theorem stageGuard_stageRow (batchId : Nat) (alloc : RecoveryAllocation)
    (r : SettlementReceivable) : stageGuard alloc (stageRow batchId r) = false := by
  simp [stageGuard, stageRow]

theorem stageAll_rewrites {batchId : Nat} {allocation : List RecoveryAllocation} {w w' : World}
    {u : Unit} (h : Tx.forEach allocation (stageReceivable batchId) w = .ok (u, w')) :
    ∃ t, w' = { w with db := { w.db with receivables := t } } ∧
      Rewrites stageGuard (fun _ => stageRow batchId) (fun _ _ => rfl) allocation
        w.db.receivables t := by
  induction allocation generalizing w with
  | nil =>
      obtain ⟨-, rfl⟩ := Tx.pure_eq_ok.mp h
      exact ⟨w.db.receivables, rfl, .nil _⟩
  | cons alloc rest ih =>
      obtain ⟨t, hone, hrest⟩ := Tx.forEach_cons_eq_ok.mp h
      simp only [stageReceivable, Tx.bind_eq_ok, updateMany_eq_ok, Tx.ensure_eq_ok] at hone
      obtain ⟨_, _, ⟨rfl, rfl⟩, hcount, rfl⟩ := hone
      obtain ⟨t, hw, hrewrites⟩ := ih hrest
      refine ⟨t, hw, .cons ?_ hrewrites⟩
      have hcount' : w.db.receivables.count (stageGuard alloc) = 1 := hcount
      omega

theorem stageAll_eq_ok {batchId : Nat} {allocation : List RecoveryAllocation} {w w' : World}
    {u : Unit} (h : Tx.forEach allocation (stageReceivable batchId) w = .ok (u, w')) :
    w' = { w with db := { w.db with
      receivables := w.db.receivables.updateMany
        (fun r => decide (r.id ∈ allocation.map RecoveryAllocation.receivableId))
        (stageRow batchId) fun _ => rfl } } ∧
      (allocation.map RecoveryAllocation.receivableId).Nodup ∧
      ∀ alloc ∈ allocation, ∃ r, w.db.receivables.find alloc.receivableId = some r ∧
        stageGuard alloc r = true := by
  obtain ⟨t, rfl, hrewrites⟩ := stageAll_rewrites h
  obtain ⟨hnodup, heq, hfound⟩ := hrewrites.eq (k := RecoveryAllocation.receivableId)
    (fun _ _ h => (stageGuard_iff.mp h).1) (fun _ alloc r _ _ => stageGuard_stageRow batchId alloc r)
  obtain rfl := heq.trans (rewriteEach_const _ _ _ (stageRow batchId) fun _ => rfl)
  exact ⟨rfl, hnodup, hfound⟩

/-! ### The transaction -/

theorem assembleTx_eq_ok {row : Nat → SettlementBatch} {items : List SettlementItem}
    {w w' : World} {batch : SettlementBatch} (h : assembleTx row items w = .ok (batch, w')) :
    batch = row w.db.nextId ∧ ∃ batches ledger n,
      w.db.batches.create batch = some batches ∧
      w'.db = { w.db with
        batches := batches
        items := w.db.items.updateMany (fun i => decide (i.id ∈ items.map SettlementItem.id))
          (bindRow batch.id) fun _ => rfl
        receivables := w.db.receivables.updateMany
          (fun r => decide (r.id ∈ batch.recoveryAllocation.map RecoveryAllocation.receivableId))
          (stageRow batch.id) fun _ => rfl
        ledger := ledger
        nextId := n } ∧
      w.db.nextId < n ∧
      Posts (marker .SETTLEMENT_STARTED "SETTLEMENT_STARTED" batch.currency batch.storeId batch.id
        { settlementReference := some batch.settlementReference }) w.db.ledger ledger ∧
      (items.map SettlementItem.id).Nodup ∧
      (∀ item ∈ items, ∃ i, w.db.items.find item.id = some i ∧ bindGuard item i = true) ∧
      (batch.recoveryAllocation.map RecoveryAllocation.receivableId).Nodup ∧
      ∀ alloc ∈ batch.recoveryAllocation, ∃ r,
        w.db.receivables.find alloc.receivableId = some r ∧ stageGuard alloc r = true := by
  simp only [assembleTx, Tx.bind_eq_ok, Tx.ensure_eq_ok, Tx.pure_eq_ok, insert_eq_ok] at h
  obtain ⟨created, w₁, ⟨hrow, batches, hcreate, -, rfl⟩, bound, w₂, hbind, _, w₃, ⟨rfl, rfl⟩, _, w₄,
    hstage, _, w₅, hrecord, _, w₆, haudit, rfl, rfl⟩ := h
  obtain ⟨rfl, hitems, hitem⟩ := bindItems_eq_ok hbind
  obtain ⟨rfl, hallocs, halloc⟩ := stageAll_eq_ok hstage
  obtain ⟨ledger, n, rfl, hn, hposts, -⟩ := record_eq_ok hrecord
  refine ⟨hrow, batches, ledger, n, hrow ▸ hcreate, ?_, ?_, hposts, hitems, hitem, hallocs, halloc⟩
  · exact recordGuaranteed_eq_ok haudit
  · exact lt_of_lt_of_le (Nat.lt_succ_self _) hn

/-! ### The frozen columns -/

/-- The gross of a composition, in minor units. -/
def compositionMinor (batch : SettlementBatch) : Int :=
  (batch.composition.map fun c => toMinor c.amount batch.currency).sum

/-- The deductions of an allocation, in minor units. -/
def allocationMinor (batch : SettlementBatch) : Int :=
  (batch.recoveryAllocation.map fun a => toMinor a.amount batch.currency).sum

/-- The frozen columns of a batch belong together. -/
structure WellFrozen (batch : SettlementBatch) : Prop where
  nonempty : batch.composition ≠ []
  registered : asCurrencyCode batch.currency.name = .ok batch.currency
  currencies : ∀ c ∈ batch.composition, c.currency = batch.currency
  recovery : frozenRecovery batch.recoveryAllocation =
    fromMinor (allocationMinor batch) batch.currency
  snapshot : batch.calculationSnapshot =
    recoverySnapshot batch.currency (compositionMinor batch) (allocationMinor batch)
      batch.composition.length
  gross : batch.grossAmount = ⟨compositionMinor batch⟩
  net : batch.netAmount = ⟨compositionMinor batch - allocationMinor batch⟩

namespace WellFrozen

variable {batch : SettlementBatch}

theorem calculation (h : WellFrozen batch) :
    calculateSettlement (batch.composition.map FrozenCompositionEntry.toInput)
        { receivableRecovery := some (frozenRecovery batch.recoveryAllocation) } =
      .ok batch.calculationSnapshot := by
  have hall : ∀ i ∈ batch.composition.map FrozenCompositionEntry.toInput,
      asCurrencyCode i.currency.name = .ok batch.currency := by
    intro i hi
    obtain ⟨c, hc, rfl⟩ := List.mem_map.mp hi
    simpa [FrozenCompositionEntry.toInput, h.currencies c hc] using h.registered
  rw [calculateSettlement_spec (by simpa using h.nonempty) hall, h.recovery, toMinor_fromMinor,
    h.snapshot]
  simp [compositionMinor, FrozenCompositionEntry.toInput, Function.comp_def]

end WellFrozen

theorem wellFrozen_batchRow {code : CurrencyCode} (hcode : asCurrencyCode code.name = .ok code)
    {items : List SettlementItem} (hne : items ≠ []) (hcur : ∀ i ∈ items, i.currency = code)
    (draws : List (SettlementReceivable × Int)) (actor storeId : Nat)
    (settlementReference : String) (references : List (Nat × References)) (id : Nat) :
    WellFrozen (batchRow actor storeId settlementReference
      (recoverySnapshot code (itemsMinor items) (draws.map Prod.snd).sum items.length)
      (composition items references) (draws.map (allocationOf code)) id) := by
  have h2 := minorDigits_of_asCurrencyCode hcode
  have hgross : ((composition items references).map fun c => toMinor c.amount code).sum =
      itemsMinor items := by
    simp [composition, itemsMinor, Function.comp_def, toMinor_moneyToNumber h2]
  have hrecovery := sum_allocation_minor code draws
  refine
    { nonempty := by simpa [batchRow, composition] using hne
      registered := hcode
      currencies := ?_, recovery := ?_, snapshot := ?_, gross := ?_, net := ?_ }
  · intro c hc
    obtain ⟨i, hi, rfl⟩ := List.mem_map.mp hc
    exact hcur i hi
  · exact (frozenRecovery_eq draws).trans (by rw [← hrecovery]; rfl)
  · simp only [batchRow, recoverySnapshot, compositionMinor, allocationMinor, hgross, hrecovery]
    simp [composition]
  · simp only [batchRow, recoverySnapshot, compositionMinor, hgross,
      Decimal.ofNumber_fromMinor h2]
  · simp only [batchRow, recoverySnapshot, compositionMinor, allocationMinor, hgross, hrecovery,
      Decimal.ofNumber_fromMinor h2]

/-! ### Replay of an assembled batch -/

section Replay

variable [Runtime]

/-- **Frozen composition always replays.**  In every state that still stores the row of an assembled batch,
the frozen record gives back the stored calculation and its hash, and the execution gate accepts the values of
its preview. -/
theorem assembled_replays {actor storeId : Nat} {currency : String} {draws : Nat → List String}
    {w u : World} {batch : SettlementBatch}
    (hassembled : (assembleBatch actor storeId currency draws).exec w = (.ok batch, u)) {v : World}
    (hrow : v.db.batches.find batch.id = u.db.batches.find batch.id) :
    ∃ view, (frozenRecord batch.id).exec v = (.ok view, v) ∧
      calculateSettlement (view.frozen.composition.map FrozenCompositionEntry.toInput)
          { receivableRecovery := some (frozenRecovery view.frozen.recoveryAllocation) } =
        .ok batch.calculationSnapshot ∧
      ∀ asOf, ∃ preview, buildExecutionPreview view.frozen asOf = .ok preview ∧
        preview.replayVerified = true ∧
        preview.netAmount = batch.calculationSnapshot.netAmount ∧
        preview.calculationHash = calculationHash batch.calculationSnapshot ∧
        ∀ approvals executor, ApprovalsQuote view.frozen executor approvals →
          assertExecutionBinding view.frozen preview.settlementId preview.settlementReference
            preview.calculationHash preview.replayVerified approvals executor = .ok () := by
  obtain ⟨code, references, settlementReference, t, hcode, hne, htx⟩ := assembleBatch_exec hassembled
  obtain ⟨hbatch, batches, ledger, n, hcreate, hdb, -⟩ := assembleTx_eq_ok htx
  have hstored : v.db.batches.find batch.id = some batch := by
    rw [hrow, hdb]
    exact find_create_self hcreate
  have hfrozen : WellFrozen batch := by
    rw [hbatch]
    exact wellFrozen_batchRow (asCurrencyCode_self hcode) hne (currency_eligible hcode) _ _ _ _ _ _
  have hcalc := hfrozen.calculation
  have hfrozencalc : calculateSettlement
      ((SettlementBatch.frozen batch).composition.map FrozenCompositionEntry.toInput)
      { receivableRecovery :=
          some (frozenRecovery (SettlementBatch.frozen batch).recoveryAllocation) } =
        .ok (SettlementBatch.frozen batch).calculationSnapshot := hcalc
  let view : FrozenView :=
    { status := batch.status
      assembledBy := batch.assembledBy
      closureType := batch.closureType
      closedAt := batch.closedAt
      frozen := SettlementBatch.frozen batch }
  refine ⟨view, ?_, hcalc, fun asOf => ?_⟩
  · simp only [frozenRecord, loadBatch, Svc.exec_bind, Svc.exec_query, findUnique, hstored,
      Svc.exec_pure]
    rfl
  · obtain ⟨preview, hpreview, hverified, hid, hreference, hnet, hhash⟩ :=
      replayVerified_of_frozen hfrozencalc asOf
    refine ⟨preview, hpreview, hverified, hnet, hhash, fun approvals executor happrovals => ?_⟩
    rw [hid, hreference, hhash, hverified]
    exact assertExecutionBinding_ok happrovals

end Replay

/-- A receivable of four riyals of the merchant of `tenRiyals`. -/
def fourRiyalsOwed : SettlementReceivable where
  id := 2
  storeId := 3
  currency := .SAR
  amount := ⟨400⟩
  occurrenceId := 9
  state := .open
  amountRecovered := ⟨0⟩
  stagedBySettlementId := none
  accruedAt := 0
  recoveredAt := none
  recoveredBySettlementId := none

/-- One eligible item and one open receivable of a merchant. -/
def tenRiyalsWorld : World :=
  { World.empty with
    db := { World.empty.db with
      nextId := 10
      items := ⟨[tenRiyals], by simp⟩
      receivables := ⟨[fourRiyalsOwed], by simp⟩ } }

theorem assembled_replays_tenRiyals :
    ∃ batch u view, (assembleBatch 1 3 "sar" fun _ => ["QS-1"]).exec tenRiyalsWorld = (.ok batch, u) ∧
      (frozenRecord batch.id).exec u = (.ok view, u) ∧
      calculateSettlement (view.frozen.composition.map FrozenCompositionEntry.toInput)
          { receivableRecovery := some (frozenRecovery view.frozen.recoveryAllocation) } =
        .ok batch.calculationSnapshot := by
  have hok : ((assembleBatch 1 3 "sar" fun _ => ["QS-1"]).exec tenRiyalsWorld).1.toOption.isSome =
      true := by decide +kernel
  rcases hrun : (assembleBatch 1 3 "sar" fun _ => ["QS-1"]).exec tenRiyalsWorld with ⟨r, u⟩
  cases r with
  | error e => simp [hrun, Except.toOption] at hok
  | ok batch =>
      let _ := plainRuntime
      obtain ⟨view, hview, hcalc, -⟩ := assembled_replays hrun (v := u) rfl
      exact ⟨batch, u, view, rfl, hview, hcalc⟩

end Qift.Settlement
