import Qift.Guarantee

/-!
# Guarantees of the settlement engine

* `Planned` is what the reads of an assembly still say when the batch is stored; `assembleTx_step` turns its
  transaction into an effect.
* The writes of the failure lane are effects under the label that names the status they read.
* `supersede` reads the bound items before its transaction; they are all of them at the transaction because
  no item is bound to a stored batch (`Later.bound`).
* `closable_of_inPlace` is the common part of both closings.
-/

namespace Qift

open Relational Relational.Table Interleaving Settlement Financial

section Services

variable [Runtime] {q : Lane} {s : World}

/-! ### Loading a batch -/

theorem loadBatch_serves (batchId : Nat) :
    Serves q (fun batch t => t.db.books.batches.find batchId = some batch) (loadBatch batchId) s := by
  refine Serves.bind Serves.read fun found t _ hfound => ?_
  cases found with
  | none => exact Serves.fail
  | some batch => exact Serves.pure fun _ => hfound.symm

omit [Runtime] in
theorem Later.batch {b b' : Books} (h : Later b b') {n : Nat} {batch : SettlementBatch}
    (hbatch : b.batches.find n = some batch) :
    ∃ row, b'.batches.find n = some row ∧ SettlementBatch.Same batch row :=
  h.batches n batch hbatch

/-! ### Assembly -/

/-- What the reads of an assembly still say later. -/
structure Planned (storeId : Nat) (code : CurrencyCode) (items : List SettlementItem)
    (draws : List (SettlementReceivable × Int)) (b : Books) : Prop where
  items : ∀ i ∈ items, i.storeId = storeId ∧ i.currency = code ∧
    ∃ row, b.items.find i.id = some row ∧ SettlementItem.Same i row
  draws : ∀ d ∈ draws, d.1.storeId = storeId ∧ d.1.currency = code ∧ 0 < d.2 ∧
    d.2 ≤ SettlementReceivable.balanceMinor d.1 ∧
    ∃ row, b.receivables.find d.1.id = some row ∧ SettlementReceivable.Same d.1 row

omit [Runtime] in
theorem Planned.later {storeId : Nat} {code : CurrencyCode} {items : List SettlementItem}
    {draws : List (SettlementReceivable × Int)} {b b' : Books}
    (h : Planned storeId code items draws b) (hlater : Later b b') :
    Planned storeId code items draws b' where
  items := by
    intro i hi
    obtain ⟨hstore, hcurrency, row, hrow, hsame⟩ := h.items i hi
    obtain ⟨row', hrow', hsame'⟩ := hlater.items _ _ hrow
    exact ⟨hstore, hcurrency, row', hrow', hsame.trans hsame'⟩
  draws := by
    intro d hd
    obtain ⟨hstore, hcurrency, hpos, hle, row, hrow, hsame⟩ := h.draws d hd
    obtain ⟨row', hrow', hsame'⟩ := hlater.receivables _ _ hrow
    exact ⟨hstore, hcurrency, hpos, hle, row', hrow', hsame.trans hsame'⟩

/-- The items an assembly reads. -/
theorem eligibleItems_serves (storeId : Nat) (currency : String) :
    Serves q (fun items t => ∀ i ∈ items, t.db.books.items.find i.id = some i ∧
      i.storeId = storeId ∧ i.currency.name = toUpperCase currency)
      (eligibleItems storeId currency) s :=
  Serves.query fun t _ _ i hi => by
    obtain ⟨hmem, hstore, -, hcurrency⟩ := mem_eligibleOf.mp hi
    exact ⟨find_of_mem hmem, hstore, hcurrency⟩

theorem planRecovery_draws (storeId : Nat) (currency : String) (items : List SettlementItemInput) :
    Serves q (fun plan t => ∃ (code : CurrencyCode) (draws : List (SettlementReceivable × Int)),
      asCurrencyCode currency = .ok code ∧
      plan = { allocation := draws.map (allocationOf code)
               total := fromMinor (draws.map Prod.snd).sum code } ∧
      ∀ d ∈ draws, t.db.books.receivables.find d.1.id = some d.1 ∧ d.1.storeId = storeId ∧
        d.1.currency.name = currency ∧ 0 < d.2 ∧ d.2 ≤ SettlementReceivable.balanceMinor d.1)
      (planRecovery storeId currency items) s := by
  refine Serves.bind Serves.read fun receivables t _ hread => ?_
  refine Serves.bind (P := fun code u => u = t ∧ asCurrencyCode currency = .ok code) ?_ ?_
  · exact Serves.ofExcept fun _ code hcode => ⟨rfl, hcode⟩
  · rintro code u - ⟨rfl, hcode⟩
    refine Serves.pure fun _ => ⟨code, planDraws receivables (budgetMinor code items), hcode, ?_, ?_⟩
    · rw [planLoop_eq_draw (minorDigits_of_asCurrencyCode hcode)]
    · intro d hd
      obtain ⟨hmem, hpos, hle⟩ := Waterfall.draw_mem hd
      rw [hread, openReceivables, mem_orderBy] at hmem
      simp only [findMany, List.mem_filter, decide_eq_true_eq] at hmem
      exact ⟨find_of_mem hmem.1, hmem.2.1, hmem.2.2.1, hpos, hle⟩

theorem occurrenceReferences_serves (items : List SettlementItem) :
    Acts q (occurrenceReferences items) s := by
  unfold occurrenceReferences
  dsimp only
  split
  · exact Serves.pure fun _ => trivial
  · exact Serves.bind Serves.read fun _ _ _ _ => Serves.bind Serves.read fun _ _ _ _ =>
      Serves.pure fun _ => trivial

theorem assembleTx_step {actor storeId : Nat} {code : CurrencyCode}
    (hcode : asCurrencyCode code.name = .ok code) {settlementReference : String}
    {items : List SettlementItem} (hne : items ≠ []) {draws : List (SettlementReceivable × Int)}
    {references : List (Nat × References)} {t u : World}
    (hplanned : Planned storeId code items draws t.db.books) {batch : SettlementBatch}
    (h : assembleTx (batchRow actor storeId settlementReference
      (recoverySnapshot code (itemsMinor items) (draws.map Prod.snd).sum items.length)
      (composition items references) (draws.map (allocationOf code))) items t = .ok (batch, u)) :
    Step .assemble t u := by
  obtain ⟨rfl, batches, ledger, n, hcreate, hdb, hn, hposts, hnodup, hitems, hallocs, hallocated⟩ :=
    assembleTx_eq_ok h
  have hmembers (id : Nat) : memberIds (batchRow actor storeId settlementReference
      (recoverySnapshot code (itemsMinor items) (draws.map Prod.snd).sum items.length)
      (composition items references) (draws.map (allocationOf code)) id) =
        items.map SettlementItem.id := by
    simp [memberIds, batchRow, composition, Function.comp_def]
  have hfrozen := wellFrozen_batchRow hcode hne (fun i hi => (hplanned.items i hi).2.1) draws actor
    storeId settlementReference references t.db.nextId
  have hassembles : Assembles t.db.books _ :=
    { fresh := rfl, ready := rfl, unclosed := rfl, frozen := hfrozen
      nodup := hmembers _ ▸ hnodup
      members := ?_, allocations := hallocs, allocated := ?_ }
  · unfold Step
    rw [hdb]
    have heffect := Effect.assemble hassembles hcreate hposts hn
    simp only [hmembers] at heffect
    exact heffect
  · intro c hc
    obtain ⟨item, hitem, rfl⟩ := List.mem_map.mp hc
    obtain ⟨hstore, hcurrency, row, hrow, hsame⟩ := hplanned.items item hitem
    obtain ⟨i, hi, hguard⟩ := hitems item hitem
    obtain ⟨-, heligible, hunbound, hamount⟩ := bindGuard_iff.mp hguard
    have heq : some i = some row := hi.symm.trans hrow
    obtain rfl := Option.some.inj heq
    exact ⟨i, hi, heligible, hunbound, congrArg moneyToNumber hamount.symm,
      hsame.storeId.trans hstore, hsame.currency.trans hcurrency⟩
  · intro alloc halloc
    obtain ⟨d, hd, rfl⟩ := List.mem_map.mp halloc
    obtain ⟨hstore, hcurrency, hpos, hle, row, hrow, hsame⟩ := hplanned.draws d hd
    obtain ⟨r, hr, hguard⟩ := hallocated _ halloc
    obtain ⟨hid, -, hunstaged, hrecovered⟩ := stageGuard_iff.mp hguard
    have heq : some r = some row := hr.symm.trans hrow
    obtain rfl := Option.some.inj heq
    have hrecovered : r.amountRecovered = d.1.amountRecovered := moneyToNumber_injective hrecovered
    have hbalance : SettlementReceivable.balanceMinor r =
        SettlementReceivable.balanceMinor d.1 := by
      rw [SettlementReceivable.balanceMinor, hsame.amount, hrecovered]
      rfl
    refine ⟨r, d.2, hr, ?_, hpos, hbalance ▸ hle, hsame.storeId.trans hstore,
      hsame.currency.trans hcurrency, hunstaged⟩
    have hid' : r.id = d.1.id := hid
    simp only [allocationOf, hbalance, hrecovered, hid', hsame.occurrenceId]
    rfl

theorem assembleAttempts_serves {row : String → Nat → SettlementBatch} {items : List SettlementItem}
    {draws : Nat → List String} (n : Nat)
    (hstep : ∀ settlementReference t u batch, Rely Step s t →
      assembleTx (row settlementReference) items t = .ok (batch, u) → Step .assemble t u) :
    Acts q (assembleAttempts row items draws n) s := by
  induction n generalizing s with
  | zero => exact Serves.fail
  | succ n ih =>
      refine Serves.seq (allocateReference_serves _ _ _) fun settlementReference t hst => ?_
      refine Serves.tryCatch ?_ fun e u htu => ?_
      · exact Serves.transaction rfl fun u batch v _ htu h =>
          ⟨hstep _ u v batch (hst.trans htu) h, trivial⟩
      · split
        · split
          · exact Serves.fail
          · exact ih fun r v w batch huv => hstep r v w batch ((hst.trans htu).trans huv)
        · exact Serves.fail

omit [Runtime] in
/-- The reads of an assembly, put together. -/
theorem planned_of_reads {storeId : Nat} {code : CurrencyCode} {currency : String}
    (hcode : asCurrencyCode (toUpperCase currency) = .ok code) {items : List SettlementItem}
    {draws : List (SettlementReceivable × Int)} {b b' : Books} (hlater : Later b b')
    (hitems : ∀ i ∈ items, b.items.find i.id = some i ∧ i.storeId = storeId ∧
      i.currency.name = toUpperCase currency)
    (hdraws : ∀ d ∈ draws, b'.receivables.find d.1.id = some d.1 ∧ d.1.storeId = storeId ∧
      d.1.currency.name = toUpperCase currency ∧ 0 < d.2 ∧
      d.2 ≤ SettlementReceivable.balanceMinor d.1) :
    Planned storeId code items draws b' where
  items := by
    intro i hi
    obtain ⟨hfind, hstore, hcurrency⟩ := hitems i hi
    obtain ⟨row, hrow, hsame⟩ := hlater.items _ _ hfind
    exact ⟨hstore, code_of_eligible hcode hcurrency, row, hrow, hsame⟩
  draws := by
    intro d hd
    obtain ⟨hfind, hstore, hcurrency, hpos, hle⟩ := hdraws d hd
    exact ⟨hstore, code_of_eligible hcode hcurrency, hpos, hle, d.1, hfind,
      SettlementReceivable.Same.refl _⟩

theorem assembleBatch_serves (actor storeId : Nat) (currency : String) (draws : Nat → List String) :
    Acts q (assembleBatch actor storeId currency draws) s := by
  refine Serves.bind (eligibleItems_serves storeId currency) fun items s₁ _ hitems => ?_
  refine Serves.bind Serves.guard fun _ s₂ h₁₂ hne => ?_
  refine Serves.bind (planRecovery_draws _ _ _) fun plan s₃ h₂₃ hplan => ?_
  obtain ⟨code, picks, hcode, rfl, hpicks⟩ := hplan
  have hself := asCurrencyCode_self hcode
  have hplanned : Planned storeId code items picks s₃.db.books :=
    planned_of_reads hcode (later_of_rely (h₁₂.trans h₂₃)) hitems hpicks
  have hcalc := calculation_of_plan hne (fun i hi => (hplanned.items i hi).2.1) hself
    (picks.map Prod.snd).sum
  refine Serves.bind (P := fun calculation _ => calculation = recoverySnapshot code
    (itemsMinor items) (picks.map Prod.snd).sum items.length) ?_ ?_
  · refine Serves.ofExcept fun _ calculation hok => ?_
    rw [hcalc] at hok
    exact (Except.ok.inj hok).symm
  · rintro calculation s₄ h₃₄ rfl
    refine Serves.seq (Serves.ofExcept fun _ _ _ => trivial) fun _ s₅ h₄₅ => ?_
    refine Serves.seq (Serves.ensure fun _ _ => trivial) fun _ s₆ h₅₆ => ?_
    refine Serves.seq (occurrenceReferences_serves items) fun references s₇ h₆₇ => ?_
    refine Serves.seq (Serves.forEach fun item _ _ _ => Serves.ofExcept fun _ _ _ => trivial)
      fun _ s₈ h₇₈ => ?_
    refine assembleAttempts_serves _ fun settlementReference t u batch h₈t h => ?_
    have hlater := later_of_rely
      (((((h₃₄.trans h₄₅).trans h₅₆).trans h₆₇).trans h₇₈).trans h₈t)
    exact assembleTx_step hself hne (hplanned.later hlater) h

/-! ### The failure lane -/

theorem writeStatus_serves {batch : SettlementBatch} {target : BatchState}
    {failureEvidence : Option String} (hlegal : target ∈ BATCH_TRANSITIONS batch.status)
    (htarget : target = .failed ∨ target = .ready ∨ target = .held) :
    Acts .failure (writeStatus batch target failureEvidence) s := by
  refine Serves.act rfl fun t row u h => ?_
  obtain ⟨rfl, -⟩ := updateBatch_eq_ok h
  exact Effect.statusWrite hlegal htarget

theorem markFailed_serves (batchId : Nat) (evidence : String) :
    Acts .failure (markFailed batchId evidence) s := by
  refine Serves.bind (loadBatch_serves batchId) fun batch _ _ _ => ?_
  refine Serves.bind (P := fun _ _ => .failed ∈ BATCH_TRANSITIONS batch.status) ?_ ?_
  · exact Serves.ofExcept fun _ _ h => assertBatchTransition_eq_ok.mp h
  · intro _ _ _ hlegal
    exact Serves.seq (Serves.ensure fun _ _ => trivial) fun _ _ _ =>
      writeStatus_serves hlegal (Or.inl rfl)

theorem retry_serves (batchId : Nat) : Acts .failure (retry batchId) s := by
  refine Serves.bind (loadBatch_serves batchId) fun batch _ _ _ => ?_
  refine Serves.bind (P := fun _ _ => .ready ∈ BATCH_TRANSITIONS batch.status) ?_ ?_
  · exact Serves.ofExcept fun _ _ h => assertBatchTransition_eq_ok.mp h
  · exact fun _ _ _ hlegal => writeStatus_serves hlegal (Or.inr (Or.inl rfl))

theorem holdBatch_serves (batchId : Nat) (evidence : String) :
    Acts .failure (holdBatch batchId evidence) s := by
  refine Serves.bind (loadBatch_serves batchId) fun batch _ _ _ => ?_
  refine Serves.bind (P := fun _ _ => .held ∈ BATCH_TRANSITIONS batch.status) ?_ ?_
  · exact Serves.ofExcept fun _ _ h => assertBatchTransition_eq_ok.mp h
  · intro _ _ _ hlegal
    exact Serves.seq (Serves.ensure fun _ _ => trivial) fun _ _ _ =>
      writeStatus_serves hlegal (Or.inr (Or.inr rfl))

/-! ### Supersession -/

theorem supersedeTx_step {batch : SettlementBatch} {cause : String} {disposition : ItemState}
    (hcause : SUPERSEDE_ITEM_DISPOSITION cause = some disposition) {affectedItemIds : List Nat}
    {hold : Option SupersedeHold} {items : List (Nat × ItemState)} {t u : World} {x : Unit}
    {row : SettlementBatch} (hrow : t.db.books.batches.find batch.id = some row)
    (hsame : SettlementBatch.Same batch row)
    (hcomplete : ∀ i ∈ t.db.books.items.rows, i.batchId = some batch.id → i.id ∈ items.map Prod.fst)
    (h : supersedeTx batch disposition affectedItemIds hold items t = .ok (x, u)) :
    Step (.supersede batch.id cause affectedItemIds) t u := by
  obtain ⟨ledger, n, hdb, hn, hposts, hall⟩ := supersedeTx_eq_ok h
  have hlisted : ∀ i ∈ t.db.books.items.rows, i.id ∈ items.map Prod.fst →
      i.batchId = some batch.id ∧
        supersededState disposition affectedItemIds i.id ∈ ITEM_TRANSITIONS i.state := by
    intro i hi hmem
    obtain ⟨item, hitem, hid⟩ := List.mem_map.mp hmem
    obtain ⟨hlegal, i', hfind, hguard⟩ := hall item hitem
    obtain ⟨hid', hbound, hstate⟩ := unbindGuard_iff.mp hguard
    obtain rfl := row_unique _ hi (mem_of_find hfind) (hid.symm.trans hid'.symm)
    rw [hid, ← hstate] at hlegal
    exact ⟨hbound, hlegal⟩
  have htable : t.db.items.updateMany (fun i => decide (i.id ∈ items.map Prod.fst))
      (unbindRow disposition affectedItemIds hold) (unbindRow_id _ _ _) =
        t.db.items.updateMany (fun i => i.batchId = some batch.id)
          (unbindRow disposition affectedItemIds hold) (unbindRow_id _ _ _) := by
    refine updateMany_congr fun i hi => ?_
    have hiff : i.id ∈ items.map Prod.fst ↔ i.batchId = some batch.id :=
      ⟨fun hmem => (hlisted i hi hmem).1, hcomplete i hi⟩
    simp only [hiff]
  have hid : row.id = batch.id := hsame.id
  have hposts' : Posts (marker .SETTLEMENT_SUPERSEDED "SETTLEMENT_SUPERSEDED" row.currency
      row.storeId row.id { settlementReference := some row.settlementReference })
      t.db.books.ledger ledger := by
    rw [hsame.currency, hsame.storeId, hsame.settlementReference, hid]
    exact hposts
  have hlegal : ∀ i ∈ t.db.books.items.rows, i.batchId = some row.id →
      supersededState disposition affectedItemIds i.id ∈ ITEM_TRANSITIONS i.state :=
    fun i hi hbound => (hlisted i hi (hcomplete i hi (hbound.trans (congrArg some hid)))).2
  have hstored : t.db.books.batches.find row.id = some row := hid.symm ▸ hrow
  have heffect := @Effect.supersede _ _ row _ _ _ hold _ _ hstored hcause hlegal hposts' hn
  unfold Step
  rw [hdb, htable]
  rw [hid] at heffect
  exact heffect

theorem supersede_serves (batchId : Nat) (cause : String) (affectedItemIds : List Nat)
    (hold : Option SupersedeHold) : Acts q (supersede batchId cause affectedItemIds hold) s := by
  unfold supersede
  cases hcause : SUPERSEDE_ITEM_DISPOSITION cause with
  | none => exact Serves.fail
  | some disposition =>
      refine Serves.seq (Serves.ensure fun _ _ => trivial) fun _ _ _ => ?_
      refine Serves.bind (loadBatch_serves batchId) fun batch s₁ _ hbatch => ?_
      have hid : batch.id = batchId := key_of_find hbatch
      refine Serves.seq (Serves.ofExcept fun _ _ _ => trivial) fun _ s₂ h₁₂ => ?_
      refine Serves.bind Serves.read fun remitted s₃ h₂₃ _ => ?_
      refine Serves.seq (Serves.ensure fun _ _ => trivial) fun _ s₄ h₃₄ => ?_
      -- the items bound when they are read are all that can be bound at the transaction
      refine Serves.bind (P := fun items t => batchId < t.db.books.nextId ∧
        ∀ i ∈ t.db.books.items.rows, i.batchId = some batchId → i.id ∈ items.map Prod.fst) ?_ ?_
      · refine Serves.query fun t hreach h₄t => ⟨?_, fun i hi hbound => ?_⟩
        · obtain ⟨row, hrow, -⟩ :=
            (later_of_rely (((h₁₂.trans h₂₃).trans h₃₄).trans h₄t)).batch hbatch
          exact key_of_find hrow ▸ hreach.custody.batchIds row (mem_of_find hrow)
        · refine List.mem_map.mpr ⟨(i.id, i.state), List.mem_map.mpr ⟨i, ?_, rfl⟩, rfl⟩
          rw [mem_orderBy]
          simpa [findMany] using ⟨hi, hbound⟩
      · rintro items s₅ h₄₅ ⟨hlt, hitems⟩
        refine Serves.seq (Serves.ensure fun _ _ => trivial) fun _ s₆ h₅₆ => ?_
        refine Serves.seq ?_ fun _ _ _ => (loadBatch_serves batchId).acts
        refine Serves.transaction rfl fun t x u _ h₆t h => ⟨?_, trivial⟩
        obtain ⟨row, hrow, hsame⟩ := (later_of_rely
          (((((h₁₂.trans h₂₃).trans h₃₄).trans h₄₅).trans h₅₆).trans h₆t)).batch hbatch
        subst hid
        refine supersedeTx_step hcause hrow hsame (fun i hi hbound => ?_) h
        obtain ⟨i₀, hi₀, hid₀, hbound₀⟩ :=
          (later_of_rely (h₅₆.trans h₆t)).bound batch.id hlt i hi hbound
        exact hid₀ ▸ hitems i₀ hi₀ hbound₀

theorem linkSuccessor_serves (supersededId successorId : Nat) :
    Acts q (linkSuccessor supersededId successorId) s := by
  refine Serves.seq (Serves.ensure fun _ _ => trivial) fun _ _ _ => ?_
  refine Serves.seq (loadBatch_serves _).acts fun _ _ _ => ?_
  refine Serves.seq ?_ fun count _ _ => ?_
  · refine Serves.act rfl fun t n u h => ?_
    obtain ⟨-, rfl⟩ := updateMany_eq_ok.mp h
    exact Effect.link
  · split
    · exact Serves.seq (loadBatch_serves _).acts fun _ _ _ =>
        Serves.seq (Serves.ensure fun _ _ => trivial) fun _ _ _ => Serves.pure fun _ => trivial
    · exact (loadBatch_serves _).acts

/-! ### Closing -/

omit [Runtime] in
theorem closable_of_inPlace {db : Db} (hcustody : Custody db.books) {batch : SettlementBatch}
    (hstored : db.books.batches.find batch.id = some batch) (h : InPlace db batch) :
    Closable db.books batch where
  stored := hstored
  ready := by
    obtain ⟨row, hrow, hready⟩ := h.ready
    rwa [Option.some.inj (hstored.symm.trans hrow)]
  unclosed := by
    have hfrozen := (hcustody.batches batch (mem_of_find hstored)).frozen
    obtain ⟨i, hi⟩ := List.exists_mem_of_ne_nil _ (memberIds_ne_nil hfrozen)
    obtain ⟨item, hitem, hbound, hready⟩ := h.members i hi
    obtain ⟨row, hrow, hto⟩ := hcustody.boundTo (mem_of_find hitem) hbound
    obtain rfl := Option.some.inj (hstored.symm.trans hrow)
    rcases hto.state with ⟨hopen, -⟩ | ⟨-, hfinal⟩
    · exact hopen
    · rw [hready] at hfinal
      simp [FINAL_STATES] at hfinal
  members := h.members
  allocations := h.allocations
  allocated := by
    intro alloc halloc
    obtain ⟨r, hr, hguard⟩ := h.allocated alloc halloc
    obtain ⟨-, hstaged, hrecovered⟩ := consumeGuard_iff.mp hguard
    exact ⟨r, hr, hstaged, hrecovered⟩

section Same

variable {batch row : SettlementBatch} (h : SettlementBatch.Same batch row)

include h

omit [Runtime]

theorem inPlace_same {db : Db} (hplace : InPlace db batch) : InPlace db row where
  ready := by
    rw [h.id]
    exact hplace.ready
  members := by
    rw [h.memberIds, h.id]
    exact hplace.members
  allocations := by
    rw [h.recoveryAllocation]
    exact hplace.allocations
  allocated := by
    rw [h.recoveryAllocation, h.id]
    exact hplace.allocated

/-- A closing reads frozen columns only. -/
theorem closedDb_same (db : Db) (closureType : ClosureType) (closedAt consumedAt : Time)
    (ledger : Ledger) (n : Nat) :
    closedDb db row closureType closedAt consumedAt ledger n =
      closedDb db batch closureType closedAt consumedAt ledger n := by
  simp only [closedDb, h.id, h.memberIds, h.recoveryAllocation]

theorem closingPostings_same (metadata markerMetadata : LedgerMetadata) :
    closingPostings row metadata markerMetadata = closingPostings batch metadata markerMetadata := by
  have hposting : recoveryPosting row metadata = recoveryPosting batch metadata := by
    funext alloc
    simp only [recoveryPosting, h.id, h.currency, h.storeId, h.settlementReference]
  simp only [closingPostings, hposting, marker, h.id, h.currency, h.storeId, h.recoveryAllocation]

theorem remittanceRow_same (evidence : RemittanceInput) (createdAt : Time) (id : Nat) :
    remittanceRow row evidence createdAt id = remittanceRow batch evidence createdAt id := by
  simp only [remittanceRow, h.id, h.currency, h.storeId, h.settlementReference, h.net]

end Same

section Close

variable {batch row : SettlementBatch} {gate : Option Gate} {t u : World}

theorem markSettledTx_step (hcustody : Custody t.db.books)
    (hrow : t.db.books.batches.find batch.id = some row) (hsame : SettlementBatch.Same batch row)
    (hgated : Gated t.db.books row gate) {evidence : RemittanceInput} {r : SettlementRemittance}
    (h : markSettledTx batch evidence t = .ok (r, u)) :
    Step (.markSettled batch.id gate) t u ∧ u.db.books.remittances.find batch.id = some r := by
  obtain ⟨rfl, hplace, remittances, ledger, n, markerMetadata, hcreate, hdb, hn, hposts⟩ :=
    markSettledTx_eq_ok h
  have hid : row.id = batch.id := hsame.id
  have hclosable := closable_of_inPlace hcustody (hid.symm ▸ hrow) (inPlace_same hsame hplace)
  rw [← remittanceRow_same hsame] at hcreate
  rw [← closingPostings_same hsame] at hposts
  refine ⟨?_, ?_⟩
  · have heffect := Effect.markSettled hclosable hgated hcreate hposts hn
    unfold Step
    rw [hdb, ← closedDb_same hsame, ← hid]
    exact heffect
  · rw [hdb, ← remittanceRow_same hsame, ← hid]
    exact find_create_self hcreate

theorem markSettledZeroNetTx_step (hcustody : Custody t.db.books)
    (hrow : t.db.books.batches.find batch.id = some row) (hsame : SettlementBatch.Same batch row)
    (hgated : Gated t.db.books row gate) (hzero : batch.netAmount.cents = 0) {closedAt : Time}
    {x : Unit} (h : markSettledZeroNetTx batch closedAt t = .ok (x, u)) :
    Step (.markSettledZeroNet batch.id gate) t u ∧ ∃ closed,
      u.db.books.batches.find batch.id = some closed ∧
        closed.closureType = some .zero_net_no_transfer := by
  obtain ⟨hplace, ledger, n, markerMetadata, hdb, hn, hposts⟩ := markSettledZeroNetTx_eq_ok h
  have hid : row.id = batch.id := hsame.id
  have hclosable := closable_of_inPlace hcustody (hid.symm ▸ hrow) (inPlace_same hsame hplace)
  rw [← closingPostings_same hsame] at hposts
  have heffect := Effect.markSettledZeroNet hclosable hgated (hsame.net ▸ hzero) hposts hn
  refine ⟨?_, ?_⟩
  · unfold Step
    rw [hdb, ← closedDb_same hsame, ← hid]
    exact heffect
  · rw [hdb, ← closedDb_same hsame, ← hid]
    exact ⟨_, hclosable.find_close _ _ _ _ _, rfl⟩

end Close

/-- The gate of a closing holds of the stored batch. -/
def GatedAt (b : Books) (batchId : Nat) (gate : Option Gate) : Prop :=
  ∀ g, gate = some g → ∃ batch, b.batches.find batchId = some batch ∧ Authorized b batch g

theorem GatedAt.none (b : Books) (batchId : Nat) : GatedAt b batchId none := nofun

/-- It still does later. -/
theorem GatedAt.gated {b b' : Books} {batchId : Nat} {gate : Option Gate} (h : GatedAt b batchId gate)
    (hlater : Later b b') {row : SettlementBatch} (hrow : b'.batches.find batchId = some row) :
    Gated b' row gate := by
  intro g hg
  obtain ⟨batch, hbatch, hauthorized⟩ := h g hg
  obtain ⟨row', hrow', hsame⟩ := hlater.batch hbatch
  obtain rfl := Option.some.inj (hrow'.symm.trans hrow)
  exact hauthorized.later hlater hsame

/-- The remittance a successful closing answers is the stored one. -/
theorem markSettled_serves (batchId : Nat) (evidence : RemittanceInput) {gate : Option Gate}
    (hgate : GatedAt s.db.books batchId gate) :
    Serves q (fun settled t => t.db.books.remittances.find batchId = some settled.remittance)
      (markSettled batchId evidence gate) s := by
  refine Serves.bind (loadBatch_serves batchId) fun batch s₁ hs₁ hbatch => ?_
  have hid : batch.id = batchId := key_of_find hbatch
  split
  · refine Serves.seq (Serves.ensure fun _ _ => trivial) fun _ s₂ h₁₂ => ?_
    refine Serves.bind Serves.read fun remittance s₃ h₂₃ hread => ?_
    cases remittance with
    | none => exact Serves.fail
    | some remittance => exact Serves.pure fun _ => hread.symm
  · refine Serves.seq (Serves.ofExcept fun _ _ _ => trivial) fun _ s₂ h₁₂ => ?_
    refine Serves.bind (P := fun r t => t.db.books.remittances.find batchId = some r) ?_ ?_
    · subst hid
      refine Serves.transaction rfl fun t r u hreach h₂t h => ?_
      obtain ⟨row, hrow, hsame⟩ := (later_of_rely (h₁₂.trans h₂t)).batch hbatch
      have hgated := hgate.gated (later_of_rely ((hs₁.trans h₁₂).trans h₂t)) hrow
      exact markSettledTx_step hreach.custody hrow hsame hgated h
    · intro remittance s₃ _ hremittance
      refine Serves.bind ((loadBatch_serves batchId).mono (Q := fun _ t =>
        t.db.books.remittances.find batchId = some remittance) fun _ t _ h₃t _ => ?_) ?_
      · obtain ⟨r, hr, rfl⟩ := (later_of_rely h₃t).remittances _ _ hremittance
        exact hr
      · exact fun _ _ _ hstored => Serves.pure fun _ => hstored

theorem markSettledZeroNet_serves (batchId : Nat) {gate : Option Gate}
    (hgate : GatedAt s.db.books batchId gate) :
    Serves q (fun closed t => t.db.books.batches.find batchId = some closed.batch ∧
      closed.batch.closureType = some .zero_net_no_transfer) (markSettledZeroNet batchId gate) s := by
  refine Serves.bind (loadBatch_serves batchId) fun batch s₁ hs₁ hbatch => ?_
  have hid : batch.id = batchId := key_of_find hbatch
  split
  · refine Serves.bind (P := fun _ t => t = s₁ ∧
      batch.closureType = some .zero_net_no_transfer) ?_ ?_
    · exact Serves.ensure fun _ hc => ⟨rfl, hc⟩
    · rintro _ t - ⟨rfl, hclosed⟩
      exact Serves.pure fun _ => ⟨hbatch, hclosed⟩
  · refine Serves.seq (Serves.ofExcept fun _ _ _ => trivial) fun _ s₂ h₁₂ => ?_
    refine Serves.bind (P := fun code _ => asCurrencyCode batch.currency.name = .ok code)
      (Serves.ofExcept fun _ _ h => h) fun code s₃ h₂₃ hcode => ?_
    refine Serves.bind Serves.guard fun _ s₄ h₃₄ hnet => ?_
    refine Serves.seq now_serves fun closedAt s₅ h₄₅ => ?_
    have hlater := later_of_rely (((h₁₂.trans h₂₃).trans h₃₄).trans h₄₅)
    have hzero : batch.netAmount.cents = 0 := by
      rwa [toMinor_moneyToNumber (minorDigits_of_asCurrencyCode hcode)] at hnet
    refine Serves.bind (P := fun _ t => ∃ closed, t.db.books.batches.find batchId = some closed ∧
      closed.closureType = some .zero_net_no_transfer) ?_ ?_
    · subst hid
      refine Serves.transaction rfl fun t x u hreach h₅t h => ?_
      obtain ⟨row, hrow, hsame⟩ := (hlater.trans (later_of_rely h₅t)).batch hbatch
      have hgated := hgate.gated ((later_of_rely hs₁).trans (hlater.trans (later_of_rely h₅t))) hrow
      exact markSettledZeroNetTx_step hreach.custody hrow hsame hgated hzero h
    · rintro _ s₆ - ⟨closed, hclosed, htype⟩
      refine Serves.bind ((loadBatch_serves batchId).mono (Q := fun batch t =>
        t.db.books.batches.find batchId = some batch ∧
          batch.closureType = some .zero_net_no_transfer) fun batch t _ h₆t hbatch => ?_) ?_
      · obtain ⟨row, hrow, hsame⟩ := (later_of_rely h₆t).batch hclosed
        obtain rfl := Option.some.inj (hrow.symm.trans hbatch)
        have hclosure := hsame.closure (by rw [htype]; simp)
        exact ⟨hrow, hclosure.1.trans htype⟩
      · exact fun _ _ _ hstored => Serves.pure fun _ => hstored

/-! ### Read seams -/

theorem frozenRecord_serves (batchId : Nat) :
    Serves q (fun view t => ∃ batch, t.db.books.batches.find batchId = some batch ∧
      view = { status := batch.status, assembledBy := batch.assembledBy,
               closureType := batch.closureType, closedAt := batch.closedAt,
               frozen := SettlementBatch.frozen batch }) (frozenRecord batchId) s := by
  refine Serves.bind (loadBatch_serves batchId) fun batch t _ hbatch => ?_
  exact Serves.pure fun _ => ⟨batch, hbatch, rfl⟩

theorem zeroNetClosedGrossMinor_serves (ownSettlementId storeId : Nat) (currency : CurrencyCode)
    (fromTime toTime : Time) :
    Acts q (zeroNetClosedGrossMinor ownSettlementId storeId currency fromTime toTime) s :=
  Serves.bind Serves.read fun _ _ _ _ =>
    Serves.seq (Serves.ofExcept fun _ _ _ => trivial) fun _ _ _ => Serves.pure fun _ => trivial

theorem batchItems_serves (batchId : Nat) : Acts q (batchItems batchId) s :=
  Serves.seq (loadBatch_serves _).acts fun _ _ _ => Serves.query fun _ _ _ => trivial

end Services

end Qift
