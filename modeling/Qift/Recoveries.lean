import Qift.Postings

/-!
# Recoveries

What closed batches draw from the receivables of a merchant.

* `Postings.sum_recoveries` — a total over the recovery postings is a total over the allocations of the closed
  batches.
* `ReceivableOk` — a receivable is positive, what is recovered of it is what closed batches drew from it, its
  state tells how much that is, and only an open batch that allocates it stages it.
* **`Recoveries.effect`** — every effect keeps this.
-/

namespace Qift

open Relational Relational.Table Interleaving Settlement Financial Treasury

/-! ### Rows by event -/

theorem Origin.of_recovery {b : Books} {e : FinancialLedgerEntry} (h : Origin b e)
    (hevent : e.eventType = .MERCHANT_RECEIVABLE_RECOVERED) :
    ∃ batch ∈ b.batches.rows, ∃ alloc ∈ batch.recoveryAllocation, TellsClosing batch e ∧
      Row .MERCHANT_RECEIVABLE_RECOVERED (.pair alloc.receivableId batch.id)
        (Decimal.ofNumber alloc.amount) batch.currency (some batch.storeId) e := by
  cases h with
  | other hother =>
      rw [hevent] at hother
      exact absurd (by decide) hother
  | consumer hother => exact absurd (hevent.symm.trans hother) (by decide)
  | recovery hbatch hclosing halloc hrow => exact ⟨_, hbatch, _, halloc, hclosing, hrow⟩
  | payment _ hrow => exact absurd (hevent.symm.trans hrow.eventType) (by decide)
  | payable _ _ hrow => exact absurd (hevent.symm.trans hrow.eventType) (by decide)
  | remittance _ hrow => exact absurd (hevent.symm.trans hrow.eventType) (by decide)
  | refund _ _ hrow => exact absurd (hevent.symm.trans hrow.eventType) (by decide)
  | transfer _ _ hrow => exact absurd (hevent.symm.trans hrow.eventType) (by decide)
  | revenue _ _ hrow => exact absurd (hevent.symm.trans hrow.eventType) (by decide)
  | reversal _ _ _ hrow => exact absurd (hevent.symm.trans hrow.eventType) (by decide)

theorem TellsClosing.closed {batch : SettlementBatch} {e : FinancialLedgerEntry}
    (h : TellsClosing batch e) : batch.closureType ≠ none := by
  rcases h with ⟨htype, -⟩ | ⟨htype, -⟩ <;> rw [htype] <;> nofun

theorem Postings.eventType {b : Books} (h : Postings b) {e : FinancialLedgerEntry}
    (he : e ∈ b.ledger.rows) {event : FinancialEvent} {anchor : Anchor}
    (hkey : e.idempotencyKey = some (ledgerIdempotencyKey event anchor)) : e.eventType = event :=
  (h.keyed e he _ hkey).symm

/-! ### Totals over recoveries -/

def Books.closedDraws (b : Books) : List (SettlementBatch × RecoveryAllocation) :=
  b.batches.rows.flatMap fun batch =>
    if batch.closureType ≠ none then batch.recoveryAllocation.map (Prod.mk batch) else []

theorem Books.mem_closedDraws {b : Books} {x : SettlementBatch × RecoveryAllocation} :
    x ∈ b.closedDraws ↔
      x.1 ∈ b.batches.rows ∧ x.1.closureType ≠ none ∧ x.2 ∈ x.1.recoveryAllocation := by
  simp only [closedDraws, List.mem_flatMap]
  constructor
  · rintro ⟨batch, hbatch, hx⟩
    split at hx
    · rename_i hclosed
      obtain ⟨alloc, halloc, rfl⟩ := List.mem_map.mp hx
      exact ⟨hbatch, hclosed, halloc⟩
    · cases hx
  · rintro ⟨hbatch, hclosed, halloc⟩
    exact ⟨x.1, hbatch, by rw [if_pos hclosed]; exact List.mem_map.mpr ⟨x.2, halloc, rfl⟩⟩

/-- No batch allocates a receivable twice. -/
def Allocates (b : Books) : Prop :=
  ∀ batch ∈ b.batches.rows, (batch.recoveryAllocation.map RecoveryAllocation.receivableId).Nodup

theorem Books.nodup_closedDraws {b : Books} (h : Allocates b) : b.closedDraws.Nodup := by
  refine List.nodup_flatMap.mpr ⟨fun batch hbatch => ?_, ?_⟩
  · split
    · exact (List.Nodup.of_map _ (h batch hbatch)).map fun _ _ heq => (Prod.mk.inj heq).2
    · exact List.nodup_nil
  · have hrows : b.batches.rows.Nodup := List.Nodup.of_map _ b.batches.nodup
    refine hrows.imp_of_mem fun {x y} _ _ hne => ?_
    intro z hx hy
    dsimp only at hx hy
    split at hx
    · split at hy
      · obtain ⟨_, -, rfl⟩ := List.mem_map.mp hx
        obtain ⟨_, -, heq⟩ := List.mem_map.mp hy
        exact hne (Prod.mk.inj heq).1.symm
      · cases hy
    · cases hx

/-- **A total over recovery postings is a total over the draws of closed batches.** -/
theorem Postings.sum_recoveries {b : Books} (h : Postings b) (hallocates : Allocates b)
    {g : FinancialLedgerEntry → Int} {v : SettlementBatch → RecoveryAllocation → Int}
    (hother : ∀ e ∈ b.ledger.rows, e.eventType ≠ .MERCHANT_RECEIVABLE_RECOVERED → g e = 0)
    (hv : ∀ e, ∀ batch ∈ b.batches.rows, ∀ alloc ∈ batch.recoveryAllocation, TellsClosing batch e →
      Row .MERCHANT_RECEIVABLE_RECOVERED (.pair alloc.receivableId batch.id)
        (Decimal.ofNumber alloc.amount) batch.currency (some batch.storeId) e → g e = v batch alloc) :
    b.ledger.sumOf g = b.batches.sumOf fun batch =>
      if batch.closureType ≠ none then (batch.recoveryAllocation.map (v batch)).sum else 0 := by
  have hdraws : b.ledger.sumOf g = (b.closedDraws.map fun x => v x.1 x.2).sum := by
    refine sumOf_eq_sum (R := fun x e => e.idempotencyKey = some (ledgerIdempotencyKey
      .MERCHANT_RECEIVABLE_RECOVERED (.pair x.2.receivableId x.1.id)))
      (Books.nodup_closedDraws hallocates) (fun x hx => ?_) (fun e he hne => ?_) ?_ ?_
    · obtain ⟨hbatch, hclosed, halloc⟩ := Books.mem_closedDraws.mp hx
      obtain ⟨e, he, hkey⟩ := h.posted.recovery x.1 hbatch hclosed x.2 halloc
      obtain ⟨batch, hbatch', alloc, halloc', hclosing, hrow⟩ :=
        (h.origin e he).of_recovery (h.eventType he hkey)
      have hanchor : Anchor.pair alloc.receivableId batch.id = .pair x.2.receivableId x.1.id :=
        congrArg LedgerKey.anchor (Option.some.inj (hrow.key.symm.trans hkey))
      obtain ⟨hreceivable, hid⟩ := Anchor.pair.inj hanchor
      obtain rfl := row_unique _ hbatch' hbatch hid
      obtain rfl := List.inj_on_of_nodup_map (hallocates _ hbatch) halloc' halloc hreceivable
      exact ⟨e, he, hkey, hv e _ hbatch _ halloc hclosing hrow⟩
    · have hevent : e.eventType = .MERCHANT_RECEIVABLE_RECOVERED := by
        by_contra hevent
        exact hne (hother e he hevent)
      obtain ⟨batch, hbatch, alloc, halloc, hclosing, hrow⟩ := (h.origin e he).of_recovery hevent
      exact ⟨(batch, alloc), Books.mem_closedDraws.mpr ⟨hbatch, hclosing.closed, halloc⟩, hrow.key⟩
    · intro x e he e' he' hkey hkey'
      exact h.unique e he e' he' (hkey.trans hkey'.symm) (by rw [hkey]; nofun)
    · intro e x hx x' hx' hkey hkey'
      obtain ⟨hbatch, -, halloc⟩ := Books.mem_closedDraws.mp hx
      obtain ⟨hbatch', -, halloc'⟩ := Books.mem_closedDraws.mp hx'
      have hanchor : Anchor.pair x.2.receivableId x.1.id = .pair x'.2.receivableId x'.1.id :=
        congrArg LedgerKey.anchor (Option.some.inj (hkey.symm.trans hkey'))
      obtain ⟨hreceivable, hid⟩ := Anchor.pair.inj hanchor
      have hfst : x.1 = x'.1 := row_unique _ hbatch hbatch' hid
      rw [← hfst] at halloc'
      exact Prod.ext hfst (List.inj_on_of_nodup_map (hallocates _ hbatch) halloc halloc' hreceivable)
  rw [hdraws, Books.closedDraws, sum_map_flatMap, sumOf]
  congr 1
  refine List.map_congr_left fun batch _ => ?_
  split
  · rw [List.map_map]
    rfl
  · rfl

/-! ### Receivables -/

def drawMinor (batch : SettlementBatch) (receivableId : Nat) : Int :=
  (batch.recoveryAllocation.map fun a =>
    if a.receivableId = receivableId then toMinor a.amount batch.currency else 0).sum

/-- What the closed batches drew from a receivable. -/
def Books.drawnMinor (b : Books) (receivableId : Nat) : Int :=
  b.batches.sumOf fun batch => if batch.closureType ≠ none then drawMinor batch receivableId else 0

/-- The state that tells how much of a receivable is recovered. -/
def recoveredState (amountMinor recoveredMinor : Int) : ReceivableState :=
  if recoveredMinor = 0 then .open
  else if recoveredMinor < amountMinor then .partially_recovered
  else .recovered

def Fits (code : CurrencyCode) (r : SettlementReceivable) (alloc : RecoveryAllocation) : Prop :=
  ∃ recovered take : Int, 0 ≤ recovered ∧ 0 < take ∧ recovered + take ≤ r.amount.cents ∧
    alloc.amount = fromMinor take code ∧ alloc.amountRecoveredAtPlan = moneyToNumber ⟨recovered⟩ ∧
    alloc.balanceAfter = fromMinor (r.amount.cents - recovered - take) code

/-- The allocations of a batch are planned on distinct stored receivables. -/
structure BatchAllocates (b : Books) (batch : SettlementBatch) : Prop where
  digits : batch.currency.minorDigits = 2
  nodup : (batch.recoveryAllocation.map RecoveryAllocation.receivableId).Nodup
  fits : ∀ alloc ∈ batch.recoveryAllocation, ∃ r,
    b.receivables.find alloc.receivableId = some r ∧ Fits batch.currency r alloc

/-- A batch that is neither closed nor superseded allocates a receivable. -/
def StagedBy (b : Books) (receivableId n : Nat) : Prop :=
  ∃ batch, b.batches.find n = some batch ∧ batch.closureType = none ∧ batch.status ≠ .superseded ∧
    receivableId ∈ batch.recoveryAllocation.map RecoveryAllocation.receivableId

structure ReceivableOk (b : Books) (r : SettlementReceivable) : Prop where
  positive : 0 < r.amount.cents
  recovered : r.amountRecovered.cents = b.drawnMinor r.id
  nonneg : 0 ≤ r.amountRecovered.cents
  bounded : r.amountRecovered.cents ≤ r.amount.cents
  state : r.state = recoveredState r.amount.cents r.amountRecovered.cents
  staged : ∀ n, r.stagedBySettlementId = some n → StagedBy b r.id n

structure Recoveries (b : Books) : Prop where
  batches : ∀ batch ∈ b.batches.rows, BatchAllocates b batch
  receivables : ∀ r ∈ b.receivables.rows, ReceivableOk b r

theorem recoveries_empty : Recoveries World.empty.db.books where
  batches := by simp [Db.books, World.empty]
  receivables := by simp [Db.books, World.empty]

theorem Recoveries.allocates {b : Books} (h : Recoveries b) : Allocates b :=
  fun batch hbatch => (h.batches batch hbatch).nodup

theorem drawMinor_of_notMem {batch : SettlementBatch} {receivableId : Nat}
    (h : receivableId ∉ batch.recoveryAllocation.map RecoveryAllocation.receivableId) :
    drawMinor batch receivableId = 0 := by
  unfold drawMinor
  rw [List.map_congr_left (g := fun _ => 0) fun a ha => if_neg ?_]
  · simp
  · rintro rfl
    exact h (List.mem_map_of_mem ha)

theorem drawMinor_of_mem {batch : SettlementBatch}
    (hnodup : (batch.recoveryAllocation.map RecoveryAllocation.receivableId).Nodup)
    {alloc : RecoveryAllocation} (halloc : alloc ∈ batch.recoveryAllocation) :
    drawMinor batch alloc.receivableId = toMinor alloc.amount batch.currency := by
  unfold drawMinor
  revert hnodup halloc
  induction batch.recoveryAllocation with
  | nil => rintro - ⟨⟩
  | cons a rest ih =>
      intro hnodup halloc
      rw [List.map_cons, List.nodup_cons] at hnodup
      rw [List.map_cons, List.sum_cons]
      rcases List.mem_cons.mp halloc with rfl | hrest
      · rw [if_pos rfl, List.map_congr_left (g := fun _ => 0) fun x hx => if_neg ?_]
        · simp
        · intro heq
          exact hnodup.1 (heq ▸ List.mem_map_of_mem hx)
      · rw [if_neg, zero_add, ih hnodup.2 hrest]
        intro heq
        exact hnodup.1 (heq ▸ List.mem_map_of_mem hrest)

theorem SettlementReceivable.Same.fits {r r' : SettlementReceivable}
    (h : SettlementReceivable.Same r r') {code : CurrencyCode} {alloc : RecoveryAllocation}
    (hfits' : Fits code r alloc) : Fits code r' alloc := by
  unfold Fits
  rwa [h.amount]

theorem BatchAllocates.later {b b' : Books} {batch row : SettlementBatch} (h : BatchAllocates b batch)
    (hlater : Later b b') (hsame : SettlementBatch.Same batch row) : BatchAllocates b' row where
  digits := hsame.currency ▸ h.digits
  nodup := hsame.recoveryAllocation ▸ h.nodup
  fits := by
    intro alloc halloc
    rw [hsame.recoveryAllocation] at halloc
    obtain ⟨r, hr, hfits'⟩ := h.fits alloc halloc
    obtain ⟨r', hr', hrsame⟩ := hlater.receivables _ _ hr
    exact ⟨r', hr', hsame.currency ▸ hrsame.fits hfits'⟩

/-! ### Draws -/

theorem drawn_updateMany {b b' : Books} {p : SettlementBatch → Bool}
    {f : SettlementBatch → SettlementBatch}
    (hbatches : b'.batches.rows = b.batches.rows.map fun r => if p r then f r else r)
    (hsame : ∀ r, SettlementBatch.Same r (f r) ∧ (f r).closureType = r.closureType) (n : Nat) :
    b'.drawnMinor n = b.drawnMinor n := by
  unfold Books.drawnMinor Table.sumOf
  rw [hbatches, List.map_map]
  congr 1
  refine List.map_congr_left fun r _ => ?_
  dsimp only [Function.comp_apply]
  split
  · simp only [drawMinor, (hsame r).2, (hsame r).1.recoveryAllocation, (hsame r).1.currency]
  · rfl

theorem drawn_create {b b' : Books} {batch : SettlementBatch}
    (hcreate : b.batches.create batch = some b'.batches) (hopen : batch.closureType = none) (n : Nat) :
    b'.drawnMinor n = b.drawnMinor n := by
  unfold Books.drawnMinor
  rw [sumOf_create hcreate, if_neg (by simp [hopen]), add_zero]

theorem Closable.drawn {b b' : Books} {batch : SettlementBatch} (h : Closable b batch)
    {closureType : ClosureType} {closedAt : Time}
    (hbatches : b'.batches = b.batches.updateMany (fun r => r.id = batch.id ∧ r.status = .ready)
      (closeRow closureType closedAt) (closeRow_id _ _)) (n : Nat) :
    b'.drawnMinor n = b.drawnMinor n + drawMinor batch n := by
  unfold Books.drawnMinor
  rw [hbatches, sumOf_updateOne _ (mem_of_find h.stored) fun x hx => ?_]
  · have hafter : (closeRow closureType closedAt batch).closureType ≠ none := nofun
    have hdraw : drawMinor (closeRow closureType closedAt batch) n = drawMinor batch n := rfl
    rw [if_pos hafter, if_neg (not_not_intro h.unclosed), hdraw, sub_zero]
  · rw [decide_eq_true_eq]
    constructor
    · rintro ⟨hid, -⟩
      exact row_unique _ hx (mem_of_find h.stored) hid
    · rintro rfl
      exact ⟨rfl, h.ready⟩

/-! ### Effects -/

theorem Recoveries.keep {b b' : Books} (h : Recoveries b) (hlater : Later b b')
    (hbatches : ∀ r' ∈ b'.batches.rows,
      (∃ r ∈ b.batches.rows, SettlementBatch.Same r r') ∨ BatchAllocates b' r')
    (hdrawn : ∀ n, b'.drawnMinor n = b.drawnMinor n)
    (hreceivables : ∀ r' ∈ b'.receivables.rows,
      (∃ r ∈ b.receivables.rows, r'.id = r.id ∧ r'.amount = r.amount ∧
        r'.amountRecovered = r.amountRecovered ∧ r'.state = r.state ∧
        ∀ n, r'.stagedBySettlementId = some n → StagedBy b' r.id n) ∨ ReceivableOk b' r') :
    Recoveries b' where
  batches := by
    intro r' hr'
    rcases hbatches r' hr' with ⟨r, hr, hsame⟩ | hok
    · exact (h.batches r hr).later hlater hsame
    · exact hok
  receivables := by
    intro r' hr'
    rcases hreceivables r' hr' with ⟨r, hr, hid, hamount, hrecovered, hstate, hstaged⟩ | hok
    · obtain ⟨hpos, hdraws, hnonneg, hbounded, hold, -⟩ := h.receivables r hr
      refine ⟨?_, ?_, ?_, ?_, ?_, hid ▸ hstaged⟩
      · rwa [hamount]
      · rw [hrecovered, hid, hdrawn, hdraws]
      · rwa [hrecovered]
      · rwa [hrecovered, hamount]
      · rw [hstate, hamount, hrecovered, hold]
    · exact hok

theorem StagedBy.updateMany {b b' : Books} {receivableId n : Nat} (h : StagedBy b receivableId n)
    {p : SettlementBatch → Bool} {f : SettlementBatch → SettlementBatch}
    (hbatches : b'.batches.rows = b.batches.rows.map fun r => if p r then f r else r)
    (hid : ∀ r, (f r).id = r.id)
    (hopen : ∀ r, r.id = n → p r = true → r.closureType = none → r.status ≠ .superseded →
      (f r).closureType = none ∧ (f r).status ≠ .superseded ∧
        (f r).recoveryAllocation = r.recoveryAllocation) : StagedBy b' receivableId n := by
  obtain ⟨batch, hbatch, hclosure, hstatus, hmem⟩ := h
  have hupdate : b'.batches = b.batches.updateMany p f hid := ext_rows hbatches
  refine ⟨_, by rw [hupdate, find_updateMany, hbatch, Option.map_some], ?_⟩
  split
  · rename_i hp
    obtain ⟨hclosure', hstatus', hallocs⟩ := hopen batch (key_of_find hbatch) hp hclosure hstatus
    exact ⟨hclosure', hstatus', hallocs.symm ▸ hmem⟩
  · exact ⟨hclosure, hstatus, hmem⟩

theorem Recoveries.updateBatches {b b' : Books} (h : Recoveries b) (hlater : Later b b')
    {p : SettlementBatch → Bool} {f : SettlementBatch → SettlementBatch}
    (hbatches : b'.batches.rows = b.batches.rows.map fun r => if p r then f r else r)
    (hreceivables : b'.receivables = b.receivables)
    (hkeep : ∀ r, SettlementBatch.Same r (f r) ∧ (f r).closureType = r.closureType)
    (hopen : ∀ r, r.status ≠ .superseded → (f r).status ≠ .superseded) : Recoveries b' := by
  refine h.keep hlater (fun r' hr' => Or.inl ?_) (drawn_updateMany hbatches hkeep)
    fun r hr => Or.inl ⟨r, hreceivables ▸ hr, rfl, rfl, rfl, rfl, fun n hn => ?_⟩
  · rw [hbatches] at hr'
    obtain ⟨r, hr, rfl⟩ := List.mem_map.mp hr'
    refine ⟨r, hr, ?_⟩
    split
    · exact (hkeep r).1
    · exact SettlementBatch.Same.refl r
  · refine ((h.receivables r (hreceivables ▸ hr)).staged n hn).updateMany hbatches (fun x => (hkeep x).1.id)
      fun x _ _ hclosure hstatus => ?_
    exact ⟨(hkeep x).2.trans hclosure, hopen x hstatus, (hkeep x).1.recoveryAllocation⟩

theorem Closable.consumes {b b' : Books} {batch : SettlementBatch} (hclosable : Closable b batch)
    (h : Recoveries b) {closureType : ClosureType} {closedAt consumedAt : Time}
    (hbatches : b'.batches = b.batches.updateMany (fun r => r.id = batch.id ∧ r.status = .ready)
      (closeRow closureType closedAt) (closeRow_id _ _))
    {alloc : RecoveryAllocation} (halloc : alloc ∈ batch.recoveryAllocation) {r : SettlementReceivable}
    (hr : b.receivables.find alloc.receivableId = some r) :
    ReceivableOk b' (consumeRow batch.id consumedAt alloc r) := by
  have hok := h.receivables r (mem_of_find hr)
  have hbatch := h.batches batch (mem_of_find hclosable.stored)
  have hid : r.id = alloc.receivableId := key_of_find hr
  obtain ⟨r₁, hr₁, -, hatPlan⟩ := hclosable.allocated alloc halloc
  obtain rfl := Option.some.inj (hr.symm.trans hr₁)
  obtain ⟨r₂, hr₂, recovered, take, hnonneg, hpos, hfits, hamount, hplan, hbalance⟩ :=
    hbatch.fits alloc halloc
  obtain rfl := Option.some.inj (hr.symm.trans hr₂)
  have hrecovered : r.amountRecovered = ⟨recovered⟩ := moneyToNumber_injective (hatPlan.trans hplan)
  have hnew : (Decimal.ofNumber (alloc.amountRecoveredAtPlan + alloc.amount)).cents =
      recovered + take := by
    rw [hplan, hamount, moneyToNumber_eq_fromMinor hbatch.digits, ← fromMinor_add,
      Decimal.ofNumber_fromMinor hbatch.digits]
  refine ⟨hok.positive, ?_, ?_, ?_, ?_, nofun⟩
  · change (Decimal.ofNumber (alloc.amountRecoveredAtPlan + alloc.amount)).cents = b'.drawnMinor r.id
    rw [hnew, hclosable.drawn hbatches, ← hok.recovered, hrecovered, hid,
      drawMinor_of_mem hbatch.nodup halloc, hamount, toMinor_fromMinor]
  · change 0 ≤ (Decimal.ofNumber (alloc.amountRecoveredAtPlan + alloc.amount)).cents
    rw [hnew]
    omega
  · change (Decimal.ofNumber (alloc.amountRecoveredAtPlan + alloc.amount)).cents ≤ r.amount.cents
    rw [hnew]
    exact hfits
  · change consumedState alloc = recoveredState r.amount.cents
      (Decimal.ofNumber (alloc.amountRecoveredAtPlan + alloc.amount)).cents
    have hle : alloc.balanceAfter ≤ 0 ↔ r.amount.cents - recovered - take ≤ 0 := by
      rw [hbalance, ← fromMinor_zero batch.currency, fromMinor_le_iff]
    have hsome : recovered + take ≠ 0 := by omega
    rw [hnew, recoveredState, consumedState]
    by_cases hrest : r.amount.cents - recovered - take ≤ 0
    · rw [if_pos (hle.mpr hrest), if_neg hsome, if_neg (by omega)]
    · rw [if_neg fun hc => hrest (hle.mp hc), if_neg hsome, if_pos (by omega)]

theorem Closable.recoveries {b b' : Books} {batch : SettlementBatch} (hclosable : Closable b batch)
    (h : Recoveries b) (hlater : Later b b') {closureType : ClosureType} {closedAt consumedAt : Time}
    (hbatches : b'.batches = b.batches.updateMany (fun r => r.id = batch.id ∧ r.status = .ready)
      (closeRow closureType closedAt) (closeRow_id _ _))
    (hreceivables : b'.receivables = b.receivables.rewriteEach batch.recoveryAllocation
      RecoveryAllocation.receivableId (consumeRow batch.id consumedAt) (consumeRow_id _ _)) :
    Recoveries b' where
  batches := by
    intro r' hr'
    rw [hbatches] at hr'
    obtain ⟨r, hr, rfl⟩ := mem_updateMany.mp hr'
    refine (h.batches r hr).later hlater ?_
    split
    · rename_i hp
      obtain rfl := row_unique _ hr (mem_of_find hclosable.stored) (of_decide_eq_true hp).1
      exact ⟨rfl, rfl, rfl, rfl, fun hc => absurd hclosable.unclosed hc⟩
    · exact SettlementBatch.Same.refl r
  receivables := by
    have hnodup := (h.batches batch (mem_of_find hclosable.stored)).nodup
    intro r' hr'
    have hfind := find_of_mem hr'
    rw [hreceivables] at hfind
    by_cases hmem : r'.id ∈ batch.recoveryAllocation.map RecoveryAllocation.receivableId
    · obtain ⟨alloc, halloc, hkey⟩ := List.mem_map.mp hmem
      obtain ⟨r, hr, -⟩ := hclosable.allocated alloc halloc
      rw [← hkey, find_rewriteEach hnodup halloc hr] at hfind
      exact Option.some.inj hfind ▸ hclosable.consumes h hbatches halloc hr
    · rw [find_rewriteEach_of_notMem hmem] at hfind
      obtain ⟨hpos, hrecovered, hnonneg, hbounded, hstate, hstaged⟩ :=
        h.receivables r' (mem_of_find hfind)
      refine ⟨hpos, ?_, hnonneg, hbounded, hstate, fun n hn => ?_⟩
      · rw [hrecovered, hclosable.drawn hbatches, drawMinor_of_notMem hmem, add_zero]
      · refine (hstaged n hn).updateMany (congrArg Table.rows hbatches) (fun _ => rfl) fun r hid hp _ _ => ?_
        obtain ⟨batch', hbatch', -, -, hallocated⟩ := hstaged n hn
        have hkey : batch'.id = n := key_of_find hbatch'
        have hmine : batch' = batch := row_unique _ (mem_of_find hbatch') (mem_of_find hclosable.stored)
          (hkey.trans (hid.symm.trans (of_decide_eq_true hp).1))
        exact absurd (hmine ▸ hallocated) hmem

section Effects

variable [Runtime]

/-- **Every effect keeps the recoveries.** -/
theorem Recoveries.effect {l : Site} {b b' : Books} (h : Recoveries b)
    (heffect : Effect l b b') : Recoveries b' := by
  have hlater := heffect.later
  have hsame : ∀ r ∈ b.batches.rows, (∃ r₀ ∈ b.batches.rows, SettlementBatch.Same r₀ r) ∨
      BatchAllocates b' r := fun r hr => Or.inl ⟨r, hr, SettlementBatch.Same.refl r⟩
  cases heffect with
  | @assemble _ batch batches ledger n hassembles hcreate hposts hn =>
      have hdigits := minorDigits_of_asCurrencyCode hassembles.frozen.registered
      refine h.keep hlater (fun r' hr' => ?_) (drawn_create hcreate hassembles.unclosed) fun r' hr' => ?_
      · rcases (mem_create hcreate).mp hr' with hold | rfl
        · exact hsame r' hold
        · refine Or.inr ⟨hdigits, hassembles.allocations, fun alloc halloc => ?_⟩
          obtain ⟨r, take, hr, rfl, hpos, hfits, hrest⟩ := hassembles.allocated alloc halloc
          have hok := h.receivables r (mem_of_find hr)
          obtain ⟨r', hr', hrsame⟩ := hlater.receivables _ _ hr
          refine ⟨r', hr', hrsame.fits ⟨r.amountRecovered.cents, take, hok.nonneg, hpos, ?_, rfl, rfl,
            rfl⟩⟩
          unfold SettlementReceivable.balanceMinor at hfits
          omega
      · obtain ⟨r, hr, rfl⟩ := List.mem_map.mp hr'
        refine Or.inl ⟨r, hr, ?_⟩
        split
        · rename_i hp
          refine ⟨rfl, rfl, rfl, rfl, fun n hn => ?_⟩
          obtain rfl := Option.some.inj hn
          exact ⟨batch, find_create_self hcreate, hassembles.unclosed, by simp [hassembles.ready],
            of_decide_eq_true hp⟩
        · refine ⟨rfl, rfl, rfl, rfl, fun n hn => ?_⟩
          obtain ⟨batch', hbatch', hrest⟩ := (h.receivables r hr).staged n hn
          exact ⟨batch', find_create_of_find hcreate hbatch', hrest⟩
  | statusWrite hlegal htarget =>
      refine h.updateBatches hlater rfl rfl
        (fun _ => ⟨⟨rfl, rfl, rfl, rfl, fun _ => ⟨rfl, rfl⟩⟩, rfl⟩) fun _ _ => ?_
      rcases htarget with rfl | rfl | rfl <;> simp
  | link =>
      exact h.updateBatches hlater rfl rfl
        (fun _ => ⟨⟨rfl, rfl, rfl, rfl, fun _ => ⟨rfl, rfl⟩⟩, rfl⟩) fun _ hs => hs
  | @supersede _ batch cause disposition affectedItemIds hold ledger n hstored hcause hlegal hposts hn =>
      refine h.keep hlater (fun r' hr' => Or.inl ?_) (drawn_updateMany rfl fun _ =>
        ⟨⟨rfl, rfl, rfl, rfl, fun _ => ⟨rfl, rfl⟩⟩, rfl⟩) fun r' hr' => ?_
      · obtain ⟨r, hr, rfl⟩ := List.mem_map.mp hr'
        refine ⟨r, hr, ?_⟩
        split
        · exact ⟨rfl, rfl, rfl, rfl, fun _ => ⟨rfl, rfl⟩⟩
        · exact SettlementBatch.Same.refl r
      · obtain ⟨r, hr, rfl⟩ := List.mem_map.mp hr'
        refine Or.inl ⟨r, hr, ?_⟩
        split
        · exact ⟨rfl, rfl, rfl, rfl, fun _ hn => by cases hn⟩
        · rename_i hp
          refine ⟨rfl, rfl, rfl, rfl, fun m hm => ?_⟩
          refine ((h.receivables r hr).staged m hm).updateMany rfl (fun _ => rfl) fun x hx hpx _ _ => ?_
          exact absurd (decide_eq_true (hm.trans (congrArg some (hx.symm.trans (of_decide_eq_true hpx))))) hp
  | markSettled hclosable hgated hcreate hposts hn =>
      exact hclosable.recoveries h hlater rfl rfl
  | markSettledZeroNet hclosable hgated hzero hposts hn =>
      exact hclosable.recoveries h hlater rfl rfl
  | @accrue _ origin draft inv item refunds receivables accruedAt reversed ledger id n hrefunds hstate
      hreversed hcreate haccrue hposts hid hn =>
      refine h.keep hlater hsame (fun _ => rfl) fun r' hr' => ?_
      rcases (mem_create haccrue).mp hr' with hold | rfl
      · exact Or.inl ⟨r', hold, rfl, rfl, rfl, rfl, (h.receivables r' hold).staged⟩
      · have hamount : (receivableRow draft inv b.nextId accruedAt id).amount.cents = draft.amountMinor :=
          congrArg Decimal.cents (ofNumber_SAR draft.amountMinor)
        have hpos := hrefunds.positive
        -- no batch allocates a receivable that was not stored
        have hfresh : b.receivables.find id = none := (create_eq_some haccrue).2
        have hdrawn : b.drawnMinor id = 0 := by
          refine sumOf_eq_zero fun batch hbatch => ?_
          split
          · refine drawMinor_of_notMem fun hmem => ?_
            obtain ⟨alloc, halloc, hkey⟩ := List.mem_map.mp hmem
            obtain ⟨r, hr, -⟩ := (h.batches batch hbatch).fits alloc halloc
            rw [hkey, hfresh] at hr
            cases hr
          · rfl
        refine Or.inr ⟨?_, hdrawn.symm, le_refl _, ?_, rfl, fun _ hn => by cases hn⟩
        · rwa [hamount]
        · rw [hamount]
          exact hpos.le
  | _ =>
      exact h.keep hlater hsame (fun _ => rfl) fun r hr =>
        Or.inl ⟨r, hr, rfl, rfl, rfl, rfl, (h.receivables r hr).staged⟩

end Effects

end Qift
