import Qift.Runs.Batches

/-!
# Receivables over runs

What every interleaving keeps of the receivables of a merchant.

* `ReceivableTells` — the balance, the state, the staging and the postings of a receivable tell one story.
* `Effect.staged` — a batch stages receivables when it is assembled and at no other time.
* **`Run.receivables_tell`** — every run keeps the story, and a superseded batch stages nothing any more.
-/

namespace Qift

open Relational Relational.Table Interleaving Settlement Financial

/-! ### The story of a receivable -/

def recoveredReceivable (e : FinancialLedgerEntry) : Option Nat :=
  match e.idempotencyKey with
  | some ⟨.MERCHANT_RECEIVABLE_RECOVERED, .pair receivableId _⟩ => some receivableId
  | _ => none

def Books.postedRecoveryMinor (b : Books) (receivableId : Nat) : Int :=
  b.ledger.sumOf fun e => if recoveredReceivable e = some receivableId then e.amount.cents else 0

structure ReceivableTells (b : Books) (r : SettlementReceivable) : Prop where
  bounds : 0 ≤ r.amountRecovered.cents ∧ r.amountRecovered.cents ≤ r.amount.cents
  untouched : r.state = .open ↔ r.amountRecovered.cents = 0
  underway : r.state = .partially_recovered ↔
    0 < r.amountRecovered.cents ∧ r.amountRecovered.cents < r.amount.cents
  complete : r.state = .recovered ↔ r.amountRecovered.cents = r.amount.cents
  /-- The one batch that stages it is still open. -/
  staged : ∀ n, r.stagedBySettlementId = some n → ∃ batch, b.batches.find n = some batch ∧
    batch.status ≠ .settled ∧ batch.status ≠ .superseded
  posted : r.amountRecovered.cents = b.postedRecoveryMinor r.id

theorem recoveredReceivable_of_row {e : FinancialLedgerEntry} {receivableId batchId : Nat}
    {amount : Decimal} {currency : CurrencyCode} {storeId : Option Nat}
    (hrow : Row .MERCHANT_RECEIVABLE_RECOVERED (.pair receivableId batchId) amount currency storeId e) :
    recoveredReceivable e = some receivableId := by
  unfold recoveredReceivable
  rw [hrow.key]
  rfl

theorem Postings.recoveredReceivable {b : Books} (h : Postings b) {e : FinancialLedgerEntry}
    (he : e ∈ b.ledger.rows) (hevent : e.eventType ≠ .MERCHANT_RECEIVABLE_RECOVERED) :
    recoveredReceivable e = none := by
  unfold Qift.recoveredReceivable
  split
  · rename_i receivableId batchId hkey
    have htype := h.keyed e he _ hkey
    exact absurd htype.symm hevent
  · rfl

/-- An allocation is posted for what it takes. -/
theorem BatchAllocates.amount {b : Books} {batch : SettlementBatch} (h : BatchAllocates b batch)
    {alloc : RecoveryAllocation} (halloc : alloc ∈ batch.recoveryAllocation) :
    (Decimal.ofNumber alloc.amount).cents = toMinor alloc.amount batch.currency := by
  obtain ⟨r, -, recovered, take, -, -, -, hamount, -⟩ := h.fits alloc halloc
  rw [hamount, toMinor_fromMinor, Decimal.ofNumber_fromMinor h.digits]

theorem Postings.recovery_eq {b : Books} (h : Postings b) (hrecoveries : Recoveries b)
    (receivableId : Nat) : b.postedRecoveryMinor receivableId = b.drawnMinor receivableId := by
  unfold Books.postedRecoveryMinor Books.drawnMinor drawMinor
  refine h.sum_recoveries hrecoveries.allocates
    (v := fun batch a => if a.receivableId = receivableId then toMinor a.amount batch.currency else 0)
    (fun e he hevent => ?_) fun e batch hbatch alloc halloc _ hrow => ?_
  · have hnone := h.recoveredReceivable he hevent
    simp [hnone]
  · have hamount := (hrecoveries.batches batch hbatch).amount halloc
    rw [recoveredReceivable_of_row hrow, hrow.amount, hamount]
    simp only [Option.some.injEq]

theorem recoveredState_open (amount recovered : Int) :
    recoveredState amount recovered = .open ↔ recovered = 0 := by
  unfold recoveredState
  split
  · simp [*]
  · split <;> simp [*]

theorem recoveredState_underway {amount recovered : Int} (hnonneg : 0 ≤ recovered) :
    recoveredState amount recovered = .partially_recovered ↔ 0 < recovered ∧ recovered < amount := by
  unfold recoveredState
  split
  · simp
    omega
  · split
    · simp
      omega
    · simp
      omega

theorem recoveredState_complete {amount recovered : Int} (hpos : 0 < amount)
    (hbounded : recovered ≤ amount) :
    recoveredState amount recovered = .recovered ↔ recovered = amount := by
  unfold recoveredState
  split
  · simp
    omega
  · split
    · simp
      omega
    · simp
      omega

theorem Recoveries.tells {b : Books} (h : Recoveries b) (hcustody : Custody b) (hpostings : Postings b)
    {r : SettlementReceivable} (hr : r ∈ b.receivables.rows) : ReceivableTells b r := by
  obtain ⟨hpos, hrecovered, hnonneg, hbounded, hstate, hstaged⟩ := h.receivables r hr
  constructor
  · exact ⟨hnonneg, hbounded⟩
  · rw [hstate]
    exact recoveredState_open _ _
  · rw [hstate]
    exact recoveredState_underway hnonneg
  · rw [hstate]
    exact recoveredState_complete hpos hbounded
  · intro n hn
    obtain ⟨batch, hbatch, hopen, hstatus, -⟩ := hstaged n hn
    refine ⟨batch, hbatch, fun hsettled => ?_, hstatus⟩
    exact (hcustody.batches batch (mem_of_find hbatch)).settled hsettled hopen
  · rw [hrecovered, hpostings.recovery_eq h]

/-! ### Staging -/

section Steps

variable [Runtime] {l : Site} {b b' : Books}

omit [Runtime] in
theorem unstaged_updateMany {p : SettlementReceivable → Bool}
    {f : SettlementReceivable → SettlementReceivable} {n : Nat}
    (hrows : b'.receivables.rows = b.receivables.rows.map fun r => if p r then f r else r)
    (hf : ∀ r, p r = true → (f r).stagedBySettlementId ≠ some n)
    (h : ∀ r ∈ b.receivables.rows, r.stagedBySettlementId ≠ some n) :
    ∀ r ∈ b'.receivables.rows, r.stagedBySettlementId ≠ some n := by
  intro r' hr'
  rw [hrows] at hr'
  obtain ⟨r, hr, rfl⟩ := List.mem_map.mp hr'
  by_cases hp : p r = true
  · rw [if_pos hp]
    exact hf r hp
  · rw [if_neg hp]
    exact h r hr

omit [Runtime] in
theorem unstaged_close {batch : SettlementBatch} {consumedAt : Time} {n : Nat}
    (hreceivables : b'.receivables = b.receivables.rewriteEach batch.recoveryAllocation
      RecoveryAllocation.receivableId (consumeRow batch.id consumedAt) (consumeRow_id _ _))
    (h : ∀ r ∈ b.receivables.rows, r.stagedBySettlementId ≠ some n) :
    ∀ r ∈ b'.receivables.rows, r.stagedBySettlementId ≠ some n := by
  intro r' hr'
  rw [hreceivables] at hr'
  obtain ⟨r, hr, hrr'⟩ := mem_updateMany.mp hr'
  have hkept := h r hr
  split at hrr'
  · cases hfound : batch.recoveryAllocation.find? fun x => decide (x.receivableId = r.id) with
    | none =>
        rw [hfound] at hrr'
        exact hrr' ▸ hkept
    | some alloc =>
        rw [hfound] at hrr'
        rw [← hrr']
        nofun
  · exact hrr' ▸ hkept

/-- **A batch stages receivables only when it is assembled.** -/
theorem Effect.staged (heffect : Effect l b b') {n : Nat} (hold : n < b.nextId)
    (h : ∀ r ∈ b.receivables.rows, r.stagedBySettlementId ≠ some n) :
    ∀ r ∈ b'.receivables.rows, r.stagedBySettlementId ≠ some n := by
  cases heffect with
  | assemble hassembles hcreate hposts hn =>
      refine unstaged_updateMany rfl (fun r _ hstaged => ?_) h
      have hid := Option.some.inj hstaged
      have hfresh := hassembles.fresh
      omega
  | supersede hstored hcause hlegal hposts hn =>
      exact unstaged_updateMany rfl (fun _ _ => nofun) h
  | markSettled hclosable hgated hcreate hposts hn => exact unstaged_close rfl h
  | markSettledZeroNet hclosable hgated hzero hposts hn => exact unstaged_close rfl h
  | accrue hrefunds hstate hreversed hcreate haccrue hposts hid hn =>
      intro r hr
      rcases (mem_create haccrue).mp hr with hmem | rfl
      · exact h r hmem
      · nofun
  | _ => exact h

end Steps

/-! ### Runs -/

/-- An action after which a batch that it supersedes is superseded. -/
structure Supersedes (e : Event World Site) (batchId : Nat) : Prop where
  label : ∃ cause affectedItemIds, e.lbl = .supersede batchId cause affectedItemIds
  superseded : ∃ r, e.post.db.batches.find batchId = some r ∧ r.status = .superseded

section Runs

variable [Runtime] {tr : List (Event World Site)} {cfg : Config World Site (Except Err Reply)}

theorem Reachable.unstaged {s : World} (h : Reachable s) {n : Nat} {batch : SettlementBatch}
    (hbatch : s.db.batches.find n = some batch) (hsuperseded : batch.status = .superseded) :
    ∀ r ∈ s.db.receivables.rows, r.stagedBySettlementId ≠ some n := by
  intro r hr hstaged
  obtain ⟨row, hrow, -, hstatus, -⟩ := (h.recoveries.receivables r hr).staged n hstaged
  have hstored : s.db.books.batches.find n = some batch := hbatch
  obtain rfl := Option.some.inj (hstored.symm.trans hrow)
  exact hstatus hsuperseded

theorem unstaged_of_rely {s t : World} (h : Rely Step s t) {n : Nat} (hn : n < s.db.nextId)
    (hs : ∀ r ∈ s.db.receivables.rows, r.stagedBySettlementId ≠ some n) :
    ∀ r ∈ t.db.receivables.rows, r.stagedBySettlementId ≠ some n := by
  have hboth : n < t.db.nextId ∧ ∀ r ∈ t.db.receivables.rows, r.stagedBySettlementId ≠ some n := by
    refine Rely.stable (P := fun w : World => n < w.db.nextId ∧
      ∀ r ∈ w.db.receivables.rows, r.stagedBySettlementId ≠ some n) ?_ h ⟨hn, hs⟩
    rintro l u v hact ⟨hlt, hnone⟩
    exact ⟨lt_of_lt_of_le hlt hact.later.nextId, Effect.staged hact hlt hnone⟩
  exact hboth.2

/-- **Every run keeps the receivables.**  Balance, state, staging and postings tell one story, and a batch that
was superseded stages nothing from then on. -/
theorem Run.receivables_tell (h : Run tr cfg) :
    (∀ r ∈ cfg.state.db.receivables.rows, ReceivableTells cfg.state.db.books r) ∧
      ∀ e ∈ tr, ∀ n, Supersedes e n →
        (∀ r ∈ e.post.db.receivables.rows, r.stagedBySettlementId ≠ some n) ∧
        ∀ r ∈ cfg.state.db.receivables.rows, r.stagedBySettlementId ≠ some n := by
  constructor
  · intro r hr
    have hs := h.reachable
    exact hs.recoveries.tells hs.custody hs.postings hr
  · intro e he n hsupersedes
    obtain ⟨hpre, hact, hlast⟩ := h.event he
    have hpost : Reachable e.post := hpre.trans (Rely.single hact)
    obtain ⟨batch, hbatch, hstatus⟩ := hsupersedes.superseded
    have hstored : e.post.db.books.batches.find n = some batch := hbatch
    have hid : batch.id = n := key_of_find hstored
    have hlt : n < e.post.db.nextId := hid ▸ hpost.custody.batchIds batch (mem_of_find hstored)
    have hnone := hpost.unstaged hbatch hstatus
    exact ⟨hnone, unstaged_of_rely hlast hlt hnone⟩

end Runs

/-- The surroundings with a second campaign. -/
def Pilot.widened : Surroundings :=
  { surroundings with
    campaigns := (surroundings.campaigns.create
      { id := 601, referenceNumber := some "GC-601" }).getD .empty
    claims := (surroundings.claims.create
      { id := 701, campaignId := 601, status := .claimed, expiresAt := newYear }).getD .empty }

/-- Goods of the second campaign. -/
def Pilot.issueSecond (amount : Number) : Call :=
  .issueMerchantInvoice
    { campaign := { campaign amount with campaignId := 601 }
      storeId := 500
      vatRegistered := true
      pricesIncludeVat := true }

/-- Thirty riyals are refunded after settlement; the next batch, of twenty, nets to nothing against them. -/
def Pilot.recovering : List Call :=
  [.surround widened, issueGoods 100, receive .merchant_invoice 0 100 "B-1", .evaluate 500,
    .assembleBatch 1 500 "SAR" fun _ => ["QS-1"], remit, refund .merchant_invoice 0 30 "R-1",
    issueSecond 20, receive .merchant_invoice 16 20 "B-2", .evaluate 500,
    .assembleBatch 1 500 "SAR" fun _ => ["QS-2"]]

theorem Run.receivables_tell_thirtyBack :
    let run := Pilot.played (Pilot.inOrder (Pilot.recovering ++ [.markSettledZeroNet 22]))
    (run.2.state.db.receivables.rows.map fun r =>
        (r.amount.cents, r.amountRecovered.cents, r.state)) = [(3000, 2000, .partially_recovered)] ∧
      ∀ r ∈ run.2.state.db.receivables.rows, ReceivableTells run.2.state.db.books r := by
  refine ⟨by decide +kernel, ?_⟩
  exact (@Run.receivables_tell plainRuntime _ _ (Pilot.run _)).1

end Qift
