import Qift.Dues
import Qift.Runs.Treasury

/-!
# Internal transfers over runs

* `Completes` — a completed transfer moved what the closing of its settlement left in the account.
* **`Run.outstanding_nonneg`** — where no completed transfer is dated before its closing, no cut-off counts more
  transferred than left.
* **`Run.pending_agrees`** — the operator's worklist and the snapshot tell the same amount.
-/

namespace Qift

open Relational Relational.Table Interleaving Settlement Financial Treasury

/-! ### Completed transfers -/

/-- What a closing without a transfer left in the account. -/
def leftMinor (batch : SettlementBatch) : Int :=
  (batch.recoveryAllocation.map fun a => toMinor a.amount batch.currency).sum

/-- A completed transfer moved what the closing of its settlement left. -/
structure Completes (b : Books) (t : TreasuryInternalTransfer) (batch : SettlementBatch) : Prop where
  stored : b.batches.find t.settlementId = some batch
  closed : batch.closureType = some .zero_net_no_transfer
  amount : t.confirmedAmount.cents = leftMinor batch

/-- Every completed transfer moved what its closing left. -/
def Transfers (b : Books) : Prop :=
  ∀ t ∈ b.internalTransfers.rows, t.status = .completed → ∃ batch, Completes b t batch

/-- No completed transfer is dated before its closing. -/
def ClosedFirst (b : Books) : Prop :=
  ∀ t ∈ b.internalTransfers.rows, t.status = .completed → ∀ batch ∈ b.batches.find t.settlementId,
    ∀ closedAt ∈ batch.closedAt, textLE (toISOString closedAt) (toISOString t.valueDate)

theorem transfers_empty : Transfers World.empty.db.books := by
  intro t ht
  simp [Db.books, World.empty] at ht

theorem closedFirst_empty : ClosedFirst World.empty.db.books := by
  intro t ht
  simp [Db.books, World.empty] at ht

/-- What a closing left is fixed. -/
theorem SettlementBatch.Same.left {batch row : SettlementBatch} (h : SettlementBatch.Same batch row) :
    leftMinor row = leftMinor batch := by
  unfold leftMinor
  rw [h.recoveryAllocation, h.currency]

theorem Completes.later {b b' : Books} {t : TreasuryInternalTransfer} {batch : SettlementBatch}
    (h : Completes b t batch) (hlater : Later b b') : ∃ row, Completes b' t row ∧
      row.closedAt = batch.closedAt := by
  obtain ⟨row, hrow, hsame⟩ := hlater.batches _ _ h.stored
  obtain ⟨hclosure, hat⟩ := hsame.closure (by rw [h.closed]; nofun)
  exact ⟨row, ⟨hrow, hclosure.trans h.closed, h.amount.trans hsame.left.symm⟩, hat⟩

section Effects

variable [Runtime] {l : Site} {b b' : Books}

/-- A step completes a transfer: a posting of its settlement stands for it and its amount is what is due. -/
structure Completing (l : Site) (b : Books) (t : TreasuryInternalTransfer) : Prop where
  label : l = .internalTransfer t.settlementId t.valueDate .completed
  posted : ∃ row ∈ b.ledger.rows, zeroNetSettlement row = some t.settlementId
  amount : t.confirmedAmount.cents = b.zeroNetDueMinor t.settlementId

theorem Effect.completing (heffect : Effect l b b') {t : TreasuryInternalTransfer}
    (ht : t ∈ b'.internalTransfers.rows) (hcompleted : t.status = .completed) :
    t ∈ b.internalTransfers.rows ∨ Completing l b t := by
  cases heffect with
  | @transfer _ draft due transfers ledger n hstatus hdue hdigits hclosed hfirst hcreate =>
      rcases (mem_create hcreate).mp ht with hold | rfl
      · exact Or.inl hold
      · obtain ⟨row, hrow, hsettlement, -⟩ := hclosed
        refine Or.inr ⟨rfl, ⟨row, hrow, hsettlement⟩, ?_⟩
        have hcents : (Decimal.ofNumber (fromMinor due.dueMinor due.currency)).cents = due.dueMinor :=
          congrArg Decimal.cents (Decimal.ofNumber_fromMinor hdigits due.dueMinor)
        exact hcents.trans hdue
  | failedTransfer hfailed hcreate =>
      rcases (mem_create hcreate).mp ht with hold | rfl
      · exact Or.inl hold
      · cases hfailed.symm.trans hcompleted
  | _ => exact Or.inl ht

omit [Runtime] in
theorem Completing.completes {t : TreasuryInternalTransfer} (h : Completing l b t)
    (hpostings : Postings b) (hrecoveries : Recoveries b) : ∃ batch, Completes b t batch := by
  obtain ⟨row, hrow, hsettlement⟩ := h.posted
  obtain ⟨batch, hbatch, hclosed, -⟩ := hpostings.zeroNet_batch hrow hsettlement
  exact ⟨batch, hbatch, hclosed, h.amount.trans (hpostings.zeroNetDue_eq hrecoveries hbatch hclosed)⟩

theorem Transfers.effect (h : Transfers b) (hpostings : Postings b) (hrecoveries : Recoveries b)
    (heffect : Effect l b b') : Transfers b' := by
  intro t ht hcompleted
  have hbefore : ∃ batch, Completes b t batch := by
    rcases heffect.completing ht hcompleted with hold | hnew
    · exact h t hold hcompleted
    · exact hnew.completes hpostings hrecoveries
  obtain ⟨batch, hcompletes⟩ := hbefore
  obtain ⟨row, hrow, -⟩ := hcompletes.later heffect.later
  exact ⟨row, hrow⟩

theorem Reachable.transfers {s : World} (h : Reachable s) : Transfers s.db.books := by
  induction h with
  | refl => exact transfers_empty
  | tail hpre hstep ih =>
      obtain ⟨site, hact⟩ := hstep
      have hreached : Reachable _ := hpre
      exact ih.effect hreached.postings hreached.recoveries hact

omit [Runtime] in
/-- The settlement a step completes the transfer of, and the date it gives. -/
def Site.completes : Site → Option (Nat × Time)
  | .internalTransfer settlementId valueDate .completed => some (settlementId, valueDate)
  | _ => none

/-- A completed transfer is dated no earlier than the closing it completes. -/
def OnTime (e : Event World Site) : Prop :=
  ∀ x ∈ e.lbl.completes, ∀ batch ∈ e.pre.db.batches.find x.1, ∀ closedAt ∈ batch.closedAt,
    textLE (toISOString closedAt) (toISOString x.2)

instance : DecidablePred OnTime := fun e => by unfold OnTime; infer_instance

theorem ClosedFirst.step {s t : World} (h : ClosedFirst s.db.books) (hs : Reachable s)
    (hstep : Step l s t) (htime : OnTime ⟨s, l, t⟩) : ClosedFirst t.db.books := by
  have heffect : Effect l s.db.books t.db.books := hstep
  intro x hx hcompleted row hrow closedAt hat
  have hbefore : ∃ batch, Completes s.db.books x batch ∧
      ∀ closedAt ∈ batch.closedAt, textLE (toISOString closedAt) (toISOString x.valueDate) := by
    rcases heffect.completing hx hcompleted with hold | hnew
    · obtain ⟨batch, hcompletes⟩ := hs.transfers x hold hcompleted
      exact ⟨batch, hcompletes, h x hold hcompleted batch hcompletes.stored⟩
    · obtain ⟨batch, hcompletes⟩ := hnew.completes hs.postings hs.recoveries
      have hlabel : l.completes = some (x.settlementId, x.valueDate) := by rw [hnew.label]; rfl
      exact ⟨batch, hcompletes, htime _ hlabel batch hcompletes.stored⟩
  obtain ⟨batch, hcompletes, hdated⟩ := hbefore
  obtain ⟨row', hrow', hsame⟩ := hcompletes.later heffect.later
  obtain rfl := Option.some.inj (hrow'.stored.symm.trans hrow)
  rw [hsame] at hat
  exact hdated closedAt hat

end Effects

/-! ### What is outstanding -/

/-- A closing without a transfer that a cut-off counts. -/
def closedBy (asOfDate : String) (row : FinancialLedgerEntry) : Bool :=
  row.metadata.closedAt.any fun t => decide (textLE (toISOString t) asOfDate)

/-- A completed transfer that a cut-off counts. -/
def transferredBy (asOfDate : String) (t : TreasuryInternalTransfer) : Bool :=
  decide (t.status = .completed ∧ textLE (toISOString t.valueDate) asOfDate)

/-- A row whose settlement has a completed transfer that a cut-off counts. -/
def Books.movedBy (b : Books) (asOfDate : String) (row : FinancialLedgerEntry) : Bool :=
  b.internalTransfers.rows.any fun t =>
    transferredBy asOfDate t && decide (zeroNetSettlement row = some t.settlementId)

theorem Postings.nonCash_eq {b : Books} (h : Postings b) (asOfDate : String) {e : FinancialLedgerEntry}
    (he : e ∈ b.ledger.rows) : nonCashMinor asOfDate e =
      if (zeroNetSettlement e).isSome && closedBy asOfDate e then e.amount.cents else 0 := by
  unfold nonCashMinor
  rw [toMinor_moneyToNumber rfl]
  cases hsettlement : zeroNetSettlement e with
  | none =>
      have hnot : ¬ (e.eventType = .MERCHANT_RECEIVABLE_RECOVERED ∧
          e.metadata.closureType = some .zero_net_no_transfer) := by
        rintro ⟨hevent, hclosure⟩
        obtain ⟨batch, -, alloc, -, -, hrow⟩ := (h.origin e he).of_recovery hevent
        unfold zeroNetSettlement at hsettlement
        rw [if_pos hclosure, hrow.key] at hsettlement
        cases hsettlement
      rw [if_neg fun hall => hnot ⟨hall.1, hall.2.1⟩]
      simp
  | some n =>
      have hevent := h.zeroNet_recovery he hsettlement
      have hclosure : e.metadata.closureType = some .zero_net_no_transfer := by
        by_contra hnot
        unfold zeroNetSettlement at hsettlement
        rw [if_neg hnot] at hsettlement
        cases hsettlement
      simp [hevent, hclosure, closedBy]

theorem Origin.of_transfer {b : Books} {e : FinancialLedgerEntry} (h : Origin b e)
    (hevent : e.eventType = .INTERNAL_TRANSFER_COMPLETED) :
    ∃ t ∈ b.internalTransfers.rows, t.status = .completed ∧
      Row .INTERNAL_TRANSFER_COMPLETED (.id t.settlementId) t.confirmedAmount t.currency none e ∧
      e.metadata.valueDate = some t.valueDate := by
  cases h with
  | other hother =>
      rw [hevent] at hother
      exact absurd (by decide) hother
  | @transfer t ht hcompleted hrow hdate => exact ⟨t, ht, hcompleted, hrow, hdate⟩
  | consumer hconsumer => cases hconsumer.symm.trans hevent
  | payment _ hrow => cases hrow.eventType.symm.trans hevent
  | payable _ _ hrow => cases hrow.eventType.symm.trans hevent
  | remittance _ hrow => cases hrow.eventType.symm.trans hevent
  | refund _ _ hrow => cases hrow.eventType.symm.trans hevent
  | recovery _ _ _ hrow => cases hrow.eventType.symm.trans hevent
  | revenue _ _ hrow => cases hrow.eventType.symm.trans hevent
  | reversal _ _ _ hrow => cases hrow.eventType.symm.trans hevent

theorem Postings.sum_transferred {b : Books} (h : Postings b) (asOfDate : String) :
    b.ledger.sumOf (transferredMinor asOfDate) =
      b.internalTransfers.sumOf fun t => if transferredBy asOfDate t then t.confirmedAmount.cents else 0 := by
  have hsum : b.ledger.sumOf (transferredMinor asOfDate) =
      ((b.internalTransfers.rows.filter fun t => t.status = .completed).map fun t =>
        if transferredBy asOfDate t then t.confirmedAmount.cents else 0).sum := by
    have hnodup : b.internalTransfers.rows.Nodup := b.internalTransfers.nodup.of_map
    have horigin : ∀ e ∈ b.ledger.rows, e.eventType = .INTERNAL_TRANSFER_COMPLETED →
        ∃ t ∈ b.internalTransfers.rows, t.status = .completed ∧
          e.idempotencyKey = some (ledgerIdempotencyKey .INTERNAL_TRANSFER_COMPLETED (.id t.settlementId)) ∧
          transferredMinor asOfDate e =
            if transferredBy asOfDate t then t.confirmedAmount.cents else 0 := by
      intro e he hevent
      obtain ⟨t, ht, hcompleted, hrow, hdate⟩ := (h.origin e he).of_transfer hevent
      refine ⟨t, ht, hcompleted, hrow.key, ?_⟩
      unfold transferredMinor transferredBy
      rw [hdate, hrow.amount, toMinor_moneyToNumber rfl]
      simp [hevent, hcompleted]
    refine sumOf_eq_sum (hnodup.filter _) (R := fun t e => e.idempotencyKey =
      some (ledgerIdempotencyKey .INTERNAL_TRANSFER_COMPLETED (.id t.settlementId)))
      (fun t ht => ?_) (fun e he hne => ?_) (fun t e he e' he' hkey hkey' => ?_)
      fun e t ht t' ht' hkey hkey' => ?_
    · obtain ⟨hstored, hcompleted⟩ := List.mem_filter.mp ht
      have hcompleted : t.status = .completed := by simpa using hcompleted
      obtain ⟨e, he, hkey⟩ := h.posted.transfer t hstored hcompleted
      obtain ⟨t', ht', hcompleted', hkey', hminor⟩ := horigin e he (h.eventType he hkey)
      have heq := Option.some.inj (hkey.symm.trans hkey')
      have hsettlement : t.settlementId = t'.settlementId := by simpa [ledgerIdempotencyKey] using heq
      obtain rfl := h.once t hstored t' ht' hcompleted hcompleted' hsettlement
      exact ⟨e, he, hkey, hminor⟩
    · have hevent : e.eventType = .INTERNAL_TRANSFER_COMPLETED := by
        by_contra hnot
        exact hne (if_neg fun hall => hnot hall.1)
      obtain ⟨t, ht, hcompleted, hkey, -⟩ := horigin e he hevent
      exact ⟨t, List.mem_filter.mpr ⟨ht, by simpa using hcompleted⟩, hkey⟩
    · exact h.unique e he e' he' (hkey.trans hkey'.symm) (by rw [hkey]; simp)
    · obtain ⟨hstored, hcompleted⟩ := List.mem_filter.mp ht
      obtain ⟨hstored', hcompleted'⟩ := List.mem_filter.mp ht'
      have heq := Option.some.inj (hkey.symm.trans hkey')
      have hsettlement : t.settlementId = t'.settlementId := by simpa [ledgerIdempotencyKey] using heq
      exact h.once t hstored t' hstored' (by simpa using hcompleted) (by simpa using hcompleted') hsettlement
  rw [hsum, sum_map_filter]
  refine sumOf_congr (t := b.internalTransfers) (g := fun t => if decide (t.status = .completed) then
    if transferredBy asOfDate t then t.confirmedAmount.cents else 0 else 0) fun t _ => ?_
  by_cases hcompleted : t.status = .completed
  · simp [hcompleted]
  · simp [hcompleted, transferredBy]

/-- **The transfers a cut-off counts are the recovery postings of their settlements.** -/
theorem Postings.sum_moved {b : Books} (h : Postings b) (hrecoveries : Recoveries b)
    (htransfers : Transfers b) (asOfDate : String) :
    b.ledger.sumOf (transferredMinor asOfDate) =
      b.ledger.sumOf fun row => if b.movedBy asOfDate row then row.amount.cents else 0 := by
  have hgrouped := sumOf_grouped b.internalTransfers b.ledger (transferredBy asOfDate)
    TreasuryInternalTransfer.settlementId zeroNetSettlement (fun row => row.amount.cents)
    fun t ht t' ht' hcut hcut' hsettlement => ?_
  · rw [h.sum_transferred]
    refine (sumOf_congr fun t ht => ?_).trans hgrouped
    by_cases hcut : transferredBy asOfDate t = true
    · obtain ⟨batch, hcompletes⟩ := htransfers t ht (of_decide_eq_true hcut).1
      have hdue := h.zeroNetDue_eq hrecoveries hcompletes.stored hcompletes.closed
      rw [if_pos hcut, if_pos hcut, hcompletes.amount]
      exact hdue.symm
    · rw [if_neg hcut, if_neg hcut]
  · exact h.once t ht t' ht' (of_decide_eq_true hcut).1 (of_decide_eq_true hcut').1 hsettlement

theorem outstanding_gathered [Runtime] {w : World} (h : Postings w.db.books) (hrecoveries : Recoveries w.db.books)
    (htransfers : Transfers w.db.books) {inputs : TreasuryInputs}
    (hgathers : Gathers inputs (evidenceOf w) (safeguardingRows w)) :
    (buildTreasurySnapshot inputs).snapshot.legs.internalTransferOutstandingMinor =
      w.db.books.ledger.sumOf (fun row =>
        if (zeroNetSettlement row).isSome && closedBy inputs.asOfDate row then row.amount.cents else 0) -
      w.db.books.ledger.sumOf fun row =>
        if w.db.books.movedBy inputs.asOfDate row then row.amount.cents else 0 := by
  have hleft := sum_safeguardingRows w (g := nonCashMinor inputs.asOfDate) fun e hevent =>
    if_neg fun hall => ?_
  · have hmoved := sum_safeguardingRows w (g := transferredMinor inputs.asOfDate) fun e hevent =>
      if_neg fun hall => ?_
    · rw [outstanding_eq hgathers, hleft, hmoved, h.sum_moved hrecoveries htransfers,
        sumOf_congr fun e he => h.nonCash_eq inputs.asOfDate he]
    · rw [hall.1] at hevent
      exact hevent (by decide)
  · rw [hall.1] at hevent
    exact hevent (by decide)

/-! ### Over runs -/

theorem Postings.recovery_nonneg {b : Books} (h : Postings b) (hrecoveries : Recoveries b)
    {e : FinancialLedgerEntry} (he : e ∈ b.ledger.rows) (hsettlement : (zeroNetSettlement e).isSome) :
    0 ≤ e.amount.cents := by
  obtain ⟨n, hn⟩ := Option.isSome_iff_exists.mp hsettlement
  obtain ⟨batch, hbatch, alloc, halloc, -, hrow⟩ :=
    (h.origin e he).of_recovery (h.zeroNet_recovery he hn)
  have hallocates := hrecoveries.batches batch hbatch
  obtain ⟨-, -, recovered, take, -, hpos, -, hamount, -⟩ := hallocates.fits alloc halloc
  have hcents : (Decimal.ofNumber alloc.amount).cents = take := by
    rw [hamount, Decimal.ofNumber_fromMinor hallocates.digits]
  rw [hrow.amount, hcents]
  omega

/-- What a transfer on time moved was left before. -/
theorem ClosedFirst.moved {b : Books} (h : ClosedFirst b) (hpostings : Postings b) {asOfDate : String}
    (hclosed : ∀ batch ∈ b.batches.rows, batch.closureType ≠ none → batch.closedAt ≠ none)
    {e : FinancialLedgerEntry} (he : e ∈ b.ledger.rows) (hmoved : b.movedBy asOfDate e = true) :
    ((zeroNetSettlement e).isSome && closedBy asOfDate e) = true := by
  obtain ⟨t, ht, hboth⟩ := List.any_eq_true.mp hmoved
  obtain ⟨hcut, hsettlement⟩ := Bool.and_eq_true_iff.mp hboth
  have hsettlement : zeroNetSettlement e = some t.settlementId := of_decide_eq_true hsettlement
  obtain ⟨hcompleted, hdated⟩ := of_decide_eq_true hcut
  obtain ⟨batch, hbatch, htype, -, hat⟩ := hpostings.zeroNet_batch he hsettlement
  have hdate := hclosed batch (mem_of_find hbatch) (by rw [htype]; nofun)
  obtain ⟨closedAt, hclosedAt⟩ := Option.ne_none_iff_exists'.mp hdate
  have hbefore := textLE_trans (h t ht hcompleted batch hbatch closedAt hclosedAt) hdated
  unfold closedBy
  rw [hsettlement, hat, hclosedAt]
  simpa using hbefore

section Runs

variable [Runtime]

/-- **What is outstanding internally is never negative**, at no cut-off, when no completed transfer is dated
before the closing it completes. -/
theorem Run.outstanding_nonneg {tr : List (Event World Site)}
    {cfg : Config World Site (Except Err Reply)} (h : Run tr cfg) (htime : ∀ e ∈ tr, OnTime e) :
    ∃ gathered, gatherMovements.exec cfg.state = (.ok gathered, cfg.state) ∧
      ∀ inputs : TreasuryInputs, inputs.cashMovements = gathered.cashMovements →
        inputs.obligationMovements = gathered.obligationMovements →
          0 ≤ (buildTreasurySnapshot inputs).snapshot.legs.internalTransferOutstandingMinor := by
  have hs := h.reachable
  have hfirst : ClosedFirst cfg.state.db.books := by
    have hpair := h.path.invariant (P := fun w => Reachable w ∧ ClosedFirst w.db.books) (C := OnTime)
      (fun l s t hact hC hst => ⟨hst.1.trans (Rely.single hact), hst.2.step hst.1 hact hC⟩) htime
      ⟨Rely.refl _, closedFirst_empty⟩
    exact hpair.2
  refine ⟨_, gatherMovements_exec cfg.state, fun inputs hcash hobligations => ?_⟩
  rw [outstanding_gathered hs.postings hs.recoveries hs.transfers ⟨hcash, hobligations⟩, Int.sub_nonneg]
  refine sumOf_mono fun e he => ?_
  by_cases hmoved : cfg.state.db.books.movedBy inputs.asOfDate e = true
  · have hleft := hfirst.moved hs.postings
      (fun batch hbatch hclosed => ((hs.custody.batches batch hbatch).closed hclosed).2.1) he hmoved
    rw [if_pos hmoved, if_pos hleft]
  · rw [if_neg hmoved]
    split
    · rename_i hleft
      exact hs.postings.recovery_nonneg hs.recoveries he (Bool.and_eq_true_iff.mp hleft).1
    · exact le_refl _

end Runs

/-- The twenty riyals of batch 22 leave the account. -/
def Pilot.moved (valueDate : Time) : List Call :=
  recovering ++ [.markSettledZeroNet 22, .recordInternalTransfer 5
    { settlementId := some 22
      bankReference := "I-1"
      valueDate := some valueDate
      confirmedAmount := 20
      accountFromMasked := "SA****1234"
      accountToMasked := "SA****5678" }]

/-- What is gathered from a state, at a cut-off. -/
def Pilot.gatheredAt (w : World) (asOfDate : String) : TreasuryInputs :=
  let gathered := gather (evidenceOf w) (safeguardingRows w)
  { accountType := SAFEGUARDING
    currency := "SAR"
    asOfDate := asOfDate
    attestation := none
    cashMovements := gathered.cashMovements
    obligationMovements := gathered.obligationMovements
    excluded := gathered.excluded }

theorem Pilot.gatheredAt_gathers (w : World) (asOfDate : String) :
    ∃ gathered, gatherMovements.exec w = (.ok gathered, w) ∧
      (gatheredAt w asOfDate).cashMovements = gathered.cashMovements ∧
      (gatheredAt w asOfDate).obligationMovements = gathered.obligationMovements :=
  ⟨_, gatherMovements_exec w, rfl, rfl⟩

theorem Run.outstanding_nonneg_onTime :
    let run := Pilot.played (Pilot.inOrder (Pilot.moved Pilot.newYear))
    run.2.state.db.internalTransfers.rows.length = 1 ∧
      ∃ gathered, gatherMovements.exec run.2.state = (.ok gathered, run.2.state) ∧
        ∀ inputs : TreasuryInputs, inputs.cashMovements = gathered.cashMovements →
          inputs.obligationMovements = gathered.obligationMovements →
            0 ≤ (@buildTreasurySnapshot plainRuntime inputs).snapshot.legs.internalTransferOutstandingMinor := by
  have hcheck : ((Pilot.played (Pilot.inOrder (Pilot.moved Pilot.newYear))).1.all fun e =>
      decide (OnTime e)) = true ∧
      (Pilot.played (Pilot.inOrder (Pilot.moved Pilot.newYear))).2.state.db.internalTransfers.rows.length = 1 := by
    decide +kernel
  refine ⟨hcheck.2, @Run.outstanding_nonneg plainRuntime _ _ (Pilot.run _) fun e he => ?_⟩
  exact of_decide_eq_true (List.all_eq_true.mp hcheck.1 e he)

/-- **A transfer counts before it is due**: one that the operator dates the day before the closing leaves a
negative amount outstanding at that date. -/
theorem Run.moved_before_due :
    ∃ tr cfg gathered inputs, @Run plainRuntime tr cfg ∧
      gatherMovements.exec cfg.state = (.ok gathered, cfg.state) ∧
      inputs.cashMovements = gathered.cashMovements ∧
      inputs.obligationMovements = gathered.obligationMovements ∧
      (@buildTreasurySnapshot plainRuntime inputs).snapshot.legs.internalTransferOutstandingMinor = -2000 := by
  have hrun := Pilot.run (Pilot.inOrder (Pilot.moved (Pilot.newYear - dayMillis)))
  obtain ⟨gathered, hexec, hcash, hobligations⟩ := Pilot.gatheredAt_gathers
    (Pilot.played (Pilot.inOrder (Pilot.moved (Pilot.newYear - dayMillis)))).2.state
    (toISOString (Pilot.newYear - dayMillis))
  exact ⟨_, _, gathered, _, hrun, hexec, hcash, hobligations, by decide +kernel⟩

/-! ### The operator's worklist -/

theorem Custody.closed_SAR {b : Books} (h : Custody b) (hcollections : Collections b)
    {batch : SettlementBatch} (hbatch : batch ∈ b.batches.rows) (hclosed : batch.closureType ≠ none) :
    batch.currency = .SAR := by
  have hok := h.batches batch hbatch
  obtain ⟨i, hi⟩ := List.exists_mem_of_ne_nil _ (memberIds_ne_nil hok.frozen)
  obtain ⟨item, hitem, hbound⟩ := (hok.closed hclosed).2.2 i hi
  have hmem := mem_of_find hitem
  obtain ⟨batch', hbatch', hboundTo⟩ := h.boundTo hmem hbound
  obtain rfl := Option.some.inj (hbatch'.symm.trans (find_of_mem hbatch))
  obtain ⟨-, inv, -, -, -, hcurrency⟩ := hcollections.items item hmem
  exact hboundTo.frozen.2.2.symm.trans hcurrency

/-- Postings in riyals can be collected. -/
theorem collectDues_ok {rows : List FinancialLedgerEntry} (dues : List (Nat × InternalTransferDue))
    (h : ∀ row ∈ rows, zeroNetSettlement row ≠ none → row.currency = .SAR) :
    ∃ dues', collectDues dues rows = .ok dues' := by
  induction rows generalizing dues with
  | nil => exact ⟨dues, rfl⟩
  | cons row rest ih =>
      have hrest := fun r hr => h r (List.mem_cons_of_mem _ hr)
      unfold collectDues
      cases hsettlement : zeroNetSettlement row with
      | none => exact ih dues hrest
      | some n =>
          have hcode : asCurrencyCode row.currency.name = .ok .SAR := by
            rw [h row List.mem_cons_self (by rw [hsettlement]; simp)]
            decide +kernel
          simp only [hcode]
          exact ih _ hrest

/-- The settlements without a completed transfer. -/
def Books.pendingSettlement (b : Books) (n : Nat) : Bool :=
  !b.internalTransfers.rows.any fun t => decide (t.status = .completed) && decide (t.settlementId = n)

/-- The worklist of an undisturbed call. -/
theorem pendingInternalTransfers_exec {w : World} {dues : List (Nat × InternalTransferDue)}
    (hdues : collectDues [] (recoveryRows w) = .ok dues) : ∃ pending,
      pendingInternalTransfers.exec w = (.ok pending, w) ∧
      (pending.map PendingInternalTransfer.outstandingMinor).sum =
        sumDues w.db.books.pendingSettlement dues ∧
      ∀ p ∈ pending, ∃ d ∈ dues, p.currency = d.2.currency := by
  let completed := findMany Model.treasuryInternalTransfer (fun t => t.status = .completed) w
  let selected := (dues.insertionSort fun x y => x.1 ≤ y.1).filter fun d =>
    !completed.any fun t => t.settlementId = d.1
  have hexec : pendingInternalTransfers.exec w = (.ok (selected.map fun d =>
      { settlementId := d.1
        settlementReference := d.2.settlementReference
        currency := d.2.currency
        outstandingMinor := d.2.dueMinor
        closedAt := d.2.closedAt
        ageDays := max 0 ((w.db.now - d.2.closedAt.getD w.db.now) / dayMillis)
        failedAttempts := (findMany Model.treasuryInternalTransfer (fun t => t.status = .failed) w).countP
          fun t => t.settlementId = d.1 }), w) := by
    unfold pendingInternalTransfers gatherDues
    simp only [Svc.exec_bind, Svc.exec_query, Svc.exec_ofExcept, hdues]
    rfl
  refine ⟨_, hexec, ?_, fun p hp => ?_⟩
  · have hperm := (List.perm_insertionSort (fun x y : Nat × InternalTransferDue => x.1 ≤ y.1) dues)
    rw [List.map_map, ((hperm.filter _).map _).sum_eq, sum_map_filter]
    refine congrArg List.sum (List.map_congr_left fun d _ => ?_)
    have hsame : (!completed.any fun t => decide (t.settlementId = d.1)) =
        w.db.books.pendingSettlement d.1 := by
      exact congrArg (!·) (List.any_filter (l := w.db.internalTransfers.rows))
    rw [hsame]
    rfl
  · obtain ⟨d, hd, rfl⟩ := List.mem_map.mp hp
    exact ⟨d, (List.mem_insertionSort _).mp (List.mem_filter.mp hd).1, rfl⟩

/-- A cut-off that no closing and no completed transfer lies after. -/
structure CutAfter (b : Books) (asOfDate : String) : Prop where
  closings : ∀ batch ∈ b.batches.rows, ∀ closedAt ∈ batch.closedAt, textLE (toISOString closedAt) asOfDate
  transfers : ∀ t ∈ b.internalTransfers.rows, t.status = .completed →
    textLE (toISOString t.valueDate) asOfDate

theorem Postings.outstanding_after {b : Books} (h : Postings b) (hcustody : Custody b) {asOfDate : String}
    (hafter : CutAfter b asOfDate) : b.ledger.sumOf (dueMinorOf b.pendingSettlement) =
      b.ledger.sumOf (fun row =>
        if (zeroNetSettlement row).isSome && closedBy asOfDate row then row.amount.cents else 0) -
      b.ledger.sumOf fun row => if b.movedBy asOfDate row then row.amount.cents else 0 := by
  rw [eq_sub_iff_add_eq, ← sumOf_add]
  refine sumOf_congr fun e he => ?_
  unfold dueMinorOf Books.movedBy
  cases hsettlement : zeroNetSettlement e with
  | none => simp
  | some n =>
      obtain ⟨batch, hbatch, htype, -, hat⟩ := h.zeroNet_batch he hsettlement
      have hmem := mem_of_find hbatch
      have hclosed : closedBy asOfDate e = true := by
        have hdate := ((hcustody.batches batch hmem).closed (by rw [htype]; nofun)).2.1
        obtain ⟨closedAt, hclosedAt⟩ := Option.ne_none_iff_exists'.mp hdate
        unfold closedBy
        rw [hat, hclosedAt]
        simpa using hafter.closings batch hmem closedAt hclosedAt
      have hmoved : (b.internalTransfers.rows.any fun t =>
          transferredBy asOfDate t && decide (some n = some t.settlementId)) = !b.pendingSettlement n := by
        unfold Books.pendingSettlement
        rw [Bool.not_not]
        rw [Bool.eq_iff_iff, List.any_eq_true, List.any_eq_true]
        refine exists_congr fun t => and_congr_right fun ht => ?_
        have hcut : transferredBy asOfDate t = decide (t.status = .completed) := by
          unfold transferredBy
          by_cases hcompleted : t.status = .completed
          · simp [hcompleted, hafter.transfers t ht hcompleted]
          · simp [hcompleted]
        rw [hcut]
        by_cases hn : t.settlementId = n
        · simp [hn]
        · simp [hn, Ne.symm hn]
      rw [hmoved, hclosed]
      by_cases hp : b.pendingSettlement n = true
      · simp [hp]
      · simp [hp]

section Runs

variable [Runtime]

/-- **The worklist and the snapshot agree.**  Both are in riyals; after everything that is recorded they tell the
same amount, a completed transfer moved all that its settlement left, and a settlement has one at most. -/
theorem Run.pending_agrees {tr : List (Event World Site)} {cfg : Config World Site (Except Err Reply)}
    (h : Run tr cfg) :
    (∃ pending gathered, pendingInternalTransfers.exec cfg.state = (.ok pending, cfg.state) ∧
      gatherMovements.exec cfg.state = (.ok gathered, cfg.state) ∧ (∀ p ∈ pending, p.currency = .SAR) ∧
      ∀ inputs : TreasuryInputs, inputs.cashMovements = gathered.cashMovements →
        inputs.obligationMovements = gathered.obligationMovements →
          CutAfter cfg.state.db.books inputs.asOfDate →
            (pending.map PendingInternalTransfer.outstandingMinor).sum =
              (buildTreasurySnapshot inputs).snapshot.legs.internalTransferOutstandingMinor) ∧
    ∀ t ∈ cfg.state.db.internalTransfers.rows, t.status = .completed →
      t.confirmedAmount.cents = cfg.state.db.books.zeroNetDueMinor t.settlementId ∧
      ∀ t' ∈ cfg.state.db.internalTransfers.rows, t'.status = .completed →
        t'.settlementId = t.settlementId → t' = t := by
  have hs := h.reachable
  have hpostings := hs.postings
  have hSAR : ∀ e ∈ cfg.state.db.books.ledger.rows, zeroNetSettlement e ≠ none → e.currency = .SAR := by
    intro e he hne
    obtain ⟨n, hn⟩ := Option.ne_none_iff_exists'.mp hne
    obtain ⟨batch, hbatch, htype, hcurrency, -⟩ := hpostings.zeroNet_batch he hn
    exact hcurrency.trans
      (hs.custody.closed_SAR hs.collections (mem_of_find hbatch) (by rw [htype]; simp))
  refine ⟨?_, fun t ht hcompleted => ⟨?_, fun t' ht' hcompleted' hsettlement => ?_⟩⟩
  · have hrows : ∀ row ∈ recoveryRows cfg.state, zeroNetSettlement row ≠ none → row.currency = .SAR := by
      intro row hrow hne
      rw [recoveryRows, mem_orderBy] at hrow
      exact hSAR row (List.mem_filter.mp hrow).1 hne
    obtain ⟨dues, hdues⟩ := collectDues_ok [] hrows
    obtain ⟨-, hsum, hstands⟩ := hpostings.dues hdues
    obtain ⟨pending, hexec, hpending, hcurrency⟩ := pendingInternalTransfers_exec hdues
    refine ⟨pending, _, hexec, gatherMovements_exec cfg.state, fun p hp => ?_,
      fun inputs hcash hobligations hafter => ?_⟩
    · obtain ⟨d, hd, heq⟩ := hcurrency p hp
      obtain ⟨row, hrow, hsettlement, hrowCurrency, -⟩ := hstands d hd
      rw [heq, ← hrowCurrency]
      exact hSAR row hrow (by rw [hsettlement]; simp)
    · rw [hpending, hsum, outstanding_gathered hpostings hs.recoveries hs.transfers ⟨hcash, hobligations⟩]
      exact hpostings.outstanding_after hs.custody hafter
  · obtain ⟨batch, hcompletes⟩ := hs.transfers t ht hcompleted
    rw [hcompletes.amount, hpostings.zeroNetDue_eq hs.recoveries hcompletes.stored hcompletes.closed]
    rfl
  · exact hpostings.once t' ht' t ht hcompleted' hcompleted hsettlement

end Runs

theorem Run.pending_agrees_zeroNet :
    let run := Pilot.played (Pilot.inOrder (Pilot.recovering ++ [.markSettledZeroNet 22]))
    (∃ pending gathered, pendingInternalTransfers.exec run.2.state = (.ok pending, run.2.state) ∧
      gatherMovements.exec run.2.state = (.ok gathered, run.2.state) ∧
      (∀ p ∈ pending, p.currency = .SAR) ∧
      ∀ inputs : TreasuryInputs, inputs.cashMovements = gathered.cashMovements →
        inputs.obligationMovements = gathered.obligationMovements →
          CutAfter run.2.state.db.books inputs.asOfDate →
            (pending.map PendingInternalTransfer.outstandingMinor).sum =
              (@buildTreasurySnapshot plainRuntime inputs).snapshot.legs.internalTransferOutstandingMinor) ∧
    ∀ t ∈ run.2.state.db.internalTransfers.rows, t.status = .completed →
      t.confirmedAmount.cents = run.2.state.db.books.zeroNetDueMinor t.settlementId ∧
      ∀ t' ∈ run.2.state.db.internalTransfers.rows, t'.status = .completed →
        t'.settlementId = t.settlementId → t' = t :=
  @Run.pending_agrees plainRuntime _ _ (Pilot.run _)

end Qift
