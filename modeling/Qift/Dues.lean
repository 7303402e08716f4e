import Qift.Recoveries

/-!
# Internal dues

What a closing without a transfer leaves to be moved internally.

* `Postings.zeroNetDue_eq` — the due of a settlement is what its batch allocated, so it is fixed once the batch
  is closed.
* `collectDues_spec` — the dues a service reads from the recovery postings are these.
-/

namespace Qift

open Relational Relational.Table Interleaving Settlement Financial Treasury

/-! ### The due of a batch -/

theorem zeroNetSettlement_of_recovery {batch : SettlementBatch} {alloc : RecoveryAllocation}
    {e : FinancialLedgerEntry} (hclosing : TellsClosing batch e)
    (hrow : Row .MERCHANT_RECEIVABLE_RECOVERED (.pair alloc.receivableId batch.id)
      (Decimal.ofNumber alloc.amount) batch.currency (some batch.storeId) e) :
    zeroNetSettlement e =
      if batch.closureType = some .zero_net_no_transfer then some batch.id else none := by
  unfold zeroNetSettlement
  rcases hclosing with ⟨htype, hmeta, -⟩ | ⟨htype, hmeta⟩
  · rw [if_pos hmeta, if_pos htype, hrow.key]
    rfl
  · rw [hmeta, htype, if_neg nofun, if_neg nofun]

theorem Postings.zeroNet_recovery {b : Books} (h : Postings b) {e : FinancialLedgerEntry}
    (he : e ∈ b.ledger.rows) {n : Nat} (hn : zeroNetSettlement e = some n) :
    e.eventType = .MERCHANT_RECEIVABLE_RECOVERED := by
  unfold zeroNetSettlement at hn
  split at hn
  · split at hn
    · rename_i hkey
      exact (h.keyed e he _ hkey).symm
    · cases hn
  · cases hn

theorem Postings.zeroNet_batch {b : Books} (h : Postings b) {e : FinancialLedgerEntry}
    (he : e ∈ b.ledger.rows) {n : Nat} (hn : zeroNetSettlement e = some n) :
    ∃ batch, b.batches.find n = some batch ∧ batch.closureType = some .zero_net_no_transfer ∧
      e.currency = batch.currency ∧ e.metadata.closedAt = batch.closedAt := by
  obtain ⟨batch, hbatch, alloc, halloc, hclosing, hrow⟩ :=
    (h.origin e he).of_recovery (h.zeroNet_recovery he hn)
  rw [zeroNetSettlement_of_recovery hclosing hrow] at hn
  split at hn
  · rename_i htype
    obtain rfl := Option.some.inj hn
    rcases hclosing with ⟨-, -, hat⟩ | ⟨hremitted, -⟩
    · exact ⟨batch, find_of_mem hbatch, htype, hrow.currency, hat⟩
    · rw [htype] at hremitted
      cases hremitted
  · cases hn

/-- **The due of a settlement is what its batch allocated.** -/
theorem Postings.zeroNetDue_eq {b : Books} (h : Postings b) (hrecoveries : Recoveries b) {n : Nat}
    {batch : SettlementBatch} (hbatch : b.batches.find n = some batch)
    (htype : batch.closureType = some .zero_net_no_transfer) :
    b.zeroNetDueMinor n = (batch.recoveryAllocation.map fun a => toMinor a.amount batch.currency).sum := by
  have hid : batch.id = n := key_of_find hbatch
  have hsum := h.sum_recoveries hrecoveries.allocates
    (g := fun row => if zeroNetSettlement row = some n then row.amount.cents else 0)
    (v := fun r alloc => if r.id = n ∧ r.closureType = some .zero_net_no_transfer then
      toMinor alloc.amount r.currency else 0) (fun e he hevent => ?_)
    fun e r hr alloc halloc hclosing hrow => ?_
  · unfold Books.zeroNetDueMinor
    rw [hsum, sumOf_eq_single (mem_of_find hbatch) fun r hr hne => ?_]
    · rw [if_pos (by rw [htype]; nofun), List.map_congr_left fun _ _ => if_pos ⟨hid, htype⟩]
    · have hother : r.id ≠ n := fun heq => hne (row_unique _ hr (mem_of_find hbatch) (heq.trans hid.symm))
      simp [hother]
  · exact if_neg fun hn => hevent (h.zeroNet_recovery he hn)
  · have hallocates := hrecoveries.batches r hr
    obtain ⟨-, -, recovered, take, -, -, -, hamount, -⟩ := hallocates.fits alloc halloc
    rw [zeroNetSettlement_of_recovery hclosing hrow, hrow.amount, hamount, toMinor_fromMinor,
      Decimal.ofNumber_fromMinor hallocates.digits]
    by_cases hclosed : r.closureType = some .zero_net_no_transfer
    · simp [hclosed]
    · simp [hclosed]

theorem Postings.zeroNetDue_later {b b' : Books} (h : Postings b) (hrecoveries : Recoveries b)
    (h' : Postings b') (hrecoveries' : Recoveries b') (hlater : Later b b') {e : FinancialLedgerEntry}
    (he : e ∈ b.ledger.rows) {n : Nat} (hn : zeroNetSettlement e = some n) :
    b'.zeroNetDueMinor n = b.zeroNetDueMinor n := by
  obtain ⟨batch, hbatch, htype, -⟩ := h.zeroNet_batch he hn
  obtain ⟨row, hrow, hsame⟩ := hlater.batches _ _ hbatch
  obtain ⟨htype', -⟩ := hsame.closure (by rw [htype]; nofun)
  rw [h.zeroNetDue_eq hrecoveries hbatch htype,
    h'.zeroNetDue_eq hrecoveries' hrow (htype'.trans htype), hsame.recoveryAllocation, hsame.currency]

/-! ### Collecting dues -/

/-- The part of a row that counts towards the dues of selected settlements. -/
def dueMinorOf (p : Nat → Bool) (row : FinancialLedgerEntry) : Int :=
  match zeroNetSettlement row with
  | some n => if p n then row.amount.cents else 0
  | none => 0

/-- The dues of selected settlements in a list. -/
def sumDues (p : Nat → Bool) (dues : List (Nat × InternalTransferDue)) : Int :=
  (dues.map fun d => if p d.1 then d.2.dueMinor else 0).sum

theorem addDue_keys {dues : List (Nat × InternalTransferDue)} (hnodup : (dues.map Prod.fst).Nodup)
    (settlementId : Nat) (row : FinancialLedgerEntry) (amountMinor : Int) :
    ((addDue dues settlementId row amountMinor).map Prod.fst).Nodup := by
  unfold addDue
  split
  · rw [List.map_map, List.map_congr_left (g := Prod.fst) fun d _ => ?_]
    · exact hnodup
    · dsimp only [Function.comp_apply]
      split <;> rfl
  · rename_i hfresh
    rw [List.map_append, List.nodup_append]
    refine ⟨hnodup, List.nodup_singleton _, fun n hn m hm heq => hfresh ?_⟩
    obtain ⟨d, hd, rfl⟩ := List.mem_map.mp hn
    obtain rfl := List.mem_singleton.mp hm
    exact List.any_eq_true.mpr ⟨d, hd, decide_eq_true heq⟩

theorem sumDues_addDue (p : Nat → Bool) {dues : List (Nat × InternalTransferDue)}
    (hnodup : (dues.map Prod.fst).Nodup) (settlementId : Nat) (row : FinancialLedgerEntry)
    (amountMinor : Int) : sumDues p (addDue dues settlementId row amountMinor) =
      sumDues p dues + if p settlementId then amountMinor else 0 := by
  unfold addDue
  split
  · rename_i hany
    obtain ⟨d, hd, hkey⟩ := List.any_eq_true.mp hany
    have hkey : d.1 = settlementId := of_decide_eq_true hkey
    clear hany
    induction dues with
    | nil => cases hd
    | cons x rest ih =>
        rw [List.map_cons, List.nodup_cons] at hnodup
        simp only [sumDues, List.map_cons, List.sum_cons]
        rcases List.mem_cons.mp hd with rfl | hd
        · have hrest : rest.map (fun y => if y.1 = settlementId then
              (y.1, { y.2 with dueMinor := y.2.dueMinor + amountMinor }) else y) = rest := by
            refine (List.map_congr_left fun y hy => if_neg fun heq => hnodup.1 ?_).trans (List.map_id _)
            exact hkey.trans heq.symm ▸ List.mem_map_of_mem hy
          rw [hrest, if_pos hkey, hkey]
          by_cases hp : p settlementId = true
          · simp only [hp, if_true]
            ring
          · simp [hp]
        · have hne : x.1 ≠ settlementId := by
            intro heq
            exact hnodup.1 (heq.trans hkey.symm ▸ List.mem_map_of_mem hd)
          have hstep := ih hnodup.2 hd
          simp only [sumDues] at hstep
          rw [if_neg hne, hstep]
          ring
  · simp [sumDues]

theorem mem_addDue {dues : List (Nat × InternalTransferDue)} {settlementId : Nat}
    {row : FinancialLedgerEntry} {amountMinor : Int} {d : Nat × InternalTransferDue}
    (hd : d ∈ addDue dues settlementId row amountMinor) :
    (∃ d₀ ∈ dues, d₀.1 = d.1 ∧ d₀.2.currency = d.2.currency ∧ d₀.2.closedAt = d.2.closedAt) ∨
      d.1 = settlementId ∧ d.2.currency = row.currency ∧ d.2.closedAt = row.metadata.closedAt := by
  unfold addDue at hd
  split at hd
  · obtain ⟨d₀, hd₀, rfl⟩ := List.mem_map.mp hd
    refine Or.inl ⟨d₀, hd₀, ?_⟩
    split
    · exact ⟨rfl, rfl, rfl⟩
    · exact ⟨rfl, rfl, rfl⟩
  · rcases List.mem_append.mp hd with hold | hnew
    · exact Or.inl ⟨d, hold, rfl, rfl, rfl⟩
    · obtain rfl := List.mem_singleton.mp hnew
      exact Or.inr ⟨rfl, rfl, rfl⟩

/-- A due stands for a posting of its settlement. -/
def DueOf (rows : List FinancialLedgerEntry) (d : Nat × InternalTransferDue) : Prop :=
  ∃ row ∈ rows, zeroNetSettlement row = some d.1 ∧ row.currency = d.2.currency ∧
    row.metadata.closedAt = d.2.closedAt

/-- **The dues collected from some rows.** -/
theorem collectDues_spec {rows : List FinancialLedgerEntry}
    {dues dues' : List (Nat × InternalTransferDue)} (hnodup : (dues.map Prod.fst).Nodup)
    (h : collectDues dues rows = .ok dues') :
    (dues'.map Prod.fst).Nodup ∧
      (∀ p, sumDues p dues' = sumDues p dues + (rows.map (dueMinorOf p)).sum) ∧
      (∀ d ∈ dues', (∃ d₀ ∈ dues, d₀.1 = d.1 ∧ d₀.2.currency = d.2.currency ∧
        d₀.2.closedAt = d.2.closedAt) ∨ DueOf rows d) := by
  induction rows generalizing dues with
  | nil =>
      cases h
      exact ⟨hnodup, by simp, fun d hd => Or.inl ⟨d, hd, rfl, rfl, rfl⟩⟩
  | cons row rest ih =>
      unfold collectDues at h
      split at h
      · rename_i hnone
        obtain ⟨hkeys, hsum, hmem⟩ := ih hnodup h
        refine ⟨hkeys, fun p => ?_, fun d hd => ?_⟩
        · rw [hsum, List.map_cons, List.sum_cons]
          simp [dueMinorOf, hnone]
        · rcases hmem d hd with hold | ⟨r, hr, hrest⟩
          · exact Or.inl hold
          · exact Or.inr ⟨r, List.mem_cons_of_mem _ hr, hrest⟩
      · rename_i settlementId hsettlement
        simp only [bind, Except.bind] at h
        split at h
        · cases h
        · rename_i code hcode
          obtain ⟨hkeys, hsum, hmem⟩ := ih (addDue_keys hnodup _ _ _) h
          refine ⟨hkeys, fun p => ?_, fun d hd => ?_⟩
          · rw [hsum, sumDues_addDue p hnodup, List.map_cons, List.sum_cons,
              toMinor_moneyToNumber (minorDigits_of_asCurrencyCode hcode), add_assoc]
            congr 2
            by_cases hp : p settlementId = true
            · simp [dueMinorOf, hsettlement, hp]
            · simp [dueMinorOf, hsettlement, hp]
          · rcases hmem d hd with ⟨d₀, hd₀, hsame⟩ | ⟨r, hr, hrest⟩
            · obtain ⟨hkey, hcurrency, hat⟩ := hsame
              rcases mem_addDue hd₀ with ⟨d₁, hd₁, hkey₁, hcurrency₁, hat₁⟩ | ⟨hkey₁, hcurrency₁, hat₁⟩
              · exact Or.inl ⟨d₁, hd₁, hkey₁.trans hkey, hcurrency₁.trans hcurrency, hat₁.trans hat⟩
              · refine Or.inr ⟨row, List.mem_cons_self, ?_, hcurrency₁.symm.trans hcurrency,
                  hat₁.symm.trans hat⟩
                rw [hsettlement, ← hkey, hkey₁]
            · exact Or.inr ⟨r, List.mem_cons_of_mem _ hr, hrest⟩

theorem Postings.dues {w : World} (h : Postings w.db.books)
    {dues : List (Nat × InternalTransferDue)} (hdues : collectDues [] (recoveryRows w) = .ok dues) :
    (dues.map Prod.fst).Nodup ∧
      (∀ p, sumDues p dues = w.db.books.ledger.sumOf (dueMinorOf p)) ∧
      ∀ d ∈ dues, DueOf w.db.books.ledger.rows d := by
  obtain ⟨hkeys, hsum, hmem⟩ := @collectDues_spec _ [] _ List.nodup_nil hdues
  have hrows : ∀ r ∈ recoveryRows w, r ∈ w.db.books.ledger.rows := by
    intro r hr
    rw [recoveryRows, mem_orderBy] at hr
    exact (List.mem_filter.mp hr).1
  refine ⟨hkeys, fun p => ?_, fun d hd => ?_⟩
  · rw [hsum p, show sumDues p [] = 0 from rfl, zero_add, recoveryRows,
      ((orderBy_perm _ _ _).map (dueMinorOf p)).sum_eq, findMany, sum_map_filter]
    refine sumOf_congr (g := fun r => if decide (r.eventType = .MERCHANT_RECEIVABLE_RECOVERED) then
      dueMinorOf p r else 0) fun e he => ?_
    split
    · rfl
    · rename_i hevent
      unfold dueMinorOf
      cases hn : zeroNetSettlement e with
      | none => rfl
      | some n => exact absurd (decide_eq_true (h.zeroNet_recovery he hn)) hevent
  · rcases hmem d hd with ⟨d₀, hd₀, -⟩ | ⟨r, hr, hrest⟩
    · cases hd₀
    · exact ⟨r, hrows r hr, hrest⟩

theorem sumDues_eq {dues : List (Nat × InternalTransferDue)} (hnodup : (dues.map Prod.fst).Nodup)
    {d : Nat × InternalTransferDue} (hd : d ∈ dues) :
    sumDues (fun n => decide (n = d.1)) dues = d.2.dueMinor := by
  unfold sumDues
  induction dues with
  | nil => cases hd
  | cons x rest ih =>
      rw [List.map_cons, List.nodup_cons] at hnodup
      rw [List.map_cons, List.sum_cons]
      rcases List.mem_cons.mp hd with rfl | hrest
      · rw [List.map_congr_left (g := fun _ => 0) fun y hy => if_neg ?_]
        · simp
        · intro heq
          exact hnodup.1 (of_decide_eq_true heq ▸ List.mem_map_of_mem hy)
      · rw [ih hnodup.2 hrest, if_neg, zero_add]
        intro heq
        exact hnodup.1 (of_decide_eq_true heq ▸ List.mem_map_of_mem hrest)

/-- A due a service has read: a posting stands for it and its amount is that of the ledger. -/
def Owed (b : Books) (d : Nat × InternalTransferDue) : Prop :=
  DueOf b.ledger.rows d ∧ d.2.dueMinor = b.zeroNetDueMinor d.1

theorem sumOf_dueMinorOf (b : Books) (n : Nat) :
    b.ledger.sumOf (dueMinorOf fun m => decide (m = n)) = b.zeroNetDueMinor n := by
  refine sumOf_congr fun row _ => ?_
  unfold dueMinorOf
  cases zeroNetSettlement row <;> simp

theorem Postings.owed {w : World} (h : Postings w.db.books) {dues : List (Nat × InternalTransferDue)}
    (hdues : collectDues [] (recoveryRows w) = .ok dues) : ∀ d ∈ dues, Owed w.db.books d := by
  obtain ⟨hkeys, hsum, hmem⟩ := h.dues hdues
  intro d hd
  exact ⟨hmem d hd, by rw [← sumDues_eq hkeys hd, hsum, sumOf_dueMinorOf]⟩

theorem Owed.later {b b' : Books} {d : Nat × InternalTransferDue} (h : Owed b d) (hpostings : Postings b)
    (hrecoveries : Recoveries b) (hpostings' : Postings b') (hrecoveries' : Recoveries b')
    (hlater : Later b b') : Owed b' d := by
  obtain ⟨⟨row, hrow, hn, hrest⟩, hminor⟩ := h
  refine ⟨⟨row, hlater.ledger row hrow, hn, hrest⟩, ?_⟩
  rw [hminor, hpostings.zeroNetDue_later hrecoveries hpostings' hrecoveries' hlater hrow hn]

end Qift
