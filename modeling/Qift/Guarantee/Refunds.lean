import Qift.Guarantee.Money

/-!
# Guarantees of refunds

* `Beside` covers what a refund writes next to the books: credit notes, their versions and number series.
* `refundTx_step` and `feeRefundTx_step` are the two legs of a refund.
* `Recorded` is what a call of `recordRefund` answers: a stored refund of the invoice it was asked for.
-/

namespace Qift

open Relational Relational.Table Interleaving Settlement Financial

/-! ### Writes beside the books -/

/-- The same books, up to identifiers that were drawn. -/
def Beside (w w' : World) : Prop :=
  ∃ n, w.db.nextId ≤ n ∧ w'.db.books = { w.db.books with nextId := n }

theorem Beside.trans {w w' w'' : World} (h : Beside w w') (h' : Beside w' w'') : Beside w w'' := by
  obtain ⟨n, hn, hbooks⟩ := h
  obtain ⟨n', hn', hbooks'⟩ := h'
  have hid : w'.db.nextId = n := congrArg Books.nextId hbooks
  exact ⟨n', hn.trans (hid ▸ hn'), by rw [hbooks', hbooks]⟩

section Client

variable {ρ κ : Type} {key : ρ → κ} {m : Model key} {w w' : World}

theorem insert_beside [DecidableEq κ] {row : Nat → ρ} {r : ρ} (h : insert m row w = .ok (r, w'))
    (hbooks : ∀ t db, (m.store t db).books = db.books) : Beside w w' := by
  obtain ⟨-, t, -, -, rfl⟩ := insert_eq_ok.mp h
  refine ⟨w.db.nextId + 1, Nat.le_succ _, ?_⟩
  have hstored := hbooks t w.db
  change { (m.store t w.db).books with nextId := w.db.nextId + 1 } = _
  rw [hstored]

theorem updateMany_beside {cond : ρ → Bool} {data : ρ → ρ} {hdata : ∀ r, key (data r) = key r} {n : Nat}
    (h : updateMany m cond data hdata w = .ok (n, w'))
    (hbooks : ∀ t db, (m.store t db).books = db.books) : Beside w w' := by
  obtain ⟨-, rfl⟩ := updateMany_eq_ok.mp h
  refine ⟨w.db.nextId, le_refl _, ?_⟩
  change (m.store _ w.db).books = _
  rw [hbooks]
  rfl

end Client

theorem record_books {input : RecordLedgerInput} {w w' : World} {r : FinancialLedgerEntry}
    (h : record input w = .ok (r, w')) :
    ∃ l n, w'.db.books = { w.db.books with ledger := l, nextId := n } ∧ w.db.nextId ≤ n ∧
      Posts input w.db.books.ledger l := by
  obtain ⟨l, n, rfl, hn, hposts, -⟩ := record_eq_ok h
  exact ⟨l, n, rfl, hn, hposts⟩

theorem recordAll_books {inputs : List RecordLedgerInput} {w w' : World} {x : Unit}
    (h : Tx.forEach inputs (fun input => do let _ ← record input; pure ()) w = .ok (x, w')) :
    ∃ l n, w'.db.books = { w.db.books with ledger := l, nextId := n } ∧ w.db.nextId ≤ n ∧
      PostsAll inputs w.db.books.ledger l := by
  induction inputs generalizing w with
  | nil =>
      obtain ⟨-, rfl⟩ := Tx.pure_eq_ok.mp h
      exact ⟨_, _, rfl, le_refl _, .nil _⟩
  | cons input rest ih =>
      obtain ⟨w₁, hfirst, hrest⟩ := Tx.forEach_cons_eq_ok.mp h
      simp only [Tx.bind_eq_ok, Tx.pure_eq_ok] at hfirst
      obtain ⟨_, w₂, hrecord, -, rfl⟩ := hfirst
      obtain ⟨l, n, hbooks, hn, hposts⟩ := record_books hrecord
      obtain ⟨l', n', hbooks', hn', hposts'⟩ := ih hrest
      have hid : w₂.db.nextId = n := congrArg Books.nextId hbooks
      rw [hbooks] at hposts' hbooks'
      exact ⟨l', n', hbooks', hn.trans (hid ▸ hn'), .cons hposts hposts'⟩

/-- Drawing a reference changes nothing. -/
theorem mintQn_eq_ok {candidates : List String} {w w' : World} {reference : String}
    (h : mintQn candidates w = .ok (reference, w')) : w' = w := by
  unfold mintQn txAllocateReference at h
  split at h
  · cases h
    rfl
  · cases h

theorem nextSequence_beside {seriesKey : String} {w w' : World} {n : Nat}
    (h : nextSequence seriesKey w = .ok (n, w')) : Beside w w' := by
  simp only [nextSequence, Tx.bind_eq_ok] at h
  obtain ⟨count, w₁, hupdate, h⟩ := h
  have hfirst := updateMany_beside hupdate fun _ _ => rfl
  split at h
  · simp only [Tx.bind_eq_ok, Tx.pure_eq_ok] at h
    obtain ⟨_, _, hinsert, -, rfl⟩ := h
    exact hfirst.trans (insert_beside hinsert fun _ _ => rfl)
  · simp only [Tx.bind_eq_ok, Tx.pure_eq_ok, Tx.read_eq_ok] at h
    obtain ⟨_, _, ⟨-, rfl⟩, -, rfl⟩ := h
    exact hfirst

/-- The refund a call answers with: a stored refund of an invoice. -/
structure Recorded (b : Books) (invoiceType : InvoiceType) (invoiceId : Nat)
    (refund : SettlementRefund) : Prop where
  stored : b.refunds.find refund.id = some refund
  invoiceType : refund.invoiceType = invoiceType
  invoiceId : refund.invoiceId = invoiceId

theorem Recorded.later {b b' : Books} {invoiceType : InvoiceType} {invoiceId : Nat}
    {refund : SettlementRefund} (h : Recorded b invoiceType invoiceId refund) (hlater : Later b b') :
    Recorded b' invoiceType invoiceId refund := by
  obtain ⟨r, hr, rfl⟩ := hlater.refunds _ _ h.stored
  exact { h with stored := hr }

theorem refundByEvidence_recorded {invoiceType : InvoiceType} {invoiceId : Nat} {evidenceRef : String}
    {w : World} {refund : SettlementRefund}
    (h : refundByEvidence invoiceType invoiceId evidenceRef w = some refund) :
    Recorded w.db.books invoiceType invoiceId refund := by
  have hmem := List.mem_of_find?_eq_some h
  have hcond := List.find?_some h
  simp only [decide_eq_true_eq] at hcond
  exact ⟨find_of_mem hmem, hcond.1, hcond.2.1⟩

theorem refundByEvidence_unused {invoiceType : InvoiceType} {invoiceId : Nat} {evidenceRef : String}
    {w : World} (h : refundByEvidence invoiceType invoiceId evidenceRef w = none) :
    Unused w.db.books invoiceType invoiceId evidenceRef := by
  intro r hr htype hinvoice hevidence
  have hnot := List.find?_eq_none.mp h r hr
  simp [htype, hinvoice, hevidence] at hnot

section Services

variable [Runtime] {q : Lane} {s : World}

/-- A write beside the books is no effect on them. -/
theorem Beside.step {l : Site} {w w' : World} (h : Beside w w') : Step l w w' := by
  obtain ⟨n, hn, hbooks⟩ := h
  exact Step.skip hn hbooks

theorem issueCreditNote_beside {facts : CreditNoteFacts} {issuedAt : Time} {w w' : World}
    {note : CreditNote} (h : issueCreditNote facts issuedAt w = .ok (note, w')) : Beside w w' := by
  simp only [issueCreditNote, Tx.bind_eq_ok, Tx.pure_eq_ok] at h
  obtain ⟨_, w₁, hnote, _, w₂, hversion, -, rfl⟩ := h
  exact (insert_beside hnote fun _ _ => rfl).trans (insert_beside hversion fun _ _ => rfl)

/-! ### The goods leg -/

omit [Runtime] in
theorem reduceItem_eq_ok {item : SettlementItem} {amountMinor : Int} {w w' : World} {x : Unit}
    (hstored : w.db.books.items.find item.id = some item)
    (h : reduceItem item amountMinor w = .ok (x, w')) :
    item.batchId = none ∧ amountMinor ≤ item.amount.cents ∧
      w' = { w with db := { w.db with
        items := w.db.items.updateMany (fun i => i.id = item.id)
          (reduceRow (item.amount.cents - amountMinor)) (reduceRow_id _) } } := by
  simp only [reduceItem, Tx.bind_eq_ok, Tx.ensure_eq_ok, updateMany_eq_ok, toMinor_SAR] at h
  obtain ⟨_, _, ⟨hnonneg, rfl⟩, n, _, ⟨rfl, rfl⟩, hcount, rfl⟩ := h
  have hkey : ∀ i : SettlementItem,
      decide (i.id = item.id ∧ i.state = item.state ∧ i.batchId = none) = true → i.id = item.id :=
    fun i hi => (of_decide_eq_true hi).1
  obtain ⟨r, hr, hguard⟩ := count_pos hkey (by rw [hcount]; nofun)
  have heq : some r = some item := hr.symm.trans hstored
  obtain rfl := Option.some.inj heq
  have hunbound : r.batchId = none := (of_decide_eq_true hguard).2.2
  rw [not_lt, fromMinor_nonneg_iff] at hnonneg
  have hamount : Decimal.ofNumber (fromMinor (r.amount.cents - amountMinor) .SAR) =
      ⟨r.amount.cents - amountMinor⟩ := Decimal.ofNumber_fromMinor rfl _
  have htable : w.db.items.updateMany
      (fun i => decide (i.id = r.id ∧ i.state = r.state ∧ i.batchId = none))
      (fun i => { i with amount := Decimal.ofNumber (fromMinor (r.amount.cents - amountMinor) .SAR) })
      (fun _ => rfl) =
        w.db.items.updateMany (fun i => i.id = r.id) (reduceRow (r.amount.cents - amountMinor))
          (reduceRow_id _) := by
    refine updateMany_congr fun i hi => ?_
    by_cases hid : i.id = r.id
    · obtain rfl := row_unique _ hi (mem_of_find hstored) hid
      simp [hunbound, reduceRow, hamount]
    · simp [hid]
  refine ⟨hunbound, by omega, ?_⟩
  rw [← htable]

theorem writeRefund_eq_ok {draft : RefundDraft} {inv : MerchantInvoice} {item : SettlementItem}
    {refunds : List SettlementRefund} {vatComponent : Number} {interaction : SettlementInteraction}
    {candidates : List String} {w u : World} {outcome : RefundOutcome}
    (h : writeRefund draft inv item refunds vatComponent interaction candidates w = .ok (outcome, u)) :
    ∃ w' table ledger n,
      w.db.books.refunds.create (refundRow draft inv vatComponent interaction w.db.nextId) =
        some table ∧
      w'.db.books = { w.db.books with refunds := table, ledger := ledger, nextId := n } ∧
      w.db.nextId < n ∧
      Posts (goodsRefundPosting draft inv w.db.nextId interaction) w.db.books.ledger ledger ∧
      outcome = { refund := refundRow draft inv vatComponent interaction w.db.nextId
                  replayed := false } ∧
      (if interaction = .receivable_accrued then
        accrueReceivable draft inv item refunds w.db.nextId else pure ()) w' = .ok ((), u) := by
  simp only [writeRefund, Tx.bind_eq_ok, insert_eq_ok, Tx.ofExcept_eq_ok, txNow_eq_ok] at h
  obtain ⟨_, w₁, ⟨rfl, table, hcreate, -, rfl⟩, issuanceSource, _, ⟨-, rfl⟩, reference, w₂, hmint,
    issuedAt, _, ⟨-, rfl⟩, note, w₃, hnote, row, w₄, hrecord, h⟩ := h
  obtain rfl := mintQn_eq_ok hmint
  obtain ⟨n₃, hn₃, hbooks₃⟩ := issueCreditNote_beside hnote
  obtain ⟨ledger, n, hbooks, hn, hposts⟩ := record_books hrecord
  have hid : w₃.db.nextId = n₃ := congrArg Books.nextId hbooks₃
  rw [hbooks₃] at hposts hbooks
  refine ⟨w₄, table, ledger, n, hcreate, hbooks, ?_, hposts, ?_⟩
  · exact lt_of_lt_of_le (Nat.lt_succ_self _) (hn₃.trans (hid ▸ hn))
  · split at h
    · rename_i haccrued
      simp only [Tx.bind_eq_ok, Tx.pure_eq_ok] at h
      obtain ⟨_, _, haccrue, rfl, rfl⟩ := h
      rw [if_pos haccrued]
      exact ⟨rfl, haccrue⟩
    · rename_i haccrued
      obtain ⟨rfl, rfl⟩ := Tx.pure_eq_ok.mp h
      rw [if_neg haccrued]
      exact ⟨rfl, rfl⟩

omit [Runtime] in
theorem accrueReceivable_eq_ok {draft : RefundDraft} {inv : MerchantInvoice} {item : SettlementItem}
    {refunds : List SettlementRefund} {refundId : Nat} {w u : World}
    (h : accrueReceivable draft inv item refunds refundId w = .ok ((), u)) :
    ∃ receivables accruedAt reversed ledger n,
      w.db.books.receivables.create (receivableRow draft inv refundId accruedAt w.db.nextId) =
        some receivables ∧
      Posts (receivablePosting draft inv refundId) w.db.books.ledger ledger ∧ w.db.nextId < n ∧
      (reversed = true ↔ item.state = .settled ∧ item.amount.cents ≤ refundTotalMinor
        (refunds.filter fun r => r.settlementInteraction = .receivable_accrued) + draft.amountMinor) ∧
      u.db.books = { w.db.books with
        items := w.db.books.items.updateMany
          (fun i => reversed && decide (i.id = item.id ∧ i.state = .settled))
          (fun i => { i with state := .reversed }) fun _ => rfl
        receivables := receivables
        ledger := ledger
        nextId := n } := by
  simp only [accrueReceivable, Tx.bind_eq_ok, insert_eq_ok, txNow_eq_ok] at h
  obtain ⟨accruedAt, _, ⟨-, rfl⟩, _, w₁, ⟨rfl, receivables, hcreate, -, rfl⟩, _, w₂, hrecord, h⟩ := h
  obtain ⟨ledger, n, hbooks, hn, hposts⟩ := record_books hrecord
  have hlt : w.db.nextId < n := lt_of_lt_of_le (Nat.lt_succ_self _) hn
  have hmid : w₂.db.books =
      { w.db.books with receivables := receivables, ledger := ledger, nextId := n } := hbooks
  rw [toMinor_SAR] at h
  split at h
  · rename_i hfull
    simp only [Tx.bind_eq_ok, Tx.ofExcept_eq_ok, Tx.ensure_eq_ok, updateMany_eq_ok] at h
    obtain ⟨_, _, ⟨-, rfl⟩, _, _, ⟨-, rfl⟩, -, rfl⟩ := h
    refine ⟨receivables, accruedAt, true, ledger, n, hcreate, hposts, hlt, by simpa using hfull, ?_⟩
    simp only [Bool.true_and]
    exact congrArg (fun b : Books => { b with
      items := b.items.updateMany (fun i => decide (i.id = item.id ∧ i.state = ItemState.settled))
        (fun i => { i with state := .reversed }) fun _ => rfl }) hmid
  · rename_i hpart
    obtain ⟨-, rfl⟩ := Tx.pure_eq_ok.mp h
    refine ⟨receivables, accruedAt, false, ledger, n, hcreate, hposts, hlt, by simpa using hpart, ?_⟩
    rw [updateMany_of_false _ fun _ _ => Bool.false_and _]
    exact hmid

omit [Runtime] in
/-- How a refund meets its item. -/
theorem interact_eq_ok {item : SettlementItem} {amountMinor : Int} {w w' : World}
    {interaction : SettlementInteraction} (h : interact item amountMinor w = .ok (interaction, w')) :
    (interaction = .item_reduced ∧
        (item.state = .pending ∨ item.state = .eligible ∨ item.state = .held) ∧
        reduceItem item amountMinor w = .ok ((), w')) ∨
      interaction = .receivable_accrued ∧ (item.state = .settled ∨ item.state = .reversed) ∧ w' = w := by
  unfold interact at h
  cases hstate : item.state with
  | ready => simp [hstate] at h
  | disputed => simp [hstate] at h
  | settled =>
      simp only [hstate, Tx.pure_eq_ok] at h
      exact Or.inr ⟨h.1.symm, Or.inl rfl, h.2.symm⟩
  | reversed =>
      simp only [hstate, Tx.pure_eq_ok] at h
      exact Or.inr ⟨h.1.symm, Or.inr rfl, h.2.symm⟩
  | pending =>
      simp only [hstate, Tx.bind_eq_ok, Tx.pure_eq_ok] at h
      obtain ⟨_, _, hreduce, rfl, rfl⟩ := h
      exact Or.inl ⟨rfl, Or.inl rfl, hreduce⟩
  | eligible =>
      simp only [hstate, Tx.bind_eq_ok, Tx.pure_eq_ok] at h
      obtain ⟨_, _, hreduce, rfl, rfl⟩ := h
      exact Or.inl ⟨rfl, Or.inr (Or.inl rfl), hreduce⟩
  | held =>
      simp only [hstate, Tx.bind_eq_ok, Tx.pure_eq_ok] at h
      obtain ⟨_, _, hreduce, rfl, rfl⟩ := h
      exact Or.inl ⟨rfl, Or.inr (Or.inr rfl), hreduce⟩

/-- The VAT share a goods refund computes from what it reads. -/
abbrev goodsVatOf (inv : MerchantInvoice) (w : World) (amountMinor : Int) : Int :=
  w.db.books.refundVatMinor .merchant_invoice inv.id inv.terms amountMinor

section Goods

variable {origin : Option RefundOrigin} {draft : RefundDraft} {inv : MerchantInvoice}
  {item : SettlementItem} {refunds : List SettlementRefund} {candidates : List String}
  {outcome : RefundOutcome} {t u : World}

theorem reduce_step (hrefunds : Refunds t.db.books origin draft inv item)
    (hstate : item.state = .pending ∨ item.state = .eligible ∨ item.state = .held) {w : World}
    (hreduce : reduceItem item draft.amountMinor t = .ok ((), w))
    (h : writeRefund draft inv item refunds (fromMinor (goodsVatOf inv t draft.amountMinor) .SAR)
      .item_reduced candidates w = .ok (outcome, u)) :
    Step (.refund origin) t u ∧ u.db.books.refunds.find outcome.refund.id = some outcome.refund ∧
      outcome.refund.amount.cents = draft.amountMinor ∧ outcome.refund.invoiceType = .merchant_invoice ∧
      outcome.refund.invoiceId = inv.id := by
  obtain ⟨hunbound, hamount, rfl⟩ := reduceItem_eq_ok hrefunds.itemStored hreduce
  obtain ⟨w', table, ledger, n, hcreate, hbooks, hn, hposts, rfl, htail⟩ := writeRefund_eq_ok h
  rw [if_neg nofun] at htail
  obtain ⟨-, rfl⟩ := Tx.pure_eq_ok.mp htail
  have hstep := Effect.reduce hrefunds hstate hunbound hamount hcreate hposts hn
  refine ⟨?_, ?_, refundAmount_cents draft, rfl, rfl⟩
  · unfold Step
    rw [hbooks]
    exact hstep
  · rw [hbooks]
    exact find_create_self hcreate

theorem accrue_step (hrefunds : Refunds t.db.books origin draft inv item)
    (hstate : item.state = .settled ∨ item.state = .reversed)
    (hread : refunds = refundsOf .merchant_invoice inv.id t)
    (h : writeRefund draft inv item refunds (fromMinor (goodsVatOf inv t draft.amountMinor) .SAR)
      .receivable_accrued candidates t = .ok (outcome, u)) :
    Step (.refund origin) t u ∧ u.db.books.refunds.find outcome.refund.id = some outcome.refund ∧
      outcome.refund.amount.cents = draft.amountMinor ∧ outcome.refund.invoiceType = .merchant_invoice ∧
      outcome.refund.invoiceId = inv.id := by
  obtain ⟨w', table, ledger, n, hcreate, hbooks, hn, hposts, rfl, htail⟩ := writeRefund_eq_ok h
  rw [if_pos rfl] at htail
  obtain ⟨receivables, accruedAt, reversed, ledger', n', haccrue, hposts', hn', hreversed, hbooks'⟩ :=
    accrueReceivable_eq_ok htail
  rw [hread, accruedMinor_refundsOf] at hreversed
  have hid : w'.db.nextId = n := congrArg Books.nextId hbooks
  rw [hid] at haccrue hn'
  rw [hbooks] at haccrue hposts' hbooks'
  have hstep := @Effect.accrue _ _ _ _ _ _ _ _ _ reversed _ _ _ hrefunds hstate hreversed hcreate haccrue
    (.cons hposts (.cons hposts' (.nil _))) hn hn'
  refine ⟨?_, ?_, refundAmount_cents draft, rfl, rfl⟩
  · unfold Step
    rw [hbooks']
    exact hstep
  · rw [hbooks']
    exact find_create_self hcreate

/-- The transaction of a goods refund. -/
theorem refundTx_step (hpos : 0 < draft.amountMinor)
    (hordered : Ordered t.db.books origin .merchant_invoice draft.invoiceId draft)
    (h : refundTx draft candidates t = .ok (outcome, u)) :
    Step (.refund origin) t u ∧
      Recorded u.db.books .merchant_invoice draft.invoiceId outcome.refund ∧
      (outcome.replayed = false → outcome.refund.amount.cents = draft.amountMinor) := by
  simp only [refundTx, Tx.bind_eq_ok, Tx.read_eq_ok] at h
  obtain ⟨found, _, ⟨hfound, rfl⟩, h⟩ := h
  cases found with
  | none => simp at h
  | some inv =>
      have hid : inv.id = draft.invoiceId := key_of_find hfound
      simp only [Tx.bind_eq_ok, Tx.ensure_eq_ok, Tx.read_eq_ok] at h
      obtain ⟨_, _, ⟨hcurrency, rfl⟩, existing, _, ⟨hexisting, rfl⟩, h⟩ := h
      cases existing with
      | some existing =>
          obtain ⟨rfl, rfl⟩ := Tx.pure_eq_ok.mp h
          exact ⟨Step.refl _ _, hid ▸ refundByEvidence_recorded hexisting, (by simp)⟩
      | none =>
          simp only [applyRefund, Tx.bind_eq_ok, Tx.ensure_eq_ok, Tx.read_eq_ok] at h
          obtain ⟨_, _, ⟨-, rfl⟩, received, _, ⟨rfl, rfl⟩, refunds, _, ⟨rfl, rfl⟩, _, _,
            ⟨hcap, rfl⟩, item, _, ⟨hitem, rfl⟩, h⟩ := h
          cases item with
          | none => simp at h
          | some item =>
              simp only [Tx.bind_eq_ok] at h
              obtain ⟨interaction, w, hinteract, h⟩ := h
              rw [refundTotalMinor_refundsOf, receiptTotalMinor_receiptsOf] at hcap
              simp only [refundTotalMinor_refundsOf, refundVatMinor_refundsOf, toMinor_SAR] at h
              have hcond := List.find?_some hitem
              simp only [decide_eq_true_eq] at hcond
              have hrefunds : Refunds t.db.books origin draft inv item :=
                { stored := hid ▸ hfound
                  itemStored := find_of_mem (List.mem_of_find?_eq_some hitem)
                  occurrence := hcond
                  positive := hpos
                  bounded := hcap
                  unused := refundByEvidence_unused hexisting
                  ordered := hid ▸ hordered }
              rcases interact_eq_ok hinteract with ⟨rfl, hstate, hreduce⟩ | ⟨rfl, hstate, rfl⟩
              · obtain ⟨hstep, hstored, hamount, htype, hinvoice⟩ :=
                  reduce_step hrefunds hstate hreduce h
                exact ⟨hstep, ⟨hstored, htype, hinvoice.trans hid⟩, fun _ => hamount⟩
              · obtain ⟨hstep, hstored, hamount, htype, hinvoice⟩ := accrue_step hrefunds hstate rfl h
                exact ⟨hstep, ⟨hstored, htype, hinvoice.trans hid⟩, fun _ => hamount⟩

end Goods

/-! ### The fee leg -/

section Fee

variable {origin : Option RefundOrigin} {draft : RefundDraft} {inv : CorporateInvoice}
  {candidates : List String} {outcome : RefundOutcome} {t u : World}

theorem feeRefund_step (hrefunds : FeeRefunds t.db.books origin draft inv)
    (h : writeFeeRefund draft inv (t.db.books.refundVatMinor .corporate_invoice inv.id inv.terms
      draft.amountMinor) candidates t = .ok (outcome, u)) :
    Step (.feeRefund origin) t u ∧ u.db.books.refunds.find outcome.refund.id = some outcome.refund ∧
      outcome.refund.amount.cents = draft.amountMinor ∧ outcome.refund.invoiceType = .corporate_invoice ∧
      outcome.refund.invoiceId = inv.id := by
  simp only [writeFeeRefund, Tx.bind_eq_ok, insert_eq_ok, Tx.ofExcept_eq_ok, txNow_eq_ok,
    Tx.pure_eq_ok] at h
  obtain ⟨_, w₁, ⟨rfl, table, hcreate, -, rfl⟩, issuedAt, _, ⟨-, rfl⟩, lastValue, w₂, hsequence, number,
    _, ⟨-, rfl⟩, reference, w₃, hmint, note, w₄, hnote, _, w₅, hpostings, rfl, rfl⟩ := h
  obtain rfl := mintQn_eq_ok hmint
  obtain ⟨n₄, hn₄, hbooks₄⟩ := (nextSequence_beside hsequence).trans (issueCreditNote_beside hnote)
  obtain ⟨ledger, n, hbooks, hn, hposts⟩ := recordAll_books hpostings
  have hid : w₄.db.nextId = n₄ := congrArg Books.nextId hbooks₄
  rw [hbooks₄] at hposts hbooks
  have hlt : t.db.nextId < n := lt_of_lt_of_le (Nat.lt_succ_self _) (hn₄.trans (hid ▸ hn))
  have hstep := Effect.feeRefund hrefunds hcreate hposts hlt
  refine ⟨?_, ?_, refundAmount_cents draft, rfl, rfl⟩
  · unfold Step
    rw [hbooks]
    exact hstep
  · rw [hbooks]
    exact find_create_self hcreate

omit [Runtime] in
theorem vatMinor_corporate (inv : CorporateInvoice) :
    toMinor ((inv.vatAmount.map moneyToNumber).getD 0) .SAR = inv.terms.vatMinor := by
  cases hvat : inv.vatAmount with
  | none => simp [CorporateInvoice.terms, hvat]
  | some vat => simp [CorporateInvoice.terms, hvat, toMinor_SAR]

theorem feeRefundTx_step (hpos : 0 < draft.amountMinor)
    (hordered : Ordered t.db.books origin .corporate_invoice draft.invoiceId draft)
    (h : feeRefundTx draft candidates t = .ok (outcome, u)) :
    Step (.feeRefund origin) t u ∧
      Recorded u.db.books .corporate_invoice draft.invoiceId outcome.refund ∧
      (outcome.replayed = false → outcome.refund.amount.cents = draft.amountMinor) := by
  simp only [feeRefundTx, Tx.bind_eq_ok, Tx.read_eq_ok] at h
  obtain ⟨found, _, ⟨hfound, rfl⟩, h⟩ := h
  cases found with
  | none => simp at h
  | some inv =>
      have hid : inv.id = draft.invoiceId := key_of_find hfound
      simp only [Tx.bind_eq_ok, Tx.ensure_eq_ok, Tx.read_eq_ok] at h
      obtain ⟨_, _, ⟨hcurrency, rfl⟩, existing, _, ⟨hexisting, rfl⟩, h⟩ := h
      cases existing with
      | some existing =>
          obtain ⟨rfl, rfl⟩ := Tx.pure_eq_ok.mp h
          exact ⟨Step.refl _ _, hid ▸ refundByEvidence_recorded hexisting, (by simp)⟩
      | none =>
          simp only [applyFeeRefund, Tx.bind_eq_ok, Tx.ensure_eq_ok, Tx.read_eq_ok,
            receiptTotalMinor_receiptsOf, toMinor_SAR, vatMinor_corporate] at h
          obtain ⟨_, _, ⟨-, rfl⟩, received, _, ⟨rfl, rfl⟩, refunds, _, ⟨rfl, rfl⟩, _, _,
            ⟨htotal, rfl⟩, h⟩ := h
          simp only [refundTotalMinor_refundsOf, refundVatMinor_refundsOf] at h htotal
          have hstored : t.db.books.corporateInvoices.find inv.id = some inv := hid ▸ hfound
          have hordered' : Ordered t.db.books origin .corporate_invoice inv.id draft :=
            hid ▸ hordered
          have hunused : Unused t.db.books .corporate_invoice inv.id draft.evidenceRef :=
            refundByEvidence_unused hexisting
          have hwritten : FeeRefunds t.db.books origin draft inv ∧ writeFeeRefund draft inv
              (t.db.books.refundVatMinor .corporate_invoice inv.id inv.terms draft.amountMinor)
              candidates t = .ok (outcome, u) := by
            split at h
            · rename_i hpaid
              simp only [Tx.bind_eq_ok, Tx.ensure_eq_ok] at h
              obtain ⟨_, _, ⟨hcash, rfl⟩, h⟩ := h
              rw [reversedMinor_refundsOf] at hcash
              exact ⟨⟨hstored, hpos, htotal, fun _ => hcash, fun hne => absurd hpaid hne,
                hunused, hordered'⟩, h⟩
            · rename_i hunpaid
              simp only [Tx.bind_eq_ok, Tx.ensure_eq_ok] at h
              obtain ⟨_, _, ⟨hcredit, rfl⟩, h⟩ := h
              rw [refundTotalMinor_refundsOf, toMinor_SAR] at hcredit
              exact ⟨⟨hstored, hpos, htotal, fun hp => absurd hp hunpaid, fun _ => hcredit,
                hunused, hordered'⟩, h⟩
          obtain ⟨hstep, hfind, hamount, htype, hinvoice⟩ := feeRefund_step hwritten.1 hwritten.2
          exact ⟨hstep, ⟨hfind, htype, hinvoice.trans hid⟩, fun _ => hamount⟩

end Fee

/-! ### Recording a refund -/

omit [Runtime] in
theorem Ordered.later {b b' : Books} {origin : Option RefundOrigin} {invoiceType : InvoiceType}
    {invoiceId : Nat} {draft : RefundDraft} (h : Ordered b origin invoiceType invoiceId draft)
    (hlater : Later b b') : Ordered b' origin invoiceType invoiceId draft := by
  intro o ho
  obtain ⟨hevidence, r, hr, htype, hinvoice, hamount⟩ := h o ho
  obtain ⟨r', hr', hsame⟩ := hlater.requests _ _ hr
  exact ⟨hevidence, r', hr', hsame.invoiceType.trans htype, hsame.invoiceId.trans hinvoice,
    hsame.amount ▸ hamount⟩

omit [Runtime] in
theorem refundDraft_ok {actor : Nat} {input : RecordRefundInput} {texts : String × String}
    {nowMs : Time} {draft : RefundDraft} (h : refundDraft actor input texts nowMs = .ok draft) :
    0 < draft.amountMinor ∧ draft.invoiceId = input.invoiceId ∧ draft.evidenceRef = texts.1 ∧
      draft.amountMinor = toMinor input.amount .SAR := by
  unfold refundDraft at h
  split at h
  · cases h
  · split at h
    · cases h
    · split at h
      · cases h
      · rename_i hpos
        obtain rfl := Except.ok.inj h
        exact ⟨not_le.mp hpos, rfl, rfl, rfl⟩

omit [Runtime] in
theorem refundTexts_ok {input : RecordRefundInput} {texts : String × String}
    (h : refundTexts input = .ok texts) : texts.1 = trim input.evidenceRef := by
  unfold refundTexts at h
  split at h
  · cases h
  · split at h
    · cases h
    · rw [← Except.ok.inj h]

/-- What a refund transaction and its replay answer. -/
abbrev Answers (invoiceType : InvoiceType) (draft : RefundDraft) (outcome : RefundOutcome)
    (t : World) : Prop :=
  Recorded t.db.books invoiceType draft.invoiceId outcome.refund ∧
    (outcome.replayed = false → outcome.refund.amount.cents = draft.amountMinor)

theorem runRefund_serves {site : Site} {invoiceType : InvoiceType} {draft : RefundDraft}
    {tx : Transaction RefundOutcome} (hadmits : q.admits site = true)
    (hstep : ∀ t outcome u, Rely Step s t → tx t = .ok (outcome, u) →
      Step site t u ∧ Answers invoiceType draft outcome u) :
    Serves q (fun outcome t => Answers invoiceType draft outcome t)
      (runRefund site invoiceType draft tx) s := by
  refine Serves.tryCatch ?_ fun e t hst => ?_
  · exact Serves.transaction hadmits fun t outcome u _ hst h => hstep t outcome u hst h
  · split
    · refine Serves.bind Serves.read fun existing u _ hread => ?_
      cases existing with
      | none => exact Serves.fail
      | some existing =>
          exact Serves.pure fun _ => ⟨refundByEvidence_recorded hread.symm, nofun⟩
    · exact Serves.fail

theorem healCredit_serves (refund : SettlementRefund) : Acts q (healCredit refund) s := by
  unfold healCredit
  split
  · exact Serves.seq (deriveAndApplyCoverage_serves _ _) fun _ _ _ => Serves.pure fun _ => trivial
  · exact Serves.pure fun _ => trivial

/-- What a call of `recordRefund` answers: a stored refund of the invoice and the amount it was asked for. -/
structure RecordedFor (b : Books) (input : RecordRefundInput) (refund : SettlementRefund) : Prop where
  recorded : Recorded b input.invoiceType input.invoiceId refund
  amount : refund.amount.cents = toMinor input.amount .SAR

/-- A refund is only asked for in an order that stands. -/
def OrderedBy (b : Books) (origin : Option RefundOrigin) (input : RecordRefundInput) : Prop :=
  ∀ draft : RefundDraft, draft.invoiceId = input.invoiceId → draft.evidenceRef = trim input.evidenceRef →
    draft.amountMinor = toMinor input.amount .SAR →
      Ordered b origin input.invoiceType input.invoiceId draft

omit [Runtime] in
theorem OrderedBy.none (b : Books) (input : RecordRefundInput) : OrderedBy b none input := by
  intro draft _ _ _ origin horigin
  cases horigin

theorem recordFeeRefund_serves {origin : Option RefundOrigin} {actor : Nat} {input : RecordRefundInput}
    {candidates : List String} (hlane : input.invoiceType = .corporate_invoice)
    (hordered : OrderedBy s.db.books origin input) :
    Serves q (fun outcome t => RecordedFor t.db.books input outcome.refund)
      (recordFeeRefund origin actor input candidates) s := by
  refine Serves.bind (P := fun texts _ => texts.1 = trim input.evidenceRef)
    (Serves.ofExcept fun _ _ h => refundTexts_ok h) fun texts s₁ h₁ htexts => ?_
  refine Serves.seq (Serves.ofExcept fun _ _ _ => trivial) fun _ s₂ h₂ => ?_
  refine Serves.seq now_serves fun nowMs s₃ h₃ => ?_
  refine Serves.bind (P := fun draft _ => 0 < draft.amountMinor ∧ draft.invoiceId = input.invoiceId ∧
    draft.evidenceRef = texts.1 ∧ draft.amountMinor = toMinor input.amount .SAR)
    (Serves.ofExcept fun _ _ h => refundDraft_ok h) fun draft s₄ h₄ hdraft => ?_
  obtain ⟨hpos, hinvoice, hevidence, hamount⟩ := hdraft
  have hdrafted := hordered draft hinvoice (hevidence.trans htexts) hamount
  refine Serves.bind (P := fun outcome t => Answers .corporate_invoice draft outcome t)
    (runRefund_serves rfl fun t outcome u hst h => ?_) fun outcome s₅ h₅ hanswer => ?_
  · have hlater := later_of_rely ((((h₁.trans h₂).trans h₃).trans h₄).trans hst)
    exact feeRefundTx_step hpos (hinvoice ▸ hlane ▸ hdrafted.later hlater) h
  · obtain ⟨hrecorded, hfresh⟩ := hanswer
    rw [hinvoice, ← hlane] at hrecorded
    split
    · refine Serves.bind Serves.guard fun _ s₆ h₆ hsame => ?_
      refine Serves.seq (healCredit_serves _) fun _ s₇ h₇ => ?_
      refine Serves.seq (audit_serves _) fun _ s₈ h₈ => Serves.pure fun _ => ?_
      refine ⟨hrecorded.later (later_of_rely ((h₆.trans h₇).trans h₈)), ?_⟩
      rw [toMinor_SAR] at hsame
      exact hsame.1.trans hamount
    · rename_i hreplayed
      refine Serves.seq (audit_serves _) fun _ s₆ h₆ => ?_
      refine Serves.seq (audit_serves _) fun _ s₇ h₇ => ?_
      refine Serves.seq (healCredit_serves _) fun _ s₈ h₈ => Serves.pure fun _ => ?_
      refine ⟨hrecorded.later (later_of_rely ((h₆.trans h₇).trans h₈)), ?_⟩
      exact (hfresh (by simpa using hreplayed)).trans hamount

theorem recordRefund_serves {origin : Option RefundOrigin} {actor : Nat} {input : RecordRefundInput}
    {candidates : List String} (hordered : OrderedBy s.db.books origin input) :
    Serves q (fun outcome t => RecordedFor t.db.books input outcome.refund)
      (recordRefund origin actor input candidates) s := by
  refine Serves.seq assertGatesOpen_serves fun _ s₀ h₀ => ?_
  have hordered₀ : OrderedBy s₀.db.books origin input := fun draft hinvoice hevidence hamount =>
    (hordered draft hinvoice hevidence hamount).later (later_of_rely h₀)
  cases hlane : input.invoiceType with
  | corporate_invoice => exact recordFeeRefund_serves hlane hordered₀
  | merchant_invoice =>
      refine Serves.bind (P := fun texts _ => texts.1 = trim input.evidenceRef)
        (Serves.ofExcept fun _ _ h => refundTexts_ok h) fun texts s₁ h₁ htexts => ?_
      refine Serves.seq now_serves fun nowMs s₃ h₃ => ?_
      refine Serves.bind (P := fun draft _ => 0 < draft.amountMinor ∧
        draft.invoiceId = input.invoiceId ∧ draft.evidenceRef = texts.1 ∧
        draft.amountMinor = toMinor input.amount .SAR)
        (Serves.ofExcept fun _ _ h => refundDraft_ok h) fun draft s₄ h₄ hdraft => ?_
      obtain ⟨hpos, hinvoice, hevidence, hamount⟩ := hdraft
      have hdrafted := hordered₀ draft hinvoice (hevidence.trans htexts) hamount
      refine Serves.bind (P := fun outcome t => Answers .merchant_invoice draft outcome t)
        (runRefund_serves rfl fun t outcome u hst h => ?_) fun outcome s₅ h₅ hanswer => ?_
      · have hlater := later_of_rely (((h₁.trans h₃).trans h₄).trans hst)
        exact refundTx_step hpos (hinvoice ▸ hlane ▸ hdrafted.later hlater) h
      · obtain ⟨hrecorded, hfresh⟩ := hanswer
        rw [hinvoice, ← hlane] at hrecorded
        split
        · refine Serves.bind Serves.guard fun _ s₆ h₆ hsame => ?_
          refine Serves.seq (audit_serves _) fun _ s₇ h₇ => Serves.pure fun _ => ?_
          refine ⟨hrecorded.later (later_of_rely (h₆.trans h₇)), ?_⟩
          rw [toMinor_SAR] at hsame
          exact hsame.1.trans hamount
        · rename_i hreplayed
          refine Serves.seq (audit_serves _) fun _ s₆ h₆ => ?_
          refine Serves.seq (audit_serves _) fun _ s₇ h₇ => Serves.pure fun _ => ?_
          refine ⟨hrecorded.later (later_of_rely (h₆.trans h₇)), ?_⟩
          exact (hfresh (by simpa using hreplayed)).trans hamount

end Services

end Qift
