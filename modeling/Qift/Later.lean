import Qift.Books

/-!
# What stays

`Later` is what stays of the books whatever happens: rows are never deleted and what they identify or freeze
never changes.  **`Effect.later`** gives it for one effect; it is what a call may still rely on after others
have acted.
-/

namespace Qift

open Relational Relational.Table Interleaving Settlement Financial Treasury

/-! ### Rows -/

/-- The identifying columns of an item. -/
structure SettlementItem.Same (i i' : SettlementItem) : Prop where
  storeId : i'.storeId = i.storeId
  currency : i'.currency = i.currency
  occurrenceType : i'.occurrenceType = i.occurrenceType
  occurrenceId : i'.occurrenceId = i.occurrenceId

/-- The frozen columns of a batch, and its closing once it has one. -/
structure SettlementBatch.Same (r r' : SettlementBatch) : Prop where
  frozen : SettlementBatch.frozen r' = SettlementBatch.frozen r
  gross : r'.grossAmount = r.grossAmount
  net : r'.netAmount = r.netAmount
  assembledBy : r'.assembledBy = r.assembledBy
  closure : r.closureType ≠ none → r'.closureType = r.closureType ∧ r'.closedAt = r.closedAt

/-- The identifying columns of a receivable. -/
structure SettlementReceivable.Same (r r' : SettlementReceivable) : Prop where
  storeId : r'.storeId = r.storeId
  currency : r'.currency = r.currency
  amount : r'.amount = r.amount
  occurrenceId : r'.occurrenceId = r.occurrenceId

theorem MerchantInvoice.Same.refl (i : MerchantInvoice) : MerchantInvoice.Same i i :=
  ⟨rfl, rfl, rfl, rfl⟩

theorem MerchantInvoice.Same.trans {i j k : MerchantInvoice} (h : MerchantInvoice.Same i j)
    (h' : MerchantInvoice.Same j k) : MerchantInvoice.Same i k :=
  ⟨h'.1.trans h.1, h'.2.trans h.2, h'.3.trans h.3, h'.4.trans h.4⟩

theorem MerchantInvoice.Same.terms {i i' : MerchantInvoice} (h : MerchantInvoice.Same i i') :
    i'.terms = i.terms := by
  simp [MerchantInvoice.terms, h.totalAmount, h.vatAmount]

theorem CorporateInvoice.Same.refl (i : CorporateInvoice) : CorporateInvoice.Same i i :=
  ⟨rfl, rfl, rfl, rfl, fun h => h⟩

theorem CorporateInvoice.Same.trans {i j k : CorporateInvoice} (h : CorporateInvoice.Same i j)
    (h' : CorporateInvoice.Same j k) : CorporateInvoice.Same i k :=
  ⟨h'.1.trans h.1, h'.2.trans h.2, h'.3.trans h.3, h'.4.trans h.4, fun hp => h'.5 (h.5 hp)⟩

theorem CorporateInvoice.Same.terms {i i' : CorporateInvoice} (h : CorporateInvoice.Same i i') :
    i'.terms = i.terms := by
  simp [CorporateInvoice.terms, h.totalAmount, h.vatAmount]

theorem SettlementItem.Same.refl (i : SettlementItem) : SettlementItem.Same i i :=
  ⟨rfl, rfl, rfl, rfl⟩

theorem SettlementItem.Same.trans {i j k : SettlementItem} (h : SettlementItem.Same i j)
    (h' : SettlementItem.Same j k) : SettlementItem.Same i k :=
  ⟨h'.1.trans h.1, h'.2.trans h.2, h'.3.trans h.3, h'.4.trans h.4⟩

theorem SettlementBatch.Same.refl (r : SettlementBatch) : SettlementBatch.Same r r :=
  ⟨rfl, rfl, rfl, rfl, fun _ => ⟨rfl, rfl⟩⟩

namespace SettlementBatch.Same

variable {r r' : SettlementBatch}

theorem trans {r'' : SettlementBatch} (h : SettlementBatch.Same r r')
    (h' : SettlementBatch.Same r' r'') : SettlementBatch.Same r r'' where
  frozen := h'.frozen.trans h.frozen
  gross := h'.gross.trans h.gross
  net := h'.net.trans h.net
  assembledBy := h'.assembledBy.trans h.assembledBy
  closure hc := by
    obtain ⟨htype, hat⟩ := h.closure hc
    obtain ⟨htype', hat'⟩ := h'.closure (htype ▸ hc)
    exact ⟨htype'.trans htype, hat'.trans hat⟩

theorem id (h : SettlementBatch.Same r r') : r'.id = r.id :=
  congrArg FrozenBatchRecord.settlementId h.frozen

theorem storeId (h : SettlementBatch.Same r r') : r'.storeId = r.storeId :=
  congrArg FrozenBatchRecord.storeId h.frozen

theorem currency (h : SettlementBatch.Same r r') : r'.currency = r.currency :=
  congrArg FrozenBatchRecord.currency h.frozen

theorem settlementReference (h : SettlementBatch.Same r r') :
    r'.settlementReference = r.settlementReference :=
  congrArg FrozenBatchRecord.settlementReference h.frozen

theorem composition (h : SettlementBatch.Same r r') : r'.composition = r.composition :=
  congrArg FrozenBatchRecord.composition h.frozen

theorem recoveryAllocation (h : SettlementBatch.Same r r') :
    r'.recoveryAllocation = r.recoveryAllocation :=
  congrArg FrozenBatchRecord.recoveryAllocation h.frozen

theorem calculationSnapshot (h : SettlementBatch.Same r r') :
    r'.calculationSnapshot = r.calculationSnapshot :=
  congrArg FrozenBatchRecord.calculationSnapshot h.frozen

theorem memberIds (h : SettlementBatch.Same r r') : memberIds r' = memberIds r :=
  congrArg (List.map FrozenCompositionEntry.itemId) h.composition

theorem wellFrozen (h : SettlementBatch.Same r r') (hr : WellFrozen r) : WellFrozen r' where
  nonempty := h.composition ▸ hr.nonempty
  registered := h.currency ▸ hr.registered
  currencies := by
    rw [h.composition, h.currency]
    exact hr.currencies
  recovery := by
    simpa only [allocationMinor, h.recoveryAllocation, h.currency] using hr.recovery
  snapshot := by
    simpa only [compositionMinor, allocationMinor, h.recoveryAllocation, h.currency,
      h.composition, h.calculationSnapshot] using hr.snapshot
  gross := by
    simpa only [compositionMinor, h.gross, h.currency, h.composition] using hr.gross
  net := by
    simpa only [compositionMinor, allocationMinor, h.net, h.recoveryAllocation, h.currency,
      h.composition] using hr.net

end SettlementBatch.Same

theorem SettlementReceivable.Same.refl (r : SettlementReceivable) : SettlementReceivable.Same r r :=
  ⟨rfl, rfl, rfl, rfl⟩

theorem SettlementReceivable.Same.trans {r r' r'' : SettlementReceivable}
    (h : SettlementReceivable.Same r r') (h' : SettlementReceivable.Same r' r'') :
    SettlementReceivable.Same r r'' :=
  ⟨h'.1.trans h.1, h'.2.trans h.2, h'.3.trans h.3, h'.4.trans h.4⟩

def BoundBefore (items items' : Table SettlementItem.id) (m : Nat) : Prop :=
  ∀ i' ∈ items'.rows, i'.batchId = some m → ∃ i ∈ items.rows, i.id = i'.id ∧ i.batchId = some m

theorem BoundBefore.refl (items : Table SettlementItem.id) (m : Nat) : BoundBefore items items m :=
  fun i hi hm => ⟨i, hi, rfl, hm⟩

theorem BoundBefore.updateMany {items items' : Table SettlementItem.id} {m : Nat}
    {p : SettlementItem → Bool} {f : SettlementItem → SettlementItem}
    (hrows : items'.rows = items.rows.map fun i => if p i then f i else i)
    (hf : ∀ i, (f i).id = i.id)
    (h : ∀ i, p i = true → (f i).batchId = some m → i.batchId = some m) :
    BoundBefore items items' m := by
  intro i' hi' hm
  rw [hrows] at hi'
  obtain ⟨i, hi, rfl⟩ := List.mem_map.mp hi'
  by_cases hp : p i = true
  · rw [if_pos hp] at hm ⊢
    exact ⟨i, hi, (hf i).symm, h i hp hm⟩
  · rw [if_neg hp] at hm ⊢
    exact ⟨i, hi, rfl, hm⟩

/-- What the books of a later state keep of earlier ones. -/
structure Later (b b' : Books) : Prop where
  nextId : b.nextId ≤ b'.nextId
  invoices : Evolves MerchantInvoice.Same b.merchantInvoices b'.merchantInvoices
  feeInvoices : Evolves CorporateInvoice.Same b.corporateInvoices b'.corporateInvoices
  requests : Evolves RefundRequest.Same b.refundRequests b'.refundRequests
  items : Evolves SettlementItem.Same b.items b'.items
  batches : Evolves SettlementBatch.Same b.batches b'.batches
  receivables : Evolves SettlementReceivable.Same b.receivables b'.receivables
  remittances : Evolves Eq b.remittances b'.remittances
  previews : Evolves Eq b.previews b'.previews
  approvals : Evolves Eq b.approvals b'.approvals
  statements : Evolves Eq b.statements b'.statements
  internalTransfers : Evolves Eq b.internalTransfers b'.internalTransfers
  receipts : ∀ r ∈ b.receipts.rows, r ∈ b'.receipts.rows
  received : ∀ invoiceType invoiceId,
    b.receivedMinor invoiceType invoiceId ≤ b'.receivedMinor invoiceType invoiceId
  refunds : Evolves Eq b.refunds b'.refunds
  /-- A paid fee invoice is credited no more. -/
  credited : ∀ i ∈ b.corporateInvoices.rows, i.status = .paid →
    b'.creditedNetMinor i.id = b.creditedNetMinor i.id
  ledger : ∀ e ∈ b.ledger.rows, e ∈ b'.ledger.rows
  /-- An item is never bound to a batch that was stored before. -/
  bound : ∀ m < b.nextId, BoundBefore b.items b'.items m

namespace Later

theorem refl (b : Books) : Later b b where
  nextId := le_refl _
  invoices := Evolves.refl MerchantInvoice.Same.refl _
  feeInvoices := Evolves.refl CorporateInvoice.Same.refl _
  requests := Evolves.refl RefundRequest.Same.refl _
  items := Evolves.refl SettlementItem.Same.refl _
  batches := Evolves.refl SettlementBatch.Same.refl _
  receivables := Evolves.refl SettlementReceivable.Same.refl _
  remittances := Evolves.refl (fun _ => rfl) _
  previews := Evolves.refl (fun _ => rfl) _
  approvals := Evolves.refl (fun _ => rfl) _
  statements := Evolves.refl (fun _ => rfl) _
  internalTransfers := Evolves.refl (fun _ => rfl) _
  receipts := fun _ h => h
  received := fun _ _ => le_refl _
  refunds := Evolves.refl (fun _ => rfl) _
  credited := fun _ _ _ => rfl
  ledger := fun _ h => h
  bound := fun m _ => BoundBefore.refl _ m

theorem trans {b b' b'' : Books} (h : Later b b') (h' : Later b' b'') : Later b b'' where
  nextId := h.nextId.trans h'.nextId
  invoices := h.invoices.trans (fun _ _ _ => MerchantInvoice.Same.trans) h'.invoices
  feeInvoices := h.feeInvoices.trans (fun _ _ _ => CorporateInvoice.Same.trans) h'.feeInvoices
  requests := h.requests.trans (fun _ _ _ => RefundRequest.Same.trans) h'.requests
  items := h.items.trans (fun _ _ _ => SettlementItem.Same.trans) h'.items
  batches := h.batches.trans (fun _ _ _ => SettlementBatch.Same.trans) h'.batches
  receivables := h.receivables.trans (fun _ _ _ => SettlementReceivable.Same.trans) h'.receivables
  remittances := h.remittances.trans (fun _ _ _ => Eq.trans) h'.remittances
  previews := h.previews.trans (fun _ _ _ => Eq.trans) h'.previews
  approvals := h.approvals.trans (fun _ _ _ => Eq.trans) h'.approvals
  statements := h.statements.trans (fun _ _ _ => Eq.trans) h'.statements
  internalTransfers := h.internalTransfers.trans (fun _ _ _ => Eq.trans) h'.internalTransfers
  receipts := fun r hr => h'.receipts r (h.receipts r hr)
  received := fun t i => (h.received t i).trans (h'.received t i)
  refunds := h.refunds.trans (fun _ _ _ => Eq.trans) h'.refunds
  credited := by
    intro i hi hpaid
    obtain ⟨i', hi', hsame⟩ := h.feeInvoices _ _ (find_of_mem hi)
    have hid : i'.id = i.id := key_of_find hi'
    rw [← h.credited i hi hpaid, ← hid]
    exact h'.credited i' (mem_of_find hi') (hsame.paid hpaid)
  ledger := fun e he => h'.ledger e (h.ledger e he)
  bound := by
    intro m hm i'' hi'' hbound
    obtain ⟨i', hi', hid', hbound'⟩ := h'.bound m (lt_of_lt_of_le hm h.nextId) i'' hi'' hbound
    obtain ⟨i, hi, hid, hbound⟩ := h.bound m hm i' hi' hbound'
    exact ⟨i, hi, hid.trans hid', hbound⟩

end Later

/-! ### Totals of new rows -/

theorem Decimal.ofNumber_amount (draft : ReceiptDraft) :
    (Decimal.ofNumber (ReceiptDraft.amount draft)).cents = draft.amountMinor := by
  rw [ReceiptDraft.amount, Decimal.ofNumber_fromMinor rfl]

theorem Books.receivedMinor_create {b c : Books} {draft : ReceiptDraft} {facts : InvoiceFacts}
    {id : Nat} (hcreate : b.receipts.create (receiptRow draft facts id) = some c.receipts)
    (invoiceType : InvoiceType) (invoiceId : Nat) :
    c.receivedMinor invoiceType invoiceId = b.receivedMinor invoiceType invoiceId +
      if draft.invoiceType = invoiceType ∧ facts.id = invoiceId then draft.amountMinor else 0 := by
  have hsum := sumOf_create hcreate fun r =>
    if r.invoiceType = invoiceType ∧ r.invoiceId = invoiceId then r.amount.cents else 0
  simp only [receiptRow, Decimal.ofNumber_amount] at hsum
  exact hsum

theorem Books.sumRefunds_create {b b' : Books} {r : SettlementRefund}
    (hcreate : b.refunds.create r = some b'.refunds) (invoiceType : InvoiceType) (invoiceId : Nat)
    (value : SettlementRefund → Int) :
    b'.sumRefunds invoiceType invoiceId value = b.sumRefunds invoiceType invoiceId value +
      if r.invoiceType = invoiceType ∧ r.invoiceId = invoiceId then value r else 0 :=
  sumOf_create hcreate _

theorem Books.creditedNetMinor_goods {b b' : Books} {r : SettlementRefund}
    (hcreate : b.refunds.create r = some b'.refunds) (hlane : r.invoiceType = .merchant_invoice)
    (invoiceId : Nat) : b'.creditedNetMinor invoiceId = b.creditedNetMinor invoiceId := by
  unfold Books.creditedNetMinor
  rw [Books.sumRefunds_create hcreate, if_neg (by simp [hlane]), add_zero]

/-! ### Effects -/

/-- Both closings keep what `Later` names; a closed batch is not closed again. -/
theorem Closable.later {b : Books} {batch : SettlementBatch} (h : Closable b batch)
    {postings : List RecordLedgerInput} {ledger : Ledger} (hposts : PostsAll postings b.ledger ledger)
    {n : Nat} (hn : b.nextId ≤ n) (closureType : ClosureType) (closedAt consumedAt : Time) :
    Later b (b.close batch closureType closedAt consumedAt ledger n) where
  nextId := hn
  invoices := (Later.refl b).invoices
  items := Evolves.updateMany SettlementItem.Same.refl rfl (fun _ => rfl) fun _ _ _ => ⟨rfl, rfl, rfl, rfl⟩
  batches := by
    refine Evolves.updateMany SettlementBatch.Same.refl rfl (fun _ => rfl) fun r hr hp => ?_
    simp only [decide_eq_true_eq] at hp
    obtain rfl := row_unique _ hr (mem_of_find h.stored) hp.1
    exact ⟨rfl, rfl, rfl, rfl, fun hc => absurd h.unclosed hc⟩
  receivables := by
    have hconsumed : Evolves SettlementReceivable.Same b.receivables
        (b.receivables.rewriteEach batch.recoveryAllocation RecoveryAllocation.receivableId
          (consumeRow batch.id consumedAt) (consumeRow_id _ _)) :=
      Evolves.rewriteEach SettlementReceivable.Same.refl _ fun _ _ => ⟨rfl, rfl, rfl, rfl⟩
    exact hconsumed
  feeInvoices := (Later.refl b).feeInvoices
  requests := (Later.refl b).requests
  remittances := (Later.refl b).remittances
  previews := (Later.refl b).previews
  approvals := (Later.refl b).approvals
  statements := (Later.refl b).statements
  internalTransfers := (Later.refl b).internalTransfers
  receipts := fun _ hr => hr
  received := fun _ _ => le_refl _
  refunds := (Later.refl b).refunds
  credited := fun _ _ _ => rfl
  ledger := fun _ he => hposts.keep he
  bound := fun _ _ => BoundBefore.updateMany rfl (fun _ => rfl) fun _ _ h => h

theorem receivedMinor_le {b b' : Books} {draft : ReceiptDraft} {facts : InvoiceFacts} {id : Nat}
    (hpos : 0 < draft.amountMinor)
    (hcreate : b.receipts.create (receiptRow draft facts id) = some b'.receipts)
    (invoiceType : InvoiceType) (invoiceId : Nat) :
    b.receivedMinor invoiceType invoiceId ≤ b'.receivedMinor invoiceType invoiceId := by
  rw [Books.receivedMinor_create hcreate]
  split <;> omega

theorem creditedNetMinor_feeRefund {b b' : Books} {origin : Option RefundOrigin} {draft : RefundDraft}
    {inv i : CorporateInvoice} {vatComponent : Number} {id : Nat}
    (hrefunds : FeeRefunds b origin draft inv)
    (hcreate : b.refunds.create (feeRefundRow draft inv vatComponent (feeInteraction inv) id) =
      some b'.refunds) (hi : i ∈ b.corporateInvoices.rows) (hpaid : i.status = .paid) :
    b'.creditedNetMinor i.id = b.creditedNetMinor i.id := by
  unfold Books.creditedNetMinor
  rw [Books.sumRefunds_create hcreate]
  split
  · rename_i hsame
    obtain rfl := row_unique _ hi (mem_of_find hrefunds.stored) hsame.2.symm
    simp [feeRefundRow, feeInteraction, hpaid]
  · rw [add_zero]

section Effects

variable [Runtime]

/-- **One effect keeps what `Later` names.** -/
theorem Effect.later {l : Site} {b b' : Books} (h : Effect l b b') : Later b b' := by
  cases h with
  | skip hn => exact { Later.refl b with nextId := hn }
  | posting hneutral hposts hn =>
      exact { Later.refl b with nextId := hn, ledger := fun _ => hposts.keep }
  | invoice hid hissued htaxed hcreate hn =>
      exact { Later.refl b with
        nextId := hn.le
        invoices := Evolves.create MerchantInvoice.Same.refl hcreate }
  | invoiceUpdate hrows hkeep hdated hpaid =>
      exact { Later.refl b with
        invoices := Evolves.map hrows (fun i _ => (hkeep i).1) fun i _ => (hkeep i).2 }
  | corporateInvoice hid hissued htaxed hfee hcreate hn =>
      exact { Later.refl b with
        nextId := hn.le
        feeInvoices := Evolves.create CorporateInvoice.Same.refl hcreate }
  | corporateUpdate hrows hkeep hdated hpaid =>
      exact { Later.refl b with
        feeInvoices := Evolves.map hrows (fun i _ => (hkeep i).1) fun i _ => (hkeep i).2 }
  | @goodsReceipt _ draft inv receipts l l' n hreceives hcreate hpayment hpayable hn =>
      exact { Later.refl b with
        nextId := hn.le
        receipts := fun r hr => (mem_create hcreate).mpr (Or.inl hr)
        ledger := fun _ he => hpayable.keep (hpayment.keep he)
        received := receivedMinor_le hreceives.positive hcreate }
  | @feeReceipt _ draft inv receipts l n hreceives hcreate hpayment hn =>
      exact { Later.refl b with
        nextId := hn.le
        receipts := fun r hr => (mem_create hcreate).mpr (Or.inl hr)
        ledger := fun _ he => hpayment.keep he
        received := receivedMinor_le hreceives.positive hcreate }
  | revenue hstored hpaid hfacts hposts hn =>
      exact { Later.refl b with nextId := hn, ledger := fun _ => hposts.keep }
  | item hstored hcurrency hcovered hfresh hcreate hn =>
      refine { Later.refl b with
        nextId := hn.le
        items := Evolves.create SettlementItem.Same.refl hcreate
        bound := fun m hm i' hi' hbound => ?_ }
      rcases (mem_create hcreate).mp hi' with hold | rfl
      · exact ⟨i', hold, rfl, hbound⟩
      · cases hbound
  | eligible =>
      exact { Later.refl b with
        items := Evolves.updateMany SettlementItem.Same.refl rfl (fun _ => rfl) fun _ _ _ => ⟨rfl, rfl, rfl, rfl⟩
        bound := fun _ _ => BoundBefore.updateMany rfl (fun _ => rfl) fun _ _ h => h }
  | assemble hassembles hcreate hposts hn =>
      refine { Later.refl b with
        nextId := hn.le
        items := Evolves.updateMany SettlementItem.Same.refl rfl (fun _ => rfl) fun _ _ _ => ⟨rfl, rfl, rfl, rfl⟩
        batches := Evolves.create SettlementBatch.Same.refl hcreate
        receivables := Evolves.updateMany SettlementReceivable.Same.refl rfl (fun _ => rfl)
          fun _ _ _ => ⟨rfl, rfl, rfl, rfl⟩
        ledger := fun _ => hposts.keep
        bound := fun m hm => BoundBefore.updateMany rfl (fun _ => rfl) fun i _ hbound => ?_ }
      -- the new batch carries a fresh identifier
      simp only [bindRow, Option.some.injEq] at hbound
      rw [← hbound, hassembles.fresh] at hm
      exact absurd hm (lt_irrefl _)
  | statusWrite hlegal htarget =>
      exact { Later.refl b with
        batches := Evolves.updateMany SettlementBatch.Same.refl rfl (fun _ => rfl)
          fun _ _ _ => ⟨rfl, rfl, rfl, rfl, fun _ => ⟨rfl, rfl⟩⟩ }
  | supersede hstored hcause hlegal hposts hn =>
      refine { Later.refl b with
        nextId := hn
        items := Evolves.updateMany SettlementItem.Same.refl rfl (fun _ => rfl) fun _ _ _ => ⟨rfl, rfl, rfl, rfl⟩
        batches := Evolves.updateMany SettlementBatch.Same.refl rfl (fun _ => rfl)
          fun _ _ _ => ⟨rfl, rfl, rfl, rfl, fun _ => ⟨rfl, rfl⟩⟩
        receivables := Evolves.updateMany SettlementReceivable.Same.refl rfl (fun _ => rfl)
          fun _ _ _ => ⟨rfl, rfl, rfl, rfl⟩
        ledger := fun _ => hposts.keep
        bound := fun m _ => BoundBefore.updateMany rfl (fun _ => rfl) fun i _ hbound => ?_ }
      cases hbound
  | link =>
      exact { Later.refl b with
        batches := Evolves.updateMany SettlementBatch.Same.refl rfl (fun _ => rfl)
          fun _ _ _ => ⟨rfl, rfl, rfl, rfl, fun _ => ⟨rfl, rfl⟩⟩ }
  | markSettled hclosable hgated hcreate hposts hn =>
      exact { hclosable.later hposts hn.le _ _ _ with
        remittances := Evolves.create (fun _ => rfl) hcreate }
  | markSettledZeroNet hclosable hgated hzero hposts hn => exact hclosable.later hposts hn _ _ _
  | reduce hrefunds hstate hunbound hamount hcreate hposts hn =>
      exact { Later.refl b with
        nextId := hn.le
        items := Evolves.updateMany SettlementItem.Same.refl rfl (fun _ => rfl) fun _ _ _ => ⟨rfl, rfl, rfl, rfl⟩
        refunds := Evolves.create (fun _ => rfl) hcreate
        credited := fun i _ _ => Books.creditedNetMinor_goods hcreate rfl i.id
        ledger := fun _ => hposts.keep
        bound := fun _ _ => BoundBefore.updateMany rfl (fun _ => rfl) fun _ _ h => h }
  | accrue hrefunds hstate hreversed hcreate haccrue hposts hid hn =>
      exact { Later.refl b with
        nextId := (hid.trans hn).le
        items := Evolves.updateMany SettlementItem.Same.refl rfl (fun _ => rfl) fun _ _ _ => ⟨rfl, rfl, rfl, rfl⟩
        receivables := Evolves.create SettlementReceivable.Same.refl haccrue
        refunds := Evolves.create (fun _ => rfl) hcreate
        credited := fun i _ _ => Books.creditedNetMinor_goods hcreate rfl i.id
        ledger := fun _ => hposts.keep
        bound := fun _ _ => BoundBefore.updateMany rfl (fun _ => rfl) fun _ _ h => h }
  | @feeRefund _ origin draft inv refunds ledger n hrefunds hcreate hposts hn =>
      exact { Later.refl b with
        nextId := hn.le
        refunds := Evolves.create (fun _ => rfl) hcreate
        ledger := fun _ => hposts.keep
        credited := fun i hi hpaid => creditedNetMinor_feeRefund hrefunds hcreate hi hpaid }
  | request hfiled hcreate hn =>
      exact { Later.refl b with
        nextId := hn.le
        requests := Evolves.create RefundRequest.Same.refl hcreate }
  | requestUpdate hrows hmove =>
      exact { Later.refl b with
        requests := Evolves.map hrows (fun r hr => (hmove r hr).id) fun r hr => (hmove r hr).same }
  | preview hcreate hn =>
      exact { Later.refl b with nextId := hn, previews := Evolves.create (fun _ => rfl) hcreate }
  | approve hstored hbatch hhash hproposer hcreate hn =>
      exact { Later.refl b with nextId := hn, approvals := Evolves.create (fun _ => rfl) hcreate }
  | remittancePaid hstored hstore hcurrency hposts hn =>
      exact { Later.refl b with nextId := hn, ledger := fun _ => hposts.keep }
  | statement hstored hbasis hgenerated hcreate hn =>
      exact { Later.refl b with
        nextId := hn.le
        statements := Evolves.create (fun _ => rfl) hcreate }
  | replay hid hcreate hn => exact { Later.refl b with nextId := hn.le }
  | transfer hcompleted hdue hdigits hclosed hfirst hcreate hposts hn =>
      exact { Later.refl b with
        nextId := hn.le
        internalTransfers := Evolves.create (fun _ => rfl) hcreate
        ledger := fun _ => hposts.keep }
  | failedTransfer hfailed hcreate hn =>
      exact { Later.refl b with
        nextId := hn.le
        internalTransfers := Evolves.create (fun _ => rfl) hcreate }

theorem Authorized.later {b b' : Books} {batch row : SettlementBatch} {g : Gate}
    (h : Authorized b batch g) (hlater : Later b b') (hsame : SettlementBatch.Same batch row) :
    Authorized b' row g := by
  obtain ⟨⟨p, hp, hbatch, hhash, hage⟩, votes, basis, hnodup, hvotes, hbasis, hneeded, hsenior⟩ := h
  refine
    { previewed := ⟨p, hlater.previews.keep hp, hbatch.trans hsame.id.symm, ?_, hage⟩
      approved := ⟨votes, basis, hnodup, fun v hv => ?_, ?_, hneeded, hsenior⟩ }
  · rw [hsame.calculationSnapshot]
    exact hhash
  · obtain ⟨hstored, hbatch', hhash', hrest⟩ := hvotes v hv
    rw [hsame.calculationSnapshot]
    exact ⟨hlater.approvals.keep hstored, hbatch'.trans hsame.id.symm, hhash', hrest⟩
  · rw [hsame.frozen]
    exact hbasis

end Effects

end Qift
