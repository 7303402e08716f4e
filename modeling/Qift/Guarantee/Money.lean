import Qift.Guarantee

/-!
# Guarantees of receipts and coverage

* The totals a transaction sums up over the rows it reads are those of the books.
* `receiptTx_step` — a recorded receipt is an effect; it is the only action of the label `receipt`.
* `GoodsPaid` and `FeePaid` are what the artifacts of a paid invoice rest on;
  `deriveAndApplyCoverage_serves` is the derivation of coverage.
-/

namespace Qift

open Relational Relational.Table Interleaving Settlement Financial

/-! ### Totals -/

theorem toMinor_SAR (d : Decimal) : toMinor (moneyToNumber d) .SAR = d.cents :=
  toMinor_moneyToNumber rfl d

theorem receiptTotalMinor_receiptsOf (invoiceType : InvoiceType) (invoiceId : Nat) (w : World) :
    receiptTotalMinor (receiptsOf invoiceType invoiceId w) =
      w.db.books.receivedMinor invoiceType invoiceId := by
  unfold receiptTotalMinor receiptsOf findMany
  rw [sum_map_filter]
  refine congrArg List.sum (List.map_congr_left fun r _ => ?_)
  by_cases hr : r.invoiceType = invoiceType ∧ r.invoiceId = invoiceId
  · simp [hr, toMinor_SAR]
  · simp [hr]

/-- A total over the refunds a transaction reads. -/
theorem sum_refundsOf (invoiceType : InvoiceType) (invoiceId : Nat) (w : World)
    (value : SettlementRefund → Int) :
    ((refundsOf invoiceType invoiceId w).map value).sum =
      w.db.books.sumRefunds invoiceType invoiceId value := by
  unfold refundsOf findMany
  rw [sum_map_filter]
  refine congrArg List.sum (List.map_congr_left fun r _ => ?_)
  simp

theorem refundTotalMinor_refundsOf (invoiceType : InvoiceType) (invoiceId : Nat) (w : World) :
    refundTotalMinor (refundsOf invoiceType invoiceId w) =
      w.db.books.refundedMinor invoiceType invoiceId := by
  simp only [refundTotalMinor, toMinor_SAR]
  exact sum_refundsOf _ _ _ _

theorem refundVatMinor_refundsOf (invoiceType : InvoiceType) (invoiceId : Nat) (w : World) :
    refundVatMinor (refundsOf invoiceType invoiceId w) =
      w.db.books.refundedVatMinor invoiceType invoiceId := by
  simp only [refundVatMinor, toMinor_SAR]
  exact sum_refundsOf _ _ _ _

theorem reversedMinor_refundsOf (invoiceId : Nat) (w : World) :
    refundTotalMinor ((refundsOf .corporate_invoice invoiceId w).filter
      fun r => r.settlementInteraction = .revenue_reversed) = w.db.books.reversedMinor invoiceId := by
  simp only [refundTotalMinor, toMinor_SAR, sum_map_filter, decide_eq_true_eq]
  exact sum_refundsOf _ _ _ _

theorem accruedMinor_refundsOf (invoiceId : Nat) (w : World) :
    refundTotalMinor ((refundsOf .merchant_invoice invoiceId w).filter
      fun r => r.settlementInteraction = .receivable_accrued) = w.db.books.accruedMinor invoiceId := by
  simp only [refundTotalMinor, toMinor_SAR, sum_map_filter, decide_eq_true_eq]
  exact sum_refundsOf _ _ _ _

theorem sum_feeCredits (invoiceId : Nat) (w : World) (value : SettlementRefund → Int) :
    ((feeCredits invoiceId w).map value).sum = w.db.books.sumRefunds .corporate_invoice invoiceId
      fun r => if r.settlementInteraction = .invoice_reduced then value r else 0 := by
  unfold feeCredits findMany
  rw [sum_map_filter]
  refine congrArg List.sum (List.map_congr_left fun r _ => ?_)
  by_cases hr : r.invoiceType = .corporate_invoice ∧ r.invoiceId = invoiceId
  · simp [hr]
  · simp only [decide_eq_true_eq, if_neg hr]
    exact if_neg fun h => hr ⟨h.1, h.2.1⟩

theorem feeCreditsMinor_corporate (invoiceId : Nat) (w : World) :
    feeCreditsMinor .corporate_invoice invoiceId w =
      w.db.books.creditedMinor .corporate_invoice invoiceId := by
  simp only [feeCreditsMinor, toMinor_SAR]
  exact sum_feeCredits _ _ _

theorem feeNetOf_feeCredits {facts : InvoiceFacts} {fee : Decimal}
    (hfee : facts.platformFeeAmount = some (moneyToNumber fee)) (invoiceId : Nat) (w : World) :
    feeNetOf facts (feeCredits invoiceId w) =
      fromMinor (max 0 (fee.cents - w.db.books.creditedNetMinor invoiceId)) .SAR := by
  simp only [feeNetOf, hfee, Option.getD_some, toMinor_SAR]
  rw [sum_feeCredits]
  rfl

/-! ### Facts -/

theorem invoiceFacts_merchant {invoiceId : Nat} {w : World} {facts : InvoiceFacts}
    (h : invoiceFacts .merchant_invoice invoiceId w = .ok facts) :
    ∃ inv, w.db.books.merchantInvoices.find inv.id = some inv ∧ inv.id = invoiceId ∧
      inv.currency = .SAR ∧ facts = merchantFacts inv := by
  unfold invoiceFacts at h
  dsimp only at h
  split at h
  · cases h
  · rename_i inv hinv
    split at h
    · rename_i hcurrency
      have hid : inv.id = invoiceId := key_of_find hinv
      exact ⟨inv, hid ▸ hinv, hid, hcurrency, (Except.ok.inj h).symm⟩
    · cases h

theorem invoiceFacts_corporate {invoiceId : Nat} {w : World} {facts : InvoiceFacts}
    (h : invoiceFacts .corporate_invoice invoiceId w = .ok facts) :
    ∃ inv, w.db.books.corporateInvoices.find inv.id = some inv ∧ inv.id = invoiceId ∧
      inv.currency = .SAR ∧ facts = corporateFacts inv := by
  unfold invoiceFacts at h
  dsimp only at h
  split at h
  · cases h
  · rename_i inv hinv
    split at h
    · rename_i hcurrency
      have hid : inv.id = invoiceId := key_of_find hinv
      exact ⟨inv, hid ▸ hinv, hid, hcurrency, (Except.ok.inj h).symm⟩
    · cases h

section Services

variable [Runtime] {q : Lane} {s : World}

/-! ### Receipts -/

theorem receiptEffect {draft : ReceiptDraft} (hpos : 0 < draft.amountMinor) {t u : World}
    {facts : InvoiceFacts} {receipts : Table PaymentReceipt.id} {x : Unit}
    (hfacts : invoiceFacts draft.invoiceType draft.invoiceId t = .ok facts)
    (hbalance : receiptTotalMinor (receiptsOf draft.invoiceType facts.id t) + draft.amountMinor ≤
      toMinor facts.totalAmount .SAR - feeCreditsMinor draft.invoiceType facts.id t)
    (hcreate : t.db.books.receipts.create (receiptRow draft facts t.db.nextId) = some receipts)
    (hpost : postReceipt draft facts t.db.nextId { t with db := { t.db with
      receipts := receipts, nextId := t.db.nextId + 1 } } = .ok (x, u)) : Step .receipt t u := by
  unfold postReceipt at hpost
  rw [receiptTotalMinor_receiptsOf] at hbalance
  cases hlane : draft.invoiceType with
  | merchant_invoice =>
      simp only [hlane, Tx.bind_eq_ok, Tx.pure_eq_ok] at hpost hfacts
      obtain ⟨_, w₃, hpayment, _, w₄, hpayable, -, rfl⟩ := hpost
      obtain ⟨ledger, n, rfl, hn, hposts, -⟩ := record_eq_ok hpayment
      obtain ⟨ledger', n', rfl, hn', hposts', -⟩ := record_eq_ok hpayable
      obtain ⟨inv, hstored, -, -, rfl⟩ := invoiceFacts_merchant hfacts
      have hbounded : t.db.books.receivedMinor .merchant_invoice inv.id + draft.amountMinor ≤
          inv.totalAmount.cents := by
        rw [hlane] at hbalance
        simpa [feeCreditsMinor, merchantFacts, toMinor_SAR] using hbalance
      have hreceives : Receives t.db.books draft inv := ⟨hstored, hlane, hpos, hbounded⟩
      exact Effect.goodsReceipt hreceives hcreate hposts hposts'
        (lt_of_lt_of_le (Nat.lt_succ_self _) (hn.trans hn'))
  | corporate_invoice =>
      simp only [hlane, Tx.bind_eq_ok, Tx.pure_eq_ok] at hpost hfacts
      obtain ⟨_, w₃, hpayment, -, rfl⟩ := hpost
      obtain ⟨ledger, n, rfl, hn, hposts, -⟩ := record_eq_ok hpayment
      obtain ⟨inv, hstored, -, -, rfl⟩ := invoiceFacts_corporate hfacts
      have hbounded : t.db.books.receivedMinor .corporate_invoice inv.id + draft.amountMinor ≤
          inv.totalAmount.cents - t.db.books.creditedMinor .corporate_invoice inv.id := by
        rw [hlane, feeCreditsMinor_corporate] at hbalance
        simpa [corporateFacts, toMinor_SAR] using hbalance
      have hreceives : FeeReceives t.db.books draft inv := ⟨hstored, hlane, hpos, hbounded⟩
      exact Effect.feeReceipt hreceives hcreate hposts (lt_of_lt_of_le (Nat.lt_succ_self _) hn)

theorem receiptTx_step {draft : ReceiptDraft} (hpos : 0 < draft.amountMinor) {t u : World}
    {outcome : ReceiptOutcome} (h : receiptTx draft t = .ok (outcome, u)) : Step .receipt t u := by
  simp only [receiptTx, Tx.bind_eq_ok, Tx.read_eq_ok, Tx.ofExcept_eq_ok] at h
  obtain ⟨facts, _, ⟨rfl, rfl⟩, inv, _, ⟨hfacts, rfl⟩, existing, _, ⟨-, rfl⟩, h⟩ := h
  cases existing with
  | some existing =>
      obtain ⟨-, rfl⟩ := Tx.pure_eq_ok.mp h
      exact Step.refl _ _
  | none =>
      simp only [Tx.bind_eq_ok, Tx.ensure_eq_ok, Tx.read_eq_ok, insert_eq_ok, Tx.pure_eq_ok] at h
      obtain ⟨_, _, ⟨-, rfl⟩, already, _, ⟨rfl, rfl⟩, credits, _, ⟨rfl, rfl⟩, _, _, ⟨hbalance, rfl⟩,
        created, w₁, ⟨rfl, receipts, hcreate, -, rfl⟩, _, w₂, hpost, -, rfl⟩ := h
      exact receiptEffect hpos hfacts hbalance hcreate hpost

/-! ### Coverage -/

omit [Runtime] in
/-- What the item of a paid goods invoice rests on. -/
structure GoodsPaid (b : Books) (facts : InvoiceFacts) (inv : MerchantInvoice) : Prop where
  stored : b.merchantInvoices.find inv.id = some inv
  currency : inv.currency = .SAR
  covered : b.Covered inv
  id : facts.id = inv.id
  totalAmount : facts.totalAmount = moneyToNumber inv.totalAmount
  storeId : facts.storeId = some inv.storeId

/-- What the revenue of a paid fee invoice rests on. -/
structure FeePaid (b : Books) (facts : InvoiceFacts) (inv : CorporateInvoice) : Prop where
  stored : b.corporateInvoices.find inv.id = some inv
  paid : inv.status = .paid
  id : facts.id = inv.id
  fee : facts.platformFeeAmount = some (moneyToNumber inv.platformFeeAmount)

omit [Runtime] in
theorem GoodsPaid.later {b b' : Books} {facts : InvoiceFacts} {inv : MerchantInvoice}
    (h : GoodsPaid b facts inv) (hlater : Later b b') : ∃ inv', GoodsPaid b' facts inv' := by
  obtain ⟨inv', hinv', hid, hsame⟩ := hlater.invoice h.stored
  exact ⟨inv',
    { stored := hid ▸ hinv'
      currency := hsame.currency.trans h.currency
      covered := h.covered.later hlater hid hsame
      id := h.id.trans hid.symm
      totalAmount := by rw [h.totalAmount, hsame.totalAmount]
      storeId := by rw [h.storeId, hsame.storeId] }⟩

omit [Runtime] in
theorem FeePaid.later {b b' : Books} {facts : InvoiceFacts} {inv : CorporateInvoice}
    (h : FeePaid b facts inv) (hlater : Later b b') :
    ∃ inv', FeePaid b' facts inv' ∧ inv'.id = inv.id := by
  obtain ⟨inv', hinv', hsame⟩ := hlater.feeInvoices _ _ h.stored
  have hid : inv'.id = inv.id := key_of_find hinv'
  exact ⟨inv',
    { stored := hid ▸ hinv'
      paid := hsame.paid h.paid
      id := h.id.trans hid.symm
      fee := by rw [h.fee, hsame.platformFeeAmount] }, hid⟩

theorem createItemTx_step {facts : InvoiceFacts} {inv : MerchantInvoice} {t u : World}
    {item : SettlementItem} (hpaid : GoodsPaid t.db.books facts inv)
    (h : createItemTx facts inv.storeId t = .ok (item, u)) : Step .settlementItem t u := by
  simp only [createItemTx, Tx.bind_eq_ok, txNow_eq_ok, insert_eq_ok] at h
  obtain ⟨createdAt, _, ⟨-, rfl⟩, rfl, items, hcreate, hclash, rfl⟩ := h
  have hrow : itemRow facts inv.storeId createdAt t.db.nextId =
      itemRow (merchantFacts inv) inv.storeId createdAt t.db.nextId := by
    simp [itemRow, merchantFacts, hpaid.id, hpaid.totalAmount]
  have hfresh : ¬ t.db.books.HasItem inv.id := by
    rintro ⟨i, hi, htype, hoccurrence⟩
    have := hclash i hi
    simp [itemRow, htype, hoccurrence, hpaid.id] at this
  rw [hrow] at hcreate
  exact Effect.item hpaid.stored hpaid.currency hpaid.covered hfresh hcreate (Nat.lt_succ_self _)

theorem goodsArtifacts_serves {facts : InvoiceFacts} {inv : MerchantInvoice}
    (hpaid : GoodsPaid s.db.books facts inv) :
    Acts q (ensureCoverageArtifacts .merchant_invoice facts) s := by
  unfold ensureCoverageArtifacts
  simp only [hpaid.storeId]
  refine Serves.tryCatch (Serves.seq ?_ fun _ _ _ => Serves.pure fun _ => trivial) fun e _ _ => ?_
  · refine Serves.transaction rfl fun t item u _ hst h => ⟨?_, trivial⟩
    obtain ⟨inv', hpaid'⟩ := hpaid.later (later_of_rely hst)
    obtain hstore : inv.storeId = inv'.storeId :=
      Option.some.inj (hpaid.storeId.symm.trans hpaid'.storeId)
    rw [hstore] at h
    exact createItemTx_step hpaid' h
  · split
    · exact Serves.pure fun _ => trivial
    · exact Serves.fail

theorem feeArtifacts_serves {facts : InvoiceFacts} {inv : CorporateInvoice}
    (hpaid : FeePaid s.db.books facts inv) :
    Acts q (ensureCoverageArtifacts .corporate_invoice facts) s := by
  refine Serves.bind Serves.read fun credits t hst hread => ?_
  obtain ⟨inv₁, hpaid₁, -⟩ := hpaid.later (later_of_rely hst)
  have hnet := feeNetOf_feeCredits hpaid₁.fee facts.id t
  rw [← hread, hpaid₁.id] at hnet
  dsimp only
  split
  · refine Serves.seq ?_ fun _ _ _ => Serves.pure fun _ => trivial
    refine Serves.transaction rfl fun u r v _ htu h => ⟨?_, trivial⟩
    have hlater := later_of_rely htu
    obtain ⟨inv₂, hpaid₂, hid⟩ := hpaid₁.later hlater
    have hcredited := hlater.credited inv₁ (mem_of_find hpaid₁.stored) hpaid₁.paid
    have hfee : inv₂.platformFeeAmount = inv₁.platformFeeAmount := moneyToNumber_injective
      (Option.some.inj (hpaid₂.fee.symm.trans hpaid₁.fee))
    rw [hnet, ← hcredited, ← hid, ← hfee] at h
    obtain ⟨ledger, n, rfl, hn, hposts, -⟩ := record_eq_ok h
    exact Effect.revenue hpaid₂.stored hpaid₂.paid hpaid₂.id hposts hn
  · exact Serves.pure fun _ => trivial

theorem writeBalanceStatus_serves (invoiceId : Nat) (guard : CorporateInvoice → Bool)
    (balanceStatus : BalanceStatus) : Acts q (writeBalanceStatus invoiceId guard balanceStatus) s := by
  refine Serves.act rfl fun w n w' h => ?_
  obtain ⟨-, rfl⟩ := updateMany_eq_ok.mp h
  refine Effect.corporateUpdate rfl (fun i => ?_) (fun i => Or.inl ?_) fun i _ hpaid => Or.inl ?_
  · split
    · exact ⟨rfl, rfl, rfl, rfl, rfl, fun hp => hp⟩
    · exact ⟨rfl, CorporateInvoice.Same.refl i⟩
  · split
    · exact ⟨rfl, rfl⟩
    · exact ⟨rfl, rfl⟩
  · split at hpaid
    · exact hpaid
    · exact hpaid

theorem flipPaid_goods {facts : InvoiceFacts} {inv : MerchantInvoice} {paidAt : Time} {t u : World}
    {n : Nat} (hpaid : GoodsPaid t.db.books facts inv)
    (h : flipPaid .merchant_invoice facts.id paidAt t = .ok (n, u)) : Step .coverage t u := by
  obtain ⟨-, rfl⟩ := updateMany_eq_ok.mp h
  refine Effect.invoiceUpdate rfl (fun i => ?_) (fun i => ?_) fun i hi hflipped => ?_
  · split
    · exact ⟨rfl, rfl, rfl, rfl, rfl⟩
    · exact ⟨rfl, MerchantInvoice.Same.refl i⟩
  · split
    · rename_i hguard
      exact Or.inr ⟨(of_decide_eq_true hguard).2, rfl, nofun⟩
    · exact Or.inl ⟨rfl, rfl⟩
  · split at hflipped
    · rename_i hguard
      simp only [decide_eq_true_eq] at hguard
      obtain rfl := row_unique _ hi (mem_of_find hpaid.stored) (hguard.1.trans hpaid.id)
      exact Or.inr hpaid.covered
    · exact Or.inl hflipped

theorem flipPaid_fee {facts : InvoiceFacts} {inv : CorporateInvoice} {paidAt : Time} {t u : World}
    {n : Nat} (hcaps : Caps t.db.books) (hstored : t.db.books.corporateInvoices.find inv.id = some inv)
    (hid : facts.id = inv.id)
    (hfee : facts.platformFeeAmount = some (moneyToNumber inv.platformFeeAmount))
    (hcovered : t.db.books.FeeCovered inv)
    (h : flipPaid .corporate_invoice facts.id paidAt t = .ok (n, u)) :
    Step .coverage t u ∧ ∃ inv', FeePaid u.db.books facts inv' := by
  obtain ⟨-, rfl⟩ := updateMany_eq_ok.mp h
  refine ⟨Effect.corporateUpdate rfl (fun i => ?_) (fun i => ?_) fun i hi hflipped => ?_, ?_⟩
  · split
    · exact ⟨rfl, rfl, rfl, rfl, rfl, fun _ => rfl⟩
    · exact ⟨rfl, CorporateInvoice.Same.refl i⟩
  · split
    · rename_i hguard
      exact Or.inr ⟨(of_decide_eq_true hguard).2, rfl, nofun⟩
    · exact Or.inl ⟨rfl, rfl⟩
  · split at hflipped
    · rename_i hguard
      simp only [decide_eq_true_eq] at hguard
      obtain rfl := row_unique _ hi (mem_of_find hstored) (hguard.1.trans hid)
      exact Or.inr hcovered
    · exact Or.inl hflipped
  · have hfind := @find_updateMany _ _ CorporateInvoice.id
      (fun i => decide (i.id = facts.id ∧ i.status = .issued))
      (fun i => { i with
        status := .paid, paidAt := some paidAt, balanceStatus := .closed_by_payment })
      (fun _ => rfl) _ t.db.corporateInvoices inv.id
    have hstored' : t.db.corporateInvoices.find inv.id = some inv := hstored
    rw [hstored', Option.map_some] at hfind
    rcases (hcaps.fees inv (mem_of_find hstored)).status with hissued | hpaid
    · rw [if_pos (by simp [hid, hissued])] at hfind
      exact ⟨{ inv with
        status := .paid, paidAt := some paidAt, balanceStatus := .closed_by_payment },
        hfind, rfl, hid, hfee⟩
    · rw [if_neg (by simp [hpaid])] at hfind
      exact ⟨inv, hfind, hpaid, hid, hfee⟩

/-! ### Deriving coverage -/

theorem loadInvoice_serves (invoiceType : InvoiceType) (invoiceId : Nat) :
    Serves q (fun facts t => invoiceFacts invoiceType invoiceId t = .ok facts)
      (loadInvoice invoiceType invoiceId) s := by
  refine Serves.bind Serves.read fun facts t _ hread => ?_
  exact Serves.ofExcept fun _ a ha => hread ▸ ha

theorem healPaid_serves {invoiceType : InvoiceType} {facts : InvoiceFacts} (result : Coverage)
    (hartifacts : Acts q (ensureCoverageArtifacts invoiceType facts) s) :
    Acts q (healPaid invoiceType facts result) s := by
  refine Serves.seq hartifacts fun _ _ _ => Serves.seq (audit_serves _) fun _ _ _ => ?_
  cases invoiceType with
  | merchant_invoice => exact Serves.pure fun _ => trivial
  | corporate_invoice =>
      exact Serves.seq (writeBalanceStatus_serves _ _ _) fun _ _ _ => Serves.pure fun _ => trivial

theorem applyPaid_serves {invoiceType : InvoiceType} {facts : InvoiceFacts}
    (receipts : List PaymentReceipt) (result : Coverage)
    (hflip : ∀ paidAt t n u, Reachable t → Rely Step s t →
      flipPaid invoiceType facts.id paidAt t = .ok (n, u) →
        Step .coverage t u ∧ ∀ v, Rely Step u v → Acts q (ensureCoverageArtifacts invoiceType facts) v) :
    Acts q (applyPaid invoiceType facts receipts result) s := by
  unfold applyPaid
  split
  · exact Serves.pure fun _ => trivial
  · rename_i last _
    refine Serves.bind (P := fun _ u => ∀ v, Rely Step u v →
      Acts q (ensureCoverageArtifacts invoiceType facts) v) ?_ fun n u _ hu => ?_
    · exact Serves.transaction rfl fun t n u hreach hst h => hflip _ t n u hreach hst h
    · dsimp only
      split
      · exact Serves.seq (audit_serves _) fun _ v huv =>
          Serves.seq (hu v huv) fun _ _ _ => Serves.pure fun _ => trivial
      · exact Serves.seq (hu u (Rely.refl u)) fun _ _ _ => Serves.pure fun _ => trivial

/-- The last part of a derivation: heal, answer or flip. -/
theorem coverageTail_serves {invoiceType : InvoiceType} {facts : InvoiceFacts}
    {receipts : List PaymentReceipt} {result : Coverage}
    (hheal : facts.status = .paid → Acts q (ensureCoverageArtifacts invoiceType facts) s)
    (hflip : result.covered = true → ∀ paidAt t n u, Reachable t → Rely Step s t →
      flipPaid invoiceType facts.id paidAt t = .ok (n, u) →
        Step .coverage t u ∧ ∀ v, Rely Step u v → Acts q (ensureCoverageArtifacts invoiceType facts) v) :
    Acts q (if result.covered = false ∨ facts.status = .paid then
        if facts.status = .paid then healPaid invoiceType facts result else pure result
      else applyPaid invoiceType facts receipts result) s := by
  split
  · split
    · rename_i hpaid
      exact healPaid_serves _ (hheal hpaid)
    · exact Serves.pure fun _ => trivial
  · rename_i hnot
    simp only [not_or, Bool.not_eq_false] at hnot
    exact applyPaid_serves _ _ (hflip hnot.1)

omit [Runtime] in
theorem receiptTotalMinor_orderBy (receipts : List PaymentReceipt) :
    receiptTotalMinor (orderBy PaymentReceipt.receivedAt PaymentReceipt.id receipts) =
      receiptTotalMinor receipts :=
  ((orderBy_perm _ _ receipts).map _).sum_eq

omit [Runtime] in
theorem covered_of_receipts {inv : MerchantInvoice} {facts : InvoiceFacts} {w : World}
    (hid : facts.id = inv.id) (htotal : facts.totalAmount = moneyToNumber inv.totalAmount)
    (h : (deriveCoverage .merchant_invoice facts (orderBy PaymentReceipt.receivedAt
      PaymentReceipt.id (receiptsOf .merchant_invoice facts.id w)) 0).covered = true) :
    w.db.books.Covered inv := by
  simp only [deriveCoverage, decide_eq_true_eq, receiptTotalMinor_orderBy,
    receiptTotalMinor_receiptsOf, htotal, toMinor_SAR, sub_zero, hid] at h
  obtain ⟨hne, hle⟩ := h
  refine ⟨?_, hle⟩
  obtain ⟨r, hr⟩ := List.exists_mem_of_ne_nil _ hne
  rw [mem_orderBy] at hr
  simp only [receiptsOf, findMany, List.mem_filter, decide_eq_true_eq] at hr
  exact ⟨r, hr.1, hr.2⟩

omit [Runtime] in
theorem feeCovered_of_receipts {inv : CorporateInvoice} {facts : InvoiceFacts} {w w' t : World}
    (hid : facts.id = inv.id) (htotal : facts.totalAmount = moneyToNumber inv.totalAmount)
    (hcaps : Caps t.db.books) (hlater : Later w.db.books t.db.books)
    (hlater' : Later w'.db.books t.db.books)
    (h : (deriveCoverage .corporate_invoice facts (orderBy PaymentReceipt.receivedAt
      PaymentReceipt.id (receiptsOf .corporate_invoice facts.id w))
      (feeCreditsMinor .corporate_invoice facts.id w')).covered = true) :
    t.db.books.FeeCovered inv := by
  simp only [deriveCoverage, decide_eq_true_eq, receiptTotalMinor_orderBy,
    receiptTotalMinor_receiptsOf, htotal, toMinor_SAR, feeCreditsMinor_corporate, hid] at h
  obtain ⟨hne, hle⟩ := h
  have hreceived := hlater.received .corporate_invoice inv.id
  have hcredited := hcaps.credited_le hlater' .corporate_invoice inv.id
  refine ⟨?_, by omega⟩
  obtain ⟨r, hr⟩ := List.exists_mem_of_ne_nil _ hne
  rw [mem_orderBy] at hr
  simp only [receiptsOf, findMany, List.mem_filter, decide_eq_true_eq] at hr
  exact ⟨r, hlater.receipts r hr.1, hr.2⟩

theorem goodsCoverage_serves (invoiceId : Nat) :
    Acts q (deriveAndApplyCoverage .merchant_invoice invoiceId) s := by
  refine Serves.bind ((loadInvoice_serves _ _).mono (Q := fun facts t =>
    (∃ inv, t.db.books.merchantInvoices.find inv.id = some inv ∧ inv.currency = .SAR ∧
      facts = merchantFacts inv ∧ inv.id = invoiceId) ∧ Collections t.db.books)
    fun facts t hreach _ hfacts => ?_) ?_
  · obtain ⟨inv, hstored, hid, hcurrency, rfl⟩ := invoiceFacts_merchant hfacts
    exact ⟨⟨inv, hstored, hcurrency, rfl, hid⟩, hreach.collections⟩
  rintro facts s₁ - ⟨⟨inv, hstored, hcurrency, rfl, rfl⟩, hcollections⟩
  refine Serves.bind Serves.read fun receipts s₂ h₁₂ hreceipts => ?_
  refine Serves.bind Serves.read
    fun credits s₃ h₂₃ hcredits => ?_
  obtain rfl : credits = 0 := hcredits
  have htail : ∀ t, Rely Step s₃ t → Acts q
      (if (deriveCoverage .merchant_invoice (merchantFacts inv) receipts 0).covered = false ∨
          (merchantFacts inv).status = .paid then
        if (merchantFacts inv).status = .paid then
          healPaid .merchant_invoice (merchantFacts inv)
            (deriveCoverage .merchant_invoice (merchantFacts inv) receipts 0)
        else pure (deriveCoverage .merchant_invoice (merchantFacts inv) receipts 0)
      else applyPaid .merchant_invoice (merchantFacts inv) receipts
        (deriveCoverage .merchant_invoice (merchantFacts inv) receipts 0)) t := by
    refine fun s₄ h₃₄ => coverageTail_serves (fun hpaid => ?_) fun hflag paidAt t n u _ h₄t h => ?_
    · -- an invoice that was paid is covered
      have hcovered := hcollections.paid inv (mem_of_find hstored) hpaid
      have hgoods : GoodsPaid s₁.db.books (merchantFacts inv) inv :=
        ⟨hstored, hcurrency, hcovered, rfl, rfl, rfl⟩
      obtain ⟨inv', hgoods'⟩ := hgoods.later (later_of_rely ((h₁₂.trans h₂₃).trans h₃₄))
      exact goodsArtifacts_serves hgoods'
    · obtain ⟨inv₂, hstored₂, hid, hsame⟩ := (later_of_rely h₁₂).invoice hstored
      have htotal : (merchantFacts inv).totalAmount = moneyToNumber inv₂.totalAmount := by
        rw [hsame.totalAmount]
        rfl
      have hgoods : GoodsPaid s₂.db.books (merchantFacts inv) inv₂ :=
        { stored := hid ▸ hstored₂
          currency := hsame.currency.trans hcurrency
          covered := covered_of_receipts hid.symm htotal (hreceipts ▸ hflag)
          id := hid.symm
          totalAmount := htotal
          storeId := by
            rw [hsame.storeId]
            rfl }
      obtain ⟨inv₃, hgoods₃⟩ := hgoods.later (later_of_rely ((h₂₃.trans h₃₄).trans h₄t))
      have hstep := flipPaid_goods hgoods₃ h
      refine ⟨hstep, fun v huv => ?_⟩
      obtain ⟨inv₄, hgoods₄⟩ := hgoods₃.later (hstep.later.trans (later_of_rely huv))
      exact goodsArtifacts_serves hgoods₄
  dsimp only
  split
  · rename_i hcorporate
    cases hcorporate.1
  · split
    · rename_i hcorporate
      cases hcorporate.1
    · exact htail s₃ (Rely.refl s₃)

theorem feeCoverage_serves (invoiceId : Nat) :
    Acts q (deriveAndApplyCoverage .corporate_invoice invoiceId) s := by
  refine Serves.bind ((loadInvoice_serves _ _).mono (Q := fun facts t =>
    ∃ inv, t.db.books.corporateInvoices.find inv.id = some inv ∧ facts = corporateFacts inv ∧
      inv.id = invoiceId) fun facts t _ _ hfacts => ?_) ?_
  · obtain ⟨inv, hstored, hid, -, rfl⟩ := invoiceFacts_corporate hfacts
    exact ⟨inv, hstored, rfl, hid⟩
  rintro facts s₁ - ⟨inv, hstored, rfl, rfl⟩
  refine Serves.bind Serves.read fun receipts s₂ h₁₂ hreceipts => ?_
  refine Serves.bind Serves.read fun credits s₃ h₂₃ hcredits => ?_
  have htail (result : Coverage)
      (hresult : result = deriveCoverage .corporate_invoice (corporateFacts inv) receipts credits) :
      ∀ t, Rely Step s₃ t → Acts q
      (if result.covered = false ∨ (corporateFacts inv).status = .paid then
        if (corporateFacts inv).status = .paid then
          healPaid .corporate_invoice (corporateFacts inv) result
        else pure result
      else applyPaid .corporate_invoice (corporateFacts inv) receipts result) t := by
    refine fun s₄ h₃₄ => ?_
    have h₁₄ := (h₁₂.trans h₂₃).trans h₃₄
    refine coverageTail_serves (fun hpaid => ?_) fun hflag paidAt t n u hreach h₄t h => ?_
    · have hfee : FeePaid s₁.db.books (corporateFacts inv) inv := ⟨hstored, hpaid, rfl, rfl⟩
      obtain ⟨inv', hfee', -⟩ := hfee.later (later_of_rely h₁₄)
      exact feeArtifacts_serves hfee'
    · obtain ⟨inv₂, hstored₂, hsame⟩ :=
        (later_of_rely (h₁₄.trans h₄t)).feeInvoices _ _ hstored
      have hid : inv₂.id = inv.id := key_of_find hstored₂
      have hfee : (corporateFacts inv).platformFeeAmount =
          some (moneyToNumber inv₂.platformFeeAmount) := by
        rw [hsame.platformFeeAmount]
        rfl
      have htotal : (corporateFacts inv).totalAmount = moneyToNumber inv₂.totalAmount := by
        rw [hsame.totalAmount]
        rfl
      rw [hresult, hreceipts, hcredits] at hflag
      have hcovered : t.db.books.FeeCovered inv₂ :=
        feeCovered_of_receipts hid.symm htotal hreach.caps
          (later_of_rely ((h₂₃.trans h₃₄).trans h₄t)) (later_of_rely (h₃₄.trans h₄t)) hflag
      obtain ⟨hstep, inv₃, hfee₃⟩ :=
        flipPaid_fee hreach.caps (hid ▸ hstored₂) hid.symm hfee hcovered h
      refine ⟨hstep, fun v huv => ?_⟩
      obtain ⟨inv₄, hfee₄, -⟩ := hfee₃.later (later_of_rely huv)
      exact feeArtifacts_serves hfee₄
  dsimp only
  split
  · refine Serves.seq (writeBalanceStatus_serves _ _ _) fun _ _ _ => ?_
    split
    · exact Serves.seq (audit_serves _) fun _ _ _ => Serves.pure fun _ => trivial
    · exact Serves.pure fun _ => trivial
  · split
    · exact Serves.seq (writeBalanceStatus_serves _ _ _) fun _ t h₃t => htail _ rfl t h₃t
    · exact htail _ rfl s₃ (Rely.refl s₃)

theorem deriveAndApplyCoverage_serves (invoiceType : InvoiceType) (invoiceId : Nat) :
    Acts q (deriveAndApplyCoverage invoiceType invoiceId) s := by
  cases invoiceType with
  | merchant_invoice => exact goodsCoverage_serves invoiceId
  | corporate_invoice => exact feeCoverage_serves invoiceId

/-! ### Recording a receipt -/

omit [Runtime] in
theorem receiptDraft_positive {actor : Nat} {input : RecordReceiptInput} {draft : ReceiptDraft}
    (h : receiptDraft actor input = .ok draft) : 0 < draft.amountMinor := by
  unfold receiptDraft at h
  split at h
  · cases h
  · split at h
    · cases h
    · split at h
      · cases h
      · split at h
        · cases h
        · rename_i hpos
          obtain rfl := Except.ok.inj h
          exact not_le.mp hpos

theorem receiptCollision_serves (draft : ReceiptDraft) (e : Err) :
    Acts q (receiptCollision draft e) s := by
  refine Serves.bind Serves.read fun existing _ _ _ => ?_
  cases existing with
  | none => exact Serves.fail
  | some existing =>
      refine Serves.seq (Serves.ensure fun _ _ => trivial) fun _ _ _ => ?_
      refine Serves.seq (loadInvoice_serves _ _).acts fun _ _ _ => ?_
      exact Serves.seq (audit_serves _) fun _ _ _ => Serves.pure fun _ => trivial

theorem recordReceipt_serves (actor : Nat) (input : RecordReceiptInput) :
    Acts .receiving (recordReceipt actor input) s := by
  refine Serves.seq assertGatesOpen_serves fun _ _ _ => ?_
  refine Serves.bind (P := fun draft _ => 0 < draft.amountMinor)
    (Serves.ofExcept fun _ _ h => receiptDraft_positive h) fun draft _ _ hpos => ?_
  refine Serves.seq (Serves.tryCatch (Serves.seq ?_ fun outcome _ _ => ?_) fun e _ _ => ?_)
    fun outcome _ _ => ?_
  · exact Serves.act rfl fun t outcome u h => receiptTx_step hpos h
  · dsimp only
    split
    · exact Serves.seq (Serves.ensure fun _ _ => trivial) fun _ _ _ => Serves.pure fun _ => trivial
    · exact Serves.pure fun _ => trivial
  · split
    · exact Serves.seq (receiptCollision_serves _ _) fun _ _ _ => Serves.pure fun _ => trivial
    · exact Serves.fail
  · split
    · exact Serves.seq (deriveAndApplyCoverage_serves _ _) fun _ _ _ => Serves.pure fun _ => trivial
    · refine Serves.seq (audit_serves _) fun _ _ _ => ?_
      exact Serves.seq (deriveAndApplyCoverage_serves _ _) fun _ _ _ => Serves.pure fun _ => trivial

end Services

end Qift
