import Qift.Guarantee

/-!
# Guarantees of the surroundings and of the reads

The calls that only read the books, move items to `eligible` or belong to the environment.
-/

namespace Qift

open Relational Relational.Table Interleaving Settlement Financial Treasury

section Services

variable [Runtime] {q : Lane} {s : World}

theorem surround_serves (x : Surroundings) : Acts q (surround x) s :=
  Serves.act rfl fun _ _ _ h => by
    rw [Tx.modify_eq_ok] at h
    subst h
    exact Step.idle rfl

omit [Runtime] in
theorem merchantInvoiceRow_taxed {input : IssueMerchantInvoice} {goodsTax : MerchantGoodsTaxBreakdown}
    (hprice : 0 ≤ input.campaign.unitAmount) (h : goodsTaxOf input = .ok goodsTax) (id : Nat) :
    (merchantInvoiceRow input goodsTax id).terms.Taxed := by
  have hgoods : 0 ≤ toMinor (mulMoney input.campaign.unitAmount input.campaign.recipientCount) .SAR := by
    rw [toMinor_mulMoney]
    exact mul_nonneg (toMinor_nonneg hprice _) (Int.natCast_nonneg _)
  have hrate : 0 ≤ rateBasisPoints SAUDI_VAT_RATE := by decide +kernel
  obtain ⟨vatMinor, totalMinor, hvat, htotal, hnonneg, hle⟩ :=
    computeMerchantGoodsTax_ok hrate hgoods h
  have hv : (Decimal.ofNumber goodsTax.vatAmount).cents = vatMinor := by
    rw [hvat, Decimal.ofNumber_fromMinor rfl]
  have ht : (Decimal.ofNumber goodsTax.totalAmount).cents = totalMinor := by
    rw [htotal, Decimal.ofNumber_fromMinor rfl]
  simp only [InvoiceTerms.Taxed, MerchantInvoice.terms, merchantInvoiceRow, hv, ht]
  exact ⟨hnonneg, hle⟩

omit [Runtime] in
theorem corporateInvoiceRow_taxed {input : IssueCorporateInvoice} {tax : TaxBreakdown}
    (h : feeTaxOf input = .ok tax) (id : Nat) :
    (corporateInvoiceRow input tax id).terms.Taxed ∧
      (corporateInvoiceRow input tax id).platformFeeAmount.cents +
        (corporateInvoiceRow input tax id).terms.vatMinor =
          (corporateInvoiceRow input tax id).totalAmount.cents := by
  obtain ⟨vatMinor, hvat, htotal, hfee, hnonneg⟩ := computeTax_ok h
  have hv : (Decimal.ofNumber tax.vatAmount).cents = vatMinor := by
    rw [hvat, Decimal.ofNumber_fromMinor rfl]
  have ht : (Decimal.ofNumber tax.totalAmount).cents =
      toMinor (feeAmountsOf input).platformFeeAmount .SAR + vatMinor := by
    rw [htotal, Decimal.ofNumber_fromMinor rfl]
  have hf : (Decimal.ofNumber (feeAmountsOf input).platformFeeAmount).cents =
      toMinor (feeAmountsOf input).platformFeeAmount .SAR := by
    simp only [feeAmountsOf, computeInvoiceAmounts, toMinor_mulMoney]
    rw [mulMoney, Decimal.ofNumber_fromMinor rfl]
  have hfee' : 0 ≤ toMinor (feeAmountsOf input).platformFeeAmount .SAR := hfee
  simp only [InvoiceTerms.Taxed, CorporateInvoice.terms, corporateInvoiceRow, Option.getD_some, hv,
    ht, hf]
  exact ⟨⟨hnonneg, by omega⟩, trivial⟩

theorem assertInvoiceable_serves (campaign : InvoicedCampaign) :
    Serves q (fun _ _ => 0 ≤ campaign.unitAmount) (assertInvoiceable campaign) s :=
  Serves.bind Serves.guard fun _ _ _ hprice => Serves.ensure fun _ _ => hprice

theorem issueMerchantInvoice_serves (input : IssueMerchantInvoice) :
    Acts q (issueMerchantInvoice input) s := by
  refine Serves.bind (assertInvoiceable_serves _) fun _ _ _ hprice => ?_
  refine Serves.bind (P := fun tax _ => goodsTaxOf input = .ok tax) (Serves.ofExcept fun _ _ h => h)
    fun goodsTax _ _ htax => ?_
  refine Serves.seq ?_ fun inv _ _ => Serves.seq (recordBestEffort_serves fun _ _ =>
    ⟨keyed_of_key rfl, Or.inl ?_⟩)
    fun _ _ _ => Serves.pure fun _ => trivial
  · refine Serves.act rfl fun w inv w' h => ?_
    obtain ⟨rfl, invoices, hcreate, -, rfl⟩ := insert_eq_ok.mp h
    exact Effect.invoice rfl ⟨rfl, rfl⟩ (merchantInvoiceRow_taxed hprice htax _) hcreate
      (Nat.lt_succ_self _)
  · simp [goodsInvoicedPosting, TRACKED_EVENTS, SAFEGUARDING_EVENTS]

theorem issueCorporateInvoice_serves (input : IssueCorporateInvoice) :
    Acts q (issueCorporateInvoice input) s := by
  refine Serves.seq (assertInvoiceable_serves _).acts fun _ _ _ => ?_
  refine Serves.bind (P := fun tax _ => feeTaxOf input = .ok tax) (Serves.ofExcept fun _ _ h => h)
    fun tax _ _ htax => ?_
  refine Serves.seq ?_ fun inv _ _ => Serves.seq (recordBestEffort_serves fun _ _ =>
    ⟨keyed_of_key rfl, Or.inl ?_⟩)
    fun _ _ _ => Serves.pure fun _ => trivial
  · refine Serves.act rfl fun w inv w' h => ?_
    obtain ⟨rfl, invoices, hcreate, -, rfl⟩ := insert_eq_ok.mp h
    obtain ⟨htaxed, hfee⟩ := corporateInvoiceRow_taxed htax w.db.nextId
    exact Effect.corporateInvoice rfl ⟨rfl, rfl⟩ htaxed hfee hcreate (Nat.lt_succ_self _)
  · simp [receivablePostingOf, TRACKED_EVENTS, SAFEGUARDING_EVENTS]

theorem attachLegalReference_serves (invoiceId : Nat) (number : Option String) :
    Acts q (attachLegalReference invoiceId number) s := by
  refine Serves.bind Serves.read fun invoice _ _ _ => ?_
  cases invoice with
  | none => exact Serves.fail
  | some invoice =>
      refine Serves.seq (Serves.ensure fun _ _ => trivial) fun _ _ _ => Serves.seq ?_
        fun _ _ _ => Serves.pure fun _ => trivial
      refine Serves.act rfl fun w n w' h => ?_
      obtain ⟨-, rfl⟩ := updateMany_eq_ok.mp h
      refine Effect.invoiceUpdate rfl (fun i => ?_) (fun i => Or.inl ?_) fun i _ hpaid => Or.inl ?_
      · split
        · exact ⟨rfl, rfl, rfl, rfl, rfl⟩
        · exact ⟨rfl, MerchantInvoice.Same.refl i⟩
      · split
        · exact ⟨rfl, rfl⟩
        · exact ⟨rfl, rfl⟩
      · split at hpaid
        · exact hpaid
        · exact hpaid

omit [Runtime] in
/-- Every leg of a consumer order is outside the safeguarding lanes. -/
theorem neutral_orderLeg {order : PaidOrder} {orderId bound : Nat} (hbound : orderId < bound)
    {input : RecordLedgerInput} (hinput : input ∈ buildOrderLedgerEntries order orderId) :
    Neutral bound input := by
  have hother {eventType : FinancialEvent} {reasonCode : String} {amount : Number}
      {direction : LedgerDirection} (h : eventType ∉ TRACKED_EVENTS) :
      Neutral bound (orderLeg order orderId eventType reasonCode amount direction) :=
    ⟨keyed_of_key rfl, Or.inl h⟩
  simp only [buildOrderLedgerEntries, List.mem_append, List.mem_singleton] at hinput
  rcases hinput with ((rfl | hfee) | hpayable) | hdelivery
  · exact hother (by decide)
  · split at hfee
    · rw [List.mem_singleton.mp hfee]
      exact hother (by decide)
    · cases hfee
  · split at hpayable
    · rw [List.mem_singleton.mp hpayable]
      exact ⟨keyed_of_key rfl, Or.inr ⟨rfl, nofun, orderId, hbound, rfl⟩⟩
    · cases hpayable
  · split at hdelivery
    · rw [List.mem_singleton.mp hdelivery]
      exact hother (by decide)
    · cases hdelivery

theorem payOrder_serves (order : PaidOrder) : Acts q (payOrder order) s := by
  refine Serves.bind (P := fun orderId t => orderId < t.db.nextId) ?_ fun orderId t _ hid => ?_
  · refine Serves.transaction rfl fun w orderId w' _ _ h => ?_
    simp only [createOrder, Except.ok.injEq, Prod.mk.injEq] at h
    obtain ⟨rfl, rfl⟩ := h
    exact ⟨Step.skip (n := w.db.nextId + 1) (Nat.le_succ _) rfl, Nat.lt_succ_self _⟩
  · refine Serves.forEach fun input hinput u htu => recordBestEffort_serves fun v huv => ?_
    have hlater := (later_of_rely (htu.trans huv)).nextId
    exact neutral_orderLeg (lt_of_lt_of_le hid hlater) hinput

theorem verifyPayoutIdentity_serves (storeId : Nat) (evidence : String) :
    Acts q (verifyPayoutIdentity storeId evidence) s := by
  refine Serves.seq (Serves.ensure fun _ _ => trivial) fun _ _ _ => ?_
  refine Serves.bind Serves.read fun store _ _ _ => ?_
  refine Serves.seq (Serves.ensure fun _ _ => trivial) fun _ _ _ => ?_
  refine Serves.seq now_serves fun verifiedAt _ _ => ?_
  refine Serves.act rfl fun _ _ _ h => ?_
  rw [Tx.modify_eq_ok] at h
  subst h
  exact Step.idle rfl

/-! ### Eligibility -/

theorem evaluateItem_serves (item : SettlementItem) (store : Store) :
    Acts q (evaluateItem item store) s := by
  refine Serves.seq ?_ fun _ _ _ => Serves.seq ?_ fun _ _ _ =>
    Serves.seq gatesAttested_serves fun _ _ _ => Serves.pure fun _ => trivial
  · unfold moneyReceived
    split
    · refine Serves.bind Serves.read fun invoice _ _ _ => ?_
      cases invoice with
      | none => exact Serves.pure fun _ => trivial
      | some invoice => exact Serves.bind Serves.read fun _ _ _ _ => Serves.pure fun _ => trivial
    · exact Serves.pure fun _ => trivial
  · unfold deliveryState
    dsimp only
    split
    · exact Serves.pure fun _ => trivial
    · exact Serves.bind Serves.read fun _ _ _ _ =>
        Serves.seq now_serves fun _ _ _ => Serves.pure fun _ => trivial

theorem evaluateOne_serves (store : Store) (item : SettlementItem) :
    Acts q (evaluateOne store item) s := by
  refine Serves.seq (evaluateItem_serves item store) fun conditions _ _ => ?_
  dsimp only
  split
  · refine Serves.seq (Serves.ofExcept fun _ _ _ => trivial) fun _ _ _ => ?_
    refine Serves.seq ?_ fun moved _ _ => ?_
    · refine Serves.act rfl fun w n w' h => ?_
      obtain ⟨-, rfl⟩ := updateMany_eq_ok.mp h
      exact Effect.eligible
    · split
      · exact Serves.pure fun _ => trivial
      · exact Serves.pure fun _ => trivial
  · exact Serves.pure fun _ => trivial

theorem evaluate_serves (storeId : Nat) : Acts q (evaluate storeId) s := by
  refine Serves.bind Serves.read fun store _ _ _ => ?_
  cases store with
  | none => exact Serves.fail
  | some store =>
      refine Serves.bind Serves.read fun items _ _ _ => ?_
      refine Serves.seq (Serves.collect fun item _ _ _ => evaluateOne_serves store item)
        fun _ _ _ => ?_
      exact Serves.seq now_serves fun _ _ _ => Serves.pure fun _ => trivial

/-! ### Reads -/

theorem planRecovery_serves (storeId : Nat) (currency : String) (items : List SettlementItemInput) :
    Acts q (planRecovery storeId currency items) s :=
  Serves.bind Serves.read fun _ _ _ _ =>
    Serves.seq (Serves.ofExcept fun _ _ _ => trivial) fun _ _ _ => Serves.pure fun _ => trivial

theorem simulate_serves (storeId : Nat) (currency : String) : Acts q (simulate storeId currency) s := by
  refine Serves.bind (P := fun _ _ => True) (Serves.query fun _ _ _ => trivial) fun items _ _ _ => ?_
  split
  · exact Serves.seq now_serves fun _ _ _ => Serves.pure fun _ => trivial
  · refine Serves.seq (planRecovery_serves _ _ _) fun _ _ _ => ?_
    refine Serves.seq (Serves.ofExcept fun _ _ _ => trivial) fun _ _ _ => ?_
    exact Serves.seq now_serves fun _ _ _ => Serves.pure fun _ => trivial

theorem gatherDues_serves : Acts q gatherDues s :=
  Serves.bind Serves.read fun _ _ _ _ => Serves.ofExcept fun _ _ _ => trivial

theorem pendingInternalTransfers_serves : Acts q pendingInternalTransfers s :=
  Serves.seq gatherDues_serves fun _ _ _ => Serves.bind Serves.read fun _ _ _ _ =>
    Serves.bind Serves.read fun _ _ _ _ => Serves.seq now_serves fun _ _ _ =>
      Serves.pure fun _ => trivial

theorem gatherMovements_serves : Acts q gatherMovements s :=
  Serves.bind Serves.read fun _ _ _ _ => Serves.bind Serves.read fun _ _ _ _ =>
    Serves.bind Serves.read fun _ _ _ _ => Serves.bind Serves.read fun _ _ _ _ =>
      Serves.bind Serves.read fun _ _ _ _ => Serves.pure fun _ => trivial

end Services

end Qift
