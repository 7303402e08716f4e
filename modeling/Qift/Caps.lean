import Qift.Lib.Proration
import Qift.Later

/-!
# Caps on invoices

What may be received, credited and refunded on an invoice of either leg.

* `Capped` — receipts and credits together stay within the total, what is refunded was received or credited
  before, and the VAT that is reversed stays within the VAT of the invoice.
* `RefundOk` — a refund is positive and its VAT is a part of it.
* **`Caps.effect`** — every effect keeps both.
-/

namespace Qift

open Relational Relational.Table Interleaving Settlement Financial Proration

structure RefundOk (b : Books) (r : SettlementRefund) : Prop where
  invoiced : b.terms r.invoiceType r.invoiceId ≠ none
  positive : 0 < r.amount.cents
  vat : 0 ≤ r.vatComponent.cents ∧ r.vatComponent.cents ≤ r.amount.cents
  goods : r.invoiceType = .merchant_invoice → r.settlementInteraction ≠ .invoice_reduced
  fee : r.invoiceType = .corporate_invoice → r.settlementInteraction = .invoice_reduced ∨
    r.settlementInteraction = .revenue_reversed

/-- The caps on one invoice. -/
structure Capped (b : Books) (invoiceType : InvoiceType) (invoiceId : Nat) (terms : InvoiceTerms) :
    Prop where
  fresh : invoiceId < b.nextId
  taxed : terms.Taxed
  received : b.receivedMinor invoiceType invoiceId + b.creditedMinor invoiceType invoiceId ≤
    terms.totalMinor
  refunded : b.refundedMinor invoiceType invoiceId ≤
    b.receivedMinor invoiceType invoiceId + b.creditedMinor invoiceType invoiceId
  vat : b.refundedVatMinor invoiceType invoiceId ≤ terms.vatMinor

/-- A fee invoice is open or paid, and its total is the fee with the VAT on it. -/
structure FeeOk (i : CorporateInvoice) : Prop where
  status : i.status = .issued ∨ i.status = .paid
  total : i.platformFeeAmount.cents + i.terms.vatMinor = i.totalAmount.cents

structure Caps (b : Books) : Prop where
  fees : ∀ i ∈ b.corporateInvoices.rows, FeeOk i
  receipts : ∀ r ∈ b.receipts.rows, b.terms r.invoiceType r.invoiceId ≠ none
  refunds : ∀ r ∈ b.refunds.rows, RefundOk b r
  invoices : ∀ invoiceType invoiceId terms, b.terms invoiceType invoiceId = some terms →
    Capped b invoiceType invoiceId terms

theorem caps_empty : Caps World.empty.db.books where
  fees := by simp [Db.books, World.empty]
  receipts := by simp [Db.books, World.empty]
  refunds := by simp [Db.books, World.empty]
  invoices := by
    intro invoiceType invoiceId terms h
    cases invoiceType <;> simp [Books.terms, Db.books, World.empty] at h

/-! ### Terms -/

theorem Later.terms {b b' : Books} (h : Later b b') {invoiceType : InvoiceType} {invoiceId : Nat}
    {terms : InvoiceTerms} (hterms : b.terms invoiceType invoiceId = some terms) :
    b'.terms invoiceType invoiceId = some terms := by
  cases invoiceType with
  | merchant_invoice =>
      obtain ⟨i, hi, rfl⟩ := Option.map_eq_some_iff.mp hterms
      obtain ⟨i', hi', hsame⟩ := h.invoices _ _ hi
      exact Option.map_eq_some_iff.mpr ⟨i', hi', hsame.terms⟩
  | corporate_invoice =>
      obtain ⟨i, hi, rfl⟩ := Option.map_eq_some_iff.mp hterms
      obtain ⟨i', hi', hsame⟩ := h.feeInvoices _ _ hi
      exact Option.map_eq_some_iff.mpr ⟨i', hi', hsame.terms⟩

theorem Later.invoiced {b b' : Books} (h : Later b b') {invoiceType : InvoiceType} {invoiceId : Nat}
    (hterms : b.terms invoiceType invoiceId ≠ none) : b'.terms invoiceType invoiceId ≠ none := by
  obtain ⟨terms, hterms⟩ := Option.ne_none_iff_exists'.mp hterms
  rw [h.terms hterms]
  nofun

theorem find_of_map {ρ κ : Type} {key : ρ → κ} [DecidableEq κ] {t t' : Table key} {g : ρ → ρ} {k : κ}
    {r' : ρ} (hrows : t'.rows = t.rows.map g) (hg : ∀ r, key (g r) = key r)
    (h : t'.find k = some r') : ∃ r, t.find k = some r ∧ r' = g r := by
  have hmem := mem_of_find h
  rw [hrows] at hmem
  obtain ⟨r, hr, rfl⟩ := List.mem_map.mp hmem
  refine ⟨r, ?_, rfl⟩
  rw [← key_of_find h, hg]
  exact find_of_mem hr

section Effects

variable [Runtime]

theorem Effect.terms {l : Site} {b b' : Books} (h : Effect l b b') {invoiceType : InvoiceType}
    {invoiceId : Nat} {terms : InvoiceTerms} (hterms : b'.terms invoiceType invoiceId = some terms) :
    b.terms invoiceType invoiceId = some terms ∨
      invoiceId = b.nextId ∧ b.nextId < b'.nextId ∧ terms.Taxed := by
  cases h with
  | invoice hid hissued htaxed hcreate hn =>
      cases invoiceType with
      | corporate_invoice => exact Or.inl hterms
      | merchant_invoice =>
          obtain ⟨i, hi, rfl⟩ := Option.map_eq_some_iff.mp hterms
          change Table.find _ invoiceId = some i at hi
          rw [find_create hcreate] at hi
          split at hi
          · obtain rfl := Option.some.inj hi
            rename_i hkey
            exact Or.inr ⟨hkey.symm.trans hid, hn, htaxed⟩
          · exact Or.inl (Option.map_eq_some_iff.mpr ⟨i, hi, rfl⟩)
  | corporateInvoice hid hissued htaxed hfee hcreate hn =>
      cases invoiceType with
      | merchant_invoice => exact Or.inl hterms
      | corporate_invoice =>
          obtain ⟨i, hi, rfl⟩ := Option.map_eq_some_iff.mp hterms
          change Table.find _ invoiceId = some i at hi
          rw [find_create hcreate] at hi
          split at hi
          · obtain rfl := Option.some.inj hi
            rename_i hkey
            exact Or.inr ⟨hkey.symm.trans hid, hn, htaxed⟩
          · exact Or.inl (Option.map_eq_some_iff.mpr ⟨i, hi, rfl⟩)
  | invoiceUpdate hrows hkeep hdated hpaid =>
      cases invoiceType with
      | corporate_invoice => exact Or.inl hterms
      | merchant_invoice =>
          obtain ⟨i, hi, rfl⟩ := Option.map_eq_some_iff.mp hterms
          obtain ⟨r, hr, rfl⟩ := find_of_map hrows (fun i => (hkeep i).1) hi
          exact Or.inl (Option.map_eq_some_iff.mpr ⟨r, hr, (hkeep r).2.terms.symm⟩)
  | corporateUpdate hrows hkeep hdated hpaid =>
      cases invoiceType with
      | merchant_invoice => exact Or.inl hterms
      | corporate_invoice =>
          obtain ⟨i, hi, rfl⟩ := Option.map_eq_some_iff.mp hterms
          obtain ⟨r, hr, rfl⟩ := find_of_map hrows (fun i => (hkeep i).1) hi
          exact Or.inl (Option.map_eq_some_iff.mpr ⟨r, hr, (hkeep r).2.terms.symm⟩)
  | _ => exact Or.inl hterms

end Effects

/-! ### Totals -/

namespace Caps

variable {b b' : Books}

theorem received_uninvoiced (h : Caps b) {invoiceType : InvoiceType} {invoiceId : Nat}
    (hnone : b.terms invoiceType invoiceId = none) : b.receivedMinor invoiceType invoiceId = 0 := by
  refine sumOf_eq_zero fun r hr => if_neg ?_
  rintro ⟨rfl, rfl⟩
  exact h.receipts r hr hnone

theorem sumRefunds_uninvoiced (h : Caps b) {invoiceType : InvoiceType} {invoiceId : Nat}
    (hnone : b.terms invoiceType invoiceId = none) (value : SettlementRefund → Int) :
    b.sumRefunds invoiceType invoiceId value = 0 := by
  refine sumOf_eq_zero fun r hr => if_neg ?_
  rintro ⟨rfl, rfl⟩
  exact (h.refunds r hr).invoiced hnone

theorem refunded_nonneg (h : Caps b) (invoiceType : InvoiceType) (invoiceId : Nat) :
    0 ≤ b.refundedMinor invoiceType invoiceId := by
  refine sumOf_nonneg fun r hr => ?_
  split
  · exact (h.refunds r hr).positive.le
  · exact le_refl _

theorem credited_goods (h : Caps b) (invoiceId : Nat) :
    b.creditedMinor .merchant_invoice invoiceId = 0 := by
  refine sumOf_eq_zero fun r hr => ?_
  split
  · rename_i hlane
    exact if_neg ((h.refunds r hr).goods hlane.1)
  · rfl

theorem refunded_fee (h : Caps b) (invoiceId : Nat) :
    b.refundedMinor .corporate_invoice invoiceId =
      b.creditedMinor .corporate_invoice invoiceId + b.reversedMinor invoiceId := by
  unfold Books.refundedMinor Books.creditedMinor Books.reversedMinor Books.sumRefunds
  rw [← sumOf_add]
  refine sumOf_congr fun r hr => ?_
  by_cases hlane : r.invoiceType = .corporate_invoice ∧ r.invoiceId = invoiceId
  · rw [if_pos hlane, if_pos hlane, if_pos hlane]
    rcases (h.refunds r hr).fee hlane.1 with hcredit | hreversed
    · simp [hcredit]
    · simp [hreversed]
  · simp [hlane]

theorem reversed_nonneg (h : Caps b) (invoiceId : Nat) : 0 ≤ b.reversedMinor invoiceId := by
  refine sumOf_nonneg fun r hr => ?_
  split
  · dsimp only
    split
    · exact (h.refunds r hr).positive.le
    · exact le_refl _
  · exact le_refl _

/-- Credits are never taken back. -/
theorem credited_le (h : Caps b') (hlater : Later b b') (invoiceType : InvoiceType) (invoiceId : Nat) :
    b.creditedMinor invoiceType invoiceId ≤ b'.creditedMinor invoiceType invoiceId := by
  refine sumOf_le_of_subset (fun r hr => hlater.refunds.keep hr) fun r hr => ?_
  have hpos := (h.refunds r hr).positive
  split
  · dsimp only
    split
    · exact hpos.le
    · exact le_refl _
  · exact le_refl _

theorem total_pos (h : Caps b) {invoiceType : InvoiceType} {invoiceId : Nat} {amount total : Int}
    (hpos : 0 < amount) (hle : b.refundedMinor invoiceType invoiceId + amount ≤ total) : 0 < total := by
  have hnonneg := h.refunded_nonneg invoiceType invoiceId
  omega

end Caps

/-! ### Effects -/

theorem RefundOk.later {b b' : Books} {r : SettlementRefund} (h : RefundOk b r) (hlater : Later b b') :
    RefundOk b' r :=
  { h with invoiced := hlater.invoiced h.invoiced }

section Effects

variable [Runtime] {b b' : Books}

theorem Caps.keep {l : Site} (h : Caps b) (heffect : Effect l b b')
    (hfees : ∀ i ∈ b'.corporateInvoices.rows, FeeOk i) (hreceipts : b'.receipts = b.receipts)
    (hrefunds : b'.refunds = b.refunds) : Caps b' where
  fees := hfees
  receipts := fun r hr => heffect.later.invoiced (h.receipts r (hreceipts ▸ hr))
  refunds := fun r hr => (h.refunds r (hrefunds ▸ hr)).later heffect.later
  invoices := by
    intro invoiceType invoiceId terms hterms
    have hreceived : b'.receivedMinor invoiceType invoiceId = b.receivedMinor invoiceType invoiceId :=
      congrArg (fun t => Table.sumOf t _) hreceipts
    have hsum (value : SettlementRefund → Int) :
        b'.sumRefunds invoiceType invoiceId value = b.sumRefunds invoiceType invoiceId value :=
      congrArg (fun t => Table.sumOf t _) hrefunds
    rcases heffect.terms hterms with hold | ⟨hid, hlt, htaxed⟩
    · obtain ⟨hfresh, htaxed, hcap, hrefunded, hvat⟩ := h.invoices _ _ _ hold
      refine ⟨lt_of_lt_of_le hfresh heffect.later.nextId, htaxed, ?_, ?_, ?_⟩
      · rw [hreceived, Books.creditedMinor, hsum]
        exact hcap
      · rw [hreceived, Books.creditedMinor, Books.refundedMinor, hsum, hsum]
        exact hrefunded
      · rw [Books.refundedVatMinor, hsum]
        exact hvat
    · -- a new invoice has neither receipts nor refunds
      have hnone : b.terms invoiceType invoiceId = none := by
        cases hold : b.terms invoiceType invoiceId with
        | none => rfl
        | some terms => exact absurd (h.invoices _ _ _ hold).fresh (by omega)
      have hzero := h.received_uninvoiced hnone
      have hnothing := h.sumRefunds_uninvoiced hnone
      have htotal : 0 ≤ terms.totalMinor := htaxed.1.trans htaxed.2
      refine ⟨hid ▸ hlt, htaxed, ?_, ?_, ?_⟩
      · rw [hreceived, Books.creditedMinor, hsum, hzero, hnothing]
        simpa using htotal
      · rw [hreceived, Books.creditedMinor, Books.refundedMinor, hsum, hsum, hzero, hnothing, hnothing]
        simp
      · rw [Books.refundedVatMinor, hsum, hnothing]
        exact htaxed.1

theorem Caps.receipt {l : Site} (h : Caps b) (heffect : Effect l b b') {draft : ReceiptDraft}
    {facts : InvoiceFacts} {id : Nat}
    (hcreate : b.receipts.create (receiptRow draft facts id) = some b'.receipts)
    (hfees : b'.corporateInvoices = b.corporateInvoices) (hrefunds : b'.refunds = b.refunds)
    (hold : ∀ invoiceType invoiceId, b'.terms invoiceType invoiceId = b.terms invoiceType invoiceId)
    {terms : InvoiceTerms} (hterms : b.terms draft.invoiceType facts.id = some terms)
    (hpos : 0 < draft.amountMinor)
    (hle : b.receivedMinor draft.invoiceType facts.id + draft.amountMinor +
      b.creditedMinor draft.invoiceType facts.id ≤ terms.totalMinor) : Caps b' where
  fees := hfees ▸ h.fees
  receipts := by
    intro r hr
    rcases (mem_create hcreate).mp hr with hr | rfl
    · exact heffect.later.invoiced (h.receipts r hr)
    · refine heffect.later.invoiced (?_ : b.terms draft.invoiceType facts.id ≠ none)
      rw [hterms]
      nofun
  refunds := fun r hr => (h.refunds r (hrefunds ▸ hr)).later heffect.later
  invoices := by
    intro invoiceType invoiceId terms' hterms'
    rw [hold] at hterms'
    have hsum (value : SettlementRefund → Int) :
        b'.sumRefunds invoiceType invoiceId value = b.sumRefunds invoiceType invoiceId value :=
      congrArg (fun t => Table.sumOf t _) hrefunds
    have hreceived := Books.receivedMinor_create hcreate invoiceType invoiceId
    obtain ⟨hfresh, htaxed, hcap, hrefunded, hvat⟩ := h.invoices _ _ _ hterms'
    refine ⟨lt_of_lt_of_le hfresh heffect.later.nextId, htaxed, ?_, ?_, ?_⟩
    · rw [hreceived, Books.creditedMinor, hsum]
      split
      · rename_i hsame
        obtain ⟨rfl, rfl⟩ := hsame
        obtain rfl := Option.some.inj (hterms.symm.trans hterms')
        change _ + b.creditedMinor _ _ ≤ _
        omega
      · rw [add_zero]
        exact hcap
    · rw [hreceived, Books.creditedMinor, Books.refundedMinor, hsum, hsum]
      change b.refundedMinor _ _ ≤ _ + b.creditedMinor _ _
      split <;> omega
    · rw [Books.refundedVatMinor, hsum]
      exact hvat

theorem Caps.refund {l : Site} (h : Caps b) (heffect : Effect l b b') {r : SettlementRefund}
    (hcreate : b.refunds.create r = some b'.refunds)
    (hfees : b'.corporateInvoices = b.corporateInvoices) (hreceipts : b'.receipts = b.receipts)
    (hold : ∀ invoiceType invoiceId, b'.terms invoiceType invoiceId = b.terms invoiceType invoiceId)
    {terms : InvoiceTerms} (hterms : b.terms r.invoiceType r.invoiceId = some terms)
    (hpos : 0 < r.amount.cents)
    (htotal : b.refundedMinor r.invoiceType r.invoiceId + r.amount.cents ≤ terms.totalMinor)
    (hvat : r.vatComponent.cents =
      b.refundVatMinor r.invoiceType r.invoiceId terms r.amount.cents)
    (hgoods : r.invoiceType = .merchant_invoice → r.settlementInteraction ≠ .invoice_reduced)
    (hfee : r.invoiceType = .corporate_invoice → r.settlementInteraction = .invoice_reduced ∨
      r.settlementInteraction = .revenue_reversed)
    (hcredit : r.settlementInteraction = .invoice_reduced →
      b.receivedMinor r.invoiceType r.invoiceId + b.creditedMinor r.invoiceType r.invoiceId +
        r.amount.cents ≤ terms.totalMinor)
    (hcash : r.settlementInteraction ≠ .invoice_reduced →
      b.refundedMinor r.invoiceType r.invoiceId + r.amount.cents ≤
        b.receivedMinor r.invoiceType r.invoiceId + b.creditedMinor r.invoiceType r.invoiceId) :
    Caps b' where
  fees := hfees ▸ h.fees
  receipts := fun x hx => heffect.later.invoiced (h.receipts x (hreceipts ▸ hx))
  refunds := by
    intro x hx
    rcases (mem_create hcreate).mp hx with hx | rfl
    · exact (h.refunds x hx).later heffect.later
    · have htaxed := (h.invoices _ _ _ hterms).taxed
      have hpositive := h.total_pos hpos htotal
      refine ⟨heffect.later.invoiced (by rw [hterms]; nofun), hpos, ?_, hgoods, hfee⟩
      rw [hvat]
      exact ⟨instalment_nonneg hpositive htaxed.1 hpos.le, instalment_le hpositive htaxed.2 hpos.le⟩
  invoices := by
    intro invoiceType invoiceId terms' hterms'
    rw [hold] at hterms'
    have hreceived : b'.receivedMinor invoiceType invoiceId = b.receivedMinor invoiceType invoiceId :=
      congrArg (fun t => Table.sumOf t _) hreceipts
    have hsum := Books.sumRefunds_create hcreate invoiceType invoiceId
    obtain ⟨hfresh, htaxed, hcap, hrefunded, hvat'⟩ := h.invoices _ _ _ hterms'
    have hcredited : b'.creditedMinor invoiceType invoiceId = _ := hsum _
    have hrefunded' : b'.refundedMinor invoiceType invoiceId = _ := hsum _
    have hreversed : b'.refundedVatMinor invoiceType invoiceId = _ := hsum _
    change _ = b.creditedMinor invoiceType invoiceId + _ at hcredited
    change _ = b.refundedMinor invoiceType invoiceId + _ at hrefunded'
    change _ = b.refundedVatMinor invoiceType invoiceId + _ at hreversed
    by_cases hsame : r.invoiceType = invoiceType ∧ r.invoiceId = invoiceId
    · obtain ⟨rfl, rfl⟩ := hsame
      obtain rfl := Option.some.inj (hterms.symm.trans hterms')
      rw [if_pos ⟨rfl, rfl⟩] at hcredited hrefunded' hreversed
      refine ⟨lt_of_lt_of_le hfresh heffect.later.nextId, htaxed, ?_, ?_, ?_⟩
      · rw [hreceived, hcredited]
        split
        · rename_i hinteraction
          have := hcredit hinteraction
          omega
        · omega
      · rw [hreceived, hcredited, hrefunded']
        split
        · omega
        · rename_i hinteraction
          have := hcash hinteraction
          omega
      · rw [hreversed, hvat]
        exact instalment_total_le hvat'
    · rw [if_neg hsame, add_zero] at hcredited hrefunded' hreversed
      refine ⟨lt_of_lt_of_le hfresh heffect.later.nextId, htaxed, ?_, ?_, ?_⟩
      · rw [hreceived, hcredited]
        exact hcap
      · rw [hreceived, hcredited, hrefunded']
        exact hrefunded
      · rw [hreversed]
        exact hvat'

omit [Runtime] in
theorem Refunds.capped {origin : Option RefundOrigin} {draft : RefundDraft} {inv : MerchantInvoice}
    {item : SettlementItem} (hrefunds : Refunds b origin draft inv item) (h : Caps b) :
    b.terms .merchant_invoice inv.id = some inv.terms ∧
      b.refundedMinor .merchant_invoice inv.id + draft.amountMinor ≤ inv.terms.totalMinor ∧
      b.refundedMinor .merchant_invoice inv.id + draft.amountMinor ≤
        b.receivedMinor .merchant_invoice inv.id + b.creditedMinor .merchant_invoice inv.id := by
  have hterms : b.terms .merchant_invoice inv.id = some inv.terms :=
    Option.map_eq_some_iff.mpr ⟨inv, hrefunds.stored, rfl⟩
  have hcap := (h.invoices _ _ _ hterms).received
  have hbounded := hrefunds.bounded
  have hcredited := h.credited_goods inv.id
  exact ⟨hterms, by omega, by omega⟩

omit [Runtime] in
theorem refundAmount_cents (draft : RefundDraft) :
    (Decimal.ofNumber (RefundDraft.amount draft)).cents = draft.amountMinor := by
  rw [RefundDraft.amount, Decimal.ofNumber_fromMinor rfl]

omit [Runtime] in
theorem ofNumber_fromMinor_cents (minor : Int) :
    (Decimal.ofNumber (fromMinor minor .SAR)).cents = minor := by
  rw [Decimal.ofNumber_fromMinor rfl]

theorem Caps.goodsRefund {l : Site} {origin : Option RefundOrigin} {draft : RefundDraft}
    {inv : MerchantInvoice} {item : SettlementItem} {interaction : SettlementInteraction} {id : Nat}
    (h : Caps b) (heffect : Effect l b b') (hrefunds : Refunds b origin draft inv item)
    (hcreate : b.refunds.create (refundRow draft inv (fromMinor (b.refundVatMinor .merchant_invoice
      inv.id inv.terms draft.amountMinor) .SAR) interaction id) = some b'.refunds)
    (hinteraction : interaction ≠ .invoice_reduced)
    (hfees : b'.corporateInvoices = b.corporateInvoices) (hreceipts : b'.receipts = b.receipts)
    (hold : ∀ invoiceType invoiceId,
      b'.terms invoiceType invoiceId = b.terms invoiceType invoiceId) : Caps b' := by
  obtain ⟨hterms, htotal, hcash⟩ := hrefunds.capped h
  refine h.refund heffect hcreate hfees hreceipts hold hterms ?_ ?_ ?_ (fun _ => hinteraction) nofun
    (fun hi => absurd hi hinteraction) fun _ => ?_
  · simpa [refundRow, refundAmount_cents] using hrefunds.positive
  · simpa [refundRow, refundAmount_cents] using htotal
  · simp [refundRow, refundAmount_cents, ofNumber_fromMinor_cents]
  · simpa [refundRow, refundAmount_cents] using hcash

/-- **Every effect keeps the caps.** -/
theorem Caps.effect {l : Site} (h : Caps b) (heffect : Effect l b b') : Caps b' := by
  cases id heffect with
  | corporateInvoice hid hissued htaxed hfee hcreate hn =>
      refine h.keep heffect (fun i hi => ?_) rfl rfl
      rcases (mem_create hcreate).mp hi with hi | rfl
      · exact h.fees i hi
      · exact ⟨Or.inl hissued.1, hfee⟩
  | corporateUpdate hrows hkeep hdated hpaid =>
      refine h.keep heffect (fun i hi => ?_) rfl rfl
      change i ∈ Table.rows _ at hi
      rw [hrows] at hi
      obtain ⟨r, hr, rfl⟩ := List.mem_map.mp hi
      obtain ⟨hold, htotal⟩ := h.fees r hr
      have hsame := (hkeep r).2
      refine ⟨?_, ?_⟩
      · rcases hdated r with ⟨hs, -⟩ | ⟨-, hs, -⟩
        · rwa [hs]
        · exact Or.inr hs
      · rwa [hsame.terms, hsame.platformFeeAmount, hsame.totalAmount]
  | @goodsReceipt _ draft inv receipts ledger ledger' n hreceives hcreate hpayment hpayable hn =>
      have hterms : b.terms .merchant_invoice inv.id = some inv.terms :=
        Option.map_eq_some_iff.mpr ⟨inv, hreceives.stored, rfl⟩
      have hbounded := hreceives.bounded
      have hcredited := h.credited_goods inv.id
      refine h.receipt heffect hcreate rfl rfl (fun _ _ => rfl) (hreceives.lane.symm ▸ hterms)
        hreceives.positive ?_
      · rw [hreceives.lane]
        change b.receivedMinor _ inv.id + _ + b.creditedMinor _ inv.id ≤ inv.totalAmount.cents
        omega
  | @feeReceipt _ draft inv receipts ledger n hreceives hcreate hpayment hn =>
      have hterms : b.terms .corporate_invoice inv.id = some inv.terms :=
        Option.map_eq_some_iff.mpr ⟨inv, hreceives.stored, rfl⟩
      have hbounded := hreceives.bounded
      refine h.receipt heffect hcreate rfl rfl (fun _ _ => rfl) (hreceives.lane.symm ▸ hterms)
        hreceives.positive ?_
      · rw [hreceives.lane]
        change b.receivedMinor _ inv.id + _ + b.creditedMinor _ inv.id ≤ inv.totalAmount.cents
        omega
  | reduce hrefunds hstate hunbound hamount hcreate hposts hn =>
      exact h.goodsRefund heffect hrefunds hcreate nofun rfl rfl fun _ _ => rfl
  | accrue hrefunds hstate hreversed hcreate haccrue hposts hid hn =>
      exact h.goodsRefund heffect hrefunds hcreate nofun rfl rfl fun _ _ => rfl
  | @feeRefund _ origin draft inv refunds ledger n hrefunds hcreate hposts hn =>
      have hterms : b.terms .corporate_invoice inv.id = some inv.terms :=
        Option.map_eq_some_iff.mpr ⟨inv, hrefunds.stored, rfl⟩
      have hsplit := h.refunded_fee inv.id
      have hreversed := h.reversed_nonneg inv.id
      have hpaid : feeInteraction inv ≠ .invoice_reduced ↔ inv.status = .paid := by
        unfold feeInteraction
        split <;> simp_all
      refine h.refund heffect hcreate rfl rfl (fun _ _ => rfl) hterms ?_ ?_ ?_ nofun (fun _ => ?_)
        (fun hi => ?_) fun hi => ?_
      · simpa [feeRefundRow, refundAmount_cents] using hrefunds.positive
      · have htotal := hrefunds.total
        simpa [feeRefundRow, refundAmount_cents, CorporateInvoice.terms] using htotal
      · simp [feeRefundRow, refundAmount_cents, ofNumber_fromMinor_cents]
      · change feeInteraction inv = _ ∨ feeInteraction inv = _
        unfold feeInteraction
        split
        · exact Or.inr rfl
        · exact Or.inl rfl
      · have hunpaid : inv.status ≠ .paid := fun hp => hpaid.mpr hp hi
        have hcredit := hrefunds.credit hunpaid
        simp only [feeRefundRow, refundAmount_cents, CorporateInvoice.terms]
        omega
      · have hcash := hrefunds.cash (hpaid.mp hi)
        simp only [feeRefundRow, refundAmount_cents]
        omega
  | _ => exact h.keep heffect h.fees rfl rfl

end Effects

end Qift
