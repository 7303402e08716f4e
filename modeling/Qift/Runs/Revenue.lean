import Qift.Runs.Refunds

/-!
# The revenue of fee invoices over runs

* `Books.revenueMinor` — the revenue of a fee invoice in the ledger: what was recognised less what was reversed.
* `Harmless` — a fee refund whose rounded VAT leaves enough of the invoice for the rest of the VAT, on a paid
  invoice after its revenue was recognised.
* **`Run.fee_revenue`** — with harmless refunds only, the revenue of no invoice falls below zero and no more than
  its fee is given back.
-/

namespace Qift

open Relational Relational.Table Interleaving Settlement Financial

/-- The fee invoice whose revenue a ledger row is about. -/
def revenueInvoice (e : FinancialLedgerEntry) : Option Nat :=
  match e.idempotencyKey with
  | some ⟨.QIFT_REVENUE_RECOGNIZED, .id invoiceId⟩ => some invoiceId
  | some ⟨.QIFT_REVENUE_RECOGNIZED, .reversal invoiceId _⟩ => some invoiceId
  | _ => none

/-- The revenue of a fee invoice in the ledger: recognised less reversed. -/
def Books.revenueMinor (b : Books) (invoiceId : Nat) : Int :=
  b.ledger.sumOf fun e =>
    if revenueInvoice e = some invoiceId then
      match e.direction with
      | .credit => e.amount.cents
      | .debit => -e.amount.cents
    else 0

/-- The net given back on a paid fee invoice. -/
def Books.reversedNetMinor (b : Books) (invoiceId : Nat) : Int :=
  b.sumRefunds .corporate_invoice invoiceId fun f =>
    if f.settlementInteraction = .revenue_reversed then f.amount.cents - f.vatComponent.cents else 0

/-- The revenue of a fee invoice is in order. -/
structure RevenueOk (b : Books) (inv : CorporateInvoice) : Prop where
  /-- No more was reversed than recognised. -/
  revenue : 0 ≤ b.revenueMinor inv.id
  /-- No more than the fee was credited and reversed, VAT apart. -/
  net : b.refundedMinor .corporate_invoice inv.id - b.refundedVatMinor .corporate_invoice inv.id ≤
    inv.platformFeeAmount.cents

/-- A refund of a fee invoice that neither rounds too much of its VAT away nor precedes the revenue it reverses. -/
structure Harmless (b : Books) (inv : CorporateInvoice) (amountMinor : Int) : Prop where
  /-- Short of the total, the rounded shares leave no more of the VAT than is left of the invoice. -/
  shares : b.refundedMinor .corporate_invoice inv.id + amountMinor < inv.terms.totalMinor →
    inv.terms.vatMinor ≤ b.shareMinor .corporate_invoice inv.id inv.terms +
      Proration.roundedShare inv.terms.totalMinor inv.terms.vatMinor amountMinor +
        (inv.terms.totalMinor - b.refundedMinor .corporate_invoice inv.id - amountMinor)
  /-- The revenue of a paid invoice is recognised, unless the refund is VAT alone. -/
  recognised : inv.status = .paid → InLedger b .QIFT_REVENUE_RECOGNIZED (.id inv.id) ∨
    b.refundVatMinor .corporate_invoice inv.id inv.terms amountMinor = amountMinor

/-! ### The net of credits and refunds -/

/-- No fee invoice is given back more than its fee, and what was reversed had been recognised. -/
structure Reversals (b : Books) : Prop where
  net : ∀ inv ∈ b.corporateInvoices.rows,
    b.refundedMinor .corporate_invoice inv.id - b.refundedVatMinor .corporate_invoice inv.id ≤
      inv.platformFeeAmount.cents
  recognised : ∀ f ∈ b.refunds.rows, f.settlementInteraction = .revenue_reversed →
    InLedger b .QIFT_REVENUE_RECOGNIZED (.id f.invoiceId) ∨ f.vatComponent.cents = f.amount.cents

theorem reversals_empty : Reversals World.empty.db.books where
  net := by simp [Db.books, World.empty]
  recognised := by simp [Db.books, World.empty]

theorem corporateTerms {b : Books} {inv : CorporateInvoice} (hinv : inv ∈ b.corporateInvoices.rows) :
    b.terms .corporate_invoice inv.id = some inv.terms :=
  congrArg (Option.map CorporateInvoice.terms) (find_of_mem hinv)

section Effects

variable [Runtime] {l : Site} {b b' : Books}

omit [Runtime] in
theorem Reversals.net_refund (h : Reversals b) (hcaps : Caps b) (htracks' : VatTracks b') {f : SettlementRefund} (hf : Stores l b b' f)
    {inv : CorporateInvoice} (hinv : inv ∈ b.corporateInvoices.rows) (htype : f.invoiceType = .corporate_invoice)
    (hid : f.invoiceId = inv.id) (hharmless : Harmless b inv f.amount.cents) :
    b'.refundedMinor .corporate_invoice inv.id - b'.refundedVatMinor .corporate_invoice inv.id ≤
      inv.platformFeeAmount.cents := by
  have hterms := corporateTerms hinv
  obtain ⟨terms, hterms', hle, hvat⟩ := hf.recorded.vat
  rw [htype, hid] at hterms' hle hvat
  obtain rfl := Option.some.inj (hterms'.symm.trans hterms)
  have hfee : inv.platformFeeAmount.cents + inv.terms.vatMinor = inv.terms.totalMinor :=
    (hcaps.fees inv hinv).total
  have hnet := h.net inv hinv
  have hsums := Books.sumRefunds_create hf.created .corporate_invoice inv.id
  have htotal : b'.refundedMinor .corporate_invoice inv.id =
      b.refundedMinor .corporate_invoice inv.id + f.amount.cents := by
    simpa [Books.refundedMinor, htype, hid] using hsums fun r => r.amount.cents
  have hreversed : b'.refundedVatMinor .corporate_invoice inv.id =
      b.refundedVatMinor .corporate_invoice inv.id + f.vatComponent.cents := by
    simpa [Books.refundedVatMinor, htype, hid] using hsums fun r => r.vatComponent.cents
  by_cases hopen : b.refundedMinor .corporate_invoice inv.id + f.amount.cents < inv.terms.totalMinor
  · -- short of the total the reversed VAT are the rounded shares
    have hshares := hharmless.shares hopen
    have hterms'' : b'.terms .corporate_invoice inv.id = some inv.terms := by rw [hf.terms, hterms]
    have htracked := htracks' .corporate_invoice inv.id inv.terms hterms'' (by omega)
    have hshare : b'.shareMinor .corporate_invoice inv.id inv.terms =
        b.shareMinor .corporate_invoice inv.id inv.terms +
          Proration.roundedShare inv.terms.totalMinor inv.terms.vatMinor f.amount.cents := by
      simpa [Books.shareMinor, htype, hid] using hsums fun r =>
        Proration.roundedShare inv.terms.totalMinor inv.terms.vatMinor r.amount.cents
    omega
  · -- the completing refund takes the rest of the VAT
    have hcomplete : b.refundedMinor .corporate_invoice inv.id + f.amount.cents = inv.terms.totalMinor := by
      omega
    have hcapped := (hcaps.invoices _ _ _ hterms).vat
    rw [Books.refundVatMinor_eq] at hvat
    have hall := (Proration.instalment_completes hcomplete hcapped).mpr (by omega)
    omega

theorem Reversals.effect (h : Reversals b) (hcaps : Caps b) (htracks : VatTracks b) (heffect : Effect l b b')
    (hharmless : ∀ f inv, Stores l b b' f → f.invoiceType = .corporate_invoice →
      b.corporateInvoices.find f.invoiceId = some inv → Harmless b inv f.amount.cents) : Reversals b' where
  net := by
    intro inv' hinv'
    have hterms' := corporateTerms hinv'
    rcases heffect.terms hterms' with hold | ⟨hnew, -, -⟩
    · obtain ⟨inv, hinv, heq⟩ := Option.map_eq_some_iff.mp hold
      obtain ⟨row, hrow, hsame⟩ := heffect.later.feeInvoices _ _ hinv
      obtain rfl := Option.some.inj (hrow.symm.trans (find_of_mem hinv'))
      have hid : inv.id = row.id := key_of_find hinv
      rw [hsame.platformFeeAmount, ← hid]
      have hsums (hother : ∀ value, b'.sumRefunds .corporate_invoice inv.id value =
          b.sumRefunds .corporate_invoice inv.id value) :
          b'.refundedMinor .corporate_invoice inv.id - b'.refundedVatMinor .corporate_invoice inv.id ≤
            inv.platformFeeAmount.cents := by
        unfold Books.refundedMinor Books.refundedVatMinor
        rw [hother, hother]
        exact h.net inv (mem_of_find hinv)
      rcases heffect.refunds hcaps with hrefunds | ⟨f, hf⟩
      · refine hsums fun value => ?_
        unfold Books.sumRefunds
        rw [hrefunds]
      · by_cases hinvoice : f.invoiceType = .corporate_invoice ∧ f.invoiceId = inv.id
        · obtain ⟨htype, hon⟩ := hinvoice
          refine h.net_refund hcaps (htracks.effect hcaps heffect) hf (mem_of_find hinv) htype hon ?_
          exact hharmless f inv hf htype (hon ▸ find_of_mem (mem_of_find hinv))
        · refine hsums fun value => ?_
          rw [Books.sumRefunds_create hf.created, if_neg hinvoice, add_zero]
    · -- an invoice that is issued now is not refunded
      have hcaps' := hcaps.effect heffect
      have hnone : b.terms .corporate_invoice inv'.id = none := by
        by_contra hne
        obtain ⟨old, hold⟩ := Option.ne_none_iff_exists'.mp hne
        exact absurd hnew ((hcaps.invoices _ _ _ hold).fresh.ne)
      have hfee : inv'.platformFeeAmount.cents + inv'.terms.vatMinor = inv'.terms.totalMinor :=
        (hcaps'.fees inv' hinv').total
      have htaxed := (hcaps'.invoices _ _ _ hterms').taxed
      unfold InvoiceTerms.Taxed at htaxed
      have hrefunds : b'.refunds = b.refunds := by
        rcases heffect.refunds hcaps with hrefunds | ⟨f, hf⟩
        · exact hrefunds
        · rw [hf.terms, hnone] at hterms'
          cases hterms'
      unfold Books.refundedMinor Books.refundedVatMinor Books.sumRefunds
      rw [hrefunds]
      have hzero := hcaps.sumRefunds_uninvoiced hnone
      unfold Books.sumRefunds at hzero
      rw [hzero, hzero]
      omega
  recognised := by
    intro f' hf' hreversed
    have hkeep (hold : f' ∈ b.refunds.rows) :
        InLedger b' .QIFT_REVENUE_RECOGNIZED (.id f'.invoiceId) ∨
          f'.vatComponent.cents = f'.amount.cents :=
      (h.recognised f' hold hreversed).imp_left fun hin => hin.later heffect.later
    rcases heffect.refunds hcaps with hrefunds | ⟨f, hf⟩
    · exact hkeep (hrefunds ▸ hf')
    · rcases (mem_create hf.created).mp hf' with hold | rfl
      · exact hkeep hold
      · cases htype : f'.invoiceType with
        | merchant_invoice =>
            rcases hf.recorded.goods htype with hgoods | hgoods
            · rw [hreversed] at hgoods
              cases hgoods
            · rw [hreversed] at hgoods
              cases hgoods
        | corporate_invoice =>
            obtain ⟨inv, hinv, hinteraction⟩ := hf.recorded.fee htype
            have hid : inv.id = f'.invoiceId := key_of_find hinv
            have hpaid : inv.status = .paid := by
              by_contra hnot
              rw [hreversed, feeInteraction, if_neg hnot] at hinteraction
              cases hinteraction
            obtain ⟨terms, hterms, -, hvat⟩ := hf.recorded.vat
            have hterms' : b.terms .corporate_invoice f'.invoiceId = some inv.terms :=
              congrArg (Option.map CorporateInvoice.terms) hinv
            rw [htype] at hterms hvat
            obtain rfl := Option.some.inj (hterms.symm.trans hterms')
            rcases (hharmless f' inv hf htype hinv).recognised hpaid with hin | hall
            · rw [hid] at hin
              exact Or.inl (hin.later heffect.later)
            · rw [hid] at hall
              exact Or.inr (hvat.trans hall)

end Effects

/-! ### The revenue in the ledger -/

theorem Origin.of_revenue {b : Books} {e : FinancialLedgerEntry} (h : Origin b e)
    (hevent : e.eventType = .QIFT_REVENUE_RECOGNIZED) :
    (∃ inv ∈ b.corporateInvoices.rows, inv.status = .paid ∧ e.direction = .credit ∧
        Row .QIFT_REVENUE_RECOGNIZED (.id inv.id)
          ⟨max 0 (inv.platformFeeAmount.cents - b.creditedNetMinor inv.id)⟩ .SAR none e) ∨
      ∃ r ∈ b.refunds.rows, r.invoiceType = .corporate_invoice ∧
        r.settlementInteraction = .revenue_reversed ∧ e.direction = .debit ∧
          Row .QIFT_REVENUE_RECOGNIZED (.reversal r.invoiceId r.id)
            ⟨r.amount.cents - r.vatComponent.cents⟩ .SAR none e := by
  cases h with
  | other hother =>
      rw [hevent] at hother
      exact absurd (by decide) hother
  | @revenue inv hinv hpaid hrow hdirection => exact Or.inl ⟨inv, hinv, hpaid, hdirection, hrow⟩
  | @reversal r hr hlane hreversed hrow hdirection =>
      exact Or.inr ⟨r, hr, hlane, hreversed, hdirection, hrow⟩
  | consumer hconsumer => cases hconsumer.symm.trans hevent
  | payment _ hrow => cases hrow.eventType.symm.trans hevent
  | payable _ _ hrow => cases hrow.eventType.symm.trans hevent
  | remittance _ hrow => cases hrow.eventType.symm.trans hevent
  | refund _ _ hrow => cases hrow.eventType.symm.trans hevent
  | recovery _ _ _ hrow => cases hrow.eventType.symm.trans hevent
  | transfer _ _ hrow => cases hrow.eventType.symm.trans hevent

theorem revenueInvoice_recognised {e : FinancialLedgerEntry} {n : Nat} {amount : Decimal}
    {currency : CurrencyCode} {storeId : Option Nat}
    (hrow : Row .QIFT_REVENUE_RECOGNIZED (.id n) amount currency storeId e) : revenueInvoice e = some n := by
  unfold revenueInvoice
  rw [hrow.key]
  rfl

theorem revenueInvoice_reversal {e : FinancialLedgerEntry} {n k : Nat} {amount : Decimal}
    {currency : CurrencyCode} {storeId : Option Nat}
    (hrow : Row .QIFT_REVENUE_RECOGNIZED (.reversal n k) amount currency storeId e) :
    revenueInvoice e = some n := by
  unfold revenueInvoice
  rw [hrow.key]
  rfl

theorem Postings.revenue_event {b : Books} (h : Postings b) {e : FinancialLedgerEntry}
    (he : e ∈ b.ledger.rows) {n : Nat} (hn : revenueInvoice e = some n) :
    e.eventType = .QIFT_REVENUE_RECOGNIZED := by
  unfold revenueInvoice at hn
  split at hn
  · rename_i hkey
    exact (h.keyed e he _ hkey).symm
  · rename_i hkey
    exact (h.keyed e he _ hkey).symm
  · cases hn

def Books.revenueSide (b : Books) (invoiceId : Nat) (direction : LedgerDirection) : Int :=
  b.ledger.sumOf fun e =>
    if revenueInvoice e = some invoiceId ∧ e.direction = direction then e.amount.cents else 0

theorem Books.revenueMinor_eq (b : Books) (invoiceId : Nat) :
    b.revenueMinor invoiceId = b.revenueSide invoiceId .credit - b.revenueSide invoiceId .debit := by
  have hsplit : b.revenueMinor invoiceId + b.revenueSide invoiceId .debit = b.revenueSide invoiceId .credit := by
    unfold Books.revenueMinor Books.revenueSide
    rw [← sumOf_add]
    refine sumOf_congr fun e _ => ?_
    by_cases hn : revenueInvoice e = some invoiceId
    · cases e.direction
      · simp [hn]
      · simp [hn]
    · simp [hn]
  omega

/-- What was reversed in the ledger stands for refunds. -/
theorem Postings.reversed_le {b : Books} (h : Postings b) (hcaps : Caps b) (invoiceId : Nat) :
    b.revenueSide invoiceId .debit ≤ b.reversedNetMinor invoiceId := by
  unfold Books.revenueSide Books.reversedNetMinor Books.sumRefunds
  refine sumOf_le_charged (R := fun (e : FinancialLedgerEntry) (f : SettlementRefund) =>
    e.idempotencyKey = some (ledgerIdempotencyKey .QIFT_REVENUE_RECOGNIZED (.reversal f.invoiceId f.id)))
    (fun e he hne => ?_) (fun e he e' he' f hf hf' => ?_) fun f hf => ?_
  · have hdebit : revenueInvoice e = some invoiceId ∧ e.direction = .debit := by
      by_contra hnot
      exact hne (if_neg hnot)
    rcases (h.origin e he).of_revenue (h.revenue_event he hdebit.1) with
      ⟨_, -, -, hcredit, -⟩ | ⟨f, hf, hlane, hreversed, -, hrow⟩
    · rw [hdebit.2] at hcredit
      cases hcredit
    · have hinvoice : f.invoiceId = invoiceId :=
        Option.some.inj ((revenueInvoice_reversal hrow).symm.trans hdebit.1)
      refine ⟨f, hf, hrow.key, ?_⟩
      dsimp only
      rw [if_pos hdebit, if_pos ⟨hlane, hinvoice⟩, if_pos hreversed, hrow.amount]
  · exact h.unique e he e' he' (hf.trans hf'.symm) (by rw [hf]; nofun)
  · have hvat := (hcaps.refunds f hf).vat
    dsimp only
    split
    · split
      · omega
      · exact le_refl _
    · exact le_refl _

theorem Postings.recognised_eq {b : Books} (h : Postings b) {inv : CorporateInvoice}
    (hinv : inv ∈ b.corporateInvoices.rows) (hin : InLedger b .QIFT_REVENUE_RECOGNIZED (.id inv.id)) :
    b.revenueSide inv.id .credit = max 0 (inv.platformFeeAmount.cents - b.creditedNetMinor inv.id) := by
  -- every credit of the invoice is the row of its recognition
  have hcredit : ∀ e ∈ b.ledger.rows, revenueInvoice e = some inv.id → e.direction = .credit →
      Row .QIFT_REVENUE_RECOGNIZED (.id inv.id)
        ⟨max 0 (inv.platformFeeAmount.cents - b.creditedNetMinor inv.id)⟩ .SAR none e := by
    intro e he hn hdirection
    rcases (h.origin e he).of_revenue (h.revenue_event he hn) with
      ⟨inv', hinv', -, -, hrow⟩ | ⟨_, -, -, -, hdebit, -⟩
    · have hid : inv'.id = inv.id := Option.some.inj ((revenueInvoice_recognised hrow).symm.trans hn)
      obtain rfl := row_unique _ hinv' hinv hid
      exact hrow
    · rw [hdirection] at hdebit
      cases hdebit
  obtain ⟨e, he, hkey⟩ := hin
  have hn : revenueInvoice e = some inv.id := by
    unfold revenueInvoice
    rw [hkey]
    rfl
  have hdirection : e.direction = .credit := by
    rcases (h.origin e he).of_revenue (h.revenue_event he hn) with
      ⟨_, -, -, hcredit, -⟩ | ⟨_, -, -, -, -, hrow⟩
    · exact hcredit
    · have heq := hkey.symm.trans hrow.key
      simp [ledgerIdempotencyKey] at heq
  unfold Books.revenueSide
  rw [sumOf_eq_single he fun x hx hne => if_neg fun hboth => hne ?_, if_pos ⟨hn, hdirection⟩,
    (hcredit e he hn hdirection).amount]
  have hx' := (hcredit x hx hboth.1 hboth.2).key
  exact h.unique x hx e he (hx'.trans hkey.symm) (by rw [hx']; nofun)

theorem Caps.net_eq {b : Books} (h : Caps b) (invoiceId : Nat) :
    b.creditedNetMinor invoiceId + b.reversedNetMinor invoiceId =
      b.refundedMinor .corporate_invoice invoiceId - b.refundedVatMinor .corporate_invoice invoiceId := by
  have hsum : b.creditedNetMinor invoiceId + b.reversedNetMinor invoiceId +
      b.refundedVatMinor .corporate_invoice invoiceId = b.refundedMinor .corporate_invoice invoiceId := by
    unfold Books.creditedNetMinor Books.reversedNetMinor Books.refundedVatMinor Books.refundedMinor
      Books.sumRefunds
    rw [← sumOf_add, ← sumOf_add]
    refine sumOf_congr fun f hf => ?_
    by_cases hinvoice : f.invoiceType = .corporate_invoice ∧ f.invoiceId = invoiceId
    · rcases (h.refunds f hf).fee hinvoice.1 with hinteraction | hinteraction
      · simp [hinvoice, hinteraction]
      · simp [hinvoice, hinteraction]
    · simp [hinvoice]
  omega

theorem Reversals.revenueOk {b : Books} (h : Reversals b) (hpostings : Postings b) (hcaps : Caps b)
    {inv : CorporateInvoice} (hinv : inv ∈ b.corporateInvoices.rows) : RevenueOk b inv where
  net := h.net inv hinv
  revenue := by
    have hnet := h.net inv hinv
    have hparts := hcaps.net_eq inv.id
    have hdebit := hpostings.reversed_le hcaps inv.id
    rw [b.revenueMinor_eq]
    by_cases hin : InLedger b .QIFT_REVENUE_RECOGNIZED (.id inv.id)
    · have hcredit := hpostings.recognised_eq hinv hin
      omega
    · -- before the recognition only VAT was given back
      have hnothing : b.reversedNetMinor inv.id = 0 := by
        refine sumOf_eq_zero fun f hf => ?_
        by_cases hinvoice : f.invoiceType = .corporate_invoice ∧ f.invoiceId = inv.id
        · by_cases hreversed : f.settlementInteraction = .revenue_reversed
          · rcases h.recognised f hf hreversed with hrecognised | hall
            · exact absurd (hinvoice.2 ▸ hrecognised) hin
            · simp [hinvoice, hreversed, hall]
          · simp [hreversed]
        · simp [hinvoice]
      have hcredit : 0 ≤ b.revenueSide inv.id .credit := by
        refine sumOf_nonneg fun e he => ?_
        split
        · rename_i hboth
          rcases (hpostings.origin e he).of_revenue (hpostings.revenue_event he hboth.1) with
            ⟨_, -, -, -, hrow⟩ | ⟨_, -, -, -, hdirection, -⟩
          · rw [hrow.amount]
            exact le_max_left _ _
          · rw [hboth.2] at hdirection
            cases hdirection
        · exact le_refl _
      omega

section Runs

variable [Runtime] {tr : List (Event World Site)} {cfg : Config World Site (Except Err Reply)}

/-- **In a run of harmless refunds the revenue of every fee invoice stays in order.** -/
theorem Run.fee_revenue (h : Run tr cfg)
    (hharmless : ∀ e ∈ tr, ∀ f inv, Records e f → f.invoiceType = .corporate_invoice →
      e.pre.db.corporateInvoices.find f.invoiceId = some inv →
      Harmless e.pre.db.books inv f.amount.cents) :
    ∀ inv ∈ cfg.state.db.corporateInvoices.rows, RevenueOk cfg.state.db.books inv := by
  have hreversals : Reachable cfg.state ∧ Reversals cfg.state.db.books := by
    refine h.path.invariant (P := fun w : World => Reachable w ∧ Reversals w.db.books)
      (fun l s t hact hC hs => ?_) hharmless ⟨Rely.refl _, reversals_empty⟩
    refine ⟨hs.1.trans (Rely.single hact), hs.2.effect hs.1.caps hs.1.vatTracks hact ?_⟩
    exact fun f inv hf => hC f inv (hf.records (e := ⟨s, l, t⟩))
  exact fun inv hinv => hreversals.2.revenueOk h.reachable.postings h.reachable.caps hinv

end Runs

instance (b : Books) (eventType : FinancialEvent) (anchor : Anchor) :
    Decidable (InLedger b eventType anchor) :=
  inferInstanceAs (Decidable (∃ e ∈ b.ledger.rows, _))

instance (b : Books) (inv : CorporateInvoice) (amountMinor : Int) :
    Decidable (Harmless b inv amountMinor) :=
  decidable_of_iff (_ ∧ _) ⟨fun h => ⟨h.1, h.2⟩, fun h => ⟨h.shares, h.recognised⟩⟩

/-- A fee invoice of 5.75, paid and refunded in parts. -/
def Pilot.feeRefundedInParts (parts : List (Number × String)) : List Call :=
  [.surround surroundings, issueFee 100 "QI-1", receive .corporate_invoice 0 (575 / 100) "B-1"] ++
    parts.map fun part => refund .corporate_invoice 0 part.1 part.2

theorem Run.fee_revenue_twoParts :
    let run := Pilot.played (Pilot.inOrder
      (Pilot.feeRefundedInParts [(230 / 100, "R-1"), (345 / 100, "R-2")]))
    ∀ inv ∈ run.2.state.db.corporateInvoices.rows, RevenueOk run.2.state.db.books inv := by
  refine @Run.fee_revenue plainRuntime _ _ (Pilot.run _) fun e he f inv hf htype hinv => ?_
  have hcheck : ((Pilot.played (Pilot.inOrder
      (Pilot.feeRefundedInParts [(230 / 100, "R-1"), (345 / 100, "R-2")]))).1.all fun e =>
        (newRefunds e).all fun f => e.pre.db.corporateInvoices.rows.all fun inv =>
          decide (Harmless e.pre.db.books inv f.amount.cents)) = true := by decide +kernel
  have hrefunds := List.all_eq_true.mp (List.all_eq_true.mp hcheck e he) f (mem_newRefunds.mpr hf)
  exact of_decide_eq_true (List.all_eq_true.mp hrefunds inv (mem_of_find hinv))

/-- **A fee overdrawn**: four refunds whose VAT rounds down take 5.01 of a fee of 5.00, and as much revenue. -/
theorem Run.fee_overdrawn :
    ∃ tr cfg, @Run plainRuntime tr cfg ∧
      (cfg.state.db.corporateInvoices.rows.map fun inv => inv.platformFeeAmount.cents) = [500] ∧
      cfg.state.db.books.refundedMinor .corporate_invoice 0 -
        cfg.state.db.books.refundedVatMinor .corporate_invoice 0 = 501 ∧
      cfg.state.db.books.revenueMinor 0 = -1 :=
  ⟨_, _, Pilot.run (Pilot.inOrder (Pilot.feeRefundedInParts
    [(134 / 100, "R-1"), (134 / 100, "R-2"), (134 / 100, "R-3"), (172 / 100, "R-4")])),
    by decide +kernel⟩

end Qift
