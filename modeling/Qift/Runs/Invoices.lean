import Qift.Guarantee.Program

/-!
# Invoices over runs

What every interleaving of receipts, credits and refunds keeps of an invoice of either leg.

* `Pilot` is a small platform to evaluate runs on: one store, one campaign, invoices of one recipient.
* **`Run.withinCaps`** — the caps on what is received, credited and refunded hold in every state of every run.
-/

namespace Qift

open Relational Relational.Table Interleaving Settlement Financial

/-! ### A platform to evaluate -/

namespace Pilot

/-- The start of 2026. -/
def newYear : Time := 1767225600000

/-- A verified store and a campaign whose only claim is at rest. -/
def surroundings : Surroundings where
  now := newYear
  gatesAttested := true
  seniorApprovers := []
  stores := (Table.empty.create
    { id := 500, payoutIdentityVerifiedAt := some newYear, payoutIdentityEvidence := none }).getD .empty
  campaigns := (Table.empty.create { id := 600, referenceNumber := some "GC-600" }).getD .empty
  claims := (Table.empty.create
    { id := 700, campaignId := 600, status := .claimed, expiresAt := newYear }).getD .empty

def campaign (unitAmount : Number) : InvoicedCampaign where
  orgId := 900
  campaignId := 600
  currency := .SAR
  unitAmount := unitAmount
  recipientCount := 1

/-- Issue a goods invoice over a price that includes its VAT. -/
def issueGoods (amount : Number) : Call :=
  .issueMerchantInvoice
    { campaign := campaign amount
      storeId := 500
      vatRegistered := true
      pricesIncludeVat := true }

def issueFee (amount : Number) (invoiceNumber : String) : Call :=
  .issueCorporateInvoice
    { campaign := campaign amount
      invoiceNumber := invoiceNumber
      buyerSnapshot := none
      sellerSnapshot := none }

def receive (invoiceType : InvoiceType) (invoiceId : Nat) (amount : Number)
    (bankReference : String) : Call :=
  .recordReceipt 1
    { invoiceType := invoiceType
      invoiceId := invoiceId
      amount := amount
      bankReference := bankReference
      receivedAt := some newYear }

def refund (invoiceType : InvoiceType) (invoiceId : Nat) (amount : Number)
    (evidenceRef : String) : Call :=
  .recordRefund 1
    { invoiceType := invoiceType
      invoiceId := invoiceId
      amount := amount
      reason := "returned"
      evidenceRef := evidenceRef
      refundedAt := some newYear
      reasonCode := some "other" } [evidenceRef]

/-- A schedule that runs a call to its end. -/
def toEnd (c : Call) : List (Choice Call) := .start c :: List.replicate 40 (.run 0)

/-- A schedule that runs calls one after the other. -/
def inOrder (calls : List Call) : List (Choice Call) := calls.flatMap toEnd

/-- The trace of a schedule and where it ends. -/
def played (schedule : List (Choice Call)) :
    List (Event World Site) × Config World Site (Except Err Reply) :=
  let _ := plainRuntime
  Config.play program ⟨World.empty, []⟩ schedule

theorem run (schedule : List (Choice Call)) :
    @Run plainRuntime (played schedule).1 (played schedule).2 := by
  let _ := plainRuntime
  exact Exec.play Exec.init schedule

end Pilot

/-! ### Caps -/

/-- The part of the refunds that was paid back in cash. -/
def Books.cashRefundedMinor (b : Books) (invoiceType : InvoiceType) (invoiceId : Nat) : Int :=
  b.sumRefunds invoiceType invoiceId fun r =>
    if r.settlementInteraction = .invoice_reduced then 0 else r.amount.cents

theorem Books.refundedMinor_eq (b : Books) (invoiceType : InvoiceType) (invoiceId : Nat) :
    b.refundedMinor invoiceType invoiceId =
      b.creditedMinor invoiceType invoiceId + b.cashRefundedMinor invoiceType invoiceId := by
  unfold Books.refundedMinor Books.creditedMinor Books.cashRefundedMinor Books.sumRefunds
  rw [← sumOf_add]
  refine sumOf_congr fun r _ => ?_
  by_cases hcredit : r.settlementInteraction = .invoice_reduced
  · simp [hcredit]
  · simp [hcredit]

/-- The caps on an invoice, in minor units. -/
structure WithinCaps (b : Books) (invoiceType : InvoiceType) (invoiceId : Nat)
    (terms : InvoiceTerms) : Prop where
  receipts : b.receivedMinor invoiceType invoiceId + b.creditedMinor invoiceType invoiceId ≤
    terms.totalMinor
  cash : b.cashRefundedMinor invoiceType invoiceId ≤ b.receivedMinor invoiceType invoiceId
  refunds : b.refundedMinor invoiceType invoiceId ≤ terms.totalMinor
  vat : b.refundedVatMinor invoiceType invoiceId ≤ terms.vatMinor
  shares : ∀ r ∈ b.refunds.rows, r.invoiceType = invoiceType → r.invoiceId = invoiceId →
    0 ≤ r.vatComponent.cents ∧ r.vatComponent.cents ≤ r.amount.cents

section Runs

variable [Runtime] {tr : List (Event World Site)} {cfg : Config World Site (Except Err Reply)}

/-- **Every run keeps every invoice within its caps.** -/
theorem Run.withinCaps (h : Run tr cfg) {invoiceType : InvoiceType} {invoiceId : Nat}
    {terms : InvoiceTerms} (hterms : cfg.state.db.books.terms invoiceType invoiceId = some terms) :
    WithinCaps cfg.state.db.books invoiceType invoiceId terms := by
  have hcaps := h.reachable.caps
  obtain ⟨-, -, hreceived, hrefunded, hvat⟩ := hcaps.invoices _ _ _ hterms
  have hsplit := cfg.state.db.books.refundedMinor_eq invoiceType invoiceId
  constructor
  · exact hreceived
  · omega
  · omega
  · exact hvat
  · intro r hr _ _
    exact (hcaps.refunds r hr).vat

end Runs

/-- A goods invoice of a hundred riyals of which thirty were paid back. -/
def Pilot.thirtyBack : List (Choice Call) :=
  inOrder [.surround surroundings, issueGoods 100, receive .merchant_invoice 0 100 "B-1",
    refund .merchant_invoice 0 30 "R-1"]

theorem Run.withinCaps_thirtyBack :
    (Pilot.played Pilot.thirtyBack).2.state.db.books.refundedMinor .merchant_invoice 0 = 3000 ∧
      WithinCaps (Pilot.played Pilot.thirtyBack).2.state.db.books .merchant_invoice 0
        ⟨10000, 1304⟩ := by
  have hterms : (Pilot.played Pilot.thirtyBack).2.state.db.books.terms .merchant_invoice 0 =
      some ⟨10000, 1304⟩ := by decide +kernel
  have hrefunded : (Pilot.played Pilot.thirtyBack).2.state.db.books.refundedMinor
      .merchant_invoice 0 = 3000 := by decide +kernel
  exact ⟨hrefunded, @Run.withinCaps plainRuntime _ _ (Pilot.run _) _ _ _ hterms⟩

end Qift
