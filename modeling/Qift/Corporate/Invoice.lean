import Qift.Lib.Serial
import Qift.System

/-!
# The fee invoice of a campaign

`invoice.service.ts`: Qift's service invoice, numbered `QC-YYYY-NNNNN`.

* `issueInvoiceTx` draws the number and stores the row in one transaction.
* `ensureInvoiceForCampaign` answers with the invoice that exists, else issues it.
* `BillingCall` are the two services that draw legal numbers, each with a roll-back at any of its actions, among
  the steps of all other services.
-/

namespace Qift

open Relational Interleaving Settlement Financial

/-- What the reads of the campaign and its organization find. -/
structure CampaignReads where
  orgId : Nat
  campaignId : Nat
  /-- `none` when the organization has no such campaign. -/
  status : Option String
  /-- The price of the approval snapshot, `none` without one. -/
  price : Option Number
  recipientCount : Nat
  buyerSnapshot : Option Json
  sellerSnapshot : Option Json

/-- The invoice that freezes what was read. -/
def CampaignReads.invoice (reads : CampaignReads) (price : Number) (invoiceNumber : String) :
    IssueCorporateInvoice where
  campaign :=
    { orgId := reads.orgId
      campaignId := reads.campaignId
      currency := .SAR
      unitAmount := price
      recipientCount := reads.recipientCount }
  invoiceNumber := invoiceNumber
  buyerSnapshot := reads.buyerSnapshot
  sellerSnapshot := reads.sellerSnapshot

/-- `findUnique` of the fee invoice of a campaign. -/
def invoiceOfCampaign (campaignId : Nat) (w : World) : Option CorporateInvoice :=
  findFirst Model.corporateInvoice (fun i => i.campaignId = campaignId) w

def issueInvoiceTx (reads : CampaignReads) (price : Number) (tax : TaxBreakdown) (now : Time) :
    Transaction CorporateInvoice := do
  let seriesYear := utcFullYear now
  let lastValue ← nextSequence ("QC-" ++ toString seriesYear)
  let invoiceNumber ← Tx.ofExcept (formatSequentialReference "QC" seriesYear lastValue)
  insert Model.corporateInvoice (corporateInvoiceRow (reads.invoice price invoiceNumber) tax)

/-- Issue the invoice; a racing caller's invoice is the answer. -/
def issueInvoice (reads : CampaignReads) (price : Number) (tax : TaxBreakdown) (now : Time) :
    Service CorporateInvoice :=
  Svc.tryCatch
    (do
      let invoice ← Svc.transaction .environment (issueInvoiceTx reads price tax now)
      recordBestEffort (receivablePostingOf invoice)
      pure invoice)
    fun e =>
      match e with
      | .p2002 target => do
          let raced ← Svc.query .read (invoiceOfCampaign reads.campaignId)
          match raced with
          | some raced => pure raced
          | none => Svc.fail (.p2002 target)
      | e => Svc.fail e

def ensureInvoiceForCampaign (reads : CampaignReads) : Service CorporateInvoice := do
  let existing ← Svc.query .read (invoiceOfCampaign reads.campaignId)
  match existing with
  | some existing => pure existing
  | none => do
      Svc.ensure reads.status.isSome (.notFound "campaign_not_found")
      Svc.ensure (reads.status = some "approved") (.badRequest "campaign_not_approved")
      match reads.price with
      | none => Svc.fail (.badRequest "campaign_no_snapshot")
      | some price => do
          Svc.ensure (0 < reads.recipientCount) (.badRequest "campaign_recipients_required")
          let tax ← Svc.ofExcept (feeTaxOf (reads.invoice price ""))
          let now ← now
          issueInvoice reads price tax now

/-! ### Legal numbers -/

/-- The stored last value of a series, zero before its first number. -/
def lastValue (seriesKey : String) (w : World) : Nat :=
  ((findUnique Model.numberSequence seriesKey w).map NumberSequence.lastValue).getD 0

/-- The numbers on the fee invoices. -/
def invoiceNumbers (w : World) : List String := w.db.corporateInvoices.rows.map CorporateInvoice.invoiceNumber

/-- The numbers on the fee credit notes. -/
def feeNoteNumbers (w : World) : List (Option String) :=
  (w.db.creditNotes.rows.filter fun n => n.noteType = "qift_service_fee").map CreditNote.qiftCreditNoteNumber

/-- No number is drawn, no fee invoice and no fee credit note is stored. -/
structure Unnumbered (w w' : World) : Prop where
  sequences : w'.db.sequences = w.db.sequences
  invoices : invoiceNumbers w' = invoiceNumbers w
  notes : feeNoteNumbers w' = feeNoteNumbers w

instance : Std.Refl Unnumbered := ⟨fun _ => ⟨rfl, rfl, rfl⟩⟩

instance : IsTrans World Unnumbered :=
  ⟨fun _ _ _ h h' =>
    ⟨h'.sequences.trans h.sequences, h'.invoices.trans h.invoices, h'.notes.trans h.notes⟩⟩

/-- A step of another service. -/
structure Elsewhere where
  move : World → World
  unnumbered : ∀ w, Unnumbered w (move w)

/-- The calls around the legal numbers. -/
inductive BillingCall
  | ensureInvoiceForCampaign (reads : CampaignReads)
  | recordFeeRefund (origin : Option RefundOrigin) (actor : Nat) (input : RecordRefundInput)
      (candidates : List String)
  /-- A call whose action number `n` is rolled back: a serialization failure, a lost connection. -/
  | rolledBack (c : BillingCall) (n : Nat) (e : Err)
  | elsewhere (step : Elsewhere)

section Program

variable [Runtime]

/-- The service that answers a call. -/
def billing : BillingCall → Service Unit
  | .ensureInvoiceForCampaign reads => do
      let _ ← ensureInvoiceForCampaign reads
      pure ()
  | .recordFeeRefund origin actor input candidates => do
      let _ ← recordFeeRefund origin actor input candidates
      pure ()
  | .rolledBack c n e => Prog.interrupt e n (billing c)
  | .elsewhere step => Svc.transaction .environment (Tx.modify step.move)

/-- The interleavings of these calls. -/
abbrev BillingRun : List (Event World Site) → Config World Site (Except Err Unit) → Prop :=
  Exec billing World.empty

end Program

end Qift
