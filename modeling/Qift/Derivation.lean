import Qift.Lib.Frame
import Qift.Settlement.Receipts

/-!
# What a derivation of coverage may write

A derivation moves the state along any preorder that its own writes keep: the item of a covered goods invoice, the
revenue of a covered fee invoice, the statuses of the invoice and two audit lines.
-/

namespace Qift

open Relational Interleaving Settlement Financial

/-- The writes of a derivation keep a relation. -/
structure DerivationFrame (R : World → World → Prop) : Prop where
  item : ∀ invoice storeId, Tx.Keeps R (createItemTx invoice storeId)
  revenue : ∀ invoice feeNet, Tx.Keeps R (record (revenuePosting invoice feeNet))
  flip : ∀ invoiceType invoiceId paidAt, Tx.Keeps R (flipPaid invoiceType invoiceId paidAt)
  balance : ∀ invoiceId guard balanceStatus, Svc.Keeps R (writeBalanceStatus invoiceId guard balanceStatus)
  paid : ∀ invoiceType invoiceId, Svc.Keeps R (audit (paidAuditKey invoiceType invoiceId))
  closed : ∀ invoiceId, Svc.Keeps R (audit ⟨"finance.invoice.closed_by_credit", invoiceId⟩)

@[grind ←] theorem keeps_loadInvoice {R : World → World → Prop} [Std.Refl R] (invoiceType : InvoiceType)
    (invoiceId : Nat) : Svc.Keeps R (loadInvoice invoiceType invoiceId) :=
  Svc.Keeps.bind (Svc.Keeps.query _ _) fun _ => Svc.Keeps.ofExcept _

namespace DerivationFrame

variable {R : World → World → Prop} [Std.Refl R] (h : DerivationFrame R)

include h

theorem artifacts (invoiceType : InvoiceType) (invoice : InvoiceFacts) :
    Svc.Keeps R (ensureCoverageArtifacts invoiceType invoice) := by
  unfold ensureCoverageArtifacts
  cases invoiceType with
  | corporate_invoice =>
      refine Svc.Keeps.bind (Svc.Keeps.query _ _) fun credits => ?_
      dsimp only
      split
      · exact Svc.Keeps.bind (Svc.Keeps.transaction (h.revenue _ _)) fun _ => Svc.Keeps.pure _
      · exact Svc.Keeps.pure _
  | merchant_invoice =>
      dsimp only
      split
      · exact Svc.Keeps.pure _
      · refine Svc.Keeps.tryCatch ?_ fun e => ?_
        · exact Svc.Keeps.bind (Svc.Keeps.transaction (h.item _ _)) fun _ => Svc.Keeps.pure _
        · cases e <;> grind

theorem healPaid (invoiceType : InvoiceType) (invoice : InvoiceFacts) (result : Coverage) :
    Svc.Keeps R (healPaid invoiceType invoice result) := by
  refine Svc.Keeps.bind (h.artifacts _ _) fun _ => Svc.Keeps.bind (h.paid _ _) fun _ => ?_
  cases invoiceType with
  | merchant_invoice => exact Svc.Keeps.pure _
  | corporate_invoice => exact Svc.Keeps.bind (h.balance _ _ _) fun _ => Svc.Keeps.pure _

theorem applyPaid (invoiceType : InvoiceType) (invoice : InvoiceFacts) (receipts : List PaymentReceipt)
    (result : Coverage) : Svc.Keeps R (applyPaid invoiceType invoice receipts result) := by
  unfold Settlement.applyPaid
  split
  · exact Svc.Keeps.pure _
  · refine Svc.Keeps.bind (Svc.Keeps.transaction (h.flip _ _ _)) fun flipped => ?_
    have hrest : Svc.Keeps R (do
        ensureCoverageArtifacts invoiceType invoice
        pure { result with status := .paid } : Service Coverage) :=
      Svc.Keeps.bind (h.artifacts _ _) fun _ => Svc.Keeps.pure _
    dsimp only
    split
    · exact Svc.Keeps.bind (h.paid _ _) fun _ => hrest
    · exact hrest

/-- **A derivation keeps what its writes keep.** -/
theorem derive (invoiceType : InvoiceType) (invoiceId : Nat) :
    Svc.Keeps R (deriveAndApplyCoverage invoiceType invoiceId) := by
  refine Svc.Keeps.bind (keeps_loadInvoice _ _) fun invoice => Svc.Keeps.bind (Svc.Keeps.query _ _) fun receipts => ?_
  refine Svc.Keeps.bind (Svc.Keeps.query _ _) fun credits => ?_
  have htail (result : Coverage) : Svc.Keeps R
      (if result.covered = false ∨ invoice.status = .paid then
        if invoice.status = .paid then Settlement.healPaid invoiceType invoice result else pure result
      else Settlement.applyPaid invoiceType invoice receipts result) := by
    split
    · split
      · exact h.healPaid _ _ _
      · exact Svc.Keeps.pure _
    · exact h.applyPaid _ _ _ _
  dsimp only
  split
  · refine Svc.Keeps.bind (h.balance _ _ _) fun closed => ?_
    split
    · exact Svc.Keeps.bind (h.closed _) fun _ => Svc.Keeps.pure _
    · exact Svc.Keeps.pure _
  · split
    · exact Svc.Keeps.bind (h.balance _ _ _) fun _ => htail _
    · exact htail _

end DerivationFrame

end Qift
