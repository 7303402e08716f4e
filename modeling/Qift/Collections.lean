import Qift.Later

/-!
# Collections

What is collected on goods invoices, and the items it gives rise to.

* `Received` — a goods receipt is on a stored invoice that is not overpaid.
* `Backed` — a settlement item stands for a covered invoice of its merchant.
* **`Collections.effect`** — every effect keeps both, only covered invoices are paid, and only invoices with
  an item are refunded.
-/

namespace Qift

open Relational Relational.Table Interleaving Settlement Financial

/-- A goods receipt is on a stored invoice that is not overpaid. -/
def Received (b : Books) (r : PaymentReceipt) : Prop :=
  r.invoiceType = .merchant_invoice → ∃ inv, b.merchantInvoices.find r.invoiceId = some inv ∧
    r.storeId = some inv.storeId ∧ r.currency = .SAR ∧
    b.receivedMinor .merchant_invoice inv.id ≤ inv.totalAmount.cents

/-- An item stands for a covered invoice of its merchant. -/
def Backed (b : Books) (i : SettlementItem) : Prop :=
  i.occurrenceType = "merchant_invoice" ∧ ∃ inv, b.merchantInvoices.find i.occurrenceId = some inv ∧
    b.Covered inv ∧ i.storeId = inv.storeId ∧ i.currency = .SAR

structure Collections (b : Books) : Prop where
  invoiceIds : ∀ i ∈ b.merchantInvoices.rows, i.id < b.nextId
  receiptIds : ∀ r ∈ b.receipts.rows, r.id < b.nextId
  refundIds : ∀ r ∈ b.refunds.rows, r.id < b.nextId
  paid : ∀ i ∈ b.merchantInvoices.rows, i.status = .paid → b.Covered i
  receipts : ∀ r ∈ b.receipts.rows, Received b r
  items : ∀ i ∈ b.items.rows, Backed b i
  refunds : ∀ r ∈ b.refunds.rows, r.invoiceType = .merchant_invoice → b.HasItem r.invoiceId

theorem collections_empty : Collections World.empty.db.books where
  invoiceIds := by simp [Db.books, World.empty]
  receiptIds := by simp [Db.books, World.empty]
  refundIds := by simp [Db.books, World.empty]
  paid := by simp [Db.books, World.empty]
  receipts := by simp [Db.books, World.empty]
  items := by simp [Db.books, World.empty]
  refunds := by simp [Db.books, World.empty]

section Later

variable {b b' : Books} (h : Later b b')

include h

theorem Books.Covered.later {i i' : MerchantInvoice} (hi : b.Covered i) (hid : i'.id = i.id)
    (hsame : MerchantInvoice.Same i i') : b'.Covered i' := by
  obtain ⟨⟨r, hr, hlane, hinvoice⟩, htotal⟩ := hi
  refine ⟨⟨r, h.receipts r hr, hlane, hinvoice.trans hid.symm⟩, ?_⟩
  rw [hid, hsame.totalAmount]
  exact htotal.trans (h.received .merchant_invoice i.id)

theorem Books.HasItem.later {n : Nat} (hn : b.HasItem n) : b'.HasItem n := by
  obtain ⟨i, hi, htype, hid⟩ := hn
  obtain ⟨i', hi', hsame⟩ := h.items _ _ (find_of_mem hi)
  exact ⟨i', mem_of_find hi', hsame.occurrenceType.trans htype, hsame.occurrenceId.trans hid⟩

/-- An invoice stays, up to its status. -/
theorem Later.invoice {n : Nat} {i : MerchantInvoice} (hi : b.merchantInvoices.find n = some i) :
    ∃ i', b'.merchantInvoices.find n = some i' ∧ i'.id = i.id ∧ MerchantInvoice.Same i i' := by
  obtain ⟨i', hi', hsame⟩ := h.invoices _ _ hi
  exact ⟨i', hi', (key_of_find hi').trans (key_of_find hi).symm, hsame⟩

theorem Backed.later {i i' : SettlementItem} (hi : Backed b i) (hsame : SettlementItem.Same i i') :
    Backed b' i' := by
  obtain ⟨htype, inv, hinv, hcovered, hstore, hcurrency⟩ := hi
  obtain ⟨inv', hinv', hid, hinvsame⟩ := h.invoice hinv
  refine ⟨hsame.occurrenceType.trans htype, inv', hsame.occurrenceId ▸ hinv',
    hcovered.later h hid hinvsame, ?_, hsame.currency.trans hcurrency⟩
  rw [hsame.storeId, hstore, hinvsame.storeId]

theorem Received.later {r : PaymentReceipt} (hr : Received b r)
    (hreceived : r.invoiceType = .merchant_invoice →
      b'.receivedMinor .merchant_invoice r.invoiceId =
        b.receivedMinor .merchant_invoice r.invoiceId) : Received b' r := by
  intro hlane
  obtain ⟨inv, hinv, hstore, hcurrency, hle⟩ := hr hlane
  obtain ⟨inv', hinv', hid, hsame⟩ := h.invoice hinv
  refine ⟨inv', hinv', ?_, hcurrency, ?_⟩
  · rw [hstore, hsame.storeId]
  · have hkey : inv.id = r.invoiceId := key_of_find hinv
    rw [hid, hsame.totalAmount, hkey, hreceived hlane, ← hkey]
    exact hle

end Later

/-- An effect that stores no receipt. -/
theorem Collections.keep {b b' : Books} (h : Collections b) (hlater : Later b b')
    (hreceipts : b'.receipts = b.receipts)
    (hinvoices : ∀ i' ∈ b'.merchantInvoices.rows,
      (∃ i ∈ b.merchantInvoices.rows, i'.id = i.id ∧ MerchantInvoice.Same i i' ∧
        (i'.status = .paid → i.status = .paid ∨ b.Covered i)) ∨
      i'.id < b'.nextId ∧ i'.status = .issued)
    (hitems : ∀ i' ∈ b'.items.rows,
      (∃ i ∈ b.items.rows, SettlementItem.Same i i') ∨ Backed b' i')
    (hrefunds : ∀ r ∈ b'.refunds.rows, r ∈ b.refunds.rows ∨
      r.id < b'.nextId ∧ (r.invoiceType = .merchant_invoice → b'.HasItem r.invoiceId)) :
    Collections b' where
  invoiceIds := by
    intro i' hi'
    rcases hinvoices i' hi' with ⟨i, hi, hid, -⟩ | ⟨hlt, -⟩
    · exact hid ▸ lt_of_lt_of_le (h.invoiceIds i hi) hlater.nextId
    · exact hlt
  receiptIds := fun r hr => lt_of_lt_of_le (h.receiptIds r (hreceipts ▸ hr)) hlater.nextId
  refundIds := by
    intro r hr
    rcases hrefunds r hr with hold | ⟨hlt, -⟩
    · exact lt_of_lt_of_le (h.refundIds r hold) hlater.nextId
    · exact hlt
  paid := by
    intro i' hi' hpaid
    rcases hinvoices i' hi' with ⟨i, hi, hid, hsame, hstatus⟩ | ⟨-, hissued⟩
    · rcases hstatus hpaid with hpaid | hcovered
      · exact (h.paid i hi hpaid).later hlater hid hsame
      · exact hcovered.later hlater hid hsame
    · rw [hissued] at hpaid
      cases hpaid
  receipts := by
    intro r hr
    rw [hreceipts] at hr
    refine (h.receipts r hr).later hlater fun _ => ?_
    unfold Books.receivedMinor
    rw [hreceipts]
  items := by
    intro i' hi'
    rcases hitems i' hi' with ⟨i, hi, hsame⟩ | hbacked
    · exact (h.items i hi).later hlater hsame
    · exact hbacked
  refunds := by
    intro r hr hlane
    rcases hrefunds r hr with hold | ⟨-, hitem⟩
    · exact (h.refunds r hold hlane).later hlater
    · exact hitem hlane

theorem Collections.keepItems {b b' : Books} (h : Collections b) (hlater : Later b b')
    (hinvoices : b'.merchantInvoices = b.merchantInvoices) (hreceipts : b'.receipts = b.receipts)
    (hrefunds : b'.refunds = b.refunds)
    (hitems : ∀ i' ∈ b'.items.rows,
      (∃ i ∈ b.items.rows, SettlementItem.Same i i') ∨ Backed b' i') : Collections b' :=
  h.keep hlater hreceipts
    (fun i hi => Or.inl ⟨i, hinvoices ▸ hi, rfl, MerchantInvoice.Same.refl i, fun hp => Or.inl hp⟩)
    hitems fun _ hr => Or.inl (hrefunds ▸ hr)

/-- An update of items that keeps their identifying columns. -/
theorem sameItems {items items' : Table SettlementItem.id} {i' : SettlementItem}
    (hi' : i' ∈ items'.rows) {p : SettlementItem → Bool} {f : SettlementItem → SettlementItem}
    (hrows : items'.rows = items.rows.map fun i => if p i then f i else i)
    (hsame : ∀ i, SettlementItem.Same i (f i)) : ∃ i ∈ items.rows, SettlementItem.Same i i' := by
  rw [hrows] at hi'
  obtain ⟨i, hi, rfl⟩ := List.mem_map.mp hi'
  refine ⟨i, hi, ?_⟩
  split
  · exact hsame i
  · exact SettlementItem.Same.refl i

section Effects

variable [Runtime]

/-- **Every effect keeps the collections.** -/
theorem Collections.effect {l : Site} {b b' : Books} (h : Collections b) (heffect : Effect l b b') :
    Collections b' := by
  have hlater := heffect.later
  have hold : ∀ i ∈ b.items.rows, ∃ i₀ ∈ b.items.rows, SettlementItem.Same i₀ i :=
    fun i hi => ⟨i, hi, SettlementItem.Same.refl i⟩
  cases heffect with
  | invoice hid hissued htaxed hcreate hn =>
      refine h.keep hlater rfl (fun i hi => ?_) (fun i hi => Or.inl (hold i hi)) fun r hr => Or.inl hr
      rcases (mem_create hcreate).mp hi with hi | rfl
      · exact Or.inl ⟨i, hi, rfl, MerchantInvoice.Same.refl i, fun hp => Or.inl hp⟩
      · exact Or.inr ⟨hid ▸ hn, hissued.1⟩
  | invoiceUpdate hrows hkeep hdated hpaid =>
      refine h.keep hlater rfl (fun i hi => ?_) (fun i hi => Or.inl (hold i hi)) fun r hr => Or.inl hr
      change i ∈ Table.rows _ at hi
      rw [hrows] at hi
      obtain ⟨i₀, hi₀, rfl⟩ := List.mem_map.mp hi
      exact Or.inl ⟨i₀, hi₀, (hkeep i₀).1, (hkeep i₀).2, hpaid i₀ hi₀⟩
  | @goodsReceipt _ draft inv receipts l l' n hreceives hcreate hpayment hpayable hn =>
      refine
        { invoiceIds := fun i hi => (h.invoiceIds i hi).trans hn
          receiptIds := fun r hr => ?_
          refundIds := fun r hr => (h.refundIds r hr).trans hn
          paid := fun i hi hp => (h.paid i hi hp).later hlater rfl (MerchantInvoice.Same.refl i)
          receipts := fun r hr => ?_
          items := fun i hi => (h.items i hi).later hlater (SettlementItem.Same.refl i)
          refunds := fun r hr hlane => (h.refunds r hr hlane).later hlater }
      · rcases (mem_create hcreate).mp hr with hr | rfl
        · exact (h.receiptIds r hr).trans hn
        · exact hn
      · have hreceived (invoiceId : Nat) := Books.receivedMinor_create
          (c := { b with receipts := receipts }) hcreate .merchant_invoice invoiceId
        have hinvoice : Books.receivedMinor { b with receipts := receipts } .merchant_invoice
            inv.id ≤
            inv.totalAmount.cents := by
          rw [hreceived, if_pos ⟨hreceives.lane, rfl⟩]
          exact hreceives.bounded
        rcases (mem_create hcreate).mp hr with hr | rfl
        · by_cases hsame : r.invoiceId = inv.id
          · -- the receipts of the invoice that is paid
            intro hlane
            obtain ⟨inv', hinv', hstore, hcurrency, -⟩ := h.receipts r hr hlane
            have hinv : b.merchantInvoices.find r.invoiceId = some inv :=
              hsame ▸ hreceives.stored
            obtain rfl := Option.some.inj (hinv.symm.trans hinv')
            exact ⟨inv, hinv, hstore, hcurrency, hinvoice⟩
          · refine (h.receipts r hr).later hlater fun _ => ?_
            change Books.receivedMinor { b with receipts := receipts } .merchant_invoice r.invoiceId = _
            rw [hreceived, if_neg fun hc => hsame hc.2.symm, add_zero]
        · exact fun _ => ⟨inv, hreceives.stored, rfl, rfl, hinvoice⟩
  | @feeReceipt _ draft inv receipts l n hreceives hcreate hpayment hn =>
      refine
        { invoiceIds := fun i hi => (h.invoiceIds i hi).trans hn
          receiptIds := fun r hr => ?_
          refundIds := fun r hr => (h.refundIds r hr).trans hn
          paid := fun i hi hp => (h.paid i hi hp).later hlater rfl (MerchantInvoice.Same.refl i)
          receipts := fun r hr => ?_
          items := fun i hi => (h.items i hi).later hlater (SettlementItem.Same.refl i)
          refunds := fun r hr hl => (h.refunds r hr hl).later hlater }
      · rcases (mem_create hcreate).mp hr with hr | rfl
        · exact (h.receiptIds r hr).trans hn
        · exact hn
      · rcases (mem_create hcreate).mp hr with hr | rfl
        · refine (h.receipts r hr).later hlater fun _ => ?_
          change Books.receivedMinor { b with receipts := receipts } .merchant_invoice r.invoiceId = _
          rw [@Books.receivedMinor_create _ { b with receipts := receipts } _ _ _ hcreate,
            if_neg (by simp [hreceives.lane]), add_zero]
        · intro hgoods
          have hlane' : draft.invoiceType = .merchant_invoice := hgoods
          rw [hreceives.lane] at hlane'
          cases hlane'
  | @item _ inv createdAt items n hstored hcurrency hcovered hfresh hcreate hn =>
      refine h.keepItems hlater rfl rfl rfl fun i hi => ?_
      rcases (mem_create hcreate).mp hi with hi | rfl
      · exact Or.inl (hold i hi)
      · exact Or.inr ⟨rfl, inv, hstored, hcovered.later hlater rfl (MerchantInvoice.Same.refl inv),
          rfl, rfl⟩
  | eligible =>
      exact h.keepItems hlater rfl rfl rfl fun i hi =>
        Or.inl (sameItems hi rfl fun _ => ⟨rfl, rfl, rfl, rfl⟩)
  | assemble hassembles hcreate hposts hn =>
      exact h.keepItems hlater rfl rfl rfl fun i hi =>
        Or.inl (sameItems hi rfl fun _ => ⟨rfl, rfl, rfl, rfl⟩)
  | supersede hstored hcause hlegal hposts hn =>
      exact h.keepItems hlater rfl rfl rfl fun i hi =>
        Or.inl (sameItems hi rfl fun _ => ⟨rfl, rfl, rfl, rfl⟩)
  | markSettled hclosable hgated hcreate hposts hn =>
      exact h.keepItems hlater rfl rfl rfl fun i hi =>
        Or.inl (sameItems hi rfl fun _ => ⟨rfl, rfl, rfl, rfl⟩)
  | markSettledZeroNet hclosable hgated hzero hposts hn =>
      exact h.keepItems hlater rfl rfl rfl fun i hi =>
        Or.inl (sameItems hi rfl fun _ => ⟨rfl, rfl, rfl, rfl⟩)
  | @reduce _ origin draft inv item refunds ledger n hrefunds hstate hunbound hamount hcreate hposts hn =>
      refine h.keep hlater rfl
        (fun i hi => Or.inl ⟨i, hi, rfl, MerchantInvoice.Same.refl i, fun hp => Or.inl hp⟩)
        (fun i hi => Or.inl (sameItems hi rfl fun _ => ⟨rfl, rfl, rfl, rfl⟩)) fun r hr => ?_
      rcases (mem_create hcreate).mp hr with hr | rfl
      · exact Or.inl hr
      · have hitem : b.HasItem inv.id := ⟨item, mem_of_find hrefunds.itemStored, hrefunds.occurrence⟩
        exact Or.inr ⟨hn, fun _ => hitem.later hlater⟩
  | @accrue _ origin draft inv item refunds receivables accruedAt reversed ledger id n hrefunds hstate
      hreversed hcreate haccrue hposts hid hn =>
      refine h.keep hlater rfl
        (fun i hi => Or.inl ⟨i, hi, rfl, MerchantInvoice.Same.refl i, fun hp => Or.inl hp⟩)
        (fun i hi => Or.inl (sameItems hi rfl fun _ => ⟨rfl, rfl, rfl, rfl⟩)) fun r hr => ?_
      rcases (mem_create hcreate).mp hr with hr | rfl
      · exact Or.inl hr
      · have hitem : b.HasItem inv.id := ⟨item, mem_of_find hrefunds.itemStored, hrefunds.occurrence⟩
        exact Or.inr ⟨hid.trans hn, fun _ => hitem.later hlater⟩
  | feeRefund hrefunds hcreate hposts hn =>
      refine h.keep hlater rfl
        (fun i hi => Or.inl ⟨i, hi, rfl, MerchantInvoice.Same.refl i, fun hp => Or.inl hp⟩)
        (fun i hi => Or.inl (hold i hi)) fun r hr => ?_
      rcases (mem_create hcreate).mp hr with hr | rfl
      · exact Or.inl hr
      · exact Or.inr ⟨hn, nofun⟩
  | _ => exact h.keepItems hlater rfl rfl rfl fun i hi => Or.inl (hold i hi)

end Effects

end Qift
