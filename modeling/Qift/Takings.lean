import Qift.Caps
import Qift.Collections
import Qift.Custody

/-!
# Takings

What refunds take of an item: before the settlement they shrink it, after it they raise receivables.

* `Taken` — an item stands for the total of its invoice less what was taken off it; it is reversed once the refunds
  after its settlement make up its amount.
* `RaisedBy` — a receivable is raised by one refund, over its amount.
* **`Takings.effect`** — every effect keeps both.
-/

namespace Qift

open Relational Relational.Table Interleaving Settlement Financial

/-- What refunds before the settlement took off the item of an invoice. -/
def Books.reducedMinor (b : Books) (invoiceId : Nat) : Int :=
  b.sumRefunds .merchant_invoice invoiceId fun r =>
    if r.settlementInteraction = .item_reduced then r.amount.cents else 0

/-- An item and the refunds of its invoice. -/
structure Taken (b : Books) (i : SettlementItem) : Prop where
  gross : ∃ inv, b.merchantInvoices.find i.occurrenceId = some inv ∧
    i.amount.cents + b.reducedMinor i.occurrenceId = inv.totalAmount.cents
  unsettled : i.state ∉ FINAL_STATES → b.accruedMinor i.occurrenceId = 0
  reversed : i.state = .reversed ↔
    0 < b.accruedMinor i.occurrenceId ∧ b.accruedMinor i.occurrenceId = i.amount.cents

/-- A receivable is raised by a refund after the settlement. -/
structure RaisedBy (r : SettlementReceivable) (f : SettlementRefund) : Prop where
  lane : f.invoiceType = .merchant_invoice
  interaction : f.settlementInteraction = .receivable_accrued
  occurrence : r.occurrenceId = f.id
  amount : r.amount = f.amount
  storeId : f.storeId = some r.storeId

structure Takings (b : Books) : Prop where
  items : ∀ i ∈ b.items.rows, Taken b i
  oneItem : ∀ i ∈ b.items.rows, ∀ i' ∈ b.items.rows, i.occurrenceId = i'.occurrenceId → i = i'
  lanes : ∀ f ∈ b.refunds.rows, f.invoiceType = .merchant_invoice →
    f.settlementInteraction = .item_reduced ∨ f.settlementInteraction = .receivable_accrued
  raised : ∀ r ∈ b.receivables.rows, ∃ f ∈ b.refunds.rows, RaisedBy r f
  raises : ∀ f ∈ b.refunds.rows, f.invoiceType = .merchant_invoice →
    f.settlementInteraction = .receivable_accrued → ∃ r ∈ b.receivables.rows, RaisedBy r f
  oneReceivable : ∀ r ∈ b.receivables.rows, ∀ r' ∈ b.receivables.rows, r.occurrenceId = r'.occurrenceId → r = r'

theorem takings_empty : Takings World.empty.db.books where
  items := by simp [Db.books, World.empty]
  oneItem := by simp [Db.books, World.empty]
  lanes := by simp [Db.books, World.empty]
  raised := by simp [Db.books, World.empty]
  raises := by simp [Db.books, World.empty]
  oneReceivable := by simp [Db.books, World.empty]

/-! ### Sums -/

/-- What is refunded on a goods invoice was taken off its item or raised a receivable. -/
theorem Takings.refunded {b : Books} (h : Takings b) (invoiceId : Nat) :
    b.refundedMinor .merchant_invoice invoiceId = b.reducedMinor invoiceId + b.accruedMinor invoiceId := by
  unfold Books.refundedMinor Books.reducedMinor Books.accruedMinor Books.sumRefunds
  rw [← sumOf_add]
  refine sumOf_congr fun f hf => ?_
  by_cases hinvoice : f.invoiceType = .merchant_invoice ∧ f.invoiceId = invoiceId
  · simp only [if_pos hinvoice]
    rcases h.lanes f hf hinvoice.1 with hlane | hlane
    · simp [hlane]
    · simp [hlane]
  · simp [hinvoice]

theorem Collections.sumRefunds_zero {b : Books} (h : Collections b) {invoiceId : Nat}
    (hnone : ¬ b.HasItem invoiceId) (value : SettlementRefund → Int) :
    b.sumRefunds .merchant_invoice invoiceId value = 0 := by
  refine sumOf_eq_zero fun f hf => ?_
  split
  · rename_i hinvoice
    exact absurd (hinvoice.2 ▸ h.refunds f hf hinvoice.1) hnone
  · rfl

theorem RefundOk.counted {b : Books} {f : SettlementRefund} (h : RefundOk b f) (p q : Prop) [Decidable p]
    [Decidable q] : 0 ≤ if p then if q then f.amount.cents else 0 else 0 := by
  have hpositive := h.positive
  split
  · split
    · exact hpositive.le
    · exact le_refl 0
  · exact le_refl 0

theorem Caps.accrued_nonneg {b : Books} (h : Caps b) (invoiceId : Nat) : 0 ≤ b.accruedMinor invoiceId :=
  sumOf_nonneg fun f hf => (h.refunds f hf).counted _ _

theorem Taken.accrued_le {b : Books} {i : SettlementItem} (h : Taken b i) (htakings : Takings b)
    (hcaps : Caps b) : b.accruedMinor i.occurrenceId ≤ i.amount.cents := by
  obtain ⟨inv, hinv, hgross⟩ := h.gross
  have hid : inv.id = i.occurrenceId := key_of_find hinv
  have hterms : b.terms .merchant_invoice i.occurrenceId = some inv.terms := by
    unfold Books.terms
    rw [hinv]
    rfl
  have hcapped := hcaps.invoices _ _ _ hterms
  have hcredited := hcaps.credited_goods i.occurrenceId
  have hreceived := hcapped.received
  have hrefunded := hcapped.refunded
  have hsplit := htakings.refunded i.occurrenceId
  have htotal : inv.terms.totalMinor = inv.totalAmount.cents := rfl
  omega

/-! ### Effects -/

/-- What an effect that refunds nothing leaves of an item. -/
structure SettlementItem.Unmoved (i i' : SettlementItem) : Prop where
  id : i'.id = i.id
  occurrenceId : i'.occurrenceId = i.occurrenceId
  amount : i'.amount = i.amount
  reversed : i'.state = .reversed ↔ i.state = .reversed

theorem SettlementItem.Unmoved.refl (i : SettlementItem) : SettlementItem.Unmoved i i := ⟨rfl, rfl, rfl, Iff.rfl⟩

/-- No refund of goods is stored. -/
structure SameRefunds (b b' : Books) : Prop where
  rows : ∀ f, f.invoiceType = .merchant_invoice → (f ∈ b'.refunds.rows ↔ f ∈ b.refunds.rows)
  sums : ∀ invoiceId value,
    b'.sumRefunds .merchant_invoice invoiceId value = b.sumRefunds .merchant_invoice invoiceId value

theorem SameRefunds.of_eq {b b' : Books} (h : b'.refunds = b.refunds) : SameRefunds b b' where
  rows f _ := by rw [h]
  sums invoiceId value := by
    unfold Books.sumRefunds
    rw [h]

theorem SameRefunds.of_fee {b b' : Books} {f : SettlementRefund} (hcreate : b.refunds.create f = some b'.refunds)
    (hlane : f.invoiceType = .corporate_invoice) : SameRefunds b b' where
  rows x hx := by
    rw [mem_create hcreate]
    refine ⟨fun hmem => hmem.resolve_right fun heq => ?_, Or.inl⟩
    rw [heq, hlane] at hx
    cases hx
  sums invoiceId value := by
    rw [Books.sumRefunds_create hcreate, if_neg (by simp [hlane]), add_zero]

theorem unmoved_updateMany {items items' : Table SettlementItem.id} {p : SettlementItem → Bool}
    {f : SettlementItem → SettlementItem} (hrows : items'.rows = items.rows.map fun i => if p i then f i else i)
    (hf : ∀ i ∈ items.rows, p i = true → SettlementItem.Unmoved i (f i)) :
    ∀ i' ∈ items'.rows, ∃ i ∈ items.rows, SettlementItem.Unmoved i i' := by
  intro i' hi'
  rw [hrows] at hi'
  obtain ⟨i, hi, rfl⟩ := List.mem_map.mp hi'
  refine ⟨i, hi, ?_⟩
  split
  · exact hf i hi ‹_›
  · exact SettlementItem.Unmoved.refl i

/-- An item keeps what refunds took while none is recorded. -/
theorem Taken.unmoved {b b' : Books} {i i' : SettlementItem} (h : Taken b i) (hlater : Later b b')
    (hrefunds : SameRefunds b b') (hmove : SettlementItem.Unmoved i i')
    (hfinal : i.state ∈ FINAL_STATES → i'.state ∈ FINAL_STATES) : Taken b' i' := by
  obtain ⟨inv, hinv, hgross⟩ := h.gross
  obtain ⟨inv', hinv', -, hsame⟩ := hlater.invoice hinv
  constructor
  · refine ⟨inv', hmove.occurrenceId ▸ hinv', ?_⟩
    rw [hmove.occurrenceId, hmove.amount, hsame.totalAmount, ← hgross, Books.reducedMinor, hrefunds.sums]
    rfl
  · intro hopen
    rw [hmove.occurrenceId, Books.accruedMinor, hrefunds.sums]
    exact h.unsettled fun hs => hopen (hfinal hs)
  · rw [hmove.reversed, hmove.occurrenceId, hmove.amount, Books.accruedMinor, hrefunds.sums]
    exact h.reversed

section Effects

variable [Runtime] {l : Site} {b b' : Books}

theorem Takings.keep (h : Takings b) (heffect : Effect l b b') (hrefunds : SameRefunds b b')
    (hitems : ∀ i' ∈ b'.items.rows, ∃ i ∈ b.items.rows, SettlementItem.Unmoved i i')
    (hreceivables : b'.receivables.rows.map SettlementReceivable.id =
      b.receivables.rows.map SettlementReceivable.id) : Takings b' := by
  have hlater := heffect.later
  have hstored : ∀ r' ∈ b'.receivables.rows, ∃ r ∈ b.receivables.rows, r'.id = r.id ∧
      SettlementReceivable.Same r r' := by
    intro r' hr'
    obtain ⟨r, hr, hid⟩ := List.mem_map.mp (hreceivables ▸ List.mem_map_of_mem hr')
    obtain ⟨r'', hr'', hsame⟩ := hlater.receivables _ _ (find_of_mem hr)
    obtain rfl := row_unique _ hr' (mem_of_find hr'') (hid.symm.trans (key_of_find hr'').symm)
    exact ⟨r, hr, hid.symm, hsame⟩
  constructor
  · intro i' hi'
    obtain ⟨i, hi, hmove⟩ := hitems i' hi'
    obtain ⟨i'', hi'', hhandled⟩ := heffect.handled _ _ (find_of_mem hi)
    obtain rfl := row_unique _ hi' (mem_of_find hi'') (hmove.id.trans (key_of_find hi'').symm)
    exact (h.items i hi).unmoved hlater hrefunds hmove fun hfinal => (hhandled.final hfinal).1
  · intro i hi i' hi' heq
    obtain ⟨j, hj, hmove⟩ := hitems i hi
    obtain ⟨j', hj', hmove'⟩ := hitems i' hi'
    obtain rfl := h.oneItem j hj j' hj' (hmove.occurrenceId.symm.trans (heq.trans hmove'.occurrenceId))
    exact row_unique _ hi hi' (hmove.id.trans hmove'.id.symm)
  · intro f hf hlane
    exact h.lanes f ((hrefunds.rows f hlane).mp hf) hlane
  · intro r' hr'
    obtain ⟨r, hr, -, hsame⟩ := hstored r' hr'
    obtain ⟨f, hf, hraised⟩ := h.raised r hr
    refine ⟨f, (hrefunds.rows f hraised.lane).mpr hf, hraised.lane, hraised.interaction, hsame.occurrenceId.trans hraised.occurrence,
      hsame.amount.trans hraised.amount, ?_⟩
    rw [hsame.storeId]
    exact hraised.storeId
  · intro f hf hlane haccrued
    obtain ⟨r, hr, hraised⟩ := h.raises f ((hrefunds.rows f hlane).mp hf) hlane haccrued
    obtain ⟨r', hr', hsame⟩ := hlater.receivables _ _ (find_of_mem hr)
    refine ⟨r', mem_of_find hr', hraised.lane, hraised.interaction, hsame.occurrenceId.trans hraised.occurrence,
      hsame.amount.trans hraised.amount, ?_⟩
    rw [hsame.storeId]
    exact hraised.storeId
  · intro r hr r' hr' heq
    obtain ⟨x, hx, hid, hsame⟩ := hstored r hr
    obtain ⟨x', hx', hid', hsame'⟩ := hstored r' hr'
    obtain rfl := h.oneReceivable x hx x' hx' (hsame.occurrenceId.symm.trans (heq.trans hsame'.occurrenceId))
    exact row_unique _ hr hr' (hid.trans hid'.symm)

theorem Takings.createItem (h : Takings b) (hcollections : Collections b) (heffect : Effect l b b')
    {inv : MerchantInvoice} {createdAt : Time} (hstored : b.merchantInvoices.find inv.id = some inv)
    (hfresh : ¬ b.HasItem inv.id)
    (hcreate : b.items.create (itemRow (merchantFacts inv) inv.storeId createdAt b.nextId) = some b'.items)
    (hrefunds : b'.refunds = b.refunds) (hreceivables : b'.receivables = b.receivables) : Takings b' := by
  have hlater := heffect.later
  have hsum (value : SettlementRefund → Int) : b'.sumRefunds .merchant_invoice inv.id value = 0 := by
    have hnone := hcollections.sumRefunds_zero hfresh value
    unfold Books.sumRefunds at hnone ⊢
    rw [hrefunds, hnone]
  have hother : ∀ i ∈ b.items.rows, i.occurrenceId ≠ inv.id := by
    intro i hi heq
    exact hfresh ⟨i, hi, (hcollections.items i hi).1, heq⟩
  constructor
  · intro i hi
    rcases (mem_create hcreate).mp hi with hold | rfl
    · exact (h.items i hold).unmoved hlater (SameRefunds.of_eq hrefunds) (SettlementItem.Unmoved.refl i) id
    · obtain ⟨inv', hinv', hid, hsame⟩ := hlater.invoice hstored
      have hitem : b'.accruedMinor inv.id = 0 := hsum _
      constructor
      · refine ⟨inv', hinv', ?_⟩
        have hreduced : b'.reducedMinor inv.id = 0 := hsum _
        have hamount : (Decimal.ofNumber (merchantFacts inv).totalAmount).cents = inv.totalAmount.cents := by
          simp [merchantFacts]
        change (Decimal.ofNumber (merchantFacts inv).totalAmount).cents + b'.reducedMinor inv.id = _
        rw [hreduced, hamount, hsame.totalAmount, add_zero]
      · exact fun _ => hitem
      · change ItemState.pending = .reversed ↔ 0 < b'.accruedMinor inv.id ∧ _
        rw [hitem]
        exact ⟨nofun, fun hpos => absurd hpos.1 (lt_irrefl 0)⟩
  · intro i hi i' hi' heq
    rcases (mem_create hcreate).mp hi with hold | rfl
    · rcases (mem_create hcreate).mp hi' with hold' | rfl
      · exact h.oneItem i hold i' hold' heq
      · exact absurd heq (hother i hold)
    · rcases (mem_create hcreate).mp hi' with hold' | rfl
      · exact absurd heq.symm (hother i' hold')
      · rfl
  · exact fun f hf => h.lanes f (hrefunds ▸ hf)
  · exact fun r hr => hrefunds ▸ h.raised r (hreceivables ▸ hr)
  · exact fun f hf => hreceivables ▸ h.raises f (hrefunds ▸ hf)
  · exact hreceivables ▸ h.oneReceivable

/-- A goods refund: it moves the item of its invoice only. -/
structure Moves (b b' : Books) (item : SettlementItem) (f : SettlementRefund) (item' : SettlementItem) : Prop where
  stored : item ∈ b.items.rows
  lane : f.invoiceType = .merchant_invoice
  invoice : item.occurrenceId = f.invoiceId
  created : b.refunds.create f = some b'.refunds
  occurrence : item'.occurrenceId = item.occurrenceId
  rows : ∀ i ∈ b'.items.rows, i ∈ b.items.rows ∧ i ≠ item ∨ i = item'

omit [Runtime] in
theorem Moves.items {item item' : SettlementItem} {f : SettlementRefund} (hmoves : Moves b b' item f item')
    (h : Takings b) (hlater : Later b b') (hitem : Taken b' item') :
    (∀ i ∈ b'.items.rows, Taken b' i) ∧
      ∀ i ∈ b'.items.rows, ∀ i' ∈ b'.items.rows, i.occurrenceId = i'.occurrenceId → i = i' := by
  have hother : ∀ i ∈ b.items.rows, i ≠ item → i.occurrenceId ≠ f.invoiceId := fun i hi hne heq =>
    hne (h.oneItem i hi item hmoves.stored (heq.trans hmoves.invoice.symm))
  constructor
  · intro i hi
    rcases hmoves.rows i hi with ⟨hold, hne⟩ | rfl
    · have hsum (value : SettlementRefund → Int) : b'.sumRefunds .merchant_invoice i.occurrenceId value =
          b.sumRefunds .merchant_invoice i.occurrenceId value := by
        rw [Books.sumRefunds_create hmoves.created, if_neg fun hc => hother i hold hne hc.2.symm, add_zero]
      obtain ⟨⟨inv, hinv, hgross⟩, hunsettled, hreversed⟩ := h.items i hold
      obtain ⟨inv', hinv', -, hsame⟩ := hlater.invoice hinv
      refine ⟨⟨inv', hinv', ?_⟩, ?_, ?_⟩
      · rw [hsame.totalAmount, ← hgross, Books.reducedMinor, hsum]
        rfl
      · rw [Books.accruedMinor, hsum]
        exact hunsettled
      · rw [Books.accruedMinor, hsum]
        exact hreversed
    · exact hitem
  · intro i hi i' hi' heq
    rcases hmoves.rows i hi with ⟨hold, hne⟩ | rfl
    · rcases hmoves.rows i' hi' with ⟨hold', -⟩ | rfl
      · exact h.oneItem i hold i' hold' heq
      · exact absurd (heq.trans (hmoves.occurrence.trans hmoves.invoice)) (hother i hold hne)
    · rcases hmoves.rows i' hi' with ⟨hold', hne'⟩ | rfl
      · exact absurd (heq.symm.trans (hmoves.occurrence.trans hmoves.invoice)) (hother i' hold' hne')
      · rfl

theorem Takings.reduce (h : Takings b) (heffect : Effect l b b')
    {origin : Option RefundOrigin} {draft : RefundDraft} {inv : MerchantInvoice} {item : SettlementItem}
    {vatComponent : Number} (hrefunds : Refunds b origin draft inv item)
    (hstate : item.state = .pending ∨ item.state = .eligible ∨ item.state = .held)
    (hcreate : b.refunds.create (refundRow draft inv vatComponent .item_reduced b.nextId) = some b'.refunds)
    (hitems : b'.items = b.items.updateMany (fun i => i.id = item.id)
      (reduceRow (item.amount.cents - draft.amountMinor)) (reduceRow_id _))
    (hreceivables : b'.receivables = b.receivables) : Takings b' := by
  have hlater := heffect.later
  have hitem : item ∈ b.items.rows := mem_of_find hrefunds.itemStored
  have hmoves : Moves b b' item (refundRow draft inv vatComponent .item_reduced b.nextId)
      (reduceRow (item.amount.cents - draft.amountMinor) item) := by
    refine ⟨hitem, rfl, hrefunds.occurrence.2, hcreate, rfl, fun i hi => ?_⟩
    rw [hitems] at hi
    obtain ⟨i₀, hi₀, rfl⟩ := List.mem_map.mp hi
    by_cases hid : i₀.id = item.id
    · obtain rfl := row_unique _ hi₀ hitem hid
      exact Or.inr (if_pos (by simp))
    · rw [if_neg (by simpa using hid)]
      exact Or.inl ⟨hi₀, fun heq => hid (congrArg SettlementItem.id heq)⟩
  have hopen : item.state ∉ FINAL_STATES := by
    rcases hstate with hs | hs | hs <;> simp [hs, FINAL_STATES]
  obtain ⟨⟨inv₀, hinv₀, hgross⟩, hunsettled, -⟩ := h.items item hitem
  have hoccurrence : item.occurrenceId = inv.id := hrefunds.occurrence.2
  have haccrued : b'.accruedMinor item.occurrenceId = 0 := by
    have hnone := hunsettled hopen
    rw [Books.accruedMinor] at hnone ⊢
    rw [Books.sumRefunds_create hcreate, hnone]
    simp [refundRow]
  have hreduced : b'.reducedMinor item.occurrenceId = b.reducedMinor item.occurrenceId + draft.amountMinor := by
    rw [Books.reducedMinor, Books.sumRefunds_create hcreate, if_pos ⟨rfl, hoccurrence.symm⟩]
    simp [refundRow, Books.reducedMinor, refundAmount_cents]
  have htaken : Taken b' (reduceRow (item.amount.cents - draft.amountMinor) item) := by
    obtain ⟨inv', hinv', -, hsame⟩ := hlater.invoice hinv₀
    refine ⟨⟨inv', hinv', ?_⟩, fun _ => haccrued, ?_⟩
    · change item.amount.cents - draft.amountMinor + b'.reducedMinor item.occurrenceId = _
      rw [hreduced, hsame.totalAmount, ← hgross]
      omega
    · change item.state = .reversed ↔ 0 < b'.accruedMinor item.occurrenceId ∧ _
      rw [haccrued]
      constructor
      · intro hreversed
        simp [hreversed, FINAL_STATES] at hopen
      · exact fun hpos => absurd hpos.1 (lt_irrefl 0)
  obtain ⟨hall, hone⟩ := hmoves.items h hlater htaken
  refine ⟨hall, hone, fun f hf hlane => ?_, fun r hr => ?_, fun f hf hlane haccrues => ?_, ?_⟩
  · rcases (mem_create hcreate).mp hf with hold | rfl
    · exact h.lanes f hold hlane
    · exact Or.inl rfl
  · obtain ⟨f, hf, hraised⟩ := h.raised r (hreceivables ▸ hr)
    exact ⟨f, (mem_create hcreate).mpr (Or.inl hf), hraised⟩
  · rcases (mem_create hcreate).mp hf with hold | rfl
    · exact hreceivables ▸ h.raises f hold hlane haccrues
    · cases haccrues
  · exact hreceivables ▸ h.oneReceivable

theorem Takings.accrue (h : Takings b) (hcollections : Collections b) (hcaps : Caps b) (heffect : Effect l b b')
    {origin : Option RefundOrigin} {draft : RefundDraft} {inv : MerchantInvoice} {item : SettlementItem}
    {vatComponent : Number} {accruedAt : Time} {reversed : Bool} {id : Nat} (hrefunds : Refunds b origin draft inv item)
    (hstate : item.state = .settled ∨ item.state = .reversed)
    (hreversed : reversed = true ↔ item.state = .settled ∧
      item.amount.cents ≤ b.accruedMinor inv.id + draft.amountMinor)
    (hcreate : b.refunds.create (refundRow draft inv vatComponent .receivable_accrued b.nextId) = some b'.refunds)
    (haccrue : b.receivables.create (receivableRow draft inv b.nextId accruedAt id) = some b'.receivables)
    (hitems : b'.items = b.items.updateMany
      (fun i => reversed && decide (i.id = item.id ∧ i.state = .settled))
      (fun i => { i with state := .reversed }) fun _ => rfl) : Takings b' := by
  have hlater := heffect.later
  have hitem : item ∈ b.items.rows := mem_of_find hrefunds.itemStored
  have hoccurrence : item.occurrenceId = inv.id := hrefunds.occurrence.2
  have hmoves : Moves b b' item (refundRow draft inv vatComponent .receivable_accrued b.nextId)
      (if reversed then { item with state := .reversed } else item) := by
    refine ⟨hitem, rfl, hoccurrence, hcreate, by split <;> rfl, fun i hi => ?_⟩
    rw [hitems] at hi
    obtain ⟨i₀, hi₀, rfl⟩ := List.mem_map.mp hi
    by_cases hid : i₀.id = item.id
    · obtain rfl := row_unique _ hi₀ hitem hid
      right
      cases reversed with
      | false => simp
      | true => simp [(hreversed.mp rfl).1]
    · rw [if_neg (by simp [hid])]
      exact Or.inl ⟨hi₀, fun heq => hid (congrArg SettlementItem.id heq)⟩
  have haccrued : b'.accruedMinor item.occurrenceId = b.accruedMinor item.occurrenceId + draft.amountMinor := by
    rw [Books.accruedMinor, Books.sumRefunds_create hcreate, if_pos ⟨rfl, hoccurrence.symm⟩]
    simp [refundRow, Books.accruedMinor, refundAmount_cents]
  have hreduced : b'.reducedMinor item.occurrenceId = b.reducedMinor item.occurrenceId := by
    rw [Books.reducedMinor, Books.sumRefunds_create hcreate]
    simp [refundRow, Books.reducedMinor]
  obtain ⟨⟨inv₀, hinv₀, hgross⟩, -, hwas⟩ := h.items item hitem
  have hbound : b.accruedMinor item.occurrenceId + draft.amountMinor ≤ item.amount.cents := by
    obtain ⟨hterms, hle, -⟩ := hrefunds.capped hcaps
    have hsame : inv₀ = inv := Option.some.inj (hinv₀.symm.trans (hoccurrence ▸ hrefunds.stored))
    have htotal : inv.terms.totalMinor = inv.totalAmount.cents := rfl
    have hsplit := h.refunded inv.id
    rw [hsame, hoccurrence] at hgross
    rw [hoccurrence]
    omega
  have hpositive := hrefunds.positive
  have htaken : Taken b' (if reversed then { item with state := .reversed } else item) := by
    obtain ⟨inv', hinv', -, hsame⟩ := hlater.invoice hinv₀
    have hkeeps : (if reversed then { item with state := .reversed } else item).occurrenceId = item.occurrenceId ∧
        (if reversed then { item with state := .reversed } else item).amount = item.amount := by
      split <;> exact ⟨rfl, rfl⟩
    refine ⟨⟨inv', ?_, ?_⟩, fun hopen => ?_, ?_⟩
    · rw [hkeeps.1]
      exact hinv'
    · rw [hkeeps.1, hkeeps.2, hreduced, hsame.totalAmount]
      exact hgross
    · refine absurd ?_ hopen
      split
      · simp [FINAL_STATES]
      · rcases hstate with hs | hs <;> simp [hs, FINAL_STATES]
    · rw [hkeeps.1, hkeeps.2, haccrued]
      have hnonneg := hcaps.accrued_nonneg item.occurrenceId
      rcases hstate with hs | hs
      · -- a settled item is reversed by the refund that takes the rest
        have hflag : reversed = true ↔ item.amount.cents ≤ b.accruedMinor item.occurrenceId + draft.amountMinor := by
          rw [hreversed, hoccurrence]
          simp [hs]
        cases reversed with
        | false =>
            have hless := mt hflag.mpr (by simp)
            simp only [Bool.false_eq_true, if_false, hs]
            constructor
            · simp
            · intro hfull
              omega
        | true =>
            have hmore := hflag.mp rfl
            simp only [if_true, true_iff]
            omega
      · -- an item that is reversed already is refunded no more
        obtain ⟨-, hfull⟩ := hwas.mp hs
        omega
  obtain ⟨hall, hone⟩ := hmoves.items h hlater htaken
  have hnew : RaisedBy (receivableRow draft inv b.nextId accruedAt id)
      (refundRow draft inv vatComponent .receivable_accrued b.nextId) := ⟨rfl, rfl, rfl, rfl, rfl⟩
  have hunraised : ∀ r ∈ b.receivables.rows, r.occurrenceId ≠ b.nextId := by
    intro r hr heq
    obtain ⟨f, hf, hraised⟩ := h.raised r hr
    have hlt := hcollections.refundIds f hf
    rw [hraised.occurrence] at heq
    omega
  refine ⟨hall, hone, fun f hf hlane => ?_, fun r hr => ?_, fun f hf hlane haccrues => ?_, fun r hr r' hr' heq => ?_⟩
  · rcases (mem_create hcreate).mp hf with hold | rfl
    · exact h.lanes f hold hlane
    · exact Or.inr rfl
  · rcases (mem_create haccrue).mp hr with hold | rfl
    · obtain ⟨f, hf, hraised⟩ := h.raised r hold
      exact ⟨f, (mem_create hcreate).mpr (Or.inl hf), hraised⟩
    · exact ⟨_, (mem_create hcreate).mpr (Or.inr rfl), hnew⟩
  · rcases (mem_create hcreate).mp hf with hold | rfl
    · obtain ⟨r, hr, hraised⟩ := h.raises f hold hlane haccrues
      exact ⟨r, (mem_create haccrue).mpr (Or.inl hr), hraised⟩
    · exact ⟨_, (mem_create haccrue).mpr (Or.inr rfl), hnew⟩
  · rcases (mem_create haccrue).mp hr with hold | rfl
    · rcases (mem_create haccrue).mp hr' with hold' | rfl
      · exact h.oneReceivable r hold r' hold' heq
      · exact absurd heq (hunraised r hold)
    · rcases (mem_create haccrue).mp hr' with hold' | rfl
      · exact absurd heq.symm (hunraised r' hold')
      · rfl

/-- **Every effect keeps the takings.** -/
theorem Takings.effect (h : Takings b) (hcollections : Collections b) (hcaps : Caps b) (heffect : Effect l b b') :
    Takings b' := by
  have hstored : ∀ i' ∈ b.items.rows, ∃ i ∈ b.items.rows, SettlementItem.Unmoved i i' :=
    fun i hi => ⟨i, hi, SettlementItem.Unmoved.refl i⟩
  have heffect' := heffect
  cases heffect with
  | item hinvoice hcurrency hcovered hfresh hcreate hn =>
      exact h.createItem hcollections heffect' hinvoice hfresh hcreate rfl rfl
  | eligible =>
      refine h.keep heffect' (SameRefunds.of_eq rfl) (unmoved_updateMany rfl fun i _ hp => ?_) rfl
      simp only [decide_eq_true_eq] at hp
      exact ⟨rfl, rfl, rfl, by simp [hp.2.1]⟩
  | assemble hassembles hcreate hposts hn =>
      refine h.keep heffect' (SameRefunds.of_eq rfl) (unmoved_updateMany rfl fun i hi hp => ?_) (keys_updateMany _ _ (stageRow_id _))
      obtain ⟨heligible, -⟩ := hassembles.member hi (by simpa using hp)
      exact ⟨rfl, rfl, rfl, by simp [heligible, bindRow]⟩
  | @supersede _ batch cause disposition affectedItemIds _ _ _ hinvoice hcause hlegal hposts hn =>
      refine h.keep heffect' (SameRefunds.of_eq rfl) (unmoved_updateMany rfl fun i hi hp => ?_) (keys_updateMany _ _ releaseRow_id)
      have hmove := hlegal i hi (by simpa using hp)
      have hfree := superseded_free hcause affectedItemIds i.id
      refine ⟨rfl, rfl, rfl, fun hreversed => ?_, fun hreversed => ?_⟩
      · have hstate : supersededState disposition affectedItemIds i.id = .reversed := hreversed
        rw [hstate] at hfree
        simp [FREE_STATES] at hfree
      · exact absurd hmove (final_stays (by simp [hreversed, FINAL_STATES]) hfree)
  | markSettled hclosable hgated hcreate hposts hn =>
      refine h.keep heffect' (SameRefunds.of_eq rfl) (unmoved_updateMany rfl fun i _ hp => ?_) (keys_rewriteEach _ _ _ (consumeRow_id _ _))
      simp only [decide_eq_true_eq] at hp
      exact ⟨rfl, rfl, rfl, by simp [hp.2.2]⟩
  | markSettledZeroNet hclosable hgated hzero hposts hn =>
      refine h.keep heffect' (SameRefunds.of_eq rfl) (unmoved_updateMany rfl fun i _ hp => ?_) (keys_rewriteEach _ _ _ (consumeRow_id _ _))
      simp only [decide_eq_true_eq] at hp
      exact ⟨rfl, rfl, rfl, by simp [hp.2.2]⟩
  | reduce hrefunds hstate hunbound hamount hcreate hposts hn =>
      exact h.reduce heffect' hrefunds hstate hcreate rfl rfl
  | accrue hrefunds hstate hreversed hcreate haccrue hposts hid hn =>
      exact h.accrue hcollections hcaps heffect' hrefunds hstate hreversed hcreate haccrue rfl
  | feeRefund hrefunds hcreate hposts hn => exact h.keep heffect' (SameRefunds.of_fee hcreate rfl) hstored rfl
  | _ => exact h.keep heffect' (SameRefunds.of_eq rfl) hstored rfl

end Effects

end Qift
