import Qift.Treasury.Balance
import Qift.Runs.Receivables

/-!
# The treasury over runs

* `Payables` — the payable of a goods receipt is in the ledger under its lane.
* `evidenceOf` — the evidence an undisturbed gathering finds; every receipt in the ledger is in it.
* **`Run.views_balance`** — at every cut-off the cash view and the obligations view of a gathering differ by what
  is outstanding internally and by nothing else.
-/

namespace Qift

open Relational Relational.Table Interleaving Settlement Financial Treasury

/-! ### Payables -/

def PayableRow (r : PaymentReceipt) (e : FinancialLedgerEntry) : Prop :=
  Row .MERCHANT_PAYABLE_ACCRUED (.id r.id) r.amount .SAR r.storeId e ∧ e.orderId = none

/-- Every goods receipt has its payable, outside the lane of consumer orders. -/
def Payables (b : Books) : Prop :=
  ∀ r ∈ b.receipts.rows, r.invoiceType = .merchant_invoice → ∃ e ∈ b.ledger.rows, PayableRow r e

theorem payables_empty : Payables World.empty.db.books := by
  intro r hr
  simp [Db.books, World.empty] at hr

theorem Origin.of_payment {b : Books} {e : FinancialLedgerEntry} (h : Origin b e)
    (hevent : e.eventType = .INVOICE_PAYMENT_RECEIVED) :
    ∃ r ∈ b.receipts.rows, Row .INVOICE_PAYMENT_RECEIVED (.id r.id) r.amount .SAR r.storeId e ∧
      e.metadata.account = some (receiptAccount r.invoiceType) := by
  cases h with
  | other hother =>
      rw [hevent] at hother
      exact absurd (by decide) hother
  | @payment r hr hrow haccount => exact ⟨r, hr, hrow, haccount⟩
  | consumer hconsumer => cases hconsumer.symm.trans hevent
  | payable _ _ hrow => cases hrow.eventType.symm.trans hevent
  | remittance _ hrow => cases hrow.eventType.symm.trans hevent
  | refund _ _ hrow => cases hrow.eventType.symm.trans hevent
  | recovery _ _ _ hrow => cases hrow.eventType.symm.trans hevent
  | transfer _ _ hrow => cases hrow.eventType.symm.trans hevent
  | revenue _ _ hrow => cases hrow.eventType.symm.trans hevent
  | reversal _ _ _ hrow => cases hrow.eventType.symm.trans hevent

theorem Origin.of_payable {b : Books} {e : FinancialLedgerEntry} (h : Origin b e)
    (hevent : e.eventType = .MERCHANT_PAYABLE_ACCRUED) :
    (e.orderId ≠ none ∧ ∃ n < b.nextId,
        e.idempotencyKey = some (ledgerIdempotencyKey .MERCHANT_PAYABLE_ACCRUED (.id n))) ∨
      ∃ r ∈ b.receipts.rows, r.invoiceType = .merchant_invoice ∧ PayableRow r e := by
  cases h with
  | other hother =>
      rw [hevent] at hother
      exact absurd (by decide) hother
  | consumer _ horder hkey => exact Or.inl ⟨horder, hkey⟩
  | @payable r hr hlane hrow horder => exact Or.inr ⟨r, hr, hlane, hrow, horder⟩
  | payment _ hrow => cases hrow.eventType.symm.trans hevent
  | remittance _ hrow => cases hrow.eventType.symm.trans hevent
  | refund _ _ hrow => cases hrow.eventType.symm.trans hevent
  | recovery _ _ _ hrow => cases hrow.eventType.symm.trans hevent
  | transfer _ _ hrow => cases hrow.eventType.symm.trans hevent
  | revenue _ _ hrow => cases hrow.eventType.symm.trans hevent
  | reversal _ _ _ hrow => cases hrow.eventType.symm.trans hevent

theorem Postings.fresh_payable {b : Books} (h : Postings b) (hcollections : Collections b) {id : Nat}
    (hid : b.nextId ≤ id) : ∀ e ∈ b.ledger.rows,
      e.idempotencyKey ≠ some (ledgerIdempotencyKey .MERCHANT_PAYABLE_ACCRUED (.id id)) := by
  intro e he hkey
  have hanchor {n : Nat} (hn : e.idempotencyKey =
      some (ledgerIdempotencyKey .MERCHANT_PAYABLE_ACCRUED (.id n))) : n = id := by
    have heq := Option.some.inj (hn.symm.trans hkey)
    simpa [ledgerIdempotencyKey] using heq
  rcases (h.origin e he).of_payable (h.eventType he hkey) with ⟨-, n, hn, hat⟩ | ⟨r, hr, -, hrow, -⟩
  · have heq := hanchor hat
    omega
  · have heq := hanchor hrow.key
    have hlt := hcollections.receiptIds r hr
    omega

section Effects

variable [Runtime] {l : Site} {b b' : Books}

omit [Runtime] in
theorem Payables.keep (h : Payables b) (hlater : Later b b')
    (hreceipts : ∀ r ∈ b'.receipts.rows, r.invoiceType = .merchant_invoice → r ∈ b.receipts.rows) :
    Payables b' := by
  intro r hr hlane
  obtain ⟨e, he, hrow⟩ := h r (hreceipts r hr hlane) hlane
  exact ⟨e, hlater.ledger e he, hrow⟩

/-- A receipt and its payable are one write. -/
theorem Payables.effect (h : Payables b) (hpostings : Postings b) (hcollections : Collections b)
    (heffect : Effect l b b') : Payables b' := by
  have hlater := heffect.later
  cases heffect with
  | @goodsReceipt _ draft inv receipts ledger ledger' n hreceives hcreate hpayment hpayable hn =>
      intro r hr hlane
      rcases (mem_create hcreate).mp hr with hold | rfl
      · obtain ⟨e, he, hrow⟩ := h r hold hlane
        exact ⟨e, hlater.ledger e he, hrow⟩
      · cases hpayable with
        | existing he hkey _ =>
            -- the key of the receipt is fresh, and its payment has another one
            rcases hpayment.mem he with hold | ⟨id, createdAt, rfl⟩
            · exact absurd hkey (hpostings.fresh_payable hcollections (le_refl _) _ hold)
            · cases hkey
        | @fresh l' id createdAt hcreate' _ =>
            refine ⟨_, (mem_create hcreate').mpr (Or.inr rfl), ⟨rfl, rfl, ?_, rfl, rfl⟩, rfl⟩
            rfl
  | feeReceipt hreceives hcreate =>
      refine h.keep hlater fun r hr hlane => ?_
      rcases (mem_create hcreate).mp hr with hold | rfl
      · exact hold
      · exact absurd (hreceives.lane.symm.trans hlane) nofun
  | _ => exact h.keep hlater fun r hr _ => hr

theorem Reachable.payables {s : World} (h : Reachable s) : Payables s.db.books := by
  induction h with
  | refl => exact payables_empty
  | tail hpre hstep ih =>
      obtain ⟨site, hact⟩ := hstep
      have hreached : Reachable _ := hpre
      exact ih.effect hreached.postings hreached.collections hact

end Effects

/-! ### The evidence -/

/-- The identifiers the receipts of some rows are looked up by. -/
def receiptIdsOf (rows : List FinancialLedgerEntry) : List Nat :=
  anchoredIds rows (fun r => decide ((r.eventType = .INVOICE_PAYMENT_RECEIVED ∨
    r.eventType = .MERCHANT_PAYABLE_ACCRUED) ∧ r.orderId = none)) Anchor.single

/-- The evidence an undisturbed gathering finds. -/
def evidenceOf (w : World) : Evidence where
  receipts := findMany Model.paymentReceipt
    (fun r => decide (r.id ∈ receiptIdsOf (safeguardingRows w))) w
  remittances := findMany Model.settlementRemittance (fun r => decide (r.id ∈ anchoredIds
    (safeguardingRows w) (fun r => decide (r.eventType = .MERCHANT_REMITTANCE_PAID)) Anchor.single)) w
  refunds := findMany Model.settlementRefund (fun r => decide (r.id ∈ anchoredIds (safeguardingRows w)
    (fun r => decide (r.eventType = .REFUND_PAID)) Anchor.single)) w
  recoveryRemittances := findMany Model.settlementRemittance (fun r => decide (r.settlementId ∈
    anchoredIds (safeguardingRows w)
      (fun r => decide (r.eventType = .MERCHANT_RECEIVABLE_RECOVERED)) Anchor.second)) w

theorem gatherMovements_exec (w : World) :
    gatherMovements.exec w = (.ok (gather (evidenceOf w) (safeguardingRows w)), w) := rfl

theorem sum_safeguardingRows (w : World) {g : FinancialLedgerEntry → Int}
    (hg : ∀ e, e.eventType ∉ SAFEGUARDING_EVENTS → g e = 0) :
    ((safeguardingRows w).map g).sum = w.db.books.ledger.sumOf g := by
  rw [safeguardingRows, ((orderBy_perm _ _ _).map g).sum_eq, findMany, sum_map_filter]
  refine sumOf_congr (g := fun r => if decide (r.eventType ∈ SAFEGUARDING_EVENTS) then g r else 0)
    fun e _ => ?_
  by_cases hevent : e.eventType ∈ SAFEGUARDING_EVENTS
  · rw [if_pos (decide_eq_true hevent)]
  · rw [if_neg (by simpa using hevent), hg e hevent]

theorem evidence_receipt {w : World} {e : FinancialLedgerEntry} {r : PaymentReceipt} (hr : r ∈ w.db.books.receipts.rows)
    (hkey : e.idempotencyKey = some (ledgerIdempotencyKey e.eventType (.id r.id)))
    (hin : r.id ∈ receiptIdsOf (safeguardingRows w)) : (evidenceOf w).receipt e = some r := by
  have hanchor : (anchorOf e).bind Anchor.single = some r.id := by
    unfold anchorOf
    rw [hkey]
    simp [ledgerIdempotencyKey, Anchor.single]
  unfold Evidence.receipt
  rw [hanchor, Option.bind_some]
  have hmem : r ∈ (evidenceOf w).receipts := List.mem_filter.mpr ⟨hr, decide_eq_true hin⟩
  cases hfound : (evidenceOf w).receipts.find? fun x => decide (x.id = r.id) with
  | none =>
      have hne := List.find?_eq_none.mp hfound r hmem
      simp at hne
  | some found =>
      have hid : found.id = r.id := by simpa using List.find?_some hfound
      have hstored : found ∈ w.db.books.receipts.rows :=
        (List.mem_filter.mp (List.mem_of_find?_eq_some hfound)).1
      rw [row_unique _ hstored hr hid]

theorem Payables.looked_up {w : World} (h : Payables w.db.books) {r : PaymentReceipt}
    (hr : r ∈ w.db.books.receipts.rows) (hlane : r.invoiceType = .merchant_invoice) :
    r.id ∈ receiptIdsOf (safeguardingRows w) := by
  obtain ⟨e, he, hrow, horder⟩ := h r hr hlane
  have hgathered : e ∈ safeguardingRows w := by
    rw [safeguardingRows, mem_orderBy]
    refine List.mem_filter.mpr ⟨he, ?_⟩
    rw [hrow.eventType]
    decide
  refine List.mem_filterMap.mpr ⟨e, List.mem_filter.mpr ⟨hgathered, ?_⟩, ?_⟩
  · simp [hrow.eventType, horder]
  · unfold anchorOf
    rw [hrow.key, hrow.eventType]
    simp [ledgerIdempotencyKey, Anchor.single]

/-! ### The balance of the views -/

/-- What a cut-off counts of a receipt. -/
def receiptMinor (asOfDate : String) (r : PaymentReceipt) : Int :=
  if textLE (toISOString r.receivedAt) asOfDate then r.amount.cents else 0

def Books.goodsReceipts (b : Books) : List PaymentReceipt :=
  b.receipts.rows.filter fun r => r.invoiceType = .merchant_invoice

theorem Books.mem_goodsReceipts {b : Books} {r : PaymentReceipt} :
    r ∈ b.goodsReceipts ↔ r ∈ b.receipts.rows ∧ r.invoiceType = .merchant_invoice := by
  simp [Books.goodsReceipts]

theorem Postings.sum_receiptRows {b : Books} (h : Postings b) (event : FinancialEvent)
    {g : FinancialLedgerEntry → Int} {v : PaymentReceipt → Int}
    (hforth : ∀ r ∈ b.goodsReceipts, ∃ e ∈ b.ledger.rows,
      e.idempotencyKey = some (ledgerIdempotencyKey event (.id r.id)) ∧ g e = v r)
    (hback : ∀ e ∈ b.ledger.rows, g e ≠ 0 → ∃ r ∈ b.goodsReceipts,
      e.idempotencyKey = some (ledgerIdempotencyKey event (.id r.id))) :
    b.ledger.sumOf g = (b.goodsReceipts.map v).sum := by
  have hnodup : b.goodsReceipts.Nodup := b.receipts.nodup.of_map.filter _
  refine sumOf_eq_sum hnodup
    (R := fun r e => e.idempotencyKey = some (ledgerIdempotencyKey event (.id r.id))) hforth hback
    (fun r e he e' he' hkey hkey' => ?_) fun e r hr r' hr' hkey hkey' => ?_
  · exact h.unique e he e' he' (hkey.trans hkey'.symm) (by rw [hkey]; nofun)
  · have heq := Option.some.inj (hkey.symm.trans hkey')
    have hid : r.id = r'.id := by simpa [ledgerIdempotencyKey] using heq
    exact row_unique _ (Books.mem_goodsReceipts.mp hr).1 (Books.mem_goodsReceipts.mp hr').1 hid

theorem Payables.receivedBy {w : World} (h : Payables w.db.books) {e : FinancialLedgerEntry}
    {r : PaymentReceipt} (hr : r ∈ w.db.books.goodsReceipts)
    (hkey : e.idempotencyKey = some (ledgerIdempotencyKey e.eventType (.id r.id))) (asOfDate : String) :
    receivedBy (evidenceOf w) e asOfDate = decide (textLE (toISOString r.receivedAt) asOfDate) := by
  obtain ⟨hstored, hlane⟩ := Books.mem_goodsReceipts.mp hr
  unfold Treasury.receivedBy
  rw [evidence_receipt hstored hkey (h.looked_up hstored hlane), Option.any_some]

theorem sum_payments {w : World} (h : Postings w.db.books) (hpayables : Payables w.db.books)
    (asOfDate : String) :
    w.db.books.ledger.sumOf (paymentMinor asOfDate (evidenceOf w)) =
      (w.db.books.goodsReceipts.map (receiptMinor asOfDate)).sum := by
  have hvalue : ∀ e ∈ w.db.books.ledger.rows, e.eventType = .INVOICE_PAYMENT_RECEIVED →
      ∃ r ∈ w.db.books.receipts.rows,
        e.idempotencyKey = some (ledgerIdempotencyKey .INVOICE_PAYMENT_RECEIVED (.id r.id)) ∧
        (r.invoiceType = .merchant_invoice →
          paymentMinor asOfDate (evidenceOf w) e = receiptMinor asOfDate r) ∧
        (r.invoiceType ≠ .merchant_invoice → paymentMinor asOfDate (evidenceOf w) e = 0) := by
    intro e he hevent
    obtain ⟨r, hr, hrow, haccount⟩ := (h.origin e he).of_payment hevent
    refine ⟨r, hr, hrow.key, fun hlane => ?_, fun hlane => ?_⟩
    · have hgoods := Books.mem_goodsReceipts.mpr ⟨hr, hlane⟩
      have hdated := hpayables.receivedBy hgoods (by rw [hevent]; exact hrow.key) asOfDate
      unfold paymentMinor receiptMinor
      rw [hdated, hrow.amount, toMinor_moneyToNumber rfl, haccount, hlane]
      simp [hevent, receiptAccount, SAFEGUARDING]
    · unfold paymentMinor
      rw [haccount]
      cases htype : r.invoiceType with
      | merchant_invoice => exact absurd htype hlane
      | corporate_invoice => simp [receiptAccount, SAFEGUARDING]
  refine h.sum_receiptRows .INVOICE_PAYMENT_RECEIVED (fun r hr => ?_) fun e he hne => ?_
  · obtain ⟨hstored, hlane⟩ := Books.mem_goodsReceipts.mp hr
    obtain ⟨e, he, hkey⟩ := h.posted.payment r hstored
    obtain ⟨r', hr', hkey', hgoods, -⟩ := hvalue e he (h.eventType he hkey)
    have heq := Option.some.inj (hkey.symm.trans hkey')
    have hid : r.id = r'.id := by simpa [ledgerIdempotencyKey] using heq
    obtain rfl := row_unique _ hstored hr' hid
    exact ⟨e, he, hkey, hgoods hlane⟩
  · have hevent : e.eventType = .INVOICE_PAYMENT_RECEIVED := by
      by_contra hnot
      exact hne (if_neg fun hall => hnot hall.1)
    obtain ⟨r, hr, hkey, -, hother⟩ := hvalue e he hevent
    by_cases hlane : r.invoiceType = .merchant_invoice
    · exact ⟨r, Books.mem_goodsReceipts.mpr ⟨hr, hlane⟩, hkey⟩
    · exact absurd (hother hlane) hne

theorem sum_payables {w : World} (h : Postings w.db.books) (hpayables : Payables w.db.books)
    (asOfDate : String) :
    w.db.books.ledger.sumOf (payableMinor asOfDate (evidenceOf w)) =
      (w.db.books.goodsReceipts.map (receiptMinor asOfDate)).sum := by
  refine h.sum_receiptRows .MERCHANT_PAYABLE_ACCRUED (fun r hr => ?_) fun e he hne => ?_
  · obtain ⟨hstored, hlane⟩ := Books.mem_goodsReceipts.mp hr
    obtain ⟨e, he, hrow, horder⟩ := hpayables r hstored hlane
    have hdated := hpayables.receivedBy hr (by rw [hrow.eventType]; exact hrow.key) asOfDate
    refine ⟨e, he, hrow.key, ?_⟩
    unfold payableMinor receiptMinor
    rw [hdated, hrow.amount, toMinor_moneyToNumber rfl]
    simp [hrow.eventType, horder]
  · have hcounted : e.eventType = .MERCHANT_PAYABLE_ACCRUED ∧ e.orderId = none := by
      by_contra hnot
      exact hne (if_neg fun hall => hnot ⟨hall.1, hall.2.1⟩)
    rcases (h.origin e he).of_payable hcounted.1 with ⟨horder, -⟩ | ⟨r, hr, hlane, hrow, -⟩
    · exact absurd hcounted.2 horder
    · exact ⟨r, Books.mem_goodsReceipts.mpr ⟨hr, hlane⟩, hrow.key⟩

section Views

variable [Runtime]

/-- **The two views of a gathering balance.**  What it gathers in a reachable state has, at every cut-off, no
difference that is not outstanding internally. -/
theorem Run.views_balance {tr : List (Event World Site)} {cfg : Config World Site (Except Err Reply)}
    (h : Run tr cfg) : ∃ gathered, gatherMovements.exec cfg.state = (.ok gathered, cfg.state) ∧
      ∀ inputs : TreasuryInputs, inputs.cashMovements = gathered.cashMovements →
        inputs.obligationMovements = gathered.obligationMovements →
          (buildTreasurySnapshot inputs).snapshot.deltas.cashVsObligationsMinor = 0 := by
  have hpostings := h.reachable.postings
  have hpayables := h.reachable.payables
  refine ⟨_, gatherMovements_exec cfg.state, fun inputs hcash hobligations => ?_⟩
  have hpaid := sum_safeguardingRows cfg.state
    (g := paymentMinor inputs.asOfDate (evidenceOf cfg.state)) fun e hevent => if_neg fun hall => ?_
  · have hpayable := sum_safeguardingRows cfg.state
      (g := payableMinor inputs.asOfDate (evidenceOf cfg.state)) fun e hevent => if_neg fun hall => ?_
    · rw [cashVsObligations_eq ⟨hcash, hobligations⟩, hpaid, hpayable, sum_payments hpostings hpayables,
        sum_payables hpostings hpayables, Int.sub_self]
    · rw [hall.1] at hevent
      exact hevent (by decide)
  · rw [hall.1] at hevent
    exact hevent (by decide)

end Views

theorem Run.views_balance_recovered :
    let run := Pilot.played (Pilot.inOrder (Pilot.recovering ++ [.markSettledZeroNet 22]))
    (safeguardingRows run.2.state).length = 6 ∧
      ∃ gathered, gatherMovements.exec run.2.state = (.ok gathered, run.2.state) ∧
        ∀ inputs : TreasuryInputs, inputs.cashMovements = gathered.cashMovements →
          inputs.obligationMovements = gathered.obligationMovements →
            (@buildTreasurySnapshot plainRuntime inputs).snapshot.deltas.cashVsObligationsMinor = 0 :=
  ⟨by decide +kernel, @Run.views_balance plainRuntime _ _ (Pilot.run _)⟩

end Qift
