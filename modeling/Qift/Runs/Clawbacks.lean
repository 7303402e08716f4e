import Qift.Takings
import Qift.Runs.Batches
import Qift.Runs.Refunds

/-!
# Clawbacks over runs

What refunds after the settlement take back of it.

* `Books.raisedMinor` — the receivables raised for an invoice; they make up the refunds after its settlement.
* `Clawback` — an item that was settled and the receivables of its invoice.  **`Run.clawback`** — every settlement of
  every run has it.
-/

namespace Qift

open Relational Relational.Table Interleaving Settlement Financial

def Books.raisedFor (b : Books) (invoiceId : Nat) (r : SettlementReceivable) : Bool :=
  (b.refunds.find r.occurrenceId).any fun f => f.invoiceType = .merchant_invoice ∧ f.invoiceId = invoiceId

/-- The receivables raised for an invoice, in minor units. -/
def Books.raisedMinor (b : Books) (invoiceId : Nat) : Int :=
  b.receivables.sumOf fun r => if b.raisedFor invoiceId r then r.amount.cents else 0

section Reached

variable [Runtime]

theorem Reachable.takings {s : World} (h : Reachable s) : Takings s.db.books := by
  induction h with
  | refl => exact takings_empty
  | tail hpre hstep ih =>
      obtain ⟨site, hact⟩ := hstep
      have hreached : Reachable _ := hpre
      exact ih.effect hreached.collections hreached.caps hact

end Reached

theorem RaisedBy.raisedFor {b : Books} {r : SettlementReceivable} {f : SettlementRefund} (h : RaisedBy r f)
    (hf : f ∈ b.refunds.rows) (invoiceId : Nat) : b.raisedFor invoiceId r = true ↔ f.invoiceId = invoiceId := by
  unfold Books.raisedFor
  rw [h.occurrence, find_of_mem hf]
  simp [h.lane]

/-- The receivables of an invoice make up its refunds after the settlement. -/
theorem Takings.raisedMinor_eq {b : Books} (h : Takings b) (invoiceId : Nat) :
    b.raisedMinor invoiceId = b.accruedMinor invoiceId := by
  have hrefunds : b.refunds.rows.Nodup := List.Nodup.of_map _ b.refunds.nodup
  have hvalue {r : SettlementReceivable} {f : SettlementRefund} (hf : f ∈ b.refunds.rows) (hraised : RaisedBy r f) :
      (if b.raisedFor invoiceId r then r.amount.cents else 0) =
        if f.invoiceType = .merchant_invoice ∧ f.invoiceId = invoiceId then f.amount.cents else 0 := by
    by_cases hinvoice : f.invoiceId = invoiceId
    · rw [if_pos ((hraised.raisedFor hf invoiceId).mpr hinvoice), if_pos ⟨hraised.lane, hinvoice⟩, hraised.amount]
    · rw [if_neg fun hfor => hinvoice ((hraised.raisedFor hf invoiceId).mp hfor), if_neg fun hc => hinvoice hc.2]
  unfold Books.raisedMinor
  have haccruing : (b.refunds.rows.filter fun f =>
      f.invoiceType = .merchant_invoice ∧ f.settlementInteraction = .receivable_accrued).Nodup := hrefunds.filter _
  rw [sumOf_eq_sum (R := fun f r => RaisedBy r f) haccruing
      (v := fun f => if f.invoiceType = .merchant_invoice ∧ f.invoiceId = invoiceId then f.amount.cents else 0)]
  · rw [sum_map_filter]
    refine congrArg List.sum (List.map_congr_left fun f _ => ?_)
    by_cases haccrued : f.settlementInteraction = .receivable_accrued
    · by_cases hlane : f.invoiceType = .merchant_invoice <;> simp [haccrued, hlane]
    · simp [haccrued]
  · intro f hf
    obtain ⟨hmem, haccrued⟩ := List.mem_filter.mp hf
    obtain ⟨hlane, hinteraction⟩ := of_decide_eq_true haccrued
    obtain ⟨r, hr, hraised⟩ := h.raises f hmem hlane hinteraction
    exact ⟨r, hr, hraised, hvalue hmem hraised⟩
  · intro r hr _
    obtain ⟨f, hf, hraised⟩ := h.raised r hr
    exact ⟨f, List.mem_filter.mpr ⟨hf, by simp [hraised.lane, hraised.interaction]⟩, hraised⟩
  · exact fun f r hr r' hr' hraised hraised' =>
      h.oneReceivable r hr r' hr' (hraised.occurrence.trans hraised'.occurrence.symm)
  · intro r f hf f' hf' hraised hraised'
    exact row_unique _ (List.mem_filter.mp hf).1 (List.mem_filter.mp hf').1
      (hraised.occurrence.symm.trans hraised'.occurrence)

/-! ### A settled item -/

theorem Frozen.amount {batch : SettlementBatch} {i i' : SettlementItem} (h : Frozen batch i) (h' : Frozen batch i')
    (hid : i'.id = i.id) (hnodup : (memberIds batch).Nodup) : i'.amount = i.amount := by
  obtain ⟨⟨c, hc, hcid, hamount⟩, -⟩ := h
  obtain ⟨⟨c', hc', hcid', hamount'⟩, -⟩ := h'
  have hentry : c = c' := List.inj_on_of_nodup_map hnodup hc hc' (hcid.trans (hid.symm.trans hcid'.symm))
  rw [← hentry, hamount] at hamount'
  exact (moneyToNumber_injective hamount').symm

section Runs

variable [Runtime]

theorem Settles.amount {e : Event World Site} {y : SettlementItem} (hy : Settles e y) (hpost : Reachable e.post)
    {t : World} (hst : Rely Step e.post t) :
    ∃ z, t.db.items.find y.id = some z ∧ z.state ∈ FINAL_STATES ∧ z.amount = y.amount ∧
      z.occurrenceId = y.occurrenceId := by
  obtain ⟨z, hz, hfinal, hbatch⟩ := hy.kept hpost hst
  have hlater := later_of_rely hst
  have hreached : Reachable t := hpost.trans hst
  have hstored : y ∈ e.post.db.books.items.rows := mem_of_find hy.stored
  obtain ⟨n, batch, hn, hfound, hto, -⟩ := hpost.custody.closed_of_final hstored (by simp [hy.settled, FINAL_STATES])
  obtain ⟨row, hrow, hsame⟩ := hlater.batches _ _ hfound
  have hitem : z ∈ t.db.books.items.rows := mem_of_find hz
  obtain ⟨row', hrow', hto'⟩ := hreached.custody.boundTo hitem (hbatch.trans hn)
  obtain rfl := Option.some.inj (hrow'.symm.trans hrow)
  have hfrozen : Frozen batch z := by
    obtain ⟨hentry, hstore, hcurrency⟩ := hto'.frozen
    exact ⟨hsame.composition ▸ hentry, hstore.trans hsame.storeId, hcurrency.trans hsame.currency⟩
  have hbatchOk := hpost.custody.batches batch (mem_of_find hfound)
  obtain ⟨z', hz', hkept⟩ := hlater.items _ _ hy.stored
  obtain rfl := Option.some.inj (hz'.symm.trans hz)
  exact ⟨z', hz, hfinal, Frozen.amount hto.frozen hfrozen (key_of_find hz) hbatchOk.nodup, hkept.occurrenceId⟩

theorem Run.accrues {before after : List (Event World Site)} {e : Event World Site}
    {cfg : Config World Site (Except Err Reply)} (h : Run (before ++ e :: after) cfg) {y : SettlementItem}
    (hy : Settles e y) {e' : Event World Site} (he' : e' ∈ after) {f : SettlementRefund} (hf : Records e' f)
    (hlane : f.invoiceType = .merchant_invoice) (hinvoice : f.invoiceId = y.occurrenceId) :
    f.settlementInteraction = .receivable_accrued := by
  have hmem : e ∈ before ++ e :: after := by simp
  have hmem' : e' ∈ before ++ e :: after := by simp [he']
  obtain ⟨hpre, hact, -⟩ := h.event hmem
  have hpost : Reachable e.post := hpre.trans (Rely.single hact)
  obtain ⟨hpre', hact', -⟩ := h.event hmem'
  have hpost' : Reachable e'.post := hpre'.trans (Rely.single hact')
  -- the item is settled when the refund is recorded
  obtain ⟨u, -, honward⟩ := h.path.split_append
  obtain ⟨_, _, -, hbetween, -, -⟩ := honward.cons_inv.2.2.split he'
  obtain ⟨z, hz, -, hamount, hoccurrence⟩ := hy.amount hpost hbetween.rely
  obtain ⟨z', hz', -, hamount', hoccurrence'⟩ := hy.amount hpost (hbetween.rely.trans (Rely.single hact'))
  obtain ⟨inv, hinv, hgross⟩ := (hpre'.takings.items z (mem_of_find hz)).gross
  obtain ⟨inv', hinv', hgross'⟩ := (hpost'.takings.items z' (mem_of_find hz')).gross
  rw [hoccurrence, hamount] at hgross
  rw [hoccurrence', hamount'] at hgross'
  rw [hoccurrence] at hinv
  rw [hoccurrence'] at hinv'
  obtain ⟨row, hrow, -, hsame⟩ := hact'.later.invoice hinv
  obtain rfl := Option.some.inj (hrow.symm.trans hinv')
  have hstores := h.stores hmem' hf
  rcases hstores.recorded.goods hlane with hreduced | haccrued
  · -- a refund that shrinks the item would move its amount
    have htaken : e'.post.db.books.reducedMinor y.occurrenceId =
        e'.pre.db.books.reducedMinor y.occurrenceId + f.amount.cents := by
      rw [Books.reducedMinor, Books.sumRefunds_create hstores.created, if_pos ⟨hlane, hinvoice⟩, if_pos hreduced]
      rfl
    have hpositive := hstores.recorded.positive
    rw [hsame.totalAmount] at hgross'
    omega
  · exact haccrued

theorem Run.unaccrued {before after : List (Event World Site)} {e : Event World Site}
    {cfg : Config World Site (Except Err Reply)} (h : Run (before ++ e :: after) cfg) {y : SettlementItem}
    (hy : Settles e y) {e' : Event World Site} (he' : e' ∈ before) {f : SettlementRefund} (hf : Records e' f)
    (hlane : f.invoiceType = .merchant_invoice) (hinvoice : f.invoiceId = y.occurrenceId) :
    f.settlementInteraction ≠ .receivable_accrued := by
  intro haccrued
  have hmem : e ∈ before ++ e :: after := by simp
  obtain ⟨hpre, hact, -⟩ := h.event hmem
  obtain ⟨u, hpath, hrest⟩ := h.path.split_append
  obtain ⟨rfl, -, -⟩ := hrest.cons_inv
  obtain ⟨_, _, -, -, -, hbetween⟩ := hpath.split he'
  have hstored := (later_of_rely hbetween.rely).refunds.keep (mem_of_find hf.posted)
  -- the item was ready, so nothing was accrued
  obtain ⟨batch, x, hsettles⟩ := h.settles hmem hy
  have hx : x ∈ e.pre.db.books.items.rows := mem_of_find hsettles.found
  have hnone := (hpre.takings.items x hx).unsettled (by simp [hsettles.ready, FINAL_STATES])
  have hoccurrence : x.occurrenceId = y.occurrenceId := by rw [hsettles.settled]
  have hle := List.single_le_sum (l := e.pre.db.books.refunds.rows.map fun r =>
    if r.invoiceType = .merchant_invoice ∧ r.invoiceId = y.occurrenceId then
      if r.settlementInteraction = .receivable_accrued then r.amount.cents else 0 else 0) (fun v hv => ?_) _
    (List.mem_map.mpr ⟨f, hstored, rfl⟩)
  · have hpositive := (hpre.caps.refunds f hstored).positive
    rw [if_pos ⟨hlane, hinvoice⟩, if_pos haccrued] at hle
    rw [hoccurrence] at hnone
    have hsum : _ = (0 : Int) := hnone
    exact absurd (hle.trans_eq hsum) (not_le.mpr hpositive)
  · obtain ⟨r, hr, rfl⟩ := List.mem_map.mp hv
    exact (hpre.caps.refunds r hr).counted _ _

/-- A settled item and what was clawed back of it: the receivables of its invoice stay within what was settled,
every refund recorded since raised one over its own amount, and the item is reversed when they make it up. -/
structure Clawback (after : List (Event World Site)) (w : World) (y : SettlementItem) : Prop where
  bounded : w.db.books.raisedMinor y.occurrenceId ≤ y.amount.cents
  raises : ∀ e ∈ after, ∀ f, Records e f → f.invoiceType = .merchant_invoice → f.invoiceId = y.occurrenceId →
    ∃ r ∈ w.db.receivables.rows, r.occurrenceId = f.id ∧ r.amount = f.amount ∧
      ∀ r' ∈ w.db.receivables.rows, r'.occurrenceId = f.id → r' = r
  raised : ∀ r ∈ w.db.receivables.rows, w.db.books.raisedFor y.occurrenceId r = true →
    ∃ e ∈ after, ∃ f, Records e f ∧ r.occurrenceId = f.id ∧ f.invoiceType = .merchant_invoice ∧
      f.invoiceId = y.occurrenceId
  reversed : ∃ z, w.db.items.find y.id = some z ∧ z.amount = y.amount ∧
    (z.state = .reversed ↔ 0 < y.amount.cents ∧ w.db.books.raisedMinor y.occurrenceId = y.amount.cents)

/-- **Every settlement of every run is clawed back within its bounds.** -/
theorem Run.clawback {before after : List (Event World Site)} {e : Event World Site}
    {cfg : Config World Site (Except Err Reply)} (h : Run (before ++ e :: after) cfg) {y : SettlementItem}
    (hy : Settles e y) : Clawback after cfg.state y := by
  have hmem : e ∈ before ++ e :: after := by simp
  obtain ⟨hpre, hact, hlast⟩ := h.event hmem
  have hpost : Reachable e.post := hpre.trans (Rely.single hact)
  have htakings := h.reachable.takings
  obtain ⟨z, hz, hfinal, hamount, hoccurrence⟩ := hy.amount hpost hlast
  have htaken := htakings.items z (mem_of_find hz)
  have hraised := htakings.raisedMinor_eq y.occurrenceId
  constructor
  · have hle := htaken.accrued_le htakings h.reachable.caps
    rw [hoccurrence, hamount] at hle
    exact hraised.trans_le hle
  · intro e' he' f hf hlane hinvoice
    have haccrued := h.accrues hy he' hf hlane hinvoice
    have hmem' : e' ∈ before ++ e :: after := by simp [he']
    have hstored := (later_of_rely (h.event hmem').2.2).refunds.keep (mem_of_find hf.posted)
    obtain ⟨r, hr, hby⟩ := htakings.raises f hstored hlane haccrued
    exact ⟨r, hr, hby.occurrence, hby.amount, fun r' hr' hid =>
      htakings.oneReceivable r' hr' r hr (hid.trans hby.occurrence.symm)⟩
  · intro r hr hfor
    obtain ⟨f, hf, hby⟩ := htakings.raised r hr
    have hinvoice := (hby.raisedFor hf y.occurrenceId).mp hfor
    obtain ⟨e', he', hrecords⟩ := h.recorded hf
    refine ⟨e', ?_, f, hrecords, hby.occurrence, hby.lane, hinvoice⟩
    rcases List.mem_append.mp he' with hbefore | hrest
    · exact absurd (h.unaccrued hy hbefore hrecords hby.lane hinvoice) (by simp [hby.interaction])
    · rcases List.mem_cons.mp hrest with rfl | hafter
      · -- a settlement records no refund
        obtain ⟨batch, x, hsettles⟩ := h.settles hmem hy
        obtain ⟨gate, hlabel⟩ := hsettles.label
        obtain ⟨origin, hsite, -⟩ := (h.stores hmem hrecords).labelled
        rw [hby.lane, recordSite] at hsite
        rw [hsite] at hlabel
        rcases hlabel with hlabel | hlabel <;> cases hlabel
      · exact hafter
  · refine ⟨z, hz, hamount, ?_⟩
    have hreversed := htaken.reversed
    rw [hoccurrence, hamount] at hreversed
    rw [hreversed, hraised]
    constructor
    · rintro ⟨hpositive, hfull⟩
      exact ⟨hfull ▸ hpositive, hfull⟩
    · rintro ⟨hpositive, hfull⟩
      exact ⟨hfull.symm ▸ hpositive, hfull⟩

end Runs

def settlesItem (itemId : Nat) (e : Event World Site) : Bool :=
  (e.post.db.items.find itemId).any (fun y => y.state = .settled) &&
    (e.pre.db.items.find itemId).all fun x => x.state ≠ .settled

theorem settles_of_check {itemId : Nat} {e : Event World Site} (h : settlesItem itemId e = true) :
    ∃ y, y.id = itemId ∧ Settles e y ∧ e.post.db.items.find itemId = some y := by
  simp only [settlesItem, Bool.and_eq_true, Option.any_eq_true, Option.all_eq_true, decide_eq_true_eq] at h
  obtain ⟨⟨y, hy, hsettled⟩, hfresh⟩ := h
  obtain rfl : y.id = itemId := key_of_find hy
  exact ⟨y, rfl, ⟨hy, hsettled, hfresh⟩, hy⟩

/-- A batch over one item of a hundred is paid and refunded in parts. -/
def Pilot.paidBack (parts : List (Number × String)) : List (Choice Call) :=
  inOrder (assembled ++ remit :: parts.map fun p => refund .merchant_invoice 0 p.1 p.2)

theorem Run.clawback_paidBack :
    let run := Pilot.played (Pilot.paidBack [(30, "R-1"), (70, "R-2")])
    (run.2.state.db.items.rows.map SettlementItem.state) = [.reversed] ∧ run.2.state.db.books.raisedMinor 0 = 10000 ∧
      ∃ before e after y, run.1 = before ++ e :: after ∧ y.id = 5 ∧ Settles e y ∧ Clawback after run.2.state y := by
  intro run
  obtain ⟨hstate, hraised, hany⟩ : (run.2.state.db.items.rows.map SettlementItem.state) = [.reversed] ∧
      run.2.state.db.books.raisedMinor 0 = 10000 ∧ run.1.any (settlesItem 5) = true := by decide +kernel
  refine ⟨hstate, hraised, ?_⟩
  obtain ⟨e, he, hcheck⟩ := List.any_eq_true.mp hany
  obtain ⟨before, after, htrace⟩ := List.append_of_mem he
  obtain ⟨y, hid, hsettles, -⟩ := settles_of_check hcheck
  have hrun := Pilot.run (Pilot.paidBack [(30, "R-1"), (70, "R-2")])
  have htraced : (Pilot.played (Pilot.paidBack [(30, "R-1"), (70, "R-2")])).1 = before ++ e :: after := htrace
  rw [htraced] at hrun
  exact ⟨before, e, after, y, htrace, hid, hsettles, @Run.clawback plainRuntime _ _ _ _ hrun _ hsettles⟩

/-- An item that was refunded in full is settled in a batch with another one. -/
def Pilot.emptied : List (Choice Call) :=
  inOrder [.surround widened, issueGoods 100, receive .merchant_invoice 0 100 "B-1", issueSecond 20,
    receive .merchant_invoice 6 20 "B-2", refund .merchant_invoice 0 100 "R-1", .evaluate 500,
    .assembleBatch 1 500 "SAR" fun _ => ["QS-1"],
    .markSettled 16 { bankTransferReference := "T-1", executedAt := newYear, executedBy := 2 }]

/-- **An item is settled at nothing**: there is nothing to claw back of it, and it is not reversed. -/
theorem Run.settled_at_nothing :
    ∃ before e after cfg y, @Run plainRuntime (before ++ e :: after) cfg ∧ Settles e y ∧
      cfg.state.db.books.raisedMinor y.occurrenceId = y.amount.cents ∧
      ∃ z, cfg.state.db.items.find y.id = some z ∧ z.state ≠ .reversed := by
  obtain ⟨hany, hend⟩ :
      ((Pilot.played Pilot.emptied).1.any fun e => settlesItem 5 e && (e.post.db.items.find 5).all fun y =>
        (Pilot.played Pilot.emptied).2.state.db.books.raisedMinor y.occurrenceId = y.amount.cents) = true ∧
      (((Pilot.played Pilot.emptied).2.state.db.items.find 5).any fun z => z.state ≠ .reversed) = true := by
    decide +kernel
  obtain ⟨e, he, hcheck⟩ := List.any_eq_true.mp hany
  rw [Bool.and_eq_true] at hcheck
  obtain ⟨before, after, htrace⟩ := List.append_of_mem he
  obtain ⟨y, hid, hsettles, hfound⟩ := settles_of_check hcheck.1
  have hrun := Pilot.run Pilot.emptied
  have htraced : (Pilot.played Pilot.emptied).1 = before ++ e :: after := htrace
  rw [htraced] at hrun
  obtain ⟨z, hz, hstate⟩ := (Option.any_eq_true _ _).mp hend
  have hraised := hcheck.2
  rw [hfound, Option.all_some, decide_eq_true_eq] at hraised
  rw [decide_eq_true_eq] at hstate
  exact ⟨before, e, after, _, y, hrun, hsettles, hraised, z, hid ▸ hz, hstate⟩

end Qift
