import Qift.Runs.Requests

/-!
# Refunds over runs

What a refund records of the books it was stored on, and what that makes of the refunds of one invoice.

* `RecordedOn` — a refund is new under its evidence, stays within its invoice, carries the VAT derived from the
  refunds before it and moves cash unless it credits an unpaid fee invoice.
* **`Effect.recorded`**, **`Run.recorded`** — every stored refund was recorded so, by one event of the run.
-/

namespace Qift

open Relational Relational.Table Interleaving Settlement Financial

/-- The place that stores a refund of a leg. -/
def recordSite : InvoiceType → Option RefundOrigin → Site
  | .merchant_invoice => .refund
  | .corporate_invoice => .feeRefund

/-- A refund against the books it is stored on. -/
structure RecordedOn (b : Books) (f : SettlementRefund) : Prop where
  positive : 0 < f.amount.cents
  unused : Unused b f.invoiceType f.invoiceId f.evidenceRef
  vat : ∃ terms, b.terms f.invoiceType f.invoiceId = some terms ∧
    b.refundedMinor f.invoiceType f.invoiceId + f.amount.cents ≤ terms.totalMinor ∧
    f.vatComponent.cents = b.refundVatMinor f.invoiceType f.invoiceId terms f.amount.cents
  goods : f.invoiceType = .merchant_invoice →
    f.settlementInteraction = .item_reduced ∨ f.settlementInteraction = .receivable_accrued
  fee : f.invoiceType = .corporate_invoice → ∃ inv, b.corporateInvoices.find f.invoiceId = some inv ∧
    f.settlementInteraction = feeInteraction inv

/-- A refund stored for a request is the one the request asks for. -/
def ForRequest (b : Books) (origin : Option RefundOrigin) (f : SettlementRefund) : Prop :=
  ∀ o, origin = some o → o.evidenceRef = f.evidenceRef ∧
    ∃ r, b.refundRequests.find o.requestId = some r ∧ AsksFor r f

theorem Decimal.ext_cents {d d' : Decimal} (h : d.cents = d'.cents) : d = d' := by
  cases d
  cases d'
  exact congrArg Decimal.mk h

theorem Ordered.forRequest {b : Books} {origin : Option RefundOrigin} {invoiceType : InvoiceType}
    {invoiceId : Nat} {draft : RefundDraft} (h : Ordered b origin invoiceType invoiceId draft)
    {f : SettlementRefund} (htype : f.invoiceType = invoiceType) (hinvoice : f.invoiceId = invoiceId)
    (hevidence : f.evidenceRef = draft.evidenceRef) (hamount : f.amount.cents = draft.amountMinor) :
    ForRequest b origin f := by
  intro o ho
  obtain ⟨hev, r, hr, htype', hinvoice', hamount'⟩ := h o ho
  refine ⟨hev.trans hevidence.symm, r, hr, htype.trans htype'.symm, hinvoice.trans hinvoice'.symm, ?_⟩
  exact Decimal.ext_cents (hamount.trans hamount'.symm)

theorem find_created {ρ κ : Type} {key : ρ → κ} [DecidableEq κ] {t t' : Table key} {row r : ρ} {k : κ}
    (hcreate : t.create row = some t') (hpost : t'.find k = some r) (hpre : t.find k = none) : r = row := by
  rcases (mem_create hcreate).mp (mem_of_find hpost) with hold | hnew
  · have hk : key r = k := key_of_find hpost
    rw [← hk, find_of_mem hold] at hpre
    cases hpre
  · exact hnew

section Effects

variable [Runtime] {l : Site} {b b' : Books}

omit [Runtime] in
theorem Refunds.recordedOn {origin : Option RefundOrigin} {draft : RefundDraft} {inv : MerchantInvoice}
    {item : SettlementItem} (h : Refunds b origin draft inv item) (hcaps : Caps b)
    {interaction : SettlementInteraction}
    (hgoods : interaction = .item_reduced ∨ interaction = .receivable_accrued) (id : Nat) :
    RecordedOn b (refundRow draft inv (fromMinor (b.refundVatMinor .merchant_invoice inv.id inv.terms
      draft.amountMinor) .SAR) interaction id) := by
  obtain ⟨hterms, htotal, -⟩ := h.capped hcaps
  refine ⟨?_, h.unused, ⟨inv.terms, hterms, ?_, ?_⟩, fun _ => hgoods, nofun⟩
  · exact (refundAmount_cents draft).symm ▸ h.positive
  · exact (refundAmount_cents draft).symm ▸ htotal
  · change (Decimal.ofNumber (fromMinor _ .SAR)).cents = b.refundVatMinor .merchant_invoice inv.id
      inv.terms (Decimal.ofNumber draft.amount).cents
    rw [ofNumber_fromMinor_cents, refundAmount_cents]

omit [Runtime] in
theorem FeeRefunds.recordedOn {origin : Option RefundOrigin} {draft : RefundDraft}
    {inv : CorporateInvoice} (h : FeeRefunds b origin draft inv) (id : Nat) :
    RecordedOn b (feeRefundRow draft inv (fromMinor (b.refundVatMinor .corporate_invoice inv.id inv.terms
      draft.amountMinor) .SAR) (feeInteraction inv) id) := by
  have hterms : b.terms .corporate_invoice inv.id = some inv.terms :=
    congrArg (Option.map CorporateInvoice.terms) h.stored
  refine ⟨?_, h.unused, ⟨inv.terms, hterms, ?_, ?_⟩, nofun, fun _ => ⟨inv, h.stored, rfl⟩⟩
  · exact (refundAmount_cents draft).symm ▸ h.positive
  · exact (refundAmount_cents draft).symm ▸ h.total
  · change (Decimal.ofNumber (fromMinor _ .SAR)).cents = b.refundVatMinor .corporate_invoice inv.id
      inv.terms (Decimal.ofNumber draft.amount).cents
    rw [ofNumber_fromMinor_cents, refundAmount_cents]

/-- A refund that an action of a label stores. -/
structure Stores (l : Site) (b b' : Books) (f : SettlementRefund) : Prop where
  created : b.refunds.create f = some b'.refunds
  recorded : RecordedOn b f
  labelled : ∃ origin, l = recordSite f.invoiceType origin ∧ ForRequest b origin f
  terms : ∀ invoiceType invoiceId, b'.terms invoiceType invoiceId = b.terms invoiceType invoiceId

/-- **An action stores one refund at most**, recorded on the books it found. -/
theorem Effect.refunds (heffect : Effect l b b') (hcaps : Caps b) :
    b'.refunds = b.refunds ∨ ∃ f, Stores l b b' f := by
  cases heffect with
  | @reduce _ origin draft inv item refunds ledger n hrefunds hstate hunbound hamount hcreate hposts hn =>
      refine Or.inr ⟨_, hcreate, hrefunds.recordedOn hcaps (Or.inl rfl) _, ⟨origin, rfl, ?_⟩, fun _ _ => rfl⟩
      exact hrefunds.ordered.forRequest rfl rfl rfl (refundAmount_cents draft)
  | @accrue _ origin draft inv item refunds receivables accruedAt reversed ledger id n hrefunds hstate
      hreversed hcreate haccrue hposts hid hn =>
      refine Or.inr ⟨_, hcreate, hrefunds.recordedOn hcaps (Or.inr rfl) _, ⟨origin, rfl, ?_⟩, fun _ _ => rfl⟩
      exact hrefunds.ordered.forRequest rfl rfl rfl (refundAmount_cents draft)
  | @feeRefund _ origin draft inv refunds ledger n hrefunds hcreate hposts hn =>
      refine Or.inr ⟨_, hcreate, hrefunds.recordedOn _, ⟨origin, rfl, ?_⟩, fun _ _ => rfl⟩
      exact hrefunds.ordered.forRequest rfl rfl rfl (refundAmount_cents draft)
  | _ => exact Or.inl rfl

/-- The refund a newly found row is. -/
theorem Effect.stored (heffect : Effect l b b') (hcaps : Caps b) {k : Nat} {f : SettlementRefund}
    (hpost : b'.refunds.find k = some f) (hpre : b.refunds.find k = none) : Stores l b b' f := by
  rcases heffect.refunds hcaps with hsame | ⟨g, hg⟩
  · rw [hsame, hpre] at hpost
    cases hpost
  · obtain rfl := find_created hg.created hpost hpre
    exact hg

end Effects

/-- An event that stores a refund. -/
structure Records (e : Event World Site) (f : SettlementRefund) : Prop where
  posted : e.post.db.refunds.find f.id = some f
  fresh : e.pre.db.refunds.find f.id = none

/-- The refunds an event stores. -/
def newRefunds (e : Event World Site) : List SettlementRefund :=
  e.post.db.refunds.rows.filter fun f => (e.pre.db.refunds.find f.id).isNone

section Runs

variable [Runtime] {tr : List (Event World Site)} {cfg : Config World Site (Except Err Reply)}

omit [Runtime] in
theorem mem_newRefunds {e : Event World Site} {f : SettlementRefund} :
    f ∈ newRefunds e ↔ Records e f := by
  unfold newRefunds
  rw [List.mem_filter, Option.isNone_iff_eq_none]
  constructor
  · rintro ⟨hmem, hfresh⟩
    exact ⟨find_of_mem hmem, hfresh⟩
  · rintro ⟨hposted, hfresh⟩
    exact ⟨mem_of_find hposted, hfresh⟩

theorem Run.stores (h : Run tr cfg) {e : Event World Site} (he : e ∈ tr) {f : SettlementRefund}
    (hf : Records e f) : Stores e.lbl e.pre.db.books e.post.db.books f := by
  obtain ⟨hpre, hact, -⟩ := h.event he
  exact Effect.stored hact hpre.caps hf.posted hf.fresh

/-- **Every stored refund was recorded by an event of the run.** -/
theorem Run.recorded (h : Run tr cfg) {f : SettlementRefund} (hf : f ∈ cfg.state.db.refunds.rows) :
    ∃ e ∈ tr, Records e f := by
  obtain ⟨e, he, hact, hpre, hpost⟩ := h.path.flip
    (P := fun w : World => w.db.refunds.find f.id ≠ none) (by simp [World.empty])
    (by rw [find_of_mem hf]; simp)
  obtain ⟨g, hg⟩ := Option.ne_none_iff_exists'.mp hpost
  -- a stored refund stays as it is
  obtain ⟨_, hf', rfl⟩ := (later_of_rely (h.event he).2.2).refunds _ _ hg
  obtain rfl := Option.some.inj (hf'.symm.trans (find_of_mem hf))
  exact ⟨e, he, hg, not_not.mp hpre⟩

end Runs

/-! ### The VAT of the refunds of an invoice -/

/-- The shares in its VAT of what was refunded on an invoice, each rounded on its own. -/
def Books.shareMinor (b : Books) (invoiceType : InvoiceType) (invoiceId : Nat) (terms : InvoiceTerms) : Int :=
  b.sumRefunds invoiceType invoiceId fun f =>
    Proration.roundedShare terms.totalMinor terms.vatMinor f.amount.cents

/-- Until an invoice is refunded in full, what was reversed of its VAT are these shares. -/
def VatTracks (b : Books) : Prop :=
  ∀ invoiceType invoiceId terms, b.terms invoiceType invoiceId = some terms →
    b.refundedMinor invoiceType invoiceId < terms.totalMinor →
    b.refundedVatMinor invoiceType invoiceId = min terms.vatMinor (b.shareMinor invoiceType invoiceId terms)

theorem vatTracks_empty : VatTracks World.empty.db.books := by
  intro invoiceType invoiceId terms hterms
  cases invoiceType
  · simp [Books.terms, Db.books, World.empty] at hterms
  · simp [Books.terms, Db.books, World.empty] at hterms

theorem Books.refundVatMinor_eq (b : Books) (invoiceType : InvoiceType) (invoiceId : Nat)
    (terms : InvoiceTerms) (amountMinor : Int) :
    b.refundVatMinor invoiceType invoiceId terms amountMinor =
      Proration.instalment terms.totalMinor terms.vatMinor (b.refundedMinor invoiceType invoiceId)
        (b.refundedVatMinor invoiceType invoiceId) amountMinor := rfl

section Effects

variable [Runtime] {l : Site} {b b' : Books}

theorem VatTracks.effect (h : VatTracks b) (hcaps : Caps b) (heffect : Effect l b b') : VatTracks b' := by
  intro invoiceType invoiceId terms hterms hopen
  rcases heffect.refunds hcaps with hsame | ⟨f, hf⟩
  · have hsums (value : SettlementRefund → Int) :
        b'.sumRefunds invoiceType invoiceId value = b.sumRefunds invoiceType invoiceId value := by
      unfold Books.sumRefunds
      rw [hsame]
    unfold Books.refundedMinor at hopen
    unfold Books.refundedVatMinor Books.shareMinor
    rw [hsums] at hopen ⊢
    rw [hsums]
    rcases heffect.terms hterms with hold | ⟨rfl, -, htaxed⟩
    · exact h invoiceType invoiceId terms hold hopen
    · -- nothing was refunded on an invoice that is issued now
      have hnone : b.terms invoiceType b.nextId = none := by
        by_contra hne
        obtain ⟨old, hold⟩ := Option.ne_none_iff_exists'.mp hne
        exact (hcaps.invoices _ _ _ hold).fresh.false
      rw [hcaps.sumRefunds_uninvoiced hnone, hcaps.sumRefunds_uninvoiced hnone]
      exact (min_eq_right htaxed.1).symm
  · rw [hf.terms] at hterms
    have hsums := Books.sumRefunds_create hf.created invoiceType invoiceId
    unfold Books.refundedMinor at hopen
    unfold Books.refundedVatMinor Books.shareMinor
    rw [hsums] at hopen ⊢
    rw [hsums]
    by_cases hinvoice : f.invoiceType = invoiceType ∧ f.invoiceId = invoiceId
    · obtain ⟨rfl, rfl⟩ := hinvoice
      obtain ⟨_, hterms', -, hvat⟩ := hf.recorded.vat
      obtain rfl := Option.some.inj (hterms'.symm.trans hterms)
      have hpos := hf.recorded.positive
      simp only [and_self, if_true] at hopen ⊢
      have htracks := h _ _ _ hterms (lt_trans (by unfold Books.refundedMinor; omega) hopen)
      rw [hvat, Books.refundVatMinor_eq]
      refine Proration.instalment_tracks ?_ (hcaps.invoices _ _ _ hterms).taxed.1 hpos.le htracks hopen.ne
      have hprior := hcaps.refunded_nonneg f.invoiceType f.invoiceId
      unfold Books.refundedMinor at hprior
      omega
    · rw [if_neg hinvoice, add_zero] at hopen ⊢
      rw [if_neg hinvoice, add_zero]
      exact h invoiceType invoiceId terms hterms hopen

end Effects

section Runs

variable [Runtime] {tr : List (Event World Site)} {cfg : Config World Site (Except Err Reply)}

theorem Reachable.vatTracks {s : World} (h : Reachable s) : VatTracks s.db.books :=
  (Rely.stable (P := fun w : World => Caps w.db.books ∧ VatTracks w.db.books)
    (fun _ _ _ hact hs => ⟨hs.1.effect hact, hs.2.effect hs.1 hact⟩) h ⟨caps_empty, vatTracks_empty⟩).2

omit [Runtime] in
theorem Stores.records {l : Site} {e : Event World Site} {f : SettlementRefund}
    (h : Stores l e.pre.db.books e.post.db.books f) : Records e f where
  posted := find_create_self h.created
  fresh := (create_eq_some h.created).2

theorem refunds_closed {s t : World} (h : Reachable s) (hst : Rely Step s t) {invoiceType : InvoiceType}
    {invoiceId : Nat} {terms : InvoiceTerms} (hterms : s.db.books.terms invoiceType invoiceId = some terms)
    (hfull : s.db.books.refundedMinor invoiceType invoiceId = terms.totalMinor) :
    t.db.books.refundedVatMinor invoiceType invoiceId = s.db.books.refundedVatMinor invoiceType invoiceId := by
  have hstep : ∀ l u v, Step l u v →
      (Caps u.db.books ∧ u.db.books.terms invoiceType invoiceId = some terms ∧
        u.db.books.refundedMinor invoiceType invoiceId = terms.totalMinor ∧
        u.db.books.refundedVatMinor invoiceType invoiceId =
          s.db.books.refundedVatMinor invoiceType invoiceId) →
      Caps v.db.books ∧ v.db.books.terms invoiceType invoiceId = some terms ∧
        v.db.books.refundedMinor invoiceType invoiceId = terms.totalMinor ∧
        v.db.books.refundedVatMinor invoiceType invoiceId =
          s.db.books.refundedVatMinor invoiceType invoiceId := by
    rintro l u v hact ⟨hcaps, hu, htotal, hvat⟩
    refine ⟨hcaps.effect hact, hact.later.terms hu, ?_⟩
    rcases Effect.refunds hact hcaps with hsame | ⟨f, hf⟩
    · unfold Books.refundedMinor Books.refundedVatMinor Books.sumRefunds at *
      rw [hsame]
      exact ⟨htotal, hvat⟩
    · have hsums := Books.sumRefunds_create hf.created invoiceType invoiceId
      unfold Books.refundedMinor Books.refundedVatMinor at *
      rw [hsums, hsums]
      by_cases hinvoice : f.invoiceType = invoiceType ∧ f.invoiceId = invoiceId
      · -- one more refund would exceed the invoice
        obtain ⟨rfl, rfl⟩ := hinvoice
        obtain ⟨_, hterms', hle, -⟩ := hf.recorded.vat
        obtain rfl := Option.some.inj (hterms'.symm.trans hu)
        have hpos := hf.recorded.positive
        unfold Books.refundedMinor at hle
        omega
      · rw [if_neg hinvoice, if_neg hinvoice, add_zero, add_zero]
        exact ⟨htotal, hvat⟩
  exact (Rely.stable hstep hst ⟨h.caps, hterms, hfull, rfl⟩).2.2.2

/-- The refund that completes an invoice reaches what the shares of those before it leave of its VAT. -/
def RemainderFits (tr : List (Event World Site)) (invoiceType : InvoiceType) (invoiceId : Nat)
    (terms : InvoiceTerms) : Prop :=
  ∀ e ∈ tr, ∀ f, Records e f → f.invoiceType = invoiceType → f.invoiceId = invoiceId →
    e.pre.db.books.refundedMinor invoiceType invoiceId + f.amount.cents = terms.totalMinor →
    terms.vatMinor ≤ e.pre.db.books.shareMinor invoiceType invoiceId terms + f.amount.cents

theorem Run.completing (h : Run tr cfg) {e : Event World Site} (he : e ∈ tr) {f : SettlementRefund}
    (hf : Records e f) {terms : InvoiceTerms}
    (hterms : cfg.state.db.books.terms f.invoiceType f.invoiceId = some terms)
    (hcomplete : e.pre.db.books.refundedMinor f.invoiceType f.invoiceId + f.amount.cents = terms.totalMinor) :
    cfg.state.db.books.refundedVatMinor f.invoiceType f.invoiceId = terms.vatMinor ↔
      terms.vatMinor ≤ e.pre.db.books.shareMinor f.invoiceType f.invoiceId terms + f.amount.cents := by
  obtain ⟨hpre, hact, hafter⟩ := h.event he
  have hstores := h.stores he hf
  obtain ⟨terms', hterms', -, hvat⟩ := hstores.recorded.vat
  have hlater := hact.later.trans (later_of_rely hafter)
  obtain rfl := Option.some.inj ((hlater.terms hterms').symm.trans hterms)
  have hpos := hstores.recorded.positive
  have htracks := hpre.vatTracks _ _ _ hterms' (by omega)
  have hsums := Books.sumRefunds_create hstores.created f.invoiceType f.invoiceId
  have hfull : e.post.db.books.refundedMinor f.invoiceType f.invoiceId = terms'.totalMinor := by
    rw [← hcomplete]
    simpa [Books.refundedMinor] using hsums fun r => r.amount.cents
  have hpost : e.post.db.books.refundedVatMinor f.invoiceType f.invoiceId =
      e.pre.db.books.refundedVatMinor f.invoiceType f.invoiceId + f.vatComponent.cents := by
    simpa [Books.refundedVatMinor] using hsums fun r => r.vatComponent.cents
  rw [refunds_closed (hpre.trans (Rely.single hact)) hafter (hact.later.terms hterms') hfull, hpost, hvat,
    Books.refundVatMinor_eq]
  exact Proration.instalment_completes_shares hpos.le htracks hcomplete

/-- **The VAT of an invoice that is refunded in full is reversed in full exactly when the completing refund
reaches what the rounded shares of the others leave of it.** -/
theorem Run.vat_reversed (h : Run tr cfg) {invoiceType : InvoiceType} {invoiceId : Nat} {terms : InvoiceTerms}
    (hterms : cfg.state.db.books.terms invoiceType invoiceId = some terms)
    (hfull : cfg.state.db.books.refundedMinor invoiceType invoiceId = terms.totalMinor) :
    cfg.state.db.books.refundedVatMinor invoiceType invoiceId = terms.vatMinor ↔
      RemainderFits tr invoiceType invoiceId terms := by
  constructor
  · rintro hvat e he f hf rfl rfl hcomplete
    exact (h.completing he hf hterms hcomplete).mp hvat
  · intro hfits
    have hcaps := h.reachable.caps
    have hcapped := hcaps.invoices _ _ _ hterms
    by_cases hzero : terms.totalMinor = 0
    · have hnonneg : 0 ≤ cfg.state.db.books.refundedVatMinor invoiceType invoiceId := by
        refine sumOf_nonneg fun f hf => ?_
        split
        · exact (hcaps.refunds f hf).vat.1
        · exact le_refl _
      have hle := hcapped.vat
      have htaxed := hcapped.taxed
      unfold InvoiceTerms.Taxed at htaxed
      omega
    · -- the event that completes the invoice
      obtain ⟨e, he, hact, hpre, hpost⟩ := h.path.flip
        (P := fun w : World => w.db.books.refundedMinor invoiceType invoiceId = terms.totalMinor)
        (fun hempty => hzero (hempty.symm.trans rfl)) hfull
      rcases Effect.refunds hact (h.event he).1.caps with hsame | ⟨f, hf⟩
      · refine absurd ?_ hpre
        rw [← hpost]
        unfold Books.refundedMinor Books.sumRefunds
        rw [hsame]
      · have hsums := Books.sumRefunds_create hf.created invoiceType invoiceId fun r => r.amount.cents
        by_cases hinvoice : f.invoiceType = invoiceType ∧ f.invoiceId = invoiceId
        · obtain ⟨rfl, rfl⟩ := hinvoice
          rw [if_pos ⟨rfl, rfl⟩] at hsums
          have hcomplete : e.pre.db.books.refundedMinor f.invoiceType f.invoiceId + f.amount.cents =
              terms.totalMinor := by
            rw [← hpost]
            exact hsums.symm
          exact (h.completing he hf.records hterms hcomplete).mpr (hfits e he f hf.records rfl rfl hcomplete)
        · rw [if_neg hinvoice, add_zero] at hsums
          exact absurd (hsums.symm.trans hpost) hpre

end Runs

/-- A goods invoice of an amount, paid and refunded in parts. -/
def Pilot.refundedInParts (amount : Number) (parts : List (Number × String)) : List Call :=
  [.surround surroundings, issueGoods amount, receive .merchant_invoice 0 amount "B-1"] ++
    parts.map fun part => refund .merchant_invoice 0 part.1 part.2

theorem Run.vat_reversed_twoParts :
    let run := Pilot.played (Pilot.inOrder
      (Pilot.refundedInParts 100 [(30, "R-1"), (70, "R-2")]))
    run.2.state.db.books.refundedVatMinor .merchant_invoice 0 = 1304 ↔
      RemainderFits run.1 .merchant_invoice 0 ⟨10000, 1304⟩ :=
  @Run.vat_reversed plainRuntime _ _ (Pilot.run _) .merchant_invoice 0 ⟨10000, 1304⟩ (by decide +kernel)
    (by decide +kernel)

/-- **A residue of VAT**: four refunds whose shares round down to nothing, and one cent that is to carry two. -/
theorem Run.vat_left_over :
    ∃ tr cfg, @Run plainRuntime tr cfg ∧
      cfg.state.db.books.terms .merchant_invoice 0 = some ⟨17, 2⟩ ∧
      cfg.state.db.books.refundedMinor .merchant_invoice 0 = 17 ∧
      cfg.state.db.books.refundedVatMinor .merchant_invoice 0 = 1 :=
  ⟨_, _, Pilot.run (Pilot.inOrder (Pilot.refundedInParts (17 / 100)
    [(4 / 100, "R-1"), (4 / 100, "R-2"), (4 / 100, "R-3"), (4 / 100, "R-4"), (1 / 100, "R-5")])),
    by decide +kernel⟩

end Qift
