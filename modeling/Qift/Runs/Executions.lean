import Qift.Runs.Refunds

/-!
# Executions of refund requests over runs

Executions latch a request, record its refund and complete it in three actions; each may be the last of its call.

* `PaysFor` — an event records a refund on behalf of a request.
* **`Run.pays_once`** — one refund and one cash posting a request, when all its executions name one evidence.
* **`Run.paid_stands`** — a paid request is neither cancelled nor open again, when no release of its latch
  overlooks the refund.
* **`Run.pays_quoted`** — an executed request has the VAT it was approved with exactly when the refunds recorded
  meanwhile leave its quote standing.
-/

namespace Qift

open Relational Relational.Table Interleaving Settlement Financial

/-- The request an action records a refund for. -/
def Site.origin : Site → Option RefundOrigin
  | .refund origin | .feeRefund origin => origin
  | _ => none

@[simp] theorem recordSite_origin (invoiceType : InvoiceType) (origin : Option RefundOrigin) :
    (recordSite invoiceType origin).origin = origin := by
  cases invoiceType <;> rfl

theorem RequestMove.of_record {refunds : Table SettlementRefund.id} {requests : Table RefundRequest.id}
    {invoiceType : InvoiceType} {origin : Option RefundOrigin} {r r' : RefundRequest}
    (h : RequestMove refunds requests (recordSite invoiceType origin) r r') : r' = r := by
  cases invoiceType with
  | merchant_invoice =>
      change RequestMove refunds requests (.refund origin) r r' at h
      cases h with
      | stay => rfl
  | corporate_invoice =>
      change RequestMove refunds requests (.feeRefund origin) r r' at h
      cases h with
      | stay => rfl

/-- An action is made for a request. -/
def For (n : Nat) (e : Event World Site) : Prop := ∃ o, e.lbl.origin = some o ∧ o.requestId = n

/-- An event records a refund on behalf of a request. -/
structure PaysFor (n : Nat) (e : Event World Site) (f : SettlementRefund) : Prop where
  behalf : For n e
  records : Records e f

/-- An event posts the cash of a refund on behalf of a request. -/
structure PostsFor (n : Nat) (e : Event World Site) (p : FinancialLedgerEntry) : Prop where
  behalf : For n e
  paid : p.eventType = .REFUND_PAID
  posted : p ∈ e.post.db.ledger.rows
  fresh : p ∉ e.pre.db.ledger.rows

instance (n : Nat) (e : Event World Site) : Decidable (For n e) :=
  decidable_of_iff (e.lbl.origin.map RefundOrigin.requestId = some n) (by simp [For])

/-- The refunds recorded on behalf of a request. -/
def paidFor (tr : List (Event World Site)) (n : Nat) : List SettlementRefund :=
  (tr.filter fun e => decide (For n e)).flatMap newRefunds

section Runs

variable [Runtime] {tr : List (Event World Site)} {cfg : Config World Site (Except Err Reply)}

/-- **A refund recorded on behalf of a request is the one it asks for**, under the evidence of the execution. -/
theorem Run.paysFor (h : Run tr cfg) {e : Event World Site} (he : e ∈ tr) {n : Nat} {f : SettlementRefund}
    (hpays : PaysFor n e f) : ∃ o r, e.lbl.origin = some o ∧ o.requestId = n ∧
      f.evidenceRef = o.evidenceRef ∧ e.pre.db.refundRequests.find n = some r ∧ AsksFor r f := by
  obtain ⟨o, ho, rfl⟩ := hpays.behalf
  obtain ⟨origin, hlbl, hfor⟩ := (h.stores he hpays.records).labelled
  rw [hlbl, recordSite_origin] at ho
  obtain ⟨hevidence, r, hr, hasks⟩ := hfor o ho
  exact ⟨o, r, by rw [hlbl, recordSite_origin, ho], rfl, hevidence.symm, hr, hasks⟩

/-! ### One payment a request -/

/-- Every execution of a request names one evidence reference. -/
def OneEvidence (tr : List (Event World Site)) (n : Nat) (evidenceRef : String) : Prop :=
  ∀ e ∈ tr, ∀ o, e.lbl.origin = some o → o.requestId = n → o.evidenceRef = evidenceRef

/-- What is recorded for a request is one refund and one posting of its cash. -/
structure OnePayment (tr : List (Event World Site)) (n : Nat) : Prop where
  refund : ∀ e ∈ tr, ∀ e' ∈ tr, ∀ f f', PaysFor n e f → PaysFor n e' f' → f' = f
  posting : ∀ e ∈ tr, ∀ e' ∈ tr, ∀ p p', PostsFor n e p → PostsFor n e' p' → p' = p

omit [Runtime] in
/-- What a cash posting of a refund was posted for. -/
theorem Origin.of_refund {b : Books} {p : FinancialLedgerEntry} (h : Origin b p)
    (hevent : p.eventType = .REFUND_PAID) :
    ∃ f ∈ b.refunds.rows, f.settlementInteraction ≠ .invoice_reduced ∧
      p.idempotencyKey = some (ledgerIdempotencyKey .REFUND_PAID (.id f.id)) := by
  cases h with
  | other hother =>
      rw [hevent] at hother
      exact absurd (by decide) hother
  | @refund f hf hcash hrow => exact ⟨f, hf, hcash, hrow.key⟩
  | consumer hconsumer => cases hconsumer.symm.trans hevent
  | payment _ hrow => cases hrow.eventType.symm.trans hevent
  | payable _ _ hrow => cases hrow.eventType.symm.trans hevent
  | remittance _ hrow => cases hrow.eventType.symm.trans hevent
  | recovery _ _ _ hrow => cases hrow.eventType.symm.trans hevent
  | transfer _ _ hrow => cases hrow.eventType.symm.trans hevent
  | revenue _ _ hrow => cases hrow.eventType.symm.trans hevent
  | reversal _ _ _ hrow => cases hrow.eventType.symm.trans hevent

/-- A cash posting made for a request stands for a refund recorded with it. -/
theorem Run.postsFor (h : Run tr cfg) {e : Event World Site} (he : e ∈ tr) {n : Nat}
    {p : FinancialLedgerEntry} (hposts : PostsFor n e p) :
    ∃ f, PaysFor n e f ∧ p.idempotencyKey = some (ledgerIdempotencyKey .REFUND_PAID (.id f.id)) := by
  obtain ⟨hpre, hact, -⟩ := h.event he
  have hreached : Reachable e.post := hpre.trans (Rely.single hact)
  have hpost := hreached.postings
  obtain ⟨f, hf, hcash, hkey⟩ := (hpost.origin p hposts.posted).of_refund hposts.paid
  refine ⟨f, ⟨hposts.behalf, find_of_mem hf, ?_⟩, hkey⟩
  by_contra hold
  obtain ⟨g, hg⟩ := Option.ne_none_iff_exists'.mp hold
  -- the posting of an older refund would have been there
  obtain ⟨_, hg', rfl⟩ := hact.later.refunds _ _ hg
  obtain rfl := Option.some.inj (hg'.symm.trans (find_of_mem hf))
  obtain ⟨q, hq, hqkey⟩ := hpre.postings.posted.refund g (mem_of_find hg) hcash
  have heq : p = q := hpost.unique p hposts.posted q (hact.later.ledger q hq) (hkey.trans hqkey.symm)
    (by rw [hkey]; nofun)
  exact hposts.fresh (heq ▸ hq)

/-- **One payment a request**, when its executions name one evidence reference. -/
theorem Run.pays_once (h : Run tr cfg) {n : Nat} {evidenceRef : String}
    (hevidence : OneEvidence tr n evidenceRef) : OnePayment tr n := by
  have hrefund : ∀ e ∈ tr, ∀ e' ∈ tr, ∀ f f', PaysFor n e f → PaysFor n e' f' → f' = f := by
    intro e he e' he' f f' hpays hpays'
    obtain ⟨o, r, ho, hn, hf, hr, hasks⟩ := h.paysFor he hpays
    obtain ⟨o', r', ho', hn', hf', hr', hasks'⟩ := h.paysFor he' hpays'
    have hlater := (h.event he).2.1.later.trans (later_of_rely (h.event he).2.2)
    have hlater' := (h.event he').2.1.later.trans (later_of_rely (h.event he').2.2)
    -- the request asks for the same invoice at both events
    obtain ⟨x, hx, hsame⟩ := hlater.requests _ _ hr
    obtain ⟨x', hx', hsame'⟩ := hlater'.requests _ _ hr'
    obtain rfl := Option.some.inj (hx.symm.trans hx')
    have hmem : f ∈ cfg.state.db.refunds.rows :=
      (later_of_rely (h.event he).2.2).refunds.keep (mem_of_find hpays.records.posted)
    have hmem' : f' ∈ cfg.state.db.refunds.rows :=
      (later_of_rely (h.event he').2.2).refunds.keep (mem_of_find hpays'.records.posted)
    refine h.reachable.requestsOk.evidence f hmem f' hmem' ?_ ?_ ?_
    · rw [hasks.invoiceType, hasks'.invoiceType, ← hsame.invoiceType, ← hsame'.invoiceType]
    · rw [hasks.invoiceId, hasks'.invoiceId, ← hsame.invoiceId, ← hsame'.invoiceId]
    · rw [hf, hf', hevidence e he o ho hn, hevidence e' he' o' ho' hn']
  refine ⟨hrefund, fun e he e' he' p p' hposts hposts' => ?_⟩
  obtain ⟨f, hpays, hkey⟩ := h.postsFor he hposts
  obtain ⟨f', hpays', hkey'⟩ := h.postsFor he' hposts'
  obtain rfl := hrefund e he e' he' f f' hpays hpays'
  have hledger := (later_of_rely (h.event he).2.2).ledger p hposts.posted
  have hledger' := (later_of_rely (h.event he').2.2).ledger p' hposts'.posted
  exact h.reachable.postings.unique p' hledger' p hledger (hkey'.trans hkey.symm) (by rw [hkey']; nofun)

end Runs

/-- An approved request, number six, whose execution stops once its refund, number seven, is recorded. -/
def Pilot.stopped : List (Choice Call) :=
  inOrder (asked 30 ++ [.approveRefund 2 6]) ++ .start (pay 6 30 "R-1" newYear "CN-1") :: List.replicate 6 (.run 0)

/-- Its executor tries again with the same evidence. -/
def Pilot.resumed : List (Choice Call) := stopped ++ toEnd (pay 6 30 "R-1" newYear "CN-1")

/-- Every event of the run names the one evidence, records a refund only while the request is executing, and is not
a release of the latch. -/
theorem Pilot.resumed_events : ∀ e ∈ (played resumed).1,
    (e.lbl.origin.all fun o => o.evidenceRef = "R-1") = true ∧
      ((newRefunds e).isEmpty || (e.pre.db.refundRequests.find 6).all fun r => r.state = .executing) = true ∧
      (match e.lbl with
        | .releaseRefund .. => false
        | _ => true) = true := by
  decide +kernel

theorem Pilot.resumed_evidence : OneEvidence (played resumed).1 6 "R-1" := by
  intro e he o ho hn
  have hevent := (resumed_events e he).1
  rw [ho] at hevent
  exact of_decide_eq_true hevent

theorem Run.pays_once_resumed : OnePayment (Pilot.played Pilot.resumed).1 6 :=
  @Run.pays_once plainRuntime _ _ (Pilot.run _) 6 "R-1" Pilot.resumed_evidence

/-- **A request pays twice**: its executor tries again with other evidence. -/
theorem Run.pays_twice :
    ∃ tr cfg, @Run plainRuntime tr cfg ∧
      ((paidFor tr 6).map fun f => (f.id, f.evidenceRef)) = [(7, "R-1"), (11, "R-2")] ∧
      ((cfg.state.db.ledger.rows.filter fun p => p.eventType = .REFUND_PAID).map fun p =>
        (p.amount.cents, p.idempotencyKey)) =
          [(3000, some ⟨.REFUND_PAID, .id 7⟩), (3000, some ⟨.REFUND_PAID, .id 11⟩)] :=
  ⟨_, _, Pilot.run (Pilot.stopped ++ Pilot.toEnd (Pilot.pay 6 30 "R-2" Pilot.newYear "CN-2")),
    by decide +kernel⟩

/-! ### No way back for a paid request -/

section Runs

variable [Runtime] {tr : List (Event World Site)} {cfg : Config World Site (Except Err Reply)}

/-- Once a refund is recorded for a request, the request stays in execution or executed. -/
def StaysPaid (tr : List (Event World Site)) (n : Nat) : Prop :=
  ∀ before e after f, tr = before ++ e :: after → PaysFor n e f → ∀ e' ∈ after, ∀ r,
    e'.post.db.refundRequests.find n = some r → r.state = .executing ∨ r.state = .executed

/-- The executions of a request heed its refund. -/
structure Heeded (tr : List (Event World Site)) (n : Nat) (evidenceRef : String) : Prop where
  evidence : OneEvidence tr n evidenceRef
  /-- A refund is recorded under the latch. -/
  latched : ∀ e ∈ tr, ∀ f, PaysFor n e f → ∀ r, e.pre.db.refundRequests.find n = some r → r.state = .executing
  /-- The latch is released only while no refund of the invoice names the evidence. -/
  released : ∀ e ∈ tr, ∀ v, e.lbl = .releaseRefund n v → ∀ r, e.pre.db.refundRequests.find n = some r →
    r.state = .executing → Unused e.pre.db.books r.invoiceType r.invoiceId evidenceRef

/-- A request in execution or executed whose refund is recorded. -/
def Paid (n : Nat) (f : SettlementRefund) (w : World) : Prop :=
  f ∈ w.db.refunds.rows ∧ ∃ r, w.db.refundRequests.find n = some r ∧ AsksFor r f ∧
    (r.state = .executing ∨ r.state = .executed)

/-- An action that releases no latch over the refund keeps the request paid. -/
theorem Paid.step {l : Site} {w w' : World} {n : Nat} {f : SettlementRefund} (h : Paid n f w)
    (hact : Step l w w') (hreleased : ∀ v, l = .releaseRefund n v → ∀ r, w.db.refundRequests.find n = some r →
      r.state = .executing → Unused w.db.books r.invoiceType r.invoiceId f.evidenceRef) : Paid n f w' := by
  obtain ⟨hf, r, hr, hasks, hstate⟩ := h
  obtain ⟨r', hr', hsame⟩ := hact.later.requests _ _ hr
  have hid : r.id = n := key_of_find hr
  refine ⟨hact.later.refunds.keep hf, r', hr', ⟨?_, ?_, ?_⟩, ?_⟩
  · rw [hasks.invoiceType, hsame.invoiceType]
  · rw [hasks.invoiceId, hsame.invoiceId]
  · rw [hasks.amount, hsame.amount]
  · have hmove := Effect.requestMove hact hr hr'
    cases hmove with
    | stay => exact hstate
    | latch => exact Or.inl rfl
    | finalize => exact Or.inr rfl
    | approve hrequested => simp [hrequested] at hstate
    | cancel hopen =>
        rcases hopen with hs | hs
        · simp [hs] at hstate
        · simp [hs] at hstate
    | release hexecuting =>
        -- the release would have overlooked the refund
        have hunused := hreleased _ (by rw [hid]) r hr hexecuting
        exact absurd rfl (hunused f hf hasks.invoiceType hasks.invoiceId)

end Runs

/-- A refund is what its request was approved for: a transfer of the amount on the leg and the invoice of the
snapshot, with the VAT of the snapshot. -/
structure AsApproved (r : RefundRequest) (f : SettlementRefund) : Prop where
  asks : AsksFor r f
  vatComponent : f.vatComponent = r.vatComponent
  transferred : f.settlementInteraction ≠ .invoice_reduced

/-- What was refunded since leaves the quote of a request standing. -/
structure QuoteStands (b : Books) (r : RefundRequest) : Prop where
  /-- The VAT that is left covers the quote, and is the quote of the request that completes its invoice. -/
  share : ∀ terms, b.terms r.invoiceType r.invoiceId = some terms →
    if b.refundedMinor r.invoiceType r.invoiceId + r.amount.cents = terms.totalMinor then
      min r.amount.cents (terms.vatMinor - b.refundedVatMinor r.invoiceType r.invoiceId) =
        r.vatComponent.cents
    else r.vatComponent.cents ≤ terms.vatMinor - b.refundedVatMinor r.invoiceType r.invoiceId
  /-- A fee invoice is paid: nothing is transferred back on an unpaid one. -/
  paid : r.invoiceType = .corporate_invoice → ∀ inv, b.corporateInvoices.find r.invoiceId = some inv →
    inv.status = .paid

/-- The VAT of a request is the frozen proportion of its amount. -/
def Quoted (b : Books) (r : RefundRequest) : Prop :=
  ∃ terms, b.terms r.invoiceType r.invoiceId = some terms ∧
    r.vatComponent.cents = quotedVatMinor terms.totalMinor terms.vatMinor r.amount.cents

/-- The quoted VAT against the derived one. -/
theorem quoted_iff (prior : Int) {total vat priorVat amount : Int} (htotal : 0 < total) (hvat : 0 ≤ vat)
    (hamount : 0 ≤ amount) (hprior : 0 ≤ priorVat) (hleft : priorVat ≤ vat) :
    vatComponentMinor total vat prior priorVat amount = quotedVatMinor total vat amount ↔
      if prior + amount = total then min amount (vat - priorVat) = quotedVatMinor total vat amount
      else quotedVatMinor total vat amount ≤ vat - priorVat := by
  have hshare := Proration.roundedShare_nonneg htotal hvat hamount
  unfold Proration.roundedShare at hshare
  unfold vatComponentMinor quotedVatMinor
  dsimp only
  rw [if_neg htotal.ne']
  split <;> omega

/-- **A refund is what its request was approved for exactly when the quote stood** where it was recorded. -/
theorem AsksFor.approved_iff {b : Books} {r : RefundRequest} {f : SettlementRefund} (hasks : AsksFor r f)
    (hcaps : Caps b) (hf : RecordedOn b f) {terms : InvoiceTerms}
    (hterms : b.terms r.invoiceType r.invoiceId = some terms)
    (hquoted : r.vatComponent.cents = quotedVatMinor terms.totalMinor terms.vatMinor r.amount.cents) :
    AsApproved r f ↔ QuoteStands b r := by
  have hcapped := hcaps.invoices _ _ _ hterms
  obtain ⟨terms', hterms', hle, hvat⟩ := hf.vat
  rw [hasks.invoiceType, hasks.invoiceId, hasks.amount] at hle hvat
  rw [hasks.invoiceType, hasks.invoiceId] at hterms'
  obtain rfl := Option.some.inj (hterms'.symm.trans hterms)
  have hpos := hf.positive
  rw [hasks.amount] at hpos
  have hrefunded := hcaps.refunded_nonneg r.invoiceType r.invoiceId
  have hreversed : 0 ≤ b.refundedVatMinor r.invoiceType r.invoiceId := by
    refine sumOf_nonneg fun x hx => ?_
    split
    · exact (hcaps.refunds x hx).vat.1
    · exact le_refl _
  have hshare := quoted_iff (b.refundedMinor r.invoiceType r.invoiceId) (by omega : 0 < terms'.totalMinor)
    hcapped.taxed.1 hpos.le hreversed hcapped.vat
  rw [← hquoted] at hshare
  constructor
  · rintro ⟨-, hsame, htransferred⟩
    refine ⟨fun terms ht => ?_, fun htype inv hinv => ?_⟩
    · obtain rfl := Option.some.inj (ht.symm.trans hterms)
      exact hshare.mp (hvat.symm.trans (congrArg Decimal.cents hsame))
    · obtain ⟨inv', hinv', hinteraction⟩ := hf.fee (hasks.invoiceType.trans htype)
      rw [hasks.invoiceId] at hinv'
      obtain rfl := Option.some.inj (hinv'.symm.trans hinv)
      by_contra hnot
      exact htransferred (by rw [hinteraction, feeInteraction, if_neg hnot])
  · rintro ⟨hstands, hpaid⟩
    refine ⟨hasks, Decimal.ext_cents (hvat.trans (hshare.mpr (hstands _ hterms))), ?_⟩
    cases htype : r.invoiceType with
    | merchant_invoice =>
        rcases hf.goods (hasks.invoiceType.trans htype) with hinteraction | hinteraction
        · rw [hinteraction]
          simp
        · rw [hinteraction]
          simp
    | corporate_invoice =>
        obtain ⟨inv, hinv, hinteraction⟩ := hf.fee (hasks.invoiceType.trans htype)
        rw [hasks.invoiceId] at hinv
        rw [hinteraction, feeInteraction, if_pos (hpaid htype inv hinv)]
        simp

theorem Quoted.later {b b' : Books} {r r' : RefundRequest} (h : Quoted b r) (hlater : Later b b')
    (hsame : RefundRequest.Same r r') : Quoted b' r' := by
  obtain ⟨terms, hterms, hquoted⟩ := h
  refine ⟨terms, ?_, ?_⟩
  · rw [hsame.invoiceType, hsame.invoiceId]
    exact hlater.terms hterms
  · rw [hsame.vatComponent, hsame.amount]
    exact hquoted

section Runs

variable [Runtime] {tr : List (Event World Site)} {cfg : Config World Site (Except Err Reply)}

theorem Effect.quoted {l : Site} {b b' : Books} (heffect : Effect l b b')
    (h : ∀ r ∈ b.refundRequests.rows, Quoted b r) : ∀ r ∈ b'.refundRequests.rows, Quoted b' r := by
  have hlater := heffect.later
  have hkeep (r : RefundRequest) (hr : r ∈ b.refundRequests.rows) : Quoted b' r :=
    (h r hr).later hlater (RefundRequest.Same.refl r)
  cases heffect with
  | @request _ row requests n hfiled hcreate hn =>
      intro r hr
      rcases (mem_create hcreate).mp hr with hold | rfl
      · exact hkeep r hold
      · have hnew : Quoted b r := hfiled.quoted
        exact hnew.later hlater (RefundRequest.Same.refl r)
  | @requestUpdate _ _ requests g hrows hmove =>
      intro r' hr'
      rw [hrows] at hr'
      obtain ⟨r, hr, rfl⟩ := List.mem_map.mp hr'
      exact (h r hr).later hlater (hmove r hr).same
  | _ => exact hkeep

theorem Reachable.quoted {s : World} (h : Reachable s) : ∀ r ∈ s.db.refundRequests.rows, Quoted s.db.books r :=
  Rely.stable (P := fun w : World => ∀ r ∈ w.db.books.refundRequests.rows, Quoted w.db.books r)
    (fun _ _ _ hact hs => Effect.quoted hact hs) h (by simp [Db.books, World.empty])

/-- What was recorded for requests, and what they were executed into, against what was approved. -/
structure PaysQuoted (tr : List (Event World Site)) (w : World) : Prop where
  recorded : ∀ e ∈ tr, ∀ n f, PaysFor n e f → ∃ r, e.pre.db.refundRequests.find n = some r ∧
    (AsApproved r f ↔ QuoteStands e.pre.db.books r)
  executed : ∀ r ∈ w.db.refundRequests.rows, r.state = .executed → ∃ f, r.refundId = some f.id ∧
    w.db.refunds.find f.id = some f ∧ ∃ e ∈ tr, Records e f ∧ (AsApproved r f ↔ QuoteStands e.pre.db.books r)

/-- **What was approved is what is paid exactly when the quote stood** where the refund was recorded. -/
theorem Run.pays_quoted (h : Run tr cfg) : PaysQuoted tr cfg.state where
  recorded := by
    intro e he n f hpays
    obtain ⟨o, r, -, -, -, hr, hasks⟩ := h.paysFor he hpays
    obtain ⟨hpre, -, -⟩ := h.event he
    obtain ⟨terms, hterms, hquoted⟩ := hpre.quoted r (mem_of_find hr)
    exact ⟨r, hr, hasks.approved_iff hpre.caps (h.stores he hpays.records).recorded hterms hquoted⟩
  executed := by
    intro r hr hs
    obtain ⟨f, hid, hf, hasks⟩ := (h.reachable.requestsOk.requests r hr).executed hs
    obtain ⟨e, he, hrecords⟩ := h.recorded (mem_of_find hf)
    obtain ⟨hpre, hact, hafter⟩ := h.event he
    have hrecorded := (h.stores he hrecords).recorded
    obtain ⟨terms, hterms, -⟩ := hrecorded.vat
    rw [hasks.invoiceType, hasks.invoiceId] at hterms
    -- the terms of the invoice were the same when the refund was recorded
    obtain ⟨terms', hterms', hquoted⟩ := h.reachable.quoted r hr
    have hlater := hact.later.trans (later_of_rely hafter)
    obtain rfl := Option.some.inj ((hlater.terms hterms).symm.trans hterms')
    exact ⟨f, hid, hf, e, he, hrecords, hasks.approved_iff hpre.caps hrecorded hterms hquoted⟩

end Runs

/-- A request of 33.33 on an invoice of 100, approved, and executed after the refunds in between. -/
def Pilot.askedAmid (between : List (Number × String)) : List Call :=
  asked (3333 / 100) ++ [.approveRefund 2 6] ++
    (between.map fun part => refund .merchant_invoice 0 part.1 part.2) ++
    [pay 6 (3333 / 100) "R-1" newYear "CN-1"]

theorem Run.pays_quoted_undisturbed :
    let run := Pilot.played (Pilot.inOrder (Pilot.askedAmid []))
    PaysQuoted run.1 run.2.state :=
  @Run.pays_quoted plainRuntime _ _ (Pilot.run _)

/-- **What was approved is not what is paid**: the request that completes its invoice is approved with a VAT of
4.35 and paid with 4.34. -/
theorem Run.pays_other_vat :
    ∃ tr cfg, @Run plainRuntime tr cfg ∧
      (cfg.state.db.refundRequests.rows.map fun r => (r.state, r.refundId, r.amount.cents, r.vatComponent.cents)) =
        [(.executed, some 15, 3333, 435)] ∧
      ((paidFor tr 6).map fun f => (f.id, f.amount.cents, f.vatComponent.cents)) = [(15, 3333, 434)] :=
  ⟨_, _, Pilot.run (Pilot.inOrder (Pilot.askedAmid [(3333 / 100, "D-1"), (3334 / 100, "D-2")])),
    by decide +kernel⟩

end Qift
