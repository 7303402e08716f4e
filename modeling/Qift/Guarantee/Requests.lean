import Qift.Guarantee.Refunds

/-!
# Guarantees of refund requests

* `requestTx_step` — a filed request quotes the terms of its invoice.
* `moveRequest_step` and `requestUpdate_step` turn a guarded write of requests into a `RequestMove`; what a call
  read of its request holds of the row it writes (`RefundRequest.Same`).
* `executeRefund_serves` — an execution latches, posts in the order of its request, and completes or releases it.
-/

namespace Qift

open Relational Relational.Table Interleaving Settlement Financial

section Services

variable [Runtime] {q : Lane} {s : World}

/-! ### Requesting -/

omit [Runtime] in
theorem quotedInvoice_terms {invoiceType : InvoiceType} {invoiceId : Nat} {w : World}
    {invoice : QuotedInvoice} (h : quotedInvoice invoiceType invoiceId w = some invoice) :
    invoice.id = invoiceId ∧ ∃ terms, w.db.books.terms invoiceType invoiceId = some terms ∧
      invoice.totalAmount.cents = terms.totalMinor ∧ invoice.vatAmount.cents = terms.vatMinor := by
  cases invoiceType with
  | merchant_invoice =>
      obtain ⟨inv, hinv, rfl⟩ := Option.map_eq_some_iff.mp h
      have hid : inv.id = invoiceId := key_of_find hinv
      exact ⟨hid, inv.terms, Option.map_eq_some_iff.mpr ⟨inv, hinv, rfl⟩, rfl, rfl⟩
  | corporate_invoice =>
      obtain ⟨inv, hinv, rfl⟩ := Option.map_eq_some_iff.mp h
      have hid : inv.id = invoiceId := key_of_find hinv
      exact ⟨hid, inv.terms, Option.map_eq_some_iff.mpr ⟨inv, hinv, rfl⟩, rfl, rfl⟩

theorem requestTx_step {invoiceType : InvoiceType} {invoice : QuotedInvoice} {amountMinor : Int}
    {reason : String} {reasonCode : Option String} {actor : Nat} {t u : World} {row : RefundRequest}
    (hpos : 0 < amountMinor) {terms : InvoiceTerms}
    (hterms : t.db.books.terms invoiceType invoice.id = some terms)
    (htotal : invoice.totalAmount.cents = terms.totalMinor)
    (hvat : invoice.vatAmount.cents = terms.vatMinor)
    (h : requestTx (snapshotOf invoiceType invoice amountMinor reason reasonCode) invoice.storeId actor t
      = .ok (row, u)) : Step .requestRefund t u := by
  simp only [requestTx, Tx.bind_eq_ok, txNow_eq_ok, insert_eq_ok, Tx.pure_eq_ok] at h
  obtain ⟨requestedAt, _, ⟨-, rfl⟩, created, w₁, ⟨rfl, requests, hcreate, -, rfl⟩, _, w₂, haudit, rfl,
    rfl⟩ := h
  have hdb := recordGuaranteed_eq_ok haudit
  unfold Step
  rw [hdb]
  refine Effect.request ?_ hcreate (Nat.lt_succ_self _)
  refine ⟨rfl, rfl, rfl, rfl, ?_, terms, hterms, ?_⟩
  · simpa [requestRow, snapshotOf, ofNumber_fromMinor_cents] using hpos
  · simp only [requestRow, snapshotOf, ofNumber_fromMinor_cents, toMinor_SAR, htotal, hvat]

theorem requestRefund_serves (actor : Nat) (input : RequestRefundInput) :
    Acts q (requestRefund actor input) s := by
  refine Serves.seq assertGatesOpen_serves fun _ _ _ => ?_
  refine Serves.seq (Serves.ensure fun _ _ => trivial) fun _ _ _ => ?_
  refine Serves.seq (Serves.ensure fun _ _ => trivial) fun _ _ _ => ?_
  refine Serves.bind Serves.guard fun _ _ _ hpos => ?_
  refine Serves.bind Serves.read fun invoice t _ hread => ?_
  cases invoice with
  | none => exact Serves.fail
  | some invoice =>
      obtain ⟨hid, terms, hterms, htotal, hvat⟩ := quotedInvoice_terms hread.symm
      refine Serves.transaction rfl fun u row v _ htu h => ⟨?_, trivial⟩
      exact requestTx_step hpos ((later_of_rely htu).terms (hid ▸ hterms)) htotal hvat h

/-! ### Moves -/

theorem loadRequest_serves (requestId : Nat) :
    Serves q (fun r t => t.db.books.refundRequests.find requestId = some r) (loadRequest requestId) s := by
  refine Serves.bind Serves.read fun found t _ hread => ?_
  cases found with
  | none => exact Serves.fail
  | some r => exact Serves.pure fun _ => hread.symm

theorem verifySnapshot_serves (request : RefundRequest) : Acts q (verifySnapshot request) s :=
  Serves.bind Serves.read fun _ _ _ _ => Serves.ensure fun _ _ => trivial

theorem requestUpdate_step {l : Site} (requestId : Nat) {cond : RefundRequest → Bool}
    {data : RefundRequest → RefundRequest} {hdata : ∀ r, (data r).id = r.id} {t u : World} {n : Nat}
    (hcond : ∀ r, cond r = true → r.id = requestId)
    (hmove : ∀ r, t.db.books.refundRequests.find requestId = some r → cond r = true →
      RequestMove t.db.books.refunds t.db.books.refundRequests l r (data r))
    (h : updateMany Model.refundRequest cond data hdata t = .ok (n, u)) : Step l t u := by
  obtain ⟨-, rfl⟩ := updateMany_eq_ok.mp h
  refine Effect.requestUpdate rfl fun r hr => ?_
  split
  · rename_i hc
    exact hmove r (hcond r hc ▸ find_of_mem hr) hc
  · exact .stay

theorem moveRequest_step {l : Site} {requestId : Nat} {state : RefundRequestState} {action : String}
    {data : Time → RefundRequest → RefundRequest} {hdata : ∀ t r, (data t r).id = r.id} {t u : World}
    (hmove : ∀ movedAt r, t.db.books.refundRequests.find requestId = some r → r.state = state →
      RequestMove t.db.books.refunds t.db.books.refundRequests l r (data movedAt r))
    (h : moveRequest requestId state action data hdata t = .ok ((), u)) : Step l t u := by
  simp only [moveRequest, Tx.bind_eq_ok, txNow_eq_ok, Tx.ensure_eq_ok] at h
  obtain ⟨movedAt, _, ⟨-, rfl⟩, n, w, hupdate, _, _, ⟨-, rfl⟩, haudit⟩ := h
  have hdb := recordGuaranteed_eq_ok haudit
  have hstep : Step l t w := requestUpdate_step requestId (fun r hr => (of_decide_eq_true hr).1)
    (fun r hr hc => hmove movedAt r hr (of_decide_eq_true hc).2) hupdate
  unfold Step at hstep ⊢
  rw [hdb]
  exact hstep

omit [Runtime] in
/-- The row of a request still is what a call loaded. -/
theorem Later.request {b b' : Books} (h : Later b b') {requestId : Nat} {request r : RefundRequest}
    (hloaded : b.refundRequests.find requestId = some request)
    (hr : b'.refundRequests.find requestId = some r) :
    r.id = requestId ∧ RefundRequest.Same request r := by
  obtain ⟨r', hr', hsame⟩ := h.requests _ _ hloaded
  obtain rfl := Option.some.inj (hr'.symm.trans hr)
  exact ⟨key_of_find hr, hsame⟩

theorem approveRefund_serves (actor requestId : Nat) : Acts q (approveRefund actor requestId) s := by
  refine Serves.bind (loadRequest_serves requestId) fun request s₁ _ hloaded => ?_
  refine Serves.seq (Serves.ensure fun _ _ => trivial) fun _ s₂ h₂ => ?_
  refine Serves.bind Serves.guard fun _ s₃ h₃ hactor => ?_
  refine Serves.seq (verifySnapshot_serves request) fun _ s₄ h₄ => ?_
  refine Serves.seq ?_ fun _ _ _ => (loadRequest_serves requestId).acts
  refine Serves.transaction rfl fun t x u _ h₄t h => ⟨?_, trivial⟩
  refine moveRequest_step (fun movedAt r hr hstate => ?_) h
  obtain ⟨rfl, hsame⟩ :=
    (later_of_rely (((h₂.trans h₃).trans h₄).trans h₄t)).request hloaded hr
  exact .approve hstate (hsame.requestedBy ▸ hactor)

theorem cancelRefundRequest_serves (actor requestId : Nat) :
    Acts q (cancelRefundRequest actor requestId) s := by
  refine Serves.seq (loadRequest_serves requestId).acts fun request s₁ _ => ?_
  refine Serves.bind Serves.guard fun _ s₂ h₂ hopen => ?_
  refine Serves.seq ?_ fun _ _ _ => (loadRequest_serves requestId).acts
  refine Serves.transaction rfl fun t x u _ _ h => ⟨?_, trivial⟩
  refine moveRequest_step (fun movedAt r hr hstate => ?_) h
  obtain rfl : r.id = requestId := key_of_find hr
  exact .cancel (hstate ▸ hopen)

/-! ### Execution -/

theorem releaseRequest_serves (requestId : Nat) (evidenceRef : String) :
    Acts q (releaseRequest requestId evidenceRef) s := by
  refine Serves.seq ?_ fun _ _ _ => Serves.pure fun _ => trivial
  refine Serves.transaction rfl fun t x u _ _ h => ⟨?_, trivial⟩
  refine requestUpdate_step requestId (fun r hr => (of_decide_eq_true hr).1)
    (fun r hr hc => ?_) h
  obtain rfl : r.id = requestId := key_of_find hr
  exact .release (of_decide_eq_true hc).2

theorem latchRequest_step {actor requestId : Nat} {request : RefundRequest} {t u : World} {n : Nat}
    (hopen : request.state = .approved ∨ request.state = .executing)
    (hactor : request.approvedBy ≠ some actor) {b : Books}
    (hloaded : b.refundRequests.find requestId = some request) (hlater : Later b t.db.books)
    (h : latchRequest actor requestId request.state t = .ok (n, u)) :
    Step (.latchRefund requestId) t u := by
  unfold latchRequest at h
  refine requestUpdate_step requestId (fun r hr => (of_decide_eq_true hr).1)
    (fun r hr hc => ?_) h
  obtain ⟨rfl, hsame⟩ := hlater.request hloaded hr
  obtain ⟨-, hstate, hexecutor⟩ := of_decide_eq_true hc
  have happroved : request.state ≠ .requested := by
    rcases hopen with ho | ho <;> simp [ho]
  refine .latch ?_ ?_
  · rw [hstate]
    rcases hopen with ho | ho
    · exact Or.inl ho
    · exact Or.inr ⟨ho, hexecutor ho⟩
  · rw [(hsame.approved happroved).2]
    exact hactor

omit [Runtime] in
theorem orderedBy_request (input : RecordRefundInput) {requestId : Nat} {request : RefundRequest}
    {b : Books} (hloaded : b.refundRequests.find requestId = some request)
    (htype : input.invoiceType = request.invoiceType) (hinvoice : input.invoiceId = request.invoiceId)
    (hamount : input.amount = moneyToNumber request.amount) :
    OrderedBy b (some { requestId := requestId, evidenceRef := trim input.evidenceRef }) input := by
  intro draft hdraft hevidence hminor o ho
  obtain rfl := Option.some.inj ho
  refine ⟨hevidence.symm, request, hloaded, htype.symm, hinvoice.symm, ?_⟩
  rw [hminor, hamount, toMinor_SAR]

theorem assertUnowned_serves (requestId : Nat) (request : RefundRequest) (refund : SettlementRefund) :
    Acts q (assertUnowned requestId request refund) s :=
  Serves.bind Serves.read fun _ _ _ _ =>
    Serves.seq (Serves.ensure fun _ _ => trivial) fun _ _ _ => Serves.ensure fun _ _ => trivial

theorem postRequest_serves {actor requestId : Nat} {request : RefundRequest} {input : ExecuteRefundInput}
    {candidates : List String}
    (hloaded : ∃ r, s.db.books.refundRequests.find requestId = some r ∧ RefundRequest.Same request r) :
    Serves q (fun outcome t => Recorded t.db.books request.invoiceType request.invoiceId outcome.refund ∧
        outcome.refund.amount = request.amount)
      (postRequest actor requestId request input candidates) s := by
  obtain ⟨r, hr, hsame⟩ := hloaded
  have hordered := orderedBy_request
    { invoiceType := request.invoiceType
      invoiceId := request.invoiceId
      amount := moneyToNumber request.amount
      reason := request.reason
      reasonCode := request.reasonCode
      evidenceRef := input.evidenceRef
      refundedAt := input.refundedAt } hr hsame.invoiceType.symm hsame.invoiceId.symm
    (by rw [hsame.amount])
  refine Serves.bind (recordRefund_serves hordered) fun outcome t _ hrecorded => ?_
  have hamount : outcome.refund.amount = request.amount := by
    have hcents := hrecorded.amount
    rw [toMinor_SAR] at hcents
    cases h : outcome.refund.amount
    cases h' : request.amount
    simp_all
  split
  · refine Serves.seq (assertUnowned_serves _ _ _) fun _ u htu => Serves.pure fun _ => ?_
    exact ⟨hrecorded.recorded.later (later_of_rely htu), hamount⟩
  · exact Serves.pure fun _ => ⟨hrecorded.recorded, hamount⟩

theorem finalizeTx_step {actor requestId : Nat} {request : RefundRequest} {outcome : RefundOutcome}
    {t u : World} {n : Nat} {b : Books} (hloaded : b.refundRequests.find requestId = some request)
    (hlater : Later b t.db.books) (happroved : request.state ≠ .requested)
    (hactor : request.approvedBy ≠ some actor)
    (hrecorded : Recorded t.db.books request.invoiceType request.invoiceId outcome.refund)
    (hamount : outcome.refund.amount = request.amount)
    (h : finalizeTx actor requestId outcome t = .ok (n, u)) :
    Step (.finalizeRefund requestId outcome.refund.id) t u := by
  simp only [finalizeTx, Tx.bind_eq_ok, txNow_eq_ok] at h
  obtain ⟨executedAt, _, ⟨-, rfl⟩, moved, w, hupdate, h⟩ := h
  obtain ⟨hunique, hupdate⟩ := updateUnique_eq_ok.mp hupdate
  have hdb : u.db = w.db := by
    split at h
    · simp only [Tx.bind_eq_ok, Tx.pure_eq_ok] at h
      obtain ⟨_, _, haudit, -, rfl⟩ := h
      exact recordGuaranteed_eq_ok haudit
    · obtain ⟨-, rfl⟩ := Tx.pure_eq_ok.mp h
      rfl
  have hstep : Step (.finalizeRefund requestId outcome.refund.id) t w := by
    refine requestUpdate_step requestId (fun r hr => (of_decide_eq_true hr).1)
      (fun r hr hc => ?_) hupdate
    obtain ⟨rfl, hsame⟩ := hlater.request hloaded hr
    refine .finalize (of_decide_eq_true hc).2 ?_ hrecorded.stored ⟨?_, ?_, ?_⟩ fun x hx hbound => ?_
    · rw [(hsame.approved happroved).2]
      exact hactor
    · rw [hrecorded.invoiceType, hsame.invoiceType]
    · rw [hrecorded.invoiceId, hsame.invoiceId]
    · rw [hamount, hsame.amount]
    · -- the unique column would refuse a second request on the refund
      by_contra hne
      have hnew := hunique x (mem_updateMany.mpr ⟨x, hx, if_neg (by simp [hne])⟩)
        (finalizeRow actor outcome.refund.id executedAt r)
        (mem_updateMany.mpr ⟨r, mem_of_find hr, if_pos hc⟩) hne
      simp [hbound, finalizeRow] at hnew
  unfold Step at hstep ⊢
  rw [hdb]
  exact hstep

theorem executeRefund_serves (actor requestId : Nat) (input : ExecuteRefundInput)
    (candidates : List String) : Acts q (executeRefund actor requestId input candidates) s := by
  refine Serves.bind (loadRequest_serves requestId) fun request s₁ _ hloaded => ?_
  refine Serves.bind Serves.guard fun _ s₂ h₂ hopen => ?_
  refine Serves.bind Serves.guard fun _ s₃ h₃ hactor => ?_
  refine Serves.seq (Serves.ensure fun _ _ => trivial) fun _ s₄ h₄ => ?_
  refine Serves.seq (verifySnapshot_serves request) fun _ s₅ h₅ => ?_
  refine Serves.seq (Serves.ensure fun _ _ => trivial) fun _ s₆ h₆ => ?_
  have h₁₆ := (((h₂.trans h₃).trans h₄).trans h₅).trans h₆
  have happroved : request.state ≠ .requested := by
    rcases hopen with ho | ho <;> simp [ho]
  refine Serves.seq ?_ fun latched s₇ h₇ => ?_
  · exact Serves.transaction rfl fun t n u _ h₆t h =>
      ⟨latchRequest_step hopen hactor hloaded (later_of_rely (h₁₆.trans h₆t)) h, trivial⟩
  refine Serves.seq (Serves.ensure fun _ _ => trivial) fun _ s₈ h₈ => ?_
  refine Serves.bind (P := fun outcome t =>
    Recorded t.db.books request.invoiceType request.invoiceId outcome.refund ∧
      outcome.refund.amount = request.amount) ?_ fun outcome s₉ h₉ hrecorded => ?_
  · refine Serves.tryCatch (postRequest_serves ?_) fun e t _ => ?_
    · exact (later_of_rely ((h₁₆.trans h₇).trans h₈)).requests _ _ hloaded
    · split
      · exact Serves.seq (releaseRequest_serves _ _) fun _ _ _ => Serves.fail
      · exact Serves.fail
  refine Serves.seq (Serves.tryCatch ?_ fun e t _ => ?_) fun moved _ _ => ?_
  · refine Serves.transaction rfl fun t n u _ h₉t h => ⟨?_, trivial⟩
    exact finalizeTx_step hloaded
      (later_of_rely (((h₁₆.trans h₇).trans h₈).trans (h₉.trans h₉t))) happroved hactor
      (hrecorded.1.later (later_of_rely h₉t)) hrecorded.2 h
  · split
    · exact Serves.seq (releaseRequest_serves _ _) fun _ _ _ => Serves.fail
    · exact Serves.fail
  · refine Serves.seq (Serves.ensure fun _ _ => trivial) fun _ _ _ => ?_
    exact Serves.seq (loadRequest_serves requestId).acts fun _ _ _ => Serves.pure fun _ => trivial

end Services

end Qift
