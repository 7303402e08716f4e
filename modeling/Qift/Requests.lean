import Qift.Settlement.RefundRequests

/-!
# The life of a refund request

What one action may do to a stored request, as a relation on rows.

* `RequestMove` — approval by somebody else than the requester, cancellation before execution, the latch of an
  execution by somebody else than the approver, its release and its completion with a stored refund.
* **`RequestMove.same`** — whatever happens, a request keeps what it asks for, its requester, and its approver
  once it has one.
-/

namespace Qift

open Relational Relational.Table Interleaving Settlement

/-- What an action of a label does to one request, given the stored refunds and requests. -/
inductive RequestMove (refunds : Table SettlementRefund.id) (requests : Table RefundRequest.id) :
    Site → RefundRequest → RefundRequest → Prop
  | stay {l : Site} {r : RefundRequest} : RequestMove refunds requests l r r
  | approve {r : RefundRequest} {actor : Nat} {movedAt : Time} (hstate : r.state = .requested)
      (hactor : r.requestedBy ≠ actor) :
      RequestMove refunds requests (.approveRefund r.id) r (approveRow actor movedAt r)
  | cancel {r : RefundRequest} {actor : Nat} {movedAt : Time}
      (hstate : r.state = .requested ∨ r.state = .approved) :
      RequestMove refunds requests (.cancelRefund r.id) r (cancelRow actor movedAt r)
  | latch {r : RefundRequest} {actor : Nat}
      (hstate : r.state = .approved ∨ r.state = .executing ∧ r.executedBy = some actor)
      (hactor : r.approvedBy ≠ some actor) :
      RequestMove refunds requests (.latchRefund r.id) r (latchRow actor r)
  | release {r : RefundRequest} {evidenceRef : String} (hstate : r.state = .executing) :
      RequestMove refunds requests (.releaseRefund r.id evidenceRef) r (unlatchRow r)
  | finalize {r : RefundRequest} {actor : Nat} {refund : SettlementRefund} {movedAt : Time}
      (hstate : r.state = .executing) (hactor : r.approvedBy ≠ some actor)
      (hrefund : refunds.find refund.id = some refund)
      (hpaid : refund.invoiceType = r.invoiceType ∧ refund.invoiceId = r.invoiceId ∧
        refund.amount = r.amount)
      (hunbound : ∀ x ∈ requests.rows, x.refundId = some refund.id → x.id = r.id) :
      RequestMove refunds requests (.finalizeRefund r.id refund.id) r
        (finalizeRow actor refund.id movedAt r)

/-- What a request keeps. -/
structure RefundRequest.Same (r r' : RefundRequest) : Prop where
  invoiceType : r'.invoiceType = r.invoiceType
  invoiceId : r'.invoiceId = r.invoiceId
  amount : r'.amount = r.amount
  vatComponent : r'.vatComponent = r.vatComponent
  requestedBy : r'.requestedBy = r.requestedBy
  /-- An approval stands. -/
  approved : r.state ≠ .requested → r'.state ≠ .requested ∧ r'.approvedBy = r.approvedBy
  /-- So does the refund a request was executed into. -/
  executed : r.state = .executed → r'.state = .executed ∧ r'.refundId = r.refundId ∧
    r'.executedBy = r.executedBy

theorem RefundRequest.Same.refl (r : RefundRequest) : RefundRequest.Same r r :=
  ⟨rfl, rfl, rfl, rfl, rfl, fun h => ⟨h, rfl⟩, fun h => ⟨h, rfl, rfl⟩⟩

theorem RefundRequest.Same.trans {r r' r'' : RefundRequest} (h : RefundRequest.Same r r')
    (h' : RefundRequest.Same r' r'') : RefundRequest.Same r r'' where
  invoiceType := h'.invoiceType.trans h.invoiceType
  invoiceId := h'.invoiceId.trans h.invoiceId
  amount := h'.amount.trans h.amount
  vatComponent := h'.vatComponent.trans h.vatComponent
  requestedBy := h'.requestedBy.trans h.requestedBy
  approved hs := by
    obtain ⟨hs', happ⟩ := h.approved hs
    obtain ⟨hs'', happ'⟩ := h'.approved hs'
    exact ⟨hs'', happ'.trans happ⟩
  executed hs := by
    obtain ⟨hs', hrefund, hby⟩ := h.executed hs
    obtain ⟨hs'', hrefund', hby'⟩ := h'.executed hs'
    exact ⟨hs'', hrefund'.trans hrefund, hby'.trans hby⟩

namespace RequestMove

variable {refunds : Table SettlementRefund.id} {requests : Table RefundRequest.id} {l : Site}
  {r r' : RefundRequest}

theorem id (h : RequestMove refunds requests l r r') : r'.id = r.id := by
  cases h <;> rfl

/-- **A move keeps what a request asks for and who approved it.** -/
theorem same (h : RequestMove refunds requests l r r') : RefundRequest.Same r r' := by
  cases h with
  | stay => exact RefundRequest.Same.refl _
  | approve hstate _ =>
      exact ⟨rfl, rfl, rfl, rfl, rfl, fun hne => absurd hstate hne, fun he => by simp [hstate] at he⟩
  | cancel hstate =>
      refine ⟨rfl, rfl, rfl, rfl, rfl, fun _ => ⟨by simp [cancelRow], rfl⟩, fun he => ?_⟩
      rcases hstate with hs | hs <;> simp [hs] at he
  | latch hstate _ =>
      refine ⟨rfl, rfl, rfl, rfl, rfl, fun _ => ⟨by simp [latchRow], rfl⟩, fun he => ?_⟩
      rcases hstate with hs | ⟨hs, -⟩ <;> simp [hs] at he
  | release hstate =>
      exact ⟨rfl, rfl, rfl, rfl, rfl, fun _ => ⟨by simp [unlatchRow], rfl⟩,
        fun he => by simp [hstate] at he⟩
  | finalize hstate _ _ _ _ =>
      exact ⟨rfl, rfl, rfl, rfl, rfl, fun _ => ⟨by simp [finalizeRow], rfl⟩,
        fun he => by simp [hstate] at he⟩

end RequestMove

end Qift
