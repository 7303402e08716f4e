import Qift.Guarantee.Execution
import Qift.Guarantee.Requests
import Qift.Guarantee.Transfers

/-!
# The platform as a path of effects

Every call serves (`program_serves`), so every run of the platform is a path of effects on the books
(**`Run.path`**) and what a finished call answered holds of the state (**`Run.answered`**).  The invariants
follow for every state of every run.
-/

namespace Qift

open Relational Relational.Table Interleaving Settlement Financial

-- a judgment is used by its rules, never by what it unfolds to
attribute [local irreducible] Prog.Meets

section Program

variable [Runtime]

/-- What an answer says about the state. -/
def ReplyOk (r : Reply) (w : World) : Prop :=
  match r with
  | .done => True
  | .executed result => Completed w.db.books result.settlementId result
  | .replayed report => ReplayReport.Faithful report

theorem ReplyOk.stable {r : Reply} {s t : World} (h : ReplyOk r s) (hst : Rely Step s t) :
    ReplyOk r t := by
  cases r with
  | done => trivial
  | executed result => exact Completed.later h (later_of_rely hst)
  | replayed report => exact h

def Call.lane : Call → Lane
  | .markFailed .. | .retry .. | .holdBatch .. => .failure
  | .recordReceipt .. => .receiving
  | _ => .quiet

/-- **Every call serves.** -/
theorem program_serves (c : Call) (s : World) : Serves c.lane ReplyOk (program c) s := by
  cases c with
  | surround s' => exact (surround_serves s').answer fun _ => trivial
  | issueMerchantInvoice input => exact (issueMerchantInvoice_serves input).answer fun _ => trivial
  | issueCorporateInvoice input => exact (issueCorporateInvoice_serves input).answer fun _ => trivial
  | attachLegalReference invoiceId number =>
      exact (attachLegalReference_serves invoiceId number).answer fun _ => trivial
  | payOrder order => exact (payOrder_serves order).answer fun _ => trivial
  | verifyPayoutIdentity storeId evidence =>
      exact (verifyPayoutIdentity_serves storeId evidence).answer fun _ => trivial
  | evaluate storeId => exact (evaluate_serves storeId).answer fun _ => trivial
  | recordReceipt actor input => exact (recordReceipt_serves actor input).answer fun _ => trivial
  | deriveAndApplyCoverage invoiceType invoiceId =>
      exact (deriveAndApplyCoverage_serves invoiceType invoiceId).acts.answer fun _ => trivial
  | recordRefund actor input candidates =>
      exact (recordRefund_serves (OrderedBy.none _ _)).acts.answer fun _ => trivial
  | requestRefund actor input => exact (requestRefund_serves actor input).answer fun _ => trivial
  | approveRefund actor requestId => exact (approveRefund_serves actor requestId).answer fun _ => trivial
  | executeRefund actor requestId input candidates =>
      exact (executeRefund_serves actor requestId input candidates).answer fun _ => trivial
  | cancelRefundRequest actor requestId =>
      exact (cancelRefundRequest_serves actor requestId).answer fun _ => trivial
  | simulate storeId currency => exact (simulate_serves storeId currency).answer fun _ => trivial
  | assembleBatch actor storeId currency draws =>
      exact (assembleBatch_serves actor storeId currency draws).answer fun _ => trivial
  | markFailed batchId evidence => exact (markFailed_serves batchId evidence).answer fun _ => trivial
  | retry batchId => exact (retry_serves batchId).answer fun _ => trivial
  | holdBatch batchId evidence => exact (holdBatch_serves batchId evidence).answer fun _ => trivial
  | supersede batchId cause affected hold =>
      exact (supersede_serves batchId cause affected hold).answer fun _ => trivial
  | linkSuccessor supersededId successorId =>
      exact (linkSuccessor_serves supersededId successorId).answer fun _ => trivial
  | markSettled batchId evidence =>
      exact (markSettled_serves batchId evidence (GatedAt.none _ _)).acts.answer fun _ => trivial
  | markSettledZeroNet batchId =>
      exact (markSettledZeroNet_serves batchId (GatedAt.none _ _)).acts.answer fun _ => trivial
  | preview actor batchId => exact (preview_serves actor batchId).answer fun _ => trivial
  | approve actor batchId hash note =>
      exact (approve_serves actor batchId hash note).answer fun _ => trivial
  | execute actor batchId input =>
      refine Serves.bind (execute_serves actor batchId input) fun result t _ hresult => ?_
      obtain rfl := hresult.1
      exact Serves.pure fun _ => hresult
  | closeZeroNet actor batchId previewHash =>
      refine Serves.bind (closeZeroNet_serves actor batchId previewHash) fun result t _ hresult => ?_
      obtain rfl := hresult.1
      exact Serves.pure fun _ => hresult
  | replay actor batchId =>
      exact Serves.bind (replay_serves actor batchId) fun report t _ hreport => Serves.pure fun _ => hreport
  | recordInternalTransfer actor input =>
      exact (recordInternalTransfer_serves actor input).answer fun _ => trivial
  | pendingInternalTransfers => exact pendingInternalTransfers_serves.answer fun _ => trivial
  | gatherMovements => exact gatherMovements_serves.answer fun _ => trivial

theorem program_meets (c : Call) (s : World) (hs : Reachable s) :
    (program c).Meets (Rely Step) Step (fun r t => ∀ a, r = .ok a → ReplyOk a t) s :=
  ((program_serves c s hs).weaken_action fun _ _ _ hact => hact.2).mono
    fun _ _ hr a ha => (hr a ha).2

theorem reply_stable (r : Except Err Reply) (s t : World) (h : ∀ a, r = .ok a → ReplyOk a s)
    (hst : Rely Step s t) : ∀ a, r = .ok a → ReplyOk a t :=
  fun a ha => (h a ha).stable hst

/-- **Every run is a path of effects.** -/
theorem Run.path {tr : List (Event World Site)} {cfg : Config World Site (Except Err Reply)}
    (h : Run tr cfg) : Path Step World.empty tr cfg.state :=
  (Exec.path reply_stable program_meets h).1

/-- **What a finished call answered holds.** -/
theorem Run.answered {tr : List (Event World Site)} {cfg : Config World Site (Except Err Reply)}
    (h : Run tr cfg) {a : Reply} (ha : .done (.ok a) ∈ cfg.pool) : ReplyOk a cfg.state :=
  Exec.answered reply_stable program_meets h ha a rfl

/-- The state of a run is reachable. -/
theorem Run.reachable {tr : List (Event World Site)} {cfg : Config World Site (Except Err Reply)}
    (h : Run tr cfg) : Reachable cfg.state := h.path.rely

theorem Run.event {tr : List (Event World Site)} {cfg : Config World Site (Except Err Reply)}
    (h : Run tr cfg) {e : Event World Site} (he : e ∈ tr) :
    Reachable e.pre ∧ Step e.lbl e.pre e.post ∧ Rely Step e.post cfg.state := by
  obtain ⟨_, _, -, hbefore, hact, hafter⟩ := h.path.split he
  exact ⟨hbefore.rely, hact, hafter.rely⟩

end Program

end Qift
