import Qift.Runs.Approvals

/-!
# Refund requests over runs

What every interleaving keeps of the requests and of the refunds recorded for them.

* `RequestOk` — an approved request has an approver who is not its requester, an executing one an executor who
  is not its approver, an executed one the refund it asks for.
* **`Run.makerChecker`** — the separation of duties: who requested, who approved and who executed, and that a refund
  and its evidence stand for one request.
-/

namespace Qift

open Relational Relational.Table Interleaving Settlement Financial

/-! ### Stored requests -/

/-- The refund a request asks for, but for its VAT. -/
structure AsksFor (r : RefundRequest) (f : SettlementRefund) : Prop where
  invoiceType : f.invoiceType = r.invoiceType
  invoiceId : f.invoiceId = r.invoiceId
  amount : f.amount = r.amount

structure RequestOk (refunds : Table SettlementRefund.id) (r : RefundRequest) : Prop where
  approved : r.state = .approved ∨ r.state = .executing ∨ r.state = .executed →
    ∃ a, r.approvedBy = some a ∧ a ≠ r.requestedBy
  executing : r.state = .executing ∨ r.state = .executed →
    ∃ x, r.executedBy = some x ∧ r.approvedBy ≠ some x
  executed : r.state = .executed → ∃ f, r.refundId = some f.id ∧ refunds.find f.id = some f ∧ AsksFor r f
  bound : r.refundId ≠ none → r.state = .executed

structure RequestsOk (b : Books) : Prop where
  requests : ∀ r ∈ b.refundRequests.rows, RequestOk b.refunds r
  /-- A refund is bound to one request. -/
  bound : ∀ r ∈ b.refundRequests.rows, ∀ r' ∈ b.refundRequests.rows, r'.refundId = r.refundId →
    r.refundId ≠ none → r'.id = r.id
  /-- An evidence reference stands for one refund of an invoice. -/
  evidence : ∀ f ∈ b.refunds.rows, ∀ f' ∈ b.refunds.rows, f'.invoiceType = f.invoiceType →
    f'.invoiceId = f.invoiceId → f'.evidenceRef = f.evidenceRef → f' = f

theorem requestsOk_empty : RequestsOk World.empty.db.books where
  requests := by simp [Db.books, World.empty]
  bound := by simp [Db.books, World.empty]
  evidence := by simp [Db.books, World.empty]

theorem RequestOk.later {refunds refunds' : Table SettlementRefund.id} {r : RefundRequest}
    (h : RequestOk refunds r) (hrefunds : Evolves Eq refunds refunds') : RequestOk refunds' r where
  approved := h.approved
  executing := h.executing
  executed hs := by
    obtain ⟨f, hid, hf, hasks⟩ := h.executed hs
    obtain ⟨_, hf', rfl⟩ := hrefunds _ _ hf
    exact ⟨f, hid, hf', hasks⟩
  bound := h.bound

theorem RequestOk.move {refunds : Table SettlementRefund.id} {requests : Table RefundRequest.id}
    {l : Site} {r r' : RefundRequest} (h : RequestOk refunds r)
    (hmove : RequestMove refunds requests l r r') : RequestOk refunds r' := by
  -- a request that is not executed is bound to no refund
  have hunbound (hs : r.state ≠ .executed) : ¬ r.refundId ≠ none := fun hne => hs (h.bound hne)
  cases hmove with
  | stay => exact h
  | @approve _ actor movedAt hstate hactor =>
      refine ⟨fun _ => ⟨actor, rfl, hactor.symm⟩, ?_, nofun, fun hne => ?_⟩
      · rintro (hs | hs)
        · cases hs
        · cases hs
      · exact absurd hne (hunbound (by simp [hstate]))
  | cancel hstate =>
      refine ⟨?_, ?_, nofun, fun hne => absurd hne (hunbound ?_)⟩
      · rintro (hs | hs | hs)
        · cases hs
        · cases hs
        · cases hs
      · rintro (hs | hs)
        · cases hs
        · cases hs
      · rcases hstate with hs | hs
        · simp [hs]
        · simp [hs]
  | @latch _ actor hstate hactor =>
      have hbefore : r.state = .approved ∨ r.state = .executing ∨ r.state = .executed := by
        rcases hstate with hs | ⟨hs, -⟩
        · exact Or.inl hs
        · exact Or.inr (Or.inl hs)
      refine ⟨fun _ => h.approved hbefore, fun _ => ⟨actor, rfl, hactor⟩, nofun, fun hne => ?_⟩
      refine absurd hne (hunbound ?_)
      rcases hstate with hs | ⟨hs, -⟩
      · simp [hs]
      · simp [hs]
  | release hstate =>
      refine ⟨fun _ => h.approved (Or.inr (Or.inl hstate)), ?_, nofun, fun hne => ?_⟩
      · rintro (hs | hs)
        · cases hs
        · cases hs
      · exact absurd hne (hunbound (by simp [hstate]))
  | @finalize _ actor refund movedAt hstate hactor hrefund hpaid hfree =>
      refine ⟨fun _ => h.approved (Or.inr (Or.inl hstate)), fun _ => ⟨actor, rfl, hactor⟩, fun _ => ?_,
        fun _ => rfl⟩
      exact ⟨refund, rfl, hrefund, hpaid.1, hpaid.2.1, hpaid.2.2⟩

theorem RequestMove.refundId {refunds : Table SettlementRefund.id} {requests : Table RefundRequest.id}
    {l : Site} {r r' : RefundRequest} (h : RequestMove refunds requests l r r') :
    r'.refundId = r.refundId ∨ ∃ k, l = .finalizeRefund r.id k ∧ r'.refundId = some k ∧
      ∀ x ∈ requests.rows, x.refundId = some k → x.id = r.id := by
  cases h with
  | @finalize _ actor refund movedAt hstate hactor hrefund hpaid hfree =>
      exact Or.inr ⟨refund.id, rfl, rfl, hfree⟩
  | stay => exact Or.inl rfl
  | approve hstate hactor => exact Or.inl rfl
  | cancel hstate => exact Or.inl rfl
  | latch hstate hactor => exact Or.inl rfl
  | release hstate => exact Or.inl rfl

section Effects

variable [Runtime] {l : Site} {b b' : Books}

omit [Runtime] in
theorem RequestsOk.refund (h : RequestsOk b) (hlater : Later b b') {row : SettlementRefund}
    (hcreate : b.refunds.create row = some b'.refunds)
    (hrequests : b'.refundRequests = b.refundRequests)
    (hunused : Unused b row.invoiceType row.invoiceId row.evidenceRef) : RequestsOk b' where
  requests := by
    rw [hrequests]
    exact fun r hr => (h.requests r hr).later hlater.refunds
  bound := by
    rw [hrequests]
    exact h.bound
  evidence := by
    intro f hf f' hf' htype hinvoice hevidence
    rcases (mem_create hcreate).mp hf with hold | rfl
    · rcases (mem_create hcreate).mp hf' with hold' | rfl
      · exact h.evidence f hold f' hold' htype hinvoice hevidence
      · exact absurd hevidence.symm (hunused f hold htype.symm hinvoice.symm)
    · rcases (mem_create hcreate).mp hf' with hold' | rfl
      · exact absurd hevidence (hunused f' hold' htype hinvoice)
      · rfl

omit [Runtime] in
/-- An effect that neither stores a refund nor moves a request. -/
theorem RequestsOk.keep (h : RequestsOk b) (hrefunds : b'.refunds = b.refunds)
    (hrequests : b'.refundRequests = b.refundRequests) : RequestsOk b' where
  requests := by
    rw [hrefunds, hrequests]
    exact h.requests
  bound := by
    rw [hrequests]
    exact h.bound
  evidence := by
    rw [hrefunds]
    exact h.evidence

/-- **Every effect keeps the requests.** -/
theorem RequestsOk.effect (h : RequestsOk b) (heffect : Effect l b b') : RequestsOk b' := by
  have hlater := heffect.later
  cases heffect with
  | @request _ row requests n hfiled hcreate hn =>
      have hnew : RequestOk b.refunds row := by
        refine ⟨?_, ?_, ?_, fun hne => absurd hfiled.unbound hne⟩
        · rintro (hs | hs | hs) <;> simp [hfiled.state] at hs
        · rintro (hs | hs) <;> simp [hfiled.state] at hs
        · intro hs
          simp [hfiled.state] at hs
      refine ⟨fun r hr => ?_, fun r hr r' hr' heq hne => ?_, h.evidence⟩
      · rcases (mem_create hcreate).mp hr with hold | rfl
        · exact h.requests r hold
        · exact hnew
      · rcases (mem_create hcreate).mp hr with hold | rfl
        · rcases (mem_create hcreate).mp hr' with hold' | rfl
          · exact h.bound r hold r' hold' heq hne
          · exact absurd (heq.symm.trans hfiled.unbound) hne
        · exact absurd hfiled.unbound hne
  | @requestUpdate _ _ requests g hrows hmove =>
      have hback : ∀ r' ∈ requests.rows, ∃ r ∈ b.refundRequests.rows, r' = g r := by
        intro r' hr'
        rw [hrows] at hr'
        obtain ⟨r, hr, heq⟩ := List.mem_map.mp hr'
        exact ⟨r, hr, heq.symm⟩
      refine ⟨fun r' hr' => ?_, fun x' hx' y' hy' heq hne => ?_, h.evidence⟩
      · obtain ⟨r, hr, rfl⟩ := hback r' hr'
        exact (h.requests r hr).move (hmove r hr)
      · obtain ⟨x, hx, rfl⟩ := hback x' hx'
        obtain ⟨y, hy, rfl⟩ := hback y' hy'
        rw [(hmove x hx).id, (hmove y hy).id]
        rcases (hmove x hx).refundId with hxk | ⟨k, hl, hxk, hfree⟩
        · rcases (hmove y hy).refundId with hyk | ⟨k', hl', hyk, hfree'⟩
          · exact h.bound x hx y hy (hyk ▸ hxk ▸ heq) (hxk ▸ hne)
          · -- the bound refund of the one is what the other completes with
            rw [hxk, hyk] at heq
            exact (hfree' x hx heq.symm).symm
        · rcases (hmove y hy).refundId with hyk | ⟨k', hl', hyk, hfree'⟩
          · rw [hxk, hyk] at heq
            exact hfree y hy heq
          · rw [hl] at hl'
            exact (Site.finalizeRefund.inj hl').1.symm
  | reduce hrefunds hstate hunbound hamount hcreate hposts hn =>
      exact h.refund hlater hcreate rfl hrefunds.unused
  | accrue hrefunds hstate hreversed hcreate haccrue hposts hid hn =>
      exact h.refund hlater hcreate rfl hrefunds.unused
  | feeRefund hrefunds hcreate hposts hn => exact h.refund hlater hcreate rfl hrefunds.unused
  | _ => exact h.keep rfl rfl

/-- What an action does to a stored request. -/
theorem Effect.requestMove (heffect : Effect l b b') {n : Nat} {r r' : RefundRequest}
    (hr : b.refundRequests.find n = some r) (hr' : b'.refundRequests.find n = some r') :
    RequestMove b.refunds b.refundRequests l r r' := by
  have hstay (h : b'.refundRequests.find n = some r) : RequestMove b.refunds b.refundRequests l r r' := by
    obtain rfl := Option.some.inj (h.symm.trans hr')
    exact .stay
  cases heffect with
  | request hfiled hcreate hn => exact hstay (find_create_of_find hcreate hr)
  | @requestUpdate _ _ requests g hrows hmove =>
      have hid : ∀ x ∈ b.refundRequests.rows, (g x).id = x.id := fun x hx => (hmove x hx).id
      have hmem : g r ∈ requests.rows := by
        rw [hrows]
        exact List.mem_map_of_mem (mem_of_find hr)
      have hkey : (g r).id = r'.id := by
        rw [hid r (mem_of_find hr), key_of_find hr, key_of_find hr']
      obtain rfl := row_unique _ hmem (mem_of_find hr') hkey
      exact hmove r (mem_of_find hr)
  | _ => exact hstay hr

end Effects

/-! ### Separation of duties -/

section Runs

variable [Runtime] {tr : List (Event World Site)} {cfg : Config World Site (Except Err Reply)}

theorem Reachable.requestsOk {s : World} (h : Reachable s) : RequestsOk s.db.books :=
  Rely.stable (P := fun w : World => RequestsOk w.db.books) (fun _ _ _ hact hs => hs.effect hact) h
    requestsOk_empty

/-- The separation of duties on refund requests. -/
structure MakerChecker (tr : List (Event World Site)) (w : World) : Prop where
  /-- An executed request has an approver who is neither its requester nor its executor, and one refund. -/
  separated : ∀ r ∈ w.db.refundRequests.rows, r.state = .executed → ∃ a x f, r.approvedBy = some a ∧
    r.executedBy = some x ∧ a ≠ r.requestedBy ∧ a ≠ x ∧ r.refundId = some f.id ∧
      w.db.refunds.find f.id = some f
  /-- It was approved before it was latched and latched before it was executed. -/
  latched : ∀ e ∈ tr, ∀ n r r', e.pre.db.refundRequests.find n = some r →
    e.post.db.refundRequests.find n = some r' → r'.state = .executing →
    (r.state = .approved ∨ r.state = .executing) ∧
      ∃ a, r.approvedBy = some a ∧ a ≠ r.requestedBy ∧ r'.approvedBy = some a
  executed : ∀ e ∈ tr, ∀ n r r', e.pre.db.refundRequests.find n = some r →
    e.post.db.refundRequests.find n = some r' → r'.state = .executed →
    r.state = .executing ∨ r' = r
  /-- No refund is bound to two requests. -/
  oneRequest : ∀ r ∈ w.db.refundRequests.rows, ∀ r' ∈ w.db.refundRequests.rows,
    r'.refundId = r.refundId → r.refundId ≠ none → r' = r
  /-- No evidence is accepted for two requests of one invoice. -/
  evidence : ∀ r ∈ w.db.refundRequests.rows, ∀ r' ∈ w.db.refundRequests.rows, ∀ f ∈ w.db.refunds.rows,
    ∀ f' ∈ w.db.refunds.rows, r.refundId = some f.id → r'.refundId = some f'.id →
    f'.invoiceType = f.invoiceType → f'.invoiceId = f.invoiceId → f'.evidenceRef = f.evidenceRef → r' = r

/-- **Makers and checkers of refunds are separated.** -/
theorem Run.makerChecker (h : Run tr cfg) : MakerChecker tr cfg.state where
  separated := by
    intro r hr hs
    obtain ⟨happroved, hexecuting, hexecuted, -⟩ := h.reachable.requestsOk.requests r hr
    obtain ⟨a, ha, hrequester⟩ := happroved (Or.inr (Or.inr hs))
    obtain ⟨x, hx, hexecutor⟩ := hexecuting (Or.inr hs)
    obtain ⟨f, hid, hf, -⟩ := hexecuted hs
    refine ⟨a, x, f, ha, hx, hrequester, fun heq => hexecutor ?_, hid, hf⟩
    rw [ha, heq]
  latched := by
    intro e he n r r' hr hr' hs
    obtain ⟨hpre, hact, -⟩ := h.event he
    have hok := hpre.requestsOk.requests r (mem_of_find hr)
    have hmove := Effect.requestMove hact hr hr'
    generalize e.lbl = l at hmove
    cases hmove with
    | stay =>
        obtain ⟨a, ha, hrequester⟩ := hok.approved (Or.inr (Or.inl hs))
        exact ⟨Or.inr hs, a, ha, hrequester, ha⟩
    | latch hstate hactor =>
        have hbefore : r.state = .approved ∨ r.state = .executing := by
          rcases hstate with hs | ⟨hs, -⟩
          · exact Or.inl hs
          · exact Or.inr hs
        obtain ⟨a, ha, hrequester⟩ := hok.approved (hbefore.imp_right Or.inl)
        exact ⟨hbefore, a, ha, hrequester, ha⟩
    | approve | cancel | release | finalize => cases hs
  executed := by
    intro e he n r r' hr hr' hs
    obtain ⟨-, hact, -⟩ := h.event he
    have hmove := Effect.requestMove hact hr hr'
    generalize e.lbl = l at hmove
    cases hmove with
    | stay => exact Or.inr rfl
    | finalize hstate => exact Or.inl hstate
    | approve | cancel | release | latch => cases hs
  oneRequest := by
    intro r hr r' hr' heq hne
    exact row_unique _ hr' hr (h.reachable.requestsOk.bound r hr r' hr' heq hne)
  evidence := by
    intro r hr r' hr' f hf f' hf' hid hid' htype hinvoice hevidence
    have hok := h.reachable.requestsOk
    obtain rfl := hok.evidence f hf f' hf' htype hinvoice hevidence
    exact row_unique _ hr' hr (hok.bound r hr r' hr' (hid'.trans hid.symm) (by rw [hid]; nofun))

end Runs

/-- Ask for a refund on a goods invoice. -/
def Pilot.ask (invoiceId : Nat) (amount : Number) : Call :=
  .requestRefund 1
    { invoiceType := .merchant_invoice
      invoiceId := invoiceId
      amount := amount
      reason := "returned"
      reasonCode := some "other" }

/-- Execute a request with the evidence of a transfer of a day. -/
def Pilot.pay (requestId : Nat) (amount : Number) (evidenceRef : String) (refundedAt : Time)
    (reference : String) : Call :=
  .executeRefund 1 requestId
    { evidenceRef := evidenceRef
      refundedAt := some refundedAt
      confirmedAmount := amount } [reference]

/-- A paid invoice, number zero, and a request on it, number six. -/
def Pilot.asked (amount : Number) : List Call :=
  [.surround surroundings, issueGoods 100, receive .merchant_invoice 0 100 "B-1", ask 0 amount]

theorem Run.makerChecker_oneRequest :
    let run := Pilot.played (Pilot.inOrder (Pilot.asked 30 ++
      [.approveRefund 2 6, Pilot.pay 6 30 "R-1" Pilot.newYear "CN-1"]))
    (run.2.state.db.refundRequests.rows.map RefundRequest.state) = [.executed] ∧
      MakerChecker run.1 run.2.state :=
  ⟨by decide +kernel, @Run.makerChecker plainRuntime _ _ (Pilot.run _)⟩

/-- Two requests on two invoices, approved by a second actor and executed by their requester with the evidence
of one transfer. -/
def Pilot.askedTwice : List Call :=
  [.surround widened, issueGoods 100, receive .merchant_invoice 0 100 "B-1", issueSecond 20,
    receive .merchant_invoice 6 20 "B-2", ask 0 30, ask 6 10, .approveRefund 2 12, .approveRefund 2 13,
    pay 12 30 "R-1" newYear "CN-1", pay 13 10 "R-1" newYear "CN-2"]

/-- **A requester may execute**, and one evidence reference is accepted for requests on two invoices. -/
theorem Run.requester_executes :
    ∃ tr cfg, @Run plainRuntime tr cfg ∧
      (cfg.state.db.refundRequests.rows.map fun r =>
        (r.state, r.requestedBy, r.approvedBy, r.executedBy, r.refundId)) =
          [(.executed, 1, some 2, some 1, some 14), (.executed, 1, some 2, some 1, some 18)] ∧
      (cfg.state.db.refunds.rows.map fun f => (f.id, f.invoiceId, f.evidenceRef)) =
        [(14, 0, "R-1"), (18, 6, "R-1")] :=
  ⟨_, _, Pilot.run (Pilot.inOrder Pilot.askedTwice), by decide +kernel⟩

end Qift
