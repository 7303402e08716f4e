import Qift.Shop.SelfHeal

/-!
# One charge and one gift per order

* `wins o` is the lock that finds the order pending: an order leaves the pending state for good, so at most one lock of
  a run wins.
* A confirm earns its charges by winning (`program_solvent`), so by the credit rule no call to the gateway and no
  outcome of an order happens twice.
* An order that is paid and linked stays so, since its outcome is settled once: every confirm that answers names the
  gift the order is linked to. A confirm that has not won writes nothing but legs of stored orders.
-/

namespace Qift.Shop.Counter

open Relational Interleaving Financial

-- a judgment is used by its rules, never by what it unfolds to
attribute [local irreducible] Prog.Meets Prog.Under Prog.Solvent

/-! ### An order moves once -/

/-- The order is stored and not pending any more. -/
def Moved (o : Nat) (w : Shop) : Prop := ∃ x, w.orders.find o = some x ∧ x.status ≠ .pending

/-- A lock that finds its order pending. -/
def wins (o : Nat) (l : Place) (w : Shop) : Bool :=
  decide (l.step = .lock o ∧ w.outage = false ∧ w.orders.count (fun x => x.id = o ∧ x.status = .pending) ≠ 0)

theorem moved_update {t : Table Order.id} {p : Order → Bool} {f : Order → Order} (hf : ∀ x, (f x).id = x.id) {o : Nat}
    (hmove : ∀ x, (f x).status ≠ .pending) (h : ∃ x, t.find o = some x ∧ x.status ≠ .pending) :
    ∃ x, (t.updateMany p f hf).find o = some x ∧ x.status ≠ .pending := by
  obtain ⟨x, hfind, hx⟩ := h
  refine ⟨_, Table.find_updateMany_some hf hfind, ?_⟩
  split
  · exact hmove x
  · exact hx

theorem Effect.moved {l : Place} {w w' : Shop} (h : Effect l w w') {o : Nat} (hmoved : Moved o w) : Moved o w' := by
  cases h with
  | placeOrder body viewer hprice hcreate =>
      obtain ⟨x, hfind, hx⟩ := hmoved
      exact ⟨x, Table.find_create_of_find hcreate hfind, hx⟩
  | lock desk n => exact moved_update setProcessing_id (fun _ => nofun) hmoved
  | settle desk n giftId => exact moved_update (setPaid_id giftId) (fun _ => nofun) hmoved
  | recordFailed desk n => exact moved_update setFailed_id (fun _ => nofun) hmoved
  | idle | surround | giftAttempt | createGift | fulfil | gateway | post => exact hmoved

/-- A winning lock finds the order pending and moves it. -/
theorem Effect.won {l : Place} {w w' : Shop} (h : Effect l w w') {o : Nat} (hwins : wins o l w = true) :
    ¬Moved o w ∧ Moved o w' := by
  obtain ⟨hstep, hup, hcount⟩ := of_decide_eq_true hwins
  obtain ⟨x, hfind, hx⟩ := Table.count_pos (k := o) (fun r hr => (of_decide_eq_true hr).1) hcount
  have hpending := (of_decide_eq_true hx).2
  refine ⟨fun ⟨y, hy, hmoved⟩ => ?_, ?_⟩
  · rw [hfind] at hy
    cases hy
    exact hmoved hpending
  · generalize hl : l = place at h
    cases h with
    | idle place w hlock =>
        subst hl
        rw [hlock o hstep] at hup
        cases hup
    | lock desk n =>
        subst hl
        obtain rfl : n = o := Step.lock.inj hstep
        refine ⟨_, Table.find_updateMany_some setProcessing_id hfind, ?_⟩
        rw [if_pos hx]
        exact nofun
    | surround | placeOrder | giftAttempt | createGift | fulfil | gateway | settle | recordFailed | post =>
        subst hl
        cases hstep

/-! ### The credit of a confirm -/

/-- What an order is charged with: the two calls to the gateway and its outcome. -/
inductive Charge
  | call (op : GatewayOp)
  | outcome

def Charge.isStep (o : Nat) : Charge → Step → Bool
  | .call op, step => decide (step = .gateway op o)
  | .outcome, step => decide (step = .settle o ∨ step = .recordFailed o)

/-- An action that makes the charge. -/
def Charge.made (k : Charge) (o : Nat) (l : Place) (_ : Shop) : Bool := k.isStep o l.step

section Solvency

variable {k : Charge} {o n : Nat}

/-- Neither a lock nor a charge. -/
abbrev Plain (k : Charge) (o : Nat) : Place → Shop → Shop → Prop := Unpriced (wins o) (k.made o)

/-- The steps that lock, charge or settle an order. -/
def isMoneyStep : Step → Bool
  | .lock _ | .gateway _ _ | .settle _ | .recordFailed _ => true
  | _ => false

theorem plain_of_step {l : Place} {w w' : Shop} (h : isMoneyStep l.step = false) : Plain k o l w w' := by
  have hne (step : Step) (hstep : isMoneyStep step = true) : l.step ≠ step := by
    rintro rfl
    rw [h] at hstep
    cases hstep
  refine ⟨decide_eq_false fun hlock => hne _ rfl hlock.1, ?_⟩
  cases k with
  | call op => exact decide_eq_false (hne _ rfl)
  | outcome => exact decide_eq_false fun houtcome => houtcome.elim (hne _ rfl) (hne _ rfl)

theorem not_money_of_gift {step : Step} (h : isGiftStep step = true) : isMoneyStep step = false := by
  cases step <;> first | rfl | cases h

theorem not_money_of_ledger {step : Step} (h : isLedgerStep step = true) : isMoneyStep step = false := by
  cases step <;> first | rfl | cases h

theorem ensureLedger_does (desk : Desk) (x : Order) :
    Svc.Does (fun l _ _ => isLedgerStep l.step = true) (ensureLedgerForPaidOrder desk x) := by
  have hrecord (input : RecordLedgerInput) :
      Svc.Does (fun l _ _ => isLedgerStep l.step = true) (record desk x.id input) := by
    refine Svc.Does.bind (Svc.Does.ensure _ _) fun _ => Svc.Does.tryCatch ?_ fun e => ?_
    · exact Svc.Does.bind (Svc.Does.transaction (fun _ _ _ _ => rfl) fun _ _ _ => rfl) fun _ => Svc.Does.pure _
    · split
      · refine Svc.Does.bind (Svc.Does.query (fun _ => rfl) _) fun posted => ?_
        split
        · exact Svc.Does.pure _
        · exact Svc.Does.fail _
      · exact Svc.Does.fail _
  have hpost (input : RecordLedgerInput) :
      Svc.Does (fun l _ _ => isLedgerStep l.step = true) (postLeg desk x.id input) := by
    refine Svc.Does.tryCatch (hrecord input) fun e => ?_
    split
    · exact Svc.Does.pure _
    · exact Svc.Does.fail _
  refine Svc.Does.tryCatch (Svc.Does.bind (Svc.Does.query (fun _ => rfl) _) fun existing => ?_) fun _ =>
    Svc.Does.pure _
  split
  · exact Svc.Does.pure _
  · exact Svc.Does.forEach hpost

theorem ensureLedger_plain (desk : Desk) (x : Order) : Svc.Does (Plain k o) (ensureLedgerForPaidOrder desk x) :=
  (ensureLedger_does desk x).mono fun _ _ _ h => plain_of_step (not_money_of_ledger h)

theorem query_plain {α : Type} {desk : Desk} (f : Shop → α) :
    Svc.Does (Plain k o) (Svc.query ⟨desk, .read⟩ f : Service α) :=
  Svc.Does.query (fun _ => plain_of_step rfl) f

theorem afterLostRace_plain (desk : Desk) (id : String) : Svc.Does (Plain k o) (afterLostRace desk id) := by
  refine Svc.Does.bind (query_plain _) fun refreshed => ?_
  cases refreshed with
  | none => exact Svc.Does.fail _
  | some refreshed =>
      dsimp only
      split
      · exact Svc.Does.fail _
      · exact Svc.Does.bind (ensureLedger_plain _ _) fun _ => Svc.Does.pure _

theorem made_call {op : GatewayOp} {l : Place} {w : Shop} :
    (Charge.call op).made o l w = true ↔ l.step = .gateway op o := decide_eq_true_iff

theorem made_outcome {l : Place} {w : Shop} :
    Charge.outcome.made o l w = true ↔ l.step = .settle o ∨ l.step = .recordFailed o := decide_eq_true_iff

theorem made_gateway {desk : Desk} {op : GatewayOp} {m : Nat} {w : Shop}
    (h : k.made o ⟨desk, .gateway op m⟩ w = true) : k = .call op ∧ m = o := by
  cases k with
  | call op' =>
      obtain ⟨rfl, rfl⟩ := Step.gateway.inj (made_call.mp h)
      exact ⟨rfl, rfl⟩
  | outcome => rcases made_outcome.mp h with hstep | hstep <;> cases hstep

theorem made_settle {desk : Desk} {m : Nat} {w : Shop} (h : k.made o ⟨desk, .settle m⟩ w = true) :
    k = .outcome ∧ m = o := by
  cases k with
  | call op => cases made_call.mp h
  | outcome =>
      rcases made_outcome.mp h with hstep | hstep
      · exact ⟨rfl, Step.settle.inj hstep⟩
      · cases hstep

theorem made_recordFailed {desk : Desk} {m : Nat} {w : Shop} (h : k.made o ⟨desk, .recordFailed m⟩ w = true) :
    k = .outcome ∧ m = o := by
  cases k with
  | call op => cases made_call.mp h
  | outcome =>
      rcases made_outcome.mp h with hstep | hstep
      · cases hstep
      · exact ⟨rfl, Step.recordFailed.inj hstep⟩

theorem not_made_lock {desk : Desk} {m : Nat} {w : Shop} : k.made o ⟨desk, .lock m⟩ w = false := by
  refine eq_false_of_ne_true fun h => ?_
  cases k with
  | call op => cases made_call.mp h
  | outcome => rcases made_outcome.mp h with hstep | hstep <;> cases hstep

variable [Runtime] [Cities]

theorem create_plain (desk : Desk) (body : CreateGiftInput) (viewerUserId : Nat) (idempotencyKey : Option String)
    (candidates : List String) : Svc.Does (Plain k o) (create desk body viewerUserId idempotencyKey candidates) :=
  (create_does desk body viewerUserId idempotencyKey candidates).mono fun _ _ _ h =>
    plain_of_step (not_money_of_gift h.2.1)

theorem makeGift_solvent (desk : Desk) (x : Order) (viewerUserId : Nat) (providerPaymentId : String)
    (candidates : List String) (hcredit : k = .outcome → x.id = o → 0 < n) :
    (makeGift desk x viewerUserId providerPaymentId candidates).Solvent (wins o) (k.made o) n := by
  unfold makeGift
  refine Svc.Solvent.tryCatch_bind Shop.empty (create_plain _ _ _ _ _) (fun created => ?_) fun e => ?_
  · refine Svc.Solvent.transaction_bind (fun s hmade => ?_) fun s a t htx => ?_
    · exact hcredit (made_settle hmade).1 (made_settle hmade).2
    · exact Svc.Solvent.bind_neutral Shop.empty (ensureLedger_plain _ _) fun _ => Svc.Solvent.pure _
  · rw [Svc.bind_assoc]
    refine Svc.Solvent.transaction_bind (fun s hmade => ?_) fun s a t htx => Svc.Solvent.fail e
    exact hcredit (made_recordFailed hmade).1 (made_recordFailed hmade).2

theorem chargeOrder_solvent (desk : Desk) (x : Order) (viewerUserId : Nat) (input : ConfirmInput)
    (hcredit : x.id = o → 0 < n) :
    (chargeOrder desk x viewerUserId input).Solvent (wins o) (k.made o) n := by
  unfold chargeOrder
  -- what a call to the gateway leaves is credit for the other charges
  have hleft {op : GatewayOp} {l : Place} (hl : l = ⟨desk, .gateway op x.id⟩) (s : Shop) (m : Nat) (hk : k ≠ .call op)
      (hm : x.id = o → 0 < m) (hid : x.id = o) :
      0 < m + (wins o l s).toNat - (k.made o l s).toNat := by
    have hmade : k.made o l s = false := by
      refine eq_false_of_ne_true fun h => hk ?_
      rw [hl] at h
      exact (made_gateway h).1
    rw [hmade]
    have := hm hid
    simp only [Bool.toNat_false]
    omega
  refine Svc.Solvent.transaction_bind (fun s hmade => hcredit (made_gateway hmade).2) fun s a t htx => ?_
  split
  · exact Svc.Solvent.fail _
  · refine Svc.Solvent.transaction_bind (fun s' hmade => ?_) fun s' a' t' htx' => ?_
    · obtain ⟨hk, hid⟩ := made_gateway hmade
      exact hleft rfl s n (by rw [hk]; nofun) hcredit hid
    · split
      · exact Svc.Solvent.fail _
      · refine Svc.Solvent.transaction_bind (fun s'' hmade => ?_) fun s'' a'' t'' _ => Svc.Solvent.fail _
        obtain ⟨hk, hid⟩ := made_recordFailed hmade
        exact hleft rfl s' _ (by rw [hk]; nofun) (hleft rfl s n (by rw [hk]; nofun) hcredit) hid
      · refine makeGift_solvent desk x viewerUserId _ _ fun hk hid => ?_
        exact hleft rfl s' _ (by rw [hk]; nofun) (hleft rfl s n (by rw [hk]; nofun) hcredit) hid

theorem confirmMock_solvent (desk : Desk) (input : ConfirmInput) (viewerUserId : Nat) :
    (confirmMock desk input viewerUserId).Solvent (wins o) (k.made o) 0 := by
  unfold confirmMock
  dsimp only
  refine Svc.Solvent.bind_neutral Shop.empty (Svc.Does.ensure _ _) fun _ => ?_
  refine Svc.Solvent.bind_neutral Shop.empty (query_plain _) fun found => ?_
  cases found with
  | none => exact Svc.Solvent.fail _
  | some found =>
      refine Svc.Solvent.bind_neutral Shop.empty (Svc.Does.ensure _ _) fun _ => ?_
      split
      · exact Svc.Solvent.bind_neutral Shop.empty (ensureLedger_plain _ _) fun _ => Svc.Solvent.pure _
      · refine Svc.Solvent.bind_neutral Shop.empty (Svc.Does.ensure _ _) fun _ => ?_
        refine Svc.Solvent.transaction_bind (fun s hmade => ?_) fun s locked t htx => ?_
        · rw [not_made_lock] at hmade
          cases hmade
        · split
          · exact Svc.Solvent.of_neutral Shop.empty (afterLostRace_plain _ _)
          · rename_i hlocked
            refine chargeOrder_solvent desk _ viewerUserId input fun hid => ?_
            -- rows were counted, so the lock has won
            obtain ⟨hup, htx⟩ := whenUp_eq_ok.mp htx
            obtain ⟨hcount, -⟩ := Delegate.updateMany_eq_ok.mp htx
            have hwins : wins o ⟨desk, .lock found.order.id⟩ s = true := by
              refine decide_eq_true ⟨by rw [hid], hup, ?_⟩
              rw [← hid, ← hcount]
              exact hlocked
            rw [hwins, not_made_lock]
            exact Nat.one_pos

/-- A confirm earns what it charges; the other calls charge nothing. -/
theorem serve_solvent (c : Call) : (serve c).Solvent (wins o) (k.made o) 0 := by
  unfold serve
  cases c with
  | surround s =>
      exact Svc.Solvent.bind_neutral Shop.empty
        (Svc.Does.transaction (fun _ _ _ _ => plain_of_step rfl) fun _ _ _ => plain_of_step rfl)
        fun _ => Svc.Solvent.pure _
  | placeOrder body viewerUserId =>
      refine Svc.Solvent.bind_neutral Shop.empty ?_ fun _ => Svc.Solvent.pure _
      refine Svc.Does.bind (Svc.Does.ensure _ _) fun _ => Svc.Does.bind ?_ fun _ => Svc.Does.pure _
      exact Svc.Does.transaction (fun _ _ _ _ => plain_of_step rfl) fun _ _ _ => plain_of_step rfl
  | create request body viewerUserId idempotencyKey candidates =>
      exact Svc.Solvent.bind_neutral Shop.empty (create_plain _ _ _ _ _) fun _ => Svc.Solvent.pure _
  | confirm request input viewerUserId =>
      exact Svc.Solvent.bind (confirmMock_solvent _ input viewerUserId) fun _ => Svc.Solvent.pure _

theorem program_solvent (c : Call) : (program c).Solvent (wins o) (k.made o) 0 :=
  Prog.Solvent.bind (serve_solvent c) fun _ => Prog.Solvent.done

/-- **A charge is made at most once in a run.** -/
theorem Run.charged_once {tr : List (Event Shop Place)} {cfg : Config Shop Place Reply} (h : Run tr cfg)
    (k : Charge) (o : Nat) : (tr.countP fun e => k.made o e.lbl e.pre) ≤ 1 :=
  calc (tr.countP fun e => k.made o e.lbl e.pre)
    _ ≤ tr.countP fun e => wins o e.lbl e.pre := Exec.solvent (fun c => program_solvent c) h
    _ ≤ 1 := h.path.countP_le_one (P := Moved o) (fun _ _ _ heffect => heffect.moved) fun _ _ _ heffect =>
      heffect.won

end Solvency

/-! ### The outcome of an order stands -/

/-- The gift an order is linked to. -/
def giftOf (o : Nat) (w : Shop) : Option Nat := (w.orders.find o).bind Order.giftId

/-- The order is paid. -/
def IsPaid (o : Nat) (w : Shop) : Prop := ∃ x, w.orders.find o = some x ∧ x.status = .paid

instance (o : Nat) (w : Shop) : Decidable (IsPaid o w) :=
  decidable_of_iff (∃ x ∈ w.orders.find o, x.status = .paid) (by simp [IsPaid])

/-- Only a settling pays an order or links it. -/
theorem Effect.unsettled {l : Place} {w w' : Shop} (h : Effect l w w') {o : Nat} (hstep : l.step ≠ .settle o) :
    giftOf o w' = giftOf o w ∧ (IsPaid o w' → IsPaid o w) := by
  have hupdate {p : Order → Bool} {f : Order → Order} (hf : ∀ x, (f x).id = x.id)
      (hgift : ∀ x, x.id = o → p x = true → (f x).giftId = x.giftId)
      (hpaid : ∀ x, x.id = o → p x = true → (f x).status ≠ .paid) :
      (((w.orders.updateMany p f hf).find o).bind Order.giftId = (w.orders.find o).bind Order.giftId) ∧
        ((∃ x, (w.orders.updateMany p f hf).find o = some x ∧ x.status = .paid) → IsPaid o w) := by
    rw [Table.find_updateMany]
    cases hfind : w.orders.find o with
    | none => simp
    | some x =>
        have hid := Table.key_of_find hfind
        simp only [Option.map_some, Option.bind_some, Option.some.injEq, exists_eq_left']
        by_cases hp : p x = true
        · rw [if_pos hp]
          exact ⟨hgift x hid hp, fun hx => absurd hx (hpaid x hid hp)⟩
        · rw [if_neg hp]
          exact ⟨rfl, fun hx => ⟨x, hfind, hx⟩⟩
  cases h with
  | placeOrder body viewer hprice hcreate =>
      have hfind := Table.find_create hcreate o
      unfold giftOf IsPaid
      dsimp only
      rw [hfind]
      split
      · rename_i hid
        have hnone : w.orders.find o = none := by
          rw [← hid]
          exact (Table.create_eq_some hcreate).2
        rw [hnone]
        refine ⟨rfl, fun ⟨x, hx, hpaid⟩ => ?_⟩
        cases hx
        cases hpaid
      · exact ⟨rfl, id⟩
  | lock desk n => exact hupdate setProcessing_id (fun _ _ _ => rfl) fun _ _ _ => nofun
  | settle desk n giftId =>
      refine hupdate (setPaid_id giftId) (fun x hid hp => ?_) fun x hid hp => ?_
      all_goals
        have hn : x.id = n := of_decide_eq_true hp
        rw [hid] at hn
        exact absurd (congrArg Step.settle hn.symm) hstep
  | recordFailed desk n => exact hupdate setFailed_id (fun _ _ _ => rfl) fun _ _ _ => nofun
  | idle | surround | giftAttempt | createGift | fulfil | gateway | post => exact ⟨rfl, id⟩

/-- The order is paid, or linked to a gift. -/
def Settled (o : Nat) (w : Shop) : Prop := IsPaid o w ∨ giftOf o w ≠ none

theorem not_settled_empty (o : Nat) : ¬Settled o Shop.empty := by
  rintro (⟨x, hfind, -⟩ | hgift)
  · cases hfind
  · exact hgift rfl

theorem Effect.settle_of_settled {l : Place} {w w' : Shop} (h : Effect l w w') {o : Nat} (hbefore : ¬Settled o w)
    (hafter : Settled o w') : l.step = .settle o := by
  by_contra hstep
  obtain ⟨hgift, hpaid⟩ := h.unsettled hstep
  refine hbefore (hafter.imp hpaid fun hne => ?_)
  rwa [hgift] at hne

/-- An outcome finds its order unsettled. -/
def FirstOutcome (o : Nat) (e : Event Shop Place) : Prop :=
  Charge.outcome.made o e.lbl e.pre = true → ¬Settled o e.pre

section Run

variable [Runtime] [Cities] {tr : List (Event Shop Place)} {cfg : Config Shop Place Reply}

theorem Run.effect (h : Run tr cfg) {e : Event Shop Place} (he : e ∈ tr) : Effect e.lbl e.pre e.post := by
  obtain ⟨tr₁, tr₂, -, -, heffect, -⟩ := h.path.split he
  exact heffect

/-- A settled order has had its outcome, and there is no other. -/
theorem Run.firstOutcome (h : Run tr cfg) (o : Nat) : ∀ e ∈ tr, FirstOutcome o e := by
  intro e he hmade hsettled
  obtain ⟨tr₁, tr₂, htr, hpath, -, -⟩ := h.path.split he
  obtain ⟨e', he', heffect, hbefore, hafter⟩ := hpath.flip (not_settled_empty o) hsettled
  have hmade' : Charge.outcome.made o e'.lbl e'.pre = true :=
    made_outcome.mpr (.inl (heffect.settle_of_settled hbefore hafter))
  have honce := h.charged_once .outcome o
  have hearlier : 0 < tr₁.countP fun e => Charge.outcome.made o e.lbl e.pre :=
    List.countP_pos_iff.mpr ⟨e', he', hmade'⟩
  rw [htr, List.countP_append, List.countP_cons, if_pos hmade] at honce
  omega

/-- The order is paid for the first time, or linked anew, at most once. -/
theorem Run.settled_once (h : Run tr cfg) (o : Nat) {p : Event Shop Place → Bool}
    (hp : ∀ e, p e = true → giftOf o e.post ≠ giftOf o e.pre ∨ (¬IsPaid o e.pre ∧ IsPaid o e.post)) :
    tr.countP p ≤ 1 := by
  refine le_trans (List.countP_mono_left fun e he hpe => ?_) (h.charged_once .outcome o)
  refine made_outcome.mpr (.inl ?_)
  by_contra hstep
  obtain ⟨hgift, hpaid⟩ := (h.effect he).unsettled hstep
  rcases hp e hpe with hlink | ⟨hbefore, hafter⟩
  · exact hlink hgift
  · exact hbefore (hpaid hafter)

end Run

theorem calls_le {s t : Shop} {tr : List (Event Shop Place)} (h : Path Effect s tr t) (op : GatewayOp) (o : Nat) :
    t.gatewayCalls.count { op := op, orderId := o } ≤
      s.gatewayCalls.count { op := op, orderId := o } + tr.countP fun e => (Charge.call op).made o e.lbl e.pre := by
  induction h with
  | nil => simp
  | @snoc u v l tr' _ heffect ih =>
      rw [List.countP_append, List.countP_singleton]
      cases heffect with
      | gateway desk op' o' =>
          rw [List.count_append, List.count_singleton]
          split
          · rename_i hcall
            have hcall' := GatewayCall.mk.inj (of_decide_eq_true hcall)
            rw [if_pos (made_call.mpr (by rw [hcall'.1, hcall'.2]))]
            omega
          · omega
      | idle | surround | placeOrder | giftAttempt | createGift | fulfil | lock | settle | recordFailed | post =>
          exact ih.trans (by omega)

/-! ### Every answer names the linked gift -/

/-- The order is paid and linked to the gift. -/
def Linked (o giftId : Nat) (w : Shop) : Prop :=
  ∃ x, w.orders.find o = some x ∧ x.status = .paid ∧ x.giftId = some giftId

theorem Linked.settled {o giftId : Nat} {w : Shop} (h : Linked o giftId w) : Settled o w := by
  obtain ⟨x, hfind, hpaid, -⟩ := h
  exact .inl ⟨x, hfind, hpaid⟩

/-- An effect that settles no settled order. -/
def EffectOnce (o : Nat) (l : Place) (w w' : Shop) : Prop := FirstOutcome o ⟨w, l, w'⟩ ∧ Effect l w w'

theorem EffectOnce.linked {o giftId : Nat} {l : Place} {w w' : Shop} (h : EffectOnce o l w w')
    (hlinked : Linked o giftId w) : Linked o giftId w' := by
  obtain ⟨hfirst, heffect⟩ := h
  have hother (hmade : Charge.outcome.made o l w = true) : False := hfirst hmade hlinked.settled
  obtain ⟨x, hfind, hpaid, hgift⟩ := hlinked
  have hid := Table.key_of_find hfind
  have hkeep {p : Order → Bool} {f : Order → Order} (hf : ∀ x, (f x).id = x.id) (hp : p x = false) :
      ∃ y, (w.orders.updateMany p f hf).find o = some y ∧ y.status = .paid ∧ y.giftId = some giftId := by
    refine ⟨x, ?_, hpaid, hgift⟩
    rw [Table.find_updateMany_some hf hfind, if_neg (by rw [hp]; nofun)]
  cases heffect with
  | placeOrder body viewer hprice hcreate => exact ⟨x, Table.find_create_of_find hcreate hfind, hpaid, hgift⟩
  | lock desk n =>
      refine hkeep setProcessing_id (decide_eq_false fun hp => ?_)
      rw [hpaid] at hp
      cases hp.2
  | settle desk n giftId' =>
      refine hkeep (setPaid_id giftId') (decide_eq_false fun hp => hother (made_outcome.mpr (.inl ?_)))
      rw [← hp, hid]
  | recordFailed desk n =>
      refine hkeep setFailed_id (decide_eq_false fun hp => hother (made_outcome.mpr (.inr ?_)))
      rw [← hp, hid]
  | idle | surround | giftAttempt | createGift | fulfil | gateway | post => exact ⟨x, hfind, hpaid, hgift⟩

theorem Linked.later {o giftId : Nat} {w w' : Shop} (h : Linked o giftId w) (hrely : Rely (EffectOnce o) w w') :
    Linked o giftId w' :=
  hrely.stable (fun _ _ _ heffect hlinked => heffect.linked hlinked) h

/-- An answer for the order names the gift it is linked to. -/
def Names (o : Nat) (r : Except Err Confirmed) (w : Shop) : Prop :=
  ∀ c, r = .ok c → c.orderId = o → Linked o c.giftId w

section Answer

variable {o : Nat} {w : Shop}

/-- A refusal names no gift. -/
theorem Names.error {e : Err} : Names o (.error e) w := fun _ hc => by cases hc

/-- A call whose actions are effects keeps what effects keep that settle no settled order. -/
theorem acts_under {α : Type} {desk : Desk} {x : Service α}
    (h : x.Ensures (Rely Effect) (Acts desk) (fun _ _ => True) w) {P : Shop → Prop}
    (hP : ∀ l s t, EffectOnce o l s t → P s → P t) (hw : P w) :
    x.Under (FirstOutcome o) (Rely (EffectOnce o)) Effect (fun _ t => P t) w := by
  have hquiet : Prog.Under (FirstOutcome o) (Rely (EffectOnce o)) Effect (fun _ _ => True) x w := by
    refine Prog.Under.of_meets ((h.meets.weaken_action Acts.effect).weaken_rely fun s t hrely => ?_)
    exact hrely.stable (P := Rely Effect s) (fun l u v heffect hu => hu.trans (Rely.single heffect.2)) (Rely.refl s)
  exact (hquiet.keeps (fun s t hs hrely => hrely.stable hP hs) (fun l s t heffect hfirst hs => hP l s t ⟨hfirst, heffect⟩ hs)
    hw).mono fun r t hr => hr.2

theorem does_once {α : Type} (desk : Desk) {x : Service α} (h : Svc.Does (Acts desk) x) {y : Order} (hknown : Known y w) :
    x.Under (FirstOutcome o) (Rely (EffectOnce o)) Effect (fun _ t => Known y t) w :=
  acts_under (h.ensures Acts.effect (P := fun _ => True) (fun _ _ _ _ => trivial) trivial)
    (fun _ _ _ heffect => heffect.2.known) hknown

/-- The end of every confirm that answers. -/
theorem answer_once {desk : Desk} {x : Order} {giftId : Nat} (hknown : Known x w)
    (hlinked : x.id = o → Linked o giftId w) :
    (do
      ensureLedgerForPaidOrder desk x
      pure { orderId := x.id, giftId := giftId } : Service Confirmed).Under (FirstOutcome o) (Rely (EffectOnce o)) Effect
      (Names o) w := by
  have hheal : (ensureLedgerForPaidOrder desk x).Ensures (Rely Effect) (Acts desk) (fun _ _ => True) w :=
    (ensures_acts (ensureLedger_ensures desk hknown)).mono fun _ _ _ => trivial
  refine Svc.Under.bind (acts_under hheal (P := fun t => x.id = o → Linked o giftId t)
    (fun l s t heffect hs hid => heffect.linked (hs hid)) hlinked) (fun _ t ht => ?_) fun _ _ _ => .error
  refine Svc.Under.pure fun c hc hid => ?_
  cases hc
  exact ht hid

/-- What a confirm reads: the order as it is stored, and its gift if it is paid and linked. -/
def Read (o : Nat) (found : OrderSnapshot) (w : Shop) : Prop :=
  Known found.order w ∧ ∀ linked, found.settled = some linked → found.order.id = o → Linked o linked.id w

theorem findOrder_read {id : String} {found : OrderSnapshot} (h : findOrder id w = some found) : Read o found w := by
  refine ⟨findOrder_known h, fun linked hsettled hid => ?_⟩
  obtain ⟨x, hx, rfl⟩ := Option.map_eq_some_iff.mp h
  have hfind := Table.find_of_mem (List.mem_of_find?_eq_some hx)
  unfold OrderSnapshot.settled at hsettled
  split at hsettled
  · rename_i hpaid
    obtain ⟨giftId, hgift, hstored⟩ := Option.bind_eq_some_iff.mp hsettled
    rw [Table.key_of_find hstored]
    exact ⟨x, by rw [← hid]; exact hfind, hpaid, hgift⟩
  · cases hsettled

theorem findOrder_once (desk : Desk) (id : String) :
    (Svc.query ⟨desk, .read⟩ (findOrder id) : Service (Option OrderSnapshot)).Under (FirstOutcome o)
      (Rely (EffectOnce o)) Effect (fun r t => ∃ found, r = .ok found ∧ ∀ s ∈ found, Read o s t) w :=
  Svc.Under.query fun t _ _ => ⟨Effect.read t, _, rfl, fun _ hs => findOrder_read hs⟩

theorem afterLostRace_once (desk : Desk) (id : String) :
    (afterLostRace desk id).Under (FirstOutcome o) (Rely (EffectOnce o)) Effect (Names o) w := by
  refine Svc.Under.bind (findOrder_once desk id) (fun found t ht => ?_) fun e t ht => by simp at ht
  obtain ⟨_, hr, hfound⟩ := ht
  cases hr
  cases found with
  | none => exact Svc.Under.fail .error
  | some found =>
      dsimp only
      split
      · exact Svc.Under.fail .error
      · rename_i linked hsettled
        exact answer_once (hfound found rfl).1 ((hfound found rfl).2 linked hsettled)

variable [Runtime] [Cities]

theorem makeGift_once (desk : Desk) {x : Order} (viewerUserId : Nat) (providerPaymentId : String)
    (candidates : List String) (hknown : Known x w) :
    (makeGift desk x viewerUserId providerPaymentId candidates).Under (FirstOutcome o) (Rely (EffectOnce o)) Effect
      (Names o) w := by
  refine Svc.Under.bind (does_once desk
    (Svc.Does.tryCatch ((create_does _ _ _ _ _).mono ActsIn.acts) fun e => ?_) hknown) (fun created t hknown => ?_)
    fun _ _ _ => .error
  · exact Svc.Does.bind (recordFailedPayment_does _ _ _) fun _ => Svc.Does.fail _
  refine Svc.Under.bind (Q := fun r u => Known x u ∧ ∀ a, r = .ok a → Linked x.id created.gift.id u) ?_
    (fun _ u hu => ?_) fun _ _ _ => .error
  · refine Svc.Under.transaction (fun s a u hrely htx _ => ?_) fun s e hrely _ _ => ?_
    · have hs := hrely.stable (fun _ _ _ heffect => heffect.2.known) hknown
      obtain ⟨n, payments, hnext, rfl⟩ := settleTx_eq_ok (whenUp_eq_ok.mp htx).2
      have heffect := Effect.settle desk x.id created.gift.id (t := payments) hnext
      refine ⟨heffect, heffect.known hs, fun _ _ => ?_⟩
      obtain ⟨y, hfind, hy⟩ := hs
      refine ⟨_, Table.find_updateMany_some (setPaid_id created.gift.id) hfind, ?_⟩
      rw [if_pos (decide_eq_true (Table.key_of_find hfind))]
      exact ⟨rfl, rfl⟩
    · exact ⟨Effect.idle _ s nofun, hrely.stable (fun _ _ _ heffect => heffect.2.known) hknown,
        fun _ ha => by cases ha⟩
  · refine answer_once (x := setPaid created.gift.id x) hu.1 fun hid => ?_
    rw [← hid]
    exact hu.2 _ rfl

theorem chargeOrder_once (desk : Desk) {x : Order} (viewerUserId : Nat) (input : ConfirmInput) (hknown : Known x w) :
    (chargeOrder desk x viewerUserId input).Under (FirstOutcome o) (Rely (EffectOnce o)) Effect (Names o) w := by
  refine Svc.Under.bind (does_once _ (callGateway_does _ _ _) hknown) (fun _ t hknown => ?_) fun _ _ _ => .error
  split
  · exact Svc.Under.fail .error
  · refine Svc.Under.bind (does_once _ (callGateway_does _ _ _) hknown) (fun _ u hknown => ?_) fun _ _ _ => .error
    split
    · exact Svc.Under.fail .error
    · exact Svc.Under.bind (does_once _ (recordFailedPayment_does _ _ _) hknown) (fun _ v _ => Svc.Under.fail .error)
        fun _ _ _ => .error
    · exact makeGift_once desk viewerUserId _ _ hknown

theorem confirmMock_once (desk : Desk) (input : ConfirmInput) (viewerUserId : Nat) :
    (confirmMock desk input viewerUserId).Under (FirstOutcome o) (Rely (EffectOnce o)) Effect (Names o) w := by
  unfold confirmMock
  dsimp only
  refine Svc.Under.bind (Q := fun _ _ => True) (Svc.Under.ensure (fun _ => trivial) fun _ => trivial)
    (fun _ w₁ _ => ?_) fun _ _ _ => .error
  refine Svc.Under.bind (findOrder_once desk _) (fun found t ht => ?_) fun e t ht => by simp at ht
  obtain ⟨_, hr, hfound⟩ := ht
  cases hr
  cases found with
  | none => exact Svc.Under.fail .error
  | some found =>
      have hread := hfound found rfl
      refine Svc.Under.bind (Q := fun _ t => Read o found t) (Svc.Under.ensure (fun _ => hread) fun _ => hread)
        (fun _ w₂ hread => ?_) fun _ _ _ => .error
      split
      · rename_i linked hsettled
        exact answer_once hread.1 (hread.2 linked hsettled)
      · refine Svc.Under.bind (Q := fun _ t => Known found.order t)
          (Svc.Under.ensure (fun _ => hread.1) fun _ => hread.1) (fun _ w₃ hknown => ?_) fun _ _ _ => .error
        refine Svc.Under.bind (does_once _ (lockOrder_does _ _) hknown) (fun locked w₄ hknown => ?_) fun _ _ _ => .error
        split
        · exact afterLostRace_once desk _
        · exact chargeOrder_once desk viewerUserId input hknown

/-- An answer for the order names the gift it is linked to. -/
def ReplyNames (o : Nat) (r : Reply) (w : Shop) : Prop :=
  ∀ c, r.outcome = .ok (.confirmed c) → c.orderId = o → Linked o c.giftId w

theorem serve_once (c : Call) :
    (serve c).Under (FirstOutcome o) (Rely (EffectOnce o)) Effect
      (fun r t => ∀ c, r = .ok (.confirmed c) → c.orderId = o → Linked o c.giftId t) w := by
  have hquiet {α : Type} {desk : Desk} {x : Service α} (h : Svc.Does (Acts desk) x) :
      x.Under (FirstOutcome o) (Rely (EffectOnce o)) Effect (fun _ _ => True) w :=
    acts_under (h.ensures Acts.effect (P := fun _ => True) (fun _ _ _ _ => trivial) trivial)
      (fun _ _ _ _ _ => trivial) trivial
  unfold serve
  cases c with
  | surround s =>
      refine Svc.Under.bind (hquiet (surround_does s)) (fun _ t _ => Svc.Under.pure ?_) fun e t _ c hc => by cases hc
      intro c hc
      cases hc
  | placeOrder body viewerUserId =>
      refine Svc.Under.bind (hquiet (placeOrder_does body viewerUserId)) (fun _ t _ => Svc.Under.pure ?_)
        fun e t _ c hc => by cases hc
      intro c hc
      cases hc
  | create request body viewerUserId idempotencyKey candidates =>
      refine Svc.Under.bind (hquiet ((create_does _ body viewerUserId idempotencyKey candidates).mono ActsIn.acts))
        (fun _ t _ => Svc.Under.pure ?_) fun e t _ c hc => by cases hc
      intro c hc
      cases hc
  | confirm request input viewerUserId =>
      refine Svc.Under.bind (confirmMock_once _ input viewerUserId) (fun result t ht => Svc.Under.pure ?_)
        fun e t _ c hc => by cases hc
      intro c hc horder
      cases hc
      exact ht _ rfl horder

theorem program_once (c : Call) :
    (program c).Under (FirstOutcome o) (Rely (EffectOnce o)) Effect (ReplyNames o) w :=
  Prog.Under.bind (serve_once c) fun _ _ hr => Prog.under_done.mpr hr

end Answer

/-! ### A confirm that has not won -/

/-- A lock that finds its order pending, whichever it is. -/
def winsLock (l : Place) (w : Shop) : Bool :=
  match l.step with
  | .lock o => wins o l w
  | _ => false

/-- Confirm `n` wins no lock. -/
def Loses (n : Nat) (e : Event Shop Place) : Prop := e.lbl.desk = .confirm n → winsLock e.lbl e.pre = false

/-- Confirm `n` does nothing but its self-heal. -/
def OnlyHeals (n : Nat) (l : Place) (w w' : Shop) : Prop :=
  l.desk = .confirm n → isLedgerStep l.step = true ∨ w' = w

/-- A leg of a stored order is posted, and nothing else. -/
def PostsLeg (w w' : Shop) : Prop :=
  ∃ o input t, w.orders.find o.id = some o ∧ input ∈ o.legs ∧
    w.ledger.create (input.row w.nextId w.now) = some t ∧ w' = { w with nextId := w.nextId + 1, ledger := t }

theorem Effect.of_onlyHeals {l : Place} {w w' : Shop} (h : Effect l w w') {n : Nat} (hn : OnlyHeals n l w w')
    (hdesk : l.desk = .confirm n) : w' = w ∨ PostsLeg w w' := by
  rcases hn hdesk with hstep | hsame
  · cases h with
    | idle => exact .inl rfl
    | post desk horder hleg hcreate hfree => exact .inr ⟨_, _, _, horder, hleg, hcreate, rfl⟩
    | surround | placeOrder | giftAttempt | createGift | fulfil | lock | gateway | settle | recordFailed => cases hstep
  · exact .inl hsame

section Losers

variable {n : Nat} {w : Shop}

theorem ledger_under {α : Type} {desk : Desk} {x : Service α} {P : α → Shop → Prop}
    (h : x.Ensures (Rely Effect) (LedgerActs desk) P w) :
    x.Under (Loses n) (Rely Effect) (OnlyHeals n) (fun _ _ => True) w :=
  Prog.Under.of_meets (h.meets.weaken_action fun _ _ _ hact _ => .inl hact.2.1)

theorem findOrder_loses (id : String) :
    (Svc.query ⟨.confirm n, .read⟩ (findOrder id) : Service (Option OrderSnapshot)).Under (Loses n) (Rely Effect)
      (OnlyHeals n) (fun r t => ∃ found, r = .ok found ∧ ∀ s ∈ found, Known s.order t) w :=
  Svc.Under.query fun _ _ _ => ⟨fun _ => .inl rfl, _, rfl, fun _ hs => findOrder_known hs⟩

/-- A lock that does not win finds no pending row. -/
theorem lockOrder_loses (x : Order) :
    (lockOrder (.confirm n) x).Under (Loses n) (Rely Effect) (OnlyHeals n) (fun r _ => ∀ a, r = .ok a → a = 0) w := by
  refine Svc.Under.transaction (fun s a u hrely htx hloses => ?_) fun s e _ _ _ => ⟨fun _ => .inr rfl, nofun⟩
  obtain ⟨hup, htx⟩ := whenUp_eq_ok.mp htx
  obtain ⟨hcount, rfl⟩ := Delegate.updateMany_eq_ok.mp htx
  have hnone : s.orders.count (fun y => y.id = x.id ∧ y.status = .pending) = 0 := by
    by_contra hsome
    have hlost : wins x.id ⟨.confirm n, .lock x.id⟩ s = false := hloses rfl
    exact absurd ⟨rfl, hup, hsome⟩ (of_decide_eq_false hlost)
  refine ⟨fun _ => .inr ?_, fun b hb => ?_⟩
  · have hsame : s.orders.updateMany (fun y => y.id = x.id ∧ y.status = .pending) setProcessing setProcessing_id =
        s.orders := Table.updateMany_eq_self hnone
    rw [hsame]
  · cases hb
    rw [hcount, hnone]

variable [Runtime] [Cities]

theorem confirmMock_loses (input : ConfirmInput) (viewerUserId : Nat) :
    (confirmMock (.confirm n) input viewerUserId).Under (Loses n) (Rely Effect) (OnlyHeals n) (fun _ _ => True) w := by
  unfold confirmMock
  dsimp only
  refine Svc.Under.bind (Q := fun _ _ => True) (Svc.Under.ensure (fun _ => trivial) fun _ => trivial)
    (fun _ w₁ _ => ?_) fun _ _ _ => trivial
  refine Svc.Under.bind (findOrder_loses _) (fun found t ht => ?_) fun _ _ _ => trivial
  obtain ⟨_, hr, hfound⟩ := ht
  cases hr
  cases found with
  | none => exact Svc.Under.fail trivial
  | some found =>
      have hknown := hfound found rfl
      refine Svc.Under.bind (Q := fun _ t => Known found.order t) (Svc.Under.ensure (fun _ => hknown) fun _ => hknown)
        (fun _ _ hknown => ?_) fun _ _ _ => trivial
      split
      · exact Svc.Under.bind (ledger_under (ensureLedger_ensures _ hknown)) (fun _ _ _ => Svc.Under.pure trivial)
          fun _ _ _ => trivial
      · refine Svc.Under.bind (Q := fun _ t => Known found.order t)
          (Svc.Under.ensure (fun _ => hknown) fun _ => hknown) (fun _ _ hknown => ?_) fun _ _ _ => trivial
        refine Svc.Under.bind (lockOrder_loses _) (fun locked w₄ hlocked => ?_) fun _ _ _ => trivial
        rw [if_pos (hlocked locked rfl)]
        exact ledger_under (afterLostRace_ensures _ _ w₄)

theorem serve_loses (c : Call) :
    (serve c).Under (Loses n) (Rely Effect) (OnlyHeals n) (fun _ _ => True) w := by
  by_cases hc : c.desk = .confirm n
  · unfold serve
    cases c with
    | surround | placeOrder | create => cases hc
    | confirm m input viewerUserId =>
        obtain rfl : m = n := Desk.confirm.inj hc
        exact Svc.Under.bind (confirmMock_loses input viewerUserId) (fun _ _ _ => Svc.Under.pure trivial)
          fun _ _ _ => trivial
  · refine Prog.Under.of_meets ((serve_ensures c w).meets.weaken_action fun l s t hact hdesk => ?_)
    exact absurd (hact.1.symm.trans hdesk) hc

theorem program_loses (c : Call) :
    (program c).Under (Loses n) (Rely Effect) (OnlyHeals n) (fun _ _ => True) w :=
  Prog.Under.bind (serve_loses c) fun _ _ _ => Prog.under_done.mpr trivial

variable {tr : List (Event Shop Place)} {cfg : Config Shop Place Reply}

/-- A confirm that wins no lock posts legs of stored orders, and does nothing else. -/
theorem Run.loses (h : Run tr cfg) (n : Nat) (hloses : ∀ e ∈ tr, Loses n e) :
    ∀ e ∈ tr, e.lbl.desk = .confirm n → e.post = e.pre ∨ PostsLeg e.pre e.post := by
  intro e he hdesk
  have hrun := Exec.under (E := Effect) (A := fun l s t => Effect l s t ∧ OnlyHeals n l s t) (Q := fun _ _ => True)
    (fun _ _ _ _ _ => trivial) (fun l s t hact => hact.1)
    (fun call s _ => Prog.Under.mono (fun _ _ _ => trivial) (Prog.Under.and_meets (program_loses call)
      ((program_meets call s).weaken_action Acts.effect))) h hloses
  obtain ⟨tr₁, tr₂, -, -, hact, -⟩ := hrun.1.split he
  exact hact.1.of_onlyHeals hact.2 hdesk

theorem Run.answers_linked (h : Run tr cfg) {reply : Reply} (hreply : .done reply ∈ cfg.pool) {c : Confirmed}
    (hanswer : reply.outcome = .ok (.confirmed c)) : Linked c.orderId c.giftId cfg.state := by
  have hstable (r : Reply) (s t : Shop) (hr : ReplyNames c.orderId r s)
      (hst : Rely (EffectOnce c.orderId) s t) : ReplyNames c.orderId r t :=
    fun c' hc horder => (hr c' hc horder).later hst
  have hrun := Exec.under (E := EffectOnce c.orderId) hstable (fun _ _ _ hact => hact)
    (fun call s _ => (program_once call).note) h (h.firstOutcome c.orderId)
  exact Prog.under_done.mp (hrun.2 _ hreply) c hanswer rfl

end Losers

/-! ### Concrete runs -/

namespace Pilot

/-- The second confirm comes while the first is on its way to the gateway. -/
def overtaken : List (Choice Call) :=
  toEnd (town false) ++ toEnd checkout ++ [.start (confirm 1 "R1"), .run 0, .run 0] ++ toEnd (confirm 2 "R2") ++
    List.replicate 20 (.run 1)

/-- The second confirm reads the pending order; before it locks, the first has paid it, and has posted no leg yet. -/
def late : List (Choice Call) :=
  toEnd (town false) ++ toEnd checkout ++ [.start (confirm 1 "R1"), .start (confirm 2 "R2"), .run 0] ++
    List.replicate 11 (.run 1) ++ List.replicate 20 (.run 0) ++ List.replicate 20 (.run 1)

/-- That confirm was refused as not payable. -/
def isRefused (request : Nat) (p : Prog Shop Place Reply) : Bool :=
  match p with
  | .done { call := call, outcome := .error e } =>
      decide (call.desk = .confirm request ∧ e = .badRequest "Order is not in a payable state")
  | _ => false

theorem reply_of_isRefused (request : Nat) {pool : List (Prog Shop Place Reply)}
    (h : pool.any (isRefused request) = true) :
    ∃ reply, .done reply ∈ pool ∧ reply.call.desk = .confirm request ∧
      reply.outcome = .error (.badRequest "Order is not in a payable state") := by
  obtain ⟨p, hp, hq⟩ := List.any_eq_true.mp h
  unfold isRefused at hq
  split at hq
  · obtain ⟨hdesk, rfl⟩ := of_decide_eq_true hq
    exact ⟨_, hp, hdesk, rfl⟩
  · cases hq

end Pilot

end Qift.Shop.Counter
