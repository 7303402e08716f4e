import Qift.Shop.Payments

/-!
# The shop as one system

* `Counter.Call` names the calls, `Counter.program` is the service that answers one; the interleavings of `program` from
  the empty shop are the runs. A reply carries its call and how it ended.
* `Counter.Effect` says once what a single action of any call can do to the shop.
* A posting is a leg of the stored order: the columns a leg is made of never change, so the order a confirm had read is
  as good as the stored one. `program_meets` is that every action of every call is an effect.
-/

namespace Qift.Shop

open Relational Interleaving Financial

-- a judgment is used by its rules, never by what it unfolds to
attribute [local irreducible] Prog.Meets

/-- What the modelled services read and never write, and the catalog rows others also write. -/
structure Surroundings where
  now : Time
  outage : Bool
  users : List User
  blocks : List Block
  addresses : List Address
  occasions : List Occasion
  storeIds : List Nat
  products : Table Product.id
  wishes : Table Wish.id

def surrounded (s : Surroundings) (w : Shop) : Shop :=
  { w with
    now := s.now
    outage := s.outage
    users := s.users
    blocks := s.blocks
    addresses := s.addresses
    occasions := s.occasions
    storeIds := s.storeIds
    products := s.products
    wishes := s.wishes }

namespace Counter

/-- The calls: confirms and gift requests are numbered. -/
inductive Call
  | surround (s : Surroundings)
  | placeOrder (body : PlaceOrderInput) (viewerUserId : Nat)
  | create (request : Nat) (body : CreateGiftInput) (viewerUserId : Nat) (idempotencyKey : Option String)
      (candidates : List String)
  | confirm (request : Nat) (input : ConfirmInput) (viewerUserId : Nat)

/-- The desk a call is handled at. -/
def Call.desk : Call → Desk
  | .surround _ | .placeOrder _ _ => .other
  | .create request body viewerUserId idempotencyKey _ => .create request body viewerUserId idempotencyKey
  | .confirm request _ _ => .confirm request

/-- What a call answers. -/
inductive Answer
  | done
  | gift (result : CreateGiftResult)
  | confirmed (result : Confirmed)
  deriving DecidableEq

/-- How a call ended, beside the call. -/
structure Reply where
  call : Call
  outcome : Except Err Answer

section Program

variable [Runtime] [Cities]

/-- The service behind a call. -/
def serve : Call → Service Answer
  | .surround s => do
      Svc.transaction ⟨.other, .environment⟩ (Tx.modify (surrounded s))
      pure .done
  | .placeOrder body viewerUserId => do
      placeOrder .other body viewerUserId
      pure .done
  | .create request body viewerUserId idempotencyKey candidates => do
      let result ← create (.create request body viewerUserId idempotencyKey) body viewerUserId idempotencyKey
        candidates
      pure (.gift result)
  | .confirm request input viewerUserId => do
      let result ← confirmMock (.confirm request) input viewerUserId
      pure (.confirmed result)

/-- A call, to the end it comes to. -/
def program (c : Call) : Prog Shop Place Reply := Prog.bind (serve c) fun outcome => .done ⟨c, outcome⟩

/-- The runs: the interleavings of the calls from the empty shop. -/
abbrev Run : List (Event Shop Place) → Config Shop Place Reply → Prop := Exec program Shop.empty

end Program

/-! ### What one action does -/

theorem setProcessing_id (o : Order) : (setProcessing o).id = o.id := rfl

theorem setPaid_id (giftId : Nat) (o : Order) : (setPaid giftId o).id = o.id := rfl

theorem setFailed_id (o : Order) : (setFailed o).id = o.id := rfl

/-- The effects of single actions. -/
inductive Effect : Place → Shop → Shop → Prop
  /-- Nothing is written; a database that answers refuses no lock. -/
  | idle (l : Place) (w : Shop) (hlock : ∀ o, l.step = .lock o → w.outage = true) : Effect l w w
  | surround (s : Surroundings) (w : Shop) : Effect ⟨.other, .environment⟩ w (surrounded s w)
  | placeOrder {w : Shop} (body : PlaceOrderInput) (viewerUserId : Nat) {t : Table Order.id}
      (hprice : 0 ≤ body.itemSubtotal) (hcreate : w.orders.create (body.row viewerUserId w.nextId) = some t) :
      Effect ⟨.other, .environment⟩ w { w with nextId := w.nextId + 1, orders := t }
  | giftAttempt (desk : Desk) {w : Shop} {t : Table GiftAttempt.id} :
      Effect ⟨desk, .giftAttempt⟩ w { w with nextId := w.nextId + 1, giftAttempts := t }
  | createGift (desk : Desk) {w : Shop} {g : Gift} {t : Table Gift.id} (hid : g.id = w.nextId)
      (hcreate : w.gifts.create g = some t) (hfree : ∀ x ∈ w.gifts.rows, gift.conflict g x = false) :
      Effect ⟨desk, .createGift⟩ w { w with nextId := w.nextId + 1, gifts := t }
  | fulfil (desk : Desk) (w : Shop) (wishes : Table Wish.id) (products : Table Product.id) :
      Effect ⟨desk, .fulfil⟩ w { w with wishes := wishes, products := products }
  | lock (desk : Desk) (o : Nat) (w : Shop) :
      Effect ⟨desk, .lock o⟩ w { w with
        orders := w.orders.updateMany (fun x => x.id = o ∧ x.status = .pending) setProcessing setProcessing_id }
  | gateway (desk : Desk) (op : GatewayOp) (o : Nat) (w : Shop) :
      Effect ⟨desk, .gateway op o⟩ w { w with gatewayCalls := w.gatewayCalls ++ [{ op := op, orderId := o }] }
  | settle (desk : Desk) (o giftId : Nat) {w : Shop} {n : Nat} {t : Table Payment.id} (hnext : w.nextId ≤ n) :
      Effect ⟨desk, .settle o⟩ w { w with
        nextId := n
        payments := t
        orders := w.orders.updateMany (fun x => x.id = o) (setPaid giftId) (setPaid_id giftId) }
  | recordFailed (desk : Desk) (o : Nat) {w : Shop} {n : Nat} {t : Table Payment.id} (hnext : w.nextId ≤ n) :
      Effect ⟨desk, .recordFailed o⟩ w { w with
        nextId := n
        payments := t
        orders := w.orders.updateMany (fun x => x.id = o) setFailed setFailed_id }
  /-- A leg of the stored order. -/
  | post (desk : Desk) {w : Shop} {o : Order} {input : RecordLedgerInput} {t : Table FinancialLedgerEntry.id}
      (horder : w.orders.find o.id = some o) (hleg : input ∈ o.legs)
      (hcreate : w.ledger.create (input.row w.nextId w.now) = some t)
      (hfree : ∀ x ∈ w.ledger.rows, financialLedgerEntry.conflict (input.row w.nextId w.now) x = false) :
      Effect ⟨desk, .ledgerPost o.id⟩ w { w with nextId := w.nextId + 1, ledger := t }

/-! ### Orders keep their terms -/

/-- The columns of an order its legs are made of agree. -/
def SameTerms (o x : Order) : Prop := x.id = o.id ∧ x.paid = o.paid ∧ x.userId = o.userId

theorem SameTerms.legs {o x : Order} (h : SameTerms o x) : x.legs = o.legs := by
  rw [Order.legs, Order.legs, h.1, h.2.1]

/-- An order with the terms of `o` is stored. -/
def Known (o : Order) (w : Shop) : Prop := ∃ x, w.orders.find o.id = some x ∧ SameTerms o x

theorem find_update_sameTerms {t : Table Order.id} {p : Order → Bool} {f : Order → Order}
    (hf : ∀ x, (f x).id = x.id) (hterms : ∀ x, SameTerms x (f x)) {o x : Order} (hfind : t.find o.id = some x)
    (hx : SameTerms o x) : ∃ y, (t.updateMany p f hf).find o.id = some y ∧ SameTerms o y := by
  refine ⟨_, Table.find_updateMany_some hf hfind, ?_⟩
  split
  · obtain ⟨hid, hpaid, huser⟩ := hterms x
    exact ⟨hid.trans hx.1, hpaid.trans hx.2.1, huser.trans hx.2.2⟩
  · exact hx

theorem Effect.known {l : Place} {w w' : Shop} (h : Effect l w w') {o : Order} (hknown : Known o w) : Known o w' := by
  obtain ⟨x, hfind, hx⟩ := hknown
  cases h with
  | placeOrder body viewer hprice hcreate => exact ⟨x, Table.find_create_of_find hcreate hfind, hx⟩
  | lock desk n => exact find_update_sameTerms setProcessing_id (fun _ => ⟨rfl, rfl, rfl⟩) hfind hx
  | settle desk n giftId => exact find_update_sameTerms (setPaid_id giftId) (fun _ => ⟨rfl, rfl, rfl⟩) hfind hx
  | recordFailed desk n => exact find_update_sameTerms setFailed_id (fun _ => ⟨rfl, rfl, rfl⟩) hfind hx
  | idle | surround | giftAttempt | createGift | fulfil | gateway | post => exact ⟨x, hfind, hx⟩

theorem Known.later {o : Order} {w w' : Shop} (h : Known o w) (hrely : Rely Effect w w') : Known o w' :=
  hrely.stable (fun _ _ _ heffect hknown => heffect.known hknown) h

/-! ### Every action is an effect -/

section Pieces

/-- The steps of a gift request. -/
def isGiftStep : Step → Bool
  | .read | .giftAttempt | .createGift | .fulfil => true
  | _ => false

/-- The steps of a gift request before it writes the gift: it looks, and may note an attempt. -/
def isLookStep : Step → Bool
  | .read | .giftAttempt => true
  | _ => false

/-- The steps of a gift request after it wrote the gift. -/
def isFulfilStep : Step → Bool
  | .read | .fulfil => true
  | _ => false

theorem gift_of_fulfil {step : Step} (h : isFulfilStep step = true) : isGiftStep step = true := by
  cases step <;> first | rfl | cases h

theorem gift_of_look {step : Step} (h : isLookStep step = true) : isGiftStep step = true := by
  cases step <;> first | rfl | cases h

/-- The steps of a self-heal. -/
def isLedgerStep : Step → Bool
  | .read | .ledgerRead _ | .ledgerPost _ => true
  | _ => false

/-- What a call does at its desk in the steps it may take. -/
def ActsIn (steps : Step → Bool) (desk : Desk) (l : Place) (w w' : Shop) : Prop :=
  l.desk = desk ∧ steps l.step = true ∧ Effect l w w'

/-- What a gift request does at its desk. -/
abbrev GiftActs : Desk → Place → Shop → Shop → Prop := ActsIn isGiftStep

/-- What a self-heal does at its desk. -/
abbrev LedgerActs : Desk → Place → Shop → Shop → Prop := ActsIn isLedgerStep

/-- What a call does at its desk. -/
def Acts (desk : Desk) (l : Place) (w w' : Shop) : Prop := l.desk = desk ∧ Effect l w w'

theorem ActsIn.acts {steps : Step → Bool} {desk : Desk} (l : Place) (w w' : Shop) (h : ActsIn steps desk l w w') :
    Acts desk l w w' :=
  ⟨h.1, h.2.2⟩

theorem ActsIn.effect {steps : Step → Bool} {desk : Desk} (l : Place) (w w' : Shop) (h : ActsIn steps desk l w w') :
    Effect l w w' :=
  h.2.2

theorem Acts.effect {desk : Desk} (l : Place) (w w' : Shop) (h : Acts desk l w w') : Effect l w w' := h.2

theorem Effect.read {desk : Desk} (w : Shop) : Effect ⟨desk, .read⟩ w w := Effect.idle _ w nofun

theorem read_does {α : Type} {steps : Step → Bool} (hsteps : steps .read = true) (desk : Desk) (f : Shop → α) :
    Svc.Does (ActsIn steps desk) (Svc.query ⟨desk, .read⟩ f : Service α) :=
  Svc.Does.query (fun w => ⟨rfl, hsteps, Effect.read w⟩) f

theorem giftRead_does {α : Type} (desk : Desk) (f : Shop → α) :
    Svc.Does (GiftActs desk) (Svc.query ⟨desk, .read⟩ f : Service α) :=
  read_does rfl desk f

theorem transaction_does {α : Type} (desk : Desk) {step : Step} {tx : Transaction α} (hlock : ∀ o, step ≠ .lock o)
    (hok : ∀ w a w', tx w = .ok (a, w') → Effect ⟨desk, step⟩ w w') :
    Svc.Does (Acts desk) (Svc.transaction ⟨desk, step⟩ tx) :=
  Svc.Does.transaction (fun w a w' h => ⟨rfl, hok w a w' h⟩) fun w _ _ =>
    ⟨rfl, Effect.idle _ w fun o ho => absurd ho (hlock o)⟩

theorem whenUp_does {α : Type} (desk : Desk) {step : Step} {tx : Transaction α} (hlock : ∀ o, step ≠ .lock o)
    (hok : ∀ w a w', tx w = .ok (a, w') → Effect ⟨desk, step⟩ w w') :
    Svc.Does (Acts desk) (Svc.transaction ⟨desk, step⟩ (whenUp tx)) :=
  transaction_does desk hlock fun w a w' h => hok w a w' (whenUp_eq_ok.mp h).2

theorem write_does {α : Type} {steps : Step → Bool} (desk : Desk) {step : Step} {tx : Transaction α}
    (hstep : steps step = true) (hlock : ∀ o, step ≠ .lock o)
    (hok : ∀ w a w', tx w = .ok (a, w') → Effect ⟨desk, step⟩ w w') :
    Svc.Does (ActsIn steps desk) (Svc.transaction ⟨desk, step⟩ (whenUp tx)) :=
  Svc.Does.transaction (fun w a w' h => ⟨rfl, hstep, hok w a w' (whenUp_eq_ok.mp h).2⟩) fun w _ _ =>
    ⟨rfl, hstep, Effect.idle _ w fun o ho => absurd ho (hlock o)⟩

/-- What a gift request is refused with before it looks at its key, or beside it: never the conflict of a key. -/
def NoConflict (e : Err) : Prop := ∀ m, e ≠ .conflict m

/-- A gift request looks, and may note an attempt. -/
abbrev Looks {α : Type} (desk : Desk) (x : Service α) : Prop := Svc.DoesOr (ActsIn isLookStep desk) NoConflict x

theorem look_looks {α : Type} (desk : Desk) (f : Shop → α) : Looks desk (Svc.query ⟨desk, .read⟩ f : Service α) :=
  Svc.DoesOr.query (fun w => ⟨rfl, rfl, Effect.read w⟩) f

theorem checkRecipient_looks (desk : Desk) (draft : GiftDraft) : Looks desk (checkRecipient desk draft) := by
  refine Svc.DoesOr.bind (look_looks _ _) fun sender => ?_
  cases sender with
  | none => exact Svc.DoesOr.fail fun _ h => by cases h
  | some sender =>
      refine Svc.DoesOr.bind (Svc.DoesOr.ensure _ fun _ h => (by cases h)) fun _ => ?_
      refine Svc.DoesOr.bind (look_looks _ _) fun receiver => ?_
      cases receiver with
      | none => exact Svc.DoesOr.fail fun _ h => by cases h
      | some receiver =>
          refine Svc.DoesOr.bind (look_looks _ _) fun blocked => ?_
          refine Svc.DoesOr.bind (Svc.DoesOr.ensure _ fun _ h => (by cases h)) fun _ => ?_
          refine Svc.DoesOr.bind (look_looks _ _) fun hasDefault => ?_
          split
          · exact Svc.DoesOr.pure _
          · refine Svc.DoesOr.bind (Svc.DoesOr.tryCatch ?_ fun _ => Svc.DoesOr.pure _) fun _ =>
              Svc.DoesOr.fail fun _ h => by cases h
            refine Svc.Does.bind (write_does desk rfl (by simp) fun w a w' h => ?_) fun _ => Svc.Does.pure _
            obtain ⟨id, w₁, hid, h⟩ := Tx.bind_eq_ok.mp h
            cases hid
            obtain ⟨t, -, -, rfl, rfl⟩ := Delegate.create_eq_ok.mp h
            exact Effect.giftAttempt desk

theorem checkFastDelivery_looks [Cities] (desk : Desk) (body : CreateGiftInput) (receiverId : Nat) :
    Looks desk (checkFastDelivery desk body receiverId) := by
  unfold checkFastDelivery
  split
  · split
    · exact Svc.DoesOr.fail nofun
    · exact Svc.DoesOr.bind (look_looks _ _) fun _ => Svc.DoesOr.ensure _ nofun
  · exact Svc.DoesOr.pure _

theorem checkProduct_looks (desk : Desk) (productId : Option String) : Looks desk (checkProduct desk productId) := by
  unfold checkProduct
  split
  · exact Svc.DoesOr.pure _
  · refine Svc.DoesOr.bind (look_looks _ _) fun product => ?_
    cases product with
    | none => exact Svc.DoesOr.fail nofun
    | some product => exact Svc.DoesOr.bind (Svc.DoesOr.ensure _ nofun) fun _ => Svc.DoesOr.pure _

theorem resolveOccasion_looks (desk : Desk) (occasionId : Option String) (senderId receiverId : Nat) :
    Looks desk (resolveOccasion desk occasionId senderId receiverId) := by
  unfold resolveOccasion
  split
  · exact Svc.DoesOr.pure _
  · exact Svc.DoesOr.bind (look_looks _ _) fun _ => Svc.DoesOr.pure _

theorem allocateReference_looks (desk : Desk) (candidates : List String) (attempts : Nat) :
    Looks desk (allocateReference desk candidates attempts) := by
  fun_induction allocateReference desk candidates attempts with
  | case1 candidate rest attempts ih =>
      refine Svc.DoesOr.bind (look_looks _ _) fun taken => ?_
      split
      · exact ih
      · exact Svc.DoesOr.pure _
  | case2 => exact Svc.DoesOr.fail nofun

theorem Looks.gift {α : Type} {desk : Desk} {x : Service α} (h : Looks desk x) : Svc.Does (GiftActs desk) x :=
  h.does.mono fun _ _ _ hact => ⟨hact.1, gift_of_look hact.2.1, hact.2.2⟩

theorem fulfil_does (desk : Desk) (created : Gift) :
    Svc.DoesOr (ActsIn isFulfilStep desk) NoConflict (fulfil desk created) := by
  have hread {α : Type} (f : Shop → α) :
      Svc.DoesOr (ActsIn isFulfilStep desk) NoConflict (Svc.query ⟨desk, .read⟩ f : Service α) :=
    Svc.DoesOr.query (fun w => ⟨rfl, rfl, Effect.read w⟩) f
  have hwrite {tx : Transaction Nat} (hok : ∀ w n w', tx w = .ok (n, w') → Effect ⟨desk, .fulfil⟩ w w') :
      Svc.DoesOr (ActsIn isFulfilStep desk) NoConflict (bestEffort ⟨desk, .fulfil⟩ tx) :=
    Svc.DoesOr.tryCatch (Svc.Does.bind (write_does desk rfl nofun hok) fun _ => Svc.Does.pure _) fun _ =>
      Svc.DoesOr.pure _
  unfold fulfil
  split
  · exact Svc.DoesOr.pure _
  · refine Svc.DoesOr.bind (hread _) fun now => Svc.DoesOr.bind (hwrite ?_) fun _ =>
      Svc.DoesOr.bind (hread _) fun now' => hwrite ?_
    · intro w n w' h
      obtain ⟨-, rfl⟩ := Delegate.updateMany_eq_ok.mp h
      exact Effect.fulfil desk w _ _
    · intro w n w' h
      obtain ⟨-, rfl⟩ := Delegate.updateMany_eq_ok.mp h
      exact Effect.fulfil desk w _ _

/-- What a successful insert of a gift did. -/
theorem createGiftTx_eq_ok {row : Nat → Gift} {w w' : Shop} {g : Gift} (h : createGiftTx row w = .ok (g, w')) :
    ∃ t, g = row w.nextId ∧ w.gifts.create g = some t ∧ (∀ x ∈ w.gifts.rows, gift.conflict g x = false) ∧
      w' = { w with nextId := w.nextId + 1, gifts := t } := by
  obtain ⟨id, w₁, hid, h⟩ := Tx.bind_eq_ok.mp h
  cases hid
  obtain ⟨known, w₂, hread, h⟩ := Tx.bind_eq_ok.mp h
  obtain ⟨-, rfl⟩ := Tx.read_eq_ok.mp hread
  obtain ⟨_, w₃, hknown, h⟩ := Tx.bind_eq_ok.mp h
  obtain ⟨-, rfl⟩ := Tx.ensure_eq_ok.mp hknown
  obtain ⟨t, hcreate, hfree, rfl, rfl⟩ := Delegate.create_eq_ok.mp h
  exact ⟨t, rfl, hcreate, hfree, rfl⟩

theorem createGift_does (desk : Desk) {row : Nat → Gift} (hrow : ∀ id, (row id).id = id) :
    Svc.Does (GiftActs desk) (Svc.transaction ⟨desk, .createGift⟩ (whenUp (createGiftTx row))) := by
  refine write_does desk rfl nofun fun w g w' h => ?_
  obtain ⟨t, rfl, hcreate, hfree, rfl⟩ := createGiftTx_eq_ok h
  exact Effect.createGift desk (hrow _) hcreate hfree

theorem replayGift_does (desk : Desk) (requestHash : String) (existing : Gift) :
    Svc.Does (GiftActs desk) (replayGift requestHash existing) :=
  Svc.Does.bind (Svc.Does.ensure _ _) fun _ => Svc.Does.pure _

theorem insertGift_does (desk : Desk) (identity : Option (String × String)) (senderId : Nat) {row : Nat → Gift}
    (hrow : ∀ id, (row id).id = id) : Svc.Does (GiftActs desk) (insertGift desk identity senderId row) := by
  refine Svc.Does.bind (Svc.Does.tryCatch ?_ fun e => ?_) fun written => ?_
  · exact Svc.Does.bind (createGift_does desk hrow) fun _ => Svc.Does.pure _
  · split
    · refine Svc.Does.bind (giftRead_does _ _) fun winner => ?_
      cases winner with
      | none => exact Svc.Does.fail _
      | some winner => exact replayGift_does _ _ _
    · exact Svc.Does.fail _
  · split
    · exact Svc.Does.pure _
    · refine Svc.Does.bind ((fulfil_does _ _).does.mono fun l w w' hact => ?_) fun _ => Svc.Does.pure _
      exact ⟨hact.1, gift_of_fulfil hact.2.1, hact.2.2⟩

theorem createNew_does [Cities] (desk : Desk) (body : CreateGiftInput) (draft : GiftDraft)
    (candidates : List String) : Svc.Does (GiftActs desk) (createNew desk body draft candidates) := by
  refine Svc.Does.bind (checkRecipient_looks _ _).gift fun _ => ?_
  refine Svc.Does.bind (checkFastDelivery_looks _ _ _).gift fun _ => ?_
  refine Svc.Does.bind (checkProduct_looks _ _).gift fun _ => ?_
  refine Svc.Does.bind (resolveOccasion_looks _ _ _ _).gift fun _ => ?_
  exact Svc.Does.bind (allocateReference_looks _ _ _).gift fun _ => insertGift_does _ _ _ fun _ => rfl

theorem create_does [Runtime] [Cities] (desk : Desk) (body : CreateGiftInput) (viewerUserId : Nat)
    (idempotencyKey : Option String) (candidates : List String) :
    Svc.Does (GiftActs desk) (create desk body viewerUserId idempotencyKey candidates) := by
  unfold create
  refine Svc.Does.bind (Svc.Does.ofExcept _) fun media => ?_
  dsimp only
  split
  · split
    · exact createNew_does _ _ _ _
    · refine Svc.Does.bind (Svc.Does.ensure _ _) fun _ => Svc.Does.bind (giftRead_does _ _) fun existing => ?_
      cases existing with
      | none => exact createNew_does _ _ _ _
      | some existing => exact replayGift_does _ _ _
  · exact Svc.Does.fail _

theorem surround_does (s : Surroundings) :
    Svc.Does (Acts .other) (Svc.transaction ⟨.other, .environment⟩ (Tx.modify (surrounded s)) : Service Unit) := by
  refine transaction_does .other nofun fun w u w' h => ?_
  obtain rfl := Tx.modify_eq_ok.mp h
  exact Effect.surround s w

theorem placeOrder_does (body : PlaceOrderInput) (viewerUserId : Nat) :
    Svc.Does (Acts .other) (placeOrder .other body viewerUserId) := by
  unfold placeOrder
  by_cases hprice : 0 ≤ body.itemSubtotal
  · refine Svc.Does.bind (Svc.Does.ensure _ _) fun _ => ?_
    refine Svc.Does.bind (transaction_does _ nofun fun w a w' h => ?_) fun _ => Svc.Does.pure _
    obtain ⟨id, w₁, hid, h⟩ := Tx.bind_eq_ok.mp h
    cases hid
    obtain ⟨t, hcreate, -, rfl, rfl⟩ := Delegate.create_eq_ok.mp h
    exact Effect.placeOrder body viewerUserId hprice hcreate
  · rw [Svc.ensure, if_neg hprice]
    exact Svc.Does.fail _

theorem callGateway_does (desk : Desk) (op : GatewayOp) (orderId : Nat) :
    Svc.Does (Acts desk) (callGateway desk op orderId) := by
  refine transaction_does _ nofun fun w a w' h => ?_
  obtain rfl := Tx.modify_eq_ok.mp h
  exact Effect.gateway desk op orderId w

theorem lockOrder_does (desk : Desk) (o : Order) : Svc.Does (Acts desk) (lockOrder desk o) := by
  refine Svc.Does.transaction (fun w n w' h => ⟨rfl, ?_⟩) fun w e h => ⟨rfl, Effect.idle _ w fun _ _ => ?_⟩
  · obtain ⟨-, rfl⟩ := Delegate.updateMany_eq_ok.mp (whenUp_eq_ok.mp h).2
    exact Effect.lock desk o.id w
  · rcases whenUp_eq_error h with hdown | herror
    · exact hdown
    · cases herror

theorem upsertPayment_eq_ok {o : Order} {providerPaymentId : String} {status : PaymentStatus} {w w' : Shop} {u : Unit}
    (h : upsertPayment o providerPaymentId status w = .ok (u, w')) :
    ∃ n t, w.nextId ≤ n ∧ w' = { w with nextId := n, payments := t } := by
  obtain ⟨updated, w₁, hupdate, h⟩ := Tx.bind_eq_ok.mp h
  obtain ⟨-, rfl⟩ := Delegate.updateMany_eq_ok.mp hupdate
  split at h
  · obtain ⟨id, w₂, hid, h⟩ := Tx.bind_eq_ok.mp h
    cases hid
    obtain ⟨p, w₃, hcreate, h⟩ := Tx.bind_eq_ok.mp h
    obtain ⟨t, -, -, -, rfl⟩ := Delegate.create_eq_ok.mp hcreate
    obtain ⟨-, rfl⟩ := Tx.pure_eq_ok.mp h
    exact ⟨_, _, Nat.le_succ _, rfl⟩
  · obtain ⟨-, rfl⟩ := Tx.pure_eq_ok.mp h
    exact ⟨_, _, le_refl _, rfl⟩

theorem recordFailedPayment_does (desk : Desk) (o : Order) (providerPaymentId : String) :
    Svc.Does (Acts desk) (recordFailedPayment desk o providerPaymentId) := by
  refine whenUp_does desk nofun fun w u w' h => ?_
  obtain ⟨_, w₁, hpayment, h⟩ := Tx.bind_eq_ok.mp h
  obtain ⟨n, t, hnext, rfl⟩ := upsertPayment_eq_ok hpayment
  obtain ⟨count, w₂, horder, h⟩ := Tx.bind_eq_ok.mp h
  obtain ⟨-, rfl⟩ := Delegate.updateMany_eq_ok.mp horder
  obtain ⟨-, rfl⟩ := Tx.pure_eq_ok.mp h
  exact Effect.recordFailed desk o.id hnext

theorem settleTx_eq_ok {o : Order} {providerPaymentId : String} {giftId : Nat} {w w' : Shop} {u : Unit}
    (h : settleTx o providerPaymentId giftId w = .ok (u, w')) :
    ∃ n t, w.nextId ≤ n ∧ w' = { w with
      nextId := n
      payments := t
      orders := w.orders.updateMany (fun x => x.id = o.id) (setPaid giftId) (setPaid_id giftId) } := by
  obtain ⟨_, w₁, hpayment, h⟩ := Tx.bind_eq_ok.mp h
  obtain ⟨n, t, hnext, rfl⟩ := upsertPayment_eq_ok hpayment
  obtain ⟨taken, w₂, hread, h⟩ := Tx.bind_eq_ok.mp h
  obtain ⟨-, rfl⟩ := Tx.read_eq_ok.mp hread
  obtain ⟨_, w₃, hfree, h⟩ := Tx.bind_eq_ok.mp h
  obtain ⟨-, rfl⟩ := Tx.ensure_eq_ok.mp hfree
  obtain ⟨count, w₄, horder, h⟩ := Tx.bind_eq_ok.mp h
  obtain ⟨-, rfl⟩ := Delegate.updateMany_eq_ok.mp horder
  obtain ⟨-, rfl⟩ := Tx.pure_eq_ok.mp h
  exact ⟨n, t, hnext, rfl⟩

theorem settle_does (desk : Desk) (o : Order) (providerPaymentId : String) (giftId : Nat) :
    Svc.Does (Acts desk) (Svc.transaction ⟨desk, .settle o.id⟩ (whenUp (settleTx o providerPaymentId giftId))) := by
  refine whenUp_does desk nofun fun w u w' h => ?_
  obtain ⟨n, t, hnext, rfl⟩ := settleTx_eq_ok h
  exact Effect.settle desk o.id giftId hnext

end Pieces

/-! ### Postings are legs of stored orders -/

section Legs

theorem createEntryTx_eq_ok (desk : Desk) {o : Order} {input : RecordLedgerInput} (hleg : input ∈ o.legs) {w w' : Shop}
    {e : FinancialLedgerEntry} (hknown : Known o w) (h : createEntryTx input w = .ok (e, w')) :
    Effect ⟨desk, .ledgerPost o.id⟩ w w' ∧ input.row w.nextId w.now ∈ w'.ledger.rows := by
  obtain ⟨x, hfind, hx⟩ := hknown
  obtain ⟨id, w₁, hid, h⟩ := Tx.bind_eq_ok.mp h
  cases hid
  obtain ⟨createdAt, w₂, hread, h⟩ := Tx.bind_eq_ok.mp h
  obtain ⟨rfl, rfl⟩ := Tx.read_eq_ok.mp hread
  obtain ⟨t, hcreate, hfree, rfl, rfl⟩ := Delegate.create_eq_ok.mp h
  have heffect : Effect ⟨desk, .ledgerPost x.id⟩ w { w with nextId := w.nextId + 1, ledger := t } :=
    Effect.post desk (by rw [hx.1]; exact hfind) (by rw [hx.legs]; exact hleg) hcreate hfree
  rw [hx.1] at heffect
  exact ⟨heffect, (Table.mem_create hcreate).mpr (.inr rfl)⟩

theorem record_ensures (desk : Desk) {o : Order} {input : RecordLedgerInput} (hleg : input ∈ o.legs) {w : Shop}
    (hknown : Known o w) :
    (record desk o.id input).Ensures (Rely Effect) (LedgerActs desk) (fun _ w => Known o w) w := by
  refine Svc.Ensures.bind (P := fun _ w => Known o w) (Svc.Ensures.ensure fun _ => hknown) fun _ w₁ hknown => ?_
  refine Svc.Ensures.tryCatch Rely.refl (fun _ _ _ => Rely.trans)
    (fun l t u hact => Rely.single (ActsIn.effect l t u hact)) ?_ fun e w₂ hrely => ?_
  · refine Svc.Ensures.bind (P := fun _ w => Known o w) (Svc.Ensures.transaction ?_ ?_) fun _ w₂ h => Svc.Ensures.pure h
    · exact fun w' _ => ⟨rfl, rfl, Effect.idle _ w' nofun⟩
    · intro w' e w'' hrely h
      have hknown' := hknown.later hrely
      have heffect := (createEntryTx_eq_ok desk hleg hknown' (whenUp_eq_ok.mp h).2).1
      exact ⟨⟨rfl, rfl, heffect⟩, heffect.known hknown'⟩
  · have hknown' := hknown.later hrely
    split
    · refine Svc.Ensures.bind (P := fun _ w => Known o w) ?_ fun posted w₃ h => ?_
      · exact Svc.Does.ensures ActsIn.effect (read_does rfl _ _) (fun _ _ => Known.later) hknown'
      · split
        · exact Svc.Ensures.pure h
        · exact Svc.Ensures.fail
    · exact Svc.Ensures.fail

theorem postLeg_ensures (desk : Desk) {o : Order} {input : RecordLedgerInput} (hleg : input ∈ o.legs) {w : Shop}
    (hknown : Known o w) :
    (postLeg desk o.id input).Ensures (Rely Effect) (LedgerActs desk) (fun _ w => Known o w) w := by
  refine Svc.Ensures.tryCatch Rely.refl (fun _ _ _ => Rely.trans) (fun l t u hact => Rely.single (ActsIn.effect l t u hact))
    (record_ensures desk hleg hknown) fun e w₂ hrely => ?_
  split
  · exact Svc.Ensures.pure (hknown.later hrely)
  · exact Svc.Ensures.fail

theorem ledgerRead_does {α : Type} (desk : Desk) (orderId : Nat) (f : Shop → α) :
    Svc.Does (LedgerActs desk) (Svc.query ⟨desk, .ledgerRead orderId⟩ f : Service α) :=
  Svc.Does.query (fun w => ⟨rfl, rfl, Effect.idle _ w nofun⟩) f

theorem ensureLedger_ensures (desk : Desk) {o : Order} {w : Shop} (hknown : Known o w) :
    (ensureLedgerForPaidOrder desk o).Ensures (Rely Effect) (LedgerActs desk) (fun _ w => Known o w) w := by
  refine Svc.Ensures.tryCatch Rely.refl (fun _ _ _ => Rely.trans)
    (fun l t u hact => Rely.single (ActsIn.effect l t u hact)) ?_ fun e w₂ hrely => Svc.Ensures.pure (hknown.later hrely)
  refine Svc.Ensures.bind (P := fun _ w => Known o w) ?_ fun existing w₁ hknown => ?_
  · exact Svc.Does.ensures ActsIn.effect (ledgerRead_does _ _ _) (fun _ _ => Known.later) hknown
  · split
    · exact Svc.Ensures.pure hknown
    · exact Svc.Ensures.forEach (fun input hinput w' hw' => postLeg_ensures desk hinput hw') hknown

/-- The order a confirm reads is stored. -/
theorem findOrder_known {id : String} {w : Shop} {found : OrderSnapshot} (h : findOrder id w = some found) :
    Known found.order w := by
  obtain ⟨o, ho, rfl⟩ := Option.map_eq_some_iff.mp h
  exact ⟨o, Table.find_of_mem (List.mem_of_find?_eq_some ho), rfl, rfl, rfl⟩

theorem findOrder_ensures (desk : Desk) (id : String) (w : Shop) :
    (Svc.query ⟨desk, .read⟩ (findOrder id) : Service (Option OrderSnapshot)).Ensures (Rely Effect) (LedgerActs desk)
      (fun found w => ∀ s ∈ found, Known s.order w) w :=
  Svc.Ensures.query (fun w' _ => ⟨rfl, rfl, Effect.read w'⟩) fun _ _ _ hs => findOrder_known hs

theorem afterLostRace_ensures (desk : Desk) (id : String) (w : Shop) :
    (afterLostRace desk id).Ensures (Rely Effect) (LedgerActs desk) (fun _ _ => True) w := by
  refine Svc.Ensures.bind (findOrder_ensures desk id w) fun found w₁ hfound => ?_
  cases found with
  | none => exact Svc.Ensures.fail
  | some found =>
      dsimp only
      split
      · exact Svc.Ensures.fail
      · exact Svc.Ensures.bind (ensureLedger_ensures desk (hfound found rfl)) fun _ _ _ => Svc.Ensures.pure trivial

/-- What is done in some steps is done. -/
theorem ensures_acts {α : Type} {steps : Step → Bool} {desk : Desk} {x : Service α} {P : α → Shop → Prop} {w : Shop}
    (h : x.Ensures (Rely Effect) (ActsIn steps desk) P w) : x.Ensures (Rely Effect) (Acts desk) P w :=
  Prog.Meets.weaken_action ActsIn.acts h

variable [Runtime] [Cities]

theorem makeGift_ensures (desk : Desk) {o : Order} (viewerUserId : Nat) (providerPaymentId : String)
    (candidates : List String) {w : Shop} (hknown : Known o w) :
    (makeGift desk o viewerUserId providerPaymentId candidates).Ensures (Rely Effect) (Acts desk) (fun _ _ => True) w := by
  refine Svc.Ensures.bind (P := fun _ w => Known o w) ?_ fun created w₁ hknown => ?_
  · refine Svc.Does.ensures Acts.effect (Svc.Does.tryCatch ((create_does _ _ _ _ _).mono ActsIn.acts) fun e => ?_)
      (fun _ _ => Known.later) hknown
    exact Svc.Does.bind (recordFailedPayment_does _ _ _) fun _ => Svc.Does.fail _
  refine Svc.Ensures.bind (P := fun _ w => Known o w) ?_ fun _ w₂ hknown => ?_
  · exact Svc.Does.ensures Acts.effect (settle_does _ _ _ _) (fun _ _ => Known.later) hknown
  have hpaid : Known (setPaid created.gift.id o) w₂ := hknown
  exact Svc.Ensures.bind (ensures_acts (ensureLedger_ensures desk hpaid)) fun _ _ _ => Svc.Ensures.pure trivial

theorem chargeOrder_ensures (desk : Desk) {o : Order} (viewerUserId : Nat) (input : ConfirmInput) {w : Shop}
    (hknown : Known o w) :
    (chargeOrder desk o viewerUserId input).Ensures (Rely Effect) (Acts desk) (fun _ _ => True) w := by
  unfold chargeOrder
  refine Svc.Ensures.bind (P := fun _ w => Known o w) ?_ fun _ w₁ hknown => ?_
  · exact Svc.Does.ensures Acts.effect (callGateway_does _ _ _) (fun _ _ => Known.later) hknown
  split
  · exact Svc.Ensures.fail
  · refine Svc.Ensures.bind (P := fun _ w => Known o w) ?_ fun _ w₂ hknown => ?_
    · exact Svc.Does.ensures Acts.effect (callGateway_does _ _ _) (fun _ _ => Known.later) hknown
    split
    · exact Svc.Ensures.fail
    · exact Svc.Does.ensures Acts.effect (Svc.Does.bind (recordFailedPayment_does _ _ _) fun _ => Svc.Does.fail _)
        (fun _ _ _ _ => trivial) trivial
    · exact makeGift_ensures desk viewerUserId _ _ hknown

theorem confirmMock_ensures (desk : Desk) (input : ConfirmInput) (viewerUserId : Nat) (w : Shop) :
    (confirmMock desk input viewerUserId).Ensures (Rely Effect) (Acts desk) (fun _ _ => True) w := by
  unfold confirmMock
  dsimp only
  refine Svc.Ensures.bind (P := fun _ _ => True) (Svc.Ensures.ensure fun _ => trivial) fun _ w₁ _ => ?_
  refine Svc.Ensures.bind (ensures_acts (findOrder_ensures desk _ w₁)) fun found w₂ hfound => ?_
  cases found with
  | none => exact Svc.Ensures.fail
  | some found =>
      have hknown := hfound found rfl
      refine Svc.Ensures.bind (P := fun _ w => Known found.order w) (Svc.Ensures.ensure fun _ => hknown)
        fun _ w₃ hknown => ?_
      split
      · exact Svc.Ensures.bind (ensures_acts (ensureLedger_ensures desk hknown)) fun _ _ _ => Svc.Ensures.pure trivial
      · refine Svc.Ensures.bind (P := fun _ w => Known found.order w) (Svc.Ensures.ensure fun _ => hknown)
          fun _ w₄ hknown => ?_
        refine Svc.Ensures.bind (P := fun _ w => Known found.order w) ?_ fun locked w₅ hknown => ?_
        · exact Svc.Does.ensures Acts.effect (lockOrder_does _ _) (fun _ _ => Known.later) hknown
        split
        · exact ensures_acts (afterLostRace_ensures desk _ w₅)
        · exact chargeOrder_ensures desk viewerUserId input hknown

theorem serve_ensures (c : Call) (w : Shop) :
    (serve c).Ensures (Rely Effect) (Acts c.desk) (fun _ _ => True) w := by
  unfold serve
  cases c with
  | surround s =>
      exact Svc.Does.ensures Acts.effect (Svc.Does.bind (surround_does s) fun _ => Svc.Does.pure _)
        (fun _ _ _ _ => trivial) trivial
  | placeOrder body viewerUserId =>
      exact Svc.Does.ensures Acts.effect (Svc.Does.bind (placeOrder_does body viewerUserId) fun _ => Svc.Does.pure _)
        (fun _ _ _ _ => trivial) trivial
  | create request body viewerUserId idempotencyKey candidates =>
      have hcreate := (create_does (.create request body viewerUserId idempotencyKey) body viewerUserId idempotencyKey
        candidates).mono ActsIn.acts
      exact Svc.Does.ensures Acts.effect (Svc.Does.bind hcreate fun _ => Svc.Does.pure _) (fun _ _ _ _ => trivial)
        trivial
  | confirm request input viewerUserId =>
      exact Svc.Ensures.bind (confirmMock_ensures _ input viewerUserId w) fun _ _ _ => Svc.Ensures.pure trivial

theorem program_meets (c : Call) (w : Shop) :
    (program c).Meets (Rely Effect) (Acts c.desk) (fun r _ => r.call = c) w :=
  Prog.Meets.bind (serve_ensures c w) fun _ _ _ => Prog.meets_done.mpr rfl

/-- **Every run is a path of effects.** -/
theorem Run.path {tr : List (Event Shop Place)} {cfg : Config Shop Place Reply} (h : Run tr cfg) :
    Path Effect Shop.empty tr cfg.state :=
  (Exec.path (Q := fun _ _ => True) (fun _ _ _ _ _ => trivial)
    (fun c w _ => ((program_meets c w).weaken_action Acts.effect).mono fun _ _ _ => trivial) h).1

end Legs

end Counter

end Qift.Shop
