import Qift.Lib.Proviso
import Qift.Lib.Delegate
import Qift.System

/-!
# The stored state of the shop

The rows behind personal orders, their payments and the gifts they become, with the columns a modelled service uses.

* `Shop` is the database with the clock and the calls the payment gateway has received; `Shop.empty` is the shop before
  its first write.
* A `Place` labels an atomic action with the request that performs it and the step of the program it is.
* `bestEffort` is a write whose failure the program swallows: an outage of the database, which may come and go between
  any two actions, loses it.
-/

namespace Qift.Shop

open Relational Interleaving

/-! ### Enumerated columns -/

inductive OrderStatus
  | pending | processing | paid | failed
  deriving DecidableEq

inductive PaymentStatus
  | paid | failed
  deriving DecidableEq

/-- The two calls a payment gateway offers. -/
inductive GatewayOp
  | initiate | confirm
  deriving DecidableEq

/-! ### Rows -/

structure User where
  id : Nat
  qiftUsername : String
  deletedAt : Option Time

structure Block where
  blockerId : Nat
  blockedId : Nat

structure Address where
  id : Nat
  userId : Nat
  isDefault : Bool
  city : String

structure Product where
  id : Nat
  storeId : Nat
  isAvailable : Bool
  stockStatus : String
  giftedByCount : Nat
  trendingAt : Option Time

structure Occasion where
  id : Nat
  userId : Nat
  deactivatedAt : Option Time

structure Wish where
  id : Nat
  userId : Nat
  productId : Option String
  deactivatedAt : Option Time
  deactivatedReason : Option String

structure GiftAttempt where
  id : Nat
  senderId : Nat
  receiverId : Nat
  receiverUsername : String
  productName : String
  storeName : String

structure Gift where
  id : Nat
  fulfillmentNumber : String
  senderId : Nat
  receiverId : Nat
  productName : String
  storeName : String
  storeId : Option String
  productId : Option String
  occasionId : Option Nat
  messageText : Option String
  mediaUrl : Option String
  mediaType : Option String
  isAnonymous : Bool
  isSurprise : Bool
  status : String
  idempotencyKey : Option String
  idempotencyRequestHash : Option String
  deriving DecidableEq

structure Order where
  id : Nat
  userId : Nat
  giftId : Option Nat
  receiverUsername : String
  productName : String
  storeName : String
  productId : Option String
  storeId : Option Nat
  occasionId : Option String
  productPrice : Number
  serviceFee : Number
  deliveryFee : Number
  totalAmount : Number
  currency : CurrencyCode
  country : String
  paymentProvider : String
  message : Option String
  mediaUrl : Option String
  mediaType : Option String
  isSurprise : Bool
  isAnonymous : Bool
  status : OrderStatus

structure Payment where
  id : Nat
  orderId : Nat
  provider : String
  providerPaymentId : String
  amount : Number
  currency : CurrencyCode
  status : PaymentStatus

/-- A call the payment gateway received. -/
structure GatewayCall where
  op : GatewayOp
  orderId : Nat
  deriving DecidableEq

end Qift.Shop

namespace Qift

open Relational

/-- The shop: its tables, its clock and the gateway's log. -/
structure Shop where
  now : Time
  nextId : Nat
  /-- Single writes fail while it is set. -/
  outage : Bool
  users : List Shop.User
  blocks : List Shop.Block
  addresses : List Shop.Address
  occasions : List Shop.Occasion
  storeIds : List Nat
  products : Table Shop.Product.id
  wishes : Table Shop.Wish.id
  giftAttempts : Table Shop.GiftAttempt.id
  gifts : Table Shop.Gift.id
  orders : Table Shop.Order.id
  payments : Table Shop.Payment.id
  ledger : Table FinancialLedgerEntry.id
  gatewayCalls : List Shop.GatewayCall

end Qift

namespace Qift.Shop

open Relational Interleaving

def empty : Shop where
  now := 0
  nextId := 0
  outage := false
  users := []
  blocks := []
  addresses := []
  occasions := []
  storeIds := []
  products := Table.empty
  wishes := Table.empty
  giftAttempts := Table.empty
  gifts := Table.empty
  orders := Table.empty
  payments := Table.empty
  ledger := Table.empty
  gatewayCalls := []

/-! ### Client delegates -/

abbrev product : Delegate Shop Product.id where
  table := Shop.products
  store t w := { w with products := t }
  conflict _ _ := false

abbrev wish : Delegate Shop Wish.id where
  table := Shop.wishes
  store t w := { w with wishes := t }
  conflict _ _ := false

abbrev giftAttempt : Delegate Shop GiftAttempt.id where
  table := Shop.giftAttempts
  store t w := { w with giftAttempts := t }
  conflict _ _ := false

/-- Gifts are unique by reference, and by sender and key where there is a key. -/
abbrev gift : Delegate Shop Gift.id where
  table := Shop.gifts
  store t w := { w with gifts := t }
  conflict a b := decide (a.fulfillmentNumber = b.fulfillmentNumber ∨
    (a.senderId = b.senderId ∧ a.idempotencyKey = b.idempotencyKey ∧ a.idempotencyKey ≠ none))

abbrev order : Delegate Shop Order.id where
  table := Shop.orders
  store t w := { w with orders := t }
  conflict a b := decide (a.giftId = b.giftId ∧ a.giftId ≠ none)

abbrev payment : Delegate Shop Payment.id where
  table := Shop.payments
  store t w := { w with payments := t }
  conflict a b := decide (a.orderId = b.orderId)

/-- Ledger rows are unique by key, and by order and reason where there is an order. -/
abbrev financialLedgerEntry : Delegate Shop FinancialLedgerEntry.id where
  table := Shop.ledger
  store t w := { w with ledger := t }
  conflict a b := decide ((a.idempotencyKey = b.idempotencyKey ∧ a.idempotencyKey ≠ none) ∨
    (a.orderId = b.orderId ∧ a.reasonCode = b.reasonCode ∧ a.orderId ≠ none))

/-! ### Actions -/

/-- A request for a gift. -/
structure CreateGiftInput where
  receiverUsername : Option String := none
  productName : Option String := none
  storeName : Option String := none
  messageText : Option String := none
  message : Option String := none
  mediaUrl : Option String := none
  mediaType : Option String := none
  isAnonymous : Bool := false
  isSurprise : Bool := false
  isFastDelivery : Bool := false
  storeCity : Option String := none
  productId : Option String := none
  storeId : Option String := none
  occasionId : Option String := none
  deriving DecidableEq

/-- A step of the program. -/
inductive Step
  /-- A query or a clock read. -/
  | read
  /-- The clock, the catalog, the accounts and new orders. -/
  | environment
  | giftAttempt
  | createGift
  /-- The wish and the counter of the product a gift was made of. -/
  | fulfil
  | lock (orderId : Nat)
  | gateway (op : GatewayOp) (orderId : Nat)
  | settle (orderId : Nat)
  | recordFailed (orderId : Nat)
  /-- The self-heal reads the entries of an order. -/
  | ledgerRead (orderId : Nat)
  | ledgerPost (orderId : Nat)
  deriving DecidableEq

/-- The request an action belongs to: a confirm by its number, a gift request with its sender and key, or any other. -/
inductive Desk
  | confirm (request : Nat)
  | create (request : Nat) (body : CreateGiftInput) (viewerUserId : Nat) (idempotencyKey : Option String)
  | other
  deriving DecidableEq

/-- The place of an atomic action: whose it is and what it does. -/
structure Place where
  desk : Desk
  step : Step
  deriving DecidableEq

/-- A service call on the shop. -/
abbrev Service := Svc Shop Place Err

/-- The body of a database transaction. -/
abbrev Transaction := Tx Shop Err

/-- `Date.now()`. -/
def dateNow (desk : Desk) : Service Time := Svc.query ⟨desk, .read⟩ Shop.now

/-- Draw an identifier. -/
def freshId : Transaction Nat := fun w => .ok (w.nextId, { w with nextId := w.nextId + 1 })

/-- A single write needs a database that answers. -/
def whenUp {α : Type} (tx : Transaction α) : Transaction α := do
  let down ← Tx.read Shop.outage
  Tx.ensure (down = false) (.error "database unavailable")
  tx

/-- A write whose failure is swallowed. -/
def bestEffort {α : Type} (place : Place) (tx : Transaction α) : Service Unit :=
  Svc.tryCatch
    (do
      let _ ← Svc.transaction place (whenUp tx)
      pure ())
    fun _ => pure ()

/-- A successful single write found the database up. -/
theorem whenUp_eq_ok {α : Type} {tx : Transaction α} {w w' : Shop} {a : α} :
    whenUp tx w = .ok (a, w') ↔ w.outage = false ∧ tx w = .ok (a, w') := by
  simp only [whenUp, Tx.bind_eq_ok, Tx.read_eq_ok, Tx.ensure_eq_ok]
  constructor
  · rintro ⟨down, w₁, ⟨rfl, rfl⟩, _, w₂, ⟨hup, rfl⟩, h⟩
    exact ⟨hup, h⟩
  · rintro ⟨hup, h⟩
    exact ⟨_, _, ⟨rfl, rfl⟩, (), _, ⟨hup, rfl⟩, h⟩

theorem whenUp_eq_error {α : Type} {tx : Transaction α} {w : Shop} {e : Err} (h : whenUp tx w = .error e) :
    w.outage = true ∨ tx w = .error e := by
  simp only [whenUp, Tx.bind_eq_error, Tx.read_ne_error, false_or, Tx.read_eq_ok] at h
  obtain ⟨down, w₁, ⟨rfl, rfl⟩, hdown | ⟨_, w₂, hup, h⟩⟩ := h
  · exact .inl (eq_true_of_ne_false (Tx.ensure_eq_error.mp hdown).1)
  · obtain ⟨-, rfl⟩ := Tx.ensure_eq_ok.mp hup
    exact .inr h

end Qift.Shop
