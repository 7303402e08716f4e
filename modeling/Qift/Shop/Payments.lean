import Qift.Shop.Gifts

/-!
# Payments of personal orders

`PaymentsService` of `payments.service.ts`, with the fees of `fee-engine.ts` an order is created with.

* `confirmMock` moves an order from pending to processing before it touches the gateway, makes the gift and links it
  to the paid order; whoever finds the order moved reads it again.
* `ensureLedgerForPaidOrder` posts the legs of a paid order after the fact. It skips an order that has any entry, and
  its failures are swallowed.
-/

namespace Qift.Shop

open Relational Interleaving Financial

/-! ### Fees -/

def QIFT_SERVICE_FEE_RATE : Number := 3 / 100
def QIFT_MIN_SERVICE_FEE : Number := 5
def FAST_DELIVERY_FEE : Number := 15
def STANDARD_DELIVERY_FEE : Number := 0

def serviceFeeFor (itemSubtotal : Number) : Number :=
  max QIFT_MIN_SERVICE_FEE ⌊itemSubtotal * QIFT_SERVICE_FEE_RATE + 1 / 2⌋

def deliveryFeeFor (fast : Bool) : Number := if fast then FAST_DELIVERY_FEE else STANDARD_DELIVERY_FEE

/-- `addMoney`: the sum in minor units. -/
def addMoney (amounts : List Number) : Number :=
  fromMinor (amounts.map fun a => toMinor a .SAR).sum .SAR

/-! ### Providers -/

/-- `COUNTRY_PROVIDERS`, with the fallback for other countries. -/
def getPaymentProvidersByCountry (country : String) : List String :=
  match Settlement.toUpperCase (trim country) with
  | "SA" => ["mada", "apple_pay", "visa", "mastercard"]
  | "KW" => ["knet", "apple_pay", "visa", "mastercard"]
  | "AE" => ["apple_pay", "visa", "mastercard"]
  | "QA" => ["qpay", "apple_pay", "visa", "mastercard"]
  | "BH" => ["benefit", "apple_pay", "visa", "mastercard"]
  | "OM" => ["oman_net", "apple_pay", "visa", "mastercard"]
  | _ => ["visa", "mastercard"]

def validatePaymentProvider (country provider : String) : Bool :=
  provider ≠ "" && (getPaymentProvidersByCountry country).contains provider

/-! ### Orders -/

/-- What `OrdersService.create` stores of a checkout once it has checked it. -/
structure PlaceOrderInput where
  receiverUsername : String
  productName : String
  storeName : String
  productId : Option String := none
  storeId : Option Nat := none
  occasionId : Option String := none
  itemSubtotal : Number
  fast : Bool := false
  currency : CurrencyCode := .SAR
  country : String
  paymentProvider : String
  message : Option String := none
  mediaUrl : Option String := none
  mediaType : Option String := none
  isSurprise : Bool := false
  isAnonymous : Bool := false

/-- The row of a new order, with the charges of `computeFees`. -/
def PlaceOrderInput.row (body : PlaceOrderInput) (viewerUserId id : Nat) : Order where
  id := id
  userId := viewerUserId
  giftId := none
  receiverUsername := body.receiverUsername
  productName := body.productName
  storeName := body.storeName
  productId := body.productId
  storeId := body.storeId
  occasionId := body.occasionId
  productPrice := body.itemSubtotal
  serviceFee := serviceFeeFor body.itemSubtotal
  deliveryFee := deliveryFeeFor body.fast
  totalAmount := addMoney [body.itemSubtotal, deliveryFeeFor body.fast, serviceFeeFor body.itemSubtotal]
  currency := body.currency
  country := body.country
  paymentProvider := body.paymentProvider
  message := body.message
  mediaUrl := body.mediaUrl
  mediaType := body.mediaType
  isSurprise := body.isSurprise
  isAnonymous := body.isAnonymous
  status := .pending

/-- The tail of `OrdersService.create`: a checkout with a price is stored as a pending order. -/
def placeOrder (desk : Desk) (body : PlaceOrderInput) (viewerUserId : Nat) : Service Unit := do
  Svc.ensure (0 ≤ body.itemSubtotal)
    (.badRequest "productPrice is required (no authoritative catalog price available)")
  let _ ← Svc.transaction ⟨desk, .environment⟩ (do
    let id ← freshId
    order.create (.p2002 "Order") (body.row viewerUserId id))
  pure ()

/-! ### The ledger of an order -/

/-- The columns of an order its legs are made of. -/
def Order.paid (o : Order) : PaidOrder where
  storeId := o.storeId
  productPrice := o.productPrice
  serviceFee := o.serviceFee
  deliveryFee := o.deliveryFee
  totalAmount := o.totalAmount
  currency := o.currency

/-- The legs `buildOrderLedgerEntries` makes of an order. -/
def Order.legs (o : Order) : List RecordLedgerInput := buildOrderLedgerEntries o.paid o.id

/-- `FinancialLedgerService.findByOrder`, as its number of entries. -/
def entriesOf (orderId : Nat) (w : Shop) : Nat := w.ledger.count fun e => e.orderId = some orderId

/-- The insert of `FinancialLedgerService.record`. -/
def createEntryTx (input : RecordLedgerInput) : Transaction FinancialLedgerEntry := do
  let id ← freshId
  let createdAt ← Tx.read Shop.now
  financialLedgerEntry.create (.p2002 "FinancialLedgerEntry") (input.row id createdAt)

/-- `FinancialLedgerService.record`: a collision on the explicit key is this very posting. -/
def record (desk : Desk) (orderId : Nat) (input : RecordLedgerInput) : Service Unit := do
  Svc.ensure (0 < input.amount) (.badRequest "ledger amount must be a positive, finite number")
  Svc.tryCatch
    (do
      let _ ← Svc.transaction ⟨desk, .ledgerPost orderId⟩ (whenUp (createEntryTx input))
      pure ())
    fun e =>
      match e, input.idempotencyKey with
      | .p2002 _, some key => do
          let posted ← Svc.query ⟨desk, .read⟩ fun w => w.ledger.rows.any fun r => r.idempotencyKey = some key
          if posted then pure () else Svc.fail e
      | _, _ => Svc.fail e

/-- Post one leg; one that a racing confirm has posted is passed over. -/
def postLeg (desk : Desk) (orderId : Nat) (input : RecordLedgerInput) : Service Unit :=
  Svc.tryCatch (record desk orderId input) fun e =>
    match e with
    | .p2002 _ => pure ()
    | _ => Svc.fail e

def ensureLedgerForPaidOrder (desk : Desk) (o : Order) : Service Unit :=
  Svc.tryCatch
    (do
      let existing ← Svc.query ⟨desk, .ledgerRead o.id⟩ (entriesOf o.id)
      if 0 < existing then pure () else Svc.forEach o.legs (postLeg desk o.id))
    fun _ => pure ()

/-! ### Confirming -/

def FORBIDDEN_MSG : String := "غير مصرح لك"

/-- What the gateway will answer to the calls of one confirm: a payment reference, and whether it was paid; nothing
where the call fails. -/
structure GatewayAnswers where
  providerPaymentId : Option String
  paid : Option Bool

structure ConfirmInput where
  orderId : String
  gateway : GatewayAnswers
  /-- The candidates for the reference of the gift. -/
  candidates : List String

structure Confirmed where
  orderId : Nat
  giftId : Nat
  deriving DecidableEq

/-- An order with the gift it is linked to. -/
structure OrderSnapshot where
  order : Order
  gift : Option Gift

/-- `order.findUnique` with its gift. -/
def findOrder (id : String) (w : Shop) : Option OrderSnapshot :=
  (w.orders.rows.find? fun o => Settlement.idText o.id = id).map fun o =>
    { order := o, gift := o.giftId.bind w.gifts.find }

/-- The gift of an order that is paid and linked. -/
def OrderSnapshot.settled (s : OrderSnapshot) : Option Gift :=
  if s.order.status = .paid then s.gift else none

def setProcessing (o : Order) : Order := { o with status := .processing }

/-- One call to the gateway; the log keeps it whatever it answers. -/
def callGateway (desk : Desk) (op : GatewayOp) (orderId : Nat) : Service Unit :=
  Svc.transaction ⟨desk, .gateway op orderId⟩
    (Tx.modify fun w => { w with gatewayCalls := w.gatewayCalls ++ [{ op := op, orderId := orderId }] })

/-- Overwrite the payment of an order, or write its first one. -/
def upsertPayment (o : Order) (providerPaymentId : String) (status : PaymentStatus) : Transaction Unit := do
  let updated ← payment.updateMany (fun p => p.orderId = o.id)
    (fun p => { p with
      provider := if status = .paid then o.paymentProvider else p.provider
      providerPaymentId := providerPaymentId
      status := status })
  if updated = 0 then do
    let id ← freshId
    let _ ← payment.create (.p2002 "Payment")
      { id := id
        orderId := o.id
        provider := o.paymentProvider
        providerPaymentId := providerPaymentId
        amount := o.totalAmount
        currency := o.currency
        status := status }
    pure ()
  else pure ()

def setFailed (o : Order) : Order := { o with status := .failed }

def setPaid (giftId : Nat) (o : Order) : Order := { o with status := .paid, giftId := some giftId }

def recordFailedPayment (desk : Desk) (o : Order) (providerPaymentId : String) : Service Unit :=
  Svc.transaction ⟨desk, .recordFailed o.id⟩ (whenUp do
    upsertPayment o providerPaymentId .failed
    let _ ← order.updateMany (fun x => x.id = o.id) setFailed
    pure ())

def settleTx (o : Order) (providerPaymentId : String) (giftId : Nat) : Transaction Unit := do
  upsertPayment o providerPaymentId .paid
  let taken ← Tx.read fun w => w.orders.rows.any fun x => x.id ≠ o.id ∧ x.giftId = some giftId
  Tx.ensure (taken = false) (.p2002 "Order")
  let _ ← order.updateMany (fun x => x.id = o.id) (setPaid giftId)
  pure ()

/-- The gift request an order stands for. -/
def Order.giftInput (o : Order) : CreateGiftInput where
  receiverUsername := some o.receiverUsername
  productName := some o.productName
  storeName := some o.storeName
  messageText := o.message
  isAnonymous := o.isAnonymous
  isSurprise := o.isSurprise
  mediaUrl := o.mediaUrl
  mediaType := o.mediaType.filter fun t => t = "image" ∨ t = "video"
  productId := o.productId
  storeId := o.storeId.map Settlement.idText
  occasionId := o.occasionId

/-- Whoever finds the order moved answers from what it has become. -/
def afterLostRace (desk : Desk) (id : String) : Service Confirmed := do
  let refreshed ← Svc.query ⟨desk, .read⟩ (findOrder id)
  match refreshed with
  | none => Svc.fail (.badRequest "Order is not in a payable state")
  | some refreshed =>
      match refreshed.settled with
      | none => Svc.fail (.badRequest "Order is not in a payable state")
      | some linked => do
          ensureLedgerForPaidOrder desk refreshed.order
          pure { orderId := refreshed.order.id, giftId := linked.id }

section Confirm

variable [Runtime] [Cities]

/-- The order is ours and the gateway has been paid: make the gift and link it. -/
def makeGift (desk : Desk) (o : Order) (viewerUserId : Nat) (providerPaymentId : String) (candidates : List String) :
    Service Confirmed := do
  let created ← Svc.tryCatch (create desk o.giftInput viewerUserId none candidates) fun e => do
    recordFailedPayment desk o providerPaymentId
    Svc.fail e
  Svc.transaction ⟨desk, .settle o.id⟩ (whenUp (settleTx o providerPaymentId created.gift.id))
  ensureLedgerForPaidOrder desk (setPaid created.gift.id o)
  pure { orderId := o.id, giftId := created.gift.id }

/-- The order is ours: charge it. -/
def chargeOrder (desk : Desk) (o : Order) (viewerUserId : Nat) (input : ConfirmInput) : Service Confirmed := do
  callGateway desk .initiate o.id
  match input.gateway.providerPaymentId with
  | none => Svc.fail (.error "gateway unavailable")
  | some providerPaymentId => do
      callGateway desk .confirm o.id
      match input.gateway.paid with
      | none => Svc.fail (.error "gateway unavailable")
      | some false => do
          recordFailedPayment desk o providerPaymentId
          Svc.fail (.badRequest "Payment was not authorized")
      | some true => makeGift desk o viewerUserId providerPaymentId input.candidates

/-- Move the order from pending to processing, or find it moved. -/
def lockOrder (desk : Desk) (o : Order) : Service Nat :=
  Svc.transaction ⟨desk, .lock o.id⟩
    (whenUp (order.updateMany (fun x => x.id = o.id ∧ x.status = .pending) setProcessing))

def confirmMock (desk : Desk) (input : ConfirmInput) (viewerUserId : Nat) : Service Confirmed := do
  let id := trim input.orderId
  Svc.ensure (id ≠ "") (.badRequest "orderId is required")
  let found ← Svc.query ⟨desk, .read⟩ (findOrder id)
  match found with
  | none => Svc.fail (.notFound "Order not found")
  | some found => do
      Svc.ensure (found.order.userId = viewerUserId) (.forbidden FORBIDDEN_MSG)
      match found.settled with
      | some linked => do
          ensureLedgerForPaidOrder desk found.order
          pure { orderId := found.order.id, giftId := linked.id }
      | none => do
          Svc.ensure (validatePaymentProvider found.order.country found.order.paymentProvider = true)
            (.badRequest "Invalid payment provider for country")
          let locked ← lockOrder desk found.order
          if locked = 0 then afterLostRace desk id
          else chargeOrder desk found.order viewerUserId input

end Confirm

end Qift.Shop
