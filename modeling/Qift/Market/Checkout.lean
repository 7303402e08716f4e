import Qift.Market.Coverage
import Qift.Shop.Payments

/-!
# Checkout

`OrdersService.create` of `orders.service.ts` with `checkAvailability` of `products.service.ts` and `order-ledger.ts`.

* `create` runs the gates in their order, resolves store, price and delivery speed and stores a pending order with the
  charges of `computeFees`.
* `buildOrderLedgerEntries` are the legs a paid order is posted with.
-/

namespace Qift.Market

open Shop Financial

/-- A field of the request that carries a number or its text. -/
inductive ClientNumber
  | number (x : Number)
  | text (s : String)

/-- `Number(text)`: nothing for a text that is no finite number. -/
class Numerals where
  ofText : String → Option Number

inductive DeliverySpeed
  | same_day | fast
  deriving DecidableEq

structure CreateOrderInput where
  receiverUsername : Option String := none
  productName : Option String := none
  storeName : Option String := none
  productPrice : Option ClientNumber := none
  deliverySpeed : Option String := none
  serviceFee : Option ClientNumber := none
  deliveryFee : Option ClientNumber := none
  totalAmount : Option ClientNumber := none
  currency : Option String := none
  country : Option String := none
  paymentProvider : Option String := none
  message : Option String := none
  isAnonymous : Bool := false
  isSurprise : Bool := false
  mediaUrl : Option String := none
  mediaType : Option String := none
  isFastDelivery : Bool := false
  storeCity : Option String := none
  productId : Option String := none
  storeId : Option String := none
  occasionId : Option String := none

/-! ### Resolving -/

section Numbers

variable [Numerals]

def numberOr : Option ClientNumber → Option Number
  | some (.number x) => some x
  | some (.text s) => if trim s = "" then none else Numerals.ofText s
  | none => none

/-- The delivery speed: the fact itself, or one of the two legacy fees that stand for it. -/
def resolveDeliverySpeed (body : CreateOrderInput) : Except Err DeliverySpeed :=
  if body.deliverySpeed = some "fast" then .ok .fast
  else if body.deliverySpeed = some "same_day" then .ok .same_day
  else
    match numberOr body.deliveryFee with
    | none => .ok .same_day
    | some legacy =>
        if legacy = STANDARD_DELIVERY_FEE then .ok .same_day
        else if legacy = FAST_DELIVERY_FEE then .ok .fast
        else .error (.badRequest "Invalid delivery option")

end Numbers

structure FeeBreakdown where
  itemSubtotal : Number
  deliveryFee : Number
  serviceFee : Number
  grandTotal : Number

def computeFees (itemSubtotal : Number) (deliverySpeed : DeliverySpeed) : FeeBreakdown :=
  let deliveryFee := deliveryFeeFor (deliverySpeed = .fast)
  let serviceFee := serviceFeeFor itemSubtotal
  { itemSubtotal := itemSubtotal
    deliveryFee := deliveryFee
    serviceFee := serviceFee
    grandTotal := addMoney [itemSubtotal, deliveryFee, serviceFee] }

/-- The statuses of a store whose products are sold. -/
def PUBLIC_STORE_STATUSES : List String := ["approved", "pending"]

/-- `checkAvailability`: the catalog row of the product a request names. -/
def checkAvailability (m : Market) (productId : Option String) : Except Err (Option Product) :=
  match productId.filter fun id => id ≠ "" with
  | none => .ok none
  | some id =>
      match m.product id with
      | none => .error (.badRequest "المنتج غير موجود")
      | some product =>
          if product.isAvailable = false ∨ product.stockStatus ≠ "in_stock" then
            .error (.badRequest "المنتج غير متوفر حاليًا")
          else if ((m.store product.storeId).any fun s => PUBLIC_STORE_STATUSES.contains s.status) = false then
            .error (.badRequest "المنتج غير متوفر حاليًا")
          else .ok (some product)

/-- The first of the drawn references that no order carries. -/
def allocateReference (m : Market) (candidates : List String) : Except Err String :=
  match (candidates.take MAX_ALLOCATION_ATTEMPTS).find? fun c => m.orders.rows.all fun o => o.orderNumber ≠ c with
  | some reference => .ok reference
  | none => .error (.error "reference_allocation_exhausted")

/-! ### Gates -/

/-- The texts a request must carry. -/
structure OrderDraft where
  receiverUsername : String
  productName : String
  storeName : String
  currency : String
  country : String
  paymentProvider : String

def CreateOrderInput.draft (body : CreateOrderInput) : Except Err OrderDraft :=
  match trimOrNull body.receiverUsername, trimOrNull body.productName, trimOrNull body.storeName,
    trimOrNull body.currency, trimOrNull body.country, trimOrNull body.paymentProvider with
  | some receiverUsername, some productName, some storeName, some currency, some country, some paymentProvider =>
      .ok
        { receiverUsername := Portal.toLowerCase receiverUsername
          productName := productName
          storeName := storeName
          currency := Settlement.toUpperCase currency
          country := Settlement.toUpperCase country
          paymentProvider := paymentProvider }
  | _, _, _, _, _, _ =>
      .error (.badRequest
        "receiverUsername, productName, storeName, currency, country and paymentProvider are required")

/-- The provider must be one of the country. -/
def checkProvider (draft : OrderDraft) : Except Err Unit :=
  if validatePaymentProvider draft.country draft.paymentProvider then .ok ()
  else
    .error (.badRequest ("Payment provider " ++ draft.paymentProvider ++ " is not allowed for country " ++
      draft.country))

section Gates

variable [Cities]

def canDeliverFast (m : Market) (receiverId storeCity : String) : Bool :=
  let city := trim storeCity
  city ≠ "" && (m.addressesOf receiverId).any fun a => Cities.normaliseCity a.city = Cities.normaliseCity city

/-- The recipient: another account that stands, with a default address. -/
def checkReceiver (m : Market) (viewerUserId receiverUsername : String) : Except Err User := do
  match m.user viewerUserId with
  | none => .error (.notFound "Sender not found")
  | some sender =>
      if Portal.toLowerCase sender.qiftUsername = receiverUsername then
        .error (.badRequest "لا يمكنك إرسال هدية لنفسك")
      else
        match m.users.rows.find? fun u => u.qiftUsername = receiverUsername ∧ u.deletedAt = none with
        | none => .error (.notFound "Receiver not found")
        | some receiver =>
            if (m.defaultAddress receiver.id).isNone then .error (.error "recipient_no_default_address")
            else .ok receiver

/-- The fast-delivery gate, asked where the request says so. -/
def checkFastDelivery (m : Market) (body : CreateOrderInput) (receiverId : String) : Except Err Unit :=
  if body.isFastDelivery then
    match trimOrNull body.storeCity with
    | none => .error (.badRequest "storeCity is required for fast-delivery products")
    | some storeCity =>
        if canDeliverFast m receiverId storeCity then .ok () else .error (.badRequest FAST_DELIVERY_REFUSED)
  else .ok ()

end Gates

/-! ### Creating an order -/

/-- The store of an order: the one the request names, else that of the product. -/
def resolveStoreId (body : CreateOrderInput) (product : Option Product) : Option String :=
  (trimOrNull body.storeId).or (product.map Product.storeId)

section Create

variable [Cities] [Numerals]

/-- The item subtotal: the catalog price, without a product the number of the request. -/
def resolveSubtotal (body : CreateOrderInput) (product : Option Product) : Except Err Number :=
  match (product.map Product.price).or (numberOr body.productPrice) with
  | none => .error (.badRequest "productPrice is required (no authoritative catalog price available)")
  | some itemSubtotal =>
      if itemSubtotal < 0 then
        .error (.badRequest "productPrice is required (no authoritative catalog price available)")
      else .ok itemSubtotal

def create (m : Market) (body : CreateOrderInput) (viewerUserId : String) (candidates : List String) :
    Except Err Order := do
  let media ← validateGiftMedia body.mediaUrl body.mediaType
  let draft ← body.draft
  let deliverySpeed ← resolveDeliverySpeed body
  checkProvider draft
  let receiver ← checkReceiver m viewerUserId draft.receiverUsername
  checkFastDelivery m body receiver.id
  let product ← checkAvailability m body.productId
  let itemSubtotal ← resolveSubtotal body product
  let fees := computeFees itemSubtotal deliverySpeed
  let orderNumber ← allocateReference m candidates
  pure
    { orderNumber := orderNumber
      userId := viewerUserId
      receiverUsername := draft.receiverUsername
      productName := draft.productName
      storeName := draft.storeName
      productId := trimOrNull body.productId
      storeId := resolveStoreId body product
      occasionId := trimOrNull body.occasionId
      productPrice := fees.itemSubtotal
      serviceFee := fees.serviceFee
      deliveryFee := fees.deliveryFee
      totalAmount := fees.grandTotal
      currency := draft.currency
      country := draft.country
      paymentProvider := draft.paymentProvider
      message := trimOrNull body.message
      mediaUrl := media.1
      mediaType := media.2
      isSurprise := body.isSurprise
      isAnonymous := body.isAnonymous
      status := "pending" }

end Create

/-! ### The ledger of an order -/

/-- A leg of the allocation of an order. -/
structure OrderLeg where
  eventType : FinancialEvent
  reasonCode : String
  amount : Number
  direction : LedgerDirection
  counterpartyType : String
  currency : String
  storeId : Option String

/-- The legs of an order; the order and the payment they are correlated with are left out. -/
def buildOrderLedgerEntries (order : Order) : List OrderLeg :=
  let leg (eventType : FinancialEvent) (reasonCode : String) (amount : Number) (direction : LedgerDirection)
      (counterpartyType : String) : OrderLeg :=
    { eventType := eventType
      reasonCode := reasonCode
      amount := amount
      direction := direction
      counterpartyType := counterpartyType
      currency := order.currency
      storeId := order.storeId }
  [leg .ORDER_PAID "ORDER_PAID" order.totalAmount .credit "sender"] ++
    (if 0 < order.serviceFee then
      [leg .QIFT_SERVICE_FEE_ACCRUED "QIFT_SERVICE_FEE" order.serviceFee .credit "qift"]
    else []) ++
    (if order.storeId.isSome ∧ 0 < order.productPrice then
      [leg .MERCHANT_PAYABLE_ACCRUED "MERCHANT_PAYABLE" order.productPrice .debit "merchant"]
    else []) ++
    if 0 < order.deliveryFee then
      [leg .DELIVERY_FEE_ACCRUED "DELIVERY_FEE" order.deliveryFee .debit "merchant"]
    else []

end Qift.Market
