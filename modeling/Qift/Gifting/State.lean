import Qift.Market.Coverage

/-!
# The stored state of gifts under way

The rows behind a gift from its creation to its delivery, with the columns a modelled service uses.

* `GiftStatus` and `ALLOWED_TRANSITIONS` of `gift-status.ts`.
* `Gifting` is the database with the clock, the allow-list of the configuration and the notifications handed out;
  `Gifting.empty` is the database before its first write.
* `Step` labels an atomic action; the writes of a gift's status carry the status their call had read.
-/

namespace Qift.Gifting

open Relational Interleaving

/-! ### Statuses -/

inductive GiftStatus
  | pending_address | address_confirmed | default_address_used | preparing | shipped | delivered | cancelled
  deriving DecidableEq

def GiftStatus.text : GiftStatus → String
  | pending_address => "pending_address"
  | address_confirmed => "address_confirmed"
  | default_address_used => "default_address_used"
  | preparing => "preparing"
  | shipped => "shipped"
  | delivered => "delivered"
  | cancelled => "cancelled"

open GiftStatus in
def ALLOWED_TRANSITIONS : GiftStatus → List GiftStatus
  | pending_address => [address_confirmed, default_address_used, cancelled]
  | address_confirmed => [preparing, cancelled]
  | default_address_used => [preparing, cancelled]
  | preparing => [shipped]
  | shipped => [delivered]
  | delivered => []
  | cancelled => []

/-- The refusal of `assertTransition`. -/
def transitionRefused (source target : GiftStatus) : Err :=
  .badRequest ("لا يمكن نقل الحالة من \"" ++ source.text ++ "\" إلى \"" ++ target.text ++ "\"")

inductive ShipmentStatus
  | registered | in_transit | out_for_delivery | delivered | exception | cancelled
  deriving DecidableEq

/-- `isShipmentStatus`. -/
def shipmentStatus? : String → Option ShipmentStatus
  | "registered" => some .registered
  | "in_transit" => some .in_transit
  | "out_for_delivery" => some .out_for_delivery
  | "delivered" => some .delivered
  | "exception" => some .exception
  | "cancelled" => some .cancelled
  | _ => none

inductive NotificationType
  | GiftReceived | GiftConfirmAddress | GiftAddressConfirmed | GiftDefaultAddressUsed | GiftAutoFallbackBlocked
  | GiftPreparing | GiftShipped | GiftDelivered | GiftCancelled | GiftAttemptedNoAddress
  deriving DecidableEq

/-! ### Rows -/

structure User where
  id : String
  qiftUsername : String
  fullName : Option String
  deletedAt : Option Time

structure Block where
  blockerId : String
  blockedId : String

structure Address where
  id : String
  userId : String
  label : Option String
  country : String
  region : Option String
  city : String
  governorate : Option String
  district : String
  street : Option String
  buildingNumber : Option String
  unitNumber : Option String
  postalCode : Option String
  additionalNumber : Option String
  shortAddress : Option String
  deliveryPhone : Option String
  details : Option String
  isDefault : Bool

structure Store where
  id : String
  ownerId : String
  status : String
  city : String
  /-- The `deliveryZones` column. -/
  deliveryZones : Json

structure ProductImage where
  url : String
  displayOrder : Int

structure Product where
  id : String
  storeId : String
  category : String
  imageUrl : Option String
  images : List ProductImage
  isFastDelivery : Bool
  isAvailable : Bool
  stockStatus : String

structure Occasion where
  id : String
  userId : String
  deactivatedAt : Option Time

structure Gift where
  id : String
  fulfillmentNumber : String
  senderId : String
  receiverId : String
  productName : String
  storeName : String
  storeId : Option String
  productId : Option String
  occasionId : Option String
  messageText : Option String
  mediaUrl : Option String
  mediaType : Option String
  status : GiftStatus
  isAnonymous : Bool
  isSurprise : Bool
  addressId : Option String
  confirmedAt : Option Time
  shippedAt : Option Time
  deliveredAt : Option Time
  trackingNumber : Option String
  carrier : Option String
  createdAt : Time
  idempotencyKey : Option String
  idempotencyRequestHash : Option String

structure ShipmentEvent where
  status : ShipmentStatus
  note : Option String
  occurredAt : Time
  deriving DecidableEq

/-- A shipment with its timeline, oldest row first. -/
structure Shipment where
  giftId : String
  provider : String
  trackingNumber : Option String
  status : ShipmentStatus
  events : List ShipmentEvent

/-- The side of the gift its post was published from. -/
inductive PostDirection
  | sent | received
  deriving DecidableEq

structure GiftPost where
  id : String
  giftId : String
  ownerUserId : String
  direction : PostDirection
  publishedAt : Option Time
  visibility : String
  revealSender : Bool
  revealRecipient : Bool
  publicSlug : Option String
  appreciationCount : Int
  deactivatedAt : Option Time
  deactivatedReason : Option String
  createdAt : Time

/-- What a producer hands to `notifications.trigger`. -/
structure Notification where
  userId : String
  type : NotificationType
  title : String
  body : Option String
  link : String

end Qift.Gifting

namespace Qift

open Relational

/-- Gifts under way: the tables, the clock and the configuration. -/
structure Gifting where
  now : Time
  /-- `STORE_USER_IDS`. -/
  storeUserIds : List String
  users : List Gifting.User
  blocks : List Gifting.Block
  addresses : Table Gifting.Address.id
  stores : Table Gifting.Store.id
  products : Table Gifting.Product.id
  occasions : List Gifting.Occasion
  gifts : Table Gifting.Gift.id
  shipments : Table Gifting.Shipment.giftId
  posts : Table Gifting.GiftPost.id
  notifications : List Gifting.Notification

end Qift

namespace Qift.Gifting

open Relational Interleaving

def empty : Gifting where
  now := 0
  storeUserIds := []
  users := []
  blocks := []
  addresses := Table.empty
  stores := Table.empty
  products := Table.empty
  occasions := []
  gifts := Table.empty
  shipments := Table.empty
  posts := Table.empty
  notifications := []

/-! ### Client delegates -/

/-- Gifts are unique by reference, and by sender and key where there is a key. -/
abbrev gift : Delegate Gifting Gift.id where
  table := Gifting.gifts
  store t w := { w with gifts := t }
  conflict a b := decide (a.fulfillmentNumber = b.fulfillmentNumber ∨
    (a.senderId = b.senderId ∧ a.idempotencyKey = b.idempotencyKey ∧ a.idempotencyKey ≠ none))

abbrev shipment : Delegate Gifting Shipment.giftId where
  table := Gifting.shipments
  store t w := { w with shipments := t }
  conflict _ _ := false

/-- Posts are unique by slug, and by gift and owner. -/
abbrev giftPost : Delegate Gifting GiftPost.id where
  table := Gifting.posts
  store t w := { w with posts := t }
  conflict a b := decide ((a.publicSlug = b.publicSlug ∧ a.publicSlug ≠ none) ∨
    (a.giftId = b.giftId ∧ a.ownerUserId = b.ownerUserId))

/-! ### Actions -/

/-- The columns a status write sets. -/
inductive Update
  | addressConfirmed (addressId : String) (confirmedAt : Time)
  | defaultAddressUsed (addressId : String) (confirmedAt : Time)
  | preparing
  | shipped (shippedAt : Time) (trackingNumber carrier : Option String)
  | delivered (deliveredAt : Time)
  | cancelled
  deriving DecidableEq

def Update.target : Update → GiftStatus
  | addressConfirmed _ _ => .address_confirmed
  | defaultAddressUsed _ _ => .default_address_used
  | preparing => .preparing
  | shipped _ _ _ => .shipped
  | delivered _ => .delivered
  | cancelled => .cancelled

def Update.write (u : Update) (g : Gift) : Gift :=
  match u with
  | addressConfirmed addressId confirmedAt =>
      { g with status := .address_confirmed, addressId := some addressId, confirmedAt := some confirmedAt }
  | defaultAddressUsed addressId confirmedAt =>
      { g with status := .default_address_used, addressId := some addressId, confirmedAt := some confirmedAt }
  | preparing => { g with status := .preparing }
  | shipped shippedAt trackingNumber carrier =>
      { g with
        status := .shipped
        shippedAt := some shippedAt
        trackingNumber := trackingNumber
        carrier := carrier }
  | delivered deliveredAt => { g with status := .delivered, deliveredAt := some deliveredAt }
  | cancelled => { g with status := .cancelled }

@[simp] theorem Update.write_id (u : Update) (g : Gift) : (u.write g).id = g.id := by
  cases u <;> rfl

@[simp] theorem Update.write_status (u : Update) (g : Gift) : (u.write g).status = u.target := by
  cases u <;> rfl

/-- How a status write picks its row: by identifier alone, or with a filter on the stored status. -/
inductive Pick
  | byId
  | whileIn (statuses : List GiftStatus)
  deriving DecidableEq

/-- The stored statuses a pick lets through. -/
def Pick.takes (pick : Pick) (stored : GiftStatus) : Bool :=
  match pick with
  | byId => true
  | whileIn statuses => stored ∈ statuses

/-- An atomic action. -/
inductive Step
  /-- A query or a clock read. -/
  | read
  /-- The clock, the configuration, the accounts, the addresses and the catalog. -/
  | environment
  | createGift
  /-- A call that has read a gift at `found` sets its status. -/
  | setStatus (giftId : String) (found : GiftStatus) (pick : Pick) (update : Update)
  /-- Any other column of a gift. -/
  | carrier
  | shipment
  | post
  | notify
  deriving DecidableEq

/-- A service call. -/
abbrev Service := Svc Gifting Step Err

/-- The body of a database transaction. -/
abbrev Transaction := Tx Gifting Err

/-- `Date.now()`. -/
def dateNow : Service Time := Svc.query .read Gifting.now

def findGift (giftId : String) : Service Gift := do
  let found ← Svc.query .read fun w => w.gifts.find giftId
  match found with
  | none => Svc.fail (.notFound "Gift not found")
  | some gift => pure gift

def assertTransition (source target : GiftStatus) : Service Unit :=
  Svc.ensure (target ∈ ALLOWED_TRANSITIONS source) (transitionRefused source target)


/-- The status write of one gift; the number of rows written. -/
def setStatusTx (giftId : String) (pick : Pick) (u : Update) : Transaction Nat :=
  gift.updateMany (fun g => g.id = giftId && pick.takes g.status) u.write u.write_id

/-- `gift.update` with a status, by a call that has read the gift at `found`; `included` is what it reads back. -/
def updateGift {α : Type} (giftId : String) (found : GiftStatus) (u : Update) (included : Gifting → Gift → α) :
    Service α := do
  let written ← Svc.transaction (.setStatus giftId found .byId u) (do
    let _ ← setStatusTx giftId .byId u
    Tx.read fun w => (w.gifts.find giftId).map (included w))
  match written with
  | none => Svc.fail (.error "record to update not found")
  | some updated => pure updated

/-- `gift.updateMany` with a status and a filter on it; the number of rows written. -/
def updateGiftWhile (giftId : String) (found : GiftStatus) (statuses : List GiftStatus) (u : Update) : Service Nat :=
  Svc.transaction (.setStatus giftId found (.whileIn statuses) u) (setStatusTx giftId (.whileIn statuses) u)

/-- `notifications.trigger`, which never fails its caller. -/
def trigger (n : Notification) : Service Unit :=
  Svc.transaction .notify (Tx.modify fun w => { w with notifications := w.notifications ++ [n] })

end Qift.Gifting
