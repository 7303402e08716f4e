import Qift.Gifting.State
import Qift.Market.Delivery

/-!
# What a viewer gets to see of a gift

`gift-visibility.ts` and the reads of `GiftsService` that go through it.

* `GiftWithParties` is a gift row with its sender, its receiver and its address, as `GIFT_INCLUDE` reads it.
* `applyGiftVisibility` composes the masks of anonymity, surprise, message and address.
* `loadCoverageSnapshot` and `loadShipmentSnapshot` are the fields a gift's detail page carries beside the gift.
-/

namespace Qift.Gifting

open Relational Interleaving

/-! ### Included rows -/

/-- `PARTY_SELECT`. -/
structure Party where
  id : String
  qiftUsername : String
  fullName : Option String

structure GiftWithParties where
  gift : Gift
  /-- The columns of the parties; a foreign key guarantees them. -/
  sender : Party
  receiver : Party
  address : Option Address

def User.party (u : User) : Party := ⟨u.id, u.qiftUsername, u.fullName⟩

def partyOf (w : Gifting) (userId : String) : Party :=
  ((w.users.find? fun u => u.id = userId).map User.party).getD ⟨userId, "", none⟩

/-- `GIFT_INCLUDE`. -/
def withParties (w : Gifting) (g : Gift) : GiftWithParties where
  gift := g
  sender := partyOf w g.senderId
  receiver := partyOf w g.receiverId
  address := g.addressId.bind w.addresses.find

/-! ### Masks -/

/-- A gift as a viewer sees it, with the flags the masks add. -/
structure GiftView where
  gift : Gift
  sender : Party
  receiver : Party
  address : Option Address
  productVisible : Bool
  messageVisible : Bool
  addressConfirmed : Bool

def maskAnonymous (g : GiftWithParties) (viewerUserId : String) : GiftWithParties :=
  if g.gift.isAnonymous = false then g
  else if viewerUserId ≠ "" ∧ viewerUserId = g.gift.senderId then g
  else { g with gift := { g.gift with senderId := "" }, sender := ⟨"", "", none⟩ }

/-- The receiver looks at a surprise that has not been delivered. -/
def hidesProduct (g : GiftWithParties) (viewerUserId : String) : Bool :=
  viewerUserId = g.gift.receiverId && g.gift.isSurprise && g.gift.status ≠ .delivered

def applySurpriseReveal (g : GiftWithParties) (viewerUserId : String) : GiftWithParties × Bool :=
  if hidesProduct g viewerUserId then ({ g with gift := { g.gift with productName := "", storeName := "" } }, false)
  else (g, true)

/-- The receiver looks at a gift that has not been delivered. -/
def hidesMessage (g : GiftWithParties) (viewerUserId : String) : Bool :=
  viewerUserId = g.gift.receiverId && g.gift.status ≠ .delivered

def applyMessageReveal (g : GiftWithParties) (viewerUserId : String) : GiftWithParties × Bool :=
  if hidesMessage g viewerUserId then
    ({ g with gift := { g.gift with messageText := none, mediaUrl := none, mediaType := none } }, false)
  else (g, true)

def ADDRESS_LOCKED_STATUSES : List GiftStatus :=
  [.address_confirmed, .default_address_used, .preparing, .shipped, .delivered]

/-- `!!gift.addressId` with a status that locks the address. -/
def addressConfirmed (g : Gift) : Bool :=
  (g.addressId.any fun id => id ≠ "") && g.status ∈ ADDRESS_LOCKED_STATUSES

def applyAddressPrivacy (g : GiftWithParties) (viewerUserId : String) : GiftWithParties × Bool :=
  if viewerUserId = g.gift.receiverId then (g, addressConfirmed g.gift)
  else ({ g with gift := { g.gift with addressId := none }, address := none }, addressConfirmed g.gift)

def applyGiftVisibility (g : GiftWithParties) (viewerUserId : String) : GiftView :=
  let a := maskAnonymous g viewerUserId
  let b := applySurpriseReveal a viewerUserId
  let c := applyMessageReveal b.1 viewerUserId
  let d := applyAddressPrivacy c.1 viewerUserId
  { gift := d.1.gift
    sender := d.1.sender
    receiver := d.1.receiver
    address := d.1.address
    productVisible := b.2
    messageVisible := c.2
    addressConfirmed := d.2 }

/-! ### Snapshots -/

structure CoverageSnapshot where
  storeCity : Option String
  deliveryZones : Option Json
  category : Option String
  isFastDelivery : Option Bool

/-- The product must arrive the same day. -/
def Product.isFast (p : Product) : Bool := p.isFastDelivery || Market.isFastCategory p.category

/-- The row an optional reference names; an empty text names none. -/
def referenced {α : Type} (find : String → Option α) (id : Option String) : Option α :=
  (id.filter fun id => id ≠ "").bind find

def coverageSnapshot (w : Gifting) (storeId productId : Option String) : CoverageSnapshot :=
  let store := referenced w.stores.find storeId
  let product := referenced w.products.find productId
  { storeCity := store.map Store.city
    deliveryZones := store.map Store.deliveryZones
    category := product.map Product.category
    isFastDelivery := product.map Product.isFast }

def loadCoverageSnapshot (storeId productId : Option String) : Service CoverageSnapshot :=
  Svc.query .read fun w => coverageSnapshot w storeId productId

/-- A timeline by time, rows of one moment as they were written. -/
def timeline (events : List ShipmentEvent) : List ShipmentEvent :=
  events.insertionSort fun a b => a.occurredAt ≤ b.occurredAt

/-- The shipment of a gift with its timeline. -/
def shipmentOf (giftId : String) (w : Gifting) : Option Shipment :=
  (w.shipments.find giftId).map fun s => { s with events := timeline s.events }

/-! ### Reads -/

/-- What `findOne` answers. -/
structure GiftDetail where
  gift : GiftView
  coverage : CoverageSnapshot
  shipment : Option Shipment

def findGiftWithParties (giftId : String) : Service GiftWithParties := do
  let found ← Svc.query .read fun w => (w.gifts.find giftId).map (withParties w)
  match found with
  | none => Svc.fail (.notFound "Gift not found")
  | some gift => pure gift

def FORBIDDEN_MSG : String := "غير مصرح لك"

def findOne (giftId viewerUserId : String) : Service GiftDetail := do
  let g ← findGiftWithParties giftId
  Svc.ensure (viewerUserId = g.gift.senderId ∨ viewerUserId = g.gift.receiverId) (.forbidden FORBIDDEN_MSG)
  let coverage ← loadCoverageSnapshot g.gift.storeId g.gift.productId
  let shipment ← Svc.query .read (shipmentOf giftId)
  pure { gift := applyGiftVisibility g viewerUserId, coverage := coverage, shipment := shipment }

def newestFirst (gifts : List Gift) : List Gift := gifts.insertionSort fun a b => b.createdAt ≤ a.createdAt

def findSent (senderId viewerUserId : String) : Service (List GiftView) := do
  Svc.ensure (senderId = viewerUserId) (.forbidden FORBIDDEN_MSG)
  let list ← Svc.query .read fun w =>
    (newestFirst (w.gifts.rows.filter fun g => g.senderId = senderId)).map (withParties w)
  pure (list.map fun g => applyGiftVisibility g senderId)

def findReceived (receiverId viewerUserId : String) : Service (List GiftView) := do
  Svc.ensure (receiverId = viewerUserId) (.forbidden FORBIDDEN_MSG)
  let list ← Svc.query .read fun w =>
    (newestFirst (w.gifts.rows.filter fun g => g.receiverId = receiverId)).map (withParties w)
  pure (list.map fun g => applyGiftVisibility g receiverId)

end Qift.Gifting
