import Qift.Gifting.Posts

/-!
# Defaults, preparation and delivery

* `runOnce` of `gifts-auto-default.service.ts` uses a saved address of a receiver who has not answered in a day.
* `markPreparing`, `markShipped`, `markDelivered` and the shipment writes of `store.service.ts`.
* `Call` and `program` are the requests on a gift and its posts; `Run` is any interleaving of them.
-/

namespace Qift.Gifting

open Relational Interleaving

/-! ### The sweep -/

def AUTO_DEFAULT_TTL_MS : Int := 24 * 60 * 60 * 1000

/-- The candidates of the sweep: the default first, then by identifier. -/
def sweepOrder (a b : Address) : Prop := (a.isDefault = true ∧ b.isDefault = false) ∨
  (a.isDefault = b.isDefault ∧ a.id ≤ b.id)

instance (a b : Address) : Decidable (sweepOrder a b) := inferInstanceAs (Decidable (_ ∨ _))

def candidates (receiverId : String) (w : Gifting) : List Address :=
  (w.addresses.rows.filter fun a => a.userId = receiverId).insertionSort sweepOrder

structure SweepResult where
  promoted : Nat
  skipped : Nat
  blocked : Nat

inductive SweepOutcome
  | promoted | skipped | blocked

def SweepResult.add (r : SweepResult) : SweepOutcome → SweepResult
  | .promoted => { r with promoted := r.promoted + 1 }
  | .skipped => { r with skipped := r.skipped + 1 }
  | .blocked => { r with blocked := r.blocked + 1 }

section Sweep

variable [Shop.Cities]

/-- The candidate the sweep uses: the first, or the first the store reaches with a product of the same day. -/
def chooseCandidate (store : Option Store) (isFastDelivery : Bool) (first : Address) (rest : List Address) :
    Option String :=
  match isFastDelivery, store with
  | true, some store => ((first :: rest).find? fun a => store.covers a.scope).map Address.id
  | _, _ => some first.id

/-- One overdue gift. -/
def sweepGift (g : Gift) : Service SweepOutcome := do
  let store ← Svc.query .read fun w => referenced w.stores.find g.storeId
  let isFastDelivery ← Svc.query .read fun w => (referenced w.products.find g.productId).any Product.isFast
  let found ← Svc.query .read (candidates g.receiverId)
  match found with
  | [] => pure .skipped
  | first :: rest =>
      match chooseCandidate store isFastDelivery first rest with
      | none => do
          trigger (notifyReceiver g .pending_address .GiftAutoFallbackBlocked "لم نتمكن من تأكيد العنوان تلقائياً")
          trigger (notifySender g .GiftAutoFallbackBlocked "هديتك بانتظار اختيار عنوان مدعوم من المتجر")
          pure .blocked
      | some chosenId => do
          let now ← dateNow
          let count ← updateGiftWhile g.id .pending_address [.pending_address] (.defaultAddressUsed chosenId now)
          if count = 0 then pure .skipped
          else do
            trigger (notifyReceiver g .default_address_used .GiftDefaultAddressUsed
              "تم استخدام عنوانك المحفوظ لإرسال الهدية")
            trigger (notifySender g .GiftDefaultAddressUsed "تم استخدام العنوان الافتراضي للتوصيل")
            pure .promoted

def sweepAll : List Gift → SweepResult → Service SweepResult
  | [], r => pure r
  | g :: rest, r => do
      let outcome ← Svc.tryCatch (sweepGift g) fun _ => pure .skipped
      sweepAll rest (r.add outcome)

def runOnce : Service SweepResult := do
  let now ← dateNow
  let overdue ← Svc.query .read fun w =>
    w.gifts.rows.filter fun g => g.status = .pending_address ∧ g.createdAt < now - AUTO_DEFAULT_TTL_MS
  sweepAll overdue ⟨0, 0, 0⟩

end Sweep

/-! ### The store's desk -/

def assertCanMutate (viewerUserId : String) (giftStoreId : Option String) : Service Unit := do
  let allowList ← Svc.query .read Gifting.storeUserIds
  if viewerUserId ∈ allowList then pure ()
  else
    match giftStoreId.filter fun id => id ≠ "" with
    | none => Svc.fail (.forbidden "هذا الطلب لا يخص أي من متاجرك")
    | some storeId => do
        -- `ownedStoreIds`
        let owned ← Svc.query .read fun w => (w.stores.rows.filter fun s => s.ownerId = viewerUserId).map Store.id
        Svc.ensure (storeId ∈ owned) (.forbidden "هذا الطلب لا يخص أي من متاجرك")

structure StoreMutationResult where
  giftId : String
  status : GiftStatus
  shippedAt : Option Time
  deliveredAt : Option Time
  trackingNumber : Option String
  carrier : Option String

def toSafeStoreMutationResult (g : Gift) : StoreMutationResult where
  giftId := g.id
  status := g.status
  shippedAt := g.shippedAt
  deliveredAt := g.deliveredAt
  trackingNumber := g.trackingNumber
  carrier := g.carrier

def markPreparing (viewerUserId giftId : String) : Service StoreMutationResult := do
  let g ← findGift giftId
  assertCanMutate viewerUserId g.storeId
  if g.status = .preparing then pure (toSafeStoreMutationResult g)
  else do
    assertTransition g.status .preparing
    let updated ← updateGift giftId g.status .preparing fun _ updated => updated
    trigger (notifyReceiver updated updated.status .GiftPreparing "هديتك قيد التجهيز")
    trigger (notifySender updated .GiftPreparing "الهدية قيد التجهيز لدى المتجر")
    pure (toSafeStoreMutationResult updated)

structure ShippingProvider where
  code : String
  nameAr : String

def SHIPPING_PROVIDERS : List ShippingProvider :=
  [⟨"smsa", "SMSA إكسبرس"⟩, ⟨"aramex", "أرامكس"⟩, ⟨"dhl", "DHL"⟩, ⟨"spl", "البريد السعودي (سبل)"⟩,
    ⟨"manual", "تسليم يدوي"⟩, ⟨"other", "مزود آخر"⟩]

def findProvider (code : String) : Option ShippingProvider := SHIPPING_PROVIDERS.find? fun p => p.code = code

/-- What the desk enters when it hands a parcel over. -/
structure ShippingInput where
  trackingNumber : Option String := none
  carrier : Option String := none
  provider : Option String := none

/-- `shipment.upsert` with status `registered` and, for a new row, its first event; an update keeps the status where the
caller does not name it. -/
def upsertShipmentTx (giftId provider : String) (trackingNumber : Option String) (status : Option ShipmentStatus)
    (now : Time) : Transaction Unit := do
  let found ← Tx.read fun w => w.shipments.find giftId
  match found with
  | none => do
      let _ ← shipment.create (.p2002 "Shipment")
        { giftId := giftId
          provider := provider
          trackingNumber := trackingNumber
          status := .registered
          events := [⟨.registered, trackingNumber.map fun t => "Tracking " ++ t, now⟩] }
      pure ()
  | some _ => do
      let _ ← shipment.updateMany (fun s => s.giftId = giftId) fun s =>
        { s with provider := provider, trackingNumber := trackingNumber, status := status.getD s.status }
      pure ()

def markShipped (viewerUserId giftId : String) (opts : ShippingInput) : Service StoreMutationResult := do
  let g ← findGift giftId
  assertCanMutate viewerUserId g.storeId
  if g.status = .shipped then pure (toSafeStoreMutationResult g)
  else do
    assertTransition g.status .shipped
    let trackingNumber := Shop.trimOrNull opts.trackingNumber
    let provider := (Shop.trimOrNull opts.provider).bind findProvider
    let carrier := (Shop.trimOrNull opts.carrier).or (provider.map ShippingProvider.nameAr)
    let now ← dateNow
    let updated ← updateGift giftId g.status (.shipped now trackingNumber carrier) fun _ updated => updated
    match provider with
    | none => pure ()
    | some provider => do
        let now ← dateNow
        Svc.transaction .shipment (upsertShipmentTx giftId provider.code trackingNumber (some .registered) now)
    trigger (notifyReceiver updated updated.status .GiftShipped "تم شحن هديتك 🚚")
    trigger (notifySender updated .GiftShipped "تم شحن الهدية")
    pure (toSafeStoreMutationResult updated)

def markDelivered (viewerUserId giftId : String) : Service StoreMutationResult := do
  let g ← findGift giftId
  assertCanMutate viewerUserId g.storeId
  if g.status = .delivered then pure (toSafeStoreMutationResult g)
  else do
    assertTransition g.status .delivered
    let now ← dateNow
    let updated ← updateGift giftId g.status (.delivered now) fun _ updated => updated
    trigger
      { userId := g.receiverId
        type := .GiftDelivered
        title := "لديك رسالة من مرسل الهدية 💌"
        body := some (withFulfillmentRef (some updated.productName) updated.fulfillmentNumber)
        link := giftLink g.id }
    trigger (notifySender updated .GiftDelivered "تم استلام هديتك بنجاح 🎉")
    pure (toSafeStoreMutationResult updated)

/-- What `getShipmentForOrder` answers: the shipment, or the two columns an older gift carries instead. -/
structure ShipmentForOrder where
  shipment : Option Shipment
  legacyTrackingNumber : Option String
  legacyCarrier : Option String

def getShipmentForOrder (viewerUserId giftId : String) : Service ShipmentForOrder := do
  let g ← findGift giftId
  assertCanMutate viewerUserId g.storeId
  let found ← Svc.query .read (shipmentOf giftId)
  match found with
  | none => pure ⟨none, g.trackingNumber, g.carrier⟩
  | some shipment => pure ⟨some shipment, none, none⟩

/-- The carrier and the number a later change of the shipment leaves on the gift. -/
def setCarrierTx (giftId : String) (carrier trackingNumber : Option String) : Transaction Nat :=
  gift.updateMany (fun g => g.id = giftId) fun g => { g with carrier := carrier, trackingNumber := trackingNumber }

def upsertShipment (viewerUserId giftId provider : String) (trackingNumber : Option String) :
    Service (Option Shipment) := do
  let g ← findGift giftId
  assertCanMutate viewerUserId g.storeId
  match findProvider (trim provider) with
  | none => Svc.fail (.forbidden "مزود الشحن غير معروف")
  | some provider => do
      let trackingNumber := Shop.trimOrNull trackingNumber
      let now ← dateNow
      let written ← Svc.transaction .shipment (do
        upsertShipmentTx giftId provider.code trackingNumber none now
        Tx.read (shipmentOf giftId))
      if some provider.nameAr ≠ g.carrier ∨ trackingNumber ≠ g.trackingNumber then do
        let _ ← Svc.transaction .carrier (setCarrierTx giftId (some provider.nameAr) trackingNumber)
        pure written
      else pure written

/-- `shipmentEvent.create`. -/
def appendEventTx (giftId : String) (event : ShipmentEvent) : Transaction Nat :=
  shipment.updateMany (fun s => s.giftId = giftId) fun s => { s with events := s.events ++ [event] }

/-- `shipment.update`. -/
def setShipmentStatusTx (giftId : String) (status : ShipmentStatus) : Transaction Nat :=
  shipment.updateMany (fun s => s.giftId = giftId) fun s => { s with status := status }

/-- An event that says the parcel has arrived is mirrored on the gift, where the graph allows it. -/
def mirrorDelivered (g : Gift) (status : ShipmentStatus) (occurredAt : Time) : Service Unit :=
  if status = .delivered ∧ g.status ≠ .delivered then
    Svc.tryCatch
      (do
        assertTransition g.status .delivered
        let _ ← updateGift g.id g.status (.delivered occurredAt) fun _ updated => updated
        pure ())
      fun _ => pure ()
  else pure ()

/-- `occurredAt` is the instant the request names, if it names one. -/
def appendShipmentEvent (viewerUserId giftId status : String) (note : Option String) (occurredAt : Option Time) :
    Service ShipmentForOrder := do
  let g ← findGift giftId
  assertCanMutate viewerUserId g.storeId
  let found ← Svc.query .read fun w => w.shipments.find giftId
  match found with
  | none => Svc.fail (.notFound "No shipment for this order")
  | some _ =>
      match shipmentStatus? (trim status) with
      | none => Svc.fail (.forbidden "حالة الشحن غير معروفة")
      | some status => do
          let now ← dateNow
          let occurredAt := occurredAt.getD now
          let _ ← Svc.transaction .shipment (appendEventTx giftId ⟨status, Shop.trimOrNull note, occurredAt⟩)
          let _ ← Svc.transaction .shipment (setShipmentStatusTx giftId status)
          mirrorDelivered g status occurredAt
          getShipmentForOrder viewerUserId giftId

/-! ### Requests -/

/-- Accounts, addresses and catalog, as other services leave them. -/
structure Books where
  storeUserIds : List String
  users : List User
  blocks : List Block
  addresses : Table Address.id
  stores : Table Store.id
  products : Table Product.id
  occasions : List Occasion

/-- Replace the books. -/
def Books.open (b : Books) (w : Gifting) : Gifting :=
  { w with
    storeUserIds := b.storeUserIds
    users := b.users
    blocks := b.blocks
    addresses := b.addresses
    stores := b.stores
    products := b.products
    occasions := b.occasions }

/-- A request, a sweep, the clock, or a change of the books. -/
inductive Call
  | tick (elapsed : Nat)
  | books (b : Books)
  | create (body : Shop.CreateGiftInput) (viewerUserId : String) (idempotencyKey : Option String)
      (candidates : List String) (giftId : String)
  | findOne (giftId viewerUserId : String)
  | findSent (senderId viewerUserId : String)
  | findReceived (receiverId viewerUserId : String)
  | confirmAddress (giftId viewerUserId : String) (addressId : Option String)
  | cancel (giftId viewerUserId : String)
  | runOnce
  | markPreparing (viewerUserId giftId : String)
  | markShipped (viewerUserId giftId : String) (opts : ShippingInput)
  | markDelivered (viewerUserId giftId : String)
  | upsertShipment (viewerUserId giftId provider : String) (trackingNumber : Option String)
  | getShipmentForOrder (viewerUserId giftId : String)
  | appendShipmentEvent (viewerUserId giftId status : String) (note : Option String) (occurredAt : Option Time)
  | publish (viewerUserId : String) (input : PublishInput) (postId : String) (drawn : List String)
  | unpublish (viewerUserId postId : String)
  | setVisibility (viewerUserId postId visibility : String)
  | listMine (viewerUserId : String)
  | listByUser (targetUserId : String) (viewerUserId : Option String)
  | getBySlug (slug viewerUserId : Option String)

inductive Reply
  | done
  | created (r : CreateGiftResult)
  | detail (d : GiftDetail)
  | list (gifts : List GiftView)
  | confirmed (c : ConfirmedGift)
  | view (g : GiftView)
  | swept (r : SweepResult)
  | desk (r : StoreMutationResult)
  | shipment (s : Option Shipment)
  | order (s : ShipmentForOrder)
  | post (p : GiftPost)
  | wall (posts : List GiftPostView)
  | shownPost (p : GiftPostView)

def tickTx (elapsed : Nat) : Transaction Unit := Tx.modify fun w => { w with now := w.now + elapsed }

variable [Shop.Cities] [Runtime]

def program : Call → Service Reply
  | .tick elapsed => do
      Svc.transaction .environment (tickTx elapsed)
      pure .done
  | .books b => do
      Svc.transaction .environment (Tx.modify b.open)
      pure .done
  | .create body viewerUserId idempotencyKey candidates giftId =>
      Reply.created <$> create body viewerUserId idempotencyKey candidates giftId
  | .findOne giftId viewerUserId => Reply.detail <$> findOne giftId viewerUserId
  | .findSent senderId viewerUserId => Reply.list <$> findSent senderId viewerUserId
  | .findReceived receiverId viewerUserId => Reply.list <$> findReceived receiverId viewerUserId
  | .confirmAddress giftId viewerUserId addressId => Reply.confirmed <$> confirmAddress giftId viewerUserId addressId
  | .cancel giftId viewerUserId => Reply.view <$> cancel giftId viewerUserId
  | .runOnce => Reply.swept <$> runOnce
  | .markPreparing viewerUserId giftId => Reply.desk <$> markPreparing viewerUserId giftId
  | .markShipped viewerUserId giftId opts => Reply.desk <$> markShipped viewerUserId giftId opts
  | .markDelivered viewerUserId giftId => Reply.desk <$> markDelivered viewerUserId giftId
  | .upsertShipment viewerUserId giftId provider trackingNumber =>
      Reply.shipment <$> upsertShipment viewerUserId giftId provider trackingNumber
  | .getShipmentForOrder viewerUserId giftId => Reply.order <$> getShipmentForOrder viewerUserId giftId
  | .appendShipmentEvent viewerUserId giftId status note occurredAt =>
      Reply.order <$> appendShipmentEvent viewerUserId giftId status note occurredAt
  | .publish viewerUserId input postId drawn => Reply.post <$> publish viewerUserId input postId drawn
  | .unpublish viewerUserId postId => Reply.post <$> unpublish viewerUserId postId
  | .setVisibility viewerUserId postId visibility => Reply.post <$> setVisibility viewerUserId postId visibility
  | .listMine viewerUserId => Reply.wall <$> listMine viewerUserId
  | .listByUser targetUserId viewerUserId => Reply.wall <$> listByUser targetUserId viewerUserId
  | .getBySlug slug viewerUserId => Reply.shownPost <$> getBySlug slug viewerUserId

/-- Any interleaving of requests, from a database without gifts. -/
abbrev Run (tr : List (Event Gifting Step)) (cfg : Config Gifting Step (Except Err Reply)) : Prop :=
  Exec program empty tr cfg

end Qift.Gifting
