import Qift.Gifting.Visibility

/-!
# The service of gifts

`GiftsService.create`, `confirmAddress` and `cancel` of `gifts.service.ts`, and what they tell the parties.
-/

namespace Qift.Gifting

open Relational Interleaving

/-! ### Notifications -/

def bodyForReceiverGiftUpdate (isSurprise : Bool) (status : GiftStatus) (candidateBody : String) : Option String :=
  if isSurprise ∧ status ≠ .delivered then none else some candidateBody

def withFulfillmentRef (body : Option String) (ref : String) : String :=
  match body.filter fun b => b ≠ "" with
  | some body => body ++ " · " ++ ref
  | none => ref

def giftLink (giftId : String) : String := "/gifts/" ++ giftId

/-- A message about a gift to its sender, who has chosen the product. -/
def notifySender (g : Gift) (type : NotificationType) (title : String) : Notification where
  userId := g.senderId
  type := type
  title := title
  body := some (withFulfillmentRef (some g.productName) g.fulfillmentNumber)
  link := giftLink g.id

/-- A message about a gift to its receiver, whose body respects the surprise. -/
def notifyReceiver (g : Gift) (status : GiftStatus) (type : NotificationType) (title : String) : Notification where
  userId := g.receiverId
  type := type
  title := title
  body := some (withFulfillmentRef (bodyForReceiverGiftUpdate g.isSurprise status g.productName) g.fulfillmentNumber)
  link := giftLink g.id

/-! ### create -/

/-- The request with its texts trimmed and its media checked. -/
structure GiftDraft where
  senderId : String
  receiverUsername : String
  productName : String
  storeName : String
  messageText : Option String
  mediaUrl : Option String
  mediaType : Option String
  /-- The key of the request and the digest stored with it. -/
  identity : Option (String × String)

structure CreateGiftResult where
  gift : GiftView
  replayed : Bool

/-- The default address of an account. -/
def defaultAddress (userId : String) (w : Gifting) : Option Address :=
  if userId = "" then none else w.addresses.rows.find? fun a => a.userId = userId ∧ a.isDefault

/-- The recipient of a gift: another account, not blocked, with a default address. -/
def checkRecipient (draft : GiftDraft) : Service String := do
  let sender ← Svc.query .read fun w => w.users.find? fun u => u.id = draft.senderId
  match sender with
  | none => Svc.fail (.notFound "Sender not found")
  | some sender => do
      Svc.ensure (Portal.toLowerCase sender.qiftUsername ≠ draft.receiverUsername)
        (.badRequest "لا يمكنك إرسال هدية لنفسك")
      let receiver ← Svc.query .read fun w => w.users.find? fun u =>
        u.qiftUsername = draft.receiverUsername ∧ u.deletedAt = none
      match receiver with
      | none => Svc.fail (.notFound "Receiver not found")
      | some receiver => do
          -- `isBlockedEitherWay`
          let blocked ← Svc.query .read fun w => decide (draft.senderId ≠ receiver.id) && w.blocks.any fun b =>
            (b.blockerId = draft.senderId ∧ b.blockedId = receiver.id) ∨
              (b.blockerId = receiver.id ∧ b.blockedId = draft.senderId)
          Svc.ensure (blocked = false) (.forbidden "Recipient unavailable")
          let hasDefault ← Svc.query .read fun w => (defaultAddress receiver.id w).isSome
          if hasDefault then pure receiver.id
          else do
            trigger
              { userId := receiver.id
                type := .GiftAttemptedNoAddress
                title := "حاول شخص إرسال هدية لك، لكن لا يمكنك استلامها قبل تحديد عنوان افتراضي"
                body := none
                link := "/profile" }
            Svc.fail (.error "recipient_no_default_address")

section Cities

variable [Shop.Cities]

def canDeliverFastInline (receiverId storeCity : String) (w : Gifting) : Bool :=
  let target := Shop.Cities.normaliseCity storeCity
  target ≠ "" &&
    (w.addresses.rows.filter fun a => a.userId = receiverId).any fun a => Shop.Cities.normaliseCity a.city = target

/-- The gate of products that must arrive the same day. -/
def checkFastDelivery (body : Shop.CreateGiftInput) (receiverId : String) : Service Unit :=
  if body.isFastDelivery then
    match Shop.trimOrNull body.storeCity with
    | none => Svc.fail (.badRequest "storeCity is required for fast-delivery products")
    | some storeCity => do
        let ok ← Svc.query .read (canDeliverFastInline receiverId storeCity)
        Svc.ensure (ok = true) (.badRequest Shop.FAST_DELIVERY_REFUSED)
  else pure ()

end Cities

/-- The store of the product, if the request names one; it must be in stock. -/
def checkProduct (productId : Option String) : Service (Option String) :=
  match productId.filter fun id => id ≠ "" with
  | none => pure none
  | some productId => do
      let product ← Svc.query .read fun w => w.products.find productId
      match product with
      | none => Svc.fail (.badRequest "المنتج غير موجود")
      | some product => do
          Svc.ensure (product.isAvailable = true ∧ product.stockStatus = "in_stock")
            (.badRequest "المنتج غير متوفر حاليًا")
          pure (some product.storeId)

/-- The occasion a gift is tagged with; one of somebody else, or none at all, is dropped. -/
def resolveOccasion (occasionId : Option String) (senderId receiverId : String) : Service (Option String) :=
  match Shop.trimOrNull occasionId with
  | none => pure none
  | some requested => do
      let occasion ← Svc.query .read fun w => w.occasions.find? fun o => o.id = requested ∧ o.deactivatedAt = none
      pure ((occasion.filter fun o => o.userId = senderId ∨ o.userId = receiverId).map Occasion.id)

/-- `allocateReference`: the first of the drawn candidates that no gift carries. -/
def allocateReference : List String → Nat → Service String
  | candidate :: rest, attempts + 1 => do
      let taken ← Svc.query .read fun w => w.gifts.rows.any fun g => g.fulfillmentNumber = candidate
      if taken then allocateReference rest attempts else pure candidate
  | _, _ => Svc.fail (.error "reference_allocation_exhausted")

/-- The row of a new gift. -/
def GiftDraft.row (draft : GiftDraft) (body : Shop.CreateGiftInput) (receiverId : String)
    (storeId occasionId : Option String) (fulfillmentNumber giftId : String) (createdAt : Time) : Gift where
  id := giftId
  fulfillmentNumber := fulfillmentNumber
  senderId := draft.senderId
  receiverId := receiverId
  productName := draft.productName
  storeName := draft.storeName
  storeId := storeId
  productId := Shop.trimOrNull body.productId
  occasionId := occasionId
  messageText := draft.messageText
  mediaUrl := draft.mediaUrl
  mediaType := draft.mediaType
  status := .pending_address
  isAnonymous := body.isAnonymous
  isSurprise := body.isSurprise
  addressId := none
  confirmedAt := none
  shippedAt := none
  deliveredAt := none
  trackingNumber := none
  carrier := none
  createdAt := createdAt
  idempotencyKey := draft.identity.map Prod.fst
  idempotencyRequestHash := draft.identity.map Prod.snd

/-- `gift.create`, stamped by the database; the store must exist. -/
def createGiftTx (row : Time → Gift) : Transaction GiftWithParties := do
  let now ← Tx.read Gifting.now
  let known ← Tx.read fun w => (row now).storeId.all fun id => (w.stores.find id).isSome
  Tx.ensure (known = true) (.error "P2003")
  let created ← gift.create (.p2002 "Gift") (row now)
  Tx.read fun w => withParties w created

def giftByKey (senderId key : String) (w : Gifting) : Option GiftWithParties :=
  (w.gifts.rows.find? fun g => g.senderId = senderId ∧ g.idempotencyKey = some key).map (withParties w)

/-- Answer a request from the gift made with its key. -/
def replayGift (senderId requestHash : String) (existing : GiftWithParties) : Service CreateGiftResult := do
  Svc.ensure (existing.gift.idempotencyRequestHash = some requestHash) (.conflict "idempotency_key_reused")
  pure { gift := applyGiftVisibility existing senderId, replayed := true }

/-- A new gift is answered as it was stored, without a mask. -/
def GiftWithParties.unmasked (g : GiftWithParties) : GiftView where
  gift := g.gift
  sender := g.sender
  receiver := g.receiver
  address := g.address
  productVisible := true
  messageVisible := true
  addressConfirmed := false

/-- The two messages a new gift sends to its receiver. -/
def announceGift (g : Gift) : Service Unit := do
  trigger
    { userId := g.receiverId
      type := .GiftReceived
      title := if g.isSurprise then "وصلتك هدية مفاجأة 🎁" else "وصلتك هدية جديدة 🎁"
      body := some (withFulfillmentRef
        (if g.isSurprise then none else some (g.productName ++ " — " ++ g.storeName)) g.fulfillmentNumber)
      link := giftLink g.id }
  trigger
    { userId := g.receiverId
      type := .GiftConfirmAddress
      title := "يرجى تأكيد عنوان استلام الهدية"
      body := some (withFulfillmentRef none g.fulfillmentNumber)
      link := giftLink g.id }

/-- Write the gift; a request that lost the race for its key is answered from the winner. -/
def insertGift (identity : Option (String × String)) (senderId : String) (row : Time → Gift) :
    Service CreateGiftResult := do
  let written ← Svc.tryCatch
    (do
      let created ← Svc.transaction .createGift (createGiftTx row)
      pure { gift := created.unmasked, replayed := false })
    fun e =>
      match e, identity with
      | .p2002 _, some (key, requestHash) => do
          let winner ← Svc.query .read (giftByKey senderId key)
          match winner with
          | none => Svc.fail e
          | some winner => replayGift senderId requestHash winner
      | _, _ => Svc.fail e
  if written.replayed then pure written
  else do
    announceGift written.gift.gift
    pure written

section Create

variable [Shop.Cities]

/-- A request that no earlier gift answers; `giftId` is the identifier drawn for the row. -/
def createNew (body : Shop.CreateGiftInput) (draft : GiftDraft) (candidates : List String) (giftId : String) :
    Service CreateGiftResult := do
  let receiverId ← checkRecipient draft
  checkFastDelivery body receiverId
  let productStoreId ← checkProduct body.productId
  let occasionId ← resolveOccasion body.occasionId draft.senderId receiverId
  let fulfillmentNumber ← allocateReference candidates MAX_ALLOCATION_ATTEMPTS
  insertGift draft.identity draft.senderId
    (draft.row body receiverId ((Shop.trimOrNull body.storeId).or productStoreId) occasionId fulfillmentNumber giftId)

variable [Runtime]

def create (body : Shop.CreateGiftInput) (viewerUserId : String) (idempotencyKey : Option String)
    (candidates : List String) (giftId : String) : Service CreateGiftResult := do
  let media ← Svc.ofExcept (Shop.validateGiftMedia body.mediaUrl body.mediaType)
  match Shop.trimOrNull body.receiverUsername, Shop.trimOrNull body.productName, Shop.trimOrNull body.storeName with
  | some receiverUsername, some productName, some storeName => do
      let draft (identity : Option (String × String)) : GiftDraft :=
        { senderId := viewerUserId
          receiverUsername := Portal.toLowerCase receiverUsername
          productName := productName
          storeName := storeName
          messageText := body.text
          mediaUrl := media.1
          mediaType := media.2
          identity := identity }
      match Shop.trimOrNull idempotencyKey with
      | none => createNew body (draft none) candidates giftId
      | some key => do
          Svc.ensure ((codeUnits key).length ≤ Shop.MAX_IDEMPOTENCY_KEY_LENGTH) (.badRequest "invalid_idempotency_key")
          let requestHash := Shop.computeGiftRequestHash body
          let existing ← Svc.query .read (giftByKey viewerUserId key)
          match existing with
          | some existing => replayGift viewerUserId requestHash existing
          | none => createNew body (draft (some (key, requestHash))) candidates giftId
  | _, _, _ => Svc.fail (.badRequest "receiverUsername, productName and storeName are required")

end Create

/-! ### confirmAddress -/

def Address.scope (a : Address) : Market.AddressScope where
  country := some a.country
  region := a.region
  city := some a.city
  district := some a.district

/-- The address a confirmation chooses, with the fields the coverage gate reads. -/
def chooseAddress (viewerUserId : String) (addressId : Option String) : Service (String × Market.AddressScope) :=
  match addressId.filter fun id => id ≠ "" with
  | some addressId => do
      let owned ← Svc.query .read fun w => w.addresses.rows.find? fun a => a.id = addressId ∧ a.userId = viewerUserId
      match owned with
      | none => Svc.fail (.badRequest "العنوان غير موجود أو لا يخصك")
      | some owned => pure (owned.id, owned.scope)
  | none => do
      let default ← Svc.query .read (defaultAddress viewerUserId)
      match default with
      | none => Svc.fail (.badRequest "لا يوجد عنوان افتراضي لتأكيده")
      | some default => do
          let full ← Svc.query .read fun w => w.addresses.find default.id
          pure (default.id, (full.map Address.scope).getD ⟨none, none, none, none⟩)

section Coverage

variable [Shop.Cities]

def Store.covers (store : Store) (scope : Market.AddressScope) : Bool :=
  Market.matchAddressToStoreZones scope store.city store.deliveryZones true = .ok

/-- The coverage gate of products that must arrive the same day. -/
def coverageGate (g : Gift) (scope : Market.AddressScope) : Service Unit := do
  let store ← Svc.query .read fun w => referenced w.stores.find g.storeId
  match store with
  | none => pure ()
  | some store => do
      let isFastDelivery ← Svc.query .read fun w => (referenced w.products.find g.productId).any Product.isFast
      Svc.ensure (isFastDelivery = false ∨ store.covers scope = true)
        (.badRequest ("address_unsupported_for_store " ++ store.city))

/-- What `confirmAddress` answers. -/
structure ConfirmedGift where
  gift : GiftView
  coverage : CoverageSnapshot

def confirmAddress (giftId viewerUserId : String) (addressId : Option String) : Service ConfirmedGift := do
  let g ← findGift giftId
  Svc.ensure (g.receiverId = viewerUserId) (.forbidden FORBIDDEN_MSG)
  if g.status ≠ .pending_address then do
    -- the gift has moved on: the answer is the gift as it is now
    let fresh ← findGiftWithParties giftId
    let coverage ← loadCoverageSnapshot fresh.gift.storeId fresh.gift.productId
    pure { gift := applyGiftVisibility fresh viewerUserId, coverage := coverage }
  else do
    assertTransition g.status .address_confirmed
    let chosen ← chooseAddress viewerUserId addressId
    coverageGate g chosen.2
    let now ← dateNow
    let updated ← updateGift giftId g.status (.addressConfirmed chosen.1 (g.confirmedAt.getD now)) withParties
    trigger
      { userId := g.senderId
        type := .GiftAddressConfirmed
        title := "تم تأكيد العنوان وجاري التجهيز"
        body := some (withFulfillmentRef (some updated.gift.productName) updated.gift.fulfillmentNumber)
        link := giftLink g.id }
    let coverage ← loadCoverageSnapshot updated.gift.storeId updated.gift.productId
    pure { gift := applyGiftVisibility updated viewerUserId, coverage := coverage }

end Coverage

/-! ### cancel -/

/-- The statuses a sender may still cancel at. -/
def cancellable : List GiftStatus := [.pending_address, .address_confirmed, .default_address_used]

/-- The posts of a cancelled gift are taken down; `cancel` goes on where that fails. -/
def deactivatePosts (giftId : String) : Service Unit := do
  let now ← dateNow
  let _ ← Svc.transaction .post (giftPost.updateMany (fun p => p.giftId = giftId ∧ p.deactivatedAt = none)
    fun p => { p with deactivatedAt := some now, deactivatedReason := some "gift_cancelled" })
  pure ()

def cancel (giftId viewerUserId : String) : Service GiftView := do
  let g ← findGiftWithParties giftId
  Svc.ensure (g.gift.senderId = viewerUserId) (.forbidden FORBIDDEN_MSG)
  if g.gift.status = .cancelled then pure (applyGiftVisibility g viewerUserId)
  else do
    Svc.ensure (g.gift.status ∈ cancellable) (.badRequest "لا يمكن إلغاء الهدية في هذه المرحلة")
    let count ← updateGiftWhile giftId g.gift.status cancellable .cancelled
    if count = 0 then do
      let fresh ← findGiftWithParties giftId
      pure (applyGiftVisibility fresh viewerUserId)
    else do
      deactivatePosts giftId
      trigger (notifyReceiver g.gift .cancelled .GiftCancelled "تم إلغاء الهدية")
      let updated ← findGiftWithParties giftId
      pure (applyGiftVisibility updated viewerUserId)

end Qift.Gifting
