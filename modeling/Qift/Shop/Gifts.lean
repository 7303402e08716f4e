import Qift.Settlement.CreditNote
import Qift.Portal.Otp
import Qift.Shop.State

/-!
# Gifts

`GiftsService.create` of `gifts.service.ts`.

* `computeGiftRequestHash` is the digest of the fields of a request that make it the same request.
* `create` answers a request with an idempotency key from the gift the sender has already made with it; otherwise
  `createNew` checks recipient and catalog and `insertGift` writes the gift. A request that loses the race for the key
  is answered from the gift of the winner.
-/

namespace Qift.Shop

open Relational Interleaving

/-- `normaliseCity` and `String.prototype.toUpperCase`, which rest on the Unicode tables of the platform. -/
class Cities where
  normaliseCity : String → String
  toUpperCase : String → String

structure CreateGiftResult where
  gift : Gift
  replayed : Bool
  deriving DecidableEq

def MAX_IDEMPOTENCY_KEY_LENGTH : Nat := 255

/-- `s?.trim() || null`. -/
def trimOrNull (s : Option String) : Option String := (s.map trim).filter fun t => t ≠ ""

/-- The message under its name or its older alias. -/
def CreateGiftInput.text (body : CreateGiftInput) : Option String :=
  (trimOrNull body.messageText).or (trimOrNull body.message)

/-- The canonicalised request. -/
def CreateGiftInput.canonical (body : CreateGiftInput) : Json :=
  .obj
    [("receiverUsername", Settlement.textOrNull ((body.receiverUsername.map trim).map Portal.toLowerCase)),
      ("productName", Settlement.textOrNull (body.productName.map trim)),
      ("storeName", Settlement.textOrNull (body.storeName.map trim)),
      ("productId", Settlement.textOrNull (trimOrNull body.productId)),
      ("storeId", Settlement.textOrNull (trimOrNull body.storeId)),
      ("messageText", Settlement.textOrNull body.text),
      ("isAnonymous", .bool body.isAnonymous),
      ("isSurprise", .bool body.isSurprise),
      ("isFastDelivery", .bool body.isFastDelivery),
      ("storeCity", Settlement.textOrNull (trimOrNull body.storeCity)),
      ("occasionId", Settlement.textOrNull (trimOrNull body.occasionId)),
      ("mediaUrl", Settlement.textOrNull (trimOrNull body.mediaUrl)),
      ("mediaType", Settlement.textOrNull body.mediaType)]

def computeGiftRequestHash [Runtime] (body : CreateGiftInput) : String :=
  hashCanonical (canonicalJson body.canonical)

def validateGiftMedia (mediaUrl mediaType : Option String) : Except Err (Option String × Option String) :=
  match trimOrNull mediaUrl with
  | none => .ok (none, none)
  | some url =>
      match mediaType.filter fun t => t = "image" ∨ t = "video" with
      | none => .error (.badRequest "mediaType must be \"image\" or \"video\" when mediaUrl is set")
      | some type => .ok (some url, some type)

/-- The request with its texts trimmed and its media checked. -/
structure GiftDraft where
  senderId : Nat
  receiverUsername : String
  productName : String
  storeName : String
  messageText : Option String
  mediaUrl : Option String
  mediaType : Option String
  /-- The key of the request and the digest stored with it. -/
  identity : Option (String × String)

/-! ### Checks -/

section Checks

variable [Cities]

def FAST_DELIVERY_REFUSED : String := "لا يمكن التوصيل لهذا المستخدم"

def canDeliverFastInline (receiverId : Nat) (storeCity : String) (w : Shop) : Bool :=
  let target := Cities.normaliseCity storeCity
  target ≠ "" && w.addresses.any fun a => a.userId = receiverId && Cities.normaliseCity a.city = target

/-- The recipient of a gift: another account, not blocked, with a default address. -/
def checkRecipient (desk : Desk) (draft : GiftDraft) : Service Nat := do
  let sender ← Svc.query ⟨desk, .read⟩ fun w => w.users.find? fun u => u.id = draft.senderId
  match sender with
  | none => Svc.fail (.notFound "Sender not found")
  | some sender => do
      Svc.ensure (Portal.toLowerCase sender.qiftUsername ≠ draft.receiverUsername)
        (.badRequest "لا يمكنك إرسال هدية لنفسك")
      let receiver ← Svc.query ⟨desk, .read⟩ fun w => w.users.find? fun u =>
        u.qiftUsername = draft.receiverUsername ∧ u.deletedAt = none
      match receiver with
      | none => Svc.fail (.notFound "Receiver not found")
      | some receiver => do
          -- `isBlockedEitherWay`
          let blocked ← Svc.query ⟨desk, .read⟩ fun w => decide (draft.senderId ≠ receiver.id) && w.blocks.any fun b =>
            (b.blockerId = draft.senderId ∧ b.blockedId = receiver.id) ∨
              (b.blockerId = receiver.id ∧ b.blockedId = draft.senderId)
          Svc.ensure (blocked = false) (.forbidden "Recipient unavailable")
          let hasDefault ← Svc.query ⟨desk, .read⟩ fun w => w.addresses.any fun a =>
            a.userId = receiver.id ∧ a.isDefault
          if hasDefault then pure receiver.id
          else do
            bestEffort ⟨desk, .giftAttempt⟩ do
              let id ← freshId
              giftAttempt.create (.p2002 "GiftAttempt")
                { id := id
                  senderId := draft.senderId
                  receiverId := receiver.id
                  receiverUsername := draft.receiverUsername
                  productName := draft.productName
                  storeName := draft.storeName }
            Svc.fail (.error "recipient_no_default_address")

/-- The gate of products that must arrive the same day. -/
def checkFastDelivery (desk : Desk) (body : CreateGiftInput) (receiverId : Nat) : Service Unit :=
  if body.isFastDelivery then
    match trimOrNull body.storeCity with
    | none => Svc.fail (.badRequest "storeCity is required for fast-delivery products")
    | some storeCity => do
        let ok ← Svc.query ⟨desk, .read⟩ (canDeliverFastInline receiverId storeCity)
        Svc.ensure (ok = true) (.badRequest FAST_DELIVERY_REFUSED)
  else pure ()

end Checks

/-- The store of the product, if the request names one; it must be in stock. -/
def checkProduct (desk : Desk) (productId : Option String) : Service (Option Nat) :=
  match productId.filter fun id => id ≠ "" with
  | none => pure none
  | some productId => do
      let product ← Svc.query ⟨desk, .read⟩ fun w => w.products.rows.find? fun p => Settlement.idText p.id = productId
      match product with
      | none => Svc.fail (.badRequest "المنتج غير موجود")
      | some product => do
          Svc.ensure (product.isAvailable = true ∧ product.stockStatus = "in_stock")
            (.badRequest "المنتج غير متوفر حاليًا")
          pure (some product.storeId)

/-- The occasion a gift is tagged with; one of somebody else, or none at all, is dropped. -/
def resolveOccasion (desk : Desk) (occasionId : Option String) (senderId receiverId : Nat) : Service (Option Nat) :=
  match trimOrNull occasionId with
  | none => pure none
  | some requested => do
      let occasion ← Svc.query ⟨desk, .read⟩ fun w => w.occasions.find? fun o =>
        Settlement.idText o.id = requested ∧ o.deactivatedAt = none
      pure ((occasion.filter fun o => o.userId = senderId ∨ o.userId = receiverId).map Occasion.id)

/-- `allocateReference`: the first of the drawn candidates that no gift carries. -/
def allocateReference (desk : Desk) : List String → Nat → Service String
  | candidate :: rest, attempts + 1 => do
      let taken ← Svc.query ⟨desk, .read⟩ fun w => w.gifts.rows.any fun g => g.fulfillmentNumber = candidate
      if taken then allocateReference desk rest attempts else pure candidate
  | _, _ => Svc.fail (.error "reference_allocation_exhausted")

/-! ### Writing a gift -/

/-- The row of a new gift. -/
def GiftDraft.row (draft : GiftDraft) (body : CreateGiftInput) (receiverId : Nat) (storeId : Option String)
    (occasionId : Option Nat) (fulfillmentNumber : String) (id : Nat) : Gift where
  id := id
  fulfillmentNumber := fulfillmentNumber
  senderId := draft.senderId
  receiverId := receiverId
  productName := draft.productName
  storeName := draft.storeName
  storeId := storeId
  productId := trimOrNull body.productId
  occasionId := occasionId
  messageText := draft.messageText
  mediaUrl := draft.mediaUrl
  mediaType := draft.mediaType
  isAnonymous := body.isAnonymous
  isSurprise := body.isSurprise
  status := "pending_address"
  idempotencyKey := draft.identity.map Prod.fst
  idempotencyRequestHash := draft.identity.map Prod.snd

/-- `gift.create`; the store must exist. -/
def createGiftTx (row : Nat → Gift) : Transaction Gift := do
  let id ← freshId
  let known ← Tx.read fun w => (row id).storeId.all fun text => w.storeIds.any fun s => Settlement.idText s = text
  Tx.ensure (known = true) (.error "P2003")
  gift.create (.p2002 "Gift") (row id)

def giftByKey (senderId : Nat) (key : String) (w : Shop) : Option Gift :=
  w.gifts.rows.find? fun g => g.senderId = senderId ∧ g.idempotencyKey = some key

/-- Answer a request from the gift made with its key. -/
def replayGift (requestHash : String) (existing : Gift) : Service CreateGiftResult := do
  Svc.ensure (existing.idempotencyRequestHash = some requestHash) (.conflict "idempotency_key_reused")
  pure { gift := existing, replayed := true }

/-- Rewrite a wish that has been fulfilled. -/
def fulfilWish (now : Time) (x : Wish) : Wish :=
  { x with deactivatedAt := some now, deactivatedReason := some "purchased_for_recipient" }

def countGift (now : Time) (p : Product) : Product :=
  { p with giftedByCount := p.giftedByCount + 1, trendingAt := some now }

/-- What follows a new gift of a catalog product. -/
def fulfil (desk : Desk) (created : Gift) : Service Unit :=
  match created.productId with
  | none => pure ()
  | some productId => do
      let now ← dateNow desk
      bestEffort ⟨desk, .fulfil⟩ (wish.updateMany
        (fun x => x.userId = created.receiverId ∧ x.productId = some productId ∧ x.deactivatedAt = none)
        (fulfilWish now) (fun _ => rfl))
      let now ← dateNow desk
      bestEffort ⟨desk, .fulfil⟩ (product.updateMany (fun p => Settlement.idText p.id = productId) (countGift now)
        (fun _ => rfl))

/-- Write the gift; a request that lost the race for its key is answered from the winner. -/
def insertGift (desk : Desk) (identity : Option (String × String)) (senderId : Nat) (row : Nat → Gift) :
    Service CreateGiftResult := do
  let written ← Svc.tryCatch
    (do
      let created ← Svc.transaction ⟨desk, .createGift⟩ (whenUp (createGiftTx row))
      pure { gift := created, replayed := false })
    fun e =>
      match e, identity with
      | .p2002 _, some (key, requestHash) => do
          let winner ← Svc.query ⟨desk, .read⟩ (giftByKey senderId key)
          match winner with
          | none => Svc.fail e
          | some winner => replayGift requestHash winner
      | _, _ => Svc.fail e
  if written.replayed then pure written
  else do
    fulfil desk written.gift
    pure written

section Create

variable [Cities]

/-- A request that no earlier gift answers. -/
def createNew (desk : Desk) (body : CreateGiftInput) (draft : GiftDraft) (candidates : List String) :
    Service CreateGiftResult := do
  let receiverId ← checkRecipient desk draft
  checkFastDelivery desk body receiverId
  let productStoreId ← checkProduct desk body.productId
  let occasionId ← resolveOccasion desk body.occasionId draft.senderId receiverId
  let fulfillmentNumber ← allocateReference desk candidates MAX_ALLOCATION_ATTEMPTS
  insertGift desk draft.identity draft.senderId
    (draft.row body receiverId ((trimOrNull body.storeId).or (productStoreId.map Settlement.idText)) occasionId
      fulfillmentNumber)

variable [Runtime]

def create (desk : Desk) (body : CreateGiftInput) (viewerUserId : Nat) (idempotencyKey : Option String)
    (candidates : List String) : Service CreateGiftResult := do
  let media ← Svc.ofExcept (validateGiftMedia body.mediaUrl body.mediaType)
  match trimOrNull body.receiverUsername, trimOrNull body.productName, trimOrNull body.storeName with
  | some receiverUsername, some productName, some storeName => do
      let draft (identity : Option (String × String)) : GiftDraft :=
        { senderId := viewerUserId
          receiverUsername := Portal.toLowerCase receiverUsername
          productName := productName
          storeName := storeName
          messageText := body.text
          mediaUrl := media.1
          mediaType := media.2
          identity := identity }
      match trimOrNull idempotencyKey with
      | none => createNew desk body (draft none) candidates
      | some key => do
          Svc.ensure ((codeUnits key).length ≤ MAX_IDEMPOTENCY_KEY_LENGTH) (.badRequest "invalid_idempotency_key")
          let requestHash := computeGiftRequestHash body
          let existing ← Svc.query ⟨desk, .read⟩ (giftByKey viewerUserId key)
          match existing with
          | some existing => replayGift requestHash existing
          | none => createNew desk body (draft (some (key, requestHash))) candidates
  | _, _, _ => Svc.fail (.badRequest "receiverUsername, productName and storeName are required")

end Create

end Qift.Shop
