import Qift.Gifting.Fulfillment
import Qift.Lib.Row
import Qift.Lib.Zoom

/-!
# Denormalised counters

* `Tallies` is the database of gifts under way with the products' counters, the wishes, the appreciations of posts and
  the columns of an account that a purge reads.
* `createWish`, `removeWish` and `removeWishByProduct` of `wishes.service.ts`.
* `createGift` and `cancelGift` of `gifts.service.ts` with their counter writes; every other part of a gift's requests
  is the gift service's own, on its part of the database.
* `appreciate` of `gift-posts.service.ts` and `purgeUser` of `admin.service.ts`.
* `Call` and `program` are the requests; `Run` is any interleaving of them.
-/

namespace Qift.Tallies

open Relational Interleaving

def TITLE_MAX : Nat := 120
def STORE_MAX : Nat := 80
def TRENDING_HEART_THRESHOLD : Int := 3

/-! ### Rows -/

/-- The columns of an account that only a purge reads. -/
structure Account where
  id : String
  role : String
  purgedAt : Option Time
  ownedStores : Nat

/-- The columns of a product that its wishes copy, and its counters. -/
structure Product where
  id : String
  name : String
  imageUrl : Option String
  price : Number
  storeId : Option String
  /-- The name of its store. -/
  storeName : Option String
  wishlistedByCount : Int
  giftedByCount : Int
  trendingAt : Option Time

/-- A wish; identifiers grow with time. -/
structure Wish where
  id : Nat
  userId : String
  title : String
  store : Option String
  productId : Option String
  storeId : Option String
  productName : Option String
  storeName : Option String
  imageUrl : Option String
  price : Option Number
  currency : Option String
  visibility : String
  deactivatedAt : Option Time
  deactivatedReason : Option String
  createdAt : Time

structure GiftPostAppreciation where
  giftPostId : String
  userId : String
  createdAt : Time

def GiftPostAppreciation.key (a : GiftPostAppreciation) : String × String := (a.giftPostId, a.userId)

end Qift.Tallies

namespace Qift

open Relational

/-- Gifts under way, and what is counted of them. -/
structure Tallies where
  gifting : Gifting
  accounts : List Tallies.Account
  products : Table Tallies.Product.id
  wishes : Table Tallies.Wish.id
  appreciations : Table Tallies.GiftPostAppreciation.key
  nextId : Nat

end Qift

namespace Qift.Tallies

open Relational Interleaving

def empty : Tallies where
  gifting := Gifting.empty
  accounts := []
  products := Table.empty
  wishes := Table.empty
  appreciations := Table.empty
  nextId := 0

/-- The gift service's part of the database. -/
def giftingPart : Lens Tallies Gifting where
  get := Tallies.gifting
  set g w := { w with gifting := g }
  get_set _ _ := rfl
  set_get _ := rfl

/-! ### Client delegates -/

abbrev product : Delegate Tallies Product.id where
  table := Tallies.products
  store t w := { w with products := t }
  conflict _ _ := false

/-- Wishes are unique by user and product, where there is a product. -/
abbrev wish : Delegate Tallies Wish.id where
  table := Tallies.wishes
  store t w := { w with wishes := t }
  conflict a b := decide (a.userId = b.userId ∧ a.productId = b.productId ∧ a.productId ≠ none)

abbrev giftPostAppreciation : Delegate Tallies GiftPostAppreciation.key where
  table := Tallies.appreciations
  store t w := { w with appreciations := t }
  conflict _ _ := false

abbrev giftPost : Delegate Tallies Gifting.GiftPost.id where
  table w := w.gifting.posts
  store t w := { w with gifting := { w.gifting with posts := t } }
  conflict _ _ := false

/-! ### Actions -/

/-- An atomic action. -/
inductive Step
  /-- An action of the gift service on its part. -/
  | gifting (l : Gifting.Step)
  /-- A query or a clock read. -/
  | read
  /-- The accounts and the catalog. -/
  | environment
  /-- The upsert of a product's wish, by a call that had looked for one. -/
  | upsertWish (row : Wish) (existing : Bool)
  /-- A wish without a product, or what a gift does to one. -/
  | wish
  | deleteWish (id : Nat) (productId : Option String)
  | countWish (id : Nat) (productId : String)
  | uncountWish (id : Nat) (productId : String)
  | trending (productId : String)
  | createGift (row : Gifting.Gift)
  | countGift (giftId productId : String)
  /-- A gift is cancelled by a call that had read its product. -/
  | cancelGift (giftId : String) (productId : Option String)
  | uncountGift (giftId productId : String)
  | appreciate (giftPostId userId : String)
  | unappreciate (giftPostId userId : String)
  | purge (userId : String)

/-- A service call. -/
abbrev Service := Svc Tallies Step Err

/-- The body of a database transaction. -/
abbrev Transaction := Tx Tallies Err

/-- A call of the gift service. -/
def ofGifting {α : Type} (x : Gifting.Service α) : Service α := x.zoom giftingPart Step.gifting

/-- `Date.now()`. -/
def dateNow : Service Time := Svc.query .read fun w => w.gifting.now

/-- An identifier that was not handed out before. -/
def freshId : Transaction Nat := fun w => .ok (w.nextId, { w with nextId := w.nextId + 1 })

/-- The counter writes of a product. -/
def updateProduct (productId : String) (f : Product → Product) (hf : ∀ p, (f p).id = p.id := by intro p; rfl) :
    Transaction Product :=
  product.update (.error "record to update not found") productId f hf

/-- A write whose failure is logged and nothing more. -/
def bestEffort (x : Service Unit) : Service Unit := Svc.tryCatch x fun _ => pure ()

/-! ### Wishes -/

structure CreateWishInput where
  productId : Option String := none
  storeId : Option String := none
  storeName : Option String := none
  imageUrl : Option String := none
  currency : Option String := none
  title : Option String := none
  store : Option String := none
  visibility : Option String := none

def normalizeVisibility (raw : Option String) : String :=
  match raw with
  | some "public" => "public"
  | some "private" => "private"
  | _ => "public"

/-- The longest prefix that `slice(0, max)` keeps whole. -/
def prefixUnits (max : Nat) (s : String) : String :=
  String.ofList ((List.range (s.toList.length + 1)).foldl
    (fun best n => if (codeUnits (String.ofList (s.toList.take n))).length ≤ max then s.toList.take n else best) [])

def wishOf (userId productId : String) (w : Tallies) : Option Wish :=
  w.wishes.rows.find? fun x => x.userId = userId ∧ x.productId = some productId

/-- What a wish copies of its product; its identifier and its stamp come from the database. -/
def snapshotOf (userId : String) (body : CreateWishInput) (product : Product) : Wish :=
  let storeName := product.storeName.or (body.storeName.map trim)
  { id := 0
    userId := userId
    title := prefixUnits TITLE_MAX product.name
    store := storeName
    productId := some product.id
    storeId := product.storeId.or (body.storeId.map trim)
    productName := some product.name
    storeName := storeName
    imageUrl := product.imageUrl.or (body.imageUrl.map trim)
    price := some product.price
    currency := some ((Shop.trimOrNull (some (body.currency.getD "SAR"))).getD "SAR")
    visibility := normalizeVisibility body.visibility
    deactivatedAt := none
    deactivatedReason := none
    createdAt := 0 }

/-- Hearting a product again refreshes the snapshot and leaves the visibility. -/
def refreshed (row x : Wish) : Wish :=
  { x with
    productName := row.productName
    storeName := row.storeName
    imageUrl := row.imageUrl
    price := row.price
    currency := row.currency
    title := row.title
    store := row.store
    deactivatedAt := none
    deactivatedReason := none }

theorem refreshed_id (row x : Wish) : (refreshed row x).id = x.id := rfl

def insertWish (row : Wish) : Transaction Wish := do
  let id ← freshId
  let now ← Tx.read fun w => w.gifting.now
  wish.create (.p2002 "Wish") { row with id := id, createdAt := now }

/-- The wish the upsert finds under the user and the product of a row. -/
def Wish.stored (row : Wish) (w : Tallies) : Option Wish := row.productId.bind fun productId => wishOf row.userId productId w

def upsertWishTx (row : Wish) : Transaction Wish := do
  let existing ← Tx.read row.stored
  match existing with
  | some x => wish.update (.error "record to update not found") x.id (refreshed row) (refreshed_id row)
  | none => insertWish row

/-- The heart of a product that was not hearted before is counted. -/
def countWish (id : Nat) (productId : String) : Service Unit := do
  let updated ← Svc.transaction (.countWish id productId)
    (updateProduct productId fun p => { p with wishlistedByCount := p.wishlistedByCount + 1 })
  if TRENDING_HEART_THRESHOLD ≤ updated.wishlistedByCount then
    bestEffort do
      let now ← dateNow
      let _ ← Svc.transaction (.trending productId) (updateProduct productId fun p => { p with trendingAt := some now })
      pure ()
  else pure ()

def heartProduct (userId productId : String) (body : CreateWishInput) : Service Wish := do
  let product ← Svc.query .read fun w => w.products.find productId
  match product with
  | none => Svc.fail (.notFound "product_not_found")
  | some product => do
      let existing ← Svc.query .read fun w => (wishOf userId productId w).isSome
      let row := snapshotOf userId body product
      let x ← Svc.transaction (.upsertWish row existing) (upsertWishTx row)
      if existing then pure x
      else do
        countWish x.id productId
        pure x

/-- A wish in the user's own words. -/
def wishFor (userId : String) (body : CreateWishInput) : Service Wish :=
  match Shop.trimOrNull body.title with
  | none => Svc.fail (.badRequest "title is required")
  | some title => do
      Svc.ensure ((codeUnits title).length ≤ TITLE_MAX) (.badRequest "title must be at most 120 chars")
      let store := Shop.trimOrNull body.store
      Svc.ensure (store.all (fun s => (codeUnits s).length ≤ STORE_MAX) = true)
        (.badRequest "store must be at most 80 chars")
      let existing ← Svc.query .read fun w => w.wishes.rows.find? fun x =>
        x.userId = userId ∧ x.title = title ∧ x.store = store ∧ x.productId = none
      match existing with
      | some existing => pure existing
      | none => Svc.transaction .wish (insertWish
          { id := 0
            userId := userId
            title := title
            store := store
            productId := none
            storeId := none
            productName := none
            storeName := none
            imageUrl := none
            price := none
            currency := none
            visibility := normalizeVisibility body.visibility
            deactivatedAt := none
            deactivatedReason := none
            createdAt := 0 })

/-- `create`. -/
def createWish (userId : String) (body : CreateWishInput) : Service Wish :=
  match Shop.trimOrNull body.productId with
  | some productId => heartProduct userId productId body
  | none => wishFor userId body

/-- Delete a wish that was read with its product, and take it off the count. -/
def deleteWish (id : Nat) (productId : Option String) : Service Unit := do
  let _ ← Svc.transaction (.deleteWish id productId) (wish.delete (.error "record to delete does not exist") id)
  match productId with
  | none => pure ()
  | some productId => do
      let _ ← Svc.transaction (.uncountWish id productId)
        (updateProduct productId fun p => { p with wishlistedByCount := p.wishlistedByCount - 1 })
      pure ()

/-- `remove`. -/
def removeWish (userId : String) (id : Nat) : Service Unit := do
  let existing ← Svc.query .read fun w => (w.wishes.find id).filter fun x => x.userId = userId
  match existing with
  | none => Svc.fail (.notFound "wish_not_found")
  | some existing => deleteWish id existing.productId

/-- `removeByProduct`. -/
def removeWishByProduct (userId productId : String) : Service Unit := do
  let existing ← Svc.query .read (wishOf userId productId)
  match existing with
  | none => pure ()
  | some existing => deleteWish existing.id (some productId)

/-! ### Gifts -/

/-- `gift.create`, stamped by the database. -/
def createGiftTx (row : Gifting.Gift) : Transaction Gifting.GiftWithParties :=
  (Gifting.createGiftTx fun now => { row with createdAt := now }).zoom giftingPart

/-- The receiver's wish for the product of a new gift is fulfilled. -/
def fulfillWish (receiverId productId : String) : Service Unit :=
  bestEffort do
    let now ← dateNow
    let _ ← Svc.transaction .wish (wish.updateMany
      (fun x => x.userId = receiverId && x.productId = some productId && x.deactivatedAt = none)
      fun x => { x with deactivatedAt := some now, deactivatedReason := some "purchased_for_recipient" })
    pure ()

/-- The reverse, when the gift is cancelled. -/
def unfulfillWish (receiverId productId : String) : Service Unit :=
  bestEffort do
    let _ ← Svc.transaction .wish (wish.updateMany
      (fun x => x.userId = receiverId && x.productId = some productId &&
        x.deactivatedReason = some "purchased_for_recipient")
      fun x => { x with deactivatedAt := none, deactivatedReason := none })
    pure ()

/-- A new gift is counted. -/
def countGift (giftId productId : String) : Service Unit :=
  bestEffort do
    let now ← dateNow
    let _ ← Svc.transaction (.countGift giftId productId)
      (updateProduct productId fun p => { p with giftedByCount := p.giftedByCount + 1, trendingAt := some now })
    pure ()

/-- A cancelled gift is taken off the count. -/
def uncountGift (giftId productId : String) : Service Unit :=
  bestEffort do
    let _ ← Svc.transaction (.uncountGift giftId productId)
      (updateProduct productId fun p => { p with giftedByCount := p.giftedByCount - 1 })
    pure ()

/-- A request whose key was taken in the meantime is answered from the gift that took it. -/
def answerRace (identity : Option (String × String)) (senderId : String) (e : Err) : Service Gifting.CreateGiftResult :=
  match e, identity with
  | .p2002 _, some (key, requestHash) => ofGifting do
      let winner ← Svc.query .read (Gifting.giftByKey senderId key)
      match winner with
      | none => Svc.fail e
      | some winner => Gifting.replayGift senderId requestHash winner
  | _, _ => Svc.fail e

/-- A new gift with a product fulfils a wish, and is counted. -/
def tallyGift (row : Gifting.Gift) : Service Unit :=
  match row.productId with
  | none => pure ()
  | some productId => do
      fulfillWish row.receiverId productId
      countGift row.id productId

/-- Write the gift. -/
def insertGift (identity : Option (String × String)) (senderId : String) (row : Gifting.Gift) :
    Service Gifting.CreateGiftResult := do
  let written ← Svc.tryCatch (Sum.inl <$> Svc.transaction (.createGift row) (createGiftTx row)) fun e =>
    Sum.inr <$> answerRace identity senderId e
  match written with
  | .inr replay => pure replay
  | .inl created => do
      tallyGift row
      ofGifting (Gifting.announceGift created.gift)
      pure { gift := created.unmasked, replayed := false }

section Create

variable [Shop.Cities]

/-- A request that no earlier gift answers; `giftId` is the identifier drawn for the row. -/
def createNewGift (body : Shop.CreateGiftInput) (draft : Gifting.GiftDraft) (candidates : List String)
    (giftId : String) : Service Gifting.CreateGiftResult := do
  let receiverId ← ofGifting (Gifting.checkRecipient draft)
  ofGifting (Gifting.checkFastDelivery body receiverId)
  let productStoreId ← ofGifting (Gifting.checkProduct body.productId)
  let occasionId ← ofGifting (Gifting.resolveOccasion body.occasionId draft.senderId receiverId)
  let fulfillmentNumber ← ofGifting (Gifting.allocateReference candidates MAX_ALLOCATION_ATTEMPTS)
  insertGift draft.identity draft.senderId
    (draft.row body receiverId ((Shop.trimOrNull body.storeId).or productStoreId) occasionId fulfillmentNumber giftId 0)

variable [Runtime]

/-- `create` of `gifts.service.ts`. -/
def createGift (body : Shop.CreateGiftInput) (viewerUserId : String) (idempotencyKey : Option String)
    (candidates : List String) (giftId : String) : Service Gifting.CreateGiftResult := do
  let media ← Svc.ofExcept (Shop.validateGiftMedia body.mediaUrl body.mediaType)
  match Shop.trimOrNull body.receiverUsername, Shop.trimOrNull body.productName, Shop.trimOrNull body.storeName with
  | some receiverUsername, some productName, some storeName => do
      let draft (identity : Option (String × String)) : Gifting.GiftDraft :=
        { senderId := viewerUserId
          receiverUsername := Portal.toLowerCase receiverUsername
          productName := productName
          storeName := storeName
          messageText := body.text
          mediaUrl := media.1
          mediaType := media.2
          identity := identity }
      match Shop.trimOrNull idempotencyKey with
      | none => createNewGift body (draft none) candidates giftId
      | some key => do
          Svc.ensure ((codeUnits key).length ≤ Shop.MAX_IDEMPOTENCY_KEY_LENGTH) (.badRequest "invalid_idempotency_key")
          let requestHash := Shop.computeGiftRequestHash body
          let existing ← ofGifting (Svc.query .read (Gifting.giftByKey viewerUserId key))
          match existing with
          | some existing => ofGifting (Gifting.replayGift viewerUserId requestHash existing)
          | none => createNewGift body (draft (some (key, requestHash))) candidates giftId
  | _, _, _ => Svc.fail (.badRequest "receiverUsername, productName and storeName are required")

end Create

/-- The guarded write of a cancellation; the number of rows written. -/
def cancelGiftTx (giftId : String) : Transaction Nat :=
  (Gifting.setStatusTx giftId (.whileIn Gifting.cancellable) .cancelled).zoom giftingPart

/-- A cancelled gift with a product frees a wish, and is taken off the count. -/
def untallyGift (giftId : String) (g : Gifting.Gift) : Service Unit :=
  match g.productId with
  | none => pure ()
  | some productId => do
      unfulfillWish g.receiverId productId
      uncountGift giftId productId

/-- `cancel` of `gifts.service.ts`. -/
def cancelGift (giftId viewerUserId : String) : Service Gifting.GiftView := do
  let g ← ofGifting (Gifting.findGiftWithParties giftId)
  Svc.ensure (g.gift.senderId = viewerUserId) (.forbidden Gifting.FORBIDDEN_MSG)
  if g.gift.status = .cancelled then pure (Gifting.applyGiftVisibility g viewerUserId)
  else do
    Svc.ensure (g.gift.status ∈ Gifting.cancellable) (.badRequest "لا يمكن إلغاء الهدية في هذه المرحلة")
    let count ← Svc.transaction (.cancelGift giftId g.gift.productId) (cancelGiftTx giftId)
    if count = 0 then do
      let fresh ← ofGifting (Gifting.findGiftWithParties giftId)
      pure (Gifting.applyGiftVisibility fresh viewerUserId)
    else do
      untallyGift giftId g.gift
      ofGifting (Gifting.deactivatePosts giftId)
      ofGifting (Gifting.trigger (Gifting.notifyReceiver g.gift .cancelled .GiftCancelled "تم إلغاء الهدية"))
      let updated ← ofGifting (Gifting.findGiftWithParties giftId)
      pure (Gifting.applyGiftVisibility updated viewerUserId)

/-! ### Appreciations -/

structure AppreciationToggleResult where
  appreciated : Bool
  appreciationCount : Int

/-- The appreciation of a post and its count, together. -/
def appreciateTx (giftPostId userId : String) : Transaction Int := do
  let now ← Tx.read fun w => w.gifting.now
  let _ ← giftPostAppreciation.create (.p2002 "GiftPostAppreciation") ⟨giftPostId, userId, now⟩
  let updated ← giftPost.update (.error "record to update not found") giftPostId fun p =>
    { p with appreciationCount := p.appreciationCount + 1 }
  pure updated.appreciationCount

def unappreciateTx (giftPostId userId : String) : Transaction Int := do
  let _ ← giftPostAppreciation.delete (.error "record to delete does not exist") (giftPostId, userId)
  let updated ← giftPost.update (.error "record to update not found") giftPostId fun p =>
    { p with appreciationCount := p.appreciationCount - 1 }
  pure updated.appreciationCount

/-- `appreciate`: a post that is appreciated already is not any more; the owner's message is not counted. -/
def appreciate (viewerUserId postId : String) : Service AppreciationToggleResult := do
  let post ← Svc.query .read fun w => w.gifting.posts.find postId
  match post with
  | none => Svc.fail (.notFound "Post not found")
  | some post => do
      Svc.ensure (post.ownerUserId ≠ viewerUserId) (.badRequest "لا يمكنك تقدير منشورك الخاص")
      Svc.ensure (post.publishedAt ≠ none ∧ post.visibility = "public" ∧ post.deactivatedAt = none)
        (.forbidden Gifting.FORBIDDEN_MSG)
      Svc.tryCatch
        (do
          let count ← Svc.transaction (.appreciate postId viewerUserId) (appreciateTx postId viewerUserId)
          pure { appreciated := true, appreciationCount := count })
        fun e =>
          match e with
          | .p2002 _ => do
              let count ← Svc.transaction (.unappreciate postId viewerUserId) (unappreciateTx postId viewerUserId)
              pure { appreciated := false, appreciationCount := max 0 count }
          | e => Svc.fail e

/-! ### Purges -/

def TERMINAL_GIFT_STATUSES : List Gifting.GiftStatus := [.delivered, .cancelled]

/-- The gifts of a user that are under way; no gift is ever `refunded` here. -/
def inflight (userId : String) (w : Tallies) : Nat :=
  w.gifting.gifts.count fun g =>
    decide (g.senderId = userId ∨ g.receiverId = userId) && decide (g.status ∉ TERMINAL_GIFT_STATUSES)

/-- What a purge deletes and what it writes over the account. -/
def purgeTx (userId : String) (now : Time) : Transaction Unit := Tx.modify fun w =>
  { w with
    gifting :=
      { w.gifting with
        addresses := w.gifting.addresses.deleteMany fun a => a.userId = userId
        blocks := w.gifting.blocks.filter fun b => !decide (b.blockerId = userId ∨ b.blockedId = userId)
        users := w.gifting.users.map fun u =>
          if u.id = userId then
            { u with qiftUsername := "__purged__:" ++ userId, fullName := none, deletedAt := some now }
          else u }
    accounts := w.accounts.map fun a => if a.id = userId then { a with purgedAt := some now } else a
    wishes := w.wishes.deleteMany fun x => x.userId = userId
    appreciations := w.appreciations.deleteMany fun a => a.userId = userId }

def purgeTarget (userId : String) (w : Tallies) : Option (Gifting.User × Account) := do
  let user ← w.gifting.users.find? fun u => u.id = userId
  let account ← w.accounts.find? fun a => a.id = userId
  pure (user, account)

def purgeUser (viewerUserId targetUserId confirmUsername : String) : Service Time := do
  Svc.ensure (viewerUserId ≠ targetUserId) (.forbidden "cannot_purge_self")
  let target ← Svc.query .read (purgeTarget targetUserId)
  match target with
  | none => Svc.fail (.notFound "User not found")
  | some (user, account) =>
      match account.purgedAt with
      | some purgedAt => pure purgedAt
      | none => do
          Svc.ensure (account.role ≠ "admin") (.forbidden "cannot_purge_admin")
          Svc.ensure (account.ownedStores = 0) (.conflict "user_owns_stores")
          Svc.ensure (trim confirmUsername = user.qiftUsername) (.badRequest "confirmation_mismatch")
          let inflight ← Svc.query .read (inflight targetUserId)
          Svc.ensure (inflight = 0) (.conflict "user_has_inflight_gifts")
          let now ← dateNow
          Svc.transaction (.purge targetUserId) (purgeTx targetUserId now)
          pure now

/-! ### Requests -/

/-- A product as it enters the catalog. -/
def Product.entering (id name : String) (imageUrl : Option String) (price : Number) (storeId storeName : Option String) :
    Product where
  id := id
  name := name
  imageUrl := imageUrl
  price := price
  storeId := storeId
  storeName := storeName
  wishlistedByCount := 0
  giftedByCount := 0
  trendingAt := none

/-- A request, the clock, or a change of the accounts and the catalog. -/
inductive Call
  | tick (elapsed : Nat)
  | books (b : Gifting.Books)
  | accounts (accounts : List Account)
  | product (id name : String) (imageUrl : Option String) (price : Number) (storeId storeName : Option String)
  | createWish (userId : String) (body : CreateWishInput)
  | removeWish (userId : String) (id : Nat)
  | removeWishByProduct (userId productId : String)
  | createGift (body : Shop.CreateGiftInput) (viewerUserId : String) (idempotencyKey : Option String)
      (candidates : List String) (giftId : String)
  | confirmAddress (giftId viewerUserId : String) (addressId : Option String)
  | cancelGift (giftId viewerUserId : String)
  | publish (viewerUserId : String) (input : Gifting.PublishInput) (postId : String) (drawn : List String)
  | appreciate (viewerUserId postId : String)
  | purgeUser (viewerUserId targetUserId confirmUsername : String)

inductive Reply
  | done
  | wish (x : Wish)
  | created (r : Gifting.CreateGiftResult)
  | confirmed (c : Gifting.ConfirmedGift)
  | view (g : Gifting.GiftView)
  | post (p : Gifting.GiftPost)
  | toggled (r : AppreciationToggleResult)
  | purged (at' : Time)

section Program

variable [Shop.Cities] [Runtime]

def program : Call → Service Reply
  | .tick elapsed => (fun _ => Reply.done) <$> ofGifting (Svc.transaction .environment (Gifting.tickTx elapsed))
  | .books b => (fun _ => Reply.done) <$> ofGifting (Svc.transaction .environment (Tx.modify b.open))
  | .accounts accounts =>
      (fun _ => Reply.done) <$> (Svc.transaction .environment (Tx.modify fun w => { w with accounts := accounts }) :
        Service Unit)
  | .product id name imageUrl price storeId storeName =>
      (fun _ => Reply.done) <$> (Svc.transaction .environment (product.create (.p2002 "Product")
        (Product.entering id name imageUrl price storeId storeName)) : Service Product)
  | .createWish userId body => Reply.wish <$> createWish userId body
  | .removeWish userId id => (fun _ => Reply.done) <$> removeWish userId id
  | .removeWishByProduct userId productId => (fun _ => Reply.done) <$> removeWishByProduct userId productId
  | .createGift body viewerUserId idempotencyKey candidates giftId =>
      Reply.created <$> createGift body viewerUserId idempotencyKey candidates giftId
  | .confirmAddress giftId viewerUserId addressId =>
      Reply.confirmed <$> ofGifting (Gifting.confirmAddress giftId viewerUserId addressId)
  | .cancelGift giftId viewerUserId => Reply.view <$> cancelGift giftId viewerUserId
  | .publish viewerUserId input postId drawn =>
      Reply.post <$> ofGifting (Gifting.publish viewerUserId input postId drawn)
  | .appreciate viewerUserId postId => Reply.toggled <$> appreciate viewerUserId postId
  | .purgeUser viewerUserId targetUserId confirmUsername =>
      Reply.purged <$> purgeUser viewerUserId targetUserId confirmUsername

/-- The interleavings of requests. -/
abbrev Run : List (Event Tallies Step) → Config Tallies Step (Except Err Reply) → Prop := Exec program empty

end Program

end Qift.Tallies
