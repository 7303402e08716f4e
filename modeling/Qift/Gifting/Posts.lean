import Qift.Gifting.Service

/-!
# Posts about gifts

`GiftPostsService` and the view of a post in `gift-post-visibility.ts`.

* `publish`, `unpublish` and `setVisibility` write the post of one party of a gift.
* `listMine`, `listByUser` and `getBySlug` read posts; `buildGiftPostView` masks the parties and the catalog.
-/

namespace Qift.Gifting

open Relational Interleaving

/-! ### publish -/

def SLUG_RETRIES : Nat := 5

/-- `generateUniqueSlug`: the first of the drawn candidates that no post carries. -/
def generateUniqueSlug : List String → Nat → Service String
  | candidate :: rest, retries + 1 => do
      let collision ← Svc.query .read fun w => w.posts.rows.any fun p => p.publicSlug = some candidate
      if collision then generateUniqueSlug rest retries else pure candidate
  | _, _ => Svc.fail (.error "Could not generate a unique gift-post slug")

structure PublishInput where
  giftId : Option String := none
  visibility : Option String := none

def directionOf (viewerUserId : String) (g : Gift) : Except Err PostDirection :=
  if viewerUserId = g.senderId then .ok .sent
  else if viewerUserId = g.receiverId then .ok .received
  else .error (.forbidden FORBIDDEN_MSG)

/-- The post one party has of a gift. -/
def postOf (giftId ownerUserId : String) (w : Gifting) : Option GiftPost :=
  w.posts.rows.find? fun p => p.giftId = giftId ∧ p.ownerUserId = ownerUserId

/-- `giftPost.update` of the row a call has read. -/
def updatePost (id : String) (f : GiftPost → GiftPost) (hf : ∀ p, (f p).id = p.id := by intro p; rfl) :
    Service GiftPost := do
  let written ← Svc.transaction .post (do
    let _ ← giftPost.updateMany (fun p => p.id = id) f hf
    Tx.read fun w => w.posts.find id)
  match written with
  | none => Svc.fail (.error "record to update not found")
  | some post => pure post

/-- `postId` and `drawn` are the identifier and the slugs drawn for a new row. -/
def publish (viewerUserId : String) (input : PublishInput) (postId : String) (drawn : List String) :
    Service GiftPost :=
  match Shop.trimOrNull input.giftId with
  | none => Svc.fail (.badRequest "giftId is required")
  | some giftId => do
      let visibility := input.visibility.getD "public"
      Svc.ensure (visibility = "private" ∨ visibility = "public")
        (.badRequest "visibility must be private or public")
      let g ← findGift giftId
      let direction ← Svc.ofExcept (directionOf viewerUserId g)
      Svc.ensure (g.status ≠ .cancelled) (.badRequest "لا يمكن مشاركة هدية ملغاة")
      let existing ← Svc.query .read (postOf giftId viewerUserId)
      match existing with
      | none => do
          let slug ← generateUniqueSlug drawn SLUG_RETRIES
          let now ← dateNow
          Svc.transaction .post (giftPost.create (.p2002 "GiftPost")
            { id := postId
              giftId := giftId
              ownerUserId := viewerUserId
              direction := direction
              publishedAt := some now
              visibility := visibility
              revealSender := false
              revealRecipient := false
              publicSlug := some slug
              appreciationCount := 0
              deactivatedAt := none
              deactivatedReason := none
              createdAt := now })
      | some existing =>
          -- publishing again answers the post as it is
          if existing.publishedAt ≠ none then pure existing
          else do
            let slug ← match existing.publicSlug with
              | some slug => pure slug
              | none => generateUniqueSlug drawn SLUG_RETRIES
            let now ← dateNow
            updatePost existing.id fun p =>
              { p with
                publishedAt := some now
                publicSlug := some slug
                visibility := visibility
                deactivatedAt := none
                deactivatedReason := none }

def requireOwnedPost (viewerUserId postId : String) : Service GiftPost := do
  let found ← Svc.query .read fun w => w.posts.find postId
  match found with
  | none => Svc.fail (.notFound "Post not found")
  | some post => do
      Svc.ensure (post.ownerUserId = viewerUserId) (.forbidden FORBIDDEN_MSG)
      pure post

def unpublish (viewerUserId postId : String) : Service GiftPost := do
  let post ← requireOwnedPost viewerUserId postId
  if post.publishedAt = none then pure post
  else updatePost post.id fun p => { p with publishedAt := none }

def setVisibility (viewerUserId postId visibility : String) : Service GiftPost := do
  Svc.ensure (visibility = "private" ∨ visibility = "public") (.badRequest "visibility must be private or public")
  let post ← requireOwnedPost viewerUserId postId
  if post.visibility = visibility then pure post
  else updatePost post.id fun p => { p with visibility := visibility }

/-! ### Views -/

/-- A post with what `giftInclude` reads beside it. -/
structure PostWithGift where
  post : GiftPost
  gift : Gift
  product : Option Product
  store : Option Store
  sender : Party
  receiver : Party

/-- The post and its gift; a foreign key guarantees the gift. -/
def withGift (w : Gifting) (p : GiftPost) : Option PostWithGift :=
  (w.gifts.find p.giftId).map fun g =>
    { post := p
      gift := g
      product := g.productId.bind w.products.find
      store := g.storeId.bind w.stores.find
      sender := partyOf w g.senderId
      receiver := partyOf w g.receiverId }

def PUBLIC_STORE_STATUSES : List String := ["approved", "pending"]

structure GiftPostView where
  id : String
  productName : String
  storeName : String
  productId : Option String
  storeId : Option String
  productImageUrl : Option String
  productImages : List String
  productHref : Option String
  senderUsername : Option String
  senderName : Option String
  receiverUsername : Option String
  receiverName : Option String
  visibility : String
  publishedAt : Option Time
  deactivatedAt : Option Time
  ownerUserId : String
  direction : PostDirection
  appreciationCount : Int
  publicSlug : Option String
  eventCount : Nat

/-- `deriveGallery`: the images in their order, else the cached one. -/
def deriveGallery (product : Option Product) : List String :=
  let ordered := (((product.map Product.images).getD []).insertionSort
    fun a b : ProductImage => a.displayOrder ≤ b.displayOrder).map ProductImage.url
  let urls := ordered.filter fun u => u ≠ ""
  if urls ≠ [] then urls
  else ((product.bind Product.imageUrl).filter fun u => u ≠ "").toList

/-- A text that names something. -/
def present (text : Option String) : Option String := text.filter fun t => t ≠ ""

/-- Whether the sender of the gift is named to a viewer. -/
def showsSender (x : PostWithGift) (viewerUserId : Option String) : Bool :=
  viewerUserId = some x.gift.senderId || viewerUserId = some x.gift.receiverId || x.post.revealSender

def showsReceiver (x : PostWithGift) (viewerUserId : Option String) : Bool :=
  viewerUserId = some x.gift.senderId || viewerUserId = some x.gift.receiverId || x.post.revealRecipient

/-- `buildGiftPostView` with the columns `toView` adds. -/
def buildGiftPostView (x : PostWithGift) (viewerUserId : Option String) (eventCount : Nat) : GiftPostView :=
  let storeIsPublic := (x.store.map Store.status).all fun status => status ∈ PUBLIC_STORE_STATUSES
  let hideCatalog := x.post.deactivatedAt ≠ none || !storeIsPublic
  { id := x.post.id
    productName := x.gift.productName
    storeName := x.gift.storeName
    productId := if hideCatalog then none else x.gift.productId
    storeId := if hideCatalog then none else x.gift.storeId
    productImageUrl := if hideCatalog then none else x.product.bind Product.imageUrl
    productImages := if hideCatalog then [] else deriveGallery x.product
    productHref :=
      if hideCatalog then none
      else (present x.gift.storeId).map fun storeId =>
        match present x.gift.productId with
        | some productId => "/stores/" ++ storeId ++ "?product=" ++ productId
        | none => "/stores/" ++ storeId
    senderUsername := if showsSender x viewerUserId then some x.sender.qiftUsername else none
    senderName := if showsSender x viewerUserId then x.sender.fullName else none
    receiverUsername := if showsReceiver x viewerUserId then some x.receiver.qiftUsername else none
    receiverName := if showsReceiver x viewerUserId then x.receiver.fullName else none
    visibility := if x.post.visibility ∈ ["private", "followers", "public"] then x.post.visibility else "private"
    publishedAt := x.post.publishedAt
    deactivatedAt := x.post.deactivatedAt
    ownerUserId := x.post.ownerUserId
    direction := x.post.direction
    appreciationCount := x.post.appreciationCount
    publicSlug := x.post.publicSlug
    eventCount := eventCount }

/-! ### Walls -/

/-- The bucket of a post on a wall: repeats of one product, or a post of its own. -/
def samePile (a b : PostWithGift) : Bool :=
  match present a.gift.productId, present b.gift.productId with
  | some p, some q => p = q && a.post.ownerUserId = b.post.ownerUserId && a.post.direction = b.post.direction
  | none, none => a.post.id = b.post.id
  | _, _ => false

def intoPiles (piles : List (PostWithGift × Nat)) (x : PostWithGift) : List (PostWithGift × Nat) :=
  if piles.any fun pile => samePile pile.1 x then
    piles.map fun pile => if samePile pile.1 x then (pile.1, pile.2 + 1) else pile
  else piles ++ [(x, 1)]

/-- `collapseGiftPostGroups`: the first post of every pile, with the size of the pile. -/
def collapseGiftPostGroups (rows : List PostWithGift) : List (PostWithGift × Nat) := rows.foldl intoPiles []

/-- Newest first, unpublished posts before all others. -/
def wallOrder (a b : GiftPost) : Prop :=
  match a.publishedAt, b.publishedAt with
  | none, none => b.createdAt ≤ a.createdAt
  | none, some _ => True
  | some _, none => False
  | some s, some t => t < s ∨ s = t ∧ b.createdAt ≤ a.createdAt

instance (a b : GiftPost) : Decidable (wallOrder a b) := by
  unfold wallOrder
  split <;> infer_instance

/-- The posts of an owner's own wall. -/
def ownPosts (ownerUserId : String) (w : Gifting) : List GiftPost :=
  (w.posts.rows.filter fun p => p.ownerUserId = ownerUserId).insertionSort wallOrder

/-- A post third parties may see. -/
def GiftPost.isPublic (p : GiftPost) : Bool :=
  p.publishedAt ≠ none && p.visibility = "public" && p.deactivatedAt = none

/-- The posts of an account's public wall. -/
def publicPosts (ownerUserId : String) (w : Gifting) : List GiftPost :=
  (w.posts.rows.filter fun p => p.ownerUserId = ownerUserId && p.isPublic).insertionSort
    fun a b => b.publishedAt.getD 0 ≤ a.publishedAt.getD 0

def wall (posts : List PostWithGift) (viewerUserId : Option String) : List GiftPostView :=
  (collapseGiftPostGroups posts).map fun pile => buildGiftPostView pile.1 viewerUserId pile.2

def listMine (viewerUserId : String) : Service (List GiftPostView) := do
  let rows ← Svc.query .read fun w => (ownPosts viewerUserId w).filterMap (withGift w)
  -- every row is the viewer's own, so the forced viewer is the viewer
  pure (wall rows (some viewerUserId))

def isBlockedEitherWay (a b : String) (w : Gifting) : Bool :=
  w.blocks.any fun x => (x.blockerId = a ∧ x.blockedId = b) ∨ (x.blockerId = b ∧ x.blockedId = a)

def listByUser (targetUserId : String) (viewerUserId : Option String) : Service (List GiftPostView) := do
  let blocked ← Svc.query .read fun w => viewerUserId.any fun viewer =>
    viewer ≠ targetUserId && isBlockedEitherWay viewer targetUserId w
  if blocked then pure []
  else do
    let rows ← Svc.query .read fun w => (publicPosts targetUserId w).filterMap (withGift w)
    pure (wall rows viewerUserId)

def postBySlug (slug : String) (w : Gifting) : Option PostWithGift :=
  (w.posts.rows.find? fun p => p.publicSlug = some slug).bind (withGift w)

/-- The post of a slug, where the viewer may see it; a hidden post is not told from a missing one. -/
def showPost (row : PostWithGift) (viewerUserId : Option String) : Service GiftPostView := do
  let isOwner := viewerUserId = some row.post.ownerUserId
  let isGiftParty := viewerUserId = some row.gift.senderId ∨ viewerUserId = some row.gift.receiverId
  let blocked ← Svc.query .read fun w => viewerUserId.any fun viewer => isBlockedEitherWay viewer row.post.ownerUserId w
  Svc.ensure (blocked = false ∨ isOwner ∨ isGiftParty) (.notFound "Post not found")
  Svc.ensure (row.post.isPublic = true ∨ isOwner ∨ isGiftParty) (.notFound "Post not found")
  pure (buildGiftPostView row viewerUserId 1)

def getBySlug (slug : Option String) (viewerUserId : Option String) : Service GiftPostView :=
  match Shop.trimOrNull slug with
  | none => Svc.fail (.notFound "Post not found")
  | some slug => do
      let found ← Svc.query .read (postBySlug slug)
      match found with
      | none => Svc.fail (.notFound "Post not found")
      | some row => showPost row viewerUserId

end Qift.Gifting
