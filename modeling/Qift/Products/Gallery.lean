import Qift.Lib.Row
import Qift.Market.Checkout

/-!
# Products and their galleries

`products.service.ts`: a product has an ordered gallery, and beside it a copy of the primary image for its readers.

* `cleanUrls`, `normaliseImageUrls` and `normaliseVideo` are the checks of a body whose members may be of any type.
* `create` and `update` read a body member by member, and write the product and its gallery in one transaction.
* `Call` and `program` are the requests; `Run` is any interleaving of them.
-/

namespace Qift.Products

open Relational Relational.Table Interleaving
open Market (Numerals)

def FORBIDDEN_MSG : String := "غير مصرح لك"

/-! ### Rows -/

structure Store where
  id : String
  ownerId : String

structure Product where
  id : Nat
  storeId : String
  name : String
  price : Number
  imageUrl : Option String
  videoUrl : Option String
  videoType : Option String
  category : String
  isFastDelivery : Bool
  sourceType : String
  stockStatus : String
  isAvailable : Bool

structure ProductImage where
  productId : Nat
  url : String
  displayOrder : Nat

/-- One image at each place of a gallery. -/
def ProductImage.slot (i : ProductImage) : Nat × Nat := (i.productId, i.displayOrder)

structure Catalog where
  nextId : Nat
  stores : List Store
  products : Table Product.id
  images : Table ProductImage.slot

def Catalog.start (stores : List Store) : Catalog where
  nextId := 0
  stores := stores
  products := Table.empty
  images := Table.empty

abbrev product : Delegate Catalog Product.id where
  table := Catalog.products
  store t w := { w with products := t }
  conflict _ _ := false

abbrev productImage : Delegate Catalog ProductImage.slot where
  table := Catalog.images
  store t w := { w with images := t }
  conflict _ _ := false

/-- The gallery of a product. -/
def Catalog.imagesOf (w : Catalog) (productId : Nat) : List ProductImage :=
  w.images.rows.filter fun i => i.productId = productId

/-! ### Bodies -/

/-- The members of a body, each of any type or left out. -/
structure ProductInput where
  storeId : Option Json := none
  name : Option Json := none
  price : Option Json := none
  imageUrl : Option Json := none
  imageUrls : Option Json := none
  videoUrl : Option Json := none
  videoType : Option Json := none
  category : Option Json := none
  isFastDelivery : Option Json := none
  stockStatus : Option Json := none
  isAvailable : Option Json := none

/-- `field?.trim()` -/
def trimField : Option Json → Except Err (Option String)
  | none | some .null => .ok none
  | some (.str s) => .ok (some (trim s))
  | some _ => .error (.error "trim is not a function")

def asString : Option Json → Option String
  | some (.str s) => some s
  | _ => none

def asBool : Option Json → Option Bool
  | some (.bool b) => some b
  | _ => none

def nonEmpty (s : Option String) : Option String := s.filter fun t => t ≠ ""

/-- A finite number that is not negative, or its text. -/
def parsePrice [Numerals] : Option Json → Option Number
  | some (.num x) => if 0 ≤ x then some x else none
  | some (.str s) => if trim s = "" then none else (Numerals.ofText s).filter fun n => 0 ≤ n
  | _ => none

def MAX_PRODUCT_IMAGES : Nat := 8

/-- `/^https?:\/\//i` -/
def isHttp (s : String) : Bool :=
  "http://".toList.isPrefixOf (s.toList.map Char.toLower) || "https://".toList.isPrefixOf (s.toList.map Char.toLower)

/-- The entries after those that are kept so far: blank ones and repetitions are passed over. -/
def cleanUrls : List Json → List String → Except Err (List String)
  | [], cleaned => .ok cleaned
  | .str raw :: rest, cleaned =>
      let trimmed := trim raw
      if trimmed = "" then cleanUrls rest cleaned
      else if !isHttp trimmed then .error (.badRequest "imageUrls entries must be http or https URLs")
      else if 1024 < (codeUnits trimmed).length then .error (.badRequest "imageUrls entry exceeds 1024 chars")
      else if trimmed ∈ cleaned then cleanUrls rest cleaned
      else cleanUrls rest (cleaned ++ [trimmed])
  | _ :: _, _ => .error (.badRequest "imageUrls entries must be strings")

def normaliseImageUrls : Option Json → Except Err (Option (List String))
  | none => .ok none
  | some (.arr input) =>
      if MAX_PRODUCT_IMAGES < input.length then .error (.badRequest "imageUrls supports at most 8 entries")
      else some <$> cleanUrls input []
  | some _ => .error (.badRequest "imageUrls must be an array of strings")

/-- A URL and a type, or neither; nothing where neither member is there. -/
def normaliseVideo (videoUrl videoType : Option Json) : Except Err (Option (Option String × Option String)) :=
  if videoUrl.isNone && videoType.isNone then .ok none
  else
    let url := nonEmpty ((asString videoUrl).map trim)
    let type := (asString videoType).filter fun t => t ∈ ["mp4", "webm", "mov"]
    if url.isSome ≠ type.isSome then .error (.badRequest "videoUrl and videoType must be provided together")
    else if url.any fun u => 1024 < (codeUnits u).length then .error (.badRequest "videoUrl exceeds 1024 chars")
    else if url.any fun u => !isHttp u then .error (.badRequest "videoUrl must be an http or https URL")
    else .ok (some (url, type))

/-! ### The calls -/

inductive Step
  | read
  | create
  | update (productId : Nat) (body : ProductInput)

abbrev Service := Svc Catalog Step Err

abbrev Transaction := Tx Catalog Err

/-- A product as it is selected, its images by display order. -/
structure PublicProduct where
  product : Product
  images : List ProductImage

def PUBLIC_PRODUCT_SELECT (p : Product) : Transaction PublicProduct := Tx.read fun w =>
  { product := p, images := (w.imagesOf p.id).insertionSort fun a b => a.displayOrder ≤ b.displayOrder }

/-- `StoresService.assertOwner` -/
def assertOwner (viewerUserId storeId : String) : Service Unit := do
  let store ← Svc.query .read fun w => w.stores.find? fun s => s.id = storeId
  match store with
  | none => Svc.fail (.notFound "Store not found")
  | some store => Svc.ensure (store.ownerId = viewerUserId) (.forbidden FORBIDDEN_MSG)

/-- The images at the places from `idx` on. -/
def createImages (productId : Nat) : List String → Nat → Transaction Unit
  | [], _ => pure ()
  | url :: rest, idx => do
      let _ ← productImage.create (.p2002 "ProductImage") { productId := productId, url := url, displayOrder := idx }
      createImages productId rest (idx + 1)

def createTx (row : Nat → Product) (imageUrls : List String) : Transaction PublicProduct := do
  let id ← (fun w => .ok (w.nextId, { w with nextId := w.nextId + 1 }) : Transaction Nat)
  let created ← product.create (.p2002 "Product") (row id)
  createImages id imageUrls 0
  PUBLIC_PRODUCT_SELECT created

/-- What a body creates. -/
structure NewProduct where
  row : Nat → Product
  imageUrls : List String

/-- The legacy member is read where there is no gallery. -/
def legacyText (imageUrls : List String) (imageUrl : Option Json) : Except Err (Option String) :=
  if imageUrls.isEmpty then trimField imageUrl else .ok none

/-- The gallery and the video, and the copy of the primary image; without a gallery the legacy member is the image. -/
def readCreate (body : ProductInput) (storeId name category : String) (price : Number) : Except Err NewProduct := do
  let imageUrls ← normaliseImageUrls body.imageUrls
  let video ← normaliseVideo body.videoUrl body.videoType
  let legacy ← legacyText (imageUrls.getD []) body.imageUrl
  pure
    { row := fun id =>
        { id := id
          storeId := storeId
          name := name
          price := price
          imageUrl := (imageUrls.getD []).head?.or (nonEmpty legacy)
          videoUrl := video.bind Prod.fst
          videoType := video.bind Prod.snd
          category := category
          isFastDelivery := decide (asBool body.isFastDelivery = some true)
          sourceType := "manual"
          stockStatus := if asString body.stockStatus = some "out_of_stock" then "out_of_stock" else "in_stock"
          isAvailable := true }
      imageUrls := imageUrls.getD [] }

def create [Numerals] (viewerUserId : String) (body : ProductInput) : Service PublicProduct := do
  let storeId ← Svc.ofExcept (trimField body.storeId)
  let name ← Svc.ofExcept (trimField body.name)
  let category ← Svc.ofExcept (trimField body.category)
  match nonEmpty storeId, nonEmpty name, nonEmpty category with
  | some storeId, some name, some category =>
      match parsePrice body.price with
      | none => Svc.fail (.badRequest "price must be a non-negative number")
      | some price => do
          assertOwner viewerUserId storeId
          let new ← Svc.ofExcept (readCreate body storeId name category price)
          Svc.transaction .create (createTx new.row new.imageUrls)
  | _, _, _ => Svc.fail (.badRequest "storeId, name and category are required")

/-- The columns an update sets. -/
structure ProductChange where
  imageUrls : Option (List String)
  imageUrl : Option (Option String)
  video : Option (Option String × Option String)
  name : Option String
  category : Option String
  price : Option Number
  isFastDelivery : Option Bool
  stockStatus : Option String
  isAvailable : Option Bool

/-- The legacy member: a URL, or nothing for a blank text and for null. -/
def ProductInput.legacyImageUrl (body : ProductInput) : Option (Option String) :=
  match body.imageUrl with
  | some (.str s) => some (nonEmpty (some (trim s)))
  | some .null => some none
  | _ => none

def readPrice [Numerals] (price : Option Json) : Except Err (Option Number) :=
  if price.isNone then .ok none
  else
    match parsePrice price with
    | none => .error (.badRequest "price must be a non-negative number")
    | some price => .ok (some price)

def readUpdate [Numerals] (body : ProductInput) : Except Err ProductChange := do
  let imageUrls ← normaliseImageUrls body.imageUrls
  let video ← normaliseVideo body.videoUrl body.videoType
  let price ← readPrice body.price
  pure
    { imageUrls := imageUrls
      -- the gallery decides where it is there, else the legacy member
      imageUrl := (imageUrls.map List.head?).or body.legacyImageUrl
      video := video
      name := (asString body.name).map trim
      category := (asString body.category).map trim
      price := price
      isFastDelivery := asBool body.isFastDelivery
      stockStatus := (asString body.stockStatus).filter fun s => s ∈ ["in_stock", "out_of_stock"]
      isAvailable := asBool body.isAvailable }

def ProductChange.onto (change : ProductChange) (p : Product) : Product :=
  { p with
    name := change.name.getD p.name
    category := change.category.getD p.category
    imageUrl := change.imageUrl.getD p.imageUrl
    videoUrl := (change.video.map Prod.fst).getD p.videoUrl
    videoType := (change.video.map Prod.snd).getD p.videoType
    price := change.price.getD p.price
    isFastDelivery := change.isFastDelivery.getD p.isFastDelivery
    stockStatus := change.stockStatus.getD p.stockStatus
    isAvailable := change.isAvailable.getD p.isAvailable }

theorem ProductChange.onto_id (change : ProductChange) (p : Product) : (change.onto p).id = p.id := rfl

/-- The gallery of a product is dropped and written anew, where there is one to write. -/
def replaceImages (productId : Nat) : Option (List String) → Transaction Unit
  | none => pure ()
  | some imageUrls => do
      let _ ← productImage.deleteMany fun i => i.productId = productId
      createImages productId imageUrls 0

def updateTx (productId : Nat) (change : ProductChange) : Transaction PublicProduct := do
  replaceImages productId change.imageUrls
  let updated ← product.update (.error "record to update not found") productId change.onto change.onto_id
  PUBLIC_PRODUCT_SELECT updated

def update [Numerals] (viewerUserId : String) (productId : Nat) (body : ProductInput) : Service PublicProduct := do
  let existing ← Svc.query .read fun w => w.products.find productId
  match existing with
  | none => Svc.fail (.notFound "Product not found")
  | some existing => do
      assertOwner viewerUserId existing.storeId
      let change ← Svc.ofExcept (readUpdate body)
      Svc.transaction (.update productId body) (updateTx productId change)

inductive Call
  | create (viewerUserId : String) (body : ProductInput)
  | update (viewerUserId : String) (productId : Nat) (body : ProductInput)

def program [Numerals] : Call → Service PublicProduct
  | .create viewerUserId body => create viewerUserId body
  | .update viewerUserId productId body => update viewerUserId productId body

/-- Any interleaving of the calls, for any stores; calls one after the other are one. -/
abbrev Run [Numerals] (stores : List Store) := Exec program (Catalog.start stores)

end Qift.Products
