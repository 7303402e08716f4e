import Qift.Fees.Money
import Qift.Lib.Row
import Qift.Shop.Gifts

/-!
# Delivery addresses and the senders who wait for one

* `Addresses` is the database behind a user's addresses and the gifts that were refused for the want of one, with the
  messages handed out.
* `buildPayload` of `addresses.service.ts` with the fields each country requires.
* `create`, `update`, `setDefault` and `remove`, each with the reads its transaction relies on.
* `refuseGift` is `gifts.service.ts` up to the gate of the default address, where it records a `GiftAttempt`;
  `resolvePendingAttemptsFor` wakes the senders of the attempts.
* `Call` and `program` are the requests; `Run` is any interleaving of them.
-/

namespace Qift.Addresses

open Relational Interleaving

def FORBIDDEN_MSG : String := "غير مصرح لك"

/-! ### Rows -/

structure User where
  id : String
  qiftUsername : String
  deletedAt : Option Time

structure Block where
  blockerId : String
  blockedId : String

/-- The columns a request fills. -/
structure AddressPayload where
  label : Option String
  country : String
  region : Option String
  city : String
  governorate : Option String
  district : String
  street : Option String
  buildingNumber : Option String
  unitNumber : Option String
  postalCode : Option String
  additionalNumber : Option String
  shortAddress : Option String
  deliveryPhone : Option String
  lat : Option Number
  lng : Option Number
  details : String

/-- An address; identifiers grow with time. -/
structure Address where
  id : Nat
  userId : String
  fields : AddressPayload
  isDefault : Bool

structure GiftAttempt where
  id : Nat
  senderId : String
  receiverId : String
  receiverUsername : String
  productName : String
  storeName : String
  createdAt : Time
  notifiedAt : Option Time
  resolvedAt : Option Time

inductive NotificationType
  | GiftAddressReadyForRetry | GiftAttemptedNoAddress

/-- What a producer hands to `notifications.trigger`. -/
structure Notification where
  userId : String
  type : NotificationType
  title : String
  link : String

end Qift.Addresses

namespace Qift

open Relational

/-- Addresses and waiting senders: the tables, the clock and the next identifier. -/
structure Addresses where
  now : Time
  nextId : Nat
  users : List Addresses.User
  blocks : List Addresses.Block
  addresses : Table Addresses.Address.id
  attempts : Table Addresses.GiftAttempt.id
  notifications : List Addresses.Notification

end Qift

namespace Qift.Addresses

open Relational Interleaving

def empty : Addresses where
  now := 0
  nextId := 0
  users := []
  blocks := []
  addresses := Table.empty
  attempts := Table.empty
  notifications := []

/-! ### Client delegates -/

abbrev address : Delegate Addresses Address.id where
  table := Addresses.addresses
  store t w := { w with addresses := t }
  conflict _ _ := false

abbrev giftAttempt : Delegate Addresses GiftAttempt.id where
  table := Addresses.attempts
  store t w := { w with attempts := t }
  conflict _ _ := false

/-- An attempt as `resolvePendingAttemptsFor` selects it: its identifier and its sender. -/
abbrev Waiting := Nat × String

/-- An atomic action. -/
inductive Step
  /-- A query or a clock read. -/
  | read
  /-- The clock, the accounts and the blocks. -/
  | environment
  /-- An address of a user, by a call that had read whether the user had a default. -/
  | create (userId : String) (wantsDefault hadDefaultBefore : Bool)
  /-- A write of an address whose flag the call had read at `found`. -/
  | update (userId : String) (addressId : Nat) (found wantsDefault hadDefaultBefore : Bool)
  | setDefault (userId : String) (addressId : Nat) (hadDefaultBefore : Bool)
  | remove (userId : String) (addressId : Nat) (found : Bool)
  /-- A gift is refused for the want of an address. -/
  | attempt (receiverId : String)
  | resolve (receiverId : String) (waiting : List Waiting)
  /-- The message to a sender, for the attempts it answers. -/
  | wake (senderId : String) (attemptIds : List Nat)
  /-- The message to the receiver of a refused gift. -/
  | ask (receiverId : String)

/-- A service call. -/
abbrev Service := Svc Addresses Step Err

/-- The body of a database transaction. -/
abbrev Transaction := Tx Addresses Err

/-- `Date.now()`. -/
def dateNow : Service Time := Svc.query .read Addresses.now

/-- An identifier that was not handed out before. -/
def freshId : Transaction Nat := fun w => .ok (w.nextId, { w with nextId := w.nextId + 1 })

/-- `notifications.trigger`, which never fails its caller. -/
def trigger (l : Step) (n : Notification) : Service Unit :=
  Svc.transaction l (Tx.modify fun w => { w with notifications := w.notifications ++ [n] })

/-! ### The payload -/

structure AddressInput where
  label : Option String := none
  country : Option String := none
  region : Option String := none
  city : Option String := none
  governorate : Option String := none
  district : Option String := none
  street : Option String := none
  buildingNumber : Option String := none
  unitNumber : Option String := none
  postalCode : Option String := none
  additionalNumber : Option String := none
  shortAddress : Option String := none
  deliveryPhone : Option String := none
  lat : Option Number := none
  lng : Option Number := none
  details : Option String := none
  isDefault : Option Bool := none

def REQUIRED_BY_COUNTRY : List (String × List String) :=
  ["SA", "KW", "AE", "QA", "BH", "OM"].map fun country => (country, ["city", "district", "street", "buildingNumber"])

def normalizeCountry (c : Option String) : String := Settlement.toUpperCase (trim (c.getD ""))

/-- The fields a country may require, by name. -/
def AddressInput.candidate (body : AddressInput) (field : String) : Option String :=
  match field with
  | "city" => Shop.trimOrNull body.city
  | "district" => Shop.trimOrNull body.district
  | "street" => Shop.trimOrNull body.street
  | "buildingNumber" => Shop.trimOrNull body.buildingNumber
  | "postalCode" => Shop.trimOrNull body.postalCode
  | _ => none

/-- The first field that is missing, or the refusal of a country without rules of its own. -/
def AddressInput.missing (body : AddressInput) (country : String) : Option String :=
  match REQUIRED_BY_COUNTRY.lookup country with
  | some required => (required.find? fun field => (body.candidate field).isNone).map fun field =>
      field ++ " is required for " ++ country
  | none =>
      if (body.candidate "city").isNone || (body.candidate "district").isNone then some "city and district are required"
      else none

def buildPayload (body : AddressInput) : Except Err AddressPayload :=
  let country := normalizeCountry body.country
  if country = "" then .error (.badRequest "country is required")
  else
    match body.missing country with
    | some message => .error (.badRequest message)
    | none => .ok
        { label := Shop.trimOrNull body.label
          country := country
          region := Shop.trimOrNull body.region
          city := (Shop.trimOrNull body.city).getD ""
          governorate := Shop.trimOrNull body.governorate
          district := (Shop.trimOrNull body.district).getD ""
          street := Shop.trimOrNull body.street
          buildingNumber := Shop.trimOrNull body.buildingNumber
          unitNumber := Shop.trimOrNull body.unitNumber
          postalCode := Shop.trimOrNull body.postalCode
          additionalNumber := Shop.trimOrNull body.additionalNumber
          shortAddress := Shop.trimOrNull body.shortAddress
          deliveryPhone := Shop.trimOrNull body.deliveryPhone
          lat := body.lat
          lng := body.lng
          details := (Shop.trimOrNull body.details).getD "" }

/-! ### Waking the senders -/

/-- The elements of a list in the order of their first occurrences, as a `Set` keeps them. -/
def uniqueSenderIds (waiting : List Waiting) : List String := (waiting.map Prod.snd).reverse.dedup.reverse

/-- The attempts of a sender among those that are waiting. -/
def attemptsOf (senderId : String) (waiting : List Waiting) : List Nat :=
  (waiting.filter fun a => a.2 = senderId).map Prod.fst

/-- The unresolved attempts to a receiver. -/
def pendingAttempts (receiverId : String) (w : Addresses) : List Waiting :=
  (w.attempts.rows.filter fun a => a.receiverId = receiverId && a.resolvedAt = none).map fun a => (a.id, a.senderId)

/-- The attempts are flagged by identifier before anyone is told; no failure reaches the caller. -/
def resolvePendingAttemptsFor (receiverId : String) : Service Unit :=
  Svc.tryCatch
    (do
      let waiting ← Svc.query .read (pendingAttempts receiverId)
      match waiting with
      | [] => pure ()
      | first :: rest => do
          let waiting := first :: rest
          let now ← dateNow
          let _ ← Svc.transaction (.resolve receiverId waiting)
            (giftAttempt.updateMany (fun a => decide (a.id ∈ waiting.map Prod.fst))
              fun a => { a with notifiedAt := some now, resolvedAt := some now })
          Svc.forEach (uniqueSenderIds waiting) fun senderId =>
            trigger (.wake senderId (attemptsOf senderId waiting))
              { userId := senderId
                type := .GiftAddressReadyForRetry
                title := "الشخص الذي كنت تريد إرسال هدية له حدد عنوانًا افتراضيًا، يمكنك الآن إرسال الهدية"
                link := "/send" })
    fun _ => pure ()

/-- The senders are woken where the call has read that the user had no default; the caller does not wait for it. -/
def wakeIf (condition : Bool) (receiverId : String) : Service Unit :=
  if condition then resolvePendingAttemptsFor receiverId else pure ()

/-! ### Addresses -/

def Address.defaultOf (userId : String) (a : Address) : Bool := a.userId = userId && a.isDefault

def Address.ownedBy (userId : String) (a : Address) : Bool := a.userId = userId

def countDefaults (userId : String) (w : Addresses) : Nat := w.addresses.count (Address.defaultOf userId)

def countAddresses (userId : String) (w : Addresses) : Nat := w.addresses.count (Address.ownedBy userId)

/-- The user's defaults lose their flag. -/
def clearDefaults (userId : String) : Transaction Nat :=
  address.updateMany (Address.defaultOf userId) fun a => { a with isDefault := false }

def clearIf (clears : Bool) (userId : String) : Transaction Nat := if clears then clearDefaults userId else pure 0

def createTx (userId : String) (fields : AddressPayload) (wantsDefault : Bool) : Transaction Address := do
  let _ ← clearIf wantsDefault userId
  let id ← freshId
  address.create (.p2002 "Address") { id := id, userId := userId, fields := fields, isDefault := wantsDefault }

/-- Whether a user with `existing` addresses has a default; without an address it is not asked. -/
def hadDefault (userId : String) (existing : Nat) : Service Bool :=
  if existing = 0 then pure false else Svc.query .read fun w => decide (0 < countDefaults userId w)

def create (viewerUserId : String) (body : AddressInput) : Service Address := do
  let payload ← Svc.ofExcept (buildPayload body)
  let existing ← Svc.query .read (countAddresses viewerUserId)
  let hadDefaultBefore ← hadDefault viewerUserId existing
  let wantsDefault := decide (body.isDefault = some true ∨ existing = 0)
  let created ← Svc.transaction (.create viewerUserId wantsDefault hadDefaultBefore)
    (createTx viewerUserId payload wantsDefault)
  wakeIf (wantsDefault && !hadDefaultBefore) viewerUserId
  pure created

def findOwned (viewerUserId : String) (addressId : Nat) : Service Address := do
  let existing ← Svc.query .read fun w => w.addresses.find addressId
  match existing with
  | none => Svc.fail (.notFound "Address not found")
  | some existing => do
      Svc.ensure (existing.userId = viewerUserId) (.forbidden FORBIDDEN_MSG)
      pure existing

def updateTx (userId : String) (addressId : Nat) (fields : AddressPayload) (wantsDefault found : Bool) :
    Transaction Address := do
  let _ ← clearIf (wantsDefault && !found) userId
  address.update (.error "record to update not found") addressId fun a =>
    { a with fields := fields, isDefault := if wantsDefault then true else found }

def update (viewerUserId : String) (addressId : Nat) (body : AddressInput) : Service Address := do
  let existing ← findOwned viewerUserId addressId
  let payload ← Svc.ofExcept (buildPayload body)
  let wantsDefault := decide (body.isDefault = some true)
  let hadDefaultBefore ← Svc.query .read fun w => decide (0 < countDefaults viewerUserId w)
  let updated ← Svc.transaction (.update viewerUserId addressId existing.isDefault wantsDefault hadDefaultBefore)
    (updateTx viewerUserId addressId payload wantsDefault existing.isDefault)
  wakeIf (wantsDefault && !hadDefaultBefore) viewerUserId
  pure updated

def setDefaultTx (userId : String) (addressId : Nat) : Transaction Address := do
  let _ ← clearDefaults userId
  address.update (.error "record to update not found") addressId fun a => { a with isDefault := true }

def setDefault (viewerUserId : String) (addressId : Nat) : Service Address := do
  let _ ← findOwned viewerUserId addressId
  let hadDefaultBefore ← Svc.query .read fun w => decide (0 < countDefaults viewerUserId w)
  let promoted ← Svc.transaction (.setDefault viewerUserId addressId hadDefaultBefore)
    (setDefaultTx viewerUserId addressId)
  wakeIf (!hadDefaultBefore) viewerUserId
  pure promoted

/-- The user's address with the greatest identifier. -/
def newestOf (userId : String) (t : Table Address.id) : Option Address :=
  (t.rows.filter fun a => a.userId = userId).foldl
    (fun best a => if best.all (fun b => b.id < a.id) then some a else best) none

/-- The newest address left becomes the default. -/
def promoteNewest (userId : String) : Transaction Unit := do
  let next ← Tx.read fun w => newestOf userId w.addresses
  match next with
  | none => pure ()
  | some next => do
      let _ ← address.update (.error "record to update not found") next.id fun a => { a with isDefault := true }
      pure ()

def removeTx (userId : String) (addressId : Nat) (found : Bool) : Transaction Unit := do
  let _ ← address.delete (.error "record to delete does not exist") addressId
  if found then promoteNewest userId else pure ()

def remove (viewerUserId : String) (addressId : Nat) : Service Unit := do
  let existing ← findOwned viewerUserId addressId
  Svc.transaction (.remove viewerUserId addressId existing.isDefault) (removeTx viewerUserId addressId existing.isDefault)

/-! ### Refused gifts -/

/-- A block in either direction. -/
def isBlockedEitherWay (viewerId otherId : String) (w : Addresses) : Bool :=
  decide (viewerId ≠ otherId) && w.blocks.any fun b =>
    (b.blockerId = viewerId ∧ b.blockedId = otherId) ∨ (b.blockerId = otherId ∧ b.blockedId = viewerId)

def getDefaultAddressForUser (userId : String) (w : Addresses) : Option Address :=
  if userId = "" then none else w.addresses.rows.find? (Address.defaultOf userId)

/-- The attempt is recorded and the receiver asked for an address; neither fails the refusal. -/
def recordAttempt (senderId receiverId receiverUsername productName storeName : String) : Service Unit := do
  Svc.tryCatch
    (do
      let _ ← Svc.transaction (.attempt receiverId) (do
        let id ← freshId
        let now ← Tx.read Addresses.now
        giftAttempt.create (.p2002 "GiftAttempt")
          { id := id
            senderId := senderId
            receiverId := receiverId
            receiverUsername := receiverUsername
            productName := productName
            storeName := storeName
            createdAt := now
            notifiedAt := none
            resolvedAt := none })
      pure ())
    fun _ => pure ()
  trigger (.ask receiverId)
    { userId := receiverId
      type := .GiftAttemptedNoAddress
      title := "حاول شخص إرسال هدية لك، لكن لا يمكنك استلامها قبل تحديد عنوان افتراضي"
      link := "/profile" }

/-- `GiftsService.create` up to the gate of the default address; a gift that passes it leaves these tables alone. -/
def refuseGift (senderId receiverUsername productName storeName : String) : Service Address := do
  let sender ← Svc.query .read fun w => w.users.find? fun u => u.id = senderId
  match sender with
  | none => Svc.fail (.notFound "Sender not found")
  | some sender => do
      Svc.ensure (Portal.toLowerCase sender.qiftUsername ≠ receiverUsername)
        (.badRequest "لا يمكنك إرسال هدية لنفسك")
      let receiver ← Svc.query .read fun w => w.users.find? fun u =>
        u.qiftUsername = receiverUsername ∧ u.deletedAt = none
      match receiver with
      | none => Svc.fail (.notFound "Receiver not found")
      | some receiver => do
          let blocked ← Svc.query .read (isBlockedEitherWay senderId receiver.id)
          Svc.ensure (blocked = false) (.forbidden "Recipient unavailable")
          let defaultAddress ← Svc.query .read (getDefaultAddressForUser receiver.id)
          match defaultAddress with
          | some defaultAddress => pure defaultAddress
          | none => do
              recordAttempt senderId receiver.id receiverUsername productName storeName
              Svc.fail (.error "recipient_no_default_address")

/-! ### Requests -/

/-- A request, the clock, or a change of the accounts and the blocks. -/
inductive Call
  | tick (elapsed : Nat)
  | accounts (users : List User) (blocks : List Block)
  | create (viewerUserId : String) (body : AddressInput)
  | update (viewerUserId : String) (addressId : Nat) (body : AddressInput)
  | setDefault (viewerUserId : String) (addressId : Nat)
  | remove (viewerUserId : String) (addressId : Nat)
  | refuseGift (senderId receiverUsername productName storeName : String)

inductive Reply
  | done
  | address (a : Address)

def environment (f : Addresses → Addresses) : Service Unit := Svc.transaction .environment (Tx.modify f)

def program : Call → Service Reply
  | .tick elapsed => (fun _ => Reply.done) <$> environment fun w => { w with now := w.now + elapsed }
  | .accounts users blocks => (fun _ => Reply.done) <$> environment fun w => { w with users := users, blocks := blocks }
  | .create viewerUserId body => Reply.address <$> create viewerUserId body
  | .update viewerUserId addressId body => Reply.address <$> update viewerUserId addressId body
  | .setDefault viewerUserId addressId => Reply.address <$> setDefault viewerUserId addressId
  | .remove viewerUserId addressId => (fun _ => Reply.done) <$> remove viewerUserId addressId
  | .refuseGift senderId receiverUsername productName storeName =>
      Reply.address <$> refuseGift senderId receiverUsername productName storeName

/-- The interleavings of requests. -/
abbrev Run : List (Event Addresses Step) → Config Addresses Step (Except Err Reply) → Prop := Exec program empty

end Qift.Addresses
