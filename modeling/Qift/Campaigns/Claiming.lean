import Qift.Campaigns.Dispatch
import Qift.Market.Delivery

/-!
# Claiming and fulfillment

`claim.service.ts` and `fulfillment-export.service.ts`.

* A claim that is not live answers like one that does not exist; expiry is marked when the link is touched.
* `verifyOtp` opens a session; `notMe`, `decline` and `submitAddress` end the claim, each with a guarded write.
* `exportCampaignFulfillment` lists the claimed gifts of a campaign with their addresses.

What the code service answers is given with the call.
-/

namespace Qift.Campaigns

open Relational Interleaving

def SESSION_TTL_MS : Int := 30 * 60 * 1000

/-! ### Live claims -/

def finalizeTx (claimId : Nat) (target : ClaimStatus) (declinedAt : Option Time) : Transaction Nat :=
  claimableGift.updateMany (fun c => c.id = claimId && c.status = .pending) fun c =>
    { c with status := target, declinedAt := declinedAt.or c.declinedAt }

def expireTx (claimId : Nat) : Transaction Nat :=
  claimableGift.updateMany (fun c => c.id = claimId && c.status = .pending) fun c => { c with status := .expired }

section Tokens

variable [Runtime]

/-- The claim of a token, if it is live. -/
def loadPending (token : String) : Service ClaimableGift := do
  Svc.ensure (16 ≤ (codeUnits token).length) (.notFound "claim_not_found")
  let found ← Svc.query .read fun w => w.claims.rows.find? fun c => c.tokenHash = Portal.hashClaimToken token
  match found with
  | none => Svc.fail (.notFound "claim_not_found")
  | some claim => do
      Svc.ensure (claim.status = .pending) (.notFound "claim_not_found")
      let now ← dateNow
      if claim.expiresAt < now then do
        let _ ← Svc.transaction (.expire claim.id) (expireTx claim.id)
        Svc.fail (.notFound "claim_not_found")
      else pure claim

/-- The session is the one that was opened, and it has not lapsed. -/
def ClaimableGift.sessionValid (claim : ClaimableGift) (sessionToken : String) (now : Time) : Bool :=
  claim.otpVerifiedAt.isSome && claim.sessionTokenHash = some (Portal.hashClaimToken sessionToken) &&
    claim.sessionExpiresAt.any fun at' => now ≤ at'

/-- The claim of a token, in a session; `sessionToken` is `none` where the body holds no text. -/
def loadSession (token : String) (sessionToken : Option String) : Service ClaimableGift := do
  let claim ← loadPending token
  let now ← dateNow
  Svc.ensure ((present sessionToken).any (fun text => claim.sessionValid text now) = true)
    (.error "unauthorized: claim_session_invalid")
  pure claim

/-- What a recipient sees once the code is verified. -/
structure RevealPayload where
  recipientName : String
  orgDisplayName : String
  message : Option String
  gift : GiftSnapshot
  expiresAt : Time
  giftReference : String

omit [Runtime] in
def revealPayload (claim : ClaimableGift) : RevealPayload where
  recipientName := claim.recipientName
  orgDisplayName := claim.orgDisplayName
  message := claim.campaignMessage
  gift := claim.giftSnapshot
  expiresAt := claim.expiresAt
  giftReference := claim.giftReference

/-- The first letter of a part, or nothing of it. -/
def maskPart (part : List Char) : String := String.ofList (part.take 1) ++ "•••"

/-- `maskChannel`: enough for the rightful holder to recognise the channel. -/
def maskChannel (channel : ClaimChannel) (value : String) : String :=
  match channel with
  | .email =>
      let parts := value.toList.splitOn '@'
      maskPart (parts.headD []) ++ "@" ++ maskPart (parts.tail.headD [])
  | .phone => "•••••••" ++ String.ofList (value.toList.drop (value.toList.length - 2))

/-- What is shown before the code: nothing that identifies anyone. -/
structure Teaser where
  channel : ClaimChannel
  channelHint : String

def teaser (token : String) : Service Teaser := do
  let claim ← loadPending token
  pure ⟨claim.channel, maskChannel claim.channel claim.channelValue⟩

/-- `sendOtp`; `sent` is what the code service answers. -/
def sendOtp (token : String) (sent : Except Err Unit) : Service String := do
  let claim ← loadPending token
  Svc.ofExcept sent
  pure (maskChannel claim.channel claim.channelValue)

/-- The session that a verified code opens. -/
def sessionTx (claim : ClaimableGift) (sessionToken : String) : Transaction ClaimableGift := do
  let now ← Tx.read Campaigns.now
  claimableGift.update (.error "record to update not found") claim.id fun c =>
    { c with
      sessionTokenHash := some (Portal.hashClaimToken sessionToken)
      sessionExpiresAt := some (now + SESSION_TTL_MS)
      otpVerifiedAt := some (claim.otpVerifiedAt.getD now) }

/-- `verifyOtp`; `verified` is what the code service answers, `sessionToken` the token that is drawn. -/
def verifyOtp (token : String) (code : Option String) (verified : Except Err Unit) (sessionToken : String) :
    Service (String × RevealPayload) := do
  let claim ← loadPending token
  Svc.ensure (Shop.trimOrNull code ≠ none) (.badRequest "code_required")
  Svc.ofExcept verified
  let _ ← Svc.transaction (.session claim.id) (sessionTx claim sessionToken)
  pure (sessionToken, revealPayload claim)

def reveal (token : String) (sessionToken : Option String) : Service RevealPayload :=
  revealPayload <$> loadSession token sessionToken

/-! ### The end of a claim -/

omit [Runtime] in
def claimAudit (action : String) (claim : ClaimableGift) : Service Unit :=
  orgAudit none action none
    [("claimId", some (toString claim.id)), ("giftReference", some claim.giftReference),
      ("campaignId", some (toString claim.campaignId))]

def notMe (token : String) (sessionToken : Option String) : Service Unit := do
  let claim ← loadSession token sessionToken
  let count ← Svc.transaction (.finalize claim.id .mismatch) (finalizeTx claim.id .mismatch none)
  Svc.ensure (count ≠ 0) (.badRequest "claim_already_finalized")
  claimAudit "corporate.claim.mismatch" claim

def decline (token : String) (sessionToken : Option String) : Service Unit := do
  let claim ← loadSession token sessionToken
  let now ← dateNow
  let count ← Svc.transaction (.finalize claim.id .declined) (finalizeTx claim.id .declined (some now))
  Svc.ensure (count ≠ 0) (.badRequest "claim_already_finalized")
  claimAudit "corporate.claim.decline" claim

end Tokens

structure ClaimAddressInput where
  fullName : Option String := none
  phone : Option String := none
  country : Option String := none
  region : Option String := none
  city : Option String := none
  district : Option String := none
  line1 : Option String := none
  notes : Option String := none

/-- The address of a request: a mobile number, and the fields a delivery needs. -/
def ClaimAddressInput.read (body : ClaimAddressInput) : Except Err SubmittedAddress :=
  match body.phone.bind rosterPhone with
  | none => .error (.badRequest "address_phone_invalid")
  | some phone =>
      match Shop.trimOrNull body.country, Shop.trimOrNull body.city, Shop.trimOrNull body.line1 with
      | some country, some city, some line1 =>
          .ok
            { fullName := Shop.trimOrNull body.fullName
              phone := phone
              country := country
              region := Shop.trimOrNull body.region
              city := city
              district := Shop.trimOrNull body.district
              line1 := line1
              notes := Shop.trimOrNull body.notes }
      | _, _, _ => .error (.badRequest "address_fields_required")

/-- The address and the flip, together; a claim that was ended in between is left alone. -/
def claimTx (claimId : Nat) (address : SubmittedAddress) : Transaction Unit := do
  let now ← Tx.read Campaigns.now
  let flipped ← claimableGift.updateMany (fun c => c.id = claimId && c.status = .pending) fun c =>
    { c with status := .claimed, claimedAt := some now }
  Tx.ensure (flipped ≠ 0) (.badRequest "claim_already_finalized")
  let _ ← claimAddress.create (.p2002 "ClaimAddress") ⟨claimId, address⟩
  pure ()

section Submission

variable [Shop.Cities]

/-- The product of a snapshot is delivered fast. -/
def isFastGift (snapshot : GiftSnapshot) : Service Bool :=
  if Market.isFastCategory snapshot.category then pure true
  else if snapshot.productId = "" then pure false
  else Svc.query .read fun w => (w.products.find? fun p => p.id = snapshot.productId).any Product.isFastDelivery

/-- The zones of the snapshot's store reach the address; a store that is gone does not refuse. -/
def checkCoverage (snapshot : GiftSnapshot) (address : SubmittedAddress) : Service Unit :=
  if snapshot.storeId = "" then pure ()
  else do
    let store ← Svc.query .read fun w => w.stores.find? fun s => s.id = snapshot.storeId
    match store with
    | none => pure ()
    | some store => do
        let fast ← isFastGift snapshot
        let scope : Market.AddressScope :=
          ⟨some address.country, address.region, some address.city, address.district⟩
        Svc.ensure (Market.matchAddressToStoreZones scope store.city store.deliveryZones fast = .ok)
          (.badRequest "address_out_of_coverage")

def submitAddress [Runtime] (token : String) (sessionToken : Option String) (body : ClaimAddressInput) : Service Unit := do
  let claim ← loadSession token sessionToken
  let address ← Svc.ofExcept body.read
  checkCoverage claim.giftSnapshot address
  Svc.transaction (.claim claim.id address) (claimTx claim.id address)
  claimAudit "corporate.claim.claimed" claim

end Submission

/-! ### The fulfillment export -/

def MAX_EXPORT_ROWS : Nat := 1000

structure FulfillmentRow where
  giftReference : String
  recipientName : String
  phone : String
  country : String
  region : Option String
  city : String
  district : Option String
  line1 : String
  notes : Option String
  claimedAt : Option Time

def fulfillmentRow (claim : ClaimableGift) (address : SubmittedAddress) : FulfillmentRow where
  giftReference := claim.giftReference
  recipientName := (Shop.trimOrNull address.fullName).getD claim.recipientName
  phone := address.phone
  country := address.country
  region := address.region
  city := address.city
  district := address.district
  line1 := address.line1
  notes := address.notes
  claimedAt := claim.claimedAt

structure FulfillmentExport where
  campaignId : Nat
  campaignReference : String
  campaignName : String
  productName : Option String
  storeName : Option String
  count : Nat
  rows : List FulfillmentRow

/-- The claimed gifts of a campaign, the first claimed first. -/
def claimedGifts (campaignId : Nat) (w : Campaigns) : List ClaimableGift :=
  (w.claims.rows.filter fun c => c.campaignId = campaignId ∧ c.status = .claimed).insertionSort fun a b =>
    a.claimedAt.getD 0 ≤ b.claimedAt.getD 0

def fulfillmentRows (claims : List ClaimableGift) (addresses : List ClaimAddress) : List FulfillmentRow :=
  claims.filterMap fun claim =>
    (addresses.find? fun a => a.claimId = claim.id).map fun a => fulfillmentRow claim a.address

def exportCampaignFulfillment (actorUserId : String) (orgId campaignId : Nat) : Service FulfillmentExport := do
  let campaign ← loadCampaign orgId campaignId
  let option ← Svc.query .read fun w => w.options.rows.find? fun o => o.campaignId = campaignId
  let claims ← Svc.query .read fun w => (claimedGifts campaignId w).take MAX_EXPORT_ROWS
  let addresses ← Svc.query .read fun w =>
    w.addresses.rows.filter fun a => a.claimId ∈ claims.map ClaimableGift.id
  let rows := fulfillmentRows claims addresses
  let snapshot := option.bind CampaignGiftOption.approvalSnapshot
  orgAudit (some actorUserId) "org.fulfillment.exported" (some orgId)
    [("campaignId", some (toString campaignId)), ("campaignReference", some campaign.referenceNumber),
      ("claimedCount", some (toString claims.length)), ("exportedCount", some (toString rows.length)),
      ("missingAddressCount", some (toString (claims.length - rows.length)))]
  pure
    { campaignId := campaign.id
      campaignReference := campaign.referenceNumber
      campaignName := campaign.name
      productName := snapshot.map GiftSnapshot.productName
      storeName := snapshot.map GiftSnapshot.storeName
      count := rows.length
      rows := rows }

end Qift.Campaigns
