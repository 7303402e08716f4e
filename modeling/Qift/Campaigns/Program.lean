import Qift.Campaigns.Reports

/-!
# Runs of corporate gifting

`Call` are the requests, the two sweeps and what happens around them, `program` answers them; `Run` is any interleaving.
-/

namespace Qift.Campaigns

open Relational Interleaving

/-- The settings of the process. -/
structure Settings where
  retentionDays : Option Number := none
  archiveGraceDays : Option Number := none
  claimTtlDays : Option Number := none
  qiftClaimBaseUrl : Option String := none
  dispatchPaused : Bool := false

/-- What other services have stored. -/
structure Books where
  organizations : List Organizations.Organization := []
  products : List Product := []
  stores : List Store := []
  corporateInvoices : List CorporateInvoice := []
  merchantInvoices : List MerchantInvoice := []

inductive Call
  /-- Time passes. -/
  | tick (elapsed : Nat)
  | configure (settings : Settings)
  | books (books : Books)
  | importRoster (actorUserId : String) (orgId : Nat) (csv : Option String) (batchId : String)
  | archiveContact (actorUserId : String) (orgId contactId : Nat)
  | purge
  | createCampaign (actorUserId : String) (orgId : Nat) (body : CampaignDraftInput) (draws : List (List String))
  | updateCampaign (orgId campaignId : Nat) (body : CampaignDraftInput)
  | setGiftOption (actorUserId : String) (orgId campaignId : Nat) (productId : Option String)
  | addRecipients (actorUserId : String) (orgId campaignId : Nat) (contactIds : Option (List Nat))
  | removeRecipient (orgId campaignId recipientId : Nat)
  | submitForApproval (actorUserId : String) (orgId campaignId : Nat)
  | approveCampaign (actorUserId : String) (orgId campaignId : Nat)
  | requestChanges (actorUserId : String) (orgId campaignId : Nat) (note : Option String)
  | cancelCampaign (actorUserId : String) (orgId campaignId : Nat)
  | dispatchCampaign (actorUserId : String) (orgId campaignId : Nat)
  | dispatchSweep (answers : Nat → JobAnswer)
  | exportCampaignClaimLinks (actorUserId : String) (orgId campaignId : Nat) (draws : Nat → MintDraws)
  | exportCampaignFulfillment (actorUserId : String) (orgId campaignId : Nat)
  | teaser (token : String)
  | sendOtp (token : String) (sent : Except Err Unit)
  | verifyOtp (token : String) (code : Option String) (verified : Except Err Unit) (sessionToken : String)
  | reveal (token : String) (sessionToken : Option String)
  | notMe (token : String) (sessionToken : Option String)
  | decline (token : String) (sessionToken : Option String)
  | submitAddress (token : String) (sessionToken : Option String) (body : ClaimAddressInput)
  | read (request : OrgRead)

inductive Reply
  | done
  | imported (report : Except RosterRefusal ImportReport)
  | count (count : Nat)
  | campaign (campaign : CampaignView)
  | recipients (added : AddedRecipients)
  | sweep (report : SweepReport)
  | links (answer : ClaimLinkExport)
  | fulfillment (answer : FulfillmentExport)
  | teaser (teaser : Teaser)
  | hint (channelHint : String)
  | session (sessionToken : String) (claim : RevealPayload)
  | revealed (claim : RevealPayload)
  | response (response : OrgResponse)

/-- Write the settings. -/
def Settings.apply (s : Settings) (w : Campaigns) : Campaigns :=
  { w with
    retentionDays := s.retentionDays
    archiveGraceDays := s.archiveGraceDays
    claimTtlDays := s.claimTtlDays
    qiftClaimBaseUrl := s.qiftClaimBaseUrl
    dispatchPaused := s.dispatchPaused }

/-- Write the rows of the other services. -/
def Books.apply (b : Books) (w : Campaigns) : Campaigns :=
  { w with
    organizations := b.organizations
    products := b.products
    stores := b.stores
    corporateInvoices := b.corporateInvoices
    merchantInvoices := b.merchantInvoices }

/-- A change of what the services of corporate gifting do not write. -/
def environment (f : Campaigns → Campaigns) : Service Reply :=
  (fun _ => .done) <$> Svc.transaction .environment (Tx.modify f)

section Program

variable [Shop.Cities] [Runtime]

/-- The service that answers a call. -/
def program : Call → Service Reply
  | .tick elapsed => environment fun w => { w with now := w.now + elapsed }
  | .configure settings => environment settings.apply
  | .books books => environment books.apply
  | .importRoster actorUserId orgId csv batchId => .imported <$> importRoster actorUserId orgId csv batchId
  | .archiveContact actorUserId orgId contactId => (fun _ => .done) <$> archiveContact actorUserId orgId contactId
  | .purge => .count <$> RosterPurge.runOnce
  | .createCampaign actorUserId orgId body draws => .campaign <$> createCampaign actorUserId orgId body draws
  | .updateCampaign orgId campaignId body => .campaign <$> updateCampaign orgId campaignId body
  | .setGiftOption actorUserId orgId campaignId productId =>
      (fun _ => .done) <$> setGiftOption actorUserId orgId campaignId productId
  | .addRecipients actorUserId orgId campaignId contactIds =>
      .recipients <$> addRecipients actorUserId orgId campaignId contactIds
  | .removeRecipient orgId campaignId recipientId => (fun _ => .done) <$> removeRecipient orgId campaignId recipientId
  | .submitForApproval actorUserId orgId campaignId => .campaign <$> submitForApproval actorUserId orgId campaignId
  | .approveCampaign actorUserId orgId campaignId => .campaign <$> approveCampaign actorUserId orgId campaignId
  | .requestChanges actorUserId orgId campaignId note => .campaign <$> requestChanges actorUserId orgId campaignId note
  | .cancelCampaign actorUserId orgId campaignId => .campaign <$> cancelCampaign actorUserId orgId campaignId
  | .dispatchCampaign actorUserId orgId campaignId => .count <$> dispatchCampaign actorUserId orgId campaignId
  | .dispatchSweep answers => .sweep <$> DispatchWorker.runOnce answers
  | .exportCampaignClaimLinks actorUserId orgId campaignId draws =>
      .links <$> exportCampaignClaimLinks actorUserId orgId campaignId draws
  | .exportCampaignFulfillment actorUserId orgId campaignId =>
      .fulfillment <$> exportCampaignFulfillment actorUserId orgId campaignId
  | .teaser token => .teaser <$> teaser token
  | .sendOtp token sent => .hint <$> sendOtp token sent
  | .verifyOtp token code verified sessionToken =>
      (fun r => .session r.1 r.2) <$> verifyOtp token code verified sessionToken
  | .reveal token sessionToken => .revealed <$> reveal token sessionToken
  | .notMe token sessionToken => (fun _ => .done) <$> notMe token sessionToken
  | .decline token sessionToken => (fun _ => .done) <$> decline token sessionToken
  | .submitAddress token sessionToken body => (fun _ => .done) <$> submitAddress token sessionToken body
  | .read request => .response <$> respond request

/-- Any interleaving of calls, from the empty database. -/
abbrev Run : List (Event Campaigns Step) → Config Campaigns Step (Except Err Reply) → Prop := Exec program empty

end Program

/-! ### A company and its campaign -/

namespace Pilot

/-- Follow a schedule from the empty database. -/
def played (schedule : List (Choice Call)) : List (Event Campaigns Step) × Config Campaigns Step (Except Err Reply) :=
  Config.play (@program Market.Pilot.plainCities plainRuntime) ⟨empty, []⟩ schedule

theorem run (schedule : List (Choice Call)) :
    @Run Market.Pilot.plainCities plainRuntime (played schedule).1 (played schedule).2 := by
  have hinit : @Run Market.Pilot.plainCities plainRuntime [] ⟨empty, []⟩ := Exec.init
  simpa [played] using hinit.play schedule

/-- Start a call and let it end. -/
def toEnd (c : Call) : List (Choice Call) := .start c :: List.replicate 32 (.run 0)

/-- An approved organization. -/
def acme : Organizations.Organization where
  id := 1
  legalName := "Acme Trading"
  displayName := "Acme"
  displayNameAr := none
  crNumber := some "1010"
  vatNumber := none
  billingEmail := none
  billingAddress := none
  status := .approved
  riskTier := "new"
  rejectionReason := none
  createdBy := "huda"
  submittedAt := none
  reviewedAt := none
  reviewedBy := none
  createdAt := 0

def box : Product where
  id := "box"
  name := "Gift box"
  price := 100
  imageUrl := none
  category := "accessories"
  isAvailable := true
  stockStatus := "in_stock"
  isFastDelivery := false
  storeId := "shop"

def shop : Store where
  id := "shop"
  name := "Shop"
  status := "approved"
  city := "Riyadh"
  deliveryZones := .arr []

/-- The organization, its product and its store are there. -/
def opened : List (Choice Call) :=
  toEnd (.books { organizations := [acme], products := [box], stores := [shop] })

/-- Huda uploads the roster; its first contact has the identifier that is next. -/
def roster (csv : String) : List (Choice Call) := toEnd (.importRoster "huda" 1 (some csv) "batch")

/-- Huda drafts a campaign. -/
def drafted : List (Choice Call) :=
  toEnd (.createCampaign "huda" 1 { name := some "Eid" } [["QB-AAAA-AAAA"]])

/-- Huda chooses the gift and submits the campaign; Omar approves it. -/
def approved (campaignId : Nat) : List (Choice Call) :=
  toEnd (.setGiftOption "huda" 1 campaignId (some "box")) ++ toEnd (.submitForApproval "huda" 1 campaignId) ++
    toEnd (.approveCampaign "omar" 1 campaignId)

def evenToken : ClaimToken := ⟨"aaaaaaaaaaaaaaaaaaaaaaaaaaaaaaaaaaaaaaaaaaa", by decide⟩

def oddToken : ClaimToken := ⟨"bbbbbbbbbbbbbbbbbbbbbbbbbbbbbbbbbbbbbbbbbbb", by decide⟩

/-- What is drawn for a job, by its number. -/
def drawn (jobId : Nat) : MintDraws where
  token := if jobId % 2 = 0 then evenToken else oddToken
  references := [[if jobId % 2 = 0 then "QG-AAAA-AAAA" else "QG-BBBB-BBBB"]]

/-- A sweep of the queue, every delivery of which succeeds. -/
def delivered : List (Choice Call) := toEnd (.dispatchSweep fun jobId => ⟨drawn jobId, .ok⟩)

end Pilot

end Qift.Campaigns
