import Qift.Campaigns.Service
import Qift.Portal.Claims

/-!
# Dispatch and claim links

`claim-mint.service.ts`, `dispatch.service.ts`, `dispatch-worker.service.ts` and `claim-export.service.ts`.

* `mintForJob` creates the claim of a job, or rotates the token of one that is pending.
* `dispatchCampaign` turns the recipients of an approved campaign into jobs; `DispatchWorker.runOnce` works on a batch.
* `exportCampaignClaimLinks` mints anew for every dispatched job and hands out the links.

What is drawn at random, and what the provider answers, is named by the job.
-/

namespace Qift.Campaigns

open Relational Interleaving

/-! ### Minting -/

/-- 32 random bytes in base64url. -/
abbrev ClaimToken := { token : String // (codeUnits token).length = 43 }

structure MintInput where
  jobId : Nat
  campaignId : Nat
  contactId : Nat

/-- The token, and the references attempt by attempt. -/
structure MintDraws where
  token : ClaimToken
  references : List (List String)

structure Minted where
  claimId : Nat
  giftReference : String
  claimUrl : String

def claimBaseUrl (w : Campaigns) : String :=
  let base := (present w.qiftClaimBaseUrl).getD "https://www.qift.net"
  String.ofList (base.toList.reverse.dropWhile fun c => c = '/').reverse

/-- The contact's phone or e-mail is there. -/
def CorporateContact.reachable (c : CorporateContact) : Bool := (present c.phone).isSome || (present c.email).isSome

/-- The phone, and the e-mail where there is no phone. -/
def CorporateContact.channel (c : CorporateContact) : ClaimChannel :=
  if (present c.phone).isSome then .phone else .email

/-- What a claim snapshots of its campaign. -/
structure MintSource where
  orgDisplayName : String
  campaignMessage : Option String
  giftSnapshot : GiftSnapshot

/-- The campaign with its organization and the snapshot of its one option. -/
def mintSource (campaignId : Nat) (w : Campaigns) : Option MintSource := do
  let campaign ← w.campaigns.find campaignId
  let org ← w.organizations.find? fun o => o.id = campaign.orgId
  let option ← w.options.rows.find? fun o => o.campaignId = campaignId
  let snapshot ← option.approvalSnapshot
  pure
    { orgDisplayName := (present org.displayNameAr).getD org.displayName
      campaignMessage := campaign.message
      giftSnapshot := snapshot }

/-- What a mint writes, whether the claim is new or not. -/
structure ClaimData where
  campaignId : Nat
  contactId : Nat
  tokenHash : String
  recipientName : String
  channel : ClaimChannel
  channelValue : String
  orgDisplayName : String
  campaignMessage : Option String
  giftSnapshot : GiftSnapshot
  expiresAt : Time

/-- The new claim of a job. -/
def ClaimData.claim (data : ClaimData) (jobId id : Nat) (giftReference : String) (now : Time) : ClaimableGift where
  id := id
  campaignId := data.campaignId
  contactId := data.contactId
  jobId := jobId
  tokenHash := data.tokenHash
  giftReference := giftReference
  status := .pending
  recipientName := data.recipientName
  channel := data.channel
  channelValue := data.channelValue
  orgDisplayName := data.orgDisplayName
  campaignMessage := data.campaignMessage
  giftSnapshot := data.giftSnapshot
  sessionTokenHash := none
  sessionExpiresAt := none
  otpVerifiedAt := none
  claimedAt := none
  declinedAt := none
  expiresAt := data.expiresAt
  createdAt := now

/-- A stored claim under a new token; its reference stays. -/
def ClaimData.over (data : ClaimData) (c : ClaimableGift) : ClaimableGift :=
  { c with
    campaignId := data.campaignId
    contactId := data.contactId
    tokenHash := data.tokenHash
    recipientName := data.recipientName
    channel := data.channel
    channelValue := data.channelValue
    orgDisplayName := data.orgDisplayName
    campaignMessage := data.campaignMessage
    giftSnapshot := data.giftSnapshot
    expiresAt := data.expiresAt }

def mintTx (data : ClaimData) (jobId : Nat) (giftReference : String) : Transaction ClaimableGift := do
  let now ← Tx.read Campaigns.now
  let id ← freshId
  claimableGift.create (.p2002 "ClaimableGift") (data.claim jobId id giftReference now)

def rotateTx (data : ClaimData) (claimId : Nat) : Transaction ClaimableGift :=
  claimableGift.replace (.error "record to update not found") (.p2002 "ClaimableGift") claimId data.over

/-- The first free reference of the kind `QG`. -/
def allocateGiftReference (candidates : List String) : Service String :=
  allocateReference "QG" (fun candidate w => w.claims.rows.any fun c => c.giftReference = candidate) candidates
    MAX_ALLOCATION_ATTEMPTS

/-- The claim that exists is rewritten; else one is created, under a reference of its own. -/
def storeClaim (data : ClaimData) (jobId : Nat) (references : List (List String)) (existing : Option ClaimableGift) :
    Service ClaimableGift :=
  match existing with
  | some existing => Svc.transaction (.rotate existing.id) (rotateTx data existing.id)
  | none =>
      createWithReference allocateGiftReference
        (fun giftReference => Svc.transaction (.mint jobId) (mintTx data jobId giftReference)) 2 references

variable [Runtime]

def MintSource.data (source : MintSource) (input : MintInput) (contact : CorporateContact) (token : ClaimToken)
    (expiresAt : Time) : ClaimData where
  campaignId := input.campaignId
  contactId := input.contactId
  tokenHash := Portal.hashClaimToken token
  recipientName := contact.fullName
  channel := contact.channel
  channelValue := contact.bound.getD ""
  orgDisplayName := source.orgDisplayName
  campaignMessage := source.campaignMessage
  giftSnapshot := source.giftSnapshot
  expiresAt := expiresAt

/-- The mint for a contact that was found reachable. -/
def mintFor (input : MintInput) (draws : MintDraws) (existing : Option ClaimableGift) (contact : CorporateContact) :
    Service (Except String Minted) := do
  let source ← Svc.query .read (mintSource input.campaignId)
  match source with
  | none => pure (.error "campaign_snapshot_missing")
  | some source => do
      let expiresAt ← Svc.query .read claimUntil
      let claim ← storeClaim (source.data input contact draws.token expiresAt) input.jobId draws.references existing
      let base ← Svc.query .read claimBaseUrl
      pure (.ok ⟨claim.id, claim.giftReference, base ++ "/claim/" ++ draws.token.val⟩)

def mintForJob (input : MintInput) (draws : MintDraws) : Service (Except String Minted) := do
  let existing ← Svc.query .read fun w => w.claims.rows.find? fun c => c.jobId = input.jobId
  if existing.any fun c => c.status ≠ .pending then pure (.error "claim_already_finalized")
  else do
    let contact ← Svc.query .read fun w => (w.contacts.find input.contactId).filter CorporateContact.reachable
    match contact with
    | none => pure (.error "contact_unreachable")
    | some contact => mintFor input draws existing contact

/-! ### Dispatching a campaign -/

/-- A job for each contact that has none. -/
def enqueueTx (campaignId : Nat) (contactIds : List Nat) : Transaction Nat := do
  let now ← Tx.read Campaigns.now
  let base ← freshIds contactIds.length
  dispatchJob.createManyNew
    (contactIds.mapIdx fun i contactId =>
      { id := base + i
        campaignId := campaignId
        contactId := contactId
        status := .pending
        attempts := 0
        lastError := none
        claimRef := none
        processedAt := none
        createdAt := now })

/-- The flip of the status and the jobs, together. -/
def dispatchTx (orgId campaignId : Nat) (contactIds : List Nat) : Transaction Nat := do
  let now ← Tx.read Campaigns.now
  let flipped ← giftCampaign.updateMany
    (fun c => c.id = campaignId && c.orgId = orgId && c.status = .approved) fun c =>
      { c with status := .dispatching, updatedAt := now }
  Tx.ensure (flipped ≠ 0) (.conflict "campaign_not_dispatchable")
  enqueueTx campaignId contactIds

omit [Runtime] in
/-- `dispatchCampaign`: the number of jobs. -/
def dispatchCampaign (actorUserId : String) (orgId campaignId : Nat) : Service Nat := do
  let campaign ← loadCampaign orgId campaignId
  Svc.ensure (campaign.status = .approved) (.conflict "campaign_not_dispatchable")
  let contactIds ← Svc.query .read fun w =>
    (w.recipients.rows.filter fun r => r.campaignId = campaignId).map CampaignRecipient.contactId
  Svc.ensure (contactIds ≠ []) (.badRequest "campaign_recipients_required")
  let enqueued ← Svc.transaction (.dispatch campaignId contactIds) (dispatchTx orgId campaignId contactIds)
  campaignAudit actorUserId "org.campaign.dispatch" orgId
    [("campaignId", some (toString campaignId)), ("campaignReference", some campaign.referenceNumber),
      ("jobs", some (toString enqueued))]
  pure enqueued

/-! ### The worker -/

def BATCH_SIZE : Nat := 25
def MAX_DISPATCH_ATTEMPTS : Nat := 3

inductive DispatchResult
  | ok
  | error (message : String) (permanent : Bool)

/-- What is drawn for a job, and what the provider answers to its delivery. -/
structure JobAnswer where
  mint : MintDraws
  delivered : DispatchResult

inductive JobOutcome
  /-- Another worker has the job. -/
  | skipped
  | dispatched | retried | failed
  /-- The job threw and stays `processing`. -/
  | crashed
  deriving DecidableEq

/-- The guarded write that takes a job; the number of rows written. -/
def startTx (jobId : Nat) : Transaction Nat :=
  dispatchJob.updateMany (fun j => j.id = jobId && j.status = .pending) fun j =>
    { j with status := .processing, attempts := j.attempts + 1 }

/-- A job is left with a status and an error, guarded by the status it was taken in. -/
def settleTx (jobId : Nat) (target : JobStatus) (lastError : Option String) : Transaction Nat :=
  dispatchJob.updateMany (fun j => j.id = jobId && j.status = .processing) fun j =>
    { j with status := target, lastError := lastError }

/-- A job is done: its claim is noted. -/
def dispatchedTx (jobId claimId : Nat) : Transaction Nat := do
  let now ← Tx.read Campaigns.now
  dispatchJob.updateMany (fun j => j.id = jobId && j.status = .processing) fun j =>
    { j with status := .dispatched, processedAt := some now, lastError := none, claimRef := some claimId }

omit [Runtime] in
def failJob (jobId : Nat) (error : String) : Service JobOutcome := do
  let _ ← Svc.transaction (.settleJob jobId .failed) (settleTx jobId .failed (some error))
  pure .failed

omit [Runtime] in
def settleDelivery (job : DispatchJob) (minted : Minted) : DispatchResult → Service JobOutcome
  | .ok => do
      let _ ← Svc.transaction (.settleJob job.id .dispatched) (dispatchedTx job.id minted.claimId)
      pure .dispatched
  | .error message permanent =>
      if permanent = false ∧ job.attempts + 1 < MAX_DISPATCH_ATTEMPTS then do
        let _ ← Svc.transaction (.settleJob job.id .pending) (settleTx job.id .pending (some message))
        pure .retried
      else failJob job.id message

/-- A job that was taken. -/
def workOn (job : DispatchJob) (answer : JobAnswer) : Service JobOutcome := do
  let contact ← Svc.query .read fun w => w.contacts.find job.contactId
  if contact.any CorporateContact.reachable then do
    let minted ← mintForJob ⟨job.id, job.campaignId, job.contactId⟩ answer.mint
    match minted with
    | .error error => failJob job.id error
    | .ok minted => settleDelivery job minted answer.delivered
  else failJob job.id "contact_unreachable"

/-- One turn of the loop over the batch. -/
def processJob (job : DispatchJob) (answer : JobAnswer) : Service JobOutcome := do
  let claimed ← Svc.transaction (.startJob job.id) (startTx job.id)
  if claimed = 0 then pure .skipped else workOn job answer

/-- The oldest pending jobs. -/
def pendingBatch (w : Campaigns) : List DispatchJob :=
  ((w.jobs.rows.filter fun j => j.status = .pending).insertionSort fun a b => a.createdAt ≤ b.createdAt).take BATCH_SIZE

/-- A job of the campaign is pending or taken. -/
def hasLiveJobs (w : Campaigns) (campaignId : Nat) : Bool :=
  w.jobs.rows.any fun j => j.campaignId = campaignId && (j.status = .pending || j.status = .processing)

/-- `completeFinishedCampaigns`: a dispatching campaign without live jobs is completed. -/
def completeTx : Transaction Nat := do
  let now ← Tx.read Campaigns.now
  let live ← Tx.read hasLiveJobs
  giftCampaign.updateMany (fun c => c.status = .dispatching && !live c.id) fun c =>
    { c with status := .completed, updatedAt := now }

/-- What a sweep of the queue answers with. -/
structure SweepReport where
  processed : Nat
  dispatched : Nat
  failed : Nat
  retried : Nat
  completedCampaigns : Nat
  paused : Bool

def sweepReport (outcomes : List JobOutcome) (completedCampaigns : Nat) : SweepReport where
  processed := outcomes.countP fun o => o ≠ .skipped
  dispatched := outcomes.count .dispatched
  failed := outcomes.count .failed
  retried := outcomes.count .retried
  completedCampaigns := completedCampaigns
  paused := false

/-- `runOnce`; a job that throws does not take the sweep down. -/
def DispatchWorker.runOnce (answers : Nat → JobAnswer) : Service SweepReport := do
  let paused ← Svc.query .read Campaigns.dispatchPaused
  if paused then
    pure { processed := 0, dispatched := 0, failed := 0, retried := 0, completedCampaigns := 0, paused := true }
  else do
    let batch ← Svc.query .read pendingBatch
    let outcomes ← Svc.collect batch fun job =>
      Svc.tryCatch (processJob job (answers job.id)) fun _ => pure .crashed
    let completed ← Svc.transaction .complete completeTx
    pure (sweepReport outcomes completed)

/-! ### The export of claim links -/

def MAX_EXPORT_JOBS : Nat := 1000

/-- A link that is handed out: neither the channel's value nor an address. -/
structure ExportedClaimLink where
  contactName : String
  channel : ClaimChannel
  claimUrl : String
  giftReference : String
  deriving DecidableEq

/-- What the export makes of a job. -/
inductive ExportOutcome
  | exported (link : ExportedClaimLink)
  | skippedFinalized
  | skippedUnreachable
  deriving DecidableEq

def ExportOutcome.link? : ExportOutcome → Option ExportedClaimLink
  | exported link => some link
  | _ => none

/-- The link of a contact that may be gone by now. -/
def exportedLink (contact : Option CorporateContact) (minted : Minted) : ExportedClaimLink where
  contactName := (contact.map CorporateContact.fullName).getD "—"
  channel := (contact.map CorporateContact.channel).getD .email
  claimUrl := minted.claimUrl
  giftReference := minted.giftReference

/-- One turn of the loop over the jobs. -/
def exportJob (campaignId : Nat) (job : DispatchJob) (draws : MintDraws) : Service ExportOutcome := do
  let minted ← mintForJob ⟨job.id, campaignId, job.contactId⟩ draws
  match minted with
  | .error error => pure (if error = "claim_already_finalized" then .skippedFinalized else .skippedUnreachable)
  | .ok minted => do
      let contact ← Svc.query .read fun w => w.contacts.find job.contactId
      pure (.exported (exportedLink contact minted))

/-- What an export answers with. -/
structure ClaimLinkExport where
  campaignId : Nat
  referenceNumber : String
  name : String
  exported : Nat
  skippedFinalized : Nat
  skippedUnreachable : Nat
  links : List ExportedClaimLink

/-- The dispatched jobs of a campaign, the oldest first. -/
def dispatchedJobs (campaignId : Nat) (w : Campaigns) : List DispatchJob :=
  (w.jobs.rows.filter fun j => j.campaignId = campaignId ∧ j.status = .dispatched).insertionSort fun a b =>
    a.createdAt ≤ b.createdAt

/-- The answer for the outcomes of the jobs. -/
def claimLinkExport (campaign : GiftCampaign) (outcomes : List ExportOutcome) : ClaimLinkExport where
  campaignId := campaign.id
  referenceNumber := campaign.referenceNumber
  name := campaign.name
  exported := (outcomes.filterMap ExportOutcome.link?).length
  skippedFinalized := outcomes.count .skippedFinalized
  skippedUnreachable := outcomes.count .skippedUnreachable
  links := outcomes.filterMap ExportOutcome.link?

def exportCampaignClaimLinks (actorUserId : String) (orgId campaignId : Nat) (draws : Nat → MintDraws) :
    Service ClaimLinkExport := do
  let campaign ← loadCampaign orgId campaignId
  let jobs ← Svc.query .read fun w => (dispatchedJobs campaignId w).take MAX_EXPORT_JOBS
  let outcomes ← Svc.collect jobs fun job => exportJob campaignId job (draws job.id)
  let answer := claimLinkExport campaign outcomes
  record
    { actorUserId := some actorUserId
      actorType := "admin"
      action := "admin.org.claim_links.export"
      targetType := "organization"
      targetId := some orgId
      metadata := [("campaignId", some (toString campaignId)), ("campaignReference", some campaign.referenceNumber),
        ("exported", some (toString answer.exported)), ("skippedFinalized", some (toString answer.skippedFinalized)),
        ("skippedUnreachable", some (toString answer.skippedUnreachable))] }
  pure answer

end Qift.Campaigns
