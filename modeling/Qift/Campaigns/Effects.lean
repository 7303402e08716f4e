import Qift.Campaigns.Program
import Qift.Lib.Proviso

/-!
# What an action does

* `Effect V` lists what an atomic action may do to the roster, the recipients, the jobs and the claims, where a claim is
  bound only to a value that `V` allows its contact.
* `program_under` — every action of every call is an `Effect V`, as long as the contacts that are read carry values that
  `V` allows; **`Run.path`** — so every such run is a path of it.
-/

namespace Qift.Campaigns

open Relational Interleaving

/-- The roster, the recipients, the jobs and the claims are left alone. -/
structure Untouched (w w' : Campaigns) : Prop where
  now : w.now ≤ w'.now
  nextId : w.nextId ≤ w'.nextId
  contacts : w'.contacts = w.contacts
  recipients : w'.recipients = w.recipients
  jobs : w'.jobs = w.jobs
  claims : w'.claims = w.claims
  addresses : w'.addresses = w.addresses

theorem Untouched.refl (w : Campaigns) : Untouched w w := ⟨le_rfl, le_rfl, rfl, rfl, rfl, rfl, rfl⟩

def HasJob (jobId campaignId contactId : Nat) (w : Campaigns) : Prop :=
  ∃ j, w.jobs.find jobId = some j ∧ j.campaignId = campaignId ∧ j.contactId = contactId

/-- The claim of a job is stored. -/
def HasClaim (jobId : Nat) (w : Campaigns) : Prop := ∃ c ∈ w.claims.rows, c.jobId = jobId

/-- A write on a claim that leaves alone whom it is for, its link and its expiry. -/
structure Bystander (f : ClaimableGift → ClaimableGift) : Prop where
  campaignId : ∀ c, (f c).campaignId = c.campaignId
  contactId : ∀ c, (f c).contactId = c.contactId
  jobId : ∀ c, (f c).jobId = c.jobId
  tokenHash : ∀ c, (f c).tokenHash = c.tokenHash
  giftReference : ∀ c, (f c).giftReference = c.giftReference
  channelValue : ∀ c, (f c).channelValue = c.channelValue
  expiresAt : ∀ c, (f c).expiresAt = c.expiresAt

def importedContacts (orgId : Nat) (rows : List RosterRow) (batchId : String) (w : Campaigns) : List CorporateContact :=
  rows.mapIdx fun i row => row.contact orgId batchId (retainUntil w) w.now (w.nextId + i)

/-- The recipients that are asked for. -/
def newRecipients (campaignId : Nat) (contactIds : List Nat) (w : Campaigns) : List CampaignRecipient :=
  contactIds.mapIdx fun i contactId => ⟨w.nextId + i, campaignId, contactId⟩

/-- The jobs that are asked for. -/
def newJobs (campaignId : Nat) (contactIds : List Nat) (w : Campaigns) : List DispatchJob :=
  contactIds.mapIdx fun i contactId =>
    { id := w.nextId + i
      campaignId := campaignId
      contactId := contactId
      status := .pending
      attempts := 0
      lastError := none
      claimRef := none
      processedAt := none
      createdAt := w.now }

/-- The write of `archiveContact`. -/
def archived (w : Campaigns) (c : CorporateContact) : CorporateContact :=
  { c with status := .archived, archivedAt := some w.now, purgeAfter := graceUntil w }

/-- The contacts that a sweep deletes. -/
def sweptIds (w : Campaigns) : List Nat := (w.contacts.rows.filter (purgeable w)).map CorporateContact.id

/-- What an atomic action may do under its label. -/
inductive Effect (V : Nat → String → Prop) : Step → Campaigns → Campaigns → Prop
  | frame {w w' : Campaigns} (l : Step) (hl : l ≠ .sweep) (h : Untouched w w') : Effect V l w w'
  | importRows {w : Campaigns} (orgId : Nat) (rows : List RosterRow) (batchId : String)
      (hall : Table.newRows CorporateContact.id (fun _ _ => false) w.contacts.rows (importedContacts orgId rows batchId w) =
        importedContacts orgId rows batchId w) :
      Effect V (.importRows orgId rows) w
        { w with
          contacts := w.contacts.insertNew (fun _ _ => false) (importedContacts orgId rows batchId w)
          nextId := w.nextId + rows.length }
  | archive {w : Campaigns} (orgId contactId : Nat) :
      Effect V (.archive orgId contactId) w
        { w with
          contacts := w.contacts.updateMany (fun c => c.id = contactId && c.orgId = orgId && c.status = .active)
            (archived w) fun _ => rfl }
  | addRecipients {w : Campaigns} (campaignId : Nat) (contactIds : List Nat) :
      Effect V (.addRecipients campaignId contactIds) w
        { w with
          recipients := w.recipients.insertNew campaignRecipient.conflict (newRecipients campaignId contactIds w)
          nextId := w.nextId + contactIds.length }
  | removeRecipient {w : Campaigns} (campaignId recipientId : Nat) (p : CampaignRecipient → Bool) :
      Effect V (.removeRecipient campaignId recipientId) w { w with recipients := w.recipients.deleteMany p }
  /-- The jobs of a campaign that is found approved. -/
  | dispatch {w : Campaigns} (campaignId : Nat) (contactIds : List Nat) (cs : Table GiftCampaign.id)
      (happroved : ∃ c, w.campaigns.find campaignId = some c ∧ c.status = .approved) :
      Effect V (.dispatch campaignId contactIds) w
        { w with
          campaigns := cs
          jobs := w.jobs.insertNew dispatchJob.conflict (newJobs campaignId contactIds w)
          nextId := w.nextId + contactIds.length }
  | startJob {w : Campaigns} (jobId : Nat) :
      Effect V (.startJob jobId) w
        { w with
          jobs := w.jobs.updateMany (fun j => j.id = jobId && j.status = .pending)
            (fun j => { j with status := .processing, attempts := j.attempts + 1 }) fun _ => rfl }
  /-- A job is called dispatched only when its claim is stored. -/
  | settleJob {w : Campaigns} (jobId : Nat) (target : JobStatus) (f : DispatchJob → DispatchJob) (hf : ∀ j, (f j).id = j.id)
      (hcampaign : ∀ j, (f j).campaignId = j.campaignId) (hcontact : ∀ j, (f j).contactId = j.contactId)
      (hstatus : ∀ j, (f j).status = target) (hclaim : target = .dispatched → HasClaim jobId w) :
      Effect V (.settleJob jobId target) w
        { w with jobs := w.jobs.updateMany (fun j => j.id = jobId && j.status = .processing) f hf }
  | mint {w : Campaigns} (jobId : Nat) (data : ClaimData) (giftReference : String) (t : Table ClaimableGift.id)
      (hjob : HasJob jobId data.campaignId data.contactId w) (hvalue : V data.contactId data.channelValue)
      (hfree : ∀ c ∈ w.claims.rows, claimableGift.conflict (data.claim jobId w.nextId giftReference w.now) c = false)
      (hcreate : w.claims.create (data.claim jobId w.nextId giftReference w.now) = some t) :
      Effect V (.mint jobId) w { w with claims := t, nextId := w.nextId + 1 }
  | rotate {w : Campaigns} (data : ClaimData) (c : ClaimableGift) (hc : c ∈ w.claims.rows)
      (hjob : HasJob c.jobId data.campaignId data.contactId w) (hvalue : V data.contactId data.channelValue)
      (hfree : ∀ x ∈ w.claims.rows, x.id ≠ c.id → claimableGift.conflict (data.over c) x = false) :
      Effect V (.rotate c.id) w { w with claims := w.claims.update c.id data.over fun _ => rfl }
  /-- A claim is expired, entered or turned down; one that has ended is not ended again. -/
  | touch {w : Campaigns} (l : Step) (hl : l ≠ .sweep) (p : ClaimableGift → Bool) (f : ClaimableGift → ClaimableGift)
      (hf : ∀ c, (f c).id = c.id) (hby : Bystander f)
      (hstatus : ∀ c, p c = true → (f c).status = c.status ∨ c.status = .pending ∧ (f c).status ≠ .claimed) :
      Effect V l w { w with claims := w.claims.updateMany p f hf }
  | claim {w : Campaigns} (claimId : Nat) (address : SubmittedAddress) (t : Table ClaimAddress.claimId)
      (hpending : ∃ c, w.claims.find claimId = some c ∧ c.status = .pending)
      (hcreate : w.addresses.create ⟨claimId, address⟩ = some t) :
      Effect V (.claim claimId address) w
        { w with
          claims := w.claims.updateMany (fun c => c.id = claimId && c.status = .pending)
            (fun c => { c with status := .claimed, claimedAt := some w.now }) fun _ => rfl
          addresses := t }
  | sweep {w : Campaigns} :
      Effect V .sweep w
        { w with
          contacts := w.contacts.deleteMany (purgeable w)
          recipients := w.recipients.deleteMany fun r => r.contactId ∈ sweptIds w }

/-! ### Simple actions -/

section Actions

variable {V : Nat → String → Prop} {α : Type} {l : Step}

theorem Effect.read (w : Campaigns) : Effect V .read w w := .frame .read nofun (Untouched.refl w)

theorem query_does (f : Campaigns → α) : Svc.Does (Effect V) (Svc.query .read f : Service α) :=
  Svc.Does.query Effect.read f

/-- A write that is refused leaves everything alone. -/
theorem write_does {tx : Transaction α} (h : ∀ w a w', tx w = .ok (a, w') → Effect V l w w')
    (hl : l ≠ .sweep) : Svc.Does (Effect V) (Svc.transaction l tx) :=
  Svc.Does.transaction h fun w _ _ => .frame l hl (Untouched.refl w)

theorem frame_does {tx : Transaction α} (h : ∀ w a w', tx w = .ok (a, w') → Untouched w w')
    (hl : l ≠ .sweep) : Svc.Does (Effect V) (Svc.transaction l tx) :=
  write_does (fun w a w' htx => .frame l hl (h w a w' htx)) hl

theorem record_does (r : Organizations.AuditRecord) : Svc.Does (Effect V) (record r) := by
  refine frame_does (fun w a w' h => ?_) nofun
  obtain rfl := Tx.modify_eq_ok.mp h
  exact ⟨le_rfl, le_rfl, rfl, rfl, rfl, rfl, rfl⟩

theorem orgAudit_does (actorUserId : Option String) (action : String) (orgId : Option Nat)
    (metadata : List (String × Option String)) : Svc.Does (Effect V) (orgAudit actorUserId action orgId metadata) :=
  record_does _

theorem map_does {β : Type} {x : Service α} (hx : Svc.Does (Effect V) x) (f : α → β) : Svc.Does (Effect V) (f <$> x) :=
  Svc.Does.bind hx fun _ => Svc.Does.pure _

theorem environment_does {f : Campaigns → Campaigns} (hf : ∀ w, Untouched w (f w)) :
    Svc.Does (Effect V) (environment f) := by
  refine map_does (frame_does (l := .environment) (fun w a w' h => ?_) nofun) _
  obtain rfl := Tx.modify_eq_ok.mp h
  exact hf w

theorem loadCampaign_does (orgId campaignId : Nat) : Svc.Does (Effect V) (loadCampaign orgId campaignId) := by
  refine Svc.Does.bind (query_does _) fun campaign => ?_
  cases campaign with
  | none => exact Svc.Does.fail _
  | some campaign => exact Svc.Does.pure campaign

theorem assertEditable_does (status : CampaignStatus) : Svc.Does (Effect V) (assertEditable status) :=
  Svc.Does.ensure _ _

theorem allocateReference_does (kind : String) (isTaken : String → Campaigns → Bool) (candidates : List String)
    (attempts : Nat) : Svc.Does (Effect V) (allocateReference kind isTaken candidates attempts) := by
  induction candidates generalizing attempts with
  | nil => exact Svc.Does.fail _
  | cons candidate rest ih =>
      cases attempts with
      | zero => exact Svc.Does.fail _
      | succ attempts =>
          refine Svc.Does.bind (query_does _) fun taken => ?_
          cases taken with
          | true => exact ih attempts
          | false => exact Svc.Does.pure candidate

end Actions

/-! ### The roster -/

section Roster

variable {V : Nat → String → Prop}

theorem insertRows_does (orgId : Nat) (rows : List RosterRow) (batchId : String) :
    Svc.Does (Effect V) (insertRows orgId rows batchId) := by
  unfold insertRows
  split
  · exact Svc.Does.pure ()
  refine write_does (fun w a w' h => ?_) nofun
  obtain ⟨now, w₁, hnow, h⟩ := Tx.bind_eq_ok.mp h
  obtain ⟨rfl, rfl⟩ := Tx.read_eq_ok.mp hnow
  obtain ⟨purgeAfter, w₂, hpurge, h⟩ := Tx.bind_eq_ok.mp h
  obtain ⟨rfl, rfl⟩ := Tx.read_eq_ok.mp hpurge
  obtain ⟨base, w₃, hbase, h⟩ := Tx.bind_eq_ok.mp h
  cases hbase
  obtain ⟨hall, rfl⟩ := Delegate.createMany_eq_ok.mp h
  exact .importRows orgId rows batchId hall

theorem importRoster_does (actorUserId : String) (orgId : Nat) (csv : Option String) (batchId : String) :
    Svc.Does (Effect V) (importRoster actorUserId orgId csv batchId) := by
  unfold importRoster
  split
  · exact Svc.Does.fail _
  refine Svc.Does.bind (query_does _) fun org => ?_
  cases org with
  | none => exact Svc.Does.fail _
  | some org =>
      refine Svc.Does.bind (Svc.Does.ensure _ _) fun _ => ?_
      split
      · exact Svc.Does.pure _
      · refine map_does (Svc.Does.bind (query_does _) fun taken => ?_) _
        refine Svc.Does.bind (insertRows_does _ _ _) fun _ => ?_
        exact Svc.Does.bind (orgAudit_does _ _ _ _) fun _ => Svc.Does.pure _

theorem archiveContact_does (actorUserId : String) (orgId contactId : Nat) :
    Svc.Does (Effect V) (archiveContact actorUserId orgId contactId) := by
  refine Svc.Does.bind (write_does (fun w a w' h => ?_) nofun) fun count => ?_
  · obtain ⟨now, w₁, hnow, h⟩ := Tx.bind_eq_ok.mp h
    obtain ⟨rfl, rfl⟩ := Tx.read_eq_ok.mp hnow
    obtain ⟨purgeAfter, w₂, hpurge, h⟩ := Tx.bind_eq_ok.mp h
    obtain ⟨rfl, rfl⟩ := Tx.read_eq_ok.mp hpurge
    obtain ⟨-, rfl⟩ := Delegate.updateMany_eq_ok.mp h
    exact .archive orgId contactId
  · exact Svc.Does.bind (Svc.Does.ensure _ _) fun _ => orgAudit_does _ _ _ _

theorem purge_does : Svc.Does (Effect V) RosterPurge.runOnce := by
  refine Svc.Does.tryCatch (Svc.Does.bind (Svc.Does.transaction (fun w a w' h => ?_) fun w e h => ?_) fun deleted => ?_)
    fun _ => Svc.Does.pure 0
  · obtain ⟨expired, w₁, hexpired, h⟩ := Tx.bind_eq_ok.mp h
    obtain ⟨rfl, rfl⟩ := Tx.read_eq_ok.mp hexpired
    obtain ⟨gone, w₂, hgone, h⟩ := Tx.bind_eq_ok.mp h
    obtain ⟨rfl, rfl⟩ := Tx.read_eq_ok.mp hgone
    obtain ⟨count, w₃, hcontacts, h⟩ := Tx.bind_eq_ok.mp h
    obtain ⟨-, rfl⟩ := Delegate.deleteMany_eq_ok.mp hcontacts
    obtain ⟨count', w₄, hrecipients, h⟩ := Tx.bind_eq_ok.mp h
    obtain ⟨-, rfl⟩ := Delegate.deleteMany_eq_ok.mp hrecipients
    obtain ⟨-, rfl⟩ := Tx.pure_eq_ok.mp h
    exact .sweep
  · -- nothing refuses the deletion
    cases h
  · refine Svc.Does.bind ?_ fun _ => Svc.Does.pure deleted
    unfold RosterPurge.report
    split
    · exact record_does _
    · exact Svc.Does.pure ()

end Roster

/-! ### Campaigns -/

section Drafting

variable {V : Nat → String → Prop} {l : Step}

theorem writeCampaign_untouched {campaignId : Nat} {f : Time → GiftCampaign → GiftCampaign}
    {hf : ∀ now c, (f now c).id = c.id} {w w' : Campaigns} {a : GiftCampaign}
    (h : writeCampaign campaignId f hf w = .ok (a, w')) : Untouched w w' := by
  obtain ⟨now, w₁, hnow, h⟩ := Tx.bind_eq_ok.mp h
  obtain ⟨-, rfl⟩ := Tx.read_eq_ok.mp hnow
  obtain ⟨c, -, -, rfl⟩ := Delegate.update_eq_ok.mp h
  exact ⟨le_rfl, le_rfl, rfl, rfl, rfl, rfl, rfl⟩

theorem writeCampaign_does (campaignId : Nat) (f : Time → GiftCampaign → GiftCampaign)
    (hf : ∀ now c, (f now c).id = c.id) (hl : l ≠ .sweep) :
    Svc.Does (Effect V) (Svc.transaction l (writeCampaign campaignId f hf)) :=
  frame_does (fun _ _ _ h => writeCampaign_untouched h) hl

theorem createWithReference_does {α : Type} {allocate : List String → Service String} {create : String → Service α}
    (hallocate : ∀ candidates, Svc.Does (Effect V) (allocate candidates))
    (hcreate : ∀ reference, Svc.Does (Effect V) (create reference)) (retries : Nat) (draws : List (List String)) :
    Svc.Does (Effect V) (createWithReference allocate create retries draws) := by
  induction retries generalizing draws with
  | zero => exact Svc.Does.bind (hallocate _) hcreate
  | succ retries ih =>
      refine Svc.Does.bind (hallocate _) fun reference => Svc.Does.tryCatch (hcreate reference) fun e => ?_
      cases e with
      | p2002 target => exact ih _
      | badRequest | conflict | notFound | forbidden | error => exact Svc.Does.fail _

theorem createCampaign_does (actorUserId : String) (orgId : Nat) (body : CampaignDraftInput)
    (draws : List (List String)) : Svc.Does (Effect V) (createCampaign actorUserId orgId body draws) := by
  unfold createCampaign
  split
  · exact Svc.Does.fail _
  refine Svc.Does.bind (query_does _) fun org => ?_
  cases org with
  | none => exact Svc.Does.fail _
  | some org =>
      refine Svc.Does.bind (Svc.Does.ensure _ _) fun _ => Svc.Does.bind ?_ fun campaign =>
        Svc.Does.bind (orgAudit_does _ _ _ _) fun _ => Svc.Does.pure _
      refine createWithReference_does (fun _ => allocateReference_does _ _ _ _) (fun reference => ?_) 2 draws
      refine frame_does (fun w a w' h => ?_) nofun
      obtain ⟨now, w₁, hnow, h⟩ := Tx.bind_eq_ok.mp h
      obtain ⟨-, rfl⟩ := Tx.read_eq_ok.mp hnow
      obtain ⟨id, w₂, hid, h⟩ := Tx.bind_eq_ok.mp h
      cases hid
      obtain ⟨t, -, -, -, rfl⟩ := Delegate.create_eq_ok.mp h
      exact ⟨le_rfl, Nat.le_succ _, rfl, rfl, rfl, rfl, rfl⟩

theorem updateCampaign_does (orgId campaignId : Nat) (body : CampaignDraftInput) :
    Svc.Does (Effect V) (updateCampaign orgId campaignId body) := by
  refine Svc.Does.bind (loadCampaign_does _ _) fun campaign => Svc.Does.bind (assertEditable_does _) fun _ => ?_
  refine Svc.Does.bind (Svc.Does.ensure _ _) fun _ => ?_
  exact Svc.Does.bind (writeCampaign_does _ _ _ nofun) fun _ => Svc.Does.pure _

theorem setGiftOption_does (actorUserId : String) (orgId campaignId : Nat) (productId : Option String) :
    Svc.Does (Effect V) (setGiftOption actorUserId orgId campaignId productId) := by
  unfold setGiftOption
  split
  · exact Svc.Does.fail _
  refine Svc.Does.bind (loadCampaign_does _ _) fun campaign => Svc.Does.bind (assertEditable_does _) fun _ => ?_
  refine Svc.Does.bind (query_does _) fun product => Svc.Does.bind (Svc.Does.ensure _ _) fun _ => ?_
  refine Svc.Does.bind (frame_does (fun w a w' h => ?_) nofun) fun _ => orgAudit_does _ _ _ _
  obtain ⟨count, w₁, hdelete, h⟩ := Tx.bind_eq_ok.mp h
  obtain ⟨-, rfl⟩ := Delegate.deleteMany_eq_ok.mp hdelete
  obtain ⟨id, w₂, hid, h⟩ := Tx.bind_eq_ok.mp h
  cases hid
  obtain ⟨o, w₃, hcreate, h⟩ := Tx.bind_eq_ok.mp h
  obtain ⟨t, -, -, -, rfl⟩ := Delegate.create_eq_ok.mp hcreate
  obtain ⟨-, rfl⟩ := Tx.pure_eq_ok.mp h
  exact ⟨le_rfl, Nat.le_succ _, rfl, rfl, rfl, rfl, rfl⟩

theorem addRecipients_does (actorUserId : String) (orgId campaignId : Nat) (contactIds : Option (List Nat)) :
    Svc.Does (Effect V) (addRecipients actorUserId orgId campaignId contactIds) := by
  unfold addRecipients
  split
  · exact Svc.Does.fail _
  refine Svc.Does.bind (loadCampaign_does _ _) fun campaign => Svc.Does.bind (assertEditable_does _) fun _ => ?_
  refine Svc.Does.bind (query_does _) fun validIds => Svc.Does.bind (query_does _) fun current => ?_
  refine Svc.Does.bind (Svc.Does.ensure _ _) fun _ => Svc.Does.bind (write_does (fun w a w' h => ?_) nofun) fun added =>
    Svc.Does.bind (orgAudit_does _ _ _ _) fun _ => Svc.Does.pure _
  obtain ⟨known, w₁, hknown, h⟩ := Tx.bind_eq_ok.mp h
  obtain ⟨-, rfl⟩ := Tx.read_eq_ok.mp hknown
  obtain ⟨_, w₂, hensure, h⟩ := Tx.bind_eq_ok.mp h
  obtain ⟨-, rfl⟩ := Tx.ensure_eq_ok.mp hensure
  obtain ⟨base, w₃, hbase, h⟩ := Tx.bind_eq_ok.mp h
  cases hbase
  obtain ⟨-, rfl⟩ := Delegate.createManyNew_eq_ok.mp h
  exact .addRecipients campaignId validIds

theorem removeRecipient_does (orgId campaignId recipientId : Nat) :
    Svc.Does (Effect V) (removeRecipient orgId campaignId recipientId) := by
  refine Svc.Does.bind (loadCampaign_does _ _) fun campaign => Svc.Does.bind (assertEditable_does _) fun _ => ?_
  refine Svc.Does.bind (write_does (fun w a w' h => ?_) nofun) fun count => Svc.Does.ensure _ _
  obtain ⟨-, rfl⟩ := Delegate.deleteMany_eq_ok.mp h
  exact .removeRecipient campaignId recipientId _

theorem submitForApproval_does (actorUserId : String) (orgId campaignId : Nat) :
    Svc.Does (Effect V) (submitForApproval actorUserId orgId campaignId) := by
  refine Svc.Does.bind (loadCampaign_does _ _) fun campaign => Svc.Does.bind (assertEditable_does _) fun _ => ?_
  refine Svc.Does.bind (query_does _) fun optionCount => Svc.Does.bind (query_does _) fun recipients => ?_
  refine Svc.Does.bind (Svc.Does.ensure _ _) fun _ => Svc.Does.bind (Svc.Does.ensure _ _) fun _ => ?_
  refine Svc.Does.bind (writeCampaign_does _ _ _ nofun) fun updated => ?_
  exact Svc.Does.bind (orgAudit_does _ _ _ _) fun _ => Svc.Does.pure _

theorem approveCampaign_does (actorUserId : String) (orgId campaignId : Nat) :
    Svc.Does (Effect V) (approveCampaign actorUserId orgId campaignId) := by
  refine Svc.Does.bind (loadCampaign_does _ _) fun campaign => Svc.Does.bind (Svc.Does.ensure _ _) fun _ => ?_
  refine Svc.Does.bind (Svc.Does.ensure _ _) fun _ => Svc.Does.bind (query_does _) fun option => ?_
  cases option with
  | none => exact Svc.Does.fail _
  | some option =>
      refine Svc.Does.bind (query_does _) fun live => ?_
      cases live with
      | none => exact Svc.Does.fail _
      | some live =>
          refine Svc.Does.bind (frame_does (fun w a w' h => ?_) nofun) fun updated =>
            Svc.Does.bind (orgAudit_does _ _ _ _) fun _ => Svc.Does.pure _
          obtain ⟨updated, w₁, hwrite, h⟩ := Tx.bind_eq_ok.mp h
          obtain ⟨now, w₂, hnow, h⟩ := Tx.bind_eq_ok.mp h
          obtain ⟨-, rfl⟩ := Tx.read_eq_ok.mp hnow
          obtain ⟨o, w₃, hupdate, h⟩ := Tx.bind_eq_ok.mp h
          obtain ⟨o', -, -, rfl⟩ := Delegate.update_eq_ok.mp hupdate
          obtain ⟨-, rfl⟩ := Tx.pure_eq_ok.mp h
          obtain ⟨hnow, hnext, hcontacts, hrecipients, hjobs, hclaims, haddresses⟩ := writeCampaign_untouched hwrite
          exact ⟨hnow, hnext, hcontacts, hrecipients, hjobs, hclaims, haddresses⟩

theorem requestChanges_does (actorUserId : String) (orgId campaignId : Nat) (note : Option String) :
    Svc.Does (Effect V) (requestChanges actorUserId orgId campaignId note) := by
  unfold requestChanges
  split
  · exact Svc.Does.fail _
  refine Svc.Does.bind (loadCampaign_does _ _) fun campaign => Svc.Does.bind (Svc.Does.ensure _ _) fun _ => ?_
  refine Svc.Does.bind (Svc.Does.ensure _ _) fun _ => Svc.Does.bind (writeCampaign_does _ _ _ nofun) fun updated => ?_
  exact Svc.Does.bind (orgAudit_does _ _ _ _) fun _ => Svc.Does.pure _

theorem cancelCampaign_does (actorUserId : String) (orgId campaignId : Nat) :
    Svc.Does (Effect V) (cancelCampaign actorUserId orgId campaignId) := by
  refine Svc.Does.bind (loadCampaign_does _ _) fun campaign => Svc.Does.bind (Svc.Does.ensure _ _) fun _ => ?_
  refine Svc.Does.bind (writeCampaign_does _ _ _ nofun) fun updated => ?_
  exact Svc.Does.bind (orgAudit_does _ _ _ _) fun _ => Svc.Does.pure _

theorem dispatchCampaign_does (actorUserId : String) (orgId campaignId : Nat) :
    Svc.Does (Effect V) (dispatchCampaign actorUserId orgId campaignId) := by
  refine Svc.Does.bind (loadCampaign_does _ _) fun campaign => Svc.Does.bind (Svc.Does.ensure _ _) fun _ => ?_
  refine Svc.Does.bind (query_does _) fun contactIds => Svc.Does.bind (Svc.Does.ensure _ _) fun _ => ?_
  refine Svc.Does.bind (write_does (fun w a w' h => ?_) nofun) fun enqueued =>
    Svc.Does.bind (orgAudit_does _ _ _ _) fun _ => Svc.Does.pure _
  obtain ⟨now, w₁, hnow, h⟩ := Tx.bind_eq_ok.mp h
  obtain ⟨rfl, rfl⟩ := Tx.read_eq_ok.mp hnow
  obtain ⟨flipped, w₂, hflip, h⟩ := Tx.bind_eq_ok.mp h
  obtain ⟨hflipped, rfl⟩ := Delegate.updateMany_eq_ok.mp hflip
  obtain ⟨_, w₃, hensure, h⟩ := Tx.bind_eq_ok.mp h
  obtain ⟨hsome, rfl⟩ := Tx.ensure_eq_ok.mp hensure
  obtain ⟨now', w₄, hnow', h⟩ := Tx.bind_eq_ok.mp h
  obtain ⟨rfl, rfl⟩ := Tx.read_eq_ok.mp hnow'
  obtain ⟨base, w₅, hbase, h⟩ := Tx.bind_eq_ok.mp h
  cases hbase
  obtain ⟨-, rfl⟩ := Delegate.createManyNew_eq_ok.mp h
  refine .dispatch campaignId contactIds _ ?_
  rw [hflipped] at hsome
  obtain ⟨c, hc, hmatch⟩ := Table.count_pos (k := campaignId) (fun c hc => by simp_all) hsome
  exact ⟨c, hc, by simp_all⟩

end Drafting

end Qift.Campaigns
