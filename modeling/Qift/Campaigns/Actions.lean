import Qift.Campaigns.Funnel

/-!
# What becomes of a campaign

* `Turn` — what an action may do to a campaign under its label; `Acts` — the campaigns turn, a draft is added, or they
  are left alone.
* `program_acts` — every action of every call is one of these, and whoever approves a campaign did not create it.
* **`Run.acts_of_mem`** — so is every event of a run. `Effect.job_from` and `Effect.job_turn` say as much of a job.
-/

namespace Qift.Campaigns

open Relational Relational.Table Interleaving

/-- The states a campaign may move to. -/
def CampaignStatus.next : CampaignStatus → List CampaignStatus
  | draft => [pending_approval, cancelled]
  | changes_requested => [pending_approval, cancelled]
  | pending_approval => [approved, changes_requested, cancelled]
  | approved => [dispatching, cancelled]
  | dispatching => [completed]
  | completed => []
  | cancelled => []

/-- A status a campaign is given; one that is set follows the status its call had found. -/
inductive Moves (w : Campaigns) (c : GiftCampaign) : Step → CampaignStatus → Prop
  | set (found target : CampaignStatus) (h : target ∈ found.next) (hset : target ∉ [.dispatching, .completed]) :
      Moves w c (.setStatus c.id found target) target
  | dispatch (contactIds : List Nat) (h : c.status = .approved) : Moves w c (.dispatch c.id contactIds) .dispatching
  | complete (h : c.status = .dispatching) (hdone : hasLiveJobs w c.id = false) : Moves w c .complete .completed

/-- What an action does to a campaign. -/
structure Turn (l : Step) (w : Campaigns) (c c' : GiftCampaign) : Prop where
  createdBy : c'.createdBy = c.createdBy
  status : c'.status = c.status ∨ Moves w c l c'.status
  approvedBy : c'.approvedBy = c.approvedBy ∨ ∃ a, c'.approvedBy = some a ∧ a ≠ c.createdBy
  signed : c'.status = .approved → c.status = .approved ∨ ∃ a, c'.approvedBy = some a ∧ a ≠ c.createdBy

theorem Turn.refl (l : Step) (w : Campaigns) (c : GiftCampaign) : Turn l w c c :=
  ⟨rfl, .inl rfl, .inl rfl, .inl⟩

/-- The labels of the actions that leave the campaigns alone. -/
@[grind] def Step.sparing : Step → Bool
  | .createCampaign | .editCampaign _ | .setStatus _ _ _ | .dispatch _ _ | .complete => false
  | _ => true

/-- What an action does to the campaigns: nothing, a new draft, or turns of some. A dispatch leaves its own
dispatching. -/
inductive Acts : Step → Campaigns → Campaigns → Prop
  | idle (l : Step) (w : Campaigns) : Acts l w w
  | spared {l : Step} {w w' : Campaigns} (hl : l.sparing = true) (h : w'.campaigns = w.campaigns) : Acts l w w'
  | create {w w' : Campaigns} (c : GiftCampaign) (hcreate : w.campaigns.create c = some w'.campaigns)
      (hdraft : c.status = .draft) (hunsigned : c.approvedBy = none) : Acts .createCampaign w w'
  | turn {l : Step} {w w' : Campaigns} (p : GiftCampaign → Bool) (f : GiftCampaign → GiftCampaign)
      (hf : ∀ c, (f c).id = c.id) (h : w'.campaigns = w.campaigns.updateMany p f hf)
      (hturn : ∀ c ∈ w.campaigns.rows, p c = true → Turn l w c (f c))
      (hsent : ∀ campaignId contactIds, l = .dispatch campaignId contactIds →
        ∃ c, w'.campaigns.find campaignId = some c ∧ c.status = .dispatching) : Acts l w w'

/-! ### Campaigns -/

section Campaign

variable {l : Step} {w w' : Campaigns}

theorem Acts.campaign_turn (h : Acts l w w') : Evolves (Turn l w) w.campaigns w'.campaigns := by
  cases h with
  | idle => exact Evolves.refl (Turn.refl l w) _
  | spared hl hsame =>
      rw [hsame]
      exact Evolves.refl (Turn.refl l w) _
  | create c hcreate => exact Evolves.create (Turn.refl _ w) hcreate
  | turn p f hf hwrite hturn =>
      rw [hwrite]
      exact Evolves.updateMany (Turn.refl l w) rfl hf hturn

theorem Acts.campaign_from (h : Acts l w w') {c' : GiftCampaign} (hc' : c' ∈ w'.campaigns.rows) :
    (∃ c ∈ w.campaigns.rows, c'.id = c.id ∧ Turn l w c c') ∨ c'.status = .draft ∧ c'.approvedBy = none := by
  cases h with
  | idle => exact .inl ⟨c', hc', rfl, Turn.refl l w c'⟩
  | spared hl hsame => exact .inl ⟨c', hsame ▸ hc', rfl, Turn.refl l w c'⟩
  | create c hcreate hdraft hunsigned =>
      rcases (mem_create hcreate).mp hc' with hold | rfl
      · exact .inl ⟨c', hold, rfl, Turn.refl _ w c'⟩
      · exact .inr ⟨hdraft, hunsigned⟩
  | turn p f hf hwrite hturn =>
      rw [hwrite] at hc'
      obtain ⟨c, hc, rfl⟩ := of_mem_updateMany hf hc'
      refine .inl ⟨c, hc, ?_⟩
      split
      · exact ⟨hf c, hturn c hc (by assumption)⟩
      · exact ⟨rfl, Turn.refl l w c⟩

theorem Acts.dispatching {campaignId : Nat} {contactIds : List Nat} (h : Acts (.dispatch campaignId contactIds) w w') :
    w = w' ∨ ∃ c, w'.campaigns.find campaignId = some c ∧ c.status = .dispatching := by
  cases h with
  | idle => exact .inl rfl
  | spared hl => cases hl
  | turn p f hf hwrite hturn hsent => exact .inr (hsent campaignId contactIds rfl)

/-- A campaign of a creator is stored. -/
def CreatedBy (campaignId : Nat) (creator : String) (w : Campaigns) : Prop :=
  ∃ c, w.campaigns.find campaignId = some c ∧ c.createdBy = creator

theorem CreatedBy.among {campaignId : Nat} {creator : String} (h : CreatedBy campaignId creator w)
    (hrely : Rely Acts w w') : CreatedBy campaignId creator w' := by
  refine Rely.stable (fun l s t hact hs => ?_) hrely h
  obtain ⟨c, hc, hcreator⟩ := hs
  obtain ⟨c', hc', hturn⟩ := hact.campaign_turn _ _ hc
  exact ⟨c', hc', hturn.createdBy.trans hcreator⟩

end Campaign

/-! ### Jobs -/

/-- What an action does to a job. -/
structure JobTurn (j j' : DispatchJob) : Prop where
  id : j'.id = j.id
  campaignId : j'.campaignId = j.campaignId
  contactId : j'.contactId = j.contactId
  turn : j' = j ∨ j.status = .pending ∧ j'.status = .processing ∨
    j.status = .processing

theorem JobTurn.refl (j : DispatchJob) : JobTurn j j := ⟨rfl, rfl, rfl, .inl rfl⟩

section Job

variable {V : Nat → String → Prop} {l : Step} {w w' : Campaigns}

theorem Effect.job_from (h : Effect V l w w') {j' : DispatchJob} (hj' : j' ∈ w'.jobs.rows) :
    (∃ j ∈ w.jobs.rows, JobTurn j j') ∨ (∃ contactIds, l = .dispatch j'.campaignId contactIds) ∧
      j'.status = .pending ∧ (∀ j ∈ w.jobs.rows, j.id ≠ j'.id) ∧
        ∃ c, w.campaigns.find j'.campaignId = some c ∧ c.status = .approved := by
  cases h with
  | frame _ _ hsame => exact .inl ⟨j', hsame.jobs ▸ hj', .refl j'⟩
  | dispatch campaignId contactIds cs happroved =>
      rcases mem_insertNew.mp hj' with hold | hnew
      · exact .inl ⟨j', hold, .refl j'⟩
      · have hfresh : ∀ j ∈ w.jobs.rows, j.id ≠ j'.id := fun j hj => key_of_not_collides (newRows_free hnew hj)
        obtain ⟨i, hi, rfl⟩ := List.mem_mapIdx.mp (newRows_sublist.subset hnew)
        exact .inr ⟨⟨contactIds, rfl⟩, rfl, hfresh, happroved⟩
  | startJob jobId =>
      obtain ⟨j, hj, rfl⟩ := of_mem_updateMany (fun _ => by rfl) hj'
      refine .inl ⟨j, hj, ?_⟩
      split
      · rename_i hmatch
        simp only [Bool.and_eq_true, decide_eq_true_eq] at hmatch
        exact ⟨rfl, rfl, rfl, .inr (.inl ⟨hmatch.2, rfl⟩)⟩
      · exact .refl j
  | settleJob jobId target f hf hcampaign hcontact hstatus =>
      obtain ⟨j, hj, rfl⟩ := of_mem_updateMany hf hj'
      refine .inl ⟨j, hj, ?_⟩
      split
      · rename_i hmatch
        simp only [Bool.and_eq_true, decide_eq_true_eq] at hmatch
        exact ⟨hf j, hcampaign j, hcontact j, .inr (.inr hmatch.2)⟩
      · exact .refl j
  | importRows | archive | addRecipients | removeRecipient | mint | rotate | touch | claim | sweep =>
      exact .inl ⟨j', hj', .refl j'⟩

theorem Effect.job_turn (h : Effect V l w w') {j : DispatchJob} (hj : j ∈ w.jobs.rows) :
    ∃ j' ∈ w'.jobs.rows, JobTurn j j' := by
  obtain ⟨j', hj', -, -⟩ := (hasJob_of_mem hj).step h
  have hid := key_of_find hj'
  rcases h.job_from (mem_of_find hj') with ⟨i, hi, hturn⟩ | ⟨-, -, hnew, -⟩
  · obtain rfl := w.jobs.row_unique hi hj (hturn.id.symm.trans hid)
    exact ⟨j', mem_of_find hj', hturn⟩
  · exact absurd hid.symm (hnew j hj)

end Job

/-! ### What leaves the campaigns alone -/

/-- The campaigns are left alone. -/
def Spared (w w' : Campaigns) : Prop := w'.campaigns = w.campaigns

instance : Std.Refl Spared := ⟨fun _ => rfl⟩

instance : IsTrans Campaigns Spared := ⟨fun _ _ _ h h' => h'.trans h⟩

section Spared

attribute [local grind ←] Tx.Keeps.read Delegate.keeps_create Delegate.keeps_update Delegate.keeps_replace
  Delegate.keeps_updateMany Delegate.keeps_deleteMany Delegate.keeps_createMany Delegate.keeps_createManyNew
attribute [local grind] Spared

@[grind ←] theorem freshIds_spared (n : Nat) : Tx.Keeps Spared (freshIds n) := by
  intro w a w' h
  cases h
  rfl

@[grind ←] theorem freshId_spared : Tx.Keeps Spared freshId := freshIds_spared 1

variable (orgId campaignId contactId claimId jobId : Nat) (ids : List Nat)

@[grind ←] theorem importTx_spared (rows : List RosterRow) (batchId : String) :
    Tx.Keeps Spared (importTx orgId rows batchId) := by
  unfold importTx
  grind

@[grind ←] theorem archiveTx_spared : Tx.Keeps Spared (archiveTx orgId contactId) := by
  unfold archiveTx
  grind

@[grind ←] theorem sweepTx_spared : Tx.Keeps Spared sweepTx := by
  unfold sweepTx
  grind

@[grind ←] theorem setOptionTx_spared (productId : String) : Tx.Keeps Spared (setOptionTx campaignId productId) := by
  unfold setOptionTx
  grind

@[grind ←] theorem addRecipientsTx_spared : Tx.Keeps Spared (addRecipientsTx campaignId ids) := by
  unfold addRecipientsTx
  grind

@[grind ←] theorem enqueueTx_spared : Tx.Keeps Spared (enqueueTx campaignId ids) := by
  unfold enqueueTx
  grind

@[grind ←] theorem startTx_spared : Tx.Keeps Spared (startTx jobId) := by
  unfold startTx
  grind

@[grind ←] theorem settleTx_spared (target : JobStatus) (lastError : Option String) :
    Tx.Keeps Spared (settleTx jobId target lastError) := by
  unfold settleTx
  grind

@[grind ←] theorem dispatchedTx_spared : Tx.Keeps Spared (dispatchedTx jobId claimId) := by
  unfold dispatchedTx
  grind

@[grind ←] theorem mintTx_spared (data : ClaimData) (giftReference : String) :
    Tx.Keeps Spared (mintTx data jobId giftReference) := by
  unfold mintTx
  grind

@[grind ←] theorem rotateTx_spared (data : ClaimData) : Tx.Keeps Spared (rotateTx data claimId) := by
  unfold rotateTx
  grind

@[grind ←] theorem expireTx_spared : Tx.Keeps Spared (expireTx claimId) := by
  unfold expireTx
  grind

@[grind ←] theorem finalizeTx_spared (target : ClaimStatus) (declinedAt : Option Time) :
    Tx.Keeps Spared (finalizeTx claimId target declinedAt) := by
  unfold finalizeTx
  grind

@[grind ←] theorem sessionTx_spared [Runtime] (claim : ClaimableGift) (sessionToken : String) :
    Tx.Keeps Spared (sessionTx claim sessionToken) := by
  unfold sessionTx
  grind

@[grind ←] theorem claimTx_spared (address : SubmittedAddress) : Tx.Keeps Spared (claimTx claimId address) := by
  unfold claimTx
  grind

end Spared

/-! ### Transactions -/

@[grind ←] theorem query_acts {α : Type} (f : Campaigns → α) : Svc.Does Acts (Svc.query .read f : Service α) :=
  Svc.Does.query (fun w => .idle .read w) f

@[grind ←] theorem map_acts {α β : Type} {x : Service α} (hx : Svc.Does Acts x) (f : α → β) : Svc.Does Acts (f <$> x) :=
  Svc.Does.bind hx fun _ => Svc.Does.pure _

@[grind ←] theorem spared_acts {α : Type} {l : Step} {tx : Transaction α} (hl : l.sparing = true)
    (h : Tx.Keeps Spared tx) : Svc.Does Acts (Svc.transaction l tx) :=
  Svc.Does.transaction (fun _ _ _ hok => .spared hl (h _ _ _ hok)) fun w _ _ => .idle l w

theorem modify_acts {l : Step} {f : Campaigns → Campaigns} (hl : l.sparing = true)
    (h : ∀ w, (f w).campaigns = w.campaigns) : Svc.Does Acts (Svc.transaction l (Tx.modify f : Transaction Unit)) := by
  refine spared_acts hl fun w a w' hok => ?_
  obtain rfl := Tx.modify_eq_ok.mp hok
  exact h w

theorem environment_acts {f : Campaigns → Campaigns} (h : ∀ w, (f w).campaigns = w.campaigns) :
    Svc.Does Acts (environment f) := map_acts (modify_acts rfl h) _

@[grind ←] theorem record_acts (r : Organizations.AuditRecord) : Svc.Does Acts (record r) :=
  modify_acts rfl fun _ => rfl

@[grind ←] theorem orgAudit_acts (actorUserId : Option String) (action : String) (orgId : Option Nat)
    (metadata : List (String × Option String)) : Svc.Does Acts (orgAudit actorUserId action orgId metadata) :=
  record_acts _

@[grind ←] theorem campaignAudit_acts (actorUserId action : String) (orgId : Nat)
    (metadata : List (String × Option String)) : Svc.Does Acts (campaignAudit actorUserId action orgId metadata) :=
  record_acts _

@[grind ←] theorem claimAudit_acts (action : String) (claim : ClaimableGift) : Svc.Does Acts (claimAudit action claim) :=
  record_acts _

theorem writeCampaign_eq_ok {campaignId : Nat} {f : Time → GiftCampaign → GiftCampaign}
    {hf : ∀ now c, (f now c).id = c.id} {w w' : Campaigns} {a : GiftCampaign}
    (h : writeCampaign campaignId f hf w = .ok (a, w')) :
    w'.campaigns = w.campaigns.updateMany (fun c => c.id = campaignId)
      (fun c => { f w.now c with updatedAt := w.now }) (hf w.now) := by
  obtain ⟨now, w₁, hnow, h⟩ := Tx.bind_eq_ok.mp h
  obtain ⟨rfl, rfl⟩ := Tx.read_eq_ok.mp hnow
  obtain ⟨c, -, -, rfl⟩ := Delegate.update_eq_ok.mp h
  rfl

theorem writeCampaign_acts {l : Step} {campaignId : Nat} {f : Time → GiftCampaign → GiftCampaign}
    {hf : ∀ now c, (f now c).id = c.id} (hl : ∀ id ids, l ≠ .dispatch id ids)
    (hturn : ∀ w c, c.id = campaignId → Turn l w c { f w.now c with updatedAt := w.now }) :
    Svc.Does Acts (Svc.transaction l (writeCampaign campaignId f hf)) :=
  Svc.Does.transaction (fun w _ _ hok => .turn _ _ _ (writeCampaign_eq_ok hok)
    (fun c _ hc => hturn w c (of_decide_eq_true hc)) fun id ids heq => absurd heq (hl id ids)) fun w _ _ => .idle l w

theorem setStatus_acts {campaignId : Nat} {found target : CampaignStatus} {f : Time → GiftCampaign → GiftCampaign}
    {hf : ∀ now c, (f now c).id = c.id} (hnext : target ∈ found.next)
    (hset : target ∉ [.approved, .dispatching, .completed])
    (hcreator : ∀ now c, (f now c).createdBy = c.createdBy) (hstatus : ∀ now c, (f now c).status = target)
    (hsame : ∀ now c, (f now c).approvedBy = c.approvedBy) :
    Svc.Does Acts (Svc.transaction (.setStatus campaignId found target) (writeCampaign campaignId f hf)) := by
  rw [List.mem_cons, not_or] at hset
  refine writeCampaign_acts (fun _ _ => nofun) fun w c hid => ?_
  subst hid
  refine ⟨hcreator _ c, .inr ?_, .inl (hsame _ c), fun happroved => ?_⟩
  · exact (hstatus w.now c).symm ▸ .set found target hnext hset.2
  · exact absurd ((hstatus w.now c).symm.trans happroved) hset.1

@[grind ←] theorem createTx_acts (body : CampaignDraftInput) (actorUserId : String) (orgId : Nat)
    (name referenceNumber : String) :
    Svc.Does Acts (Svc.transaction .createCampaign (createCampaignTx body actorUserId orgId name referenceNumber)) := by
  refine Svc.Does.transaction (fun w a w' hok => ?_) fun w _ _ => .idle _ w
  obtain ⟨now, w₁, hnow, hok⟩ := Tx.bind_eq_ok.mp hok
  obtain ⟨rfl, rfl⟩ := Tx.read_eq_ok.mp hnow
  obtain ⟨id, w₂, hid, hok⟩ := Tx.bind_eq_ok.mp hok
  cases hid
  obtain ⟨t, hcreate, -, -, rfl⟩ := Delegate.create_eq_ok.mp hok
  exact .create _ hcreate rfl rfl

@[grind ←] theorem dispatchTx_acts (orgId campaignId : Nat) (contactIds : List Nat) :
    Svc.Does Acts (Svc.transaction (.dispatch campaignId contactIds) (dispatchTx orgId campaignId contactIds)) := by
  refine Svc.Does.transaction (fun w a w' hok => ?_) fun w _ _ => .idle _ w
  obtain ⟨now, w₁, hnow, hok⟩ := Tx.bind_eq_ok.mp hok
  obtain ⟨rfl, rfl⟩ := Tx.read_eq_ok.mp hnow
  obtain ⟨flipped, w₂, hflip, hok⟩ := Tx.bind_eq_ok.mp hok
  obtain ⟨hflipped, rfl⟩ := Delegate.updateMany_eq_ok.mp hflip
  obtain ⟨_, w₃, hensure, hok⟩ := Tx.bind_eq_ok.mp hok
  obtain ⟨hsome, rfl⟩ := Tx.ensure_eq_ok.mp hensure
  have hcampaigns : w'.campaigns = _ := enqueueTx_spared _ _ _ _ _ hok
  refine .turn _ _ (fun _ => by rfl) hcampaigns (fun c hc hmatch => ?_) fun _ _ heq => ?_
  · simp only [Bool.and_eq_true, decide_eq_true_eq] at hmatch
    obtain ⟨⟨rfl, -⟩, happroved⟩ := hmatch
    exact ⟨rfl, .inr (.dispatch contactIds happroved), .inl rfl, nofun⟩
  · cases heq
    rw [hflipped] at hsome
    obtain ⟨c, hc, hmatch⟩ := Table.count_pos (k := campaignId) (fun c hc => by simp_all) hsome
    rw [hcampaigns]
    refine ⟨_, find_updateMany_some (fun _ => by rfl) hc, ?_⟩
    rw [if_pos hmatch]

@[grind ←] theorem completeTx_acts : Svc.Does Acts (Svc.transaction .complete completeTx) := by
  refine Svc.Does.transaction (fun w a w' hok => ?_) fun w _ _ => .idle _ w
  obtain ⟨now, w₁, hnow, hok⟩ := Tx.bind_eq_ok.mp hok
  obtain ⟨rfl, rfl⟩ := Tx.read_eq_ok.mp hnow
  obtain ⟨live, w₂, hlive, hok⟩ := Tx.bind_eq_ok.mp hok
  obtain ⟨rfl, rfl⟩ := Tx.read_eq_ok.mp hlive
  obtain ⟨-, rfl⟩ := Delegate.updateMany_eq_ok.mp hok
  refine .turn _ _ (fun _ => by rfl) rfl (fun c hc hmatch => ?_) fun _ _ => nofun
  simp only [Bool.and_eq_true, decide_eq_true_eq, Bool.not_eq_true'] at hmatch
  exact ⟨rfl, .inr (.complete hmatch.1 hmatch.2), .inl rfl, nofun⟩

/-! ### Calls -/

section Calls

attribute [local grind ←] Svc.Does.collect

variable (actorUserId : String) (orgId campaignId : Nat) (token : String) (sessionToken : Option String)

@[grind ←] theorem dateNow_acts : Svc.Does Acts dateNow := query_acts _

@[grind ←] theorem loadCampaign_acts : Svc.Does Acts (loadCampaign orgId campaignId) := by
  unfold loadCampaign
  grind

@[grind ←] theorem importParsed_acts (parsed : ParsedRoster) (batchId : String) :
    Svc.Does Acts (importParsed actorUserId orgId parsed batchId) := by
  unfold importParsed insertRows
  grind

@[grind ←] theorem importRoster_acts (csv : Option String) (batchId : String) :
    Svc.Does Acts (importRoster actorUserId orgId csv batchId) := by
  unfold importRoster
  split
  · exact Svc.Does.fail _
  · exact Svc.Does.bind (query_acts _) fun org => by grind

@[grind ←] theorem archiveContact_acts (contactId : Nat) :
    Svc.Does Acts (archiveContact actorUserId orgId contactId) := by
  unfold archiveContact
  grind

@[grind ←] theorem purge_acts : Svc.Does Acts RosterPurge.runOnce := by
  unfold RosterPurge.runOnce RosterPurge.report
  grind

@[grind ←] theorem allocateReference_acts (kind : String) (isTaken : String → Campaigns → Bool)
    (candidates : List String) (attempts : Nat) :
    Svc.Does Acts (allocateReference kind isTaken candidates attempts) := by
  induction candidates generalizing attempts with
  | nil => exact Svc.Does.fail _
  | cons candidate rest ih =>
      cases attempts with
      | zero => exact Svc.Does.fail _
      | succ attempts =>
          refine Svc.Does.bind (query_acts _) fun taken => ?_
          cases taken with
          | true => exact ih attempts
          | false => exact Svc.Does.pure candidate

@[grind ←] theorem createWithReference_acts {α : Type} {allocate : List String → Service String}
    {create : String → Service α}
    (hallocate : ∀ candidates, Svc.Does Acts (allocate candidates))
    (hcreate : ∀ reference, Svc.Does Acts (create reference)) (retries : Nat) (draws : List (List String)) :
    Svc.Does Acts (createWithReference allocate create retries draws) := by
  induction retries generalizing draws with
  | zero => exact Svc.Does.bind (hallocate _) hcreate
  | succ retries ih =>
      refine Svc.Does.bind (hallocate _) fun reference => Svc.Does.tryCatch (hcreate reference) fun e => ?_
      cases e with
      | p2002 target => exact ih _
      | badRequest | conflict | notFound | forbidden | error => exact Svc.Does.fail _

@[grind ←] theorem createCampaign_acts (body : CampaignDraftInput)
    (draws : List (List String)) : Svc.Does Acts (createCampaign actorUserId orgId body draws) := by
  unfold createCampaign allocateCampaignReference
  split
  · exact Svc.Does.fail _
  · exact Svc.Does.bind (query_acts _) fun org => by grind

@[grind ←] theorem updateCampaign_acts (body : CampaignDraftInput) :
    Svc.Does Acts (updateCampaign orgId campaignId body) := by
  refine Svc.Does.bind (loadCampaign_acts _ _) fun campaign => Svc.Does.bind (Svc.Does.ensure _ _) fun _ => ?_
  refine Svc.Does.bind (Svc.Does.ensure _ _) fun _ => Svc.Does.bind (writeCampaign_acts ?_ ?_) fun _ => Svc.Does.pure _
  · exact fun _ _ => nofun
  · exact fun w c _ => ⟨rfl, .inl rfl, .inl rfl, .inl⟩

@[grind ←] theorem setGiftOption_acts (productId : Option String) :
    Svc.Does Acts (setGiftOption actorUserId orgId campaignId productId) := by
  unfold setGiftOption assertEditable
  split
  · exact Svc.Does.fail _
  · exact Svc.Does.bind (loadCampaign_acts _ _) fun campaign => by grind

@[grind ←] theorem addRecipients_acts (contactIds : Option (List Nat)) :
    Svc.Does Acts (addRecipients actorUserId orgId campaignId contactIds) := by
  unfold addRecipients assertEditable
  split
  · exact Svc.Does.fail _
  · exact Svc.Does.bind (loadCampaign_acts _ _) fun campaign => by grind

@[grind ←] theorem removeRecipient_acts (recipientId : Nat) :
    Svc.Does Acts (removeRecipient orgId campaignId recipientId) := by
  refine Svc.Does.bind (loadCampaign_acts _ _) fun campaign => Svc.Does.bind (Svc.Does.ensure _ _) fun _ => ?_
  refine Svc.Does.bind (spared_acts rfl (Delegate.keeps_deleteMany fun _ _ => rfl)) fun count => Svc.Does.ensure _ _

@[grind ←] theorem submitForApproval_acts : Svc.Does Acts (submitForApproval actorUserId orgId campaignId) := by
  refine Svc.Does.bind (loadCampaign_acts _ _) fun campaign => Svc.Does.guard fun heditable => ?_
  refine Svc.Does.bind (query_acts _) fun optionCount => Svc.Does.bind (query_acts _) fun recipients => ?_
  refine Svc.Does.bind (Svc.Does.ensure _ _) fun _ => Svc.Does.bind (Svc.Does.ensure _ _) fun _ => ?_
  refine Svc.Does.bind (setStatus_acts ?_ (by decide) ?_ ?_ ?_) fun updated => by grind
  · revert heditable
    cases campaign.status <;> decide
  all_goals exact fun _ _ => rfl

@[grind ←] theorem requestChanges_acts (note : Option String) :
    Svc.Does Acts (requestChanges actorUserId orgId campaignId note) := by
  unfold requestChanges
  split
  · exact Svc.Does.fail _
  refine Svc.Does.bind (loadCampaign_acts _ _) fun campaign => Svc.Does.guard fun hpending => ?_
  refine Svc.Does.bind (Svc.Does.ensure _ _) fun _ =>
    Svc.Does.bind (setStatus_acts ?_ (by decide) ?_ ?_ ?_) fun updated => by grind
  · rw [hpending]
    decide
  all_goals exact fun _ _ => rfl

@[grind ←] theorem cancelCampaign_acts : Svc.Does Acts (cancelCampaign actorUserId orgId campaignId) := by
  refine Svc.Does.bind (loadCampaign_acts _ _) fun campaign => Svc.Does.guard fun hcancellable => ?_
  refine Svc.Does.bind (setStatus_acts ?_ (by decide) ?_ ?_ ?_) fun updated => by grind
  · revert hcancellable
    cases campaign.status <;> decide
  all_goals exact fun _ _ => rfl

theorem approveTx_acts {actorUserId : String} {campaignId optionId : Nat} {snapshot : GiftSnapshot} {w w' : Campaigns}
    {a : GiftCampaign} (hother : ∀ c, w.campaigns.find campaignId = some c → c.createdBy ≠ actorUserId)
    (hok : approveTx actorUserId campaignId optionId snapshot w = .ok (a, w')) :
    Acts (.setStatus campaignId .pending_approval .approved) w w' := by
  obtain ⟨updated, w₁, hwrite, hok⟩ := Tx.bind_eq_ok.mp hok
  obtain ⟨now, w₂, hnow, hok⟩ := Tx.bind_eq_ok.mp hok
  obtain ⟨-, rfl⟩ := Tx.read_eq_ok.mp hnow
  obtain ⟨o, w₃, hupdate, hok⟩ := Tx.bind_eq_ok.mp hok
  obtain ⟨o', -, -, rfl⟩ := Delegate.update_eq_ok.mp hupdate
  obtain ⟨-, rfl⟩ := Tx.pure_eq_ok.mp hok
  refine .turn _ _ (fun _ => by rfl) (writeCampaign_eq_ok hwrite :) (fun c hc hid => ?_) fun _ _ => nofun
  have hid := of_decide_eq_true hid
  subst hid
  have hne := (hother c (find_of_mem hc)).symm
  refine ⟨rfl, .inr ?_, .inr ⟨_, rfl, hne⟩, fun _ => .inr ⟨_, rfl, hne⟩⟩
  exact .set .pending_approval .approved (by decide) (by decide)

theorem approveCampaign_acts (w : Campaigns) :
    (approveCampaign actorUserId orgId campaignId).Ensures (Rely Acts) Acts (fun _ _ => True) w := by
  refine Svc.Ensures.bind (P := fun campaign t => CreatedBy campaignId campaign.createdBy t) ?_
    fun campaign t hcreated => ?_
  · refine Svc.Ensures.bind (P := fun found t => ∀ c, found = some c → CreatedBy campaignId c.createdBy t)
      (Svc.Ensures.query (fun t _ => .idle .read t) fun t _ c hc => ?_) fun found t hfound => ?_
    · exact ⟨c, (Option.filter_eq_some_iff.mp hc).1, rfl⟩
    · cases found with
      | none => exact Svc.Ensures.fail
      | some c => exact Svc.Ensures.pure (hfound c rfl)
  refine Svc.Ensures.bind
    (P := fun _ s => campaign.status = .pending_approval ∧ CreatedBy campaignId campaign.createdBy s)
    (Svc.Ensures.ensure fun hpending => ⟨hpending, hcreated⟩) fun _ t ⟨hpending, hcreated⟩ => ?_
  refine Svc.Ensures.bind (P := fun _ s => campaign.createdBy ≠ actorUserId ∧ CreatedBy campaignId campaign.createdBy s)
    (Svc.Ensures.ensure fun hother => ⟨hother, hcreated⟩) fun _ t ⟨hother, hcreated⟩ => ?_
  refine Svc.Ensures.bind (P := fun _ s => CreatedBy campaignId campaign.createdBy s)
    (Svc.Ensures.query (fun s _ => .idle .read s) fun s hs => hcreated.among hs) fun option t hcreated => ?_
  cases option with
  | none => exact Svc.Ensures.fail
  | some option =>
      refine Svc.Ensures.bind (P := fun _ s => CreatedBy campaignId campaign.createdBy s)
        (Svc.Ensures.query (fun s _ => .idle .read s) fun s hs => hcreated.among hs) fun live t hcreated => ?_
      cases live with
      | none => exact Svc.Ensures.fail
      | some live =>
          refine Svc.Ensures.bind (P := fun _ _ => True) (Svc.Ensures.transaction (fun s _ => .idle _ s) ?_)
            fun updated t _ => (Svc.Does.bind (orgAudit_acts _ _ _ _) fun _ => Svc.Does.pure _).among t
          intro s a u hs hok
          rw [hpending]
          refine ⟨approveTx_acts (fun c hc => ?_) hok, trivial⟩
          obtain ⟨d, hd, hcreator⟩ := hcreated.among hs
          rw [hc] at hd
          cases hd
          rw [hcreator]
          exact hother

@[grind ←] theorem dispatchCampaign_acts : Svc.Does Acts (dispatchCampaign actorUserId orgId campaignId) := by
  unfold dispatchCampaign
  grind

@[grind ←] theorem storeClaim_acts (data : ClaimData) (jobId : Nat) (references : List (List String))
    (existing : Option ClaimableGift) : Svc.Does Acts (storeClaim data jobId references existing) := by
  unfold storeClaim allocateGiftReference
  grind

@[grind ←] theorem mintFor_acts [Runtime] (input : MintInput) (draws : MintDraws) (existing : Option ClaimableGift)
    (contact : CorporateContact) : Svc.Does Acts (mintFor input draws existing contact) := by
  unfold mintFor
  grind

@[grind ←] theorem mintForJob_acts [Runtime] (input : MintInput) (draws : MintDraws) :
    Svc.Does Acts (mintForJob input draws) := by
  unfold mintForJob
  grind

@[grind ←] theorem settleDelivery_acts (job : DispatchJob) (minted : Minted) (delivered : DispatchResult) :
    Svc.Does Acts (settleDelivery job minted delivered) := by
  unfold settleDelivery failJob
  grind

@[grind ←] theorem processJob_acts [Runtime] (job : DispatchJob) (answer : JobAnswer) :
    Svc.Does Acts (processJob job answer) := by
  unfold processJob workOn failJob
  grind

@[grind ←] theorem dispatchSweep_acts [Runtime] (answers : Nat → JobAnswer) :
    Svc.Does Acts (DispatchWorker.runOnce answers) := by
  unfold DispatchWorker.runOnce
  grind

@[grind ←] theorem exportJob_acts [Runtime] (job : DispatchJob) (draws : MintDraws) :
    Svc.Does Acts (exportJob campaignId job draws) := by
  unfold exportJob
  grind

@[grind ←] theorem exportClaimLinks_acts [Runtime] (draws : Nat → MintDraws) :
    Svc.Does Acts (exportCampaignClaimLinks actorUserId orgId campaignId draws) := by
  unfold exportCampaignClaimLinks
  grind

@[grind ←] theorem loadPending_acts [Runtime] : Svc.Does Acts (loadPending token) := by
  refine Svc.Does.bind (Svc.Does.ensure _ _) fun _ => Svc.Does.bind (query_acts _) fun found => ?_
  grind

@[grind ←] theorem loadSession_acts [Runtime] : Svc.Does Acts (loadSession token sessionToken) := by
  unfold loadSession
  grind

@[grind ←] theorem verifyOtp_acts [Runtime] (code : Option String) (verified : Except Err Unit)
    (sessionToken : String) : Svc.Does Acts (verifyOtp token code verified sessionToken) := by
  unfold verifyOtp
  grind

@[grind ←] theorem notMe_acts [Runtime] : Svc.Does Acts (notMe token sessionToken) := by
  unfold notMe
  grind

@[grind ←] theorem decline_acts [Runtime] : Svc.Does Acts (decline token sessionToken) := by
  unfold decline
  grind

@[grind ←] theorem checkCoverage_acts [Shop.Cities] (snapshot : GiftSnapshot) (address : SubmittedAddress) :
    Svc.Does Acts (checkCoverage snapshot address) := by
  unfold checkCoverage isFastGift
  grind

@[grind ←] theorem submitAddress_acts [Runtime] [Shop.Cities] (body : ClaimAddressInput) :
    Svc.Does Acts (submitAddress token sessionToken body) := by
  unfold submitAddress
  grind

@[grind ←] theorem exportFulfillment_acts [Runtime] :
    Svc.Does Acts (exportCampaignFulfillment actorUserId orgId campaignId) := by
  unfold exportCampaignFulfillment
  grind

@[grind ←] theorem countsFor_acts : Svc.Does Acts (countsFor campaignId) := by
  unfold countsFor
  grind

@[grind ←] theorem respond_acts (request : OrgRead) : Svc.Does Acts (respond request) := by
  cases request <;> simp only [respond, orgCampaignReport, listCampaigns, getCampaign, getDispatchStatus,
    getInvoiceForCampaign, getMerchantInvoiceForCampaign, getCampaignBillingSummary] <;> grind

end Calls

/-! ### Every call -/

section Run

variable [Shop.Cities] [Runtime]

theorem program_does (c : Call) (h : ∀ actorUserId orgId campaignId, c ≠ .approveCampaign actorUserId orgId campaignId) :
    Svc.Does Acts (program c) := by
  cases c with
  | tick | configure | books => exact environment_acts fun _ => rfl
  | approveCampaign actorUserId orgId campaignId => exact absurd rfl (h actorUserId orgId campaignId)
  | teaser token => exact map_acts (Svc.Does.bind (loadPending_acts token) fun _ => Svc.Does.pure _) _
  | sendOtp token sent =>
      exact map_acts (Svc.Does.bind (loadPending_acts token) fun _ => Svc.Does.bind (Svc.Does.ofExcept _) fun _ =>
        Svc.Does.pure _) _
  | reveal token sessionToken => exact map_acts (map_acts (loadSession_acts _ _) _) _
  | importRoster | archiveContact | purge | createCampaign | updateCampaign | setGiftOption | addRecipients
  | removeRecipient | submitForApproval | requestChanges | cancelCampaign | dispatchCampaign | dispatchSweep
  | exportCampaignClaimLinks | exportCampaignFulfillment | verifyOtp | notMe | decline | submitAddress | read =>
      exact map_acts (by grind) _

theorem program_acts (c : Call) (w : Campaigns) : (program c).Ensures (Rely Acts) Acts (fun _ _ => True) w := by
  by_cases happroval : ∃ actorUserId orgId campaignId, c = .approveCampaign actorUserId orgId campaignId
  · obtain ⟨actorUserId, orgId, campaignId, rfl⟩ := happroval
    exact Svc.Ensures.bind (approveCampaign_acts actorUserId orgId campaignId w) fun _ _ _ => Svc.Ensures.pure trivial
  · refine (program_does c fun actorUserId orgId campaignId hc => happroval ?_).among w
    exact ⟨actorUserId, orgId, campaignId, hc⟩

/-- **Every event of a run is one of the actions.** -/
theorem Run.acts_of_mem {tr : List (Event Campaigns Step)} {cfg : Config Campaigns Step (Except Err Reply)}
    (h : Run tr cfg) {e : Event Campaigns Step} (he : e ∈ tr) : Acts e.lbl e.pre e.post := by
  have hpath : Path Acts empty tr cfg.state :=
    (Exec.path (Q := fun _ _ => True) (fun _ _ _ _ _ => trivial) (fun c s _ => (program_acts c s).meets) h).1
  obtain ⟨tr₁, tr₂, -, -, hact, -⟩ := hpath.split he
  exact hact

end Run

end Qift.Campaigns
