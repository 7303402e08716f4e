import Qift.Campaigns.Actions

/-!
# The lifecycle of a campaign

* **`Run.fourEyes`** — whatever is interleaved, what is dispatched was approved by someone who did not create it.
* **`Run.jobs_end_once`** — a job is taken from pending to processing before it is settled, and one that has ended never
  changes; a new one is of a campaign that is found approved.
* `Timely` — a write that finds the campaign in the status its call had found. **`Run.lifecycle`** — timely runs move
  campaigns along their edges only; `Run.lifecycle_revived` is a cancelled campaign that is sent.
-/

namespace Qift.Campaigns

open Relational Relational.Table Interleaving

/-! ### Four eyes -/

/-- Someone who did not create the campaign has approved it. -/
def GiftCampaign.Signed (c : GiftCampaign) : Prop := ∃ a, c.approvedBy = some a ∧ a ≠ c.createdBy

/-- The states that follow an approval. -/
def SENT_STATES : List CampaignStatus := [.approved, .dispatching, .completed]

/-- A campaign that was signed is stored. -/
def SignedOff (campaignId : Nat) (w : Campaigns) : Prop := ∃ c, w.campaigns.find campaignId = some c ∧ c.Signed

structure FourEyes (w : Campaigns) : Prop where
  approvals : ∀ c ∈ w.campaigns.rows, ∀ a, c.approvedBy = some a → a ≠ c.createdBy
  sent : ∀ c ∈ w.campaigns.rows, c.status ∈ SENT_STATES → c.Signed
  jobs : ∀ j ∈ w.jobs.rows, SignedOff j.campaignId w
  gifts : ∀ g ∈ w.claims.rows, SignedOff g.campaignId w

section Step

variable {V : Nat → String → Prop} {l : Step} {w w' : Campaigns}

theorem Turn.signed_stays {c c' : GiftCampaign} (h : Turn l w c c') (hc : c.Signed) : c'.Signed := by
  obtain ⟨a, ha, hother⟩ := hc
  rcases h.approvedBy with hsame | ⟨b, hb, hnew⟩
  · exact ⟨a, hsame.trans ha, h.createdBy ▸ hother⟩
  · exact ⟨b, hb, h.createdBy ▸ hnew⟩

theorem SignedOff.step {campaignId : Nat} (hw : SignedOff campaignId w) (h : Acts l w w') : SignedOff campaignId w' := by
  obtain ⟨c, hc, hsigned⟩ := hw
  obtain ⟨c', hc', hturn⟩ := h.campaign_turn _ _ hc
  exact ⟨c', hc', hturn.signed_stays hsigned⟩

/-- A campaign that is given a status after an approval was in one, or is approved now. -/
theorem Turn.sent_from {c c' : GiftCampaign} (h : Turn l w c c') (hsent : c'.status ∈ SENT_STATES) :
    c.status ∈ SENT_STATES ∨ c'.Signed := by
  rcases h.status with hsame | hmoves
  · exact .inl (hsame ▸ hsent)
  · generalize hstatus : c'.status = target at hsent hmoves
    cases hmoves with
    | set found target hnext hset =>
        have happroved : target = .approved := by
          revert hsent hset
          cases target <;> decide
        rcases h.signed (hstatus.trans happroved) with hbefore | ⟨a, ha, hother⟩
        · exact .inl (by rw [hbefore]; decide)
        · exact .inr ⟨a, ha, h.createdBy ▸ hother⟩
    | dispatch contactIds happroved => exact .inl (by rw [happroved]; decide)
    | complete hdispatching => exact .inl (by rw [hdispatching]; decide)

theorem FourEyes.step (hw : FourEyes w) (h : Acts l w w') (heffect : Effect V l w w') (hlinked : Linked w') :
    FourEyes w' := by
  have hjobs : ∀ j' ∈ w'.jobs.rows, SignedOff j'.campaignId w' := by
    intro j' hj'
    rcases heffect.job_from hj' with ⟨j, hj, hturn⟩ | ⟨-, -, -, c, hc, happroved⟩
    · exact hturn.campaignId ▸ (hw.jobs j hj).step h
    · refine SignedOff.step ⟨c, hc, hw.sent c (mem_of_find hc) ?_⟩ h
      rw [happroved]
      decide
  constructor
  · intro c' hc' a ha
    rcases h.campaign_from hc' with ⟨c, hc, -, hturn⟩ | ⟨-, hunsigned⟩
    · rw [hturn.createdBy]
      rcases hturn.approvedBy with hsame | ⟨b, hb, hother⟩
      · exact hw.approvals c hc a (hsame.symm.trans ha)
      · rw [ha] at hb
        cases hb
        exact hother
    · rw [ha] at hunsigned
      cases hunsigned
  · intro c' hc' hsent
    rcases h.campaign_from hc' with ⟨c, hc, -, hturn⟩ | ⟨hdraft, -⟩
    · rcases hturn.sent_from hsent with hbefore | hsigned
      · exact hturn.signed_stays (hw.sent c hc hbefore)
      · exact hsigned
    · rw [hdraft] at hsent
      exact absurd hsent (by decide)
  · exact hjobs
  · intro g hg
    obtain ⟨j, hj, hcampaign, -⟩ := hlinked.claims g hg
    exact hcampaign ▸ hjobs j (mem_of_find hj)

theorem fourEyes_of_path {tr : List (Event Campaigns Step)} (h : Path (Effect V) empty tr w)
    (hacts : ∀ e ∈ tr, Acts e.lbl e.pre e.post) : FourEyes w := by
  have hboth : Linked w ∧ FourEyes w := by
    refine h.invariant (P := fun s => Linked s ∧ FourEyes s) (fun l s t hact he hs => ?_) hacts ⟨linked_empty, ?_⟩
    · have hlinked := hact.linked hs.1
      exact ⟨hlinked, hs.2.step he hact hlinked⟩
    · exact ⟨fun _ hc => (by cases hc), fun _ hc => (by cases hc), fun _ hj => (by cases hj), fun _ hg => (by cases hg)⟩
  exact hboth.2

end Step

/-! ### Jobs -/

def DispatchJob.ended (j : DispatchJob) : Bool := decide (j.status ∈ [.dispatched, .failed, .cancelled])

theorem JobTurn.of_ended {j j' : DispatchJob} (h : JobTurn j j') (hended : j.ended = true) : j' = j := by
  rcases h.turn with hsame | ⟨hpending, -⟩ | hprocessing
  · exact hsame
  · simp [DispatchJob.ended, hpending] at hended
  · simp [DispatchJob.ended, hprocessing] at hended

theorem ended_of_path {V : Nat → String → Prop} {tr : List (Event Campaigns Step)} {w w' : Campaigns}
    (h : Path (Effect V) w tr w') {j : DispatchJob} (hj : j ∈ w.jobs.rows) (hended : j.ended = true) :
    j ∈ w'.jobs.rows := by
  refine Rely.stable (P := fun s => j ∈ s.jobs.rows) (fun l s t hact hs => ?_) h.rely hj
  obtain ⟨j', hj', hturn⟩ := hact.job_turn hs
  exact hturn.of_ended hended ▸ hj'

section Timely

/-! ### Timely writes -/

/-- A write finds the campaign in the status its call had found. -/
def Timely (e : Event Campaigns Step) : Prop :=
  match e.lbl with
  | .setStatus campaignId found _ => ∃ c, e.pre.campaigns.find campaignId = some c ∧ c.status = found
  | _ => True

variable {V : Nat → String → Prop} {l : Step} {w w' : Campaigns}

theorem Turn.edge {c c' : GiftCampaign} (h : Turn l w c c') (hc : c ∈ w.campaigns.rows) (htimely : Timely ⟨w, l, w'⟩) :
    c'.status = c.status ∨ c'.status ∈ c.status.next := by
  rcases h.status with hsame | hmoves
  · exact .inl hsame
  · generalize c'.status = target at hmoves
    cases hmoves with
    | set found target hnext =>
        obtain ⟨d, hd, rfl⟩ := htimely
        rw [find_of_mem hc] at hd
        cases hd
        exact .inr hnext
    | dispatch contactIds happroved => exact .inr (by rw [happroved]; decide)
    | complete hdispatching => exact .inr (by rw [hdispatching]; decide)

/-- The campaigns that have jobs are sent, and what is completed has no live ones. -/
structure Orderly (w : Campaigns) : Prop where
  jobs : ∀ j ∈ w.jobs.rows, ∃ c, w.campaigns.find j.campaignId = some c ∧ c.status ∈ [.dispatching, .completed]
  completed : ∀ c ∈ w.campaigns.rows, c.status = .completed → hasLiveJobs w c.id = false

theorem hasLiveJobs_eq_false {campaignId : Nat} : hasLiveJobs w campaignId = false ↔
    ∀ j ∈ w.jobs.rows, j.campaignId = campaignId → j.status ≠ .pending ∧ j.status ≠ .processing := by
  simp only [hasLiveJobs, List.any_eq_false, Bool.and_eq_true, Bool.or_eq_true, decide_eq_true_eq]
  grind

theorem Effect.no_live_jobs (h : Effect V l w w') {c : GiftCampaign} (hc : c ∈ w.campaigns.rows)
    (hstatus : c.status ≠ .approved) (hdone : hasLiveJobs w c.id = false) : hasLiveJobs w' c.id = false := by
  rw [hasLiveJobs_eq_false] at hdone ⊢
  intro j' hj' hcampaign
  rcases h.job_from hj' with ⟨j, hj, hturn⟩ | ⟨-, -, -, d, hd, happroved⟩
  · have hended := hdone j hj (hturn.campaignId.symm.trans hcampaign)
    rcases hturn.turn with rfl | ⟨hpending, -⟩ | hprocessing
    · exact hended
    · exact absurd hpending hended.1
    · exact absurd hprocessing hended.2
  · rw [hcampaign, find_of_mem hc] at hd
    cases hd
    exact absurd happroved hstatus

theorem next_of_dispatched {s t : CampaignStatus} (hs : s ∈ [.dispatching, .completed]) (ht : t ∈ s.next) :
    t ∈ [.dispatching, .completed] := by
  revert hs ht
  cases s <;> cases t <;> decide

theorem Orderly.step (hw : Orderly w) (h : Acts l w w') (heffect : Effect V l w w') (htimely : Timely ⟨w, l, w'⟩) :
    Orderly w' where
  jobs := by
    intro j' hj'
    rcases heffect.job_from hj' with ⟨j, hj, hturn⟩ | ⟨⟨ids, rfl⟩, -, hfresh, -⟩
    · obtain ⟨c, hc, hsent⟩ := hw.jobs j hj
      obtain ⟨c', hc', hmoved⟩ := h.campaign_turn _ _ hc
      rw [hturn.campaignId]
      refine ⟨c', hc', ?_⟩
      rcases hmoved.edge (mem_of_find hc) htimely with hsame | hnext
      · exact hsame ▸ hsent
      · exact next_of_dispatched hsent hnext
    · rcases h.dispatching with rfl | ⟨c, hc, hdispatching⟩
      · exact absurd rfl (hfresh j' hj')
      · exact ⟨c, hc, by rw [hdispatching]; decide⟩
  completed := by
    intro c' hc' hcompleted
    rcases h.campaign_from hc' with ⟨c, hc, hid, hturn⟩ | ⟨hdraft, -⟩
    · rw [hid]
      rcases hturn.status with hsame | hmoves
      · have hbefore := hsame.symm.trans hcompleted
        exact heffect.no_live_jobs hc (by rw [hbefore]; exact nofun) (hw.completed c hc hbefore)
      · rw [hcompleted] at hmoves
        cases hmoves with
        | set found target hnext hset => exact absurd (by decide) hset
        | complete hdispatching hdone => exact heffect.no_live_jobs hc (by rw [hdispatching]; exact nofun) hdone
    · rw [hdraft] at hcompleted
      cases hcompleted

theorem orderly_of_path {tr : List (Event Campaigns Step)} (h : Path (Effect V) empty tr w)
    (hevents : ∀ e ∈ tr, Acts e.lbl e.pre e.post ∧ Timely e) : Orderly w := by
  refine h.invariant (fun l s t hact he hs => hs.step he.1 hact he.2) hevents ?_
  exact ⟨fun _ hj => (by cases hj), fun _ hc => (by cases hc)⟩

/-- A campaign that has come to an end stays there. -/
theorem final_of_path {tr : List (Event Campaigns Step)} (h : Path (Effect V) w tr w')
    (hevents : ∀ e ∈ tr, Acts e.lbl e.pre e.post ∧ Timely e) {c : GiftCampaign} (hc : c ∈ w.campaigns.rows)
    (hfinal : c.status.next = []) : ∃ c', w'.campaigns.find c.id = some c' ∧ c'.status = c.status := by
  refine h.invariant (P := fun s => ∃ c', s.campaigns.find c.id = some c' ∧ c'.status = c.status)
    (fun l s t hact he hs => ?_) hevents ⟨c, find_of_mem hc, rfl⟩
  obtain ⟨d, hd, hstatus⟩ := hs
  obtain ⟨d', hd', hturn⟩ := he.1.campaign_turn _ _ hd
  refine ⟨d', hd', ?_⟩
  rcases hturn.edge (mem_of_find hd) he.2 with hsame | hnext
  · exact hsame.trans hstatus
  · rw [hstatus, hfinal] at hnext
    cases hnext

end Timely

/-! ### A run -/

section Run

variable [Shop.Cities] [Runtime] {tr : List (Event Campaigns Step)}
  {cfg : Config Campaigns Step (Except Err Reply)}

/-- **Four eyes**: in every state of a run whoever has approved a campaign did not create it, and every campaign that is
sent, every job and every gift is of one that was so approved. -/
theorem Run.fourEyes (h : Run tr cfg) : FourEyes cfg.state :=
  fourEyes_of_path (Run.plain h) fun _ he => Run.acts_of_mem h he

/-- **Jobs end once.** A job leaves pending only by being taken, is settled only while it is processing, and one that has
ended stays as it is; a new one is pending, and of a campaign that is found approved; a dispatched one has its gift. -/
theorem Run.jobs_end_once (h : Run tr cfg) :
    (∀ e ∈ tr,
      (∀ j ∈ e.pre.jobs.rows, ∃ j' ∈ e.post.jobs.rows, JobTurn j j') ∧
      (∀ j ∈ e.post.jobs.rows, (∃ i ∈ e.pre.jobs.rows, JobTurn i j) ∨
        j.status = .pending ∧ ∃ c, e.pre.campaigns.find j.campaignId = some c ∧ c.status = .approved) ∧
      ∀ j ∈ e.post.jobs.rows, j.ended = true → j ∈ cfg.state.jobs.rows) ∧
    ∀ j ∈ cfg.state.jobs.rows, j.status = .dispatched →
      ∃ c ∈ cfg.state.claims.rows, c.jobId = j.id ∧ c.campaignId = j.campaignId ∧ c.contactId = j.contactId := by
  have hpath := Run.plain h
  constructor
  · intro e he
    obtain ⟨tr₁, tr₂, -, -, hact, hafter⟩ := hpath.split he
    refine ⟨fun j hj => hact.job_turn hj, fun j hj => ?_, fun j hj hended => ended_of_path hafter hj hended⟩
    rcases hact.job_from hj with hold | ⟨-, hpending, -, happroved⟩
    · exact .inl hold
    · exact .inr ⟨hpending, happroved⟩
  · intro j hj hdispatched
    have hlinked := linked_of_path hpath
    obtain ⟨c, hc, hjob⟩ := hlinked.jobs j hj hdispatched
    have hof := hlinked.claims c hc
    rw [hjob] at hof
    obtain ⟨hcampaign, hcontact⟩ := hof.unique (hasJob_of_mem hj)
    exact ⟨c, hc, hjob, hcampaign, hcontact⟩

/-- **Campaigns move along their edges** where writes are timely. A cancelled or completed campaign stays so; every job
and gift is of a campaign that is dispatching or completed, and a completed one has no live jobs. -/
theorem Run.lifecycle (h : Run tr cfg) (htimely : ∀ e ∈ tr, Timely e) :
    Orderly cfg.state ∧
    (∀ g ∈ cfg.state.claims.rows, ∃ c, cfg.state.campaigns.find g.campaignId = some c ∧
      c.status ∈ [.dispatching, .completed]) ∧
    ∀ e ∈ tr,
      (∀ id c, e.pre.campaigns.find id = some c → ∃ c', e.post.campaigns.find id = some c' ∧
        (c'.status = c.status ∨ c'.status ∈ c.status.next)) ∧
      ∀ c ∈ e.post.campaigns.rows, c.status.next = [] →
        ∃ c', cfg.state.campaigns.find c.id = some c' ∧ c'.status = c.status := by
  have hpath := Run.plain h
  have hevents : ∀ e ∈ tr, Acts e.lbl e.pre e.post ∧ Timely e := fun e he => ⟨Run.acts_of_mem h he, htimely e he⟩
  have horderly := orderly_of_path hpath hevents
  refine ⟨horderly, fun g hg => ?_, fun e he => ?_⟩
  · obtain ⟨j, hj, hcampaign, -⟩ := (linked_of_path hpath).claims g hg
    exact hcampaign ▸ horderly.jobs j (mem_of_find hj)
  · obtain ⟨tr₁, tr₂, rfl, -, hact, hafter⟩ := hpath.split he
    obtain ⟨hacts, hwrite⟩ := hevents e he
    refine ⟨fun id c hc => ?_, fun c hc hfinal => ?_⟩
    · obtain ⟨c', hc', hturn⟩ := hacts.campaign_turn _ _ hc
      exact ⟨c', hc', hturn.edge (mem_of_find hc) hwrite⟩
    · refine final_of_path hafter (fun e' he' => hevents e' ?_) hc hfinal
      exact List.mem_append_right _ (List.mem_cons_of_mem _ he')

end Run

/-! ### A cancelled campaign that is sent -/

instance (e : Event Campaigns Step) : Decidable (Timely e) :=
  match e with
  | ⟨pre, l, _⟩ =>
      match l with
      | .setStatus campaignId found _ =>
          inferInstanceAs (Decidable (∃ c, pre.campaigns.find campaignId = some c ∧ c.status = found))
      | .read | .environment | .record | .importRows .. | .archive .. | .createCampaign | .editCampaign _ | .setOption _
      | .addRecipients .. | .removeRecipient .. | .dispatch .. | .complete | .startJob _ | .settleJob .. | .mint _
      | .rotate _ | .expire _ | .session _ | .finalize .. | .claim .. | .sweep => isTrue trivial

namespace Pilot

/-- Omar's approval has read the campaign when Huda cancels it; then it is sent. -/
def cancelledMeanwhile : List (Choice Call) :=
  opened ++ roster "name,email\nNoor,noor@acme.sa" ++ drafted ++ toEnd (.addRecipients "huda" 1 1 (some [0])) ++
    toEnd (.setGiftOption "huda" 1 1 (some "box")) ++ toEnd (.submitForApproval "huda" 1 1) ++
    .start (.approveCampaign "omar" 1 1) :: List.replicate 3 (.run 0) ++ toEnd (.cancelCampaign "huda" 1 1) ++
    List.replicate 4 (.run 1) ++ toEnd (.dispatchCampaign "huda" 1 1) ++ delivered

end Pilot

/-- The campaign of Noor's gift was approved by another than its creator. -/
theorem Run.fourEyes_sent : FourEyes (Pilot.played Pilot.sent).2.state ∧
    (Pilot.played Pilot.sent).2.state.campaigns.rows.map (fun c => (c.createdBy, c.approvedBy)) =
      [("huda", some "omar")] :=
  ⟨@Run.fourEyes Market.Pilot.plainCities plainRuntime _ _ (Pilot.run Pilot.sent), by decide +kernel⟩

/-- Noor's job has ended, and stays. -/
theorem Run.jobs_end_once_sent : (∀ e ∈ (Pilot.played Pilot.sent).1, ∀ j ∈ e.post.jobs.rows, j.ended = true →
      j ∈ (Pilot.played Pilot.sent).2.state.jobs.rows) ∧
    (Pilot.played Pilot.sent).2.state.jobs.rows.map (fun j => (j.status, j.attempts)) = [(.dispatched, 1)] :=
  ⟨fun e he => ((@Run.jobs_end_once Market.Pilot.plainCities plainRuntime _ _ (Pilot.run Pilot.sent)).1 e he).2.2,
    by decide +kernel⟩

/-- Noor's campaign is completed. -/
theorem Run.lifecycle_sent : Orderly (Pilot.played Pilot.sent).2.state ∧
    (Pilot.played Pilot.sent).2.state.campaigns.rows.map GiftCampaign.status = [.completed] :=
  ⟨(@Run.lifecycle Market.Pilot.plainCities plainRuntime _ _ (Pilot.run Pilot.sent) (by decide +kernel)).1,
    by decide +kernel⟩

/-- **A cancelled campaign can be approved and sent** by an approval that had read it before. -/
theorem Run.lifecycle_revived : ∃ tr cfg, @Run Market.Pilot.plainCities plainRuntime tr cfg ∧
    (∃ e ∈ tr, e.post.campaigns.rows.map GiftCampaign.status = [.cancelled]) ∧
    cfg.state.campaigns.rows.map GiftCampaign.status = [.completed] ∧
    cfg.state.claims.rows.map ClaimableGift.status = [.pending] :=
  ⟨_, _, Pilot.run Pilot.cancelledMeanwhile, by decide +kernel⟩

end Qift.Campaigns
