import Qift.Campaigns.Funnel

/-!
# What the organization cannot tell

A gift that its recipient did not take has been declined, was for someone else, ran out or was revoked; a link that
nobody opened after its expiry still reads pending.

* `OutcomeOnly` — two rows of such a gift that differ in which of these it was.
* `Alike` — two states that differ in such rows, and in the addresses of the claims that were taken.
* **`respond_alike`** — every read of the organization plane answers the same in both, at any later time.
-/

namespace Qift.Campaigns

open Relational Interleaving

/-! ### Outcomes -/

/-- The gift was not taken, and the rows differ in what its end has written: the outcome, the time of a refusal and the
session in which it was given. -/
structure OutcomeOnly (now : Time) (c c' : ClaimableGift) : Prop where
  rest : c' = { c with
    status := c'.status
    declinedAt := c'.declinedAt
    sessionTokenHash := c'.sessionTokenHash
    sessionExpiresAt := c'.sessionExpiresAt
    otpVerifiedAt := c'.otpVerifiedAt }
  left : c.bucket now = .didNotParticipate
  right : c'.bucket now = .didNotParticipate

/-- The states differ in why gifts were not taken, and in the addresses. -/
structure Alike (w w' : Campaigns) : Prop where
  claims : List.Forall₂ (fun c c' => c' = c ∨ OutcomeOnly w.now c c') w.claims.rows w'.claims.rows
  rest : w' = { w with claims := w'.claims, addresses := w'.addresses }

/-- The state at a later time, with nothing written in between. -/
def atTime (t : Time) (w : Campaigns) : Campaigns := { w with now := t }

section Outcome

variable {now t : Time} {c c' : ClaimableGift}

/-- The outcomes that count as not taken: all but two of the statuses, and a pending one that has run out. -/
theorem bucket_didNotParticipate : c.bucket now = .didNotParticipate ↔
    c.status ≠ .claimed ∧ (c.status = .pending → c.expiresAt < now) := by
  unfold ClaimableGift.bucket
  split
  · simp [*]
  · split
    · rename_i hopen
      simp_all [ClaimableGift.lapsed]
    · rename_i hclosed
      simp_all [ClaimableGift.lapsed]

/-- A gift that was not taken is not taken later. -/
theorem bucket_later (h : c.bucket now = .didNotParticipate) (ht : now ≤ t) : c.bucket t = .didNotParticipate := by
  rw [bucket_didNotParticipate] at h ⊢
  exact ⟨h.1, fun hpending => (h.2 hpending).trans_le ht⟩

theorem OutcomeOnly.campaignId (h : OutcomeOnly now c c') : c'.campaignId = c.campaignId := by
  rw [h.rest]

theorem counted_alike (h : c' = c ∨ OutcomeOnly now c c') (ht : now ≤ t) :
    c'.campaignId = c.campaignId ∧ c'.bucket t = c.bucket t := by
  rcases h with rfl | hended
  · exact ⟨rfl, rfl⟩
  · exact ⟨hended.campaignId, (bucket_later hended.right ht).trans (bucket_later hended.left ht).symm⟩

end Outcome

/-! ### Counts -/

theorem countP_eq_of_forall₂ {α β : Type} {R : α → β → Prop} {p : α → Bool} {q : β → Bool}
    (h : ∀ a b, R a b → p a = q b) {xs : List α} {ys : List β} (hall : List.Forall₂ R xs ys) :
    xs.countP p = ys.countP q := by
  induction hall with
  | nil => rfl
  | cons hab _ ih => rw [List.countP_cons, List.countP_cons, ih, h _ _ hab]

section Alike

variable {w w' : Campaigns} {t : Time}

theorem Alike.bucketCount (h : Alike w w') (ht : w.now ≤ t) (campaignId : Nat) (b : Bucket) :
    Campaigns.bucketCount campaignId b (atTime t w) = Campaigns.bucketCount campaignId b (atTime t w') := by
  refine countP_eq_of_forall₂ (fun c c' hc => ?_) h.claims
  obtain ⟨hcampaign, hbucket⟩ := counted_alike hc ht
  change (_ && decide (c.bucket t = b)) = (_ && decide (c'.bucket t = b))
  rw [hcampaign, hbucket]

theorem Alike.gifts (h : Alike w w') (ht : w.now ≤ t) (campaignId : Nat) :
    (counts campaignId (atTime t w)).gifts = (counts campaignId (atTime t w')).gifts := by
  have hbuckets := h.bucketCount ht campaignId
  rw [gifts_counts, gifts_counts, issued_buckets, issued_buckets]
  rw [hbuckets .claimed, hbuckets .pending, hbuckets .didNotParticipate]

theorem exec_orgCampaignReport (orgId campaignId : Nat) : (orgCampaignReport orgId campaignId).exec w =
    (((w.campaigns.find campaignId).filter fun c => c.orgId = orgId).elim (.error (.notFound "campaign_not_found"))
      fun campaign => .ok
        { campaign := campaign.reported
          recipients := recipientCount campaignId w
          dispatched := ((groupCount (jobStatuses campaignId w)).lookup .dispatched).getD 0
          gifts := (counts campaignId w).gifts }, w) := by
  unfold orgCampaignReport loadCampaign
  rw [Svc.exec_bind, Svc.exec_bind, Svc.exec_query]
  cases (w.campaigns.find campaignId).filter fun c => c.orgId = orgId with
  | none => rfl
  | some campaign =>
      change ((countsFor campaignId) >>= _).exec w = _
      rw [Svc.exec_bind, countsFor_exec]
      rfl

theorem Alike.orgCampaignReport (h : Alike w w') (ht : w.now ≤ t) (orgId campaignId : Nat) :
    (Campaigns.orgCampaignReport orgId campaignId).Indistinct (atTime t w) (atTime t w') := by
  refine ⟨_, exec_orgCampaignReport orgId campaignId, ?_⟩
  rw [exec_orgCampaignReport, h.gifts ht, h.rest]
  rfl

/-! ### The other reads -/

theorem Alike.loadCampaign (h : Alike w w') (orgId campaignId : Nat) :
    (Campaigns.loadCampaign orgId campaignId).Indistinct (atTime t w) (atTime t w') := by
  refine Svc.Indistinct.bind (Svc.Indistinct.query (by rw [h.rest]; rfl)) fun found => ?_
  cases found with
  | none => exact Svc.Indistinct.fail _
  | some campaign => exact Svc.Indistinct.pure campaign

theorem Alike.getCampaign (h : Alike w w') (orgId campaignId : Nat) :
    (Campaigns.getCampaign orgId campaignId).Indistinct (atTime t w) (atTime t w') := by
  refine Svc.Indistinct.bind (Svc.Indistinct.query (by rw [h.rest]; rfl)) fun found => ?_
  cases found with
  | none => exact Svc.Indistinct.fail _
  | some detail => exact Svc.Indistinct.pure detail

theorem Alike.getDispatchStatus (h : Alike w w') (orgId campaignId : Nat) :
    (Campaigns.getDispatchStatus orgId campaignId).Indistinct (atTime t w) (atTime t w') := by
  refine Svc.Indistinct.bind (h.loadCampaign _ _) fun campaign => ?_
  exact Svc.Indistinct.bind (Svc.Indistinct.query (by rw [h.rest]; rfl)) fun jobs => Svc.Indistinct.pure _

theorem Alike.getInvoiceForCampaign (h : Alike w w') (orgId campaignId : Nat) :
    (Campaigns.getInvoiceForCampaign orgId campaignId).Indistinct (atTime t w) (atTime t w') :=
  Svc.Indistinct.query (by rw [h.rest]; rfl)

theorem Alike.getMerchantInvoiceForCampaign (h : Alike w w') (orgId campaignId : Nat) :
    (Campaigns.getMerchantInvoiceForCampaign orgId campaignId).Indistinct (atTime t w) (atTime t w') :=
  Svc.Indistinct.query (by rw [h.rest]; rfl)

theorem Alike.getCampaignBillingSummary (h : Alike w w') (orgId campaignId : Nat) :
    (Campaigns.getCampaignBillingSummary orgId campaignId).Indistinct (atTime t w) (atTime t w') := by
  refine Svc.Indistinct.bind (h.loadCampaign _ _) fun campaign => ?_
  refine Svc.Indistinct.bind (h.getInvoiceForCampaign _ _) fun qift => ?_
  exact Svc.Indistinct.bind (h.getMerchantInvoiceForCampaign _ _) fun merchant => Svc.Indistinct.pure _

end Alike

/-- **The organization cannot tell why a gift was not taken.** -/
theorem respond_alike {w w' : Campaigns} (h : Alike w w') (request : OrgRead) {t : Time} (ht : w.now ≤ t) :
    ((respond request).exec (atTime t w)).1 = ((respond request).exec (atTime t w')).1 := by
  refine Svc.Indistinct.reply ?_
  cases request with
  | orgCampaignReport orgId campaignId => exact Svc.Indistinct.map _ (h.orgCampaignReport ht _ _)
  | listCampaigns orgId => exact Svc.Indistinct.map _ (Svc.Indistinct.query (by rw [h.rest]; rfl))
  | getCampaign orgId campaignId => exact Svc.Indistinct.map _ (h.getCampaign _ _)
  | getDispatchStatus orgId campaignId => exact Svc.Indistinct.map _ (h.getDispatchStatus _ _)
  | getInvoiceForCampaign orgId campaignId => exact Svc.Indistinct.map _ (h.getInvoiceForCampaign _ _)
  | getMerchantInvoiceForCampaign orgId campaignId =>
      exact Svc.Indistinct.map _ (h.getMerchantInvoiceForCampaign _ _)
  | getCampaignBillingSummary orgId campaignId => exact Svc.Indistinct.map _ (h.getCampaignBillingSummary _ _)

/-! ### A gift that ran out -/

namespace Pilot

/-- Noor never opened her link. -/
def lapsed : Campaigns := (played (sent ++ days 31)).2.state

/-- What was not taken was declined. -/
def declined (w : Campaigns) : Campaigns :=
  { w with
    claims := w.claims.updateMany (fun _ => true)
      (fun c => { c with status := .declined, declinedAt := some (5 * DAY_MS), sessionTokenHash := some "session" })
      fun _ => rfl }

theorem alike_declined {w : Campaigns} (h : ∀ c ∈ w.claims.rows, c.bucket w.now = .didNotParticipate) :
    Alike w (declined w) where
  claims := List.forall₂_map_right_iff.mpr (List.forall₂_same.mpr fun c hc => .inr ⟨rfl, h c hc, rfl⟩)
  rest := rfl

end Pilot

/-- Acme reads the same of a gift that was declined and of one that ran out. -/
theorem respond_alike_lapsed :
    ((respond (.orgCampaignReport 1 1)).exec (atTime (40 * DAY_MS) Pilot.lapsed)).1 =
        ((respond (.orgCampaignReport 1 1)).exec (atTime (40 * DAY_MS) (Pilot.declined Pilot.lapsed))).1 ∧
      reported 1 1 (Pilot.declined Pilot.lapsed) = some (1, ⟨1, 0, 0, 1⟩) :=
  ⟨respond_alike (Pilot.alike_declined (by decide +kernel)) _ (by decide +kernel), by decide +kernel⟩

end Qift.Campaigns
