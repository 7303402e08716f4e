import Qift.Campaigns.Retention

/-!
# The figures of a campaign

What the report of `report.service.ts` makes of the gifts of a campaign.

* `Bucket` — a gift is claimed, pending, or its recipient did not participate; `gifts_counts` reads the figures of the
  report as the number of gifts in each.
* `Linked` — what an action keeps of the jobs and their claims.
* **`Run.figures`** — the reports of a run agree with themselves and with the dispatch, and an outcome stays;
  `Run.figures_drift` is what they do not promise.
-/

namespace Qift.Campaigns

open Relational Relational.Table Interleaving

/-! ### Groups -/

theorem sum_groupCount {τ : Type} [DecidableEq τ] (values : List τ) :
    ((groupCount values).map Prod.snd).sum = values.length := by
  rw [groupCount, List.map_map]
  exact List.sum_map_count_dedup_eq_length values

theorem lookup_groupCount {τ : Type} [DecidableEq τ] (values : List τ) (v : τ) :
    ((groupCount values).lookup v).getD 0 = values.count v := by
  have hgroups (groups : List τ) :
      ((groups.map fun u => (u, values.count u)).lookup v).getD 0 = if v ∈ groups then values.count v else 0 := by
    induction groups with
    | nil => rfl
    | cons u groups ih =>
        rw [List.map_cons, List.lookup_cons]
        by_cases heq : v = u
        · subst heq
          simp
        · have hne : (v == u) = false := beq_eq_false_iff_ne.mpr heq
          rw [hne, ih]
          simp [heq]
  rw [groupCount, hgroups]
  by_cases hv : v ∈ values
  · rw [if_pos (List.mem_dedup.mpr hv)]
  · rw [if_neg (fun hmem => hv (List.mem_dedup.mp hmem)), List.count_eq_zero.mpr hv]

/-! ### Buckets -/

/-- What the report counts a gift as. -/
inductive Bucket
  | claimed | pending | didNotParticipate
  deriving DecidableEq

/-- A gift is pending until its expiry, whatever the row says after it. -/
def ClaimableGift.bucket (now : Time) (c : ClaimableGift) : Bucket :=
  if c.status = .claimed then .claimed
  else if c.status = .pending ∧ c.lapsed now = false then .pending
  else .didNotParticipate

/-- The gifts of a campaign in a bucket. -/
def bucketCount (campaignId : Nat) (b : Bucket) (w : Campaigns) : Nat :=
  w.claims.count fun c => c.campaignId = campaignId && c.bucket w.now = b

/-- The gifts of a campaign. -/
def issuedCount (campaignId : Nat) (w : Campaigns) : Nat := w.claims.count fun c => c.campaignId = campaignId

/-- The counts of a campaign, all read from one state. -/
def counts (campaignId : Nat) (w : Campaigns) : CampaignCounts where
  recipients := recipientCount campaignId w
  jobs := groupCount (jobStatuses campaignId w)
  claims := groupCount (claimStatuses campaignId w)
  pendingExpired := w.claims.count fun c => c.campaignId = campaignId && c.lapsed w.now

theorem countsFor_exec (campaignId : Nat) (w : Campaigns) :
    (countsFor campaignId).exec w = (.ok (counts campaignId w), w) := rfl

section Count

variable {campaignId : Nat} {w : Campaigns} {c : ClaimableGift} {now : Time}

theorem bucket_claimed : c.bucket now = .claimed ↔ c.status = .claimed := by
  unfold ClaimableGift.bucket
  split
  · simp [*]
  · split
    · simp [*]
    · simp [*]

theorem bucket_pending : c.bucket now = .pending ↔ c.status = .pending ∧ c.lapsed now = false := by
  unfold ClaimableGift.bucket
  split
  · simp [*]
  · split
    · simp [*]
    · simp [*]

/-- Rows of one kind or the other, each of one. -/
theorem countP_add {α : Type} {p q r : α → Bool} (h : ∀ x, (p x).toNat = (q x).toNat + (r x).toNat) (xs : List α) :
    xs.countP p = xs.countP q + xs.countP r := by
  induction xs with
  | nil => rfl
  | cons x xs ih =>
      have hx := h x
      rw [List.countP_cons, List.countP_cons, List.countP_cons, ih]
      cases hp : p x <;> cases hq : q x <;> cases hr : r x <;> simp_all <;> omega

theorem count_claimStatuses (s : ClaimStatus) :
    (claimStatuses campaignId w).count s = w.claims.count fun c => c.campaignId = campaignId && c.status = s := by
  rw [claimStatuses, List.count_eq_countP, List.countP_map, List.countP_filter]
  refine List.countP_congr fun c _ => ?_
  simp [and_comm]

theorem length_claimStatuses : (claimStatuses campaignId w).length = issuedCount campaignId w := by
  rw [claimStatuses, List.length_map, ← List.countP_eq_length_filter]
  rfl

theorem count_claimed : (claimStatuses campaignId w).count .claimed = bucketCount campaignId .claimed w := by
  rw [count_claimStatuses]
  refine List.countP_congr fun c _ => ?_
  simp [bucket_claimed]

/-- The rows that are pending are so, or past their expiry. -/
theorem count_pending : (claimStatuses campaignId w).count .pending =
    bucketCount campaignId .pending w + w.claims.count fun c => c.campaignId = campaignId && c.lapsed w.now := by
  rw [count_claimStatuses]
  refine countP_add (fun c => ?_) w.claims.rows
  by_cases hcampaign : c.campaignId = campaignId
  · by_cases hpending : c.status = .pending
    · cases hlapsed : c.lapsed w.now <;> simp [bucket_pending, hcampaign, hpending, hlapsed]
    · simp [bucket_pending, ClaimableGift.lapsed, hpending]
  · simp [hcampaign]

theorem issued_buckets : issuedCount campaignId w =
    bucketCount campaignId .claimed w +
      (bucketCount campaignId .pending w + bucketCount campaignId .didNotParticipate w) := by
  have hrest : (w.claims.rows.countP fun c => c.campaignId = campaignId && c.bucket w.now ≠ .claimed) =
      bucketCount campaignId .pending w + bucketCount campaignId .didNotParticipate w := by
    refine countP_add (fun c => ?_) w.claims.rows
    by_cases hcampaign : c.campaignId = campaignId
    · cases c.bucket w.now <;> simp [hcampaign]
    · simp [hcampaign]
  rw [← hrest]
  refine countP_add (fun c => ?_) w.claims.rows
  by_cases hcampaign : c.campaignId = campaignId
  · cases c.bucket w.now <;> simp [hcampaign]
  · simp [hcampaign]

/-- **The figures of the report** are the gifts in each bucket. -/
theorem gifts_counts : (counts campaignId w).gifts =
    { issued := (issuedCount campaignId w : Nat)
      claimed := (bucketCount campaignId .claimed w : Nat)
      pending := (bucketCount campaignId .pending w : Nat)
      didNotParticipate := (bucketCount campaignId .didNotParticipate w : Nat) } := by
  have hissued : (issuedCount campaignId w : Int) = _ := congrArg Nat.cast issued_buckets
  unfold CampaignCounts.gifts counts
  dsimp only
  rw [sum_groupCount, lookup_groupCount, lookup_groupCount, length_claimStatuses, count_claimed, count_pending]
  rw [GiftFigures.mk.injEq]
  push_cast at hissued ⊢
  exact ⟨rfl, rfl, by omega, by omega⟩

end Count

/-! ### Jobs and their claims -/

/-- Every claim is that of a job, every dispatched job has a claim, and there is one of each for a contact. -/
structure Linked (w : Campaigns) : Prop where
  claims : ∀ c ∈ w.claims.rows, HasJob c.jobId c.campaignId c.contactId w
  single : (w.claims.rows.map ClaimableGift.jobId).Nodup
  jobs : ∀ j ∈ w.jobs.rows, j.status = .dispatched → HasClaim j.id w
  distinct : (w.jobs.rows.map fun j => (j.campaignId, j.contactId)).Nodup

section Step

variable {V : Nat → String → Prop} {w w' : Campaigns} {l : Step}

theorem linked_empty : Linked empty where
  claims := fun _ hc => by cases hc
  single := List.nodup_nil
  jobs := fun _ hj => by cases hj
  distinct := List.nodup_nil

theorem HasJob.unique {jobId campaignId contactId campaignId' contactId' : Nat}
    (h : HasJob jobId campaignId contactId w) (h' : HasJob jobId campaignId' contactId' w) :
    campaignId = campaignId' ∧ contactId = contactId' := by
  obtain ⟨j, hj, rfl, rfl⟩ := h
  obtain ⟨j', hj', rfl, rfl⟩ := h'
  rw [hj] at hj'
  cases hj'
  exact ⟨rfl, rfl⟩

theorem Effect.claim_stays (h : Effect V l w w') (hw : Linked w) {c : ClaimableGift} (hc : c ∈ w.claims.rows) :
    ∃ c' ∈ w'.claims.rows, c'.id = c.id ∧ c'.jobId = c.jobId ∧ c'.campaignId = c.campaignId ∧
      c'.contactId = c.contactId ∧ (c.status ≠ .pending → c'.status = c.status) := by
  cases h with
  | frame _ _ hsame => exact ⟨c, hsame.claims ▸ hc, rfl, rfl, rfl, rfl, fun _ => rfl⟩
  | mint jobId data giftReference t hjob hvalue hfree hcreate =>
      exact ⟨c, (mem_create hcreate).mpr (.inl hc), rfl, rfl, rfl, rfl, fun _ => rfl⟩
  | rotate data d hd hjob =>
      refine ⟨_, mem_of_find (find_updateMany_some (fun _ => by rfl) (find_of_mem hc)), ?_⟩
      split
      · rename_i hsame
        obtain rfl := w.claims.row_unique hd hc (of_decide_eq_true hsame).symm
        obtain ⟨hcampaign, hcontact⟩ := hjob.unique (hw.claims d hd)
        exact ⟨rfl, rfl, hcampaign, hcontact, fun _ => rfl⟩
      · exact ⟨rfl, rfl, rfl, rfl, fun _ => rfl⟩
  | touch _ _ p f hf hby hstatus =>
      refine ⟨_, mem_of_find (find_updateMany_some hf (find_of_mem hc)), ?_⟩
      split
      · rename_i htouched
        refine ⟨hf c, hby.jobId c, hby.campaignId c, hby.contactId c, fun hended => ?_⟩
        exact (hstatus c htouched).resolve_right fun hpending => hended hpending.1
      · exact ⟨rfl, rfl, rfl, rfl, fun _ => rfl⟩
  | claim claimId address t =>
      refine ⟨_, mem_of_find (find_updateMany_some (fun _ => by rfl) (find_of_mem hc)), ?_⟩
      split
      · rename_i hclaimed
        refine ⟨rfl, rfl, rfl, rfl, fun hended => absurd ?_ hended⟩
        simp only [Bool.and_eq_true, decide_eq_true_eq] at hclaimed
        exact hclaimed.2
      · exact ⟨rfl, rfl, rfl, rfl, fun _ => rfl⟩
  | importRows | archive | addRecipients | removeRecipient | dispatch | startJob | settleJob | sweep =>
      exact ⟨c, hc, rfl, rfl, rfl, rfl, fun _ => rfl⟩

theorem Effect.claim_from (h : Effect V l w w') (hw : Linked w) {c' : ClaimableGift} (hc' : c' ∈ w'.claims.rows) :
    HasJob c'.jobId c'.campaignId c'.contactId w := by
  cases h with
  | frame _ _ hsame => exact hw.claims c' (hsame.claims ▸ hc')
  | mint jobId data giftReference t hjob hvalue hfree hcreate =>
      rcases (mem_create hcreate).mp hc' with hold | rfl
      · exact hw.claims c' hold
      · exact hjob
  | rotate data d hd hjob =>
      obtain ⟨c, hc, rfl⟩ := of_mem_updateMany (fun _ => by rfl) hc'
      split
      · rename_i hsame
        rw [w.claims.row_unique hc hd (of_decide_eq_true hsame)]
        exact hjob
      · exact hw.claims c hc
  | touch _ _ p f hf hby =>
      obtain ⟨c, hc, rfl⟩ := of_mem_updateMany hf hc'
      split
      · rw [hby.jobId, hby.campaignId, hby.contactId]
        exact hw.claims c hc
      · exact hw.claims c hc
  | claim =>
      obtain ⟨c, hc, rfl⟩ := of_mem_updateMany (fun _ => by rfl) hc'
      split
      · exact hw.claims c hc
      · exact hw.claims c hc
  | importRows | archive | addRecipients | removeRecipient | dispatch | startJob | settleJob | sweep =>
      exact hw.claims c' hc'

/-- A write of many rows keeps the columns that it does not write apart. -/
theorem nodup_updateMany {ρ κ τ : Type} {key : ρ → κ} {t : Table key} {p : ρ → Bool} {f : ρ → ρ}
    (hf : ∀ r, key (f r) = key r) {g : ρ → τ} (hg : ∀ r, g (f r) = g r) (h : (t.rows.map g).Nodup) :
    ((t.updateMany p f hf).rows.map g).Nodup := by
  rw [map_updateMany hg]
  exact h

theorem Effect.single (h : Effect V l w w') (hw : Linked w) : (w'.claims.rows.map ClaimableGift.jobId).Nodup := by
  cases h with
  | frame _ _ hsame => exact hsame.claims ▸ hw.single
  | mint jobId data giftReference t hjob hvalue hfree hcreate =>
      rw [(create_eq_some hcreate).1, List.map_append, List.nodup_append]
      refine ⟨hw.single, List.nodup_singleton _, fun a ha b hb heq => ?_⟩
      obtain ⟨c, hc, rfl⟩ := List.mem_map.mp ha
      obtain rfl := List.mem_singleton.mp hb
      have hclash := hfree c hc
      rw [decide_eq_false_iff_not] at hclash
      exact hclash (.inl heq.symm)
  | rotate data d => exact nodup_updateMany (fun _ => by rfl) (fun _ => by rfl) hw.single
  | touch _ _ p f hf hby => exact nodup_updateMany hf hby.jobId hw.single
  | claim => exact nodup_updateMany (fun _ => by rfl) (fun _ => by rfl) hw.single
  | importRows | archive | addRecipients | removeRecipient | dispatch | startJob | settleJob | sweep => exact hw.single

theorem Effect.job_claimed (h : Effect V l w w') (hw : Linked w) {j' : DispatchJob} (hj' : j' ∈ w'.jobs.rows)
    (hdispatched : j'.status = .dispatched) : HasClaim j'.id w := by
  cases h with
  | frame _ _ hsame => exact hw.jobs j' (hsame.jobs ▸ hj') hdispatched
  | dispatch campaignId contactIds =>
      rcases mem_insertNew.mp hj' with hold | hnew
      · exact hw.jobs j' hold hdispatched
      · -- a new job is pending
        obtain ⟨i, hi, rfl⟩ := List.mem_mapIdx.mp (newRows_sublist.subset hnew)
        cases hdispatched
  | startJob jobId =>
      obtain ⟨j, hj, rfl⟩ := of_mem_updateMany (fun _ => by rfl) hj'
      split at hdispatched
      · cases hdispatched
      · rw [if_neg (by assumption)]
        exact hw.jobs j hj hdispatched
  | settleJob jobId target f hf hcampaign hcontact hstatus hclaim =>
      obtain ⟨j, hj, rfl⟩ := of_mem_updateMany hf hj'
      split at hdispatched
      · rename_i hsettled
        simp only [Bool.and_eq_true, decide_eq_true_eq] at hsettled
        rw [if_pos (by simpa using hsettled), hf, hsettled.1]
        exact hclaim ((hstatus j).symm.trans hdispatched)
      · rw [if_neg (by assumption)]
        exact hw.jobs j hj hdispatched
  | importRows | archive | addRecipients | removeRecipient | mint | rotate | touch | claim | sweep =>
      exact hw.jobs j' hj' hdispatched

theorem Effect.distinct (h : Effect V l w w') (hw : Linked w) :
    (w'.jobs.rows.map fun j => (j.campaignId, j.contactId)).Nodup := by
  cases h with
  | frame _ _ hsame => exact hsame.jobs ▸ hw.distinct
  | dispatch campaignId contactIds =>
      refine nodup_append_newRows (fun r x hfree heq => ?_) hw.distinct
      rw [collides, Bool.or_eq_false_iff, decide_eq_false_iff_not, decide_eq_false_iff_not] at hfree
      obtain ⟨hcampaign, hcontact⟩ := Prod.mk.inj heq
      exact hfree.2 ⟨hcampaign.symm, hcontact.symm⟩
  | startJob => exact nodup_updateMany (fun _ => by rfl) (fun _ => by rfl) hw.distinct
  | settleJob jobId target f hf hcampaign hcontact =>
      exact nodup_updateMany hf (fun j => Prod.ext (hcampaign j) (hcontact j)) hw.distinct
  | importRows | archive | addRecipients | removeRecipient | mint | rotate | touch | claim | sweep => exact hw.distinct

theorem Effect.linked (h : Effect V l w w') (hw : Linked w) : Linked w' where
  claims := fun _ hc => (h.claim_from hw hc).step h
  single := h.single hw
  jobs := fun _ hj hdispatched => (h.job_claimed hw hj hdispatched).step h
  distinct := h.distinct hw

end Step

/-! ### Figures -/

section Figures

variable {w w' : Campaigns} {orgId campaignId : Nat} {report : CampaignReport}

/-- Rows that are told apart and each found among others are no more than these. -/
theorem length_le_of_found {α β τ : Type} {xs : List α} {ys : List β} {f : α → τ} {g : β → τ}
    (hnodup : (xs.map f).Nodup) (hfound : ∀ x ∈ xs, ∃ y ∈ ys, g y = f x) : xs.length ≤ ys.length := by
  have hsub : xs.map f ⊆ ys.map g := by
    intro t ht
    obtain ⟨x, hx, rfl⟩ := List.mem_map.mp ht
    obtain ⟨y, hy, heq⟩ := hfound x hx
    exact List.mem_map.mpr ⟨y, hy, heq⟩
  simpa using (List.subperm_of_subset hnodup hsub).length_le

/-- The dispatched jobs of a campaign. -/
def dispatchedCount (campaignId : Nat) (w : Campaigns) : Nat :=
  w.jobs.count fun j => j.campaignId = campaignId && j.status = .dispatched

/-- The contacts a campaign was dispatched to. -/
def dispatchedTo (campaignId : Nat) (w : Campaigns) : List Nat :=
  (w.jobs.rows.filter fun j => j.campaignId = campaignId).map DispatchJob.contactId

/-- Every gift that is sent was issued. -/
theorem Linked.dispatched_le (hw : Linked w) : dispatchedCount campaignId w ≤ issuedCount campaignId w := by
  rw [dispatchedCount, issuedCount, Table.count, Table.count, List.countP_eq_length_filter,
    List.countP_eq_length_filter]
  refine length_le_of_found (f := DispatchJob.id) (g := ClaimableGift.jobId)
    (w.jobs.nodup.sublist (List.filter_sublist.map _)) fun j hj => ?_
  rw [List.mem_filter, Bool.and_eq_true, decide_eq_true_eq, decide_eq_true_eq] at hj
  obtain ⟨hstored, rfl, hdispatched⟩ := hj
  obtain ⟨c, hc, hjob⟩ := hw.jobs j hstored hdispatched
  have hof := hw.claims c hc
  rw [hjob] at hof
  obtain ⟨hcampaign, -⟩ := hof.unique (hasJob_of_mem hstored)
  exact ⟨c, List.mem_filter.mpr ⟨hc, decide_eq_true hcampaign⟩, hjob⟩

/-- Every gift is that of a contact the campaign was dispatched to, and of another contact than the others. -/
theorem Linked.issued_le (hw : Linked w) : issuedCount campaignId w ≤ (dispatchedTo campaignId w).dedup.length := by
  have hdistinct : (dispatchedTo campaignId w).Nodup := by
    refine List.Nodup.map_on (fun i hi j hj hcontact => ?_) (List.Nodup.filter _ ?_)
    · rw [List.mem_filter, decide_eq_true_eq] at hi hj
      exact List.inj_on_of_nodup_map hw.distinct hi.1 hj.1 (Prod.ext (hi.2.trans hj.2.symm) hcontact)
    · exact List.Nodup.of_map _ w.jobs.nodup
  rw [List.dedup_eq_self.mpr hdistinct, dispatchedTo, List.length_map, issuedCount, Table.count,
    List.countP_eq_length_filter]
  refine length_le_of_found (f := ClaimableGift.jobId) (g := DispatchJob.id)
    (hw.single.sublist (List.filter_sublist.map _)) fun c hc => ?_
  rw [List.mem_filter, decide_eq_true_eq] at hc
  obtain ⟨hstored, rfl⟩ := hc
  obtain ⟨j, hj, hcampaign, -⟩ := hw.claims c hstored
  exact ⟨j, List.mem_filter.mpr ⟨mem_of_find hj, decide_eq_true hcampaign⟩, key_of_find hj⟩

theorem loadCampaign_exec {campaign : GiftCampaign} (h : (loadCampaign orgId campaignId).exec w = (.ok campaign, w')) :
    w = w' := by
  obtain ⟨found, w₁, hfound, h⟩ := Svc.exec_bind_ok.mp h
  rw [Svc.exec_query] at hfound
  obtain ⟨-, rfl⟩ := Prod.mk.inj hfound
  cases found with
  | none => cases h
  | some c =>
      cases h
      rfl

theorem orgCampaignReport_exec (h : (orgCampaignReport orgId campaignId).exec w = (.ok report, w')) :
    report.recipients = recipientCount campaignId w ∧ report.dispatched = dispatchedCount campaignId w ∧
      report.gifts = (counts campaignId w).gifts := by
  obtain ⟨campaign, w₁, hload, h⟩ := Svc.exec_bind_ok.mp h
  obtain rfl := loadCampaign_exec hload
  obtain ⟨figures, w₂, hcounts, h⟩ := Svc.exec_bind_ok.mp h
  rw [countsFor_exec] at hcounts
  cases hcounts
  cases h
  refine ⟨rfl, ?_, rfl⟩
  change ((groupCount (jobStatuses campaignId w)).lookup .dispatched).getD 0 = _
  rw [lookup_groupCount, jobStatuses, List.count_eq_countP, List.countP_map, List.countP_filter]
  refine List.countP_congr fun j _ => ?_
  simp [and_comm]

/-- The figures of a report agree with each other. -/
structure Consistent (campaignId : Nat) (w : Campaigns) (report : CampaignReport) : Prop where
  balanced : report.gifts.issued = report.gifts.claimed + report.gifts.pending + report.gifts.didNotParticipate
  claimed : 0 ≤ report.gifts.claimed
  pending : 0 ≤ report.gifts.pending
  didNotParticipate : 0 ≤ report.gifts.didNotParticipate
  dispatched : (report.dispatched : Int) ≤ report.gifts.issued
  /-- One gift at most for each contact that the campaign was dispatched to. -/
  issued : report.gifts.issued ≤ (dispatchedTo campaignId w).dedup.length
  /-- They count the gifts of the campaign in each bucket. -/
  counted : report.gifts.claimed = bucketCount campaignId .claimed w ∧
    report.gifts.pending = bucketCount campaignId .pending w ∧
    report.gifts.didNotParticipate = bucketCount campaignId .didNotParticipate w

theorem Linked.consistent (hw : Linked w) (h : (orgCampaignReport orgId campaignId).exec w = (.ok report, w')) :
    Consistent campaignId w report := by
  obtain ⟨-, hdispatched, hgifts⟩ := orgCampaignReport_exec h
  rw [gifts_counts] at hgifts
  have hissued : issuedCount campaignId w = _ := issued_buckets
  have hsent : dispatchedCount campaignId w ≤ _ := hw.dispatched_le
  have honce : issuedCount campaignId w ≤ _ := hw.issued_le
  constructor
  all_goals rw [hgifts]
  all_goals dsimp only
  · omega
  · omega
  · omega
  · omega
  · omega
  · exact_mod_cast honce
  · exact ⟨rfl, rfl, rfl⟩

end Figures

/-! ### A run -/

section Path

variable {V : Nat → String → Prop} {tr : List (Event Campaigns Step)} {w : Campaigns}

theorem linked_of_path (h : Path (Effect V) empty tr w) : Linked w :=
  h.invariant (C := fun _ => True) (fun _ _ _ hact _ hw => hact.linked hw) (fun _ _ => trivial) linked_empty

theorem bucket_of_path (h : Path (Effect V) empty tr w) {e : Event Campaigns Step} (he : e ∈ tr) {c : ClaimableGift}
    (hc : c ∈ e.post.claims.rows) (hended : c.status ≠ .pending) :
    ∃ c' ∈ w.claims.rows, c'.id = c.id ∧ c'.campaignId = c.campaignId ∧ c'.bucket w.now = c.bucket e.post.now := by
  obtain ⟨tr₁, tr₂, rfl, hbefore, hact, hafter⟩ := h.split he
  have hstays : Linked w ∧
      ∃ c' ∈ w.claims.rows, c'.id = c.id ∧ c'.campaignId = c.campaignId ∧ c'.status = c.status := by
    refine hafter.invariant (C := fun _ => True)
      (P := fun s => Linked s ∧
        ∃ c' ∈ s.claims.rows, c'.id = c.id ∧ c'.campaignId = c.campaignId ∧ c'.status = c.status)
      (fun l s t hact' _ hs => ?_) (fun _ _ => trivial) ⟨hact.linked (linked_of_path hbefore), c, hc, rfl, rfl, rfl⟩
    obtain ⟨hlinked, d, hd, hid, hcampaign, hstatus⟩ := hs
    obtain ⟨d', hd', hid', -, hcampaign', -, hstatus'⟩ := hact'.claim_stays hlinked hd
    refine ⟨hact'.linked hlinked, d', hd', hid'.trans hid, hcampaign'.trans hcampaign, ?_⟩
    exact (hstatus' (hstatus ▸ hended)).trans hstatus
  obtain ⟨-, c', hc', hid, hcampaign, hstatus⟩ := hstays
  refine ⟨c', hc', hid, hcampaign, ?_⟩
  unfold ClaimableGift.bucket ClaimableGift.lapsed
  rw [hstatus]
  simp [hended]

end Path

variable [Shop.Cities] [Runtime]

/-- **The figures of a campaign agree**, in the report of every state that is reached; and a gift that has been claimed
or has ended otherwise is counted so ever after. -/
theorem Run.figures {tr : List (Event Campaigns Step)} {cfg : Config Campaigns Step (Except Err Reply)}
    (h : Run tr cfg) :
    (∀ orgId campaignId report w', (orgCampaignReport orgId campaignId).exec cfg.state = (.ok report, w') →
      Consistent campaignId cfg.state report) ∧
    ∀ e ∈ tr, ∀ c ∈ e.post.claims.rows, c.status ≠ .pending → ∃ c' ∈ cfg.state.claims.rows,
      c'.id = c.id ∧ c'.campaignId = c.campaignId ∧ c'.bucket cfg.state.now = c.bucket e.post.now :=
  ⟨fun _ _ _ _ hreport => (linked_of_path (Run.plain h)).consistent hreport,
    fun _ he _ hc hended => bucket_of_path (Run.plain h) he hc hended⟩

/-! ### Reports that drift -/

def reported (orgId campaignId : Nat) (w : Campaigns) : Option (Nat × GiftFigures) :=
  ((orgCampaignReport orgId campaignId).exec w).1.toOption.map fun r => (r.recipients, r.gifts)

namespace Pilot

/-- Noor is sent a gift. -/
def sent : List (Choice Call) :=
  opened ++ roster "name,email\nNoor,noor@acme.sa" ++ drafted ++ toEnd (.addRecipients "huda" 1 1 (some [0])) ++
    approved 1 ++ toEnd (.dispatchCampaign "huda" 1 1) ++ delivered

/-- A year later the roster is swept. -/
def swept : List (Choice Call) := sent ++ days 366 ++ toEnd .purge

/-- Her link runs out, and the links are exported once more. -/
def revived : List (Choice Call) := sent ++ days 31 ++ toEnd (.exportCampaignClaimLinks "ops" 1 1 drawn)

end Pilot

omit [Shop.Cities] [Runtime] in
/-- The report of a gift that is on its way. -/
theorem Run.figures_sent :
    (∀ orgId campaignId report w', (orgCampaignReport orgId campaignId).exec (Pilot.played Pilot.sent).2.state =
        (.ok report, w') → Consistent campaignId (Pilot.played Pilot.sent).2.state report) ∧
      reported 1 1 (Pilot.played Pilot.sent).2.state = some (1, ⟨1, 0, 1, 0⟩) :=
  ⟨(@Run.figures Market.Pilot.plainCities plainRuntime _ _ (Pilot.run Pilot.sent)).1, by decide +kernel⟩

omit [Shop.Cities] [Runtime] in
/-- **The figures drift from the recipients, and from themselves**: a sweep takes the recipient of a gift that was
issued; and a gift whose link has run out is pending again once the links are exported. -/
theorem Run.figures_drift :
    (∃ tr cfg, @Run Market.Pilot.plainCities plainRuntime tr cfg ∧
      reported 1 1 cfg.state = some (0, ⟨1, 0, 0, 1⟩)) ∧
    ∃ tr cfg, @Run Market.Pilot.plainCities plainRuntime tr cfg ∧ cfg.state.claims.rows.length = 1 ∧
      (∃ e ∈ tr, reported 1 1 e.post = some (1, ⟨1, 0, 0, 1⟩)) ∧ reported 1 1 cfg.state = some (1, ⟨1, 0, 1, 0⟩) :=
  ⟨⟨_, _, Pilot.run Pilot.swept, by decide +kernel⟩,
    _, _, Pilot.run Pilot.revived, by decide +kernel⟩

end Qift.Campaigns
