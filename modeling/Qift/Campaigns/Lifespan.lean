import Qift.Campaigns.Funnel

/-!
# The end of a gift

A gift ends when it is claimed, turned down or marked expired, and by the clock when its link runs out. A mint that
finds the claim of its job writes it anew, by its identifier.

* **`Run.address_of_claimed`** — a gift is claimed exactly if its address is stored, and **`Run.claimed_exported`**
  exports it so.
* `Terminal` — the eligibility of a settlement, or the report, counts the gift as ended.
* **`Run.ended_for_good`** — where mints rewrite only links that are live, an ended gift stays ended, and its expiry
  stays. `Run.ended_for_good_revived` is a gift that ran out and is rewritten.
* **`Run.claimed_for_good`** — where mints rewrite only claims that are pending, a claimed gift keeps its link.
  `Run.claimed_for_good_rotated` is a submission between the two halves of a mint.
-/

namespace Qift.Campaigns

open Relational Relational.Table Interleaving

variable {V : Nat → String → Prop} {w w' : Campaigns} {l : Step} {c : ClaimableGift} {now : Time}

/-! ### What has ended -/

def TERMINAL_CLAIM_STATES : List ClaimStatus := [.claimed, .declined, .expired, .mismatch, .revoked]

/-- The eligibility of a settlement waits for the gift. -/
def ClaimableGift.isOpen (now : Time) (c : ClaimableGift) : Bool :=
  decide (c.status ∉ TERMINAL_CLAIM_STATES) && !c.lapsed now

/-- The gift counts as ended, for the eligibility or in the report. -/
def Terminal (now : Time) (c : ClaimableGift) : Prop := c.isOpen now = false ∨ c.bucket now ≠ .pending

/-- Both views of it together: the link does not work any more. -/
theorem terminal_iff : Terminal now c ↔ c.status ≠ .pending ∨ c.expiresAt < now := by
  have hbucket : c.bucket now ≠ .pending ↔ c.status ≠ .pending ∨ c.expiresAt < now := by
    rw [ne_eq, bucket_pending]
    by_cases hpending : c.status = .pending
    · simp [ClaimableGift.lapsed, hpending]
    · simp [hpending]
  rw [Terminal, hbucket, or_iff_right_iff_imp]
  intro hclosed
  by_cases hpending : c.status = .pending
  · simp only [ClaimableGift.isOpen, ClaimableGift.lapsed, hpending] at hclosed
    exact .inr (by simpa [TERMINAL_CLAIM_STATES] using hclosed)
  · exact .inl hpending

/-! ### Mints that rewrite a claim -/

/-- A mint rewrites only claims of some kind. -/
def Rewrites (P : Time → ClaimableGift → Prop) (e : Event Campaigns Step) : Prop :=
  match e.lbl with
  | .rotate claimId => ∀ c ∈ e.pre.claims.rows, c.id = claimId → P e.pre.now c
  | _ => True

/-- What a gift keeps as time passes, as long as its expiry stays and it is given no status but when it is pending. -/
def Lasting (K : Time → ClaimableGift → Prop) : Prop :=
  ∀ s t c c', K s c → s ≤ t → c'.expiresAt = c.expiresAt → (c'.status = c.status ∨ c.status = .pending) → K t c'

theorem lasting_terminal : Lasting Terminal := by
  intro s t c c' hended hlater hexpiry hstatus
  rw [terminal_iff] at hended ⊢
  rw [hexpiry]
  rcases hstatus with hsame | hpending
  · rw [hsame]
    exact hended.imp_right fun hlapsed => hlapsed.trans_le hlater
  · exact .inr ((hended.resolve_left fun hne => hne hpending).trans_le hlater)

theorem lasting_claimed : Lasting fun _ c => c.status = .claimed := by
  intro s t c c' hclaimed _ _ hstatus
  refine (hstatus.resolve_right fun hpending => ?_).trans hclaimed
  rw [hclaimed] at hpending
  cases hpending

/-- A gift keeps its link and its expiry, up to a mint that rewrites it. -/
theorem Effect.claim_turn (h : Effect V l w w') (hc : c ∈ w.claims.rows) :
    ∃ c' ∈ w'.claims.rows, c'.id = c.id ∧ (l = .rotate c.id ∨ c'.tokenHash = c.tokenHash ∧
      c'.expiresAt = c.expiresAt ∧ (c'.status = c.status ∨ c.status = .pending)) := by
  have hsame : c.id = c.id ∧ (l = .rotate c.id ∨ c.tokenHash = c.tokenHash ∧ c.expiresAt = c.expiresAt ∧
      (c.status = c.status ∨ c.status = .pending)) := ⟨rfl, .inr ⟨rfl, rfl, .inl rfl⟩⟩
  cases h with
  | frame _ _ hkept => exact ⟨c, hkept.claims ▸ hc, hsame⟩
  | mint jobId data giftReference t hjob hvalue hfree hcreate => exact ⟨c, (mem_create hcreate).mpr (.inl hc), hsame⟩
  | rotate data d hd =>
      refine ⟨_, mem_of_find (find_updateMany_some (fun _ => by rfl) (find_of_mem hc)), ?_⟩
      split
      · rename_i hrewritten
        exact ⟨rfl, .inl (congrArg Step.rotate (of_decide_eq_true hrewritten).symm)⟩
      · exact hsame
  | touch _ _ p f hf hby hstatus =>
      refine ⟨_, mem_of_find (find_updateMany_some hf (find_of_mem hc)), ?_⟩
      split
      · rename_i htouched
        exact ⟨hf c, .inr ⟨hby.tokenHash c, hby.expiresAt c, (hstatus c htouched).imp_right And.left⟩⟩
      · exact hsame
  | claim claimId address t =>
      refine ⟨_, mem_of_find (find_updateMany_some (fun _ => by rfl) (find_of_mem hc)), ?_⟩
      split
      · rename_i hflipped
        simp only [Bool.and_eq_true, decide_eq_true_eq] at hflipped
        exact ⟨rfl, .inr ⟨rfl, rfl, .inr hflipped.2⟩⟩
      · exact hsame
  | importRows | archive | addRecipients | removeRecipient | dispatch | startJob | settleJob | sweep =>
      exact ⟨c, hc, hsame⟩

theorem Effect.now_le (h : Effect V l w w') : w.now ≤ w'.now := by
  cases h with
  | frame _ _ hsame => exact hsame.now
  | _ => exact le_rfl

theorem kept_of_path {K P : Time → ClaimableGift → Prop} (hlasting : Lasting K) (hapart : ∀ now c, K now c → ¬P now c)
    {tr : List (Event Campaigns Step)} (h : Path (Effect V) w tr w') (hrewrites : ∀ e ∈ tr, Rewrites P e)
    (hc : c ∈ w.claims.rows) (hkept : K w.now c) :
    ∃ c' ∈ w'.claims.rows, c'.id = c.id ∧ c'.tokenHash = c.tokenHash ∧ c'.expiresAt = c.expiresAt ∧ K w'.now c' := by
  refine h.invariant (P := fun s => ∃ c' ∈ s.claims.rows, c'.id = c.id ∧ c'.tokenHash = c.tokenHash ∧
    c'.expiresAt = c.expiresAt ∧ K s.now c') (fun l s t hact he hs => ?_) hrewrites ⟨c, hc, rfl, rfl, rfl, hkept⟩
  obtain ⟨d, hd, hid, htoken, hexpiry, hd'⟩ := hs
  obtain ⟨d', hstored, hid', hrotate | ⟨htoken', hexpiry', hstatus⟩⟩ := hact.claim_turn hd
  · subst hrotate
    exact absurd (he d hd rfl) (hapart _ d hd')
  · exact ⟨d', hstored, hid'.trans hid, htoken'.trans htoken, hexpiry'.trans hexpiry,
      hlasting _ _ d d' hd' hact.now_le hexpiry' hstatus⟩

/-! ### Claims and addresses -/

/-- A gift is claimed exactly if its address is stored. -/
structure Addressed (w : Campaigns) : Prop where
  owned : ∀ a ∈ w.addresses.rows, ∃ c ∈ w.claims.rows, c.id = a.claimId ∧ c.status = .claimed
  stored : ∀ c ∈ w.claims.rows, c.status = .claimed → ∃ a ∈ w.addresses.rows, a.claimId = c.id

theorem Effect.address_stays (h : Effect V l w w') {a : ClaimAddress} (ha : a ∈ w.addresses.rows) :
    a ∈ w'.addresses.rows := by
  cases h with
  | frame _ _ hsame => exact hsame.addresses ▸ ha
  | claim claimId address t hpending hcreate => exact (mem_create hcreate).mpr (.inl ha)
  | importRows | archive | addRecipients | removeRecipient | dispatch | startJob | settleJob | mint | rotate | touch
  | sweep => exact ha

theorem Effect.address_from (h : Effect V l w w') {a : ClaimAddress} (ha : a ∈ w'.addresses.rows) :
    a ∈ w.addresses.rows ∨ l = .claim a.claimId a.address ∧
      (∃ c, w.claims.find a.claimId = some c ∧ c.status = .pending) ∧
      ∃ c ∈ w'.claims.rows, c.id = a.claimId ∧ c.status = .claimed := by
  cases h with
  | frame _ _ hsame => exact .inl (hsame.addresses ▸ ha)
  | claim claimId address t hpending hcreate =>
      rcases (mem_create hcreate).mp ha with hold | rfl
      · exact .inl hold
      · refine .inr ⟨rfl, hpending, ?_⟩
        obtain ⟨c, hc, hstatus⟩ := hpending
        refine ⟨_, mem_of_find (find_updateMany_some (fun _ => by rfl) hc), ?_⟩
        have hid := key_of_find hc
        simp [hid, hstatus]
  | importRows | archive | addRecipients | removeRecipient | dispatch | startJob | settleJob | mint | rotate | touch
  | sweep => exact .inl ha

theorem Effect.claimed_from (h : Effect V l w w') {c' : ClaimableGift} (hc' : c' ∈ w'.claims.rows)
    (hclaimed : c'.status = .claimed) :
    (∃ c ∈ w.claims.rows, c.id = c'.id ∧ c.status = .claimed) ∨ ∃ a ∈ w'.addresses.rows, a.claimId = c'.id := by
  cases h with
  | frame _ _ hsame => exact .inl ⟨c', hsame.claims ▸ hc', rfl, hclaimed⟩
  | mint jobId data giftReference t hjob hvalue hfree hcreate =>
      rcases (mem_create hcreate).mp hc' with hold | rfl
      · exact .inl ⟨c', hold, rfl, hclaimed⟩
      · cases hclaimed
  | rotate data d hd =>
      obtain ⟨c, hc, rfl⟩ := of_mem_updateMany (fun _ => by rfl) hc'
      refine .inl ⟨c, hc, ?_⟩
      split at hclaimed
      · rw [if_pos (by assumption)]
        exact ⟨rfl, hclaimed⟩
      · rw [if_neg (by assumption)]
        exact ⟨rfl, hclaimed⟩
  | touch _ _ p f hf hby hstatus =>
      obtain ⟨c, hc, rfl⟩ := of_mem_updateMany hf hc'
      refine .inl ⟨c, hc, ?_⟩
      split at hclaimed
      · rename_i htouched
        rw [if_pos htouched]
        -- what is touched is not claimed by it
        rcases hstatus c htouched with hkeep | ⟨-, hother⟩
        · exact ⟨(hf c).symm, hkeep.symm.trans hclaimed⟩
        · exact absurd hclaimed hother
      · rw [if_neg (by assumption)]
        exact ⟨rfl, hclaimed⟩
  | claim claimId address t hpending hcreate =>
      obtain ⟨c, hc, rfl⟩ := of_mem_updateMany (fun _ => by rfl) hc'
      split at hclaimed
      · rename_i hflipped
        rw [if_pos hflipped]
        simp only [Bool.and_eq_true, decide_eq_true_eq] at hflipped
        exact .inr ⟨_, (mem_create hcreate).mpr (.inr rfl), hflipped.1.symm⟩
      · rw [if_neg (by assumption)]
        exact .inl ⟨c, hc, rfl, hclaimed⟩
  | importRows | archive | addRecipients | removeRecipient | dispatch | startJob | settleJob | sweep =>
      exact .inl ⟨c', hc', rfl, hclaimed⟩

theorem Effect.addressed (h : Effect V l w w') (hw : Addressed w) (hlinked : Linked w) : Addressed w' where
  owned := by
    intro a ha
    rcases h.address_from ha with hold | ⟨-, -, hsubmitted⟩
    · obtain ⟨c, hc, hid, hclaimed⟩ := hw.owned a hold
      obtain ⟨c', hc', hid', -, -, -, hstatus⟩ := h.claim_stays hlinked hc
      refine ⟨c', hc', hid'.trans hid, ?_⟩
      rw [hstatus (by rw [hclaimed]; exact nofun)]
      exact hclaimed
    · exact hsubmitted
  stored := by
    intro c' hc' hclaimed
    rcases h.claimed_from hc' hclaimed with ⟨c, hc, hid, hbefore⟩ | hsubmitted
    · obtain ⟨a, ha, howned⟩ := hw.stored c hc hbefore
      exact ⟨a, h.address_stays ha, howned.trans hid⟩
    · exact hsubmitted

/-! ### A run -/

section Path

variable {tr : List (Event Campaigns Step)}

theorem addressed_of_path (h : Path (Effect V) empty tr w) : Addressed w := by
  have hboth : Linked w ∧ Addressed w := by
    refine h.invariant (P := fun s => Linked s ∧ Addressed s) (C := fun _ => True) (fun l s t hact _ hs => ?_)
      (fun _ _ => trivial) ⟨linked_empty, fun _ ha => (by cases ha), fun _ hc => (by cases hc)⟩
    exact ⟨hact.linked hs.1, hact.addressed hs.2 hs.1⟩
  exact hboth.2

theorem address_of_path (h : Path (Effect V) w tr w') {a : ClaimAddress} (ha : a ∈ w.addresses.rows) :
    a ∈ w'.addresses.rows :=
  h.invariant (P := fun s => a ∈ s.addresses.rows) (C := fun _ => True) (fun _ _ _ hact _ hs => hact.address_stays hs)
    (fun _ _ => trivial) ha

end Path

/-! ### The fulfillment export -/

theorem exportFulfillment_exec {actorUserId : String} {orgId campaignId : Nat} {answer : FulfillmentExport}
    (h : (exportCampaignFulfillment actorUserId orgId campaignId).exec w = (.ok answer, w')) :
    answer.rows = fulfillmentRows ((claimedGifts campaignId w).take MAX_EXPORT_ROWS)
        (w.addresses.rows.filter fun a =>
          a.claimId ∈ ((claimedGifts campaignId w).take MAX_EXPORT_ROWS).map ClaimableGift.id) ∧
      answer.count = answer.rows.length := by
  obtain ⟨campaign, w₁, hload, h⟩ := Svc.exec_bind_ok.mp h
  obtain rfl := loadCampaign_exec hload
  obtain ⟨option, w₂, hoption, h⟩ := Svc.exec_bind_ok.mp h
  cases hoption
  obtain ⟨claims, w₃, hclaims, h⟩ := Svc.exec_bind_ok.mp h
  cases hclaims
  obtain ⟨addresses, w₄, haddresses, h⟩ := Svc.exec_bind_ok.mp h
  cases haddresses
  obtain ⟨_, w₅, haudit, h⟩ := Svc.exec_bind_ok.mp h
  cases h
  exact ⟨rfl, rfl⟩

theorem fulfillmentRows_forall₂ {claims : List ClaimableGift} {addresses : List ClaimAddress}
    (h : ∀ c ∈ claims, ∃ a, addresses.find? (fun a => a.claimId = c.id) = some a) :
    List.Forall₂ (fun c row => ∃ a ∈ addresses, a.claimId = c.id ∧ row = fulfillmentRow c a.address) claims
      (fulfillmentRows claims addresses) := by
  induction claims with
  | nil => exact .nil
  | cons c rest ih =>
      obtain ⟨a, hfound⟩ := h c List.mem_cons_self
      rw [fulfillmentRows, List.filterMap_cons, hfound]
      have hrow := List.find?_some hfound
      refine .cons ⟨a, List.mem_of_find?_eq_some hfound, of_decide_eq_true hrow, rfl⟩ ?_
      exact ih fun d hd => h d (List.mem_cons_of_mem c hd)

/-- What an export of this state answers with: a row for each claimed gift, up to its cap, with its address. -/
structure Fulfilled (campaignId : Nat) (w : Campaigns) (answer : FulfillmentExport) : Prop where
  rows : List.Forall₂ (fun c row => ∃ a ∈ w.addresses.rows, a.claimId = c.id ∧ row = fulfillmentRow c a.address)
    ((claimedGifts campaignId w).take MAX_EXPORT_ROWS) answer.rows
  /-- The gifts of the campaign that are claimed, each once. -/
  gifts : (claimedGifts campaignId w).Nodup ∧
    ∀ c, c ∈ claimedGifts campaignId w ↔ c ∈ w.claims.rows ∧ c.campaignId = campaignId ∧ c.status = .claimed
  count : answer.count = min MAX_EXPORT_ROWS (claimedGifts campaignId w).length

theorem claimedGifts_perm (campaignId : Nat) (w : Campaigns) : (claimedGifts campaignId w).Perm
    (w.claims.rows.filter fun c => c.campaignId = campaignId ∧ c.status = .claimed) := List.perm_insertionSort _ _

theorem mem_claimedGifts {campaignId : Nat} :
    c ∈ claimedGifts campaignId w ↔ c ∈ w.claims.rows ∧ c.campaignId = campaignId ∧ c.status = .claimed := by
  rw [(claimedGifts_perm campaignId w).mem_iff, List.mem_filter, decide_eq_true_eq]

theorem Addressed.fulfilled (hw : Addressed w) {actorUserId : String} {orgId campaignId : Nat}
    {answer : FulfillmentExport}
    (h : (exportCampaignFulfillment actorUserId orgId campaignId).exec w = (.ok answer, w')) :
    Fulfilled campaignId w answer := by
  obtain ⟨hrows, hcount⟩ := exportFulfillment_exec h
  have hfound : ∀ c ∈ (claimedGifts campaignId w).take MAX_EXPORT_ROWS, ∃ a, (w.addresses.rows.filter fun a =>
      a.claimId ∈ ((claimedGifts campaignId w).take MAX_EXPORT_ROWS).map ClaimableGift.id).find?
        (fun a => a.claimId = c.id) = some a := by
    intro c hc
    obtain ⟨hstored, -, hclaimed⟩ := mem_claimedGifts.mp (List.mem_of_mem_take hc)
    obtain ⟨a, ha, howned⟩ := hw.stored c hstored hclaimed
    refine Option.isSome_iff_exists.mp (List.find?_isSome.mpr ⟨a, List.mem_filter.mpr ⟨ha, ?_⟩, decide_eq_true howned⟩)
    exact decide_eq_true (List.mem_map.mpr ⟨c, hc, howned.symm⟩)
  have hforall := fulfillmentRows_forall₂ hfound
  rw [← hrows] at hforall
  constructor
  · refine hforall.imp fun c row hrow => ?_
    obtain ⟨a, ha, hown⟩ := hrow
    exact ⟨a, (List.mem_filter.mp ha).1, hown⟩
  · refine ⟨(claimedGifts_perm campaignId w).nodup_iff.mpr ?_, fun c => mem_claimedGifts⟩
    exact (List.Nodup.of_map _ w.claims.nodup).filter _
  · rw [hcount, ← hforall.length_eq, List.length_take]

section Run

variable [Shop.Cities] [Runtime] {tr : List (Event Campaigns Step)} {cfg : Config Campaigns Step (Except Err Reply)}

/-- **An ended gift never becomes live again**, and its link and expiry stay, where mints rewrite live links only. -/
theorem Run.ended_for_good (h : Run tr cfg) (hlive : ∀ e ∈ tr, Rewrites (fun now c => ¬Terminal now c) e) :
    ∀ e ∈ tr, ∀ c ∈ e.post.claims.rows, Terminal e.post.now c →
      ∃ c' ∈ cfg.state.claims.rows, c'.id = c.id ∧ c'.tokenHash = c.tokenHash ∧ c'.expiresAt = c.expiresAt ∧
        Terminal cfg.state.now c' := by
  intro e he c hc hended
  obtain ⟨tr₁, tr₂, rfl, -, -, hafter⟩ := (Run.plain h).split he
  refine kept_of_path lasting_terminal (fun _ _ => not_not_intro) hafter (fun e' he' => hlive e' ?_) hc hended
  exact List.mem_append_right _ (List.mem_cons_of_mem _ he')

/-- **A claimed gift is not minted again**: no mint rewrites it, and its link, expiry and status stay, where mints
rewrite pending claims only. -/
theorem Run.claimed_for_good (h : Run tr cfg) (hpending : ∀ e ∈ tr, Rewrites (fun _ c => c.status = .pending) e) :
    ∀ tr₁ e tr₂, tr = tr₁ ++ e :: tr₂ → ∀ c ∈ e.post.claims.rows, c.status = .claimed →
      (∀ e' ∈ tr₂, e'.lbl ≠ .rotate c.id) ∧
        ∃ c' ∈ cfg.state.claims.rows, c'.id = c.id ∧ c'.tokenHash = c.tokenHash ∧ c'.expiresAt = c.expiresAt ∧
          c'.status = .claimed := by
  rintro tr₁ e tr₂ rfl c hc hclaimed
  obtain ⟨u, hbefore, hrest⟩ := (Run.plain h).split_append
  obtain ⟨-, -, hafter⟩ := hrest.cons_inv
  have hlater : ∀ e' ∈ tr₂, Rewrites (fun _ c => c.status = .pending) e' := fun e' he' =>
    hpending e' (List.mem_append_right _ (List.mem_cons_of_mem _ he'))
  have hapart : ∀ (now : Time) (c : ClaimableGift), c.status = .claimed → ¬c.status = .pending := by
    intro now c hclaimed hopen
    rw [hclaimed] at hopen
    cases hopen
  refine ⟨fun e' he' hrotate => ?_, kept_of_path lasting_claimed hapart hafter hlater hc hclaimed⟩
  obtain ⟨tr₃, tr₄, rfl, hup, -, -⟩ := hafter.split he'
  obtain ⟨d, hd, hid, -, -, hstill⟩ :=
    kept_of_path lasting_claimed hapart hup (fun x hx => hlater x (List.mem_append_left _ hx)) hc hclaimed
  have hclash := hlater e' he'
  rw [Rewrites, hrotate] at hclash
  exact hapart 0 d hstill (hclash d hd hid)

/-- **A gift is claimed exactly if its address is stored**; an address is that of a submission for a pending gift, it
stays as it is, and a gift that has ended otherwise never has one. -/
theorem Run.address_of_claimed (h : Run tr cfg) :
    Addressed cfg.state ∧ ∀ e ∈ tr,
      (∀ a ∈ e.post.addresses.rows, a ∈ cfg.state.addresses.rows ∧ (a ∈ e.pre.addresses.rows ∨
        e.lbl = .claim a.claimId a.address ∧ ∃ c, e.pre.claims.find a.claimId = some c ∧ c.status = .pending)) ∧
      ∀ c ∈ e.post.claims.rows, c.status ≠ .pending → c.status ≠ .claimed →
        ∀ a ∈ cfg.state.addresses.rows, a.claimId ≠ c.id := by
  have hpath := Run.plain h
  have hstep := addressed_of_path hpath
  refine ⟨hstep, fun e he => ⟨fun a ha => ?_, fun c hc hended hunclaimed a ha howned => ?_⟩⟩
  · obtain ⟨tr₁, tr₂, -, -, hact, hafter⟩ := hpath.split he
    exact ⟨address_of_path hafter ha, (hact.address_from ha).imp_right fun hnew => ⟨hnew.1, hnew.2.1⟩⟩
  · -- an outcome stays, so this gift is not the claimed one
    obtain ⟨c', hc', hid, -, hbucket⟩ := bucket_of_path hpath he hc hended
    obtain ⟨d, hd, hid', hclaimed⟩ := hstep.owned a ha
    obtain rfl := cfg.state.claims.row_unique hd hc' (hid'.trans (howned.trans hid.symm))
    rw [bucket_claimed.mpr hclaimed] at hbucket
    exact hunclaimed (bucket_claimed.mp hbucket.symm)

/-- **Every claimed gift is exported with its address**, once, up to the cap of an export. -/
theorem Run.claimed_exported (h : Run tr cfg) {actorUserId : String} {orgId campaignId : Nat}
    {answer : FulfillmentExport} {w' : Campaigns}
    (hexport : (exportCampaignFulfillment actorUserId orgId campaignId).exec cfg.state = (.ok answer, w')) :
    Fulfilled campaignId cfg.state answer :=
  (addressed_of_path (Run.plain h)).fulfilled hexport

end Run

/-! ### Links that are written late -/

instance (c : ClaimableGift) (now : Time) : Decidable (Terminal now c) := decidable_of_iff _ terminal_iff.symm

instance {P : Time → ClaimableGift → Prop} [∀ now c, Decidable (P now c)] (e : Event Campaigns Step) :
    Decidable (Rewrites P e) :=
  match e with
  | ⟨pre, l, _⟩ =>
      match l with
      | .rotate claimId => inferInstanceAs (Decidable (∀ c ∈ pre.claims.rows, c.id = claimId → P pre.now c))
      | .read | .environment | .record | .importRows .. | .archive .. | .createCampaign | .editCampaign _ | .setOption _
      | .addRecipients .. | .removeRecipient .. | .setStatus .. | .dispatch .. | .complete | .startJob _ | .settleJob ..
      | .mint _ | .expire _ | .session _ | .finalize .. | .claim .. | .sweep => isTrue trivial

namespace Pilot

def home : ClaimAddressInput :=
  { phone := some "+966501234567", country := some "SA", city := some "Riyadh", line1 := some "King Fahd Road 1" }

/-- Noor's link is exported while it is live, and runs out; then the roster is swept. -/
def ranOut : List (Choice Call) :=
  sent ++ toEnd (.exportCampaignClaimLinks "ops" 1 1 drawn) ++ days 31 ++ toEnd .purge

/-- Noor opens a session. -/
def entered : List (Choice Call) := sent ++ toEnd (.verifyOtp evenToken.val (some "1234") (.ok ()) "session")

/-- Noor says where she lives. -/
def submitted : List (Choice Call) := toEnd (.submitAddress evenToken.val (some "session") home)

/-- Noor has claimed her gift, and the links are exported. -/
def accepted : List (Choice Call) :=
  entered ++ submitted ++ toEnd (.exportCampaignClaimLinks "ops" 1 1 fun j => drawn (j + 1))

/-- An export finds her claim pending, she submits, and the export writes the new link. -/
def rotatedLate : List (Choice Call) :=
  entered ++ .start (.exportCampaignClaimLinks "ops" 1 1 fun j => drawn (j + 1)) :: List.replicate 6 (.run 0) ++
    submitted ++ List.replicate 32 (.run 1)

end Pilot

/-- A gift whose link was exported anew while it was live, and ran out. -/
theorem Run.ended_for_good_ranOut :
    (∀ e ∈ (Pilot.played Pilot.ranOut).1, ∀ c ∈ e.post.claims.rows, Terminal e.post.now c →
      ∃ c' ∈ (Pilot.played Pilot.ranOut).2.state.claims.rows,
        c'.id = c.id ∧ c'.tokenHash = c.tokenHash ∧ c'.expiresAt = c.expiresAt ∧
          Terminal (Pilot.played Pilot.ranOut).2.state.now c') ∧
      ∃ e ∈ (Pilot.played Pilot.ranOut).1, ∃ c ∈ e.post.claims.rows, Terminal e.post.now c :=
  ⟨@Run.ended_for_good Market.Pilot.plainCities plainRuntime _ _ (Pilot.run Pilot.ranOut) (by decide +kernel),
    by decide +kernel⟩

/-- **An ended gift can become live again**: its link ran out, and the links are exported once more. -/
theorem Run.ended_for_good_revived : ∃ tr cfg, @Run Market.Pilot.plainCities plainRuntime tr cfg ∧
    (∃ e ∈ tr, ∃ c ∈ e.post.claims.rows, Terminal e.post.now c) ∧
    ∀ c ∈ cfg.state.claims.rows, ¬Terminal cfg.state.now c :=
  ⟨_, _, Pilot.run Pilot.revived, by decide +kernel⟩

/-- Noor's gift is claimed, and her address is stored. -/
theorem Run.address_of_claimed_accepted : Addressed (Pilot.played Pilot.accepted).2.state ∧
    (Pilot.played Pilot.accepted).2.state.addresses.rows.map ClaimAddress.claimId = [5] :=
  ⟨(@Run.address_of_claimed Market.Pilot.plainCities plainRuntime _ _ (Pilot.run Pilot.accepted)).1, by decide +kernel⟩

/-- Noor's gift is exported. -/
theorem Run.claimed_exported_accepted : ∃ answer w',
    (exportCampaignFulfillment "ops" 1 1).exec (Pilot.played Pilot.accepted).2.state = (.ok answer, w') ∧
      Fulfilled 1 (Pilot.played Pilot.accepted).2.state answer ∧ answer.count = 1 := by
  have hcount : ((exportCampaignFulfillment "ops" 1 1).exec (Pilot.played Pilot.accepted).2.state).1.toOption.map
      FulfillmentExport.count = some 1 := by decide +kernel
  rcases hexec : (exportCampaignFulfillment "ops" 1 1).exec (Pilot.played Pilot.accepted).2.state with ⟨reply, w'⟩
  rw [hexec] at hcount
  cases reply with
  | error e => cases hcount
  | ok answer =>
      have hrun := Pilot.run Pilot.accepted
      have hfulfilled := @Run.claimed_exported Market.Pilot.plainCities plainRuntime _ _ hrun _ _ _ _ _ hexec
      exact ⟨answer, w', rfl, hfulfilled, Option.some.inj hcount⟩

/-- An export passes a claimed gift by. -/
theorem Run.claimed_for_good_accepted :
    (∀ tr₁ e tr₂, (Pilot.played Pilot.accepted).1 = tr₁ ++ e :: tr₂ → ∀ c ∈ e.post.claims.rows, c.status = .claimed →
      (∀ e' ∈ tr₂, e'.lbl ≠ .rotate c.id) ∧
        ∃ c' ∈ (Pilot.played Pilot.accepted).2.state.claims.rows,
          c'.id = c.id ∧ c'.tokenHash = c.tokenHash ∧ c'.expiresAt = c.expiresAt ∧ c'.status = .claimed) ∧
      ∃ c ∈ (Pilot.played Pilot.accepted).2.state.claims.rows, c.status = .claimed :=
  ⟨@Run.claimed_for_good Market.Pilot.plainCities plainRuntime _ _ (Pilot.run Pilot.accepted) (by decide +kernel),
    by decide +kernel⟩

/-- **A claimed gift can be given another link**: the submission comes between the two halves of a mint. -/
theorem Run.claimed_for_good_rotated : ∃ tr cfg, @Run Market.Pilot.plainCities plainRuntime tr cfg ∧
    cfg.state.claims.rows.map (fun c => (c.status, c.tokenHash)) = [(.claimed, Pilot.oddToken.val)] ∧
    ∃ e ∈ tr, e.post.claims.rows.map (fun c => (c.status, c.tokenHash)) = [(.claimed, Pilot.evenToken.val)] :=
  ⟨_, _, Pilot.run Pilot.rotatedLate, by decide +kernel⟩

end Qift.Campaigns
