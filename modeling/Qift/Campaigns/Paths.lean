import Qift.Campaigns.Effects

/-!
# Runs are paths

* What a mint relies on stands whatever the others do: the job is stored, and so is the claim it was found with.
* `mintForJob_among` — a mint binds a claim to the value of the contact it has read.
* **`Run.path`** — a run in which the contacts carry allowed values is a path of `Effect`.
-/

namespace Qift.Campaigns

open Relational Interleaving

variable {V : Nat → String → Prop} {w w' : Campaigns} {l : Step}

/-! ### What stands -/

/-- The claim under an identifier is that of a job. -/
def ClaimOf (claimId jobId : Nat) (w : Campaigns) : Prop := ∃ c, w.claims.find claimId = some c ∧ c.jobId = jobId

theorem ClaimOf.hasClaim {claimId jobId : Nat} (h : ClaimOf claimId jobId w) : HasClaim jobId w := by
  obtain ⟨c, hc, hjob⟩ := h
  exact ⟨c, Table.mem_of_find hc, hjob⟩

theorem claimOf_of_mem {c : ClaimableGift} (hc : c ∈ w.claims.rows) : ClaimOf c.id c.jobId w :=
  ⟨c, Table.find_of_mem hc, rfl⟩

theorem hasJob_of_mem {j : DispatchJob} (hj : j ∈ w.jobs.rows) : HasJob j.id j.campaignId j.contactId w :=
  ⟨j, Table.find_of_mem hj, rfl, rfl⟩

theorem HasJob.of_updateMany {jobId campaignId contactId : Nat} (h : HasJob jobId campaignId contactId w)
    {p : DispatchJob → Bool} {f : DispatchJob → DispatchJob} (hf : ∀ j, (f j).id = j.id)
    (hjobs : w'.jobs = w.jobs.updateMany p f hf)
    (hkeep : ∀ j, (f j).campaignId = j.campaignId ∧ (f j).contactId = j.contactId) :
    HasJob jobId campaignId contactId w' := by
  obtain ⟨j, hj, hcampaign, hcontact⟩ := h
  refine ⟨_, hjobs ▸ Table.find_updateMany_some hf hj, ?_⟩
  split
  · rw [(hkeep j).1, (hkeep j).2]
    exact ⟨hcampaign, hcontact⟩
  · exact ⟨hcampaign, hcontact⟩

theorem HasJob.step {jobId campaignId contactId : Nat} (h : HasJob jobId campaignId contactId w)
    (hact : Effect V l w w') : HasJob jobId campaignId contactId w' := by
  cases hact with
  | frame _ _ hsame =>
      obtain ⟨j, hj, hkeep⟩ := h
      exact ⟨j, hsame.jobs ▸ hj, hkeep⟩
  | dispatch =>
      obtain ⟨j, hj, hkeep⟩ := h
      exact ⟨j, Table.find_insertNew_of_find hj, hkeep⟩
  | startJob => exact h.of_updateMany (fun _ => by rfl) rfl fun _ => ⟨rfl, rfl⟩
  | settleJob _ _ f hf hcampaign hcontact => exact h.of_updateMany hf rfl fun j => ⟨hcampaign j, hcontact j⟩
  | importRows | archive | addRecipients | removeRecipient | mint | rotate | touch | claim | sweep => exact h

theorem ClaimOf.of_updateMany {claimId jobId : Nat} (h : ClaimOf claimId jobId w) {p : ClaimableGift → Bool}
    {f : ClaimableGift → ClaimableGift} (hf : ∀ c, (f c).id = c.id) (hclaims : w'.claims = w.claims.updateMany p f hf)
    (hkeep : ∀ c, (f c).jobId = c.jobId) : ClaimOf claimId jobId w' := by
  obtain ⟨c, hc, hjob⟩ := h
  refine ⟨_, hclaims ▸ Table.find_updateMany_some hf hc, ?_⟩
  split
  · rw [hkeep]
    exact hjob
  · exact hjob

theorem ClaimOf.step {claimId jobId : Nat} (h : ClaimOf claimId jobId w) (hact : Effect V l w w') :
    ClaimOf claimId jobId w' := by
  cases hact with
  | frame _ _ hsame =>
      obtain ⟨c, hc, hjob⟩ := h
      exact ⟨c, hsame.claims ▸ hc, hjob⟩
  | mint _ _ _ _ _ _ _ hcreate =>
      obtain ⟨c, hc, hjob⟩ := h
      exact ⟨c, Table.find_create_of_find hcreate hc, hjob⟩
  | rotate | claim => exact h.of_updateMany (fun _ => by rfl) rfl fun _ => rfl
  | touch _ _ _ f hf hby => exact h.of_updateMany hf rfl hby.jobId
  | importRows | archive | addRecipients | removeRecipient | dispatch | startJob | settleJob | sweep => exact h

theorem HasClaim.step {jobId : Nat} (h : HasClaim jobId w) (hact : Effect V l w w') : HasClaim jobId w' := by
  obtain ⟨c, hc, rfl⟩ := h
  exact ((claimOf_of_mem hc).step hact).hasClaim

theorem HasJob.stable {jobId campaignId contactId : Nat} (h : HasJob jobId campaignId contactId w)
    (hrely : Rely (Effect V) w w') : HasJob jobId campaignId contactId w' :=
  hrely.stable (fun _ _ _ hact hs => HasJob.step hs hact) h

theorem ClaimOf.stable {claimId jobId : Nat} (h : ClaimOf claimId jobId w) (hrely : Rely (Effect V) w w') :
    ClaimOf claimId jobId w' :=
  hrely.stable (fun _ _ _ hact hs => ClaimOf.step hs hact) h

theorem HasClaim.stable {jobId : Nat} (h : HasClaim jobId w) (hrely : Rely (Effect V) w w') : HasClaim jobId w' :=
  hrely.stable (fun _ _ _ hact hs => HasClaim.step hs hact) h

/-! ### Mints -/

/-- The contacts that an action leaves carry values that `V` allows. -/
def Seen (V : Nat → String → Prop) (e : Event Campaigns Step) : Prop :=
  ∀ c ∈ e.post.contacts.rows, ∀ v, c.bound = some v → V c.id v

/-- Among the others, every action of the call is an effect, and it ends in `Q`. -/
abbrev Among {α : Type} (V : Nat → String → Prop) (Q : Except Err α → Campaigns → Prop) (x : Service α)
    (w : Campaigns) : Prop :=
  x.Under (Seen V) (Rely (Effect V)) (Effect V) Q w

theorem among_of_does {α : Type} {x : Service α} (hx : Svc.Does (Effect V) x) {P : Campaigns → Prop}
    (hP : ∀ w w', P w → Rely (Effect V) w w' → P w') (hw : P w) : Among V (fun _ => P) x w :=
  Svc.Does.under (fun _ _ _ hact => hact) hx hP hw

theorem query_among {α : Type} {f : Campaigns → α} {Q : Except Err α → Campaigns → Prop}
    (h : ∀ t, Rely (Effect V) w t → Seen V ⟨t, .read, t⟩ → Q (.ok (f t)) t) :
    Among V Q (Svc.query .read f : Service α) w :=
  Svc.Under.query fun t ht hseen => ⟨Effect.read t, h t ht hseen⟩

/-- What a transaction does among the others; one that is refused leaves everything alone. -/
theorem transaction_among {α : Type} {l : Step} {tx : Transaction α} {Q : Except Err α → Campaigns → Prop}
    (hok : ∀ t a u, Rely (Effect V) w t → tx t = .ok (a, u) → Effect V l t u ∧ Q (.ok a) u)
    (herr : ∀ t e, Rely (Effect V) w t → Q (.error e) t) (hl : l ≠ .sweep) :
    Among V Q (Svc.transaction l tx) w :=
  Svc.Under.transaction (fun t a u ht h _ => hok t a u ht h) fun t e ht _ _ => ⟨.frame l hl (Untouched.refl t), herr t e ht⟩

/-- A reachable contact is bound to a value. -/
theorem bound_of_reachable {c : CorporateContact} (h : c.reachable = true) : c.bound = some (c.bound.getD "") := by
  have hsome : c.phone.isSome = true ∨ c.email.isSome = true := by
    rw [CorporateContact.reachable, Bool.or_eq_true] at h
    refine h.imp (fun hphone => ?_) fun hemail => ?_
    · obtain ⟨v, hv⟩ := Option.isSome_iff_exists.mp hphone
      exact Option.isSome_of_mem (Option.filter_eq_some_iff.mp hv).1
    · obtain ⟨v, hv⟩ := Option.isSome_iff_exists.mp hemail
      exact Option.isSome_of_mem (Option.filter_eq_some_iff.mp hv).1
  cases hphone : c.phone with
  | some v => simp [CorporateContact.bound, hphone]
  | none =>
      rw [hphone] at hsome
      obtain ⟨v, hv⟩ := Option.isSome_iff_exists.mp (hsome.resolve_left nofun)
      simp [CorporateContact.bound, hphone, hv]

section Mint

variable {data : ClaimData} {jobId : Nat}

theorem rotate_among {claimId : Nat} (hjob : HasJob jobId data.campaignId data.contactId w)
    (hvalue : V data.contactId data.channelValue) (hclaim : ClaimOf claimId jobId w) :
    Among V (fun _ => HasClaim jobId) (Svc.transaction (.rotate claimId) (rotateTx data claimId)) w := by
  refine transaction_among (fun t a u hrely h => ?_) (fun t e hrely => (hclaim.stable hrely).hasClaim) nofun
  obtain ⟨c, hc, hfree, -, rfl⟩ := Delegate.replace_eq_ok.mp h
  obtain ⟨hmem, rfl⟩ := Table.find_eq_some.mp hc
  have hsame : c.jobId = jobId := by
    obtain ⟨c', hc', hjobId⟩ := hclaim.stable hrely
    rw [hc] at hc'
    cases hc'
    exact hjobId
  have hact : Effect V (.rotate c.id) t _ := .rotate data c hmem (hsame ▸ hjob.stable hrely) hvalue hfree
  exact ⟨hact, ((hclaim.stable hrely).hasClaim).step hact⟩

theorem mint_among (giftReference : String) (hjob : HasJob jobId data.campaignId data.contactId w)
    (hvalue : V data.contactId data.channelValue) :
    Among V (fun r t => HasJob jobId data.campaignId data.contactId t ∧ ∀ c, r = .ok c → HasClaim jobId t)
      (Svc.transaction (.mint jobId) (mintTx data jobId giftReference)) w := by
  refine transaction_among (fun t a u hrely h => ?_) (fun t e hrely => ⟨hjob.stable hrely, fun _ h => nomatch h⟩) nofun
  obtain ⟨now, w₁, hnow, h⟩ := Tx.bind_eq_ok.mp h
  obtain ⟨rfl, rfl⟩ := Tx.read_eq_ok.mp hnow
  obtain ⟨id, w₂, hid, h⟩ := Tx.bind_eq_ok.mp h
  cases hid
  obtain ⟨c, hcreate, hfree, -, rfl⟩ := Delegate.create_eq_ok.mp h
  have hact : Effect V (.mint jobId) t _ := .mint jobId data giftReference c (hjob.stable hrely) hvalue hfree hcreate
  refine ⟨hact, (hjob.stable hrely).step hact, fun _ _ => ?_⟩
  exact ⟨_, (Table.mem_create hcreate).mpr (Or.inr rfl), rfl⟩

theorem allocateGiftReference_among (candidates : List String) (hjob : HasJob jobId data.campaignId data.contactId w) :
    Among V (fun _ => HasJob jobId data.campaignId data.contactId) (allocateGiftReference candidates) w :=
  among_of_does (allocateReference_does _ _ _ _) (fun _ _ hs hrely => HasJob.stable hs hrely) hjob

/-- A reference that was taken meanwhile is drawn anew; the job is still stored then. -/
theorem createClaim_among (retries : Nat) (draws : List (List String))
    (hjob : HasJob jobId data.campaignId data.contactId w) (hvalue : V data.contactId data.channelValue) :
    Among V (fun r t => ∀ c, r = .ok c → HasClaim jobId t)
      (createWithReference allocateGiftReference
        (fun giftReference => Svc.transaction (.mint jobId) (mintTx data jobId giftReference)) retries draws) w := by
  induction retries generalizing w draws with
  | zero =>
      refine Svc.Under.bind (allocateGiftReference_among _ hjob) (fun reference t ht => ?_) fun _ _ _ _ h => nomatch h
      exact Svc.Under.mono (fun _ _ h => h.2) (mint_among reference ht hvalue)
  | succ retries ih =>
      refine Svc.Under.bind (allocateGiftReference_among _ hjob) (fun reference t ht => ?_) fun _ _ _ _ h => nomatch h
      refine Svc.Under.tryCatch (mint_among reference ht hvalue) (fun c u hu _ _ => hu.2 c rfl) fun e u hu => ?_
      cases e with
      | p2002 target => exact ih _ hu.1
      | badRequest | conflict | notFound | forbidden | error => exact Svc.Under.fail fun _ h => nomatch h

theorem storeClaim_among (references : List (List String)) {existing : Option ClaimableGift}
    (hjob : HasJob jobId data.campaignId data.contactId w) (hvalue : V data.contactId data.channelValue)
    (hexisting : ∀ c, existing = some c → ClaimOf c.id jobId w) :
    Among V (fun r t => ∀ c, r = .ok c → HasClaim jobId t) (storeClaim data jobId references existing) w := by
  cases existing with
  | some c => exact Svc.Under.mono (fun _ _ h _ _ => h) (rotate_among hjob hvalue (hexisting c rfl))
  | none => exact createClaim_among 2 references hjob hvalue

variable [Runtime]

theorem mintForJob_among {input : MintInput} (draws : MintDraws)
    (hjob : HasJob input.jobId input.campaignId input.contactId w) :
    Among V (fun r t => ∀ m, r = .ok (.ok m) → HasClaim input.jobId t) (mintForJob input draws) w := by
  unfold mintForJob
  refine Svc.Under.bind (Q := fun r t => HasJob input.jobId input.campaignId input.contactId t ∧
    ∀ c, r = .ok (some c) → ClaimOf c.id input.jobId t) (query_among fun t hrely _ => ⟨hjob.stable hrely, ?_⟩)
    (fun existing t hstart => ?_) fun _ _ _ => (by simp)
  · intro c hc
    have hfound := Except.ok.inj hc
    have hsame : c.jobId = input.jobId := by simpa using List.find?_some hfound
    exact hsame ▸ claimOf_of_mem (List.mem_of_find?_eq_some hfound)
  obtain ⟨ht, hexisting⟩ := hstart
  split
  · exact Svc.Under.pure (by simp)
  refine Svc.Under.bind (Q := fun r u => HasJob input.jobId input.campaignId input.contactId u ∧
    (∀ c, existing = some c → ClaimOf c.id input.jobId u) ∧
    ∀ c, r = .ok (some c) → V input.contactId (c.bound.getD "")) (query_among fun u hrely hseen => ?_)
    (fun contact u hread => ?_) fun _ _ _ => (by simp)
  · refine ⟨ht.stable hrely, fun c hc => (hexisting c (by rw [hc])).stable hrely, fun c hc => ?_⟩
    obtain ⟨hfind, hreachable⟩ := Option.filter_eq_some_iff.mp (Except.ok.inj hc)
    obtain ⟨hmem, hid⟩ := Table.find_eq_some.mp hfind
    exact hid ▸ hseen c hmem _ (bound_of_reachable hreachable)
  obtain ⟨hu, hclaim, hvalue⟩ := hread
  cases contact with
  | none => exact Svc.Under.pure (by simp)
  | some contact =>
      -- the value is the one that was read; the campaign and the clock are read after it
      have hkeep : ∀ s t, (HasJob input.jobId input.campaignId input.contactId s ∧
          ∀ c, existing = some c → ClaimOf c.id input.jobId s) → Rely (Effect V) s t →
          HasJob input.jobId input.campaignId input.contactId t ∧ ∀ c, existing = some c → ClaimOf c.id input.jobId t :=
        fun s t hs hrely => ⟨hs.1.stable hrely, fun c hc => (hs.2 c hc).stable hrely⟩
      unfold mintFor
      refine Svc.Under.bind (among_of_does (query_does _) hkeep ⟨hu, hclaim⟩) (fun source v hv => ?_) fun _ _ _ => (by simp)
      cases source with
      | none => exact Svc.Under.pure (by simp)
      | some source =>
          refine Svc.Under.bind (among_of_does (query_does _) hkeep hv) (fun expiresAt x hx => ?_) fun _ _ _ => (by simp)
          refine Svc.Under.bind (storeClaim_among _ hx.1
            (hvalue contact rfl) hx.2) (fun claim y hy => ?_) fun _ _ _ => (by simp)
          refine Svc.Under.bind (Q := fun _ => HasClaim input.jobId)
            (query_among fun z hrely _ => (hy claim rfl).stable hrely) (fun base z hz => ?_) fun _ _ _ => (by simp)
          exact Svc.Under.pure fun _ _ => hz

end Mint

/-! ### The worker and the exports -/

section Sweeps

theorem settle_does (jobId : Nat) (target : JobStatus) (lastError : Option String)
    (htarget : target ≠ .dispatched) :
    Svc.Does (Effect V) (Svc.transaction (.settleJob jobId target) (settleTx jobId target lastError)) := by
  refine write_does (fun w a w' h => ?_) nofun
  obtain ⟨-, rfl⟩ := Delegate.updateMany_eq_ok.mp h
  exact .settleJob jobId target _ (fun _ => by rfl) (fun _ => by rfl) (fun _ => by rfl) (fun _ => by rfl)
    fun hdispatched => absurd hdispatched htarget

theorem failJob_does (jobId : Nat) (error : String) : Svc.Does (Effect V) (failJob jobId error) :=
  Svc.Does.bind (settle_does _ _ _ nofun) fun _ => Svc.Does.pure _

theorem startJob_does (jobId : Nat) : Svc.Does (Effect V) (Svc.transaction (.startJob jobId) (startTx jobId)) := by
  refine write_does (fun w a w' h => ?_) nofun
  obtain ⟨-, rfl⟩ := Delegate.updateMany_eq_ok.mp h
  exact .startJob jobId

/-- Nothing is left to show of a call whose actions are effects. -/
theorem among_true {α : Type} {x : Service α} (hx : Svc.Does (Effect V) x) : Among V (fun _ _ => True) x w :=
  among_of_does hx (fun _ _ _ _ => trivial) trivial

/-- A job is called dispatched once its claim is stored. -/
theorem settleDelivery_among (job : DispatchJob) (minted : Minted) (delivered : DispatchResult)
    (hclaim : HasClaim job.id w) : Among V (fun _ _ => True) (settleDelivery job minted delivered) w := by
  cases delivered with
  | ok =>
      refine Svc.Under.bind (Q := fun _ _ => True) (transaction_among (fun t a u hrely h => ⟨?_, trivial⟩)
        (fun _ _ _ => trivial) nofun) (fun _ _ _ => Svc.Under.pure trivial) fun _ _ _ => trivial
      obtain ⟨now, w₁, hnow, h⟩ := Tx.bind_eq_ok.mp h
      obtain ⟨-, rfl⟩ := Tx.read_eq_ok.mp hnow
      obtain ⟨-, rfl⟩ := Delegate.updateMany_eq_ok.mp h
      exact .settleJob job.id .dispatched _ (fun _ => by rfl) (fun _ => by rfl) (fun _ => by rfl) (fun _ => by rfl)
        fun _ => hclaim.stable hrely
  | error message permanent =>
      show Among V _ (if _ then _ else _) w
      split
      · exact among_true (Svc.Does.bind (settle_does _ _ _ nofun) fun _ => Svc.Does.pure _)
      · exact among_true (failJob_does _ _)

variable [Runtime]

theorem processJob_among (job : DispatchJob) (answer : JobAnswer)
    (hjob : HasJob job.id job.campaignId job.contactId w) : Among V (fun _ _ => True) (processJob job answer) w := by
  have hkeep : ∀ s t, HasJob job.id job.campaignId job.contactId s → Rely (Effect V) s t →
      HasJob job.id job.campaignId job.contactId t := fun _ _ hs hrely => hs.stable hrely
  refine Svc.Under.bind (among_of_does (startJob_does job.id) hkeep hjob) (fun claimed t ht => ?_) fun _ _ _ => trivial
  split
  · exact Svc.Under.pure trivial
  refine Svc.Under.bind (among_of_does (query_does _) hkeep ht) (fun contact u hu => ?_) fun _ _ _ => trivial
  split
  · refine Svc.Under.bind (mintForJob_among answer.mint hu) (fun minted v hv => ?_) fun _ _ _ => trivial
    cases minted with
    | error error => exact among_true (failJob_does _ _)
    | ok minted => exact settleDelivery_among job minted _ (hv minted rfl)
  · exact among_true (failJob_does _ _)

omit [Runtime] in
theorem complete_does : Svc.Does (Effect V) (Svc.transaction .complete completeTx) := by
  refine frame_does (fun w a w' h => ?_) nofun
  obtain ⟨now, w₁, hnow, h⟩ := Tx.bind_eq_ok.mp h
  obtain ⟨-, rfl⟩ := Tx.read_eq_ok.mp hnow
  obtain ⟨live, w₂, hlive, h⟩ := Tx.bind_eq_ok.mp h
  obtain ⟨-, rfl⟩ := Tx.read_eq_ok.mp hlive
  obtain ⟨-, rfl⟩ := Delegate.updateMany_eq_ok.mp h
  exact ⟨le_rfl, le_rfl, rfl, rfl, rfl, rfl, rfl⟩

/-- The jobs of a list are stored. -/
def HasJobs (jobs : List DispatchJob) (w : Campaigns) : Prop := ∀ j ∈ jobs, HasJob j.id j.campaignId j.contactId w

omit [Runtime] in
theorem HasJobs.stable {jobs : List DispatchJob} (h : HasJobs jobs w) (hrely : Rely (Effect V) w w') : HasJobs jobs w' :=
  fun j hj => (h j hj).stable hrely

theorem dispatchSweep_among (answers : Nat → JobAnswer) : Among V (fun _ _ => True) (DispatchWorker.runOnce answers) w := by
  refine Svc.Under.bind (among_true (query_does _)) (fun paused t _ => ?_) fun _ _ _ => trivial
  split
  · exact Svc.Under.pure trivial
  refine Svc.Under.bind (Q := fun r u => ∀ batch, r = .ok batch → HasJobs batch u) (query_among fun u _ _ => ?_)
    (fun batch u hu => ?_) fun _ _ _ => trivial
  · rintro batch ⟨⟩ j hj
    have hmem := List.mem_of_mem_take hj
    rw [List.mem_insertionSort] at hmem
    exact hasJob_of_mem (List.mem_filter.mp hmem).1
  refine Svc.Under.bind (Svc.Under.collect (I := HasJobs batch) (fun job hjob v hv => ?_) (hu batch rfl))
    (fun outcomes v _ => ?_) fun _ _ _ => trivial
  · -- the jobs stay stored while one of them is processed
    have hround : Among V (fun _ _ => True) (Svc.tryCatch (processJob job (answers job.id)) fun _ => pure .crashed) v :=
      Svc.Under.tryCatch (processJob_among job _ (hv job hjob)) (fun _ _ _ => trivial) fun _ _ _ => Svc.Under.pure trivial
    refine Svc.Under.mono (fun _ _ h => h.2) (Prog.Under.keeps (fun s t hs hrely => HasJobs.stable hs hrely)
      (fun l s t hact _ hs => HasJobs.stable hs (Rely.single hact)) hround hv)
  · exact Svc.Under.bind (among_true complete_does) (fun _ _ _ => Svc.Under.pure trivial) fun _ _ _ => trivial

theorem exportClaimLinks_among (actorUserId : String) (orgId campaignId : Nat) (draws : Nat → MintDraws) :
    Among V (fun _ _ => True) (exportCampaignClaimLinks actorUserId orgId campaignId draws) w := by
  refine Svc.Under.bind (among_true (loadCampaign_does _ _)) (fun campaign t _ => ?_) fun _ _ _ => trivial
  refine Svc.Under.bind (Q := fun r u => ∀ jobs, r = .ok jobs → HasJobs jobs u ∧ ∀ j ∈ jobs, j.campaignId = campaignId)
    (query_among fun u _ _ => ?_) (fun jobs u hu => ?_) fun _ _ _ => trivial
  · rintro jobs ⟨⟩
    have hstored : ∀ j ∈ (dispatchedJobs campaignId u).take MAX_EXPORT_JOBS, j ∈ u.jobs.rows ∧ j.campaignId = campaignId := by
      intro j hj
      have hmem := List.mem_of_mem_take hj
      rw [dispatchedJobs, List.mem_insertionSort] at hmem
      obtain ⟨hrow, hmatch⟩ := List.mem_filter.mp hmem
      exact ⟨hrow, (of_decide_eq_true hmatch).1⟩
    exact ⟨fun j hj => hasJob_of_mem (hstored j hj).1, fun j hj => (hstored j hj).2⟩
  obtain ⟨hjobs, hsame⟩ := hu jobs rfl
  refine Svc.Under.bind (Svc.Under.collect (I := HasJobs jobs) (fun job hjob v hv => ?_) hjobs)
    (fun outcomes v _ => ?_) fun _ _ _ => trivial
  · have hround : Among V (fun _ _ => True) (exportJob campaignId job (draws job.id)) v := by
      have hinput : HasJob job.id campaignId job.contactId v := hsame job hjob ▸ hv job hjob
      refine Svc.Under.bind (mintForJob_among _ hinput)
        (fun minted x _ => ?_) fun _ _ _ => trivial
      cases minted with
      | error error => exact Svc.Under.pure trivial
      | ok minted => exact among_true (Svc.Does.bind (query_does _) fun _ => Svc.Does.pure _)
    exact Svc.Under.mono (fun _ _ h => h.2) (Prog.Under.keeps (fun s t hs hrely => HasJobs.stable hs hrely)
      (fun l s t hact _ hs => HasJobs.stable hs (Rely.single hact)) hround hv)
  · exact among_true (Svc.Does.bind (record_does _) fun _ => Svc.Does.pure _)

end Sweeps

/-! ### Claiming -/

section Claiming

theorem touchMany_does {l : Step} {p : ClaimableGift → Bool} {f : ClaimableGift → ClaimableGift}
    {hf : ∀ c, (f c).id = c.id} (hby : Bystander f)
    (hstatus : ∀ c, p c = true → (f c).status = c.status ∨ c.status = .pending ∧ (f c).status ≠ .claimed)
    (hl : l ≠ .sweep) : Svc.Does (Effect V) (Svc.transaction l (claimableGift.updateMany p f hf : Transaction Nat)) := by
  refine write_does (fun w a w' h => ?_) hl
  obtain ⟨-, rfl⟩ := Delegate.updateMany_eq_ok.mp h
  exact .touch l hl p f hf hby hstatus

variable [Runtime]

theorem loadPending_does (token : String) : Svc.Does (Effect V) (loadPending token) := by
  refine Svc.Does.bind (Svc.Does.ensure _ _) fun _ => Svc.Does.bind (query_does _) fun found => ?_
  cases found with
  | none => exact Svc.Does.fail _
  | some claim =>
      refine Svc.Does.bind (Svc.Does.ensure _ _) fun _ => Svc.Does.bind (query_does _) fun now => ?_
      split
      · refine Svc.Does.bind (touchMany_does ?_ (fun c hc => ?_) nofun) fun _ => Svc.Does.fail _
        · constructor <;> exact fun _ => rfl
        · simp only [Bool.and_eq_true, decide_eq_true_eq] at hc
          exact .inr ⟨hc.2, nofun⟩
      · exact Svc.Does.pure claim

theorem loadSession_does (token : String) (sessionToken : Option String) :
    Svc.Does (Effect V) (loadSession token sessionToken) := by
  refine Svc.Does.bind (loadPending_does token) fun claim => Svc.Does.bind (query_does _) fun now => ?_
  exact Svc.Does.bind (Svc.Does.ensure _ _) fun _ => Svc.Does.pure claim

theorem verifyOtp_does (token : String) (code : Option String) (verified : Except Err Unit) (sessionToken : String) :
    Svc.Does (Effect V) (verifyOtp token code verified sessionToken) := by
  refine Svc.Does.bind (loadPending_does token) fun claim => Svc.Does.bind (Svc.Does.ensure _ _) fun _ => ?_
  refine Svc.Does.bind (Svc.Does.ofExcept _) fun _ => Svc.Does.bind (write_does (fun w a w' h => ?_) nofun) fun _ =>
    Svc.Does.pure _
  obtain ⟨now, w₁, hnow, h⟩ := Tx.bind_eq_ok.mp h
  obtain ⟨-, rfl⟩ := Tx.read_eq_ok.mp hnow
  obtain ⟨c, -, -, rfl⟩ := Delegate.update_eq_ok.mp h
  refine .touch _ (by nofun) _ _ (fun _ => by rfl) ?_ fun c _ => .inl rfl
  constructor <;> exact fun _ => rfl

omit [Runtime] in
theorem finalize_does (claimId : Nat) (target : ClaimStatus) (declinedAt : Option Time)
    (htarget : target ≠ .claimed) :
    Svc.Does (Effect V) (Svc.transaction (.finalize claimId target) (finalizeTx claimId target declinedAt)) := by
  refine touchMany_does ?_ (fun c hc => ?_) nofun
  · constructor <;> exact fun _ => rfl
  · simp only [Bool.and_eq_true, decide_eq_true_eq] at hc
    exact .inr ⟨hc.2, htarget⟩

theorem notMe_does (token : String) (sessionToken : Option String) : Svc.Does (Effect V) (notMe token sessionToken) := by
  refine Svc.Does.bind (loadSession_does _ _) fun claim => Svc.Does.bind (finalize_does _ _ _ nofun) fun count => ?_
  exact Svc.Does.bind (Svc.Does.ensure _ _) fun _ => orgAudit_does _ _ _ _

theorem decline_does (token : String) (sessionToken : Option String) :
    Svc.Does (Effect V) (decline token sessionToken) := by
  refine Svc.Does.bind (loadSession_does _ _) fun claim => Svc.Does.bind (query_does _) fun now => ?_
  refine Svc.Does.bind (finalize_does _ _ _ nofun) fun count => ?_
  exact Svc.Does.bind (Svc.Does.ensure _ _) fun _ => orgAudit_does _ _ _ _

variable [Shop.Cities]

omit [Runtime] in
theorem checkCoverage_does (snapshot : GiftSnapshot) (address : SubmittedAddress) :
    Svc.Does (Effect V) (checkCoverage snapshot address) := by
  unfold checkCoverage
  split
  · exact Svc.Does.pure ()
  refine Svc.Does.bind (query_does _) fun store => ?_
  cases store with
  | none => exact Svc.Does.pure ()
  | some store =>
      refine Svc.Does.bind ?_ fun fast => Svc.Does.ensure _ _
      unfold isFastGift
      split
      · exact Svc.Does.pure _
      · split
        · exact Svc.Does.pure _
        · exact query_does _

omit [Runtime] [Shop.Cities] in
/-- The flip goes through only where the claim is pending. -/
theorem claim_does (claimId : Nat) (address : SubmittedAddress) :
    Svc.Does (Effect V) (Svc.transaction (.claim claimId address) (claimTx claimId address)) := by
  refine write_does (fun w a w' h => ?_) nofun
  obtain ⟨now, w₁, hnow, h⟩ := Tx.bind_eq_ok.mp h
  obtain ⟨rfl, rfl⟩ := Tx.read_eq_ok.mp hnow
  obtain ⟨flipped, w₂, hflip, h⟩ := Tx.bind_eq_ok.mp h
  obtain ⟨hflipped, rfl⟩ := Delegate.updateMany_eq_ok.mp hflip
  obtain ⟨_, w₃, hensure, h⟩ := Tx.bind_eq_ok.mp h
  obtain ⟨hsome, rfl⟩ := Tx.ensure_eq_ok.mp hensure
  obtain ⟨stored, w₄, hstore, h⟩ := Tx.bind_eq_ok.mp h
  obtain ⟨t, hcreate, -, -, rfl⟩ := Delegate.create_eq_ok.mp hstore
  obtain ⟨-, rfl⟩ := Tx.pure_eq_ok.mp h
  refine .claim claimId address t ?_ hcreate
  rw [hflipped] at hsome
  obtain ⟨c, hc, hmatch⟩ := Table.count_pos (k := claimId) (fun c hc => by simp_all) hsome
  exact ⟨c, hc, by simp_all⟩

theorem submitAddress_does (token : String) (sessionToken : Option String) (body : ClaimAddressInput) :
    Svc.Does (Effect V) (submitAddress token sessionToken body) := by
  refine Svc.Does.bind (loadSession_does _ _) fun claim => Svc.Does.bind (Svc.Does.ofExcept _) fun address => ?_
  refine Svc.Does.bind (checkCoverage_does _ _) fun _ => Svc.Does.bind (claim_does _ _) fun _ => ?_
  exact orgAudit_does _ _ _ _

end Claiming

/-! ### Reads -/

section Reads

theorem exportFulfillment_does (actorUserId : String) (orgId campaignId : Nat) :
    Svc.Does (Effect V) (exportCampaignFulfillment actorUserId orgId campaignId) := by
  refine Svc.Does.bind (loadCampaign_does _ _) fun campaign => Svc.Does.bind (query_does _) fun option => ?_
  refine Svc.Does.bind (query_does _) fun claims => Svc.Does.bind (query_does _) fun addresses => ?_
  exact Svc.Does.bind (orgAudit_does _ _ _ _) fun _ => Svc.Does.pure _

theorem respond_does (request : OrgRead) : Svc.Does (Effect V) (respond request) := by
  cases request with
  | orgCampaignReport orgId campaignId =>
      refine map_does (Svc.Does.bind (loadCampaign_does _ _) fun campaign => Svc.Does.bind ?_ fun counts =>
        Svc.Does.pure _) _
      refine Svc.Does.bind (query_does _) fun recipients => Svc.Does.bind (query_does _) fun jobs => ?_
      exact Svc.Does.bind (query_does _) fun claims => Svc.Does.bind (query_does _) fun lapsed => Svc.Does.pure _
  | listCampaigns orgId => exact map_does (query_does _) _
  | getCampaign orgId campaignId =>
      refine map_does (Svc.Does.bind (query_does _) fun found => ?_) _
      cases found with
      | none => exact Svc.Does.fail _
      | some detail => exact Svc.Does.pure detail
  | getDispatchStatus orgId campaignId =>
      exact map_does (Svc.Does.bind (loadCampaign_does _ _) fun campaign => Svc.Does.bind (query_does _) fun jobs =>
        Svc.Does.pure _) _
  | getInvoiceForCampaign orgId campaignId => exact map_does (query_does _) _
  | getMerchantInvoiceForCampaign orgId campaignId => exact map_does (query_does _) _
  | getCampaignBillingSummary orgId campaignId =>
      exact map_does (Svc.Does.bind (loadCampaign_does _ _) fun campaign => Svc.Does.bind (query_does _) fun qift =>
        Svc.Does.bind (query_does _) fun merchant => Svc.Does.pure _) _

end Reads

/-! ### Every call -/

variable [Shop.Cities] [Runtime]

theorem program_under (c : Call) : Among V (fun _ _ => True) (program c) w := by
  have hmap {α : Type} {x : Service α} {f : α → Reply} (hx : Among V (fun _ _ => True) x w) :
      Among V (fun _ _ => True) (f <$> x) w :=
    Svc.Under.bind hx (fun _ _ _ => Svc.Under.pure trivial) fun _ _ _ => trivial
  have hdoes {α : Type} {x : Service α} {f : α → Reply} (hx : Svc.Does (Effect V) x) :
      Among V (fun _ _ => True) (f <$> x) w := hmap (among_true hx)
  cases c with
  | tick elapsed =>
      refine among_true (environment_does fun w => ?_)
      exact ⟨le_add_of_nonneg_right (Int.natCast_nonneg elapsed), le_rfl, rfl, rfl, rfl, rfl, rfl⟩
  | configure settings =>
      exact among_true (environment_does fun w => ⟨le_rfl, le_rfl, rfl, rfl, rfl, rfl, rfl⟩)
  | books books => exact among_true (environment_does fun w => ⟨le_rfl, le_rfl, rfl, rfl, rfl, rfl, rfl⟩)
  | importRoster actorUserId orgId csv batchId => exact hdoes (importRoster_does _ _ _ _)
  | archiveContact actorUserId orgId contactId => exact hdoes (archiveContact_does _ _ _)
  | purge => exact hdoes purge_does
  | createCampaign actorUserId orgId body draws => exact hdoes (createCampaign_does _ _ _ _)
  | updateCampaign orgId campaignId body => exact hdoes (updateCampaign_does _ _ _)
  | setGiftOption actorUserId orgId campaignId productId => exact hdoes (setGiftOption_does _ _ _ _)
  | addRecipients actorUserId orgId campaignId contactIds => exact hdoes (addRecipients_does _ _ _ _)
  | removeRecipient orgId campaignId recipientId => exact hdoes (removeRecipient_does _ _ _)
  | submitForApproval actorUserId orgId campaignId => exact hdoes (submitForApproval_does _ _ _)
  | approveCampaign actorUserId orgId campaignId => exact hdoes (approveCampaign_does _ _ _)
  | requestChanges actorUserId orgId campaignId note => exact hdoes (requestChanges_does _ _ _ _)
  | cancelCampaign actorUserId orgId campaignId => exact hdoes (cancelCampaign_does _ _ _)
  | dispatchCampaign actorUserId orgId campaignId => exact hdoes (dispatchCampaign_does _ _ _)
  | dispatchSweep answers => exact hmap (dispatchSweep_among answers)
  | exportCampaignClaimLinks actorUserId orgId campaignId draws => exact hmap (exportClaimLinks_among _ _ _ _)
  | exportCampaignFulfillment actorUserId orgId campaignId => exact hdoes (exportFulfillment_does _ _ _)
  | teaser token => exact hdoes (Svc.Does.bind (loadPending_does token) fun _ => Svc.Does.pure _)
  | sendOtp token sent =>
      exact hdoes (Svc.Does.bind (loadPending_does token) fun _ => Svc.Does.bind (Svc.Does.ofExcept _) fun _ =>
        Svc.Does.pure _)
  | verifyOtp token code verified sessionToken => exact hdoes (verifyOtp_does _ _ _ _)
  | reveal token sessionToken => exact hdoes (map_does (loadSession_does _ _) _)
  | notMe token sessionToken => exact hdoes (notMe_does _ _)
  | decline token sessionToken => exact hdoes (decline_does _ _)
  | submitAddress token sessionToken body => exact hdoes (submitAddress_does _ _ _)
  | read request => exact hdoes (respond_does request)

/-- **A run is a path of the effects**, where the contacts carry allowed values. -/
theorem Run.path {tr : List (Event Campaigns Step)} {cfg : Config Campaigns Step (Except Err Reply)} (h : Run tr cfg)
    (hseen : ∀ e ∈ tr, Seen V e) : Path (Effect V) empty tr cfg.state :=
  (Exec.under (Q := fun _ _ => True) (fun _ _ _ _ _ => trivial) (fun _ _ _ hact => hact)
    (fun c _ _ => program_under c) h hseen).1

/-- Any value. -/
abbrev Anything : Nat → String → Prop := fun _ _ => True

theorem Run.plain {tr : List (Event Campaigns Step)} {cfg : Config Campaigns Step (Except Err Reply)} (h : Run tr cfg) :
    Path (Effect Anything) empty tr cfg.state :=
  Run.path h fun _ _ _ _ _ _ => trivial

end Qift.Campaigns
