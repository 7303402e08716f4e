import Qift.Lib.Proviso
import Qift.Onboarding.Service

/-!
# What the requests of merchants and administrators do

* `Effect` — what an action does to the stores and the proposals, by its label; one lemma for each request says that it
  does nothing else.
* `Run.path` — every run is a path of effects.
-/

namespace Qift.Onboarding

open Relational Relational.Table Interleaving

/-- The state with one store rewritten. -/
def rewriteStore (w : Onboarding) (storeId : String) (f : Store → Store) (hf : ∀ s, (f s).id = s.id) : Onboarding :=
  { w with stores := w.stores.updateMany (fun s => s.id = storeId) f hf }

/-- The state with one proposal rewritten. -/
def rewriteProposal (w : Onboarding) (proposalId : String) (f : StoreVatFactsProposal → StoreVatFactsProposal)
    (hf : ∀ p, (f p).id = p.id) : Onboarding :=
  { w with proposals := w.proposals.updateMany (fun p => p.id = proposalId) f hf }

/-- What a decision of an administrator leaves of a store. -/
structure Decides (decision : StoreStatus) (f : Store → Store) : Prop where
  id : ∀ s, (f s).id = s.id
  status : ∀ s, (f s).status = decision
  facts : ∀ s, (f s).facts = s.facts

/-- A proposal as `propose` writes it. -/
structure StoreVatFactsProposal.New (p : StoreVatFactsProposal) : Prop where
  status : p.status = .pending
  number : p.facts.vatRegistered = true → p.facts.vatNumber ≠ none

/-- What an action does to the stores and the proposals. -/
inductive Effect : Step → Onboarding → Onboarding → Prop
  /-- A read, or a write that finds no row. -/
  | idle (l : Step) (w : Onboarding) (hlost : ∀ p actorUserId outcome, l = .settle p actorUserId outcome →
      w.proposals.find p.id = none) : Effect l w w
  | environment {w w' : Onboarding} (hstores : w'.stores = w.stores) (hproposals : w'.proposals = w.proposals) :
      Effect .environment w w'
  | createStore {w w' : Onboarding} (storeId ownerId name city category : String) (vatNumber : Option String)
      (hcreate : w.stores.create (newStore storeId ownerId name city category vatNumber) = some w'.stores)
      (hproposals : w'.proposals = w.proposals) : Effect .createStore w w'
  | patch {w : Onboarding} (storeId : String) (found : StoreStatus) (data : PatchData)
      (hresubmits : data.resubmittedAt.isSome → found = .changes_requested) :
      Effect (.patch storeId found data) w (rewriteStore w storeId data.write data.write_id)
  | submit {w : Onboarding} (storeId : String) (found : StoreStatus) (now : Time) (hfound : found ∈ submittable) :
      Effect (.submit storeId found) w (rewriteStore w storeId (submitStore now) fun _ => rfl)
  | decide {w : Onboarding} (storeId : String) (decision : StoreStatus) (f : Store → Store) (hf : Decides decision f) :
      Effect (.decide storeId decision) w (rewriteStore w storeId f hf.id)
  | propose {w w' : Onboarding} (proposalId storeId : String) (p : StoreVatFactsProposal) (hid : p.id = proposalId)
      (hstore : p.storeId = storeId) (hnew : p.New) (hcreate : w.proposals.create p = some w'.proposals)
      (hstores : w'.stores = w.stores) : Effect (.propose proposalId storeId) w w'
  | applyFacts {w : Onboarding} (p : StoreVatFactsProposal) (actorUserId : String) (hactor : p.proposedBy ≠ actorUserId)
      (hpending : p.status = .pending) :
      Effect (.applyFacts p actorUserId) w (rewriteStore w p.storeId (fun s => { s with facts := p.facts }) fun _ => rfl)
  | settle {w : Onboarding} (p : StoreVatFactsProposal) (actorUserId : String) (outcome : ProposalStatus) (now : Time)
      (houtcome : outcome ≠ .pending) (hpending : p.status = .pending)
      (hactor : outcome = .approved → p.proposedBy ≠ actorUserId) :
      Effect (.settle p actorUserId outcome) w (rewriteProposal w p.id (settleProposal outcome actorUserId now) fun _ => rfl)

/-! ### Rows -/

/-- What an action leaves of a stored store. -/
inductive StoreMoves (storeId : String) : Step → Store → Store → Prop
  | same (l : Step) (s : Store) : StoreMoves storeId l s s
  | patched (found : StoreStatus) (data : PatchData) (hresubmits : data.resubmittedAt.isSome → found = .changes_requested)
      (s : Store) : StoreMoves storeId (.patch storeId found data) s (data.write s)
  | submitted (found : StoreStatus) (now : Time) (hfound : found ∈ submittable) (s : Store) :
      StoreMoves storeId (.submit storeId found) s (submitStore now s)
  | decided (decision : StoreStatus) (f : Store → Store) (hf : Decides decision f) (s : Store) :
      StoreMoves storeId (.decide storeId decision) s (f s)
  | applied (p : StoreVatFactsProposal) (actorUserId : String) (hactor : p.proposedBy ≠ actorUserId)
      (hpending : p.status = .pending) (hstore : p.storeId = storeId) (s : Store) :
      StoreMoves storeId (.applyFacts p actorUserId) s { s with facts := p.facts }

theorem find_rewriteStore {w : Onboarding} {id storeId : String} {f : Store → Store} (hf : ∀ s, (f s).id = s.id)
    {s : Store} (hs : w.stores.find storeId = some s) :
    (rewriteStore w id f hf).stores.find storeId = some (if storeId = id then f s else s) := by
  have hfind := find_updateMany_some (p := fun s : Store => s.id = id) hf hs
  simp only [key_of_find hs, decide_eq_true_eq] at hfind
  exact hfind

theorem find_rewriteStore_none {w : Onboarding} {id storeId : String} {f : Store → Store}
    {hf : ∀ s, (f s).id = s.id} (hs : w.stores.find storeId = none) :
    (rewriteStore w id f hf).stores.find storeId = none :=
  find_updateMany_none hf hs

theorem Effect.store_moves {l : Step} {w w' : Onboarding} (h : Effect l w w') {storeId : String} {s : Store}
    (hs : w.stores.find storeId = some s) :
    ∃ s', w'.stores.find storeId = some s' ∧ StoreMoves storeId l s s' := by
  cases h with
  | idle => exact ⟨s, hs, .same _ s⟩
  | environment hstores => exact ⟨s, by rw [hstores]; exact hs, .same _ s⟩
  | createStore id ownerId name city category vatNumber hcreate =>
      exact ⟨s, find_create_of_find hcreate hs, .same _ s⟩
  | patch id found data hresubmits =>
      refine ⟨_, find_rewriteStore _ hs, ?_⟩
      split
      next heq => exact heq ▸ .patched found data hresubmits s
      next => exact .same _ s
  | submit id found now hfound =>
      refine ⟨_, find_rewriteStore _ hs, ?_⟩
      split
      next heq => exact heq ▸ .submitted found now hfound s
      next => exact .same _ s
  | decide id decision f hf =>
      refine ⟨_, find_rewriteStore _ hs, ?_⟩
      split
      next heq => exact heq ▸ .decided decision f hf s
      next => exact .same _ s
  | propose proposalId id p hid hstore hnew hcreate hstores => exact ⟨s, by rw [hstores]; exact hs, .same _ s⟩
  | applyFacts p actorUserId hactor hpending =>
      refine ⟨_, find_rewriteStore _ hs, ?_⟩
      split
      next heq => exact .applied p actorUserId hactor hpending heq.symm s
      next => exact .same _ s
  | settle p actorUserId outcome now => exact ⟨s, hs, .same _ s⟩

theorem Effect.store_new {l : Step} {w w' : Onboarding} (h : Effect l w w') {storeId : String}
    (hs : w.stores.find storeId = none) {s' : Store} (hs' : w'.stores.find storeId = some s') :
    l = .createStore ∧ ∃ ownerId name city category vatNumber,
      s' = newStore storeId ownerId name city category vatNumber := by
  have habsurd (hnone : w'.stores.find storeId = none) : False := by
    rw [hnone] at hs'
    cases hs'
  cases h with
  | createStore id ownerId name city category vatNumber hcreate =>
      rw [find_create hcreate] at hs'
      split at hs'
      next heq =>
        obtain rfl : id = storeId := heq
        exact ⟨rfl, ownerId, name, city, category, vatNumber, (Option.some_inj.mp hs').symm⟩
      next =>
        rw [hs] at hs'
        cases hs'
  | idle | settle => exact (habsurd hs).elim
  | environment hstores | propose _ _ _ _ _ _ _ hstores => exact (habsurd (by rw [hstores]; exact hs)).elim
  | patch | submit | decide | applyFacts => exact (habsurd (find_rewriteStore_none hs)).elim

/-- What an action leaves of a stored proposal. -/
inductive ProposalMoves (proposalId : String) : Step → StoreVatFactsProposal → StoreVatFactsProposal → Prop
  | same (l : Step) (p : StoreVatFactsProposal) (hl : ∀ q actorUserId outcome, l = .settle q actorUserId outcome →
      q.id ≠ proposalId) : ProposalMoves proposalId l p p
  | settled (q : StoreVatFactsProposal) (actorUserId : String) (outcome : ProposalStatus) (now : Time)
      (hid : q.id = proposalId) (houtcome : outcome ≠ .pending) (hpending : q.status = .pending)
      (hactor : outcome = .approved → q.proposedBy ≠ actorUserId) (p : StoreVatFactsProposal) :
      ProposalMoves proposalId (.settle q actorUserId outcome) p (settleProposal outcome actorUserId now p)

theorem Effect.proposal_moves {l : Step} {w w' : Onboarding} (h : Effect l w w') {proposalId : String}
    {p : StoreVatFactsProposal} (hp : w.proposals.find proposalId = some p) :
    ∃ p', w'.proposals.find proposalId = some p' ∧ ProposalMoves proposalId l p p' := by
  cases h with
  | idle _ _ hlost =>
      refine ⟨p, hp, .same l p fun q actorUserId outcome heq hid => ?_⟩
      rw [← hid, hlost q actorUserId outcome heq] at hp
      cases hp
  | environment hstores hproposals => exact ⟨p, by rw [hproposals]; exact hp, .same _ p fun _ _ _ h => by cases h⟩
  | createStore _ _ _ _ _ _ _ hproposals =>
      exact ⟨p, by rw [hproposals]; exact hp, .same _ p fun _ _ _ h => by cases h⟩
  | propose _ _ _ _ _ _ hcreate => exact ⟨p, find_create_of_find hcreate hp, .same _ p fun _ _ _ h => by cases h⟩
  | patch | submit | decide | applyFacts => exact ⟨p, hp, .same _ p fun _ _ _ h => by cases h⟩
  | settle q actorUserId outcome now houtcome hpending hactor =>
      have hfind := find_updateMany_some (p := fun p : StoreVatFactsProposal => p.id = q.id)
        (f := settleProposal outcome actorUserId now) (fun _ => rfl) hp
      simp only [key_of_find hp, decide_eq_true_eq] at hfind
      refine ⟨_, hfind, ?_⟩
      split
      next heq => exact .settled q actorUserId outcome now heq.symm houtcome hpending hactor p
      next hne =>
        refine .same _ p ?_
        rintro _ _ _ ⟨⟩ hid
        exact hne hid.symm

theorem Effect.proposal_new {l : Step} {w w' : Onboarding} (h : Effect l w w') {proposalId : String}
    (hp : w.proposals.find proposalId = none) {p' : StoreVatFactsProposal}
    (hp' : w'.proposals.find proposalId = some p') : l = .propose proposalId p'.storeId ∧ p'.New := by
  have habsurd (hnone : w'.proposals.find proposalId = none) : False := by
    rw [hnone] at hp'
    cases hp'
  cases h with
  | propose id storeId p hid hstore hnew hcreate =>
      rw [find_create hcreate] at hp'
      split at hp'
      next heq =>
        cases hp'
        rw [← hid, hstore, heq]
        exact ⟨rfl, hnew⟩
      next =>
        rw [hp] at hp'
        cases hp'
  | environment hstores hproposals => exact (habsurd (by rw [hproposals]; exact hp)).elim
  | createStore _ _ _ _ _ _ _ hproposals => exact (habsurd (by rw [hproposals]; exact hp)).elim
  | idle | patch | submit | decide | applyFacts => exact (habsurd hp).elim
  | settle q actorUserId outcome now =>
      have hnone := find_updateMany_none (p := fun p : StoreVatFactsProposal => p.id = q.id)
        (f := settleProposal outcome actorUserId now) (fun _ => rfl) hp
      exact (habsurd hnone).elim

/-! ### Building blocks -/

theorem Effect.read (w : Onboarding) : Effect .read w w := .idle .read w fun _ _ _ h => by cases h

@[grind ←] theorem query_does {α : Type} (f : Onboarding → α) : Svc.Does Effect (Svc.query .read f : Service α) :=
  Svc.Does.query Effect.read f

theorem write_does {α : Type} {l : Step} {tx : Transaction α} (h : ∀ w a w', tx w = .ok (a, w') → Effect l w w')
    (hl : ∀ p actorUserId outcome, l ≠ .settle p actorUserId outcome) : Svc.Does Effect (Svc.transaction l tx) :=
  Svc.Does.transaction h fun w _ _ => .idle l w fun p actorUserId outcome heq => absurd heq (hl p actorUserId outcome)

theorem rewriteStore_of_ok {storeId : String} {f : Store → Store} {hf : ∀ s, (f s).id = s.id} {s : Store}
    {w w' : Onboarding} (h : updateById store storeId f hf w = .ok (s, w')) : w' = rewriteStore w storeId f hf :=
  updateById_eq_ok h

theorem environment_does {f : Onboarding → Onboarding} (hstores : ∀ w, (f w).stores = w.stores)
    (hproposals : ∀ w, (f w).proposals = w.proposals) : Svc.Does Effect (environment f) := by
  refine write_does (fun w a w' h => ?_) (by simp)
  rw [Tx.modify_eq_ok] at h
  subst h
  exact .environment (hstores w) (hproposals w)

theorem assertOwner_does (viewerUserId storeId : String) : Svc.Does Effect (assertOwner viewerUserId storeId) := by
  refine Svc.Does.bind (query_does _) fun found => ?_
  cases found with
  | none => exact Svc.Does.fail _
  | some store => exact Svc.Does.bind (Svc.Does.ensure _ _) fun _ => Svc.Does.pure _

/-! ### Owners -/

theorem create_does (viewerUserId : String) (body : CreateStoreInput) (storeId : String) :
    Svc.Does Effect (create viewerUserId body storeId) := by
  unfold create
  split
  · refine write_does (fun w a w' h => ?_) (by simp)
    obtain ⟨created, w₁, hcreate, h⟩ := Tx.bind_eq_ok.mp h
    obtain ⟨u, w₂, hrole, h⟩ := Tx.bind_eq_ok.mp h
    obtain ⟨-, rfl⟩ := Tx.pure_eq_ok.mp h
    obtain ⟨t, ht, -, -, rfl⟩ := Delegate.create_eq_ok.mp hcreate
    rw [updateById_eq_ok hrole]
    exact .createStore _ _ _ _ _ _ ht rfl
  · exact Svc.Does.fail _

theorem patch_does (viewerUserId storeId : String) (body : UpdateStoreInput) :
    Svc.Does Effect (patch viewerUserId storeId body) := by
  refine Svc.Does.bind (assertOwner_does _ _) fun existing => Svc.Does.bind (query_does _) fun now => ?_
  refine write_does (fun w a w' h => ?_) (by simp)
  rw [rewriteStore_of_ok h]
  refine .patch storeId existing.status _ fun hresubmits => ?_
  by_contra hother
  simp [UpdateStoreInput.data, hother] at hresubmits

theorem submit_does (viewerUserId storeId : String) : Svc.Does Effect (submit viewerUserId storeId) := by
  refine Svc.Does.bind (assertOwner_does _ _) fun existing => Svc.Does.guard fun hfound => ?_
  refine Svc.Does.bind (query_does _) fun now => write_does (fun w a w' h => ?_) (by simp)
  rw [rewriteStore_of_ok h]
  exact .submit storeId existing.status now hfound

theorem update_does (viewerUserId storeId : String) (body : UpdateStoreInput) :
    Svc.Does Effect (update viewerUserId storeId body) := by
  refine Svc.Does.bind (assertOwner_does _ _) fun existing => write_does (fun w a w' h => ?_) (by simp)
  rw [rewriteStore_of_ok h]
  exact .patch storeId existing.status _ fun h => by cases h

/-! ### Administrators -/

theorem decide_does {storeId : String} {decision : StoreStatus} {f : Store → Store} (hf : Decides decision f) :
    Svc.Does Effect (Svc.transaction (.decide storeId decision) (updateById store storeId f hf.id)) := by
  refine write_does (fun w a w' h => ?_) (by simp)
  rw [rewriteStore_of_ok h]
  exact .decide storeId decision f hf

theorem review_does (adminUserId storeId : String) (action : ReviewAction) (reason : Option String) :
    Svc.Does Effect (review adminUserId storeId action reason) := by
  refine Svc.Does.bind (query_does _) fun existing => ?_
  cases existing with
  | none => exact Svc.Does.fail _
  | some existing =>
      refine Svc.Does.bind (Svc.Does.ensure _ _) fun _ => Svc.Does.bind (query_does _) fun now => ?_
      exact decide_does (by exact ⟨fun _ => rfl, fun _ => rfl, fun _ => rfl⟩)

theorem setStoreStatus_does (storeId status : String) : Svc.Does Effect (setStoreStatus storeId status) := by
  unfold setStoreStatus
  split
  · exact Svc.Does.fail _
  · refine Svc.Does.bind (query_does _) fun existing => ?_
    cases existing with
    | none => exact Svc.Does.fail _
    | some existing => exact decide_does (by exact ⟨fun _ => rfl, fun _ => rfl, fun _ => rfl⟩)

/-! ### Public surfaces -/

theorem findStore_does (storeId : String) : Svc.Does Effect (findStore storeId) := by
  refine Svc.Does.bind (query_does _) fun found => ?_
  cases found with
  | none => exact Svc.Does.fail _
  | some store => exact Svc.Does.pure _

theorem listProducts_does (storeId : String) (includeUnavailable : Bool) :
    Svc.Does Effect (listProducts storeId includeUnavailable) := by
  unfold listProducts
  split
  · exact Svc.Does.pure _
  · refine Svc.Does.bind (query_does _) fun found => ?_
    cases found with
    | none => exact Svc.Does.pure _
    | some store => exact query_does _

theorem findProduct_does (productId : String) : Svc.Does Effect (findProduct productId) := by
  refine Svc.Does.bind (query_does _) fun found => ?_
  cases found with
  | none => exact Svc.Does.fail _
  | some product => exact Svc.Does.pure _

theorem checkAvailability_does (productId : Option String) : Svc.Does Effect (checkAvailability productId) := by
  unfold checkAvailability
  split
  · exact Svc.Does.pure _
  · refine Svc.Does.bind (query_does _) fun found => ?_
    cases found with
    | none => exact Svc.Does.fail _
    | some found =>
        exact Svc.Does.bind (Svc.Does.ensure _ _) fun _ => Svc.Does.bind (Svc.Does.ensure _ _) fun _ => Svc.Does.pure _

/-! ### Tax facts -/

theorem checkEvidence_does (evidenceNote : String) : Svc.Does Effect (checkEvidence evidenceNote) := by
  unfold checkEvidence
  exact Svc.Does.ensure _ _

theorem checkFacts_checks (facts : VatFacts) (w : Onboarding) : (checkFacts facts).Ensures (fun _ _ => True) Effect
    (fun _ _ => facts.vatRegistered = true → facts.vatNumber ≠ none) w :=
  Svc.Ensures.bind (P := fun _ _ => facts.vatRegistered = true → facts.vatNumber ≠ none)
    (Svc.Ensures.ensure id) fun _ _ hnumber => Svc.Ensures.ensure fun _ => hnumber

theorem propose_does (actorUserId storeId : String) (body : VatFactsProposalInput) (proposalId : String) :
    Svc.Does Effect (propose actorUserId storeId body proposalId) := by
  refine Svc.Does.bind (query_does _) fun found => ?_
  cases found with
  | none => exact Svc.Does.fail _
  | some stored =>
      refine Svc.Does.bind (checkEvidence_does _) fun _ w => ?_
      refine Svc.Ensures.bind (checkFacts_checks (body.facts stored.facts) w) fun _ t hnumber => ?_
      refine (Svc.Does.bind (query_does _) fun existing => Svc.Does.guard fun _ => ?_ : Svc.Does Effect _) t
      refine write_does (fun w a w' h => ?_) (by simp)
      obtain ⟨t, ht, -, rfl, rfl⟩ := Delegate.create_eq_ok.mp h
      exact .propose proposalId storeId _ rfl rfl ⟨rfl, hnumber⟩ ht rfl

theorem findPending_finds (storeId proposalId : String) (w : Onboarding) :
    (findPending storeId proposalId).Ensures (fun _ _ => True) Effect
      (fun p _ => p.id = proposalId ∧ p.storeId = storeId ∧ p.status = .pending) w := by
  refine Svc.Ensures.bind (P := fun (found : Option StoreVatFactsProposal) _ => ∀ p, found = some p →
    p.id = proposalId ∧ p.storeId = storeId ∧ p.status = .pending)
    (Svc.Ensures.query (fun t _ => Effect.read t) fun t _ p hp => ?_) fun found t hfound => ?_
  · obtain ⟨hfind, hkeep⟩ := Option.filter_eq_some_iff.mp hp
    exact ⟨key_of_find hfind, of_decide_eq_true hkeep⟩
  · cases found with
    | none => exact Svc.Ensures.fail
    | some p => exact Svc.Ensures.pure (hfound p rfl)

theorem settle_does {p : StoreVatFactsProposal} {actorUserId : String} {outcome : ProposalStatus} {now : Time}
    (houtcome : outcome ≠ .pending) (hpending : p.status = .pending)
    (hactor : outcome = .approved → p.proposedBy ≠ actorUserId) :
    Svc.Does Effect (Svc.transaction (.settle p actorUserId outcome) (settleTx p.id actorUserId outcome now)) :=
  Svc.Does.transaction (fun w a w' h => by
    rw [updateById_eq_ok h]
    exact .settle p actorUserId outcome now houtcome hpending hactor) fun w e h => .idle _ w (by
      rintro _ _ _ ⟨⟩
      exact updateById_eq_error (fun _ => rfl) h)

theorem approve_does (actorUserId storeId proposalId : String) :
    Svc.Does Effect (approve actorUserId storeId proposalId) := by
  intro w
  refine Svc.Ensures.bind (findPending_finds storeId proposalId w) fun p t hp => ?_
  obtain ⟨rfl, rfl, hpending⟩ := hp
  refine (Svc.Does.guard fun hactor => ?_ : Svc.Does Effect _) t
  refine Svc.Does.bind (query_does _) fun found => ?_
  cases found with
  | none => exact Svc.Does.fail _
  | some stored =>
      refine Svc.Does.bind (write_does (fun w a w' h => ?_) (by simp)) fun written => Svc.Does.bind (query_does _) fun now => ?_
      · rw [rewriteStore_of_ok h]
        exact .applyFacts p actorUserId hactor hpending
      · exact Svc.Does.bind (settle_does (by decide) hpending fun _ => hactor) fun decided => Svc.Does.pure _

theorem reject_does (actorUserId storeId proposalId : String) :
    Svc.Does Effect (reject actorUserId storeId proposalId) := by
  intro w
  refine Svc.Ensures.bind (findPending_finds storeId proposalId w) fun p t hp => ?_
  obtain ⟨rfl, -, hpending⟩ := hp
  have hrejected (h : ProposalStatus.rejected = .approved) : p.proposedBy ≠ actorUserId := by cases h
  refine (Svc.Does.bind (query_does _) fun now => ?_ : Svc.Does Effect _) t
  exact settle_does (by decide) hpending hrejected

/-! ### Every request -/

theorem program_does (c : Call) : Svc.Does Effect (program c) := by
  have hmap {α : Type} {x : Service α} {f : α → Reply} (hx : Svc.Does Effect x) : Svc.Does Effect (f <$> x) :=
    Svc.Does.bind hx fun _ => Svc.Does.pure _
  unfold program
  cases c with
  | tick elapsed => exact hmap (environment_does (fun _ => rfl) fun _ => rfl)
  | books users products => exact hmap (environment_does (fun _ => rfl) fun _ => rfl)
  | create viewerUserId body storeId => exact hmap (create_does _ _ _)
  | patch viewerUserId storeId body => exact hmap (patch_does _ _ _)
  | submit viewerUserId storeId => exact hmap (submit_does _ _)
  | update viewerUserId storeId body => exact hmap (update_does _ _ _)
  | review adminUserId storeId action reason => exact hmap (review_does _ _ _ _)
  | setStoreStatus storeId status => exact hmap (setStoreStatus_does _ _)
  | listStores => exact hmap (query_does _)
  | findStore storeId => exact hmap (findStore_does _)
  | listProducts storeId includeUnavailable => exact hmap (listProducts_does _ _)
  | findProduct productId => exact hmap (findProduct_does _)
  | checkAvailability productId => exact hmap (checkAvailability_does _)
  | propose actorUserId storeId body proposalId => exact hmap (propose_does _ _ _ _)
  | approve actorUserId storeId proposalId => exact hmap (approve_does _ _ _)
  | reject actorUserId storeId proposalId => exact hmap (reject_does _ _ _)

theorem Run.path {tr : List (Event Onboarding Step)} {cfg : Config Onboarding Step (Except Err Reply)}
    (h : Run tr cfg) : Path Effect empty tr cfg.state := Exec.does program_does h

end Qift.Onboarding
