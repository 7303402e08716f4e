import Qift.Onboarding.Approval

/-!
# Tax facts change by two people

Every interleaving of the requests that write a store's tax facts, stops between their writes included.

* `InTurn` — the runs in which no patch names another number, every proposal is written and decided as its call has read
  the table, and no approval stops between its two writes.
* `Fresh.settled_stays`, `Fresh.numbered`, `Fresh.onePending` — what one action of such a run preserves.
* **`Run.facts_by_two`** — in such a run facts change to those of a proposal another operator has approved, a proposal is
  decided once, a rejected one is never applied, a store has one pending proposal, and a registered store a number.
* `Run.facts_by_owner` — without it an owner changes the number alone.
-/

namespace Qift.Onboarding.VatFactsService

open Relational Relational.Table Interleaving

/-! ### The condition -/

/-- An action that finds the tables as its call has read them, and no patch of another number. -/
def Fresh (e : Event Onboarding Step) : Prop :=
  match e.lbl with
  | .patch storeId _ data => ∀ s, e.pre.stores.find storeId = some s →
      data.vatNumber.getD s.facts.vatNumber = s.facts.vatNumber
  | .propose _ storeId => ∀ q ∈ e.pre.proposals.rows, q.storeId = storeId → q.status ≠ .pending
  | .applyFacts p _ | .settle p _ _ => e.pre.proposals.find p.id = some p
  | _ => True

/-- The run of a service whose calls do not cross, and whose approvals are not stopped half-way. -/
structure InTurn (tr : List (Event Onboarding Step)) : Prop where
  fresh : ∀ e ∈ tr, Fresh e
  /-- Facts that are applied are followed by the decision. -/
  completed : ∀ tr₁ e tr₂, tr = tr₁ ++ e :: tr₂ → ∀ p actorUserId, e.lbl = .applyFacts p actorUserId →
    ∃ e' ∈ tr₂, ∃ actorUserId', e'.lbl = .settle p actorUserId' .approved

/-- An action that meets the condition. -/
abbrev FreshEffect (l : Step) (w w' : Onboarding) : Prop := Effect l w w' ∧ Fresh ⟨w, l, w'⟩

/-! ### Proposals -/

theorem FreshEffect.settled_stays {proposalId : String} {p : StoreVatFactsProposal} (hp : p.status ≠ .pending)
    (l : Step) (w w' : Onboarding) (h : FreshEffect l w w') (hw : w.proposals.find proposalId = some p) :
    w'.proposals.find proposalId = some p := by
  obtain ⟨p', hp', hmoves⟩ := h.1.proposal_moves hw
  cases hmoves with
  | same => exact hp'
  | settled q actorUserId outcome now hid houtcome hpending hactor =>
      have hfound : w.proposals.find q.id = some q := h.2
      rw [hid, hw] at hfound
      cases hfound
      exact absurd hpending hp

/-- The event decides the proposal. -/
def settles (proposalId : String) (e : Event Onboarding Step) : Bool :=
  match e.lbl with
  | .settle p _ _ => p.id = proposalId
  | _ => false

/-- **A proposal is decided once**: a pending one has not been decided, any other exactly once. -/
theorem settles_once {tr : List (Event Onboarding Step)} {w : Onboarding} (h : Path FreshEffect empty tr w)
    (proposalId : String) : tr.countP (settles proposalId) =
      if (w.proposals.find proposalId).any (fun p => p.status ≠ .pending) then 1 else 0 := by
  induction h with
  | nil => rfl
  | @snoc t u l tr' hpath hact ih =>
      rw [List.countP_append, List.countP_singleton, ih]
      cases hp : t.proposals.find proposalId with
      | none =>
          have hnot : settles proposalId ⟨t, l, u⟩ = false := by
            cases l with
            | settle q actorUserId outcome =>
                refine decide_eq_false fun hid => ?_
                have hfound : t.proposals.find q.id = some q := hact.2
                rw [hid, hp] at hfound
                cases hfound
            | _ => rfl
          cases hp' : u.proposals.find proposalId with
          | none => simp [hnot]
          | some p' => simp [hnot, (hact.1.proposal_new hp hp').2.status]
      | some p =>
          obtain ⟨p', hp', hmoves⟩ := hact.1.proposal_moves hp
          rw [hp']
          cases hmoves with
          | same _ _ hl =>
              have hnot : settles proposalId ⟨t, l, u⟩ = false := by
                cases l with
                | settle q actorUserId outcome => exact decide_eq_false (hl q actorUserId outcome rfl)
                | _ => rfl
              simp [hnot]
          | settled q actorUserId outcome now hid houtcome hpending hactor =>
              have hfound : t.proposals.find q.id = some q := hact.2
              rw [hid, hp] at hfound
              cases hfound
              simp [settles, hid, hpending, settleProposal, houtcome]

/-- A store has at most one pending proposal. -/
def OnePending (w : Onboarding) : Prop := ∀ i j p q, w.proposals.find i = some p → w.proposals.find j = some q →
  p.storeId = q.storeId → p.status = .pending → q.status = .pending → i = j

theorem onePending_empty : OnePending empty := by
  intro i j p q hp
  cases hp

theorem FreshEffect.pending_from {l : Step} {w w' : Onboarding} (h : FreshEffect l w w') {proposalId : String}
    {p' : StoreVatFactsProposal} (hp' : w'.proposals.find proposalId = some p') (hpending : p'.status = .pending) :
    w.proposals.find proposalId = some p' ∨ (l = .propose proposalId p'.storeId ∧
      ∀ q ∈ w.proposals.rows, q.storeId = p'.storeId → q.status ≠ .pending) := by
  cases hp : w.proposals.find proposalId with
  | none =>
      obtain ⟨rfl, -⟩ := h.1.proposal_new hp hp'
      exact .inr ⟨rfl, h.2⟩
  | some p =>
      obtain ⟨x, hx, hmoves⟩ := h.1.proposal_moves hp
      rw [hp'] at hx
      cases hx
      cases hmoves with
      | same => exact .inl rfl
      | settled q actorUserId outcome now hid houtcome => exact absurd hpending houtcome

theorem FreshEffect.onePending {l : Step} {w w' : Onboarding} (h : FreshEffect l w w') (hw : OnePending w) :
    OnePending w' := by
  intro i j p q hp hq hstore hppending hqpending
  rcases h.pending_from hp hppending with hpold | ⟨hpl, hpnone⟩
  · rcases h.pending_from hq hqpending with hqold | ⟨hql, hqnone⟩
    · exact hw i j p q hpold hqold hstore hppending hqpending
    · exact absurd hppending (hqnone p (mem_of_find hpold) hstore)
  · rcases h.pending_from hq hqpending with hqold | ⟨hql, hqnone⟩
    · exact absurd hqpending (hpnone q (mem_of_find hqold) hstore.symm)
    · exact (Step.propose.inj (hpl.symm.trans hql)).1

/-! ### Facts -/

/-- A registered party has a number. -/
def VatFacts.Numbered (facts : VatFacts) : Prop := facts.vatRegistered = true → facts.vatNumber ≠ none

/-- Every stored fact and every proposed one has its number. -/
structure AllNumbered (w : Onboarding) : Prop where
  stores : ∀ storeId s, w.stores.find storeId = some s → VatFacts.Numbered s.facts
  proposals : ∀ proposalId p, w.proposals.find proposalId = some p → VatFacts.Numbered p.facts

theorem allNumbered_empty : AllNumbered empty := by
  constructor
  · intro storeId s hs
    cases hs
  · intro proposalId p hp
    cases hp

theorem FreshEffect.facts_move {l : Step} {w w' : Onboarding} (h : FreshEffect l w w') {storeId : String} {s s' : Store}
    (hs : w.stores.find storeId = some s) (hmoves : StoreMoves storeId l s s') : s'.facts = s.facts ∨ ∃ p actorUserId, l = .applyFacts p actorUserId ∧
      w.proposals.find p.id = some p ∧ p.storeId = storeId ∧ s'.facts = p.facts := by
  cases hmoves with
  | same | submitted => exact .inl rfl
  | patched found data =>
      left
      rw [PatchData.write, h.2 s hs]
  | decided decision f hf => exact .inl (hf.facts s)
  | applied p actorUserId hactor hpending hstore => exact .inr ⟨p, actorUserId, rfl, h.2, hstore, rfl⟩

theorem FreshEffect.allNumbered {l : Step} {w w' : Onboarding} (h : FreshEffect l w w') (hw : AllNumbered w) :
    AllNumbered w' := by
  constructor
  · intro storeId s' hs'
    cases hs : w.stores.find storeId with
    | none =>
        obtain ⟨-, _, _, _, _, _, rfl⟩ := h.1.store_new hs hs'
        intro hregistered
        cases hregistered
    | some s =>
        obtain ⟨x, hx, hmoves⟩ := h.1.store_moves hs
        rw [hs'] at hx
        cases hx
        rcases h.facts_move hs hmoves with hsame | ⟨p, -, -, hp, -, hfacts⟩
        · rw [hsame]
          exact hw.stores storeId s hs
        · rw [hfacts]
          exact hw.proposals p.id p hp
  · intro proposalId p' hp'
    cases hp : w.proposals.find proposalId with
    | none => exact (h.1.proposal_new hp hp').2.number
    | some p =>
        obtain ⟨x, hx, hmoves⟩ := h.1.proposal_moves hp
        rw [hp'] at hx
        cases hx
        have hbefore := hw.proposals proposalId p hp
        cases hmoves with
        | same | settled => exact hbefore

/-! ### Runs -/

/-- The law of two people. -/
structure TwoPersonLaw (tr : List (Event Onboarding Step)) (w : Onboarding) : Prop where
  /-- Facts change to those of a proposal approved by an operator other than its proposer. -/
  changes : ∀ e ∈ tr, ∀ storeId s s', e.pre.stores.find storeId = some s → e.post.stores.find storeId = some s' →
    s'.facts = s.facts ∨ ∃ p operator, w.proposals.find p.id = some p ∧ p.storeId = storeId ∧ s'.facts = p.facts ∧
      p.status = .approved ∧ p.decidedBy = some operator ∧ operator ≠ p.proposedBy
  /-- A proposal that is not pending has been decided once, a pending one not yet. -/
  decided : ∀ proposalId p, w.proposals.find proposalId = some p →
    tr.countP (settles proposalId) = if p.status = .pending then 0 else 1
  /-- The facts of a rejected proposal are never applied. -/
  rejected : ∀ proposalId p, w.proposals.find proposalId = some p → p.status = .rejected →
    ∀ e ∈ tr, ∀ q actorUserId, e.lbl = .applyFacts q actorUserId → q.id ≠ proposalId
  /-- A store has one pending proposal. -/
  pending : OnePending w
  /-- A registered store has a number. -/
  numbered : ∀ storeId s, w.stores.find storeId = some s → s.facts.vatRegistered = true → s.facts.vatNumber ≠ none

/-- A decision that is written stays. -/
theorem settled_final {tr : List (Event Onboarding Step)} {w : Onboarding} {e : Event Onboarding Step} (u : Onboarding)
    (h : Path FreshEffect u tr w) (he : e ∈ tr) {p : StoreVatFactsProposal} {actorUserId : String}
    (hlbl : e.lbl = .settle p actorUserId .approved) :
    p.proposedBy ≠ actorUserId ∧ ∃ now, w.proposals.find p.id = some (settleProposal .approved actorUserId now p) := by
  obtain ⟨tr₁, tr₂, -, -, hact, hrest⟩ := h.split he
  obtain ⟨pre, l, post⟩ := e
  obtain rfl : l = .settle p actorUserId .approved := hlbl
  have hfound : pre.proposals.find p.id = some p := hact.2
  obtain ⟨p', hp', hmoves⟩ := hact.1.proposal_moves hfound
  cases hmoves with
  | same _ _ hl => exact absurd rfl (hl p actorUserId .approved rfl)
  | settled q _ _ now hid houtcome hpending hactor =>
      refine ⟨hactor rfl, now, ?_⟩
      refine hrest.invariant (C := fun _ => True)
        (P := fun w => w.proposals.find p.id = some (settleProposal .approved actorUserId now p))
        (fun l t u hstep _ ht => ?_) (fun _ _ => trivial) hp'
      exact FreshEffect.settled_stays (by simp [settleProposal]) l t u hstep ht

/-- **Tax facts change by two people.** -/
theorem Run.facts_by_two {tr : List (Event Onboarding Step)} {cfg : Config Onboarding Step (Except Err Reply)}
    (h : Run tr cfg) (hturn : InTurn tr) : TwoPersonLaw tr cfg.state := by
  have hpath : Path FreshEffect empty tr cfg.state := (Run.path h).restrict hturn.fresh
  have hnumbered : AllNumbered cfg.state := hpath.invariant (C := fun _ => True)
    (fun l s t hact _ hs => FreshEffect.allNumbered hact hs) (fun _ _ => trivial) allNumbered_empty
  have hone : OnePending cfg.state := hpath.invariant (C := fun _ => True)
    (fun l s t hact _ hs => FreshEffect.onePending hact hs) (fun _ _ => trivial) onePending_empty
  -- facts that are applied belong to a proposal that is approved in the end
  have happroved {e : Event Onboarding Step} (he : e ∈ tr) {p : StoreVatFactsProposal} {actorUserId : String}
      (hlbl : e.lbl = .applyFacts p actorUserId) : ∃ operator now, p.proposedBy ≠ operator ∧
        cfg.state.proposals.find p.id = some (settleProposal .approved operator now p) := by
    obtain ⟨tr₁, tr₂, htr, -, -, hrest⟩ := hpath.split he
    obtain ⟨e', he', operator, hsettled⟩ := hturn.completed tr₁ e tr₂ htr p actorUserId hlbl
    obtain ⟨hactor, now, hfinal⟩ := settled_final _ hrest he' hsettled
    exact ⟨operator, now, hactor, hfinal⟩
  refine ⟨fun e he storeId s s' hs hs' => ?_, fun proposalId p hp => ?_, ?_, hone, hnumbered.stores⟩
  · obtain ⟨-, -, -, -, hact, -⟩ := hpath.split he
    obtain ⟨x, hx, hmoves⟩ := hact.1.store_moves hs
    rw [hs'] at hx
    cases hx
    rcases FreshEffect.facts_move hact hs hmoves with hsame | ⟨p, actorUserId, hlbl, -, hstore, hfacts⟩
    · exact .inl hsame
    · obtain ⟨operator, now, hactor, hfinal⟩ := happroved he hlbl
      exact .inr ⟨settleProposal .approved operator now p, operator, hfinal, hstore, hfacts, rfl, rfl, hactor.symm⟩
  · rw [settles_once hpath, hp, Option.any_some]
    by_cases hpending : p.status = .pending <;> simp [hpending]
  · rintro proposalId p hp hrejected e he q actorUserId hlbl rfl
    obtain ⟨operator, now, -, hfinal⟩ := happroved he hlbl
    rw [hp] at hfinal
    cases hfinal
    cases hrejected

/-! ### An owner alone -/

instance (e : Event Onboarding Step) : Decidable (Fresh e) := by
  obtain ⟨pre, l, post⟩ := e
  cases l with
  | patch storeId found data =>
      refine decidable_of_iff ((pre.stores.find storeId).all (fun s =>
        data.vatNumber.getD s.facts.vatNumber = s.facts.vatNumber) = true) ?_
      cases hs : pre.stores.find storeId <;> simp [Fresh, hs]
  | _ =>
      dsimp only [Fresh]
      infer_instance

/-- The event decides the proposal for it. -/
def approves (p : StoreVatFactsProposal) (e : Event Onboarding Step) : Bool :=
  match e.lbl with
  | .settle q _ outcome => q = p && outcome = .approved
  | _ => false

/-- Every application in the run is followed by its decision. -/
def completes : List (Event Onboarding Step) → Bool
  | [] => true
  | e :: rest =>
      (match e.lbl with
        | .applyFacts p _ => rest.any (approves p)
        | _ => true) && completes rest

theorem completed_of_completes {tr₁ tr₂ : List (Event Onboarding Step)} {e : Event Onboarding Step}
    (h : completes (tr₁ ++ e :: tr₂) = true) {p : StoreVatFactsProposal} {actorUserId : String}
    (hlbl : e.lbl = .applyFacts p actorUserId) :
    ∃ e' ∈ tr₂, ∃ actorUserId', e'.lbl = .settle p actorUserId' .approved := by
  induction tr₁ with
  | nil =>
      simp only [List.nil_append, completes, hlbl, Bool.and_eq_true, List.any_eq_true] at h
      obtain ⟨⟨e', he', happroves⟩, -⟩ := h
      refine ⟨e', he', ?_⟩
      unfold approves at happroves
      split at happroves
      next q operator outcome hsettle =>
        simp only [Bool.and_eq_true, decide_eq_true_eq] at happroves
        obtain ⟨rfl, rfl⟩ := happroves
        exact ⟨operator, hsettle⟩
      next => cases happroves
  | cons x rest ih =>
      rw [List.cons_append, completes, Bool.and_eq_true] at h
      exact ih h.2

namespace Pilot

open Onboarding.Pilot

/-- Huda's store is to be registered; Ali proposes it and Mona approves. -/
def registered : List (Choice Call) :=
  opened ++ toEnd (.propose "u2" "s1"
      { vatRegistered := some true, vatNumber := some "300000000000003", evidenceNote := some "certificate 12" } "p1") ++
    toEnd (.approve "u3" "s1" "p1")

/-- Huda writes a number into her store. -/
def patched : List (Choice Call) := opened ++ toEnd (.patch "u1" "s1" { vatNumber := some "300000000000003" })

theorem registered_inTurn : InTurn (played registered).1 := by
  have hcompletes : completes (played registered).1 = true := by decide +kernel
  refine ⟨by decide +kernel, fun tr₁ e tr₂ htr p actorUserId hlbl => ?_⟩
  rw [htr] at hcompletes
  exact completed_of_completes hcompletes hlbl

end Pilot

theorem Run.facts_by_two_registered :
    TwoPersonLaw (Onboarding.Pilot.played Pilot.registered).1 (Onboarding.Pilot.played Pilot.registered).2.state ∧
      ((Onboarding.Pilot.played Pilot.registered).2.state.stores.find "s1").any
        (fun s => s.facts.vatRegistered ∧ s.facts.vatNumber = some "300000000000003") = true :=
  ⟨Run.facts_by_two (Onboarding.Pilot.run Pilot.registered) Pilot.registered_inTurn, by decide +kernel⟩

/-- **An owner changes a tax fact alone**: a patch writes the number, and nothing has been proposed. -/
theorem Run.facts_by_owner : ∃ tr cfg, Run tr cfg ∧ cfg.state.proposals.rows = [] ∧ ¬ TwoPersonLaw tr cfg.state := by
  have hproposals : (Onboarding.Pilot.played Pilot.patched).2.state.proposals.rows = [] := by decide +kernel
  have hchanged : ((Onboarding.Pilot.played Pilot.patched).1.any fun e =>
      (e.pre.stores.find "s1").any fun s => (e.post.stores.find "s1").any fun s' => s'.facts ≠ s.facts) = true := by
    decide +kernel
  refine ⟨_, _, Onboarding.Pilot.run Pilot.patched, hproposals, fun hlaw => ?_⟩
  simp only [List.any_eq_true, Option.any_eq_true, decide_eq_true_eq] at hchanged
  obtain ⟨e, he, s, hs, s', hs', hfacts⟩ := hchanged
  rcases hlaw.changes e he "s1" s s' hs hs' with hsame | ⟨p, -, hp, -⟩
  · exact hfacts hsame
  · have hmem := mem_of_find hp
    rw [hproposals] at hmem
    cases hmem

end Qift.Onboarding.VatFactsService
