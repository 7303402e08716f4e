import Qift.Guarantee.Engine
import Qift.Guarantee.Refunds

/-!
# Guarantees of executions

* `Bound` is what the gate has checked of the preview acts and the votes; with the level check it makes an
  execution `Authorized` (`Bound.authorized`).
* `issueStatement_serves` — the statement a tail answers with is the stored one.
* `execute_serves`, `closeZeroNet_serves` and `replay_serves` give the conclusions of the three calls
  (`Completed`, `ReplayReport.Faithful`).
-/

namespace Qift

open Relational Relational.Table Interleaving Settlement Financial

-- a judgment is used by its rules, never by what it unfolds to
attribute [local irreducible] Prog.Meets

section Services

variable [Runtime] {q : Lane} {s : World}

/-! ### Aggregates, previews and votes -/

theorem dayAggregateMinor_serves (ownSettlementId storeId : Nat) (currency : CurrencyCode) (day : Time)
    (basis : AggregateBasis) : Acts q (dayAggregateMinor ownSettlementId storeId currency day basis) s :=
  Serves.bind Serves.read fun _ _ _ _ =>
    Serves.seq (zeroNetClosedGrossMinor_serves _ _ _ _ _) fun _ _ _ =>
      Serves.seq (Serves.ofExcept fun _ _ _ => trivial) fun _ _ _ => Serves.pure fun _ => trivial

def Read (b : Books) (batchId : Nat) (frozen : FrozenBatchRecord) : Prop :=
  ∃ batch, b.batches.find batchId = some batch ∧ frozen = SettlementBatch.frozen batch

omit [Runtime] in
theorem Read.later {b b' : Books} {batchId : Nat} {frozen : FrozenBatchRecord}
    (h : Read b batchId frozen) (hlater : Later b b') : Read b' batchId frozen := by
  obtain ⟨batch, hbatch, rfl⟩ := h
  obtain ⟨row, hrow, hsame⟩ := hlater.batch hbatch
  exact ⟨row, hrow, hsame.frozen.symm⟩

omit [Runtime] in
theorem Read.settlementId {b : Books} {batchId : Nat} {frozen : FrozenBatchRecord}
    (h : Read b batchId frozen) : frozen.settlementId = batchId := by
  obtain ⟨batch, hbatch, rfl⟩ := h
  have hid : batch.id = batchId := key_of_find hbatch
  exact hid

theorem preview_serves (actor batchId : Nat) : Acts q (preview actor batchId) s := by
  refine Serves.seq (frozenRecord_serves batchId).acts fun view _ _ => ?_
  refine Serves.seq (Serves.ensure fun _ _ => trivial) fun _ _ _ => ?_
  refine Serves.seq now_serves fun asOf _ _ => ?_
  refine Serves.seq (Serves.ofExcept fun _ _ _ => trivial) fun preview _ _ => ?_
  refine Serves.seq ?_ fun _ _ _ => Serves.pure fun _ => trivial
  refine Serves.act rfl fun t x u h => ?_
  simp only [previewTx, Tx.bind_eq_ok, txNow_eq_ok, insert_eq_ok] at h
  obtain ⟨previewedAt, _, ⟨-, rfl⟩, act, w, ⟨rfl, previews, hcreate, -, rfl⟩, haudit⟩ := h
  unfold Step
  rw [recordGuaranteed_eq_ok haudit]
  exact Effect.preview hcreate (Nat.le_succ _)

theorem approveTx_step {batch row : SettlementBatch} {level actor : Nat} {note : Option String}
    {t u : World} {vote : SettlementApproval}
    (hrow : t.db.books.batches.find batch.id = some row) (hsame : SettlementBatch.Same batch row)
    (hproposer : batch.assembledBy ≠ some actor)
    (h : approveTx (SettlementBatch.frozen batch)
      (calculationHash (SettlementBatch.frozen batch).calculationSnapshot) level actor note t =
        .ok (vote, u)) : Step .approve t u := by
  simp only [approveTx, Tx.bind_eq_ok, txNow_eq_ok, insert_eq_ok, Tx.pure_eq_ok] at h
  obtain ⟨approvedAt, _, ⟨-, rfl⟩, vote, w, ⟨rfl, approvals, hcreate, -, rfl⟩, _, _, haudit, -, rfl⟩ := h
  unfold Step
  rw [recordGuaranteed_eq_ok haudit]
  refine Effect.approve (hsame.id.symm ▸ hrow) hsame.id.symm ?_ ?_ hcreate (Nat.le_succ _)
  · rw [hsame.calculationSnapshot]
    rfl
  · rw [hsame.assembledBy]
    exact hproposer

theorem approve_serves (actor batchId : Nat) (calculationHashInput : String) (note : Option String) :
    Acts q (approve actor batchId calculationHashInput note) s := by
  refine Serves.bind (frozenRecord_serves batchId) fun view s₁ _ hview => ?_
  obtain ⟨batch, hbatch, rfl⟩ := hview
  have hid : batch.id = batchId := key_of_find hbatch
  refine Serves.seq (Serves.ensure fun _ _ => trivial) fun _ s₂ h₂ => ?_
  refine Serves.seq (Serves.ensure fun _ _ => trivial) fun _ s₃ h₃ => ?_
  refine Serves.bind Serves.guard fun _ s₄ h₄ hproposer => ?_
  refine Serves.seq (Serves.ensure fun _ _ => trivial) fun _ s₅ h₅ => ?_
  refine Serves.seq now_serves fun nowMs s₆ h₆ => ?_
  refine Serves.bind Serves.read fun mine s₇ h₇ _ => ?_
  refine Serves.seq (Serves.ensure fun _ _ => trivial) fun _ s₈ h₈ => ?_
  refine Serves.seq (Serves.ofExcept fun _ _ _ => trivial) fun basis s₉ h₉ => ?_
  refine Serves.seq now_serves fun day s₁₀ h₁₀ => ?_
  refine Serves.seq (dayAggregateMinor_serves _ _ _ _ _) fun aggregate s₁₁ h₁₁ => ?_
  refine Serves.seq (Serves.tryCatch ?_ fun e _ _ => ?_) fun _ _ _ => Serves.pure fun _ => trivial
  · refine Serves.transaction rfl fun t vote u _ h₁₁t h => ⟨?_, trivial⟩
    have hread := ((((h₂.trans h₃).trans h₄).trans h₅).trans h₆).trans h₇
    obtain ⟨row, hrow, hsame⟩ := (later_of_rely
      (((((hread.trans h₈).trans h₉).trans h₁₀).trans h₁₁).trans h₁₁t)).batch hbatch
    exact approveTx_step (hid ▸ hrow) hsame hproposer h
  · split
    · exact Serves.fail
    · exact Serves.fail

/-! ### The gate -/

omit [Runtime] in
theorem nodup_of_picks {users : List Nat} (hnodup : users.Nodup) {pick : Nat → Option SettlementApproval}
    (hpick : ∀ user v, pick user = some v → v.approvedBy = user) :
    ((users.filterMap pick).map SettlementApproval.approvedBy).Nodup := by
  refine hnodup.sublist ?_
  induction users with
  | nil => exact List.Sublist.slnil
  | cons user rest ih =>
      have hrest := ih hnodup.of_cons
      cases hv : pick user with
      | none =>
          rw [List.filterMap_cons_none hv]
          exact hrest.cons user
      | some v =>
          rw [List.filterMap_cons_some hv, List.map_cons, hpick user v hv]
          exact hrest.cons_cons user

omit [Runtime] in
theorem nodup_eraseDups (users : List Nat) : users.eraseDups.Nodup := by
  induction hlength : users.length using Nat.strong_induction_on generalizing users with
  | _ n ih =>
      cases users with
      | nil => exact List.nodup_nil
      | cons user rest =>
          rw [List.eraseDups_cons]
          refine List.nodup_cons.mpr ⟨by simp, ih _ ?_ _ rfl⟩
          have hle := List.length_filter_le (fun other => !other == user) rest
          rw [← hlength, List.length_cons]
          omega

omit [Runtime] in
theorem latestByApprover_spec (rows : List SettlementApproval) :
    ((latestByApprover rows).map SettlementApproval.approvedBy).Nodup ∧
      ∀ v ∈ latestByApprover rows, v ∈ rows := by
  have hlast : ∀ user v, ((rows.filter fun r => decide (r.approvedBy = user)).getLast? = some v) →
      v ∈ rows ∧ v.approvedBy = user := by
    intro user v hv
    have hmem := List.mem_filter.mp (List.mem_of_getLast? hv)
    exact ⟨hmem.1, by simpa using hmem.2⟩
  refine ⟨nodup_of_picks (nodup_eraseDups _) fun user v hv => (hlast user v hv).2, fun v hv => ?_⟩
  obtain ⟨user, -, hv⟩ := List.mem_filterMap.mp hv
  exact (hlast user v hv).1

/-- What the gate has checked: a preview act and votes on the frozen calculation that have not lapsed. -/
structure Bound (b : Books) (frozen : FrozenBatchRecord) (executor : Nat) (nowMs : Time)
    (approvals : List ExecutionApproval) : Prop where
  previewed : ∃ p ∈ b.previews.rows, p.settlementId = frozen.settlementId ∧
    p.calculationHash = calculationHash frozen.calculationSnapshot ∧
    withinTtl nowMs p.previewedAt = true
  votes : ∃ votes : List SettlementApproval, approvals = votes.map toExecutionApproval ∧
    (votes.map SettlementApproval.approvedBy).Nodup ∧
    ∀ v ∈ votes, v ∈ b.approvals.rows ∧ v.settlementId = frozen.settlementId ∧
      v.calculationHash = calculationHash frozen.calculationSnapshot ∧
      withinTtl nowMs v.approvedAt = true ∧ v.approvedBy ≠ executor

theorem Bound.later {b b' : Books} {frozen : FrozenBatchRecord} {executor : Nat} {nowMs : Time}
    {approvals : List ExecutionApproval} (h : Bound b frozen executor nowMs approvals)
    (hlater : Later b b') : Bound b' frozen executor nowMs approvals := by
  obtain ⟨⟨p, hp, hrest⟩, votes, heq, hnodup, hvotes⟩ := h
  exact ⟨⟨p, hlater.previews.keep hp, hrest⟩, votes, heq, hnodup, fun v hv =>
    ⟨hlater.approvals.keep (hvotes v hv).1, (hvotes v hv).2⟩⟩

theorem buildExecutionPreview_hash {frozen : FrozenBatchRecord} {asOf : String}
    {preview : ExecutionPreview} (h : buildExecutionPreview frozen asOf = .ok preview) :
    preview.calculationHash = calculationHash frozen.calculationSnapshot := by
  unfold buildExecutionPreview at h
  simp only [bind, Except.bind] at h
  split at h
  · cases h
  · split at h
    · cases h
    · rw [← Except.ok.inj h]

theorem assertExecutionBinding_quotes {frozen : FrozenBatchRecord} {id : Nat}
    {reference previewHash : String} {verified : Bool} {approvals : List ExecutionApproval} {executor : Nat}
    (h : assertExecutionBinding frozen id reference previewHash verified approvals executor = .ok ()) :
    ∀ a ∈ approvals, a.settlementId = frozen.settlementId ∧
      a.settlementReference = frozen.settlementReference ∧
      a.calculationHash = calculationHash frozen.calculationSnapshot ∧ a.approvedBy ≠ executor := by
  unfold assertExecutionBinding at h
  dsimp only at h
  split_ifs at h
  exact assertApprovals_eq_ok.mp h

theorem bindApprovals_serves (actor : Nat) (frozen : FrozenBatchRecord) (previewHash : String)
    (nowMs : Time) : Serves q (fun approvals t => Bound t.db.books frozen actor nowMs approvals)
      (bindApprovals actor frozen previewHash nowMs) s := by
  refine Serves.seq now_serves fun asOf s₁ _ => ?_
  refine Serves.bind (P := fun preview _ =>
    preview.calculationHash = calculationHash frozen.calculationSnapshot)
    (Serves.ofExcept fun _ _ h => buildExecutionPreview_hash h) fun preview s₂ _ hhash => ?_
  refine Serves.seq (Serves.ensure fun _ _ => trivial) fun _ s₃ _ => ?_
  refine Serves.bind Serves.read fun acts s₄ _ hacts => ?_
  refine Serves.bind Serves.guard fun _ s₅ h₅ hfresh => ?_
  have hpreviewed : ∃ p ∈ s₄.db.books.previews.rows, p.settlementId = frozen.settlementId ∧
      p.calculationHash = calculationHash frozen.calculationSnapshot ∧
      withinTtl nowMs p.previewedAt = true := by
    obtain ⟨p, hp, hage⟩ := List.any_eq_true.mp hfresh
    rw [hacts] at hp
    obtain ⟨hmem, hcond⟩ := List.mem_filter.mp hp
    obtain ⟨hbatch, hquote⟩ := of_decide_eq_true hcond
    exact ⟨p, hmem, hbatch, hquote.trans hhash, hage⟩
  refine Serves.bind Serves.read fun rows s₆ h₆ hrows => ?_
  dsimp only
  split
  · rename_i hbinding
    refine Serves.pure fun _ => ?_
    obtain ⟨p, hp, hrest⟩ := hpreviewed
    obtain ⟨hnodup, hmem⟩ := latestByApprover_spec rows
    refine ⟨⟨p, (later_of_rely (h₅.trans h₆)).previews.keep hp, hrest⟩, _, rfl,
      hnodup.sublist (List.filter_sublist.map _), fun v hv => ?_⟩
    obtain ⟨hlatest, hage⟩ := List.mem_filter.mp hv
    obtain ⟨-, -, hquote, hexecutor⟩ :=
      assertExecutionBinding_quotes hbinding _ (List.mem_map_of_mem hv)
    have hstored := hmem v hlatest
    rw [hrows, mem_orderBy] at hstored
    obtain ⟨hstored, hbatch⟩ := List.mem_filter.mp hstored
    exact ⟨hstored, of_decide_eq_true hbatch, hquote, hage, hexecutor⟩
  · split
    · exact Serves.fail
    · exact Serves.fail

/-- What the level check has established. -/
def Leveled (frozen : FrozenBatchRecord) (aggregate : Int) (approvals : List ExecutionApproval)
    (seniors : List Nat) : Prop :=
  ∃ basis, authorizationBasisMinor frozen = .ok basis ∧
    (requiredExecutionApproval basis aggregate).approvalsNeeded ≤ approvals.length ∧
    ((requiredExecutionApproval basis aggregate).seniorRequired = true →
      ∃ a ∈ approvals, a.approvedBy ∈ seniors)

theorem assertLevel_serves (frozen : FrozenBatchRecord) (aggregate : Int)
    (approvals : List ExecutionApproval) :
    Serves q (fun seniors _ => Leveled frozen aggregate approvals seniors)
      (assertLevel frozen aggregate approvals) s := by
  refine Serves.bind (P := fun basis _ => authorizationBasisMinor frozen = .ok basis)
    (Serves.ofExcept fun _ _ h => h) fun basis _ _ hbasis => ?_
  refine Serves.bind Serves.guard fun _ _ _ hneeded => ?_
  split
  · refine Serves.bind Serves.read fun seniors _ _ _ => ?_
    refine Serves.bind Serves.guard fun _ _ _ hsenior => Serves.pure fun _ => ?_
    exact ⟨basis, hbasis, hneeded, fun _ => hsenior⟩
  · rename_i hnot
    exact Serves.pure fun _ => ⟨basis, hbasis, hneeded, fun hs => absurd hs hnot⟩

theorem Bound.authorized {b : Books} {batch : SettlementBatch} {g : Gate}
    {approvals : List ExecutionApproval}
    (h : Bound b (SettlementBatch.frozen batch) g.executor g.checkedAt approvals)
    (hlevel : Leveled (SettlementBatch.frozen batch) g.aggregateMinor approvals g.seniors) :
    Authorized b batch g := by
  obtain ⟨hpreviewed, votes, rfl, hnodup, hvotes⟩ := h
  obtain ⟨basis, hbasis, hneeded, hsenior⟩ := hlevel
  rw [List.length_map] at hneeded
  refine ⟨hpreviewed, votes, basis, hnodup, hvotes, hbasis, hneeded, fun hs => ?_⟩
  obtain ⟨a, ha, hmem⟩ := hsenior hs
  obtain ⟨v, hv, rfl⟩ := List.mem_map.mp ha
  exact ⟨v, hv, hmem⟩

theorem assertNoDrift_serves (batchId : Nat) (frozen : FrozenBatchRecord) :
    Acts q (assertNoDrift batchId frozen) s :=
  Serves.seq (batchItems_serves batchId) fun _ _ _ => Serves.ensure fun _ _ => trivial

/-! ### Statements -/

omit [Runtime] in
theorem insert_refused {ρ κ : Type} {key : ρ → κ} [DecidableEq κ] {m : Model key} {row : Nat → ρ}
    {w : World} {e : Err} (h : insert m row w = .error e)
    (hclash : ∀ x ∈ (m.table w.db).rows, m.conflict (row w.db.nextId) x = false) :
    ∃ r, (m.table w.db).find (key (row w.db.nextId)) = some r := by
  by_contra hnone
  have hfresh : (m.table w.db).find (key (row w.db.nextId)) = none :=
    Option.eq_none_iff_forall_ne_some.mpr fun r hr => hnone ⟨r, hr⟩
  obtain ⟨t, hcreate⟩ : ∃ t, (m.table w.db).create (row w.db.nextId) = some t := by
    unfold Table.create
    split
    · rename_i hmem
      obtain ⟨r, hr, hkey⟩ := List.mem_map.mp hmem
      exact absurd hkey (find_eq_none.mp hfresh r hr)
    · exact ⟨_, rfl⟩
  unfold insert at h
  rw [createUnless_eq_some.mpr ⟨hcreate, hclash⟩] at h
  cases h

/-- The frozen record a call has read, with the facts of its statement. -/
def Closed (b : Books) (batchId : Nat) (frozen : FrozenBatchRecord)
    (remittance : Option RemittanceEvidence) (closure : Option ZeroNetClosureFacts) : Prop :=
  ∃ batch, b.batches.find batchId = some batch ∧ frozen = SettlementBatch.frozen batch ∧
    StatementBasis b batch remittance closure

omit [Runtime] in
theorem Closed.later {b b' : Books} {batchId : Nat} {frozen : FrozenBatchRecord}
    {remittance : Option RemittanceEvidence} {closure : Option ZeroNetClosureFacts}
    (h : Closed b batchId frozen remittance closure) (hlater : Later b b') :
    Closed b' batchId frozen remittance closure := by
  obtain ⟨batch, hbatch, rfl, hbasis⟩ := h
  obtain ⟨row, hrow, hsame⟩ := hlater.batch hbatch
  exact ⟨row, hrow, hsame.frozen.symm, hbasis.later hlater hsame⟩

theorem issueStatement_serves {batchId : Nat} {frozen : FrozenBatchRecord}
    {remittance : Option RemittanceEvidence} {closure : Option ZeroNetClosureFacts}
    (hclosed : Closed s.db.books batchId frozen remittance closure) :
    Serves q (fun record t => ∃ r, record = some r ∧ t.db.books.statements.find batchId = some r)
      (issueStatement frozen remittance closure) s := by
  refine Serves.seq now_serves fun issuedAt s₁ h₁ => ?_
  refine Serves.bind (P := fun statement _ => generateSettlementStatement frozen (toISOString issuedAt)
    remittance closure = .ok statement) (Serves.ofExcept fun _ _ h => h) fun statement s₂ h₂ hgenerated => ?_
  refine Serves.attempt rfl (fun t r u _ h₂t h => ?_) fun t e hreach h₂t h => ?_
  · obtain ⟨batch, hbatch, rfl, hbasis⟩ :=
      hclosed.later (later_of_rely ((h₁.trans h₂).trans h₂t))
    have hid : batch.id = batchId := key_of_find hbatch
    subst hid
    obtain ⟨rfl, statements, hcreate, -, rfl⟩ := insert_eq_ok.mp h
    refine ⟨Effect.statement hbatch hbasis hgenerated hcreate (Nat.lt_succ_self _), _, rfl, ?_⟩
    exact find_create_self hcreate
  · obtain rfl := insert_eq_error h
    obtain ⟨batch, hbatch, rfl, -⟩ := hclosed.later (later_of_rely ((h₁.trans h₂).trans h₂t))
    have hid : batch.id = batchId := key_of_find hbatch
    subst hid
    obtain ⟨r, hr⟩ := insert_refused h fun x hx => by
      have hlt := hreach.documents.statementIds x hx
      exact decide_eq_false (ne_of_gt hlt)
    refine Serves.query fun u _ htu => ?_
    obtain ⟨_, hr', rfl⟩ := (later_of_rely htu).statements _ _ hr
    exact ⟨r, hr', hr'⟩

/-! ### Completion tails -/

theorem attachOne_serves (actor : Nat) (frozen : FrozenBatchRecord) (alloc : RecoveryAllocation) :
    Acts q (attachOne actor frozen alloc) s := by
  refine Serves.bind Serves.read fun note _ _ _ => ?_
  cases note with
  | none => exact Serves.pure fun _ => trivial
  | some note =>
      dsimp only
      split
      · exact Serves.pure fun _ => trivial
      · refine Serves.seq ?_ fun attached _ _ => ?_
        · exact Serves.act rfl fun _ _ _ h => (updateMany_beside h fun _ _ => rfl).step
        · split
          · refine Serves.seq ?_ fun _ _ _ => audit_serves _
            exact Serves.act rfl fun _ _ _ h => (insert_beside h fun _ _ => rfl).step
          · exact Serves.pure fun _ => trivial

theorem attachStatementToCreditNotes_serves (actor : Nat) (frozen : FrozenBatchRecord) :
    Acts q (attachStatementToCreditNotes actor frozen) s :=
  Serves.forEach fun alloc _ _ _ => attachOne_serves actor frozen alloc

/-- The answer of an execution: the statement of its batch is stored. -/
def Completed (b : Books) (batchId : Nat) (result : Executed) : Prop :=
  result.settlementId = batchId ∧
    ∃ r, result.statement = some r ∧ b.statements.find batchId = some r

omit [Runtime] in
theorem Completed.later {b b' : Books} {batchId : Nat} {result : Executed}
    (h : Completed b batchId result) (hlater : Later b b') : Completed b' batchId result := by
  obtain ⟨hid, r, hresult, hr⟩ := h
  obtain ⟨_, hr', rfl⟩ := hlater.statements _ _ hr
  exact ⟨hid, r, hresult, hr'⟩

/-- The end of both tails. -/
theorem finishChain_serves {batchId : Nat} {frozen : FrozenBatchRecord} {auditKey : AuditKey} (actor : Nat)
    {remittance : Option SettlementRemittance} {statement : Option SettlementStatementRecord}
    (hid : frozen.settlementId = batchId)
    (hstatement : ∃ r, statement = some r ∧ s.db.books.statements.find batchId = some r) :
    Serves q (fun result t => Completed t.db.books batchId result) (do
      attachStatementToCreditNotes actor frozen
      audit auditKey
      pure
        { settlementId := frozen.settlementId
          settlementReference := frozen.settlementReference
          remittance := remittance
          statement := statement : Executed }) s := by
  refine Serves.seq (attachStatementToCreditNotes_serves actor frozen) fun _ s₁ h₁ => ?_
  refine Serves.seq (audit_serves _) fun _ s₂ h₂ => Serves.pure fun _ => ?_
  obtain ⟨r, rfl, hr⟩ := hstatement
  obtain ⟨_, hr', rfl⟩ := (later_of_rely (h₁.trans h₂)).statements _ _ hr
  exact ⟨hid, r, rfl, hr'⟩

theorem completeChain_serves {batchId : Nat} {frozen : FrozenBatchRecord}
    {remittance : SettlementRemittance} (actor : Nat) (hread : Read s.db.books batchId frozen)
    (hremittance : s.db.books.remittances.find batchId = some remittance) :
    Serves q (fun result t => Completed t.db.books batchId result)
      (completeChain actor frozen remittance) s := by
  have hkey : remittance.settlementId = batchId := key_of_find hremittance
  refine Serves.seq ?_ fun _ s₁ h₁ => ?_
  · refine Serves.transaction rfl fun t _ u hreach hst h => ⟨?_, trivial⟩
    obtain ⟨l, n, rfl, hn, hposts, -⟩ := record_eq_ok h
    obtain ⟨batch, hbatch, rfl⟩ := hread.later (later_of_rely hst)
    obtain ⟨_, hstored, rfl⟩ := (later_of_rely hst).remittances _ _ hremittance
    obtain ⟨row, hrow, -, hstore, hcurrency⟩ := hreach.custody.remittances _ (mem_of_find hstored)
    rw [hkey] at hrow
    obtain rfl := Option.some.inj (hbatch.symm.trans hrow)
    exact Effect.remittancePaid (hkey.symm ▸ hstored) hstore.symm hcurrency.symm hposts hn
  · have hlater := later_of_rely h₁
    have hclosed : Closed s₁.db.books batchId frozen (some (remittanceEvidence remittance)) none := by
      obtain ⟨batch, hbatch, rfl⟩ := hread.later hlater
      obtain ⟨_, hstored, rfl⟩ := hlater.remittances _ _ hremittance
      have hid : batch.id = batchId := key_of_find hbatch
      exact ⟨batch, hbatch, rfl, Or.inl ⟨remittance, hid.symm ▸ hstored, rfl, rfl⟩⟩
    refine Serves.bind (issueStatement_serves hclosed) fun statement s₂ _ hstatement => ?_
    exact finishChain_serves actor hread.settlementId hstatement

theorem completeChainZeroNet_serves {batchId : Nat} {frozen : FrozenBatchRecord} {closedAt : Time}
    (actor : Nat) (hclosed : ∃ batch, s.db.books.batches.find batchId = some batch ∧
      frozen = SettlementBatch.frozen batch ∧ batch.closureType = some .zero_net_no_transfer ∧
      batch.closedAt = some closedAt) :
    Serves q (fun result t => Completed t.db.books batchId result)
      (completeChainZeroNet actor frozen closedAt) s := by
  obtain ⟨batch, hbatch, hfrozen, htype, hat⟩ := hclosed
  have hread : Read s.db.books batchId frozen := ⟨batch, hbatch, hfrozen⟩
  have hbasis : Closed s.db.books batchId frozen none (some (closureFacts closedAt)) :=
    ⟨batch, hbatch, hfrozen, Or.inr ⟨closedAt, htype, hat, rfl, rfl⟩⟩
  refine Serves.bind (issueStatement_serves hbasis) fun statement s₁ _ hstatement => ?_
  exact finishChain_serves actor hread.settlementId hstatement

/-! ### Executions -/

theorem assertRemittanceIdentity_serves (remittance : SettlementRemittance) (reference : String)
    (executedAt : Time) (netMinor : Int) (currency : CurrencyCode) :
    Acts q (assertRemittanceIdentity remittance reference executedAt netMinor currency) s :=
  Serves.ensure fun _ _ => trivial

theorem gatedAt_of_bound {b : Books} {batchId : Nat} {frozen : FrozenBatchRecord} {g : Gate}
    {approvals : List ExecutionApproval} (hread : Read b batchId frozen)
    (hbound : Bound b frozen g.executor g.checkedAt approvals)
    (hlevel : Leveled frozen g.aggregateMinor approvals g.seniors) : GatedAt b batchId (some g) := by
  rintro _ ⟨⟩
  obtain ⟨batch, hbatch, rfl⟩ := hread
  exact ⟨batch, hbatch, hbound.authorized hlevel⟩

theorem executeReady_serves {batchId : Nat} {frozen : FrozenBatchRecord} (actor : Nat)
    (previewHash reference : String) (executedAt : Time) (netMinor : Int) (currency : CurrencyCode)
    (hread : Read s.db.books batchId frozen) :
    Serves q (fun result t => Completed t.db.books batchId result)
      (executeReady actor batchId frozen previewHash reference executedAt netMinor currency) s := by
  refine Serves.seq now_serves fun nowMs s₁ h₁ => ?_
  refine Serves.seq (Serves.ensure fun _ _ => trivial) fun _ s₂ h₂ => ?_
  refine Serves.bind (bindApprovals_serves _ _ _ _) fun approvals s₃ h₃ hbound => ?_
  refine Serves.seq (dayAggregateMinor_serves _ _ _ _ _) fun aggValueDay s₄ h₄ => ?_
  refine Serves.seq now_serves fun recordingDay s₅ h₅ => ?_
  refine Serves.seq (dayAggregateMinor_serves _ _ _ _ _) fun aggRecordingDay s₆ h₆ => ?_
  refine Serves.bind (assertLevel_serves _ _ _) fun seniors s₇ h₇ hlevel => ?_
  refine Serves.seq (assertNoDrift_serves _ _) fun _ s₈ h₈ => ?_
  have hchecked := later_of_rely ((((h₄.trans h₅).trans h₆).trans h₇).trans h₈)
  have hlater := (later_of_rely ((h₁.trans h₂).trans h₃)).trans hchecked
  have hgate := gatedAt_of_bound
    (g := ⟨actor, nowMs, max aggValueDay aggRecordingDay, seniors⟩) (hread.later hlater)
    (hbound.later hchecked) hlevel
  refine Serves.bind (markSettled_serves batchId _ hgate) fun settled s₉ h₉ hsettled => ?_
  have htail (t : World) (hst : Rely Step s₉ t) :
      Serves q (fun result t => Completed t.db.books batchId result)
        (completeChain actor frozen settled.remittance) t := by
    have htail := later_of_rely hst
    obtain ⟨_, hstored, hsame⟩ := htail.remittances _ _ hsettled
    exact completeChain_serves actor
      (((hread.later hlater).later (later_of_rely h₉)).later htail) (hsame ▸ hstored)
  dsimp only
  split
  · refine Serves.seq (assertRemittanceIdentity_serves _ _ _ _ _) fun _ s₁₀ h₁₀ => ?_
    exact htail s₁₀ h₁₀
  · exact htail s₉ (Rely.refl s₉)

theorem execute_serves (actor batchId : Nat) (input : ExecuteInput) :
    Serves q (fun result t => Completed t.db.books batchId result) (execute actor batchId input) s := by
  refine Serves.seq assertGatesOpen_serves fun _ s₁ _ => ?_
  refine Serves.seq (Serves.ensure fun _ _ => trivial) fun _ s₂ _ => ?_
  cases input.executedAt with
  | none => exact Serves.fail
  | some executedAt =>
      refine Serves.bind (frozenRecord_serves batchId) fun view s₃ _ hview => ?_
      obtain ⟨batch, hbatch, rfl⟩ := hview
      have hread : Read s₃.db.books batchId (SettlementBatch.frozen batch) := ⟨batch, hbatch, rfl⟩
      have hid : batch.id = batchId := key_of_find hbatch
      refine Serves.seq (Serves.ensure fun _ _ => trivial) fun _ s₄ h₄ => ?_
      refine Serves.seq (Serves.ofExcept fun _ _ _ => trivial) fun currency s₅ h₅ => ?_
      refine Serves.seq (Serves.ensure fun _ _ => trivial) fun _ s₆ h₆ => ?_
      refine Serves.seq (Serves.ensure fun _ _ => trivial) fun _ s₇ h₇ => ?_
      have hlater := later_of_rely (((h₄.trans h₅).trans h₆).trans h₇)
      dsimp only
      split
      · refine Serves.bind Serves.read fun remittance s₈ h₈ hremittance => ?_
        cases remittance with
        | none => exact Serves.fail
        | some remittance =>
            have hstored : s₈.db.books.remittances.find batchId = some remittance :=
              hid ▸ hremittance.symm
            refine Serves.seq (assertRemittanceIdentity_serves _ _ _ _ _) fun _ s₉ h₉ => ?_
            obtain ⟨_, hstored', rfl⟩ := (later_of_rely h₉).remittances _ _ hstored
            exact completeChain_serves actor
              (hread.later (hlater.trans (later_of_rely (h₈.trans h₉)))) hstored'
      · exact executeReady_serves _ _ _ _ _ _ (hread.later hlater)

theorem closeZeroNetReady_serves {batchId : Nat} {frozen : FrozenBatchRecord} (actor : Nat)
    (previewHash : String) (hread : Read s.db.books batchId frozen) :
    Serves q (fun result t => Completed t.db.books batchId result)
      (closeZeroNetReady actor batchId frozen previewHash) s := by
  refine Serves.seq now_serves fun nowMs s₁ h₁ => ?_
  refine Serves.bind (bindApprovals_serves _ _ _ _) fun approvals s₂ h₂ hbound => ?_
  refine Serves.seq now_serves fun day s₃ h₃ => ?_
  refine Serves.seq (dayAggregateMinor_serves _ _ _ _ _) fun aggregate s₄ h₄ => ?_
  refine Serves.bind (assertLevel_serves _ _ _) fun seniors s₅ h₅ hlevel => ?_
  refine Serves.seq (assertNoDrift_serves _ _) fun _ s₆ h₆ => ?_
  have hchecked := later_of_rely (((h₃.trans h₄).trans h₅).trans h₆)
  have hread' := hread.later ((later_of_rely (h₁.trans h₂)).trans hchecked)
  have hgate := gatedAt_of_bound (g := ⟨actor, nowMs, aggregate, seniors⟩) hread'
    (hbound.later hchecked) hlevel
  refine Serves.bind (markSettledZeroNet_serves batchId hgate) fun closed s₇ h₇ hclosed => ?_
  obtain ⟨hstored, htype⟩ := hclosed
  split
  · exact Serves.fail
  · rename_i closedAt hat
    obtain ⟨batch, hbatch, rfl⟩ := hread'.later (later_of_rely h₇)
    obtain rfl := Option.some.inj (hstored.symm.trans hbatch)
    exact completeChainZeroNet_serves actor ⟨_, hstored, rfl, htype, hat⟩

theorem closeZeroNet_serves (actor batchId : Nat) (previewHash : String) :
    Serves q (fun result t => Completed t.db.books batchId result)
      (closeZeroNet actor batchId previewHash) s := by
  refine Serves.seq assertGatesOpen_serves fun _ s₁ _ => ?_
  refine Serves.bind (frozenRecord_serves batchId) fun view s₂ _ hview => ?_
  obtain ⟨batch, hbatch, rfl⟩ := hview
  refine Serves.seq (Serves.ofExcept fun _ _ _ => trivial) fun currency s₃ h₃ => ?_
  dsimp only
  split
  · split
    · rename_i closedAt htype hat
      obtain ⟨row, hrow, hsame⟩ := (later_of_rely h₃).batch hbatch
      obtain ⟨htype', hat'⟩ := hsame.closure (by rw [htype]; nofun)
      exact completeChainZeroNet_serves actor
        ⟨row, hrow, hsame.frozen.symm, htype'.trans htype, hat'.trans hat⟩
    · exact Serves.fail
  · refine Serves.seq (Serves.ensure fun _ _ => trivial) fun _ s₄ h₄ => ?_
    refine Serves.seq (Serves.ensure fun _ _ => trivial) fun _ s₅ h₅ => ?_
    have hread : Read s₂.db.books batchId (SettlementBatch.frozen batch) := ⟨batch, hbatch, rfl⟩
    exact closeZeroNetReady_serves actor previewHash
      (hread.later (later_of_rely ((h₃.trans h₄).trans h₅)))

/-! ### Replay -/

/-- A replay found the stored document and gave it back. -/
def ReplayReport.Faithful (report : ReplayReport) : Prop :=
  report.calculationReplayVerified = true ∧ report.statementIntegrityVerified = true ∧
    report.statementIdentical = true

theorem replay_serves (actor batchId : Nat) :
    Serves q (fun report _ => ReplayReport.Faithful report) (replay actor batchId) s := by
  refine Serves.bind (frozenRecord_serves batchId) fun view s₁ _ hview => ?_
  obtain ⟨batch, hbatch, rfl⟩ := hview
  have hid : batch.id = batchId := key_of_find hbatch
  subst hid
  refine Serves.bind Serves.read fun record s₂ h₂ hrecord => ?_
  cases record with
  | none => exact Serves.fail
  | some record =>
      have hstored : s₂.db.books.statements.find batch.id = some record := hrecord.symm
      refine Serves.bind (P := fun remittance _ =>
        regenerate (SettlementBatch.frozen batch) record remittance = .ok record.payload ∧
          statementIntegrityOk record = true) ?_ fun remittance s₃ _ hregenerates => ?_
      · refine Serves.query fun t hreach h₂t => ?_
        obtain ⟨row, hrow, hsame⟩ := (later_of_rely (h₂.trans h₂t)).batch hbatch
        obtain ⟨_, hstored', rfl⟩ := (later_of_rely h₂t).statements _ _ hstored
        have hregenerates := hreach.documents.regenerates hreach.custody hrow hstored'
        rw [hsame.frozen] at hregenerates
        exact hregenerates
      · obtain ⟨hregenerates, hintegrity⟩ := hregenerates
        refine Serves.bind (P := fun preview _ => preview.replayVerified = true) ?_
          fun preview s₄ _ hverified => ?_
        · refine Serves.ofExcept fun hreach preview hpreview => ?_
          have hlater := later_of_rely (h₂.trans ‹_›)
          obtain ⟨row, hrow, hsame⟩ := hlater.batch hbatch
          have hfrozen := (hreach.custody.batches row (mem_of_find hrow)).frozen
          obtain ⟨preview', hpreview', hverified, -⟩ :=
            @replayVerified_of_frozen _ (SettlementBatch.frozen row) hfrozen.calculation
              (toISOString record.issuedAt)
          rw [hsame.frozen] at hpreview'
          obtain rfl := Except.ok.inj (hpreview'.symm.trans hpreview)
          exact hverified
        · rw [hregenerates]
          refine Serves.bind (P := fun regenerated _ => regenerated = record.payload)
            (Serves.ofExcept fun _ _ h => (Except.ok.inj h).symm) ?_
          rintro _ s₅ - rfl
          refine Serves.seq now_serves fun ranAt s₆ _ => ?_
          refine Serves.seq ?_ fun _ _ _ => Serves.pure fun _ => ⟨hverified, hintegrity, ?_⟩
          · refine Serves.act rfl fun t r u h => ?_
            obtain ⟨rfl, replays, hcreate, -, rfl⟩ := insert_eq_ok.mp h
            exact Effect.replay rfl hcreate (Nat.lt_succ_self _)
          · obtain ⟨hhash, hcanonical⟩ := of_decide_eq_true hintegrity
            simp only [hintegrity, Bool.true_and, decide_eq_true_eq, statementHash, hcanonical]
            exact hhash

end Services

end Qift
