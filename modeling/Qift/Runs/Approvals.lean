import Qift.Runs.Statements

/-!
# Authorization over runs

What every interleaving keeps of the votes on a batch and of the closings they authorize.

* `Votes` — every vote is on the frozen calculation of one stored batch, by somebody else than its proposer.
* `Effect.gated` — a closing with a gate is authorized by it.
* **`Run.executions_authorized`** — an execution or a statement-only close that settles a batch has its act of
  preview and its votes on record before.
-/

namespace Qift

open Relational Relational.Table Interleaving Settlement Financial

section Steps

variable [Runtime] {l : Site} {b b' : Books}

/-- A vote on the frozen calculation of a batch, by somebody else than its proposer. -/
structure VoteOk (b : Books) (v : SettlementApproval) : Prop where
  batch : ∃ batch, b.batches.find v.settlementId = some batch ∧
    v.calculationHash = calculationHash batch.calculationSnapshot ∧
    batch.assembledBy ≠ some v.approvedBy

/-- Every vote is one. -/
def Votes (b : Books) : Prop := ∀ v ∈ b.approvals.rows, VoteOk b v

theorem votes_empty : Votes World.empty.db.books := by simp [Votes, Db.books, World.empty]

theorem VoteOk.later {v : SettlementApproval} (h : VoteOk b v) (hlater : Later b b') : VoteOk b' v := by
  obtain ⟨batch, hbatch, hhash, hproposer⟩ := h.batch
  obtain ⟨row, hrow, hsame⟩ := hlater.batches _ _ hbatch
  refine ⟨row, hrow, ?_, ?_⟩
  · rw [hhash, hsame.calculationSnapshot]
  · rw [hsame.assembledBy]
    exact hproposer

/-- **Every effect keeps the votes.** -/
theorem Votes.effect (h : Votes b) (heffect : Effect l b b') : Votes b' := by
  have hlater := heffect.later
  -- an effect other than a vote stores none
  have hold {v : SettlementApproval} (hv : v ∈ b.approvals.rows) : VoteOk b' v := (h v hv).later hlater
  cases heffect with
  | @approve _ batch row approvals n hstored hbatch hhash hproposer hcreate hn =>
      intro v hv
      rcases (mem_create hcreate).mp hv with hmem | rfl
      · exact hold hmem
      · exact ⟨batch, hbatch.symm ▸ hstored, hhash, hproposer⟩
  | _ => exact fun v hv => hold hv

theorem Effect.gated (heffect : Effect l b b') {n : Nat} {g : Gate}
    (hlbl : l = .markSettled n (some g) ∨ l = .markSettledZeroNet n (some g)) {r : SettlementBatch}
    (hr : b'.batches.find n = some r) (hsettled : r.status = .settled)
    (hfresh : ∀ x, b.batches.find n = some x → x.status ≠ .settled) :
    ∃ batch, b.batches.find n = some batch ∧ Authorized b batch g := by
  have hidle (h : b'.batches = b.batches) : False := by
    rw [h] at hr
    exact hfresh r hr hsettled
  cases heffect with
  | markSettled hclosable hgated hcreate hposts hn =>
      obtain ⟨rfl, rfl⟩ : _ = n ∧ _ = some g := by simpa using hlbl
      exact ⟨_, hclosable.stored, hgated g rfl⟩
  | markSettledZeroNet hclosable hgated hzero hposts hn =>
      obtain ⟨rfl, rfl⟩ : _ = n ∧ _ = some g := by simpa using hlbl
      exact ⟨_, hclosable.stored, hgated g rfl⟩
  | assemble | statusWrite | supersede | link => rcases hlbl with h | h <;> cases h
  | _ => exact (hidle rfl).elim

end Steps

section Runs

variable [Runtime] {tr : List (Event World Site)} {cfg : Config World Site (Except Err Reply)}

theorem Reachable.votes {s : World} (h : Reachable s) : Votes s.db.books :=
  Rely.stable (P := fun w : World => Votes w.db.books) (fun _ _ _ hact hs => hs.effect hact) h votes_empty

/-- A closing of a batch through a gate, an execution or a statement-only close. -/
def ClosesThrough (e : Event World Site) (n : Nat) (g : Gate) : Prop :=
  Closes e n ∧ (e.lbl = .markSettled n (some g) ∨ e.lbl = .markSettledZeroNet n (some g))

/-- What a batch has on record when an execution settles it. -/
structure AuthorizedAt (w : World) (n : Nat) (g : Gate) : Prop where
  /-- An act of preview and the votes the band of the day requires, all on the frozen calculation, none lapsed
  and none by the executor. -/
  recorded : ∃ batch, w.db.batches.find n = some batch ∧ Authorized w.db.books batch g
  /-- No vote on the batch is by its proposer, the actor who assembled it. -/
  proposer : ∀ batch, w.db.batches.find n = some batch → ∀ v ∈ w.db.approvals.rows,
    v.settlementId = n → batch.assembledBy ≠ some v.approvedBy
  /-- No vote on the batch is on another calculation. -/
  bound : ∀ batch, w.db.batches.find n = some batch → ∀ v ∈ w.db.approvals.rows,
    v.settlementId = n → v.calculationHash = calculationHash batch.calculationSnapshot

theorem Votes.of_batch {w : World} (h : Votes w.db.books) {n : Nat} {batch : SettlementBatch}
    (hbatch : w.db.batches.find n = some batch) {v : SettlementApproval} (hv : v ∈ w.db.approvals.rows)
    (hn : v.settlementId = n) : v.calculationHash = calculationHash batch.calculationSnapshot ∧
      batch.assembledBy ≠ some v.approvedBy := by
  obtain ⟨row, hrow, hhash, hproposer⟩ := (h v hv).batch
  have hstored : w.db.books.batches.find v.settlementId = some batch := hn.symm ▸ hbatch
  obtain rfl := Option.some.inj (hstored.symm.trans hrow)
  exact ⟨hhash, hproposer⟩

/-- **Executions are authorized.**  A batch is settled by a closing, and one that went through a gate finds the
act of preview and the votes it needs on record. -/
theorem Run.executions_authorized (h : Run tr cfg) :
    (∀ e ∈ tr, ∀ n, Closes e n → ∃ gate, e.lbl = .markSettled n gate ∨ e.lbl = .markSettledZeroNet n gate) ∧
      ∀ e ∈ tr, ∀ n g, ClosesThrough e n g → AuthorizedAt e.pre n g := by
  constructor
  · intro e he n hcloses
    obtain ⟨batch, closureType, rfl, hby⟩ := h.closes he hcloses
    cases closureType with
    | remitted =>
        obtain ⟨⟨gate, hlbl⟩, -⟩ := hby.remitted rfl
        exact ⟨gate, Or.inl hlbl⟩
    | zero_net_no_transfer =>
        obtain ⟨gate, hlbl⟩ := hby.zeroNet rfl
        exact ⟨gate, Or.inr hlbl⟩
  · rintro e he n g ⟨hcloses, hlbl⟩
    obtain ⟨hpre, hact, -⟩ := h.event he
    obtain ⟨r, hr, hsettled⟩ := hcloses.settled
    have hvotes := hpre.votes
    constructor
    · exact Effect.gated hact hlbl hr hsettled hcloses.fresh
    · intro batch hbatch v hv hn
      exact (hvotes.of_batch hbatch hv hn).2
    · intro batch hbatch v hv hn
      exact (hvotes.of_batch hbatch hv hn).1

end Runs

/-! ### A proposer who votes -/

def closedThrough (n : Nat) (e : Event World Site) : Option Gate :=
  if (e.post.db.batches.find n).any (fun r => r.status = .settled) ∧
      (e.pre.db.batches.find n).all (fun r => r.status ≠ .settled) then
    match e.lbl with
    | .markSettled m gate | .markSettledZeroNet m gate => if m = n then gate else none
    | _ => none
  else none

theorem closesThrough_of_closed {n : Nat} {e : Event World Site} {g : Gate}
    (h : closedThrough n e = some g) : ClosesThrough e n g := by
  unfold closedThrough at h
  split at h
  · rename_i hstatus
    obtain ⟨hpost, hpre⟩ := hstatus
    have hcloses : Closes e n := by
      constructor
      · simpa [Option.any_eq_true] using hpost
      · intro r hr
        rw [hr] at hpre
        simpa using hpre
    split at h
    · rename_i m gate hlbl
      split at h
      · rename_i hm
        exact ⟨hcloses, Or.inl (by rw [hlbl, hm, h])⟩
      · cases h
    · rename_i m gate hlbl
      split at h
      · rename_i hm
        exact ⟨hcloses, Or.inr (by rw [hlbl, hm, h])⟩
      · cases h
    · cases h
  · cases h

/-- The closing of a schedule, if its run has one. -/
theorem exists_closing {tr : List (Event World Site)} {n : Nat} {P : Event World Site → Bool}
    (h : (tr.any fun e => (closedThrough n e).isSome && P e) = true) :
    ∃ e ∈ tr, P e = true ∧ ∃ g, ClosesThrough e n g := by
  obtain ⟨e, he, hboth⟩ := List.any_eq_true.mp h
  obtain ⟨hsome, hP⟩ := Bool.and_eq_true_iff.mp hboth
  obtain ⟨g, hg⟩ := Option.isSome_iff_exists.mp hsome
  exact ⟨e, he, hP, g, closesThrough_of_closed hg⟩

theorem Run.executions_authorized_oneBatch :
    ∃ e ∈ (Pilot.played (Pilot.inOrder Pilot.executed)).1, ∃ g, ClosesThrough e 6 g ∧
      @AuthorizedAt plainRuntime e.pre 6 g := by
  have hclosed : ((Pilot.played (Pilot.inOrder Pilot.executed)).1.any fun e =>
      (closedThrough 6 e).isSome && true) = true := by decide +kernel
  obtain ⟨e, he, -, g, hg⟩ := exists_closing hclosed
  have hrun := Pilot.run (Pilot.inOrder Pilot.executed)
  exact ⟨e, he, g, hg, (@Run.executions_authorized plainRuntime _ _ hrun).2 e he 6 g hg⟩

/-- The batch is previewed and approved by one actor. -/
def Pilot.selfPreviewed : List Call :=
  assembled ++ [.preview 3 6, .approve 3 6 (hashOf "100" "100") none,
    .execute 2 6
      { previewHash := hashOf "100" "100"
        bankTransferReference := "T-1"
        executedAt := some newYear }]

/-- **The actor of the preview may vote**: the one preview and the one vote of a batch that is executed are by
one actor. -/
theorem Run.previewer_votes :
    ∃ tr cfg, @Run plainRuntime tr cfg ∧ ∃ e ∈ tr, (∃ g, ClosesThrough e 6 g) ∧
      (e.pre.db.previews.rows.map fun p => (p.settlementId, p.previewedBy)) = [(6, 3)] ∧
      (e.pre.db.approvals.rows.map fun v => (v.settlementId, v.approvedBy)) = [(6, 3)] := by
  have hclosed : ((Pilot.played (Pilot.inOrder Pilot.selfPreviewed)).1.any fun e =>
      (closedThrough 6 e).isSome &&
        (decide ((e.pre.db.previews.rows.map fun p => (p.settlementId, p.previewedBy)) = [(6, 3)]) &&
          decide ((e.pre.db.approvals.rows.map fun v => (v.settlementId, v.approvedBy)) = [(6, 3)]))) =
      true := by decide +kernel
  obtain ⟨e, he, hP, hg⟩ := exists_closing hclosed
  obtain ⟨hpreviews, hvotes⟩ := Bool.and_eq_true_iff.mp hP
  exact ⟨_, _, Pilot.run _, e, he, hg, of_decide_eq_true hpreviews, of_decide_eq_true hvotes⟩

end Qift
