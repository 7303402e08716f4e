import Qift.Custody

/-!
# Documents

The statements of closed batches and their replay.

* `Issued` — a stored statement was generated from the frozen record of its batch and from facts that are
  still stored.
* **`Documents.effect`** — every effect keeps that, and identifiers of documents stay fresh.
* **`Documents.regenerates`** — whatever happened since, regenerating from the stored facts gives back the
  stored document.
-/

namespace Qift

open Relational Relational.Table Interleaving Settlement Financial

section Documents

variable [Runtime]

/-- The facts of a statement are still stored. -/
def Issued (b : Books) (record : SettlementStatementRecord) : Prop :=
  ∃ batch statement issuedAt remittance closure id,
    b.batches.find record.settlementId = some batch ∧ StatementBasis b batch remittance closure ∧
      generateSettlementStatement (SettlementBatch.frozen batch) (toISOString issuedAt) remittance
        closure = .ok statement ∧
      record = statementRow (SettlementBatch.frozen batch) statement issuedAt id

structure Documents (b : Books) : Prop where
  statementIds : ∀ s ∈ b.statements.rows, s.id < b.nextId
  replayIds : ∀ r ∈ b.replays.rows, r.id < b.nextId
  issued : ∀ s ∈ b.statements.rows, Issued b s

theorem documents_empty : Documents World.empty.db.books where
  statementIds := by simp [Db.books, World.empty]
  replayIds := by simp [Db.books, World.empty]
  issued := by simp [Db.books, World.empty]

omit [Runtime] in
theorem StatementBasis.later {b b' : Books} {batch row : SettlementBatch}
    {remittance : Option RemittanceEvidence} {closure : Option ZeroNetClosureFacts}
    (h : StatementBasis b batch remittance closure) (hlater : Later b b')
    (hsame : SettlementBatch.Same batch row) : StatementBasis b' row remittance closure := by
  rcases h with ⟨r, hr, hrem, hclosure⟩ | ⟨t, htype, hat, hrem, hclosure⟩
  · obtain ⟨r', hr', rfl⟩ := hlater.remittances _ _ hr
    exact Or.inl ⟨r, hsame.id ▸ hr', hrem, hclosure⟩
  · obtain ⟨htype', hat'⟩ := hsame.closure (by rw [htype]; nofun)
    exact Or.inr ⟨t, htype'.trans htype, hat'.trans hat, hrem, hclosure⟩

theorem Issued.later {b b' : Books} {record : SettlementStatementRecord} (h : Issued b record)
    (hlater : Later b b') : Issued b' record := by
  obtain ⟨batch, statement, issuedAt, remittance, closure, id, hbatch, hbasis, hgenerated, hrecord⟩ := h
  obtain ⟨row, hrow, hsame⟩ := hlater.batches _ _ hbatch
  exact ⟨row, statement, issuedAt, remittance, closure, id, hrow, hbasis.later hlater hsame,
    hsame.frozen ▸ hgenerated, hsame.frozen ▸ hrecord⟩

/-- An effect on neither documents. -/
theorem Documents.of_same {b b' : Books} (h : Documents b) (hlater : Later b b')
    (hstatements : b'.statements = b.statements) (hreplays : b'.replays = b.replays) :
    Documents b' where
  statementIds := fun s hs => lt_of_lt_of_le (h.statementIds s (hstatements ▸ hs)) hlater.nextId
  replayIds := fun r hr => lt_of_lt_of_le (h.replayIds r (hreplays ▸ hr)) hlater.nextId
  issued := fun s hs => (h.issued s (hstatements ▸ hs)).later hlater

/-- **Every effect keeps the documents.** -/
theorem Documents.effect {l : Site} {b b' : Books} (h : Documents b) (heffect : Effect l b b') :
    Documents b' := by
  have hlater := heffect.later
  cases heffect with
  | @statement _ batch statement issuedAt remittance closure statements n hstored hbasis hgenerated
      hcreate hn =>
      refine
        { statementIds := fun s hs => ?_
          replayIds := fun r hr => (h.replayIds r hr).trans hn
          issued := fun s hs => ?_ }
      · rcases (mem_create hcreate).mp hs with hold | rfl
        · exact (h.statementIds s hold).trans hn
        · exact hn
      · rcases (mem_create hcreate).mp hs with hold | rfl
        · exact (h.issued s hold).later hlater
        · exact ⟨batch, statement, issuedAt, remittance, closure, b.nextId, hstored, hbasis,
            hgenerated, rfl⟩
  | replay hid hcreate hn =>
      refine
        { statementIds := fun s hs => (h.statementIds s hs).trans hn
          replayIds := fun r hr => ?_
          issued := fun s hs => (h.issued s hs).later hlater }
      rcases (mem_create hcreate).mp hr with hold | rfl
      · exact (h.replayIds r hold).trans hn
      · exact hid ▸ hn
  | _ => exact h.of_same hlater rfl rfl

/-! ### Regeneration -/

/-- A stored statement is authentic. -/
theorem statementIntegrityOk_statementRow (frozen : FrozenBatchRecord)
    (statement : SettlementStatement) (issuedAt : Time) (id : Nat) :
    statementIntegrityOk (statementRow frozen statement issuedAt id) = true := by
  simp [statementIntegrityOk, statementRow]

omit [Runtime] in
theorem Custody.no_remittance {b : Books} (h : Custody b) {n : Nat} {batch : SettlementBatch}
    (hbatch : b.batches.find n = some batch)
    (htype : batch.closureType = some .zero_net_no_transfer) : b.remittances.find n = none := by
  have hremitted := (h.batches batch (mem_of_find hbatch)).remitted
  rw [htype, key_of_find hbatch] at hremitted
  cases hfind : b.remittances.find n with
  | none => rfl
  | some r => cases hremitted.mpr ⟨r, hfind⟩

/-- **A stored statement is regenerated from the stored facts.** -/
theorem Documents.regenerates {b : Books} (h : Documents b) (hcustody : Custody b) {n : Nat}
    {batch : SettlementBatch} (hbatch : b.batches.find n = some batch)
    {record : SettlementStatementRecord} (hrecord : b.statements.find n = some record) :
    regenerate (SettlementBatch.frozen batch) record (b.remittances.find n) = .ok record.payload ∧
      statementIntegrityOk record = true := by
  obtain ⟨row, statement, issuedAt, remittance, closure, id, hrow, hbasis, hgenerated, heq⟩ :=
    h.issued record (mem_of_find hrecord)
  rw [key_of_find hrecord] at hrow
  obtain rfl := Option.some.inj (hbatch.symm.trans hrow)
  have hid : batch.id = n := key_of_find hbatch
  subst hid
  refine ⟨?_, heq ▸ statementIntegrityOk_statementRow _ _ _ _⟩
  rcases hbasis with ⟨r, hr, rfl, rfl⟩ | ⟨t, htype, hat, rfl, rfl⟩
  · cases hgenerated
    rw [hr, heq]
    rfl
  · cases hgenerated
    rw [hcustody.no_remittance hbatch htype, heq]
    rfl

end Documents

end Qift
