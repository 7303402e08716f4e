import Qift.Lib.Frame
import Qift.Settlement.Execution
import Qift.System

/-!
# The archive

Credit notes, their versions and the guaranteed audit lines, and how the actions of the platform move them.

* `Logged` — audit lines are appended and none is delivered twice; `Quiet` — nothing else of the archive moves.
* `Filing` lists what an action may do to the archive: leave it, issue a note with its first version, attach a
  statement to a note, store the version of an attached note.
-/

namespace Qift

open Relational Relational.Table Interleaving Settlement Financial

/-! ### Audit lines -/

/-- Audit lines stay, and none is delivered twice. -/
structure Logged (w w' : World) : Prop where
  keep : ∀ k ∈ w.auditLog, k ∈ w'.auditLog
  once : w.auditLog.Nodup → w'.auditLog.Nodup

theorem Logged.refl (w : World) : Logged w w where
  keep _ := id
  once h := h

theorem Logged.of_eq {w w' : World} (h : w'.auditLog = w.auditLog) : Logged w w' where
  keep _ hk := h.symm ▸ hk
  once hnodup := h.symm ▸ hnodup

theorem Logged.trans {w w' w'' : World} (h : Logged w w') (h' : Logged w' w'') : Logged w w'' where
  keep k hk := h'.keep k (h.keep k hk)
  once hnodup := h'.once (h.once hnodup)

/-- A guaranteed line is delivered, once. -/
theorem recordGuaranteed_logged {k : AuditKey} {w w' : World} {u : Unit}
    (h : recordGuaranteed k w = .ok (u, w')) : Logged w w' ∧ k ∈ w'.auditLog := by
  rw [recordGuaranteed, Tx.modify_eq_ok] at h
  subst h
  by_cases hk : k ∈ w.auditLog
  · rw [if_pos hk]
    exact ⟨Logged.refl w, hk⟩
  · rw [if_neg hk]
    refine ⟨⟨fun x hx => List.mem_append_left _ hx, fun hnodup => ?_⟩, by simp⟩
    simpa [List.nodup_append, hnodup] using fun x hx (heq : x = k) => hk (heq ▸ hx)

/-! ### Actions that leave the credit notes alone -/

/-- Audit lines apart, the archive is left alone. -/
structure Quiet (w w' : World) : Prop where
  log : Logged w w'
  notes : w'.db.creditNotes = w.db.creditNotes
  versions : w'.db.creditNoteVersions = w.db.creditNoteVersions

instance : Std.Refl Quiet := ⟨fun w => ⟨Logged.refl w, rfl, rfl⟩⟩

instance : IsTrans World Quiet :=
  ⟨fun _ _ _ h h' => ⟨h.log.trans h'.log, h'.notes.trans h.notes, h'.versions.trans h.versions⟩⟩

/-- A delegate of another table than those of the archive. -/
class Model.Apart {ρ κ : Type} {key : ρ → κ} (m : Model key) : Prop where
  notes : ∀ t db, (m.store t db).creditNotes = db.creditNotes
  versions : ∀ t db, (m.store t db).creditNoteVersions = db.creditNoteVersions

instance : Model.merchantInvoice.Apart := ⟨fun _ _ => rfl, fun _ _ => rfl⟩
instance : Model.corporateInvoice.Apart := ⟨fun _ _ => rfl, fun _ _ => rfl⟩
instance : Model.paymentReceipt.Apart := ⟨fun _ _ => rfl, fun _ _ => rfl⟩
instance : Model.settlementRefund.Apart := ⟨fun _ _ => rfl, fun _ _ => rfl⟩
instance : Model.refundRequest.Apart := ⟨fun _ _ => rfl, fun _ _ => rfl⟩
instance : Model.numberSequence.Apart := ⟨fun _ _ => rfl, fun _ _ => rfl⟩
instance : Model.settlementItem.Apart := ⟨fun _ _ => rfl, fun _ _ => rfl⟩
instance : Model.settlementBatch.Apart := ⟨fun _ _ => rfl, fun _ _ => rfl⟩
instance : Model.settlementReceivable.Apart := ⟨fun _ _ => rfl, fun _ _ => rfl⟩
instance : Model.settlementRemittance.Apart := ⟨fun _ _ => rfl, fun _ _ => rfl⟩
instance : Model.settlementExecutionPreview.Apart := ⟨fun _ _ => rfl, fun _ _ => rfl⟩
instance : Model.settlementApproval.Apart := ⟨fun _ _ => rfl, fun _ _ => rfl⟩
instance : Model.settlementStatementRecord.Apart := ⟨fun _ _ => rfl, fun _ _ => rfl⟩
instance : Model.settlementReplayRecord.Apart := ⟨fun _ _ => rfl, fun _ _ => rfl⟩
instance : Model.treasuryInternalTransfer.Apart := ⟨fun _ _ => rfl, fun _ _ => rfl⟩

section Primitives

variable {ρ κ : Type} {key : ρ → κ} [DecidableEq κ] {m : Model key} [m.Apart]

@[grind ←] theorem insert_quiet {row : Nat → ρ} : Tx.Keeps Quiet (insert m row) := by
  intro w r w' h
  obtain ⟨-, t, -, -, rfl⟩ := insert_eq_ok.mp h
  exact ⟨Logged.of_eq rfl, Model.Apart.notes t w.db, Model.Apart.versions t w.db⟩

omit [DecidableEq κ] in
@[grind ←] theorem updateMany_quiet {cond : ρ → Bool} {data : ρ → ρ} (hdata : ∀ r, key (data r) = key r) :
    Tx.Keeps Quiet (updateMany m cond data hdata) := by
  intro w n w' h
  obtain ⟨-, rfl⟩ := updateMany_eq_ok.mp h
  exact ⟨Logged.of_eq rfl, Model.Apart.notes _ w.db, Model.Apart.versions _ w.db⟩

@[grind ←] theorem updateUnique_quiet {cond : ρ → Bool} {data : ρ → ρ}
    (hdata : ∀ r, key (data r) = key r) : Tx.Keeps Quiet (updateUnique m cond data hdata) := by
  intro w n w' h
  exact updateMany_quiet hdata w n w' (updateUnique_eq_ok.mp h).2

end Primitives

@[grind ←] theorem recordGuaranteed_quiet (k : AuditKey) : Tx.Keeps Quiet (recordGuaranteed k) := by
  intro w u w' h
  have hdb := recordGuaranteed_eq_ok h
  exact ⟨(recordGuaranteed_logged h).1, congrArg Db.creditNotes hdb, congrArg Db.creditNoteVersions hdb⟩

@[grind ←] theorem txNow_quiet : Tx.Keeps Quiet txNow := Tx.Keeps.read _

@[grind ←] theorem record_quiet (input : RecordLedgerInput) : Tx.Keeps Quiet (record input) := by
  intro w r w' h
  obtain ⟨ledger, n, rfl, -⟩ := record_eq_ok h
  exact ⟨Logged.of_eq rfl, rfl, rfl⟩

/-! ### Credit notes -/

section Notes

variable [Runtime]

/-- The stored bytes and the stored hash of a note are those of its columns. -/
structure Written (note : CreditNote) : Prop where
  canonical : note.canonicalJson = creditNoteCanonical (factsOf note note.statementSettlementId)
  hash : note.documentHash = creditNoteHash (factsOf note note.statementSettlementId)

/-- A note as it is issued. -/
structure Original (note : CreditNote) : Prop where
  written : Written note
  first : note.currentVersion = 1
  detached : note.statementSettlementId = none

omit [Runtime] in
/-- The version row of the head of a note. -/
structure HeadOf (note : CreditNote) (v : CreditNoteVersion) : Prop where
  id : v.creditNoteId = note.id
  number : v.versionNumber = note.currentVersion
  canonical : v.canonicalJson = note.canonicalJson
  hash : v.documentHash = note.documentHash
  settlement : v.statementSettlementId = note.statementSettlementId

/-- A note with a statement attached: its next version. -/
def attachRow (settlementId : Nat) (n : CreditNote) : CreditNote :=
  { n with
    statementSettlementId := some settlementId
    canonicalJson := creditNoteCanonical (factsOf n (some settlementId))
    documentHash := creditNoteHash (factsOf n (some settlementId))
    currentVersion := n.currentVersion + 1 }

@[simp] theorem attachRow_refundId (settlementId : Nat) (n : CreditNote) :
    (attachRow settlementId n).refundId = n.refundId := rfl

@[simp] theorem attachRow_id (settlementId : Nat) (n : CreditNote) : (attachRow settlementId n).id = n.id := rfl

@[simp] theorem attachRow_settlement (settlementId : Nat) (n : CreditNote) :
    (attachRow settlementId n).statementSettlementId = some settlementId := rfl

@[simp] theorem attachRow_version (settlementId : Nat) (n : CreditNote) :
    (attachRow settlementId n).currentVersion = n.currentVersion + 1 := rfl

theorem attachRow_written (settlementId : Nat) (n : CreditNote) : Written (attachRow settlementId n) where
  canonical := rfl
  hash := rfl

theorem find_attachRow {t : Table CreditNote.refundId} {k settlementId : Nat} {note : CreditNote}
    (h : t.find k = some note) :
    (t.updateMany (fun n => n.refundId = note.refundId) (attachRow settlementId) fun _ => rfl).find k =
      some (attachRow settlementId note) := by
  have hfind := @find_updateMany _ _ _ (fun n => decide (n.refundId = note.refundId))
    (attachRow settlementId) (fun _ => rfl) _ t k
  rw [hfind, h]
  simp

/-- What one action may do to the archive. -/
inductive Filing : Site → World → World → Prop
  | quiet {l : Site} {w w' : World} (h : Quiet w w') : Filing l w w'
  /-- A note and its first version. -/
  | issue {l : Site} {w w' : World} {note : CreditNote} {v : CreditNoteVersion} (hlog : Logged w w')
      (horiginal : Original note) (hhead : HeadOf note v)
      (hfresh : ∀ x ∈ w.db.creditNotes.rows, x.id ≠ note.id)
      (hnotes : w.db.creditNotes.create note = some w'.db.creditNotes)
      (hversions : w.db.creditNoteVersions.create v = some w'.db.creditNoteVersions) : Filing l w w'
  /-- A statement is attached to a note that has none. -/
  | attach {w w' : World} {note : CreditNote} {settlementId : Nat} (hlog : Logged w w')
      (hstored : w.db.creditNotes.find note.refundId = some note)
      (hdetached : note.statementSettlementId = none)
      (hnotes : w'.db.creditNotes = w.db.creditNotes.updateMany (fun n => n.refundId = note.refundId)
        (attachRow settlementId) fun _ => rfl)
      (hversions : w'.db.creditNoteVersions = w.db.creditNoteVersions) : Filing .attachStatement w w'
  /-- The version of a note with its statement. -/
  | version {w w' : World} {note : CreditNote} {v : CreditNoteVersion} (hlog : Logged w w')
      (hstored : note ∈ w.db.creditNotes.rows) (hattached : note.statementSettlementId ≠ none)
      (hhead : HeadOf note v) (hnotes : w'.db.creditNotes = w.db.creditNotes)
      (hversions : w.db.creditNoteVersions.create v = some w'.db.creditNoteVersions) :
      Filing .creditNoteVersion w w'

theorem Filing.logged {l : Site} {w w' : World} (h : Filing l w w') : Logged w w' := by
  cases h with
  | quiet h => exact h.log
  | issue hlog => exact hlog
  | attach hlog => exact hlog
  | version hlog => exact hlog

theorem Filing.after {l : Site} {w w' w'' : World} (h : Quiet w w') (h' : Filing l w' w'') :
    Filing l w w'' := by
  have hlog := h.log.trans h'.logged
  cases h' with
  | quiet h' => exact .quiet (trans_of Quiet h h')
  | issue _ horiginal hhead hfresh hnotes hversions =>
      rw [h.notes] at hfresh hnotes
      rw [h.versions] at hversions
      exact .issue hlog horiginal hhead hfresh hnotes hversions
  | attach _ hstored hdetached hnotes hversions =>
      rw [h.notes] at hstored hnotes
      exact .attach hlog hstored hdetached hnotes (hversions.trans h.versions)
  | version _ hstored hattached hhead hnotes hversions =>
      rw [h.notes] at hstored hnotes
      rw [h.versions] at hversions
      exact .version hlog hstored hattached hhead hnotes hversions

/-- So is one after it. -/
theorem Filing.before {l : Site} {w w' w'' : World} (h : Filing l w w') (h' : Quiet w' w'') :
    Filing l w w'' := by
  have hlog := h.logged.trans h'.log
  cases h with
  | quiet h => exact .quiet (trans_of Quiet h h')
  | issue _ horiginal hhead hfresh hnotes hversions =>
      rw [← h'.notes] at hnotes
      rw [← h'.versions] at hversions
      exact .issue hlog horiginal hhead hfresh hnotes hversions
  | attach _ hstored hdetached hnotes hversions =>
      exact .attach hlog hstored hdetached (h'.notes.trans hnotes) (h'.versions.trans hversions)
  | version _ hstored hattached hhead hnotes hversions =>
      rw [← h'.versions] at hversions
      exact .version hlog hstored hattached hhead (h'.notes.trans hnotes) hversions

theorem Filing.stored {l : Site} {w w' : World} (h : Filing l w w') {k : Nat} {note : CreditNote}
    (hnote : w.db.creditNotes.find k = some note) :
    w'.db.creditNotes.find k = some note ∨
      note.statementSettlementId = none ∧
        ∃ settlementId, w'.db.creditNotes.find k = some (attachRow settlementId note) := by
  cases h with
  | quiet h => exact Or.inl (h.notes ▸ hnote)
  | issue _ _ _ _ hnotes _ => exact Or.inl (find_create_of_find hnotes hnote)
  | version _ _ _ _ hnotes _ => exact Or.inl (hnotes ▸ hnote)
  | @attach _ _ moved settlementId _ hstored hdetached hnotes _ =>
      have hfind : w'.db.creditNotes.find k = (w.db.creditNotes.find k).map fun n =>
          if decide (n.refundId = moved.refundId) = true then attachRow settlementId n else n :=
        hnotes ▸ find_updateMany w.db.creditNotes k
      rw [hfind, hnote, Option.map_some]
      by_cases hmoved : note.refundId = moved.refundId
      · have hk : moved.refundId = k := hmoved.symm.trans (key_of_find hnote)
        obtain rfl : moved = note := Option.some.inj (hstored.symm.trans (hk ▸ hnote))
        exact Or.inr ⟨hdetached, settlementId, by simp⟩
      · exact Or.inl (by simp [hmoved])

theorem attached_of_rely {w w' : World} (h : Rely Filing w w') {k : Nat} {note : CreditNote}
    (hattached : note.statementSettlementId ≠ none) (hnote : w.db.creditNotes.find k = some note) :
    w'.db.creditNotes.find k = some note := by
  refine h.stable (P := fun u => u.db.creditNotes.find k = some note) (fun l u v hact hu => ?_) hnote
  rcases hact.stored hu with hstands | ⟨hdetached, -⟩
  · exact hstands
  · exact absurd hdetached hattached

theorem stored_of_rely {w w' : World} (h : Rely Filing w w') {k : Nat} {note : CreditNote}
    (hnote : w.db.creditNotes.find k = some note) :
    w'.db.creditNotes.find k = some note ∨ note.statementSettlementId = none ∧
      ∃ settlementId, w'.db.creditNotes.find k = some (attachRow settlementId note) := by
  refine h.stable (P := fun u => u.db.creditNotes.find k = some note ∨ note.statementSettlementId = none ∧
    ∃ settlementId, u.db.creditNotes.find k = some (attachRow settlementId note))
    (fun l u v hact hu => ?_) (Or.inl hnote)
  rcases hu with hsame | ⟨hdetached, settlementId, hmoved⟩
  · exact hact.stored hsame
  · rcases hact.stored hmoved with hstands | ⟨hagain, -⟩
    · exact Or.inr ⟨hdetached, settlementId, hstands⟩
    · cases hagain

theorem detached_of_rely {w w' : World} (h : Rely Filing w w') {k : Nat} {note : CreditNote}
    (hnote : w.db.creditNotes.find k = some note) :
    ∃ note', w'.db.creditNotes.find k = some note' ∧ (note'.statementSettlementId = none → note' = note) := by
  rcases stored_of_rely h hnote with hsame | ⟨-, settlementId, hmoved⟩
  · exact ⟨note, hsame, fun _ => rfl⟩
  · exact ⟨attachRow settlementId note, hmoved, nofun⟩

theorem Filing.version_stays {l : Site} {w w' : World} (h : Filing l w w') {v : CreditNoteVersion}
    (hv : v ∈ w.db.creditNoteVersions.rows) : v ∈ w'.db.creditNoteVersions.rows := by
  cases h with
  | quiet h => exact h.versions ▸ hv
  | issue _ _ _ _ _ hversions => exact (mem_create hversions).mpr (Or.inl hv)
  | attach _ _ _ _ hversions => exact hversions ▸ hv
  | version _ _ _ _ _ hversions => exact (mem_create hversions).mpr (Or.inl hv)

theorem version_stays_of_rely {w w' : World} (h : Rely Filing w w') {v : CreditNoteVersion}
    (hv : v ∈ w.db.creditNoteVersions.rows) : v ∈ w'.db.creditNoteVersions.rows :=
  h.stable (P := fun u => v ∈ u.db.creditNoteVersions.rows) (fun _ _ _ hact hu => hact.version_stays hu) hv

theorem Filing.new_version {l : Site} {w w' : World} (h : Filing l w w') {v : CreditNoteVersion}
    (hv : v ∈ w'.db.creditNoteVersions.rows) :
    v ∈ w.db.creditNoteVersions.rows ∨
      ∃ note ∈ w'.db.creditNotes.rows, HeadOf note v ∧
        (Original note ∧ (∀ x ∈ w.db.creditNotes.rows, x.id ≠ note.id) ∨
          l = .creditNoteVersion ∧ note.statementSettlementId ≠ none ∧
            w'.db.creditNotes = w.db.creditNotes) := by
  cases h with
  | quiet h => exact Or.inl (h.versions ▸ hv)
  | attach _ _ _ _ hversions => exact Or.inl (hversions ▸ hv)
  | @issue _ _ _ note _ _ horiginal hhead hfresh hnotes hversions =>
      rcases (mem_create hversions).mp hv with hold | rfl
      · exact Or.inl hold
      · exact Or.inr ⟨note, (mem_create hnotes).mpr (Or.inr rfl), hhead, Or.inl ⟨horiginal, hfresh⟩⟩
  | @version _ _ note _ _ hstored hattached hhead hnotes hversions =>
      rcases (mem_create hversions).mp hv with hold | rfl
      · exact Or.inl hold
      · exact Or.inr ⟨note, hnotes ▸ hstored, hhead, Or.inr ⟨rfl, hattached, hnotes⟩⟩

theorem Filing.new_note {l : Site} {w w' : World} (h : Filing l w w') {note : CreditNote}
    (hnote : note ∈ w'.db.creditNotes.rows) :
    note ∈ w.db.creditNotes.rows ∨
      Original note ∧ (∀ x ∈ w.db.creditNotes.rows, x.id ≠ note.id) ∧
        (∃ v ∈ w'.db.creditNoteVersions.rows, HeadOf note v) ∨
      ∃ old ∈ w.db.creditNotes.rows, old.statementSettlementId = none ∧
        ∃ settlementId, note = attachRow settlementId old := by
  cases h with
  | quiet h => exact Or.inl (h.notes ▸ hnote)
  | version _ _ _ _ hnotes _ => exact Or.inl (hnotes ▸ hnote)
  | @issue _ _ _ _ v _ horiginal hhead hfresh hnotes hversions =>
      rcases (mem_create hnotes).mp hnote with hold | rfl
      · exact Or.inl hold
      · exact Or.inr (Or.inl ⟨horiginal, hfresh, v, (mem_create hversions).mpr (Or.inr rfl), hhead⟩)
  | @attach _ _ moved settlementId _ hstored hdetached hnotes _ =>
      rw [hnotes] at hnote
      obtain ⟨old, hold, rfl⟩ := mem_updateMany.mp hnote
      by_cases hmoved : old.refundId = moved.refundId
      · obtain rfl : old = moved := row_unique _ hold (mem_of_find hstored) hmoved
        exact Or.inr (Or.inr ⟨old, hold, hdetached, settlementId, by simp⟩)
      · exact Or.inl (by simpa [hmoved] using hold)

/-! ### The invariant of the archive -/

/-- What every state of the archive satisfies. -/
structure Archived (w : World) : Prop where
  log : w.auditLog.Nodup
  written : ∀ n ∈ w.db.creditNotes.rows, Written n
  ids : ∀ n ∈ w.db.creditNotes.rows, ∀ n' ∈ w.db.creditNotes.rows, n.id = n'.id → n = n'
  stage : ∀ n ∈ w.db.creditNotes.rows, n.statementSettlementId = none ∧ n.currentVersion = 1 ∨
    n.statementSettlementId ≠ none ∧ n.currentVersion = 2
  owned : ∀ v ∈ w.db.creditNoteVersions.rows, ∃ n ∈ w.db.creditNotes.rows, n.id = v.creditNoteId ∧
    1 ≤ v.versionNumber ∧ v.versionNumber ≤ n.currentVersion ∧
      (v.versionNumber = n.currentVersion → HeadOf n v)
  first : ∀ n ∈ w.db.creditNotes.rows, ∃ v ∈ w.db.creditNoteVersions.rows, v.creditNoteId = n.id ∧
    v.versionNumber = 1

theorem archived_empty : Archived World.empty where
  log := List.nodup_nil
  written := by simp [World.empty]
  ids := by simp [World.empty]
  stage := by simp [World.empty]
  owned := by simp [World.empty]
  first := by simp [World.empty]

theorem Filing.lives {l : Site} {w w' : World} (h : Filing l w w') {n : CreditNote}
    (hn : n ∈ w.db.creditNotes.rows) : ∃ n' ∈ w'.db.creditNotes.rows, n'.id = n.id ∧
      (n' = n ∨ n'.currentVersion = n.currentVersion + 1) := by
  rcases h.stored (find_of_mem hn) with hstands | ⟨-, settlementId, hmoved⟩
  · exact ⟨n, mem_of_find hstands, rfl, Or.inl rfl⟩
  · exact ⟨_, mem_of_find hmoved, rfl, Or.inr rfl⟩

/-- Identifiers stay unique. -/
theorem Filing.ids {l : Site} {w w' : World} (h : Filing l w w')
    (hids : ∀ n ∈ w.db.creditNotes.rows, ∀ n' ∈ w.db.creditNotes.rows, n.id = n'.id → n = n') :
    ∀ n ∈ w'.db.creditNotes.rows, ∀ n' ∈ w'.db.creditNotes.rows, n.id = n'.id → n = n' := by
  cases h with
  | quiet h => exact h.notes ▸ hids
  | version _ _ _ _ hnotes _ => exact hnotes ▸ hids
  | issue _ _ _ hfresh hnotes _ =>
      intro n hn n' hn' heq
      rcases (mem_create hnotes).mp hn with hold | rfl
      · rcases (mem_create hnotes).mp hn' with hold' | rfl
        · exact hids n hold n' hold' heq
        · exact absurd heq (hfresh n hold)
      · rcases (mem_create hnotes).mp hn' with hold' | rfl
        · exact absurd heq.symm (hfresh n' hold')
        · rfl
  | @attach _ _ moved settlementId _ _ _ hnotes _ =>
      intro n hn n' hn' heq
      rw [hnotes] at hn hn'
      obtain ⟨old, hold, rfl⟩ := mem_updateMany.mp hn
      obtain ⟨old', hold', rfl⟩ := mem_updateMany.mp hn'
      have hid : ∀ x : CreditNote, (if decide (x.refundId = moved.refundId) = true
          then attachRow settlementId x else x).id = x.id := fun x => by split <;> rfl
      rw [hid, hid] at heq
      rw [hids old hold old' hold' heq]

/-- **Every action keeps the archive.** -/
theorem Archived.step {l : Site} {w w' : World} (h : Archived w) (hact : Filing l w w') : Archived w' := by
  have hstage : ∀ n ∈ w'.db.creditNotes.rows, n.statementSettlementId = none ∧ n.currentVersion = 1 ∨
      n.statementSettlementId ≠ none ∧ n.currentVersion = 2 := by
    intro n hn
    rcases hact.new_note hn with hold | ⟨horiginal, -⟩ | ⟨old, hold, hdetached, settlementId, rfl⟩
    · exact h.stage n hold
    · exact Or.inl ⟨horiginal.detached, horiginal.first⟩
    · rcases h.stage old hold with ⟨-, hone⟩ | ⟨hattached, -⟩
      · exact Or.inr ⟨by simp, by simp [hone]⟩
      · exact absurd hdetached hattached
  refine ⟨hact.logged.once h.log, fun n hn => ?_, hact.ids h.ids, hstage, fun v hv => ?_, fun n hn => ?_⟩
  · rcases hact.new_note hn with hold | ⟨horiginal, -⟩ | ⟨old, -, -, settlementId, rfl⟩
    · exact h.written n hold
    · exact horiginal.written
    · exact attachRow_written settlementId old
  · rcases hact.new_version hv with hold | ⟨note, hnote, hhead, -⟩
    · obtain ⟨n, hn, hid, hlow, hhigh, hcur⟩ := h.owned v hold
      obtain ⟨n', hn', hid', hsame | hnext⟩ := hact.lives hn
      · obtain rfl := hsame
        exact ⟨n', hn', hid, hlow, hhigh, hcur⟩
      · exact ⟨n', hn', hid'.trans hid, hlow, by omega, fun heq => by omega⟩
    · have hcurrent : 1 ≤ note.currentVersion := by
        rcases hstage note hnote with ⟨-, hone⟩ | ⟨-, htwo⟩ <;> omega
      exact ⟨note, hnote, hhead.id.symm, by rw [hhead.number]; exact hcurrent, hhead.number.le, fun _ => hhead⟩
  · rcases hact.new_note hn with hold | ⟨horiginal, -, v, hv, hhead⟩ | ⟨old, hold, -, settlementId, rfl⟩
    · obtain ⟨v, hv, hid, hone⟩ := h.first n hold
      exact ⟨v, hact.version_stays hv, hid, hone⟩
    · exact ⟨v, hv, hhead.id, hhead.number.trans horiginal.first⟩
    · obtain ⟨v, hv, hid, hone⟩ := h.first old hold
      exact ⟨v, hact.version_stays hv, hid, hone⟩

end Notes

end Qift
