import Qift.Guarantee.Archive
import Qift.Runs.Executions

/-!
# Credit notes over runs

What every interleaving keeps of the credit notes and of their versions.

* `Run.files` — a run is a path of filings; `Run.archived` — its states keep the archive.
* **`Run.replays_creditNote`** — a stored credit note is always rebuilt from its columns.
* `VersionsComplete` — the versions of a note are its history.  **`Run.versions_complete`** — they are whenever
  each write of the head of the note was followed by the write of its version, and only then.
-/

namespace Qift

open Relational Relational.Table Interleaving Settlement Financial

section Runs

variable [Runtime] {tr : List (Event World Site)} {cfg : Config World Site (Except Err Reply)}

/-- **Every run is a path of filings.** -/
theorem Run.files (h : Run tr cfg) : Path Filing World.empty tr cfg.state :=
  (Exec.path (Q := fun _ _ => True) (fun _ _ _ _ _ => trivial)
    (fun c _ _ => (program_files c).meets) h).1

/-- What a path of filings keeps. -/
theorem archived_of_rely {w w' : World} (h : Rely Filing w w') (hw : Archived w) : Archived w' :=
  h.stable (fun _ _ _ hact hu => hu.step hact) hw

theorem Run.archived (h : Run tr cfg) : Archived cfg.state := archived_of_rely h.files.rely archived_empty

theorem Run.archived_event (h : Run tr cfg) {e : Event World Site} (he : e ∈ tr) :
    Archived e.pre ∧ Filing e.lbl e.pre e.post ∧ Archived e.post ∧ Rely Filing e.post cfg.state := by
  obtain ⟨_, _, -, hbefore, hact, hafter⟩ := h.files.split he
  have hpre := archived_of_rely hbefore.rely archived_empty
  exact ⟨hpre, hact, hpre.step hact, hafter.rely⟩

/-! ### Replay -/

/-- What a replay of a stored note answers. -/
structure ReplaysNote (w : World) (note : CreditNote) (report : CreditNoteReplay) : Prop where
  answered : (replayCreditNote note.refundId).exec w = (.ok report, w)
  identical : report.identical = true ∧ report.canonicalIdentical = true ∧ report.hashIdentical = true
  hash : report.storedHash = note.documentHash ∧ report.regeneratedHash = note.documentHash
  canonical : creditNoteCanonical (factsOf note note.statementSettlementId) = note.canonicalJson

theorem Written.replays {note : CreditNote} (h : Written note) {w : World}
    (hnote : note ∈ w.db.creditNotes.rows) : ∃ report, ReplaysNote w note report := by
  have hread : findUnique Model.creditNote note.refundId w = some note := find_of_mem hnote
  have hanswered : (replayCreditNote note.refundId).exec w = (.ok
      { creditNoteReference := note.referenceNumber
        identical := true
        canonicalIdentical := true
        hashIdentical := true
        storedHash := note.documentHash
        regeneratedHash := note.documentHash }, w) := by
    unfold replayCreditNote
    simp [Svc.exec_bind, hread, ← h.canonical, ← h.hash]
  exact ⟨_, hanswered, ⟨rfl, rfl, rfl⟩, ⟨rfl, rfl⟩, h.canonical.symm⟩

/-- **A credit note replays.**  A note that was ever stored is stored in every later state, as it was issued or
with its statement, and the document rebuilt from its columns has its bytes and its hash. -/
theorem Run.replays_creditNote (h : Run tr cfg) {e : Event World Site} (he : e ∈ tr) {refundId : Nat}
    {issued : CreditNote} (hissued : e.post.db.creditNotes.find refundId = some issued) :
    ∃ note report, cfg.state.db.creditNotes.find refundId = some note ∧
      (note = issued ∨ ∃ settlementId, note = attachRow settlementId issued) ∧
      ReplaysNote cfg.state note report := by
  obtain ⟨-, -, -, hlater⟩ := h.archived_event he
  obtain ⟨note, hnote, hsame⟩ : ∃ note, cfg.state.db.creditNotes.find refundId = some note ∧
      (note = issued ∨ ∃ settlementId, note = attachRow settlementId issued) := by
    rcases stored_of_rely hlater hissued with hsame | ⟨-, settlementId, hmoved⟩
    · exact ⟨issued, hsame, Or.inl rfl⟩
    · exact ⟨_, hmoved, Or.inr ⟨settlementId, rfl⟩⟩
  have hstored := mem_of_find hnote
  obtain ⟨report, hreport⟩ := (h.archived.written note hstored).replays hstored
  exact ⟨note, report, hnote, hsame, hreport⟩

/-! ### The history of a note -/

def versionNumbers (note : CreditNote) (w : World) : List Nat :=
  (w.db.creditNoteVersions.rows.filter fun v => v.creditNoteId = note.id).map CreditNoteVersion.versionNumber

/-- The states a run went through that held a note, with what the note was in them. -/
def Held (tr : List (Event World Site)) (note held : CreditNote) : Prop :=
  held.id = note.id ∧ ∃ e ∈ tr, held ∈ e.post.db.creditNotes.rows

/-- The versions of a note are its history: one for each number up to the current one, the newest that of the
head and each the bytes the note had whenever it stood at that number. -/
structure VersionsComplete (tr : List (Event World Site)) (w : World) (note : CreditNote) : Prop where
  numbers : (versionNumbers note w).Perm (List.range' 1 note.currentVersion)
  head : ∃ v ∈ w.db.creditNoteVersions.rows, HeadOf note v
  history : ∀ v ∈ w.db.creditNoteVersions.rows, v.creditNoteId = note.id →
    (∃ held, Held tr note held ∧ HeadOf held v) ∧
      ∀ held, Held tr note held → held.currentVersion = v.versionNumber → HeadOf held v

/-- The event wrote the head of a note: its statement is attached. -/
def WritesHead (note : CreditNote) (e : Event World Site) : Prop :=
  (∃ n, e.pre.db.creditNotes.find note.refundId = some n ∧ n.statementSettlementId = none) ∧
    ∃ n, e.post.db.creditNotes.find note.refundId = some n ∧ n.statementSettlementId ≠ none

def WritesVersion (note : CreditNote) (e : Event World Site) : Prop :=
  e.lbl = .creditNoteVersion ∧ ∃ v ∈ e.post.db.creditNoteVersions.rows, v.creditNoteId = note.id ∧
    v ∉ e.pre.db.creditNoteVersions.rows

/-- No call stopped between the two writes: each write of the head was followed by the write of the version. -/
def CarriedOn (tr : List (Event World Site)) (note : CreditNote) : Prop :=
  ∀ before e after, tr = before ++ e :: after → WritesHead note e → ∃ e' ∈ after, WritesVersion note e'

omit [Runtime] in
theorem mem_versionNumbers {note : CreditNote} {w : World} {k : Nat} :
    k ∈ versionNumbers note w ↔
      ∃ v ∈ w.db.creditNoteVersions.rows, v.creditNoteId = note.id ∧ v.versionNumber = k := by
  simp [versionNumbers, and_assoc]

omit [Runtime] in
/-- No number is stored twice. -/
theorem versionNumbers_nodup (note : CreditNote) (w : World) : (versionNumbers note w).Nodup := by
  have hrows : w.db.creditNoteVersions.rows.Nodup := List.Nodup.of_map _ w.db.creditNoteVersions.nodup
  refine (hrows.filter _).map_on fun v hv v' hv' heq => ?_
  obtain ⟨hmem, hid⟩ := List.mem_filter.mp hv
  obtain ⟨hmem', hid'⟩ := List.mem_filter.mp hv'
  refine row_unique _ hmem hmem' (Prod.ext ?_ heq)
  exact (of_decide_eq_true hid).trans (of_decide_eq_true hid').symm

theorem Archived.numbers {w : World} (h : Archived w) {note : CreditNote} {v : CreditNoteVersion}
    (hnote : note ∈ w.db.creditNotes.rows) (hv : v ∈ w.db.creditNoteVersions.rows) (hhead : HeadOf note v) :
    (versionNumbers note w).Perm (List.range' 1 note.currentVersion) := by
  refine (List.perm_ext_iff_of_nodup (versionNumbers_nodup note w) List.nodup_range').mpr fun k => ?_
  rw [mem_versionNumbers, List.mem_range'_1]
  constructor
  · rintro ⟨x, hx, hid, rfl⟩
    obtain ⟨n, hn, hown, hlow, hhigh, -⟩ := h.owned x hx
    obtain rfl := h.ids n hn note hnote (hown.trans hid)
    omega
  · rintro ⟨hlow, hhigh⟩
    obtain ⟨first, hfirst, hid, hone⟩ := h.first note hnote
    -- a note is at its first version or at its second
    rcases h.stage note hnote with ⟨-, hcurrent⟩ | ⟨-, hcurrent⟩
    · exact ⟨first, hfirst, hid, by omega⟩
    · by_cases hk : k = 1
      · exact ⟨first, hfirst, hid, by omega⟩
      · exact ⟨v, hv, hhead.id, by rw [hhead.number]; omega⟩

theorem Run.version_history (h : Run tr cfg) {note : CreditNote} {v : CreditNoteVersion}
    (hv : v ∈ cfg.state.db.creditNoteVersions.rows) (hid : v.creditNoteId = note.id) :
    (∃ held, Held tr note held ∧ HeadOf held v) ∧
      ∀ held, Held tr note held → held.currentVersion = v.versionNumber → HeadOf held v := by
  constructor
  · obtain ⟨e, he, hact, hpre, hpost⟩ := h.files.flip (P := fun u => v ∈ u.db.creditNoteVersions.rows)
      (by simp [World.empty]) hv
    rcases hact.new_version hpost with hold | ⟨held, hheld, hhead, -⟩
    · exact absurd hold hpre
    · exact ⟨held, ⟨hhead.id.symm.trans hid, e, he, hheld⟩, hhead⟩
  · rintro held ⟨hheldId, e, he, hheld⟩ hnumber
    obtain ⟨-, -, hpost, hlater⟩ := h.archived_event he
    have hsame : v.creditNoteId = held.id := hid.trans hheldId.symm
    rcases hpost.stage held hheld with ⟨-, hone⟩ | ⟨hattached, -⟩
    · -- at its first version the note had the row it was issued with
      obtain ⟨first, hfirst, hfirstId, hfirstOne⟩ := hpost.first held hheld
      have hrow : first = v := by
        refine row_unique cfg.state.db.creditNoteVersions (version_stays_of_rely hlater hfirst) hv ?_
        exact Prod.ext (hfirstId.trans hsame.symm) (hfirstOne.trans (hone.symm.trans hnumber))
      obtain ⟨n, hn, hown, -, -, hcurrent⟩ := hpost.owned first hfirst
      obtain rfl := hpost.ids n hn held hheld (hown.trans hfirstId)
      exact hrow ▸ hcurrent (hfirstOne.trans hone.symm)
    · -- with its statement it is the note that is stored now
      have hstands := mem_of_find (attached_of_rely hlater hattached (find_of_mem hheld))
      obtain ⟨n, hn, hown, -, -, hcurrent⟩ := h.archived.owned v hv
      obtain rfl := h.archived.ids n hn held hstands (hown.trans hsame)
      exact hcurrent hnumber.symm

theorem Filing.version_write {l : Site} {w w' : World} (h : Filing l w w')
    {note : CreditNote} {v : CreditNoteVersion} (hnote : ∃ n ∈ w.db.creditNotes.rows, n.id = note.id)
    (hold : v ∉ w.db.creditNoteVersions.rows) (hv : v ∈ w'.db.creditNoteVersions.rows)
    (hid : v.creditNoteId = note.id) : l = .creditNoteVersion ∧ w'.db.creditNotes = w.db.creditNotes ∧
      ∃ n ∈ w'.db.creditNotes.rows, n.statementSettlementId ≠ none ∧ HeadOf n v := by
  rcases h.new_version hv with hmem | ⟨n, hn, hhead, ⟨-, hfresh⟩ | ⟨hl, hattached, hsame⟩⟩
  · exact absurd hmem hold
  · obtain ⟨stored, hstored, hstoredId⟩ := hnote
    exact absurd (hstoredId.trans (hid.symm.trans hhead.id)) (hfresh stored hstored)
  · exact ⟨hl, hsame, n, hn, hattached, hhead⟩

section Moved

variable {before after : List (Event World Site)} {e : Event World Site}

/-- What follows an event of a run. -/
theorem Run.onward (h : Run (before ++ e :: after) cfg) : Path Filing e.post after cfg.state := by
  obtain ⟨u, -, htail⟩ := h.files.split_append
  exact htail.cons_inv.2.2

theorem Run.head_stands (h : Run (before ++ e :: after) cfg) {note : CreditNote} (hwrites : WritesHead note e)
    (hnote : note ∈ cfg.state.db.creditNotes.rows) {w : World} (hw : Rely Filing e.post w) :
    w.db.creditNotes.find note.refundId = some note := by
  obtain ⟨-, n, hn, hattached⟩ := hwrites
  have hnow := attached_of_rely h.onward.rely hattached hn
  obtain rfl : n = note := Option.some.inj (hnow.symm.trans (find_of_mem hnote))
  exact attached_of_rely hw hattached hn

end Moved

theorem Run.head_of_carriedOn (h : Run tr cfg) {note : CreditNote}
    (hnote : note ∈ cfg.state.db.creditNotes.rows) (hcarried : CarriedOn tr note) :
    ∃ v ∈ cfg.state.db.creditNoteVersions.rows, HeadOf note v := by
  have harchived := h.archived
  rcases harchived.stage note hnote with ⟨-, hone⟩ | ⟨hattached, -⟩
  · obtain ⟨v, hv, hid, hfirst⟩ := harchived.first note hnote
    obtain ⟨n, hn, hown, -, -, hcurrent⟩ := harchived.owned v hv
    obtain rfl := harchived.ids n hn note hnote (hown.trans hid)
    exact ⟨v, hv, hcurrent (hfirst.trans hone.symm)⟩
  · -- the event that wrote the head, and after it the one that wrote the version
    obtain ⟨e, he, hact, hpre, hpost⟩ := h.files.flip
      (P := fun u => ∃ n, u.db.creditNotes.find note.refundId = some n ∧ n.statementSettlementId ≠ none)
      (by simp [World.empty]) ⟨note, find_of_mem hnote, hattached⟩
    obtain ⟨before, after, rfl⟩ := List.append_of_mem he
    have hwrites : WritesHead note e := by
      obtain ⟨n, hn, hnAttached⟩ := hpost
      have hkey : n.refundId = note.refundId := key_of_find hn
      rcases hact.new_note (mem_of_find hn) with hold | ⟨horiginal, -⟩ | ⟨old, hold, hdetached, _, rfl⟩
      · exact absurd ⟨n, hkey ▸ find_of_mem hold, hnAttached⟩ hpre
      · exact absurd horiginal.detached hnAttached
      · exact ⟨⟨old, hkey ▸ find_of_mem hold, hdetached⟩, _, hn, hnAttached⟩
    obtain ⟨e', he', -, v, hv, hid, hnew⟩ := hcarried before e after rfl hwrites
    obtain ⟨_, _, -, hbetween, hact', hlater⟩ := h.onward.split he'
    have hstored : note ∈ e'.pre.db.creditNotes.rows :=
      mem_of_find (h.head_stands hwrites hnote hbetween.rely)
    obtain ⟨-, -, n, hn, hnAttached, hhead⟩ := hact'.version_write ⟨note, hstored, rfl⟩ hnew hv hid
    have hstands := mem_of_find (attached_of_rely hlater.rely hnAttached (find_of_mem hn))
    obtain rfl := harchived.ids n hstands note hnote (hhead.id.symm.trans hid)
    exact ⟨v, version_stays_of_rely hlater.rely hv, hhead⟩

/-- **The versions of a note are its history exactly when no call stopped between the two writes.** -/
theorem Run.versions_complete (h : Run tr cfg) {note : CreditNote}
    (hnote : note ∈ cfg.state.db.creditNotes.rows) :
    VersionsComplete tr cfg.state note ↔ CarriedOn tr note := by
  constructor
  · intro hcomplete before e after htr hwrites
    subst htr
    obtain ⟨v, hv, hhead⟩ := hcomplete.head
    have he : e ∈ before ++ e :: after := by simp
    obtain ⟨hpre, hact, -, hlater⟩ := h.archived_event he
    obtain ⟨⟨n, hn, hdetached⟩, n', hn', hattached⟩ := id hwrites
    obtain ⟨settlementId, rfl⟩ : ∃ settlementId, note = attachRow settlementId n := by
      have hstands := h.head_stands hwrites hnote (Rely.refl _)
      obtain rfl : n' = note := Option.some.inj (hn'.symm.trans hstands)
      rcases stored_of_rely (Rely.single hact) hn with hsame | ⟨-, settlementId, hmoved⟩
      · obtain rfl := Option.some.inj (hsame.symm.trans hstands)
        exact absurd hdetached hattached
      · exact ⟨settlementId, Option.some.inj (hstands.symm.trans hmoved)⟩
    have hid : n.id = (attachRow settlementId n).id := rfl
    -- the version of the head was not there yet
    have hnew : v ∉ e.post.db.creditNoteVersions.rows := by
      intro hmem
      by_cases hold : v ∈ e.pre.db.creditNoteVersions.rows
      · obtain ⟨owner, howner, hown, -, hhigh, -⟩ := hpre.owned v hold
        obtain rfl := hpre.ids owner howner n (mem_of_find hn) (hown.trans hhead.id)
        have hnumber : v.versionNumber = owner.currentVersion + 1 := hhead.number
        omega
      · obtain ⟨-, hsame, -⟩ := hact.version_write ⟨n, mem_of_find hn, hid⟩ hold hmem hhead.id
        rw [hsame, hn] at hn'
        exact hattached (Option.some.inj hn' ▸ hdetached)
    obtain ⟨e', he', hact', hbefore, hafter⟩ :=
      h.onward.flip (P := fun u => v ∈ u.db.creditNoteVersions.rows) hnew hv
    obtain ⟨_, _, -, hbetween, -, -⟩ := h.onward.split he'
    have hstored := mem_of_find (h.head_stands hwrites hnote hbetween.rely)
    obtain ⟨hlbl, -, -⟩ := hact'.version_write ⟨_, hstored, rfl⟩ hbefore hafter hhead.id
    exact ⟨e', he', hlbl, v, hafter, hhead.id, hbefore⟩
  · intro hcarried
    obtain ⟨v, hv, hhead⟩ := h.head_of_carriedOn hnote hcarried
    exact ⟨h.archived.numbers hnote hv hhead, ⟨v, hv, hhead⟩, fun x hx hid => h.version_history hx hid⟩

end Runs

/-- The statement-only close of the piloted batch that recovers a refund, in a chain that is let act so often. -/
def Pilot.chained (steps : Nat) : List (Choice Call) :=
  inOrder (recovering ++ [.markSettledZeroNet 22]) ++ .start (.closeZeroNet 2 22 "") :: List.replicate steps (.run 0)

theorem Run.replays_creditNote_attached :
    ∃ note report, (Pilot.played (Pilot.chained 14)).2.state.db.creditNotes.find 10 = some note ∧
      note.statementSettlementId = some 22 ∧
      @ReplaysNote plainRuntime (Pilot.played (Pilot.chained 14)).2.state note report := by
  have hseen : ((Pilot.played (Pilot.chained 14)).1.any fun e =>
      (e.post.db.creditNotes.find 10).isSome) = true ∧
      (((Pilot.played (Pilot.chained 14)).2.state.db.creditNotes.find 10).map
        CreditNote.statementSettlementId) = some (some 22) := by decide +kernel
  obtain ⟨hissued, hattached⟩ := hseen
  obtain ⟨e, he, hsome⟩ := List.any_eq_true.mp hissued
  obtain ⟨issued, hfind⟩ := Option.isSome_iff_exists.mp hsome
  obtain ⟨note, report, hnote, -, hreplays⟩ :=
    @Run.replays_creditNote plainRuntime _ _ (Pilot.run (Pilot.chained 14)) e he 10 issued hfind
  rw [hnote, Option.map_some] at hattached
  exact ⟨note, report, hnote, Option.some.inj hattached, hreplays⟩

theorem Run.versions_complete_chained :
    let run := Pilot.played (Pilot.chained 14)
    (run.2.state.db.creditNotes.rows.map CreditNote.currentVersion) = [2] ∧
      ∀ note ∈ run.2.state.db.creditNotes.rows,
        VersionsComplete run.1 run.2.state note ↔ CarriedOn run.1 note :=
  ⟨by decide +kernel, fun note hnote => @Run.versions_complete plainRuntime _ _ (Pilot.run _) note hnote⟩

/-- A chain that stops between the two writes, and a second run of it that completes. -/
def Pilot.rechained : List (Choice Call) := chained 6 ++ toEnd (.closeZeroNet 2 22 "")

/-- **The version of the head is lost**: the second run finds the statement attached and passes the note by. -/
theorem Run.version_lost :
    ∃ tr cfg, @Run plainRuntime tr cfg ∧ ⟨"settlement.zero_net_statement", 22⟩ ∈ cfg.state.auditLog ∧
      ∃ note ∈ cfg.state.db.creditNotes.rows, ¬ VersionsComplete tr cfg.state note := by
  refine ⟨_, _, Pilot.run Pilot.rechained, ?_⟩
  obtain ⟨haudited, hnotes, hversions⟩ :
      ⟨"settlement.zero_net_statement", 22⟩ ∈ (Pilot.played Pilot.rechained).2.state.auditLog ∧
      ((Pilot.played Pilot.rechained).2.state.db.creditNotes.rows.map fun n => (n.id, n.currentVersion)) =
        [(11, 2)] ∧
      ((Pilot.played Pilot.rechained).2.state.db.creditNoteVersions.rows.map fun v =>
        (v.creditNoteId, v.versionNumber)) = [(11, 1)] := by decide +kernel
  refine ⟨haudited, ?_⟩
  obtain ⟨note, hnote, hrow⟩ := List.mem_map.mp (hnotes ▸ List.mem_singleton.mpr rfl :
    (11, 2) ∈ (Pilot.played Pilot.rechained).2.state.db.creditNotes.rows.map fun n => (n.id, n.currentVersion))
  refine ⟨note, hnote, fun hcomplete => ?_⟩
  obtain ⟨v, hv, hhead⟩ := hcomplete.head
  have hpair := List.mem_map_of_mem (f := fun v : CreditNoteVersion => (v.creditNoteId, v.versionNumber)) hv
  rw [hversions, List.mem_singleton, hhead.id, hhead.number] at hpair
  cases hrow.symm.trans hpair

end Qift
