import Qift.Runs.Receivables

/-!
# Statements over runs

What every interleaving keeps of the statement of a closed batch.

* `Replays` — a replay gives back a stored statement, byte for byte.
* `Reachable.replays` — in a reachable state the replay of a batch that has its statement succeeds.
* **`Run.statements_replay`** — an execution that answered has stored the one statement of its batch, and every
  replay from then on gives it back.
-/

namespace Qift

open Relational Relational.Table Interleaving Settlement Financial

section Runs

variable [Runtime] {tr : List (Event World Site)} {cfg : Config World Site (Except Err Reply)}

/-- A replay that gives back a stored statement. -/
structure Replays (record : SettlementStatementRecord) (report : ReplayReport) : Prop where
  settlementId : report.settlementId = record.settlementId
  faithful : ReplayReport.Faithful report
  bytes : canonicalJson report.statement.toJson = record.canonicalJson
  hash : report.regeneratedStatementHash = record.statementHash ∧
    report.storedStatementHash = record.statementHash

theorem Reachable.replayAct {s : World} (h : Reachable s) (row : Nat → SettlementReplayRecord)
    (hrow : ∀ id, (row id).id = id) : ∃ r w, insert Model.settlementReplayRecord row s = .ok (r, w) := by
  refine exists_insert (fun x hx heq => ?_) fun _ _ => rfl
  have hlt : x.id < s.db.nextId := h.documents.replayIds x hx
  rw [heq, hrow] at hlt
  exact lt_irrefl _ hlt

/-- **A stored statement replays.** -/
theorem Reachable.replays {s : World} (h : Reachable s) {n : Nat} {record : SettlementStatementRecord}
    (hrecord : s.db.statements.find n = some record) (actor : Nat) :
    ∃ report t, (replay actor n).exec s = (.ok report, t) ∧ Replays record report := by
  have hstored : s.db.books.statements.find n = some record := hrecord
  have hkey : record.settlementId = n := key_of_find hstored
  obtain ⟨batch, _, _, _, _, _, hbatch, -⟩ := h.documents.issued record (mem_of_find hstored)
  rw [hkey] at hbatch
  have hid : batch.id = n := key_of_find hbatch
  obtain ⟨hregenerates, hintegrity⟩ := h.documents.regenerates h.custody hbatch hstored
  have hfrozen := (h.custody.batches batch (mem_of_find hbatch)).frozen
  obtain ⟨preview, hpreview, hverified, -⟩ := @replayVerified_of_frozen _
    (SettlementBatch.frozen batch) hfrozen.calculation (toISOString record.issuedAt)
  obtain ⟨hhash, hcanonical⟩ := of_decide_eq_true hintegrity
  have hsame : statementHash record.payload = record.statementHash := by
    unfold statementHash
    rw [hcanonical, hhash]
  -- the reads, the regeneration and the act of replay succeed one after the other
  have hview : (frozenRecord n).exec s = (.ok
      { status := batch.status, assembledBy := batch.assembledBy, closureType := batch.closureType,
        closedAt := batch.closedAt, frozen := SettlementBatch.frozen batch }, s) := by
    have hread : findUnique Model.settlementBatch n s = some batch := hbatch
    unfold frozenRecord loadBatch
    simp only [Svc.exec_bind, Svc.exec_query, hread, Svc.exec_pure]
  have hsettlement : (SettlementBatch.frozen batch).settlementId = n := hid
  have hread : findUnique Model.settlementStatementRecord n s = some record := hstored
  have hremittance : findUnique Model.settlementRemittance n s = s.db.books.remittances.find n := rfl
  obtain ⟨act, t, hact⟩ := h.replayAct (fun id =>
    { id := id
      settlementId := n
      settlementReference := (SettlementBatch.frozen batch).settlementReference
      replayEngineVersion := REPLAY_ENGINE_VERSION
      calculationReplayVerified := true
      statementIntegrityVerified := true
      statementIdentical := true
      ranBy := actor
      ranAt := s.db.now }) fun _ => rfl
  let report : ReplayReport :=
    { settlementId := n
      settlementReference := (SettlementBatch.frozen batch).settlementReference
      replayEngineVersion := REPLAY_ENGINE_VERSION
      calculationReplayVerified := true
      statementIntegrityVerified := true
      statementIdentical := true
      storedStatementHash := record.statementHash
      regeneratedStatementHash := record.statementHash
      statement := record.payload }
  refine ⟨report, t, ?_, ⟨hkey.symm, ⟨rfl, rfl, rfl⟩, hcanonical, rfl, rfl⟩⟩
  unfold replay
  simp only [Svc.exec_bind, hview, Svc.exec_query, hsettlement, hread, hremittance,
    Svc.exec_ofExcept, hpreview, hregenerates, now, hverified, hintegrity, hsame, Svc.exec_transaction,
    Bool.true_and, decide_true, hact, Svc.exec_pure, report]

/-- What every run keeps of the statements. -/
structure StatementsReplay (cfg : Config World Site (Except Err Reply)) : Prop where
  /-- An execution or a statement-only close that answered, at its first run or at a later one, has the statement
  of its batch stored. -/
  completed : ∀ result, .done (.ok (.executed result)) ∈ cfg.pool → ∃ record,
    result.statement = some record ∧ cfg.state.db.statements.find result.settlementId = some record
  /-- The replay of a batch that has its statement succeeds and gives it back. -/
  replays : ∀ n record, cfg.state.db.statements.find n = some record → ∀ actor, ∃ report t,
    (replay actor n).exec cfg.state = (.ok report, t) ∧ Replays record report
  /-- No other replay was ever answered. -/
  answered : ∀ report, .done (.ok (.replayed report)) ∈ cfg.pool → ReplayReport.Faithful report
  once : ∀ s ∈ cfg.state.db.statements.rows, ∀ s' ∈ cfg.state.db.statements.rows,
    s'.settlementId = s.settlementId → s' = s

/-- **Statements replay.**  In every state of every run an execution that answered has stored the statement of
its batch, which is one, stays as it was issued, and is what every replay gives back. -/
theorem Run.statements_replay (h : Run tr cfg) :
    StatementsReplay cfg ∧ ∀ e ∈ tr, ∀ n record, e.post.db.statements.find n = some record →
      cfg.state.db.statements.find n = some record := by
  constructor
  · constructor
    · intro result hresult
      obtain ⟨-, record, hrecord, hstored⟩ := h.answered hresult
      exact ⟨record, hrecord, hstored⟩
    · intro n record hrecord actor
      exact h.reachable.replays hrecord actor
    · intro report hreport
      exact h.answered hreport
    · intro s hs s' hs' hid
      exact row_unique _ hs' hs hid
  · intro e he n record hrecord
    obtain ⟨-, -, hlast⟩ := h.event he
    obtain ⟨_, hkept, rfl⟩ := (later_of_rely hlast).statements n record hrecord
    exact hkept

end Runs

/-- The hash of the calculation of the piloted batch, whose runtime does not hash. -/
def Pilot.hashOf (merchantGross netAmount : String) : String :=
  "\x7b\"currency\":\"SAR\",\"itemCount\":1,\"lines\":\x7b\"chargebacks\":0,\"manualAdjustments\":0," ++
    "\"marketplaceAdjustments\":0,\"merchantGross\":" ++ merchantGross ++ ",\"qiftFees\":0," ++
    "\"receivableRecovery\":0,\"refunds\":0,\"reserveHeld\":0,\"reserveReleased\":0,\"taxes\":0\x7d," ++
    "\"netAmount\":" ++ netAmount ++ "\x7d"

/-- The batch of a hundred riyals is previewed by one actor, approved by a second and executed by the first. -/
def Pilot.executed : List Call :=
  assembled ++ [.preview 2 6, .approve 3 6 (hashOf "100" "100") none,
    .execute 2 6
      { previewHash := hashOf "100" "100"
        bankTransferReference := "T-1"
        executedAt := some newYear }]

theorem Run.statements_replay_oneBatch :
    let run := Pilot.played (Pilot.inOrder (Pilot.executed ++ [.replay 4 6]))
    (run.2.state.db.statements.find 6).isSome = true ∧ run.2.state.db.replays.rows.length = 1 ∧
      @StatementsReplay plainRuntime run.2 := by
  have hreplayed : ((Pilot.played (Pilot.inOrder (Pilot.executed ++ [.replay 4 6]))).2.state.db.statements.find 6).isSome =
        true ∧
      (Pilot.played (Pilot.inOrder (Pilot.executed ++ [.replay 4 6]))).2.state.db.replays.rows.length = 1 := by
    decide +kernel
  exact ⟨hreplayed.1, hreplayed.2, (@Run.statements_replay plainRuntime _ _ (Pilot.run _)).1⟩

end Qift
