import Qift.Derivation
import Qift.Runs.CreditNotes

/-!
# Audit lines over runs

What a recorded receipt or refund leaves in the audit log, when calls stop at any point and are run again.

* `Spares` — the audit lines of receipts and credit notes are delivered by their own calls only; the derivation of
  coverage spares them.
* `receiptTx_found`, `refundTx_found`, `feeRefundTx_found` — a transaction answers with the movement stored under
  its evidence, and moves nothing, or stores it for the first time.
* **`Run.audits_complete`** — a call that succeeds leaves its audit lines, each once, exactly when a movement that was
  already stored under its evidence had them.
-/

namespace Qift

open Relational Relational.Table Interleaving Settlement Financial

/-! ### Lines of other calls -/

/-- The lines only their own call delivers. -/
def ownActions : List String := ["finance.receipt.recorded", "finance.credit_note.issued"]

/-- No such line is delivered. -/
def Spares (w w' : World) : Prop := ∀ k ∈ w'.auditLog, k.action ∈ ownActions → k ∈ w.auditLog

instance : Std.Refl Spares := ⟨fun _ _ hk _ => hk⟩

instance : IsTrans World Spares := ⟨fun _ _ _ h h' k hk hown => h k (h' k hk hown) hown⟩

section Primitives

variable {ρ κ : Type} {key : ρ → κ} [DecidableEq κ] {m : Model key}

@[grind ←] theorem insert_spares {row : Nat → ρ} : Tx.Keeps Spares (insert m row) := by
  intro w r w' h
  obtain ⟨-, t, -, -, rfl⟩ := insert_eq_ok.mp h
  exact fun _ hk _ => hk

omit [DecidableEq κ] in
@[grind ←] theorem updateMany_spares {cond : ρ → Bool} {data : ρ → ρ} (hdata : ∀ r, key (data r) = key r) :
    Tx.Keeps Spares (updateMany m cond data hdata) := by
  intro w n w' h
  obtain ⟨-, rfl⟩ := updateMany_eq_ok.mp h
  exact fun _ hk _ => hk

end Primitives

@[grind ←] theorem record_spares (input : RecordLedgerInput) : Tx.Keeps Spares (record input) := by
  intro w r w' h
  obtain ⟨ledger, n, rfl, -⟩ := record_eq_ok h
  exact fun _ hk _ => hk

/-- A line of another action. -/
theorem audit_spares {k : AuditKey} (hk : k.action ∉ ownActions) : Svc.Keeps Spares (audit k) := by
  refine Svc.Keeps.transaction fun w u w' h k' hk' hown => ?_
  rw [recordGuaranteed, Tx.modify_eq_ok] at h
  subst h
  split at hk'
  · exact hk'
  · rcases List.mem_append.mp hk' with hold | hnew
    · exact hold
    · rw [List.mem_singleton.mp hnew] at hown
      exact absurd hown hk

@[grind ←] theorem paidAudit_spares (invoiceType : InvoiceType) (invoiceId : Nat) :
    Svc.Keeps Spares (audit (paidAuditKey invoiceType invoiceId)) := by
  refine audit_spares ?_
  cases invoiceType <;> simp [paidAuditKey, ownActions]

/-! ### The derivation of coverage -/

section Coverage

@[grind ←] theorem createItemTx_spares (invoice : InvoiceFacts) (storeId : Nat) :
    Tx.Keeps Spares (createItemTx invoice storeId) := by
  unfold createItemTx txNow
  grind

@[grind ←] theorem flipPaid_spares (invoiceType : InvoiceType) (invoiceId : Nat) (paidAt : Time) :
    Tx.Keeps Spares (flipPaid invoiceType invoiceId paidAt) := by
  unfold flipPaid
  grind

@[grind ←] theorem writeBalanceStatus_spares (invoiceId : Nat) (guard : CorporateInvoice → Bool)
    (balanceStatus : BalanceStatus) : Svc.Keeps Spares (writeBalanceStatus invoiceId guard balanceStatus) := by
  unfold writeBalanceStatus
  grind

theorem derivation_spares : DerivationFrame Spares where
  item := createItemTx_spares
  revenue _ _ := record_spares _
  flip := flipPaid_spares
  balance := writeBalanceStatus_spares
  paid := paidAudit_spares
  closed _ := audit_spares (by simp [ownActions])

theorem deriveAndApplyCoverage_spares (invoiceType : InvoiceType) (invoiceId : Nat) :
    Svc.Keeps Spares (deriveAndApplyCoverage invoiceType invoiceId) := derivation_spares.derive invoiceType invoiceId

end Coverage

/-! ### The movement under an evidence reference -/

section Found

variable {w t : World}

theorem invoiceFacts_id {invoiceType : InvoiceType} {invoiceId : Nat} {inv : InvoiceFacts}
    (h : invoiceFacts invoiceType invoiceId w = .ok inv) : inv.id = invoiceId := by
  cases invoiceType with
  | merchant_invoice =>
      obtain ⟨stored, -, hid, -, rfl⟩ := invoiceFacts_merchant h
      exact hid
  | corporate_invoice =>
      obtain ⟨stored, -, hid, -, rfl⟩ := invoiceFacts_corporate h
      exact hid

theorem receiptTx_found {draft : ReceiptDraft} {outcome : ReceiptOutcome}
    (h : receiptTx draft w = .ok (outcome, t)) :
    outcome.replayed = true ∧ t = w ∧
        receiptByReference draft.invoiceType draft.invoiceId draft.bankReference w = some outcome.receipt ∨
      outcome.replayed = false ∧
        receiptByReference draft.invoiceType draft.invoiceId draft.bankReference w = none := by
  simp only [receiptTx, Tx.bind_eq_ok, Tx.read_eq_ok, Tx.ofExcept_eq_ok] at h
  obtain ⟨_, _, ⟨rfl, rfl⟩, inv, _, ⟨hfacts, rfl⟩, existing, _, ⟨hexisting, rfl⟩, h⟩ := h
  have hid : inv.id = draft.invoiceId := invoiceFacts_id hfacts
  rw [hid] at hexisting
  cases existing with
  | some existing =>
      obtain ⟨rfl, rfl⟩ := Tx.pure_eq_ok.mp h
      exact Or.inl ⟨rfl, rfl, hexisting⟩
  | none =>
      simp only [Tx.bind_eq_ok, Tx.pure_eq_ok] at h
      obtain ⟨_, _, -, _, _, -, _, _, -, _, _, -, _, _, -, _, _, -, rfl, -⟩ := h
      exact Or.inr ⟨rfl, hexisting⟩

theorem receiptTx_lost {draft : ReceiptDraft} {target : String} (h : receiptTx draft w = .error (.p2002 target))
    {inv : InvoiceFacts} (hinv : invoiceFacts draft.invoiceType draft.invoiceId w = .ok inv) :
    receiptByReference draft.invoiceType draft.invoiceId draft.bankReference w = none := by
  have hid : inv.id = draft.invoiceId := invoiceFacts_id hinv
  cases hexisting : receiptByReference draft.invoiceType draft.invoiceId draft.bankReference w with
  | none => rfl
  | some existing =>
      have hok : receiptTx draft w = .ok ({ receipt := existing, replayed := true, invoice := inv }, w) := by
        simp only [receiptTx, Tx.bind_eq_ok, Tx.read_eq_ok, Tx.ofExcept_eq_ok]
        refine ⟨_, _, ⟨rfl, rfl⟩, inv, _, ⟨hinv, rfl⟩, some existing, _, ⟨by rw [hid, hexisting], rfl⟩, ?_⟩
        exact Tx.pure_eq_ok.mpr ⟨rfl, rfl⟩
      rw [hok] at h
      cases h

/-- A refund transaction answers with the refund under the evidence and moves nothing, or records it; and it loses
no race while a refund is stored under the evidence. -/
structure Finds (w : World) (invoiceType : InvoiceType) (draft : RefundDraft) (tx : Transaction RefundOutcome) :
    Prop where
  answers : ∀ outcome t, tx w = .ok (outcome, t) →
    outcome.replayed = true ∧ t = w ∧
        refundByEvidence invoiceType draft.invoiceId draft.evidenceRef w = some outcome.refund ∨
      outcome.replayed = false ∧ refundByEvidence invoiceType draft.invoiceId draft.evidenceRef w = none
  loses : ∀ target, tx w = .error (.p2002 target) →
    refundByEvidence invoiceType draft.invoiceId draft.evidenceRef w = none

variable [Runtime]

theorem applyRefund_new {draft : RefundDraft} {invoice : MerchantInvoice} {candidates : List String}
    {outcome : RefundOutcome} (h : applyRefund draft invoice candidates w = .ok (outcome, t)) :
    outcome.replayed = false := by
  simp only [applyRefund, Tx.bind_eq_ok] at h
  obtain ⟨_, _, -, _, _, -, _, _, -, _, _, -, item, _, -, h⟩ := h
  cases item with
  | none => cases h
  | some item =>
      simp only [writeRefund, Tx.bind_eq_ok] at h
      obtain ⟨_, _, -, _, _, -, _, _, -, _, _, -, _, _, -, _, _, -, _, _, -, h⟩ := h
      split at h
      · obtain ⟨_, _, -, h⟩ := Tx.bind_eq_ok.mp h
        exact (Tx.pure_eq_ok.mp h).1 ▸ rfl
      · exact (Tx.pure_eq_ok.mp h).1 ▸ rfl

theorem applyFeeRefund_new {draft : RefundDraft} {invoice : CorporateInvoice} {candidates : List String}
    {outcome : RefundOutcome} (h : applyFeeRefund draft invoice candidates w = .ok (outcome, t)) :
    outcome.replayed = false := by
  have hwrite : ∀ vatMinor s, writeFeeRefund draft invoice vatMinor candidates s = .ok (outcome, t) →
      outcome.replayed = false := by
    intro vatMinor s hw
    simp only [writeFeeRefund, Tx.bind_eq_ok] at hw
    obtain ⟨_, _, -, _, _, -, _, _, -, _, _, -, _, _, -, _, _, -, _, _, -, hw⟩ := hw
    exact (Tx.pure_eq_ok.mp hw).1 ▸ rfl
  simp only [applyFeeRefund, Tx.bind_eq_ok] at h
  obtain ⟨_, _, -, _, _, -, _, _, -, _, _, -, h⟩ := h
  split at h
  all_goals
    obtain ⟨_, _, -, h⟩ := Tx.bind_eq_ok.mp h
    exact hwrite _ _ h

theorem refundTx_finds (draft : RefundDraft) (candidates : List String) (w : World) :
    Finds w .merchant_invoice draft (refundTx draft candidates) := by
  constructor
  · intro outcome t h
    simp only [refundTx, Tx.bind_eq_ok, Tx.read_eq_ok] at h
    obtain ⟨found, _, ⟨hfound, rfl⟩, h⟩ := h
    cases found with
    | none => cases h
    | some invoice =>
        simp only [Tx.bind_eq_ok, Tx.ensure_eq_ok, Tx.read_eq_ok] at h
        obtain ⟨_, _, ⟨-, rfl⟩, existing, _, ⟨hexisting, rfl⟩, h⟩ := h
        have hid : invoice.id = draft.invoiceId := key_of_find hfound
        rw [hid] at hexisting
        cases existing with
        | some existing =>
            obtain ⟨rfl, rfl⟩ := Tx.pure_eq_ok.mp h
            exact Or.inl ⟨rfl, rfl, hexisting⟩
        | none => exact Or.inr ⟨applyRefund_new h, hexisting⟩
  · intro target h
    simp only [refundTx, Tx.bind_eq_error, Tx.read_ne_error, Tx.read_eq_ok, false_or] at h
    obtain ⟨found, _, ⟨hfound, rfl⟩, h⟩ := h
    cases found with
    | none => cases h
    | some invoice =>
        simp only [Tx.bind_eq_error, Tx.ensure_eq_error, Tx.ensure_eq_ok, Tx.read_ne_error, Tx.read_eq_ok,
          false_or] at h
        obtain ⟨-, h⟩ | ⟨_, _, ⟨-, rfl⟩, existing, _, ⟨hexisting, rfl⟩, h⟩ := h
        · cases h
        · have hid : invoice.id = draft.invoiceId := key_of_find hfound
          rw [hid] at hexisting
          cases existing with
          | some existing => cases h
          | none => exact hexisting

theorem feeRefundTx_finds (draft : RefundDraft) (candidates : List String) (w : World) :
    Finds w .corporate_invoice draft (feeRefundTx draft candidates) := by
  constructor
  · intro outcome t h
    simp only [feeRefundTx, Tx.bind_eq_ok, Tx.read_eq_ok] at h
    obtain ⟨found, _, ⟨hfound, rfl⟩, h⟩ := h
    cases found with
    | none => cases h
    | some invoice =>
        simp only [Tx.bind_eq_ok, Tx.ensure_eq_ok, Tx.read_eq_ok] at h
        obtain ⟨_, _, ⟨-, rfl⟩, existing, _, ⟨hexisting, rfl⟩, h⟩ := h
        have hid : invoice.id = draft.invoiceId := key_of_find hfound
        rw [hid] at hexisting
        cases existing with
        | some existing =>
            obtain ⟨rfl, rfl⟩ := Tx.pure_eq_ok.mp h
            exact Or.inl ⟨rfl, rfl, hexisting⟩
        | none => exact Or.inr ⟨applyFeeRefund_new h, hexisting⟩
  · intro target h
    simp only [feeRefundTx, Tx.bind_eq_error, Tx.read_ne_error, Tx.read_eq_ok, false_or] at h
    obtain ⟨found, _, ⟨hfound, rfl⟩, h⟩ := h
    cases found with
    | none => cases h
    | some invoice =>
        simp only [Tx.bind_eq_error, Tx.ensure_eq_error, Tx.ensure_eq_ok, Tx.read_ne_error, Tx.read_eq_ok,
          false_or] at h
        obtain ⟨-, h⟩ | ⟨_, _, ⟨-, rfl⟩, existing, _, ⟨hexisting, rfl⟩, h⟩ := h
        · cases h
        · have hid : invoice.id = draft.invoiceId := key_of_find hfound
          rw [hid] at hexisting
          cases existing with
          | some existing => cases h
          | none => exact hexisting

omit [Runtime] in
theorem Finds.runRefund {site : Site} {invoiceType : InvoiceType} {draft : RefundDraft}
    {tx : Transaction RefundOutcome} (h : Finds w invoiceType draft tx) {outcome : RefundOutcome}
    (hrun : (runRefund site invoiceType draft tx).exec w = (.ok outcome, t)) : tx w = .ok (outcome, t) := by
  unfold Settlement.runRefund at hrun
  rw [Svc.exec_tryCatch, Svc.exec_transaction] at hrun
  rcases htx : tx w with e | ⟨answer, u⟩
  · rw [htx] at hrun
    cases e with
    | p2002 target =>
        have hnone := h.loses target htx
        simp [Svc.exec_bind, hnone] at hrun
    | _ => simp at hrun
  · rw [htx] at hrun
    cases hrun
    rfl

end Found

/-! ### Calls that succeed -/

section Calls

variable {w w' : World}

/-- In a log without repetitions a line is delivered once when it is delivered. -/
theorem count_eq_one_iff {log : List AuditKey} (hlog : log.Nodup) (k : AuditKey) : log.count k = 1 ↔ k ∈ log := by
  rw [hlog.count]
  by_cases hk : k ∈ log <;> simp [hk]

theorem audit_delivers {k : AuditKey} {u : Unit} (h : (audit k).exec w = (.ok u, w')) : k ∈ w'.auditLog :=
  (recordGuaranteed_logged (Svc.exec_transaction_ok.mp h)).2

theorem assertGatesOpen_exec {u : Unit} (h : assertGatesOpen.exec w = (.ok u, w')) : w = w' := by
  obtain ⟨_, _, hread, hensure⟩ := Svc.exec_bind_ok.mp h
  cases hread
  exact (Svc.exec_ensure_ok.mp hensure).2

/-- What an undisturbed call leaves of the lines of other calls. -/
theorem own_lines {α : Type} {x : Service α} {a : α} (hquiet : Svc.Keeps Quiet x) (hspares : Svc.Keeps Spares x)
    (h : x.exec w = (.ok a, w')) {k : AuditKey} (hk : k.action ∈ ownActions) :
    k ∈ w'.auditLog ↔ k ∈ w.auditLog := by
  have hkept := hquiet.exec w
  have hspared := hspares.exec w
  rw [h] at hkept hspared
  exact ⟨fun hmem => hspared k hmem hk, hkept.log.keep k⟩

theorem receipt_answer {draft : ReceiptDraft} {outcome : ReceiptOutcome × Bool}
    (h : (Svc.tryCatch
      (do
        let outcome ← Svc.transaction .receipt (receiptTx draft)
        if outcome.replayed then assertSameReceipt draft outcome.receipt else pure ()
        pure (outcome, outcome.replayed))
      fun e =>
        match e with
        | .p2002 target => do
            let outcome ← receiptCollision draft (.p2002 target)
            pure (outcome, true)
        | e => Svc.fail e).exec w = (.ok outcome, w')) :
    receiptTx draft w = .ok (outcome.1, w') ∧ outcome.2 = outcome.1.replayed := by
  rw [Svc.exec_tryCatch, Svc.exec_bind, Svc.exec_transaction] at h
  rcases htx : receiptTx draft w with e | ⟨answer, u⟩
  · rw [htx] at h
    cases e with
    | p2002 target =>
        obtain ⟨_, _, hlost, -⟩ := Svc.exec_bind_ok.mp h
        unfold receiptCollision at hlost
        obtain ⟨existing, u, hexisting, hanswer⟩ := Svc.exec_bind_ok.mp hlost
        rw [Svc.exec_query] at hexisting
        obtain ⟨hexisting, rfl⟩ := Prod.ext_iff.mp hexisting
        cases existing with
        | none => cases hanswer
        | some existing =>
          obtain ⟨_, v, hsame, hload⟩ := Svc.exec_bind_ok.mp hanswer
          obtain rfl := (Svc.exec_ensure_ok.mp hsame).2
          obtain ⟨inv, _, hinv, -⟩ := Svc.exec_bind_ok.mp hload
          have hfacts : invoiceFacts draft.invoiceType draft.invoiceId w = .ok inv := by
            unfold loadInvoice at hinv
            simp only [Svc.exec_bind, Svc.exec_query, Svc.exec_ofExcept] at hinv
            exact congrArg Prod.fst hinv
          have hnone := receiptTx_lost htx hfacts
          rw [Except.ok.inj hexisting] at hnone
          cases hnone
    | _ => simp at h
  · rw [htx] at h
    dsimp only at h
    by_cases hreplayed : answer.replayed = true
    · rw [if_pos hreplayed, Svc.exec_bind, assertSameReceipt, Svc.exec_ensure] at h
      split_ifs at h with hsame
      · cases h
        exact ⟨rfl, rfl⟩
      · cases h
    · rw [if_neg hreplayed] at h
      cases h
      exact ⟨rfl, rfl⟩

theorem receiptDraft_evidence {actor : Nat} {input : RecordReceiptInput} {draft : ReceiptDraft}
    (h : receiptDraft actor input = .ok draft) : draft.invoiceType = input.invoiceType ∧
      draft.invoiceId = input.invoiceId ∧ draft.bankReference = trim input.bankReference := by
  unfold receiptDraft at h
  split at h
  · cases h
  · split at h
    · cases h
    · split at h
      · cases h
      · split at h
        · cases h
        · cases h
          exact ⟨rfl, rfl, rfl⟩

/-- What `recordReceipt` leaves in the audit log. -/
theorem recordReceipt_audits {actor : Nat} {input : RecordReceiptInput} {recorded : RecordedReceipt}
    (h : (recordReceipt actor input).exec w = (.ok recorded, w')) :
    ⟨"finance.receipt.recorded", recorded.receipt.id⟩ ∈ w'.auditLog ↔
      ∀ r ∈ receiptByReference input.invoiceType input.invoiceId (trim input.bankReference) w,
        ⟨"finance.receipt.recorded", r.id⟩ ∈ w.auditLog := by
  unfold recordReceipt at h
  obtain ⟨_, w₁, hgates, hrest⟩ := Svc.exec_bind_ok.mp h
  obtain rfl := assertGatesOpen_exec hgates
  obtain ⟨draft, w₂, hdrafted, hcall⟩ := Svc.exec_bind_ok.mp hrest
  obtain ⟨hdraft, rfl⟩ := Svc.exec_ofExcept_ok.mp hdrafted
  obtain ⟨htype, hinvoice, hreference⟩ := receiptDraft_evidence hdraft
  obtain ⟨⟨outcome, replayed⟩, u, htry, htail⟩ := Svc.exec_bind_ok.mp hcall
  obtain ⟨htx, hflag⟩ := receipt_answer htry
  dsimp only at htx hflag htail
  rw [hflag] at htail
  rw [← htype, ← hinvoice, ← hreference]
  rcases receiptTx_found htx with ⟨hreplayed, rfl, hfound⟩ | ⟨hreplayed, hfound⟩
  · rw [if_pos hreplayed] at htail
    obtain ⟨coverage, _, hcoverage, hdone⟩ := Svc.exec_bind_ok.mp htail
    cases hdone
    rw [hfound]
    simpa using own_lines (deriveAndApplyCoverage_quiet _ _) (deriveAndApplyCoverage_spares _ _) hcoverage
      (by simp [ownActions])
  · rw [if_neg (by simp [hreplayed])] at htail
    obtain ⟨_, v, haudit, hderive⟩ := Svc.exec_bind_ok.mp htail
    obtain ⟨coverage, _, hcoverage, hdone⟩ := Svc.exec_bind_ok.mp hderive
    cases hdone
    have hdelivered := (own_lines (deriveAndApplyCoverage_quiet _ _) (deriveAndApplyCoverage_spares _ _)
      hcoverage (by simp [ownActions])).mpr (audit_delivers haudit)
    rw [hfound]
    simpa using hdelivered

/-- The audit lines of a recorded refund. -/
def RefundLines (w : World) (refund : SettlementRefund) : Prop :=
  ⟨"finance.credit_note.issued", refund.id⟩ ∈ w.auditLog ∧ ⟨"finance.refund.recorded", refund.id⟩ ∈ w.auditLog

@[grind ←] theorem healCredit_spares (refund : SettlementRefund) : Svc.Keeps Spares (healCredit refund) := by
  have hcoverage := deriveAndApplyCoverage_spares .corporate_invoice refund.invoiceId
  unfold healCredit
  split
  · exact Svc.Keeps.bind hcoverage fun _ => Svc.Keeps.pure _
  · exact Svc.Keeps.pure _

theorem now_exec {nowMs : Time} (h : now.exec w = (.ok nowMs, w')) : w = w' := by
  unfold now at h
  rw [Svc.exec_query] at h
  exact (Prod.ext_iff.mp h).2

theorem refundTexts_evidence {input : RecordRefundInput} {texts : String × String}
    (h : refundTexts input = .ok texts) : texts.1 = trim input.evidenceRef := by
  unfold refundTexts at h
  split at h
  · cases h
  · split at h
    · cases h
    · cases h
      rfl

theorem replayed_lines {refund : SettlementRefund} {heal : Service Unit} {u u' : Unit} {v : World}
    (hquiet : Svc.Keeps Quiet heal) (hspares : Svc.Keeps Spares heal) (hheal : heal.exec w = (.ok u, v))
    (haudit : (audit ⟨"finance.refund.recorded", refund.id⟩).exec v = (.ok u', w')) :
    RefundLines w' refund ↔ ⟨"finance.credit_note.issued", refund.id⟩ ∈ w.auditLog := by
  have hdelivered := audit_delivers haudit
  have hhealed : ⟨"finance.credit_note.issued", refund.id⟩ ∈ v.auditLog ↔ _ :=
    own_lines hquiet hspares hheal (by simp [ownActions])
  have hkept : ⟨"finance.credit_note.issued", refund.id⟩ ∈ w'.auditLog ↔ _ :=
    own_lines (audit_quiet _) (audit_spares (by simp [ownActions])) haudit (by simp [ownActions])
  exact ⟨fun hlines => hhealed.mp (hkept.mp hlines.1), fun hnote => ⟨hkept.mpr (hhealed.mpr hnote), hdelivered⟩⟩

theorem recorded_lines {refund : SettlementRefund} {heal : Service Unit} {u u' u'' : Unit} {v v' : World}
    (hquiet : Svc.Keeps Quiet heal)
    (hnote : (audit ⟨"finance.credit_note.issued", refund.id⟩).exec w = (.ok u, v))
    (hrefund : (audit ⟨"finance.refund.recorded", refund.id⟩).exec v = (.ok u', v'))
    (hheal : heal.exec v' = (.ok u'', w')) : RefundLines w' refund := by
  have hnoted := audit_delivers hnote
  have hrecorded := audit_delivers hrefund
  have hkept := (audit_quiet ⟨"finance.refund.recorded", refund.id⟩).exec v
  have hkept' := hquiet.exec v'
  rw [hrefund] at hkept
  rw [hheal] at hkept'
  exact ⟨hkept'.log.keep _ (hkept.log.keep _ hnoted), hkept'.log.keep _ hrecorded⟩

variable [Runtime] {origin : Option RefundOrigin} {actor : Nat} {input : RecordRefundInput}
  {candidates : List String} {outcome : RefundOutcome}

/-- What `recordFeeRefund` leaves in the audit log. -/
theorem recordFeeRefund_audits (h : (recordFeeRefund origin actor input candidates).exec w = (.ok outcome, w')) :
    RefundLines w' outcome.refund ↔
      ∀ r ∈ refundByEvidence .corporate_invoice input.invoiceId (trim input.evidenceRef) w,
        ⟨"finance.credit_note.issued", r.id⟩ ∈ w.auditLog := by
  unfold recordFeeRefund at h
  obtain ⟨texts, _, hwords, h₁⟩ := Svc.exec_bind_ok.mp h
  obtain ⟨htexts, rfl⟩ := Svc.exec_ofExcept_ok.mp hwords
  obtain ⟨_, _, hfields, h₂⟩ := Svc.exec_bind_ok.mp h₁
  obtain ⟨-, rfl⟩ := Svc.exec_ofExcept_ok.mp hfields
  obtain ⟨nowMs, _, hnow, h₃⟩ := Svc.exec_bind_ok.mp h₂
  obtain rfl := now_exec hnow
  obtain ⟨draft, _, hdrafted, h₄⟩ := Svc.exec_bind_ok.mp h₃
  obtain ⟨hdraft, rfl⟩ := Svc.exec_ofExcept_ok.mp hdrafted
  obtain ⟨-, hinvoice, hevidence, -⟩ := refundDraft_ok hdraft
  obtain ⟨answer, v, hrun, h₅⟩ := Svc.exec_bind_ok.mp h₄
  have hfinds := feeRefundTx_finds draft candidates w
  have hanswer := hfinds.answers answer v (hfinds.runRefund hrun)
  rw [hinvoice, hevidence, refundTexts_evidence htexts] at hanswer
  dsimp only at h₅
  rcases hanswer with ⟨hreplayed, rfl, hfound⟩ | ⟨hreplayed, hnone⟩
  · rw [if_pos hreplayed] at h₅
    obtain ⟨_, v, hsame, h₆⟩ := Svc.exec_bind_ok.mp h₅
    obtain rfl := (Svc.exec_ensure_ok.mp hsame).2
    obtain ⟨_, v', hheal, h₇⟩ := Svc.exec_bind_ok.mp h₆
    obtain ⟨_, v'', haudit, hdone⟩ := Svc.exec_bind_ok.mp h₇
    cases hdone
    rw [hfound]
    simpa using replayed_lines (healCredit_quiet _) (healCredit_spares _) hheal haudit
  · rw [if_neg (by simp [hreplayed])] at h₅
    obtain ⟨_, v₁, hnote, h₆⟩ := Svc.exec_bind_ok.mp h₅
    obtain ⟨_, v₂, hrefund, h₇⟩ := Svc.exec_bind_ok.mp h₆
    obtain ⟨_, v₃, hheal, hdone⟩ := Svc.exec_bind_ok.mp h₇
    cases hdone
    rw [hnone]
    simpa using recorded_lines (healCredit_quiet _) hnote hrefund hheal

/-- What `recordRefund` leaves in the audit log. -/
theorem recordRefund_audits (h : (recordRefund origin actor input candidates).exec w = (.ok outcome, w')) :
    RefundLines w' outcome.refund ↔
      ∀ r ∈ refundByEvidence input.invoiceType input.invoiceId (trim input.evidenceRef) w,
        ⟨"finance.credit_note.issued", r.id⟩ ∈ w.auditLog := by
  unfold recordRefund at h
  obtain ⟨_, _, hgates, h₁⟩ := Svc.exec_bind_ok.mp h
  obtain rfl := assertGatesOpen_exec hgates
  cases htype : input.invoiceType with
  | corporate_invoice =>
      rw [htype] at h₁
      exact recordFeeRefund_audits h₁
  | merchant_invoice =>
      rw [htype] at h₁
      obtain ⟨texts, _, hwords, h₂⟩ := Svc.exec_bind_ok.mp h₁
      obtain ⟨htexts, rfl⟩ := Svc.exec_ofExcept_ok.mp hwords
      obtain ⟨nowMs, _, hnow, h₃⟩ := Svc.exec_bind_ok.mp h₂
      obtain rfl := now_exec hnow
      obtain ⟨draft, _, hdrafted, h₄⟩ := Svc.exec_bind_ok.mp h₃
      obtain ⟨hdraft, rfl⟩ := Svc.exec_ofExcept_ok.mp hdrafted
      obtain ⟨-, hinvoice, hevidence, -⟩ := refundDraft_ok hdraft
      obtain ⟨answer, v, hrun, h₅⟩ := Svc.exec_bind_ok.mp h₄
      have hfinds := refundTx_finds draft candidates w
      have hanswer := hfinds.answers answer v (hfinds.runRefund hrun)
      rw [hinvoice, hevidence, refundTexts_evidence htexts] at hanswer
      dsimp only at h₅
      rcases hanswer with ⟨hreplayed, rfl, hfound⟩ | ⟨hreplayed, hnone⟩
      · rw [if_pos hreplayed] at h₅
        obtain ⟨_, v, hsame, h₆⟩ := Svc.exec_bind_ok.mp h₅
        obtain rfl := (Svc.exec_ensure_ok.mp hsame).2
        obtain ⟨_, v', haudit, hdone⟩ := Svc.exec_bind_ok.mp h₆
        cases hdone
        rw [hfound]
        simpa using replayed_lines (Svc.Keeps.pure ()) (Svc.Keeps.pure ()) (Svc.exec_pure () _) haudit
      · rw [if_neg (by simp [hreplayed])] at h₅
        obtain ⟨_, v₁, hnote, h₆⟩ := Svc.exec_bind_ok.mp h₅
        obtain ⟨_, v₂, hrefund, hdone⟩ := Svc.exec_bind_ok.mp h₆
        cases hdone
        rw [hnone]
        simpa using recorded_lines (Svc.Keeps.pure ()) hnote hrefund (Svc.exec_pure () _)

end Calls

/-! ### The calls over runs -/

/-- The guaranteed line of a recorded receipt is in the log, once. -/
def ReceiptAudited (w : World) (recorded : RecordedReceipt) : Prop :=
  w.auditLog.count ⟨"finance.receipt.recorded", recorded.receipt.id⟩ = 1

/-- The guaranteed lines of a recorded refund are in the log, each once. -/
def RefundAudited (w : World) (outcome : RefundOutcome) : Prop :=
  w.auditLog.count ⟨"finance.credit_note.issued", outcome.refund.id⟩ = 1 ∧
    w.auditLog.count ⟨"finance.refund.recorded", outcome.refund.id⟩ = 1

/-- A receipt that is already stored under the reference has its line. -/
def ReceiptLineHeld (w : World) (input : RecordReceiptInput) : Prop :=
  ∀ r ∈ receiptByReference input.invoiceType input.invoiceId (trim input.bankReference) w,
    ⟨"finance.receipt.recorded", r.id⟩ ∈ w.auditLog

/-- A refund that is already stored under the evidence has the line of its credit note. -/
def NoteLineHeld (w : World) (invoiceType : InvoiceType) (input : RecordRefundInput) : Prop :=
  ∀ r ∈ refundByEvidence invoiceType input.invoiceId (trim input.evidenceRef) w,
    ⟨"finance.credit_note.issued", r.id⟩ ∈ w.auditLog

section Runs

variable [Runtime] {tr : List (Event World Site)} {cfg : Config World Site (Except Err Reply)}

theorem Run.log_nodup (h : Run tr cfg) {α : Type} {x : Service α} (hx : Files x cfg.state) {a : Except Err α}
    {w' : World} (hexec : x.exec cfg.state = (a, w')) : w'.auditLog.Nodup := by
  have hmeets : Prog.Meets Eq _ _ x cfg.state := Prog.Meets.weaken_rely (fun s _ hst => hst ▸ Rely.refl s) hx
  have hpath : Rely Filing cfg.state (x.exec cfg.state).2 := hmeets.exec.1.rely
  rw [hexec] at hpath
  exact (archived_of_rely hpath h.archived).log

/-- **A call that succeeds leaves each of its guaranteed lines once**, in whatever state the calls before it left
off, exactly when a movement that was already stored under its evidence had its line. -/
theorem Run.audits_complete (h : Run tr cfg) {actor : Nat} {w' : World} :
    (∀ input recorded, (recordReceipt actor input).exec cfg.state = (.ok recorded, w') →
      (ReceiptAudited w' recorded ↔ ReceiptLineHeld cfg.state input)) ∧
    (∀ origin input candidates outcome,
      (recordRefund origin actor input candidates).exec cfg.state = (.ok outcome, w') →
      (RefundAudited w' outcome ↔ NoteLineHeld cfg.state input.invoiceType input)) ∧
    ∀ origin input candidates outcome,
      (recordFeeRefund origin actor input candidates).exec cfg.state = (.ok outcome, w') →
      (RefundAudited w' outcome ↔ NoteLineHeld cfg.state .corporate_invoice input) := by
  refine ⟨fun input recorded hcall => ?_, fun origin input candidates outcome hcall => ?_,
    fun origin input candidates outcome hcall => ?_⟩
  · have hlog := h.log_nodup (Svc.Keeps.files (recordReceipt_quiet actor input)) hcall
    rw [ReceiptAudited, count_eq_one_iff hlog]
    exact recordReceipt_audits hcall
  · have hlog := h.log_nodup (recordRefund_files origin actor input candidates) hcall
    rw [RefundAudited, count_eq_one_iff hlog, count_eq_one_iff hlog]
    exact recordRefund_audits hcall
  · have hlog := h.log_nodup (recordFeeRefund_files origin actor input candidates) hcall
    rw [RefundAudited, count_eq_one_iff hlog, count_eq_one_iff hlog]
    exact recordFeeRefund_audits hcall

end Runs

/-- The receipt of a piloted goods invoice. -/
def Pilot.receipt : RecordReceiptInput where
  invoiceType := .merchant_invoice
  invoiceId := 0
  amount := 100
  bankReference := "B-1"
  receivedAt := some newYear

def Pilot.thirty : RecordRefundInput where
  invoiceType := .merchant_invoice
  invoiceId := 0
  amount := 30
  reason := "returned"
  evidenceRef := "R-1"
  refundedAt := some newYear
  reasonCode := some "other"

/-- A receipt that acts so often before it stops. -/
def Pilot.receiptStopped (steps : Nat) : List (Choice Call) :=
  inOrder [.surround surroundings, issueGoods 100] ++ .start (.recordReceipt 1 receipt) :: List.replicate steps (.run 0)

/-- A refund of the received invoice that acts so often before it stops. -/
def Pilot.refundStopped (steps : Nat) : List (Choice Call) :=
  inOrder [.surround surroundings, issueGoods 100, .recordReceipt 1 receipt] ++
    .start (.recordRefund 1 thirty ["R-1"]) :: List.replicate steps (.run 0)

/-- A call that answers, with what is evaluated of its answer and of the state it leaves. -/
theorem answered_of {α : Type} {P : α → World → Prop} [∀ a w, Decidable (P a w)] {result : Except Err α × World}
    (h : (result.1.toOption.any fun a => decide (P a result.2)) = true) :
    ∃ a w', result = (.ok a, w') ∧ P a w' := by
  obtain ⟨answer, w'⟩ := result
  cases answer with
  | error e => cases h
  | ok a => exact ⟨a, w', rfl, of_decide_eq_true h⟩

theorem Run.audits_complete_stopped :
    let w := (Pilot.played (Pilot.receiptStopped 3)).2.state
    let w' := (Pilot.played (Pilot.refundStopped 4)).2.state
    (∃ recorded u, (recordReceipt 1 Pilot.receipt).exec w = (.ok recorded, u) ∧ ReceiptAudited u recorded) ∧
    ∃ outcome u, (@recordRefund plainRuntime none 1 Pilot.thirty ["R-1"]).exec w' = (.ok outcome, u) ∧
      RefundAudited u outcome := by
  intro w w'
  have hreceipt : ReceiptLineHeld w Pilot.receipt ∧
      (((recordReceipt 1 Pilot.receipt).exec w).1.toOption.any fun _ => decide True) = true := by
    unfold ReceiptLineHeld
    decide +kernel
  have hrefund : NoteLineHeld w' .merchant_invoice Pilot.thirty ∧
      (((@recordRefund plainRuntime none 1 Pilot.thirty ["R-1"]).exec w').1.toOption.any
        fun _ => decide True) = true := by
    unfold NoteLineHeld
    decide +kernel
  obtain ⟨recorded, u, hrecorded, -⟩ := answered_of (P := fun _ _ => True) hreceipt.2
  obtain ⟨outcome, u', houtcome, -⟩ := answered_of (P := fun _ _ => True) hrefund.2
  obtain ⟨hcomplete, -, -⟩ :=
    @Run.audits_complete plainRuntime _ _ (Pilot.run (Pilot.receiptStopped 3)) 1 u
  obtain ⟨-, hcomplete', -⟩ :=
    @Run.audits_complete plainRuntime _ _ (Pilot.run (Pilot.refundStopped 4)) 1 u'
  exact ⟨⟨recorded, u, hrecorded, (hcomplete _ _ hrecorded).mpr hreceipt.1⟩,
    ⟨outcome, u', houtcome, (hcomplete' _ _ _ _ houtcome).mpr hrefund.1⟩⟩

/-- **A line is lost**: a receipt, and a refund, that stopped right after their transactions are answered when they
are called again, and their lines are not delivered. -/
theorem Run.audits_lost :
    (∃ tr cfg, @Run plainRuntime tr cfg ∧ ∃ recorded w',
      (recordReceipt 1 Pilot.receipt).exec cfg.state = (.ok recorded, w') ∧ ¬ ReceiptAudited w' recorded) ∧
    ∃ tr cfg, @Run plainRuntime tr cfg ∧ ∃ outcome w',
      (@recordRefund plainRuntime none 1 Pilot.thirty ["R-1"]).exec cfg.state = (.ok outcome, w') ∧
        ¬ RefundAudited w' outcome := by
  refine ⟨⟨_, _, Pilot.run (Pilot.receiptStopped 2), ?_⟩, ⟨_, _, Pilot.run (Pilot.refundStopped 3), ?_⟩⟩
  · unfold ReceiptAudited
    exact answered_of (by decide +kernel)
  · unfold RefundAudited
    exact answered_of (by decide +kernel)

end Qift
