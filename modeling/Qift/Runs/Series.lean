import Mathlib
import Qift.Corporate.Invoice
import Qift.Derivation
import Qift.Guarantee.Archive
import Qift.Lib.Delegate
import Qift.Runs.Invoices

/-!
# Legal number series

Numbers of fee invoices and of fee credit notes over every interleaving, roll-backs included.

* `sequentialReference_inj` — the text of a number determines its series year and its value.
* `Gapless` — both series are unbroken.  One lemma for each transaction that draws a number, one frame lemma for
  each other step.
* **`BillingRun.gapless`** — every state of every run keeps both series.
-/

namespace Qift

open Relational Relational.Table Interleaving Settlement Financial

/-! ### The text of a number -/

theorem dash_notMem_padNumber (width n : Nat) : '-' ∉ (padNumber width n).toList := by
  intro h
  have hdigit := isDigit_of_mem_padNumber h
  cases hdigit

/-- The parts around the last dash. -/
theorem append_dash_inj {xs xs' ys ys' : List Char} (hys : '-' ∉ ys) (hys' : '-' ∉ ys')
    (h : xs ++ '-' :: ys = xs' ++ '-' :: ys') : xs = xs' ∧ ys = ys' := by
  induction xs generalizing xs' with
  | nil =>
      cases xs' with
      | nil => simpa using h
      | cons c cs =>
          simp only [List.nil_append, List.cons_append, List.cons.injEq] at h
          exact absurd (h.2 ▸ by simp) hys
  | cons c cs ih =>
      cases xs' with
      | nil =>
          simp only [List.nil_append, List.cons_append, List.cons.injEq] at h
          exact absurd (h.2 ▸ by simp) hys'
      | cons c' cs' =>
          simp only [List.cons_append, List.cons.injEq] at h
          obtain ⟨rfl, hrest⟩ := ih h.2
          exact ⟨by rw [h.1], hrest⟩

/-- The number of a series, as `formatSequentialReference` writes it. -/
def sequentialReference (series : String) (year : Int) (value : Nat) : String :=
  series ++ "-" ++ toString year ++ "-" ++ padNumber 5 value

theorem seriesKey_inj {series : String} {year year' : Int}
    (h : series ++ toString year = series ++ toString year') : year = year' := by
  have hlist := congrArg String.toList h
  simp only [String.toList_append, List.append_cancel_left_eq] at hlist
  exact Int.repr_injective (String.toList_injective hlist)

/-- The two series count on their own rows. -/
theorem seriesKey_ne (year year' : Int) : "QC-" ++ toString year ≠ "QD-" ++ toString year' := by
  intro h
  have hlist := congrArg String.toList h
  have hqc : ("QC-" : String).toList = ['Q', 'C', '-'] := rfl
  have hqd : ("QD-" : String).toList = ['Q', 'D', '-'] := rfl
  simp [String.toList_append, hqc, hqd] at hlist

theorem sequentialReference_inj {series : String} (year : Int) (value : Nat) (year' : Int) (value' : Nat)
    (h : sequentialReference series year value = sequentialReference series year' value') :
    year = year' ∧ value = value' := by
  have hlist := congrArg String.toList h
  have hdash : ("-" : String).toList = ['-'] := rfl
  simp only [sequentialReference, String.toList_append, hdash, List.append_assoc, List.singleton_append] at hlist
  have hsplit : (series.toList ++ '-' :: (toString year).toList) ++ '-' :: (padNumber 5 value).toList =
      (series.toList ++ '-' :: (toString year').toList) ++ '-' :: (padNumber 5 value').toList := by
    simpa using hlist
  obtain ⟨hkey, hvalue⟩ := append_dash_inj (dash_notMem_padNumber _ _) (dash_notMem_padNumber _ _) hsplit
  refine ⟨?_, padNumber_injective (String.toList_injective hvalue)⟩
  have hyear : (toString year).toList = (toString year').toList := by simpa using hkey
  exact Int.repr_injective (String.toList_injective hyear)

theorem formatSequentialReference_ok {series number : String} {year : Int} {value : Nat}
    (h : formatSequentialReference series year value = .ok number) :
    number = sequentialReference series year value := by
  unfold formatSequentialReference at h
  split at h
  · cases h
  · split at h
    · cases h
    · cases h
      rfl

/-! ### The invariant -/

/-- Both legal series are unbroken: the numbers on the fee invoices and those on the fee credit notes. -/
structure Gapless (w : World) : Prop where
  invoices : Unbroken (sequentialReference "QC") (fun year => lastValue ("QC-" ++ toString year) w)
    (invoiceNumbers w)
  notes : Unbroken (fun year value => some (sequentialReference "QD" year value))
    (fun year => lastValue ("QD-" ++ toString year) w) (feeNoteNumbers w)

theorem gapless_empty : Gapless World.empty where
  invoices := Unbroken.empty fun _ => rfl
  notes := Unbroken.empty fun _ => rfl

theorem lastValue_congr {w w' : World} (h : w'.db.sequences = w.db.sequences) (key : String) :
    lastValue key w' = lastValue key w := by
  show ((w'.db.sequences.find key).map NumberSequence.lastValue).getD 0 = _
  rw [h]
  rfl

/-- The invariant, as something a step keeps. -/
def KeepsSeries (w w' : World) : Prop := Gapless w → Gapless w'

instance : Std.Refl KeepsSeries := ⟨fun _ h => h⟩

instance : IsTrans World KeepsSeries := ⟨fun _ _ _ h h' hw => h' (h hw)⟩

theorem Unnumbered.keeps {w w' : World} (h : Unnumbered w w') : KeepsSeries w w' := by
  intro hw
  have hlast (key : String) := lastValue_congr h.sequences key
  constructor
  · simpa only [hlast, h.invoices] using hw.invoices
  · simpa only [hlast, h.notes] using hw.notes

/-! ### Drawing a number -/

/-- A number of a series is drawn, for a document that is not stored yet. -/
structure Draws (key : String) (w w' : World) : Prop where
  next : lastValue key w' = lastValue key w + 1
  others : ∀ key', key' ≠ key → lastValue key' w' = lastValue key' w
  invoices : invoiceNumbers w' = invoiceNumbers w
  notes : feeNoteNumbers w' = feeNoteNumbers w

theorem Draws.of_find {key : String} {w w' : World}
    (hfind : ∀ key', (w'.db.sequences.find key').map NumberSequence.lastValue =
      if key' = key then some (lastValue key w + 1)
      else (w.db.sequences.find key').map NumberSequence.lastValue)
    (hinvoices : invoiceNumbers w' = invoiceNumbers w) (hnotes : feeNoteNumbers w' = feeNoteNumbers w) :
    Draws key w w' where
  next := by
    show ((w'.db.sequences.find key).map NumberSequence.lastValue).getD 0 = _
    rw [hfind key, if_pos rfl, Option.getD_some]
  others key' hne := by
    show ((w'.db.sequences.find key').map NumberSequence.lastValue).getD 0 = _
    rw [hfind key', if_neg hne]
    rfl
  invoices := hinvoices
  notes := hnotes

theorem nextSequence_draws {key : String} {w w' : World} {n : Nat} (h : nextSequence key w = .ok (n, w')) :
    n = lastValue key w + 1 ∧ Draws key w w' := by
  simp only [nextSequence, Tx.bind_eq_ok] at h
  obtain ⟨count, w₁, hupdate, h⟩ := h
  obtain ⟨rfl, rfl⟩ := updateMany_eq_ok.mp hupdate
  split at h
  · -- the first number: the upsert inserts the row
    rename_i hnone
    simp only [Tx.bind_eq_ok, Tx.pure_eq_ok] at h
    obtain ⟨_, _, hinsert, rfl, rfl⟩ := h
    obtain ⟨rfl, t, hcreate, -, rfl⟩ := insert_eq_ok.mp hinsert
    have hcreate' : (w.db.sequences.updateMany (fun s => s.seriesKey = key)
        (fun s => { s with lastValue := s.lastValue + 1 }) fun _ => rfl).create ⟨key, 1⟩ = some t := hcreate
    rw [updateMany_eq_self hnone] at hcreate'
    have hlast : lastValue key w = 0 := by
      show ((w.db.sequences.find key).map NumberSequence.lastValue).getD 0 = 0
      rw [(create_eq_some hcreate').2]
      rfl
    refine ⟨by rw [hlast], Draws.of_find (fun key' => ?_) rfl rfl⟩
    show (t.find key').map NumberSequence.lastValue = _
    rw [find_create hcreate', hlast]
    by_cases hkey : key' = key
    · subst hkey
      simp
    · rw [if_neg hkey, if_neg fun heq => hkey heq.symm]
  · rename_i hsome
    simp only [Tx.bind_eq_ok, Tx.pure_eq_ok, Tx.read_eq_ok] at h
    obtain ⟨_, _, ⟨rfl, rfl⟩, hvalue, rfl⟩ := h
    obtain ⟨row, hrow, -⟩ := count_pos (k := key) (fun r hr => of_decide_eq_true hr) hsome
    have hfind (key' : String) : ((w.db.sequences.updateMany (fun s => s.seriesKey = key)
        (fun s => { s with lastValue := s.lastValue + 1 }) fun _ => rfl).find key').map
          NumberSequence.lastValue =
        if key' = key then some (lastValue key w + 1)
        else (w.db.sequences.find key').map NumberSequence.lastValue := by
      rw [find_updateMany]
      by_cases hkey : key' = key
      · have hlast : lastValue key w = row.lastValue := by
          show ((w.db.sequences.find key).map NumberSequence.lastValue).getD 0 = _
          rw [hrow]
          rfl
        have hrowkey : row.seriesKey = key := key_of_find hrow
        simp [hkey, hrow, hrowkey, hlast]
      · rw [if_neg hkey]
        cases hfound : w.db.sequences.find key' with
        | none => rfl
        | some other =>
            have hother : other.seriesKey ≠ key := fun heq => hkey ((key_of_find hfound).symm.trans heq)
            simp [hother]
    refine ⟨?_, Draws.of_find hfind rfl rfl⟩
    have hnext := hfind key
    rw [if_pos rfl] at hnext
    rw [← hvalue]
    show ((_ : Option NumberSequence).map NumberSequence.lastValue).getD 0 = _
    exact congrArg (fun o => o.getD 0) hnext

/-! ### The documents that are numbered -/

theorem Gapless.addInvoice {w w₁ w' : World} {year : Int} (h : Gapless w)
    (hdraws : Draws ("QC-" ++ toString year) w w₁) (hsequences : w'.db.sequences = w₁.db.sequences)
    (hinvoices : invoiceNumbers w' =
      invoiceNumbers w₁ ++ [sequentialReference "QC" year (lastValue ("QC-" ++ toString year) w + 1)])
    (hnotes : feeNoteNumbers w' = feeNoteNumbers w₁) : Gapless w' where
  invoices := by
    rw [hinvoices, hdraws.invoices]
    refine h.invoices.issue sequentialReference_inj ?_ fun year' hne => ?_
    · rw [lastValue_congr hsequences, hdraws.next]
    · rw [lastValue_congr hsequences]
      exact hdraws.others _ fun heq => hne (seriesKey_inj heq)
  notes := by
    rw [hnotes, hdraws.notes]
    have hlast (year' : Int) : lastValue ("QD-" ++ toString year') w' = lastValue ("QD-" ++ toString year') w := by
      rw [lastValue_congr hsequences]
      exact hdraws.others _ fun heq => seriesKey_ne year year' heq.symm
    simpa only [hlast] using h.notes

theorem Gapless.addNote {w w₁ w' : World} {year : Int} (h : Gapless w)
    (hdraws : Draws ("QD-" ++ toString year) w w₁) (hsequences : w'.db.sequences = w₁.db.sequences)
    (hinvoices : invoiceNumbers w' = invoiceNumbers w₁)
    (hnotes : feeNoteNumbers w' = feeNoteNumbers w₁ ++
      [some (sequentialReference "QD" year (lastValue ("QD-" ++ toString year) w + 1))]) : Gapless w' where
  invoices := by
    rw [hinvoices, hdraws.invoices]
    have hlast (year' : Int) : lastValue ("QC-" ++ toString year') w' = lastValue ("QC-" ++ toString year') w := by
      rw [lastValue_congr hsequences]
      exact hdraws.others _ fun heq => seriesKey_ne year' year heq
    simpa only [hlast] using h.invoices
  notes := by
    rw [hnotes, hdraws.notes]
    refine h.notes.issue (fun _ _ _ _ heq => sequentialReference_inj _ _ _ _ (Option.some.inj heq)) ?_
      fun year' hne => ?_
    · rw [lastValue_congr hsequences, hdraws.next]
    · rw [lastValue_congr hsequences]
      exact hdraws.others _ fun heq => hne (seriesKey_inj heq)

theorem issueInvoiceTx_keeps (reads : CampaignReads) (price : Number) (tax : TaxBreakdown) (now : Time) :
    Tx.Keeps KeepsSeries (issueInvoiceTx reads price tax now) := by
  intro w invoice w' h hw
  simp only [issueInvoiceTx, Tx.bind_eq_ok, Tx.ofExcept_eq_ok] at h
  obtain ⟨n, w₁, hdrawn, number, _, ⟨hnumber, rfl⟩, hinsert⟩ := h
  obtain ⟨rfl, hdraws⟩ := nextSequence_draws hdrawn
  obtain rfl := formatSequentialReference_ok hnumber
  obtain ⟨rfl, t, hcreate, -, rfl⟩ := insert_eq_ok.mp hinsert
  refine hw.addInvoice hdraws rfl ?_ rfl
  show t.rows.map CorporateInvoice.invoiceNumber = _
  rw [(create_eq_some hcreate).1, List.map_append]
  rfl

/-! ### Steps beside the series -/

/-- A delegate of another table than those of the series. -/
class Model.Numberless {ρ κ : Type} {key : ρ → κ} (m : Model key) : Prop where
  sequences : ∀ t db, (m.store t db).sequences = db.sequences
  invoices : ∀ t db, (m.store t db).corporateInvoices = db.corporateInvoices
  notes : ∀ t db, (m.store t db).creditNotes = db.creditNotes

instance : Model.settlementRefund.Numberless := ⟨fun _ _ => rfl, fun _ _ => rfl, fun _ _ => rfl⟩
instance : Model.creditNoteVersion.Numberless := ⟨fun _ _ => rfl, fun _ _ => rfl, fun _ _ => rfl⟩
instance : Model.merchantInvoice.Numberless := ⟨fun _ _ => rfl, fun _ _ => rfl, fun _ _ => rfl⟩
instance : Model.settlementItem.Numberless := ⟨fun _ _ => rfl, fun _ _ => rfl, fun _ _ => rfl⟩

theorem Unnumbered.of_db {w w' : World} (hsequences : w'.db.sequences = w.db.sequences)
    (hinvoices : w'.db.corporateInvoices = w.db.corporateInvoices)
    (hnotes : w'.db.creditNotes = w.db.creditNotes) : Unnumbered w w' where
  sequences := hsequences
  invoices := by rw [invoiceNumbers, hinvoices]; rfl
  notes := by rw [feeNoteNumbers, hnotes]; rfl

section Primitives

variable {ρ κ : Type} {key : ρ → κ} [DecidableEq κ] {m : Model key} [m.Numberless]

theorem insert_unnumbered {row : Nat → ρ} {w w' : World} {r : ρ} (h : insert m row w = .ok (r, w')) :
    Unnumbered w w' := by
  obtain ⟨-, t, -, -, rfl⟩ := insert_eq_ok.mp h
  exact .of_db (Model.Numberless.sequences t w.db) (Model.Numberless.invoices t w.db)
    (Model.Numberless.notes t w.db)

@[grind ←] theorem insert_keeps {row : Nat → ρ} : Tx.Keeps KeepsSeries (insert m row) :=
  fun _ _ _ h => (insert_unnumbered h).keeps

omit [DecidableEq κ] in
@[grind ←] theorem updateMany_keeps {cond : ρ → Bool} {data : ρ → ρ} (hdata : ∀ r, key (data r) = key r) :
    Tx.Keeps KeepsSeries (updateMany m cond data hdata) := by
  intro w n w' h
  obtain ⟨-, rfl⟩ := updateMany_eq_ok.mp h
  exact (Unnumbered.of_db (Model.Numberless.sequences _ w.db) (Model.Numberless.invoices _ w.db)
    (Model.Numberless.notes _ w.db)).keeps

end Primitives

theorem updateInvoices_keeps {cond : CorporateInvoice → Bool} {data : CorporateInvoice → CorporateInvoice}
    (hdata : ∀ i, (data i).id = i.id) (hnumber : ∀ i, (data i).invoiceNumber = i.invoiceNumber) :
    Tx.Keeps KeepsSeries (updateMany Model.corporateInvoice cond data hdata) := by
  intro w n w' h
  obtain ⟨-, rfl⟩ := updateMany_eq_ok.mp h
  refine Unnumbered.keeps ⟨rfl, ?_, rfl⟩
  show ((w.db.corporateInvoices.updateMany cond data hdata).rows).map CorporateInvoice.invoiceNumber = _
  rw [Table.updateMany, List.map_map]
  refine List.map_congr_left fun i _ => ?_
  show CorporateInvoice.invoiceNumber (if cond i then data i else i) = i.invoiceNumber
  split
  · exact hnumber i
  · rfl

@[grind ←] theorem recordGuaranteed_keeps (k : AuditKey) : Tx.Keeps KeepsSeries (recordGuaranteed k) := by
  intro w u w' h
  have hdb := recordGuaranteed_eq_ok h
  exact (Unnumbered.of_db (congrArg Db.sequences hdb) (congrArg Db.corporateInvoices hdb)
    (congrArg Db.creditNotes hdb)).keeps

@[grind ←] theorem record_keeps (input : RecordLedgerInput) : Tx.Keeps KeepsSeries (record input) := by
  intro w r w' h
  obtain ⟨ledger, n, rfl, -⟩ := record_eq_ok h
  exact Unnumbered.keeps ⟨rfl, rfl, rfl⟩

@[grind ←] theorem txNow_keeps : Tx.Keeps KeepsSeries txNow := Tx.Keeps.read _

@[grind ←] theorem now_keeps : Svc.Keeps KeepsSeries now := by
  unfold now
  grind

@[grind ←] theorem audit_keeps (k : AuditKey) : Svc.Keeps KeepsSeries (audit k) := by
  unfold audit
  grind

@[grind ←] theorem recordBestEffort_keeps (input : RecordLedgerInput) :
    Svc.Keeps KeepsSeries (recordBestEffort input) := by
  unfold recordBestEffort
  exact Svc.Keeps.tryCatch (Svc.Keeps.bind (by grind) fun _ => Svc.Keeps.pure _) fun _ => Svc.Keeps.pure _

/-! ### Coverage -/

@[grind ←] theorem createItemTx_keeps (invoice : InvoiceFacts) (storeId : Nat) :
    Tx.Keeps KeepsSeries (createItemTx invoice storeId) := by
  unfold createItemTx
  grind

@[grind ←] theorem flipPaid_keeps (invoiceType : InvoiceType) (invoiceId : Nat) (paidAt : Time) :
    Tx.Keeps KeepsSeries (flipPaid invoiceType invoiceId paidAt) := by
  cases invoiceType with
  | merchant_invoice => exact updateMany_keeps (m := Model.merchantInvoice) _
  | corporate_invoice => exact updateInvoices_keeps _ fun _ => rfl

@[grind ←] theorem writeBalanceStatus_keeps (invoiceId : Nat) (guard : CorporateInvoice → Bool)
    (balanceStatus : BalanceStatus) : Svc.Keeps KeepsSeries (writeBalanceStatus invoiceId guard balanceStatus) := by
  unfold writeBalanceStatus
  exact Svc.Keeps.transaction (updateInvoices_keeps _ fun _ => rfl)

theorem derivation_keeps : DerivationFrame KeepsSeries where
  item := createItemTx_keeps
  revenue _ _ := record_keeps _
  flip := flipPaid_keeps
  balance := writeBalanceStatus_keeps
  paid _ _ := audit_keeps _
  closed _ := audit_keeps _

@[grind ←] theorem deriveAndApplyCoverage_keeps (invoiceType : InvoiceType) (invoiceId : Nat) :
    Svc.Keeps KeepsSeries (deriveAndApplyCoverage invoiceType invoiceId) := derivation_keeps.derive invoiceType invoiceId

/-! ### Fee refunds -/

section Refunds

variable [Runtime]

theorem issueCreditNote_numbers {facts : CreditNoteFacts} {issuedAt : Time} {w w' : World} {note : CreditNote}
    (hfee : facts.noteType = "qift_service_fee") (h : issueCreditNote facts issuedAt w = .ok (note, w')) :
    w'.db.sequences = w.db.sequences ∧ invoiceNumbers w' = invoiceNumbers w ∧
      feeNoteNumbers w' = feeNoteNumbers w ++ [facts.qiftCreditNoteNumber] := by
  simp only [issueCreditNote, Tx.bind_eq_ok, Tx.pure_eq_ok] at h
  obtain ⟨_, w₁, hnote, _, w₂, hversion, -, rfl⟩ := h
  have hversioned := insert_unnumbered hversion
  obtain ⟨rfl, t, hcreate, -, rfl⟩ := insert_eq_ok.mp hnote
  refine ⟨hversioned.sequences, hversioned.invoices, hversioned.notes.trans ?_⟩
  show (t.rows.filter _).map CreditNote.qiftCreditNoteNumber = _
  rw [(create_eq_some hcreate).1, List.filter_append, List.map_append]
  simp [feeNoteNumbers, noteRow, hfee]

theorem writeFeeRefund_keeps (draft : RefundDraft) (invoice : CorporateInvoice) (vatMinor : Int)
    (candidates : List String) : Tx.Keeps KeepsSeries (writeFeeRefund draft invoice vatMinor candidates) := by
  intro w outcome w' h hw
  simp only [writeFeeRefund, Tx.bind_eq_ok, Tx.ofExcept_eq_ok, txNow_eq_ok, Tx.pure_eq_ok] at h
  obtain ⟨refund, w₁, hrefund, issuedAt, _, ⟨-, rfl⟩, n, w₂, hdrawn, number, _, ⟨hnumber, rfl⟩, reference,
    w₃, hmint, note, w₄, hnote, _, w₅, hpostings, -, rfl⟩ := h
  have hrefunded := (insert_unnumbered hrefund).keeps hw
  obtain ⟨rfl, hdraws⟩ := nextSequence_draws hdrawn
  obtain rfl := formatSequentialReference_ok hnumber
  obtain rfl := mintQn_eq_ok hmint
  obtain ⟨hsequences, hinvoices, hnotes⟩ := issueCreditNote_numbers rfl hnote
  have hnoted := hrefunded.addNote hdraws hsequences hinvoices hnotes
  have hposts : Tx.Keeps KeepsSeries (Tx.forEach (feePostings draft invoice refund.id vatMinor) fun input => do
      let _ ← record input
      pure ()) := Tx.Keeps.forEach fun input => Tx.Keeps.bind (record_keeps input) fun _ => Tx.Keeps.pure _
  exact hposts _ _ _ hpostings hnoted

theorem applyFeeRefund_keeps (draft : RefundDraft) (invoice : CorporateInvoice) (candidates : List String) :
    Tx.Keeps KeepsSeries (applyFeeRefund draft invoice candidates) := by
  unfold applyFeeRefund
  refine Tx.Keeps.bind (Tx.Keeps.ensure _ _) fun _ => Tx.Keeps.bind (Tx.Keeps.read _) fun _ => ?_
  refine Tx.Keeps.bind (Tx.Keeps.read _) fun _ => Tx.Keeps.bind (Tx.Keeps.ensure _ _) fun _ => ?_
  have hwrite := writeFeeRefund_keeps draft invoice
  dsimp only
  split
  · exact Tx.Keeps.bind (Tx.Keeps.ensure _ _) fun _ => hwrite _ candidates
  · exact Tx.Keeps.bind (Tx.Keeps.ensure _ _) fun _ => hwrite _ candidates

@[grind ←] theorem feeRefundTx_keeps (draft : RefundDraft) (candidates : List String) :
    Tx.Keeps KeepsSeries (feeRefundTx draft candidates) := by
  unfold feeRefundTx
  refine Tx.Keeps.bind (Tx.Keeps.read _) fun invoice => ?_
  cases invoice with
  | none => exact Tx.Keeps.fail _
  | some invoice =>
      refine Tx.Keeps.bind (Tx.Keeps.ensure _ _) fun _ => Tx.Keeps.bind (Tx.Keeps.read _) fun existing => ?_
      cases existing with
      | none => exact applyFeeRefund_keeps draft invoice candidates
      | some existing => exact Tx.Keeps.pure _

omit [Runtime] in
@[grind ←] theorem runRefund_keeps {site : Site} {invoiceType : InvoiceType} {draft : RefundDraft}
    {tx : Transaction RefundOutcome} (h : Tx.Keeps KeepsSeries tx) :
    Svc.Keeps KeepsSeries (runRefund site invoiceType draft tx) := by
  unfold runRefund
  grind

omit [Runtime] in
@[grind ←] theorem assertSameRefund_keeps (draft : RefundDraft) (existing : SettlementRefund) :
    Svc.Keeps KeepsSeries (assertSameRefund draft existing) := Svc.Keeps.ensure _ _

omit [Runtime] in
@[grind ←] theorem healCredit_keeps (refund : SettlementRefund) : Svc.Keeps KeepsSeries (healCredit refund) := by
  unfold healCredit
  grind

theorem recordFeeRefund_keeps (origin : Option RefundOrigin) (actor : Nat) (input : RecordRefundInput)
    (candidates : List String) : Svc.Keeps KeepsSeries (recordFeeRefund origin actor input candidates) := by
  unfold recordFeeRefund
  refine Svc.Keeps.bind (Svc.Keeps.ofExcept _) fun _ => Svc.Keeps.bind (Svc.Keeps.ofExcept _) fun _ => ?_
  refine Svc.Keeps.bind now_keeps fun _ => Svc.Keeps.bind (Svc.Keeps.ofExcept _) fun _ => ?_
  refine Svc.Keeps.bind (runRefund_keeps (feeRefundTx_keeps _ _)) fun _ => ?_
  grind

/-! ### Runs -/

omit [Runtime] in
theorem ensureInvoiceForCampaign_keeps (reads : CampaignReads) :
    Svc.Keeps KeepsSeries (ensureInvoiceForCampaign reads) := by
  have hissue (price : Number) (tax : TaxBreakdown) (now : Time) :
      Svc.Keeps KeepsSeries (issueInvoice reads price tax now) := by
    refine Svc.Keeps.tryCatch ?_ (by grind)
    refine Svc.Keeps.bind (Svc.Keeps.transaction (issueInvoiceTx_keeps reads price tax now)) fun _ => ?_
    exact Svc.Keeps.bind (recordBestEffort_keeps _) fun _ => Svc.Keeps.pure _
  unfold ensureInvoiceForCampaign
  refine Svc.Keeps.bind (Svc.Keeps.query _ _) fun existing => ?_
  cases existing with
  | some existing => exact Svc.Keeps.pure _
  | none =>
      refine Svc.Keeps.bind (Svc.Keeps.ensure _ _) fun _ => Svc.Keeps.bind (Svc.Keeps.ensure _ _) fun _ => ?_
      cases reads.price with
      | none => exact Svc.Keeps.fail _
      | some price =>
          refine Svc.Keeps.bind (Svc.Keeps.ensure _ _) fun _ => Svc.Keeps.bind (Svc.Keeps.ofExcept _) fun _ => ?_
          exact Svc.Keeps.bind now_keeps fun _ => hissue _ _ _

theorem billing_keeps (c : BillingCall) : Svc.Keeps KeepsSeries (billing c) := by
  induction c with
  | ensureInvoiceForCampaign reads =>
      exact Svc.Keeps.bind (ensureInvoiceForCampaign_keeps reads) fun _ => Svc.Keeps.pure _
  | recordFeeRefund origin actor input candidates =>
      exact Svc.Keeps.bind (recordFeeRefund_keeps origin actor input candidates) fun _ => Svc.Keeps.pure _
  | rolledBack c n e ih => exact ih.interrupt e n
  | elsewhere step =>
      refine Svc.Keeps.transaction fun w u w' h => ?_
      obtain rfl := Tx.modify_eq_ok.mp h
      exact (step.unnumbered w).keeps

/-- **The legal series are unbroken.**  In every state of every run, whatever was rolled back, the numbers on the
fee invoices and those on the fee credit notes are those up to the stored last value of their series, each used
once, and every such document has its number. -/
theorem BillingRun.gapless {tr : List (Event World Site)} {cfg : Config World Site (Except Err Unit)}
    (h : BillingRun tr cfg) : Gapless cfg.state :=
  h.keeps billing_keeps gapless_empty

end Refunds

namespace Pilot

def newYearComes : Elsewhere where
  move w := { w with db := { w.db with now := newYear } }
  unnumbered _ := ⟨rfl, rfl, rfl⟩

def readsOf (campaignId : Nat) : CampaignReads where
  orgId := 900
  campaignId := campaignId
  status := some "approved"
  price := some 100
  recipientCount := 1
  buyerSnapshot := none
  sellerSnapshot := none

def creditTwo (evidenceRef : String) : BillingCall :=
  .recordFeeRefund none 1
    { invoiceType := .corporate_invoice
      invoiceId := 1
      amount := 2
      reason := "returned"
      evidenceRef := evidenceRef
      refundedAt := some newYear
      reasonCode := some "other" } [evidenceRef]

/-- Two campaigns are invoiced after a roll-back, and a credit is rolled back before another stands. -/
def numbered : List (Choice BillingCall) :=
  [.elsewhere newYearComes, .rolledBack (.ensureInvoiceForCampaign (readsOf 600)) 2 (.error "P2034"),
    .ensureInvoiceForCampaign (readsOf 600), .ensureInvoiceForCampaign (readsOf 601),
    .rolledBack (creditTwo "E-1") 1 (.error "P2034"), creditTwo "E-2"].flatMap fun c =>
      .start c :: List.replicate 20 (.run 0)

/-- Where that schedule leads. -/
def numberedPlay : List (Event World Site) × Config World Site (Except Err Unit) :=
  let _ := plainRuntime
  Config.play billing ⟨World.empty, []⟩ numbered

end Pilot

theorem BillingRun.gapless_numbered :
    (invoiceNumbers Pilot.numberedPlay.2.state = ["QC-2026-00001", "QC-2026-00002"] ∧
      feeNoteNumbers Pilot.numberedPlay.2.state = [some "QD-2026-00001"]) ∧
      Gapless Pilot.numberedPlay.2.state := by
  refine ⟨by decide +kernel, ?_⟩
  have hrun : @BillingRun plainRuntime Pilot.numberedPlay.1 Pilot.numberedPlay.2 := by
    let _ := plainRuntime
    exact Exec.play Exec.init Pilot.numbered
  exact @BillingRun.gapless plainRuntime _ _ hrun

end Qift
