import Qift.Lib.Part
import Qift.Lib.Row
import Qift.Shop.Gifts

/-!
# The legal number of a merchant's invoice

`merchant-invoice.service.ts`: the merchant is the legal seller, and its number is recorded with the source it comes from
and the mandate under which it may be issued on the merchant's behalf.

* `attachLegalReference` checks a request against the invoice it has read and writes five columns by identifier.
* `Sound` — the invoice names a known source, and a mandate where that asks for one: **`Run.sound`**.
* `Fresh` — an invoice with a number is written by a call that had read a number, or with the number and source it has.
* **`Run.frozen`** — the number and the source stay as they are in every run, exactly if its writes are fresh; a refused
  call changes nothing in any run.
* `Run.renumbered` — two first attachments that overlap.
-/

namespace Qift.LegalReference

open Relational Relational.Table Interleaving

/-! ### Invoices -/

/-- The columns of a merchant invoice that a legal reference is about. -/
structure MerchantInvoice where
  id : Nat
  orgId : Nat
  campaignId : Nat
  storeId : Nat
  merchantInvoiceNumber : Option String
  merchantInvoiceExternalId : Option String
  merchantInvoiceUrl : Option String
  invoiceNumberSource : String
  onBehalfAuthorizationRef : Option String

/-- An audit row `org.merchant_invoice.legal_reference_attached`. -/
structure LegalReferenceAudit where
  actorUserId : String
  targetId : Nat
  merchantInvoiceId : Nat
  campaignId : Nat
  storeId : Nat
  source : String
  merchantInvoiceNumber : Option String

structure LegalInvoices where
  nextId : Nat
  invoices : Table MerchantInvoice.id
  auditLogs : List LegalReferenceAudit

def LegalInvoices.empty : LegalInvoices where
  nextId := 0
  invoices := Table.empty
  auditLogs := []

/-- One invoice for a campaign and a store. -/
abbrev merchantInvoice : Delegate LegalInvoices MerchantInvoice.id where
  table := LegalInvoices.invoices
  store t w := { w with invoices := t }
  conflict a b := a.campaignId = b.campaignId && a.storeId = b.storeId

structure LegalReferenceInput where
  merchantInvoiceNumber : Option String := none
  merchantInvoiceExternalId : Option String := none
  merchantInvoiceUrl : Option String := none
  source : Option String := none
  onBehalfAuthorizationRef : Option String := none

/-- An atomic action. -/
inductive Step
  | read
  | issue
  /-- The write of a call that had read `invoice`. -/
  | attach (invoice : MerchantInvoice) (input : LegalReferenceInput)
  | audit

abbrev Service := Svc LegalInvoices Step Err

/-! ### The calls -/

def MERCHANT_INVOICE_SOURCES : List String := ["MERCHANT", "ACCOUNTING_CONNECTOR", "QIFT_ON_BEHALF"]

/-- The source that is asked for, or else the one that was read. -/
def LegalReferenceInput.sourceFor (input : LegalReferenceInput) (invoice : MerchantInvoice) : String :=
  (input.source.map trim).getD invoice.invoiceNumberSource

/-- The mandate that is given, or else the one that was read. -/
def LegalReferenceInput.authRefFor (input : LegalReferenceInput) (invoice : MerchantInvoice) : Option String :=
  (Shop.trimOrNull input.onBehalfAuthorizationRef).or (invoice.onBehalfAuthorizationRef.filter fun r => r ≠ "")

def LegalReferenceInput.number (input : LegalReferenceInput) : Option String :=
  Shop.trimOrNull input.merchantInvoiceNumber

/-- The invoice that was read has a number. -/
def MerchantInvoice.numbered (invoice : MerchantInvoice) : Bool := invoice.merchantInvoiceNumber.any fun n => n ≠ ""

/-- What the write makes of the row. -/
def LegalReferenceInput.onto (input : LegalReferenceInput) (invoice row : MerchantInvoice) : MerchantInvoice :=
  { row with
    merchantInvoiceNumber := invoice.merchantInvoiceNumber.or input.number
    merchantInvoiceExternalId := (input.merchantInvoiceExternalId.map trim).or invoice.merchantInvoiceExternalId
    merchantInvoiceUrl := (input.merchantInvoiceUrl.map trim).or invoice.merchantInvoiceUrl
    invoiceNumberSource := input.sourceFor invoice
    onBehalfAuthorizationRef := input.authRefFor invoice }

theorem LegalReferenceInput.onto_id (input : LegalReferenceInput) (invoice row : MerchantInvoice) :
    (input.onto invoice row).id = row.id := rfl

def attachTx (invoice : MerchantInvoice) (input : LegalReferenceInput) : Tx LegalInvoices Err MerchantInvoice :=
  merchantInvoice.update (.error "record to update not found") invoice.id (input.onto invoice) (input.onto_id invoice)

def attachLegalReference (actorUserId : String) (merchantInvoiceId : Nat) (input : LegalReferenceInput) :
    Service MerchantInvoice := do
  let found ← Svc.query .read fun w => w.invoices.find merchantInvoiceId
  match found with
  | none => Svc.fail (.notFound "merchant_invoice_not_found")
  | some invoice => do
      let source := input.sourceFor invoice
      Svc.ensure (source ∈ MERCHANT_INVOICE_SOURCES) (.badRequest "invalid_invoice_number_source")
      Svc.ensure (source = "QIFT_ON_BEHALF" → (input.authRefFor invoice).isSome)
        (.badRequest "on_behalf_authorization_required")
      Svc.ensure (invoice.numbered → ∀ n ∈ input.number, some n = invoice.merchantInvoiceNumber)
        (.badRequest "merchant_invoice_number_immutable")
      Svc.ensure (invoice.numbered → source = invoice.invoiceNumberSource) (.badRequest "invoice_number_source_frozen")
      let updated ← Svc.transaction (.attach invoice input) (attachTx invoice input)
      -- an audit that cannot be written does not fail the request
      Svc.tryCatch
        (Svc.transaction .audit (Tx.modify fun w => { w with auditLogs := w.auditLogs ++
          [{ actorUserId := actorUserId
             targetId := invoice.orgId
             merchantInvoiceId := merchantInvoiceId
             campaignId := invoice.campaignId
             storeId := invoice.storeId
             source := source
             merchantInvoiceNumber := updated.merchantInvoiceNumber }] }))
        fun _ => pure ()
      pure updated

/-- An invoice as it is issued with the approval of a campaign: no number, and the merchant is to supply it. -/
def issueTx (orgId campaignId storeId : Nat) : Tx LegalInvoices Err MerchantInvoice := do
  let id ← (fun w => .ok (w.nextId, { w with nextId := w.nextId + 1 }) : Tx LegalInvoices Err Nat)
  merchantInvoice.create (.p2002 "MerchantInvoice")
    { id := id
      orgId := orgId
      campaignId := campaignId
      storeId := storeId
      merchantInvoiceNumber := none
      merchantInvoiceExternalId := none
      merchantInvoiceUrl := none
      invoiceNumberSource := "MERCHANT"
      onBehalfAuthorizationRef := none }

inductive Call
  | issue (orgId campaignId storeId : Nat)
  | attachLegalReference (actorUserId : String) (merchantInvoiceId : Nat) (input : LegalReferenceInput)

def program : Call → Service MerchantInvoice
  | .issue orgId campaignId storeId => Svc.transaction .issue (issueTx orgId campaignId storeId)
  | .attachLegalReference actorUserId merchantInvoiceId input => attachLegalReference actorUserId merchantInvoiceId input

/-- Any interleaving of the calls, from a database without invoices. -/
abbrev Run := Exec program LegalInvoices.empty

/-! ### What the writes do -/

/-- A known source, with a mandate where Qift issues the number. -/
def MerchantInvoice.Sound (invoice : MerchantInvoice) : Prop :=
  invoice.merchantInvoiceNumber ≠ some "" ∧ invoice.invoiceNumberSource ∈ MERCHANT_INVOICE_SOURCES ∧
    (invoice.invoiceNumberSource = "QIFT_ON_BEHALF" → ∃ r, invoice.onBehalfAuthorizationRef = some r ∧ r ≠ "")

def LegalInvoices.Sound (w : LegalInvoices) : Prop := ∀ row ∈ w.invoices.rows, row.Sound

/-- What the checks have let through. -/
structure Checked (invoice : MerchantInvoice) (input : LegalReferenceInput) : Prop where
  sound : invoice.Sound
  source : input.sourceFor invoice ∈ MERCHANT_INVOICE_SOURCES
  mandate : input.sourceFor invoice = "QIFT_ON_BEHALF" → (input.authRefFor invoice).isSome = true
  number : invoice.numbered = true → ∀ n ∈ input.number, some n = invoice.merchantInvoiceNumber
  frozen : invoice.numbered = true → input.sourceFor invoice = invoice.invoiceNumberSource

/-- The effect of an action. -/
def Writes (l : Step) (s t : LegalInvoices) : Prop :=
  match l with
  | .read => t = s
  | .issue => t = s ∨
      ∃ row T, row.Sound ∧ s.invoices.create row = some T ∧ t = { s with nextId := s.nextId + 1, invoices := T }
  | .attach invoice input => Checked invoice input ∧ (t = s ∧ s.invoices.find invoice.id = none ∨
      (s.invoices.find invoice.id).isSome = true ∧
        t = { s with invoices := s.invoices.update invoice.id (input.onto invoice) (input.onto_id invoice) })
  | .audit => t.invoices = s.invoices

variable {invoice row : MerchantInvoice} {input : LegalReferenceInput} {l : Step} {s t : LegalInvoices}

theorem trimOrNull_ne_empty {x : Option String} {r : String} (h : Shop.trimOrNull x = some r) : r ≠ "" := by
  unfold Shop.trimOrNull at h
  simpa using (Option.filter_eq_some_iff.mp h).2

theorem numbered_iff (h : invoice.Sound) : invoice.numbered = true ↔ ∃ n, invoice.merchantInvoiceNumber = some n := by
  unfold MerchantInvoice.numbered
  constructor
  · intro hany
    obtain ⟨n, hn, -⟩ := (Option.any_eq_true _ _).mp hany
    exact ⟨n, hn⟩
  · rintro ⟨n, hn⟩
    have hne : n ≠ "" := by
      rintro rfl
      exact h.1 hn
    simp [hn, hne]

theorem Checked.onto (h : Checked invoice input) (row : MerchantInvoice) : (input.onto invoice row).Sound := by
  refine ⟨?_, h.source, fun hbehalf => ?_⟩
  · change invoice.merchantInvoiceNumber.or input.number ≠ some ""
    intro hempty
    cases hnumber : invoice.merchantInvoiceNumber with
    | some n =>
        rw [hnumber, Option.some_or] at hempty
        exact h.sound.1 (hnumber.trans hempty)
    | none =>
        rw [hnumber, Option.none_or] at hempty
        exact trimOrNull_ne_empty hempty rfl
  · change ∃ r, input.authRefFor invoice = some r ∧ r ≠ ""
    obtain ⟨r, hr⟩ := Option.isSome_iff_exists.mp (h.mandate hbehalf)
    refine ⟨r, hr, ?_⟩
    unfold LegalReferenceInput.authRefFor at hr
    rcases Option.or_eq_some_iff.mp hr with hgiven | ⟨-, hstored⟩
    · exact trimOrNull_ne_empty hgiven
    · simpa using (Option.filter_eq_some_iff.mp hstored).2

theorem Writes.sound (h : Writes l s t) (hs : s.Sound) : t.Sound := by
  intro x hx
  cases l with
  | read =>
      cases h
      exact hs x hx
  | issue =>
      rcases h with rfl | ⟨row, T, hrow, hcreate, rfl⟩
      · exact hs x hx
      · rcases (mem_create hcreate).mp hx with hx | rfl
        · exact hs x hx
        · exact hrow
  | attach invoice input =>
      obtain ⟨hchecked, ⟨rfl, -⟩ | ⟨-, rfl⟩⟩ := h
      · exact hs x hx
      · obtain ⟨r, hr, rfl⟩ := of_mem_updateMany (input.onto_id invoice) hx
        split
        · exact hchecked.onto r
        · exact hs r hr
  | audit => exact hs x (h ▸ hx)

/-! ### What stays -/

/-- An invoice with a number keeps it and its source. -/
def Frozen (s t : LegalInvoices) : Prop :=
  ∀ id row n, s.invoices.find id = some row → row.merchantInvoiceNumber = some n →
    ∃ row', t.invoices.find id = some row' ∧ row'.merchantInvoiceNumber = some n ∧
      row'.invoiceNumberSource = row.invoiceNumberSource

theorem Frozen.refl (s : LegalInvoices) : Frozen s s := fun _ row _ hrow hn => ⟨row, hrow, hn, rfl⟩

theorem Frozen.trans {u : LegalInvoices} (h : Frozen s t) (h' : Frozen t u) : Frozen s u := by
  intro id row n hrow hn
  obtain ⟨row', hrow', hn', hsource⟩ := h id row n hrow hn
  obtain ⟨row'', hrow'', hn'', hsource'⟩ := h' id row' n hrow' hn'
  exact ⟨row'', hrow'', hn'', hsource'.trans hsource⟩

/-- Where the row has a number when it is written, the call had read one, or writes the number and the source it has. -/
def Fresh (e : Event LegalInvoices Step) : Prop :=
  match e.lbl with
  | .attach invoice input => ∀ row ∈ e.pre.invoices.find invoice.id, row.merchantInvoiceNumber.isSome = true →
      invoice.merchantInvoiceNumber.isSome = true ∨
        (input.number = row.merchantInvoiceNumber ∧ input.sourceFor invoice = row.invoiceNumberSource)
  | _ => True

theorem find_onto (h : s.invoices.find invoice.id = some row) :
    (s.invoices.update invoice.id (input.onto invoice) (input.onto_id invoice)).find invoice.id =
      some (input.onto invoice row) := find_update_self h

/-- What a write that goes through does to the number of the row. -/
theorem frozen_update (hstored : s.invoices.find invoice.id = some row)
    (h : ∀ n, row.merchantInvoiceNumber = some n →
      (input.onto invoice row).merchantInvoiceNumber = some n ∧
        (input.onto invoice row).invoiceNumberSource = row.invoiceNumberSource) :
    Frozen s { s with invoices := s.invoices.update invoice.id (input.onto invoice) (input.onto_id invoice) } := by
  intro id row' n hrow hn
  by_cases hid : id = invoice.id
  · subst hid
    cases hstored.symm.trans hrow
    exact ⟨_, find_onto hstored, h n hn⟩
  · refine ⟨row', ?_, hn, rfl⟩
    change (s.invoices.update invoice.id (input.onto invoice) (input.onto_id invoice)).find id = some row'
    rw [find_update, if_neg hid]
    exact hrow

theorem Writes.fresh (h : Writes l s t) (hfrozen : Frozen s t) : Fresh ⟨s, l, t⟩ := by
  cases l with
  | read | issue | audit => trivial
  | attach invoice input =>
      intro row hrow hnumber
      obtain ⟨-, ⟨-, hnone⟩ | ⟨-, rfl⟩⟩ := h
      · cases hnone.symm.trans hrow
      · obtain ⟨n, hn⟩ := Option.isSome_iff_exists.mp hnumber
        obtain ⟨row', hrow', hn', hsource⟩ := hfrozen invoice.id row n hrow hn
        obtain rfl : input.onto invoice row = row' := Option.some.inj ((find_onto hrow).symm.trans hrow')
        change invoice.merchantInvoiceNumber.or input.number = some n at hn'
        rcases Option.or_eq_some_iff.mp hn' with hread | ⟨-, hgiven⟩
        · exact Or.inl (Option.isSome_iff_exists.mpr ⟨n, hread⟩)
        · exact Or.inr ⟨hgiven.trans hn.symm, hsource⟩

/-- A fresh write keeps them, where they were kept since the call has read the invoice. -/
theorem Writes.frozen (h : Writes l s t) (hfresh : Fresh ⟨s, l, t⟩)
    (hkept : ∀ invoice input, l = .attach invoice input →
      ∃ s₀, s₀.invoices.find invoice.id = some invoice ∧ Frozen s₀ s) :
    Frozen s t := by
  cases l with
  | read =>
      cases h
      exact Frozen.refl s
  | issue =>
      rcases h with rfl | ⟨row, T, -, hcreate, rfl⟩
      · exact Frozen.refl _
      · exact fun id row' n hrow hn => ⟨row', find_create_of_find hcreate hrow, hn, rfl⟩
  | attach invoice input =>
      obtain ⟨hchecked, ⟨rfl, -⟩ | ⟨hstored, rfl⟩⟩ := h
      · exact Frozen.refl _
      · obtain ⟨row, hrow⟩ := Option.isSome_iff_exists.mp hstored
        refine frozen_update hrow fun n hn => ?_
        rcases hfresh row hrow (Option.isSome_iff_exists.mpr ⟨n, hn⟩) with hread | ⟨hnumber, hsource⟩
        · -- the number that was read is still there
          obtain ⟨m, hm⟩ := Option.isSome_iff_exists.mp hread
          obtain ⟨s₀, hfirst, hsince⟩ := hkept invoice input rfl
          obtain ⟨row', hrow', hm', hsource'⟩ := hsince invoice.id invoice m hfirst hm
          obtain rfl : row = row' := Option.some.inj (hrow.symm.trans hrow')
          obtain rfl : n = m := Option.some.inj (hn.symm.trans hm')
          refine ⟨?_, (hchecked.frozen ((numbered_iff hchecked.sound).mpr ⟨n, hm⟩)).trans hsource'.symm⟩
          change invoice.merchantInvoiceNumber.or input.number = some n
          rw [hm, Option.some_or]
        · refine ⟨?_, hsource⟩
          change invoice.merchantInvoiceNumber.or input.number = some n
          cases hread : invoice.merchantInvoiceNumber with
          | none => rw [Option.none_or, hnumber, hn]
          | some m =>
              obtain ⟨s₀, hfirst, hsince⟩ := hkept invoice input rfl
              obtain ⟨row', hrow', hm', -⟩ := hsince invoice.id invoice m hfirst hread
              obtain rfl : row = row' := Option.some.inj (hrow.symm.trans hrow')
              rw [Option.some_or, ← hm', hn]
  | audit =>
      intro id row n hrow hn
      exact ⟨row, h ▸ hrow, hn, rfl⟩

/-! ### The calls among each other -/

theorem issueTx_writes {a : MerchantInvoice} {orgId campaignId storeId : Nat}
    (h : issueTx orgId campaignId storeId s = .ok (a, t)) : Writes .issue s t := by
  obtain ⟨id, s', hid, hcreate⟩ := Tx.bind_eq_ok.mp h
  cases hid
  obtain ⟨T, hT, -, rfl, rfl⟩ := Delegate.create_eq_ok.mp hcreate
  refine Or.inr ⟨_, T, ⟨?_, ?_, ?_⟩, hT, rfl⟩
  · exact fun h => nomatch h
  · exact List.mem_cons_self
  · intro hbehalf
    have hother : ("MERCHANT" : String) ≠ "QIFT_ON_BEHALF" := by decide
    exact absurd hbehalf hother

theorem attachLegalReference_under {C : Event LegalInvoices Step → Prop}
    {E : Step → LegalInvoices → LegalInvoices → Prop}
    (hsound : ∀ l s t, E l s t → s.Sound → t.Sound) (hread : ∀ s, E .read s s)
    (hwrite : ∀ s₀ s t invoice input, s₀.invoices.find invoice.id = some invoice → Rely E s₀ s →
      Writes (.attach invoice input) s t → C ⟨s, .attach invoice input, t⟩ → E (.attach invoice input) s t)
    (haudit : ∀ s t : LegalInvoices, t.invoices = s.invoices → E .audit s t)
    (actorUserId : String) (merchantInvoiceId : Nat) (input : LegalReferenceInput) (hs : s.Sound) :
    (attachLegalReference actorUserId merchantInvoiceId input).Under C (Rely E) E (fun _ _ => True) s := by
  unfold attachLegalReference
  refine Svc.Under.bind (Q := fun r t => ∀ found, r = .ok found → t.Sound ∧ found = t.invoices.find merchantInvoiceId)
    (Svc.Under.query fun t ht _ => ⟨hread t, ?_⟩) (fun found t ht => ?_) fun _ _ _ => trivial
  · rintro found hfound
    cases hfound
    exact ⟨Rely.stable hsound ht hs, rfl⟩
  obtain ⟨hsoundt, hfound⟩ := ht found rfl
  cases found with
  | none => exact Svc.Under.fail trivial
  | some invoice =>
      have hstored := hfound.symm
      obtain rfl := key_of_find hstored
      refine Svc.Under.guard (fun hsource => ?_) trivial
      refine Svc.Under.guard (fun hmandate => ?_) trivial
      refine Svc.Under.guard (fun hnumber => ?_) trivial
      refine Svc.Under.guard (fun hfrozen => ?_) trivial
      have hchecked : Checked invoice input :=
        ⟨hsoundt invoice (mem_of_find hstored), hsource, hmandate, hnumber, hfrozen⟩
      refine Svc.Under.bind (Q := fun _ _ => True)
        (Svc.Under.transaction (fun u a v hu htx hC => ?_) fun u e hu htx hC => ?_)
        (fun updated u _ => ?_) fun _ _ _ => trivial
      · obtain ⟨row, hrow, -, rfl⟩ := Delegate.update_eq_ok.mp htx
        have hsome : (u.invoices.find invoice.id).isSome = true := Option.isSome_iff_exists.mpr ⟨row, hrow⟩
        exact ⟨hwrite t u _ invoice input hstored hu ⟨hchecked, .inr ⟨hsome, rfl⟩⟩ hC, trivial⟩
      · obtain ⟨hnone, -⟩ := Delegate.update_eq_error.mp htx
        exact ⟨hwrite t u u invoice input hstored hu ⟨hchecked, .inl ⟨rfl, hnone⟩⟩ hC, trivial⟩
      · refine Svc.Under.bind (Q := fun _ _ => True) ?_ (fun _ _ _ => Svc.Under.pure trivial) fun _ _ _ => trivial
        refine Svc.Under.tryCatch (Q := fun _ _ => True) ?_ (fun _ _ _ => trivial) fun _ _ _ => Svc.Under.pure trivial
        refine Svc.Under.transaction (fun v a v' _ htx _ => ⟨haudit v v' ?_, trivial⟩)
          fun v e _ htx _ => ⟨haudit v v rfl, trivial⟩
        cases htx
        rfl

/-- A call that is refused has changed nothing. -/
theorem attachLegalReference_spares (actorUserId : String) (merchantInvoiceId : Nat) (input : LegalReferenceInput) :
    (attachLegalReference actorUserId merchantInvoiceId input).Spares := by
  unfold attachLegalReference
  refine Svc.Spares.query fun found => ?_
  cases found with
  | none => exact Svc.Spares.fail _
  | some invoice =>
      refine Svc.Spares.guard fun _ => Svc.Spares.guard fun _ => Svc.Spares.guard fun _ => Svc.Spares.guard fun _ => ?_
      refine Svc.Spares.transaction fun updated => ?_
      exact Svc.Succeeds.caught (fun _ => Svc.Succeeds.pure updated) fun _ => Svc.Succeeds.pure updated

theorem issue_spares (orgId campaignId storeId : Nat) :
    (Svc.transaction .issue (issueTx orgId campaignId storeId) : Service MerchantInvoice).Spares :=
  Svc.Spares.last

/-! ### Runs -/

variable {tr : List (Event LegalInvoices Step)} {cfg : Config LegalInvoices Step (Except Err MerchantInvoice)}

theorem sound_empty : LegalInvoices.empty.Sound := fun _ hrow => nomatch hrow

theorem Run.path (h : Run tr cfg) : Path Writes LegalInvoices.empty tr cfg.state := by
  have hrun := Exec.under (C := fun _ => True) (E := Writes) (A := Writes) (Q := fun _ _ => True)
    (fun _ _ _ _ _ => trivial) (fun _ _ _ hact => hact) (fun c s hs => ?_) h fun _ _ => trivial
  · exact hrun.1
  cases c with
  | issue orgId campaignId storeId =>
      exact Svc.Under.transaction (fun _ _ _ _ htx _ => ⟨issueTx_writes htx, trivial⟩)
        fun _ _ _ _ _ => ⟨.inl rfl, trivial⟩
  | attachLegalReference actorUserId merchantInvoiceId input =>
      exact attachLegalReference_under (E := Writes) (fun _ _ _ => Writes.sound) (fun _ => rfl)
        (fun _ _ _ _ _ _ _ hact _ => hact) (fun _ _ h => h) actorUserId merchantInvoiceId input
        (Rely.stable (P := LegalInvoices.Sound) (fun _ _ _ => Writes.sound) hs sound_empty)

theorem Run.fresh_path (h : Run tr cfg) (hfresh : ∀ e ∈ tr, Fresh e) :
    Path (fun l s t => Writes l s t ∧ Frozen s t) LegalInvoices.empty tr cfg.state := by
  have hrun := Exec.under (C := Fresh) (E := fun l s t => Writes l s t ∧ Frozen s t)
    (A := fun l s t => Writes l s t ∧ Frozen s t) (Q := fun _ _ => True)
    (fun _ _ _ _ _ => trivial) (fun _ _ _ hact => hact) (fun c s hs => ?_) h hfresh
  · exact hrun.1
  have hsound : ∀ l (s t : LegalInvoices), Writes l s t ∧ Frozen s t → s.Sound → t.Sound :=
    fun _ _ _ hact => hact.1.sound
  cases c with
  | issue orgId campaignId storeId =>
      refine Svc.Under.transaction (fun u _ v _ htx hC => ⟨⟨issueTx_writes htx, ?_⟩, trivial⟩) fun u _ _ _ _ =>
        ⟨⟨.inl rfl, Frozen.refl u⟩, trivial⟩
      exact (issueTx_writes htx).frozen hC fun _ _ hl => nomatch hl
  | attachLegalReference actorUserId merchantInvoiceId input =>
      refine attachLegalReference_under hsound (fun u => ⟨rfl, Frozen.refl u⟩)
        (fun s₀ u v invoice input hfirst hu hact hC => ?_)
        (fun u v huv => ⟨huv, fun id row n hrow hn => ⟨row, huv ▸ hrow, hn, rfl⟩⟩)
        actorUserId merchantInvoiceId input (Rely.stable hsound hs sound_empty)
      refine ⟨hact, hact.frozen hC fun invoice' input' hl => ?_⟩
      cases hl
      refine ⟨s₀, hfirst, ?_⟩
      exact Rely.stable (P := fun v => Frozen s₀ v) (fun _ _ _ hact hfrozen => hfrozen.trans hact.2) hu (Frozen.refl s₀)

/-- **Qift is the source only under a mandate**, in every state of every run. -/
theorem Run.sound (h : Run tr cfg) : cfg.state.Sound :=
  h.path.invariant (C := fun _ => True) (fun _ _ _ hact _ => hact.sound) (fun _ _ => trivial) sound_empty

/-- **The legal number is frozen**: no action of a run changes a number or its source, exactly if the writes are fresh,
and then they stay to the end what they were; the source is Qift only under a mandate; and a refused call has changed
nothing. -/
theorem Run.number_frozen (h : Run tr cfg) :
    ((∀ e ∈ tr, Frozen e.pre e.post) ↔ ∀ e ∈ tr, Fresh e) ∧
      ((∀ e ∈ tr, Fresh e) → ∀ e ∈ tr, Frozen e.pre cfg.state) ∧
      (∀ row ∈ cfg.state.invoices.rows, row.invoiceNumberSource = "QIFT_ON_BEHALF" →
        ∃ r, row.onBehalfAuthorizationRef = some r ∧ r ≠ "") ∧
      ∀ e, .done (.error e) ∈ cfg.pool → ∃ c tr', tr'.Sublist tr ∧
        Prog.Plays (program c) tr' (.done (.error e)) ∧ ∀ ev ∈ tr', ev.post = ev.pre := by
  refine ⟨⟨fun hfrozen e he => ?_, fun hfresh e he => ?_⟩, fun hfresh e he => ?_, fun row hrow => ?_, fun e he => ?_⟩
  · obtain ⟨tr₁, tr₂, -, -, hact, -⟩ := h.path.split he
    exact hact.fresh (hfrozen e he)
  · obtain ⟨tr₁, tr₂, -, -, hact, -⟩ := (h.fresh_path hfresh).split he
    exact hact.2
  · obtain ⟨tr₁, tr₂, -, -, hact, hafter⟩ := (h.fresh_path hfresh).split he
    exact Rely.stable (P := fun v => Frozen e.pre v) (fun _ _ _ hnext hfrozen => hfrozen.trans hnext.2)
      hafter.rely hact.2
  · exact (h.sound row hrow).2.2
  · obtain ⟨c, tr', hsub, hplays⟩ := h.plays _ he
    refine ⟨c, tr', hsub, hplays, ?_⟩
    have hspares : (program c).Spares := by
      cases c with
      | issue orgId campaignId storeId => exact issue_spares orgId campaignId storeId
      | attachLegalReference actorUserId merchantInvoiceId input =>
          exact attachLegalReference_spares actorUserId merchantInvoiceId input
    rcases Prog.Spares.unchanged hspares hplays with ⟨-, hsame⟩ | ⟨a, ha⟩
    · exact hsame
    · cases ha

/-! ### Renumbered -/

instance (e : Event LegalInvoices Step) : Decidable (Fresh e) := by
  unfold Fresh
  split
  · infer_instance
  · exact .isTrue trivial

namespace Pilot

/-- Follow a schedule from the empty database. -/
def played (schedule : List (Choice Call)) :
    List (Event LegalInvoices Step) × Config LegalInvoices Step (Except Err MerchantInvoice) :=
  Config.play program ⟨LegalInvoices.empty, []⟩ schedule

theorem run (schedule : List (Choice Call)) : Run (played schedule).1 (played schedule).2 := by
  have hinit : Run [] ⟨LegalInvoices.empty, []⟩ := Exec.init
  simpa [played] using hinit.play schedule

/-- Start a call and let it end. -/
def toEnd (c : Call) : List (Choice Call) := .start c :: List.replicate 3 (.run 0)

/-- The attachment of a number. -/
def numbering (number : String) : Call :=
  .attachLegalReference "ops" 0 { merchantInvoiceNumber := some number }

/-- A number is attached, attached again, and another one is refused. -/
def numbered : List (Choice Call) :=
  toEnd (.issue 0 0 0) ++ toEnd (numbering "A-1") ++ toEnd (numbering "A-1") ++ toEnd (numbering "A-2")

/-- Two calls read the invoice before either writes its number. -/
def overlapping : List (Choice Call) :=
  toEnd (.issue 0 0 0) ++ [.start (numbering "A-1"), .run 0, .start (numbering "A-2"), .run 0, .run 1, .run 0]

end Pilot

theorem Run.number_frozen_numbered :
    (Pilot.played Pilot.numbered).1 ≠ [] ∧ ∀ e ∈ (Pilot.played Pilot.numbered).1, Frozen e.pre e.post :=
  ⟨List.isEmpty_eq_false_iff.mp (by decide +kernel),
    (Run.number_frozen (Pilot.run Pilot.numbered)).1.mpr (by decide +kernel)⟩

/-- **Renumbered**: the invoice has one legal number, and after the next action another one. -/
theorem Run.renumbered : ∃ tr cfg, Run tr cfg ∧ ∃ e ∈ tr,
    (e.pre.invoices.find 0).bind MerchantInvoice.merchantInvoiceNumber = some "A-1" ∧
      (e.post.invoices.find 0).bind MerchantInvoice.merchantInvoiceNumber = some "A-2" := by
  refine ⟨_, _, Pilot.run Pilot.overlapping, ?_⟩
  have hlast : (Pilot.played Pilot.overlapping).1.any (fun e =>
      (e.pre.invoices.find 0).bind MerchantInvoice.merchantInvoiceNumber = some "A-1" &&
        (e.post.invoices.find 0).bind MerchantInvoice.merchantInvoiceNumber = some "A-2") = true := by decide +kernel
  obtain ⟨e, he, hboth⟩ := List.any_eq_true.mp hlast
  rw [Bool.and_eq_true] at hboth
  exact ⟨e, he, of_decide_eq_true hboth.1, of_decide_eq_true hboth.2⟩

end Qift.LegalReference
