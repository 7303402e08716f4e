import Qift.Guarantee.Environment

/-!
# Guarantees of internal transfers

`gatherDues` reads what is owed, and what is owed stays owed (`Owed.rely`): a completed transfer confirms the
whole due of its settlement, and the unique index makes it the only one.
-/

namespace Qift

open Relational Relational.Table Interleaving Settlement Financial Treasury

section Services

variable [Runtime] {q : Lane} {s : World}

theorem Owed.rely {t : World} {d : Nat × InternalTransferDue} (h : Owed s.db.books d)
    (hs : Reachable s) (hst : Rely Step s t) : Owed t.db.books d := by
  have ht : Reachable t := hs.trans hst
  exact h.later hs.postings hs.recoveries ht.postings ht.recoveries (later_of_rely hst)

theorem gatherDues_owed :
    Serves q (fun dues t => ∀ d ∈ dues, Owed t.db.books d) gatherDues s :=
  Serves.bind Serves.read fun _ _ _ hread =>
    Serves.ofExcept fun hreach _ hdues => hreach.postings.owed (hread ▸ hdues)

theorem transferTx_step {draft : TransferDraft} {due : InternalTransferDue} {confirmedMinor : Int}
    {code : CurrencyCode} (hcode : asCurrencyCode due.currency.name = .ok code) {t u : World}
    {row : TreasuryInternalTransfer} (howed : Owed t.db.books (draft.settlementId, due))
    (hconfirmed : draft.status = .completed → confirmedMinor = due.dueMinor)
    (h : transferTx draft due confirmedMinor code t = .ok (row, u)) :
    Step (.internalTransfer draft.settlementId draft.valueDate draft.status) t u := by
  obtain rfl : code = due.currency := asCurrencyCode_name hcode
  simp only [transferTx, Tx.bind_eq_ok, insert_eq_ok] at h
  obtain ⟨_, w₁, ⟨rfl, transfers, hcreate, hclash, rfl⟩, h⟩ := h
  obtain ⟨⟨e, he, hn, hcurrency, -⟩, hdue⟩ := howed
  cases hstatus : draft.status with
  | completed =>
      obtain rfl := hconfirmed hstatus
      simp only [hstatus, if_true, Tx.bind_eq_ok, Tx.pure_eq_ok] at h
      obtain ⟨_, w₂, hrecord, _, _, haudit, -, rfl⟩ := h
      obtain ⟨ledger, n, rfl, hid, hposts, -⟩ := record_eq_ok hrecord
      have heffect := @Effect.transfer _ t.db.books draft due transfers ledger n hstatus hdue
        (minorDigits_of_asCurrencyCode hcode) ⟨e, he, hn, hcurrency⟩ (fun x hx heq hc => ?_) hcreate hposts
        (lt_of_lt_of_le (Nat.lt_succ_self _) hid)
      · unfold Step
        rw [recordGuaranteed_eq_ok haudit]
        exact heffect
      · exact of_decide_eq_false (hclash x hx) (Or.inr ⟨heq.symm, hstatus, hc⟩)
  | failed =>
      simp only [hstatus, reduceCtorEq, if_false, Tx.bind_eq_ok, Tx.pure_eq_ok] at h
      obtain ⟨_, _, haudit, -, rfl⟩ := h
      have heffect := @Effect.failedTransfer _ t.db.books _ draft.valueDate transfers (t.db.nextId + 1)
        hstatus hcreate (Nat.lt_succ_self _)
      unfold Step
      rw [recordGuaranteed_eq_ok haudit]
      exact heffect

theorem recordInternalTransfer_serves (actor : Nat) (input : InternalTransferInput) :
    Acts q (recordInternalTransfer actor input) s := by
  refine Serves.seq (Serves.ofExcept fun _ _ _ => trivial) fun draft s₁ _ => ?_
  refine Serves.bind gatherDues_owed fun dues s₂ _ howed => ?_
  split
  · exact Serves.fail
  · rename_i settlementId due hfind
    have hmem := List.mem_of_find?_eq_some hfind
    have hkey : settlementId = draft.settlementId := by simpa using List.find?_some hfind
    subst hkey
    refine Serves.reachable fun hs₂ => ?_
    refine Serves.seq (Serves.ensure fun _ _ => trivial) fun _ s₃ h₃ => ?_
    refine Serves.seq (Serves.query fun _ _ _ => trivial) fun existing s₄ h₄ => ?_
    refine Serves.seq (Serves.ensure fun _ _ => trivial) fun _ s₅ h₅ => ?_
    refine Serves.bind (P := fun code _ => asCurrencyCode due.currency.name = .ok code)
      (Serves.ofExcept fun _ _ h => h) fun code s₆ h₆ hcode => ?_
    refine Serves.bind Serves.guard fun _ s₇ h₇ hconfirmed => ?_
    refine Serves.tryCatch ?_ fun e _ _ => ?_
    · refine Serves.transaction rfl fun t row u _ h₇t h => ⟨?_, trivial⟩
      have hst := ((((h₃.trans h₄).trans h₅).trans h₆).trans h₇).trans h₇t
      exact transferTx_step hcode ((howed _ hmem).rely hs₂ hst) hconfirmed h
    · split
      · refine Serves.bind Serves.read fun completed _ _ _ => ?_
        split
        · exact Serves.fail
        · exact Serves.fail
      · exact Serves.fail

end Services

end Qift
