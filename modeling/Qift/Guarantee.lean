import Qift.Documents
import Qift.Collections
import Qift.Caps
import Qift.Dues

/-!
# What the calls guarantee

The program logic of the platform: every atomic action of a call is an effect on the books.

* `Step` is an action seen from the books, `Reachable` a state that effects lead to.
* `Serves q P x s` is the judgment on a call `x` started in `s`: under any interference of other calls its
  actions are effects, and success establishes `P`.  Only a call of the failure lane `q` writes a status by
  identifier and only a receiving one stores a receipt.
* The rules of the judgment follow the ways of building a call.  `Serves.transaction` is the only one with an
  obligation about the books.
-/

namespace Qift

open Relational Relational.Table Interleaving Settlement Financial

/-- What a call may write beside what every call may. -/
inductive Lane
  | quiet | receiving | failure
  deriving DecidableEq

def Lane.admits (q : Lane) : Site → Bool
  | .statusWrite .. => q = .failure
  | .receipt => q = .receiving
  | _ => true

section Rules

variable [Runtime]

/-- An action seen from the books. -/
def Step (l : Site) (w w' : World) : Prop := Effect l w.db.books w'.db.books

/-- A state that effects lead to. -/
abbrev Reachable : World → Prop := Rely Step World.empty

theorem Step.skip {l : Site} {w w' : World} {n : Nat} (hn : w.db.nextId ≤ n)
    (h : w'.db.books = { w.db.books with nextId := n }) : Step l w w' := by
  unfold Step
  rw [h]
  exact .skip hn

/-- An action that leaves the books alone. -/
theorem Step.idle {l : Site} {w w' : World} (h : w'.db.books = w.db.books) : Step l w w' :=
  Step.skip (le_refl _) h

theorem Step.refl (l : Site) (w : World) : Step l w w := Step.idle rfl

theorem Step.later {l : Site} {w w' : World} (h : Step l w w') : Later w.db.books w'.db.books :=
  Effect.later h

/-- What is kept over any interference. -/
theorem later_of_rely {s t : World} (h : Rely Step s t) : Later s.db.books t.db.books := by
  induction h with
  | refl => exact Later.refl _
  | tail _ hact ih =>
      obtain ⟨l, hl⟩ := hact
      exact ih.trans hl.later

theorem Reachable.custody {s : World} (h : Reachable s) : Custody s.db.books :=
  Rely.stable (P := fun w : World => Custody w.db.books) (fun _ _ _ hact hs => hs.effect hact) h
    custody_empty

theorem Reachable.documents {s : World} (h : Reachable s) : Documents s.db.books :=
  Rely.stable (P := fun w : World => Documents w.db.books) (fun _ _ _ hact hs => hs.effect hact) h
    documents_empty

/-- In every reachable state items stand for covered invoices. -/
theorem Reachable.collections {s : World} (h : Reachable s) : Collections s.db.books :=
  Rely.stable (P := fun w : World => Collections w.db.books) (fun _ _ _ hact hs => hs.effect hact) h
    collections_empty

theorem Reachable.caps {s : World} (h : Reachable s) : Caps s.db.books :=
  Rely.stable (P := fun w : World => Caps w.db.books) (fun _ _ _ hact hs => hs.effect hact) h
    caps_empty

/-- In every reachable state the postings stand for stored rows. -/
theorem Reachable.postings {s : World} (h : Reachable s) : Postings s.db.books :=
  Rely.stable (P := fun w : World => Postings w.db.books) (fun _ _ _ hact hs => hs.effect hact) h
    postings_empty

/-- In every reachable state the receivables tell what closed batches drew. -/
theorem Reachable.recoveries {s : World} (h : Reachable s) : Recoveries s.db.books :=
  Rely.stable (P := fun w : World => Recoveries w.db.books) (fun _ _ _ hact hs => hs.effect hact) h
    recoveries_empty

/-! ### The judgment -/

/-- The actions a call may perform. -/
def Allowed (q : Lane) (l : Site) (w w' : World) : Prop := q.admits l = true ∧ Step l w w'

/-- Started in a reachable state, the call performs allowed actions only and success establishes `P`. -/
def Serves {α : Type} (q : Lane) (P : α → World → Prop) (x : Service α) (s : World) : Prop :=
  Reachable s → x.Ensures (Rely Step) (Allowed q) (fun a t => Rely Step s t ∧ P a t) s

/-- A judgment without a conclusion. -/
abbrev Acts {α : Type} (q : Lane) (x : Service α) (s : World) : Prop :=
  Serves q (fun _ _ => True) x s

namespace Serves

variable {α β : Type} {q : Lane} {P Q : α → World → Prop} {s : World}

theorem mono {x : Service α} (h : Serves q P x s)
    (hP : ∀ a t, Reachable t → Rely Step s t → P a t → Q a t) : Serves q Q x s := fun hs =>
  (h hs).mono fun a t ⟨hst, ha⟩ => ⟨hst, hP a t (hs.trans hst) hst ha⟩

/-- A call is started in a reachable state. -/
theorem reachable {x : Service α} (h : Reachable s → Serves q P x s) : Serves q P x s :=
  fun hs => h hs hs

theorem pure {a : α} (h : Reachable s → P a s) : Serves q P (Pure.pure a) s := fun hs =>
  Svc.Ensures.pure ⟨Rely.refl s, h hs⟩

theorem fail {e : Err} : Serves q P (Svc.fail e) s := fun _ => Svc.Ensures.fail

theorem ofExcept {x : Except Err α} (h : Reachable s → ∀ a, x = .ok a → P a s) :
    Serves q P (Svc.ofExcept x) s := fun hs =>
  Svc.Ensures.ofExcept fun a ha => ⟨Rely.refl s, h hs a ha⟩

theorem ensure {c : Prop} [Decidable c] {e : Err} {P : Unit → World → Prop}
    (h : Reachable s → c → P () s) : Serves q P (Svc.ensure c e) s := fun hs =>
  Svc.Ensures.ensure fun hc => ⟨Rely.refl s, h hs hc⟩

theorem guard {c : Prop} [Decidable c] {e : Err} :
    Serves q (fun _ _ => c) (Svc.ensure c e) s := ensure fun _ hc => hc

theorem query {f : World → α} (h : ∀ t, Reachable t → Rely Step s t → P (f t) t) :
    Serves q P (Svc.query .read f) s := fun hs =>
  Svc.Ensures.query (fun t _ => ⟨rfl, Step.refl _ t⟩)
    fun t hst => ⟨hst, h t (hs.trans hst) hst⟩

/-- A read whose result is what the state held. -/
theorem read {f : World → α} : Serves q (fun a t => a = f t) (Svc.query .read f) s :=
  query fun _ _ _ => rfl

theorem transaction {l : Site} {tx : Transaction α} (hl : q.admits l = true)
    (h : ∀ t a u, Reachable t → Rely Step s t → tx t = .ok (a, u) → Step l t u ∧ P a u) :
    Serves q P (Svc.transaction l tx) s := fun hs =>
  Svc.Ensures.transaction (fun t _ => ⟨hl, Step.refl _ t⟩) fun t a u hst htx => by
    obtain ⟨hstep, hpost⟩ := h t a u (hs.trans hst) hst htx
    exact ⟨⟨hl, hstep⟩, hst.trans (Rely.single hstep), hpost⟩

/-- A transaction nobody asks anything of. -/
theorem act {l : Site} {tx : Transaction α} (hl : q.admits l = true)
    (h : ∀ t a u, tx t = .ok (a, u) → Step l t u) : Acts q (Svc.transaction l tx) s :=
  transaction hl fun t a u _ _ htx => ⟨h t a u htx, trivial⟩

/-- A transaction whose refusal is handled. -/
theorem attempt {l : Site} {tx : Transaction β} {g : β → α} {handler : Err → Service α}
    (hl : q.admits l = true)
    (h : ∀ t b u, Reachable t → Rely Step s t → tx t = .ok (b, u) → Step l t u ∧ P (g b) u)
    (herr : ∀ t e, Reachable t → Rely Step s t → tx t = .error e → Serves q P (handler e) t) :
    Serves q P (Svc.tryCatch (Svc.transaction l tx >>= fun b => Pure.pure (g b)) handler) s :=
  fun hs => by
    refine Svc.Ensures.attempt (fun t b u hst htx => ?_) fun t e hst htx => ?_
    · obtain ⟨hstep, hpost⟩ := h t b u (hs.trans hst) hst htx
      exact ⟨⟨hl, hstep⟩, hst.trans (Rely.single hstep), hpost⟩
    · exact ⟨⟨hl, Step.refl _ t⟩, (herr t e (hs.trans hst) hst htx (hs.trans hst)).mono
        fun _ _ ⟨htu, ha⟩ => ⟨hst.trans htu, ha⟩⟩

theorem bind {x : Service α} {g : α → Service β} {Q : β → World → Prop} (hx : Serves q P x s)
    (hg : ∀ a t, Rely Step s t → P a t → Serves q Q (g a) t) : Serves q Q (x >>= g) s := fun hs =>
  Svc.Ensures.bind (hx hs) fun a t ⟨hst, ha⟩ =>
    (hg a t hst ha (hs.trans hst)).mono fun _ _ ⟨htu, hb⟩ => ⟨hst.trans htu, hb⟩

/-- Sequencing after a call nobody asks about. -/
theorem seq {x : Service α} {g : α → Service β} {Q : β → World → Prop} (hx : Acts q x s)
    (hg : ∀ a t, Rely Step s t → Serves q Q (g a) t) : Serves q Q (x >>= g) s :=
  bind hx fun a t hst _ => hg a t hst

theorem tryCatch {x : Service α} {handler : Err → Service α} (hx : Serves q P x s)
    (hh : ∀ e t, Rely Step s t → Serves q P (handler e) t) :
    Serves q P (Svc.tryCatch x handler) s := fun hs =>
  Svc.Ensures.tryCatch Rely.refl (fun _ _ _ => Rely.trans)
    (fun _ _ _ hact => Rely.single hact.2) (hx hs) fun e t hst =>
      (hh e t hst (hs.trans hst)).mono fun _ _ ⟨htu, ha⟩ => ⟨hst.trans htu, ha⟩

theorem forEach {xs : List β} {g : β → Service Unit}
    (hg : ∀ x ∈ xs, ∀ t, Rely Step s t → Acts q (g x) t) : Acts q (Svc.forEach xs g) s := by
  induction xs generalizing s with
  | nil => exact Serves.pure fun _ => trivial
  | cons x rest ih =>
      refine Serves.bind (hg x (by simp) s (Rely.refl s)) fun _ t hst _ => ih fun y hy u htu => ?_
      exact hg y (by simp [hy]) u (hst.trans htu)

theorem collect {xs : List β} {g : β → Service α}
    (hg : ∀ x ∈ xs, ∀ t, Rely Step s t → Acts q (g x) t) : Acts q (Svc.collect xs g) s := by
  induction xs generalizing s with
  | nil => exact Serves.pure fun _ => trivial
  | cons x rest ih =>
      refine Serves.bind (hg x (by simp) s (Rely.refl s)) fun _ t hst _ => ?_
      refine Serves.bind (ih fun y hy u htu => hg y (by simp [hy]) u (hst.trans htu))
        fun _ _ _ _ => Serves.pure fun _ => trivial

/-- Forget the conclusion. -/
theorem acts {x : Service α} (h : Serves q P x s) : Acts q x s := h.mono fun _ _ _ _ _ => trivial

theorem answer {x : Service α} (h : Acts q x s) {P : Reply → World → Prop}
    (hP : ∀ t, P .done t) : Serves q P (answer x) s :=
  Serves.seq h fun _ t _ => Serves.pure fun _ => hP t

end Serves

/-! ### Small services -/

variable {q : Lane} {s : World}

theorem now_serves : Acts q now s := Serves.query fun _ _ _ => trivial

theorem gatesAttested_serves : Acts q gatesAttested s := Serves.query fun _ _ _ => trivial

theorem audit_serves (auditKey : AuditKey) : Acts q (audit auditKey) s :=
  Serves.act rfl fun _ _ _ h => Step.idle (congrArg Db.books (recordGuaranteed_eq_ok h))

theorem assertGatesOpen_serves : Acts q assertGatesOpen s :=
  Serves.seq gatesAttested_serves fun _ _ _ => Serves.ensure fun _ _ => trivial

theorem allocateReference_serves (isTaken : String → World → Bool) (candidates : List String)
    (attempts : Nat) : Acts q (allocateReference isTaken candidates attempts) s := by
  induction candidates generalizing attempts s with
  | nil => exact Serves.fail
  | cons candidate rest ih =>
      cases attempts with
      | zero => exact Serves.fail
      | succ attempts =>
          refine Serves.bind Serves.read fun taken t _ _ => ?_
          split
          · exact ih attempts
          · exact Serves.pure fun _ => trivial

theorem record_step {l : Site} {input : RecordLedgerInput} {w w' : World} {r : FinancialLedgerEntry}
    (h : record input w = .ok (r, w')) (hneutral : Neutral w.db.nextId input) : Step l w w' := by
  obtain ⟨ledger, n, rfl, hn, hposts, -⟩ := record_eq_ok h
  exact Effect.posting hneutral hposts hn

theorem recordBestEffort_serves {input : RecordLedgerInput}
    (hneutral : ∀ t, Rely Step s t → Neutral t.db.nextId input) :
    Acts q (recordBestEffort input) s := by
  refine Serves.tryCatch (Serves.seq ?_ fun _ _ _ => Serves.pure fun _ => trivial)
    fun _ _ _ => Serves.pure fun _ => trivial
  exact Serves.transaction rfl fun t _ _ _ hst h =>
    ⟨record_step h (hneutral t hst), trivial⟩

end Rules

end Qift
