import Qift.Site

/-!
# The financial ledger

The append-only write path of `financial-ledger.service.ts`.

* `record` validates a posting and appends it; a posting whose key is already taken returns the stored row.
* `Posts` says what one posting did to the ledger, `PostsAll` what a list of them did; `record_eq_ok` reads a
  successful call as a `Posts`.
* `Posts.keep` — nothing is lost.
-/

namespace Qift.Financial

open Relational Interleaving

abbrev Ledger := Table FinancialLedgerEntry.id

structure RecordLedgerInput where
  eventType : FinancialEvent
  reasonCode : String
  amount : Number
  currency : CurrencyCode
  direction : LedgerDirection
  orderId : Option Nat := none
  storeId : Option Nat := none
  metadata : LedgerMetadata := {}
  idempotencyKey : Option LedgerKey

def ledgerIdempotencyKey (eventType : FinancialEvent) (anchor : Anchor) : LedgerKey :=
  ⟨eventType, anchor⟩

/-- The zero-amount marker family. -/
def SETTLEMENT_LIFECYCLE_MARKERS : List FinancialEvent :=
  [.SETTLEMENT_STARTED, .SETTLEMENT_COMPLETED, .SETTLEMENT_SUPERSEDED]

/-- The row a posting writes. -/
def RecordLedgerInput.row (input : RecordLedgerInput) (id : Nat) (createdAt : Time) :
    FinancialLedgerEntry where
  id := id
  createdAt := createdAt
  eventType := input.eventType
  reasonCode := input.reasonCode
  amount := Decimal.ofNumber input.amount
  currency := input.currency
  direction := input.direction
  orderId := input.orderId
  storeId := input.storeId
  metadata := input.metadata
  idempotencyKey := input.idempotencyKey

/-- Append the row of a posting.  A collision on the explicit key is this very posting: the stored row
answers. -/
def appendEntry (input : RecordLedgerInput) (createdAt : Time) : Transaction FinancialLedgerEntry :=
  fun w =>
    match insert Model.financialLedgerEntry (fun id => input.row id createdAt) w with
    | .ok res => .ok res
    | .error e =>
        match input.idempotencyKey with
        | none => .error e
        | some k =>
            match findFirst Model.financialLedgerEntry (fun r => r.idempotencyKey = some k) w with
            | some existing => .ok (existing, w)
            | none => .error e

def record (input : RecordLedgerInput) : Transaction FinancialLedgerEntry := do
  let isLifecycleMarker : Prop :=
    input.eventType ∈ SETTLEMENT_LIFECYCLE_MARKERS ∧ input.amount = 0
  Tx.ensure (¬(isLifecycleMarker ∧ input.idempotencyKey = none))
    (.badRequest "settlement lifecycle markers require a deterministic idempotencyKey")
  Tx.ensure (isLifecycleMarker ∨ 0 < input.amount)
    (.badRequest "ledger amount must be a positive, finite number")
  let createdAt ← txNow
  appendEntry input createdAt

/-! ### What a posting does -/

/-- One posting on the ledger: its key was taken and nothing changed, or its row was appended. -/
inductive Posts (input : RecordLedgerInput) (l : Ledger) : Ledger → Prop
  | existing {e : FinancialLedgerEntry} (he : e ∈ l.rows)
      (hkey : e.idempotencyKey = input.idempotencyKey) (hsome : input.idempotencyKey ≠ none) :
      Posts input l l
  | fresh {l' : Ledger} {id : Nat} {createdAt : Time}
      (hcreate : l.create (input.row id createdAt) = some l')
      (hkey : ∀ e ∈ l.rows, input.idempotencyKey ≠ none →
        e.idempotencyKey ≠ input.idempotencyKey) :
      Posts input l l'

/-- The postings of a list, in order. -/
inductive PostsAll : List RecordLedgerInput → Ledger → Ledger → Prop
  | nil (l : Ledger) : PostsAll [] l l
  | cons {input : RecordLedgerInput} {rest : List RecordLedgerInput} {l l' l'' : Ledger}
      (hpost : Posts input l l') (hrest : PostsAll rest l' l'') : PostsAll (input :: rest) l l''

theorem appendEntry_eq_ok {input : RecordLedgerInput} {createdAt : Time} {w w' : World}
    {r : FinancialLedgerEntry} (h : appendEntry input createdAt w = .ok (r, w')) :
    ∃ l n, w' = { w with db := { w.db with ledger := l, nextId := n } } ∧ w.db.nextId ≤ n ∧
      Posts input w.db.ledger l := by
  unfold appendEntry at h
  cases hins : insert Model.financialLedgerEntry (fun id => input.row id createdAt) w with
  | ok res =>
      obtain ⟨row, w₁⟩ := res
      simp only [hins, Except.ok.injEq, Prod.mk.injEq] at h
      obtain ⟨rfl, rfl⟩ := h
      obtain ⟨rfl, t, ht, hclash, rfl⟩ := insert_eq_ok.mp hins
      refine ⟨t, _, rfl, Nat.le_succ _, .fresh ht ?_⟩
      intro e he hsome heq
      exact of_decide_eq_false (hclash e he) ⟨heq.symm, hsome⟩
  | error e =>
      simp only [hins] at h
      cases hkey : input.idempotencyKey with
      | none => simp [hkey] at h
      | some k =>
          simp only [hkey] at h
          cases hfind : findFirst Model.financialLedgerEntry
              (fun r => r.idempotencyKey = some k) w with
          | none => simp [hfind] at h
          | some existing =>
              simp only [hfind, Except.ok.injEq, Prod.mk.injEq] at h
              obtain ⟨rfl, rfl⟩ := h
              refine ⟨w.db.ledger, w.db.nextId, rfl, le_refl _, ?_⟩
              refine .existing (List.mem_of_find?_eq_some hfind) ?_ (by simp [hkey])
              rw [hkey]
              simpa using List.find?_some hfind

/-- A successful call of `record` is one posting and touches only the ledger. -/
theorem record_eq_ok {input : RecordLedgerInput} {w w' : World} {r : FinancialLedgerEntry}
    (h : record input w = .ok (r, w')) :
    ∃ l n, w' = { w with db := { w.db with ledger := l, nextId := n } } ∧ w.db.nextId ≤ n ∧
      Posts input w.db.ledger l ∧
      (0 < input.amount ∨ input.eventType ∈ SETTLEMENT_LIFECYCLE_MARKERS) := by
  simp only [record, Tx.bind_eq_ok, Tx.ensure_eq_ok, txNow_eq_ok] at h
  obtain ⟨-, w₁, ⟨-, rfl⟩, -, w₂, ⟨hamount, rfl⟩, createdAt, w₃, ⟨-, rfl⟩, h⟩ := h
  obtain ⟨l, n, hw, hn, hposts⟩ := appendEntry_eq_ok h
  refine ⟨l, n, hw, hn, hposts, ?_⟩
  rcases hamount with ⟨hmarker, -⟩ | hpos
  · exact Or.inr hmarker
  · exact Or.inl hpos

/-- What a posting is refused with. -/
theorem record_eq_error {input : RecordLedgerInput} {w : World} {e : Err}
    (h : record input w = .error e) :
    e = .badRequest "settlement lifecycle markers require a deterministic idempotencyKey" ∨
      e = .badRequest "ledger amount must be a positive, finite number" ∨
      e = .p2002 "FinancialLedgerEntry" := by
  simp only [record, Tx.bind_eq_error, Tx.ensure_eq_error, txNow, Tx.read_ne_error] at h
  rcases h with ⟨-, rfl⟩ | ⟨_, _, -, ⟨-, rfl⟩ | ⟨_, _, -, h | ⟨createdAt, w', -, h⟩⟩⟩
  · exact Or.inl rfl
  · exact Or.inr (Or.inl rfl)
  · exact h.elim
  · right; right
    unfold appendEntry at h
    cases hins : insert Model.financialLedgerEntry (fun id => input.row id createdAt) w' with
    | ok res => simp [hins] at h
    | error e' =>
        have he := insert_eq_error hins
        simp only [hins] at h
        split at h
        · rw [← Except.error.inj h, he]
        · split at h
          · cases h
          · rw [← Except.error.inj h, he]

namespace Posts

variable {input : RecordLedgerInput} {l l' : Ledger}

theorem keep (h : Posts input l l') {e : FinancialLedgerEntry} (he : e ∈ l.rows) : e ∈ l'.rows := by
  cases h with
  | existing => exact he
  | fresh hcreate => exact (Table.mem_create hcreate).mpr (Or.inl he)

theorem mem (h : Posts input l l') {e : FinancialLedgerEntry} (he : e ∈ l'.rows) :
    e ∈ l.rows ∨ ∃ id createdAt, e = input.row id createdAt := by
  cases h with
  | existing => exact Or.inl he
  | fresh hcreate =>
      rcases (Table.mem_create hcreate).mp he with hold | hnew
      · exact Or.inl hold
      · exact Or.inr ⟨_, _, hnew⟩

/-- The posting is in the ledger afterwards. -/
theorem posted (h : Posts input l l') : ∃ e ∈ l'.rows, e.idempotencyKey = input.idempotencyKey := by
  cases h with
  | existing he hkey _ => exact ⟨_, he, hkey⟩
  | fresh hcreate => exact ⟨_, (Table.mem_create hcreate).mpr (Or.inr rfl), rfl⟩

end Posts

namespace PostsAll

variable {inputs : List RecordLedgerInput} {l l' : Ledger}

theorem keep (h : PostsAll inputs l l') {e : FinancialLedgerEntry} (he : e ∈ l.rows) :
    e ∈ l'.rows := by
  induction h with
  | nil => exact he
  | cons hpost _ ih => exact ih (hpost.keep he)

theorem mem (h : PostsAll inputs l l') {e : FinancialLedgerEntry} (he : e ∈ l'.rows) :
    e ∈ l.rows ∨ ∃ input ∈ inputs, ∃ id createdAt, e = input.row id createdAt := by
  induction h with
  | nil => exact Or.inl he
  | cons hpost _ ih =>
      rcases ih he with hmid | ⟨input, hin, hrow⟩
      · rcases hpost.mem hmid with hold | hnew
        · exact Or.inl hold
        · exact Or.inr ⟨_, by simp, hnew⟩
      · exact Or.inr ⟨input, by simp [hin], hrow⟩

theorem append {inputs' : List RecordLedgerInput} {l'' : Ledger} (h : PostsAll inputs l l')
    (h' : PostsAll inputs' l' l'') : PostsAll (inputs ++ inputs') l l'' := by
  induction h with
  | nil => exact h'
  | cons hpost _ ih => exact .cons hpost (ih h')

/-- A posting after the others. -/
theorem snoc {input : RecordLedgerInput} {l'' : Ledger} (h : PostsAll inputs l l')
    (hpost : Posts input l' l'') : PostsAll (inputs ++ [input]) l l'' :=
  h.append (.cons hpost (.nil _))

end PostsAll

end Qift.Financial
