import Qift.Lib.Table
import Qift.Lib.Transaction

/-!
# The tables of a larger state

* `Table.deleteMany` drops the rows of a table that match a filter.
* `Delegate σ key` is a table inside a state `σ`, with the unique constraint it has beside its key; `create`,
  `updateMany` and `deleteMany` are the writes a client has on it, each a part of a transaction.
* `create_eq_ok`, `updateMany_eq_ok` and `deleteMany_eq_ok` say what a successful write did.
-/

namespace Relational

variable {ρ κ : Type} {key : ρ → κ}

namespace Table

/-- Drop the rows that match. -/
def deleteMany (t : Table key) (p : ρ → Bool) : Table key :=
  ⟨t.rows.filter fun r => !p r, t.nodup.sublist ((List.filter_sublist).map key)⟩

variable {p : ρ → Bool}

theorem mem_deleteMany {t : Table key} {x : ρ} :
    x ∈ (t.deleteMany p).rows ↔ x ∈ t.rows ∧ p x = false := by
  simp [deleteMany]

theorem find_deleteMany [DecidableEq κ] {t : Table key} {k : κ} {r : ρ} :
    (t.deleteMany p).find k = some r ↔ t.find k = some r ∧ p r = false := by
  rw [find_eq_some, find_eq_some, mem_deleteMany]
  tauto

theorem find_deleteMany_none [DecidableEq κ] {t : Table key} {k : κ} (h : t.find k = none) :
    (t.deleteMany p).find k = none := by
  rw [find_eq_none] at h ⊢
  intro r hr
  exact h r (mem_deleteMany.mp hr).1

/-- The row an update leaves under a key. -/
theorem find_updateMany_some [DecidableEq κ] {f : ρ → ρ} (hf : ∀ r, key (f r) = key r) {t : Table key} {k : κ} {r : ρ}
    (h : t.find k = some r) : (t.updateMany p f hf).find k = some (if p r then f r else r) := by
  rw [find_updateMany, h, Option.map_some]

theorem find_updateMany_none [DecidableEq κ] {f : ρ → ρ} (hf : ∀ r, key (f r) = key r) {t : Table key} {k : κ}
    (h : t.find k = none) : (t.updateMany p f hf).find k = none := by
  rw [find_updateMany, h, Option.map_none]

theorem of_mem_updateMany {f : ρ → ρ} (hf : ∀ r, key (f r) = key r) {t : Table key} {x : ρ}
    (h : x ∈ (t.updateMany p f hf).rows) : ∃ r ∈ t.rows, x = if p r then f r else r := by
  obtain ⟨r, hr, hx⟩ := mem_updateMany.mp h
  exact ⟨r, hr, hx.symm⟩

theorem count_create [DecidableEq κ] {t t' : Table key} {r : ρ} (h : t.create r = some t') (q : ρ → Bool) :
    t'.count q = t.count q + if q r then 1 else 0 := by
  rw [count, count, (create_eq_some h).1, List.countP_append, List.countP_singleton]

/-- An update that matches nothing changes nothing. -/
theorem updateMany_eq_self {f : ρ → ρ} {hf : ∀ r, key (f r) = key r} {t : Table key} (h : t.count p = 0) :
    t.updateMany p f hf = t := by
  refine ext_rows ?_
  refine (List.map_congr_left fun r hr => ?_).trans (List.map_id _)
  rw [if_neg (List.countP_eq_zero.mp h r hr)]
  rfl

/-- The one stored row with a property is all that a filter by it leaves. -/
theorem filter_eq_singleton {t : Table key} {q : ρ → Bool} {r : ρ} (hr : r ∈ t.rows) (hq : q r = true)
    (honly : ∀ x ∈ t.rows, q x = true → x = r) : t.rows.filter q = [r] := by
  have hnodup : (t.rows.filter q).Nodup := (List.Nodup.of_map key t.nodup).filter q
  rw [← List.perm_singleton]
  refine (List.perm_ext_iff_of_nodup hnodup (List.nodup_singleton r)).mpr fun x => ?_
  rw [List.mem_filter, List.mem_singleton]
  constructor
  · rintro ⟨hx, hqx⟩
    exact honly x hx hqx
  · rintro rfl
    exact ⟨hr, hq⟩

end Table

open Interleaving

variable {σ ε : Type}

/-- A table of a state and the unique constraint it has beside its key. -/
structure Delegate (σ : Type) (key : ρ → κ) where
  table : σ → Table key
  store : Table key → σ → σ
  /-- Two rows that violate a unique constraint together. -/
  conflict : ρ → ρ → Bool

namespace Delegate

variable [DecidableEq κ] (d : Delegate σ key)

/-- Insert a row; a collision is refused. -/
def create (e : ε) (r : ρ) : Tx σ ε ρ := fun s =>
  match (d.table s).createUnless d.conflict r with
  | some t => .ok (r, d.store t s)
  | none => .error e

/-- Rewrite the rows that match and count them. -/
def updateMany (p : ρ → Bool) (f : ρ → ρ) (hf : ∀ r, key (f r) = key r := by intro r; rfl) : Tx σ ε Nat :=
  fun s => .ok ((d.table s).count p, d.store ((d.table s).updateMany p f hf) s)

/-- Drop the rows that match and count them. -/
def deleteMany (p : ρ → Bool) : Tx σ ε Nat := fun s =>
  .ok ((d.table s).count p, d.store ((d.table s).deleteMany p) s)

variable {d}

theorem create_eq_ok {e : ε} {r a : ρ} {s s' : σ} :
    (d.create e r : Tx σ ε ρ) s = .ok (a, s') ↔
      ∃ t, (d.table s).create r = some t ∧ (∀ x ∈ (d.table s).rows, d.conflict r x = false) ∧ a = r ∧
        s' = d.store t s := by
  unfold create
  cases h : (d.table s).createUnless d.conflict r with
  | none =>
      simp only [reduceCtorEq, false_iff, not_exists, not_and]
      intro t ht hconflict
      rw [Table.createUnless_eq_some.mpr ⟨ht, hconflict⟩] at h
      cases h
  | some t =>
      obtain ⟨ht, hconflict⟩ := Table.createUnless_eq_some.mp h
      simp only [Except.ok.injEq, Prod.mk.injEq]
      constructor
      · rintro ⟨rfl, rfl⟩
        exact ⟨t, ht, hconflict, rfl, rfl⟩
      · rintro ⟨t', ht', -, rfl, rfl⟩
        rw [ht] at ht'
        cases ht'
        exact ⟨rfl, rfl⟩

/-- Every refusal of `create` is its own. -/
theorem error_of_create {e e' : ε} {r : ρ} {s : σ} (h : (d.create e r : Tx σ ε ρ) s = .error e') : e' = e := by
  unfold create at h
  split at h
  · cases h
  · cases h
    rfl

/-- An insert under a new key is refused only by a conflict with a stored row. -/
theorem create_eq_error {e e' : ε} {r : ρ} {s : σ} (hnew : ∀ x ∈ (d.table s).rows, key x ≠ key r)
    (h : (d.create e r : Tx σ ε ρ) s = .error e') :
    e' = e ∧ ∃ x ∈ (d.table s).rows, d.conflict r x = true := by
  unfold create at h
  cases hcreate : (d.table s).createUnless d.conflict r with
  | some t => simp [hcreate] at h
  | none =>
      rw [hcreate] at h
      refine ⟨(Except.error.inj h).symm, ?_⟩
      by_contra hfree
      obtain ⟨t, ht⟩ := Table.exists_create hnew
      have hsome := Table.createUnless_eq_some.mpr
        ⟨ht, fun x hx => eq_false_of_ne_true fun hconflict => hfree ⟨x, hx, hconflict⟩⟩
      rw [hsome] at hcreate
      cases hcreate

omit [DecidableEq κ] in
theorem updateMany_eq_ok {p : ρ → Bool} {f : ρ → ρ} {hf : ∀ r, key (f r) = key r} {n : Nat} {s s' : σ} :
    (d.updateMany p f hf : Tx σ ε Nat) s = .ok (n, s') ↔
      n = (d.table s).count p ∧ s' = d.store ((d.table s).updateMany p f hf) s := by
  simp only [updateMany, Except.ok.injEq, Prod.mk.injEq, eq_comm]

omit [DecidableEq κ] in
theorem deleteMany_eq_ok {p : ρ → Bool} {n : Nat} {s s' : σ} :
    (d.deleteMany p : Tx σ ε Nat) s = .ok (n, s') ↔
      n = (d.table s).count p ∧ s' = d.store ((d.table s).deleteMany p) s := by
  simp only [deleteMany, Except.ok.injEq, Prod.mk.injEq, eq_comm]

end Delegate

end Relational
