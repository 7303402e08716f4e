import Qift.Lib.Delegate

/-!
# Writes of one row

* `Table.update` rewrites the row under a key and `Table.erase` drops it; `find_update` and `find_erase` say what is
  found afterwards, `count_update` and `count_erase` what a count of the rows becomes.
* `Delegate.update`, `Delegate.delete` and `Delegate.upsert` are the client's writes of one row. The first two refuse
  where the row is not stored.
-/

namespace Relational

variable {ρ κ : Type} {key : ρ → κ} [DecidableEq κ]

namespace Table

/-- Rewrite the row under a key. -/
def update (t : Table key) (k : κ) (f : ρ → ρ) (hf : ∀ r, key (f r) = key r) : Table key :=
  t.updateMany (fun r => decide (key r = k)) f hf

/-- Drop the row under a key. -/
def erase (t : Table key) (k : κ) : Table key := t.deleteMany fun r => decide (key r = k)

variable {t : Table key} {k : κ} {f : ρ → ρ} {hf : ∀ r, key (f r) = key r}

theorem find_update (k' : κ) :
    (t.update k f hf).find k' = if k' = k then (t.find k').map f else t.find k' := by
  rw [update, find_updateMany]
  cases hrow : t.find k' with
  | none => simp
  | some r =>
      have hkey : key r = k' := key_of_find hrow
      by_cases hk : k' = k
      · simp [hkey, hk]
      · simp [hkey, hk]

theorem find_update_self {r : ρ} (h : t.find k = some r) : (t.update k f hf).find k = some (f r) := by
  rw [find_update, if_pos rfl, h, Option.map_some]

/-- A write that leaves its row as it is. -/
theorem rows_update_id (hf : ∀ r, key (id r) = key r) : (t.update k id hf).rows = t.rows := by
  refine (List.map_congr_left fun r _ => ?_).trans (List.map_id _)
  split <;> rfl

theorem find_erase (k' : κ) : (t.erase k).find k' = if k' = k then none else t.find k' := by
  by_cases hk : k' = k
  · rw [if_pos hk, find_eq_none]
    intro r hr hkey
    have hother := (mem_deleteMany.mp hr).2
    simp [hkey, hk] at hother
  · rw [if_neg hk]
    cases hrow : t.find k' with
    | none => exact find_deleteMany_none hrow
    | some r =>
        have hkey : key r = k' := key_of_find hrow
        exact find_deleteMany.mpr ⟨hrow, by simp [hkey, hk]⟩

theorem mem_erase {x : ρ} : x ∈ (t.erase k).rows ↔ x ∈ t.rows ∧ key x ≠ k := by
  rw [erase, mem_deleteMany]
  simp

/-- Where a stored row stands among the others. -/
theorem rows_of_find {r : ρ} (h : t.find k = some r) :
    ∃ before after, t.rows = before ++ r :: after ∧ ∀ x ∈ before ++ after, key x ≠ k := by
  obtain ⟨hmem, hkey⟩ := find_eq_some.mp h
  obtain ⟨before, after, hrows⟩ := List.append_of_mem hmem
  refine ⟨before, after, hrows, fun x hx hk => ?_⟩
  have hnodup := t.nodup
  rw [hrows, (List.perm_middle.map key).nodup_iff, List.map_cons, List.nodup_cons] at hnodup
  apply hnodup.1
  rw [hkey, ← hk]
  exact List.mem_map_of_mem hx

variable {q : ρ → Bool}

omit [DecidableEq κ] in
theorem key_of_mem_updateMany {p : ρ → Bool} {x : ρ} (hf : ∀ r, key (f r) = key r)
    (h : x ∈ (t.updateMany p f hf).rows) : ∃ r ∈ t.rows, key r = key x := by
  obtain ⟨r, hr, rfl⟩ := of_mem_updateMany hf h
  refine ⟨r, hr, ?_⟩
  split
  · exact (hf r).symm
  · rfl

theorem key_of_mem_update {x : ρ} (hf : ∀ r, key (f r) = key r) (h : x ∈ (t.update k f hf).rows) :
    ∃ r ∈ t.rows, key r = key x :=
  key_of_mem_updateMany hf h

omit [DecidableEq κ] in
theorem count_updateMany {p : ρ → Bool} :
    (t.updateMany p f hf).count q = t.count fun r => q (if p r then f r else r) :=
  List.countP_map

omit [DecidableEq κ] in
/-- Conditions that agree on the stored rows. -/
theorem count_congr {q' : ρ → Bool} (h : ∀ r ∈ t.rows, q r = q' r) : t.count q = t.count q' :=
  List.countP_congr fun r hr => by rw [h r hr]

/-- Rows that stay, with what is counted of them, are counted no less. -/
theorem Evolves.count_le {R : ρ → ρ → Prop} {t t' : Table key} (h : Evolves R t t')
    (hq : ∀ r r', R r r' → q r = true → q r' = true) : t.count q ≤ t'.count q := by
  have hnodup : ((t.rows.filter q).map key).Nodup := t.nodup.sublist (List.filter_sublist.map key)
  have hsub : (t.rows.filter q).map key ⊆ (t'.rows.filter q).map key := by
    intro k hk
    obtain ⟨r, hr, rfl⟩ := List.mem_map.mp hk
    obtain ⟨hrow, hqr⟩ := List.mem_filter.mp hr
    obtain ⟨r', hr', hrr⟩ := h _ _ (find_of_mem hrow)
    refine List.mem_map.mpr ⟨r', List.mem_filter.mpr ⟨mem_of_find hr', hq r r' hrr hqr⟩, key_of_find hr'⟩
  have hle := (hnodup.subperm hsub).length_le
  rw [List.length_map, List.length_map, ← List.countP_eq_length_filter, ← List.countP_eq_length_filter] at hle
  exact hle

omit [DecidableEq κ] in
theorem count_deleteMany {p : ρ → Bool} : (t.deleteMany p).count q = t.count fun r => q r && !p r :=
  List.countP_filter

/-- A write of one row moves a count by that row. -/
theorem count_update {r : ρ} (h : t.find k = some r) :
    (t.update k f hf).count q + (q r).toNat = t.count q + (q (f r)).toNat := by
  obtain ⟨before, after, hrows, hother⟩ := rows_of_find h
  have hkey : key r = k := key_of_find h
  have hkeep (xs : List ρ) (hxs : ∀ x ∈ xs, key x ≠ k) : (xs.map fun x => if key x = k then f x else x) = xs := by
    refine (List.map_congr_left fun x hx => ?_).trans (List.map_id xs)
    rw [if_neg (hxs x hx)]
    rfl
  have hbefore := hkeep before fun x hx => hother x (List.mem_append_left _ hx)
  have hafter := hkeep after fun x hx => hother x (List.mem_append_right _ hx)
  simp only [count, update, updateMany, hrows, decide_eq_true_eq, List.map_append, List.map_cons, hbefore, hafter,
    hkey, if_true, List.countP_append, List.countP_cons]
  cases q r <;> cases q (f r) <;> grind

theorem count_erase {r : ρ} (h : t.find k = some r) : (t.erase k).count q + (q r).toNat = t.count q := by
  obtain ⟨before, after, hrows, hother⟩ := rows_of_find h
  have hkey : key r = k := key_of_find h
  have hkeep (xs : List ρ) (hxs : ∀ x ∈ xs, key x ≠ k) : (xs.filter fun x => !decide (key x = k)) = xs :=
    List.filter_eq_self.mpr fun x hx => by simp [hxs x hx]
  have hbefore := hkeep before fun x hx => hother x (List.mem_append_left _ hx)
  have hafter := hkeep after fun x hx => hother x (List.mem_append_right _ hx)
  simp only [count, erase, deleteMany, hrows, List.filter_append, List.filter_cons, hbefore, hafter, hkey, decide_true,
    Bool.not_true, Bool.false_eq_true, if_false, List.countP_append, List.countP_cons]
  cases q r <;> grind

end Table

open Interleaving

variable {σ ε : Type}

namespace Delegate

variable (d : Delegate σ key)

/-- `update` of the row under a key, which must be stored; the row it leaves. -/
def update (e : ε) (k : κ) (f : ρ → ρ) (hf : ∀ r, key (f r) = key r := by intro r; rfl) : Tx σ ε ρ := fun s =>
  match (d.table s).find k with
  | none => .error e
  | some r => .ok (f r, d.store ((d.table s).update k f hf) s)

/-- `delete` of the row under a key, which must be stored; the row it drops. -/
def delete (e : ε) (k : κ) : Tx σ ε ρ := fun s =>
  match (d.table s).find k with
  | none => .error e
  | some r => .ok (r, d.store ((d.table s).erase k) s)

/-- `upsert`: rewrite the row under the key of `r`, or insert `r` where there is none. -/
def upsert (e : ε) (r : ρ) (f : ρ → ρ) (hf : ∀ r, key (f r) = key r := by intro r; rfl) : Tx σ ε ρ := fun s =>
  match (d.table s).find (key r) with
  | none => d.create e r s
  | some x => .ok (f x, d.store ((d.table s).update (key r) f hf) s)

variable {d} {e : ε} {k : κ} {f : ρ → ρ} {hf : ∀ r, key (f r) = key r} {s s' : σ} {a r : ρ}

theorem update_eq_ok : (d.update e k f hf : Tx σ ε ρ) s = .ok (a, s') ↔
    ∃ r, (d.table s).find k = some r ∧ a = f r ∧ s' = d.store ((d.table s).update k f hf) s := by
  unfold update
  cases h : (d.table s).find k with
  | none => simp
  | some r => simp [eq_comm]

theorem update_eq_error {e' : ε} : (d.update e k f hf : Tx σ ε ρ) s = .error e' ↔
    (d.table s).find k = none ∧ e' = e := by
  unfold update
  cases h : (d.table s).find k with
  | none => simp [eq_comm]
  | some r => simp

theorem delete_eq_ok : (d.delete e k : Tx σ ε ρ) s = .ok (a, s') ↔
    (d.table s).find k = some a ∧ s' = d.store ((d.table s).erase k) s := by
  unfold delete
  cases h : (d.table s).find k with
  | none => simp
  | some r => simp [eq_comm]

/-- Every refusal of `delete` is its own. -/
theorem error_of_delete {e' : ε} (h : (d.delete e k : Tx σ ε ρ) s = .error e') : e' = e := by
  unfold delete at h
  split at h
  · cases h
    rfl
  · cases h

theorem upsert_eq_ok : (d.upsert e r f hf : Tx σ ε ρ) s = .ok (a, s') ↔
    (∃ x, (d.table s).find (key r) = some x ∧ a = f x ∧ s' = d.store ((d.table s).update (key r) f hf) s) ∨
    ((d.table s).find (key r) = none ∧ (d.create e r : Tx σ ε ρ) s = .ok (a, s')) := by
  unfold upsert
  cases h : (d.table s).find (key r) with
  | none => simp
  | some x => simp [eq_comm]

end Delegate

end Relational
