import Qift.Lib.Frame
import Qift.Lib.Row

/-!
# Writes of many rows

* `Table.newRows` are the rows of a list that collide neither with what is stored nor with each other, the earlier one
  first; `Table.insertNew` stores them.
* `Delegate.createManyNew` is the bulk insert that skips duplicates, `Delegate.createMany` the one that is refused by a
  duplicate.
* `Delegate.replace` is an update that a collision with another row refuses.
* `Delegate.keeps_create` and its kin: a write moves the state along whatever storing a table does.
-/

namespace Relational

variable {ρ κ : Type} {key : ρ → κ} [DecidableEq κ]

namespace Table

/-- Two rows that cannot be stored together. -/
def collides (key : ρ → κ) (conflict : ρ → ρ → Bool) (r x : ρ) : Bool := decide (key x = key r) || conflict r x

/-- The rows of a list that are stored beside `old`; one that collides is skipped. -/
def newRows (key : ρ → κ) (conflict : ρ → ρ → Bool) : List ρ → List ρ → List ρ
  | _, [] => []
  | old, r :: rest =>
      if old.any (collides key conflict r) then newRows key conflict old rest
      else r :: newRows key conflict (old ++ [r]) rest

variable {conflict : ρ → ρ → Bool} {old rows : List ρ}

theorem newRows_sublist : (newRows key conflict old rows).Sublist rows := by
  induction rows generalizing old with
  | nil => exact List.Sublist.refl _
  | cons r rest ih =>
      unfold newRows
      split
      · exact ih.cons r
      · exact ih.cons_cons r

theorem newRows_free {r x : ρ} (hr : r ∈ newRows key conflict old rows) (hx : x ∈ old) :
    collides key conflict r x = false := by
  induction rows generalizing old with
  | nil => cases hr
  | cons s rest ih =>
      unfold newRows at hr
      split at hr
      · exact ih hr hx
      · rename_i hfree
        rcases List.mem_cons.mp hr with rfl | hr
        · exact eq_false_of_ne_true fun hclash => hfree (List.any_eq_true.mpr ⟨x, hx, hclash⟩)
        · exact ih hr (List.mem_append_left _ hx)

theorem key_of_not_collides {r x : ρ} (h : collides key conflict r x = false) : key x ≠ key r := by
  rw [collides, Bool.or_eq_false_iff, decide_eq_false_iff_not] at h
  exact h.1

/-- What tells rows that do not collide apart differs on the new rows. -/
theorem newRows_nodup {τ : Type} {g : ρ → τ} (hg : ∀ r x, collides key conflict r x = false → g x ≠ g r) :
    ((newRows key conflict old rows).map g).Nodup := by
  induction rows generalizing old with
  | nil => exact List.nodup_nil
  | cons r rest ih =>
      unfold newRows
      split
      · exact ih
      · rw [List.map_cons, List.nodup_cons]
        refine ⟨fun hmem => ?_, ih⟩
        obtain ⟨s, hs, hsame⟩ := List.mem_map.mp hmem
        exact hg s r (newRows_free hs (List.mem_append_right _ List.mem_cons_self)) hsame.symm

/-- It differs on the stored rows with the new ones. -/
theorem nodup_append_newRows {τ : Type} {g : ρ → τ} (hg : ∀ r x, collides key conflict r x = false → g x ≠ g r)
    (hold : (old.map g).Nodup) : ((old ++ newRows key conflict old rows).map g).Nodup := by
  rw [List.map_append, List.nodup_append]
  refine ⟨hold, newRows_nodup hg, fun a ha b hb heq => ?_⟩
  obtain ⟨x, hx, rfl⟩ := List.mem_map.mp ha
  obtain ⟨r, hr, rfl⟩ := List.mem_map.mp hb
  exact hg r x (newRows_free hr hx) heq

variable (conflict rows) in
/-- Store the rows of a list that collide with none that is stored before them. -/
def insertNew (t : Table key) : Table key :=
  ⟨t.rows ++ newRows key conflict t.rows rows, nodup_append_newRows (fun _ _ => key_of_not_collides) t.nodup⟩

variable {t : Table key}

theorem mem_insertNew {x : ρ} :
    x ∈ (t.insertNew conflict rows).rows ↔ x ∈ t.rows ∨ x ∈ newRows key conflict t.rows rows :=
  List.mem_append

theorem find_insertNew_of_find {k : κ} {x : ρ} (h : t.find k = some x) :
    (t.insertNew conflict rows).find k = some x := by
  obtain ⟨hx, hkey⟩ := find_eq_some.mp h
  exact find_eq_some.mpr ⟨mem_insertNew.mpr (Or.inl hx), hkey⟩

end Table

open Interleaving

variable {σ ε : Type}

namespace Delegate

variable (d : Delegate σ key)

/-- `createMany` with `skipDuplicates`: how many rows were stored. -/
def createManyNew (rows : List ρ) : Tx σ ε Nat := fun s =>
  .ok ((Table.newRows key d.conflict (d.table s).rows rows).length, d.store ((d.table s).insertNew d.conflict rows) s)

/-- `createMany`: all rows, or none where one collides. -/
def createMany (e : ε) (rows : List ρ) : Tx σ ε Unit := fun s =>
  if (Table.newRows key d.conflict (d.table s).rows rows).length = rows.length then
    .ok ((), d.store ((d.table s).insertNew d.conflict rows) s)
  else .error e

/-- `update` of the row under a key; refused where it is not stored, or would collide with another row. -/
def replace (missing taken : ε) (k : κ) (f : ρ → ρ) (hf : ∀ r, key (f r) = key r := by intro r; rfl) : Tx σ ε ρ :=
  fun s =>
    match (d.table s).find k with
    | none => .error missing
    | some r =>
        if (d.table s).rows.any fun x => decide (key x ≠ k) && d.conflict (f r) x then .error taken
        else .ok (f r, d.store ((d.table s).update k f hf) s)

variable {d} {e missing taken : ε} {k : κ} {f : ρ → ρ} {hf : ∀ r, key (f r) = key r} {rows : List ρ} {s s' : σ}

theorem createManyNew_eq_ok {n : Nat} : (d.createManyNew rows : Tx σ ε Nat) s = .ok (n, s') ↔
    n = (Table.newRows key d.conflict (d.table s).rows rows).length ∧
      s' = d.store ((d.table s).insertNew d.conflict rows) s := by
  simp only [createManyNew, Except.ok.injEq, Prod.mk.injEq, eq_comm]

theorem createMany_eq_ok {u : Unit} : (d.createMany e rows : Tx σ ε Unit) s = .ok (u, s') ↔
    Table.newRows key d.conflict (d.table s).rows rows = rows ∧
      s' = d.store ((d.table s).insertNew d.conflict rows) s := by
  unfold createMany
  constructor
  · intro h
    split at h
    · rename_i hlength
      cases h
      exact ⟨Table.newRows_sublist.eq_of_length hlength, rfl⟩
    · cases h
  · rintro ⟨hrows, rfl⟩
    rw [if_pos (congrArg List.length hrows)]

theorem replace_eq_ok {a : ρ} : (d.replace missing taken k f hf : Tx σ ε ρ) s = .ok (a, s') ↔
    ∃ r, (d.table s).find k = some r ∧ (∀ x ∈ (d.table s).rows, key x ≠ k → d.conflict (f r) x = false) ∧ a = f r ∧
      s' = d.store ((d.table s).update k f hf) s := by
  unfold replace
  cases hrow : (d.table s).find k with
  | none => simp
  | some r =>
      simp only [Option.some.injEq, exists_eq_left']
      split
      · rename_i hclash
        obtain ⟨x, hx, hboth⟩ := List.any_eq_true.mp hclash
        rw [Bool.and_eq_true, decide_eq_true_eq] at hboth
        constructor
        · simp
        · rintro ⟨hfree, -, -⟩
          have hnone := hfree x hx hboth.1
          rw [hboth.2] at hnone
          cases hnone
      · rename_i hclash
        rw [List.any_eq_true, not_exists] at hclash
        constructor
        · rintro ⟨⟩
          refine ⟨fun x hx hkey => eq_false_of_ne_true fun hconflict => hclash x ⟨hx, ?_⟩, rfl, rfl⟩
          simp [hkey, hconflict]
        · rintro ⟨-, rfl, rfl⟩
          rfl

/-! ### What a write leaves alone -/

section Keeps

variable {R : σ → σ → Prop} {p : ρ → Bool} {r : ρ}

theorem keeps_create (hstore : ∀ t s, R s (d.store t s)) : Tx.Keeps R (d.create e r : Tx σ ε ρ) := by
  intro s a s' h
  obtain ⟨t, -, -, -, rfl⟩ := create_eq_ok.mp h
  exact hstore _ s

theorem keeps_update (hstore : ∀ t s, R s (d.store t s)) : Tx.Keeps R (d.update e k f hf : Tx σ ε ρ) := by
  intro s a s' h
  obtain ⟨r, -, -, rfl⟩ := update_eq_ok.mp h
  exact hstore _ s

theorem keeps_replace (hstore : ∀ t s, R s (d.store t s)) :
    Tx.Keeps R (d.replace missing taken k f hf : Tx σ ε ρ) := by
  intro s a s' h
  obtain ⟨r, -, -, -, rfl⟩ := replace_eq_ok.mp h
  exact hstore _ s

omit [DecidableEq κ] in
theorem keeps_updateMany (hstore : ∀ t s, R s (d.store t s)) : Tx.Keeps R (d.updateMany p f hf : Tx σ ε Nat) := by
  intro s a s' h
  obtain ⟨-, rfl⟩ := updateMany_eq_ok.mp h
  exact hstore _ s

omit [DecidableEq κ] in
theorem keeps_deleteMany (hstore : ∀ t s, R s (d.store t s)) : Tx.Keeps R (d.deleteMany p : Tx σ ε Nat) := by
  intro s a s' h
  obtain ⟨-, rfl⟩ := deleteMany_eq_ok.mp h
  exact hstore _ s

theorem keeps_createMany (hstore : ∀ t s, R s (d.store t s)) : Tx.Keeps R (d.createMany e rows : Tx σ ε Unit) := by
  intro s a s' h
  obtain ⟨-, rfl⟩ := createMany_eq_ok.mp h
  exact hstore _ s

theorem keeps_createManyNew (hstore : ∀ t s, R s (d.store t s)) :
    Tx.Keeps R (d.createManyNew rows : Tx σ ε Nat) := by
  intro s a s' h
  obtain ⟨-, rfl⟩ := createManyNew_eq_ok.mp h
  exact hstore _ s

end Keeps

end Delegate

end Relational
