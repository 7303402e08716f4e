import Mathlib.Data.List.Nodup
import Mathlib.Data.List.Count
import Mathlib.Algebra.BigOperators.Group.List.Basic
import Mathlib.Tactic

/-!
# Keyed tables

A finite table of rows with a primary key, as a relational store keeps it.  The structure carries the
uniqueness of the key, so a lookup is a partial function and no later proof re-establishes it.

* `Table.find` / `Table.create` / `Table.updateMany` / `Table.count` are the four primitives a query layer
  offers: lookup by key, insert under the key constraint, guarded update of every matching row, and the
  number of rows a guard matches.
* `Table.find_create`, `Table.find_updateMany` turn the last two into statements about lookups.
* `Table.count_eq_length` reads the count of a guarded update back: when a guard that asks for a key in a
  given list matches as many rows as the list is long, it matched every key of the list.
* `Table.rewriteEach` is one rewriting for each element of a list; **`Table.Rewrites.eq`** turns a loop of
  guarded single-row updates into it.
* `Table.sumOf` totals an integer column; `Table.sumOf_create` and `Table.sumOf_updateMany` follow it
  through a write.
-/

namespace Relational

/-- A table: finitely many rows whose keys are pairwise distinct. -/
structure Table {ρ κ : Type} (key : ρ → κ) where
  rows : List ρ
  nodup : (rows.map key).Nodup

namespace Table

variable {ρ κ : Type} {key : ρ → κ}

/-- The table without rows. -/
def empty : Table key := ⟨[], by simp⟩

@[simp] theorem empty_rows : (empty : Table key).rows = [] := rfl

theorem row_unique (t : Table key) {a b : ρ} (ha : a ∈ t.rows) (hb : b ∈ t.rows)
    (hkey : key a = key b) : a = b :=
  List.inj_on_of_nodup_map t.nodup ha hb hkey

section Lookup

variable [DecidableEq κ]

/-- The row stored under a key. -/
def find (t : Table key) (k : κ) : Option ρ :=
  t.rows.find? fun r => decide (key r = k)

theorem find_eq_some {t : Table key} {k : κ} {r : ρ} :
    t.find k = some r ↔ r ∈ t.rows ∧ key r = k := by
  constructor
  · intro h
    exact ⟨List.mem_of_find?_eq_some h, by simpa using List.find?_some h⟩
  · rintro ⟨hmem, hkey⟩
    cases hfind : t.find k with
    | none =>
        rw [find, List.find?_eq_none] at hfind
        exact absurd hkey (by simpa using hfind r hmem)
    | some r' =>
        have hmem' : r' ∈ t.rows := List.mem_of_find?_eq_some hfind
        have hkey' : key r' = k := by simpa using List.find?_some hfind
        rw [t.row_unique hmem' hmem (hkey'.trans hkey.symm)]

theorem find_eq_none {t : Table key} {k : κ} :
    t.find k = none ↔ ∀ r ∈ t.rows, key r ≠ k := by
  simp [find, List.find?_eq_none]

theorem find_of_mem {t : Table key} {r : ρ} (h : r ∈ t.rows) : t.find (key r) = some r :=
  find_eq_some.mpr ⟨h, rfl⟩

theorem mem_of_find {t : Table key} {k : κ} {r : ρ} (h : t.find k = some r) : r ∈ t.rows :=
  (find_eq_some.mp h).1

theorem key_of_find {t : Table key} {k : κ} {r : ρ} (h : t.find k = some r) : key r = k :=
  (find_eq_some.mp h).2

@[simp] theorem find_empty (k : κ) : (empty : Table key).find k = none := rfl

/-- Insert a row; the key constraint refuses a key that is already taken. -/
def create (t : Table key) (r : ρ) : Option (Table key) :=
  if h : key r ∈ t.rows.map key then none
  else some ⟨t.rows ++ [r], by
    simpa [List.nodup_append, t.nodup] using fun a ha => (by
      intro heq
      exact h (List.mem_map.mpr ⟨a, ha, heq⟩) : key a ≠ key r)⟩

theorem create_eq_some {t t' : Table key} {r : ρ} (h : t.create r = some t') :
    t'.rows = t.rows ++ [r] ∧ t.find (key r) = none := by
  unfold create at h
  split at h
  · cases h
  · rename_i hfresh
    cases h
    refine ⟨rfl, find_eq_none.mpr fun a ha heq => hfresh ?_⟩
    exact List.mem_map.mpr ⟨a, ha, heq⟩

theorem mem_create {t t' : Table key} {r x : ρ} (h : t.create r = some t') :
    x ∈ t'.rows ↔ x ∈ t.rows ∨ x = r := by
  rw [(create_eq_some h).1]
  simp

theorem exists_create {t : Table key} {r : ρ} (h : ∀ x ∈ t.rows, key x ≠ key r) :
    ∃ t', t.create r = some t' := by
  have hnew : key r ∉ t.rows.map key := by
    intro hmem
    obtain ⟨x, hx, heq⟩ := List.mem_map.mp hmem
    exact h x hx heq
  unfold create
  rw [dif_neg hnew]
  exact ⟨_, rfl⟩

theorem find_create {t t' : Table key} {r : ρ} (h : t.create r = some t') (k : κ) :
    t'.find k = if key r = k then some r else t.find k := by
  obtain ⟨hrows, hfresh⟩ := create_eq_some h
  by_cases hk : key r = k
  · rw [if_pos hk]
    exact find_eq_some.mpr ⟨by simp [hrows], hk⟩
  · rw [if_neg hk, find, find, hrows, List.find?_append]
    simp [hk]

theorem find_create_self {t t' : Table key} {r : ρ} (h : t.create r = some t') :
    t'.find (key r) = some r := by
  rw [find_create h, if_pos rfl]

/-- An insert leaves every stored row where it is. -/
theorem find_create_of_find {t t' : Table key} {r x : ρ} {k : κ} (h : t.create r = some t')
    (hx : t.find k = some x) : t'.find k = some x := by
  rw [find_create h, if_neg, hx]
  rintro rfl
  rw [(create_eq_some h).2] at hx
  cases hx

/-- Insert a row that must also agree with no stored row under a further unique constraint. -/
def createUnless (t : Table key) (conflict : ρ → ρ → Bool) (r : ρ) : Option (Table key) :=
  if t.rows.any (conflict r) then none else t.create r

theorem createUnless_eq_some {t t' : Table key} {conflict : ρ → ρ → Bool} {r : ρ} :
    t.createUnless conflict r = some t' ↔
      t.create r = some t' ∧ ∀ x ∈ t.rows, conflict r x = false := by
  unfold createUnless
  by_cases h : t.rows.any (conflict r) = true
  · rw [if_pos h]
    obtain ⟨x, hx, hclash⟩ := List.any_eq_true.mp h
    constructor
    · rintro ⟨⟩
    · rintro ⟨-, hnone⟩
      rw [hnone x hx] at hclash
      cases hclash
  · rw [if_neg h]
    simp only [List.any_eq_true, not_exists, not_and, Bool.not_eq_true] at h
    exact ⟨fun hc => ⟨hc, h⟩, fun hc => hc.1⟩

end Lookup

/-- Rewrite every row that matches the guard; the rewriting keeps the key. -/
def updateMany (t : Table key) (p : ρ → Bool) (f : ρ → ρ) (hf : ∀ r, key (f r) = key r) :
    Table key :=
  ⟨t.rows.map fun r => if p r then f r else r, by
    have hkeys : (t.rows.map fun r => if p r then f r else r).map key = t.rows.map key := by
      rw [List.map_map]
      refine List.map_congr_left fun r _ => ?_
      by_cases h : p r <;> simp [h, hf]
    rw [hkeys]
    exact t.nodup⟩

/-- How many rows a guard matches. -/
def count (t : Table key) (p : ρ → Bool) : Nat := t.rows.countP p

section Update

variable {p : ρ → Bool} {f : ρ → ρ} {hf : ∀ r, key (f r) = key r}

theorem mem_updateMany {t : Table key} {x : ρ} :
    x ∈ (t.updateMany p f hf).rows ↔ ∃ r ∈ t.rows, (if p r then f r else r) = x := by
  simp [updateMany]

/-- An update keeps what it does not write. -/
theorem map_updateMany {τ : Type} {t : Table key} {g : ρ → τ} (hg : ∀ r, g (f r) = g r) :
    (t.updateMany p f hf).rows.map g = t.rows.map g := by
  simp only [updateMany, List.map_map]
  refine List.map_congr_left fun r _ => ?_
  simp only [Function.comp_apply]
  split
  · exact hg r
  · rfl

variable (p) in
theorem keys_updateMany (t : Table key) (hf : ∀ r, key (f r) = key r) :
    (t.updateMany p f hf).rows.map key = t.rows.map key := map_updateMany hf

theorem find_updateMany [DecidableEq κ] (t : Table key) (k : κ) :
    (t.updateMany p f hf).find k = (t.find k).map fun r => if p r then f r else r := by
  have hkey (r : ρ) : key (if p r then f r else r) = key r := by
    by_cases h : p r <;> simp [h, hf]
  cases hfind : t.find k with
  | none =>
      rw [find_eq_none] at hfind
      simp only [Option.map_none, find_eq_none]
      intro x hx
      obtain ⟨r, hr, rfl⟩ := mem_updateMany.mp hx
      rw [hkey]
      exact hfind r hr
  | some r =>
      obtain ⟨hr, hk⟩ := find_eq_some.mp hfind
      exact find_eq_some.mpr ⟨mem_updateMany.mpr ⟨r, hr, rfl⟩, by rw [hkey, hk]⟩

/-- A guard that asks for one key and matches at all matches the row under that key. -/
theorem count_pos [DecidableEq κ] {t : Table key} {q : ρ → Bool} {k : κ}
    (hq : ∀ r, q r = true → key r = k) (h : t.count q ≠ 0) :
    ∃ r, t.find k = some r ∧ q r = true := by
  obtain ⟨r, hr, hqr⟩ := List.countP_pos_iff.mp (Nat.pos_of_ne_zero h)
  exact ⟨r, find_eq_some.mpr ⟨hr, hq r hqr⟩, hqr⟩

/-- A guard that asks for one key matches at most one row. -/
theorem count_le_one {t : Table key} {q : ρ → Bool} {k : κ}
    (hq : ∀ r, q r = true → key r = k) : t.count q ≤ 1 := by
  rw [count, List.countP_eq_length_filter]
  have hnodup : ((t.rows.filter q).map key).Nodup :=
    t.nodup.sublist (List.filter_sublist.map key)
  have hall : ∀ x ∈ (t.rows.filter q).map key, x = k := by
    intro x hx
    obtain ⟨r, hr, rfl⟩ := List.mem_map.mp hx
    exact hq r (List.mem_filter.mp hr).2
  match hl : (t.rows.filter q).map key with
  | [] => simp [List.map_eq_nil_iff.mp hl]
  | [_] => simpa using (congrArg List.length hl).le
  | a :: b :: l =>
      rw [hl] at hnodup hall
      have hab : a = b := (hall a (by simp)).trans (hall b (by simp)).symm
      simp [hab] at hnodup

/-- **Reading a count back.**  A guard restricted to the keys of a list that matches as many rows as the
list is long has matched the row of every key in the list. -/
theorem count_eq_length [DecidableEq κ] {t : Table key} {q : ρ → Bool} {ks : List κ}
    (h : t.count (fun r => decide (key r ∈ ks) && q r) = ks.length) {k : κ} (hk : k ∈ ks) :
    ∃ r, t.find k = some r ∧ q r = true := by
  let hits := (t.rows.filter fun r => decide (key r ∈ ks) && q r).map key
  have hnodup : hits.Nodup := t.nodup.sublist (List.filter_sublist.map key)
  have hsub : hits ⊆ ks := by
    intro x hx
    obtain ⟨r, hr, rfl⟩ := List.mem_map.mp hx
    have := (List.mem_filter.mp hr).2
    simp only [Bool.and_eq_true, decide_eq_true_eq] at this
    exact this.1
  have hlen : ks.length ≤ hits.length := by
    simp only [hits, List.length_map, ← List.countP_eq_length_filter]
    exact h.symm.le
  have hperm : hits.Perm ks := (hnodup.subperm hsub).perm_of_length_le hlen
  obtain ⟨r, hr, hrk⟩ := List.mem_map.mp (hperm.mem_iff.mpr hk)
  obtain ⟨hmem, hguard⟩ := List.mem_filter.mp hr
  simp only [Bool.and_eq_true] at hguard
  exact ⟨r, find_eq_some.mpr ⟨hmem, hrk⟩, hguard.2⟩

end Update

/-! ### Loops of guarded updates -/

theorem ext_rows {t t' : Table key} (h : t.rows = t'.rows) : t = t' := by
  cases t
  cases t'
  cases h
  rfl

theorem updateMany_congr {t : Table key} {p p' : ρ → Bool} {f f' : ρ → ρ}
    {hf : ∀ r, key (f r) = key r} {hf' : ∀ r, key (f' r) = key r}
    (h : ∀ r ∈ t.rows, (if p r then f r else r) = if p' r then f' r else r) :
    t.updateMany p f hf = t.updateMany p' f' hf' :=
  ext_rows (List.map_congr_left h)

theorem find_updated [DecidableEq κ] {t t' : Table key} {p : ρ → Bool} {f : ρ → ρ} {k : κ} {r' : ρ}
    (h : t'.find k = some r')
    (hrows : t'.rows = t.rows.map fun r => if p r then f r else r) (hf : ∀ r, key (f r) = key r) :
    ∃ r, t.find k = some r ∧ (p r = true ∧ r' = f r ∨ p r = false ∧ r' = r) := by
  obtain rfl : t' = t.updateMany p f hf := ext_rows hrows
  rw [find_updateMany] at h
  obtain ⟨r, hr, rfl⟩ := Option.map_eq_some_iff.mp h
  refine ⟨r, hr, ?_⟩
  by_cases hp : p r = true
  · exact Or.inl ⟨hp, if_pos hp⟩
  · exact Or.inr ⟨by simpa using hp, if_neg hp⟩

section Rewrites

variable [DecidableEq κ] {β : Type}

/-- The table after one rewriting for each element of a list, on the row under its key. -/
def rewriteEach (t : Table key) (xs : List β) (k : β → κ) (f : β → ρ → ρ)
    (hf : ∀ x r, key (f x r) = key r) : Table key :=
  t.updateMany (fun r => decide (key r ∈ xs.map k))
    (fun r => ((xs.find? fun x => decide (k x = key r)).map fun x => f x r).getD r)
    fun r => by
      cases h : xs.find? fun x => decide (k x = key r) with
      | none => rfl
      | some x => exact hf x r

theorem keys_rewriteEach (t : Table key) (xs : List β) (k : β → κ) {f : β → ρ → ρ}
    (hf : ∀ x r, key (f x r) = key r) : (t.rewriteEach xs k f hf).rows.map key = t.rows.map key :=
  keys_updateMany _ t _

/-- Guarded rewritings, one after the other, each of which matched a row. -/
inductive Rewrites (q : β → ρ → Bool) (f : β → ρ → ρ) (hf : ∀ x r, key (f x r) = key r) :
    List β → Table key → Table key → Prop
  | nil (t : Table key) : Rewrites q f hf [] t t
  | cons {x : β} {rest : List β} {t t' : Table key} (hcount : t.count (q x) ≠ 0)
      (hrest : Rewrites q f hf rest (t.updateMany (q x) (f x) (hf x)) t') :
      Rewrites q f hf (x :: rest) t t'

/-- A rewriting that is the same for every element is one guarded update. -/
theorem rewriteEach_const (t : Table key) (xs : List β) (k : β → κ) (g : ρ → ρ)
    (hg : ∀ r, key (g r) = key r) :
    t.rewriteEach xs k (fun _ => g) (fun _ => hg) =
      t.updateMany (fun r => decide (key r ∈ xs.map k)) g hg := by
  refine updateMany_congr fun r _ => ?_
  by_cases hmem : key r ∈ xs.map k
  · obtain ⟨x, hx, hkey⟩ := List.mem_map.mp hmem
    cases hfind : xs.find? fun x => decide (k x = key r) with
    | none => exact absurd hkey (by simpa using List.find?_eq_none.mp hfind x hx)
    | some y => simp
  · simp [hmem]

theorem rewriteEach_nil (t : Table key) (k : β → κ) (f : β → ρ → ρ)
    (hf : ∀ x r, key (f x r) = key r) : t.rewriteEach [] k f hf = t :=
  ext_rows (by simp [rewriteEach, updateMany])

/-- One guarded rewriting and then the others are all of them, when the keys differ. -/
theorem rewriteEach_cons {t : Table key} {x : β} {xs : List β} {k : β → κ} {q : ρ → Bool}
    {f : β → ρ → ρ} {hf : ∀ x r, key (f x r) = key r} (hq : ∀ r, q r = true → key r = k x)
    (hcount : t.count q ≠ 0) (hnot : k x ∉ xs.map k) :
    (t.updateMany q (f x) (hf x)).rewriteEach xs k f hf = t.rewriteEach (x :: xs) k f hf := by
  obtain ⟨r₀, hr₀, hq₀⟩ := count_pos hq hcount
  refine ext_rows ?_
  simp only [rewriteEach, updateMany, List.map_map]
  refine List.map_congr_left fun r hr => ?_
  by_cases hkey : key r = k x
  · -- the row under the key is the one the guard matched
    have hrow : r = r₀ := by
      have hfind := find_of_mem hr
      rw [hkey, hr₀] at hfind
      exact (Option.some.inj hfind).symm
    subst hrow
    simp only [Function.comp_apply, hq₀, if_true, hf, hkey]
    simp [hnot]
  · have hqr : q r = false := by
      cases h : q r with
      | false => rfl
      | true => exact absurd (hq r h) hkey
    have hne : ¬ k x = key r := fun h => hkey h.symm
    simp [hqr, hkey, hne]

/-- **A loop of guarded rewritings.**  When each guard asks for the key of its element and a rewritten row
no longer meets the guard of its key, a loop in which every guard matched is one rewriting of the rows under
the keys, which are pairwise distinct and met their guards in the first place. -/
theorem Rewrites.eq {k : β → κ} {q : β → ρ → Bool} {f : β → ρ → ρ}
    {hf : ∀ x r, key (f x r) = key r} {xs : List β} {t t' : Table key}
    (h : Rewrites q f hf xs t t') (hq : ∀ x r, q x r = true → key r = k x)
    (hdead : ∀ x y r, q x r = true → k y = k x → q y (f x r) = false) :
    (xs.map k).Nodup ∧ t' = t.rewriteEach xs k f hf ∧
      ∀ x ∈ xs, ∃ r, t.find (k x) = some r ∧ q x r = true := by
  induction h with
  | nil t => exact ⟨by simp, (rewriteEach_nil t k f hf).symm, by simp⟩
  | @cons x rest t t' hcount hrest ih =>
      obtain ⟨hnodup, heq, hfound⟩ := ih
      obtain ⟨r₀, hr₀, hq₀⟩ := count_pos (hq x) hcount
      have hold : ∀ y ∈ rest, k y ≠ k x ∧ ∃ r, t.find (k y) = some r ∧ q y r = true := by
        intro y hy
        obtain ⟨r, hr, hqr⟩ := hfound y hy
        rw [find_updateMany] at hr
        cases hfind : t.find (k y) with
        | none => simp [hfind] at hr
        | some s =>
            simp only [hfind, Option.map_some, Option.some.injEq] at hr
            by_cases hkey : k y = k x
            · have hs : s = r₀ := by
                rw [hkey, hr₀] at hfind
                exact (Option.some.inj hfind).symm
              rw [hs, hq₀, if_pos rfl] at hr
              rw [← hr, hdead x y r₀ hq₀ hkey] at hqr
              cases hqr
            · refine ⟨hkey, s, rfl, ?_⟩
              have hqs : q x s = false := by
                cases hxs : q x s with
                | false => rfl
                | true =>
                    have := hq x s hxs
                    rw [key_of_find hfind] at this
                    exact absurd this hkey
              rw [hqs, if_neg (by simp)] at hr
              rw [hr]
              exact hqr
      have hnot : k x ∉ rest.map k := by
        intro hmem
        obtain ⟨y, hy, hky⟩ := List.mem_map.mp hmem
        exact (hold y hy).1 hky
      refine ⟨by simpa using ⟨by simpa using hnot, hnodup⟩, ?_, ?_⟩
      · rw [heq, rewriteEach_cons (hq x) hcount hnot]
      · intro y hy
        rcases List.mem_cons.mp hy with rfl | hy
        · exact ⟨r₀, hr₀, hq₀⟩
        · exact (hold y hy).2

end Rewrites

/-! ### Rows over time -/

section Evolves

variable [DecidableEq κ] {R : ρ → ρ → Prop} {t t' : Table key}

/-- Every row of a table is still there, possibly changed as a relation allows. -/
def Evolves (R : ρ → ρ → Prop) (t t' : Table key) : Prop :=
  ∀ k r, t.find k = some r → ∃ r', t'.find k = some r' ∧ R r r'

theorem Evolves.refl (hR : ∀ r, R r r) (t : Table key) : Evolves R t t :=
  fun _ r h => ⟨r, h, hR r⟩

theorem Evolves.trans {t'' : Table key} (hR : ∀ r s u, R r s → R s u → R r u)
    (h : Evolves R t t') (h' : Evolves R t' t'') : Evolves R t t'' := by
  intro k r hr
  obtain ⟨s, hs, hrs⟩ := h k r hr
  obtain ⟨u, hu, hsu⟩ := h' k s hs
  exact ⟨u, hu, hR r s u hrs hsu⟩

/-- Rows that never change stay. -/
theorem Evolves.keep (h : Evolves Eq t t') {r : ρ} (hr : r ∈ t.rows) : r ∈ t'.rows := by
  obtain ⟨r', hr', rfl⟩ := h _ _ (find_of_mem hr)
  exact mem_of_find hr'

theorem Evolves.create (hR : ∀ r, R r r) {r : ρ} (h : t.create r = some t') : Evolves R t t' :=
  fun _ x hx => ⟨x, find_create_of_find h hx, hR x⟩

theorem Evolves.map {g : ρ → ρ} (hrows : t'.rows = t.rows.map g)
    (hg : ∀ r ∈ t.rows, key (g r) = key r) (h : ∀ r ∈ t.rows, R r (g r)) : Evolves R t t' := by
  intro k r hr
  have hmem := mem_of_find hr
  refine ⟨g r, find_eq_some.mpr ⟨?_, (hg r hmem).trans (key_of_find hr)⟩, h r hmem⟩
  rw [hrows]
  exact List.mem_map_of_mem hmem

theorem Evolves.updateMany (hR : ∀ r, R r r) {p : ρ → Bool} {f : ρ → ρ}
    (hrows : t'.rows = t.rows.map fun r => if p r then f r else r)
    (hf : ∀ r, key (f r) = key r) (h : ∀ r ∈ t.rows, p r = true → R r (f r)) :
    Evolves R t t' := by
  refine Evolves.map hrows (fun r _ => ?_) fun r hr => ?_
  · by_cases hp : p r = true
    · rw [if_pos hp, hf]
    · rw [if_neg hp]
  · by_cases hp : p r = true
    · rw [if_pos hp]
      exact h r hr hp
    · rw [if_neg hp]
      exact hR r

theorem Evolves.rewriteEach {β : Type} (hR : ∀ r, R r r) {xs : List β} {k : β → κ}
    {f : β → ρ → ρ} (hf : ∀ x r, key (f x r) = key r) (h : ∀ x r, R r (f x r)) :
    Evolves R t (t.rewriteEach xs k f hf) := by
  refine Evolves.updateMany hR rfl (fun r => ?_) fun r _ _ => ?_
  · cases xs.find? fun x => decide (k x = key r) with
    | none => rfl
    | some x => exact hf x r
  · cases xs.find? fun x => decide (k x = key r) with
    | none => exact hR r
    | some x => exact h x r

end Evolves

/-- A guard that matches nothing changes nothing. -/
theorem updateMany_of_false (t : Table key) {p : ρ → Bool} {f : ρ → ρ}
    {hf : ∀ r, key (f r) = key r} (h : ∀ r ∈ t.rows, p r = false) : t.updateMany p f hf = t := by
  refine ext_rows ?_
  calc t.rows.map (fun r => if p r then f r else r) = t.rows.map id :=
        List.map_congr_left fun r hr => by simp [h r hr]
    _ = t.rows := List.map_id _

/-- The row under a key after one rewriting for each element of a list of distinct keys. -/
theorem find_rewriteEach [DecidableEq κ] {β : Type} {t : Table key} {xs : List β} {k : β → κ}
    {f : β → ρ → ρ} {hf : ∀ x r, key (f x r) = key r} (hnodup : (xs.map k).Nodup) {x : β}
    (hx : x ∈ xs) {r : ρ} (hr : t.find (k x) = some r) :
    (t.rewriteEach xs k f hf).find (k x) = some (f x r) := by
  have hkey : key r = k x := key_of_find hr
  have hfind : xs.find? (fun y => decide (k y = key r)) = some x := by
    cases hy : xs.find? fun y => decide (k y = key r) with
    | none => exact absurd hkey.symm (by simpa using List.find?_eq_none.mp hy x hx)
    | some y =>
        have hky : k y = key r := by simpa using List.find?_some hy
        rw [List.inj_on_of_nodup_map hnodup (List.mem_of_find?_eq_some hy) hx (hky.trans hkey)]
  have hmem : key r ∈ xs.map k := hkey ▸ List.mem_map_of_mem hx
  rw [rewriteEach, find_updateMany, hr]
  simp only [Option.map_some, hmem, decide_true, if_true, hfind, Option.getD_some]

/-- A row under another key stays. -/
theorem find_rewriteEach_of_notMem [DecidableEq κ] {β : Type} {t : Table key} {xs : List β}
    {k : β → κ} {f : β → ρ → ρ} {hf : ∀ x r, key (f x r) = key r} {m : κ} (hm : m ∉ xs.map k) :
    (t.rewriteEach xs k f hf).find m = t.find m := by
  rw [rewriteEach, find_updateMany]
  cases hr : t.find m with
  | none => rfl
  | some r =>
      rw [Option.map_some, if_neg]
      rw [key_of_find hr]
      simpa using hm

/-! ### Totals of an integer column -/

/-- The total of an integer column. -/
def sumOf (t : Table key) (g : ρ → Int) : Int := (t.rows.map g).sum

@[simp] theorem sumOf_empty (g : ρ → Int) : (empty : Table key).sumOf g = 0 := rfl

theorem sumOf_create [DecidableEq κ] {t t' : Table key} {r : ρ} (h : t.create r = some t')
    (g : ρ → Int) : t'.sumOf g = t.sumOf g + g r := by
  simp [sumOf, (create_eq_some h).1]

theorem sum_map_filter (rows : List ρ) (p : ρ → Bool) (g : ρ → Int) :
    ((rows.filter p).map g).sum = (rows.map fun r => if p r then g r else 0).sum := by
  induction rows with
  | nil => rfl
  | cons r rest ih =>
      by_cases hp : p r = true
      · simp [hp, ih]
      · simp [hp, ih]

theorem sumOf_updateMany (t : Table key) (p : ρ → Bool) (f : ρ → ρ)
    (hf : ∀ r, key (f r) = key r) (g : ρ → Int) :
    (t.updateMany p f hf).sumOf g = t.sumOf fun r => if p r then g (f r) else g r := by
  simp only [sumOf, updateMany, List.map_map]
  congr 1
  refine List.map_congr_left fun r _ => ?_
  by_cases h : p r <;> simp [h]

theorem sumOf_congr {t : Table key} {g g' : ρ → Int} (h : ∀ r ∈ t.rows, g r = g' r) :
    t.sumOf g = t.sumOf g' := by
  unfold sumOf
  rw [List.map_congr_left h]

/-- Changing a column on the rows of one guard only changes its total by those rows. -/
theorem sumOf_eq_zero {t : Table key} {g : ρ → Int} (h : ∀ r ∈ t.rows, g r = 0) : t.sumOf g = 0 := by
  unfold sumOf
  rw [List.map_congr_left h]
  simp

theorem sumOf_nonneg {t : Table key} {g : ρ → Int} (h : ∀ r ∈ t.rows, 0 ≤ g r) : 0 ≤ t.sumOf g := by
  refine List.sum_nonneg fun x hx => ?_
  obtain ⟨r, hr, rfl⟩ := List.mem_map.mp hx
  exact h r hr

/-- A total of positive values over more rows is greater. -/
theorem sumOf_le_of_subset {t t' : Table key} {g : ρ → Int} (hsub : ∀ r ∈ t.rows, r ∈ t'.rows)
    (hnonneg : ∀ r ∈ t'.rows, 0 ≤ g r) : t.sumOf g ≤ t'.sumOf g := by
  classical
  have hrows : t.rows.Nodup := List.Nodup.of_map _ t.nodup
  have hrows' : t'.rows.Nodup := List.Nodup.of_map _ t'.nodup
  unfold sumOf
  rw [← List.sum_toFinset g hrows, ← List.sum_toFinset g hrows']
  refine Finset.sum_le_sum_of_subset_of_nonneg (fun r hr => ?_) fun r hr _ => ?_
  · rw [List.mem_toFinset] at hr ⊢
    exact hsub r hr
  · exact hnonneg r (List.mem_toFinset.mp hr)

theorem sumOf_mono {t : Table key} {g g' : ρ → Int} (h : ∀ r ∈ t.rows, g r ≤ g' r) : t.sumOf g ≤ t.sumOf g' :=
  List.sum_le_sum h

theorem sumOf_add (t : Table key) (g g' : ρ → Int) :
    (t.sumOf fun r => g r + g' r) = t.sumOf g + t.sumOf g' :=
  List.sum_map_add

theorem sumOf_updateOne [DecidableEq κ] {t : Table key} {p : ρ → Bool} {f : ρ → ρ}
    (hf : ∀ r, key (f r) = key r) {r : ρ} (hr : r ∈ t.rows) (hp : ∀ x ∈ t.rows, p x = true ↔ x = r)
    (g : ρ → Int) : (t.updateMany p f hf).sumOf g = t.sumOf g + (g (f r) - g r) := by
  have hrows : t.rows.Nodup := List.Nodup.of_map _ t.nodup
  rw [sumOf_updateMany, sumOf, sumOf]
  revert hr hp hrows
  induction t.rows with
  | nil => rintro ⟨⟩
  | cons x rest ih =>
      intro hr hp hrows
      rw [List.nodup_cons] at hrows
      simp only [List.map_cons, List.sum_cons]
      by_cases hx : x = r
      · subst hx
        have hrest : rest.map (fun y => if p y then g (f y) else g y) = rest.map g := by
          refine List.map_congr_left fun y hy => if_neg fun hpy => hrows.1 ?_
          exact (hp y (List.mem_cons_of_mem _ hy)).mp hpy ▸ hy
        rw [hrest, if_pos ((hp x List.mem_cons_self).mpr rfl)]
        ring
      · have hmem : r ∈ rest := (List.mem_cons.mp hr).resolve_left (Ne.symm hx)
        rw [if_neg fun hpx => hx ((hp x List.mem_cons_self).mp hpx),
          ih hmem (fun y hy => hp y (List.mem_cons_of_mem _ hy)) hrows.2]
        ring

/-- **A total as a sum over what its rows stand for.**  Every element of a list has one row of its value, and
every row that counts stands for one element. -/
theorem sumOf_eq_sum {β : Type} {t : Table key} {g : ρ → Int} {xs : List β} (hxs : xs.Nodup)
    {v : β → Int} {R : β → ρ → Prop}
    (hforth : ∀ x ∈ xs, ∃ r ∈ t.rows, R x r ∧ g r = v x)
    (hback : ∀ r ∈ t.rows, g r ≠ 0 → ∃ x ∈ xs, R x r)
    (hrow : ∀ x, ∀ r ∈ t.rows, ∀ r' ∈ t.rows, R x r → R x r' → r = r')
    (helem : ∀ r, ∀ x ∈ xs, ∀ x' ∈ xs, R x r → R x' r → x = x') :
    t.sumOf g = (xs.map v).sum := by
  classical
  have hrows : t.rows.Nodup := List.Nodup.of_map _ t.nodup
  choose row hmem hlink hval using hforth
  calc t.sumOf g = ∑ r ∈ t.rows.toFinset, g r := (List.sum_toFinset g hrows).symm
    _ = ∑ x ∈ xs.toFinset, v x := by
        symm
        refine Finset.sum_bij_ne_zero (fun x hx _ => row x (List.mem_toFinset.mp hx)) ?_ ?_ ?_ ?_
        · exact fun x hx _ => List.mem_toFinset.mpr (hmem x (List.mem_toFinset.mp hx))
        · intro x hx _ x' hx' _ heq
          have hx := List.mem_toFinset.mp hx
          have hx' := List.mem_toFinset.mp hx'
          exact helem _ x hx x' hx' (hlink x hx) (heq ▸ hlink x' hx')
        · intro r hr hne
          have hr := List.mem_toFinset.mp hr
          obtain ⟨x, hx, hxr⟩ := hback r hr hne
          have heq : row x hx = r := hrow x _ (hmem x hx) r hr (hlink x hx) hxr
          refine ⟨x, List.mem_toFinset.mpr hx, ?_, heq⟩
          rw [← hval x hx, heq]
          exact hne
        · exact fun x hx _ => (hval x (List.mem_toFinset.mp hx)).symm
    _ = (xs.map v).sum := List.sum_toFinset v hxs

/-- A column that only one row contributes to. -/
theorem sumOf_eq_single {t : Table key} {g : ρ → Int} {r : ρ} (hr : r ∈ t.rows)
    (h : ∀ x ∈ t.rows, x ≠ r → g x = 0) : t.sumOf g = g r := by
  rw [sumOf_eq_sum (R := Eq) (v := g) (List.nodup_singleton r) ?_ ?_ ?_ ?_]
  · simp
  · intro x hx
    obtain rfl := List.mem_singleton.mp hx
    exact ⟨x, hr, rfl, rfl⟩
  · intro x hx hne
    refine ⟨x, List.mem_singleton.mpr ?_, rfl⟩
    by_contra hother
    exact hne (h x hx hother)
  · exact fun _ _ _ _ _ hx hx' => hx.symm.trans hx'
  · exact fun _ _ _ _ _ hx hx' => hx.trans hx'.symm

/-- A total whose contributions can be charged to different rows of another table that bear them. -/
theorem sumOf_le_charged {ρ' κ' : Type} {key' : ρ' → κ'} {t : Table key} {t' : Table key'} {g : ρ → Int}
    {g' : ρ' → Int} {R : ρ → ρ' → Prop}
    (hcharge : ∀ r ∈ t.rows, g r ≠ 0 → ∃ r' ∈ t'.rows, R r r' ∧ g r ≤ g' r')
    (hinj : ∀ r ∈ t.rows, ∀ x ∈ t.rows, ∀ r', R r r' → R x r' → r = x)
    (hnonneg : ∀ r' ∈ t'.rows, 0 ≤ g' r') : t.sumOf g ≤ t'.sumOf g' := by
  classical
  have hrows : t.rows.Nodup := List.Nodup.of_map _ t.nodup
  have hrows' : t'.rows.Nodup := List.Nodup.of_map _ t'.nodup
  let contributing := t.rows.toFinset.filter fun r => g r ≠ 0
  have hcontributes (x : contributing) : ∃ r' ∈ t'.rows, R x r' ∧ g x ≤ g' r' := by
    obtain ⟨hmem, hne⟩ := Finset.mem_filter.mp x.2
    exact hcharge x (List.mem_toFinset.mp hmem) hne
  choose bearer hmem hlink hle using hcontributes
  have hbearer : Function.Injective bearer := by
    intro x y heq
    have hx := List.mem_toFinset.mp (Finset.mem_filter.mp x.2).1
    have hy := List.mem_toFinset.mp (Finset.mem_filter.mp y.2).1
    exact Subtype.ext (hinj x hx y hy _ (hlink x) (heq ▸ hlink y))
  calc t.sumOf g = ∑ r ∈ t.rows.toFinset, g r := (List.sum_toFinset g hrows).symm
    _ = ∑ r ∈ contributing, g r := (Finset.sum_filter_ne_zero _).symm
    _ = ∑ x ∈ contributing.attach, g x := (Finset.sum_attach _ _).symm
    _ ≤ ∑ x ∈ contributing.attach, g' (bearer x) := Finset.sum_le_sum fun x _ => hle x
    _ = ∑ r' ∈ contributing.attach.map ⟨bearer, hbearer⟩, g' r' := by simp only [Finset.sum_map, Function.Embedding.coeFn_mk]
    _ ≤ ∑ r' ∈ t'.rows.toFinset, g' r' := by
        refine Finset.sum_le_sum_of_subset_of_nonneg (fun r' hr' => ?_) fun r' hr' _ => ?_
        · obtain ⟨x, -, rfl⟩ := Finset.mem_map.mp hr'
          exact List.mem_toFinset.mpr (hmem x)
        · exact hnonneg r' (List.mem_toFinset.mp hr')
    _ = t'.sumOf g' := List.sum_toFinset g' hrows'

/-- Totals by group, over groups that are named once, are the total over what belongs to one of them. -/
theorem sumOf_grouped {ρ' κ' ι : Type} [DecidableEq ι] {key' : ρ' → κ'} (t : Table key) (u : Table key')
    (p : ρ → Bool) (name : ρ → ι) (group : ρ' → Option ι) (g : ρ' → Int)
    (honce : ∀ r ∈ t.rows, ∀ x ∈ t.rows, p r = true → p x = true → name r = name x → r = x) :
    (t.sumOf fun r => if p r then u.sumOf fun y => if group y = some (name r) then g y else 0 else 0) =
      u.sumOf fun y => if t.rows.any fun r => p r && group y = some (name r) then g y else 0 := by
  unfold sumOf
  generalize u.rows = ys
  induction ys with
  | nil => simp
  | cons y rest ih =>
      simp only [List.map_cons, List.sum_cons]
      rw [← ih]
      have hsplit : (t.rows.map fun r => if p r then (if group y = some (name r) then g y else 0) +
          (rest.map fun y => if group y = some (name r) then g y else 0).sum else 0).sum =
          (t.rows.map fun r => if p r && group y = some (name r) then g y else 0).sum +
            (t.rows.map fun r => if p r then
              (rest.map fun y => if group y = some (name r) then g y else 0).sum else 0).sum := by
        rw [← List.sum_map_add]
        refine congrArg List.sum (List.map_congr_left fun r _ => ?_)
        cases p r <;> simp
      rw [hsplit, add_left_inj]
      -- the row belongs to one group at most
      by_cases hany : (t.rows.any fun r => p r && group y = some (name r)) = true
      · rw [if_pos hany]
        obtain ⟨r, hr, hgroup⟩ := List.any_eq_true.mp hany
        have hsingle := sumOf_eq_single (t := t)
          (g := fun r => if p r && group y = some (name r) then g y else 0) hr fun x hx hne => ?_
        · exact hsingle.trans (if_pos hgroup)
        · refine if_neg fun hx' => hne ?_
          simp only [Bool.and_eq_true, decide_eq_true_eq] at hgroup hx'
          exact honce x hx r hr hx'.1 hgroup.1 (Option.some.inj (hx'.2.symm.trans hgroup.2))
      · rw [if_neg hany]
        refine List.sum_eq_zero fun v hv => ?_
        obtain ⟨r, hr, rfl⟩ := List.mem_map.mp hv
        exact if_neg fun hgroup => hany (List.any_eq_true.mpr ⟨r, hr, hgroup⟩)

theorem sum_map_sub {β : Type} (xs : List β) (f g : β → Int) :
    (xs.map fun x => f x - g x).sum = (xs.map f).sum - (xs.map g).sum := by
  induction xs with
  | nil => rfl
  | cons x rest ih =>
      simp only [List.map_cons, List.sum_cons, ih]
      omega

theorem sum_map_flatMap {β γ : Type} (xs : List β) (f : β → List γ) (v : γ → Int) :
    ((xs.flatMap f).map v).sum = (xs.map fun x => ((f x).map v).sum).sum := by
  induction xs with
  | nil => rfl
  | cons x rest ih => simp [ih]

end Table

end Relational
