import Mathlib.Data.List.Sort
import Mathlib.Data.List.Nodup

/-!
# Sorting by a key

Sorting forgets the order of its input as soon as no two of its elements share a key. A stable sort ends with the last
of the greatest elements.
-/

namespace Qift.Lib

variable {α κ : Type*} [LinearOrder κ]

theorem insertionSort_eq_of_perm {r : α → α → Prop} [DecidableRel r] {key : α → κ}
    (hr : ∀ a b, r a b ↔ key a ≤ key b) {xs ys : List α} (hperm : xs.Perm ys)
    (hnodup : (xs.map key).Nodup) : xs.insertionSort r = ys.insertionSort r := by
  have htrans : IsTrans α r := ⟨fun a b c hab hbc => by
    rw [hr] at hab hbc ⊢
    exact le_trans hab hbc⟩
  have htotal : Std.Total r := ⟨fun a b => by
    rw [hr, hr]
    exact le_total (key a) (key b)⟩
  have hsorted : (xs.insertionSort r).Perm (ys.insertionSort r) :=
    (List.perm_insertionSort r xs).trans (hperm.trans (List.perm_insertionSort r ys).symm)
  refine List.Perm.eq_of_pairwise ?_ (List.pairwise_insertionSort r xs)
    (List.pairwise_insertionSort r ys) hsorted
  intro a b ha hb hab hba
  have ha' : a ∈ xs := (List.mem_insertionSort r).mp ha
  have hb' : b ∈ xs := hperm.mem_iff.mpr ((List.mem_insertionSort r).mp hb)
  have hkey : key a = key b := le_antisymm ((hr a b).mp hab) ((hr b a).mp hba)
  exact List.inj_on_of_nodup_map hnodup ha' hb' hkey

/-- An element that some element of a list is not below goes before the last one. -/
theorem getLast?_orderedInsert_of_le {r : α → α → Prop} [DecidableRel r] {a b : α} {xs : List α}
    (hlast : xs.getLast? = some b) (hab : r a b) : (xs.orderedInsert r a).getLast? = some b := by
  induction xs with
  | nil => cases hlast
  | cons x rest ih =>
      rw [List.orderedInsert_cons]
      split
      · rw [List.getLast?_cons_cons]
        exact hlast
      next hax =>
        cases rest with
        | nil =>
            -- the only element is the last one
            obtain rfl : x = b := by simpa using hlast
            exact absurd hab hax
        | cons y rest =>
            rw [List.getLast?_cons_cons] at hlast
            rw [List.getLast?_cons, ih hlast]
            rfl

/-- **The end of a stable sort**: an element that no earlier one exceeds and every later one is below. -/
theorem getLast?_insertionSort {r : α → α → Prop} [DecidableRel r] {key : α → κ} (hr : ∀ a b, r a b ↔ key a ≤ key b)
    {xs ys : List α} {b : α} (hxs : ∀ x ∈ xs, key x ≤ key b) (hys : ∀ y ∈ ys, key y < key b) :
    ((xs ++ b :: ys).insertionSort r).getLast? = some b := by
  induction xs with
  | nil =>
      have hafter : ∀ zs : List α, (∀ z ∈ zs, key z < key b) → (zs.orderedInsert r b).getLast? = some b := by
        intro zs hzs
        induction zs with
        | nil => rfl
        | cons z rest ih =>
            have hbz : ¬r b z := by
              rw [hr, not_le]
              exact hzs z List.mem_cons_self
            rw [List.orderedInsert_of_not_le r rest hbz, List.getLast?_cons, ih fun x hx => hzs x (List.mem_cons_of_mem _ hx)]
            rfl
      apply hafter
      intro z hz
      exact hys z ((List.mem_insertionSort r).mp hz)
  | cons x rest ih =>
      apply getLast?_orderedInsert_of_le (ih fun y hy => hxs y (List.mem_cons_of_mem _ hy))
      rw [hr]
      exact hxs x List.mem_cons_self

/-- Every list with an element has one at which its stable sort ends. -/
theorem exists_greatest (key : α → κ) {xs : List α} (h : xs ≠ []) :
    ∃ ys b zs, xs = ys ++ b :: zs ∧ (∀ y ∈ ys, key y ≤ key b) ∧ ∀ z ∈ zs, key z < key b := by
  induction xs with
  | nil => exact absurd rfl h
  | cons x rest ih =>
      by_cases hrest : rest = []
      · subst hrest
        exact ⟨[], x, [], rfl, by simp, by simp⟩
      · obtain ⟨ys, b, zs, rfl, hys, hzs⟩ := ih hrest
        rcases le_or_gt (key x) (key b) with hxb | hbx
        · refine ⟨x :: ys, b, zs, rfl, fun y hy => ?_, hzs⟩
          rcases List.mem_cons.mp hy with rfl | hy
          · exact hxb
          · exact hys y hy
        · refine ⟨[], x, ys ++ b :: zs, rfl, by simp, fun z hz => ?_⟩
          rcases List.mem_append.mp hz with hz | hz
          · exact (hys z hz).trans_lt hbx
          · rcases List.mem_cons.mp hz with rfl | hz
            · exact hbx
            · exact (hzs z hz).trans hbx

end Qift.Lib
