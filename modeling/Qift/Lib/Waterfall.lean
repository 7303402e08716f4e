import Mathlib.Algebra.BigOperators.Group.List.Basic
import Mathlib.Tactic

/-!
# Drawing on balances in order

A budget is drawn on a list of balances from the front: each positive balance is taken whole while the budget
lasts, the last one in part.

* **`draw_total`** — what is drawn in total is the smaller of the budget and the positive balances.
* `draw_mem` — every draw is positive and within its balance.
* `draw_order`, `draw_dropLast` — the draws follow the order of the list without a gap, and only the last
  one may leave something behind.
-/

namespace Waterfall

variable {α : Type} (balance : α → Int)

/-- The draws of a budget on the balances of a list. -/
def draw : List α → Int → List (α × Int)
  | [], _ => []
  | x :: rest, budget =>
      if budget ≤ 0 then []
      else if balance x ≤ 0 then draw rest budget
      else (x, min (balance x) budget) :: draw rest (budget - min (balance x) budget)

/-- What a list of balances can give. -/
def available (xs : List α) : Int := (xs.map fun x => max 0 (balance x)).sum

variable {balance}

theorem draw_of_nonpos {xs : List α} {budget : Int} (h : budget ≤ 0) :
    draw balance xs budget = [] := by
  cases xs with
  | nil => rfl
  | cons x rest => rw [draw, if_pos h]

theorem available_nonneg (balance : α → Int) (xs : List α) : 0 ≤ available balance xs := by
  refine List.sum_nonneg fun v hv => ?_
  obtain ⟨x, -, rfl⟩ := List.mem_map.mp hv
  exact le_max_left 0 _

theorem available_eq_sum {xs : List α} (h : ∀ x ∈ xs, 0 ≤ balance x) :
    available balance xs = (xs.map balance).sum := by
  unfold available
  rw [List.map_congr_left fun x hx => max_eq_right (h x hx)]

/-- **What is drawn.**  The smaller of the budget and what the list can give. -/
theorem draw_total (xs : List α) {budget : Int} (h : 0 ≤ budget) :
    ((draw balance xs budget).map Prod.snd).sum = min budget (available balance xs) := by
  induction xs generalizing budget with
  | nil => simp [draw, available, h]
  | cons x rest ih =>
      have hrest := available_nonneg balance rest
      have hcons : available balance (x :: rest) = max 0 (balance x) + available balance rest := by
        simp [available]
      rw [hcons]
      by_cases hbudget : budget ≤ 0
      · have hzero : budget = 0 := by omega
        rw [draw_of_nonpos hbudget, hzero]
        simp only [List.map_nil, List.sum_nil]
        omega
      · by_cases hx : balance x ≤ 0
        · rw [draw, if_neg hbudget, if_pos hx, ih h]
          omega
        · rw [draw, if_neg hbudget, if_neg hx, List.map_cons, List.sum_cons, ih (by omega)]
          omega

theorem draw_mem {xs : List α} {budget : Int} {p : α × Int} (h : p ∈ draw balance xs budget) :
    p.1 ∈ xs ∧ 0 < p.2 ∧ p.2 ≤ balance p.1 := by
  induction xs generalizing budget with
  | nil => simp [draw] at h
  | cons x rest ih =>
      rw [draw] at h
      split at h
      · cases h
      · split at h
        · obtain ⟨hmem, hrest⟩ := ih h
          exact ⟨List.mem_cons_of_mem _ hmem, hrest⟩
        · rcases List.mem_cons.mp h with rfl | h
          · exact ⟨by simp, by simp; omega, by simp⟩
          · obtain ⟨hmem, hrest⟩ := ih h
            exact ⟨List.mem_cons_of_mem _ hmem, hrest⟩

/-- The draws follow the positive balances in order, without a gap. -/
theorem draw_order (balance : α → Int) (xs : List α) (budget : Int) :
    (draw balance xs budget).map Prod.fst <+: xs.filter fun x => decide (0 < balance x) := by
  induction xs generalizing budget with
  | nil => simp [draw]
  | cons x rest ih =>
      rw [draw]
      split
      · simp
      · split
        · rename_i hx
          rw [List.filter_cons_of_neg (by simpa using hx)]
          exact ih budget
        · rename_i hx
          rw [List.filter_cons_of_pos (by simpa using hx), List.map_cons]
          exact (List.prefix_cons_inj x).mpr (ih _)

theorem draw_dropLast {xs : List α} {budget : Int} {p : α × Int}
    (h : p ∈ (draw balance xs budget).dropLast) : p.2 = balance p.1 := by
  induction xs generalizing budget with
  | nil => simp [draw] at h
  | cons x rest ih =>
      rw [draw] at h
      split at h
      · simp at h
      · split at h
        · exact ih h
        · rename_i hbudget hx
          by_cases hlast : draw balance rest (budget - min (balance x) budget) = []
          · simp [hlast] at h
          · rw [List.dropLast_cons_of_ne_nil hlast] at h
            rcases List.mem_cons.mp h with rfl | h
            · -- a further draw means that this one left some budget
              have hleft : ¬ budget - min (balance x) budget ≤ 0 :=
                fun hle => hlast (draw_of_nonpos hle)
              show min (balance x) budget = balance x
              omega
            · exact ih h

end Waterfall
