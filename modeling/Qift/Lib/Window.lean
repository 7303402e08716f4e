import Mathlib.Algebra.Order.Group.Defs
import Mathlib.Tactic

/-!
# Caps on sliding windows

* `Throttled admitted time span cap xs` — in the log `xs`, whoever was admitted found fewer than `cap` admitted before
  him in the window that ends with him.
* `Throttled.window` — then no window of that length holds more than `cap` that were admitted, wherever it ends, and
  whether or not the log is in the order of its times.
-/

namespace Window

variable {α τ : Type} [AddCommGroup τ] [LinearOrder τ] [IsOrderedAddMonoid τ]

/-- Admitted at or after an instant. -/
def since (admitted : α → Bool) (time : α → τ) (start : τ) (x : α) : Bool := admitted x && decide (start ≤ time x)

/-- Admitted in a closed interval. -/
def within (admitted : α → Bool) (time : α → τ) (start stop : τ) (x : α) : Bool :=
  since admitted time start x && decide (time x ≤ stop)

/-- Whoever was admitted found fewer than `cap` in his window. -/
inductive Throttled (admitted : α → Bool) (time : α → τ) (span : τ) (cap : Nat) : List α → Prop
  | nil : Throttled admitted time span cap []
  | snoc {xs : List α} (x : α) (h : Throttled admitted time span cap xs)
      (hx : admitted x = true → xs.countP (since admitted time (time x - span)) < cap) :
      Throttled admitted time span cap (xs ++ [x])

variable {admitted : α → Bool} {time : α → τ} {span : τ} {cap : Nat} {xs : List α}

/-- A window that ends no earlier than `x` starts no earlier than the window of `x`. -/
theorem within_le_since {stop : τ} {x : α} (hx : time x ≤ stop) :
    xs.countP (within admitted time (stop - span) stop) ≤ xs.countP (since admitted time (time x - span)) := by
  refine List.countP_mono_left fun y _ hy => ?_
  simp only [within, since, Bool.and_eq_true, decide_eq_true_eq] at hy ⊢
  exact ⟨hy.1.1, (sub_le_sub_right hx span).trans hy.1.2⟩

/-- **No window holds more than the cap.** -/
theorem Throttled.window (h : Throttled admitted time span cap xs) (stop : τ) :
    xs.countP (within admitted time (stop - span) stop) ≤ cap := by
  induction h with
  | nil => exact Nat.zero_le _
  | @snoc xs x _ hx ih =>
      rw [List.countP_append, List.countP_singleton]
      by_cases hin : within admitted time (stop - span) stop x = true
      · -- the window holds `x`, and what it holds of the log before is in the window of `x`
        have hboth := hin
        simp only [within, since, Bool.and_eq_true, decide_eq_true_eq] at hboth
        have hbefore := (within_le_since hboth.2).trans_lt (hx hboth.1.1)
        rw [if_pos hin]
        exact hbefore
      · rw [if_neg hin]
        exact ih

end Window
