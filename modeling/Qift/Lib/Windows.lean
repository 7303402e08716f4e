import Mathlib.Data.List.Basic
import Mathlib.Tactic

/-!
# Sliding windows over a log of times

* `since cutoff log` — the times after a cutoff; what an earlier cutoff leaves out, a later one leaves out.
* `within width t log` — the times in `(t - width, t]`.
* `Capped n width log` — no window holds more than `n` times. **`Capped.snoc`**: it stays so when a time is added that
  fewer than `n` precede since the start of the window that ends at it.
-/

namespace Qift.Lib

section Since

variable {T : Type*} [LinearOrder T] {cutoff cutoff' : T} {xs ys : List T}

/-- The times after a cutoff. -/
def since (cutoff : T) (log : List T) : List T := log.filter fun s => cutoff < s

theorem since_append (cutoff : T) (xs ys : List T) : since cutoff (xs ++ ys) = since cutoff xs ++ since cutoff ys :=
  List.filter_append xs ys

theorem since_since (h : cutoff ≤ cutoff') (xs : List T) : since cutoff' (since cutoff xs) = since cutoff' xs := by
  unfold since
  rw [List.filter_filter]
  apply List.filter_congr
  intro s _
  by_cases hs : cutoff' < s
  · simp [hs, h.trans_lt hs]
  · simp [hs]

/-- Two logs that agree after a cutoff agree after a later one. -/
theorem since_congr (h : cutoff ≤ cutoff') (heq : since cutoff xs = since cutoff ys) :
    since cutoff' xs = since cutoff' ys := by
  rw [← since_since h xs, heq, since_since h]

theorem length_since_le (h : cutoff ≤ cutoff') (xs : List T) :
    (since cutoff' xs).length ≤ (since cutoff xs).length := by
  rw [← since_since h xs]
  exact List.length_filter_le _ _

end Since

section Within

variable {T : Type*} [AddCommGroup T] [LinearOrder T] [IsOrderedAddMonoid T] {n : Nat} {width now : T} {xs : List T}

/-- The times of the half-open interval `(t - width, t]`. -/
def within (width t : T) (log : List T) : List T := log.filter fun s => t - width < s ∧ s ≤ t

omit [IsOrderedAddMonoid T] in
theorem within_append (width t : T) (xs ys : List T) :
    within width t (xs ++ ys) = within width t xs ++ within width t ys := List.filter_append xs ys

omit [IsOrderedAddMonoid T] in
/-- While nothing is later, a window reaches to the end of the log. -/
theorem within_eq_since (width : T) (h : ∀ s ∈ xs, s ≤ now) : within width now xs = since (now - width) xs := by
  apply List.filter_congr
  intro s hs
  simp [h s hs]

omit [IsOrderedAddMonoid T] in
theorem length_within_le (width t : T) (xs : List T) : (within width t xs).length ≤ (since (t - width) xs).length := by
  apply List.Sublist.length_le
  apply List.monotone_filter_right
  intro s hs
  rw [decide_eq_true_iff] at hs ⊢
  exact hs.1

/-- No window of the given width holds more than `n` times. -/
def Capped (n : Nat) (width : T) (log : List T) : Prop := ∀ t, (within width t log).length ≤ n

omit [IsOrderedAddMonoid T] in
theorem capped_nil (n : Nat) (width : T) : Capped n width [] := fun _ => Nat.zero_le n

/-- **The cap stays** when a time is added to fewer than `n` of the window that ends at it: a window that holds it starts
no earlier. -/
theorem Capped.snoc (h : Capped n width xs) (hroom : (since (now - width) xs).length < n) :
    Capped n width (xs ++ [now]) := by
  intro t
  rw [within_append, List.length_append]
  rcases le_or_gt now t with hle | hlt
  · have hstart : now - width ≤ t - width := sub_le_sub_right hle width
    have hold : (within width t xs).length < n :=
      ((length_within_le width t xs).trans (length_since_le hstart xs)).trans_lt hroom
    have hnew : (within width t [now]).length ≤ 1 := List.length_filter_le _ _
    omega
  · have hnew : within width t [now] = [] := by
      apply List.filter_eq_nil_iff.mpr
      intro s hs
      rw [List.mem_singleton.mp hs, decide_eq_true_iff]
      exact fun hin => absurd hin.2 (not_le.mpr hlt)
    rw [hnew]
    exact h t

end Within

end Qift.Lib
