import Mathlib.Data.List.DropRight
import Mathlib.Tactic

/-!
# Stripping a list at both ends

* `strip p xs` — `xs` without the elements that satisfy `p` at either end.
* `Stripped p xs` — there are none; **`strip_eq`** — what lies between two such ends is what stripping leaves.
-/

namespace Qift.Lib

variable {α : Type*} {p : α → Bool} {xs ys : List α}

/-- The list without the elements of either end that satisfy `p`. -/
def strip (p : α → Bool) (xs : List α) : List α := ((xs.dropWhile p).reverse.dropWhile p).reverse

/-- Neither end satisfies `p`. -/
structure Stripped (p : α → Bool) (xs : List α) : Prop where
  first : ∀ x ∈ xs.head?, p x = false
  last : ∀ x ∈ xs.getLast?, p x = false

theorem dropWhile_eq_self (h : ∀ x ∈ xs.head?, p x = false) : xs.dropWhile p = xs := by
  cases xs with
  | nil => rfl
  | cons x rest =>
      have hx : p x = false := h x rfl
      rw [List.dropWhile_cons_of_neg]
      simp [hx]

/-- **The list between two ends.** -/
theorem strip_eq (h : Stripped p ys) {start stop : List α} (hstart : ∀ x ∈ start, p x = true)
    (hstop : ∀ x ∈ stop, p x = true) : strip p (start ++ ys ++ stop) = ys := by
  unfold strip
  rw [List.append_assoc, List.dropWhile_append_of_pos hstart]
  by_cases hempty : ys = []
  · subst hempty
    rw [List.nil_append, List.dropWhile_eq_nil_iff.mpr hstop]
    rfl
  · have hhead : ∀ x ∈ (ys ++ stop).head?, p x = false := by
      intro x hx
      rw [List.head?_append_of_ne_nil _ hempty] at hx
      exact h.first x hx
    have hlast : ∀ x ∈ ys.reverse.head?, p x = false := by
      intro x hx
      rw [List.head?_reverse] at hx
      exact h.last x hx
    rw [dropWhile_eq_self hhead, List.reverse_append,
      List.dropWhile_append_of_pos fun x hx => hstop x (List.mem_reverse.mp hx), dropWhile_eq_self hlast,
      List.reverse_reverse]

theorem strip_of_stripped (h : Stripped p xs) : strip p xs = xs := by
  have hstrip : strip p ([] ++ xs ++ []) = xs := strip_eq h (by simp) (by simp)
  rwa [List.nil_append, List.append_nil] at hstrip

theorem head?_dropWhile_false : ∀ x ∈ (xs.dropWhile p).head?, p x = false := by
  intro x hx
  have hnot := List.head?_dropWhile_not p xs
  rw [hx] at hnot
  exact hnot

theorem stripped_strip (p : α → Bool) (xs : List α) : Stripped p (strip p xs) := by
  unfold strip
  constructor
  · intro x hx
    -- the rest begins as the list without its front
    rw [List.head?_reverse] at hx
    by_cases hempty : (xs.dropWhile p).reverse.dropWhile p = []
    · rw [hempty] at hx
      cases hx
    · obtain ⟨dropped, hsplit⟩ := List.dropWhile_suffix (l := (xs.dropWhile p).reverse) p
      have hfirst : (xs.dropWhile p).head? = some x := by
        rw [← List.getLast?_reverse, ← hsplit, List.getLast?_append_of_ne_nil _ hempty]
        exact hx
      exact head?_dropWhile_false x hfirst
  · intro x hx
    rw [List.getLast?_reverse] at hx
    exact head?_dropWhile_false x hx

/-- What stripping takes off. -/
theorem exists_strip (p : α → Bool) (xs : List α) : ∃ start stop, xs = start ++ strip p xs ++ stop ∧
    (∀ x ∈ start, p x = true) ∧ ∀ x ∈ stop, p x = true := by
  refine ⟨xs.takeWhile p, ((xs.dropWhile p).reverse.takeWhile p).reverse, ?_, fun x hx => ?_, fun x hx => ?_⟩
  · unfold strip
    rw [List.append_assoc, ← List.reverse_append, List.takeWhile_append_dropWhile, List.reverse_reverse,
      List.takeWhile_append_dropWhile]
  · exact List.mem_takeWhile_imp hx
  · exact List.mem_takeWhile_imp (List.mem_reverse.mp hx)

theorem strip_strip (p : α → Bool) (xs : List α) : strip p (strip p xs) = strip p xs :=
  strip_of_stripped (stripped_strip p xs)

/-- Stripping does not see what is added at the ends. -/
theorem strip_pad {start stop : List α} (hstart : ∀ x ∈ start, p x = true) (hstop : ∀ x ∈ stop, p x = true) :
    strip p (start ++ xs ++ stop) = strip p xs := by
  obtain ⟨pre, post, hsplit, hpre, hpost⟩ := exists_strip p xs
  have hassoc : start ++ xs ++ stop = (start ++ pre) ++ strip p xs ++ (post ++ stop) := by
    conv_lhs => rw [hsplit]
    simp only [List.append_assoc]
  rw [hassoc]
  apply strip_eq (stripped_strip p xs)
  · intro x hx
    exact (List.mem_append.mp hx).elim (hstart x) (hpre x)
  · intro x hx
    exact (List.mem_append.mp hx).elim (hpost x) (hstop x)

/-- A map that keeps `p` keeps what is stripped. -/
theorem strip_map {β : Type*} {q : β → Bool} {f : α → β} (hf : ∀ x, q (f x) = p x) (xs : List α) :
    strip q (xs.map f) = (strip p xs).map f := by
  have hcomp : q ∘ f = p := funext hf
  unfold strip
  rw [List.dropWhile_map, hcomp, ← List.map_reverse, List.dropWhile_map, hcomp, List.map_reverse]

end Qift.Lib
