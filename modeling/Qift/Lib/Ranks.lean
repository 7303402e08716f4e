import Mathlib.Data.List.Sort
import Mathlib.Data.List.Nodup

/-!
# The first of a list by a key

* `sortBy key xs` — the stable sort; `sortBy_filter`: what is left out before may be left out after.
* `sortBy_split` — the place of an element: as many as exceed it nowhere before, and are below it after.
* `FirstBy n key S rows` — `rows` are the first `n` elements of `S`, whichever of equal ones.
* **`firstBy_take`** — when the first of a sorted list are the first of a set that is not the list's.
-/

namespace Qift.Lib

variable {α κ : Type*} [LinearOrder κ] {key : α → κ}

/-- Insertion before the first element that is not below. -/
def insertBy (key : α → κ) (a : α) (xs : List α) : List α := xs.orderedInsert (fun a b => key a ≤ key b) a

/-- The stable sort by a key. -/
def sortBy (key : α → κ) (xs : List α) : List α := xs.insertionSort fun a b => key a ≤ key b

theorem insertBy_of_le {a x : α} (h : key a ≤ key x) (xs : List α) : insertBy key a (x :: xs) = a :: x :: xs :=
  List.orderedInsert_cons_of_le _ xs h

theorem insertBy_of_not_le {a x : α} (h : ¬key a ≤ key x) (xs : List α) :
    insertBy key a (x :: xs) = x :: insertBy key a xs := List.orderedInsert_of_not_le _ xs h

theorem sortBy_cons (a : α) (xs : List α) : sortBy key (a :: xs) = insertBy key a (sortBy key xs) := rfl

theorem perm_sortBy (key : α → κ) (xs : List α) : (sortBy key xs).Perm xs := List.perm_insertionSort _ xs

theorem mem_sortBy {a : α} {xs : List α} : a ∈ sortBy key xs ↔ a ∈ xs := (perm_sortBy key xs).mem_iff

theorem pairwise_sortBy (key : α → κ) (xs : List α) : (sortBy key xs).Pairwise fun a b => key a ≤ key b := by
  have : IsTrans α fun a b => key a ≤ key b := ⟨fun _ _ _ => le_trans⟩
  have : Std.Total fun a b : α => key a ≤ key b := ⟨fun _ _ => le_total _ _⟩
  exact List.pairwise_insertionSort _ xs

/-- A sorted list with one more element, of which some are left out. -/
theorem filter_insertBy {p : α → Bool} {a : α} {xs : List α} (hxs : xs.Pairwise fun a b => key a ≤ key b) :
    (insertBy key a xs).filter p = if p a then insertBy key a (xs.filter p) else xs.filter p := by
  induction xs with
  | nil =>
      by_cases hpa : p a = true
      · simp [insertBy, hpa]
      · simp [insertBy, hpa]
  | cons x rest ih =>
      obtain ⟨hx, hrest⟩ := List.pairwise_cons.mp hxs
      by_cases hle : key a ≤ key x
      · rw [insertBy_of_le hle]
        by_cases hpa : p a = true
        · -- it stands before all that is left
          rw [if_pos hpa, List.filter_cons_of_pos hpa]
          cases hleft : (x :: rest).filter p with
          | nil => rfl
          | cons y left =>
              have hy : y ∈ x :: rest := List.mem_of_mem_filter (hleft ▸ List.mem_cons_self)
              refine (insertBy_of_le ?_ left).symm
              rcases List.mem_cons.mp hy with rfl | hy
              · exact hle
              · exact hle.trans (hx y hy)
        · rw [if_neg hpa, List.filter_cons_of_neg hpa]
      · rw [insertBy_of_not_le hle]
        by_cases hpx : p x = true
        · rw [List.filter_cons_of_pos hpx, ih hrest, List.filter_cons_of_pos hpx]
          by_cases hpa : p a = true
          · rw [if_pos hpa, if_pos hpa, insertBy_of_not_le hle]
          · rw [if_neg hpa, if_neg hpa]
        · rw [List.filter_cons_of_neg hpx, ih hrest, List.filter_cons_of_neg hpx]

theorem sortBy_filter (p : α → Bool) (xs : List α) : (sortBy key xs).filter p = sortBy key (xs.filter p) := by
  induction xs with
  | nil => rfl
  | cons x rest ih =>
      rw [sortBy_cons, filter_insertBy (pairwise_sortBy key rest), ih]
      by_cases hx : p x = true
      · rw [if_pos hx, List.filter_cons_of_pos hx, sortBy_cons]
      · rw [if_neg hx, List.filter_cons_of_neg hx]

theorem sortBy_map {β κ' : Type*} [LinearOrder κ'] {key' : β → κ'} {f : α → β} {xs : List α}
    (h : ∀ a ∈ xs, ∀ b ∈ xs, key a ≤ key b ↔ key' (f a) ≤ key' (f b)) :
    sortBy key' (xs.map f) = (sortBy key xs).map f :=
  (List.map_insertionSort _ _ f xs h).symm

/-! ### The place of an element -/

/-- An element that is below another one goes to its front. -/
theorem insertBy_front {a b : α} {us : List α} (vs : List α) (hab : key a ≤ key b) (hus : ∀ u ∈ us, key u ≤ key b) :
    ∃ us', insertBy key a (us ++ b :: vs) = us' ++ b :: vs ∧
      us'.length = us.length + 1 ∧ ∀ u ∈ us', key u ≤ key b := by
  induction us with
  | nil => exact ⟨[a], insertBy_of_le hab vs, rfl, by simpa using hab⟩
  | cons u rest ih =>
      by_cases hle : key a ≤ key u
      · refine ⟨a :: u :: rest, insertBy_of_le hle _, rfl, fun v hv => ?_⟩
        rcases List.mem_cons.mp hv with rfl | hv
        · exact hab
        · exact hus v hv
      · obtain ⟨us', heq, hlength, hus'⟩ := ih fun v hv => hus v (List.mem_cons_of_mem _ hv)
        refine ⟨u :: us', ?_, by simp [hlength], fun v hv => ?_⟩
        · rw [List.cons_append, insertBy_of_not_le hle, heq]
          rfl
        · rcases List.mem_cons.mp hv with rfl | hv
          · exact hus v List.mem_cons_self
          · exact hus' v hv

/-- One that exceeds it goes behind it. -/
theorem insertBy_behind {a b : α} {us vs : List α} (hab : ¬key a ≤ key b) (hus : ∀ u ∈ us, key u ≤ key b) :
    insertBy key a (us ++ b :: vs) = us ++ b :: insertBy key a vs := by
  induction us with
  | nil => exact insertBy_of_not_le hab vs
  | cons u rest ih =>
      have hle : ¬key a ≤ key u := fun h => hab (h.trans (hus u List.mem_cons_self))
      rw [List.cons_append, insertBy_of_not_le hle, ih fun v hv => hus v (List.mem_cons_of_mem _ hv)]
      rfl

/-- The place of the first element of a list. -/
theorem sortBy_cons_split (key : α → κ) (a : α) (ys : List α) :
    ∃ us vs, sortBy key (a :: ys) = us ++ a :: vs ∧ us.length = ys.countP (fun b => key b < key a) ∧
      ∀ u ∈ us, key u ≤ key a := by
  rw [sortBy_cons, ← (perm_sortBy key ys).countP_eq]
  have hsorted := pairwise_sortBy key ys
  generalize sortBy key ys = zs at hsorted
  induction zs with
  | nil => exact ⟨[], [], rfl, rfl, by simp⟩
  | cons y rest ih =>
      obtain ⟨hy, hrest⟩ := List.pairwise_cons.mp hsorted
      by_cases hle : key a ≤ key y
      · refine ⟨[], y :: rest, insertBy_of_le hle rest, ?_, by simp⟩
        -- none of a sorted list is below its first
        refine (List.countP_eq_zero.mpr fun b hb => ?_).symm
        rw [decide_eq_true_iff, not_lt]
        rcases List.mem_cons.mp hb with rfl | hb
        · exact hle
        · exact hle.trans (hy b hb)
      · obtain ⟨us, vs, heq, hlength, hus⟩ := ih hrest
        refine ⟨y :: us, vs, ?_, ?_, fun u hu => ?_⟩
        · rw [insertBy_of_not_le hle, heq]
          rfl
        · rw [List.countP_cons_of_pos (by simpa using hle), List.length_cons, hlength]
        · rcases List.mem_cons.mp hu with rfl | hu
          · exact (not_le.mp hle).le
          · exact hus u hu

/-- **The place of an element** in a stable sort. -/
theorem sortBy_split (key : α → κ) (xs : List α) (a : α) (ys : List α) :
    ∃ us vs, sortBy key (xs ++ a :: ys) = us ++ a :: vs ∧
      us.length = xs.countP (fun b => key b ≤ key a) + ys.countP (fun b => key b < key a) ∧
      ∀ u ∈ us, key u ≤ key a := by
  induction xs with
  | nil =>
      obtain ⟨us, vs, heq, hlength, hus⟩ := sortBy_cons_split key a ys
      exact ⟨us, vs, heq, by simpa using hlength, hus⟩
  | cons x rest ih =>
      obtain ⟨us, vs, heq, hlength, hus⟩ := ih
      rw [List.cons_append, sortBy_cons, heq]
      by_cases hle : key x ≤ key a
      · obtain ⟨us', heq', hlength', hus'⟩ := insertBy_front vs hle hus
        refine ⟨us', vs, heq', ?_, hus'⟩
        rw [hlength', hlength, List.countP_cons_of_pos (by simpa using hle), Nat.add_right_comm]
      · refine ⟨us, _, insertBy_behind hle hus, ?_, hus⟩
        rw [hlength, List.countP_cons_of_neg (by simpa using hle)]

/-! ### The first of a set -/

/-- The first `n` elements of a set by a key: what is left out is not before any of them. -/
structure FirstBy (n : Nat) (key : α → κ) (S : α → Prop) (rows : List α) : Prop where
  nodup : rows.Nodup
  sorted : rows.Pairwise fun a b => key a ≤ key b
  mem : ∀ a ∈ rows, S a
  length : rows.length ≤ n
  least : ∀ a, S a → a ∉ rows → rows.length = n ∧ ∀ b ∈ rows, key b ≤ key a

/-- In a sorted list, the first are below what that many are below. -/
theorem le_of_mem_take {n : Nat} {xs : List α} (hsorted : xs.Pairwise fun a b => key a ≤ key b) {k : κ}
    (hcount : n ≤ xs.countP fun b => key b ≤ k) {b : α} (hb : b ∈ xs.take n) : key b ≤ k := by
  obtain ⟨ps, qs, htake⟩ := List.append_of_mem hb
  have hxs : xs = ps ++ b :: (qs ++ xs.drop n) := by
    conv_lhs => rw [← List.take_append_drop n xs, htake]
    simp
  have hlength : ps.length < n := by
    have hle := List.length_take_le n xs
    rw [htake, List.length_append, List.length_cons] at hle
    omega
  by_contra hbk
  rw [hxs] at hsorted hcount
  have hbelow : (b :: (qs ++ xs.drop n)).countP (fun b => key b ≤ k) = 0 := by
    refine List.countP_eq_zero.mpr fun c hc => ?_
    rw [decide_eq_true_iff]
    intro hck
    rcases List.mem_cons.mp hc with rfl | hc
    · exact hbk hck
    · exact hbk (((List.pairwise_cons.mp (List.pairwise_append.mp hsorted).2.1).1 c hc).trans hck)
  rw [List.countP_append, hbelow] at hcount
  have hle := List.countP_le_length (p := fun b => decide (key b ≤ k)) (l := ps)
  omega

theorem mem_take_append {n : Nat} {us vs : List α} {a : α} (h : us.length < n) : a ∈ (us ++ a :: vs).take n := by
  rw [List.take_append]
  obtain ⟨k, hk⟩ : ∃ k, n - us.length = k + 1 := ⟨n - us.length - 1, by omega⟩
  rw [hk, List.take_succ_cons]
  exact List.mem_append_right _ List.mem_cons_self

/-- **The first of a sorted list are the first of a set**, exactly where that many of the list precede every element of
it that is not of the set, and are not behind any element of the set that is not of the list. -/
theorem firstBy_take {n : Nat} (key : α → κ) (S : α → Prop) {xs : List α} (hnodup : xs.Nodup) :
    FirstBy n key S ((sortBy key xs).take n) ↔
      (∀ ys a zs, xs = ys ++ a :: zs → ¬S a →
        n ≤ ys.countP (fun b => key b ≤ key a) + zs.countP (fun b => key b < key a)) ∧
      ∀ a, S a → a ∉ xs → n ≤ xs.countP fun b => key b ≤ key a := by
  have hperm := perm_sortBy key xs
  have hsub : ∀ b ∈ (sortBy key xs).take n, b ∈ xs := fun b hb => mem_sortBy.mp (List.mem_of_mem_take hb)
  constructor
  · intro h
    refine ⟨fun ys a zs hsplit ha => ?_, fun a ha hnot => ?_⟩
    · obtain ⟨us, vs, heq, hlength, -⟩ := sortBy_split key ys a zs
      by_contra hlt
      rw [not_le, ← hlength] at hlt
      apply ha
      apply h.mem
      rw [hsplit, heq]
      exact mem_take_append hlt
    · obtain ⟨hlength, hbelow⟩ := h.least a ha fun hmem => hnot (hsub a hmem)
      have hall : ((sortBy key xs).take n).countP (fun b => decide (key b ≤ key a)) = n := by
        rw [List.countP_eq_length.mpr fun b hb => decide_eq_true (hbelow b hb)]
        exact hlength
      rw [← hperm.countP_eq, ← hall]
      exact (List.take_sublist n _).countP_le
  · rintro ⟨hinside, houtside⟩
    have hsorted := pairwise_sortBy key xs
    have hfresh : (sortBy key xs).Nodup := hperm.nodup_iff.mpr hnodup
    refine ⟨hfresh.sublist (List.take_sublist n _), hsorted.sublist (List.take_sublist n _), fun a ha => ?_,
      List.length_take_le n _, fun a ha hnot => ?_⟩
    · by_contra hS
      obtain ⟨ys, zs, hsplit⟩ := List.append_of_mem (hsub a ha)
      obtain ⟨us, vs, heq, hlength, -⟩ := sortBy_split key ys a zs
      rw [hsplit, heq] at ha hfresh
      rw [List.take_append_of_le_length (hlength ▸ hinside ys a zs hsplit hS)] at ha
      exact (List.nodup_append.mp hfresh).2.2 a (List.mem_of_mem_take ha) a List.mem_cons_self rfl
    · by_cases hmem : a ∈ xs
      · obtain ⟨ys, zs, hsplit⟩ := List.append_of_mem hmem
        obtain ⟨us, vs, heq, -, hus⟩ := sortBy_split key ys a zs
        rw [hsplit, heq] at hnot ⊢
        have hle : n ≤ us.length := not_lt.mp fun hlt => hnot (mem_take_append hlt)
        rw [List.take_append_of_le_length hle]
        exact ⟨List.length_take_of_le hle, fun b hb => hus b (List.mem_of_mem_take hb)⟩
      · have hcount := houtside a ha hmem
        rw [← hperm.countP_eq] at hcount
        have hlength : n ≤ (sortBy key xs).length := hcount.trans List.countP_le_length
        exact ⟨List.length_take_of_le hlength, fun b hb => le_of_mem_take hsorted hcount hb⟩

end Qift.Lib
