import Qift.Lib.Strip

/-!
# Collapsing runs of a list

* `collapse p sep xs` — every run of elements that satisfy `p` is one `sep`; `tidy` strips what is left of them at the
  ends.
* **`tidy_pad`** and `tidy_tidy` — runs added at the ends are not seen, nor is a second pass.
* `filter_tidy` — everything else is kept.
-/

namespace Qift.Lib

variable {α : Type*} {p : α → Bool} {sep : α}

/-- The rest of a list, behind a run or not. -/
def collapseFrom (p : α → Bool) (sep : α) : Bool → List α → List α
  | _, [] => []
  | inRun, x :: xs =>
      if p x then
        if inRun then collapseFrom p sep true xs else sep :: collapseFrom p sep true xs
      else x :: collapseFrom p sep false xs

/-- Each run of `p` as one `sep`. -/
def collapse (p : α → Bool) (sep : α) (xs : List α) : List α := collapseFrom p sep false xs

/-- Collapsed, and stripped at both ends. -/
def tidy (p : α → Bool) (sep : α) (xs : List α) : List α := strip p (collapse p sep xs)

theorem collapseFrom_run {x : α} (hx : p x = true) (xs : List α) :
    collapseFrom p sep true (x :: xs) = collapseFrom p sep true xs := by
  rw [collapseFrom, if_pos hx, if_pos rfl]

theorem collapseFrom_start {x : α} (hx : p x = true) (xs : List α) :
    collapseFrom p sep false (x :: xs) = sep :: collapseFrom p sep true xs := by
  rw [collapseFrom, if_pos hx, if_neg (by decide)]

theorem collapseFrom_keep {x : α} (hx : ¬p x = true) (inRun : Bool) (xs : List α) :
    collapseFrom p sep inRun (x :: xs) = x :: collapseFrom p sep false xs := by
  rw [collapseFrom, if_neg hx]

/-- What stands behind some text depends on how that ends. -/
theorem collapseFrom_append (p : α → Bool) (sep : α) (inRun : Bool) (xs ys : List α) : ∃ inRun',
    collapseFrom p sep inRun (xs ++ ys) = collapseFrom p sep inRun xs ++ collapseFrom p sep inRun' ys := by
  induction xs generalizing inRun with
  | nil => exact ⟨inRun, rfl⟩
  | cons x rest ih =>
      rw [List.cons_append]
      by_cases hx : p x = true
      · obtain ⟨inRun', heq⟩ := ih true
        refine ⟨inRun', ?_⟩
        cases inRun with
        | true => rw [collapseFrom_run hx, collapseFrom_run hx, heq]
        | false => rw [collapseFrom_start hx, collapseFrom_start hx, heq, List.cons_append]
      · obtain ⟨inRun', heq⟩ := ih false
        refine ⟨inRun', ?_⟩
        rw [collapseFrom_keep hx, collapseFrom_keep hx, heq, List.cons_append]

/-- A run leaves nothing else. -/
theorem collapseFrom_of_all (hsep : p sep = true) {xs : List α} (h : ∀ x ∈ xs, p x = true) (inRun : Bool) :
    ∀ x ∈ collapseFrom p sep inRun xs, p x = true := by
  induction xs generalizing inRun with
  | nil => simp [collapseFrom]
  | cons x rest ih =>
      have hx := h x List.mem_cons_self
      have hrest := ih (fun y hy => h y (List.mem_cons_of_mem _ hy)) true
      cases inRun with
      | true => rwa [collapseFrom_run hx]
      | false =>
          rw [collapseFrom_start hx]
          intro y hy
          rcases List.mem_cons.mp hy with rfl | hy
          · exact hsep
          · exact hrest y hy

/-- Behind a run, at most its `sep` is missing. -/
theorem exists_collapseFrom (hsep : p sep = true) (inRun : Bool) (xs : List α) :
    ∃ start, (∀ x ∈ start, p x = true) ∧ collapseFrom p sep inRun xs = start ++ collapseFrom p sep true xs := by
  cases inRun with
  | true => exact ⟨[], by simp, rfl⟩
  | false =>
      cases xs with
      | nil => exact ⟨[], by simp, rfl⟩
      | cons x rest =>
          by_cases hx : p x = true
          · exact ⟨[sep], by simpa using hsep, by rw [collapseFrom_start hx, collapseFrom_run hx]; rfl⟩
          · exact ⟨[], by simp, by rw [collapseFrom_keep hx, collapseFrom_keep hx]; rfl⟩

/-- **What is added at the ends is not seen.** -/
theorem tidy_pad (hsep : p sep = true) {start stop : List α} (xs : List α) (hstart : ∀ x ∈ start, p x = true)
    (hstop : ∀ x ∈ stop, p x = true) : tidy p sep (start ++ xs ++ stop) = tidy p sep xs := by
  obtain ⟨inRun, hfirst⟩ := collapseFrom_append p sep false (start ++ xs) stop
  obtain ⟨inRun', hsecond⟩ := collapseFrom_append p sep false start xs
  obtain ⟨pre, hpre, hrun⟩ := exists_collapseFrom hsep inRun' xs
  obtain ⟨pre', hpre', hrun'⟩ := exists_collapseFrom hsep false xs
  have hends := collapseFrom_of_all hsep hstop inRun
  have hbegins : ∀ x ∈ collapseFrom p sep false start ++ pre, p x = true := by
    intro x hx
    rcases List.mem_append.mp hx with hx | hx
    · exact collapseFrom_of_all hsep hstart false x hx
    · exact hpre x hx
  have hplain : strip p (pre' ++ collapseFrom p sep true xs ++ []) = strip p (collapseFrom p sep true xs) :=
    strip_pad hpre' (by simp)
  unfold tidy collapse
  rw [hfirst, hsecond, hrun, ← List.append_assoc, strip_pad hbegins hends, hrun', ← hplain, List.append_nil]

theorem collapseFrom_collapseFrom (hsep : p sep = true) (inRun : Bool) (xs : List α) :
    collapseFrom p sep inRun (collapseFrom p sep inRun xs) = collapseFrom p sep inRun xs := by
  induction xs generalizing inRun with
  | nil => rfl
  | cons x rest ih =>
      by_cases hx : p x = true
      · cases inRun with
        | true => rw [collapseFrom_run hx, ih]
        | false => rw [collapseFrom_start hx, collapseFrom_start hsep, ih]
      · rw [collapseFrom_keep hx, collapseFrom_keep hx, ih]

/-- A second pass finds nothing. -/
theorem tidy_tidy (hsep : p sep = true) (xs : List α) : tidy p sep (tidy p sep xs) = tidy p sep xs := by
  obtain ⟨start, stop, hsplit, hstart, hstop⟩ := exists_strip p (collapse p sep xs)
  calc tidy p sep (tidy p sep xs)
      = tidy p sep (start ++ tidy p sep xs ++ stop) := (tidy_pad hsep _ hstart hstop).symm
    _ = tidy p sep (collapse p sep xs) := congrArg (tidy p sep) hsplit.symm
    _ = tidy p sep xs := congrArg (strip p) (collapseFrom_collapseFrom hsep false xs)

/-! ### What is kept -/

theorem filter_collapseFrom (hsep : p sep = true) (inRun : Bool) (xs : List α) :
    (collapseFrom p sep inRun xs).filter (fun x => !p x) = xs.filter fun x => !p x := by
  induction xs generalizing inRun with
  | nil => rfl
  | cons x rest ih =>
      by_cases hx : p x = true
      · rw [List.filter_cons_of_neg (by simp [hx])]
        cases inRun with
        | true => rw [collapseFrom_run hx, ih]
        | false => rw [collapseFrom_start hx, List.filter_cons_of_neg (by simp [hsep]), ih]
      · rw [collapseFrom_keep hx, List.filter_cons_of_pos (by simp [hx]), List.filter_cons_of_pos (by simp [hx]), ih]

theorem filter_tidy (hsep : p sep = true) (xs : List α) :
    (tidy p sep xs).filter (fun x => !p x) = xs.filter fun x => !p x := by
  obtain ⟨start, stop, hsplit, hstart, hstop⟩ := exists_strip p (collapse p sep xs)
  have hnone {ys : List α} (hys : ∀ x ∈ ys, p x = true) : ys.filter (fun x => !p x) = [] :=
    List.filter_eq_nil_iff.mpr fun x hx => by simp [hys x hx]
  have hkept := filter_collapseFrom hsep false xs
  change (collapse p sep xs).filter _ = _ at hkept
  rw [← hkept]
  conv_rhs => rw [hsplit]
  rw [List.filter_append, List.filter_append, hnone hstart, hnone hstop, List.nil_append, List.append_nil]
  rfl

/-- Nothing new but `sep`. -/
theorem mem_collapseFrom {inRun : Bool} {xs : List α} {x : α} (h : x ∈ collapseFrom p sep inRun xs) :
    x = sep ∨ x ∈ xs := by
  induction xs generalizing inRun with
  | nil => cases h
  | cons y rest ih =>
      by_cases hy : p y = true
      · cases inRun with
        | true =>
            rw [collapseFrom_run hy] at h
            exact (ih h).imp_right (List.mem_cons_of_mem _)
        | false =>
            rw [collapseFrom_start hy] at h
            rcases List.mem_cons.mp h with rfl | h
            · exact Or.inl rfl
            · exact (ih h).imp_right (List.mem_cons_of_mem _)
      · rw [collapseFrom_keep hy] at h
        rcases List.mem_cons.mp h with rfl | h
        · exact Or.inr List.mem_cons_self
        · exact (ih h).imp_right (List.mem_cons_of_mem _)

theorem mem_tidy {xs : List α} {x : α} (h : x ∈ tidy p sep xs) : x = sep ∨ x ∈ xs := by
  obtain ⟨start, stop, hsplit, -, -⟩ := exists_strip p (collapse p sep xs)
  have hmem : x ∈ collapse p sep xs := by
    rw [hsplit]
    exact List.mem_append_left _ (List.mem_append_right _ h)
  exact mem_collapseFrom hmem

end Qift.Lib
