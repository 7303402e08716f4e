import Qift.Lib.Settling

/-!
# Counting along a path

* `Path.flow` — what a set holds at the end is what it held, with what was gained and without what was lost.
* `Path.tally` — a counter stands where the ups and the downs have put it.
* `Path.lost_le` — what is lost stays lost; where each thing that is lost was counted before, no more was lost than was
  counted.
-/

namespace Interleaving

variable {σ ℓ κ : Type} {A : ℓ → σ → σ → Prop} {C : Event σ ℓ → Prop} {s t : σ} {tr : List (Event σ ℓ)}

theorem countP_snoc {α : Type} (p : α → Bool) (xs : List α) (x : α) : (xs ++ [x]).countP p = xs.countP p + (p x).toNat := by
  rw [List.countP_append, List.countP_singleton]
  cases p x <;> rfl

/-- **The rule of flow.** -/
theorem Path.flow (size : σ → Nat) (gain loss : ℓ → σ → Bool)
    (hstep : ∀ l s t, A l s t → C ⟨s, l, t⟩ → size t + (loss l s).toNat = size s + (gain l s).toNat)
    (h : Path A s tr t) (hC : ∀ e ∈ tr, C e) :
    size t + (tr.countP fun e => loss e.lbl e.pre) = size s + tr.countP fun e => gain e.lbl e.pre := by
  induction h with
  | nil => rfl
  | snoc _ hact ih =>
      have hflow := hstep _ _ _ hact (hC _ (by simp))
      have hbefore := ih fun e he => hC e (List.mem_append_left _ he)
      rw [countP_snoc, countP_snoc]
      dsimp only
      omega

/-- **The rule of the counter.** -/
theorem Path.tally (value : σ → Int) (up down : ℓ → σ → Bool)
    (hstep : ∀ l s t, A l s t → C ⟨s, l, t⟩ → value t = value s + (up l s).toNat - (down l s).toNat)
    (h : Path A s tr t) (hC : ∀ e ∈ tr, C e) :
    value t = value s + (tr.countP fun e => up e.lbl e.pre) - tr.countP fun e => down e.lbl e.pre := by
  induction h with
  | nil => simp
  | snoc _ hact ih =>
      have hmove := hstep _ _ _ hact (hC _ (by simp))
      have hbefore := ih fun e he => hC e (List.mem_append_left _ he)
      rw [countP_snoc, countP_snoc]
      dsimp only
      omega

section Lost

variable {lost : ℓ → σ → Option κ} {dead : κ → σ → Prop}
  (hkeep : ∀ l s t k, A l s t → C ⟨s, l, t⟩ → dead k s → dead k t)
  (hlost : ∀ l s t k, A l s t → C ⟨s, l, t⟩ → lost l s = some k → ¬ dead k s ∧ dead k t)

include hkeep hlost

/-- What is lost stays lost, so nothing is lost twice. -/
theorem Path.lost_once (h : Path A s tr t) (hC : ∀ e ∈ tr, C e) :
    (tr.filterMap fun e => lost e.lbl e.pre).Nodup ∧ ∀ k ∈ tr.filterMap fun e => lost e.lbl e.pre, dead k t := by
  induction h with
  | nil => exact ⟨List.nodup_nil, fun k hk => absurd hk List.not_mem_nil⟩
  | @snoc t u l tr _ hact ih =>
      have hlast : C ⟨t, l, u⟩ := hC _ (by simp)
      obtain ⟨hnodup, hdead⟩ := ih fun e he => hC e (List.mem_append_left _ he)
      rw [List.filterMap_append]
      cases hk : lost l t with
      | none =>
          simp only [List.filterMap_cons, hk, List.filterMap_nil, List.append_nil]
          exact ⟨hnodup, fun k hk => hkeep l t u k hact hlast (hdead k hk)⟩
      | some k =>
          obtain ⟨halive, hgone⟩ := hlost l t u k hact hlast hk
          simp only [List.filterMap_cons, hk, List.filterMap_nil]
          refine ⟨List.nodup_append.mpr ⟨hnodup, List.nodup_singleton k, ?_⟩, fun k' hk' => ?_⟩
          · rintro x hx y hy rfl
            rw [List.mem_singleton.mp hy] at hx
            exact halive (hdead k hx)
          · rcases List.mem_append.mp hk' with hk' | hk'
            · exact hkeep l t u k' hact hlast (hdead k' hk')
            · rw [List.mem_singleton.mp hk']
              exact hgone

/-- **No more is lost than was counted**, where everything that is lost was counted. -/
theorem Path.lost_le (counted : ℓ → σ → Option κ) (h : Path A s tr t) (hC : ∀ e ∈ tr, C e)
    (hcounted : ∀ e ∈ tr, ∀ k, lost e.lbl e.pre = some k → ∃ e' ∈ tr, counted e'.lbl e'.pre = some k) :
    (tr.countP fun e => (lost e.lbl e.pre).isSome) ≤ tr.countP fun e => (counted e.lbl e.pre).isSome := by
  have hsub : (tr.filterMap fun e => lost e.lbl e.pre) ⊆ tr.filterMap fun e => counted e.lbl e.pre := by
    intro k hk
    obtain ⟨e, he, hlost⟩ := List.mem_filterMap.mp hk
    obtain ⟨e', he', hcount⟩ := hcounted e he k hlost
    exact List.mem_filterMap.mpr ⟨e', he', hcount⟩
  have hle := ((Path.lost_once hkeep hlost h hC).1.subperm hsub).length_le
  rwa [List.length_filterMap_eq_countP, List.length_filterMap_eq_countP] at hle

end Lost

end Interleaving
