import Qift.Lib.Settling

/-!
# Calls on a part of the state

* `Lens` — a part of a state, with the laws of reading and writing it.
* `Tx.zoom` and `Svc.zoom` — a transaction and a call on the part, as one on the whole, under new labels.
* `Svc.Ensures.zoom` and `Svc.Does.zoom` — what such a call does to the part, and that it leaves the rest.
* `Lens.whole` — the whole state as a part, for calls that are only given new labels.
-/

namespace Interleaving

variable {σ τ ℓ ℓ' ε α β ρ : Type}

/-- A part `σ` of a state `τ`. -/
structure Lens (τ σ : Type) where
  get : τ → σ
  set : σ → τ → τ
  get_set : ∀ s t, get (set s t) = s
  set_get : ∀ t, set (get t) t = t

/-- The whole of a state. -/
def Lens.whole (σ : Type) : Lens σ σ where
  get s := s
  set s _ := s
  get_set _ _ := rfl
  set_get _ := rfl

/-- Interference under other labels. -/
theorem Rely.relabel {A : ℓ → σ → σ → Prop} {B : ℓ' → σ → σ → Prop} (hA : ∀ l s t, A l s t → ∃ l', B l' s t) {s t : σ}
    (h : Rely A s t) : Rely B s t :=
  Relation.ReflTransGen.mono (fun s t ⟨l, hl⟩ => hA l s t hl) _ _ h

namespace Tx

/-- A transaction on a part of the state. -/
def zoom (L : Lens τ σ) (tx : Tx σ ε α) : Tx τ ε α := fun t =>
  match tx (L.get t) with
  | .ok (a, s) => .ok (a, L.set s t)
  | .error e => .error e

variable {L : Lens τ σ} {tx : Tx σ ε α} {t t' : τ} {a : α} {e : ε}

theorem zoom_eq_ok : tx.zoom L t = .ok (a, t') ↔ ∃ s, tx (L.get t) = .ok (a, s) ∧ t' = L.set s t := by
  unfold zoom
  rcases tx (L.get t) with e | ⟨b, s⟩
  · simp
  · constructor
    · intro h
      cases h
      exact ⟨s, rfl, rfl⟩
    · rintro ⟨s, h, rfl⟩
      cases h
      rfl

end Tx

/-- A call on a part of the state, its labels renamed. -/
def Prog.zoom (L : Lens τ σ) (f : ℓ → ℓ') : Prog σ ℓ ρ → Prog τ ℓ' ρ
  | .done r => .done r
  | .act l g k => .act (f l) (fun t => ((g (L.get t)).1, L.set (g (L.get t)).2 t)) fun a => (k a).zoom L f

variable {L : Lens τ σ} {f : ℓ → ℓ'} {R : σ → σ → Prop} {R' : τ → τ → Prop} {A : ℓ → σ → σ → Prop}
  {B : ℓ' → τ → τ → Prop}

theorem Prog.Meets.zoom {Q : ρ → σ → Prop} (hR : ∀ t t', R' t t' → R (L.get t) (L.get t'))
    (hA : ∀ l t s, A l (L.get t) s → B (f l) t (L.set s t)) {p : Prog σ ℓ ρ} {t : τ} (h : p.Meets R A Q (L.get t)) :
    (p.zoom L f).Meets R' B (fun r t' => Q r (L.get t')) t := by
  induction p generalizing t with
  | done r => exact h
  | act l g k ih =>
      intro t' ht
      obtain ⟨hact, hrest⟩ := h _ (hR t t' ht)
      refine ⟨hA l t' _ hact, ih _ ?_⟩
      rw [L.get_set]
      exact hrest

/-- A call earns and spends under its new labels what it did under its own. -/
theorem Prog.Solvent.zoom {earn spend : ℓ → σ → Bool} {earn' spend' : ℓ' → τ → Bool}
    (hearn : ∀ l t, earn' (f l) t = earn l (L.get t)) (hspend : ∀ l t, spend' (f l) t = spend l (L.get t)) {n : Nat}
    {p : Prog σ ℓ ρ} (h : p.Solvent earn spend n) : (p.zoom L f).Solvent earn' spend' n := by
  induction p generalizing n with
  | done r => exact h
  | act l g k ih =>
      intro t
      obtain ⟨hcredit, hrest⟩ := h (L.get t)
      rw [hearn, hspend]
      exact ⟨hcredit, ih _ hrest⟩

theorem Prog.Balanced.zoom {earn spend : ℓ → σ → Bool} {earn' spend' : ℓ' → τ → Bool}
    (hearn : ∀ l t, earn' (f l) t = earn l (L.get t)) (hspend : ∀ l t, spend' (f l) t = spend l (L.get t)) {n : Nat}
    {p : Prog σ ℓ ρ} (h : p.Balanced earn spend n) : (p.zoom L f).Balanced earn' spend' n := by
  induction p generalizing n with
  | done r => exact h
  | act l g k ih =>
      intro t
      obtain ⟨hcredit, hrest⟩ := h (L.get t)
      rw [hearn, hspend]
      exact ⟨hcredit, ih _ hrest⟩

namespace Svc

/-- A call on a part of the state, its labels renamed. -/
def zoom (L : Lens τ σ) (f : ℓ → ℓ') (x : Svc σ ℓ ε α) : Svc τ ℓ' ε α := Prog.zoom L f x

theorem Ensures.zoom {P : α → σ → Prop} (hR : ∀ t t', R' t t' → R (L.get t) (L.get t'))
    (hA : ∀ l t s, A l (L.get t) s → B (f l) t (L.set s t)) {x : Svc σ ℓ ε α} {t : τ}
    (h : x.Ensures R A P (L.get t)) : (x.zoom L f).Ensures R' B (fun a t' => P a (L.get t')) t :=
  Prog.Meets.zoom hR hA h

theorem Does.zoom (hA : ∀ l t s, A l (L.get t) s → B (f l) t (L.set s t)) {x : Svc σ ℓ ε α} (h : Svc.Does A x) :
    Svc.Does B (x.zoom L f) :=
  fun t => (h (L.get t)).zoom (fun _ _ _ => trivial) hA

end Svc

end Interleaving
