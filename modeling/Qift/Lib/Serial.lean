import Qift.Lib.Frame

/-!
# Serial numbers that roll back

Documents are numbered from counters, one counter a series, and a number is drawn in the transaction that stores
its document.

* `Unbroken` — the numbers in use are those up to the last value of each series, each used once.
  `Unbroken.issue` draws the next one.
* `Prog.interrupt` — a call one of whose actions is rolled back and ends it.
* **`Exec.keeps`** — what every action of every call keeps holds in every state of a run.
-/

namespace Interleaving

/-! ### Numbers of a family of series -/

section Numbers

variable {ι τ : Type} [DecidableEq τ]

/-- The numbers in use are `name i 1, …, name i (last i)` for each series `i`, each used once. -/
structure Unbroken (name : ι → Nat → τ) (last : ι → Nat) (numbers : List τ) : Prop where
  drawn : ∀ x ∈ numbers, ∃ i k, x = name i k ∧ 1 ≤ k ∧ k ≤ last i
  once : ∀ i k, 1 ≤ k → k ≤ last i → numbers.count (name i k) = 1

namespace Unbroken

variable {name : ι → Nat → τ} {last last' : ι → Nat} {numbers : List τ}

theorem empty (hlast : ∀ i, last i = 0) : Unbroken name last ([] : List τ) where
  drawn := by simp
  once i k hk hle := by
    rw [hlast i] at hle
    omega

/-- A number that is not yet reached is not in use. -/
theorem unused (hinj : ∀ i k j m, name i k = name j m → i = j ∧ k = m) (h : Unbroken name last numbers) {i : ι}
    {k : Nat} (hk : last i < k) : name i k ∉ numbers := by
  intro hmem
  obtain ⟨j, m, heq, -, hm⟩ := h.drawn _ hmem
  obtain ⟨rfl, rfl⟩ := hinj _ _ _ _ heq
  omega

/-- The next number of a series is drawn and used. -/
theorem issue (hinj : ∀ i k j m, name i k = name j m → i = j ∧ k = m) (h : Unbroken name last numbers) {i : ι}
    (hnext : last' i = last i + 1) (hothers : ∀ j, j ≠ i → last' j = last j) :
    Unbroken name last' (numbers ++ [name i (last i + 1)]) where
  drawn x hx := by
    rcases List.mem_append.mp hx with hold | hnew
    · obtain ⟨j, k, rfl, hk, hle⟩ := h.drawn x hold
      refine ⟨j, k, rfl, hk, ?_⟩
      by_cases hj : j = i
      · subst hj
        omega
      · rw [hothers j hj]
        exact hle
    · rw [List.mem_singleton] at hnew
      exact ⟨i, last i + 1, hnew, by omega, by omega⟩
  once j k hk hle := by
    rw [List.count_append, List.count_singleton]
    by_cases hsame : name i (last i + 1) = name j k
    · obtain ⟨rfl, rfl⟩ := hinj _ _ _ _ hsame
      have hunused := List.count_eq_zero.mpr (h.unused hinj (Nat.lt_succ_self (last i)))
      simp only [Nat.succ_eq_add_one] at hunused
      simp [hunused]
    · have hold : k ≤ last j := by
        by_cases hj : j = i
        · subst hj
          have hne : k ≠ last j + 1 := fun hk' => hsame (by rw [hk'])
          omega
        · rw [← hothers j hj]
          exact hle
      have honce := h.once j k hk hold
      simp [hsame, honce]

end Unbroken

end Numbers

/-! ### Calls that are rolled back -/

section Rollback

variable {σ ℓ ε α ρ κ : Type}

/-- A call whose action number `n` is rolled back: the state stays and the call ends with a failure. -/
def Prog.interrupt (e : ε) : Nat → Prog σ ℓ (Except ε α) → Prog σ ℓ (Except ε α)
  | _, .done r => .done r
  | 0, .act l _ _ => .act l (fun s => ((), s)) fun _ => .done (.error e)
  | n + 1, .act l f k => .act l f fun a => (k a).interrupt e n

/-- A rolled-back call keeps what the call keeps. -/
theorem Svc.Keeps.interrupt {R : σ → σ → Prop} [Std.Refl R] {x : Svc σ ℓ ε α} (h : Svc.Keeps R x) (e : ε)
    (n : Nat) : Svc.Keeps R (Prog.interrupt e n x : Svc σ ℓ ε α) := by
  intro s
  have hs := h s
  clear h
  unfold Svc.Ensures at hs ⊢
  induction x generalizing n s with
  | done r => cases n <;> exact hs
  | act l f k ih =>
      cases n with
      | zero => exact fun t _ => ⟨refl_of R t, fun _ _ => trivial⟩
      | succ n => exact fun t ht => ⟨(hs t ht).1, ih _ n _ (hs t ht).2⟩

/-- What every action of every call keeps holds in every state of a run. -/
theorem Exec.keeps {P : σ → Prop} {prog : κ → Svc σ ℓ ε α} {init : σ}
    (hprog : ∀ c, Svc.Keeps (fun s t => P s → P t) (prog c)) (hinit : P init) {tr : List (Event σ ℓ)}
    {cfg : Config σ ℓ (Except ε α)} (h : Exec prog init tr cfg) : P cfg.state := by
  have hpath := (h.path (A := fun _ s t => P s → P t) (Q := fun _ _ => True) (fun _ _ _ _ _ => trivial)
    fun c s _ => ((hprog c).meets (fun _ _ _ hact => hact) _ s).meets).1
  exact hpath.rely.stable (fun _ _ _ hact => hact) hinit

end Rollback

end Interleaving
