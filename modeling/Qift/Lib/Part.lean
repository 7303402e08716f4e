import Qift.Lib.Proviso

/-!
# The part of one call in a run

* `Prog.Plays p tr q` — by the actions `tr`, each in whatever state it finds, a call `p` comes to `q`.
* **`Exec.plays`** — every call in progress has come to where it is by a part of the run.
* `Prog.Spares good` — until it is sure to end in `good`, a call changes nothing; **`Prog.Spares.unchanged`** — a call that
  ends otherwise has changed nothing. `Svc.Spares` has the rules for service calls.
-/

namespace Interleaving

variable {σ ℓ ε α β ρ κ : Type}

/-- From `p`, by the actions `tr` in whatever states they find, to `q`. -/
inductive Prog.Plays : Prog σ ℓ ρ → List (Event σ ℓ) → Prog σ ℓ ρ → Prop
  | nil (p : Prog σ ℓ ρ) : Plays p [] p
  | snoc {p : Prog σ ℓ ρ} {tr : List (Event σ ℓ)} {γ : Type} {l : ℓ} {f : σ → γ × σ} {k : γ → Prog σ ℓ ρ}
      (h : Plays p tr (.act l f k)) (s : σ) : Plays p (tr ++ [⟨s, l, (f s).2⟩]) (k (f s).1)

/-- **The part of a call in a run.** -/
theorem Exec.plays {prog : κ → Prog σ ℓ ρ} {init : σ} {tr : List (Event σ ℓ)} {cfg : Config σ ℓ ρ}
    (h : Exec prog init tr cfg) : ∀ p ∈ cfg.pool, ∃ c tr', tr'.Sublist tr ∧ (prog c).Plays tr' p := by
  induction h with
  | init => exact fun p hp => nomatch hp
  | start c _ ih =>
      intro p hp
      rcases List.mem_cons.mp hp with rfl | hp
      · exact ⟨c, [], List.nil_sublist _, .nil _⟩
      · exact ih p hp
  | @run tr s before after γ l f k _ ih =>
      have hother : ∀ p ∈ before ++ .act l f k :: after, ∃ c tr',
          tr'.Sublist (tr ++ [⟨s, l, (f s).2⟩]) ∧ (prog c).Plays tr' p := by
        intro p hp
        obtain ⟨c, tr', hsub, hplays⟩ := ih p hp
        exact ⟨c, tr', hsub.trans (List.sublist_append_left _ _), hplays⟩
      intro p hp
      rcases List.mem_append.mp hp with hp | hp
      · exact hother p (List.mem_append_left _ hp)
      · rcases List.mem_cons.mp hp with rfl | hp
        · obtain ⟨c, tr', hsub, hplays⟩ := ih (.act l f k) (by simp)
          exact ⟨c, tr' ++ [⟨s, l, (f s).2⟩], hsub.append (List.Sublist.refl _), hplays.snoc s⟩
        · exact hother p (by simp [hp])

theorem Path.ends {A : ℓ → σ → σ → Prop} {s t : σ} {tr : List (Event σ ℓ)} (h : Path A s tr t) :
    t = s ∨ ∃ e ∈ tr, t = e.post := by
  cases h with
  | nil => exact Or.inl rfl
  | snoc hpath hact => exact Or.inr ⟨_, List.mem_append_right _ List.mem_cons_self, rfl⟩

/-- A check before the rest of a call, under a proviso. -/
theorem Svc.Under.guard {C : Event σ ℓ → Prop} {R : σ → σ → Prop} {A : ℓ → σ → σ → Prop} {Q : Except ε α → σ → Prop}
    {s : σ} {c : Prop} [Decidable c] {e : ε} {g : Unit → Svc σ ℓ ε α} (hok : c → (g ()).Under C R A Q s)
    (herr : Q (.error e) s) : (Svc.ensure c e >>= g).Under C R A Q s := by
  by_cases hc : c
  · rw [Svc.ensure, if_pos hc]
    exact hok hc
  · rw [Svc.ensure, if_neg hc]
    exact herr

/-! ### Calls that fail without a trace -/

/-- The call ends in `good`, whatever it finds. -/
def Prog.Succeeds (good : ρ → Prop) : Prog σ ℓ ρ → Prop
  | .done r => good r
  | .act _ f k => ∀ s, (k (f s).1).Succeeds good

/-- Every action leaves the state as it is, up to one after which the call ends in `good`. -/
def Prog.Spares (good : ρ → Prop) : Prog σ ℓ ρ → Prop
  | .done _ => True
  | .act _ f k => ∀ s, ((f s).2 = s ∧ (k (f s).1).Spares good) ∨ (k (f s).1).Succeeds good

/-- What a call that does not end in `good` has done changed nothing. -/
theorem Prog.Spares.unchanged {good : ρ → Prop} {p q : Prog σ ℓ ρ} {tr : List (Event σ ℓ)} (h : p.Spares good)
    (hplays : p.Plays tr q) : (q.Spares good ∧ ∀ e ∈ tr, e.post = e.pre) ∨ q.Succeeds good := by
  induction hplays with
  | nil => exact Or.inl ⟨h, fun e he => nomatch he⟩
  | snoc hplays s ih =>
      rcases ih with ⟨hspares, hsame⟩ | hsucceeds
      · rcases hspares s with ⟨hidle, hspares'⟩ | hsucceeds
        · refine Or.inl ⟨hspares', fun e he => ?_⟩
          rcases List.mem_append.mp he with he | he
          · exact hsame e he
          · rw [List.mem_singleton.mp he]
            exact hidle
        · exact Or.inr hsucceeds
      · exact Or.inr (hsucceeds s)

namespace Svc

/-- The call succeeds, whatever it finds. -/
def Succeeds (x : Svc σ ℓ ε α) : Prop := Prog.Succeeds (fun r => ∃ a, r = Except.ok a) x

/-- A call that fails has changed nothing. -/
def Spares (x : Svc σ ℓ ε α) : Prop := Prog.Spares (fun r => ∃ a, r = Except.ok a) x

theorem Succeeds.pure (a : α) : Svc.Succeeds (Pure.pure a : Svc σ ℓ ε α) := ⟨a, rfl⟩

theorem Succeeds.caught {x : Svc σ ℓ ε α} {handler : ε → Svc σ ℓ ε α} {g : α → Svc σ ℓ ε β}
    (hh : ∀ e, (handler e >>= g).Succeeds) (hg : ∀ a, (g a).Succeeds) : (Svc.tryCatch x handler >>= g).Succeeds := by
  suffices hprog : ∀ p : Prog σ ℓ (Except ε α), (show Svc σ ℓ ε β from Svc.tryCatch p handler >>= g).Succeeds from hprog x
  intro p
  induction p with
  | done r =>
      cases r with
      | ok a => exact hg a
      | error e => exact hh e
  | act l f k ih => exact fun s => ih _

namespace Spares

theorem fail (e : ε) : Svc.Spares (Svc.fail e : Svc σ ℓ ε α) := trivial

theorem guard {c : Prop} [Decidable c] {e : ε} {g : Unit → Svc σ ℓ ε α} (h : c → (g ()).Spares) :
    (Svc.ensure c e >>= g).Spares := by
  by_cases hc : c
  · rw [Svc.ensure, if_pos hc]
    exact h hc
  · rw [Svc.ensure, if_neg hc]
    exact trivial

theorem query {l : ℓ} {f : σ → α} {g : α → Svc σ ℓ ε β} (h : ∀ a, (g a).Spares) : (Svc.query l f >>= g).Spares :=
  fun s => Or.inl ⟨rfl, h (f s)⟩

/-- One action is done or not. -/
theorem last {l : ℓ} {tx : Tx σ ε α} : (Svc.transaction l tx).Spares := by
  intro s
  rcases htx : tx s with e | ⟨a, t⟩
  · refine Or.inl ?_
    simp only [htx]
    exact ⟨trivial, trivial⟩
  · refine Or.inr ?_
    simp only [htx]
    exact ⟨a, rfl⟩

/-- The last action that may be refused. -/
theorem transaction {l : ℓ} {tx : Tx σ ε α} {g : α → Svc σ ℓ ε β} (h : ∀ a, (g a).Succeeds) :
    (Svc.transaction l tx >>= g).Spares := by
  intro s
  rcases htx : tx s with e | ⟨a, t⟩
  · refine Or.inl ?_
    simp only [htx]
    exact ⟨trivial, trivial⟩
  · refine Or.inr ?_
    simp only [htx]
    exact h a

end Spares

end Svc

end Interleaving
