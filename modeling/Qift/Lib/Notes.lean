import Qift.Lib.Frame
import Qift.Lib.Settling

/-!
# Notes of the calls in progress

* `Prog.Noted A idle n` — a call that carries the note `n` changes it with each of its actions as `A` allows, whatever
  state the action finds, and ends with the note `idle`.
* **`Exec.noted`** — what every action preserves of the state and the notes of all calls in progress holds in every run;
  once no call is in progress the notes are idle.
-/

namespace Interleaving

variable {σ ℓ ε α β ρ κ γ : Type}

/-- A call that carries a note. -/
def Prog.Noted (A : γ → σ → γ → σ → Prop) (idle : γ) : γ → Prog σ ℓ ρ → Prop
  | n, .done _ => n = idle
  | n, .act _ f k => ∀ s, ∃ n', A n s n' (f s).2 ∧ (k (f s).1).Noted A idle n'

namespace Svc

variable {A : γ → σ → γ → σ → Prop} {idle n : γ}

/-- A service call that carries a note. -/
def Noted (A : γ → σ → γ → σ → Prop) (idle n : γ) (x : Svc σ ℓ ε α) : Prop := Prog.Noted A idle n x

namespace Noted

theorem pure (a : α) : Svc.Noted A idle idle (Pure.pure a : Svc σ ℓ ε α) := rfl

theorem fail (e : ε) : Svc.Noted A idle idle (Svc.fail e : Svc σ ℓ ε α) := rfl

/-- A first part that ends idle, then the rest. -/
theorem bind {x : Svc σ ℓ ε α} {g : α → Svc σ ℓ ε β} (hx : x.Noted A idle n) (hg : ∀ a, (g a).Noted A idle idle) :
    (x >>= g).Noted A idle n := by
  -- along the first part the notes are the same, with the rest after it
  suffices hall : ∀ (p : Prog σ ℓ (Except ε α)) m, p.Noted A idle m →
      Svc.Noted A idle m ((p : Svc σ ℓ ε α) >>= g) from hall x n hx
  intro p
  induction p with
  | done r =>
      intro m hm
      obtain rfl : m = idle := hm
      cases r with
      | ok a => exact hg a
      | error e => rfl
  | act l f k ih =>
      intro m hm s
      obtain ⟨m', hact, hrest⟩ := hm s
      exact ⟨m', hact, ih _ m' hrest⟩

theorem map {x : Svc σ ℓ ε α} {f : α → β} (hx : x.Noted A idle idle) : (f <$> x).Noted A idle idle :=
  bind hx fun a => pure (f a)

/-- A transaction, then the rest with the note it leaves. -/
theorem transaction_bind {l : ℓ} {tx : Tx σ ε α} {g : α → Svc σ ℓ ε β}
    (hok : ∀ s a t, tx s = .ok (a, t) → ∃ n', A n s n' t ∧ (g a).Noted A idle n')
    (herr : ∀ s e, tx s = .error e → A n s idle s) : (Svc.transaction l tx >>= g).Noted A idle n := by
  intro s
  rcases htx : tx s with e | ⟨a, t⟩
  · refine ⟨idle, ?_, ?_⟩
    · simp only [htx]
      exact herr s e htx
    · simp only [htx, Prog.bind_done]
      rfl
  · obtain ⟨n', hact, hrest⟩ := hok s a t htx
    refine ⟨n', ?_, ?_⟩
    · simp only [htx]
      exact hact
    · simp only [htx, Prog.bind_done]
      exact hrest

/-- A call whose every action is one of an idle call. -/
theorem of_keeps {R : σ → σ → Prop} (hR : ∀ s t, R s t → A idle s idle t) (s : σ) {x : Svc σ ℓ ε α}
    (hx : Svc.Keeps R x) : x.Noted A idle idle := by
  have hall : ∀ (p : Prog σ ℓ (Except ε α)) s, Prog.Meets (fun _ _ => True) (fun _ => R)
      (fun r _ => ∀ a, r = .ok a → True) p s → p.Noted A idle idle := by
    intro p
    induction p with
    | done r => exact fun _ _ => rfl
    | act l f k ih =>
        intro s hp t
        obtain ⟨hact, hrest⟩ := hp t trivial
        exact ⟨idle, hR _ _ hact, ih _ _ hrest⟩
  exact hall x s (hx s)

end Noted

end Svc

/-- **The rule of notes.**  `I` holds of the state and the notes of the calls in progress; the actions are those of
events that `C` allows. -/
theorem Exec.noted {prog : κ → Prog σ ℓ ρ} {init : σ} {A : γ → σ → γ → σ → Prop} {idle : γ} {C : Event σ ℓ → Prop}
    {I : σ → List γ → Prop} (hinit : I init []) (hstart : ∀ s ns, I s ns → I s (idle :: ns))
    (hstep : ∀ e ns₁ n n' ns₂, I e.pre (ns₁ ++ n :: ns₂) → C e → A n e.pre n' e.post →
      I e.post (ns₁ ++ n' :: ns₂))
    (hprog : ∀ c, (prog c).Noted A idle idle) {tr : List (Event σ ℓ)} {cfg : Config σ ℓ ρ}
    (h : Exec prog init tr cfg) (hall : ∀ e ∈ tr, C e) :
    ∃ ns, I cfg.state ns ∧ (cfg.Quiet → ∀ n ∈ ns, n = idle) := by
  have hnotes : ∃ ns, List.Forall₂ (fun p n => p.Noted A idle n) cfg.pool ns ∧ I cfg.state ns := by
    induction h with
    | init => exact ⟨[], .nil, hinit⟩
    | start c _ ih =>
        obtain ⟨ns, hpool, hI⟩ := ih hall
        exact ⟨idle :: ns, .cons (hprog c) hpool, hstart _ ns hI⟩
    | @run tr s before after δ l f k _ ih =>
        obtain ⟨ns, hpool, hI⟩ := ih fun e he => hall e (List.mem_append_left _ he)
        obtain ⟨ns₁, n, ns₂, rfl, hbefore, hp, hafter⟩ := paired_split hpool
        obtain ⟨n', hact, hnext⟩ := hp s
        have hlast : C ⟨s, l, (f s).2⟩ := hall _ (List.mem_append_right _ List.mem_cons_self)
        refine ⟨ns₁ ++ n' :: ns₂, List.rel_append hbefore (.cons hnext hafter), ?_⟩
        exact hstep ⟨s, l, (f s).2⟩ ns₁ n n' ns₂ hI hlast hact
  obtain ⟨ns, hpool, hI⟩ := hnotes
  refine ⟨ns, hI, fun hquiet n hn => ?_⟩
  obtain ⟨r, hidle⟩ := hquiet.paired hpool hn
  exact hidle

end Interleaving
