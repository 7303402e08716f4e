import Qift.Lib.Proviso

/-!
# What holds when no call is in progress

* `Config.Quiet` — every call that has started has ended.
* `Svc.Completes` — the judgment of a call that nothing refuses.
* `Prog.Redeems vow es` — whatever the others do in between, by its end a call has established the vow of each of its
  own events, and of those in `es`. `Exec.redeems` is the rule: once no call is in progress, the vow of every event of
  the interleaving holds.
* `Prog.Balanced earn spend n` — from a credit of `n` a call earns before it spends, and ends without credit.
  `Exec.balanced` is the rule: no more was spent than was earned, and once no call is in progress, exactly as much.
-/

namespace Interleaving

variable {σ ℓ ε α β ρ κ : Type} {prog : κ → Prog σ ℓ ρ} {init : σ}

/-! ### Quiet configurations -/

/-- The call has ended. -/
def Prog.finished : Prog σ ℓ ρ → Bool
  | .done _ => true
  | .act _ _ _ => false

/-- Every call that has started has ended. -/
def Config.Quiet (cfg : Config σ ℓ ρ) : Prop := ∀ p ∈ cfg.pool, p.finished = true

instance (cfg : Config σ ℓ ρ) : Decidable cfg.Quiet := by
  unfold Config.Quiet
  infer_instance

theorem Prog.finished_iff {p : Prog σ ℓ ρ} : p.finished = true ↔ ∃ r, p = .done r := by
  cases p with
  | done r => exact ⟨fun _ => ⟨r, rfl⟩, fun _ => rfl⟩
  | act l f k =>
      constructor
      · intro h
        cases h
      · rintro ⟨r, h⟩
        cases h

theorem Config.Quiet.paired {τ : Type} {R : Prog σ ℓ ρ → τ → Prop} {cfg : Config σ ℓ ρ} (hquiet : cfg.Quiet)
    {xs : List τ} (h : List.Forall₂ R cfg.pool xs) {x : τ} (hx : x ∈ xs) : ∃ r, R (.done r) x := by
  obtain ⟨i, hi, rfl⟩ := List.mem_iff_get.mp hx
  have hlen : i.val < cfg.pool.length := by
    rw [h.length_eq]
    exact i.isLt
  obtain ⟨r, hr⟩ := Prog.finished_iff.mp (hquiet _ (List.get_mem cfg.pool ⟨i, hlen⟩))
  have hpair := h.get hlen i.isLt
  rw [hr] at hpair
  exact ⟨r, hpair⟩

/-- The pairing of a pool around one of its calls. -/
theorem paired_split {τ : Type} {R : Prog σ ℓ ρ → τ → Prop} {before after : List (Prog σ ℓ ρ)} {p : Prog σ ℓ ρ}
    {xs : List τ} (h : List.Forall₂ R (before ++ p :: after) xs) :
    ∃ xs₁ x xs₂, xs = xs₁ ++ x :: xs₂ ∧ List.Forall₂ R before xs₁ ∧ R p x ∧ List.Forall₂ R after xs₂ := by
  have hbefore := (List.forall₂_take_append _ _ _ h.flip).flip
  have hrest := (List.forall₂_drop_append _ _ _ h.flip).flip
  cases hcut : xs.drop before.length with
  | nil =>
      rw [hcut] at hrest
      cases hrest
  | cons x xs₂ =>
      rw [hcut] at hrest
      obtain ⟨hp, hafter⟩ := List.forall₂_cons.mp hrest
      exact ⟨_, x, xs₂, by rw [← hcut, List.take_append_drop], hbefore, hp, hafter⟩

/-! ### Calls that succeed -/

namespace Svc

/-- Under interference `R`, every action of the call is allowed by `A`, and the call succeeds, with `P`. -/
def Completes (R : σ → σ → Prop) (A : ℓ → σ → σ → Prop) (P : α → σ → Prop) (x : Svc σ ℓ ε α) (s : σ) : Prop :=
  Prog.Meets R A (fun r t => ∃ a, r = .ok a ∧ P a t) x s

namespace Completes

variable {R : σ → σ → Prop} {A : ℓ → σ → σ → Prop} {P P' : α → σ → Prop} {s : σ}

theorem meets {x : Svc σ ℓ ε α} {P : σ → Prop} (h : x.Completes R A (fun _ => P) s) :
    Prog.Meets R A (fun _ t => P t) x s :=
  Prog.Meets.mono (fun _ _ ⟨_, _, hP⟩ => hP) h

theorem pure {a : α} (h : P a s) : (Pure.pure a : Svc σ ℓ ε α).Completes R A P s := ⟨a, rfl, h⟩

theorem query {l : ℓ} {f : σ → α} (hA : ∀ t, R s t → A l t t) (hP : ∀ t, R s t → P (f t) t) :
    (Svc.query l f : Svc σ ℓ ε α).Completes R A P s :=
  fun t ht => ⟨hA t ht, f t, rfl, hP t ht⟩

/-- A transaction that nothing refuses. -/
theorem transaction {l : ℓ} {tx : Tx σ ε α}
    (h : ∀ t, R s t → ∃ a u, tx t = .ok (a, u) ∧ A l t u ∧ P a u) :
    (Svc.transaction l tx : Svc σ ℓ ε α).Completes R A P s := by
  intro t ht
  obtain ⟨a, u, htx, hact, hpost⟩ := h t ht
  simp only [htx]
  exact ⟨hact, a, rfl, hpost⟩

theorem bind {x : Svc σ ℓ ε α} {g : α → Svc σ ℓ ε β} {P' : β → σ → Prop} (hx : x.Completes R A P s)
    (hg : ∀ a t, P a t → (g a).Completes R A P' t) : (x >>= g).Completes R A P' s := by
  refine Prog.Meets.bind hx fun r t hr => ?_
  obtain ⟨a, rfl, hP⟩ := hr
  exact hg a t hP

theorem forEach {xs : List β} {g : β → Svc σ ℓ ε Unit} {I : σ → Prop}
    (hg : ∀ x ∈ xs, ∀ t, I t → (g x).Completes R A (fun _ u => I u) t) (hs : I s) :
    (Svc.forEach xs g).Completes R A (fun _ t => I t) s := by
  induction xs generalizing s with
  | nil => exact pure hs
  | cons x rest ih =>
      refine bind (hg x List.mem_cons_self s hs) fun _ t ht => ?_
      exact ih (fun y hy => hg y (List.mem_cons_of_mem _ hy)) ht

/-- What succeeds has no need of its handler. -/
theorem tryCatch {x : Svc σ ℓ ε α} {handler : ε → Svc σ ℓ ε α} (hx : x.Completes R A P s) :
    (Svc.tryCatch x handler).Completes R A P s := by
  refine Prog.Meets.bind hx fun r t hr => ?_
  obtain ⟨a, rfl, hP⟩ := hr
  exact pure hP

end Completes

end Svc

/-! ### Vows -/

/-- The call acts as `A` allows, and by its end it has established the vow of each of its events, and of those it
still owes. -/
def Prog.Redeems (vow : Event σ ℓ → σ → Prop) (R : σ → σ → Prop) (A : ℓ → σ → σ → Prop) :
    List (Event σ ℓ) → Prog σ ℓ ρ → σ → Prop
  | es, .done _, s => ∀ e ∈ es, vow e s
  | es, .act l f k, s => ∀ t, R s t → A l t (f t).2 ∧ (k (f t).1).Redeems vow R A (⟨t, l, (f t).2⟩ :: es) (f t).2

namespace Prog.Redeems

variable {vow : Event σ ℓ → σ → Prop} {R : σ → σ → Prop} {A A' : ℓ → σ → σ → Prop} {es es' : List (Event σ ℓ)}
  {e : Event σ ℓ} {s t : σ}

theorem meets {p : Prog σ ℓ ρ} (h : p.Redeems vow R A es s) : p.Meets R A (fun _ _ => True) s := by
  induction p generalizing es s with
  | done r => trivial
  | act l f k ih => exact fun t ht => ⟨(h t ht).1, ih _ (h t ht).2⟩

theorem stable (htrans : ∀ s t u, R s t → R t u → R s u) (hvow : ∀ e s t, vow e s → R s t → vow e t)
    {p : Prog σ ℓ ρ} (h : p.Redeems vow R A es s) (hst : R s t) : p.Redeems vow R A es t := by
  cases p with
  | done r => exact fun e he => hvow e s t (h e he) hst
  | act l f k => exact fun u hu => h u (htrans _ _ _ hst hu)

theorem mono (hsub : es' ⊆ es) {p : Prog σ ℓ ρ} (h : p.Redeems vow R A es s) : p.Redeems vow R A es' s := by
  induction p generalizing es es' s with
  | done r => exact fun e he => h e (hsub he)
  | act l f k ih => exact fun t ht => ⟨(h t ht).1, ih _ (List.cons_subset_cons _ hsub) (h t ht).2⟩

variable (hkeep : ∀ e l s t u, vow e s → R s t → A l t u → vow e u) 

include hkeep in
theorem cons {p : Prog σ ℓ ρ} (he : vow e s) (h : p.Redeems vow R A es s) : p.Redeems vow R A (e :: es) s := by
  induction p generalizing es s with
  | done r =>
      intro e' he'
      rcases List.mem_cons.mp he' with rfl | he'
      · exact he
      · exact h e' he'
  | act l f k ih =>
      intro t ht
      obtain ⟨hact, hrest⟩ := h t ht
      have hswap : ⟨t, l, (f t).2⟩ :: e :: es ⊆ e :: ⟨t, l, (f t).2⟩ :: es := by
        intro x hx
        simpa [or_left_comm] using hx
      exact ⟨hact, mono hswap (ih _ (hkeep e l s t _ he ht hact) hrest)⟩

include hkeep in
/-- A first part whose vows are redeemed at once. -/
theorem bind {ρ' : Type} {p : Prog σ ℓ ρ} {g : ρ → Prog σ ℓ ρ'} {Q : ρ → σ → Prop}
    (hact : ∀ l s t, A' l s t → A l s t ∧ vow ⟨s, l, t⟩ t) (hp : p.Meets R A' Q s)
    (hg : ∀ r t, Q r t → (g r).Redeems vow R A es t) : (p.bind g).Redeems vow R A es s := by
  induction p generalizing s with
  | done r => exact hg r s hp
  | act l f k ih =>
      intro t ht
      obtain ⟨hA', hrest⟩ := hp t ht
      obtain ⟨hA, hvow⟩ := hact _ _ _ hA'
      exact ⟨hA, cons hkeep hvow (ih _ hrest)⟩

include hkeep in
/-- What a call owes may be redeemed by what it establishes at its end. -/
theorem of_meets {Q : ρ → σ → Prop} (hact : ∀ l s t, A' l s t → A l s t ∧ vow ⟨s, l, t⟩ t)
    (hQ : ∀ r t, Q r t → ∀ e ∈ es, vow e t) {p : Prog σ ℓ ρ} (h : p.Meets R A' Q s) : p.Redeems vow R A es s := by
  induction p generalizing s with
  | done r => exact hQ r s h
  | act l f k ih =>
      intro t ht
      obtain ⟨hA', hrest⟩ := h t ht
      obtain ⟨hA, hvow⟩ := hact _ _ _ hA'
      exact ⟨hA, cons hkeep hvow (ih _ hrest)⟩

/-- Renaming the result of a call. -/
theorem map {ρ' : Type} {p : Prog σ ℓ ρ} {g : ρ → Prog σ ℓ ρ'} (hg : ∀ r, ∃ r', g r = done r')
    (h : p.Redeems vow R A es s) : (p.bind g).Redeems vow R A es s := by
  induction p generalizing es s with
  | done r =>
      obtain ⟨r', hr'⟩ := hg r
      rw [Prog.bind_done, hr']
      exact h
  | act l f k ih => exact fun t ht => ⟨(h t ht).1, ih _ (h t ht).2⟩

end Prog.Redeems

/-- **The rule of vows.**  If vows, once established, stand, and every call redeems those of its own events, then once
no call is in progress every vow of the interleaving is redeemed. -/
theorem Exec.redeems {vow : Event σ ℓ → σ → Prop} {A : ℓ → σ → σ → Prop}
    (hvow : ∀ e s t, vow e s → Rely A s t → vow e t)
    (hprog : ∀ c s, Rely A init s → (prog c).Redeems vow (Rely A) A [] s) {tr : List (Event σ ℓ)} {cfg : Config σ ℓ ρ}
    (h : Exec prog init tr cfg) (hquiet : cfg.Quiet) : ∀ e ∈ tr, vow e cfg.state := by
  -- every event so far is owed by the call in progress that performed it
  have hpath : Path A init tr cfg.state :=
    (h.path (Q := fun _ _ => True) (fun _ _ _ _ _ => trivial) fun c s hs => (hprog c s hs).meets).1
  have howed : ∃ owed : List (List (Event σ ℓ)),
      List.Forall₂ (fun p es => p.Redeems vow (Rely A) A es cfg.state) cfg.pool owed ∧
        ∀ e ∈ tr, ∃ es ∈ owed, e ∈ es := by
    clear hquiet
    induction h with
    | init => exact ⟨[], .nil, by simp⟩
    | start c _ ih =>
        obtain ⟨owed, hpool, hcover⟩ := ih hpath
        refine ⟨[] :: owed, .cons (hprog c _ hpath.rely) hpool, fun e he => ?_⟩
        obtain ⟨es, hes, hmem⟩ := hcover e he
        exact ⟨es, List.mem_cons_of_mem _ hes, hmem⟩
    | @run tr s before after α l f k hexec ih =>
        obtain ⟨hpre, hact, -⟩ := hpath.snoc_inv
        obtain ⟨owed, hpool, hcover⟩ := ih hpre
        have hrely : Rely A s (f s).2 := Rely.single hact
        have hmove {ps : List (Prog σ ℓ ρ)} {ess : List (List (Event σ ℓ))}
            (hps : List.Forall₂ (fun p es => Prog.Redeems vow (Rely A) A es p s) ps ess) :
            List.Forall₂ (fun p es => Prog.Redeems vow (Rely A) A es p (f s).2) ps ess :=
          hps.imp fun p es hp => hp.stable (fun _ _ _ => Rely.trans) hvow hrely
        obtain ⟨owed₁, es, owed₂, rfl, hbefore, hp, hafter⟩ := paired_split hpool
        refine ⟨owed₁ ++ (⟨s, l, (f s).2⟩ :: es) :: owed₂,
          List.rel_append (hmove hbefore) (.cons (hp s (Rely.refl s)).2 (hmove hafter)), fun e he => ?_⟩
        rcases List.mem_append.mp he with he | he
        · obtain ⟨es', hes', hmem⟩ := hcover e he
          rcases List.mem_append.mp hes' with hes' | hes'
          · exact ⟨es', List.mem_append_left _ hes', hmem⟩
          · rcases List.mem_cons.mp hes' with rfl | hes'
            · exact ⟨⟨s, l, (f s).2⟩ :: es', by simp, List.mem_cons_of_mem _ hmem⟩
            · exact ⟨es', by simp [hes'], hmem⟩
        · rw [List.mem_singleton] at he
          exact ⟨⟨s, l, (f s).2⟩ :: es, by simp, by simp [he]⟩
  obtain ⟨owed, hpool, hcover⟩ := howed
  intro e he
  obtain ⟨es, hes, hmem⟩ := hcover e he
  obtain ⟨r, hredeem⟩ := hquiet.paired hpool hes
  exact hredeem e hmem

/-! ### Balances -/

/-- From a credit of `n` a call earns before it spends, and it ends without credit. -/
def Prog.Balanced (earn spend : ℓ → σ → Bool) : Nat → Prog σ ℓ ρ → Prop
  | n, .done _ => n = 0
  | n, .act l f k => ∀ s, (spend l s = true → 0 < n) ∧
      (k (f s).1).Balanced earn spend (n + (earn l s).toNat - (spend l s).toNat)

theorem Prog.Balanced.solvent {earn spend : ℓ → σ → Bool} {n : Nat} {p : Prog σ ℓ ρ} (h : p.Balanced earn spend n) :
    p.Solvent earn spend n := by
  induction p generalizing n with
  | done r => trivial
  | act l f k ih => exact fun s => ⟨(h s).1, ih _ (h s).2⟩

/-- A first part that neither earns nor spends leaves the credit to the rest. -/
theorem Prog.Balanced.bind_neutral {ρ' : Type} {earn spend : ℓ → σ → Bool} {n : Nat} {p : Prog σ ℓ ρ}
    {g : ρ → Prog σ ℓ ρ'} {Q : ρ → σ → Prop} {s : σ}
    (hp : p.Meets (fun _ _ => True) (Unpriced earn spend) Q s) (hg : ∀ r, (g r).Balanced earn spend n) :
    (p.bind g).Balanced earn spend n := by
  induction p generalizing s with
  | done r => exact hg r
  | act l f k ih =>
      intro t
      obtain ⟨⟨hearn, hspend⟩, hrest⟩ := hp t trivial
      rw [hearn, hspend]
      exact ⟨nofun, ih _ hrest⟩

namespace Svc

variable {earn spend : ℓ → σ → Bool} {n : Nat}

/-- The balance of a service call. -/
def Balanced (earn spend : ℓ → σ → Bool) (n : Nat) (x : Svc σ ℓ ε α) : Prop := Prog.Balanced earn spend n x

namespace Balanced

theorem pure (a : α) : Svc.Balanced earn spend 0 (Pure.pure a : Svc σ ℓ ε α) := rfl

theorem fail (e : ε) : Svc.Balanced earn spend 0 (Svc.fail e : Svc σ ℓ ε α) := rfl

theorem ensure (c : Prop) [Decidable c] (e : ε) : Svc.Balanced earn spend 0 (Svc.ensure c e : Svc σ ℓ ε Unit) := by
  unfold Svc.ensure
  split
  · exact pure ()
  · exact fail e

/-- A first part that uses the credit up. -/
theorem bind {x : Svc σ ℓ ε α} {g : α → Svc σ ℓ ε β} (hx : x.Balanced earn spend n)
    (hg : ∀ a, (g a).Balanced earn spend 0) : (x >>= g).Balanced earn spend n := by
  -- along the first part the credit is the same, with the rest after it
  suffices hall : ∀ (p : Prog σ ℓ (Except ε α)) m, p.Balanced earn spend m →
      Svc.Balanced earn spend m ((p : Svc σ ℓ ε α) >>= g) from hall x n hx
  intro p
  induction p with
  | done r =>
      intro m hm
      obtain rfl : m = 0 := hm
      cases r with
      | ok a => exact hg a
      | error e => rfl
  | act l f k ih => exact fun m hm s => ⟨(hm s).1, ih _ _ (hm s).2⟩

theorem map {x : Svc σ ℓ ε α} {f : α → β} (hx : x.Balanced earn spend 0) : (f <$> x).Balanced earn spend 0 :=
  bind hx fun a => pure (f a)

/-- A read that neither earns nor spends, then the rest with what it read. -/
theorem query_bind {l : ℓ} {f : σ → α} {g : α → Svc σ ℓ ε β} (hl : ∀ s, earn l s = false ∧ spend l s = false)
    (hg : ∀ s, (g (f s)).Balanced earn spend n) : (Svc.query l f >>= g).Balanced earn spend n := by
  intro s
  obtain ⟨hearn, hspend⟩ := hl s
  rw [hearn, hspend]
  exact ⟨nofun, hg s⟩

theorem transaction_bind {l : ℓ} {tx : Tx σ ε α} {g : α → Svc σ ℓ ε β} (hspend : ∀ s, spend l s = true → 0 < n)
    (hok : ∀ s a t, tx s = .ok (a, t) → (g a).Balanced earn spend (n + (earn l s).toNat - (spend l s).toNat))
    (herr : ∀ s e, tx s = .error e → n + (earn l s).toNat - (spend l s).toNat = 0) :
    (Svc.transaction l tx >>= g).Balanced earn spend n := by
  intro s
  refine ⟨hspend s, ?_⟩
  rcases htx : tx s with e | ⟨a, t⟩
  · simp only [htx, Prog.bind_done]
    exact herr s e htx
  · simp only [htx, Prog.bind_done]
    exact hok s a t htx

theorem tryCatch {x : Svc σ ℓ ε α} {handler : ε → Svc σ ℓ ε α} (hx : x.Balanced earn spend n)
    (hh : ∀ e, (handler e).Balanced earn spend 0) : (Svc.tryCatch x handler).Balanced earn spend n := by
  suffices hall : ∀ (p : Prog σ ℓ (Except ε α)) m, p.Balanced earn spend m →
      Svc.Balanced earn spend m (Svc.tryCatch p handler) from hall x n hx
  intro p
  induction p with
  | done r =>
      intro m hm
      obtain rfl : m = 0 := hm
      cases r with
      | ok a => rfl
      | error e => exact hh e
  | act l f k ih => exact fun m hm s => ⟨(hm s).1, ih _ _ (hm s).2⟩

/-- A renamed result, then the rest. -/
theorem map_bind {γ : Type} {x : Svc σ ℓ ε α} {f : α → γ} {g : γ → Svc σ ℓ ε β} (hx : x.Balanced earn spend 0)
    (hg : ∀ a, (g (f a)).Balanced earn spend 0) : (f <$> x >>= g).Balanced earn spend 0 := by
  have heq : (f <$> x >>= g) = x >>= fun a => g (f a) := by
    change Prog.bind (Prog.bind x _) _ = Prog.bind x _
    clear hx
    induction x with
    | done r => cases r <;> rfl
    | act l h k ih => exact congrArg (Prog.act l h) (funext fun a => ih a)
  rw [heq]
  exact bind hx hg

/-- A transaction whose refusal is handled, then the rest of either way. -/
theorem attempt {γ : Type} {l : ℓ} {tx : Tx σ ε α} {handler : ε → Svc σ ℓ ε γ} {g : α ⊕ γ → Svc σ ℓ ε β}
    (hspend : ∀ s, spend l s = true → 0 < n)
    (hok : ∀ s a t, tx s = .ok (a, t) → (g (.inl a)).Balanced earn spend (n + (earn l s).toNat - (spend l s).toNat))
    (herr : ∀ s e, tx s = .error e → n + (earn l s).toNat - (spend l s).toNat = 0)
    (hhandler : ∀ e, (handler e).Balanced earn spend 0) (hg : ∀ c, (g (.inr c)).Balanced earn spend 0) :
    (Svc.tryCatch (Sum.inl <$> Svc.transaction l tx) (fun e => Sum.inr <$> handler e) >>= g).Balanced earn spend n := by
  intro s
  refine ⟨hspend s, ?_⟩
  rcases htx : tx s with e | ⟨a, t⟩
  · simp only [htx, Prog.bind_done]
    rw [herr s e htx]
    exact map_bind (hhandler e) hg
  · simp only [htx, Prog.bind_done]
    exact hok s a t htx

/-- A transaction that spends what it is given, then a rest that balances for itself. -/
theorem spend_bind {l : ℓ} {tx : Tx σ ε α} {g : α → Svc σ ℓ ε β} {c : Bool}
    (hl : ∀ s, earn l s = false ∧ spend l s = c) (hg : ∀ a, (g a).Balanced earn spend 0) :
    (Svc.transaction l tx >>= g).Balanced earn spend c.toNat := by
  have hcredit (s : σ) : c.toNat + (earn l s).toNat - (spend l s).toNat = 0 := by
    obtain ⟨hearn, hspend⟩ := hl s
    rw [hearn, hspend]
    simp
  refine transaction_bind (fun s hs => ?_) (fun s a t _ => ?_) fun s e _ => hcredit s
  · rw [(hl s).2] at hs
    rw [hs]
    exact Nat.one_pos
  · rw [hcredit]
    exact hg a

/-- A transaction that earns when it goes through, then the rest with what it earned. -/
theorem earn_bind {l : ℓ} {tx : Tx σ ε α} {g : α → Svc σ ℓ ε β} {c : α → Bool} (hspend : ∀ s, spend l s = false)
    (hok : ∀ s a t, tx s = .ok (a, t) → earn l s = c a) (herr : ∀ s e, tx s = .error e → earn l s = false)
    (hg : ∀ a, (g a).Balanced earn spend (c a).toNat) : (Svc.transaction l tx >>= g).Balanced earn spend 0 := by
  refine transaction_bind (fun s hs => ?_) (fun s a t htx => ?_) fun s e htx => ?_
  · rw [hspend] at hs
    cases hs
  · rw [hspend, hok s a t htx, Nat.zero_add]
    exact hg a
  · rw [hspend, herr s e htx]
    rfl

/-- Writes that nothing refuses spend what they are given. -/
theorem forEach {xs : List β} {l : β → ℓ} {tx : β → Tx σ ε Unit} {q : β → Bool}
    (hl : ∀ x s, earn (l x) s = false ∧ spend (l x) s = q x) (hok : ∀ x s, ∃ t, tx x s = .ok ((), t)) :
    (Svc.forEach xs fun x => Svc.transaction (l x) (tx x)).Balanced earn spend (xs.countP q) := by
  induction xs with
  | nil => exact pure ()
  | cons x rest ih =>
      intro s
      obtain ⟨hearn, hspend⟩ := hl x s
      obtain ⟨t, htx⟩ := hok x s
      simp only [hearn, hspend, htx, Prog.bind_done, List.countP_cons]
      cases hq : q x with
      | false => exact ⟨nofun, ih⟩
      | true => exact ⟨fun _ => Nat.succ_pos _, ih⟩

/-- A part that neither earns nor spends and whose failure is passed over leaves the credit to the rest. -/
theorem recover_bind {x : Svc σ ℓ ε α} {a : α} {g : α → Svc σ ℓ ε β} (s : σ) (hx : Svc.Does (Unpriced earn spend) x)
    (hg : ∀ a, (g a).Balanced earn spend n) : (Svc.tryCatch x (fun _ => Pure.pure a) >>= g).Balanced earn spend n := by
  refine (congrArg (Prog.Balanced earn spend n) (Prog.bind_assoc x _ _)).mpr ?_
  refine Prog.Balanced.bind_neutral (hx s) fun r => ?_
  cases r with
  | ok b => exact hg b
  | error e => exact hg a

/-- A call that neither earns nor spends. -/
theorem of_neutral {x : Svc σ ℓ ε α} (s : σ) (hx : Svc.Does (Unpriced earn spend) x) : x.Balanced earn spend 0 := by
  have hall : ∀ (p : Prog σ ℓ (Except ε α)) s, Prog.Meets (fun _ _ => True) (Unpriced earn spend)
      (fun r t => ∀ a, r = .ok a → True) p s → p.Balanced earn spend 0 := by
    intro p
    induction p with
    | done r => exact fun _ _ => rfl
    | act l f k ih =>
        intro s hp t
        obtain ⟨⟨hearn, hspend⟩, hrest⟩ := hp t trivial
        rw [hearn, hspend]
        exact ⟨nofun, ih _ _ hrest⟩
  exact hall x s (hx s)

end Balanced

end Svc

/-- **The rule of balances.**  If every call balances, then once no call is in progress as much was spent as was
earned. -/
theorem Exec.balanced {earn spend : ℓ → σ → Bool} (hprog : ∀ c, (prog c).Balanced earn spend 0)
    {tr : List (Event σ ℓ)} {cfg : Config σ ℓ ρ} (h : Exec prog init tr cfg) (hquiet : cfg.Quiet) :
    (tr.countP fun e => spend e.lbl e.pre) = tr.countP fun e => earn e.lbl e.pre := by
  -- each call in progress holds some of what was earned and not yet spent
  have hcredit : ∃ credits : List Nat, List.Forall₂ (fun p n => p.Balanced earn spend n) cfg.pool credits ∧
      (tr.countP fun e => spend e.lbl e.pre) + credits.sum = tr.countP fun e => earn e.lbl e.pre := by
    clear hquiet
    induction h with
    | init => exact ⟨[], .nil, by simp⟩
    | start c _ ih =>
        obtain ⟨credits, hpool, hsum⟩ := ih
        exact ⟨0 :: credits, .cons (hprog c) hpool, by simpa using hsum⟩
    | @run tr s before after α l f k _ ih =>
        obtain ⟨credits, hpool, hsum⟩ := ih
        obtain ⟨credits₁, n, credits₂, rfl, hbefore, hp, hafter⟩ := paired_split hpool
        obtain ⟨hspend, hnext⟩ := hp s
        refine ⟨credits₁ ++ (n + (earn l s).toNat - (spend l s).toNat) :: credits₂,
          List.rel_append hbefore (.cons hnext hafter), ?_⟩
        simp only [List.sum_append, List.sum_cons, List.countP_append, List.countP_singleton] at hsum ⊢
        cases hs : spend l s with
        | false => cases he : earn l s <;> simp at hsum ⊢ <;> omega
        | true =>
            have hpos := hspend hs
            cases he : earn l s <;> simp at hsum ⊢ <;> omega
  obtain ⟨credits, hpool, hsum⟩ := hcredit
  have hzero : credits.sum = 0 := by
    refine List.sum_eq_zero fun n hn => ?_
    obtain ⟨r, hbalance⟩ := hquiet.paired hpool hn
    exact hbalance
  omega

end Interleaving
