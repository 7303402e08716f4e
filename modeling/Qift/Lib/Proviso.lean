import Qift.Lib.Toll

/-!
# Calls that proceed under a proviso

Some facts about a call hold only while its own actions, or those of others, go as a proviso says.

* `Prog.Under C R A Q` is the rely–guarantee judgment under a proviso `C` on the events: as long as every action of the
  call meets `C`, each of them is one that `A` allows, and a call that ends so ends in `Q`.
* `Exec.under` — in an interleaving all of whose events meet `C`, every event is one that `A` allows and every call in
  progress still meets the judgment.
* `Prog.Solvent earn spend n` — from a credit of `n`, a call earns before it spends; `Svc.Solvent` has the rules for
  service calls. `Exec.solvent` is the credit rule: no more was spent in an interleaving than was earned.
-/

namespace Interleaving

variable {σ ℓ ε α β ρ κ : Type}

/-! ### The judgment -/

/-- As long as the actions meet `C`, each is allowed by `A`, whatever `R` does in between, and the end is in `Q`. -/
def Prog.Under (C : Event σ ℓ → Prop) (R : σ → σ → Prop) (A : ℓ → σ → σ → Prop) (Q : ρ → σ → Prop) :
    Prog σ ℓ ρ → σ → Prop
  | .done r, s => Q r s
  | .act l f k, s => ∀ t, R s t → C ⟨t, l, (f t).2⟩ →
      A l t (f t).2 ∧ (k (f t).1).Under C R A Q (f t).2

theorem Prog.under_done {C : Event σ ℓ → Prop} {R : σ → σ → Prop} {A : ℓ → σ → σ → Prop} {Q : ρ → σ → Prop} {r : ρ}
    {s : σ} : (done r : Prog σ ℓ ρ).Under C R A Q s ↔ Q r s := Iff.rfl

namespace Prog.Under

variable {ρ' : Type} {C : Event σ ℓ → Prop} {R : σ → σ → Prop} {A : ℓ → σ → σ → Prop} {Q Q' : ρ → σ → Prop}

theorem mono {p : Prog σ ℓ ρ} {s : σ} (hQ : ∀ r t, Q r t → Q' r t) (h : p.Under C R A Q s) :
    p.Under C R A Q' s := by
  induction p generalizing s with
  | done r => exact hQ _ _ h
  | act l f k ih => exact fun t ht hC => ⟨(h t ht hC).1, ih _ (h t ht hC).2⟩

/-- The sequencing rule. -/
theorem bind {p : Prog σ ℓ ρ} {g : ρ → Prog σ ℓ ρ'} {s : σ} {Q' : ρ' → σ → Prop} (hp : p.Under C R A Q s)
    (hg : ∀ r t, Q r t → (g r).Under C R A Q' t) : (p.bind g).Under C R A Q' s := by
  induction p generalizing s with
  | done r => exact hg _ _ hp
  | act l f k ih => exact fun t ht hC => ⟨(hp t ht hC).1, ih _ (hp t ht hC).2⟩

theorem stable (htrans : ∀ s t u, R s t → R t u → R s u) (hQ : ∀ r s t, Q r s → R s t → Q r t)
    {p : Prog σ ℓ ρ} {s t : σ} (h : p.Under C R A Q s) (hst : R s t) : p.Under C R A Q t := by
  cases p with
  | done r => exact hQ _ _ _ h hst
  | act l f k => exact fun u hu hC => h u (htrans _ _ _ hst hu) hC

/-- What holds without a proviso holds under it. -/
theorem of_meets {p : Prog σ ℓ ρ} {s : σ} (h : p.Meets R A Q s) : p.Under C R A Q s := by
  induction p generalizing s with
  | done r => exact h
  | act l f k ih => exact fun t ht _ => ⟨(h t ht).1, ih _ (h t ht).2⟩

/-- Fewer actions required, same judgment. -/
theorem weaken_action {A' : ℓ → σ → σ → Prop} (hA : ∀ l s t, A l s t → A' l s t) {p : Prog σ ℓ ρ} {s : σ}
    (h : p.Under C R A Q s) : p.Under C R A' Q s := by
  induction p generalizing s with
  | done r => exact h
  | act l f k ih => exact fun t ht hC => ⟨hA _ _ _ (h t ht hC).1, ih _ (h t ht hC).2⟩

/-- A judgment without a proviso, beside one with it. -/
theorem and_meets {A' : ℓ → σ → σ → Prop} {Q' : ρ → σ → Prop} {p : Prog σ ℓ ρ} {s : σ} (h : p.Under C R A Q s)
    (h' : p.Meets R A' Q' s) :
    p.Under C R (fun l s t => A' l s t ∧ A l s t) (fun r t => Q' r t ∧ Q r t) s := by
  induction p generalizing s with
  | done r => exact ⟨h', h⟩
  | act l f k ih =>
      intro t ht hC
      exact ⟨⟨(h' t ht).1, (h t ht hC).1⟩, ih _ (h t ht hC).2 (h' t ht).2⟩

/-- What the proviso says of an action may be noted of it. -/
theorem note {p : Prog σ ℓ ρ} {s : σ} (h : p.Under C R A Q s) :
    p.Under C R (fun l s t => C ⟨s, l, t⟩ ∧ A l s t) Q s := by
  induction p generalizing s with
  | done r => exact h
  | act l f k ih => exact fun t ht hC => ⟨⟨hC, (h t ht hC).1⟩, ih _ (h t ht hC).2⟩

/-- What the others keep, and the actions of the call under the proviso, stands at its end. -/
theorem keeps {P : σ → Prop} (hothers : ∀ s t, P s → R s t → P t)
    (hown : ∀ l s t, A l s t → C ⟨s, l, t⟩ → P s → P t) {p : Prog σ ℓ ρ} {s : σ} (h : p.Under C R A Q s) (hs : P s) :
    p.Under C R A (fun r t => Q r t ∧ P t) s := by
  induction p generalizing s with
  | done r => exact ⟨h, hs⟩
  | act l f k ih =>
      intro t ht hC
      exact ⟨(h t ht hC).1, ih _ (h t ht hC).2 (hown _ _ _ (h t ht hC).1 hC (hothers s t hs ht))⟩

end Prog.Under

variable {prog : κ → Prog σ ℓ ρ} {init : σ}

/-- **Soundness under a proviso.**  Where every event meets the proviso, an interleaving is a path of the allowed
actions, and every call in progress still meets its judgment. -/
theorem Exec.under {C : Event σ ℓ → Prop} {E A : ℓ → σ → σ → Prop} {Q : ρ → σ → Prop}
    (hQ : ∀ r s t, Q r s → Rely E s t → Q r t) (hA : ∀ l s t, A l s t → E l s t)
    (hprog : ∀ c s, Rely E init s → (prog c).Under C (Rely E) A Q s) {tr : List (Event σ ℓ)}
    {cfg : Config σ ℓ ρ} (h : Exec prog init tr cfg) (hC : ∀ e ∈ tr, C e) :
    Path A init tr cfg.state ∧ ∀ p ∈ cfg.pool, p.Under C (Rely E) A Q cfg.state := by
  have hstable : ∀ {p : Prog σ ℓ ρ} {s t : σ}, p.Under C (Rely E) A Q s → Rely E s t →
      p.Under C (Rely E) A Q t :=
    fun hp hst => hp.stable (fun _ _ _ => Rely.trans) hQ hst
  have hrely : ∀ {s t : σ} {tr : List (Event σ ℓ)}, Path A s tr t → Rely E s t := by
    intro s t tr hpath
    induction hpath with
    | nil => exact Rely.refl _
    | snoc _ hact ih => exact ih.trans (Rely.single (hA _ _ _ hact))
  induction h with
  | init => exact ⟨Path.nil _, by simp⟩
  | start c _ ih =>
      obtain ⟨hpath, hpool⟩ := ih hC
      refine ⟨hpath, fun p hp => ?_⟩
      rcases List.mem_cons.mp hp with rfl | hp
      · exact hprog c _ (hrely hpath)
      · exact hpool p hp
  | @run tr s before after α l f k _ ih =>
      obtain ⟨hpath, hpool⟩ := ih fun e he => hC e (List.mem_append_left _ he)
      obtain ⟨hact, hrest⟩ := hpool (.act l f k) (by simp) s (Rely.refl s) (hC _ (by simp))
      refine ⟨Path.snoc hpath hact, fun p hp => ?_⟩
      rcases List.mem_append.mp hp with hp | hp
      · exact hstable (hpool p (by simp [hp])) (Rely.single (hA _ _ _ hact))
      · rcases List.mem_cons.mp hp with rfl | hp
        · exact hrest
        · exact hstable (hpool p (by simp [hp])) (Rely.single (hA _ _ _ hact))

/-! ### The rules for service calls -/

namespace Svc

/-- The judgment on a service call, with a conclusion for success and for failure. -/
def Under (C : Event σ ℓ → Prop) (R : σ → σ → Prop) (A : ℓ → σ → σ → Prop) (Q : Except ε α → σ → Prop)
    (x : Svc σ ℓ ε α) (s : σ) : Prop :=
  Prog.Under C R A Q x s

namespace Under

variable {C : Event σ ℓ → Prop} {R : σ → σ → Prop} {A : ℓ → σ → σ → Prop} {Q : Except ε α → σ → Prop} {s : σ}

theorem mono {Q' : Except ε α → σ → Prop} {x : Svc σ ℓ ε α} (hQ : ∀ r t, Q r t → Q' r t)
    (h : x.Under C R A Q s) : x.Under C R A Q' s := Prog.Under.mono hQ h

theorem pure {a : α} (h : Q (.ok a) s) : (Pure.pure a : Svc σ ℓ ε α).Under C R A Q s := h

theorem fail {e : ε} (h : Q (.error e) s) : (Svc.fail e : Svc σ ℓ ε α).Under C R A Q s := h

theorem ensure {c : Prop} [Decidable c] {e : ε} {Q : Except ε Unit → σ → Prop} (hok : c → Q (.ok ()) s)
    (herr : ¬c → Q (.error e) s) : (Svc.ensure c e : Svc σ ℓ ε Unit).Under C R A Q s := by
  by_cases hc : c
  · rw [Svc.ensure, if_pos hc]
    exact hok hc
  · rw [Svc.ensure, if_neg hc]
    exact herr hc

theorem query {l : ℓ} {f : σ → α} (h : ∀ t, R s t → C ⟨t, l, t⟩ → A l t t ∧ Q (.ok (f t)) t) :
    (Svc.query l f : Svc σ ℓ ε α).Under C R A Q s := h

theorem transaction {l : ℓ} {tx : Tx σ ε α}
    (hok : ∀ t a u, R s t → tx t = .ok (a, u) → C ⟨t, l, u⟩ → A l t u ∧ Q (.ok a) u)
    (herr : ∀ t e, R s t → tx t = .error e → C ⟨t, l, t⟩ → A l t t ∧ Q (.error e) t) :
    (Svc.transaction l tx).Under C R A Q s := by
  intro t ht hC
  rcases htx : tx t with e | ⟨a, u⟩
  · simp only [htx] at hC ⊢
    exact herr t e ht htx hC
  · simp only [htx] at hC ⊢
    exact hok t a u ht htx hC

theorem bind {x : Svc σ ℓ ε α} {g : α → Svc σ ℓ ε β} {Q' : Except ε β → σ → Prop} (hx : x.Under C R A Q s)
    (hg : ∀ a t, Q (.ok a) t → (g a).Under C R A Q' t) (herr : ∀ e t, Q (.error e) t → Q' (.error e) t) :
    (x >>= g).Under C R A Q' s := by
  refine Prog.Under.bind hx fun r t hr => ?_
  cases r with
  | ok a => exact hg a t hr
  | error e => exact herr e t hr

theorem tryCatch {x : Svc σ ℓ ε α} {handler : ε → Svc σ ℓ ε α} {Q' : Except ε α → σ → Prop}
    (hx : x.Under C R A Q s) (hok : ∀ a t, Q (.ok a) t → Q' (.ok a) t)
    (hh : ∀ e t, Q (.error e) t → (handler e).Under C R A Q' t) : (Svc.tryCatch x handler).Under C R A Q' s := by
  refine Prog.Under.bind hx fun r t hr => ?_
  cases r with
  | ok a => exact hok a t hr
  | error e => exact hh e t hr

/-- A loop whose rounds succeed: `I` says where it stands after the rounds that are done. -/
theorem forEach {xs : List β} {g : β → Svc σ ℓ ε Unit} {I : List β → σ → Prop}
    (hstep : ∀ before x after, xs = before ++ x :: after → ∀ t, I before t →
      (g x).Under C R A (fun r u => r = .ok () ∧ I (before ++ [x]) u) t) (hs : I [] s) :
    (Svc.forEach xs g).Under C R A (fun r t => r = .ok () ∧ I xs t) s := by
  -- the rounds that are left, after those before them
  suffices hrest : ∀ after before t, xs = before ++ after → I before t →
      (Svc.forEach after g).Under C R A (fun r t => r = .ok () ∧ I xs t) t from hrest xs [] s rfl hs
  intro after
  induction after with
  | nil =>
      intro before t hxs ht
      rw [hxs, List.append_nil]
      exact ⟨rfl, ht⟩
  | cons x after ih =>
      intro before t hxs ht
      refine bind (hstep before x after hxs t ht) (fun _ u hu => ?_) fun e u hu => by cases hu.1
      exact ih (before ++ [x]) u (by rw [hxs, List.append_assoc]; rfl) hu.2

/-- A loop that collects results, each round of which keeps `I`, however it ends. -/
theorem collect {xs : List β} {g : β → Svc σ ℓ ε α} {I : σ → Prop}
    (hg : ∀ x ∈ xs, ∀ t, I t → (g x).Under C R A (fun _ u => I u) t) (hs : I s) :
    (Svc.collect xs g).Under C R A (fun _ t => I t) s := by
  induction xs generalizing s with
  | nil => exact pure hs
  | cons x rest ih =>
      refine bind (hg x List.mem_cons_self s hs) (fun a t ht => ?_) fun _ _ ht => ht
      refine bind (ih (fun y hy => hg y (List.mem_cons_of_mem _ hy)) ht) (fun as u hu => ?_) fun _ _ hu => hu
      exact pure hu

/-- A loop one round of which establishes `P`, which the others keep. -/
theorem collect_reaches {xs : List β} {g : β → Svc σ ℓ ε α} {I P : σ → Prop} {y : β} (hy : y ∈ xs)
    (hg : ∀ x ∈ xs, ∀ t, I t → (g x).Under C R A (fun r u => I u ∧ (x = y → ∀ a, r = .ok a → P u)) t)
    (hkeep : ∀ x ∈ xs, ∀ t, I t ∧ P t → (g x).Under C R A (fun _ u => I u ∧ P u) t) (hs : I s) :
    (Svc.collect xs g).Under C R A (fun r t => ∀ as, r = .ok as → P t) s := by
  induction xs generalizing s with
  | nil => cases hy
  | cons x rest ih =>
      refine bind (hg x List.mem_cons_self s hs) (fun a t ht => ?_) fun e t _ as has => nomatch has
      by_cases hx : x = y
      · have hrest := collect (fun z hz => hkeep z (List.mem_cons_of_mem _ hz)) ⟨ht.1, ht.2 hx a rfl⟩
        refine bind hrest (fun as u hu => ?_) fun e u _ as has => nomatch has
        exact pure fun _ _ => hu.2
      · have hlater : y ∈ rest := (List.mem_cons.mp hy).resolve_left fun hyx => hx hyx.symm
        refine bind (ih hlater (fun z hz => hg z (List.mem_cons_of_mem _ hz))
          (fun z hz => hkeep z (List.mem_cons_of_mem _ hz)) ht.1) (fun as u hu => ?_) fun e u _ as has => nomatch has
        exact pure fun _ _ => hu as rfl

end Under

theorem Does.among {A : ℓ → σ → σ → Prop} {R : σ → σ → Prop} {x : Svc σ ℓ ε α} (h : Svc.Does A x) (s : σ) :
    x.Ensures R A (fun _ _ => True) s := Prog.Meets.weaken_rely (fun _ _ _ => trivial) (h s)

/-- What a call does it does among others, and what their actions keep stands at its end. -/
theorem Does.ensures {A E : ℓ → σ → σ → Prop} (hA : ∀ l s t, A l s t → E l s t) {x : Svc σ ℓ ε α}
    (h : Svc.Does A x) {P : σ → Prop} (hP : ∀ s t, P s → Rely E s t → P t) {s : σ} (hs : P s) :
    x.Ensures (Rely E) A (fun _ t => P t) s := by
  have hreach := (h.among (R := Rely E) s).reach Rely.refl (fun _ _ _ => Rely.trans) fun l t u hact =>
    Rely.single (hA l t u hact)
  exact hreach.mono fun r t hr a _ => hP s t hs hr.1

/-- A call whose actions are allowed where `P` holds, among others that keep it. -/
theorem Does.carries {A E : ℓ → σ → σ → Prop} {P : σ → Prop} (hE : ∀ l s t, P s → A l s t → E l s t)
    (hP : ∀ s t, P s → Rely E s t → P t) {x : Svc σ ℓ ε α} (h : Svc.Does A x) {s : σ} (hs : P s) :
    x.Ensures (Rely E) E (fun _ t => P t) s := by
  suffices hprog : ∀ (p : Prog σ ℓ (Except ε α)) (s : σ), P s →
      p.Meets (fun _ _ => True) A (fun r t => ∀ a, r = .ok a → True) s →
      p.Meets (Rely E) E (fun r t => ∀ a, r = .ok a → P t) s from hprog x s hs (h s)
  intro p
  induction p with
  | done r => exact fun s hs _ a _ => hs
  | act l f k ih =>
      intro s hs hp t ht
      have hpre := hP s t hs ht
      have hact := hE l t _ hpre (hp t trivial).1
      exact ⟨hact, ih _ _ (hP t _ hpre (Rely.single hact)) (hp t trivial).2⟩

/-- Whatever the actions of a call are among, under any proviso what they keep stands at its end, however it ends. -/
theorem Does.under {A E : ℓ → σ → σ → Prop} (hA : ∀ l s t, A l s t → E l s t) {x : Svc σ ℓ ε α}
    (h : Svc.Does A x) {P : σ → Prop} (hP : ∀ s t, P s → Rely E s t → P t) {s : σ} (hs : P s)
    {C : Event σ ℓ → Prop} : x.Under C (Rely E) A (fun _ t => P t) s := by
  have hreach := (h.among (R := Rely E) s).reach Rely.refl (fun _ _ _ => Rely.trans) fun l t u hact =>
    Rely.single (hA l t u hact)
  exact Prog.Under.of_meets (hreach.mono fun r t hr => hP s t hs hr.1)

end Svc

/-! ### Credit -/

/-- From a credit of `n`, every action that spends finds credit that an earlier action earned. -/
def Prog.Solvent (earn spend : ℓ → σ → Bool) : Nat → Prog σ ℓ ρ → Prop
  | _, .done _ => True
  | n, .act l f k => ∀ s, (spend l s = true → 0 < n) ∧
      (k (f s).1).Solvent earn spend (n + (earn l s).toNat - (spend l s).toNat)

theorem Prog.Solvent.done {earn spend : ℓ → σ → Bool} {n : Nat} {r : ρ} :
    (Prog.done r : Prog σ ℓ ρ).Solvent earn spend n := trivial

/-- More credit does no harm. -/
theorem Prog.Solvent.mono {earn spend : ℓ → σ → Bool} {p : Prog σ ℓ ρ} {m n : Nat} (hmn : m ≤ n)
    (h : p.Solvent earn spend m) : p.Solvent earn spend n := by
  induction p generalizing m n with
  | done r => trivial
  | act l f k ih =>
      intro s
      obtain ⟨hspend, hrest⟩ := h s
      exact ⟨fun hs => (hspend hs).trans_le hmn, ih _ (by omega) hrest⟩

/-- A call that earns nothing more may be followed by any that is solvent from nothing. -/
theorem Prog.Solvent.bind {ρ' : Type} {earn spend : ℓ → σ → Bool} {p : Prog σ ℓ ρ} {g : ρ → Prog σ ℓ ρ'} {n : Nat}
    (h : p.Solvent earn spend n) (hg : ∀ r, (g r).Solvent earn spend 0) : (p.bind g).Solvent earn spend n := by
  induction p generalizing n with
  | done r => exact (hg r).mono (Nat.zero_le n)
  | act l f k ih => exact fun s => ⟨(h s).1, ih _ (h s).2⟩

section Rules

variable {earn spend : ℓ → σ → Bool} {n : Nat}

/-- What an action does that neither earns nor spends. -/
def Unpriced (earn spend : ℓ → σ → Bool) (l : ℓ) (s _ : σ) : Prop := earn l s = false ∧ spend l s = false

/-- A first part that neither earns nor spends leaves the credit to the rest. -/
theorem Prog.Solvent.bind_neutral {ρ' : Type} {p : Prog σ ℓ ρ} {g : ρ → Prog σ ℓ ρ'} {Q : ρ → σ → Prop} {s : σ}
    (hp : p.Meets (fun _ _ => True) (Unpriced earn spend) Q s) (hg : ∀ r, (g r).Solvent earn spend n) :
    (p.bind g).Solvent earn spend n := by
  induction p generalizing s with
  | done r => exact hg r
  | act l f k ih =>
      intro t
      obtain ⟨⟨hearn, hspend⟩, hrest⟩ := hp t trivial
      rw [hearn, hspend]
      exact ⟨nofun, ih _ hrest⟩

/-- Sequencing is associative. -/
theorem Prog.bind_assoc {ρ' ρ'' : Type} (p : Prog σ ℓ ρ) (g : ρ → Prog σ ℓ ρ') (g' : ρ' → Prog σ ℓ ρ'') :
    (p.bind g).bind g' = p.bind fun r => (g r).bind g' := by
  induction p with
  | done r => rfl
  | act l f k ih => simp only [Prog.bind_act, ih]

theorem Svc.bind_assoc {γ : Type} (x : Svc σ ℓ ε α) (f : α → Svc σ ℓ ε β) (g : β → Svc σ ℓ ε γ) :
    x >>= f >>= g = x >>= fun a => f a >>= g := by
  refine (Prog.bind_assoc x _ _).trans (congrArg (Prog.bind x) (funext fun r => ?_))
  cases r with
  | ok a => rfl
  | error e => rfl

/-- A call that neither earns nor spends. -/
theorem Prog.Solvent.of_neutral {p : Prog σ ℓ ρ} {Q : ρ → σ → Prop} {s : σ}
    (hp : p.Meets (fun _ _ => True) (Unpriced earn spend) Q s) : p.Solvent earn spend n := by
  induction p generalizing s with
  | done r => trivial
  | act l f k ih =>
      intro t
      obtain ⟨⟨hearn, hspend⟩, hrest⟩ := hp t trivial
      rw [hearn, hspend]
      exact ⟨nofun, ih _ hrest⟩

namespace Svc

/-- Solvency of a service call. -/
def Solvent (earn spend : ℓ → σ → Bool) (n : Nat) (x : Svc σ ℓ ε α) : Prop := Prog.Solvent earn spend n x

namespace Solvent

theorem pure (a : α) : Svc.Solvent earn spend n (Pure.pure a : Svc σ ℓ ε α) := trivial

theorem fail (e : ε) : Svc.Solvent earn spend n (Svc.fail e : Svc σ ℓ ε α) := trivial

theorem of_neutral {x : Svc σ ℓ ε α} (s : σ) (hx : Svc.Does (Unpriced earn spend) x) : x.Solvent earn spend n :=
  Prog.Solvent.of_neutral (hx s)

/-- A call that earns nothing more may be followed by any that is solvent from nothing. -/
theorem bind {x : Svc σ ℓ ε α} {g : α → Svc σ ℓ ε β} (hx : x.Solvent earn spend n)
    (hg : ∀ a, (g a).Solvent earn spend 0) : (x >>= g).Solvent earn spend n := by
  refine Prog.Solvent.bind hx fun r => ?_
  cases r with
  | ok a => exact hg a
  | error e => trivial

theorem bind_neutral {x : Svc σ ℓ ε α} {g : α → Svc σ ℓ ε β} (s : σ) (hx : Svc.Does (Unpriced earn spend) x)
    (hg : ∀ a, (g a).Solvent earn spend n) : (x >>= g).Solvent earn spend n := by
  refine Prog.Solvent.bind_neutral (hx s) fun r => ?_
  cases r with
  | ok a => exact hg a
  | error e => trivial

theorem transaction_bind {l : ℓ} {tx : Tx σ ε α} {g : α → Svc σ ℓ ε β} (hspend : ∀ s, spend l s = true → 0 < n)
    (hg : ∀ s a t, tx s = .ok (a, t) → (g a).Solvent earn spend (n + (earn l s).toNat - (spend l s).toNat)) :
    (Svc.transaction l tx >>= g).Solvent earn spend n := by
  intro s
  refine ⟨hspend s, ?_⟩
  rcases htx : tx s with e | ⟨a, t⟩
  · simp only [htx, Prog.bind_done]
    trivial
  · simp only [htx, Prog.bind_done]
    exact hg s a t htx

/-- What is caught spends no more than it would alone. -/
theorem tryCatch {x : Svc σ ℓ ε α} {handler : ε → Svc σ ℓ ε α} (hx : x.Solvent earn spend n)
    (hh : ∀ e, (handler e).Solvent earn spend 0) : (Svc.tryCatch x handler).Solvent earn spend n := by
  refine Prog.Solvent.bind hx fun r => ?_
  cases r with
  | ok a => trivial
  | error e => exact hh e

/-- A transaction that is caught: the rest follows its answer, or the handler. -/
theorem attempt_bind {γ : Type} {l : ℓ} {tx : Tx σ ε γ} {f : γ → α} {handler : ε → Svc σ ℓ ε α}
    {g : α → Svc σ ℓ ε β} (hspend : ∀ s, spend l s = true → 0 < n)
    (hok : ∀ s c t, tx s = .ok (c, t) →
      (g (f c)).Solvent earn spend (n + (earn l s).toNat - (spend l s).toNat))
    (herr : ∀ s e, tx s = .error e →
      (handler e >>= g).Solvent earn spend (n + (earn l s).toNat - (spend l s).toNat)) :
    (Svc.tryCatch (f <$> Svc.transaction l tx) handler >>= g).Solvent earn spend n := by
  intro s
  refine ⟨hspend s, ?_⟩
  rcases htx : tx s with e | ⟨c, t⟩
  · simp only [htx]
    exact herr s e htx
  · simp only [htx]
    exact hok s c t htx

/-- A loop whose rounds are solvent. -/
theorem collect {xs : List β} {g : β → Svc σ ℓ ε α} (hg : ∀ x ∈ xs, (g x).Solvent earn spend 0) :
    (Svc.collect xs g).Solvent earn spend 0 := by
  induction xs with
  | nil => exact pure []
  | cons x rest ih =>
      refine bind (hg x List.mem_cons_self) fun a => ?_
      exact bind (ih fun y hy => hg y (List.mem_cons_of_mem _ hy)) fun as => pure (a :: as)

/-- A first part that is caught: the rest follows its answer, or the handler. -/
theorem tryCatch_bind {x : Svc σ ℓ ε α} {handler : ε → Svc σ ℓ ε α} {g : α → Svc σ ℓ ε β} (s : σ)
    (hx : Svc.Does (Unpriced earn spend) x) (hok : ∀ a, (g a).Solvent earn spend n)
    (hh : ∀ e, (handler e >>= g).Solvent earn spend n) : (Svc.tryCatch x handler >>= g).Solvent earn spend n := by
  refine (congrArg (Prog.Solvent earn spend n) (Prog.bind_assoc x _ _)).mpr ?_
  refine Prog.Solvent.bind_neutral (hx s) fun r => ?_
  cases r with
  | ok a => exact hok a
  | error e => exact hh e

end Solvent

end Svc

end Rules

/-- **A turn is taken once.**  If an event of a kind finds a lasting fact missing and leaves it, there is at most one. -/
theorem Path.countP_le_one {A : ℓ → σ → σ → Prop} {P : σ → Prop} {turn : Event σ ℓ → Bool}
    (hkeep : ∀ l s t, A l s t → P s → P t)
    (hturn : ∀ l s t, A l s t → turn ⟨s, l, t⟩ = true → ¬P s ∧ P t) {s t : σ} {tr : List (Event σ ℓ)}
    (h : Path A s tr t) : tr.countP turn ≤ 1 := by
  have hcount : tr.countP turn ≤ 1 ∧ (¬P t → tr.countP turn = 0) := by
    induction h with
    | nil => simp
    | @snoc u v l tr' _ hact ih =>
        simp only [List.countP_append, List.countP_singleton]
        by_cases hl : turn ⟨u, l, v⟩ = true
        · obtain ⟨hpre, hpost⟩ := hturn l u v hact hl
          simp [hl, ih.2 hpre, hpost]
        · simp only [hl, Bool.false_eq_true, if_false, add_zero]
          exact ⟨ih.1, fun hv => ih.2 fun hu => hv (hkeep l u v hact hu)⟩
  exact hcount.1

/-- **The credit rule.**  If every call starts without credit and earns before it spends, no more was spent than was
earned. -/
theorem Exec.solvent {earn spend : ℓ → σ → Bool} (hprog : ∀ c, (prog c).Solvent earn spend 0)
    {tr : List (Event σ ℓ)} {cfg : Config σ ℓ ρ} (h : Exec prog init tr cfg) :
    (tr.countP fun e => spend e.lbl e.pre) ≤ tr.countP fun e => earn e.lbl e.pre := by
  -- each call in progress holds some of what was earned and not yet spent
  have hcredit : ∃ credits : List Nat, List.Forall₂ (fun p n => p.Solvent earn spend n) cfg.pool credits ∧
      (tr.countP fun e => spend e.lbl e.pre) + credits.sum ≤ tr.countP fun e => earn e.lbl e.pre := by
    induction h with
    | init => exact ⟨[], .nil, by simp⟩
    | start c _ ih =>
        obtain ⟨credits, hpool, hsum⟩ := ih
        exact ⟨0 :: credits, .cons (hprog c) hpool, by simpa using hsum⟩
    | @run tr s before after α l f k _ ih =>
        obtain ⟨credits, hpool, hsum⟩ := ih
        have hbefore := (List.forall₂_take_append _ _ _ hpool.flip).flip
        have hrest := (List.forall₂_drop_append _ _ _ hpool.flip).flip
        rw [← List.take_append_drop before.length credits] at hsum
        cases hcut : credits.drop before.length with
        | nil =>
            rw [hcut] at hrest
            cases hrest
        | cons n credits₂ =>
            rw [hcut] at hrest hsum
            obtain ⟨hp, hafter⟩ := List.forall₂_cons.mp hrest
            obtain ⟨hspend, hnext⟩ := hp s
            refine ⟨credits.take before.length ++ (n + (earn l s).toNat - (spend l s).toNat) :: credits₂,
              List.rel_append hbefore (.cons hnext hafter), ?_⟩
            simp only [List.sum_append, List.sum_cons, List.countP_append, List.countP_singleton] at hsum ⊢
            cases hs : spend l s with
            | false => cases he : earn l s <;> simp at hsum ⊢ <;> omega
            | true =>
                have hpos := hspend hs
                cases he : earn l s <;> simp at hsum ⊢ <;> omega
  obtain ⟨credits, -, hsum⟩ := hcredit
  omega

end Interleaving
