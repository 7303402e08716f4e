import Mathlib.Logic.Relation
import Mathlib.Tactic

/-!
# Calls that interleave on a shared state

A call on a shared store is a sequence of atomic actions with local computation between them: a read, a
guarded write, a transaction.  Between two actions of one call any other call may act.  This module fixes
that semantics and gives the two rules the rest of a development needs.

* `Prog` is a call: finitely many labelled atomic actions, each continued by what it returned.
* `Exec` is the interleaving semantics: calls are started at any time and any started call may perform its
  next action; every action leaves an `Event` (state before, label, state after) in the trace.  A call that
  is never scheduled again is a process that stopped.
* `Prog.Meets R A Q` is the rely–guarantee judgment: whatever `R` does to the state between the actions, each
  action is one that `A` allows and the call ends in `Q`.  `R := Rely A` is the concurrent reading,
  `R := Eq` the undisturbed one.
* **`Exec.path`** — if every call meets `A` under the rely that `A` itself generates, then every
  interleaving of the calls is a path of `A`.  All reasoning about runs is then reasoning about paths.
* `Path.invariant`, `Path.split`, `Path.flip` are the induction over a path, the position of an event in it
  and the event at which a fact first becomes true.
* `Prog.exec` runs a call undisturbed; `runCalls` does so for a list of calls.  `Config.play` follows a given
  schedule.
-/

namespace Interleaving

variable {σ ℓ ρ κ : Type}

/-- A call: atomic actions on the shared state, each labelled, with local computation in between. -/
inductive Prog (σ ℓ ρ : Type) : Type 1
  | done (r : ρ) : Prog σ ℓ ρ
  | act {α : Type} (l : ℓ) (f : σ → α × σ) (k : α → Prog σ ℓ ρ) : Prog σ ℓ ρ

/-- What one action did: the state it found, its label and the state it left. -/
structure Event (σ ℓ : Type) where
  pre : σ
  lbl : ℓ
  post : σ

/-! ### Sequencing -/

namespace Prog

variable {ρ' : Type}

/-- Continue a call with the result of another. -/
def bind : Prog σ ℓ ρ → (ρ → Prog σ ℓ ρ') → Prog σ ℓ ρ'
  | .done r, g => g r
  | .act l f k, g => .act l f fun a => (k a).bind g

@[simp] theorem bind_done (r : ρ) (g : ρ → Prog σ ℓ ρ') : (done r : Prog σ ℓ ρ).bind g = g r := rfl

@[simp] theorem bind_act {α : Type} (l : ℓ) (f : σ → α × σ) (k : α → Prog σ ℓ ρ)
    (g : ρ → Prog σ ℓ ρ') :
    (act l f k).bind g = act l f fun a => (k a).bind g := rfl

/-- Run a call with nothing in between: its result and the state it leaves. -/
def exec : Prog σ ℓ ρ → σ → ρ × σ
  | .done r, s => (r, s)
  | .act _ f k, s => (k (f s).1).exec (f s).2

/-- The events of an undisturbed run. -/
def events : Prog σ ℓ ρ → σ → List (Event σ ℓ)
  | .done _, _ => []
  | .act l f k, s => ⟨s, l, (f s).2⟩ :: (k (f s).1).events (f s).2

@[simp] theorem exec_done (r : ρ) (s : σ) : (done r : Prog σ ℓ ρ).exec s = (r, s) := rfl

@[simp] theorem exec_act {α : Type} (l : ℓ) (f : σ → α × σ) (k : α → Prog σ ℓ ρ) (s : σ) :
    (act l f k).exec s = (k (f s).1).exec (f s).2 := rfl

theorem exec_bind (p : Prog σ ℓ ρ) (g : ρ → Prog σ ℓ ρ') (s : σ) :
    (p.bind g).exec s = (g (p.exec s).1).exec (p.exec s).2 := by
  induction p generalizing s with
  | done r => rfl
  | act l f k ih => exact ih _ _

end Prog

/-! ### Paths of an action relation -/

/-- The states linked by a sequence of allowed actions, with the events that link them. -/
inductive Path (A : ℓ → σ → σ → Prop) : σ → List (Event σ ℓ) → σ → Prop
  | nil (s : σ) : Path A s [] s
  | snoc {s t u : σ} {l : ℓ} {tr : List (Event σ ℓ)} (hpath : Path A s tr t) (hact : A l t u) :
      Path A s (tr ++ [⟨t, l, u⟩]) u

/-- What the other calls may do in the meantime: any number of allowed actions. -/
def Rely (A : ℓ → σ → σ → Prop) : σ → σ → Prop :=
  Relation.ReflTransGen fun s t => ∃ l, A l s t

namespace Rely

variable {A : ℓ → σ → σ → Prop}

theorem refl (s : σ) : Rely A s s := Relation.ReflTransGen.refl

theorem trans {s t u : σ} (h : Rely A s t) (h' : Rely A t u) : Rely A s u :=
  Relation.ReflTransGen.trans h h'

theorem single {s t : σ} {l : ℓ} (h : A l s t) : Rely A s t :=
  Relation.ReflTransGen.single ⟨l, h⟩

/-- A fact that every allowed action keeps survives any interference. -/
theorem stable {P : σ → Prop} (hP : ∀ l s t, A l s t → P s → P t) {s t : σ} (h : Rely A s t)
    (hs : P s) : P t := by
  induction h with
  | refl => exact hs
  | tail _ hact ih =>
      obtain ⟨l, hl⟩ := hact
      exact hP l _ _ hl ih

end Rely

namespace Path

variable {A : ℓ → σ → σ → Prop} {s t : σ} {tr : List (Event σ ℓ)}

theorem rely (h : Path A s tr t) : Rely A s t := by
  induction h with
  | nil => exact Rely.refl _
  | snoc _ hact ih => exact ih.trans (Rely.single hact)

theorem append {u : σ} {tr' : List (Event σ ℓ)} (h : Path A s tr t) (h' : Path A t tr' u) :
    Path A s (tr ++ tr') u := by
  induction h' with
  | nil => simpa using h
  | snoc _ hact ih =>
      rw [← List.append_assoc]
      exact Path.snoc ih hact

/-- **The run rule.**  An invariant that every allowed action keeps, possibly under a condition on the event,
holds at the end of every path all of whose events meet the condition. -/
theorem invariant {P : σ → Prop} {C : Event σ ℓ → Prop}
    (hstep : ∀ l s t, A l s t → C ⟨s, l, t⟩ → P s → P t) (h : Path A s tr t)
    (hC : ∀ e ∈ tr, C e) (hs : P s) : P t := by
  induction h with
  | nil => exact hs
  | snoc _ hact ih =>
      refine hstep _ _ _ hact (hC _ (by simp)) (ih fun e he => hC e ?_)
      exact List.mem_append_left _ he

/-- Where an event stands in a path: what led to it and what followed. -/
theorem split (h : Path A s tr t) {e : Event σ ℓ} (he : e ∈ tr) :
    ∃ tr₁ tr₂, tr = tr₁ ++ e :: tr₂ ∧ Path A s tr₁ e.pre ∧ A e.lbl e.pre e.post ∧
      Path A e.post tr₂ t := by
  induction h with
  | nil => cases he
  | @snoc t' u l tr' hpath hact ih =>
      rcases List.mem_append.mp he with hmem | hlast
      · obtain ⟨tr₁, tr₂, rfl, hbefore, hact', hafter⟩ := ih hmem
        exact ⟨tr₁, tr₂ ++ [⟨t', l, u⟩], by simp, hbefore, hact', Path.snoc hafter hact⟩
      · rw [List.mem_singleton] at hlast
        subst hlast
        exact ⟨tr', [], rfl, hpath, hact, Path.nil _⟩

theorem snoc_inv {e : Event σ ℓ} (h : Path A s (tr ++ [e]) t) :
    Path A s tr e.pre ∧ A e.lbl e.pre e.post ∧ t = e.post := by
  generalize htr : tr ++ [e] = tr' at h
  cases h with
  | nil => simp at htr
  | snoc hpath hact =>
      obtain ⟨rfl, hlast⟩ := List.append_inj' htr rfl
      cases hlast
      exact ⟨hpath, hact, rfl⟩

/-- The two parts of a path. -/
theorem split_append {tr' : List (Event σ ℓ)} (h : Path A s (tr ++ tr') t) :
    ∃ u, Path A s tr u ∧ Path A u tr' t := by
  induction tr' using List.reverseRecOn generalizing t with
  | nil => exact ⟨t, by simpa using h, Path.nil t⟩
  | append_singleton tr' e ih =>
      rw [← List.append_assoc] at h
      obtain ⟨hpath, hact, rfl⟩ := h.snoc_inv
      obtain ⟨u, hbefore, hafter⟩ := ih hpath
      exact ⟨u, hbefore, hafter.snoc hact⟩

theorem cons_inv {e : Event σ ℓ} (h : Path A s (e :: tr) t) :
    s = e.pre ∧ A e.lbl e.pre e.post ∧ Path A e.post tr t := by
  have happend : Path A s ([e] ++ tr) t := h
  obtain ⟨u, hfirst, hrest⟩ := happend.split_append
  have hsingle : Path A s ([] ++ [e]) u := hfirst
  obtain ⟨hnil, hact, rfl⟩ := hsingle.snoc_inv
  generalize hempty : ([] : List (Event σ ℓ)) = empty at hnil
  cases hnil with
  | nil => exact ⟨rfl, hact, hrest⟩
  | snoc _ _ => simp at hempty

/-- A path whose events all meet a condition is a path of the restricted action. -/
theorem restrict {C : Event σ ℓ → Prop} (h : Path A s tr t) (hC : ∀ e ∈ tr, C e) :
    Path (fun l u v => A l u v ∧ C ⟨u, l, v⟩) s tr t := by
  induction h with
  | nil => exact Path.nil _
  | snoc _ hact ih =>
      refine Path.snoc (ih fun e he => hC e ?_) ⟨hact, hC _ (by simp)⟩
      exact List.mem_append_left _ he

/-- A fact that is false at the start and true at the end becomes true at some event. -/
theorem flip {P : σ → Prop} (h : Path A s tr t) (hs : ¬ P s) (ht : P t) :
    ∃ e ∈ tr, A e.lbl e.pre e.post ∧ ¬ P e.pre ∧ P e.post := by
  induction h with
  | nil => exact absurd ht hs
  | @snoc t' u l tr' _ hact ih =>
      by_cases hmid : P t'
      · obtain ⟨e, he, hrest⟩ := ih hmid
        exact ⟨e, List.mem_append_left _ he, hrest⟩
      · exact ⟨⟨t', l, u⟩, by simp, hact, hmid, ht⟩

end Path

/-! ### The rely–guarantee judgment -/

/-- Whatever `R` does between the actions, every action of the call is allowed by `A` and the call ends in
`Q`. -/
def Prog.Meets (R : σ → σ → Prop) (A : ℓ → σ → σ → Prop) (Q : ρ → σ → Prop) :
    Prog σ ℓ ρ → σ → Prop
  | .done r, s => Q r s
  | .act l f k, s => ∀ t, R s t → A l t (f t).2 ∧ (k (f t).1).Meets R A Q (f t).2

theorem Prog.meets_done {R : σ → σ → Prop} {A : ℓ → σ → σ → Prop} {Q : ρ → σ → Prop} {r : ρ} {s : σ} :
    (done r : Prog σ ℓ ρ).Meets R A Q s ↔ Q r s := Iff.rfl

namespace Prog.Meets

variable {ρ' : Type} {R : σ → σ → Prop} {A : ℓ → σ → σ → Prop} {Q Q' : ρ → σ → Prop}

theorem mono {p : Prog σ ℓ ρ} {s : σ} (hQ : ∀ r t, Q r t → Q' r t) (h : p.Meets R A Q s) :
    p.Meets R A Q' s := by
  induction p generalizing s with
  | done r => exact hQ _ _ h
  | act l f k ih => exact fun t ht => ⟨(h t ht).1, ih _ (h t ht).2⟩

/-- Less interference, same judgment. -/
theorem weaken_rely {S : σ → σ → Prop} (hR : ∀ s t, S s t → R s t) {p : Prog σ ℓ ρ} {s : σ}
    (h : p.Meets R A Q s) : p.Meets S A Q s := by
  induction p generalizing s with
  | done r => exact h
  | act l f k ih => exact fun t ht => ⟨(h t (hR _ _ ht)).1, ih _ (h t (hR _ _ ht)).2⟩

/-- More actions allowed, same judgment. -/
theorem weaken_action {B : ℓ → σ → σ → Prop} (hA : ∀ l s t, A l s t → B l s t)
    {p : Prog σ ℓ ρ} {s : σ} (h : p.Meets R A Q s) : p.Meets R B Q s := by
  induction p generalizing s with
  | done r => exact h
  | act l f k ih => exact fun t ht => ⟨hA _ _ _ (h t ht).1, ih _ (h t ht).2⟩

/-- Two judgments hold together. -/
theorem and {A' : ℓ → σ → σ → Prop} {p : Prog σ ℓ ρ} {s : σ} (h : p.Meets R A Q s)
    (h' : p.Meets R A' Q' s) :
    p.Meets R (fun l s t => A l s t ∧ A' l s t) (fun r t => Q r t ∧ Q' r t) s := by
  induction p generalizing s with
  | done r => exact ⟨h, h'⟩
  | act l f k ih => exact fun t ht => ⟨⟨(h t ht).1, (h' t ht).1⟩, ih _ (h t ht).2 (h' t ht).2⟩

/-- The sequencing rule. -/
theorem bind {p : Prog σ ℓ ρ} {g : ρ → Prog σ ℓ ρ'} {s : σ} {Q' : ρ' → σ → Prop}
    (hp : p.Meets R A Q s) (hg : ∀ r t, Q r t → (g r).Meets R A Q' t) :
    (p.bind g).Meets R A Q' s := by
  induction p generalizing s with
  | done r => exact hg _ _ hp
  | act l f k ih => exact fun t ht => ⟨(hp t ht).1, ih _ (hp t ht).2⟩

/-- A judgment survives interference when its conclusion does. -/
theorem stable (htrans : ∀ s t u, R s t → R t u → R s u)
    (hQ : ∀ r s t, Q r s → R s t → Q r t) {p : Prog σ ℓ ρ} {s t : σ} (h : p.Meets R A Q s)
    (hst : R s t) : p.Meets R A Q t := by
  cases p with
  | done r => exact hQ _ _ _ h hst
  | act l f k => exact fun u hu => h u (htrans _ _ _ hst hu)

/-- The undisturbed run of a call that meets `A` is a path of `A` that ends in `Q`. -/
theorem exec {p : Prog σ ℓ ρ} {s : σ} (h : p.Meets Eq A Q s) :
    Path A s (p.events s) (p.exec s).2 ∧ Q (p.exec s).1 (p.exec s).2 := by
  induction p generalizing s with
  | done r => exact ⟨Path.nil _, h⟩
  | act l f k ih =>
      obtain ⟨hact, hrest⟩ := h s rfl
      obtain ⟨hpath, hQ⟩ := ih _ hrest
      exact ⟨(Path.snoc (Path.nil s) hact).append hpath, hQ⟩

end Prog.Meets

/-! ### Interleaved executions -/

/-- The shared state and the calls in progress. -/
structure Config (σ ℓ ρ : Type) : Type 1 where
  state : σ
  pool : List (Prog σ ℓ ρ)

/-- The interleavings of the calls `prog c`, with the trace of their actions. -/
inductive Exec (prog : κ → Prog σ ℓ ρ) (init : σ) : List (Event σ ℓ) → Config σ ℓ ρ → Prop
  | init : Exec prog init [] ⟨init, []⟩
  | start {tr : List (Event σ ℓ)} {cfg : Config σ ℓ ρ} (c : κ) (h : Exec prog init tr cfg) :
      Exec prog init tr ⟨cfg.state, prog c :: cfg.pool⟩
  | run {tr : List (Event σ ℓ)} {s : σ} {before after : List (Prog σ ℓ ρ)} {α : Type} {l : ℓ}
      {f : σ → α × σ} {k : α → Prog σ ℓ ρ}
      (h : Exec prog init tr ⟨s, before ++ .act l f k :: after⟩) :
      Exec prog init (tr ++ [⟨s, l, (f s).2⟩]) ⟨(f s).2, before ++ k (f s).1 :: after⟩

variable {prog : κ → Prog σ ℓ ρ} {init : σ}

/-- **Soundness of the judgment.**  If every call meets `A` under the interference `A` generates, every
interleaving is a path of `A`, and every call in progress still meets `A`. -/
theorem Exec.path {A : ℓ → σ → σ → Prop} {Q : ρ → σ → Prop}
    (hQ : ∀ r s t, Q r s → Rely A s t → Q r t)
    (hprog : ∀ c s, Rely A init s → (prog c).Meets (Rely A) A Q s)
    {tr : List (Event σ ℓ)} {cfg : Config σ ℓ ρ} (h : Exec prog init tr cfg) :
    Path A init tr cfg.state ∧ ∀ p ∈ cfg.pool, p.Meets (Rely A) A Q cfg.state := by
  have hstable : ∀ {p : Prog σ ℓ ρ} {s t : σ}, p.Meets (Rely A) A Q s →
      Rely A s t → p.Meets (Rely A) A Q t :=
    fun hp hst => hp.stable (fun _ _ _ => Rely.trans) hQ hst
  induction h with
  | init => exact ⟨Path.nil _, by simp⟩
  | start c _ ih =>
      refine ⟨ih.1, fun p hp => ?_⟩
      rcases List.mem_cons.mp hp with rfl | hp
      · exact hprog c _ ih.1.rely
      · exact ih.2 p hp
  | @run tr s before after α l f k _ ih =>
      obtain ⟨hpath, hpool⟩ := ih
      obtain ⟨hact, hrest⟩ := hpool (.act l f k) (by simp) s (Rely.refl s)
      refine ⟨Path.snoc hpath hact, fun p hp => ?_⟩
      rcases List.mem_append.mp hp with hp | hp
      · exact hstable (hpool p (by simp [hp])) (Rely.single hact)
      · rcases List.mem_cons.mp hp with rfl | hp
        · exact hrest
        · exact hstable (hpool p (by simp [hp])) (Rely.single hact)

/-- A finished call has established its conclusion. -/
theorem Exec.answered {A : ℓ → σ → σ → Prop} {Q : ρ → σ → Prop}
    (hQ : ∀ r s t, Q r s → Rely A s t → Q r t)
    (hprog : ∀ c s, Rely A init s → (prog c).Meets (Rely A) A Q s)
    {tr : List (Event σ ℓ)} {cfg : Config σ ℓ ρ} (h : Exec prog init tr cfg) {r : ρ}
    (hr : .done r ∈ cfg.pool) : Q r cfg.state :=
  (h.path hQ hprog).2 _ hr

/-- What a run has done up to any of its events is a run. -/
theorem Exec.before {tr tr' : List (Event σ ℓ)} {cfg : Config σ ℓ ρ} (h : Exec prog init (tr ++ tr') cfg) :
    ∃ cfg', Exec prog init tr cfg' := by
  generalize hall : tr ++ tr' = all at h
  induction h generalizing tr' with
  | init =>
      obtain ⟨rfl, -⟩ := List.append_eq_nil_iff.mp hall
      exact ⟨_, Exec.init⟩
  | start c _ ih => exact ih hall
  | run h ih =>
      cases tr' using List.reverseRecOn with
      | nil =>
          rw [List.append_nil] at hall
          subst hall
          exact ⟨_, Exec.run h⟩
      | append_singleton tr' e =>
          rw [← List.append_assoc] at hall
          exact ih (List.append_inj_left' hall rfl)

/-! ### Undisturbed calls -/

/-- The state after a list of calls, each run to its end before the next starts. -/
def runCalls (prog : κ → Prog σ ℓ ρ) (s : σ) : List κ → σ
  | [] => s
  | c :: cs => runCalls prog ((prog c).exec s).2 cs

@[simp] theorem runCalls_nil (s : σ) : runCalls prog s [] = s := rfl

@[simp] theorem runCalls_cons (s : σ) (c : κ) (cs : List κ) :
    runCalls prog s (c :: cs) = runCalls prog ((prog c).exec s).2 cs := rfl

/-- The events of such a run. -/
def callEvents (prog : κ → Prog σ ℓ ρ) (s : σ) : List κ → List (Event σ ℓ)
  | [] => []
  | c :: cs => (prog c).events s ++ callEvents prog ((prog c).exec s).2 cs

/-- A sequence of undisturbed calls is a path when every call alone is. -/
theorem callEvents_path {A : ℓ → σ → σ → Prop} {s₀ : σ}
    (hprog : ∀ c s, Rely A s₀ s → (prog c).Meets Eq A (fun _ _ => True) s) {s : σ}
    (hs : Rely A s₀ s) (cs : List κ) :
    Path A s (callEvents prog s cs) (runCalls prog s cs) := by
  induction cs generalizing s with
  | nil => exact Path.nil s
  | cons c cs ih =>
      have hcall := (hprog c s hs).exec.1
      exact hcall.append (ih (hs.trans hcall.rely))

/-! ### Following a schedule -/

/-- A scheduler's choice: start a call, or let the call at a position of the pool act. -/
inductive Choice (κ : Type)
  | start (c : κ)
  | run (i : Nat)

/-- The effect of one choice; choosing a finished or absent call changes nothing. -/
def Config.step (prog : κ → Prog σ ℓ ρ) (cfg : Config σ ℓ ρ) :
    Choice κ → List (Event σ ℓ) × Config σ ℓ ρ
  | .start c => ([], ⟨cfg.state, prog c :: cfg.pool⟩)
  | .run i =>
      match cfg.pool.drop i with
      | .act l f k :: after =>
          ([⟨cfg.state, l, (f cfg.state).2⟩],
            ⟨(f cfg.state).2, cfg.pool.take i ++ k (f cfg.state).1 :: after⟩)
      | _ => ([], cfg)

/-- Follow a schedule, collecting the trace. -/
def Config.play (prog : κ → Prog σ ℓ ρ) (cfg : Config σ ℓ ρ) :
    List (Choice κ) → List (Event σ ℓ) × Config σ ℓ ρ
  | [] => ([], cfg)
  | c :: cs =>
      let next := cfg.step prog c
      let rest := next.2.play prog cs
      (next.1 ++ rest.1, rest.2)

/-- Following a schedule is an interleaving. -/
theorem Exec.play {tr : List (Event σ ℓ)} {cfg : Config σ ℓ ρ} (h : Exec prog init tr cfg)
    (cs : List (Choice κ)) :
    Exec prog init (tr ++ (cfg.play prog cs).1) (cfg.play prog cs).2 := by
  induction cs generalizing tr cfg with
  | nil => simpa [Config.play] using h
  | cons c cs ih =>
      have hstep : Exec prog init (tr ++ (cfg.step prog c).1) (cfg.step prog c).2 := by
        cases c with
        | start c => simpa [Config.step] using Exec.start c h
        | run i =>
            simp only [Config.step]
            split
            · rename_i α l f k after hdrop
              have hpool : cfg.pool = cfg.pool.take i ++ .act l f k :: after := by
                rw [← hdrop, List.take_append_drop]
              exact Exec.run (by rwa [← hpool])
            · simpa using h
      have := ih hstep
      simpa [Config.play, List.append_assoc] using this

end Interleaving
