import Qift.Lib.Transaction
import Mathlib.Order.Defs.Unbundled

/-!
# What the actions of a call do, by their labels

* `Svc.Does A` — every action of a call is one that `A` allows under its label, in whatever state the others leave.
  It is closed under the ways of building a call; the rules are tagged for `grind`. `Svc.DoesOr A E` says besides that
  the call fails only with errors in `E`.
* `Exec.does` — if every call does `A`, every interleaving is a path of `A`.
* `Prog.Pays l good` — on every way to a result that is `good` the call passes an action with label `l`.
* `Exec.tolls` — the toll rule: no more calls have ended well than tolls were paid.
-/

namespace Interleaving

variable {σ ℓ ε α β ρ κ : Type}

/-- Every action of a call is one that `A` allows under its label. -/
def Svc.Does (A : ℓ → σ → σ → Prop) (x : Svc σ ℓ ε α) : Prop :=
  ∀ s, x.Ensures (fun _ _ => True) A (fun _ _ => True) s

namespace Svc.Does

variable {A : ℓ → σ → σ → Prop}

@[grind ←] theorem pure (a : α) : Svc.Does A (Pure.pure a : Svc σ ℓ ε α) := fun _ => Ensures.pure trivial

@[grind ←] theorem fail (e : ε) : Svc.Does A (Svc.fail e : Svc σ ℓ ε α) := fun _ => Ensures.fail

@[grind ←] theorem ofExcept (x : Except ε α) : Svc.Does A (Svc.ofExcept x : Svc σ ℓ ε α) := fun _ =>
  Ensures.ofExcept fun _ _ => trivial

@[grind ←] theorem ensure (c : Prop) [Decidable c] (e : ε) : Svc.Does A (Svc.ensure c e : Svc σ ℓ ε Unit) :=
  fun _ => Ensures.ensure fun _ => trivial

/-- What follows a check may use what it checked. -/
theorem guard {c : Prop} [Decidable c] {e : ε} {g : Unit → Svc σ ℓ ε α} (h : c → Svc.Does A (g ())) :
    Svc.Does A (Svc.ensure c e >>= g) := fun _ =>
  Ensures.bind (P := fun _ _ => c) (Ensures.ensure id) fun _ t hc => h hc t

theorem query {l : ℓ} (hA : ∀ s, A l s s) (f : σ → α) : Svc.Does A (Svc.query l f : Svc σ ℓ ε α) := fun _ =>
  Ensures.query (fun t _ => hA t) fun _ _ => trivial

theorem transaction {l : ℓ} {tx : Tx σ ε α} (hok : ∀ s a t, tx s = .ok (a, t) → A l s t)
    (herr : ∀ s e, tx s = .error e → A l s s) : Svc.Does A (Svc.transaction l tx) := by
  intro s t _
  rcases htx : tx t with e | ⟨a, u⟩
  · simp only [htx]
    exact ⟨herr t e htx, by rintro b ⟨⟩⟩
  · simp only [htx]
    exact ⟨hok t a u htx, by rintro b ⟨⟩; trivial⟩

@[grind ←] theorem bind {x : Svc σ ℓ ε α} {g : α → Svc σ ℓ ε β} (hx : Svc.Does A x)
    (hg : ∀ a, Svc.Does A (g a)) : Svc.Does A (x >>= g) := fun s => Ensures.bind (hx s) fun a t _ => hg a t

@[grind ←] theorem tryCatch {x : Svc σ ℓ ε α} {handler : ε → Svc σ ℓ ε α} (hx : Svc.Does A x)
    (hh : ∀ e, Svc.Does A (handler e)) : Svc.Does A (Svc.tryCatch x handler) := by
  intro s
  refine Prog.Meets.bind (hx s) fun r t _ => ?_
  cases r with
  | ok a => exact Ensures.pure trivial
  | error e => exact hh e t

@[grind ←] theorem forEach {xs : List β} {g : β → Svc σ ℓ ε Unit} (hg : ∀ x, Svc.Does A (g x)) :
    Svc.Does A (Svc.forEach xs g) := by
  induction xs with
  | nil => exact pure ()
  | cons x rest ih => exact bind (hg x) fun _ => ih

theorem collect {xs : List β} {g : β → Svc σ ℓ ε α} (hg : ∀ x, Svc.Does A (g x)) :
    Svc.Does A (Svc.collect xs g) := by
  induction xs with
  | nil => exact pure []
  | cons x rest ih => exact bind (hg x) fun _ => bind ih fun _ => pure _

theorem mono {A' : ℓ → σ → σ → Prop} (hA : ∀ l s t, A l s t → A' l s t) {x : Svc σ ℓ ε α} (h : Svc.Does A x) :
    Svc.Does A' x := fun s => (h s).weaken_action hA

end Svc.Does

/-- Every action of a call is one that `A` allows under its label, and the call fails only with errors in `E`. -/
def Svc.DoesOr (A : ℓ → σ → σ → Prop) (E : ε → Prop) (x : Svc σ ℓ ε α) : Prop :=
  ∀ s, Prog.Meets (fun _ _ => True) A (fun r _ => ∀ e, r = .error e → E e) x s

namespace Svc.DoesOr

variable {A : ℓ → σ → σ → Prop} {E : ε → Prop}

theorem pure (a : α) : Svc.DoesOr A E (Pure.pure a : Svc σ ℓ ε α) := fun _ e he => by cases he

theorem fail {e : ε} (h : E e) : Svc.DoesOr A E (Svc.fail e : Svc σ ℓ ε α) := by
  intro _ e' he'
  cases he'
  exact h

theorem ensure (c : Prop) [Decidable c] {e : ε} (h : E e) : Svc.DoesOr A E (Svc.ensure c e : Svc σ ℓ ε Unit) := by
  unfold Svc.ensure
  split
  · exact pure ()
  · exact fail h

theorem query {l : ℓ} (hA : ∀ s, A l s s) (f : σ → α) : Svc.DoesOr A E (Svc.query l f : Svc σ ℓ ε α) :=
  fun _ t _ => ⟨hA t, fun e he => by cases he⟩

theorem bind {x : Svc σ ℓ ε α} {g : α → Svc σ ℓ ε β} (hx : Svc.DoesOr A E x) (hg : ∀ a, Svc.DoesOr A E (g a)) :
    Svc.DoesOr A E (x >>= g) := by
  intro s
  refine Prog.Meets.bind (hx s) fun r t hr => ?_
  cases r with
  | ok a => exact hg a t
  | error e =>
      intro e' he'
      cases he'
      exact hr e rfl

/-- The handler decides what a caught call fails with. -/
theorem tryCatch {x : Svc σ ℓ ε α} {handler : ε → Svc σ ℓ ε α} (hx : Svc.Does A x)
    (hh : ∀ e, Svc.DoesOr A E (handler e)) : Svc.DoesOr A E (Svc.tryCatch x handler) := by
  intro s
  refine Prog.Meets.bind (hx s) fun r t _ => ?_
  cases r with
  | ok a => exact pure a t
  | error e => exact hh e t

theorem does {x : Svc σ ℓ ε α} (h : Svc.DoesOr A E x) : Svc.Does A x := fun s =>
  (h s).mono fun _ _ _ _ _ => trivial

end Svc.DoesOr

variable {prog : κ → Svc σ ℓ ε α} {init : σ}

/-- **Every interleaving of calls that do `A` is a path of `A`.** -/
theorem Exec.does {A : ℓ → σ → σ → Prop} (hprog : ∀ c, Svc.Does A (prog c)) {tr : List (Event σ ℓ)}
    {cfg : Config σ ℓ (Except ε α)} (h : Exec prog init tr cfg) : Path A init tr cfg.state := by
  refine (h.path (A := A) (Q := fun _ _ => True) (fun _ _ _ _ _ => trivial) fun c s _ => ?_).1
  exact (Prog.Meets.weaken_rely (fun _ _ _ => trivial) (hprog c s)).mono fun _ _ _ => trivial

/-! ### Tolls -/

namespace Prog

/-- On every way to a result that is good the call passes an action with label `l`. -/
def Pays (l : ℓ) (good : ρ → Bool) : Prog σ ℓ ρ → Prop
  | .done r => good r = false
  | .act l' _ k => l' = l ∨ ∀ a, (k a).Pays l good

/-- The call has ended with a good result. -/
def ended (good : ρ → Bool) : Prog σ ℓ ρ → Bool
  | .done r => good r
  | .act _ _ _ => false

variable {ρ' : Type} {l : ℓ} {good : ρ → Bool} {good' : ρ' → Bool}

theorem Pays.not_ended {p : Prog σ ℓ ρ} (h : p.Pays l good) : p.ended good = false := by
  cases p with
  | done r => exact h
  | act l' f k => rfl

/-- The rest pays, whatever comes first. -/
theorem Pays.bind {p : Prog σ ℓ ρ} {g : ρ → Prog σ ℓ ρ'} (h : ∀ r, (g r).Pays l good') :
    (p.bind g).Pays l good' := by
  induction p with
  | done r => exact h r
  | act l' f k ih => exact Or.inr ih

/-- The first part pays unless it ends so that the rest pays. -/
theorem Pays.bind_left {p : Prog σ ℓ ρ} {g : ρ → Prog σ ℓ ρ'} (hp : p.Pays l good)
    (h : ∀ r, good r = false → (g r).Pays l good') : (p.bind g).Pays l good' := by
  induction p with
  | done r => exact h r hp
  | act l' f k ih =>
      rcases hp with hl | hk
      · exact Or.inl hl
      · exact Or.inr fun a => ih a (hk a)

end Prog

namespace Svc

variable {l : ℓ} {good : Except ε α → Bool} {good' : Except ε β → Bool}

/-- A call passes an action with label `l` on every way to a good result. -/
def Pays (l : ℓ) (good : Except ε α → Bool) (x : Svc σ ℓ ε α) : Prop := Prog.Pays l good x

theorem Pays.fail {e : ε} (h : good (.error e) = false) : Svc.Pays l good (Svc.fail e : Svc σ ℓ ε α) := h

/-- The rest pays, whatever comes first. -/
theorem Pays.bind {x : Svc σ ℓ ε α} {g : α → Svc σ ℓ ε β} (herr : ∀ e, good' (.error e) = false)
    (h : ∀ a, Svc.Pays l good' (g a)) : Svc.Pays l good' (x >>= g) := by
  refine Prog.Pays.bind fun r => ?_
  cases r with
  | ok a => exact h a
  | error e => exact herr e

/-- The first part pays wherever the rest does not. -/
theorem Pays.bind_left {x : Svc σ ℓ ε α} {g : α → Svc σ ℓ ε β} (herr : ∀ e, good' (.error e) = false)
    (hx : Svc.Pays l good x) (h : ∀ a, good (.ok a) = false → Svc.Pays l good' (g a)) :
    Svc.Pays l good' (x >>= g) := by
  refine Prog.Pays.bind_left hx fun r hr => ?_
  cases r with
  | ok a => exact h a hr
  | error e => exact herr e

end Svc

/-- **The toll rule.**  No more calls have ended well than tolls were paid. -/
theorem Exec.tolls {prog : κ → Prog σ ℓ ρ} [DecidableEq ℓ] {l : ℓ} {good : ρ → Bool}
    (hprog : ∀ c, (prog c).Pays l good) {tr : List (Event σ ℓ)} {cfg : Config σ ℓ ρ} (h : Exec prog init tr cfg) :
    cfg.pool.countP (Prog.ended good) ≤ tr.countP fun e => e.lbl = l := by
  classical
  -- a call that has ended well has paid, and a call that has paid is charged to one toll
  have hpaid : cfg.pool.countP (fun p => !decide (p.Pays l good)) ≤ tr.countP fun e => e.lbl = l := by
    induction h with
    | init => simp
    | start c _ ih => simpa [hprog c] using ih
    | @run tr s before after α l' f k _ ih =>
        simp only [List.countP_append, List.countP_cons, List.countP_nil] at ih ⊢
        by_cases hl : l' = l
        · simp only [hl, decide_true, if_true]
          split <;> omega
        · by_cases hpays : (Prog.act l' f k).Pays l good
          · have hnext : (k (f s).1).Pays l good := (hpays.resolve_left hl) _
            simp only [hnext, hpays, decide_true, Bool.not_true, hl, decide_false] at ih ⊢
            simpa using ih
          · simp only [hpays, decide_false, Bool.not_false, if_true, hl] at ih ⊢
            simp only [Bool.false_eq_true, if_false]
            split <;> omega
  refine le_trans (List.countP_mono_left fun p _ hp => ?_) hpaid
  simp only [Bool.not_eq_true', decide_eq_false_iff_not]
  intro hpays
  rw [hpays.not_ended] at hp
  cases hp

end Interleaving
