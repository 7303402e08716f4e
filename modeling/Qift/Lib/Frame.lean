import Qift.Lib.Transaction
import Mathlib.Order.Defs.Unbundled

/-!
# What a call leaves alone

* `Tx.Keeps R` — a transaction that succeeds moves the state along `R`; `Svc.Keeps R` — so does every action of a
  call, in whatever state the others leave.
* For a preorder both are closed under the ways of building a body or a call, and the rules are tagged for `grind`:
  the frame of a service is found from the frames of the services it calls.
-/

namespace Interleaving

variable {σ ℓ ε α β : Type}

/-- A body that succeeds moves the state along a relation. -/
def Tx.Keeps (R : σ → σ → Prop) (tx : Tx σ ε α) : Prop := ∀ s a t, tx s = .ok (a, t) → R s t

namespace Tx.Keeps

variable {R R' : σ → σ → Prop}

theorem mono (hR : ∀ s t, R s t → R' s t) {tx : Tx σ ε α} (h : Tx.Keeps R tx) : Tx.Keeps R' tx :=
  fun s a t htx => hR s t (h s a t htx)

/-- The sequencing rule for relations that compose. -/
theorem comp {S : σ → σ → Prop} (hS : ∀ s t u, R s t → R' t u → S s u) {x : Tx σ ε α} {g : α → Tx σ ε β}
    (hx : Tx.Keeps R x) (hg : ∀ a, Tx.Keeps R' (g a)) : Tx.Keeps S (x >>= g) := by
  intro s b u h
  obtain ⟨a, t, hfirst, hrest⟩ := Tx.bind_eq_ok.mp h
  exact hS s t u (hx s a t hfirst) (hg a t b u hrest)

@[grind ←] theorem fail (e : ε) : Tx.Keeps R (Tx.fail e : Tx σ ε α) := by
  intro s a t h
  cases h

section Reflexive

variable [Std.Refl R]

@[grind ←] theorem pure (a : α) : Tx.Keeps R (Pure.pure a : Tx σ ε α) := by
  intro s b t h
  cases h
  exact refl_of R s

@[grind ←] theorem read (f : σ → α) : Tx.Keeps R (Tx.read f : Tx σ ε α) := by
  intro s b t h
  cases h
  exact refl_of R s

@[grind ←] theorem ensure (c : Prop) [Decidable c] (e : ε) : Tx.Keeps R (Tx.ensure c e : Tx σ ε Unit) := by
  intro s a t h
  obtain ⟨-, rfl⟩ := Tx.ensure_eq_ok.mp h
  exact refl_of R s

@[grind ←] theorem ofExcept (x : Except ε α) : Tx.Keeps R (Tx.ofExcept x : Tx σ ε α) := by
  intro s a t h
  obtain ⟨-, rfl⟩ := Tx.ofExcept_eq_ok.mp h
  exact refl_of R s

end Reflexive

section Preorder

variable [Std.Refl R] [IsTrans σ R]

omit [Std.Refl R] in
@[grind ←] theorem bind {x : Tx σ ε α} {g : α → Tx σ ε β} (hx : Tx.Keeps R x)
    (hg : ∀ a, Tx.Keeps R (g a)) : Tx.Keeps R (x >>= g) := by
  have hcomp : ∀ s t u, R s t → R t u → R s u := fun _ _ _ => trans_of R
  exact comp hcomp hx hg

@[grind ←] theorem forEach {xs : List β} {g : β → Tx σ ε Unit} (hg : ∀ x, Tx.Keeps R (g x)) :
    Tx.Keeps R (Tx.forEach xs g) := by
  induction xs with
  | nil => exact pure ()
  | cons x rest ih => exact bind (hg x) fun _ => ih

end Preorder

end Tx.Keeps

/-- Every action of a call moves the state along a relation. -/
def Svc.Keeps (R : σ → σ → Prop) (x : Svc σ ℓ ε α) : Prop :=
  ∀ s, x.Ensures (fun _ _ => True) (fun _ => R) (fun _ _ => True) s

namespace Svc.Keeps

variable {R : σ → σ → Prop}

/-- A call that keeps a relation meets every action it is a part of, under any interference. -/
theorem meets {A : ℓ → σ → σ → Prop} (hA : ∀ l s t, R s t → A l s t) {x : Svc σ ℓ ε α} (h : Svc.Keeps R x)
    (S : σ → σ → Prop) (s : σ) : x.Ensures S A (fun _ _ => True) s :=
  ((Prog.Meets.weaken_rely (fun _ _ _ => trivial) (h s)).weaken_action hA).mono fun _ _ _ _ _ => trivial

@[grind ←] theorem pure (a : α) : Svc.Keeps R (Pure.pure a : Svc σ ℓ ε α) := fun _ =>
  Ensures.pure trivial

@[grind ←] theorem fail (e : ε) : Svc.Keeps R (Svc.fail e : Svc σ ℓ ε α) := fun _ => Ensures.fail

@[grind ←] theorem ofExcept (x : Except ε α) : Svc.Keeps R (Svc.ofExcept x : Svc σ ℓ ε α) := fun _ =>
  Ensures.ofExcept fun _ _ => trivial

@[grind ←] theorem ensure (c : Prop) [Decidable c] (e : ε) :
    Svc.Keeps R (Svc.ensure c e : Svc σ ℓ ε Unit) := fun _ => Ensures.ensure fun _ => trivial

@[grind ←] theorem query [Std.Refl R] (l : ℓ) (f : σ → α) : Svc.Keeps R (Svc.query l f : Svc σ ℓ ε α) :=
  fun _ => Ensures.query (fun t _ => refl_of R t) fun _ _ => trivial

@[grind ←] theorem transaction [Std.Refl R] {l : ℓ} {tx : Tx σ ε α} (h : Tx.Keeps R tx) :
    Svc.Keeps R (Svc.transaction l tx) := fun _ =>
  Ensures.transaction (fun t _ => refl_of R t) fun t a u _ htx => ⟨h t a u htx, trivial⟩

@[grind ←] theorem bind {x : Svc σ ℓ ε α} {g : α → Svc σ ℓ ε β} (hx : Svc.Keeps R x)
    (hg : ∀ a, Svc.Keeps R (g a)) : Svc.Keeps R (x >>= g) := fun s =>
  Ensures.bind (hx s) fun a t _ => hg a t

@[grind ←] theorem tryCatch {x : Svc σ ℓ ε α} {handler : ε → Svc σ ℓ ε α} (hx : Svc.Keeps R x)
    (hh : ∀ e, Svc.Keeps R (handler e)) : Svc.Keeps R (Svc.tryCatch x handler) := by
  intro s
  refine Prog.Meets.bind (hx s) fun r t _ => ?_
  cases r with
  | ok a => exact Ensures.pure trivial
  | error e => exact hh e t

@[grind ←] theorem forEach {xs : List β} {g : β → Svc σ ℓ ε Unit} (hg : ∀ x, Svc.Keeps R (g x)) :
    Svc.Keeps R (Svc.forEach xs g) := by
  induction xs with
  | nil => exact pure ()
  | cons x rest ih => exact bind (hg x) fun _ => ih

@[grind ←] theorem collect {xs : List β} {g : β → Svc σ ℓ ε α} (hg : ∀ x, Svc.Keeps R (g x)) :
    Svc.Keeps R (Svc.collect xs g) := by
  induction xs with
  | nil => exact pure []
  | cons x rest ih => exact bind (hg x) fun _ => bind ih fun _ => pure _

/-- An undisturbed call moves the state along a preorder. -/
theorem exec [Std.Refl R] [IsTrans σ R] {x : Svc σ ℓ ε α} (h : Svc.Keeps R x) (s : σ) : R s (x.exec s).2 := by
  have hmeets := (Prog.Meets.weaken_rely (fun _ _ _ => trivial) (h s) : Prog.Meets Eq _ _ _ _)
  have hrely := hmeets.exec.1.rely
  refine Rely.stable (P := fun t => R s t) (fun _ t u htu hst => ?_) hrely (refl_of R s)
  exact trans_of R hst htu

end Svc.Keeps

end Interleaving
