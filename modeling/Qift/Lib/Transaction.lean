import Qift.Lib.Interleaving

/-!
# Fallible transactions and service calls

Two small monads over the interleaving semantics, as a service layer on a database has them.

* `Tx σ ε α` is the body of a transaction: a state change that either succeeds as a whole or fails and leaves
  nothing behind.
* `Svc σ ℓ ε α` is a service call: reads and transactions, each one atomic action, with failures that end the
  call unless they are caught.
* `Tx.bind_eq_ok` peels a successful body into its steps; `Svc.exec_bind` does so for an undisturbed call.
* `Svc.Indistinct` compares the undisturbed runs of a call from two states.
* `Svc.Ensures` is the rely–guarantee judgment with a postcondition on success only, with one rule for each
  way of building a call.
-/

namespace Interleaving

variable {σ ℓ ε α β : Type}

/-! ### Transactions -/

/-- The body of a transaction. -/
def Tx (σ ε α : Type) : Type := σ → Except ε (α × σ)

namespace Tx

instance : Monad (Tx σ ε) where
  pure a := fun s => .ok (a, s)
  bind x g := fun s =>
    match x s with
    | .ok (a, t) => g a t
    | .error e => .error e

/-- Refuse; the transaction rolls back. -/
def fail (e : ε) : Tx σ ε α := fun _ => .error e

/-- Read something of the current state. -/
def read (f : σ → α) : Tx σ ε α := fun s => .ok (f s, s)

/-- Write the state. -/
def modify (f : σ → σ) : Tx σ ε Unit := fun s => .ok ((), f s)

/-- Refuse unless a condition holds. -/
def ensure (c : Prop) [Decidable c] (e : ε) : Tx σ ε Unit :=
  fun s => if c then .ok ((), s) else .error e

/-- A pure computation that may fail. -/
def ofExcept (x : Except ε α) : Tx σ ε α := fun s => x.map fun a => (a, s)

/-- Run a body for every element of a list, in order. -/
def forEach (xs : List β) (g : β → Tx σ ε Unit) : Tx σ ε Unit :=
  match xs with
  | [] => pure ()
  | x :: rest => g x >>= fun _ => forEach rest g

theorem bind_eq_ok {x : Tx σ ε α} {g : α → Tx σ ε β} {s u : σ} {b : β} :
    (x >>= g) s = .ok (b, u) ↔ ∃ a t, x s = .ok (a, t) ∧ g a t = .ok (b, u) := by
  change (match x s with | .ok (a, t) => g a t | .error e => .error e) = _ ↔ _
  rcases x s with e | ⟨a, t⟩
  · simp
  · simp

theorem bind_eq_error {x : Tx σ ε α} {g : α → Tx σ ε β} {s : σ} {e : ε} :
    (x >>= g) s = .error e ↔ x s = .error e ∨ ∃ a t, x s = .ok (a, t) ∧ g a t = .error e := by
  change (match x s with | .ok (a, t) => g a t | .error e => .error e) = _ ↔ _
  rcases x s with e | ⟨a, t⟩
  · simp
  · simp

@[simp] theorem pure_ne_error {a : α} {s : σ} {e : ε} :
    (pure a : Tx σ ε α) s = .error e ↔ False := by
  change Except.ok (a, s) = _ ↔ _
  simp

@[simp] theorem read_ne_error {f : σ → α} {s : σ} {e : ε} :
    (read f : Tx σ ε α) s = .error e ↔ False := by
  simp [read]

@[simp] theorem modify_ne_error {f : σ → σ} {s : σ} {e : ε} :
    (modify f : Tx σ ε Unit) s = .error e ↔ False := by
  simp [modify]

@[simp] theorem fail_eq_error {e e' : ε} {s : σ} :
    (fail e : Tx σ ε α) s = .error e' ↔ e = e' := by
  simp [fail]

@[simp] theorem ensure_eq_error {c : Prop} [Decidable c] {e e' : ε} {s : σ} :
    (ensure c e : Tx σ ε Unit) s = .error e' ↔ ¬c ∧ e = e' := by
  by_cases h : c <;> simp [ensure, h]

@[simp] theorem pure_eq_ok {a b : α} {s t : σ} :
    (pure a : Tx σ ε α) s = .ok (b, t) ↔ a = b ∧ s = t := by
  change Except.ok (a, s) = _ ↔ _
  simp

@[simp] theorem fail_eq_ok {e : ε} {b : α} {s t : σ} :
    (fail e : Tx σ ε α) s = .ok (b, t) ↔ False := by
  simp [fail]

@[simp] theorem read_eq_ok {f : σ → α} {b : α} {s t : σ} :
    (read f : Tx σ ε α) s = .ok (b, t) ↔ f s = b ∧ s = t := by
  simp [read]

@[simp] theorem modify_eq_ok {f : σ → σ} {b : Unit} {s t : σ} :
    (modify f : Tx σ ε Unit) s = .ok (b, t) ↔ f s = t := by
  simp [modify]

@[simp] theorem ensure_eq_ok {c : Prop} [Decidable c] {e : ε} {b : Unit} {s t : σ} :
    (ensure c e : Tx σ ε Unit) s = .ok (b, t) ↔ c ∧ s = t := by
  by_cases h : c <;> simp [ensure, h]

@[simp] theorem ofExcept_eq_ok {x : Except ε α} {b : α} {s t : σ} :
    (ofExcept x : Tx σ ε α) s = .ok (b, t) ↔ x = .ok b ∧ s = t := by
  cases x with
  | error e => simp [ofExcept, Except.map]
  | ok a => simp [ofExcept, Except.map]

@[simp] theorem forEach_nil (g : β → Tx σ ε Unit) : forEach [] g = pure () := rfl

theorem forEach_cons_eq_ok {x : β} {rest : List β} {g : β → Tx σ ε Unit} {s u : σ} {b : Unit} :
    forEach (x :: rest) g s = .ok (b, u) ↔
      ∃ t, g x s = .ok ((), t) ∧ forEach rest g t = .ok (b, u) := by
  change (g x >>= fun _ => forEach rest g) s = _ ↔ _
  rw [bind_eq_ok]
  constructor
  · rintro ⟨_, t, hg, hrest⟩
    exact ⟨t, hg, hrest⟩
  · rintro ⟨t, hg, hrest⟩
    exact ⟨(), t, hg, hrest⟩

end Tx

/-! ### Service calls -/

/-- A service call: atomic actions with failures. -/
def Svc (σ ℓ ε α : Type) : Type 1 := Prog σ ℓ (Except ε α)

namespace Svc

instance : Monad (Svc σ ℓ ε) where
  pure a := Prog.done (.ok a)
  bind x g := Prog.bind x fun r =>
    match r with
    | .ok a => g a
    | .error e => Prog.done (.error e)

/-- End the call with a failure. -/
def fail (e : ε) : Svc σ ℓ ε α := Prog.done (.error e)

/-- One read of the shared state. -/
def query (l : ℓ) (f : σ → α) : Svc σ ℓ ε α :=
  Prog.act l (fun s => (f s, s)) fun a => Prog.done (.ok a)

/-- One transaction: it commits as a whole or leaves the state as it was. -/
def transaction (l : ℓ) (tx : Tx σ ε α) : Svc σ ℓ ε α :=
  Prog.act l
    (fun s =>
      match tx s with
      | .ok (a, t) => (.ok a, t)
      | .error e => (.error e, s))
    Prog.done

/-- End the call with a failure unless a condition holds. -/
def ensure (c : Prop) [Decidable c] (e : ε) : Svc σ ℓ ε Unit :=
  if c then pure () else fail e

/-- A pure computation that may fail. -/
def ofExcept (x : Except ε α) : Svc σ ℓ ε α := Prog.done x

/-- Handle a failure. -/
def tryCatch (x : Svc σ ℓ ε α) (handler : ε → Svc σ ℓ ε α) : Svc σ ℓ ε α :=
  Prog.bind x fun r =>
    match r with
    | .ok a => Prog.done (.ok a)
    | .error e => handler e

/-- Run a call for every element of a list, in order. -/
def forEach (xs : List β) (g : β → Svc σ ℓ ε Unit) : Svc σ ℓ ε Unit :=
  match xs with
  | [] => pure ()
  | x :: rest => g x >>= fun _ => forEach rest g

/-- Collect the results of a call for every element of a list, in order. -/
def collect (xs : List β) (g : β → Svc σ ℓ ε α) : Svc σ ℓ ε (List α) :=
  match xs with
  | [] => pure []
  | x :: rest => g x >>= fun a => collect rest g >>= fun as => pure (a :: as)

/-! #### Undisturbed runs -/

/-- The undisturbed run of a call. -/
def exec (x : Svc σ ℓ ε α) (s : σ) : Except ε α × σ := Prog.exec x s

@[simp] theorem exec_pure (a : α) (s : σ) : (pure a : Svc σ ℓ ε α).exec s = (.ok a, s) := rfl

@[simp] theorem exec_fail (e : ε) (s : σ) : (fail e : Svc σ ℓ ε α).exec s = (.error e, s) := rfl

@[simp] theorem exec_query (l : ℓ) (f : σ → α) (s : σ) :
    (query l f : Svc σ ℓ ε α).exec s = (.ok (f s), s) := rfl

@[simp] theorem exec_ofExcept (x : Except ε α) (s : σ) :
    (ofExcept x : Svc σ ℓ ε α).exec s = (x, s) := rfl

theorem exec_ofExcept_ok {x : Except ε α} {a : α} {s t : σ} :
    (ofExcept x : Svc σ ℓ ε α).exec s = (.ok a, t) ↔ x = .ok a ∧ s = t := by
  rw [exec_ofExcept, Prod.mk.injEq]

theorem exec_ensure (c : Prop) [Decidable c] (e : ε) (s : σ) :
    (ensure c e : Svc σ ℓ ε Unit).exec s = (if c then .ok () else .error e, s) := by
  by_cases h : c
  · rw [ensure, if_pos h, if_pos h, exec_pure]
  · rw [ensure, if_neg h, if_neg h, exec_fail]

theorem exec_transaction (l : ℓ) (tx : Tx σ ε α) (s : σ) :
    (transaction l tx : Svc σ ℓ ε α).exec s =
      match tx s with
      | .ok (a, t) => (.ok a, t)
      | .error e => (.error e, s) := rfl

theorem exec_bind (x : Svc σ ℓ ε α) (g : α → Svc σ ℓ ε β) (s : σ) :
    (x >>= g).exec s =
      match x.exec s with
      | (.ok a, t) => (g a).exec t
      | (.error e, t) => (.error e, t) := by
  refine (Prog.exec_bind x _ s).trans ?_
  unfold exec
  rcases Prog.exec x s with ⟨r, t⟩
  cases r <;> rfl

theorem exec_bind_ok {x : Svc σ ℓ ε α} {g : α → Svc σ ℓ ε β} {s u : σ} {b : β} :
    (x >>= g).exec s = (.ok b, u) ↔
      ∃ a t, x.exec s = (.ok a, t) ∧ (g a).exec t = (.ok b, u) := by
  rw [exec_bind]
  rcases hx : x.exec s with ⟨r, t⟩
  cases r with
  | error e => simp
  | ok a => simp

theorem exec_bind_error {x : Svc σ ℓ ε α} {g : α → Svc σ ℓ ε β} {s u : σ} {e : ε} :
    (x >>= g).exec s = (.error e, u) ↔
      x.exec s = (.error e, u) ∨ ∃ a t, x.exec s = (.ok a, t) ∧ (g a).exec t = (.error e, u) := by
  rw [exec_bind]
  rcases hx : x.exec s with ⟨r, t⟩
  cases r with
  | error e => simp
  | ok a => simp

theorem exec_tryCatch (x : Svc σ ℓ ε α) (handler : ε → Svc σ ℓ ε α) (s : σ) :
    (tryCatch x handler).exec s =
      match x.exec s with
      | (.ok a, t) => (.ok a, t)
      | (.error e, t) => (handler e).exec t := by
  refine (Prog.exec_bind x _ s).trans ?_
  unfold exec
  rcases Prog.exec x s with ⟨r, t⟩
  cases r <;> rfl

theorem exec_transaction_ok {l : ℓ} {tx : Tx σ ε α} {s t : σ} {a : α} :
    (transaction l tx : Svc σ ℓ ε α).exec s = (.ok a, t) ↔ tx s = .ok (a, t) := by
  rw [exec_transaction]
  rcases htx : tx s with e | ⟨b, u⟩
  · simp
  · simp

theorem exec_ensure_ok {c : Prop} [Decidable c] {e : ε} {s t : σ} {a : Unit} :
    (ensure c e : Svc σ ℓ ε Unit).exec s = (.ok a, t) ↔ c ∧ s = t := by
  rw [exec_ensure]
  by_cases h : c <;> simp [h]

/-! #### Two states -/

/-- The call answers the same in two states, and changes neither. -/
def Indistinct (x : Svc σ ℓ ε α) (s t : σ) : Prop := ∃ r, x.exec s = (r, s) ∧ x.exec t = (r, t)

namespace Indistinct

variable {s t : σ}

theorem pure (a : α) : (Pure.pure a : Svc σ ℓ ε α).Indistinct s t := ⟨.ok a, rfl, rfl⟩

theorem fail (e : ε) : (Svc.fail e : Svc σ ℓ ε α).Indistinct s t := ⟨.error e, rfl, rfl⟩

theorem query {l : ℓ} {f : σ → α} (h : f s = f t) : (Svc.query l f : Svc σ ℓ ε α).Indistinct s t :=
  ⟨.ok (f s), rfl, by rw [exec_query, h]⟩

theorem bind {x : Svc σ ℓ ε α} {g : α → Svc σ ℓ ε β} (hx : x.Indistinct s t) (hg : ∀ a, (g a).Indistinct s t) :
    (x >>= g).Indistinct s t := by
  obtain ⟨r, hs, ht⟩ := hx
  cases r with
  | error e => exact ⟨.error e, by rw [exec_bind, hs], by rw [exec_bind, ht]⟩
  | ok a =>
      obtain ⟨r, hs', ht'⟩ := hg a
      refine ⟨r, ?_, ?_⟩
      · rw [exec_bind, hs]
        exact hs'
      · rw [exec_bind, ht]
        exact ht'

theorem map {x : Svc σ ℓ ε α} (f : α → β) (hx : x.Indistinct s t) : (f <$> x).Indistinct s t :=
  bind hx fun a => pure (f a)

theorem reply {x : Svc σ ℓ ε α} (h : x.Indistinct s t) : (x.exec s).1 = (x.exec t).1 := by
  obtain ⟨r, hs, ht⟩ := h
  rw [hs, ht]

end Indistinct

/-! #### The judgment -/

/-- Under interference `R`, every action of the call is allowed by `A`, and success establishes `P`. -/
def Ensures (R : σ → σ → Prop) (A : ℓ → σ → σ → Prop) (P : α → σ → Prop) (x : Svc σ ℓ ε α)
    (s : σ) : Prop :=
  Prog.Meets R A (fun r t => ∀ a, r = .ok a → P a t) x s

namespace Ensures

variable {R : σ → σ → Prop} {A : ℓ → σ → σ → Prop} {P P' : α → σ → Prop} {s : σ}

theorem meets {x : Svc σ ℓ ε α} (h : x.Ensures R A P s) :
    Prog.Meets R A (fun _ _ => True) x s :=
  Prog.Meets.mono (fun _ _ _ => trivial) h

theorem mono {x : Svc σ ℓ ε α} (hP : ∀ a t, P a t → P' a t) (h : x.Ensures R A P s) :
    x.Ensures R A P' s :=
  Prog.Meets.mono (fun _ _ hr a ha => hP a _ (hr a ha)) h

theorem pure {a : α} (h : P a s) : (Pure.pure a : Svc σ ℓ ε α).Ensures R A P s := by
  rintro b ⟨⟩
  exact h

theorem fail {e : ε} : (Svc.fail e : Svc σ ℓ ε α).Ensures R A P s := by
  rintro b ⟨⟩

theorem ofExcept {x : Except ε α} (h : ∀ a, x = .ok a → P a s) :
    (Svc.ofExcept x : Svc σ ℓ ε α).Ensures R A P s := h

theorem ensure {c : Prop} [Decidable c] {e : ε} {P : Unit → σ → Prop} (h : c → P () s) :
    (Svc.ensure c e : Svc σ ℓ ε Unit).Ensures R A P s := by
  by_cases hc : c
  · rw [Svc.ensure, if_pos hc]
    exact Ensures.pure (h hc)
  · rw [Svc.ensure, if_neg hc]
    exact Ensures.fail

theorem query {l : ℓ} {f : σ → α} (hA : ∀ t, R s t → A l t t) (hP : ∀ t, R s t → P (f t) t) :
    (Svc.query l f : Svc σ ℓ ε α).Ensures R A P s := by
  intro t ht
  refine ⟨hA t ht, ?_⟩
  rintro a ⟨⟩
  exact hP t ht

theorem transaction {l : ℓ} {tx : Tx σ ε α} (hidle : ∀ t, R s t → A l t t)
    (hok : ∀ t a u, R s t → tx t = .ok (a, u) → A l t u ∧ P a u) :
    (Svc.transaction l tx : Svc σ ℓ ε α).Ensures R A P s := by
  intro t ht
  rcases htx : tx t with e | ⟨a, u⟩
  · simp only [htx]
    exact ⟨hidle t ht, by rintro b ⟨⟩⟩
  · simp only [htx]
    obtain ⟨hact, hpost⟩ := hok t a u ht htx
    exact ⟨hact, by rintro b ⟨⟩; exact hpost⟩

theorem bind {x : Svc σ ℓ ε α} {g : α → Svc σ ℓ ε β} {P' : β → σ → Prop}
    (hx : x.Ensures R A P s) (hg : ∀ a t, P a t → (g a).Ensures R A P' t) :
    (x >>= g).Ensures R A P' s := by
  refine Prog.Meets.bind hx fun r t hr => ?_
  cases r with
  | ok a => exact hg a t (hr a rfl)
  | error e => rintro b ⟨⟩

/-- A call reaches only states its own actions and the interference lead to. -/
theorem reach (hrefl : ∀ t, R t t) (htrans : ∀ t u v, R t u → R u v → R t v)
    (hact : ∀ l t u, A l t u → R t u) {x : Svc σ ℓ ε α} (h : x.Ensures R A P s) :
    Prog.Meets R A (fun r t => R s t ∧ ∀ a, r = .ok a → P a t) x s := by
  unfold Ensures at h
  suffices H : ∀ (x : Prog σ ℓ (Except ε α)) (s₀ s : σ), R s₀ s →
      x.Meets R A (fun r t => ∀ a, r = .ok a → P a t) s →
      x.Meets R A (fun r t => R s₀ t ∧ ∀ a, r = .ok a → P a t) s from
    H x s s (hrefl s) h
  intro x s₀
  induction x with
  | done r => exact fun s hs hr => ⟨hs, hr⟩
  | act l f k ih =>
      intro s hs hm t ht
      refine ⟨(hm t ht).1, ih _ _ ?_ (hm t ht).2⟩
      exact htrans _ _ _ (htrans _ _ _ hs ht) (hact _ _ _ (hm t ht).1)

theorem tryCatch (hrefl : ∀ t, R t t) (htrans : ∀ t u v, R t u → R u v → R t v)
    (hact : ∀ l t u, A l t u → R t u) {x : Svc σ ℓ ε α} {handler : ε → Svc σ ℓ ε α}
    (hx : x.Ensures R A P s) (hh : ∀ e t, R s t → (handler e).Ensures R A P t) :
    (Svc.tryCatch x handler).Ensures R A P s := by
  refine Prog.Meets.bind (hx.reach hrefl htrans hact) fun r t hr => ?_
  cases r with
  | ok a => exact Ensures.pure (hr.2 a rfl)
  | error e => exact hh e t hr.1

/-- A transaction whose refusal is handled: the handler starts in the state that refused it. -/
theorem attempt {l : ℓ} {tx : Tx σ ε β} {g : β → α} {handler : ε → Svc σ ℓ ε α}
    (hok : ∀ t b u, R s t → tx t = .ok (b, u) → A l t u ∧ P (g b) u)
    (herr : ∀ t e, R s t → tx t = .error e → A l t t ∧ (handler e).Ensures R A P t) :
    (Svc.tryCatch (Svc.transaction l tx >>= fun b => Pure.pure (g b)) handler).Ensures R A P s := by
  intro t ht
  rcases htx : tx t with e | ⟨b, u⟩
  · simp only [htx]
    exact herr t e ht htx
  · simp only [htx]
    obtain ⟨hact, hpost⟩ := hok t b u ht htx
    exact ⟨hact, Ensures.pure hpost⟩

theorem forEach {xs : List β} {g : β → Svc σ ℓ ε Unit} {I : σ → Prop}
    (hg : ∀ x ∈ xs, ∀ t, I t → (g x).Ensures R A (fun _ u => I u) t) (hs : I s) :
    (Svc.forEach xs g).Ensures R A (fun _ t => I t) s := by
  induction xs generalizing s with
  | nil => exact Ensures.pure hs
  | cons x rest ih =>
      refine Ensures.bind (hg x (by simp) s hs) fun _ t ht => ?_
      exact ih (fun y hy => hg y (by simp [hy])) ht

theorem collect {xs : List β} {g : β → Svc σ ℓ ε α} {I : σ → Prop}
    (hg : ∀ x ∈ xs, ∀ t, I t → (g x).Ensures R A (fun _ u => I u) t) (hs : I s) :
    (Svc.collect xs g).Ensures R A (fun _ t => I t) s := by
  induction xs generalizing s with
  | nil => exact Ensures.pure hs
  | cons x rest ih =>
      refine Ensures.bind (hg x (by simp) s hs) fun _ t ht => ?_
      refine Ensures.bind (ih (fun y hy => hg y (by simp [hy])) ht) fun _ u hu => ?_
      exact Ensures.pure hu

/-- The judgment without interference, read on the run itself. -/
theorem exec {x : Svc σ ℓ ε α} (h : x.Ensures Eq A P s) :
    Path A s (Prog.events x s) (x.exec s).2 ∧ ∀ a, (x.exec s).1 = .ok a → P a (x.exec s).2 :=
  Prog.Meets.exec h

end Ensures

end Svc

end Interleaving
