import Mathlib.Data.List.Forall2
import Mathlib.Data.List.Sort
import Qift.Lib.Delegate

/-!
# Two runs side by side

A secret is kept when two runs that differ only in it answer alike.  `R` relates the states of the two runs and a call
agrees with another when, from related states, both end in related states with related answers.

* `Alike Q` relates two outcomes: both succeed, with values related by `Q`, or both fail with the same error.
* `Tx.Agrees` and `Svc.Agrees` are the judgments on two transactions and on two undisturbed calls, with one rule for
  each way of building them.
* **`runCalls_agrees`** — when every call agrees with itself, so does every sequence of calls.
* Before them, what lookups, sorting and the writes of a table leave of two lists that are related row by row.
-/

namespace Relational

variable {α β κ : Type} {R : α → β → Prop}

/-! ### Lists and tables related row by row -/

theorem forall₂_find? {p : α → Bool} {q : β → Bool} (hpq : ∀ a b, R a b → p a = q b) {l : List α} {l' : List β}
    (h : List.Forall₂ R l l') : Option.Rel R (l.find? p) (l'.find? q) := by
  induction h with
  | nil => exact .none
  | @cons a b l l' hab _ ih =>
      rw [List.find?_cons, List.find?_cons, ← hpq a b hab]
      cases p a with
      | true => exact .some hab
      | false => exact ih

theorem forall₂_any {p : α → Bool} {q : β → Bool} (hpq : ∀ a b, R a b → p a = q b) {l : List α} {l' : List β}
    (h : List.Forall₂ R l l') : l.any p = l'.any q := by
  induction h with
  | nil => rfl
  | cons hab _ ih => rw [List.any_cons, List.any_cons, hpq _ _ hab, ih]

theorem forall₂_filter {p : α → Bool} {q : β → Bool} (hpq : ∀ a b, R a b → p a = q b) {l : List α} {l' : List β}
    (h : List.Forall₂ R l l') : List.Forall₂ R (l.filter p) (l'.filter q) :=
  List.rel_filter (fun {a b} hab => iff_of_eq (congrArg (· = true) (hpq a b hab))) h

theorem forall₂_conj {S : α → β → Prop} {l : List α} {l' : List β} (h : List.Forall₂ R l l')
    (h' : List.Forall₂ S l l') : List.Forall₂ (fun a b => R a b ∧ S a b) l l' := by
  induction h with
  | nil => exact .nil
  | cons hab _ ih =>
      cases h' with
      | cons hab' hrest => exact .cons ⟨hab, hab'⟩ (ih hrest)

section Sorting

variable {r : α → α → Prop} {r' : β → β → Prop} [DecidableRel r] [DecidableRel r']

theorem forall₂_orderedInsert (hr : ∀ a b c d, R a b → R c d → (r a c ↔ r' b d)) {a : α} {b : β} (hab : R a b)
    {l : List α} {l' : List β} (h : List.Forall₂ R l l') :
    List.Forall₂ R (l.orderedInsert r a) (l'.orderedInsert r' b) := by
  induction h with
  | nil => exact .cons hab .nil
  | @cons c d l l' hcd hrest ih =>
      rw [List.orderedInsert_cons, List.orderedInsert_cons]
      by_cases hac : r a c
      · rw [if_pos hac, if_pos ((hr a b c d hab hcd).mp hac)]
        exact .cons hab (.cons hcd hrest)
      · rw [if_neg hac, if_neg fun hbd => hac ((hr a b c d hab hcd).mpr hbd)]
        exact .cons hcd ih

theorem forall₂_insertionSort (hr : ∀ a b c d, R a b → R c d → (r a c ↔ r' b d)) {l : List α} {l' : List β}
    (h : List.Forall₂ R l l') : List.Forall₂ R (l.insertionSort r) (l'.insertionSort r') := by
  induction h with
  | nil => exact .nil
  | cons hab _ ih => exact forall₂_orderedInsert hr hab ih

end Sorting

namespace Table

variable {key : α → κ} {key' : β → κ} {t : Table key} {t' : Table key'}

theorem forall₂_find [DecidableEq κ] (hkey : ∀ a b, R a b → key a = key' b) (h : List.Forall₂ R t.rows t'.rows)
    (k : κ) : Option.Rel R (t.find k) (t'.find k) :=
  forall₂_find? (fun a b hab => by rw [hkey a b hab]) h

/-- An insert into both tables succeeds in both or in neither. -/
theorem forall₂_createUnless [DecidableEq κ] {c : α → α → Bool} {c' : β → β → Bool} {a : α} {b : β} (hab : R a b)
    (hkey : ∀ a b, R a b → key a = key' b) (hc : ∀ x y, R x y → c a x = c' b y)
    (h : List.Forall₂ R t.rows t'.rows) :
    Option.Rel (fun u u' => List.Forall₂ R u.rows u'.rows) (t.createUnless c a) (t'.createUnless c' b) := by
  have hkeys : t.rows.map key = t'.rows.map key' :=
    List.forall₂_eq_eq_eq ▸ List.forall₂_map_left_iff.mpr (List.forall₂_map_right_iff.mpr (h.imp hkey))
  rw [createUnless, createUnless, ← forall₂_any hc h]
  cases t.rows.any (c a) with
  | true => exact .none
  | false =>
      show Option.Rel _ (t.create a) (t'.create b)
      by_cases hmem : key a ∈ t.rows.map key
      · have hmem' : key' b ∈ t'.rows.map key' := by rwa [← hkeys, ← hkey a b hab]
        rw [create, create, dif_pos hmem, dif_pos hmem']
        exact .none
      · have hmem' : key' b ∉ t'.rows.map key' := by rwa [← hkeys, ← hkey a b hab]
        rw [create, create, dif_neg hmem, dif_neg hmem']
        exact .some (List.rel_append h (.cons hab .nil))

theorem forall₂_updateMany {p : α → Bool} {q : β → Bool} {f : α → α} {g : β → β} {hf : ∀ r, key (f r) = key r}
    {hg : ∀ r, key' (g r) = key' r} (hpq : ∀ a b, R a b → p a = q b)
    (hfg : ∀ a ∈ t.rows, ∀ b, R a b → p a = true → R (f a) (g b)) (h : List.Forall₂ R t.rows t'.rows) :
    List.Forall₂ R (t.updateMany p f hf).rows (t'.updateMany q g hg).rows := by
  rw [updateMany, updateMany]
  refine List.forall₂_map_left_iff.mpr (List.forall₂_map_right_iff.mpr ?_)
  refine ((List.forall₂_and_left _ _).mpr ⟨fun a ha => ha, h⟩).imp fun a b hab => ?_
  obtain ⟨ha, hab⟩ := hab
  rw [← hpq a b hab]
  cases hp : p a with
  | true => exact hfg a ha b hab hp
  | false => exact hab

theorem forall₂_count {p : α → Bool} {q : β → Bool} (hpq : ∀ a b, R a b → p a = q b)
    (h : List.Forall₂ R t.rows t'.rows) : t.count p = t'.count q := by
  rw [count, count, List.countP_eq_length_filter, List.countP_eq_length_filter]
  exact (forall₂_filter hpq h).length_eq

end Table

end Relational

namespace Interleaving

variable {σ τ ℓ ε α β γ δ : Type}

/-- Two outcomes that cannot be told apart but for values related by `Q`. -/
inductive Alike (Q : α → β → Prop) : Except ε α → Except ε β → Prop
  | ok {a : α} {b : β} (h : Q a b) : Alike Q (.ok a) (.ok b)
  | error (e : ε) : Alike Q (.error e) (.error e)

namespace Alike

variable {Q Q' : α → β → Prop}

theorem mono (hQ : ∀ a b, Q a b → Q' a b) {x : Except ε α} {y : Except ε β} (h : Alike Q x y) : Alike Q' x y := by
  cases h with
  | ok hab => exact .ok (hQ _ _ hab)
  | error e => exact .error e

theorem refl {Q : α → α → Prop} (hQ : ∀ a, Q a a) (x : Except ε α) : Alike Q x x := by
  cases x with
  | ok a => exact .ok (hQ a)
  | error e => exact .error e

theorem eq {x y : Except ε α} (h : Alike Eq x y) : x = y := by
  cases h with
  | ok hab => rw [hab]
  | error e => rfl

end Alike

/-! ### Transactions -/

/-- From related states two transactions both commit, to related states, or both refuse. -/
def Tx.Agrees (R : σ → τ → Prop) (Q : α → β → Prop) (x : Tx σ ε α) (y : Tx τ ε β) : Prop :=
  ∀ s t, R s t → Alike (fun p q => Q p.1 q.1 ∧ R p.2 q.2) (x s) (y t)

namespace Tx.Agrees

variable {R : σ → τ → Prop} {Q : α → β → Prop} {Q' : γ → δ → Prop}

theorem pure {a : α} {b : β} (h : Q a b) : Tx.Agrees R Q (Pure.pure a : Tx σ ε α) (Pure.pure b : Tx τ ε β) :=
  fun _ _ hst => .ok ⟨h, hst⟩

theorem read {f : σ → α} {g : τ → β} (h : ∀ s t, R s t → Q (f s) (g t)) :
    Tx.Agrees R Q (Tx.read f : Tx σ ε α) (Tx.read g) :=
  fun s t hst => .ok ⟨h s t hst, hst⟩

theorem modify {f : σ → σ} {g : τ → τ} (h : ∀ s t, R s t → R (f s) (g t)) :
    Tx.Agrees R Eq (Tx.modify f : Tx σ ε Unit) (Tx.modify g) :=
  fun s t hst => .ok ⟨rfl, h s t hst⟩

theorem ensure {c d : Prop} [Decidable c] [Decidable d] {e : ε} (h : c ↔ d) :
    Tx.Agrees R Eq (Tx.ensure c e) (Tx.ensure d e) := by
  intro s t hst
  by_cases hc : c
  · rw [Tx.ensure, Tx.ensure, if_pos hc, if_pos (h.mp hc)]
    exact .ok ⟨rfl, hst⟩
  · rw [Tx.ensure, Tx.ensure, if_neg hc, if_neg fun hd => hc (h.mpr hd)]
    exact .error e

theorem bind {x : Tx σ ε α} {y : Tx τ ε β} {f : α → Tx σ ε γ} {g : β → Tx τ ε δ} (hx : Tx.Agrees R Q x y)
    (hg : ∀ a b, Q a b → Tx.Agrees R Q' (f a) (g b)) : Tx.Agrees R Q' (x >>= f) (y >>= g) := by
  intro s t hst
  have hxy := hx s t hst
  simp only [Bind.bind]
  revert hxy
  generalize x s = p
  generalize y t = q
  intro hxy
  cases hxy with
  | ok h => exact hg _ _ h.1 _ _ h.2
  | error e => exact .error e

end Tx.Agrees

/-! ### Calls -/

/-- From related states two undisturbed calls end in related states, with alike answers. -/
def Svc.Agrees (R : σ → τ → Prop) (Q : α → β → Prop) (x : Svc σ ℓ ε α) (y : Svc τ ℓ ε β) : Prop :=
  ∀ s t, R s t → Alike Q (x.exec s).1 (y.exec t).1 ∧ R (x.exec s).2 (y.exec t).2

namespace Svc.Agrees

variable {R : σ → τ → Prop} {Q : α → β → Prop} {Q' : γ → δ → Prop}

theorem mono {P : α → β → Prop} (hQ : ∀ a b, Q a b → P a b) {x : Svc σ ℓ ε α} {y : Svc τ ℓ ε β}
    (h : Svc.Agrees R Q x y) : Svc.Agrees R P x y :=
  fun s t hst => ⟨(h s t hst).1.mono hQ, (h s t hst).2⟩

theorem pure {a : α} {b : β} (h : Q a b) :
    Svc.Agrees R Q (Pure.pure a : Svc σ ℓ ε α) (Pure.pure b : Svc τ ℓ ε β) :=
  fun _ _ hst => ⟨.ok h, hst⟩

theorem fail (e : ε) : Svc.Agrees R Q (Svc.fail e : Svc σ ℓ ε α) (Svc.fail e : Svc τ ℓ ε β) :=
  fun _ _ hst => ⟨.error e, hst⟩

theorem ofExcept {x : Except ε α} {y : Except ε β} (h : Alike Q x y) :
    Svc.Agrees R Q (Svc.ofExcept x : Svc σ ℓ ε α) (Svc.ofExcept y : Svc τ ℓ ε β) :=
  fun _ _ hst => ⟨h, hst⟩

theorem ensure {c d : Prop} [Decidable c] [Decidable d] {e : ε} (h : c ↔ d) :
    Svc.Agrees R Eq (Svc.ensure c e : Svc σ ℓ ε Unit) (Svc.ensure d e : Svc τ ℓ ε Unit) := by
  intro s t hst
  rw [exec_ensure, exec_ensure, if_congr h rfl rfl]
  exact ⟨Alike.refl (fun _ => rfl) _, hst⟩

theorem query {l : ℓ} {f : σ → α} {g : τ → β} (h : ∀ s t, R s t → Q (f s) (g t)) :
    Svc.Agrees R Q (Svc.query l f : Svc σ ℓ ε α) (Svc.query l g : Svc τ ℓ ε β) :=
  fun s t hst => ⟨.ok (h s t hst), hst⟩

theorem transaction {l m : ℓ} {x : Tx σ ε α} {y : Tx τ ε β} (h : Tx.Agrees R Q x y) :
    Svc.Agrees R Q (Svc.transaction l x : Svc σ ℓ ε α) (Svc.transaction m y : Svc τ ℓ ε β) := by
  intro s t hst
  rw [exec_transaction, exec_transaction]
  have hxy := h s t hst
  revert hxy
  generalize x s = p
  generalize y t = q
  intro hxy
  cases hxy with
  | ok h => exact ⟨.ok h.1, h.2⟩
  | error e => exact ⟨.error e, hst⟩

theorem bind {x : Svc σ ℓ ε α} {y : Svc τ ℓ ε β} {f : α → Svc σ ℓ ε γ} {g : β → Svc τ ℓ ε δ}
    (hx : Svc.Agrees R Q x y) (hg : ∀ a b, Q a b → Svc.Agrees R Q' (f a) (g b)) :
    Svc.Agrees R Q' (x >>= f) (y >>= g) := by
  intro s t hst
  rw [exec_bind, exec_bind]
  have hxy := hx s t hst
  revert hxy
  generalize x.exec s = p
  generalize y.exec t = q
  obtain ⟨r, s'⟩ := p
  obtain ⟨r', t'⟩ := q
  rintro ⟨hr, hst'⟩
  cases hr with
  | ok hab => exact hg _ _ hab s' t' hst'
  | error e => exact ⟨.error e, hst'⟩

/-- What follows may use what the first run has learned. -/
theorem bind_learning {S : α → σ → τ → Prop} {x : Svc σ ℓ ε α} {y : Svc τ ℓ ε β} {f : α → Svc σ ℓ ε γ}
    {g : β → Svc τ ℓ ε δ} (hx : Svc.Agrees R Q x y)
    (hin : ∀ s a u, x.exec s = (.ok a, u) → ∀ t, R u t → S a u t) (hout : ∀ a s t, S a s t → R s t)
    (hg : ∀ a b, Q a b → Svc.Agrees (S a) Q' (f a) (g b)) : Svc.Agrees R Q' (x >>= f) (y >>= g) := by
  intro s t hst
  rw [exec_bind, exec_bind]
  have hxy := hx s t hst
  have hlearn := hin s
  revert hxy hlearn
  generalize x.exec s = p
  generalize y.exec t = q
  obtain ⟨r, s'⟩ := p
  obtain ⟨r', t'⟩ := q
  rintro ⟨hr, hst'⟩ hlearn
  cases hr with
  | ok hab =>
      have hrest := hg _ _ hab s' t' (hlearn _ _ rfl t' hst')
      exact ⟨hrest.1, hout _ _ _ hrest.2⟩
  | error e => exact ⟨.error e, hst'⟩

theorem map {x : Svc σ ℓ ε α} {y : Svc τ ℓ ε β} {f : α → γ} {g : β → δ}
    (hx : Svc.Agrees R (fun a b => Q' (f a) (g b)) x y) : Svc.Agrees R Q' (f <$> x) (g <$> y) :=
  bind hx fun _ _ hab => pure hab

theorem tryCatch {x : Svc σ ℓ ε α} {y : Svc τ ℓ ε β} {f : ε → Svc σ ℓ ε α} {g : ε → Svc τ ℓ ε β}
    (hx : Svc.Agrees R Q x y) (hf : ∀ e, Svc.Agrees R Q (f e) (g e)) :
    Svc.Agrees R Q (Svc.tryCatch x f) (Svc.tryCatch y g) := by
  intro s t hst
  rw [exec_tryCatch, exec_tryCatch]
  have hxy := hx s t hst
  revert hxy
  generalize x.exec s = p
  generalize y.exec t = q
  obtain ⟨r, s'⟩ := p
  obtain ⟨r', t'⟩ := q
  rintro ⟨hr, hst'⟩
  cases hr with
  | ok hab => exact ⟨.ok hab, hst'⟩
  | error e => exact hf e s' t' hst'

theorem ite {c d : Prop} [Decidable c] [Decidable d] (h : c ↔ d) {x x' : Svc σ ℓ ε α} {y y' : Svc τ ℓ ε β}
    (hpos : c → Svc.Agrees R Q x y) (hneg : ¬c → Svc.Agrees R Q x' y') :
    Svc.Agrees R Q (if c then x else x') (if d then y else y') := by
  by_cases hc : c
  · rw [if_pos hc, if_pos (h.mp hc)]
    exact hpos hc
  · rw [if_neg hc, if_neg fun hd => hc (h.mpr hd)]
    exact hneg hc

/-- What the two answers are, when both runs succeed alike. -/
theorem answers {x y : Svc σ ℓ ε α} {R : σ → σ → Prop} (h : Svc.Agrees R Eq x y) {s t : σ} (hst : R s t) :
    (x.exec s).1 = (y.exec t).1 :=
  (h s t hst).1.eq

end Svc.Agrees

/-- **Sequences of calls agree.** -/
theorem runCalls_agrees {κ : Type} {prog : κ → Svc σ ℓ ε α} {R : σ → σ → Prop} {Q : κ → α → α → Prop} {cs : List κ}
    (h : ∀ c ∈ cs, Svc.Agrees R (Q c) (prog c) (prog c)) {s t : σ} (hst : R s t) :
    R (runCalls prog s cs) (runCalls prog t cs) := by
  induction cs generalizing s t with
  | nil => exact hst
  | cons c cs ih =>
      have hcall := h c List.mem_cons_self s t hst
      exact ih (fun c hc => h c (List.mem_cons_of_mem _ hc)) hcall.2

end Interleaving
