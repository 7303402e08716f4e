import Qift.Lib.Windows
import Qift.Portal.Otp

/-!
# The rate limiter

`rate-limiter.ts`: for each key the times of its accepted hits are kept, and those that expired are dropped at the next
hit. Instants are arguments: `now` is what `Date.now()` returns.

* `RateLimiter.Alike` — two limiters that no call of some keys tells apart from an instant on.
* `RateLimiter.Remembers` — what is kept of a key and not expired is all that was accepted of it and is not expired.
* **`RateLimiter.hit_exact`** — in every run no window holds more than `max` accepted hits of a key; a hit is refused
  exactly at `max` of them; a refusal changes no later answer; nor does a call for another key.
* `Mirrors.limiterHit` — the limiter of code requests is one of these.
-/

namespace Qift

open Qift.Lib

/-- The limit, the window and, for each key, the hits that are remembered. -/
structure RateLimiter where
  max : Int
  windowMs : Time
  hits : String → Option (List Time)

namespace RateLimiter

/-- `new RateLimiter(max, windowMs)`. -/
def new (max : Int) (windowMs : Time) : RateLimiter := { max := max, windowMs := windowMs, hits := fun _ => none }

/-- `this.hits.get(key) ?? []`. -/
def list (l : RateLimiter) (key : String) : List Time := (l.hits key).getD []

/-- `this.hits.set(key, times)`. -/
def set (l : RateLimiter) (key : String) (times : List Time) : RateLimiter :=
  { l with hits := Function.update l.hits key (some times) }

/-- `hit`: whether the action is allowed. -/
def hit (l : RateLimiter) (now : Time) (key : String) : Bool × RateLimiter :=
  let cutoff := now - l.windowMs
  let recent := (l.list key).filter fun t => cutoff < t
  if l.max ≤ recent.length then (false, l.set key recent) else (true, l.set key (recent ++ [now]))

/-- `remaining`: the allowance that is left in the current window. -/
def remaining (l : RateLimiter) (now : Time) (key : String) : Int :=
  let cutoff := now - l.windowMs
  Max.max 0 (l.max - ((l.list key).filter fun t => cutoff < t).length)

/-! ### One call -/

section Call

variable {l : RateLimiter} {now : Time} {key : String}

/-- The hits of a key that are remembered and not expired. -/
def recent (l : RateLimiter) (now : Time) (key : String) : List Time := since (now - l.windowMs) (l.list key)

theorem remaining_eq (l : RateLimiter) (now : Time) (key : String) :
    l.remaining now key = Max.max 0 (l.max - (l.recent now key).length) := rfl

@[simp] theorem set_max (times : List Time) : (l.set key times).max = l.max := rfl

@[simp] theorem set_windowMs (times : List Time) : (l.set key times).windowMs = l.windowMs := rfl

@[simp] theorem list_set_self (times : List Time) : (l.set key times).list key = times := by
  simp [list, set]

theorem list_set_of_ne {other : String} (h : other ≠ key) (times : List Time) :
    (l.set key times).list other = l.list other := by
  simp [list, set, h]

theorem hit_of_full (h : l.max ≤ (l.recent now key).length) :
    l.hit now key = (false, l.set key (l.recent now key)) := if_pos h

theorem hit_of_room (h : ¬l.max ≤ (l.recent now key).length) :
    l.hit now key = (true, l.set key (l.recent now key ++ [now])) := if_neg h

@[simp] theorem hit_max (l : RateLimiter) (now : Time) (key : String) : (l.hit now key).2.max = l.max := by
  by_cases h : l.max ≤ (l.recent now key).length
  · rw [hit_of_full h, set_max]
  · rw [hit_of_room h, set_max]

@[simp] theorem hit_windowMs (l : RateLimiter) (now : Time) (key : String) :
    (l.hit now key).2.windowMs = l.windowMs := by
  by_cases h : l.max ≤ (l.recent now key).length
  · rw [hit_of_full h, set_windowMs]
  · rw [hit_of_room h, set_windowMs]

theorem hit_refused_iff : (l.hit now key).1 = false ↔ l.max ≤ (l.recent now key).length := by
  by_cases h : l.max ≤ (l.recent now key).length
  · simp [hit_of_full h, h]
  · simp [hit_of_room h, h]

/-- What a call leaves of its key: the hits that are not expired, and its own if it was accepted. -/
theorem list_hit_self (l : RateLimiter) (now : Time) (key : String) :
    (l.hit now key).2.list key = l.recent now key ++ if (l.hit now key).1 = true then [now] else [] := by
  by_cases h : l.max ≤ (l.recent now key).length
  · simp [hit_of_full h]
  · simp [hit_of_room h]

theorem list_hit_of_ne {other : String} (h : other ≠ key) : (l.hit now key).2.list other = l.list other := by
  by_cases hfull : l.max ≤ (l.recent now key).length
  · rw [hit_of_full hfull, list_set_of_ne h]
  · rw [hit_of_room hfull, list_set_of_ne h]

/-- Later, the same is remembered as if nothing had been dropped. -/
theorem recent_hit_self {t : Time} (h : now ≤ t) : (l.hit now key).2.recent t key =
    l.recent t key ++ since (t - l.windowMs) (if (l.hit now key).1 = true then [now] else []) := by
  have hcutoff : now - l.windowMs ≤ t - l.windowMs := sub_le_sub_right h _
  unfold recent
  rw [hit_windowMs, list_hit_self, since_append, recent, since_since hcutoff]

theorem recent_hit_of_ne {t : Time} {other : String} (h : other ≠ key) :
    (l.hit now key).2.recent t other = l.recent t other := by
  unfold recent
  rw [hit_windowMs, list_hit_of_ne h]

end Call

/-! ### Runs -/

/-- A call of `hit` and its instant. -/
structure Call where
  key : String
  now : Time

/-- Calls in the order of time. -/
def InOrder (calls : List Call) : Prop := calls.Pairwise fun c d => c.now ≤ d.now

instance (calls : List Call) : Decidable (InOrder calls) := inferInstanceAs (Decidable (calls.Pairwise _))

theorem InOrder.start {calls : List Call} (h : InOrder calls) : ∃ t, ∀ c ∈ calls, t ≤ c.now := by
  cases calls with
  | nil => exact ⟨0, by simp⟩
  | cons c rest =>
      refine ⟨c.now, fun d hd => ?_⟩
      rcases List.mem_cons.mp hd with rfl | hd
      · exact le_rfl
      · exact (List.pairwise_cons.mp h).1 d hd

/-- The calls with their answers, and the limiter after them. -/
def serve : List Call → RateLimiter → List (Call × Bool) × RateLimiter
  | [], l => ([], l)
  | c :: rest, l =>
      let (ok, l') := l.hit c.now c.key
      let (answered, l'') := serve rest l'
      ((c, ok) :: answered, l'')

theorem serve_cons (c : Call) (rest : List Call) (l : RateLimiter) : serve (c :: rest) l =
    ((c, (l.hit c.now c.key).1) :: (serve rest (l.hit c.now c.key).2).1, (serve rest (l.hit c.now c.key).2).2) := rfl

theorem serve_append (before later : List Call) (l : RateLimiter) : serve (before ++ later) l =
    ((serve before l).1 ++ (serve later (serve before l).2).1, (serve later (serve before l).2).2) := by
  induction before generalizing l with
  | nil => rfl
  | cons c rest ih =>
      rw [List.cons_append, serve_cons, ih, serve_cons]
      rfl

@[simp] theorem serve_max (calls : List Call) (l : RateLimiter) : (serve calls l).2.max = l.max := by
  induction calls generalizing l with
  | nil => rfl
  | cons c rest ih => rw [serve_cons, ih, hit_max]

@[simp] theorem serve_windowMs (calls : List Call) (l : RateLimiter) :
    (serve calls l).2.windowMs = l.windowMs := by
  induction calls generalizing l with
  | nil => rfl
  | cons c rest ih => rw [serve_cons, ih, hit_windowMs]

theorem serve_calls (calls : List Call) (l : RateLimiter) : (serve calls l).1.map Prod.fst = calls := by
  induction calls generalizing l with
  | nil => rfl
  | cons c rest ih => rw [serve_cons, List.map_cons, ih]

/-- An answer is that of its own call after those before it. -/
theorem serve_split {calls : List Call} {l : RateLimiter} {before later : List (Call × Bool)} {c : Call} {ok : Bool}
    (h : (serve calls l).1 = before ++ (c, ok) :: later) :
    (serve (before.map Prod.fst) l).1 = before ∧
      ((serve (before.map Prod.fst) l).2.hit c.now c.key).1 = ok ∧
      (serve (later.map Prod.fst) ((serve (before.map Prod.fst) l).2.hit c.now c.key).2).1 = later := by
  have hcalls : calls = before.map Prod.fst ++ c :: later.map Prod.fst := by
    rw [← serve_calls calls l, h, List.map_append, List.map_cons]
  rw [hcalls, serve_append, serve_cons] at h
  have hlength : (serve (before.map Prod.fst) l).1.length = before.length := by
    rw [← List.length_map Prod.fst, serve_calls, List.length_map]
  obtain ⟨hbefore, hlater⟩ := List.append_inj h hlength
  rw [List.cons.injEq, Prod.mk.injEq] at hlater
  exact ⟨hbefore, hlater.1.2, hlater.2⟩

/-- The instants of the accepted hits of a key. -/
def accepted (key : String) (answered : List (Call × Bool)) : List Time :=
  (answered.filter fun a => a.1.key = key ∧ a.2 = true).map fun a => a.1.now

theorem accepted_append (key : String) (xs ys : List (Call × Bool)) :
    accepted key (xs ++ ys) = accepted key xs ++ accepted key ys := by
  rw [accepted, List.filter_append, List.map_append]
  rfl

theorem accepted_of_ne {key : String} {c : Call} (h : key ≠ c.key) (ok : Bool) : accepted key [(c, ok)] = [] := by
  simp [accepted, h.symm]

theorem accepted_self (c : Call) (ok : Bool) : accepted c.key [(c, ok)] = if ok = true then [c.now] else [] := by
  cases ok with
  | true => simp [accepted]
  | false => simp [accepted]

theorem le_of_mem_accepted {key : String} {answered : List (Call × Bool)} {t : Time}
    (h : ∀ a ∈ answered, a.1.now ≤ t) : ∀ s ∈ accepted key answered, s ≤ t := by
  intro s hs
  obtain ⟨a, ha, rfl⟩ := List.mem_map.mp hs
  exact h a (List.mem_of_mem_filter ha)

/-! ### What calls can tell -/

/-- No call of one of the keys, from an instant on, tells two limiters apart. -/
structure Alike (keys : String → Bool) (now : Time) (l l' : RateLimiter) : Prop where
  max : l.max = l'.max
  windowMs : l.windowMs = l'.windowMs
  recent : ∀ key, keys key = true → l.recent now key = l'.recent now key

section Alike

variable {keys : String → Bool} {now t : Time} {l l' : RateLimiter}

theorem Alike.refl (keys : String → Bool) (now : Time) (l : RateLimiter) : Alike keys now l l :=
  ⟨rfl, rfl, fun _ _ => rfl⟩

theorem Alike.later (h : Alike keys now l l') (hle : now ≤ t) : Alike keys t l l' := by
  refine ⟨h.max, h.windowMs, fun key hkey => ?_⟩
  have hrecent := h.recent key hkey
  unfold RateLimiter.recent at hrecent ⊢
  rw [← h.windowMs] at hrecent ⊢
  exact since_congr (sub_le_sub_right hle _) hrecent

theorem Alike.answer {key : String} (h : Alike keys now l l') (hkey : keys key = true) :
    (l.hit now key).1 = (l'.hit now key).1 := by
  rw [Bool.eq_iff_iff, ← not_iff_not, Bool.not_eq_true, Bool.not_eq_true, hit_refused_iff, hit_refused_iff,
    h.recent key hkey, h.max]

/-- The same call on both. -/
theorem Alike.hit {key : String} (h : Alike keys now l l') (hkey : keys key = true) :
    Alike keys now (l.hit now key).2 (l'.hit now key).2 := by
  refine ⟨?_, ?_, fun other hother => ?_⟩
  · rw [hit_max, hit_max, h.max]
  · rw [hit_windowMs, hit_windowMs, h.windowMs]
  · by_cases hsame : other = key
    · subst hsame
      rw [recent_hit_self le_rfl, recent_hit_self le_rfl, h.recent other hkey, h.answer hkey, h.windowMs]
    · rw [recent_hit_of_ne hsame, recent_hit_of_ne hsame, h.recent other hother]

theorem Alike.hit_other {key : String} (h : Alike keys now l l') (hkey : keys key = false) :
    Alike keys now (l.hit now key).2 l' := by
  refine ⟨(hit_max l now key).trans h.max, (hit_windowMs l now key).trans h.windowMs, fun other hother => ?_⟩
  have hne : other ≠ key := by
    rintro rfl
    rw [hkey] at hother
    cases hother
  rw [recent_hit_of_ne hne, h.recent other hother]

theorem alike_refused {key : String} (keys : String → Bool) (h : (l.hit now key).1 = false) :
    Alike keys now (l.hit now key).2 l := by
  refine ⟨hit_max l now key, hit_windowMs l now key, fun other _ => ?_⟩
  by_cases hsame : other = key
  · subst hsame
    rw [recent_hit_self le_rfl, h]
    exact List.append_nil _
  · exact recent_hit_of_ne hsame

/-- **Runs on alike limiters** have the same answers for the keys, whatever is called for others. -/
theorem Alike.serve {calls : List Call} (h : Alike keys now l l') (hcalls : InOrder calls)
    (hnow : ∀ c ∈ calls, now ≤ c.now) :
    (serve calls l).1.filter (fun a => keys a.1.key) = (RateLimiter.serve (calls.filter fun c => keys c.key) l').1 := by
  induction calls generalizing now l l' with
  | nil => rfl
  | cons c rest ih =>
      obtain ⟨hfirst, hrest⟩ := List.pairwise_cons.mp hcalls
      have hthen := h.later (hnow c List.mem_cons_self)
      rw [serve_cons]
      cases hkey : keys c.key with
      | true =>
          simp only [List.filter_cons, hkey, if_true]
          rw [serve_cons, ih (hthen.hit hkey) hrest hfirst, hthen.answer hkey]
      | false =>
          simp only [List.filter_cons, hkey, Bool.false_eq_true, if_false]
          exact ih (hthen.hit_other hkey) hrest hfirst

end Alike

/-! ### What is remembered -/

/-- What is kept of each key and not expired is what was accepted of it and is not expired, and within the limit. -/
structure Remembers (l : RateLimiter) (past : List (Call × Bool)) : Prop where
  recent : ∀ key t, (∀ a ∈ past, a.1.now ≤ t) → l.recent t key = since (t - l.windowMs) (accepted key past)
  capped : ∀ key, Capped l.max.toNat l.windowMs (accepted key past)

section Remembers

variable {l : RateLimiter} {past : List (Call × Bool)}

theorem remembers_new (max : Int) (windowMs : Time) : Remembers (new max windowMs) [] :=
  ⟨fun _ _ _ => rfl, fun _ => capped_nil _ _⟩

theorem Remembers.hit {c : Call} (h : Remembers l past) (hpast : ∀ a ∈ past, a.1.now ≤ c.now) :
    Remembers (l.hit c.now c.key).2 (past ++ [(c, (l.hit c.now c.key).1)]) := by
  refine ⟨fun key t ht => ?_, fun key => ?_⟩
  · have hold := h.recent key t fun a ha => ht a (List.mem_append_left _ ha)
    have hle : c.now ≤ t := ht (c, _) (List.mem_append_right _ List.mem_cons_self)
    rw [hit_windowMs, accepted_append, since_append, ← hold]
    by_cases hkey : key = c.key
    · subst hkey
      rw [recent_hit_self hle, accepted_self]
    · rw [recent_hit_of_ne hkey, accepted_of_ne hkey]
      exact (List.append_nil _).symm
  · rw [hit_max, hit_windowMs, accepted_append]
    by_cases hkey : key = c.key
    · subst hkey
      rw [accepted_self]
      by_cases hok : (l.hit c.now c.key).1 = true
      · -- it was accepted, so there was room in the window that ends now
        rw [if_pos hok]
        apply (h.capped c.key).snoc
        have hroom : ¬l.max ≤ (l.recent c.now c.key).length := by
          rw [← hit_refused_iff, hok]
          decide
        rw [← h.recent c.key c.now hpast]
        omega
      · rw [if_neg hok, List.append_nil]
        exact h.capped c.key
    · rw [accepted_of_ne hkey, List.append_nil]
      exact h.capped key

theorem Remembers.serve {calls : List Call} (h : Remembers l past) (hcalls : InOrder calls)
    (hpast : ∀ a ∈ past, ∀ c ∈ calls, a.1.now ≤ c.now) :
    Remembers (serve calls l).2 (past ++ (RateLimiter.serve calls l).1) := by
  induction calls generalizing l past with
  | nil =>
      rw [RateLimiter.serve, List.append_nil]
      exact h
  | cons c rest ih =>
      obtain ⟨hfirst, hrest⟩ := List.pairwise_cons.mp hcalls
      have hstep := ih (h.hit fun a ha => hpast a ha c List.mem_cons_self) hrest (by
        intro a ha d hd
        rcases List.mem_append.mp ha with ha | ha
        · exact hpast a ha d (List.mem_cons_of_mem _ hd)
        · rw [List.mem_singleton.mp ha]
          exact hfirst d hd)
      rwa [List.append_assoc] at hstep

theorem Remembers.recent_eq_within (h : Remembers l past) {now : Time} (hpast : ∀ a ∈ past, a.1.now ≤ now)
    (key : String) : l.recent now key = within l.windowMs now (accepted key past) := by
  rw [h.recent key now hpast, within_eq_since l.windowMs (le_of_mem_accepted hpast)]

theorem Remembers.length_within_le (h : Remembers l past) (hmax : 0 ≤ l.max) (key : String) (t : Time) :
    ((within l.windowMs t (accepted key past)).length : Int) ≤ l.max := by
  have hcap := h.capped key t
  omega

end Remembers

/-! ### The limiter over its whole history -/

/-- Calls on a new limiter, with their answers. -/
def history (max : Int) (windowMs : Time) (calls : List Call) : List (Call × Bool) :=
  (serve calls (new max windowMs)).1

def after (max : Int) (windowMs : Time) (calls : List Call) : RateLimiter := (serve calls (new max windowMs)).2

section History

variable {max : Int} {windowMs : Time} {calls : List Call} {before later : List (Call × Bool)} {c : Call} {ok : Bool}

theorem remembers_after (hcalls : InOrder calls) :
    Remembers (after max windowMs calls) (history max windowMs calls) :=
  (remembers_new max windowMs).serve hcalls (by simp)

theorem after_max (max : Int) (windowMs : Time) (calls : List Call) : (after max windowMs calls).max = max :=
  serve_max calls _

theorem after_windowMs (max : Int) (windowMs : Time) (calls : List Call) :
    (after max windowMs calls).windowMs = windowMs := serve_windowMs calls _

theorem history_calls (h : history max windowMs calls = before ++ (c, ok) :: later) :
    calls = before.map Prod.fst ++ c :: later.map Prod.fst := by
  have hsame := serve_calls calls (new max windowMs)
  rw [← hsame]
  change (history max windowMs calls).map Prod.fst = _
  rw [h, List.map_append, List.map_cons]

theorem le_of_mem_history {t : Time} (h : ∀ c ∈ calls, c.now ≤ t) : ∀ a ∈ history max windowMs calls, a.1.now ≤ t := by
  intro a ha
  have hcall : a.1 ∈ (history max windowMs calls).map Prod.fst := List.mem_map_of_mem ha
  rw [history, serve_calls] at hcall
  exact h a.1 hcall

theorem length_within_history_le (hmax : 0 ≤ max) (hcalls : InOrder calls) (key : String) (t : Time) :
    ((within windowMs t (accepted key (history max windowMs calls))).length : Int) ≤ max := by
  have hrem : Remembers (after max windowMs calls) (history max windowMs calls) := remembers_after hcalls
  have hcap := hrem.length_within_le (by rwa [after_max]) key t
  rwa [after_max, after_windowMs] at hcap

theorem remaining_after (hmax : 0 ≤ max) (hcalls : InOrder calls) {now : Time} (hnow : ∀ c ∈ calls, c.now ≤ now)
    (key : String) : (after max windowMs calls).remaining now key =
      max - (within windowMs now (accepted key (history max windowMs calls))).length := by
  have hrem : Remembers (after max windowMs calls) (history max windowMs calls) := remembers_after hcalls
  have hcap : ((within windowMs now (accepted key (history max windowMs calls))).length : Int) ≤ max :=
    length_within_history_le hmax hcalls key now
  have hrecent := hrem.recent_eq_within (le_of_mem_history hnow) key
  rw [after_windowMs] at hrecent
  rw [remaining_eq, after_max, hrecent]
  omega

/-- A hit is refused exactly at the limit. -/
theorem refused_iff (hmax : 0 ≤ max) (hcalls : InOrder calls)
    (h : history max windowMs calls = before ++ (c, ok) :: later) :
    ok = false ↔ ((within windowMs c.now (accepted c.key before)).length : Int) = max := by
  obtain ⟨hbefore, hanswer, -⟩ := serve_split h
  rw [history_calls h] at hcalls
  obtain ⟨hfirst, -, hle⟩ := List.pairwise_append.mp hcalls
  have hrem : Remembers (after max windowMs (before.map Prod.fst)) before := by
    have hthen : Remembers (after max windowMs (before.map Prod.fst)) (history max windowMs (before.map Prod.fst)) :=
      remembers_after hfirst
    rwa [history, hbefore] at hthen
  have hpast : ∀ a ∈ before, a.1.now ≤ c.now := fun a ha =>
    hle a.1 (List.mem_map_of_mem ha) c List.mem_cons_self
  have hcap := hrem.length_within_le (by rwa [after_max]) c.key c.now
  have hrecent := hrem.recent_eq_within hpast c.key
  rw [after_windowMs, after_max] at hcap
  rw [after_windowMs] at hrecent
  rw [← hanswer]
  change ((after max windowMs (before.map Prod.fst)).hit c.now c.key).1 = false ↔ _
  rw [hit_refused_iff, after_max, hrecent]
  omega

/-- Without a refused call, every other answer is the same. -/
theorem history_without (hcalls : InOrder calls)
    (h : history max windowMs calls = before ++ (c, false) :: later) :
    history max windowMs ((before ++ later).map Prod.fst) = before ++ later := by
  obtain ⟨hbefore, hrefused, hlater⟩ := serve_split h
  rw [history_calls h] at hcalls
  obtain ⟨hfirst, hrest⟩ := List.pairwise_cons.mp (List.pairwise_append.mp hcalls).2.1
  have hserve := (alike_refused (fun _ => true) hrefused).serve hrest hfirst
  simp only [List.filter_true] at hserve
  rw [history, List.map_append, serve_append, hbefore, ← hserve, hlater]

/-- **The limiter is exact.** No window holds more than `max` accepted hits of a key; a hit is refused exactly when the
window that ends with it holds `max` of them; without a refused hit every other answer is the same; `remaining` is what is
left of `max` in the current window; and the answers for a key are those of its calls alone. -/
theorem hit_exact (hmax : 1 ≤ max) (windowMs : Time) (hcalls : InOrder calls) :
    (∀ key t, ((within windowMs t (accepted key (history max windowMs calls))).length : Int) ≤ max) ∧
    (∀ before c ok later, history max windowMs calls = before ++ (c, ok) :: later →
      (ok = false ↔ ((within windowMs c.now (accepted c.key before)).length : Int) = max) ∧
      (ok = false → history max windowMs ((before ++ later).map Prod.fst) = before ++ later)) ∧
    (∀ key now, (∀ c ∈ calls, c.now ≤ now) → (after max windowMs calls).remaining now key =
      max - (within windowMs now (accepted key (history max windowMs calls))).length) ∧
    ∀ key, (history max windowMs calls).filter (fun a => a.1.key = key) =
      history max windowMs (calls.filter fun c => c.key = key) := by
  have hpos : 0 ≤ max := by omega
  refine ⟨length_within_history_le hpos hcalls, fun before c ok later h => ⟨refused_iff hpos hcalls h, ?_⟩,
    fun key now hnow => remaining_after hpos hcalls hnow key, fun key => ?_⟩
  · rintro rfl
    exact history_without hcalls h
  · obtain ⟨t, ht⟩ := hcalls.start
    exact (Alike.refl (fun other => decide (other = key)) t (new max windowMs)).serve hcalls ht

end History

/-- Two keys; the fourth hit finds the window full, the fifth finds the first one expired. -/
def burst : List Call := [⟨"a", 0⟩, ⟨"a", 5⟩, ⟨"b", 7⟩, ⟨"a", 9⟩, ⟨"a", 10⟩]

example : (history 2 10 burst).map Prod.snd = [true, true, true, false, true] := by decide +kernel

theorem hit_exact_burst : (after 2 10 burst).remaining 14 "a" = 0 := by
  have hburst := hit_exact (by decide : (1 : Int) ≤ 2) 10 (by decide : InOrder burst)
  rw [hburst.2.2.1 "a" 14 (by decide)]
  decide +kernel

/-! ### The limiter of code requests -/

/-- The portal keeps this limiter, all keys in one list. -/
structure Mirrors (l : RateLimiter) (w : Portal) : Prop where
  max : l.max = Portal.SEND_LIMIT
  windowMs : l.windowMs = Portal.SEND_WINDOW_MS
  list : ∀ key, l.list key = (w.sendHits.filter fun h => h.1 = key).map Prod.snd

theorem mirrors_empty : Mirrors (new Portal.SEND_LIMIT Portal.SEND_WINDOW_MS) Portal.empty :=
  ⟨rfl, rfl, fun _ => rfl⟩

theorem Mirrors.recent {l : RateLimiter} {w : Portal} (h : Mirrors l w) (key other : String) :
    ((w.sendHits.filter fun s => s.1 ≠ key || w.now - Portal.SEND_WINDOW_MS < s.2).filter fun s => s.1 = other).map
      Prod.snd = if other = key then l.recent w.now key else l.list other := by
  rw [List.filter_filter]
  by_cases hother : other = key
  · subst hother
    rw [if_pos rfl, RateLimiter.recent, since, h.list, h.windowMs, List.filter_map, List.filter_filter]
    congr 1
    apply List.filter_congr
    intro s _
    by_cases hs : s.1 = other
    · simp [hs]
    · simp [hs]
  · rw [if_neg hother, h.list]
    congr 1
    apply List.filter_congr
    intro s _
    by_cases hs : s.1 = other
    · simp [hs, hother]
    · simp [hs]

/-- **The limiter of code requests is one of these**: it answers the same and stays so. -/
theorem Mirrors.limiterHit {l : RateLimiter} {w : Portal} (h : Mirrors l w) (key : String) :
    ∃ w', Portal.limiterHit key w = .ok ((l.hit w.now key).1, w') ∧ w'.now = w.now ∧ Mirrors (l.hit w.now key).2 w' := by
  have hcount : ((w.sendHits.filter fun s => s.1 ≠ key || w.now - Portal.SEND_WINDOW_MS < s.2).filter
      fun s => s.1 = key).length = (l.recent w.now key).length := by
    have hlength := congrArg List.length (h.recent key key)
    rwa [if_pos rfl, List.length_map] at hlength
  unfold Portal.limiterHit
  simp only [hcount]
  by_cases hfull : l.max ≤ (l.recent w.now key).length
  · rw [hit_of_full hfull, if_neg (by rw [h.max] at hfull; omega)]
    refine ⟨_, rfl, rfl, h.max, h.windowMs, fun other => ?_⟩
    rw [h.recent key other]
    by_cases hother : other = key
    · rw [if_pos hother, hother, list_set_self]
    · rw [if_neg hother, list_set_of_ne hother]
  · rw [hit_of_room hfull, if_pos (by rw [h.max] at hfull; omega)]
    refine ⟨_, rfl, rfl, h.max, h.windowMs, fun other => ?_⟩
    rw [List.filter_append, List.map_append, h.recent key other]
    by_cases hother : other = key
    · rw [if_pos hother, hother, list_set_self]
      simp
    · rw [if_neg hother, list_set_of_ne hother]
      simp [Ne.symm hother]

end RateLimiter

end Qift
