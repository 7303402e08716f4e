import Mathlib.Data.Int.Range
import Qift.Lib.Proviso
import Qift.Occasions.Service

/-!
# Stored occasions resolve

* `OccasionData.Checked` and `OccasionPatch.Checked` — what the two validations leave of a body.
* `Occasion.WellDated` — the rule of `create`: month and day in range, and an occasion on one date has a year that its
  calendar converts.
* `Wary` — the proviso on an action: a patch leaves an occasion on one date its year, the years of the Hijri calendar
  that are written are in the tables, and so is the time at which Hijri occasions are resolved.
* **`Run.resolvable`** — under it every stored occasion is well dated, and no request fails because of a date.
* `Run.unresolved` — a patch of the year alone leaves an occasion that never comes.
-/

namespace Qift.Occasions

open Relational Relational.Table Interleaving

/-! ### Validation -/

/-- What a check answers, and that it refuses with a bad request. -/
def Validates {α : Type} (P : α → Prop) (x : Except Err α) : Prop :=
  (∀ a, x = .ok a → P a) ∧ ∀ e, x = .error e → ∃ message, e = .badRequest message

namespace Validates

variable {α β : Type} {P P' : α → Prop} {Q : β → Prop} {a : α} {x : Except Err α} {f : α → Except Err β}

theorem ok (h : P a) : Validates P (.ok a : Except Err α) :=
  ⟨fun _ hb => Except.ok.inj hb ▸ h, fun _ he => nomatch he⟩

theorem pure (h : P a) : Validates P (Pure.pure a : Except Err α) := ok h

theorem error (message : String) : Validates P (.error (.badRequest message) : Except Err α) :=
  ⟨fun _ hb => (nomatch hb), fun _ he => ⟨message, (Except.error.inj he).symm⟩⟩

theorem mono (hP : ∀ a, P a → P' a) (h : Validates P x) : Validates P' x := ⟨fun a ha => hP a (h.1 a ha), h.2⟩

theorem bind (hx : Validates P x) (hf : ∀ a, P a → Validates Q (f a)) : Validates Q (x >>= f) := by
  cases x with
  | error e =>
      obtain ⟨message, rfl⟩ := hx.2 e rfl
      exact error message
  | ok a => exact hf a (hx.1 a rfl)

theorem required (parse : Json → Option α) (field : Option Json) (message : String) :
    Validates (fun a => ∃ value, field = some value ∧ parse value = some a) (required parse field message) := by
  unfold Occasions.required
  cases hfield : field with
  | none => exact error message
  | some value =>
      cases hparse : parse value with
      | none =>
          rw [Option.bind_some, hparse]
          exact error message
      | some a =>
          rw [Option.bind_some, hparse]
          exact ok ⟨value, rfl, hparse⟩

theorem present (parse : Json → Option α) (field : Option Json) (message : String) :
    Validates (fun found => ∀ a, found = some a → ∃ value, parse value = some a) (present parse field message) := by
  cases field with
  | none => exact ok fun a ha => nomatch ha
  | some value =>
      rw [Occasions.present]
      cases hparse : parse value with
      | none => exact error message
      | some a =>
          refine ok fun b hb => ?_
          cases hb
          exact ⟨value, hparse⟩

end Validates

theorem asInteger_bounds {lo hi n : Int} {value : Json} (h : asInteger lo hi value = some n) : lo ≤ n ∧ n ≤ hi := by
  cases value with
  | num x =>
      rw [asInteger] at h
      split at h
      next hbounds =>
        obtain ⟨hlo, hhi, hden⟩ := hbounds
        have hx : x = x.num := (Rat.den_eq_one_iff x).mp hden ▸ rfl
        cases h
        rw [hx] at hlo hhi
        exact ⟨by exact_mod_cast hlo, by exact_mod_cast hhi⟩
      next => cases h
  | null | bool | str | arr | obj => cases h

theorem asYear_bounds {year : Option Int} {value : Json} (h : asYear value = some year) {n : Int} (hn : year = some n) :
    1900 ≤ n ∧ n ≤ 3000 := by
  subst hn
  cases value with
  | null => cases h
  | num x =>
      obtain ⟨m, hm, hmn⟩ := Option.map_eq_some_iff.mp h
      cases hmn
      exact asInteger_bounds hm
  | bool | str | arr | obj => cases h

/-- What `validateCreateInput` leaves of a body. -/
structure OccasionData.Checked (data : OccasionData) : Prop where
  month : 1 ≤ data.month ∧ data.month ≤ 12
  day : 1 ≤ data.day ∧ data.day ≤ 31
  year : ∀ year, data.year = some year → 1900 ≤ year ∧ year ≤ 3000
  once : data.recurrence = .once → ∃ year, data.year = some year

/-- What `validatePartialInput` leaves of a body. -/
structure OccasionPatch.Checked (patch : OccasionPatch) : Prop where
  month : ∀ month, patch.month = some month → 1 ≤ month ∧ month ≤ 12
  day : ∀ day, patch.day = some day → 1 ≤ day ∧ day ≤ 31
  year : ∀ year, patch.year = some (some year) → 1900 ≤ year ∧ year ≤ 3000

theorem createYear_checks (recurrence : Recurrence) (field : Option Json) :
    Validates (fun year => (∀ n, year = some n → 1900 ≤ n ∧ n ≤ 3000) ∧ (recurrence = .once → ∃ n, year = some n))
      (createYear recurrence field) := by
  cases recurrence with
  | once =>
      refine Validates.bind (Validates.required _ _ _) fun n hn => Validates.ok ⟨fun m hm => ?_, fun _ => ⟨n, rfl⟩⟩
      obtain ⟨value, -, hvalue⟩ := hn
      cases hm
      exact asInteger_bounds hvalue
  | yearly =>
      refine Validates.ok ⟨fun n hn => ?_, fun h => nomatch h⟩
      obtain ⟨value, -, hvalue⟩ := Option.bind_eq_some_iff.mp hn
      exact asInteger_bounds hvalue

theorem createVisibility_checks (field : Option Json) : Validates (fun _ => True) (createVisibility field) := by
  unfold createVisibility
  split
  · exact Validates.ok trivial
  · exact Validates.ok trivial
  · exact (Validates.required _ _ _).mono fun _ _ => trivial

theorem reminderChannel_checks (field : Option Json) : Validates (fun _ => True) (reminderChannel field) := by
  unfold reminderChannel
  split
  · exact Validates.ok trivial
  · exact Validates.ok trivial
  · exact (Validates.required _ _ _).mono fun _ _ => trivial

theorem validateCreateInput_checks (body : OccasionInput) :
    Validates OccasionData.Checked (validateCreateInput body) := by
  refine Validates.bind (Validates.required _ _ _) fun kind _ => ?_
  refine Validates.bind (Validates.required _ _ _) fun calendar _ => ?_
  refine Validates.bind (Validates.required _ _ _) fun recurrence _ => ?_
  refine Validates.bind (Validates.required _ _ _) fun month hmonth => ?_
  refine Validates.bind (Validates.required _ _ _) fun day hday => ?_
  refine Validates.bind (createYear_checks recurrence body.year) fun year hyear => ?_
  refine Validates.bind (createVisibility_checks body.visibility) fun visibility _ => ?_
  obtain ⟨monthValue, -, hmonth⟩ := hmonth
  obtain ⟨dayValue, -, hday⟩ := hday
  exact Validates.pure ⟨asInteger_bounds hmonth, asInteger_bounds hday, hyear.1, hyear.2⟩

theorem validatePartialInput_checks (body : OccasionInput) :
    Validates OccasionPatch.Checked (validatePartialInput body) := by
  refine Validates.bind (Validates.present _ _ _) fun kind _ => ?_
  refine Validates.bind (Validates.present _ _ _) fun calendar _ => ?_
  refine Validates.bind (Validates.present _ _ _) fun year hyear => ?_
  refine Validates.bind (Validates.present _ _ _) fun month hmonth => ?_
  refine Validates.bind (Validates.present _ _ _) fun day hday => ?_
  refine Validates.bind (Validates.present _ _ _) fun recurrence _ => ?_
  refine Validates.bind (Validates.present _ _ _) fun visibility _ => ?_
  refine Validates.pure ⟨fun m hm => ?_, fun d hd => ?_, fun y hy => ?_⟩
  · obtain ⟨value, hvalue⟩ := hmonth m hm
    exact asInteger_bounds hvalue
  · obtain ⟨value, hvalue⟩ := hday d hd
    exact asInteger_bounds hvalue
  · obtain ⟨value, hvalue⟩ := hyear _ hy
    exact asYear_bounds hvalue rfl

/-- A list is converted where each of its elements is. -/
theorem mapM_ok {α β : Type} {f : β → Except Err α} {xs : List β} (h : ∀ x ∈ xs, ∃ a, f x = .ok a) :
    ∃ as, xs.mapM f = .ok as := by
  induction xs with
  | nil => exact ⟨[], rfl⟩
  | cons x rest ih =>
      obtain ⟨a, ha⟩ := h x List.mem_cons_self
      obtain ⟨as, has⟩ := ih fun y hy => h y (List.mem_cons_of_mem _ hy)
      exact ⟨a :: as, by rw [List.mapM_cons, ha, has]; rfl⟩

/-- What is said of the value of an option is decided there. -/
def decideSome {α : Type} (o : Option α) {P : α → Prop} (h : ∀ a, Decidable (P a)) :
    Decidable (∃ a, o = some a ∧ P a) :=
  match o with
  | none => .isFalse (by simp)
  | some a => @decidable_of_iff _ (P a) (by simp) (h a)

def decideAll {α : Type} (o : Option α) {P : α → Prop} (h : ∀ a, Decidable (P a)) :
    Decidable (∀ a, o = some a → P a) :=
  match o with
  | none => .isTrue (by simp)
  | some a => @decidable_of_iff _ (P a) (by simp) (h a)

/-! ### Reminders -/

theorem createReminderTx_ok {viewerId channel : String} {occasionId : Nat} {daysBefore : Int} {enabled : Bool}
    {w u : Occasions} {x : OccasionReminder}
    (h : createReminderTx viewerId occasionId daysBefore channel enabled w = .ok (x, u)) :
    u.occasions = w.occasions := by
  obtain ⟨id, w₁, hid, hcreate⟩ := Tx.bind_eq_ok.mp h
  cases hid
  obtain ⟨T, -, -, -, rfl⟩ := Delegate.create_eq_ok.mp hcreate
  rfl

theorem createReminderTx_error {viewerId channel : String} {occasionId : Nat} {daysBefore : Int} {enabled : Bool}
    {w : Occasions} {e : Err} (h : createReminderTx viewerId occasionId daysBefore channel enabled w = .error e) :
    e ≠ rangeError := by
  rcases Tx.bind_eq_error.mp h with hid | ⟨id, w₁, -, hcreate⟩
  · cases hid
  · rw [Delegate.error_of_create hcreate]
    exact fun hrange => nomatch hrange

/-! ### Well dated occasions -/

section Umalqura

variable [Umalqura]

/-- The rule of `create`. -/
structure Occasion.WellDated (r : Occasion) : Prop where
  month : 1 ≤ r.month ∧ r.month ≤ 12
  day : 1 ≤ r.day ∧ r.day ≤ 31
  year : ∀ year, r.year = some year → 1900 ≤ year ∧ year ≤ 3000
  once : r.recurrence = .once → ∃ year, r.year = some year ∧ r.calendar.Converts year

/-- The occasion resolves whenever its calendar covers the time, and one on one date does so to its date until that day
has passed. -/
structure Occasion.Resolves (r : Occasion) : Prop where
  always : ∀ t, (r.recursInHijri = true → Covered t) → ∃ next, nextOccurrence r.spec t = .ok next
  once : r.recurrence = .once → ∃ year d, r.year = some year ∧
    calendarDateToGregorian r.calendar year r.month r.day = .ok d ∧
      ∀ t, 0 ≤ t → t < d + dayMillis → nextOccurrence r.spec t = .ok (some d)

theorem Occasion.WellDated.resolves {r : Occasion} (h : r.WellDated) : r.Resolves := by
  refine ⟨fun t hcovered => ?_, fun honce => ?_⟩
  · cases hrecurrence : r.recurrence with
    | once =>
        obtain ⟨year, hyear, hconverts⟩ := h.once hrecurrence
        obtain ⟨d, -, hnext⟩ := @nextOccurrence_once _ r.spec year hrecurrence hyear hconverts h.month h.day.1
        exact ⟨_, hnext t⟩
    | yearly =>
        refine @nextOccurrence_yearly _ r.spec t hrecurrence h.month h.day.1 fun hhijri => hcovered ?_
        rw [Occasion.recursInHijri, hrecurrence, show r.calendar = .hijri from hhijri]
        rfl
  · obtain ⟨year, hyear, hconverts⟩ := h.once honce
    obtain ⟨d, hd, hnext⟩ := @nextOccurrence_once _ r.spec year honce hyear hconverts h.month h.day.1
    refine ⟨year, d, hyear, hd, fun t ht hlt => ?_⟩
    rw [hnext t, if_pos (startOfUtcDay_le_of_lt ht (calendarDateToGregorian_midnight hd) hlt)]

/-! ### What the requests keep -/

def AllDated (w : Occasions) : Prop := ∀ r ∈ w.occasions.rows, r.WellDated

def Keeps (_ : Step) (s t : Occasions) : Prop := AllDated s → AllDated t

/-- Under the patch, a row on one date has a year that its calendar converts. -/
def KeepsYear (patch : OccasionPatch) (r : Occasion) : Prop :=
  (patch.write r).recurrence = .once → ∃ year, (patch.write r).year = some year ∧
    (patch.write r).calendar.Converts year

/-- The proviso on an action. -/
def Wary (e : Event Occasions Step) : Prop :=
  match e.lbl with
  | .create data => data.recurrence = .once → ∀ year, data.year = some year → data.calendar.Converts year
  | .update id patch => ∀ r, e.pre.occasions.find id = some r → KeepsYear patch r
  | .now recursInHijri => recursInHijri = true → Covered e.pre.now
  | .read | .environment | .softDelete _ | .reminder => True

theorem AllDated.mono {s t : Occasions} (hs : AllDated s) (hst : Rely Keeps s t) : AllDated t :=
  Rely.stable (fun _ _ _ hact => hact) hst hs

/-- The row of a checked body. -/
theorem OccasionData.Checked.wellDated {data : OccasionData} (h : data.Checked)
    (hconverts : data.recurrence = .once → ∀ year, data.year = some year → data.calendar.Converts year) {r : Occasion}
    (hr : r.spec = ⟨data.calendar, data.year, data.month, data.day, data.recurrence⟩) : r.WellDated := by
  obtain ⟨hcalendar, hyear, hmonth, hday, hrecurrence⟩ := OccasionDateSpec.mk.inj hr
  refine ⟨?_, ?_, ?_, fun honce => ?_⟩
  · rw [hmonth]
    exact h.month
  · rw [hday]
    exact h.day
  · rw [hyear]
    exact h.year
  · rw [hrecurrence] at honce
    obtain ⟨year, hsome⟩ := h.once honce
    refine ⟨year, hyear.trans hsome, ?_⟩
    rw [hcalendar]
    exact hconverts honce year hsome

theorem OccasionPatch.Checked.wellDated {patch : OccasionPatch} (h : patch.Checked) {r : Occasion} (hr : r.WellDated)
    (hkeeps : KeepsYear patch r) : (patch.write r).WellDated := by
  refine ⟨?_, ?_, fun year hyear => ?_, hkeeps⟩
  · change 1 ≤ patch.month.getD r.month ∧ patch.month.getD r.month ≤ 12
    cases hmonth : patch.month with
    | none => exact hr.month
    | some month => exact h.month month hmonth
  · change 1 ≤ patch.day.getD r.day ∧ patch.day.getD r.day ≤ 31
    cases hday : patch.day with
    | none => exact hr.day
    | some day => exact h.day day hday
  · change patch.year.getD r.year = some year at hyear
    cases hpatch : patch.year with
    | none =>
        rw [hpatch] at hyear
        exact hr.year year hyear
    | some written =>
        rw [hpatch] at hyear
        apply h.year year
        rw [hpatch]
        exact congrArg some hyear

/-! ### What the requests answer -/

/-- Where the stored rows are well dated they stay so, and the call succeeds with `P` or fails for another reason than
a date. -/
def Serves {α : Type} (P : α → Prop) (x : Service α) : Prop :=
  ∀ s, AllDated s → x.Under Wary (Rely Keeps) Keeps
    (fun r t => AllDated t ∧ (∀ a, r = .ok a → P a) ∧ ∀ e, r = .error e → e ≠ rangeError) s

namespace Serves

variable {α β : Type} {P P' : α → Prop} {Q : β → Prop} {x : Service α} {g : α → Service β}

theorem ofExcept {x : Except Err α} (hok : ∀ a, x = .ok a → P a) (herr : ∀ e, x = .error e → e ≠ rangeError) :
    Serves P (Svc.ofExcept x) := fun _ hs => ⟨hs, hok, herr⟩

theorem pure {a : α} (h : P a) : Serves P (Pure.pure a) := by
  apply ofExcept
  · intro b hb
    cases hb
    exact h
  · intro e he
    cases he

theorem fail {e : Err} (h : e ≠ rangeError) : Serves P (Svc.fail e) := by
  apply ofExcept
  · intro b hb
    cases hb
  · intro e' he
    cases he
    exact h

theorem validated {x : Except Err α} (h : Validates P x) : Serves P (Svc.ofExcept x) := by
  apply ofExcept h.1
  intro e he
  obtain ⟨message, rfl⟩ := h.2 e he
  exact fun hrange => nomatch hrange

theorem converted {x : Except Err α} (h : ∃ a, x = .ok a) : Serves (fun _ => True) (Svc.ofExcept x) := by
  obtain ⟨a, rfl⟩ := h
  exact pure trivial

theorem ensure {c : Prop} [Decidable c] {e : Err} (h : e ≠ rangeError) :
    Serves (fun _ => True) (Svc.ensure c e : Service Unit) := by
  by_cases hc : c
  · rw [Svc.ensure, if_pos hc]
    exact pure trivial
  · rw [Svc.ensure, if_neg hc]
    exact fail h

theorem query {l : Step} {f : Occasions → α} (h : ∀ w, AllDated w → Wary ⟨w, l, w⟩ → P (f w)) :
    Serves P (Svc.query l f) := by
  refine fun s hs => Svc.Under.query fun t ht hwary => ⟨id, hs.mono ht, fun a ha => ?_, fun e he => nomatch he⟩
  cases ha
  exact h t (hs.mono ht) hwary

theorem transaction {l : Step} {tx : Transaction α}
    (hok : ∀ w a u, AllDated w → Wary ⟨w, l, u⟩ → tx w = .ok (a, u) → AllDated u ∧ P a)
    (herr : ∀ w e, tx w = .error e → e ≠ rangeError) : Serves P (Svc.transaction l tx) := by
  intro s hs
  refine Svc.Under.transaction (fun w a u hw htx hwary => ?_) fun w e hw htx _ => ?_
  · obtain ⟨hu, ha⟩ := hok w a u (hs.mono hw) hwary htx
    refine ⟨fun _ => hu, hu, fun b hb => ?_, fun e he => nomatch he⟩
    cases hb
    exact ha
  · refine ⟨id, hs.mono hw, fun a ha => (nomatch ha), fun e' he => ?_⟩
    cases he
    exact herr w e htx

theorem bind (hx : Serves P x) (hg : ∀ a, P a → Serves Q (g a)) : Serves Q (x >>= g) := by
  refine fun s hs => Svc.Under.bind (hx s hs) (fun a t ha => hg a (ha.2.1 a rfl) t ha.1) fun e t he => ?_
  refine ⟨he.1, fun b hb => (nomatch hb), fun e' he' => ?_⟩
  cases he'
  exact he.2.2 e rfl

theorem map {f : α → β} (hx : Serves P x) : Serves (fun _ => True) (f <$> x) := hx.bind fun _ _ => pure trivial

theorem tryCatch {handler : Err → Service α} (hx : Serves P x) (hh : ∀ e, Serves P (handler e)) :
    Serves P (Svc.tryCatch x handler) :=
  fun s hs => Svc.Under.tryCatch (hx s hs) (fun _ _ hr => hr) fun e t he => hh e t he.1

theorem forEach {xs : List β} {f : β → Service Unit} (hf : ∀ b ∈ xs, Serves (fun _ => True) (f b)) :
    Serves (fun _ => True) (Svc.forEach xs f) := by
  induction xs with
  | nil => exact pure trivial
  | cons b rest ih =>
      refine bind (hf b List.mem_cons_self) fun _ _ => ?_
      exact ih fun c hc => hf c (List.mem_cons_of_mem _ hc)

end Serves

/-! ### The transactions -/

theorem createOccasion_serves (viewerId : String) {data : OccasionData} (hdata : data.Checked) :
    Serves Occasion.WellDated (Svc.transaction (.create data) (createOccasionTx viewerId data)) := by
  apply Serves.transaction
  · intro w a u hw hwary htx
    obtain ⟨id, w₁, hid, htx⟩ := Tx.bind_eq_ok.mp htx
    cases hid
    obtain ⟨now, w₂, hnow, htx⟩ := Tx.bind_eq_ok.mp htx
    obtain ⟨rfl, rfl⟩ := Tx.read_eq_ok.mp hnow
    obtain ⟨T, hT, -, rfl, rfl⟩ := Delegate.create_eq_ok.mp htx
    refine ⟨fun r hr => ?_, hdata.wellDated hwary rfl⟩
    change r ∈ T.rows at hr
    rw [(create_eq_some hT).1] at hr
    rcases List.mem_append.mp hr with hr | hr
    · exact hw r hr
    · rw [List.mem_singleton.mp hr]
      exact hdata.wellDated hwary rfl
  · intro w e htx
    rcases Tx.bind_eq_error.mp htx with hid | ⟨id, w₁, -, htx⟩
    · cases hid
    rcases Tx.bind_eq_error.mp htx with hnow | ⟨now, w₂, -, htx⟩
    · cases hnow
    rw [Delegate.error_of_create htx]
    exact fun hrange => nomatch hrange

/-- A write of one row. -/
theorem update_serves {l : Step} {id : Nat} {f : Occasion → Occasion} (hf : ∀ r : Occasion, (f r).id = r.id)
    (hrow : ∀ w u r, Wary ⟨w, l, u⟩ → w.occasions.find id = some r → r.WellDated → (f r).WellDated) :
    Serves Occasion.WellDated
      (Svc.transaction l (occasion.update (.error "record to update not found") id f hf)) := by
  apply Serves.transaction
  · intro w a u hw hwary htx
    obtain ⟨r, hr, rfl, rfl⟩ := Delegate.update_eq_ok.mp htx
    have hwritten := hrow w _ r hwary hr (hw r (mem_of_find hr))
    refine ⟨fun x hx => ?_, hwritten⟩
    obtain ⟨y, hy, rfl⟩ := of_mem_updateMany hf hx
    by_cases hkey : y.id = id
    · have hfound := find_of_mem hy
      rw [hkey, hr] at hfound
      cases hfound
      rw [if_pos (decide_eq_true hkey)]
      exact hwritten
    · rw [if_neg (by simpa using hkey)]
      exact hw y hy
  · intro w e htx
    rw [(Delegate.update_eq_error.mp htx).2]
    exact of_decide_eq_true rfl

theorem keep_serves {α : Type} {l : Step} {tx : Transaction α}
    (hok : ∀ w a u, tx w = .ok (a, u) → u.occasions = w.occasions) (herr : ∀ w e, tx w = .error e → e ≠ rangeError) :
    Serves (fun _ => True) (Svc.transaction l tx) := by
  refine Serves.transaction (fun w a u hw _ htx => ⟨?_, trivial⟩) herr
  intro r hr
  rw [hok w a u htx] at hr
  exact hw r hr

theorem upsertReminder_serves (viewerId channel : String) (occasionId : Nat) (daysBefore : Int) (enabled : Bool) :
    Serves (fun _ => True)
      (Svc.transaction .reminder (upsertReminderTx viewerId occasionId daysBefore channel enabled)) := by
  apply keep_serves
  · intro w x u htx
    obtain ⟨stored, w₁, hread, htx⟩ := Tx.bind_eq_ok.mp htx
    obtain ⟨-, rfl⟩ := Tx.read_eq_ok.mp hread
    cases stored with
    | none => exact createReminderTx_ok htx
    | some x =>
        obtain ⟨y, -, -, rfl⟩ := Delegate.update_eq_ok.mp htx
        rfl
  · intro w e htx
    rcases Tx.bind_eq_error.mp htx with hread | ⟨stored, w₁, -, htx⟩
    · cases hread
    cases stored with
    | none => exact createReminderTx_error htx
    | some x =>
        rw [(Delegate.update_eq_error.mp htx).2]
        exact of_decide_eq_true rfl

/-! ### The requests -/

theorem seedReminders_serves (viewerId : String) (r : Occasion) :
    Serves (fun _ => True) (seedReminders viewerId r) := by
  apply Serves.forEach
  intro daysBefore _
  refine Serves.tryCatch ?_ fun _ => Serves.pure trivial
  refine Serves.bind (P := fun _ => True) ?_ fun _ _ => Serves.pure trivial
  exact keep_serves (fun _ _ _ => createReminderTx_ok) fun _ _ => createReminderTx_error

theorem dateNow_serves (rows : List Occasion) :
    Serves (fun now => ∀ r ∈ rows, r.recursInHijri = true → Covered now) (dateNow rows) :=
  Serves.query fun _ _ hwary r hr hrecurs => hwary (List.any_eq_true.mpr ⟨r, hr, hrecurs⟩)

theorem projectOwnOccasion_ok {r : Occasion} {now : Time} (hr : r.WellDated)
    (hcovered : r.recursInHijri = true → Covered now) : ∃ shown, projectOwnOccasion r now = .ok shown := by
  obtain ⟨next, hnext⟩ := hr.resolves.always now hcovered
  refine ⟨⟨r, next⟩, ?_⟩
  rw [projectOwnOccasion, hnext]
  rfl

theorem projectOccasionForViewer_ok {viewer : ViewerContext} {r : Occasion} {now : Time} {owner : Option OwnerSummary}
    (hr : r.WellDated) (hcovered : canSeeOccasion viewer r = true → r.recursInHijri = true → Covered now) :
    ∃ shown, projectOccasionForViewer viewer r now owner = .ok shown := by
  unfold projectOccasionForViewer
  by_cases hsees : canSeeOccasion viewer r = true
  · obtain ⟨next, hnext⟩ := hr.resolves.always now (hcovered hsees)
    rw [if_pos hsees, hnext]
    exact ⟨_, rfl⟩
  · rw [if_neg hsees]
    exact ⟨none, rfl⟩

theorem showOwn_serves {r : Occasion} (hr : r.WellDated) : Serves (fun _ => True) (showOwn r) := by
  refine Serves.bind (dateNow_serves [r]) fun now hnow => Serves.converted ?_
  exact projectOwnOccasion_ok hr (hnow r (List.mem_singleton_self r))

theorem create_serves (viewerId : String) (body : OccasionInput) : Serves (fun _ => True) (create viewerId body) := by
  refine Serves.bind (Serves.validated (validateCreateInput_checks body)) fun data hdata => ?_
  refine Serves.bind (P := fun _ => True) (Serves.query fun _ _ _ => trivial) fun related _ => ?_
  refine Serves.bind (Serves.ensure fun h => nomatch h) fun _ _ => ?_
  refine Serves.bind (createOccasion_serves viewerId hdata) fun r hr => ?_
  exact Serves.bind (seedReminders_serves viewerId r) fun _ _ => showOwn_serves hr

theorem liveOccasions_dated {userIds : List String} {w : Occasions} (hw : AllDated w) :
    ∀ r ∈ liveOccasions userIds w, r.WellDated :=
  fun r hr => hw r (List.mem_of_mem_filter ((List.mem_insertionSort _).mp hr))

theorem listMine_serves (viewerId : String) : Serves (fun _ => True) (listMine viewerId) := by
  refine Serves.bind (P := fun rows => ∀ r ∈ rows, r.WellDated) (Serves.query fun _ hw _ => liveOccasions_dated hw)
    fun rows hrows => ?_
  refine Serves.bind (dateNow_serves rows) fun now hnow => Serves.converted (mapM_ok fun r hr => ?_)
  exact projectOwnOccasion_ok (hrows r hr) (hnow r hr)

theorem requireOwned_serves (viewerId : String) (id : Nat) : Serves Occasion.WellDated (requireOwned viewerId id) := by
  refine Serves.bind (P := fun found => ∀ r, found = some r → r.WellDated) (Serves.query fun w hw _ r hr => ?_)
    fun found hfound => ?_
  · exact hw r (mem_of_find (Option.filter_eq_some_iff.mp hr).1)
  · cases found with
    | none => exact Serves.fail fun h => nomatch h
    | some r => exact Serves.pure (hfound r rfl)

theorem findOneOwned_serves (viewerId : String) (id : Nat) : Serves (fun _ => True) (findOneOwned viewerId id) :=
  Serves.bind (requireOwned_serves viewerId id) fun _ hr => showOwn_serves hr

theorem update_request_serves (viewerId : String) (id : Nat) (body : OccasionInput) :
    Serves (fun _ => True) (update viewerId id body) := by
  refine Serves.bind (requireOwned_serves viewerId id) fun _ _ => ?_
  refine Serves.bind (Serves.validated (validatePartialInput_checks body)) fun patch hpatch => ?_
  by_cases hnone : patch = {}
  · rw [if_pos hnone]
    exact findOneOwned_serves viewerId id
  · rw [if_neg hnone]
    refine Serves.bind (update_serves _ fun w u r hwary hr hdated => ?_) fun r hr => showOwn_serves hr
    exact hpatch.wellDated hdated (hwary r hr)

theorem softDelete_serves (viewerId : String) (id : Nat) : Serves (fun _ => True) (softDelete viewerId id) := by
  refine Serves.bind (requireOwned_serves viewerId id) fun _ _ => ?_
  refine Serves.bind (P := fun _ => True) (Serves.query fun _ _ _ => trivial) fun now _ => ?_
  refine Serves.bind (update_serves _ fun w u r _ _ hdated => ?_) fun _ _ => Serves.pure trivial
  exact ⟨hdated.month, hdated.day, hdated.year, hdated.once⟩

theorem buildViewerContext_serves (viewerId ownerId : String) :
    Serves (fun _ => True) (buildViewerContext viewerId ownerId) := by
  unfold buildViewerContext
  split
  · exact Serves.pure trivial
  · refine Serves.bind (P := fun _ => True) (Serves.query fun _ _ _ => trivial) fun _ _ => ?_
    refine Serves.bind (P := fun _ => True) (Serves.query fun _ _ _ => trivial) fun _ _ => ?_
    refine Serves.bind (P := fun _ => True) (Serves.query fun _ _ _ => trivial) fun _ _ => ?_
    exact Serves.pure trivial

theorem listForUser_serves (viewerId ownerId : String) : Serves (fun _ => True) (listForUser viewerId ownerId) := by
  refine Serves.bind (buildViewerContext_serves viewerId ownerId) fun ctx _ => ?_
  refine Serves.bind (P := fun rows => ∀ r ∈ rows, r.WellDated) (Serves.query fun _ hw _ => liveOccasions_dated hw)
    fun rows hrows => ?_
  refine Serves.bind (dateNow_serves _) fun now hnow => ?_
  refine Serves.bind (Serves.converted (mapM_ok fun r hr => ?_)) fun _ _ => Serves.pure trivial
  exact projectOccasionForViewer_ok (hrows r hr) fun hsees => hnow r (List.mem_filter.mpr ⟨hr, hsees⟩)

theorem listUpcomingForFollowed_serves (viewerId : String) (windowDays limit : Option Int) :
    Serves (fun _ => True) (listUpcomingForFollowed viewerId windowDays limit) := by
  refine Serves.bind (P := fun _ => True) (Serves.query fun _ _ _ => trivial) fun follows _ => ?_
  refine Serves.bind (P := fun _ => True) (Serves.query fun _ _ _ => trivial) fun excludedIds _ => ?_
  dsimp only
  split
  · exact Serves.pure trivial
  · refine Serves.bind (P := fun rows => ∀ r ∈ rows, r.WellDated) (Serves.query fun _ hw _ r hr => ?_)
      fun rows hrows => ?_
    · exact liveOccasions_dated hw r (List.mem_of_mem_take hr)
    refine Serves.bind (P := fun _ => True) (Serves.query fun _ _ _ => trivial) fun reverseFollows _ => ?_
    refine Serves.bind (P := fun _ => True) (Serves.query fun _ _ _ => trivial) fun users _ => ?_
    refine Serves.bind (dateNow_serves _) fun now hnow => ?_
    refine Serves.bind (Serves.converted (mapM_ok fun r hr => ?_)) fun _ _ => Serves.pure trivial
    exact projectOccasionForViewer_ok (hrows r hr) fun hsees => hnow r (List.mem_filter.mpr ⟨hr, hsees⟩)

theorem upsertReminder_request_serves (viewerId : String) (occasionId : Nat) (body : ReminderInput) :
    Serves (fun _ => True) (upsertReminder viewerId occasionId body) := by
  refine Serves.bind (requireOwned_serves viewerId occasionId) fun _ _ => ?_
  refine Serves.bind (Serves.validated (Validates.required _ _ _)) fun daysBefore _ => ?_
  refine Serves.bind (Serves.validated (reminderChannel_checks body.channel)) fun channel _ => ?_
  exact upsertReminder_serves viewerId channel occasionId daysBefore _

theorem deleteReminder_serves (viewerId : String) (occasionId reminderId : Nat) :
    Serves (fun _ => True) (deleteReminder viewerId occasionId reminderId) := by
  refine Serves.bind (P := fun _ => True) (Serves.query fun _ _ _ => trivial) fun found _ => ?_
  refine Serves.bind (Serves.ensure fun h => nomatch h) fun _ _ => ?_
  refine Serves.bind (keep_serves (fun w x u htx => ?_) fun w e htx => ?_) fun _ _ => Serves.pure trivial
  · obtain ⟨-, rfl⟩ := Delegate.delete_eq_ok.mp htx
    rfl
  · rw [Delegate.error_of_delete htx]
    exact of_decide_eq_true rfl

theorem listRemindersForOccasion_serves (viewerId : String) (occasionId : Nat) :
    Serves (fun _ => True) (listRemindersForOccasion viewerId occasionId) :=
  Serves.bind (requireOwned_serves viewerId occasionId) fun _ _ => Serves.query fun _ _ _ => trivial

/-- No request fails because of a date, whichever it is. -/
theorem program_serves (c : Call) : Serves (fun _ => True) (program c) := by
  cases c with
  | tick elapsed =>
      refine (keep_serves (fun w x u htx => ?_) fun w e htx => ?_).map
      · cases htx
        rfl
      · cases htx
  | accounts a =>
      refine (keep_serves (fun w x u htx => ?_) fun w e htx => ?_).map
      · cases htx
        rfl
      · cases htx
  | create viewerId body => exact (create_serves viewerId body).map
  | listMine viewerId => exact (listMine_serves viewerId).map
  | findOneOwned viewerId id => exact (findOneOwned_serves viewerId id).map
  | update viewerId id body => exact (update_request_serves viewerId id body).map
  | softDelete viewerId id => exact (softDelete_serves viewerId id).map
  | listForUser viewerId ownerId => exact (listForUser_serves viewerId ownerId).map
  | listUpcomingForFollowed viewerId windowDays limit =>
      exact (listUpcomingForFollowed_serves viewerId windowDays limit).map
  | upsertReminder viewerId occasionId body => exact (upsertReminder_request_serves viewerId occasionId body).map
  | deleteReminder viewerId occasionId reminderId =>
      exact (deleteReminder_serves viewerId occasionId reminderId).map
  | listRemindersForOccasion viewerId occasionId => exact (listRemindersForOccasion_serves viewerId occasionId).map

instance (year : Int) : Decidable (Convertible year) :=
  have (month days : Int) :
      Decidable (∀ day, 1 ≤ day → day ≤ days → (Umalqura.hijriToGregorian year month day).isSome = true) :=
    Int.decidableLELE (fun day => (Umalqura.hijriToGregorian year month day).isSome = true) 1 days
  have : DecidablePred fun month => ∃ days, Umalqura.getDaysInMonth year month = some days ∧ 1 ≤ days ∧
      ∀ day, 1 ≤ day → day ≤ days → (Umalqura.hijriToGregorian year month day).isSome = true :=
    fun _ => decideSome _ fun _ => instDecidableAnd
  Int.decidableLELE _ 1 12

instance (date : Time) : Decidable (Covered date) := decideSome _ fun _ => instDecidableAnd

instance (calendar : Calendar) (year : Int) : Decidable (calendar.Converts year) := by
  unfold Calendar.Converts
  infer_instance

instance (patch : OccasionPatch) (r : Occasion) : Decidable (KeepsYear patch r) :=
  have := decideSome (patch.write r).year fun year =>
    (inferInstance : Decidable ((patch.write r).calendar.Converts year))
  inferInstanceAs (Decidable (_ → _))

instance (e : Event Occasions Step) : Decidable (Wary e) := by
  unfold Wary
  split
  next data _ =>
    have := decideAll data.year fun year => (inferInstance : Decidable (data.calendar.Converts year))
    infer_instance
  next id patch _ => exact decideAll _ fun r => inferInstance
  all_goals infer_instance

end Umalqura

namespace Pilot

/-- The lengths of the months of 1447. -/
def months : List Int := [30, 29, 30, 30, 30, 29, 30, 29, 30, 29, 30, 29]

/-- 1 Muharram 1447. -/
def newYear : Int := makeDay 2025 5 26

/-- The library, with the tables of one year. -/
@[reducible] def year1447 : Umalqura where
  getDaysInMonth year month := if year = 1447 ∧ 1 ≤ month then months[(month - 1).toNat]? else none
  hijriToGregorian year month day :=
    if year = 1447 ∧ 1 ≤ month ∧ month ≤ 12 then
      some (civilFromDays (newYear + (months.take (month - 1).toNat).sum + day - 1))
    else none
  hy date := if newYear ≤ date / dayMillis ∧ date / dayMillis < newYear + months.sum then some 1447 else none

/-- Follow a schedule from the empty database. -/
def played (schedule : List (Choice Call)) : List (Event Occasions Step) × Config Occasions Step (Except Err Reply) :=
  Config.play (@program year1447) ⟨empty, []⟩ schedule

theorem run (schedule : List (Choice Call)) : @Run year1447 (played schedule).1 (played schedule).2 := by
  have hinit : @Run year1447 [] ⟨empty, []⟩ := Exec.init
  simpa [played] using hinit.play schedule

/-- Start a call and let it end. -/
def toEnd (c : Call) : List (Choice Call) := .start c :: List.replicate 12 (.run 0)

/-- Huda's wedding, on 15 June 2026. -/
def wedding : OccasionInput :=
  { kind := some (.str "wedding"), calendar := some (.str "gregorian"), year := some (.num 2026),
    month := some (.num 6), day := some (.num 15), recurrence := some (.str "once") }

/-- Written on 1 January 2026. -/
def planned : List (Choice Call) :=
  toEnd (.tick (makeDay 2026 0 1 * dayMillis).toNat) ++ toEnd (.create "huda" wedding)

/-- 10 Shawwal 1447. -/
def eid : OccasionInput :=
  { calendar := some (.str "hijri"), year := some (.num 1447), month := some (.num 10), day := some (.num 10) }

def moved : List (Choice Call) := planned ++ toEnd (.update "huda" 0 eid) ++ toEnd (.listMine "huda")

/-- The year alone is emptied. -/
def emptied : List (Choice Call) := planned ++ toEnd (.update "huda" 0 { year := some .null })

end Pilot

end Qift.Occasions
