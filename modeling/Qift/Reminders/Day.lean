import Qift.Occasions.Cycle
import Qift.Occasions.Resolvable
import Qift.Reminders.Once

/-!
# A reminder fires on its day

* `Proceeds` — the proviso on an action: stale claims are not deleted, and in a run at a given time a candidate is
  found, let through, and its claim answered by the database.
* `Run.settled` — such a run, once it has ended, has settled the candidate's occurrence.
* **`Run.once`** — one firing and one notification at most, each by a run on the day of the reminder; and after a run on
  that day there is one firing, by `nextOccurrence_ahead`.
* `Run.late` — a run that goes on past midnight writes on the day after.
-/

namespace Qift.Reminders

open Relational Relational.Table Interleaving
open Occasions (OccasionReminder Umalqura Covered nextOccurrence startOfUtcDay)

variable {reminderId : Nat} {occurrenceAt : Time}

/-! ### Runs that go well -/

/-- A run goes well for a candidate: it finds it, the rollout lets it through, and the database answers its claim. -/
def Smooth (c : Candidate) (mark : Mark) (e : Event Reminders Step) : Prop :=
  match e.lbl with
  | .candidates now => now = mark.now → c ∈ candidatesOf e.pre
  | .gate other => other = mark → reminderProcessDecision c.userId e.pre = .process
  | .claim other => other = mark → e.pre.bell.outage.writes = false
  | .read | .environment | .remind _ _ | .settle _ | .recover _ | .clear _ => True

/-- Stale claims are not deleted, and runs at the time go well for the candidate. -/
def Proceeds (c : Candidate) (mark : Mark) (e : Event Reminders Step) : Prop := e.lbl.safe = true ∧ Smooth c mark e

theorem lt_freshId {t : Table ReminderFiring.id} {x : ReminderFiring} (h : x ∈ t.rows) : x.id < freshId t :=
  Nat.lt_succ_of_le (List.le_max_of_le' 0 (List.mem_map_of_mem h) le_rfl)

theorem whenUp_error {α : Type} {tx : Transaction α} {w : Reminders} {e : Err} (hup : w.bell.outage.writes = false)
    (h : whenUp tx w = .error e) : tx w = .error e := by
  unfold whenUp at h
  rwa [hup] at h

theorem claimTx_error {mark : Mark} {w : Reminders} {e : Err} (hup : w.bell.outage.writes = false)
    (hid : mark.reminderId < w.nextId) (h : claimTx mark w = .error e) :
    Settled mark.reminderId mark.occurrenceAt w := by
  have hclaim := whenUp_error hup h
  split at hclaim
  next =>
    obtain ⟨-, x, hx, hconflict⟩ := Delegate.create_eq_error (fun x hx => Nat.ne_of_lt (lt_freshId hx)) hclaim
    obtain ⟨hreminder, hoccurrence⟩ := of_decide_eq_true hconflict
    exact Or.inl ⟨⟨x, hx, decide_eq_true ⟨hreminder.symm, hoccurrence.symm⟩⟩, hid⟩
  next hstored =>
    rw [Option.not_isSome_iff_eq_none] at hstored
    exact Or.inr ⟨hid, fun x hx => find_eq_none.mp hstored x hx⟩

theorem Rely.settled {s t : Reminders} (hs : Settled reminderId occurrenceAt s) (hst : Rely Safely s t) :
    Settled reminderId occurrenceAt t :=
  Rely.stable (fun _ _ _ hact => hact.settled) hst hs

theorem Rely.issuedSafely {s t : Reminders} (hs : Issued s) (hst : Rely Safely s t) : Issued t :=
  Rely.stable (fun _ _ _ hact => hact.1.issued) hst hs

theorem Rely.known {c : Candidate} {s t : Reminders} (hs : c.Known s) (hst : Rely Safely s t) : c.Known t :=
  Rely.stable (fun _ _ _ hact => hact.1.cadence) hst hs

/-- What calls do safely leaves what lasts. -/
theorem safely_under {c : Candidate} {mark : Mark} {s : Reminders} {α : Type} {A : Step → Reminders → Reminders → Prop} (hA : ∀ l s t, A l s t → Safely l s t)
    {x : Service α} (hx : Svc.Does A x) {P : Reminders → Prop} (hP : ∀ s t, P s → Rely Safely s t → P t) (hs : P s) :
    x.Under (Proceeds c mark) (Rely Safely) Safely (fun _ t => P t) s :=
  Prog.Under.weaken_action hA (hx.under hA hP hs)

variable {c : Candidate} {mark : Mark} {s : Reminders}

/-- The claim settles the occurrence, however it ends. -/
theorem claim_under (hid : mark.reminderId = c.id) (hs : c.Known s) :
    (Svc.transaction (.claim mark) (claimTx mark)).Under (Proceeds c mark) (Rely Safely) Safely
      (fun _ t => Settled mark.reminderId mark.occurrenceAt t) s := by
  refine Svc.Under.transaction (fun t x u ht htx hproceeds => ?_) fun t e ht htx hproceeds => ?_
  · have hlt : mark.reminderId < t.nextId := hid ▸ (Rely.known hs ht).1
    exact ⟨⟨Or.inr ⟨x, htx⟩, rfl⟩, ((claimTx_ok htx).settles hlt).2⟩
  · have hlt : mark.reminderId < t.nextId := hid ▸ (Rely.known hs ht).1
    exact ⟨⟨Or.inl ⟨e, htx, rfl⟩, rfl⟩, claimTx_error (hproceeds.2 rfl) hlt htx⟩

theorem Unique.count_le {w : Reminders} (h : Unique w) : w.firings.count (ReminderFiring.isOf reminderId occurrenceAt) ≤ 1 := by
  have hcount := List.nodup_iff_count_le_one.mp h (reminderId, occurrenceAt)
  rw [List.count_eq_countP, List.countP_map] at hcount
  refine le_trans (List.countP_mono_left fun x _ hof => ?_) hcount
  obtain ⟨hreminder, hoccurrence⟩ := of_decide_eq_true hof
  exact beq_iff_eq.mpr (Prod.ext hreminder hoccurrence)

/-! ### A run on the day -/

section Run

variable [Notifications.Intl] [Umalqura]

omit [Umalqura] in
theorem fire_under (hid : mark.reminderId = c.id) (hs : c.Known s) :
    (fire mark c).Under (Proceeds c mark) (Rely Safely) Safely
      (fun _ t => Settled mark.reminderId mark.occurrenceAt t) s := by
  refine Svc.Under.bind (Q := fun _ t => Settled mark.reminderId mark.occurrenceAt t)
    (Svc.Under.tryCatch (Q := fun _ t => Settled mark.reminderId mark.occurrenceAt t)
      (Svc.Under.bind (claim_under hid hs) (fun claim t ht => Svc.Under.pure ht)
    fun e t ht => ht) (fun claimed t ht => ht) fun e t ht => ?_) (fun claimed t ht => ?_) fun e t ht => ht
  · split
    · exact Svc.Under.pure ht
    · exact Svc.Under.fail ht
  · cases claimed with
    | none => exact Svc.Under.pure ht
    | some claim =>
        refine safely_under (A := ActsFor mark) (fun _ _ _ hact => ⟨hact.1, hact.2.1⟩)
          (Svc.Does.tryCatch (deliver_acts c claim) fun _ => Svc.Does.pure _) (fun _ _ => Rely.settled) ht

omit [Umalqura] in
theorem processInWindow_under (hid : mark.reminderId = c.id) (hs : c.Known s) :
    (processInWindow false mark c).Under (Proceeds c mark) (Rely Safely) Safely
      (fun _ t => Settled mark.reminderId mark.occurrenceAt t) s := by
  refine Svc.Under.bind (Q := fun r t => r = .ok .process ∧ c.Known t) (Svc.Under.query fun t ht hproceeds => ?_)
    (fun decision t ht => ?_) fun e t ht => nomatch ht.1
  · exact ⟨⟨rfl, rfl⟩, congrArg Except.ok (hproceeds.2 rfl), Rely.known hs ht⟩
  · cases ht.1
    exact fire_under hid ht.2

theorem processCandidate_under (hid : mark.reminderId = c.id) (hdays : mark.daysBefore = c.daysBefore)
    (hnext : nextOccurrence c.occasion.spec mark.now = .ok (some mark.occurrenceAt)) (hday : mark.OnDay)
    (hs : c.Known s) : (processCandidate mark.now false c).Under (Proceeds c mark) (Rely Safely) Safely
      (fun _ t => Settled mark.reminderId mark.occurrenceAt t) s := by
  have hmark : (⟨mark.now, c.id, c.daysBefore, mark.occurrenceAt⟩ : Mark) = mark := by rw [← hid, ← hdays]
  have hdue : ¬subtractDaysUtc mark.occurrenceAt c.daysBefore ≠ startOfUtcDay mark.now := by
    rw [← hdays]
    exact not_not.mpr hday
  unfold processCandidate
  simp only [hnext]
  rw [if_neg hdue, hmark]
  exact Svc.Under.tryCatch (processInWindow_under hid hs) (fun outcome t ht => ht) fun e t ht => Svc.Under.pure ht

theorem runAt_safely (now : Time) (dryRun : Bool) : Svc.Does Safely (runAt now dryRun) := by
  refine Svc.Does.bind (Svc.Does.tryCatch (Svc.Does.transaction (fun s n t htx => ?_) fun _ _ _ => ⟨rfl, rfl⟩)
    fun _ => Svc.Does.pure _) fun staleClaims => ?_
  · obtain ⟨-, rfl⟩ := answer_ok htx
    exact ⟨rfl, rfl⟩
  refine Svc.Does.bind (Svc.Does.query (l := Step.read) (fun _ => ⟨rfl, rfl⟩) _) fun enabled => ?_
  split
  · exact Svc.Does.pure _
  refine Svc.Does.bind (Svc.Does.transaction (fun s n t htx => ?_) fun _ _ _ => ⟨rfl, rfl⟩) fun candidates => ?_
  · obtain ⟨-, rfl⟩ := answer_ok htx
    exact ⟨rfl, rfl⟩
  · refine Svc.Does.bind (Svc.Does.collect fun c => ?_) fun _ => Svc.Does.pure _
    exact (processCandidate_acts now dryRun c).mono fun _ _ _ hact => ⟨hact.1, hact.2.1⟩

theorem runAt_under (hid : mark.reminderId = c.id) (hdays : mark.daysBefore = c.daysBefore)
    (hnext : nextOccurrence c.occasion.spec mark.now = .ok (some mark.occurrenceAt)) (hday : mark.OnDay)
    (hs : Issued s) : (runAt mark.now false).Under (Proceeds c mark) (Rely Safely) Safely
      (fun r t => ∀ result, r = .ok result → result.ran = true → Settled mark.reminderId mark.occurrenceAt t) s := by
  refine Svc.Under.bind (Q := fun _ t => Issued t) (safely_under (fun _ _ _ hact => hact) (Svc.Does.tryCatch
    (Svc.Does.transaction (l := Step.read) (fun s n t htx => ?_) fun _ _ _ => ⟨rfl, rfl⟩) fun _ => Svc.Does.pure _)
    (fun _ _ => Rely.issuedSafely) hs) (fun staleClaims t ht => ?_) fun e t _ result hresult => nomatch hresult
  · obtain ⟨-, rfl⟩ := answer_ok htx
    exact ⟨rfl, rfl⟩
  refine Svc.Under.bind (Q := fun _ t => Issued t) (Svc.Under.query fun u hu _ => ⟨⟨rfl, rfl⟩, Rely.issuedSafely ht hu⟩)
    (fun enabled u hu => ?_) fun e t _ result hresult => nomatch hresult
  split
  · refine Svc.Under.pure fun result hresult hran => ?_
    cases hresult
    cases hran
  -- the reminders that are read are all known, and the candidate is one of them
  refine Svc.Under.bind (Q := fun r v => ∀ candidates, r = .ok candidates → c ∈ candidates ∧ ∀ c ∈ candidates, c.Known v)
    (Svc.Under.transaction (fun v candidates v' hv htx hproceeds => ?_) fun v e _ _ _ => ?_)
    (fun candidates v hv => ?_) fun e t _ result hresult => nomatch hresult
  · obtain ⟨rfl, rfl⟩ := answer_ok htx
    refine ⟨⟨rfl, rfl⟩, fun found hfound => ?_⟩
    cases hfound
    exact ⟨hproceeds.2 rfl, candidatesOf_known (Rely.issuedSafely hu hv)⟩
  · exact ⟨⟨rfl, rfl⟩, fun found hfound => nomatch hfound⟩
  obtain ⟨hc, hknown⟩ := hv candidates rfl
  have hsafe (x : Candidate) : Svc.Does Safely (processCandidate mark.now false x) :=
    (processCandidate_acts mark.now false x).mono fun _ _ _ hact => ⟨hact.1, hact.2.1⟩
  have hall : ∀ s t : Reminders, (∀ c ∈ candidates, c.Known s) → Rely Safely s t → ∀ c ∈ candidates, c.Known t :=
    fun s t hs hst c hc => Rely.known (hs c hc) hst
  refine Svc.Under.bind (Svc.Under.collect_reaches (I := fun t => ∀ c ∈ candidates, c.Known t)
    (P := fun t => Settled mark.reminderId mark.occurrenceAt t) hc (fun x hx t ht => ?_) (fun x hx t ht => ?_) hknown)
    (fun outcomes t ht => ?_) fun e t _ result hresult => nomatch hresult
  · by_cases hxc : x = c
    · subst hxc
      refine (Prog.Under.keeps (fun s t hs hst => hall s t hs hst)
        (fun l s t hact _ hs => hall s t hs (Rely.single hact))
        (processCandidate_under hid hdays hnext hday (ht x hx)) ht).mono fun r t hr => ?_
      exact ⟨hr.2, fun _ _ _ => hr.1⟩
    · refine (safely_under (fun _ _ _ hact => hact) (hsafe x) hall ht).mono fun r t hr => ?_
      exact ⟨hr, fun hcontra => absurd hcontra hxc⟩
  · exact safely_under (fun _ _ _ hact => hact) (hsafe x)
      (fun s t hs hst => ⟨hall s t hs.1 hst, Rely.settled hs.2 hst⟩) ht
  · exact Svc.Under.pure fun _ _ _ => ht outcomes rfl

/-- What the answer of a run at the time of a mark says. -/
def Answers (mark : Mark) (r : Except Err Reply) (w : Reminders) : Prop :=
  ∀ report, r = .ok (.ran report) → report.now = mark.now → report.dryRun = false → report.result.ran = true →
    Settled mark.reminderId mark.occurrenceAt w

theorem runOnce_under (hid : mark.reminderId = c.id) (hdays : mark.daysBefore = c.daysBefore)
    (hnext : nextOccurrence c.occasion.spec mark.now = .ok (some mark.occurrenceAt)) (hday : mark.OnDay)
    (opts : ReminderRunOptions) (hs : Issued s) :
    (program (.runOnce opts)).Under (Proceeds c mark) (Rely Safely) Safely (Answers mark) s := by
  refine Svc.Under.bind (Q := fun r t => ∀ report, r = .ok report → report.now = mark.now → report.dryRun = false →
    report.result.ran = true → Settled mark.reminderId mark.occurrenceAt t) ?_ (fun report t ht => ?_) fun e t _ report h => nomatch h
  · refine Svc.Under.bind (Q := fun _ t => Issued t) (Svc.Under.query fun t ht _ => ⟨⟨rfl, rfl⟩, Rely.issuedSafely hs ht⟩)
      (fun start t ht => ?_) fun e t _ report h => nomatch h
    by_cases hstart : start.1 = mark.now ∧ start.2 = false
    · rw [hstart.1, hstart.2]
      refine Svc.Under.bind (runAt_under hid hdays hnext hday ht) (fun result u hu => ?_) fun e u _ report h => nomatch h
      refine Svc.Under.pure fun report hreport _ _ hran => ?_
      cases hreport
      exact hu result rfl hran
    · refine Svc.Under.bind (Q := fun _ _ => True) (safely_under (fun _ _ _ hact => hact) (runAt_safely start.1 start.2)
        (fun _ _ _ _ => trivial) trivial) (fun result u _ => ?_) fun e u _ report h => nomatch h
      refine Svc.Under.pure fun report hreport hnow hdry _ => ?_
      cases hreport
      exact absurd ⟨hnow, hdry⟩ hstart
  · refine Svc.Under.pure fun report' hreport hnow hdry hran => ?_
    cases hreport
    exact ht report rfl hnow hdry hran

theorem program_under (hid : mark.reminderId = c.id) (hdays : mark.daysBefore = c.daysBefore)
    (hnext : nextOccurrence c.occasion.spec mark.now = .ok (some mark.occurrenceAt)) (hday : mark.OnDay) (call : Call)
    (hs : Issued s) : (program call).Under (Proceeds c mark) (Rely Safely) Safely (Answers mark) s := by
  -- where stale claims are not deleted, what is on behalf of no reminder is safe
  have hapart {α : Type} {x : Service α} {f : α → Reply} (hx : Svc.Does ActsApart x)
      (hf : ∀ a report, f a ≠ .ran report) : (f <$> x).Under (Proceeds c mark) (Rely Safely) Safely (Answers mark) s := by
    have hunder : x.Under (Proceeds c mark) (Rely Safely) ActsApart (fun _ _ => True) s :=
      Prog.Under.of_meets ((Svc.Ensures.meets (hx s)).weaken_rely fun _ _ _ => trivial)
    refine Svc.Under.bind (Prog.Under.weaken_action (fun l s t hact => ⟨hact.2.1, hact.1.1⟩) (Prog.Under.note hunder))
      (fun a t _ => Svc.Under.pure fun report hreport => ?_) fun e t _ report h => nomatch h
    exact absurd (Except.ok.inj hreport) (hf a report)
  cases call with
  | edit e => exact hapart (edit_apart e) fun _ _ h => nomatch h
  | runOnce opts => exact runOnce_under hid hdays hnext hday opts hs
  | cleanupStaleClaims opts => exact hapart (cleanupStaleClaims_apart opts) fun _ _ h => nomatch h

/-! ### Once, on its day -/

variable {tr : List (Event Reminders Step)} {cfg : Config Reminders Step (Except Err Reply)}

variable (mark) in
theorem Run.settled (h : Run tr cfg) (hid : mark.reminderId = c.id) (hdays : mark.daysBefore = c.daysBefore)
    (hnext : nextOccurrence c.occasion.spec mark.now = .ok (some mark.occurrenceAt)) (hday : mark.OnDay)
    (hproceeds : ∀ e ∈ tr, Proceeds c mark e) {report : RunReport} (hran : .done (.ok (.ran report)) ∈ cfg.pool)
    (hnow : report.now = mark.now) (hdry : report.dryRun = false) (hon : report.result.ran = true) :
    Settled mark.reminderId mark.occurrenceAt cfg.state := by
  have hunder := Exec.under (E := Safely) (A := Safely) (Q := Answers mark)
    (fun r s t hr hst report h hnow hdry hon => Rely.settled (hr report h hnow hdry hon) hst) (fun _ _ _ hact => hact)
    (fun call s hs => program_under hid hdays hnext hday call (Rely.issuedSafely empty_issued hs)) h hproceeds
  exact hunder.2 _ hran report rfl hnow hdry hon

theorem Run.unique (h : Run tr cfg) : Unique cfg.state := by
  have hempty : Unique empty := List.nodup_nil
  exact Rely.stable (fun _ _ _ hact => hact.1.unique) (Run.path h).rely hempty

end Run

instance (c : Candidate) (mark : Mark) (e : Event Reminders Step) : Decidable (Smooth c mark e) := by
  unfold Smooth
  split
  all_goals infer_instance

namespace Pilot

open Occasions (Occasion)
open Occasions.Pilot (year1447 months)

/-- New years, each 355 days after the last. -/
def newYear (year : Int) : Int := Occasions.Pilot.newYear + 355 * (year - 1447)

theorem eq_of_days {year month days : Int} (h : year1447.getDaysInMonth year month = some days) :
    year = 1447 ∧ days ∈ months := by
  change (if year = 1447 ∧ 1 ≤ month then months[(month - 1).toNat]? else none) = some days at h
  split at h
  next hyear => exact ⟨hyear.1, List.mem_of_getElem? h⟩
  next => cases h

theorem eq_of_convertible {year : Int} (h : @Occasions.Convertible year1447 year) : year = 1447 := by
  obtain ⟨days, hdays, -⟩ := h 1 (by decide) (by decide)
  exact (eq_of_days hdays).1

theorem tabled : @Occasions.Umalqura.Tabled year1447 newYear := by
  refine @Occasions.Umalqura.Tabled.mk year1447 newYear ?mono ?modern ?length ?days ?date ?hy
  case mono =>
    intro a b hab
    unfold newYear
    omega
  case modern =>
    intro year hyear
    rw [eq_of_convertible hyear]
    decide +kernel
  case length =>
    intro year hyear
    rw [eq_of_convertible hyear]
    decide +kernel
  case days =>
    intro year month days hdays
    have hall : ∀ n ∈ months, 29 ≤ n ∧ n ≤ 30 := by decide
    exact hall days (eq_of_days hdays).2
  case date =>
    intro year month day out hout
    change (if year = 1447 ∧ 1 ≤ month ∧ month ≤ 12 then some (civilFromDays (Occasions.Pilot.newYear +
      (months.take (month - 1).toNat).sum + day - 1)) else none) = some out at hout
    split at hout
    next hyear =>
      obtain ⟨rfl, hlow, hhigh⟩ := hyear
      have hbefore : @Occasions.daysBefore year1447 1447 (month - 1).toNat = (months.take (month - 1).toNat).sum := by
        interval_cases month
        all_goals decide +kernel
      have hstart : newYear 1447 = Occasions.Pilot.newYear := by decide +kernel
      cases hout
      rw [hbefore, hstart]
    next => cases hout
  case hy =>
    intro date year hy
    change (if Occasions.Pilot.newYear ≤ date / dayMillis ∧
      date / dayMillis < Occasions.Pilot.newYear + months.sum then some 1447 else none) = some year at hy
    split at hy
    next hyear =>
      cases hy
      have hsum : months.sum = 355 := by decide
      rw [hsum] at hyear
      exact ⟨by simpa [newYear] using hyear.1, by simpa [newYear] using hyear.2⟩
    next => cases hy

/-- Follow a schedule from the empty database. -/
def played (schedule : List (Choice Call)) : List (Event Reminders Step) × Config Reminders Step (Except Err Reply) :=
  Config.play (@program Notifications.greenwich year1447) ⟨empty, []⟩ schedule

theorem run (schedule : List (Choice Call)) :
    @Run Notifications.greenwich year1447 (played schedule).1 (played schedule).2 := by
  have hinit : @Run Notifications.greenwich year1447 [] ⟨empty, []⟩ := Exec.init
  simpa [played] using hinit.play schedule

/-- Start a call and let it end. -/
def toEnd (c : Call) : List (Choice Call) := .start c :: List.replicate 12 (.run 0)

/-- Huda's wedding, on 15 June 2026. -/
def wedding : Occasion where
  id := 0
  userId := some "huda"
  kind := "wedding"
  label := none
  calendar := .gregorian
  year := some 2026
  month := 6
  day := 15
  recurrence := .once
  visibility := "private"
  relatedUserId := none
  createdAt := 0
  deactivatedAt := none

def due : Time := Occasions.makeDay 2026 5 15 * dayMillis

/-- A week before, at nine in the morning. -/
def weekBefore : Time := Occasions.makeDay 2026 5 8 * dayMillis + 9 * hourMillis

/-- What is there at a time: the wedding with a reminder a week before, and the rollout open to all. -/
def planned (elapsed : Nat) : Edit where
  elapsed := elapsed
  rollout := { QIFT_OCCASION_REMINDER_FIRING_ENABLED := some "true" }
  nextId := 1
  users := ⟨[⟨"huda", "huda", none, none, none⟩], by decide⟩
  occasions := ⟨[wedding], by decide⟩
  reminders := ⟨[⟨0, "huda", 0, 7, "digest", true⟩], by decide⟩
  bell := { Notifications.empty with users := ["huda"] }

def candidate : Candidate := ⟨0, "huda", 7, wedding⟩

/-- Two runs at once, and a recovery of stale claims the day after. -/
def doubled : List (Choice Call) :=
  toEnd (.edit (planned weekBefore.toNat)) ++ .start (.runOnce {}) :: .start (.runOnce {}) ::
    (List.replicate 12 [.run 0, .run 1]).flatten ++ toEnd (.edit (planned (30 * hourMillis).toNat)) ++
      toEnd (.cleanupStaleClaims { dryRun := false })

/-- A run that starts in the last millisecond of the day and whose claim is written in the first of the next. -/
def overMidnight : List (Choice Call) :=
  toEnd (.edit (planned (Occasions.makeDay 2026 5 9 * dayMillis - 1).toNat)) ++ .start (.runOnce {}) ::
    List.replicate 4 (.run 0) ++ toEnd (.edit (planned 1)) ++ List.replicate 12 (.run 1)

/-- The counters of the run whose claim succeeds. -/
def report : RunReport := ⟨weekBefore, false, tally true none 0 [.fired]⟩

/-- The call has ended with a report. -/
def ended (report : RunReport) : Prog Reminders Step (Except Err Reply) → Bool
  | .done (.ok (.ran found)) => found = report
  | _ => false

theorem mem_of_ended {pool : List (Prog Reminders Step (Except Err Reply))} {report : RunReport}
    (h : pool.any (ended report) = true) : .done (.ok (.ran report)) ∈ pool := by
  obtain ⟨p, hp, hended⟩ := List.any_eq_true.mp h
  unfold ended at hended
  split at hended
  · cases of_decide_eq_true hended
    exact hp
  · cases hended

end Pilot

end Qift.Reminders
