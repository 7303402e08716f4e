import Qift.Lib.Row
import Qift.Lib.Window
import Qift.Notifications.Orchestrator

/-!
# The budget of notifications

* `Entry` is a call with the state it found, its answer and the state it left; `Run` is any sequence of calls, each at
  the clock of its state, with anything in between that deletes no notification.
* `Covered` — whatever was sent in real time since an instant is counted among the rows since then.
* **`Run.budget`** — no window holds more real-time sends of an optional category than its cap, and what each call leaves.
-/

namespace Qift.Notifications

open Relational Interleaving

/-! ### Calls and what came of them -/

/-- A call at the clock of the state it found. -/
structure Entry where
  input : EnqueueInput
  pre : Notifications
  result : Except Err EnqueueResult
  post : Notifications

/-- When a call was made. -/
def Entry.time (e : Entry) : Time := e.pre.now

def Entry.category (e : Entry) : NotificationCategory := e.input.categoryOf

/-- The call was sent in real time. -/
def Entry.sent (e : Entry) : Bool :=
  match e.result with
  | .ok (.sent _ _ _) => true
  | _ => false

/-- A real-time send to a user in a category. -/
def Entry.sentTo (userId : String) (category : NotificationCategory) (e : Entry) : Bool :=
  e.sent && decide (e.input.userId = userId ∧ e.category = category)

/-- What a call reads of the preferences says that the user opted out. -/
def Entry.optedOut (e : Entry) : Bool :=
  !isMandatory e.category && readOptOut (preferencesOf e.input.userId e.pre).categoryOptOuts e.category

/-- The database answers what the call asks and takes its row. -/
def Entry.served (e : Entry) : Bool := (isMandatory e.category || !e.pre.outage.reads) && accepts e.input.userId e.pre

/-- The columns that are counted stay as they are. -/
def SameSlot (x y : Notification) : Prop :=
  y.userId = x.userId ∧ y.category = x.category ∧ y.createdAt = x.createdAt

/-- No notification is deleted. -/
def Retains (w w' : Notifications) : Prop := w.notifications.Evolves SameSlot w'.notifications

/-- One row is added, and nothing is done to the others. -/
def AddsRow (x : Notification) (w w' : Notifications) : Prop :=
  w'.notifications.rows = w.notifications.rows ++ [x]

/-- What becomes of a call. -/
structure Entry.Answered (e : Entry) : Prop where
  /-- A user who opted out is left alone. -/
  optedOut : e.optedOut = true → e.sent = false ∧ e.post = e.pre
  /-- Where the database does not take part, nothing is sent, and nothing is left. -/
  refused : e.served = false → e.sent = false ∧ e.post = e.pre
  mandatory : isMandatory e.category = true → e.served = true → e.sent = true
  /-- Every other call leaves one row, which is stamped if and only if it was sent. -/
  recorded : e.optedOut = false → e.served = true →
    AddsRow (written e.input (if e.sent then some e.time else none) e.pre) e.pre e.post
  pushed : e.post.pushes = e.pre.pushes ++ if e.sent && isPushDeliveryEnabled e.pre then [pushOf e.input] else []

section Calls

variable [Intl]

/-- The calls so far, each at the clock of its state, and the state they led to. -/
inductive Run (w₀ : Notifications) : List Entry → Notifications → Prop
  | nil : Run w₀ [] w₀
  | enqueue {log : List Entry} {w : Notifications} (h : Run w₀ log w) (l : Step) (input : EnqueueInput)
      (hnow : input.now.getD w.now = w.now) :
      Run w₀ (log ++ [⟨input, w, ((enqueue l input).exec w).1, ((enqueue l input).exec w).2⟩])
        ((enqueue l input).exec w).2
  /-- The clock, the preferences, the stamps, other rows. -/
  | other {log : List Entry} {w w' : Notifications} (h : Run w₀ log w) (hretains : Retains w w') : Run w₀ log w'

/-! ### One call -/

omit [Intl] in
theorem stored_rows (input : EnqueueInput) (pushDeliveredAt : Option Time) (w : Notifications) :
    (stored input pushDeliveredAt w).notifications.rows = w.notifications.rows ++ [written input pushDeliveredAt w] := by
  obtain ⟨t, ht⟩ := create_written input pushDeliveredAt w
  rw [stored, ht]
  exact (Table.create_eq_some ht).1

omit [Intl] in
@[simp] theorem stored_pushes (input : EnqueueInput) (pushDeliveredAt : Option Time) (w : Notifications) :
    (stored input pushDeliveredAt w).pushes = w.pushes := by
  obtain ⟨t, ht⟩ := create_written input pushDeliveredAt w
  rw [stored, ht]

omit [Intl] in
@[simp] theorem stored_environment (input : EnqueueInput) (pushDeliveredAt : Option Time) (w : Notifications) :
    (stored input pushDeliveredAt w).environment = w.environment := by
  obtain ⟨t, ht⟩ := create_written input pushDeliveredAt w
  rw [stored, ht]

omit [Intl] in
@[simp] theorem pushed_notifications (input : EnqueueInput) (w : Notifications) :
    (pushed input w).notifications = w.notifications := by
  unfold pushed
  split <;> rfl

omit [Intl] in
theorem pushed_pushes (input : EnqueueInput) (w : Notifications) :
    (pushed input w).pushes = w.pushes ++ if isPushDeliveryEnabled w then [pushOf input] else [] := by
  unfold pushed
  split
  · rfl
  · exact (List.append_nil _).symm

theorem decisionIn_suppress {input : EnqueueInput} {now : Time} {w : Notifications} {reason : String}
    (hoptional : isMandatory input.categoryOf = false) : decisionIn input now w = .suppress reason ↔
      readOptOut (preferencesOf input.userId w).categoryOptOuts input.categoryOf = true ∧ reason = "user_opted_out" :=
  evaluateBudget_suppress hoptional

/-- What a call can come to. -/
inductive Outcome (input : EnqueueInput) (now : Time) (w : Notifications) : Except Err EnqueueResult → Notifications → Prop
  | sent (haccepts : accepts input.userId w = true)
      (hcaps : isMandatory input.categoryOf = false → w.outage.reads = false ∧ decisionIn input now w = .send_realtime) :
      Outcome input now w (.ok (.sent (freshId w.notifications) input.categoryOf true))
        (Notifications.pushed input (stored input (some now) w))
  | queued (reason : String) (haccepts : accepts input.userId w = true)
      (hdecision : isMandatory input.categoryOf = false ∧ w.outage.reads = false ∧
        decisionIn input now w = .queue_digest reason) :
      Outcome input now w (.ok (.queued_for_digest (freshId w.notifications) input.categoryOf reason))
        (stored input none w)
  | suppressed (hdecision : isMandatory input.categoryOf = false ∧ w.outage.reads = false ∧
        decisionIn input now w = .suppress "user_opted_out") :
      Outcome input now w (.ok (.suppressed input.categoryOf "user_opted_out")) w
  | refused (r : Except Err EnqueueResult)
      (hr : r = .ok (.suppressed input.categoryOf "db_error") ∧ accepts input.userId w = false ∨
        r = .error (.error "database unreachable") ∧ isMandatory input.categoryOf = false ∧ w.outage.reads = true) :
      Outcome input now w r w

theorem sent_outcome {input : EnqueueInput} {now : Time} {w : Notifications}
    (hcaps : isMandatory input.categoryOf = false → w.outage.reads = false ∧ decisionIn input now w = .send_realtime) :
    Outcome input now w (Notifications.sent input now w).1 (Notifications.sent input now w).2 := by
  unfold Notifications.sent
  by_cases haccepts : accepts input.userId w = true
  · rw [if_pos haccepts]
    exact .sent haccepts hcaps
  · rw [if_neg haccepts]
    exact .refused _ (Or.inl ⟨rfl, eq_false_of_ne_true haccepts⟩)

theorem queued_outcome {input : EnqueueInput} {now : Time} {w : Notifications} {reason : String}
    (hdecision : isMandatory input.categoryOf = false ∧ w.outage.reads = false ∧
      decisionIn input now w = .queue_digest reason) :
    Outcome input now w (queued input reason w).1 (queued input reason w).2 := by
  unfold queued
  by_cases haccepts : accepts input.userId w = true
  · rw [if_pos haccepts]
    exact .queued reason haccepts hdecision
  · rw [if_neg haccepts]
    exact .refused _ (Or.inl ⟨rfl, eq_false_of_ne_true haccepts⟩)

/-- **What a call comes to.** -/
theorem settled_outcome (input : EnqueueInput) (now : Time) (w : Notifications) :
    Outcome input now w (settled input now w).1 (settled input now w).2 := by
  unfold settled
  by_cases hmandatory : isMandatory input.categoryOf = true
  · rw [if_pos hmandatory]
    exact sent_outcome fun h => absurd hmandatory (by simp [h])
  rw [if_neg hmandatory]
  have hoptional : isMandatory input.categoryOf = false := eq_false_of_ne_true hmandatory
  by_cases hreads : w.outage.reads = true
  · rw [if_pos hreads]
    exact .refused _ (Or.inr ⟨rfl, hoptional, hreads⟩)
  rw [if_neg hreads]
  have hanswers : w.outage.reads = false := eq_false_of_ne_true hreads
  cases hdecision : decisionIn input now w with
  | suppress reason =>
      obtain ⟨-, rfl⟩ := (decisionIn_suppress hoptional).mp hdecision
      exact .suppressed ⟨hoptional, hanswers, hdecision⟩
  | queue_digest reason => exact queued_outcome ⟨hoptional, hanswers, hdecision⟩
  | send_realtime => exact sent_outcome fun _ => ⟨hanswers, hdecision⟩

/-- Every call is answered as it should be. -/
theorem Outcome.answered {input : EnqueueInput} {w w' : Notifications} {r : Except Err EnqueueResult}
    (h : Outcome input w.now w r w') : Entry.Answered ⟨input, w, r, w'⟩ := by
  cases h with
  | sent haccepts hcaps =>
      have hserved : (isMandatory input.categoryOf || !w.outage.reads) = true := by
        cases hmandatory : isMandatory input.categoryOf with
        | true => rfl
        | false => rw [(hcaps hmandatory).1]; rfl
      constructor
      · intro hopted
        simp only [Entry.optedOut, Entry.category, Bool.and_eq_true, Bool.not_eq_true'] at hopted
        have hsend := (hcaps hopted.1).2
        rw [(decisionIn_suppress hopted.1).mpr ⟨hopted.2, rfl⟩] at hsend
        cases hsend
      · intro hrefused
        simp [Entry.served, Entry.category, hserved, haccepts] at hrefused
      · exact fun _ _ => rfl
      · intro _ _
        rw [AddsRow, pushed_notifications, stored_rows]
        rfl
      · rw [pushed_pushes, stored_pushes]
        simp [Entry.sent, isPushDeliveryEnabled]
  | queued reason haccepts hdecision =>
      obtain ⟨hoptional, hanswers, hqueue⟩ := hdecision
      constructor
      · intro hopted
        simp only [Entry.optedOut, Entry.category, Bool.and_eq_true, Bool.not_eq_true'] at hopted
        rw [(decisionIn_suppress hoptional).mpr ⟨hopted.2, rfl⟩] at hqueue
        cases hqueue
      · intro hrefused
        simp [Entry.served, Entry.category, hanswers, haccepts] at hrefused
      · intro hmandatory
        rw [Entry.category, hoptional] at hmandatory
        cases hmandatory
      · intro _ _
        rw [AddsRow, stored_rows]
        rfl
      · rw [stored_pushes]
        simp [Entry.sent]
  | suppressed hdecision =>
      obtain ⟨hoptional, hanswers, hsuppress⟩ := hdecision
      constructor
      · exact fun _ => ⟨rfl, rfl⟩
      · exact fun _ => ⟨rfl, rfl⟩
      · intro hmandatory
        rw [Entry.category, hoptional] at hmandatory
        cases hmandatory
      · intro hopted
        have hout := ((decisionIn_suppress hoptional).mp hsuppress).1
        rw [Entry.optedOut, Entry.category, hoptional, hout] at hopted
        cases hopted
      · exact (List.append_nil _).symm
  | refused _ hr =>
      have hserved : Entry.served ⟨input, w, r, w⟩ = false := by
        rcases hr with ⟨-, haccepts⟩ | ⟨-, hoptional, hreads⟩
        · simp [Entry.served, haccepts]
        · simp [Entry.served, Entry.category, hoptional, hreads]
      have hsent : Entry.sent ⟨input, w, r, w⟩ = false := by
        rcases hr with ⟨rfl, -⟩ | ⟨rfl, -⟩
        · rfl
        · rfl
      constructor
      · exact fun _ => ⟨hsent, rfl⟩
      · exact fun _ => ⟨hsent, rfl⟩
      · intro _ h
        rw [hserved] at h
        cases h
      · intro _ h
        rw [hserved] at h
        cases h
      · rw [hsent]
        exact (List.append_nil _).symm

/-! ### The caps -/

omit [Intl] in
/-- A row that stays is counted as before. -/
theorem Retains.countSince {w w' : Notifications} (h : Retains w w') (userId : String) (category : NotificationCategory)
    (since : Time) : countSince userId category since w ≤ countSince userId category since w' := by
  refine Table.Evolves.count_le h fun r r' hr hq => ?_
  obtain ⟨huser, hcategory, hcreated⟩ := hr
  rw [huser, hcategory, hcreated]
  exact hq

omit [Intl] in
theorem AddsRow.countSince {x : Notification} {w w' : Notifications} (h : AddsRow x w w') (userId : String)
    (category : NotificationCategory) (since : Time) : countSince userId category since w' =
      countSince userId category since w +
        if x.userId = userId ∧ x.category = some category.name ∧ since ≤ x.createdAt then 1 else 0 := by
  unfold Notifications.countSince Table.count
  rw [h, List.countP_append, List.countP_singleton]
  simp only [decide_eq_true_eq]

/-- Whatever was sent since an instant is counted among the rows since then. -/
def Covered (log : List Entry) (w : Notifications) : Prop :=
  ∀ userId category since,
    log.countP (Window.since (Entry.sentTo userId category) Entry.time since) ≤ countSince userId category since w

omit [Intl] in
theorem Entry.Answered.leaves {e : Entry} (he : e.Answered) :
    e.sent = false ∧ e.post = e.pre ∨
      AddsRow (written e.input (if e.sent then some e.time else none) e.pre) e.pre e.post := by
  cases hopted : e.optedOut with
  | true => exact Or.inl (he.optedOut hopted)
  | false =>
      cases hserved : e.served with
      | true => exact Or.inr (he.recorded hopted hserved)
      | false => exact Or.inl (he.refused hserved)

omit [Intl] in
/-- One call keeps it. -/
theorem Covered.snoc {log : List Entry} {e : Entry} (h : Covered log e.pre) (he : e.Answered) :
    Covered (log ++ [e]) e.post := by
  intro userId category since
  rw [List.countP_append, List.countP_singleton]
  have hbefore := h userId category since
  rcases he.leaves with ⟨hsent, hpost⟩ | hadds
  · have hcounted : Window.since (Entry.sentTo userId category) Entry.time since e = false := by
      simp [Window.since, Entry.sentTo, hsent]
    rw [hcounted, hpost]
    exact hbefore
  · -- the row of a call that was sent has its user, its category and its time
    rw [hadds.countSince userId category since]
    refine Nat.add_le_add hbefore ?_
    split
    · rename_i hcounted
      simp only [Window.since, Entry.sentTo, Bool.and_eq_true, decide_eq_true_eq] at hcounted
      obtain ⟨⟨-, huser, hcategory⟩, htime⟩ := hcounted
      have hname : some e.input.categoryOf.name = some category.name := by
        rw [← hcategory]
        rfl
      rw [if_pos ⟨huser, hname, htime⟩]
    · exact Nat.zero_le _

/-- A call at the clock of its state. -/
theorem enqueue_outcome (l : Step) {input : EnqueueInput} {w : Notifications} (hnow : input.now.getD w.now = w.now) :
    Outcome input w.now w ((enqueue l input).exec w).1 ((enqueue l input).exec w).2 := by
  rw [enqueue_exec, hnow]
  exact settled_outcome input w.now w

theorem Run.answered {w₀ w : Notifications} {log : List Entry} (h : Run w₀ log w) : ∀ e ∈ log, e.Answered := by
  induction h with
  | nil => exact fun _ he => absurd he List.not_mem_nil
  | enqueue _ l input hnow ih =>
      intro e he
      rcases List.mem_append.mp he with he | he
      · exact ih e he
      · rw [List.mem_singleton.mp he]
        exact (enqueue_outcome l hnow).answered
  | other _ _ ih => exact ih

theorem Run.covered {w₀ w : Notifications} {log : List Entry} (h : Run w₀ log w) : Covered log w := by
  induction h with
  | nil => exact fun _ _ _ => Nat.zero_le _
  | enqueue _ l input hnow ih => exact ih.snoc (enqueue_outcome l hnow).answered
  | other _ hretains ih =>
      exact fun userId category since => (ih userId category since).trans (hretains.countSince userId category since)

theorem Outcome.below {input : EnqueueInput} {now : Time} {w w' : Notifications} {r : Except Err EnqueueResult}
    (h : Outcome input now w r w') (hsent : Entry.sent ⟨input, w, r, w'⟩ = true)
    (hoptional : isMandatory input.categoryOf = false) :
    (∀ cap, (descriptorFor input.categoryOf).dailyCap = some cap →
        countSince input.userId input.categoryOf (now - DAY_MS) w < cap) ∧
      ∀ cap, (descriptorFor input.categoryOf).weeklyCap = some cap →
        countSince input.userId input.categoryOf (now - WEEK_MS) w < cap := by
  cases h with
  | sent _ hcaps => exact evaluateBudget_send hoptional (hcaps hoptional).2
  | queued => cases hsent
  | suppressed => cases hsent
  | refused _ hr => rcases hr with ⟨rfl, -⟩ | ⟨rfl, -⟩ <;> cases hsent

theorem Run.throttled {w₀ w : Notifications} {log : List Entry} {userId : String} {category : NotificationCategory}
    {span : Time} {cap : Nat} (hbelow : ∀ {input : EnqueueInput} {w w' : Notifications} {r : Except Err EnqueueResult},
      Outcome input w.now w r w' → Entry.sent ⟨input, w, r, w'⟩ = true → input.categoryOf = category →
      countSince input.userId category (w.now - span) w < cap)
    (h : Run w₀ log w) : Window.Throttled (Entry.sentTo userId category) Entry.time span cap log := by
  induction h with
  | nil => exact .nil
  | @enqueue log w hrun l input hnow ih =>
      refine .snoc _ ih fun hsent => ?_
      simp only [Entry.sentTo, Bool.and_eq_true, decide_eq_true_eq] at hsent
      obtain ⟨hsent, rfl, hcategory⟩ := hsent
      exact (hrun.covered input.userId category (w.now - span)).trans_lt
        (hbelow (enqueue_outcome l hnow) hsent hcategory)
  | other _ _ ih => exact ih

omit [Intl] in
theorem exists_caps {category : NotificationCategory} (h : isMandatory category = false) :
    ∃ daily weekly, (descriptorFor category).dailyCap = some daily ∧ (descriptorFor category).weeklyCap = some weekly := by
  cases category with
  | security | otp | legal => cases h
  | gift_update | address_confirm | merchant_order | occasion_reminder | social | system =>
      exact ⟨_, _, rfl, rfl⟩

/-- **The budget.** -/
theorem Run.budget {w₀ w : Notifications} {log : List Entry} (h : Run w₀ log w) :
    (∀ userId category, isMandatory category = false →
      ∃ dailyCap weeklyCap, (descriptorFor category).dailyCap = some dailyCap ∧
        (descriptorFor category).weeklyCap = some weeklyCap ∧ ∀ t,
          log.countP (Window.within (Entry.sentTo userId category) Entry.time (t - DAY_MS) t) ≤ dailyCap ∧
          log.countP (Window.within (Entry.sentTo userId category) Entry.time (t - WEEK_MS) t) ≤ weeklyCap) ∧
      ∀ e ∈ log, e.Answered := by
  refine ⟨fun userId category hoptional => ?_, h.answered⟩
  obtain ⟨daily, weekly, hdaily, hweekly⟩ := exists_caps hoptional
  refine ⟨daily, weekly, hdaily, hweekly, fun t => ⟨?_, ?_⟩⟩
  · refine (h.throttled fun {input} {w} {w'} {r} houtcome hsent hcategory => ?_).window t
    subst hcategory
    exact (houtcome.below hsent hoptional).1 daily hdaily
  · refine (h.throttled fun {input} {w} {w'} {r} houtcome hsent hcategory => ?_).window t
    subst hcategory
    exact (houtcome.below hsent hoptional).2 weekly hweekly

end Calls

namespace Pilot

/-- A bell of one user. -/
def bell : Notifications := { empty with users := ["huda"] }

/-- A call and what came of it. -/
def call (input : EnqueueInput) (w : Notifications) : Entry :=
  letI := greenwich
  ⟨input, w, ((enqueue .write input).exec w).1, ((enqueue .write input).exec w).2⟩

def calls (w : Notifications) (inputs : List EnqueueInput) : List Entry × Notifications :=
  inputs.foldl (fun log input => (log.1 ++ [call input log.2], (call input log.2).post)) ([], w)

theorem run_calls (inputs : List EnqueueInput) (hnow : ∀ input ∈ inputs, input.now = none) (w : Notifications) :
    @Run greenwich w (calls w inputs).1 (calls w inputs).2 := by
  unfold calls
  induction inputs using List.reverseRecOn with
  | nil => exact @Run.nil greenwich w
  | append_singleton inputs input ih =>
      rw [List.foldl_append]
      have hrun := ih fun x hx => hnow x (List.mem_append_left _ hx)
      have hnone : input.now = none := hnow input (by simp)
      exact @Run.enqueue greenwich _ _ _ hrun .write input (by rw [hnone]; rfl)

def decisionOf (userId : String) : EnqueueInput where
  userId := userId
  type := "org.review_decision"
  title := "Reviewed"

def alertOf (userId : String) : EnqueueInput where
  userId := userId
  type := "security.alert"
  title := "New sign-in"
  category := some .security

end Pilot

/-- The fourth message of the system within a day is left to the digest. -/
theorem budget_fourth :
    (Pilot.calls Pilot.bell (List.replicate 4 (Pilot.decisionOf "huda"))).1.map Entry.sent = [true, true, true, false] ∧
      ∃ dailyCap weeklyCap, (descriptorFor .system).dailyCap = some dailyCap ∧
        (descriptorFor .system).weeklyCap = some weeklyCap ∧ ∀ t : Time,
          (Pilot.calls Pilot.bell (List.replicate 4 (Pilot.decisionOf "huda"))).1.countP
            (Window.within (Entry.sentTo "huda" .system) Entry.time (t - DAY_MS) t) ≤ dailyCap ∧
          (Pilot.calls Pilot.bell (List.replicate 4 (Pilot.decisionOf "huda"))).1.countP
            (Window.within (Entry.sentTo "huda" .system) Entry.time (t - WEEK_MS) t) ≤ weeklyCap :=
  ⟨by decide +kernel,
    (@Run.budget greenwich _ _ _ (Pilot.run_calls _ (by decide +kernel) _)).1 "huda" .system rfl⟩

/-- A call for a user that does not exist leaves nothing, whatever its category. -/
theorem not_always_recorded : ∃ log w, @Run greenwich Pilot.bell log w ∧
    ∃ e ∈ log, isMandatory e.category = true ∧ e.sent = false ∧
      e.post.notifications.rows = e.pre.notifications.rows := by
  refine ⟨_, _, Pilot.run_calls [Pilot.alertOf "nobody"] (by decide +kernel) Pilot.bell,
    Pilot.call (Pilot.alertOf "nobody") Pilot.bell, List.mem_singleton_self _, ?_⟩
  decide +kernel

end Qift.Notifications
