import Qift.Lib.Toll
import Qift.Notifications.State

/-!
# The notification orchestrator

* `enqueue` of `notification-orchestrator.service.ts`, one database action after the other; `Step` labels them, with
  what a summary counts where the row is a summary.
* `written` is the row a call writes, `decide` what the budget engine says of it, and `settled` the answer and the state
  of a call that nothing else comes between: `enqueue_exec` is the equation.
-/

namespace Qift.Notifications

open Relational Interleaving

/-! ### Actions -/

/-- The columns the digest worker reads of a queued notification. -/
structure Pending where
  id : Nat
  userId : String
  category : Option String
  deriving DecidableEq

/-- An atomic action. -/
inductive Step
  /-- A query or a clock read. -/
  | read
  /-- The clock, the configuration, the accounts, the preferences and the outages. -/
  | environment
  /-- A producer's row. -/
  | write
  /-- The row of a summary that counts these notifications, by a run that had marked so many of them. -/
  | summary (rows : List Pending) (consumed : Nat)
  | push
  /-- A digest run marks the notifications it is going to sum up. -/
  | consume (rows : List Pending)
  /-- A digest run marks those of a user who wants no digest. -/
  | catchUp (rows : List Pending)
  deriving DecidableEq

/-- A service call. -/
abbrev Service := Svc Notifications Step Err

/-- The body of a database transaction. -/
abbrev Transaction := Tx Notifications Err

/-- `new Date()`. -/
def dateNow : Service Time := Svc.query .read Notifications.now

/-- What a query answers. -/
def answer {α : Type} (f : Notifications → α) : Transaction α := fun w =>
  if w.outage.reads then .error (.error "database unreachable") else .ok (f w, w)

/-- One query of the database. -/
def query {α : Type} (f : Notifications → α) : Service α := Svc.transaction .read (answer f)

/-! ### Rows -/

structure EnqueueInput where
  userId : String
  type : String
  title : String
  body : Option String := none
  link : Option String := none
  category : Option NotificationCategory := none
  now : Option Time := none

/-- The category of a call. -/
def EnqueueInput.categoryOf (input : EnqueueInput) : NotificationCategory :=
  input.category.getD (categoryForType input.type)

inductive EnqueueResult
  | sent (notificationId : Nat) (category : NotificationCategory) (pushed : Bool)
  | queued_for_digest (notificationId : Nat) (category : NotificationCategory) (reason : String)
  | suppressed (category : NotificationCategory) (reason : String)

/-- The row of a call, stamped by the database. -/
def written (input : EnqueueInput) (pushDeliveredAt : Option Time) (w : Notifications) : Notification where
  id := freshId w.notifications
  userId := input.userId
  type := input.type
  title := input.title
  body := input.body
  link := input.link
  createdAt := w.now
  category := some input.categoryOf.name
  priority := some (descriptorFor input.categoryOf).priority
  pushDeliveredAt := pushDeliveredAt

/-- Whether the database takes a row of a user: it answers, and the user exists. -/
def accepts (userId : String) (w : Notifications) : Bool := !w.outage.writes && decide (userId ∈ w.users)

/-- `notification.create`. -/
def createTx (input : EnqueueInput) (pushDeliveredAt : Option Time) : Transaction Notification := fun w =>
  if accepts input.userId w then notification.create (.p2002 "Notification") (written input pushDeliveredAt w) w
  else .error (.error "Foreign key constraint violated")

/-- `writeNotificationRow`: a failure is logged, and there is no row. -/
def writeNotificationRow (l : Step) (input : EnqueueInput) (pushDeliveredAt : Option Time) :
    Service (Option Notification) :=
  Svc.tryCatch (some <$> Svc.transaction l (createTx input pushDeliveredAt)) fun _ => pure none

/-- What the push service is handed. -/
def pushOf (input : EnqueueInput) : Push := ⟨input.userId, input.title, input.body, input.link, input.type⟩

def firePush (input : EnqueueInput) : Service Unit :=
  Svc.transaction .push (Tx.modify fun w =>
    if isPushDeliveryEnabled w then { w with pushes := w.pushes ++ [pushOf input] } else w)

/-! ### Preferences -/

def parseOptOuts : Json → List (String × Bool)
  | .obj members => members.filterMap fun
      | (k, .bool v) => some (k, v)
      | _ => none
  | _ => []

/-- Only an explicit `true` opts a user out. -/
def readOptOut (dict : List (String × Bool)) (category : NotificationCategory) : Bool :=
  dict.reverse.lookup category.name = some true

/-- The preferences the decision reads, those of a missing row included. -/
structure Preferences where
  quietHoursStart : Option String := none
  quietHoursEnd : Option String := none
  quietHoursTimezone : String := "Asia/Riyadh"
  categoryOptOuts : List (String × Bool) := []
  digestEnabled : Bool := true

def NotificationPreferences.read (row : NotificationPreferences) : Preferences where
  quietHoursStart := row.quietHoursStart
  quietHoursEnd := row.quietHoursEnd
  quietHoursTimezone := row.quietHoursTimezone
  categoryOptOuts := parseOptOuts row.categoryOptOuts
  digestEnabled := row.digestEnabled

def preferencesOf (userId : String) (w : Notifications) : Preferences :=
  ((w.preferences.find userId).map NotificationPreferences.read).getD {}

def loadPreferences (userId : String) : Service Preferences := query (preferencesOf userId)

/-! ### The decision -/

def DAY_MS : Int := 24 * 60 * 60 * 1000
def WEEK_MS : Int := 7 * 24 * 60 * 60 * 1000

def countSince (userId : String) (category : NotificationCategory) (since : Time) (w : Notifications) : Nat :=
  w.notifications.count fun x => x.userId = userId ∧ x.category = some category.name ∧ since ≤ x.createdAt

/-- Both counts, in one transaction. -/
def countsOf (userId : String) (category : NotificationCategory) (now : Time) (w : Notifications) : Nat × Nat :=
  (countSince userId category (now - DAY_MS) w, countSince userId category (now - WEEK_MS) w)

/-- What the budget engine says of what was read. -/
def decision [Intl] (input : EnqueueInput) (now : Time) (prefs : Preferences) (counts : Nat × Nat) : BudgetDecision :=
  evaluateBudget
    { descriptor := descriptorFor input.categoryOf
      dailyCount := counts.1
      weeklyCount := counts.2
      optedOut := readOptOut prefs.categoryOptOuts input.categoryOf
      inQuietHours := inQuietHours prefs.quietHoursStart prefs.quietHoursEnd prefs.quietHoursTimezone now
      digestEnabled := prefs.digestEnabled }

def makeDecision [Intl] (input : EnqueueInput) (now : Time) (prefs : Preferences) : Service BudgetDecision := do
  let counts ← query (countsOf input.userId input.categoryOf now)
  pure (decision input now prefs counts)

/-- Write the row and send it out now. -/
def sendRealtime (l : Step) (input : EnqueueInput) (now : Time) : Service EnqueueResult := do
  let row ← writeNotificationRow l input (some now)
  match row with
  | none => pure (.suppressed input.categoryOf "db_error")
  | some row => do
      firePush input
      pure (.sent row.id input.categoryOf true)

/-- Write the row and leave it to the digest. -/
def queueDigest (l : Step) (input : EnqueueInput) (reason : String) : Service EnqueueResult := do
  let row ← writeNotificationRow l input none
  match row with
  | none => pure (.suppressed input.categoryOf "db_error")
  | some row => pure (.queued_for_digest row.id input.categoryOf reason)

/-- Act on a decision. -/
def carryOut (l : Step) (input : EnqueueInput) (now : Time) : BudgetDecision → Service EnqueueResult
  | .suppress reason => pure (.suppressed input.categoryOf reason)
  | .queue_digest reason => queueDigest l input reason
  | .send_realtime => sendRealtime l input now

/-- A call at a time. -/
def enqueueAt [Intl] (l : Step) (input : EnqueueInput) (now : Time) : Service EnqueueResult :=
  if isMandatory input.categoryOf then sendRealtime l input now
  else do
    let prefs ← loadPreferences input.userId
    let decision ← makeDecision input now prefs
    carryOut l input now decision

def enqueue [Intl] (l : Step) (input : EnqueueInput) : Service EnqueueResult :=
  match input.now with
  | some now => enqueueAt l input now
  | none => do
      let now ← dateNow
      enqueueAt l input now

/-! ### A call that nothing comes between -/

/-- The state with one more notification. -/
def stored (input : EnqueueInput) (pushDeliveredAt : Option Time) (w : Notifications) : Notifications :=
  match w.notifications.create (written input pushDeliveredAt w) with
  | some t => { w with notifications := t }
  | none => w

/-- The state after a push. -/
def pushed (input : EnqueueInput) (w : Notifications) : Notifications :=
  if isPushDeliveryEnabled w then { w with pushes := w.pushes ++ [pushOf input] } else w

/-- The database has a free identifier for every row. -/
theorem create_written (input : EnqueueInput) (pushDeliveredAt : Option Time) (w : Notifications) :
    ∃ t, w.notifications.create (written input pushDeliveredAt w) = some t := by
  refine Table.exists_create fun x hx => ?_
  have hlt : x.id < freshId w.notifications := lt_freshId hx
  exact Nat.ne_of_lt hlt

theorem createTx_eq (input : EnqueueInput) (pushDeliveredAt : Option Time) (w : Notifications) :
    createTx input pushDeliveredAt w =
      if accepts input.userId w then .ok (written input pushDeliveredAt w, stored input pushDeliveredAt w)
      else .error (.error "Foreign key constraint violated") := by
  unfold createTx
  split
  · obtain ⟨t, ht⟩ := create_written input pushDeliveredAt w
    have hstored : stored input pushDeliveredAt w = { w with notifications := t } := by
      rw [stored, ht]
    rw [hstored]
    exact Delegate.create_eq_ok.mpr ⟨t, ht, fun _ _ => rfl, rfl, rfl⟩
  · rfl

/-- The answer and the state of a call that is sent at once. -/
def sent (input : EnqueueInput) (now : Time) (w : Notifications) : Except Err EnqueueResult × Notifications :=
  if accepts input.userId w then
    (.ok (.sent (freshId w.notifications) input.categoryOf true), pushed input (stored input (some now) w))
  else (.ok (.suppressed input.categoryOf "db_error"), w)

/-- The answer and the state of a call that is queued. -/
def queued (input : EnqueueInput) (reason : String) (w : Notifications) : Except Err EnqueueResult × Notifications :=
  if accepts input.userId w then
    (.ok (.queued_for_digest (freshId w.notifications) input.categoryOf reason), stored input none w)
  else (.ok (.suppressed input.categoryOf "db_error"), w)

theorem writeNotificationRow_exec (l : Step) (input : EnqueueInput) (pushDeliveredAt : Option Time) (w : Notifications) :
    (writeNotificationRow l input pushDeliveredAt).exec w =
      if accepts input.userId w then (.ok (some (written input pushDeliveredAt w)), stored input pushDeliveredAt w)
      else (.ok none, w) := by
  have hmap : (some <$> Svc.transaction l (createTx input pushDeliveredAt) : Service (Option Notification)) =
      Svc.transaction l (createTx input pushDeliveredAt) >>= fun x => pure (some x) := rfl
  rw [writeNotificationRow, hmap, Svc.exec_tryCatch, Svc.exec_bind, Svc.exec_transaction, createTx_eq]
  by_cases haccepts : accepts input.userId w = true
  · rw [if_pos haccepts, if_pos haccepts]
    rfl
  · rw [if_neg haccepts, if_neg haccepts]
    rfl

theorem sendRealtime_exec (l : Step) (input : EnqueueInput) (now : Time) (w : Notifications) :
    (sendRealtime l input now).exec w = sent input now w := by
  unfold sendRealtime sent
  rw [Svc.exec_bind, writeNotificationRow_exec]
  by_cases haccepts : accepts input.userId w = true
  · rw [if_pos haccepts, if_pos haccepts]
    rfl
  · rw [if_neg haccepts, if_neg haccepts]
    rfl

theorem queueDigest_exec (l : Step) (input : EnqueueInput) (reason : String) (w : Notifications) :
    (queueDigest l input reason).exec w = queued input reason w := by
  unfold queueDigest queued
  rw [Svc.exec_bind, writeNotificationRow_exec]
  by_cases haccepts : accepts input.userId w = true
  · rw [if_pos haccepts, if_pos haccepts]
    rfl
  · rw [if_neg haccepts, if_neg haccepts]
    rfl

theorem query_exec {α : Type} (f : Notifications → α) (w : Notifications) :
    (query f).exec w = if w.outage.reads then (.error (.error "database unreachable"), w) else (.ok (f w), w) := by
  rw [query, Svc.exec_transaction, answer]
  by_cases hreads : w.outage.reads = true
  · rw [if_pos hreads, if_pos hreads]
  · rw [if_neg hreads, if_neg hreads]

section Settled

variable [Intl]

/-- What the budget engine says in one state. -/
def decisionIn (input : EnqueueInput) (now : Time) (w : Notifications) : BudgetDecision :=
  decision input now (preferencesOf input.userId w) (countsOf input.userId input.categoryOf now w)

/-- The answer and the state of a call. -/
def settled (input : EnqueueInput) (now : Time) (w : Notifications) : Except Err EnqueueResult × Notifications :=
  if isMandatory input.categoryOf then sent input now w
  else if w.outage.reads then (.error (.error "database unreachable"), w)
  else
    match decisionIn input now w with
    | .suppress reason => (.ok (.suppressed input.categoryOf reason), w)
    | .queue_digest reason => queued input reason w
    | .send_realtime => sent input now w

theorem enqueueAt_exec (l : Step) (input : EnqueueInput) (now : Time) (w : Notifications) :
    (enqueueAt l input now).exec w = settled input now w := by
  unfold enqueueAt settled
  split
  · exact sendRealtime_exec l input now w
  · rw [Svc.exec_bind, loadPreferences, query_exec]
    by_cases hreads : w.outage.reads = true
    · rw [if_pos hreads, if_pos hreads]
    · rw [if_neg hreads, if_neg hreads]
      have hdecision : (makeDecision input now (preferencesOf input.userId w)).exec w = (.ok (decisionIn input now w), w) := by
        rw [makeDecision, Svc.exec_bind, query_exec, if_neg hreads]
        rfl
      simp only [Svc.exec_bind, hdecision]
      cases decisionIn input now w with
      | suppress reason => rfl
      | queue_digest reason => exact queueDigest_exec l input reason w
      | send_realtime => exact sendRealtime_exec l input now w

/-- **What a call does**, with nothing in between. -/
theorem enqueue_exec (l : Step) (input : EnqueueInput) (w : Notifications) :
    (enqueue l input).exec w = settled input (input.now.getD w.now) w := by
  unfold enqueue
  cases input.now with
  | some now => exact enqueueAt_exec l input now w
  | none =>
      rw [Svc.exec_bind, dateNow, Svc.exec_query]
      exact enqueueAt_exec l input w.now w

end Settled

end Qift.Notifications
