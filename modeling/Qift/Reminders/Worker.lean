import Qift.Lib.Row
import Qift.Lib.Zoom
import Qift.Notifications.Orchestrator
import Qift.Occasions.Service

/-!
# The reminder worker

`occasion-reminder-worker.service.ts` with the reminders' part of `notification-feature-flags.ts`, one database action
after the other.

* `Reminders` is the part of the database behind it, with the clock, the configuration and the bell; `Step` labels the
  actions, `Mark` those on behalf of one reminder in one run.
* `runOnce` claims a reminder's occurrence by inserting its firing, hands the reminder to the orchestrator, and writes
  down what became of it; `cleanupStaleClaims` is the operator's recovery.
* `Edit` is whatever the other requests make of the accounts, the occasions, the reminders and the bell.
-/

namespace Qift.Reminders

open Relational Interleaving
open Occasions (User Occasion OccasionReminder Umalqura nextOccurrence startOfUtcDay)
open Notifications (EnqueueInput EnqueueResult isReminderDryRun)

/-! ### Rows -/

structure ReminderFiring where
  id : Nat
  reminderId : Nat
  occurrenceAt : Time
  firedAt : Time
  status : String
  reason : Option String

/-- The configuration of the process that the reminders have to themselves. -/
structure Rollout where
  QIFT_OCCASION_REMINDER_FIRING_ENABLED : Option String := none
  QIFT_REMINDER_ALLOWLIST : Option String := none
  QIFT_REMINDER_USER_SAMPLE_PERCENT : Option String := none

end Qift.Reminders

namespace Qift

open Relational

/-- The database of the reminders, with the clock and the bell. -/
structure Reminders where
  now : Time
  rollout : Reminders.Rollout
  nextId : Nat
  users : Table Occasions.User.id
  occasions : Table Occasions.Occasion.id
  reminders : Table Occasions.OccasionReminder.id
  firings : Table Reminders.ReminderFiring.id
  bell : Notifications

end Qift

namespace Qift.Reminders

open Relational Interleaving
open Occasions (User Occasion OccasionReminder Umalqura nextOccurrence startOfUtcDay)
open Notifications (EnqueueInput EnqueueResult isReminderDryRun)

def empty : Reminders where
  now := 0
  rollout := {}
  nextId := 0
  users := Table.empty
  occasions := Table.empty
  reminders := Table.empty
  firings := Table.empty
  bell := Notifications.empty

/-! ### Flags -/

def isOccasionReminderFiringEnabled (w : Reminders) : Bool :=
  w.rollout.QIFT_OCCASION_REMINDER_FIRING_ENABLED = some "true"

/-- The entries of a list separated by commas. -/
def reminderAllowlist (w : Reminders) : List String :=
  let raw := trim (w.rollout.QIFT_REMINDER_ALLOWLIST.getD "")
  if raw = "" then []
  else ((raw.toList.splitOn ',').map fun entry => trim (String.ofList entry)).filter fun entry => entry ≠ ""

/-- `Number.parseInt` in base ten: the digits a text starts with, none where there are none. -/
def parseInt (raw : String) : Option Int :=
  let text := raw.toList.dropWhile isTrimmed
  let (negative, text) := match text with
    | '-' :: rest => (true, rest)
    | '+' :: rest => (false, rest)
    | _ => (false, text)
  let digits := text.takeWhile Char.isDigit
  if digits = [] then none
  else some (if negative then -(Nat.ofDigitChars 10 digits 0 : Int) else Nat.ofDigitChars 10 digits 0)

/-- `readPercent`: a hundred where nothing can be read. -/
def readPercent (raw : Option String) : Int := max 0 (min 100 ((raw.bind parseInt).getD 100))

def reminderUserSamplePercent (w : Reminders) : Int := readPercent w.rollout.QIFT_REMINDER_USER_SAMPLE_PERCENT

/-- A user's bucket: FNV-1a over the code units, in signed words of 32 bits. -/
def userPercentile (userId : String) : Int :=
  match codeUnits userId with
  -- without a unit the offset stays the unsigned number it is written as
  | [] => 2166136261 % 100
  | units => |(units.foldl (fun h unit => (h ^^^ BitVec.ofNat 32 unit) * 16777619#32) 2166136261#32).toInt| % 100

example : (userPercentile "huda", userPercentile "sara") = (73, 84) := by decide +kernel

inductive ReminderProcessDecision
  | process | reject_allowlist | reject_sample_percent
  deriving DecidableEq

def reminderProcessDecision (userId : String) (w : Reminders) : ReminderProcessDecision :=
  if reminderAllowlist w ≠ [] then
    if userId ∈ reminderAllowlist w then .process else .reject_allowlist
  else if 100 ≤ reminderUserSamplePercent w then .process
  else if reminderUserSamplePercent w ≤ 0 then .reject_sample_percent
  else if userPercentile userId < reminderUserSamplePercent w then .process
  else .reject_sample_percent

/-! ### Actions -/

/-- A reminder in a run: when the run takes place, and the occurrence that is due. -/
structure Mark where
  now : Time
  reminderId : Nat
  daysBefore : Int
  occurrenceAt : Time
  deriving DecidableEq

/-- An atomic action. -/
inductive Step
  | read
  /-- The reminders that a run at a time considers. -/
  | candidates (now : Time)
  /-- The clock, the configuration, the accounts, the occasions, the reminders and the bell. -/
  | environment
  /-- The rollout gates of a reminder that is due. -/
  | gate (mark : Mark)
  | claim (mark : Mark)
  /-- What the orchestrator does about a claimed reminder. -/
  | remind (mark : Mark) (l : Notifications.Step)
  /-- A claim's outcome. -/
  | settle (id : Nat)
  /-- Stale claims are marked as failed. -/
  | recover (ids : List Nat)
  /-- Stale claims are deleted. -/
  | clear (ids : List Nat)

/-- A service call. -/
abbrev Service := Svc Reminders Step Err

/-- The body of a database transaction. -/
abbrev Transaction := Tx Reminders Err

/-- One firing for each reminder and occurrence. -/
abbrev reminderFiring : Delegate Reminders ReminderFiring.id where
  table := Reminders.firings
  store t w := { w with firings := t }
  conflict a b := decide (a.reminderId = b.reminderId ∧ a.occurrenceAt = b.occurrenceAt)

/-- The bell as a part of the whole. -/
def bellLens : Lens Reminders Notifications where
  get := Reminders.bell
  set b w := { w with bell := b }
  get_set _ _ := rfl
  set_get _ := rfl

/-- What a query answers. -/
def answer {α : Type} (f : Reminders → α) : Transaction α := fun w =>
  if w.bell.outage.reads then .error (.error "database unreachable") else .ok (f w, w)

/-- A write, which the database may refuse to answer. -/
def whenUp {α : Type} (tx : Transaction α) : Transaction α := fun w =>
  if w.bell.outage.writes then .error (.error "database unreachable") else tx w

/-! ### Texts -/

def phraseForDaysBefore (daysBefore : Int) : String :=
  if daysBefore ≤ 0 then "today"
  else if daysBefore = 1 then "tomorrow"
  else if daysBefore ≤ 3 then "in a few days"
  else if daysBefore ≤ 7 then "this week"
  else if daysBefore ≤ 14 then "in a couple of weeks"
  else if daysBefore ≤ 30 then "this month"
  else "soon"

def labelForKind (kind : String) : String :=
  (List.lookup kind [
    ("birthday", "a birthday"),
    ("anniversary_relationship", "an anniversary"),
    ("anniversary_work", "a work anniversary"),
    ("anniversary_other", "an anniversary"),
    ("eid_al_fitr", "Eid al-Fitr"),
    ("eid_al_adha", "Eid al-Adha"),
    ("ramadan", "Ramadan"),
    ("hijri_new_year", "Hijri New Year"),
    ("mawlid", "Mawlid"),
    ("ashura", "Ashura"),
    ("mothers_day", "Mother's Day"),
    ("fathers_day", "Father's Day"),
    ("saudi_national_day", "Saudi National Day"),
    ("new_year", "New Year"),
    ("graduation", "a graduation"),
    ("engagement", "an engagement"),
    ("wedding", "a wedding"),
    ("new_baby", "a new baby"),
    ("new_home", "a new home"),
    ("new_job", "a new job"),
    ("promotion", "a promotion"),
    ("retirement", "a retirement"),
    ("degree", "a degree"),
    ("exam_success", "an exam"),
    ("milestone", "a milestone"),
    ("custom", "an upcoming occasion")]).getD "an upcoming occasion"

/-- The body of a reminder: the owner's own label, or the kind's. -/
def composeReminderBody (occasion : Occasion) (daysBefore : Int) : String :=
  let label := trim (occasion.label.getD "")
  (if label = "" then labelForKind occasion.kind else label) ++ " — " ++ phraseForDaysBefore daysBefore

/-! ### A run -/

structure ReminderRunOptions where
  now : Option Time := none
  forceDryRun : Bool := false

/-- An enabled reminder with its occasion. -/
structure Candidate where
  id : Nat
  userId : String
  daysBefore : Int
  occasion : Occasion
  deriving DecidableEq

/-- A reminder that is enabled, on a live occasion of a live account. -/
def candidateOf (w : Reminders) (x : OccasionReminder) : Option Candidate :=
  match w.occasions.find x.occasionId, w.users.find x.userId with
  | some occasion, some user =>
      if x.enabled ∧ occasion.deactivatedAt = none ∧ user.deletedAt = none then
        some ⟨x.id, x.userId, x.daysBefore, occasion⟩
      else none
  | _, _ => none

def candidatesOf (w : Reminders) : List Candidate := w.reminders.rows.filterMap (candidateOf w)

/-- What became of a candidate. -/
inductive Outcome
  | past
  | outOfWindow
  | filteredAllowlist
  | filteredSamplePercent
  | filteredDryRun
  /-- The occurrence was claimed before. -/
  | claimedBefore
  | fired
  | digested
  | suppressed
  /-- An error, before or after the window was checked. -/
  | failed (inWindow : Bool)
  deriving DecidableEq

def Outcome.inWindow : Outcome → Bool
  | past | outOfWindow => false
  | failed inWindow => inWindow
  | filteredAllowlist | filteredSamplePercent | filteredDryRun | claimedBefore | fired | digested | suppressed => true

structure ReminderRunResult where
  ran : Bool
  skippedReason : Option String
  considered : Nat
  inWindow : Nat
  fired : Nat
  digested : Nat
  suppressed : Nat
  errors : Nat
  filteredAllowlist : Nat
  filteredSamplePercent : Nat
  filteredDryRun : Nat
  staleClaims : Nat
  deriving DecidableEq

/-- The counters of a run. -/
def tally (ran : Bool) (skippedReason : Option String) (staleClaims : Nat) (outcomes : List Outcome) :
    ReminderRunResult where
  ran := ran
  skippedReason := skippedReason
  considered := outcomes.length
  inWindow := outcomes.countP Outcome.inWindow
  fired := outcomes.count .fired
  digested := outcomes.count .digested
  suppressed := outcomes.count .suppressed
  errors := outcomes.count (.failed false) + outcomes.count (.failed true)
  filteredAllowlist := outcomes.count .filteredAllowlist
  filteredSamplePercent := outcomes.count .filteredSamplePercent
  filteredDryRun := outcomes.count .filteredDryRun
  staleClaims := staleClaims

def STALE_CLAIM_WARN_HOURS : Int := 24
def hourMillis : Int := 60 * 60 * 1000

/-- Claims without an outcome since before an instant. -/
def isStale (threshold : Time) (x : ReminderFiring) : Bool := x.status = "claimed" && x.firedAt < threshold

def subtractDaysUtc (date : Time) (days : Int) : Time := date - days * dayMillis

/-- An identifier that no stored firing has. -/
def freshId (t : Table ReminderFiring.id) : Nat := (t.rows.map ReminderFiring.id).foldr max 0 + 1

/-- `reminderFiring.create` of a claim: the reminder must be stored. -/
def claimTx (mark : Mark) : Transaction ReminderFiring := whenUp fun w =>
  if (w.reminders.find mark.reminderId).isSome then
    reminderFiring.create (.p2002 "ReminderFiring")
      { id := freshId w.firings
        reminderId := mark.reminderId
        occurrenceAt := mark.occurrenceAt
        firedAt := w.now
        status := "claimed"
        reason := none } w
  else .error (.error "Foreign key constraint violated")

/-- `reminderFiring.update` of a claim's outcome. -/
def settleTx (id : Nat) (status : String) (reason : Option String) : Transaction ReminderFiring :=
  whenUp (reminderFiring.update (.error "record to update not found") id
    fun x => { x with status := status, reason := reason })

/-- What the orchestrator is handed. -/
def reminderInput (now : Time) (c : Candidate) : EnqueueInput where
  userId := c.userId
  type := "occasion.reminder"
  title := "A moment coming up"
  body := some (composeReminderBody c.occasion c.daysBefore)
  link := some "/occasions"
  category := some .occasion_reminder
  now := some now

/-- The status and the reason that are written down, and the counter that goes up. -/
def outcomeOf : EnqueueResult → String × Option String × Outcome
  | .sent _ _ _ => ("sent", none, .fired)
  -- the row in the app is there
  | .queued_for_digest _ _ reason => ("sent", some reason, .digested)
  | .suppressed _ reason => ("suppressed", some reason, .suppressed)

section Worker

variable [Notifications.Intl]

/-- Hand a claimed reminder to the orchestrator, and write down what became of it. -/
def deliver (mark : Mark) (c : Candidate) (claim : ReminderFiring) : Service Outcome := do
  let result ← (Notifications.enqueue .write (reminderInput mark.now c)).zoom bellLens (.remind mark)
  let _ ← Svc.transaction (.settle claim.id) (settleTx claim.id (outcomeOf result).1 (outcomeOf result).2.1)
  pure (outcomeOf result).2.2

/-- Claim the occurrence; where it was claimed before, leave it alone. -/
def fire (mark : Mark) (c : Candidate) : Service Outcome := do
  let claimed ← Svc.tryCatch (some <$> Svc.transaction (.claim mark) (claimTx mark)) fun e =>
    match e with
    | .p2002 _ => pure none
    | e => Svc.fail e
  match claimed with
  | none => pure .claimedBefore
  -- a claim whose delivery fails is left as it is
  | some claim => Svc.tryCatch (deliver mark c claim) fun _ => pure (.failed true)

/-- The rest, for a candidate that is in its window: the rollout gates, and the firing. -/
def processInWindow (dryRun : Bool) (mark : Mark) (c : Candidate) : Service Outcome := do
  let decision ← Svc.query (.gate mark) (reminderProcessDecision c.userId)
  match decision with
  | .reject_allowlist => pure .filteredAllowlist
  | .reject_sample_percent => pure .filteredSamplePercent
  | .process => if dryRun then pure .filteredDryRun else fire mark c

section Run

variable [Umalqura]

/-- One candidate; an error is counted and logged. -/
def processCandidate (now : Time) (dryRun : Bool) (c : Candidate) : Service Outcome :=
  match nextOccurrence c.occasion.spec now with
  | .error _ => pure (.failed false)
  | .ok none => pure .past
  | .ok (some occurrenceAt) =>
      if subtractDaysUtc occurrenceAt c.daysBefore ≠ startOfUtcDay now then pure .outOfWindow
      else Svc.tryCatch (processInWindow dryRun ⟨now, c.id, c.daysBefore, occurrenceAt⟩ c) fun _ => pure (.failed true)

def runAt (now : Time) (dryRun : Bool) : Service ReminderRunResult := do
  let staleClaims ← Svc.tryCatch
    (Svc.transaction .read (answer fun w => w.firings.count (isStale (now - STALE_CLAIM_WARN_HOURS * hourMillis))))
    fun _ => pure 0
  let enabled ← Svc.query .read isOccasionReminderFiringEnabled
  if ¬enabled ∧ ¬dryRun then pure (tally false (some "feature_flag_off") staleClaims [])
  else do
    let candidates ← Svc.transaction (.candidates now) (answer candidatesOf)
    let outcomes ← Svc.collect candidates (processCandidate now dryRun)
    pure (tally true none staleClaims outcomes)

/-- A run: its time, whether it is a dry one, and its counters. -/
structure RunReport where
  now : Time
  dryRun : Bool
  result : ReminderRunResult
  deriving DecidableEq

def runOnce (opts : ReminderRunOptions) : Service RunReport := do
  let start ← Svc.query .read fun w => (opts.now.getD w.now, opts.forceDryRun || isReminderDryRun w.bell)
  let result ← runAt start.1 start.2
  pure ⟨start.1, start.2, result⟩

end Run

end Worker

/-! ### Recovery -/

def STALE_CLAIM_BATCH_LIMIT : Nat := 1000
def STALE_CLAIM_SAMPLE_LIMIT : Nat := 10

/-- The options; hours that are not finite are not there. -/
structure StaleClaimCleanupOptions where
  now : Option Time := none
  staleHoursOld : Option ℚ := none
  dryRun : Bool := true
  forceClear : Bool := false

structure StaleClaimCleanupResult where
  dryRun : Bool
  forceClear : Bool
  staleHoursOld : Int
  considered : Nat
  recovered : Nat
  cleared : Nat
  errors : Nat
  sampleIds : List Nat

/-- The oldest stale claims, so many at most. -/
def staleClaims (threshold : Time) (w : Reminders) : List Nat :=
  (((w.firings.rows.filter (isStale threshold)).insertionSort fun a b => a.firedAt ≤ b.firedAt).take
    STALE_CLAIM_BATCH_LIMIT).map ReminderFiring.id

/-- A claim among some that has no outcome yet. -/
def isClaimAmong (ids : List Nat) (x : ReminderFiring) : Bool := x.id ∈ ids && x.status = "claimed"

def recoverTx (ids : List Nat) : Transaction Nat := whenUp (reminderFiring.updateMany (isClaimAmong ids)
  fun x => { x with status := "failed", reason := some "stale_claim_recovered" })

def clearTx (ids : List Nat) : Transaction Nat := whenUp (reminderFiring.deleteMany (isClaimAmong ids))

/-- The write of a count, none where it fails. -/
def attempt (l : Step) (tx : Transaction Nat) : Service (Option Nat) :=
  Svc.tryCatch (some <$> Svc.transaction l tx) fun _ => pure none

def cleanupStaleClaims (opts : StaleClaimCleanupOptions) : Service StaleClaimCleanupResult := do
  let now ← Svc.query .read fun w => opts.now.getD w.now
  let staleHoursOld : Int := min 720 (max 1 ⌊opts.staleHoursOld.getD 24⌋)
  let report : StaleClaimCleanupResult := ⟨opts.dryRun, opts.forceClear, staleHoursOld, 0, 0, 0, 0, []⟩
  let scan ← Svc.tryCatch
    (some <$> Svc.transaction .read (answer (staleClaims (now - staleHoursOld * hourMillis)))) fun _ => pure none
  match scan with
  | none => pure { report with errors := 1 }
  | some ids =>
      let report := { report with considered := ids.length, sampleIds := ids.take STALE_CLAIM_SAMPLE_LIMIT }
      if opts.dryRun ∨ ids = [] then pure report
      else if opts.forceClear then do
        let cleared ← attempt (.clear ids) (clearTx ids)
        pure { report with cleared := cleared.getD 0, errors := if cleared = none then 1 else 0 }
      else do
        let recovered ← attempt (.recover ids) (recoverTx ids)
        pure { report with recovered := recovered.getD 0, errors := if recovered = none then 1 else 0 }

/-! ### Runs -/

/-- What is there after other requests. -/
structure Edit where
  elapsed : Nat
  rollout : Rollout
  nextId : Nat
  users : Table User.id
  occasions : Table Occasion.id
  reminders : Table OccasionReminder.id
  bell : Notifications

/-- A reminder stays on its occasion and its day; the identifier of a new one was not handed out before. -/
def Edit.Allowed (e : Edit) (w : Reminders) : Prop :=
  w.nextId ≤ e.nextId ∧ ∀ x ∈ e.reminders.rows, x.id < e.nextId ∧ (w.nextId ≤ x.id ∨
    ∃ y ∈ w.reminders.rows, y.id = x.id ∧ y.userId = x.userId ∧ y.occasionId = x.occasionId ∧ y.daysBefore = x.daysBefore)

instance (e : Edit) (w : Reminders) : Decidable (e.Allowed w) := by
  unfold Edit.Allowed
  infer_instance

/-- The firings of a deleted reminder are deleted with it. -/
def Edit.apply (e : Edit) (w : Reminders) : Reminders where
  now := w.now + e.elapsed
  rollout := e.rollout
  nextId := e.nextId
  users := e.users
  occasions := e.occasions
  reminders := e.reminders
  firings := w.firings.deleteMany fun x => (e.reminders.find x.reminderId).isNone
  bell := e.bell

def editTx (e : Edit) : Transaction Unit := fun w =>
  if e.Allowed w then .ok ((), e.apply w) else .error (.error "not an edit")

inductive Call
  | edit (e : Edit)
  | runOnce (opts : ReminderRunOptions)
  | cleanupStaleClaims (opts : StaleClaimCleanupOptions)

inductive Reply
  | done
  | ran (report : RunReport)
  | cleaned (result : StaleClaimCleanupResult)

section Program

variable [Notifications.Intl] [Umalqura]

def program : Call → Service Reply
  | .edit e => (fun _ => .done) <$> Svc.transaction .environment (editTx e)
  | .runOnce opts => .ran <$> runOnce opts
  | .cleanupStaleClaims opts => .cleaned <$> cleanupStaleClaims opts

/-- Any interleaving of runs, recoveries and other requests, from an empty database. -/
abbrev Run (tr : List (Event Reminders Step)) (cfg : Config Reminders Step (Except Err Reply)) : Prop :=
  Exec program empty tr cfg

end Program

end Qift.Reminders
