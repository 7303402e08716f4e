import Qift.Notifications.Orchestrator

/-!
# The digest worker

* `summariseCategories` and `composeDigestBody` are the text of a summary.
* `runOnce` of `digest-worker.service.ts`: the queued rows are read once, then each user's are marked and summed up.
* `Call` and `program` are the worker's runs, the producers' calls and what goes on around them; `Run` is any
  interleaving of these.
-/

namespace Qift.Notifications

open Relational Interleaving

/-! ### The text of a summary -/

/-- Add one to the count of a key, which goes last when it is new. -/
def bump (key : String) : List (String × Nat) → List (String × Nat)
  | [] => [(key, 1)]
  | (k, n) :: rest => if k = key then (k, n + 1) :: rest else (k, n) :: bump key rest

/-- The order of the summary: categories are of lower-case letters and underscores, which `localeCompare` and the code
units put in the same order. -/
def categoryLE (a b : String × Nat) : Prop := codeUnits a.1 ≤ codeUnits b.1

instance (a b : String × Nat) : Decidable (categoryLE a b) :=
  inferInstanceAs (Decidable (codeUnits a.1 ≤ codeUnits b.1))

/-- How many rows there are of each category. -/
def summariseCategories (rows : List Pending) : List (String × Nat) :=
  (rows.foldl (fun counts row => bump (row.category.getD "other") counts) []).insertionSort categoryLE

/-- Singular and plural of a category. -/
def humanPlural (category : String) (n : Nat) : String :=
  match category with
  | "gift_update" => if n = 1 then "gift update" else "gift updates"
  | "address_confirm" => if n = 1 then "address request" else "address requests"
  | "merchant_order" => if n = 1 then "order update" else "order updates"
  | "occasion_reminder" => if n = 1 then "occasion reminder" else "occasion reminders"
  | "social" => if n = 1 then "appreciation" else "appreciations"
  | "system" => if n = 1 then "system note" else "system notes"
  | _ => if n = 1 then "update" else "updates"

def phrase (entry : String × Nat) : String := toString entry.2 ++ " " ++ humanPlural entry.1 entry.2

/-- The body: counts and nothing else. -/
def composeDigestBody (grouped : List (String × Nat)) : String :=
  match grouped.map phrase with
  | [] => "Updates ready for you."
  | [only] => only ++ " since you last checked."
  | parts => String.intercalate ", " parts.dropLast ++ " and " ++ parts.getLastD "" ++ " since you last checked."

example : composeDigestBody (summariseCategories [⟨1, "u", some "social"⟩, ⟨2, "u", some "gift_update"⟩,
    ⟨3, "u", some "social"⟩]) = "1 gift update and 2 appreciations since you last checked." := by decide +kernel

theorem bump_total (key : String) (counts : List (String × Nat)) :
    ((bump key counts).map Prod.snd).sum = (counts.map Prod.snd).sum + 1 := by
  induction counts with
  | nil => rfl
  | cons entry rest ih =>
      obtain ⟨k, n⟩ := entry
      unfold bump
      split
      · simp only [List.map_cons, List.sum_cons]
        omega
      · simp only [List.map_cons, List.sum_cons, ih]
        omega

/-- **The counts add up** to the rows. -/
theorem summariseCategories_total (rows : List Pending) :
    ((summariseCategories rows).map Prod.snd).sum = rows.length := by
  have hfold : ∀ counts : List (String × Nat),
      ((rows.foldl (fun counts row => bump (row.category.getD "other") counts) counts).map Prod.snd).sum =
        (counts.map Prod.snd).sum + rows.length := by
    induction rows with
    | nil => exact fun _ => rfl
    | cons row rest ih =>
        intro counts
        rw [List.foldl_cons, ih, bump_total, List.length_cons]
        omega
  have hperm := ((List.perm_insertionSort categoryLE
    (rows.foldl (fun counts row => bump (row.category.getD "other") counts) [])).map Prod.snd).sum_eq
  rw [summariseCategories, hperm, hfold]
  simp

/-! ### Who is due -/

/-- `getUTCDay`: Sunday is 0. -/
def utcDay (t : Time) : Int := (t / dayMillis + 4) % 7

def isDueForDigest (frequency : String) (now : Time) : Bool := if frequency = "weekly" then utcDay now = 1 else true

inductive CadenceOverride
  | force_daily | force_weekly

structure DigestRunOptions where
  now : Option Time := none
  forceDryRun : Bool := false
  cadenceOverride : Option CadenceOverride := none

/-- The cadence of a user for a run. -/
def frequencyOf (opts : DigestRunOptions) (stored : Option String) : String :=
  match opts.cadenceOverride with
  | some .force_daily => "daily"
  | some .force_weekly => "weekly"
  | none => stored.getD "daily"

/-! ### Queued rows -/

def SUMMARY_TYPE : String := "digest.summary"

def Notification.pending (x : Notification) : Pending := ⟨x.id, x.userId, x.category⟩

/-- The rows that wait for a digest; summaries are left out. -/
def queuedRows (w : Notifications) : List Pending :=
  (w.notifications.rows.filter fun x => x.pushDeliveredAt = none && x.type ≠ SUMMARY_TYPE).map Notification.pending

/-- The rows of each user, in the order in which the users come up. -/
def byUser (pending : List Pending) : List (String × List Pending) :=
  (pending.map Pending.userId).eraseDups.map fun userId => (userId, pending.filter fun row => row.userId = userId)

/-- Still waiting, among the rows. -/
def Waiting (rows : List Pending) (x : Notification) : Bool :=
  decide (x.id ∈ rows.map Pending.id) && decide (x.pushDeliveredAt = none)

/-- How many of the rows still wait. -/
def waiting (rows : List Pending) (w : Notifications) : Nat := w.notifications.count (Waiting rows)

/-- The stamp. -/
def Notification.deliver (now : Time) (x : Notification) : Notification := { x with pushDeliveredAt := some now }

theorem Notification.deliver_id (now : Time) (x : Notification) : (x.deliver now).id = x.id := rfl

def markTx (rows : List Pending) (now : Time) : Transaction Nat := fun w =>
  if w.outage.writes then .error (.error "database unreachable")
  else notification.updateMany (Waiting rows) (Notification.deliver now) (Notification.deliver_id now) w

def markDelivered (l : Step) (rows : List Pending) (now : Time) : Service Nat :=
  if rows = [] then pure 0 else Svc.transaction l (markTx rows now)

/-! ### A run -/

structure DigestRunResult where
  ran : Bool := true
  skippedReason : Option String := none
  usersConsidered : Nat := 0
  usersDigested : Nat := 0
  rowsConsumed : Nat := 0
  errors : Nat := 0
  filteredCadence : Nat := 0
  filteredDryRun : Nat := 0

/-- What a run did for a user. -/
inductive Outcomes
  | caughtUp (rows : Nat)
  | filteredCadence
  | filteredDryRun
  | skipped
  | digested (consumed : Nat)
  | pushFailed (consumed : Nat)
  | failed

/-- How the statistics tell it. -/
def DigestRunResult.add (stats : DigestRunResult) : Outcomes → DigestRunResult
  | .caughtUp rows => { stats with rowsConsumed := stats.rowsConsumed + rows }
  | .filteredCadence => { stats with filteredCadence := stats.filteredCadence + 1 }
  | .filteredDryRun => { stats with filteredDryRun := stats.filteredDryRun + 1 }
  | .skipped => stats
  | .digested consumed =>
      { stats with rowsConsumed := stats.rowsConsumed + consumed, usersDigested := stats.usersDigested + 1 }
  | .pushFailed consumed => { stats with rowsConsumed := stats.rowsConsumed + consumed, errors := stats.errors + 1 }
  | .failed => { stats with errors := stats.errors + 1 }

/-- The call that writes a summary. -/
def summaryOf (userId : String) (rows : List Pending) (now : Time) : EnqueueInput where
  userId := userId
  type := SUMMARY_TYPE
  title := "Quiet update"
  body := some (composeDigestBody (summariseCategories rows))
  link := some "/notifications"
  category := some .system
  now := some now

def digestPreferences (userId : String) (w : Notifications) : Option (String × Bool) :=
  (w.preferences.find userId).map fun p => (p.digestFrequency, p.digestEnabled)

section Worker

variable [Intl]

/-- The summary goes out through the orchestrator; where that fails, the rows stay marked. -/
def pushSummary (userId : String) (rows : List Pending) (consumed : Nat) (now : Time) : Service Outcomes :=
  Svc.tryCatch
    (do
      let _ ← enqueue (.summary rows consumed) (summaryOf userId rows now)
      pure (.digested consumed))
    fun _ => pure (.pushFailed consumed)

/-- Mark the rows, then sum them up as they were read. -/
def digestRows (userId : String) (rows : List Pending) (now : Time) : Service Outcomes := do
  let consumed ← markDelivered (.consume rows) rows now
  if consumed = 0 then pure .skipped else pushSummary userId rows consumed now

/-- Nobody is asked for a digest he does not want, or before it is due. -/
def digestFor (opts : DigestRunOptions) (dryRun : Bool) (now : Time) (userId : String) (rows : List Pending)
    (prefs : Option (String × Bool)) : Service Outcomes :=
  if (prefs.map Prod.snd).getD true = false then do
    let _ ← markDelivered (.catchUp rows) rows now
    pure (.caughtUp rows.length)
  else if isDueForDigest (frequencyOf opts (prefs.map Prod.fst)) now = false then pure .filteredCadence
  else if dryRun then pure .filteredDryRun
  else if summariseCategories rows = [] then pure .skipped
  else digestRows userId rows now

/-- One user's turn. -/
def digestUser (opts : DigestRunOptions) (dryRun : Bool) (now : Time) (userId : String) (rows : List Pending) :
    Service Outcomes :=
  Svc.tryCatch
    (do
      let prefs ← query (digestPreferences userId)
      digestFor opts dryRun now userId rows prefs)
    fun _ => pure .failed

def digestUsers (opts : DigestRunOptions) (dryRun : Bool) (now : Time) :
    List (String × List Pending) → DigestRunResult → Service DigestRunResult
  | [], stats => pure stats
  | (userId, rows) :: rest, stats => do
      let outcome ← digestUser opts dryRun now userId rows
      digestUsers opts dryRun now rest (stats.add outcome)

def runAt (opts : DigestRunOptions) (now : Time) : Service DigestRunResult := do
  let dry ← Svc.query .read isReminderDryRun
  let enabled ← Svc.query .read isDigestWorkerEnabled
  let dryRun := opts.forceDryRun || dry
  if enabled = false ∧ dryRun = false then pure { ran := false, skippedReason := some "feature_flag_off" }
  else do
    let pending ← query queuedRows
    let users := byUser pending
    digestUsers opts dryRun now users { usersConsidered := users.length }

def runOnce (opts : DigestRunOptions) : Service DigestRunResult :=
  match opts.now with
  | some now => runAt opts now
  | none => do
      let now ← dateNow
      runAt opts now

end Worker

/-! ### Runs -/

/-- What goes on around the worker and the producers. -/
inductive Change
  | clock (now : Time)
  | configure (environment : Environment)
  | outage (o : Outage)
  | register (userId : String)
  /-- The preferences' upsert. -/
  | prefer (row : NotificationPreferences)

def Change.apply (c : Change) (w : Notifications) : Notifications :=
  match c with
  | .clock now => { w with now := now }
  | .configure environment => { w with environment := environment }
  | .outage o => { w with outage := o }
  | .register userId => { w with users := userId :: w.users }
  | .prefer row =>
      match (w.preferences.deleteMany fun p => p.userId = row.userId).create row with
      | some t => { w with preferences := t }
      | none => w

theorem Change.apply_notifications (c : Change) (w : Notifications) : (c.apply w).notifications = w.notifications := by
  cases c with
  | clock | configure | outage | register => rfl
  | prefer row =>
      unfold Change.apply
      dsimp only
      split <;> rfl

inductive Call
  | enqueue (input : EnqueueInput)
  | runOnce (opts : DigestRunOptions)
  | environment (change : Change)

def program [Intl] : Call → Service Unit
  | .enqueue input => do
      let _ ← Notifications.enqueue .write input
      pure ()
  | .runOnce opts => do
      let _ ← Notifications.runOnce opts
      pure ()
  | .environment change => Svc.transaction .environment (Tx.modify change.apply)

/-- Any interleaving of the worker's runs, the producers' calls and the changes around them, from an empty bell. -/
abbrev DigestRun [Intl] (tr : List (Event Notifications Step)) (cfg : Config Notifications Step (Except Err Unit)) : Prop :=
  Exec program empty tr cfg

end Qift.Notifications
