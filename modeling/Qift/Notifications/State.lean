import Mathlib.Data.List.MinMax
import Qift.Lib.Delegate
import Qift.Runtime
import Qift.Settlement.States

/-!
# Notifications and what decides how they go out

* `Notifications` is the database behind the bell, with the clock, the configuration of the process and the pushes
  handed to the push service.
* `categoryForType` and `descriptorFor` are the category registry, `inQuietHours` the quiet window and `evaluateBudget`
  the budget engine.
* `Outage` says which of the database's answers fail at the moment.
-/

namespace Qift.Notifications

open Relational Interleaving

/-! ### Categories -/

inductive NotificationCategory
  | security | otp | legal | gift_update | address_confirm | merchant_order | occasion_reminder | social | system
  deriving DecidableEq

/-- The category as text. -/
def NotificationCategory.name : NotificationCategory → String
  | security => "security"
  | otp => "otp"
  | legal => "legal"
  | gift_update => "gift_update"
  | address_confirm => "address_confirm"
  | merchant_order => "merchant_order"
  | occasion_reminder => "occasion_reminder"
  | social => "social"
  | system => "system"

structure CategoryDescriptor where
  priority : String
  mandatory : Bool
  dailyCap : Option Nat
  weeklyCap : Option Nat

/-- `REGISTRY`. -/
def descriptorFor : NotificationCategory → CategoryDescriptor
  | .security => ⟨"critical", true, none, none⟩
  | .otp => ⟨"critical", true, none, none⟩
  | .legal => ⟨"critical", true, none, none⟩
  | .address_confirm => ⟨"high", false, some 10, some 30⟩
  | .gift_update => ⟨"high", false, some 20, some 60⟩
  | .merchant_order => ⟨"high", false, some 30, some 100⟩
  | .occasion_reminder => ⟨"normal", false, some 5, some 15⟩
  | .social => ⟨"low", false, some 8, some 25⟩
  | .system => ⟨"low", false, some 3, some 10⟩

def isMandatory (category : NotificationCategory) : Bool := (descriptorFor category).mandatory

/-- The category of a legacy type; one that is not known is the system's. -/
def categoryForType (type : String) : NotificationCategory :=
  if type ∈ ["gift.received", "gift.preparing", "gift.shipped", "gift.delivered", "gift.cancelled",
      "gift.attempted_no_address", "gift.address_ready_for_retry", "gift.default_address_used"] then .gift_update
  else if type ∈ ["gift.confirm_address", "gift.address_confirmed", "gift.auto_fallback_blocked"] then .address_confirm
  else if type = "gift_post.appreciated" then .social
  else .system

/-! ### Rows -/

/-- A notification; identifiers grow with time. -/
structure Notification where
  id : Nat
  userId : String
  type : String
  title : String
  body : Option String
  link : Option String
  createdAt : Time
  category : Option String
  priority : Option String
  pushDeliveredAt : Option Time
  deriving DecidableEq

structure NotificationPreferences where
  userId : String
  quietHoursStart : Option String
  quietHoursEnd : Option String
  quietHoursTimezone : String
  categoryOptOuts : Json
  digestEnabled : Bool
  digestFrequency : String

/-- What the push service is handed. -/
structure Push where
  userId : String
  title : String
  body : Option String
  url : Option String
  type : String

/-- The configuration of the process. -/
structure Environment where
  QIFT_PUSH_DELIVERY_ENABLED : Option String := none
  QIFT_DIGEST_WORKER_ENABLED : Option String := none
  QIFT_REMINDER_DRY_RUN : Option String := none

/-- Which answers of the database fail. -/
structure Outage where
  reads : Bool := false
  writes : Bool := false

end Qift.Notifications

namespace Qift

open Relational

/-- The bell: its tables, the clock, the configuration and what went to the push service. -/
structure Notifications where
  now : Time
  environment : Notifications.Environment
  outage : Notifications.Outage
  users : List String
  notifications : Table Notifications.Notification.id
  preferences : Table Notifications.NotificationPreferences.userId
  pushes : List Notifications.Push

end Qift

namespace Qift.Notifications

open Relational Interleaving

def empty : Notifications where
  now := 0
  environment := {}
  outage := {}
  users := []
  notifications := Table.empty
  preferences := Table.empty
  pushes := []

/-! ### Flags -/

/-- `isPushDeliveryEnabled`: the one flag that only an explicit `false` turns off. -/
def isPushDeliveryEnabled (w : Notifications) : Bool := w.environment.QIFT_PUSH_DELIVERY_ENABLED ≠ some "false"

def isDigestWorkerEnabled (w : Notifications) : Bool := w.environment.QIFT_DIGEST_WORKER_ENABLED = some "true"

def isReminderDryRun (w : Notifications) : Bool := w.environment.QIFT_REMINDER_DRY_RUN = some "true"

/-! ### Client delegate -/

abbrev notification : Delegate Notifications Notification.id where
  table := Notifications.notifications
  store t w := { w with notifications := t }
  conflict _ _ := false

/-- An identifier that no stored notification has. -/
def freshId (t : Table Notification.id) : Nat := (t.rows.map Notification.id).foldr max 0 + 1

theorem lt_freshId {t : Table Notification.id} {x : Notification} (h : x ∈ t.rows) : x.id < freshId t :=
  Nat.lt_succ_of_le (List.le_max_of_le' 0 (List.mem_map_of_mem h) le_rfl)

/-! ### Quiet hours -/

/-- The platform's calendar: hour and minute of an instant in a named time zone, none where it does not know the zone. -/
class Intl where
  hourMinute : String → Time → Option (Nat × Nat)

/-- A platform whose every zone is that of Greenwich. -/
@[reducible] def greenwich : Intl where
  hourMinute _ t := some ((t / 3600000 % 24).toNat, (t / 60000 % 60).toNat)

/-- `\d{1,2}`. -/
def twoDigits (cs : List Char) : Option Nat :=
  if (cs.length = 1 ∨ cs.length = 2) ∧ cs.all Char.isDigit then some (Nat.ofDigitChars 10 cs 0) else none

def parseHhmmToMinutes (hhmm : String) : Option Nat :=
  match (trim hhmm).toList.splitOn ':' with
  | [hours, minutes] =>
      match twoDigits hours, twoDigits minutes with
      | some h, some min => if 23 < h ∨ 59 < min then none else some (h * 60 + min)
      | _, _ => none
  | _ => none

example : parseHhmmToMinutes " 8:05" = some 485 := by decide +kernel

section Quiet

variable [Intl]

/-- Minutes since midnight in a zone. -/
def projectMinutesInZone (instant : Time) (tz : String) : Option Nat :=
  (Intl.hourMinute tz instant).map fun hm => (if hm.1 = 24 then 0 else hm.1) * 60 + hm.2

/-- Whether an instant is inside a quiet window; where that cannot be told, it is not. -/
def inQuietHours (start stop : Option String) (timezone : String) (now : Time) : Bool :=
  match start, stop with
  | some start, some stop =>
      match parseHhmmToMinutes start, parseHhmmToMinutes stop with
      | some startMin, some endMin =>
          if startMin = endMin then true
          else
            match projectMinutesInZone now timezone with
            | none => false
            | some nowMin =>
                if startMin < endMin then startMin ≤ nowMin && nowMin < endMin
                -- the window crosses midnight
                else startMin ≤ nowMin || nowMin < endMin
      | _, _ => false
  | _, _ => false

end Quiet

/-! ### The budget engine -/

inductive BudgetDecision
  | send_realtime
  | queue_digest (reason : String)
  | suppress (reason : String)

structure BudgetInputs where
  descriptor : CategoryDescriptor
  dailyCount : Nat
  weeklyCount : Nat
  optedOut : Bool
  inQuietHours : Bool
  digestEnabled : Bool

/-- The gates in their order; the digest mode is not one of them. -/
def evaluateBudget (input : BudgetInputs) : BudgetDecision :=
  if input.descriptor.mandatory then .send_realtime
  else if input.optedOut then .suppress "user_opted_out"
  else if input.descriptor.dailyCap.any (fun cap => cap ≤ input.dailyCount) then .queue_digest "daily_cap_exceeded"
  else if input.descriptor.weeklyCap.any (fun cap => cap ≤ input.weeklyCount) then .queue_digest "weekly_cap_exceeded"
  else if input.inQuietHours then .queue_digest "quiet_hours"
  else .send_realtime

theorem evaluateBudget_send {input : BudgetInputs} (hmandatory : input.descriptor.mandatory = false)
    (h : evaluateBudget input = .send_realtime) :
    (∀ cap, input.descriptor.dailyCap = some cap → input.dailyCount < cap) ∧
      ∀ cap, input.descriptor.weeklyCap = some cap → input.weeklyCount < cap := by
  unfold evaluateBudget at h
  rw [hmandatory] at h
  simp only [Bool.false_eq_true, if_false] at h
  split at h
  · cases h
  split at h
  · cases h
  rename_i hdaily
  split at h
  · cases h
  rename_i hweekly
  constructor
  · intro cap hcap
    simpa [hcap] using hdaily
  · intro cap hcap
    simpa [hcap] using hweekly

theorem evaluateBudget_suppress {input : BudgetInputs} (hmandatory : input.descriptor.mandatory = false) {reason : String} :
    evaluateBudget input = .suppress reason ↔ input.optedOut = true ∧ reason = "user_opted_out" := by
  unfold evaluateBudget
  rw [hmandatory]
  cases input.optedOut with
  | true => simp [eq_comm]
  | false =>
      simp only [Bool.false_eq_true, if_false, false_and, iff_false]
      split
      · nofun
      split
      · nofun
      split <;> nofun

end Qift.Notifications
