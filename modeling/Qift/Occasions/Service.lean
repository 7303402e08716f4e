import Qift.Lib.Row
import Qift.Lib.Settling
import Qift.Occasions.Recurrence

/-!
# The occasions service

`occasions.service.ts` with `occasion-kinds.ts`, `occasion-privacy.ts` and `occasion-projection.ts`, one database action
after the other.

* `Occasions` is the part of the database behind it, with the clock; `Step` labels the actions.
* `validateCreateInput` checks a whole body and `validatePartialInput` the fields of a body that are there; `update`
  writes what the latter returns over the stored row.
* `projectOwnOccasion` and `projectOccasionForViewer` resolve the dates of what a request answers.
* `Call` and `program` are the requests; `Run` is any interleaving of them from the empty database.
-/

namespace Qift.Occasions

open Relational Interleaving

/-! ### Rows -/

structure User where
  id : String
  qiftUsername : String
  fullName : Option String
  avatarUrl : Option String
  deletedAt : Option Time

structure Follow where
  followerId : String
  followingId : String
  status : String

structure Block where
  blockerId : String
  blockedId : String

structure Occasion where
  id : Nat
  userId : Option String
  kind : String
  label : Option String
  calendar : Calendar
  year : Option Int
  month : Int
  day : Int
  recurrence : Recurrence
  visibility : String
  relatedUserId : Option String
  createdAt : Time
  deactivatedAt : Option Time
  deriving DecidableEq

structure OccasionReminder where
  id : Nat
  userId : String
  occasionId : Nat
  daysBefore : Int
  channel : String
  enabled : Bool
  deriving DecidableEq

/-- The date of a row, as the resolver takes it. -/
def Occasion.spec (r : Occasion) : OccasionDateSpec := ⟨r.calendar, r.year, r.month, r.day, r.recurrence⟩

/-- A row that recurs in the Hijri calendar. -/
def Occasion.recursInHijri (r : Occasion) : Bool := r.recurrence = .yearly && r.calendar = .hijri

/-- The fields `validateCreateInput` returns. -/
structure OccasionData where
  kind : String
  label : Option String
  calendar : Calendar
  year : Option Int
  month : Int
  day : Int
  recurrence : Recurrence
  visibility : String
  relatedUserId : Option String

/-- The keys `validatePartialInput` returns. -/
structure OccasionPatch where
  kind : Option String := none
  label : Option (Option String) := none
  calendar : Option Calendar := none
  year : Option (Option Int) := none
  month : Option Int := none
  day : Option Int := none
  recurrence : Option Recurrence := none
  visibility : Option String := none
  relatedUserId : Option (Option String) := none
  deriving DecidableEq

/-- The row with the keys of a patch over its own. -/
def OccasionPatch.write (patch : OccasionPatch) (r : Occasion) : Occasion :=
  { r with
    kind := patch.kind.getD r.kind
    label := patch.label.getD r.label
    calendar := patch.calendar.getD r.calendar
    year := patch.year.getD r.year
    month := patch.month.getD r.month
    day := patch.day.getD r.day
    recurrence := patch.recurrence.getD r.recurrence
    visibility := patch.visibility.getD r.visibility
    relatedUserId := patch.relatedUserId.getD r.relatedUserId }

end Qift.Occasions

namespace Qift

open Relational

/-- The database of the occasions, and the clock. -/
structure Occasions where
  now : Time
  nextId : Nat
  users : Table Occasions.User.id
  follows : List Occasions.Follow
  blocks : List Occasions.Block
  occasions : Table Occasions.Occasion.id
  reminders : Table Occasions.OccasionReminder.id

end Qift

namespace Qift.Occasions

open Relational Interleaving

def empty : Occasions where
  now := 0
  nextId := 0
  users := Table.empty
  follows := []
  blocks := []
  occasions := Table.empty
  reminders := Table.empty

/-! ### Actions -/

abbrev occasion : Delegate Occasions Occasion.id where
  table := Occasions.occasions
  store t w := { w with occasions := t }
  conflict _ _ := false

/-- One reminder for each user, occasion and number of days. -/
abbrev occasionReminder : Delegate Occasions OccasionReminder.id where
  table := Occasions.reminders
  store t w := { w with reminders := t }
  conflict a b := decide (a.userId = b.userId ∧ a.occasionId = b.occasionId ∧ a.daysBefore = b.daysBefore)

/-- An atomic action. -/
inductive Step
  | read
  /-- The time is read to resolve rows; the flag is whether one of them recurs in the Hijri calendar. -/
  | now (recursInHijri : Bool)
  /-- The clock, the accounts, the follows and the blocks. -/
  | environment
  | create (data : OccasionData)
  | update (id : Nat) (patch : OccasionPatch)
  | softDelete (id : Nat)
  | reminder

/-- A service call. -/
abbrev Service := Svc Occasions Step Err

/-- The body of a database transaction. -/
abbrev Transaction := Tx Occasions Err

/-- `new Date()`, to resolve rows. -/
def dateNow (rows : List Occasion) : Service Time := Svc.query (.now (rows.any Occasion.recursInHijri)) Occasions.now

/-- An identifier that was not handed out before. -/
def freshId : Transaction Nat := fun w => .ok (w.nextId, { w with nextId := w.nextId + 1 })

/-! ### Validation -/

def LABEL_MAX : Nat := 80

def OCCASION_KINDS : List String :=
  ["birthday", "anniversary_relationship", "anniversary_work", "anniversary_other",
    "eid_al_fitr", "eid_al_adha", "ramadan", "hijri_new_year", "mawlid", "ashura", "mothers_day", "fathers_day",
    "saudi_national_day", "new_year",
    "graduation", "engagement", "wedding", "new_baby", "new_home", "new_job", "promotion", "retirement",
    "degree", "exam_success", "milestone",
    "thank_you", "congratulations", "sympathy", "get_well", "just_because",
    "custom"]

def VALID_VISIBILITIES : List String := ["private", "followers", "mutual", "public"]

def VALID_CHANNELS : List String := ["digest", "real_time"]

/-- The body of a request: the members that are there. -/
structure OccasionInput where
  kind : Option Json := none
  label : Option Json := none
  calendar : Option Json := none
  year : Option Json := none
  month : Option Json := none
  day : Option Json := none
  recurrence : Option Json := none
  visibility : Option Json := none
  relatedUserId : Option Json := none

def asOneOf (texts : List String) : Json → Option String
  | .str s => if s ∈ texts then some s else none
  | _ => none

def asCalendar : Json → Option Calendar
  | .str "gregorian" => some .gregorian
  | .str "hijri" => some .hijri
  | _ => none

def asRecurrence : Json → Option Recurrence
  | .str "once" => some .once
  | .str "yearly" => some .yearly
  | _ => none

/-- An integer between two bounds. -/
def asInteger (lo hi : Int) : Json → Option Int
  | .num x => if lo ≤ x ∧ x ≤ hi ∧ x.den = 1 then some x.num else none
  | _ => none

/-- The longest prefix that `slice(0, max)` keeps whole. -/
def sliceUnits (max : Nat) (s : String) : String :=
  String.ofList ((List.range (s.toList.length + 1)).foldl
    (fun best n => if (codeUnits (String.ofList (s.toList.take n))).length ≤ max then s.toList.take n else best) [])

/-- A label: trimmed, cut, and none where nothing is left. -/
def asLabel : Json → Option String
  | .str s =>
      let label := sliceUnits LABEL_MAX (trim s)
      if label = "" then none else some label
  | _ => none

def asUserId : Json → Option String
  | .str s => if s = "" then none else some s
  | _ => none

/-- A field that a body must have. -/
def required {α : Type} (parse : Json → Option α) (field : Option Json) (message : String) : Except Err α :=
  (field.bind parse).elim (.error (.badRequest message)) .ok

/-- A field that a body may have. -/
def present {α : Type} (parse : Json → Option α) (field : Option Json) (message : String) : Except Err (Option α) :=
  match field with
  | none => .ok none
  | some value => (parse value).elim (.error (.badRequest message)) fun a => .ok (some a)

def KIND_MSG : String := "kind is required and must be allow-listed"
def CALENDAR_MSG : String := "calendar must be gregorian | hijri"
def RECURRENCE_MSG : String := "recurrence must be once | yearly"
def MONTH_MSG : String := "month must be 1..12"
def DAY_MSG : String := "day must be 1..31"
def VISIBILITY_MSG : String := "visibility must be private | followers | mutual | public"

/-- An occasion on one date must have a year, one that recurs may. -/
def createYear (recurrence : Recurrence) (field : Option Json) : Except Err (Option Int) :=
  match recurrence with
  | .once => some <$> required (asInteger 1900 3000) field "once recurrence requires a year"
  | .yearly => .ok (field.bind (asInteger 1900 3000))

def createVisibility : Option Json → Except Err String
  | none | some .null => .ok "private"
  | some value => required (asOneOf VALID_VISIBILITIES) (some value) VISIBILITY_MSG

def validateCreateInput (body : OccasionInput) : Except Err OccasionData := do
  let kind ← required (asOneOf OCCASION_KINDS) body.kind KIND_MSG
  let calendar ← required asCalendar body.calendar CALENDAR_MSG
  let recurrence ← required asRecurrence body.recurrence RECURRENCE_MSG
  let month ← required (asInteger 1 12) body.month MONTH_MSG
  let day ← required (asInteger 1 31) body.day DAY_MSG
  let year ← createYear recurrence body.year
  let visibility ← createVisibility body.visibility
  pure
    { kind := kind
      label := body.label.bind asLabel
      calendar := calendar
      year := year
      month := month
      day := day
      recurrence := recurrence
      visibility := visibility
      relatedUserId := body.relatedUserId.bind asUserId }

def asYear : Json → Option (Option Int)
  | .null => some none
  | value => (asInteger 1900 3000 value).map some

def validatePartialInput (body : OccasionInput) : Except Err OccasionPatch := do
  let kind ← present (asOneOf OCCASION_KINDS) body.kind "kind must be allow-listed"
  let calendar ← present asCalendar body.calendar CALENDAR_MSG
  let year ← present asYear body.year "year must be an integer 1900..3000"
  let month ← present (asInteger 1 12) body.month MONTH_MSG
  let day ← present (asInteger 1 31) body.day DAY_MSG
  let recurrence ← present asRecurrence body.recurrence RECURRENCE_MSG
  let visibility ← present (asOneOf VALID_VISIBILITIES) body.visibility VISIBILITY_MSG
  pure
    { kind := kind
      label := body.label.map asLabel
      calendar := calendar
      year := year
      month := month
      day := day
      recurrence := recurrence
      visibility := visibility
      relatedUserId := body.relatedUserId.map asUserId }

/-! ### Projections -/

/-- What an owner is shown; the next occurrence as an instant. -/
structure PublicOccasion where
  row : Occasion
  nextOccurrenceAt : Option Time

structure OwnerSummary where
  id : String
  qiftUsername : String
  fullName : Option String
  avatarUrl : Option String
  deriving DecidableEq

inductive RelativeBucket
  | today | tomorrow | this_week | this_month | later
  deriving DecidableEq

/-- What others are shown. -/
structure RelationshipOccasion where
  id : Nat
  kind : String
  label : Option String
  calendar : Calendar
  year : Option Int
  month : Int
  day : Int
  recurrence : Recurrence
  nextOccurrenceAt : Option Time
  daysUntil : Option Int
  bucket : Option RelativeBucket
  owner : Option OwnerSummary
  deriving DecidableEq

/-- The days from one instant to another, none where the second has passed. -/
def daysUntilUtc (next now : Time) : Option Int :=
  let diff := (startOfUtcDay next - startOfUtcDay now) / dayMillis
  if diff < 0 then none else some diff

def bucketFor (daysUntil : Int) : RelativeBucket :=
  if daysUntil ≤ 0 then .today
  else if daysUntil = 1 then .tomorrow
  else if daysUntil ≤ 7 then .this_week
  else if daysUntil ≤ 30 then .this_month
  else .later

structure ViewerContext where
  viewerId : String
  viewerFollowsOwner : Bool
  ownerFollowsViewer : Bool
  blocked : Bool

/-- Unknown tiers fail closed. -/
def canSeeOccasion (viewer : ViewerContext) (r : Occasion) : Bool :=
  match r.userId with
  | none => r.visibility = "public"
  | some userId =>
      if viewer.viewerId = userId then true
      else if viewer.blocked then false
      else if r.visibility = "public" then true
      else if r.visibility = "followers" then viewer.viewerFollowsOwner
      else if r.visibility = "mutual" then viewer.viewerFollowsOwner && viewer.ownerFollowsViewer
      else false

section Projection

variable [Umalqura]

def projectOwnOccasion (r : Occasion) (now : Time) : Except Err PublicOccasion := do
  let next ← nextOccurrence r.spec now
  pure { row := r, nextOccurrenceAt := next }

def projectOccasionForViewer (viewer : ViewerContext) (r : Occasion) (now : Time) (owner : Option OwnerSummary) :
    Except Err (Option RelationshipOccasion) :=
  if canSeeOccasion viewer r then do
    let next ← nextOccurrence r.spec now
    let daysUntil := next.bind fun next => daysUntilUtc next now
    pure (some
      { id := r.id
        kind := r.kind
        label := r.label
        calendar := r.calendar
        -- the year of a birthday is not shown
        year := if r.recurrence = .once then r.year else none
        month := r.month
        day := r.day
        recurrence := r.recurrence
        nextOccurrenceAt := next
        daysUntil := daysUntil
        bucket := daysUntil.map bucketFor
        owner := owner })
  else pure none

end Projection

/-- The soonest first; what has passed is dropped. -/
def sortUpcoming (projections : List (Option RelationshipOccasion)) : List RelationshipOccasion :=
  ((projections.filterMap id).filter fun p => p.daysUntil ≠ none).insertionSort
    fun a b => a.daysUntil.getD 0 ≤ b.daysUntil.getD 0

/-! ### The owner's side -/

def defaultCadenceFor (kind : String) : List Int :=
  if kind ∈ ["engagement", "wedding", "new_baby", "new_home", "new_job", "promotion", "graduation", "retirement"] then
    [14, 3, 0]
  else if kind ∈ ["degree", "exam_success", "milestone"] then [0]
  else if kind ∈ ["thank_you", "congratulations", "sympathy", "get_well", "just_because"] then []
  else if kind ∈ ["eid_al_fitr", "eid_al_adha", "ramadan", "hijri_new_year", "mawlid", "ashura", "mothers_day",
      "fathers_day", "saudi_national_day", "new_year"] then [7]
  else [7, 1]

/-- A live occasion of a user. -/
def ownedOccasion (viewerId : String) (id : Nat) (w : Occasions) : Option Occasion :=
  (w.occasions.find id).filter fun r => r.userId = some viewerId && r.deactivatedAt = none

/-- The live occasions of some users, newest first. -/
def liveOccasions (userIds : List String) (w : Occasions) : List Occasion :=
  (w.occasions.rows.filter fun r => r.userId.any (· ∈ userIds) && r.deactivatedAt = none).insertionSort
    fun a b => b.createdAt ≤ a.createdAt

/-- The row of a new occasion. -/
def createOccasionTx (viewerId : String) (data : OccasionData) : Transaction Occasion := do
  let id ← freshId
  let now ← Tx.read Occasions.now
  occasion.create (.p2002 "Occasion")
    { id := id
      userId := some viewerId
      kind := data.kind
      label := data.label
      calendar := data.calendar
      year := data.year
      month := data.month
      day := data.day
      recurrence := data.recurrence
      visibility := data.visibility
      relatedUserId := data.relatedUserId
      createdAt := now
      deactivatedAt := none }

def createReminderTx (viewerId : String) (occasionId : Nat) (daysBefore : Int) (channel : String) (enabled : Bool) :
    Transaction OccasionReminder := do
  let id ← freshId
  occasionReminder.create (.p2002 "OccasionReminder")
    { id := id
      userId := viewerId
      occasionId := occasionId
      daysBefore := daysBefore
      channel := channel
      enabled := enabled }

/-- The reminders of a new occasion; one that cannot be written is left out. -/
def seedReminders (viewerId : String) (r : Occasion) : Service Unit :=
  Svc.forEach (defaultCadenceFor r.kind) fun daysBefore =>
    Svc.tryCatch (do
      let _ ← Svc.transaction .reminder (createReminderTx viewerId r.id daysBefore "digest" true)
      pure ()) fun _ => pure ()

section Service

variable [Umalqura]

/-- The answer about a row of the owner's. -/
def showOwn (r : Occasion) : Service PublicOccasion := do
  let now ← dateNow [r]
  Svc.ofExcept (projectOwnOccasion r now)

def create (viewerId : String) (body : OccasionInput) : Service PublicOccasion := do
  let data ← Svc.ofExcept (validateCreateInput body)
  let related ← Svc.query .read fun w => data.relatedUserId.all fun userId =>
    (w.users.find userId).any fun u => u.deletedAt = none
  Svc.ensure (related = true) (.badRequest "relatedUserId not found")
  let r ← Svc.transaction (.create data) (createOccasionTx viewerId data)
  seedReminders viewerId r
  showOwn r

def listMine (viewerId : String) : Service (List PublicOccasion) := do
  let rows ← Svc.query .read (liveOccasions [viewerId])
  let now ← dateNow rows
  Svc.ofExcept (rows.mapM fun r => projectOwnOccasion r now)

def requireOwned (viewerId : String) (id : Nat) : Service Occasion := do
  let found ← Svc.query .read (ownedOccasion viewerId id)
  match found with
  | none => Svc.fail (.notFound "occasion_not_found")
  | some r => pure r

def findOneOwned (viewerId : String) (id : Nat) : Service PublicOccasion := do
  let r ← requireOwned viewerId id
  showOwn r

def update (viewerId : String) (id : Nat) (body : OccasionInput) : Service PublicOccasion := do
  let _ ← requireOwned viewerId id
  let patch ← Svc.ofExcept (validatePartialInput body)
  if patch = {} then findOneOwned viewerId id
  else do
    let r ← Svc.transaction (.update id patch)
      (occasion.update (.error "record to update not found") id patch.write fun _ => by rfl)
    showOwn r

def softDelete (viewerId : String) (id : Nat) : Service Unit := do
  let _ ← requireOwned viewerId id
  let now ← Svc.query .read Occasions.now
  let _ ← Svc.transaction (.softDelete id)
    (occasion.update (.error "record to update not found") id fun r => { r with deactivatedAt := some now })
  pure ()

/-! ### The others' side -/

/-- `listExcludedIds`: the accounts on the other side of a block. -/
def listExcludedIds (viewerId : String) (w : Occasions) : List String :=
  (w.blocks.filterMap fun b =>
    if b.blockerId = viewerId then some b.blockedId
    else if b.blockedId = viewerId then some b.blockerId
    else none).dedup

def isAcceptedFollow (followerId followingId : String) (w : Occasions) : Bool :=
  w.follows.any fun f => f.followerId = followerId && f.followingId = followingId && f.status = "accepted"

def buildViewerContext (viewerId ownerId : String) : Service ViewerContext :=
  if viewerId = ownerId then pure ⟨viewerId, false, false, false⟩
  else do
    let excludedIds ← Svc.query .read (listExcludedIds viewerId)
    let viewerFollows ← Svc.query .read (isAcceptedFollow viewerId ownerId)
    let ownerFollows ← Svc.query .read (isAcceptedFollow ownerId viewerId)
    pure ⟨viewerId, viewerFollows, ownerFollows, ownerId ∈ excludedIds⟩

def listForUser (viewerId ownerId : String) : Service (List RelationshipOccasion) := do
  let ctx ← buildViewerContext viewerId ownerId
  let rows ← Svc.query .read (liveOccasions [ownerId])
  let now ← dateNow (rows.filter (canSeeOccasion ctx))
  let projected ← Svc.ofExcept (rows.mapM fun r => projectOccasionForViewer ctx r now none)
  pure (projected.filterMap id)

def DEFAULT_UPCOMING_WINDOW_DAYS : Int := 30
def UPCOMING_HARD_LIMIT : Int := 100

/-- What the feed knows of a row's owner. -/
def feedContext (viewerId : String) (reverseFollows : List String) (r : Occasion) : ViewerContext :=
  ⟨viewerId, true, r.userId.any (· ∈ reverseFollows), false⟩

def listUpcomingForFollowed (viewerId : String) (windowDays limit : Option Int) :
    Service (List RelationshipOccasion) := do
  let windowDays := max 1 (min (windowDays.getD DEFAULT_UPCOMING_WINDOW_DAYS) 365)
  let limit := max 1 (min (limit.getD 50) UPCOMING_HARD_LIMIT)
  let follows ← Svc.query .read fun w => w.follows.filter fun f => f.followerId = viewerId && f.status = "accepted"
  let excludedIds ← Svc.query .read (listExcludedIds viewerId)
  let ownerIds := (follows.map Follow.followingId).filter (· ∉ excludedIds)
  if ownerIds = [] then pure []
  else do
    let rows ← Svc.query .read fun w => (liveOccasions ownerIds w).take (limit * 3).toNat
    let reverseFollows ← Svc.query .read fun w =>
      (w.follows.filter fun f => f.followerId ∈ ownerIds && f.followingId = viewerId && f.status = "accepted").map
        Follow.followerId
    let users ← Svc.query .read fun w => w.users.rows.filter fun u => u.id ∈ ownerIds && u.deletedAt = none
    let now ← dateNow (rows.filter fun r => canSeeOccasion (feedContext viewerId reverseFollows r) r)
    let projections ← Svc.ofExcept (rows.mapM fun r =>
      projectOccasionForViewer (feedContext viewerId reverseFollows r) r now
        ((users.find? fun u => r.userId = some u.id).map fun u => ⟨u.id, u.qiftUsername, u.fullName, u.avatarUrl⟩))
    let windowEnd := now + windowDays * dayMillis
    pure (((sortUpcoming projections).filter fun p => p.nextOccurrenceAt.any (· ≤ windowEnd)).take limit.toNat)

end Service

/-! ### Reminders -/

structure ReminderInput where
  daysBefore : Option Json := none
  channel : Option Json := none
  enabled : Option Json := none

def reminderChannel : Option Json → Except Err String
  | none | some .null => .ok "digest"
  | some value => required (asOneOf VALID_CHANNELS) (some value) "channel must be digest | real_time"

/-- Insert the reminder, or set the channel and the switch of the stored one. -/
def upsertReminderTx (viewerId : String) (occasionId : Nat) (daysBefore : Int) (channel : String) (enabled : Bool) :
    Transaction OccasionReminder := do
  let stored ← Tx.read fun w => w.reminders.rows.find? fun x =>
    x.userId = viewerId && x.occasionId = occasionId && x.daysBefore = daysBefore
  match stored with
  | some x =>
      occasionReminder.update (.error "record to update not found") x.id
        (fun x => { x with channel := channel, enabled := enabled })
  | none => createReminderTx viewerId occasionId daysBefore channel enabled

def upsertReminder (viewerId : String) (occasionId : Nat) (body : ReminderInput) : Service OccasionReminder := do
  let _ ← requireOwned viewerId occasionId
  let daysBefore ← Svc.ofExcept (required (asInteger 0 60) body.daysBefore "daysBefore must be an integer 0..60")
  let channel ← Svc.ofExcept (reminderChannel body.channel)
  let enabled := match body.enabled with
    | some (.bool enabled) => enabled
    | _ => true
  Svc.transaction .reminder (upsertReminderTx viewerId occasionId daysBefore channel enabled)

def deleteReminder (viewerId : String) (occasionId reminderId : Nat) : Service Unit := do
  let found ← Svc.query .read fun w => (w.reminders.find reminderId).any fun x =>
    x.userId = viewerId && x.occasionId = occasionId
  Svc.ensure (found = true) (.notFound "reminder_not_found")
  let _ ← Svc.transaction .reminder (occasionReminder.delete (.error "record to delete does not exist") reminderId)
  pure ()

def listRemindersForOccasion (viewerId : String) (occasionId : Nat) : Service (List OccasionReminder) := do
  let _ ← requireOwned viewerId occasionId
  Svc.query .read fun w => (w.reminders.rows.filter fun x => x.userId = viewerId && x.occasionId = occasionId).insertionSort
    fun a b => b.daysBefore ≤ a.daysBefore

/-! ### Runs -/

/-- The accounts and what is between them. -/
structure Accounts where
  users : Table User.id
  follows : List Follow
  blocks : List Block

def Accounts.open (a : Accounts) (w : Occasions) : Occasions :=
  { w with users := a.users, follows := a.follows, blocks := a.blocks }

inductive Call
  | tick (elapsed : Nat)
  | accounts (a : Accounts)
  | create (viewerId : String) (body : OccasionInput)
  | listMine (viewerId : String)
  | findOneOwned (viewerId : String) (id : Nat)
  | update (viewerId : String) (id : Nat) (body : OccasionInput)
  | softDelete (viewerId : String) (id : Nat)
  | listForUser (viewerId ownerId : String)
  | listUpcomingForFollowed (viewerId : String) (windowDays limit : Option Int)
  | upsertReminder (viewerId : String) (occasionId : Nat) (body : ReminderInput)
  | deleteReminder (viewerId : String) (occasionId reminderId : Nat)
  | listRemindersForOccasion (viewerId : String) (occasionId : Nat)

inductive Reply
  | done
  | own (p : PublicOccasion)
  | owned (ps : List PublicOccasion)
  | shown (ps : List RelationshipOccasion)
  | reminder (x : OccasionReminder)
  | reminders (xs : List OccasionReminder)

def tickTx (elapsed : Nat) : Transaction Unit := Tx.modify fun w => { w with now := w.now + elapsed }

section Program

variable [Umalqura]

def program : Call → Service Reply
  | .tick elapsed => (fun _ => .done) <$> Svc.transaction .environment (tickTx elapsed)
  | .accounts a => (fun _ => .done) <$> Svc.transaction .environment (Tx.modify a.open)
  | .create viewerId body => .own <$> create viewerId body
  | .listMine viewerId => .owned <$> listMine viewerId
  | .findOneOwned viewerId id => .own <$> findOneOwned viewerId id
  | .update viewerId id body => .own <$> update viewerId id body
  | .softDelete viewerId id => (fun _ => .done) <$> softDelete viewerId id
  | .listForUser viewerId ownerId => .shown <$> listForUser viewerId ownerId
  | .listUpcomingForFollowed viewerId windowDays limit => .shown <$> listUpcomingForFollowed viewerId windowDays limit
  | .upsertReminder viewerId occasionId body => .reminder <$> upsertReminder viewerId occasionId body
  | .deleteReminder viewerId occasionId reminderId => (fun _ => .done) <$> deleteReminder viewerId occasionId reminderId
  | .listRemindersForOccasion viewerId occasionId => .reminders <$> listRemindersForOccasion viewerId occasionId

/-- Any interleaving of requests, from a database without occasions. -/
abbrev Run (tr : List (Event Occasions Step)) (cfg : Config Occasions Step (Except Err Reply)) : Prop :=
  Exec program empty tr cfg

end Program

end Qift.Occasions
