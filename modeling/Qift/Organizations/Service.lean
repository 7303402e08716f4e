import Qift.Database
import Qift.Lib.Row
import Qift.Portal.Otp
import Qift.Shop.Gifts

/-!
# Organizations and their seats

`org.service.ts`: an organization is drafted, submitted and reviewed, and its owner seats colleagues.

* `Organizations` is the part of the database behind it, with the audit log and the notifications.
* `createOrg`, `submitOrg`, `addMember`, `revokeMember` and `reviewOrg`.  A write carries what its call had read of the
  row: the status of the organization, the revocation of the seat.
* `Call` and `program` are the requests; `Run` is any interleaving of them.
-/

namespace Qift.Organizations

open Relational Interleaving

/-! ### Enumerated columns -/

inductive OrgStatus
  | draft | submitted | approved | rejected | changes_requested | suspended
  deriving DecidableEq

def SUBMITTABLE : List OrgStatus := [.draft, .changes_requested]

inductive OrgReviewAction
  | approve | reject | request_changes
  deriving DecidableEq

/-- `REVIEW_ACTIONS`, by their texts. -/
def reviewAction? : String → Option OrgReviewAction
  | "approve" => some .approve
  | "reject" => some .reject
  | "request_changes" => some .request_changes
  | _ => none

inductive SeatRole
  | owner | admin | approver | viewer
  deriving DecidableEq

def SeatRole.text : SeatRole → String
  | owner => "owner"
  | admin => "admin"
  | approver => "approver"
  | viewer => "viewer"

/-- `GRANTABLE_SEAT_ROLES`, by their texts: the owner's is not among them. -/
def grantable? : String → Option SeatRole
  | "admin" => some .admin
  | "approver" => some .approver
  | "viewer" => some .viewer
  | _ => none

/-! ### Rows -/

structure User where
  id : String
  qiftUsername : String
  deletedAt : Option Time

structure Organization where
  id : Nat
  legalName : String
  displayName : String
  displayNameAr : Option String
  crNumber : Option String
  vatNumber : Option String
  billingEmail : Option String
  billingAddress : Option String
  status : OrgStatus
  riskTier : String
  rejectionReason : Option String
  createdBy : String
  submittedAt : Option Time
  reviewedAt : Option Time
  reviewedBy : Option String
  createdAt : Time

/-- A console seat; a seat is revoked, never deleted. -/
structure OrgUser where
  id : Nat
  orgId : Nat
  userId : String
  role : SeatRole
  invitedBy : Option String
  acceptedAt : Option Time
  revokedAt : Option Time
  createdAt : Time

/-- What `audit.record` is told. -/
structure AuditRecord where
  actorUserId : Option String
  actorType : String
  action : String
  targetType : String
  targetId : Option Nat
  metadata : List (String × Option String)

/-- The `OrgReviewDecision` that the owner is told. -/
structure Notification where
  userId : String
  title : String
  body : Option String
  link : String

end Qift.Organizations

namespace Qift

open Relational

/-- The organizations, their seats and the accounts. -/
structure Organizations where
  now : Time
  users : List Organizations.User
  organizations : Table Organizations.Organization.id
  seats : Table Organizations.OrgUser.id
  audits : List Organizations.AuditRecord
  notifications : List Organizations.Notification
  nextId : Nat

end Qift

namespace Qift.Organizations

open Relational Interleaving

def empty : Organizations where
  now := 0
  users := []
  organizations := Table.empty
  seats := Table.empty
  audits := []
  notifications := []
  nextId := 0

/-! ### Client delegates -/

abbrev organization : Delegate Organizations Organization.id where
  table := Organizations.organizations
  store t w := { w with organizations := t }
  conflict _ _ := false

/-- Seats are unique by organization and user. -/
abbrev orgUser : Delegate Organizations OrgUser.id where
  table := Organizations.seats
  store t w := { w with seats := t }
  conflict a b := decide (a.orgId = b.orgId ∧ a.userId = b.userId)

/-- An atomic action. -/
inductive Step
  /-- A query or a clock read. -/
  | read
  /-- The clock and the accounts. -/
  | environment
  /-- An audit record or a notification. -/
  | record
  | createOrg
  /-- A submission, by a call that had read the status `found`. -/
  | submit (orgId : Nat) (found : OrgStatus)
  /-- A review decision, by a call that had read the status `found`. -/
  | review (orgId : Nat) (found : OrgStatus)
  | seat
  /-- A seat is taken up again, by a call that had read its revocation. -/
  | revive (seatId : Nat) (found : Option Time)
  | revoke (seatId : Nat)

/-- A service call. -/
abbrev Service := Svc Organizations Step Err

/-- The body of a database transaction. -/
abbrev Transaction := Tx Organizations Err

/-- An identifier that was not handed out before. -/
def freshId : Transaction Nat := fun w => .ok (w.nextId, { w with nextId := w.nextId + 1 })

/-- `audit.record`; its failure is logged and nothing more. -/
def record (r : AuditRecord) : Service Unit :=
  Svc.transaction .record (Tx.modify fun w => { w with audits := w.audits ++ [r] })

/-- `notifications.trigger`. -/
def trigger (n : Notification) : Service Unit :=
  Svc.transaction .record (Tx.modify fun w => { w with notifications := w.notifications ++ [n] })

/-! ### Organizations -/

structure CreateOrgInput where
  legalName : Option String := none
  displayName : Option String := none
  displayNameAr : Option String := none
  crNumber : Option String := none
  vatNumber : Option String := none
  billingEmail : Option String := none
  billingAddress : Option String := none

/-- `ORG_SELECT`: not who reviewed it. -/
structure OrgView where
  id : Nat
  legalName : String
  displayName : String
  displayNameAr : Option String
  crNumber : Option String
  vatNumber : Option String
  billingEmail : Option String
  billingAddress : Option String
  status : OrgStatus
  rejectionReason : Option String
  submittedAt : Option Time
  createdAt : Time

def Organization.view (o : Organization) : OrgView where
  id := o.id
  legalName := o.legalName
  displayName := o.displayName
  displayNameAr := o.displayNameAr
  crNumber := o.crNumber
  vatNumber := o.vatNumber
  billingEmail := o.billingEmail
  billingAddress := o.billingAddress
  status := o.status
  rejectionReason := o.rejectionReason
  submittedAt := o.submittedAt
  createdAt := o.createdAt

/-- A name that is long enough. -/
def nameOf (min : Nat) (raw : Option String) : Option String :=
  (Shop.trimOrNull raw).filter fun name => min ≤ (codeUnits name).length

/-- The draft of a request. -/
def CreateOrgInput.draft (body : CreateOrgInput) (creatorUserId legalName displayName : String) (id : Nat) (now : Time) :
    Organization where
  id := id
  legalName := legalName
  displayName := displayName
  displayNameAr := Shop.trimOrNull body.displayNameAr
  crNumber := Shop.trimOrNull body.crNumber
  vatNumber := Shop.trimOrNull body.vatNumber
  billingEmail := (Shop.trimOrNull body.billingEmail).map Portal.toLowerCase
  billingAddress := Shop.trimOrNull body.billingAddress
  status := .draft
  riskTier := "new"
  rejectionReason := none
  createdBy := creatorUserId
  submittedAt := none
  reviewedAt := none
  reviewedBy := none
  createdAt := now

/-- The draft and its owner's seat, together. -/
def createOrgTx (body : CreateOrgInput) (creatorUserId legalName displayName : String) : Transaction Organization := do
  let now ← Tx.read Organizations.now
  let id ← freshId
  let created ← organization.create (.p2002 "Organization") (body.draft creatorUserId legalName displayName id now)
  let seatId ← freshId
  let _ ← orgUser.create (.p2002 "OrgUser")
    { id := seatId
      orgId := created.id
      userId := creatorUserId
      role := .owner
      invitedBy := none
      acceptedAt := some now
      revokedAt := none
      createdAt := now }
  pure created

def createOrg (creatorUserId : String) (body : CreateOrgInput) : Service OrgView :=
  match nameOf 3 body.legalName with
  | none => Svc.fail (.badRequest "org_legal_name_required")
  | some legalName =>
      match nameOf 2 body.displayName with
      | none => Svc.fail (.badRequest "org_display_name_required")
      | some displayName => do
          let org ← Svc.transaction .createOrg (createOrgTx body creatorUserId legalName displayName)
          record
            { actorUserId := some creatorUserId
              actorType := "user"
              action := "org.create"
              targetType := "organization"
              targetId := some org.id
              metadata := [("legalName", some legalName)] }
          pure org.view

/-- `organization.update`, stamped with the clock. -/
def updateOrg (orgId : Nat) (f : Time → Organization → Organization)
    (hf : ∀ now o, (f now o).id = o.id := by intros; rfl) : Transaction Organization := do
  let now ← Tx.read Organizations.now
  organization.update (.error "record to update not found") orgId (f now) (hf now)

def submitOrg (actorUserId : String) (orgId : Nat) : Service OrgView := do
  let org ← Svc.query .read fun w => w.organizations.find orgId
  match org with
  | none => Svc.fail (.notFound "org_not_found")
  | some org => do
      Svc.ensure (org.status ∈ SUBMITTABLE) (.badRequest "org_not_submittable")
      Svc.ensure (org.crNumber.any (fun crNumber => crNumber ≠ "") = true) (.badRequest "org_cr_required")
      let updated ← Svc.transaction (.submit orgId org.status)
        (updateOrg orgId fun now o => { o with status := .submitted, submittedAt := some now })
      record
        { actorUserId := some actorUserId
          actorType := "user"
          action := "org.submit"
          targetType := "organization"
          targetId := some orgId
          metadata := [] }
      pure updated.view

def OrgReviewAction.nextStatus : OrgReviewAction → OrgStatus
  | approve => .approved
  | reject => .rejected
  | request_changes => .changes_requested

def OrgReviewAction.title : OrgReviewAction → String
  | approve => "تم اعتماد ملف شركتك 🎉"
  | reject => "لم يُعتمد ملف شركتك"
  | request_changes => "مطلوب تعديلات على ملف شركتك"

def OrgReviewAction.text : OrgReviewAction → String
  | approve => "approve"
  | reject => "reject"
  | request_changes => "request_changes"

/-- The owner's seat is told of the decision. -/
def tellOwner (orgId : Nat) (action : OrgReviewAction) (body : Option String) : Service Unit := do
  let owner ← Svc.query .read fun w =>
    w.seats.rows.find? fun s => s.orgId = orgId ∧ s.role = .owner ∧ s.revokedAt = none
  match owner with
  | none => pure ()
  | some owner => trigger { userId := owner.userId, title := action.title, body := body, link := "/org" }

def reviewOrg (adminUserId : String) (orgId : Nat) (action : String) (reason : Option String) : Service Organization :=
  match reviewAction? action with
  | none => Svc.fail (.badRequest "org_review_action_invalid")
  | some action => do
      let trimmedReason := Shop.trimOrNull reason
      Svc.ensure (action = .approve ∨ trimmedReason ≠ none) (.badRequest "org_review_reason_required")
      let org ← Svc.query .read fun w => w.organizations.find orgId
      match org with
      | none => Svc.fail (.notFound "org_not_found")
      | some org => do
          Svc.ensure (org.status = .submitted) (.conflict "org_not_in_review")
          let updated ← Svc.transaction (.review orgId org.status)
            (updateOrg orgId fun now o =>
              { o with
                status := action.nextStatus
                rejectionReason := if action = .approve then none else trimmedReason
                reviewedAt := some now
                reviewedBy := some adminUserId })
          record
            { actorUserId := some adminUserId
              actorType := "admin"
              action := "admin.org.review"
              targetType := "organization"
              targetId := some orgId
              metadata := [("reviewAction", some action.text), ("reason", trimmedReason)] }
          tellOwner orgId action (if action = .approve then some updated.displayName else trimmedReason)
          pure updated

/-! ### Seats -/

/-- `replace(/^@/, '')`. -/
def dropAt (s : String) : String :=
  match s.toList with
  | '@' :: rest => String.ofList rest
  | _ => s

/-- The username a colleague is looked up by. -/
def memberUsername (raw : Option String) : Option String :=
  (raw.map fun s => Portal.toLowerCase (dropAt (trim s))).filter fun s => s ≠ ""

/-- What `addMember` answers with. -/
structure MemberView where
  id : Nat
  userId : String
  role : SeatRole
  createdAt : Time
  qiftUsername : String

/-- A new seat of a stored organization. -/
def seatTx (actorUserId : String) (orgId : Nat) (userId : String) (role : SeatRole) : Transaction OrgUser := do
  let known ← Tx.read fun w => (w.organizations.find orgId).isSome
  Tx.ensure (known = true) (.error "foreign key constraint")
  let now ← Tx.read Organizations.now
  let id ← freshId
  orgUser.create (.p2002 "OrgUser")
    { id := id
      orgId := orgId
      userId := userId
      role := role
      invitedBy := some actorUserId
      acceptedAt := some now
      revokedAt := none
      createdAt := now }

/-- A revoked seat, taken up again with a role. -/
def reviveTx (actorUserId : String) (seatId : Nat) (role : SeatRole) : Transaction OrgUser := do
  let now ← Tx.read Organizations.now
  orgUser.update (.error "record to update not found") seatId fun s =>
    { s with role := role, revokedAt := none, invitedBy := some actorUserId, acceptedAt := some now }

/-- Write the seat: the one that was found, or a new one. -/
def seatMember (actorUserId : String) (orgId : Nat) (userId : String) (role : SeatRole) (existing : Option OrgUser) :
    Service OrgUser :=
  match existing with
  | some existing =>
      Svc.transaction (.revive existing.id existing.revokedAt) (reviveTx actorUserId existing.id role)
  | none => Svc.transaction .seat (seatTx actorUserId orgId userId role)

def addMember (actorUserId : String) (orgId : Nat) (qiftUsername role : Option String) : Service MemberView :=
  match role.bind grantable? with
  | none => Svc.fail (.badRequest "member_role_invalid")
  | some role =>
      match memberUsername qiftUsername with
      | none => Svc.fail (.badRequest "member_username_required")
      | some username => do
          let user ← Svc.query .read fun w =>
            w.users.find? fun u => u.qiftUsername = username ∧ u.deletedAt = none
          match user with
          | none => Svc.fail (.notFound "user_not_found")
          | some user => do
              let existing ← Svc.query .read fun w =>
                w.seats.rows.find? fun s => s.orgId = orgId ∧ s.userId = user.id
              Svc.ensure (existing.all (fun s => s.revokedAt ≠ none) = true) (.conflict "member_already_seated")
              let seat ← seatMember actorUserId orgId user.id role existing
              record
                { actorUserId := some actorUserId
                  actorType := "user"
                  action := "org.member.add"
                  targetType := "organization"
                  targetId := some orgId
                  metadata := [("seatId", some (toString seat.id)), ("memberUserId", some user.id),
                    ("role", some role.text), ("revived", some (toString existing.isSome))] }
              pure
                { id := seat.id
                  userId := seat.userId
                  role := seat.role
                  createdAt := seat.createdAt
                  qiftUsername := user.qiftUsername }

/-- The guarded write of a revocation; the number of rows written. -/
def revokeTx (orgId seatId : Nat) : Transaction Nat := do
  let now ← Tx.read Organizations.now
  orgUser.updateMany (fun s => s.id = seatId && s.orgId = orgId && s.revokedAt = none) fun s =>
    { s with revokedAt := some now }

def revokeMember (actorUserId : String) (orgId seatId : Nat) : Service Unit := do
  let seat ← Svc.query .read fun w =>
    (w.seats.find seatId).filter fun s => s.orgId = orgId ∧ s.revokedAt = none
  match seat with
  | none => Svc.fail (.notFound "member_not_found")
  | some seat => do
      Svc.ensure (seat.userId ≠ actorUserId) (.badRequest "cannot_revoke_self")
      Svc.ensure (seat.role ≠ .owner) (.badRequest "cannot_revoke_owner")
      let count ← Svc.transaction (.revoke seatId) (revokeTx orgId seatId)
      Svc.ensure (count ≠ 0) (.notFound "member_not_found")
      record
        { actorUserId := some actorUserId
          actorType := "user"
          action := "org.member.revoke"
          targetType := "organization"
          targetId := some orgId
          metadata := [("seatId", some (toString seatId)), ("memberUserId", some seat.userId),
            ("role", some seat.role.text)] }

/-! ### Requests -/

/-- A request, the clock, or a change of the accounts. -/
inductive Call
  | tick (elapsed : Nat)
  | accounts (users : List User)
  | createOrg (creatorUserId : String) (body : CreateOrgInput)
  | submitOrg (actorUserId : String) (orgId : Nat)
  | reviewOrg (adminUserId : String) (orgId : Nat) (action : String) (reason : Option String)
  | addMember (actorUserId : String) (orgId : Nat) (qiftUsername role : Option String)
  | revokeMember (actorUserId : String) (orgId seatId : Nat)

inductive Reply
  | done
  | org (o : OrgView)
  | reviewed (o : Organization)
  | member (m : MemberView)

def environment (f : Organizations → Organizations) : Service Unit := Svc.transaction .environment (Tx.modify f)

def program : Call → Service Reply
  | .tick elapsed => (fun _ => Reply.done) <$> environment fun w => { w with now := w.now + elapsed }
  | .accounts users => (fun _ => Reply.done) <$> environment fun w => { w with users := users }
  | .createOrg creatorUserId body => Reply.org <$> createOrg creatorUserId body
  | .submitOrg actorUserId orgId => Reply.org <$> submitOrg actorUserId orgId
  | .reviewOrg adminUserId orgId action reason => Reply.reviewed <$> reviewOrg adminUserId orgId action reason
  | .addMember actorUserId orgId qiftUsername role => Reply.member <$> addMember actorUserId orgId qiftUsername role
  | .revokeMember actorUserId orgId seatId => (fun _ => Reply.done) <$> revokeMember actorUserId orgId seatId

/-- The interleavings of requests. -/
abbrev Run : List (Event Organizations Step) → Config Organizations Step (Except Err Reply) → Prop :=
  Exec program empty

end Qift.Organizations
