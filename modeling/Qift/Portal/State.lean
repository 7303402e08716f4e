import Qift.Lib.Delegate
import Qift.Database
import Qift.Portal.Phone

/-!
# The stored state of the portal

The rows behind accounts, one-time codes, beta invitations and gift claims, with the columns a modelled service
uses.

* `Portal` is the database with the clock and the configuration the services read; `Portal.empty` is the portal
  before its first write.
* `Place` labels an atomic action with the place in the program that performs it.
* `bestEffort` is a write whose failure the program swallows: an outage of the database, which may come and go
  between any two actions, loses it.
-/

namespace Qift

open Relational Interleaving

namespace Portal

/-! ### Enumerated columns -/

inductive OtpType
  | phone | email
  deriving DecidableEq

inductive BetaAllowlistKind
  | email | email_domain | phone
  deriving DecidableEq

/-! ### Rows -/

structure User where
  id : Nat
  qiftUsername : String
  phone : String
  email : Option String
  passwordHash : Option String
  phoneVerifiedAt : Option Time
  emailVerifiedAt : Option Time
  deletedAt : Option Time

structure Otp where
  id : Nat
  target : String
  code : String
  type : OtpType
  attempts : Nat
  createdAt : Time
  expiresAt : Time

structure BetaInviteCode where
  id : Nat
  code : String
  maxUses : Option Nat
  usedCount : Nat
  expiresAt : Option Time
  disabledAt : Option Time

structure BetaInviteRedemption where
  id : Nat
  codeId : Nat
  userId : Nat

structure BetaAllowlistEntry where
  id : Nat
  kind : BetaAllowlistKind
  value : String

/-- A gift a recipient may claim through its link. -/
structure ClaimableGift where
  id : Nat
  tokenHash : String
  status : ClaimStatus
  channel : OtpType
  channelValue : String
  sessionTokenHash : Option String
  sessionExpiresAt : Option Time
  otpVerifiedAt : Option Time
  expiresAt : Time

end Portal

/-- The portal: its tables, its clock and its configuration. -/
structure Portal where
  now : Time
  nextId : Nat
  /-- Single writes fail while it is set. -/
  outage : Bool
  betaGateEnabled : Bool
  smsConfigured : Bool
  mailConfigured : Bool
  /-- The hits of the process-local limiter of code requests, newest last. -/
  sendHits : List (String × Time)
  users : Table Portal.User.id
  otps : Table Portal.Otp.id
  betaInviteCodes : Table Portal.BetaInviteCode.id
  betaInviteRedemptions : Table Portal.BetaInviteRedemption.id
  betaAllowlist : Table Portal.BetaAllowlistEntry.id
  claims : Table Portal.ClaimableGift.id

namespace Portal

def empty : Portal where
  now := 0
  nextId := 0
  outage := false
  betaGateEnabled := false
  smsConfigured := true
  mailConfigured := true
  sendHits := []
  users := Table.empty
  otps := Table.empty
  betaInviteCodes := Table.empty
  betaInviteRedemptions := Table.empty
  betaAllowlist := Table.empty
  claims := Table.empty

/-! ### Client delegates -/

abbrev user : Delegate Portal User.id where
  table := Portal.users
  store t w := { w with users := t }
  conflict a b := decide (a.qiftUsername = b.qiftUsername ∨ a.phone = b.phone ∨
    (a.email = b.email ∧ a.email ≠ none))

abbrev otp : Delegate Portal Otp.id where
  table := Portal.otps
  store t w := { w with otps := t }
  conflict _ _ := false

abbrev betaInviteCode : Delegate Portal BetaInviteCode.id where
  table := Portal.betaInviteCodes
  store t w := { w with betaInviteCodes := t }
  conflict a b := decide (a.code = b.code)

abbrev betaInviteRedemption : Delegate Portal BetaInviteRedemption.id where
  table := Portal.betaInviteRedemptions
  store t w := { w with betaInviteRedemptions := t }
  conflict a b := decide (a.codeId = b.codeId ∧ a.userId = b.userId)

abbrev betaAllowlistEntry : Delegate Portal BetaAllowlistEntry.id where
  table := Portal.betaAllowlist
  store t w := { w with betaAllowlist := t }
  conflict a b := decide (a.kind = b.kind ∧ a.value = b.value)

abbrev claimableGift : Delegate Portal ClaimableGift.id where
  table := Portal.claims
  store t w := { w with claims := t }
  conflict a b := decide (a.tokenHash = b.tokenHash)

/-! ### Actions -/

/-- The place of an atomic action. -/
inductive Place
  /-- A query or a clock read. -/
  | read
  /-- The clock, the configuration and the operators' writes. -/
  | environment
  | otpSend
  /-- A wrong code was compared with this row. -/
  | wrongCode (otpId : Nat)
  /-- The row of an accepted code is burned. -/
  | consume (otpId : Nat)
  | createUser
  | passwordReset
  | claimExpired
  | claimSession
  deriving DecidableEq

/-- A service call on the portal. -/
abbrev Service := Svc Portal Place Err

/-- The body of a database transaction. -/
abbrev Transaction := Tx Portal Err

/-- `Date.now()`. -/
def dateNow : Service Time := Svc.query .read Portal.now

/-- Draw an identifier. -/
def freshId : Transaction Nat := fun w => .ok (w.nextId, { w with nextId := w.nextId + 1 })

/-- A write whose failure is swallowed. -/
def bestEffort (place : Place) (tx : Transaction Nat) : Service Unit :=
  Svc.tryCatch
    (do
      let _ ← Svc.transaction place (do
        let down ← Tx.read Portal.outage
        Tx.ensure (down = false) (.error "database unavailable")
        tx)
      pure ())
    fun _ => pure ()

end Portal

end Qift
