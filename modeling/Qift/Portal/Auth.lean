import Qift.Portal.BetaAccess
import Qift.Portal.Otp

/-!
# Accounts

`auth.service.ts`: registration and login by a one-time code, and the reset of a password.
-/

namespace Qift.Portal

open Relational Interleaving

/-- The password library: the salted hash of a password. -/
class Passwords where
  hash : String → String

variable [Passwords]

/-- The channel a code proves. -/
def channelOf (channel : Option String) : OtpType := if channel = some "email" then .email else .phone

structure RegisterInput where
  phone : Option String
  code : Option String
  channel : Option String
  email : Option String
  betaCode : Option String
  qiftUsername : Option String
  password : Option String

/-- `USERNAME_REGEX`. -/
def isUsername (s : String) : Bool :=
  s.toList.all (fun c => (97 ≤ c.toNat && c.toNat ≤ 122) || isDigit c || c = '_') &&
    3 ≤ s.length && s.length ≤ 20

/-- The session of a user and, in passing, the code row it was opened with. -/
structure Session where
  userId : Nat
  otpId : Nat

/-- The field of the first conflicting user that collides. -/
def conflictCode (qiftUsername : String) (email : Option String) (conflict : User) : String :=
  if conflict.qiftUsername = qiftUsername then "username_taken"
  else if email.isSome ∧ conflict.email = email then "email_taken"
  else "phone_taken"

/-- The account and the redemption that admits it commit together. -/
def createUserTx (decision : BetaRegistrationDecision) (row : Nat → User) : Transaction User := do
  let id ← freshId
  let created ← user.create (.p2002 "User") (row id)
  applyRedemption decision created.id
  pure created

/-- The address of a body in its canonical form. -/
def emailOf (email : Option String) : Option String :=
  email.bind fun e => if toLowerCase (trim e) = "" then none else some (toLowerCase (trim e))

/-- The target the code was sent to. -/
def otpTarget (channel : OtpType) (email : Option String) (phone : String) : Option String :=
  match channel with
  | .email => email
  | .phone => some phone

/-- The live account that owns the proven channel. -/
def ownerOf (channel : OtpType) (email : Option String) (phone : String) (w : Portal) : Option User :=
  w.users.rows.find? fun u => match channel with
    | .email => u.email = email && u.deletedAt = none
    | .phone => u.phone = phone && u.deletedAt = none

/-- The first user that holds the name, the address or the number. -/
def conflictOf (qiftUsername : String) (email : Option String) (phone : String) (w : Portal) : Option User :=
  w.users.rows.find? fun u => u.qiftUsername = qiftUsername || (email.isSome && u.email = email) || u.phone = phone

/-- The row of a new account; only the proven channel is stamped. -/
def newUser (qiftUsername phone : String) (email : Option String) (password : String) (channel : OtpType)
    (verifiedAt : Time) (id : Nat) : User where
  id := id
  qiftUsername := qiftUsername
  phone := phone
  email := email
  passwordHash := some (Passwords.hash password)
  phoneVerifiedAt := if channel = .phone then some verifiedAt else none
  emailVerifiedAt := if channel = .email then some verifiedAt else none
  deletedAt := none

/-- The sign-up branch of `register`: the gate, the checks of the new account and its creation. -/
def signUp (body : RegisterInput) (channel : OtpType) (email : Option String) (phone : String) (otpId : Nat) :
    Service Session := do
  let betaDecision ← decideRegistration email phone body.betaCode
  let qiftUsername := toLowerCase (trim (body.qiftUsername.getD ""))
  let password := body.password.getD ""
  Svc.ensure (qiftUsername ≠ "") (.badRequest "username_required")
  Svc.ensure (isUsername qiftUsername = true) (.badRequest "username_invalid")
  Svc.ensure (8 ≤ password.length) (.badRequest "password_too_short")
  let conflict ← Svc.query .read (conflictOf qiftUsername email phone)
  match conflict with
  | some conflict => Svc.fail (.conflict (conflictCode qiftUsername email conflict))
  | none => do
      let verifiedAt ← dateNow
      let created ← Svc.transaction .createUser
        (createUserTx betaDecision (newUser qiftUsername phone email password channel verifiedAt))
      bestEffort (.consume otpId) (otp.deleteMany fun r => r.id = otpId)
      pure ⟨created.id, otpId⟩

/-- `register` once the phone is normalised. -/
def registerAs (body : RegisterInput) (channel : OtpType) (email : Option String) (phone : String) :
    Service Session := do
  let code := trim (body.code.getD "")
  Svc.ensure (code ≠ "") (.badRequest "code is required")
  Svc.ensure (channel = .email → email.isSome) (.badRequest "email is required for email OTP")
  let otpId ← verify { target := otpTarget channel email phone, code := some code, type := some channel, consume := false }
  let existing ← Svc.query .read (ownerOf channel email phone)
  match existing with
  | some existing => do
      bestEffort (.consume otpId) (otp.deleteMany fun r => r.id = otpId)
      pure ⟨existing.id, otpId⟩
  | none => signUp body channel email phone otpId

def register (body : RegisterInput) : Service Session :=
  match body.phone.bind normalizePhone with
  | none => Svc.fail (.badRequest "invalid_phone")
  | some phone => registerAs body (channelOf body.channel) (emailOf body.email) phone

structure ResetPasswordInput where
  identifier : Option String
  channel : Option String
  code : Option String
  newPassword : Option String

def MIN_PASSWORD_LENGTH : Nat := 8

/-- The live account that has verified the channel. -/
def verifiedOwnerOf (channel : OtpType) (target : String) (w : Portal) : Option User :=
  w.users.rows.find? fun u => match channel with
    | .phone => u.deletedAt = none && u.phone = target && u.phoneVerifiedAt.isSome
    | .email => u.deletedAt = none && u.email = some target && u.emailVerifiedAt.isSome

/-- A reset is answered with the code row that proved it. -/
def resetPassword (body : ResetPasswordInput) : Service Nat := do
  let identifier := trim (body.identifier.getD "")
  let channel := channelOf body.channel
  let code := trim (body.code.getD "")
  let newPassword := body.newPassword.getD ""
  Svc.ensure (MIN_PASSWORD_LENGTH ≤ newPassword.length) (.badRequest "invalid_password")
  Svc.ensure (identifier ≠ "" ∧ code ≠ "") (.badRequest "invalid_code")
  match normalizeTarget channel identifier with
  | none => Svc.fail (.badRequest "invalid_code")
  | some target => do
      let found ← Svc.query .read (verifiedOwnerOf channel target)
      match found with
      | none => Svc.fail (.badRequest "invalid_code")
      | some found => do
          let otpId ← verify { target := some target, code := some code }
          let count ← Svc.transaction .passwordReset (user.updateMany (fun u => u.id = found.id) fun u =>
            { u with passwordHash := some (Passwords.hash newPassword) })
          Svc.ensure (count ≠ 0) (.error "record to update not found")
          pure otpId

end Qift.Portal
