import Qift.Portal.State

/-!
# One-time codes

`otp.service.ts`: a code is requested for a phone number or an e-mail address and later verified.

* `send` stores a fresh row for the target; older rows stay.
* `verify` compares a code with the latest row of the target.  Wrong codes are counted on the row; a row with
  `MAX_VERIFY_ATTEMPTS` of them is dead, and a target whose rows of the last fifteen minutes have
  `MAX_TARGET_ATTEMPTS` of them is locked.
* An accepted row is deleted, unless the caller asks to do that itself.
-/

namespace Qift.Portal

open Relational Interleaving

def TTL_MINUTES : Int := 5
def MAX_VERIFY_ATTEMPTS : Nat := 5
def MAX_TARGET_ATTEMPTS : Nat := 10
def TARGET_ATTEMPT_WINDOW_MS : Int := 15 * 60 * 1000

/-- The limit and the window of `otpSendLimiter`. -/
def SEND_LIMIT : Nat := 5
def SEND_WINDOW_MS : Int := 5 * 60 * 1000

/-- `String.prototype.toLowerCase` on ASCII letters. -/
def toLowerCase (s : String) : String := s.map Char.toLower

/-! ### Requesting a code -/

/-- `EMAIL_REGEX`: two parts around one `@`, a dot inside the second, no white space. -/
def isEmail (s : String) : Bool :=
  let cs := s.toList
  let localPart := cs.takeWhile (· ≠ '@')
  let domain := cs.drop (localPart.length + 1)
  cs.all (fun c => !isTrimmed c) && localPart ≠ [] && cs.count '@' = 1 &&
    (List.range domain.length).any fun i => 0 < i && i + 1 < domain.length && domain[i]? = some '.'

structure SendOtpInput where
  target : Option String
  type : OtpType
  /-- The random code the service draws. -/
  draw : Nat

/-- The canonical form of a target. -/
def normalizeTarget : OtpType → String → Option String
  | .phone, raw => normalizePhone raw
  | .email, raw => some (toLowerCase raw)

/-- `otpSendLimiter.hit`: allowed while fewer than the limit fell into the window. -/
def limiterHit (key : String) : Transaction Bool := fun w =>
  let recent := w.sendHits.filter fun h => h.1 ≠ key || w.now - SEND_WINDOW_MS < h.2
  if (recent.filter fun h => h.1 = key).length < SEND_LIMIT then
    .ok (true, { w with sendHits := recent ++ [(key, w.now)] })
  else .ok (false, { w with sendHits := recent })

/-- `otp.create`; the row is stamped by the database. -/
def createOtp (target : String) (type : OtpType) (code : String) (expiresAt : Time) : Transaction Otp := do
  let id ← freshId
  let createdAt ← Tx.read Portal.now
  otp.create (.p2002 "Otp")
    { id := id
      target := target
      code := code
      type := type
      attempts := 0
      createdAt := createdAt
      expiresAt := expiresAt }

@[irreducible] def send (body : SendOtpInput) : Service Otp := do
  let rawTarget := trim (body.target.getD "")
  Svc.ensure (rawTarget ≠ "") (.badRequest "target is required")
  match normalizeTarget body.type rawTarget with
  | none => Svc.fail (.badRequest "invalid_phone")
  | some target => do
      Svc.ensure (body.type = .email → isEmail target = true) (.badRequest "invalid_email")
      let smsConfigured ← Svc.query .read Portal.smsConfigured
      Svc.ensure (body.type = .phone → smsConfigured = true) (.error "sms_unavailable")
      let mailConfigured ← Svc.query .read Portal.mailConfigured
      Svc.ensure (body.type = .email → mailConfigured = true) (.error "email_unavailable")
      let allowed ← Svc.transaction .environment (limiterHit ("otp:" ++ target))
      Svc.ensure (allowed = true) (.error "otp_rate_limited")
      let sentAt ← dateNow
      Svc.transaction .otpSend
        (createOtp target body.type (toString (100000 + body.draw % 900000)) (sentAt + TTL_MINUTES * 60 * 1000))

/-! ### Verifying a code -/

structure VerifyOtpInput where
  target : Option String
  code : Option String
  type : Option OtpType := none
  consume : Bool := true

/-- Addresses hold an `@`; everything else is a phone number where it can be read as one. -/
def verifyTarget (rawTarget : String) : String :=
  if '@' ∈ rawTarget.toList then toLowerCase rawTarget else (normalizePhone rawTarget).getD rawTarget

/-- Rows of the target that were created since an instant. -/
def Otp.inWindow (target : String) (since : Time) (r : Otp) : Bool :=
  decide (r.target = target ∧ since ≤ r.createdAt)

/-- The wrong attempts on the rows of the target that were created since an instant. -/
def windowAttempts (target : String) (since : Time) (w : Portal) : Nat :=
  ((w.otps.rows.filter (Otp.inWindow target since)).map Otp.attempts).sum

/-- The later of two rows; the first of equals. -/
def later (a : Option Otp) (b : Otp) : Option Otp :=
  match a with
  | none => some b
  | some a => if a.createdAt < b.createdAt then some b else some a

/-- `otp.findFirst({ orderBy: { createdAt: 'desc' } })` for a target and, if asked, a channel. -/
def latestOtp (target : String) (type : Option OtpType) (w : Portal) : Option Otp :=
  ((w.otps.rows.filter fun r => r.target = target && type.all (r.type = ·)).foldl later none)

def countAttempt (r : Otp) : Otp := { r with attempts := r.attempts + 1 }

@[simp] theorem countAttempt_id (r : Otp) : (countAttempt r).id = r.id := rfl

/-- Compare a code with the latest row of the target; the answer is the accepted row. -/
@[irreducible] def verify (body : VerifyOtpInput) : Service Nat := do
  let rawTarget := trim (body.target.getD "")
  let code := trim (body.code.getD "")
  Svc.ensure (rawTarget ≠ "" ∧ code ≠ "") (.badRequest "target and code are required")
  let target := verifyTarget rawTarget
  let checkedAt ← dateNow
  let windowed ← Svc.query .read (windowAttempts target (checkedAt - TARGET_ATTEMPT_WINDOW_MS))
  Svc.ensure (windowed < MAX_TARGET_ATTEMPTS) (.badRequest "otp_locked")
  let found ← Svc.query .read (latestOtp target body.type)
  match found with
  | none => Svc.fail (.badRequest "invalid_code")
  | some row => do
      Svc.ensure (row.attempts < MAX_VERIFY_ATTEMPTS) (.badRequest "otp_locked")
      let comparedAt ← dateNow
      Svc.ensure (comparedAt ≤ row.expiresAt) (.badRequest "expired_code")
      if row.code ≠ code then do
        bestEffort (.wrongCode row.id) (otp.updateMany (fun r => r.id = row.id) countAttempt)
        Svc.fail (.badRequest "invalid_code")
      else do
        if body.consume then bestEffort (.consume row.id) (otp.deleteMany fun r => r.id = row.id)
        pure row.id

end Qift.Portal
