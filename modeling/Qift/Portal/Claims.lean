import Qift.Portal.Otp

/-!
# Claiming a gift

`claim.service.ts`: the holder of a link proves possession of the bound channel and opens a session.  A claim that
is not live answers like one that does not exist; expiry is marked when the link is touched.
-/

namespace Qift.Portal

open Relational Interleaving

variable [Runtime]

def SESSION_TTL_MS : Int := 30 * 60 * 1000

def hashClaimToken (token : String) : String := Runtime.sha256Hex token

/-- The claim of a token, if it is live. -/
def loadPending (token : String) : Service ClaimableGift := do
  Svc.ensure (16 ≤ token.length) (.notFound "claim_not_found")
  let found ← Svc.query .read fun w => w.claims.rows.find? fun c => c.tokenHash = hashClaimToken token
  match found with
  | none => Svc.fail (.notFound "claim_not_found")
  | some claim => do
      Svc.ensure (claim.status = .pending) (.notFound "claim_not_found")
      let checkedAt ← dateNow
      if claim.expiresAt < checkedAt then do
        let _ ← Svc.transaction .claimExpired (claimableGift.updateMany
          (fun c => c.id = claim.id && c.status = .pending) fun c => { c with status := .expired })
        Svc.fail (.notFound "claim_not_found")
      else pure claim

/-- The outcome of `verifyOtp`: the session token and, in passing, the code row it was opened with. -/
structure ClaimSession where
  claimId : Nat
  sessionToken : String
  otpId : Nat

/-- `verifyOtp`; `sessionToken` is the random token the service draws. -/
def verifyOtp (token : String) (code : String) (sessionToken : String) : Service ClaimSession := do
  let claim ← loadPending token
  Svc.ensure (trim code ≠ "") (.badRequest "code_required")
  let otpId ← verify { target := some claim.channelValue, code := some (trim code) }
  let verifiedAt ← dateNow
  let count ← Svc.transaction .claimSession (claimableGift.updateMany (fun c => c.id = claim.id) fun c =>
    { c with
      sessionTokenHash := some (hashClaimToken sessionToken)
      sessionExpiresAt := some (verifiedAt + SESSION_TTL_MS)
      otpVerifiedAt := some (claim.otpVerifiedAt.getD verifiedAt) })
  Svc.ensure (count ≠ 0) (.error "record to update not found")
  pure ⟨claim.id, sessionToken, otpId⟩

end Qift.Portal
