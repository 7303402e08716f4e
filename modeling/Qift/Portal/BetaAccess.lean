import Qift.Portal.State

/-!
# The closed beta gate

`beta-access.service.ts`: whether a newcomer may register, and the redemption of an invitation inside the
transaction that creates the account.
-/

namespace Qift.Portal

open Relational Interleaving

inductive BetaRegistrationDecision
  | open
  | allowlist
  | code (codeId : Nat) (maxUses : Option Nat)

def normalizeBetaCode (raw : String) : String := (trim raw).map Char.toUpper

/-- `emailDomainOf`: what follows the last `@`, if anything does. -/
def emailDomainOf (email : String) : Option String :=
  if '@' ∈ email.toList then
    let domain := (email.toList.reverse.takeWhile (· ≠ '@')).reverse
    if domain = [] then none else some (String.ofList domain)
  else none

/-- The allowlist entries a registrant matches by. -/
def allowlistProbes (email : Option String) (phone : String) : List (BetaAllowlistKind × String) :=
  (.phone, phone) ::
    match email with
    | none => []
    | some email => (.email, email) :: ((emailDomainOf email).map fun d => (.email_domain, d)).toList

def matchesAllowlist (email : Option String) (phone : String) : Service Bool :=
  Svc.query .read fun w => w.betaAllowlist.rows.any fun e => (e.kind, e.value) ∈ allowlistProbes email phone

def decideRegistration (email : Option String) (phone : String) (betaCode : Option String) :
    Service BetaRegistrationDecision := do
  let gateEnabled ← Svc.query .read Portal.betaGateEnabled
  if gateEnabled = false then pure .open
  else do
    let listed ← matchesAllowlist email phone
    if listed then pure .allowlist
    else do
      let raw := trim (betaCode.getD "")
      Svc.ensure (raw ≠ "") (.forbidden "beta_required")
      let code := normalizeBetaCode raw
      let row ← Svc.query .read fun w => w.betaInviteCodes.rows.find? fun c => c.code = code
      match row with
      | none => Svc.fail (.forbidden "beta_code_invalid")
      | some row => do
          Svc.ensure (row.disabledAt = none) (.forbidden "beta_code_invalid")
          let checkedAt ← dateNow
          Svc.ensure (∀ expiresAt ∈ row.expiresAt, checkedAt ≤ expiresAt) (.forbidden "beta_code_expired")
          Svc.ensure (∀ m ∈ row.maxUses, row.usedCount < m) (.forbidden "beta_code_exhausted")
          pure (.code row.id row.maxUses)

/-- The filter of the conditional increment. -/
def redeemable (codeId : Nat) (maxUses : Option Nat) (c : BetaInviteCode) : Bool :=
  decide (c.id = codeId ∧ c.disabledAt = none ∧ ∀ m ∈ maxUses, c.usedCount < m)

def useCode (c : BetaInviteCode) : BetaInviteCode := { c with usedCount := c.usedCount + 1 }

@[simp] theorem useCode_id (c : BetaInviteCode) : (useCode c).id = c.id := rfl

@[simp] theorem useCode_maxUses (c : BetaInviteCode) : (useCode c).maxUses = c.maxUses := rfl

/-- Apply a decision inside the transaction that creates the user. -/
def applyRedemption (decision : BetaRegistrationDecision) (userId : Nat) : Transaction Unit :=
  match decision with
  | .open => pure ()
  | .allowlist => pure ()
  | .code codeId maxUses => do
      let count ← betaInviteCode.updateMany (redeemable codeId maxUses) useCode
      Tx.ensure (count ≠ 0) (.forbidden "beta_code_exhausted")
      let id ← freshId
      let _ ← betaInviteRedemption.create (.p2002 "BetaInviteRedemption") { id := id, codeId := codeId, userId := userId }
      pure ()

/-! ### Operators -/

structure CreateCodeInput where
  code : Option String
  /-- The code `generateBetaCode` draws when none is given. -/
  generated : String
  /-- `maxUses`, not given or an integer. -/
  maxUses : Option Int
  expiresAt : Option Time

def createCode (input : CreateCodeInput) : Service BetaInviteCode := do
  let code := match input.code with
    | some code => if code = "" then input.generated else normalizeBetaCode code
    | none => input.generated
  Svc.ensure (code ≠ "") (.badRequest "beta_code_required")
  Svc.ensure (∀ m ∈ input.maxUses, 1 ≤ m) (.badRequest "beta_max_uses_invalid")
  Svc.tryCatch
    (Svc.transaction .environment (do
      let id ← freshId
      betaInviteCode.create (.p2002 "BetaInviteCode")
        { id := id
          code := code
          maxUses := input.maxUses.map Int.toNat
          usedCount := 0
          expiresAt := input.expiresAt
          disabledAt := none }))
    fun _ => Svc.fail (.conflict "beta_code_taken")

/-- Switch a code off at an instant, or on again. -/
def switchCode (disabledAt : Option Time) (c : BetaInviteCode) : BetaInviteCode := { c with disabledAt := disabledAt }

@[simp] theorem switchCode_id (disabledAt : Option Time) (c : BetaInviteCode) : (switchCode disabledAt c).id = c.id :=
  rfl

def setCodeDisabled (id : Nat) (disabled : Bool) : Service Unit := do
  let existing ← Svc.query .read fun w => w.betaInviteCodes.find id
  Svc.ensure (existing.isSome) (.notFound "beta_code_not_found")
  let switchedAt ← dateNow
  let _ ← Svc.transaction .environment 
    (betaInviteCode.updateMany (fun c => c.id = id) (switchCode (if disabled then some switchedAt else none)))
  pure ()

end Qift.Portal
