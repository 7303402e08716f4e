import Qift.Lib.Toll
import Qift.Portal.Auth
import Qift.Portal.Claims

/-!
# The account services as one system

* `Accounts.Call` names the calls, `Accounts.program` is the service that answers one; the interleavings of
  `program` from the empty portal are the runs.
* `Accounts.Effect` says once what a single action of any call can do to the portal; `program_does` is that every
  action of every call is such an effect.
* A redemption carries the cap its registration had read: `program_meets`.
-/

namespace Qift.Portal

open Relational Interleaving

-- a judgment is used by its rules, never by what it unfolds to
attribute [local irreducible] Prog.Meets

/-- What the account services read and never write. -/
structure Surroundings where
  now : Time
  outage : Bool
  betaGateEnabled : Bool
  smsConfigured : Bool
  mailConfigured : Bool
  betaAllowlist : Table BetaAllowlistEntry.id
  claims : Table ClaimableGift.id

def surrounded (s : Surroundings) (w : Portal) : Portal :=
  { w with
    now := s.now
    outage := s.outage
    betaGateEnabled := s.betaGateEnabled
    smsConfigured := s.smsConfigured
    mailConfigured := s.mailConfigured
    betaAllowlist := s.betaAllowlist
    claims := s.claims }

namespace Accounts

/-- The calls of the account services and the changes of their surroundings. -/
inductive Call
  | surround (s : Surroundings)
  | createCode (input : CreateCodeInput)
  | setCodeDisabled (id : Nat) (disabled : Bool)
  | send (body : SendOtpInput)
  | verify (body : VerifyOtpInput)
  | register (body : RegisterInput)
  | resetPassword (body : ResetPasswordInput)
  | verifyOtp (token code sessionToken : String)

/-- What a call answers: the code row with which it completed, if it is one that accepts a code. -/
inductive Reply
  | done
  | accepted (otpId : Nat)

variable [Runtime] [Passwords]

/-- The service that answers a call. -/
def program : Call → Service Reply
  | .surround s => do
      Svc.transaction .environment (Tx.modify (surrounded s))
      pure .done
  | .createCode input => do
      let _ ← createCode input
      pure .done
  | .setCodeDisabled id disabled => do
      setCodeDisabled id disabled
      pure .done
  | .send body => do
      let _ ← send body
      pure .done
  | .verify body => do
      let otpId ← verify body
      pure (if body.consume then .accepted otpId else .done)
  | .register body => do
      let session ← register body
      pure (.accepted session.otpId)
  | .resetPassword body => do
      let otpId ← resetPassword body
      pure (.accepted otpId)
  | .verifyOtp token code sessionToken => do
      let session ← verifyOtp token code sessionToken
      pure (.accepted session.otpId)

/-- The runs: the interleavings of the calls from the empty portal. -/
abbrev Run : List (Event Portal Place) → Config Portal Place (Except Err Reply) → Prop := Exec program Portal.empty

/-! ### What one action does -/

/-- The effects of single actions. -/
inductive Effect : Place → Portal → Portal → Prop
  | idle (l : Place) (w : Portal) (hlost : ∀ n, l = .consume n → w.outage = true) : Effect l w w
  | surround (s : Surroundings) (w : Portal) : Effect .environment w (surrounded s w)
  | limiter (hits : List (String × Time)) (w : Portal) : Effect .environment w { w with sendHits := hits }
  | createCode {w : Portal} {c : BetaInviteCode} {t : Table BetaInviteCode.id} (hid : c.id = w.nextId)
      (hunused : c.usedCount = 0) (hcreate : w.betaInviteCodes.create c = some t) :
      Effect .environment w { w with nextId := w.nextId + 1, betaInviteCodes := t }
  | disable (id : Nat) (disabledAt : Option Time) (w : Portal) :
      Effect .environment w { w with
        betaInviteCodes := w.betaInviteCodes.updateMany (fun c => c.id = id) (switchCode disabledAt)
          (switchCode_id disabledAt) }
  | send {w : Portal} {r : Otp} {t : Table Otp.id} (hid : r.id = w.nextId)
      (hcreate : w.otps.create r = some t) : Effect .otpSend w { w with nextId := w.nextId + 1, otps := t }
  | wrongCode (n : Nat) (w : Portal) : Effect (.wrongCode n) w { w with
      otps := w.otps.updateMany (fun r => r.id = n) countAttempt countAttempt_id }
  | consume (n : Nat) (w : Portal) :
      Effect (.consume n) w { w with otps := w.otps.deleteMany fun r => r.id = n }
  | enrol {w : Portal} {u : User} {t : Table User.id} (hid : u.id = w.nextId)
      (hcreate : w.users.create u = some t) : Effect .createUser w { w with nextId := w.nextId + 1, users := t }
  /-- An invited user: the cap is the one stored on the code. -/
  | redeem {w : Portal} {u : User} {t : Table User.id} {c : BetaInviteCode} {r : BetaInviteRedemption}
      {t' : Table BetaInviteRedemption.id} (hid : u.id = w.nextId) (hcreate : w.users.create u = some t)
      (hcode : w.betaInviteCodes.find r.codeId = some c) (hfree : redeemable r.codeId c.maxUses c = true)
      (hrid : r.id = w.nextId + 1) (huser : r.userId = u.id)
      (hredeem : w.betaInviteRedemptions.create r = some t') :
      Effect .createUser w { w with
        nextId := w.nextId + 2
        users := t
        betaInviteCodes := w.betaInviteCodes.updateMany (redeemable r.codeId c.maxUses) useCode useCode_id
        betaInviteRedemptions := t' }
  | passwordReset (id : Nat) (hash : Option String) (w : Portal) :
      Effect .passwordReset w { w with
        users := w.users.updateMany (fun u => u.id = id) (fun u => { u with passwordHash := hash }) fun _ => rfl }
  | claims (l : Place) (w : Portal) (t : Table ClaimableGift.id) (hl : l = .claimExpired ∨ l = .claimSession) :
      Effect l w { w with claims := t }

/-! ### Every action is an effect -/

section Pieces

omit [Runtime] [Passwords]

theorem Effect.read (w : Portal) : Effect .read w w := Effect.idle _ _ nofun

@[grind ←] theorem query_does {α : Type} (f : Portal → α) : Svc.Does Effect (Svc.query .read f : Service α) :=
  Svc.Does.query Effect.read f

@[grind ←] theorem dateNow_does : Svc.Does Effect dateNow := query_does _

/-- A swallowed write is the write or, in an outage, nothing. -/
theorem bestEffort_does {place : Place} {tx : Transaction Nat} (hok : ∀ w n w', tx w = .ok (n, w') → Effect place w w')
    (herr : ∀ w e, tx w ≠ .error e) : Svc.Does Effect (bestEffort place tx) := by
  refine Svc.Does.tryCatch (Svc.Does.bind (Svc.Does.transaction ?_ ?_) fun _ => Svc.Does.pure _) fun _ =>
    Svc.Does.pure _
  · intro w n w' h
    obtain ⟨down, w₁, hread, h⟩ := Tx.bind_eq_ok.mp h
    obtain ⟨-, rfl⟩ := Tx.read_eq_ok.mp hread
    obtain ⟨_, w₂, hup, h⟩ := Tx.bind_eq_ok.mp h
    obtain ⟨-, rfl⟩ := Tx.ensure_eq_ok.mp hup
    exact hok _ _ _ h
  · intro w e h
    refine Effect.idle _ _ fun n _ => ?_
    rcases Tx.bind_eq_error.mp h with hread | ⟨down, w₁, hread, h⟩
    · exact absurd hread (by simp)
    obtain ⟨rfl, rfl⟩ := Tx.read_eq_ok.mp hread
    rcases Tx.bind_eq_error.mp h with hup | ⟨_, w₂, hup, h⟩
    · obtain ⟨hdown, -⟩ := Tx.ensure_eq_error.mp hup
      exact eq_true_of_ne_false hdown
    · obtain ⟨-, rfl⟩ := Tx.ensure_eq_ok.mp hup
      exact absurd h (herr _ _)

/-- A run that leaves a value did not fail. -/
theorem ne_error_of_eq_ok {tx : Transaction Nat} {w : Portal} {r : Nat × Portal} (h : tx w = .ok r) (e : Err) :
    tx w ≠ .error e := by
  rw [h]
  exact nofun

@[grind ←] theorem consume_does (n : Nat) :
    Svc.Does Effect (bestEffort (.consume n) (otp.deleteMany fun r => r.id = n)) := by
  refine bestEffort_does (fun w count w' h => ?_) fun _ => ne_error_of_eq_ok rfl
  obtain ⟨-, rfl⟩ := Delegate.deleteMany_eq_ok.mp h
  exact Effect.consume n w

@[grind ←] theorem wrongCode_does (n : Nat) :
    Svc.Does Effect (bestEffort (.wrongCode n) (otp.updateMany (fun r => r.id = n) countAttempt)) := by
  refine bestEffort_does (fun w count w' h => ?_) fun _ => ne_error_of_eq_ok rfl
  obtain ⟨-, rfl⟩ := Delegate.updateMany_eq_ok.mp h
  exact Effect.wrongCode n w

/-- A refused transaction leaves the portal as it was. -/
theorem transaction_does {α : Type} {place : Place} {tx : Transaction α} (hplace : ∀ n, place ≠ .consume n)
    (hok : ∀ w a w', tx w = .ok (a, w') → Effect place w w') : Svc.Does Effect (Svc.transaction place tx) :=
  Svc.Does.transaction hok fun _ _ _ => Effect.idle _ _ fun n hn => absurd hn (hplace n)

@[grind ←] theorem limiterHit_does (key : String) :
    Svc.Does Effect (Svc.transaction .environment (limiterHit key)) := by
  refine transaction_does nofun fun _ _ _ h => ?_
  simp only [limiterHit] at h
  split at h <;> cases h <;> exact Effect.limiter _ _

@[grind ←] theorem createOtp_does (target : String) (type : OtpType) (code : String) (expiresAt : Time) :
    Svc.Does Effect (Svc.transaction .otpSend (createOtp target type code expiresAt)) := by
  refine transaction_does nofun fun w r w' h => ?_
  obtain ⟨id, w₁, hid, h⟩ := Tx.bind_eq_ok.mp h
  cases hid
  obtain ⟨createdAt, w₂, hread, h⟩ := Tx.bind_eq_ok.mp h
  obtain ⟨rfl, rfl⟩ := Tx.read_eq_ok.mp hread
  obtain ⟨t, hcreate, -, rfl, rfl⟩ := Delegate.create_eq_ok.mp h
  exact Effect.send rfl hcreate

theorem surround_does (s : Surroundings) :
    Svc.Does Effect (Svc.transaction .environment (Tx.modify (surrounded s)) : Service Unit) := by
  refine transaction_does nofun fun w _ w' h => ?_
  obtain rfl := Tx.modify_eq_ok.mp h
  exact Effect.surround s w

theorem send_does (body : SendOtpInput) : Svc.Does Effect (send body) := by
  unfold send
  refine Svc.Does.bind (Svc.Does.ensure _ _) fun _ => ?_
  split
  · exact Svc.Does.fail _
  · refine Svc.Does.bind (Svc.Does.ensure _ _) fun _ => Svc.Does.bind (query_does _) fun _ => ?_
    refine Svc.Does.bind (Svc.Does.ensure _ _) fun _ => Svc.Does.bind (query_does _) fun _ => ?_
    refine Svc.Does.bind (Svc.Does.ensure _ _) fun _ => Svc.Does.bind (limiterHit_does _) fun _ => ?_
    exact Svc.Does.bind (Svc.Does.ensure _ _) fun _ => Svc.Does.bind dateNow_does fun _ => createOtp_does _ _ _ _

@[grind ←] theorem verify_does (body : VerifyOtpInput) : Svc.Does Effect (verify body) := by
  unfold verify
  refine Svc.Does.bind (Svc.Does.ensure _ _) fun _ => Svc.Does.bind dateNow_does fun _ => ?_
  refine Svc.Does.bind (query_does _) fun _ => Svc.Does.bind (Svc.Does.ensure _ _) fun _ => ?_
  refine Svc.Does.bind (query_does _) fun found => ?_
  cases found with
  | none => exact Svc.Does.fail _
  | some row =>
      refine Svc.Does.bind (Svc.Does.ensure _ _) fun _ => Svc.Does.bind dateNow_does fun _ => ?_
      refine Svc.Does.bind (Svc.Does.ensure _ _) fun _ => ?_
      dsimp only
      split
      · exact Svc.Does.bind (wrongCode_does _) fun _ => Svc.Does.fail _
      · split
        · exact Svc.Does.bind (consume_does _) fun _ => Svc.Does.pure _
        · exact Svc.Does.pure _

theorem createCode_does (input : CreateCodeInput) : Svc.Does Effect (createCode input) := by
  refine Svc.Does.bind (Svc.Does.ensure _ _) fun _ => Svc.Does.bind (Svc.Does.ensure _ _) fun _ => ?_
  refine Svc.Does.tryCatch (transaction_does nofun fun w c w' h => ?_) fun _ => Svc.Does.fail _
  obtain ⟨id, w₁, hid, h⟩ := Tx.bind_eq_ok.mp h
  cases hid
  obtain ⟨t, hcreate, -, rfl, rfl⟩ := Delegate.create_eq_ok.mp h
  exact Effect.createCode rfl rfl hcreate

theorem setCodeDisabled_does (id : Nat) (disabled : Bool) : Svc.Does Effect (setCodeDisabled id disabled) := by
  refine Svc.Does.bind (query_does _) fun _ => Svc.Does.bind (Svc.Does.ensure _ _) fun _ => ?_
  refine Svc.Does.bind dateNow_does fun _ => Svc.Does.bind (transaction_does nofun fun w count w' h => ?_) fun _ =>
    Svc.Does.pure _
  obtain ⟨-, rfl⟩ := Delegate.updateMany_eq_ok.mp h
  exact Effect.disable id _ w

end Pieces

omit [Runtime] in
theorem resetPassword_does (body : ResetPasswordInput) : Svc.Does Effect (resetPassword body) := by
  refine Svc.Does.bind (Svc.Does.ensure _ _) fun _ => Svc.Does.bind (Svc.Does.ensure _ _) fun _ => ?_
  split
  · exact Svc.Does.fail _
  · refine Svc.Does.bind (query_does _) fun found => ?_
    cases found with
    | none => exact Svc.Does.fail _
    | some found =>
        refine Svc.Does.bind (verify_does _) fun _ => Svc.Does.bind (transaction_does nofun ?_) fun _ => ?_
        · intro w count w' h
          obtain ⟨-, rfl⟩ := Delegate.updateMany_eq_ok.mp h
          exact Effect.passwordReset _ _ w
        · exact Svc.Does.bind (Svc.Does.ensure _ _) fun _ => Svc.Does.pure _

omit [Passwords] in
theorem loadPending_does (token : String) : Svc.Does Effect (loadPending token) := by
  refine Svc.Does.bind (Svc.Does.ensure _ _) fun _ => Svc.Does.bind (query_does _) fun found => ?_
  cases found with
  | none => exact Svc.Does.fail _
  | some claim =>
      refine Svc.Does.bind (Svc.Does.ensure _ _) fun _ => Svc.Does.bind dateNow_does fun _ => ?_
      split
      · refine Svc.Does.bind (transaction_does nofun fun w count w' h => ?_) fun _ => Svc.Does.fail _
        obtain ⟨-, rfl⟩ := Delegate.updateMany_eq_ok.mp h
        exact Effect.claims _ w _ (.inl rfl)
      · exact Svc.Does.pure _

omit [Passwords] in
theorem verifyOtp_does (token code sessionToken : String) :
    Svc.Does Effect (verifyOtp token code sessionToken) := by
  refine Svc.Does.bind (loadPending_does _) fun _ => Svc.Does.bind (Svc.Does.ensure _ _) fun _ => ?_
  refine Svc.Does.bind (verify_does _) fun _ => Svc.Does.bind dateNow_does fun _ => ?_
  refine Svc.Does.bind (transaction_does nofun fun w count w' h => ?_) fun _ => ?_
  · obtain ⟨-, rfl⟩ := Delegate.updateMany_eq_ok.mp h
    exact Effect.claims _ w _ (.inr rfl)
  · exact Svc.Does.bind (Svc.Does.ensure _ _) fun _ => Svc.Does.pure _

/-! ### The cap of an invitation -/

section Caps

omit [Runtime] [Passwords]

/-- The code of a decision is stored with the cap the decision names. -/
def Decided : BetaRegistrationDecision → Portal → Prop
  | .code codeId maxUses, w => ∃ c, w.betaInviteCodes.find codeId = some c ∧ c.maxUses = maxUses
  | _, _ => True

/-- No action changes the cap of a code. -/
theorem Effect.decided {l : Place} {w w' : Portal} (h : Effect l w w') {decision : BetaRegistrationDecision}
    (hdecided : Decided decision w) : Decided decision w' := by
  cases decision with
  | «open» => trivial
  | allowlist => trivial
  | code codeId maxUses =>
      obtain ⟨c, hfind, hcap⟩ := hdecided
      cases h with
      | createCode _ _ hcreate => exact ⟨c, Table.find_create_of_find hcreate hfind, hcap⟩
      | disable =>
          refine ⟨_, Table.find_updateMany_some (switchCode_id _) hfind, ?_⟩
          split <;> exact hcap
      | redeem =>
          refine ⟨_, Table.find_updateMany_some useCode_id hfind, ?_⟩
          split <;> exact hcap
      | idle | surround | limiter | send | wrongCode | consume | enrol | passwordReset | claims =>
          exact ⟨c, hfind, hcap⟩

theorem Decided.later {decision : BetaRegistrationDecision} {w w' : Portal} (h : Decided decision w)
    (hrely : Rely Effect w w') : Decided decision w' :=
  Rely.stable (fun _ _ _ heffect => heffect.decided) hrely h

theorem meets_of_does {α : Type} {x : Service α} (h : Svc.Does Effect x) (w : Portal) :
    x.Ensures (Rely Effect) Effect (fun _ _ => True) w :=
  Prog.Meets.weaken_rely (fun _ _ _ => trivial) (h w)

theorem ensures_of_does {α : Type} {x : Service α} (h : Svc.Does Effect x) {P : Portal → Prop}
    (hP : ∀ w w', P w → Rely Effect w w' → P w') {w : Portal} (hw : P w) :
    x.Ensures (Rely Effect) Effect (fun _ w => P w) w := by
  have hreach := (meets_of_does h w).reach Rely.refl (fun _ _ _ => Rely.trans) fun _ _ _ => Rely.single
  exact hreach.mono fun r w' hr a _ => hP w w' hw hr.1

theorem decideRegistration_decides (email : Option String) (phone : String) (betaCode : Option String) (w : Portal) :
    (decideRegistration email phone betaCode).Ensures (Rely Effect) Effect Decided w := by
  have hidle (w' : Portal) (_ : Rely Effect w w') : Effect .read w' w' := Effect.read w'
  refine Svc.Ensures.bind (P := fun _ _ => True) (Svc.Ensures.query hidle fun _ _ => trivial) fun gate w₁ _ => ?_
  split
  · exact Svc.Ensures.pure trivial
  · refine Svc.Ensures.bind (P := fun _ _ => True) ?_ fun listed w₂ _ => ?_
    · exact Svc.Ensures.query (fun w' _ => Effect.read w') fun _ _ => trivial
    split
    · exact Svc.Ensures.pure trivial
    · refine Svc.Ensures.bind (P := fun _ _ => True) (Svc.Ensures.ensure fun _ => trivial) fun _ w₃ _ => ?_
      refine Svc.Ensures.bind (P := fun row w => ∀ c ∈ row, Decided (.code c.id c.maxUses) w) ?_ fun row w₄ hrow => ?_
      · refine Svc.Ensures.query (fun w' _ => Effect.read w') fun w' _ c hc => ?_
        exact ⟨c, Table.find_of_mem (List.mem_of_find?_eq_some hc), rfl⟩
      cases row with
      | none => exact Svc.Ensures.fail
      | some c =>
          have hknown := hrow c rfl
          refine Svc.Ensures.bind (P := fun _ w => Decided (.code c.id c.maxUses) w)
            (Svc.Ensures.ensure fun _ => hknown) fun _ w₅ hknown => ?_
          refine Svc.Ensures.bind (P := fun _ w => Decided (.code c.id c.maxUses) w) ?_ fun _ w₆ hknown => ?_
          · exact Svc.Ensures.query (fun w' _ => Effect.read w') fun w' hrely => hknown.later hrely
          refine Svc.Ensures.bind (P := fun _ w => Decided (.code c.id c.maxUses) w)
            (Svc.Ensures.ensure fun _ => hknown) fun _ w₇ hknown => ?_
          refine Svc.Ensures.bind (P := fun _ w => Decided (.code c.id c.maxUses) w)
            (Svc.Ensures.ensure fun _ => hknown) fun _ w₈ hknown => ?_
          exact Svc.Ensures.pure hknown

theorem createUserTx_effect {decision : BetaRegistrationDecision} {row : Nat → User} (hrow : ∀ id, (row id).id = id)
    {w w' : Portal} {u : User} (hdecided : Decided decision w) (h : createUserTx decision row w = .ok (u, w')) :
    Effect .createUser w w' := by
  obtain ⟨id, w₁, hid, h⟩ := Tx.bind_eq_ok.mp h
  cases hid
  obtain ⟨created, w₂, hcreated, h⟩ := Tx.bind_eq_ok.mp h
  obtain ⟨t, hcreate, -, rfl, rfl⟩ := Delegate.create_eq_ok.mp hcreated
  obtain ⟨_, w₃, hredeem, h⟩ := Tx.bind_eq_ok.mp h
  obtain ⟨-, rfl⟩ := Tx.pure_eq_ok.mp h
  cases decision with
  | «open» =>
      obtain ⟨-, rfl⟩ := Tx.pure_eq_ok.mp hredeem
      exact Effect.enrol (hrow _) hcreate
  | allowlist =>
      obtain ⟨-, rfl⟩ := Tx.pure_eq_ok.mp hredeem
      exact Effect.enrol (hrow _) hcreate
  | code codeId maxUses =>
      obtain ⟨count, w₄, hcount, hredeem⟩ := Tx.bind_eq_ok.mp hredeem
      obtain ⟨hn, rfl⟩ := Delegate.updateMany_eq_ok.mp hcount
      obtain ⟨_, w₅, hfree, hredeem⟩ := Tx.bind_eq_ok.mp hredeem
      obtain ⟨hpositive, rfl⟩ := Tx.ensure_eq_ok.mp hfree
      obtain ⟨rid, w₆, hrid, hredeem⟩ := Tx.bind_eq_ok.mp hredeem
      cases hrid
      obtain ⟨r, w₇, hcreated', hredeem⟩ := Tx.bind_eq_ok.mp hredeem
      obtain ⟨t', hcreate', -, rfl, rfl⟩ := Delegate.create_eq_ok.mp hcreated'
      obtain ⟨-, rfl⟩ := Tx.pure_eq_ok.mp hredeem
      obtain ⟨c, hfind, rfl⟩ := hdecided
      -- the increment found a row, and the code is the only one it can find
      obtain ⟨c', hfind', hredeemable⟩ := Table.count_pos (t := w.betaInviteCodes)
        (q := redeemable codeId c.maxUses) (k := codeId)
        (fun r hr => (of_decide_eq_true hr).1) (by rw [← hn]; exact hpositive)
      rw [hfind] at hfind'
      cases hfind'
      exact Effect.redeem (r := ⟨w.nextId + 1, codeId, (row w.nextId).id⟩) (hrow _) hcreate hfind hredeemable rfl rfl
        hcreate'

end Caps

omit [Runtime] in
theorem signUp_meets (body : RegisterInput) (channel : OtpType) (email : Option String) (phone : String) (otpId : Nat)
    (w : Portal) : (signUp body channel email phone otpId).Ensures (Rely Effect) Effect (fun _ _ => True) w := by
  refine Svc.Ensures.bind (decideRegistration_decides _ _ _ _) fun decision w₅ hdecided => ?_
  refine Svc.Ensures.bind (P := fun _ w => Decided decision w) (Svc.Ensures.ensure fun _ => hdecided)
    fun _ w₆ hdecided => ?_
  refine Svc.Ensures.bind (P := fun _ w => Decided decision w) (Svc.Ensures.ensure fun _ => hdecided)
    fun _ w₇ hdecided => ?_
  refine Svc.Ensures.bind (P := fun _ w => Decided decision w) (Svc.Ensures.ensure fun _ => hdecided)
    fun _ w₈ hdecided => ?_
  refine Svc.Ensures.bind (P := fun _ w => Decided decision w) ?_ fun conflict w₉ hdecided => ?_
  · exact ensures_of_does (query_does _) (fun _ _ => Decided.later) hdecided
  cases conflict with
  | some conflict => exact Svc.Ensures.fail
  | none =>
      refine Svc.Ensures.bind (P := fun _ w => Decided decision w) ?_ fun verifiedAt w₁₀ hdecided => ?_
      · exact ensures_of_does dateNow_does (fun _ _ => Decided.later) hdecided
      refine Svc.Ensures.bind (P := fun _ _ => True) (Svc.Ensures.transaction ?_ ?_) fun created w₁₁ _ => ?_
      · exact fun w' _ => Effect.idle _ _ nofun
      · exact fun w' u w'' hrely htx => ⟨createUserTx_effect (fun _ => rfl) (hdecided.later hrely) htx, trivial⟩
      · exact meets_of_does (Svc.Does.bind (consume_does _) fun _ => Svc.Does.pure _) _

omit [Runtime] in
theorem register_meets (body : RegisterInput) (w : Portal) :
    (register body).Ensures (Rely Effect) Effect (fun _ _ => True) w := by
  unfold register
  split
  · exact Svc.Ensures.fail
  · unfold registerAs
    dsimp only
    refine Svc.Ensures.bind (P := fun _ _ => True) (Svc.Ensures.ensure fun _ => trivial) fun _ w₁ _ => ?_
    refine Svc.Ensures.bind (P := fun _ _ => True) (Svc.Ensures.ensure fun _ => trivial) fun _ w₂ _ => ?_
    refine Svc.Ensures.bind (P := fun _ _ => True) ?_ fun otpId w₃ _ => ?_
    · exact meets_of_does (verify_does _) _
    refine Svc.Ensures.bind (P := fun _ _ => True) ?_ fun existing w₄ _ => ?_
    · exact meets_of_does (query_does _) _
    cases existing with
    | some existing =>
        exact meets_of_does (Svc.Does.bind (consume_does _) fun _ => Svc.Does.pure _) _
    | none => exact signUp_meets _ _ _ _ _ _

theorem program_meets (c : Call) (w : Portal) :
    (program c).Ensures (Rely Effect) Effect (fun _ _ => True) w := by
  unfold program
  cases c with
  | surround s => exact meets_of_does (Svc.Does.bind (surround_does s) fun _ => Svc.Does.pure _) w
  | createCode input => exact meets_of_does (Svc.Does.bind (createCode_does input) fun _ => Svc.Does.pure _) w
  | setCodeDisabled id disabled =>
      exact meets_of_does (Svc.Does.bind (setCodeDisabled_does id disabled) fun _ => Svc.Does.pure _) w
  | send body => exact meets_of_does (Svc.Does.bind (send_does body) fun _ => Svc.Does.pure _) w
  | verify body =>
      exact meets_of_does (Svc.Does.bind (verify_does body) fun _ => Svc.Does.pure _) w
  | register body =>
      exact Svc.Ensures.bind (register_meets body w) fun _ _ _ => Svc.Ensures.pure trivial
  | resetPassword body => exact meets_of_does (Svc.Does.bind (resetPassword_does body) fun _ => Svc.Does.pure _) w
  | verifyOtp token code sessionToken =>
      exact meets_of_does (Svc.Does.bind (verifyOtp_does token code sessionToken) fun _ => Svc.Does.pure _) w

/-- **Every run is a path of effects.** -/
theorem Run.path {tr : List (Event Portal Place)} {cfg : Config Portal Place (Except Err Reply)} (h : Run tr cfg) :
    Path Effect Portal.empty tr cfg.state :=
  (Exec.path (Q := fun _ _ => True) (fun _ _ _ _ _ => trivial) (fun c w _ => (program_meets c w).meets) h).1

/-! ### Concrete runs -/

namespace Pilot

/-- Passwords are their own hashes. -/
@[reducible] def plainPasswords : Passwords := ⟨id⟩

/-- Follow a schedule from the empty portal. -/
def played (schedule : List (Choice Call)) :
    List (Event Portal Place) × Config Portal Place (Except Err Reply) :=
  Config.play (@program plainRuntime plainPasswords) ⟨Portal.empty, []⟩ schedule

omit [Runtime] [Passwords] in
theorem run (schedule : List (Choice Call)) :
    @Run plainRuntime plainPasswords (played schedule).1 (played schedule).2 := by
  have hinit : @Run plainRuntime plainPasswords [] ⟨Portal.empty, []⟩ := Exec.init
  simpa [played] using hinit.play schedule

/-- Start a call and let it end. -/
def toEnd (c : Call) : List (Choice Call) := .start c :: List.replicate 12 (.run 0)

end Pilot

end Accounts

end Qift.Portal
