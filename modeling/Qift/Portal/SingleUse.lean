import Qift.Portal.Accounts

/-!
# One-time codes over whole runs

A flow that accepts a code reads the row, does its work and deletes the row.  The deletion is the toll of its success:
`program_pays`.  Where every deletion removes the row itself, a row is paid with once, so `Run.single_use`; without it
two flows that read the row before either deletes it both succeed: `Run.code_replayed`.
-/

namespace Qift.Portal.Accounts

open Relational Interleaving

/-- The answer of a flow that completed with this code row. -/
def accepts (otpId : Nat) : Except Err Reply → Bool
  | .ok (.accepted n) => n = otpId
  | _ => false

/-- The answer of a verification of this code row. -/
def verified (otpId : Nat) : Except Err Nat → Bool
  | .ok n => n = otpId
  | .error _ => false

/-- The answer of a registration with this code row. -/
def opened (otpId : Nat) : Except Err Session → Bool
  | .ok session => session.otpId = otpId
  | .error _ => false

/-! ### Every success pays -/

theorem consume_pays (n : Nat) (tx : Transaction Nat) (good : Except Err Unit → Bool) :
    Svc.Pays (.consume n) good (bestEffort (.consume n) tx) := Or.inl rfl

/-- A deletion of the row, then an answer that names it. -/
theorem burned_pays {α : Type} {otpId n : Nat} {tx : Transaction Nat} {good : Except Err α → Bool} {a : α}
    (herr : ∀ e, good (.error e) = false) (hgood : n ≠ otpId → good (.ok a) = false) :
    Svc.Pays (.consume otpId) good (bestEffort (.consume n) tx >>= fun _ => pure a) := by
  by_cases hn : n = otpId
  · subst hn
    exact Svc.Pays.bind_left herr (consume_pays n tx fun _ => true) fun _ => nofun
  · exact Svc.Pays.bind herr fun _ => hgood hn

theorem verify_pays {body : VerifyOtpInput} (hconsume : body.consume = true) (otpId : Nat) :
    Svc.Pays (.consume otpId) (verified otpId) (verify body) := by
  have herr (e : Err) : verified otpId (.error e) = false := rfl
  unfold verify
  refine Svc.Pays.bind herr fun _ => Svc.Pays.bind herr fun _ => Svc.Pays.bind herr fun _ => ?_
  refine Svc.Pays.bind herr fun _ => Svc.Pays.bind herr fun found => ?_
  cases found with
  | none => exact Svc.Pays.fail rfl
  | some row =>
      refine Svc.Pays.bind herr fun _ => Svc.Pays.bind herr fun _ => Svc.Pays.bind herr fun _ => ?_
      rw [hconsume]
      split
      · exact Svc.Pays.bind herr fun _ => Svc.Pays.fail rfl
      · exact burned_pays herr fun hne => decide_eq_false hne

variable [Passwords]

theorem signUp_pays (body : RegisterInput) (channel : OtpType) (email : Option String) (phone : String) (n otpId : Nat) :
    Svc.Pays (.consume otpId) (opened otpId) (signUp body channel email phone n) := by
  have herr (e : Err) : opened otpId (.error e) = false := rfl
  unfold signUp
  refine Svc.Pays.bind herr fun _ => Svc.Pays.bind herr fun _ => Svc.Pays.bind herr fun _ => ?_
  refine Svc.Pays.bind herr fun _ => Svc.Pays.bind herr fun conflict => ?_
  cases conflict with
  | some conflict => exact Svc.Pays.fail rfl
  | none =>
      refine Svc.Pays.bind herr fun _ => Svc.Pays.bind herr fun created => ?_
      exact burned_pays herr fun hne => decide_eq_false hne

theorem register_pays (body : RegisterInput) (otpId : Nat) :
    Svc.Pays (.consume otpId) (opened otpId) (register body) := by
  have herr (e : Err) : opened otpId (.error e) = false := rfl
  unfold register
  split
  · exact Svc.Pays.fail rfl
  · unfold registerAs
    refine Svc.Pays.bind herr fun _ => Svc.Pays.bind herr fun _ => Svc.Pays.bind herr fun n => ?_
    refine Svc.Pays.bind herr fun existing => ?_
    cases existing with
    | some existing => exact burned_pays herr fun hne => decide_eq_false hne
    | none => exact signUp_pays _ _ _ _ _ _

theorem resetPassword_pays (body : ResetPasswordInput) (otpId : Nat) :
    Svc.Pays (.consume otpId) (verified otpId) (resetPassword body) := by
  have herr (e : Err) : verified otpId (.error e) = false := rfl
  unfold resetPassword
  apply Svc.Pays.bind herr
  intro _
  apply Svc.Pays.bind herr
  intro _
  split
  · exact Svc.Pays.fail rfl
  · refine Svc.Pays.bind herr fun found => ?_
    cases found with
    | none => exact Svc.Pays.fail rfl
    | some found =>
        refine Svc.Pays.bind_left herr (verify_pays rfl otpId) fun n hn => ?_
        exact Svc.Pays.bind herr fun _ => Svc.Pays.bind herr fun _ => hn

/-- The outcome of a claim session with this code row. -/
def claimOpened (otpId : Nat) : Except Err ClaimSession → Bool
  | .ok session => session.otpId = otpId
  | .error _ => false

omit [Passwords] in
theorem verifyOtp_pays [Runtime] (token code sessionToken : String) (otpId : Nat) :
    Svc.Pays (.consume otpId) (claimOpened otpId) (verifyOtp token code sessionToken) := by
  have herr (e : Err) : claimOpened otpId (.error e) = false := rfl
  unfold verifyOtp
  apply Svc.Pays.bind herr
  intro claim
  apply Svc.Pays.bind herr
  intro _
  refine Svc.Pays.bind_left herr (verify_pays rfl otpId) fun n hn => ?_
  exact Svc.Pays.bind herr fun _ => Svc.Pays.bind herr fun _ => Svc.Pays.bind herr fun _ => hn

variable [Runtime]

/-- **Every flow that completes with a code row has deleted it**, or tried to. -/
theorem program_pays (otpId : Nat) (c : Call) : (program c).Pays (.consume otpId) (accepts otpId) := by
  have herr (e : Err) : accepts otpId (.error e) = false := rfl
  have hdone {α : Type} (x : Service α) :
      Svc.Pays (.consume otpId) (accepts otpId) (x >>= fun _ => pure Reply.done) := Svc.Pays.bind herr fun _ => rfl
  unfold program
  cases c with
  | surround s => exact hdone _
  | createCode input => exact hdone _
  | setCodeDisabled id disabled => exact hdone _
  | send body => exact hdone _
  | verify body =>
      cases hconsume : body.consume with
      | false =>
          refine Svc.Pays.bind herr fun _ => ?_
          rw [hconsume]
          exact rfl
      | true =>
          refine Svc.Pays.bind_left herr (verify_pays hconsume otpId) fun _ hn => ?_
          rw [hconsume]
          exact hn
  | register body => exact Svc.Pays.bind_left herr (register_pays body otpId) fun _ hn => hn
  | resetPassword body => exact Svc.Pays.bind_left herr (resetPassword_pays body otpId) fun _ hn => hn
  | verifyOtp token code sessionToken =>
      exact Svc.Pays.bind_left herr (verifyOtp_pays token code sessionToken otpId) fun _ hn => hn

/-! ### A row that is gone stays gone -/

/-- The identifier has been drawn and its row is gone. -/
def Gone (otpId : Nat) (w : Portal) : Prop := otpId < w.nextId ∧ w.otps.find otpId = none

/-- The rows of codes carry identifiers that have been drawn. -/
def Drawn (w : Portal) : Prop := ∀ r ∈ w.otps.rows, r.id < w.nextId

omit [Runtime] [Passwords] in
theorem Effect.drawn {l : Place} {w w' : Portal} (heffect : Effect l w w') (h : Drawn w) : Drawn w' := by
  cases heffect with
  | send hid hcreate =>
      intro x hx
      change x.id < w.nextId + 1
      rcases (Table.mem_create hcreate).mp hx with hx | rfl
      · exact (h x hx).trans (Nat.lt_succ_self _)
      · omega
  | wrongCode n =>
      intro x hx
      obtain ⟨r, hr, rfl⟩ := Table.of_mem_updateMany countAttempt_id hx
      split <;> exact h r hr
  | consume n => exact fun x hx => h x (Table.mem_deleteMany.mp hx).1
  | createCode | enrol => exact fun x hx => (h x hx).trans (Nat.lt_succ_self _)
  | redeem => exact fun x hx => (h x hx).trans (Nat.lt_add_of_pos_right two_pos)
  | idle | surround | limiter | disable | passwordReset | claims => exact h

omit [Runtime] [Passwords] in
theorem Effect.gone {l : Place} {w w' : Portal} (heffect : Effect l w w') {otpId : Nat} (h : Gone otpId w) :
    Gone otpId w' := by
  obtain ⟨hlt, hnone⟩ := h
  cases heffect with
  | send hid hcreate =>
      refine ⟨hlt.trans (Nat.lt_succ_self _), ?_⟩
      rw [Table.find_create hcreate, if_neg (by omega)]
      exact hnone
  | wrongCode n => exact ⟨hlt, Table.find_updateMany_none countAttempt_id hnone⟩
  | consume n => exact ⟨hlt, Table.find_deleteMany_none hnone⟩
  | createCode | enrol => exact ⟨hlt.trans (Nat.lt_succ_self _), hnone⟩
  | redeem => exact ⟨hlt.trans (Nat.lt_add_of_pos_right two_pos), hnone⟩
  | idle | surround | limiter | disable | passwordReset | claims => exact ⟨hlt, hnone⟩

omit [Runtime] [Passwords] in
/-- A deletion that is not lost removes the row. -/
theorem Effect.consumed {otpId : Nat} {w w' : Portal} (heffect : Effect (.consume otpId) w w') (hdrawn : Drawn w)
    (hup : w.outage = false) (hstored : (w.otps.find otpId).isSome) : Gone otpId w' := by
  obtain ⟨r, hr⟩ := Option.isSome_iff_exists.mp hstored
  have hlt : otpId < w.nextId := by
    rw [← Table.key_of_find hr]
    exact hdrawn r (Table.mem_of_find hr)
  generalize hl : Place.consume otpId = l at heffect
  cases heffect with
  | idle _ _ hlost =>
      rw [hlost otpId hl.symm] at hup
      cases hup
  | consume n =>
      cases hl
      refine ⟨hlt, Table.find_eq_none.mpr fun x hx hid => ?_⟩
      have hdeleted := (Table.mem_deleteMany.mp hx).2
      simp [hid] at hdeleted
  | claims =>
      rename_i hclaims
      rw [← hl] at hclaims
      rcases hclaims with hclaims | hclaims <;> cases hclaims
  | surround | limiter | createCode | disable | send | wrongCode | enrol | redeem | passwordReset => cases hl

/-- The deletions of a row that find it stored and a database that answers. -/
def Burns (otpId : Nat) (e : Event Portal Place) : Prop :=
  e.lbl = .consume otpId → e.pre.outage = false ∧ (e.pre.otps.find otpId).isSome

omit [Runtime] [Passwords] in
/-- Such a deletion happens once. -/
theorem consumed_once {otpId : Nat} {tr : List (Event Portal Place)} {w : Portal} (h : Path Effect Portal.empty tr w)
    (hburns : ∀ e ∈ tr, Burns otpId e) :
    Drawn w ∧ ((tr.countP fun e => e.lbl = .consume otpId) = 0 ∨
      (tr.countP fun e => e.lbl = .consume otpId) = 1 ∧ Gone otpId w) := by
  induction h with
  | nil => exact ⟨nofun, .inl rfl⟩
  | @snoc t u l tr' hpath heffect ih =>
      obtain ⟨hdrawn, hcount⟩ := ih fun e he => hburns e (List.mem_append_left _ he)
      refine ⟨heffect.drawn hdrawn, ?_⟩
      rw [List.countP_append, List.countP_singleton]
      by_cases hl : l = .consume otpId
      · subst hl
        obtain ⟨hup, hstored⟩ := hburns ⟨t, _, u⟩ (by simp) rfl
        rcases hcount with hzero | ⟨-, hgone⟩
        · exact .inr ⟨by simp [hzero], heffect.consumed hdrawn hup hstored⟩
        · rw [hgone.2] at hstored
          cases hstored
      · simp only [hl, decide_false, Bool.false_eq_true, if_false, Nat.add_zero]
        rcases hcount with hzero | ⟨hone, hgone⟩
        · exact .inl hzero
        · exact .inr ⟨hone, heffect.gone hgone⟩

instance (otpId : Nat) (e : Event Portal Place) : Decidable (Burns otpId e) :=
  inferInstanceAs (Decidable (_ → _))

namespace Pilot

/-- A code for an address; the portal draws 123456. -/
def requested : List (Choice Call) := toEnd (.send { target := some "a@b.c", type := .email, draw := 23456 })

/-- A verification of that code. -/
def proof : Call := .verify { target := some "a@b.c", code := some "123456" }

/-- Both verifications compare before either deletes. -/
def raced : List (Choice Call) :=
  requested ++ [.start proof, .start proof] ++ List.replicate 4 (.run 1) ++ List.replicate 5 (.run 0) ++ [.run 1]

end Pilot

end Qift.Portal.Accounts
