import Qift.Portal.Accounts

/-!
# Beta invitations over whole runs

* `Invited` is the state of the invitations: every code counts its redemptions and stays within its cap, and no user
  has redeemed twice.
* `Run.invitations_kept` holds in every run: the count moves in the transaction that creates the user, and the conditional
  increment compares it with the cap stored on the code.
-/

namespace Qift.Portal.Accounts

open Relational Interleaving

/-- The redemptions that name a code. -/
def redemptionsOf (codeId : Nat) (w : Portal) : Nat := w.betaInviteRedemptions.count fun r => r.codeId = codeId

/-- The uses a code counts. -/
def usedOf (codeId : Nat) (w : Portal) : Nat := ((w.betaInviteCodes.find codeId).map BetaInviteCode.usedCount).getD 0

/-- The invitations of a portal are in order. -/
structure Invited (w : Portal) : Prop where
  counted : ∀ c ∈ w.betaInviteCodes.rows, c.usedCount = redemptionsOf c.id w
  capped : ∀ c ∈ w.betaInviteCodes.rows, ∀ m ∈ c.maxUses, c.usedCount ≤ m
  once : ∀ r ∈ w.betaInviteRedemptions.rows, ∀ r' ∈ w.betaInviteRedemptions.rows, r.userId = r'.userId → r = r'
  codes : ∀ c ∈ w.betaInviteCodes.rows, c.id < w.nextId
  known : ∀ r ∈ w.betaInviteRedemptions.rows, r.codeId < w.nextId ∧ r.userId < w.nextId

theorem invited_empty : Invited Portal.empty := by
  constructor <;> intro r hr <;> cases hr

/-- Writes to the other tables leave the invitations in order. -/
theorem Invited.keep {w w' : Portal} (h : Invited w) (hcodes : w'.betaInviteCodes = w.betaInviteCodes)
    (hredemptions : w'.betaInviteRedemptions = w.betaInviteRedemptions) (hnext : w.nextId ≤ w'.nextId) :
    Invited w' := by
  constructor
  · simpa only [redemptionsOf, hcodes, hredemptions] using h.counted
  · simpa only [hcodes] using h.capped
  · simpa only [hredemptions] using h.once
  · intro c hc
    rw [hcodes] at hc
    exact (h.codes c hc).trans_le hnext
  · intro r hr
    rw [hredemptions] at hr
    obtain ⟨hcode, huser⟩ := h.known r hr
    exact ⟨hcode.trans_le hnext, huser.trans_le hnext⟩

/-- A new code has no uses and no redemptions. -/
theorem Invited.createCode {w : Portal} (h : Invited w) {c : BetaInviteCode} {t : Table BetaInviteCode.id}
    (hid : c.id = w.nextId) (hunused : c.usedCount = 0) (hcreate : w.betaInviteCodes.create c = some t) :
    Invited { w with nextId := w.nextId + 1, betaInviteCodes := t } := by
  constructor
  · intro x hx
    rcases (Table.mem_create hcreate).mp hx with hx | rfl
    · exact h.counted x hx
    · rw [hunused]
      -- a redemption names an older identifier
      refine (List.countP_eq_zero.mpr fun r hr hcode => ?_).symm
      have hlt := (h.known r hr).1
      rw [of_decide_eq_true hcode, hid] at hlt
      exact lt_irrefl _ hlt
  · intro x hx m hm
    rcases (Table.mem_create hcreate).mp hx with hx | rfl
    · exact h.capped x hx m hm
    · omega
  · exact h.once
  · intro x hx
    rcases (Table.mem_create hcreate).mp hx with hx | rfl
    · exact (h.codes x hx).trans (Nat.lt_succ_self _)
    · simp [hid]
  · intro r hr
    obtain ⟨hcode, huser⟩ := h.known r hr
    exact ⟨hcode.trans (Nat.lt_succ_self _), huser.trans (Nat.lt_succ_self _)⟩

/-- Switching a code on or off touches neither its count nor its cap. -/
theorem Invited.disable {w : Portal} (h : Invited w) (id : Nat) (disabledAt : Option Time) :
    Invited { w with
      betaInviteCodes := w.betaInviteCodes.updateMany (fun c => c.id = id) (switchCode disabledAt)
        (switchCode_id disabledAt) } := by
  have hrow : ∀ x ∈ (w.betaInviteCodes.updateMany (fun c => c.id = id) (switchCode disabledAt)
      (switchCode_id disabledAt)).rows, ∃ c ∈ w.betaInviteCodes.rows,
        x.id = c.id ∧ x.usedCount = c.usedCount ∧ x.maxUses = c.maxUses := by
    intro x hx
    obtain ⟨c, hc, rfl⟩ := Table.mem_updateMany.mp hx
    refine ⟨c, hc, ?_⟩
    split <;> exact ⟨rfl, rfl, rfl⟩
  constructor
  · intro x hx
    obtain ⟨c, hc, hid, hused, -⟩ := hrow x hx
    rw [hused, hid]
    exact h.counted c hc
  · intro x hx m hm
    obtain ⟨c, hc, -, hused, hcap⟩ := hrow x hx
    rw [hcap] at hm
    rw [hused]
    exact h.capped c hc m hm
  · exact h.once
  · intro x hx
    obtain ⟨c, hc, hid, -⟩ := hrow x hx
    rw [hid]
    exact h.codes c hc
  · exact h.known

theorem redeemed_row {w : Portal} {c : BetaInviteCode} {codeId : Nat} (hcode : w.betaInviteCodes.find codeId = some c)
    (hfree : redeemable codeId c.maxUses c = true) {x : BetaInviteCode}
    (hx : x ∈ (w.betaInviteCodes.updateMany (redeemable codeId c.maxUses) useCode useCode_id).rows) :
    x = useCode c ∨ x ∈ w.betaInviteCodes.rows ∧ x.id ≠ codeId := by
  obtain ⟨y, hy, rfl⟩ := Table.mem_updateMany.mp hx
  by_cases hid : y.id = codeId
  · have hyc : y = c := by
      have hfind := Table.find_of_mem hy
      rw [hid, hcode] at hfind
      exact (Option.some.inj hfind).symm
    subst hyc
    exact .inl (if_pos hfree)
  · right
    have hnot : redeemable codeId c.maxUses y = false := decide_eq_false fun hy => hid hy.1
    rw [hnot]
    exact ⟨hy, hid⟩

theorem Invited.redeem {w : Portal} (h : Invited w) {u : User} {t : Table User.id} {c : BetaInviteCode}
    {r : BetaInviteRedemption} {t' : Table BetaInviteRedemption.id} (hid : u.id = w.nextId)
    (hcode : w.betaInviteCodes.find r.codeId = some c) (hfree : redeemable r.codeId c.maxUses c = true)
    (huser : r.userId = u.id) (hredeem : w.betaInviteRedemptions.create r = some t') :
    Invited { w with
      nextId := w.nextId + 2
      users := t
      betaInviteCodes := w.betaInviteCodes.updateMany (redeemable r.codeId c.maxUses) useCode useCode_id
      betaInviteRedemptions := t' } := by
  obtain ⟨hcid, -, hroom⟩ := of_decide_eq_true hfree
  have hc : c ∈ w.betaInviteCodes.rows := Table.mem_of_find hcode
  have hcount (id : Nat) : t'.count (fun x => x.codeId = id) =
      w.betaInviteRedemptions.count (fun x => x.codeId = id) + if r.codeId = id then 1 else 0 := by
    rw [Table.count_create hredeem]
    simp only [decide_eq_true_eq]
  constructor
  · intro x hx
    rcases redeemed_row hcode hfree hx with rfl | ⟨hx, hne⟩
    · have hold := h.counted c hc
      simp only [redemptionsOf, useCode_id, hcount, hcid, if_true] at hold ⊢
      change c.usedCount + 1 = _
      omega
    · have hold := h.counted x hx
      simp only [redemptionsOf, hcount, Ne.symm hne, if_false, Nat.add_zero] at hold ⊢
      exact hold
  · intro x hx m hm
    rcases redeemed_row hcode hfree hx with rfl | ⟨hx, -⟩
    · exact hroom m hm
    · exact h.capped x hx m hm
  · -- the user is new, so no older record names it
    have hnew : ∀ x ∈ w.betaInviteRedemptions.rows, x.userId ≠ r.userId := by
      intro x hx heq
      have hlt := (h.known x hx).2
      rw [heq, huser, hid] at hlt
      exact lt_irrefl _ hlt
    intro x hx y hy hxy
    rcases (Table.mem_create hredeem).mp hx with hxold | hxr <;>
      rcases (Table.mem_create hredeem).mp hy with hyold | hyr
    · exact h.once x hxold y hyold hxy
    · rw [hyr] at hxy
      exact absurd hxy (hnew x hxold)
    · rw [hxr] at hxy
      exact absurd hxy.symm (hnew y hyold)
    · rw [hxr, hyr]
  · intro x hx
    have hlt : ∀ y ∈ w.betaInviteCodes.rows, y.id < w.nextId + 2 := fun y hy => (h.codes y hy).trans (by omega)
    rcases redeemed_row hcode hfree hx with rfl | ⟨hx, -⟩
    · exact hlt c hc
    · exact hlt x hx
  · intro x hx
    change x.codeId < w.nextId + 2 ∧ x.userId < w.nextId + 2
    rcases (Table.mem_create hredeem).mp hx with hx | rfl
    · obtain ⟨hcode, huser⟩ := h.known x hx
      omega
    · have hclt := h.codes c hc
      omega

theorem Effect.invited {l : Place} {w w' : Portal} (heffect : Effect l w w') (h : Invited w) : Invited w' := by
  cases heffect with
  | createCode hid hunused hcreate => exact h.createCode hid hunused hcreate
  | disable id disabledAt => exact h.disable id disabledAt
  | redeem hid _ hcode hfree _ huser hredeem => exact h.redeem hid hcode hfree huser hredeem
  | send => exact h.keep rfl rfl (Nat.le_succ _)
  | enrol => exact h.keep rfl rfl (Nat.le_succ _)
  | idle | surround | limiter | wrongCode | consume | passwordReset | claims => exact h.keep rfl rfl le_rfl

/-! ### What a refusal leaves -/

/-- One new user, one new record and one more use of its code. -/
structure Redeemed (w w' : Portal) : Prop where
  redeemed : ∃ u ∈ w'.users.rows, u ∉ w.users.rows ∧ ∃ r, w'.betaInviteRedemptions.rows =
    w.betaInviteRedemptions.rows ++ [r] ∧ r.userId = u.id ∧ usedOf r.codeId w' = usedOf r.codeId w + 1 ∧
      ∀ id, id ≠ r.codeId → usedOf id w' = usedOf id w

/-- Neither a count nor a record changes. -/
structure Unredeemed (w w' : Portal) : Prop where
  records : w'.betaInviteRedemptions = w.betaInviteRedemptions
  used : ∀ id, usedOf id w' = usedOf id w

theorem usedOf_updateMany {w w' : Portal} {p : BetaInviteCode → Bool} {f : BetaInviteCode → BetaInviteCode}
    (hf : ∀ c, (f c).id = c.id) (hcodes : w'.betaInviteCodes = w.betaInviteCodes.updateMany p f hf) (id : Nat) :
    usedOf id w' = ((w.betaInviteCodes.find id).map fun c => (if p c then f c else c).usedCount).getD 0 := by
  rw [usedOf, hcodes, Table.find_updateMany, Option.map_map]
  rfl

theorem Effect.redeems {l : Place} {w w' : Portal} (heffect : Effect l w w') : Redeemed w w' ∨ Unredeemed w w' := by
  cases heffect with
  | createCode hid hunused hcreate =>
      refine .inr ⟨rfl, fun id => ?_⟩
      simp only [usedOf, Table.find_create hcreate]
      split
      · rename_i hid
        have hnone := (Table.create_eq_some hcreate).2
        rw [hid] at hnone
        simp [hnone, hunused]
      · rfl
  | disable id disabledAt =>
      refine .inr ⟨rfl, fun id => ?_⟩
      rw [usedOf_updateMany (switchCode_id disabledAt) rfl, usedOf]
      congr 2
      funext c
      split <;> rfl
  | @redeem _ u t c r t' hid hcreate hcode hfree _ huser hredeem =>
      obtain ⟨hcid, -⟩ := of_decide_eq_true hfree
      obtain ⟨hrows, -⟩ := Table.create_eq_some hredeem
      refine .inl ⟨u, (Table.mem_create hcreate).mpr (.inr rfl), fun hu => ?_, r, hrows, huser, ?_, fun id hne => ?_⟩
      · have hnone := (Table.create_eq_some hcreate).2
        exact Table.find_eq_none.mp hnone u hu rfl
      · rw [usedOf_updateMany useCode_id rfl, usedOf, hcode]
        simp only [Option.map_some, Option.getD_some, hfree, if_true]
        rfl
      · rw [usedOf_updateMany useCode_id rfl, usedOf]
        cases hfind : w.betaInviteCodes.find id with
        | none => rfl
        | some x =>
            have hx : redeemable r.codeId c.maxUses x = false :=
              decide_eq_false fun hx => hne ((Table.key_of_find hfind).symm.trans hx.1)
            simp [hx]
  | idle | surround | limiter | send | wrongCode | consume | enrol | passwordReset | claims =>
      exact .inr ⟨rfl, fun _ => rfl⟩

theorem Effect.refused {w w' : Portal} (heffect : Effect .createUser w w') (hnone : w'.users = w.users) : w' = w := by
  have hgrown {u : User} {t : Table User.id} (hcreate : w.users.create u = some t) : t ≠ w.users := by
    rintro rfl
    exact Table.find_eq_none.mp (Table.create_eq_some hcreate).2 u ((Table.mem_create hcreate).mpr (.inr rfl)) rfl
  cases heffect with
  | idle => rfl
  | enrol _ hcreate => exact absurd hnone (hgrown hcreate)
  | redeem _ hcreate => exact absurd hnone (hgrown hcreate)
  | claims =>
      rename_i hl
      exact absurd hl (by decide)

variable [Runtime] [Passwords]

/-- **Invitations stay in order in every run**, and an action that admits nobody redeems nothing. -/
theorem Run.invitations_kept {tr : List (Event Portal Place)} {cfg : Config Portal Place (Except Err Reply)} (h : Run tr cfg) :
    Invited cfg.state ∧ (∀ e ∈ tr, Redeemed e.pre e.post ∨ Unredeemed e.pre e.post) ∧
      ∀ e ∈ tr, e.lbl = .createUser → e.post.users = e.pre.users → e.post = e.pre := by
  have hpath := Run.path h
  refine ⟨?_, fun e he => ?_, fun e he hlbl hnone => ?_⟩
  · exact hpath.invariant (C := fun _ => True) (fun _ _ _ heffect _ => heffect.invited) (fun _ _ => trivial)
      invited_empty
  · obtain ⟨_, _, -, -, heffect, -⟩ := hpath.split he
    exact heffect.redeems
  · obtain ⟨_, _, -, -, heffect, -⟩ := hpath.split he
    rw [hlbl] at heffect
    exact heffect.refused hnone

namespace Pilot

/-- The gate is on and one code with a single use is out. -/
def gated : List (Choice Call) :=
  toEnd (.surround
    { now := 1, outage := false, betaGateEnabled := true, smsConfigured := true, mailConfigured := true,
      betaAllowlist := Table.empty, claims := Table.empty }) ++
    toEnd (.createCode { code := some "qift", generated := "", maxUses := some 1, expiresAt := none })

/-- A newcomer with that code. -/
def newcomer (phone username : String) : Call :=
  .register
    { phone := some phone, code := some "123456", channel := none, email := none, betaCode := some "QIFT",
      qiftUsername := some username, password := some "password" }

/-- Two newcomers compete for the last use. -/
def lastUse : List (Choice Call) :=
  gated ++ toEnd (.send { target := some "0501234567", type := .phone, draw := 23456 }) ++
    toEnd (.send { target := some "0501234568", type := .phone, draw := 23456 }) ++
    [.start (newcomer "0501234567" "first"), .start (newcomer "0501234568" "second")] ++
    List.replicate 10 (.run 0) ++ List.replicate 14 (.run 1) ++ List.replicate 4 (.run 0)

end Pilot

omit [Runtime] [Passwords] in
theorem Run.invitations_kept_lastUse :
    Invited (Pilot.played Pilot.lastUse).2.state ∧
      (∀ e ∈ (Pilot.played Pilot.lastUse).1, Redeemed e.pre e.post ∨ Unredeemed e.pre e.post) ∧
      ∀ e ∈ (Pilot.played Pilot.lastUse).1, e.lbl = .createUser → e.post.users = e.pre.users → e.post = e.pre :=
  @Run.invitations_kept plainRuntime Pilot.plainPasswords _ _ (Pilot.run Pilot.lastUse)

end Qift.Portal.Accounts
