import Qift.Lib.Settling
import Qift.Organizations.Service

/-!
# Reviews and seats, whatever the interleaving

* `Effect` — what an action does to the organizations and the seats, by its label; `Run.path` makes every run a path of
  effects.
* `Owned` — every organization has one owner's seat, its creator's, and no owner's seat is ever revoked. No action
  breaks it: what is revoked or taken up again had been read as a seat of another role, and a seat never becomes an
  owner's.
* `Fresh` — the check a call made on the row it had read has the same answer on the row that is stored when it writes.
* **`Run.review_and_seats`** — the seats hold in every run; where the checks still hold, an organization is written only
  by a submission from a submittable status or a decision on a submitted one, and a seat keeps its role while it is
  active.
* `Run.approval_overwritten` — a second submission, checked before the review, takes the approval back.
-/

namespace Qift.Organizations

open Relational Relational.Table Interleaving

/-! ### Effects -/

/-- A stored seat that is not an owner's. -/
def Plain (seatId : Nat) (w : Organizations) : Prop :=
  ∃ s, w.seats.find seatId = some s ∧ s.role ≠ .owner

/-- What an action does to the organizations and the seats. -/
inductive Effect : Step → Organizations → Organizations → Prop
  | quiet (l : Step) {w w' : Organizations} (horganizations : w'.organizations = w.organizations)
      (hseats : w'.seats = w.seats) (hnext : w'.nextId = w.nextId) : Effect l w w'
  | createOrg {w : Organizations} (o : Organization) (s : OrgUser) (t : Table Organization.id) (u : Table OrgUser.id)
      (hid : o.id = w.nextId) (horg : s.orgId = o.id) (huser : s.userId = o.createdBy) (hrole : s.role = .owner)
      (hactive : s.revokedAt = none) (hcreate : w.organizations.create o = some t) (hseat : w.seats.create s = some u) :
      Effect .createOrg w { w with nextId := w.nextId + 2, organizations := t, seats := u }
  | submit {w : Organizations} (orgId : Nat) (found : OrgStatus) (now : Time) (hfound : found ∈ SUBMITTABLE) :
      Effect (.submit orgId found) w
        { w with
          organizations := w.organizations.update orgId
            (fun o => { o with status := .submitted, submittedAt := some now }) fun _ => rfl }
  | review {w : Organizations} (orgId : Nat) (found : OrgStatus) (action : OrgReviewAction)
      (f : Organization → Organization) (hf : ∀ o, (f o).id = o.id) (hfound : found = .submitted)
      (hstatus : ∀ o, (f o).status = action.nextStatus) (hcreator : ∀ o, (f o).createdBy = o.createdBy) :
      Effect (.review orgId found) w { w with organizations := w.organizations.update orgId f hf }
  | seat {w : Organizations} (s : OrgUser) (u : Table OrgUser.id) (hrole : s.role ≠ .owner)
      (hknown : (w.organizations.find s.orgId).isSome) (hcreate : w.seats.create s = some u) :
      Effect .seat w { w with nextId := w.nextId + 1, seats := u }
  | revive {w : Organizations} (seatId : Nat) (found : Option Time) (f : OrgUser → OrgUser) (hf : ∀ s, (f s).id = s.id)
      (hplain : Plain seatId w) (hfound : found ≠ none) (hrole : ∀ s, (f s).role ≠ .owner)
      (horg : ∀ s, (f s).orgId = s.orgId) :
      Effect (.revive seatId found) w { w with seats := w.seats.update seatId f hf }
  | revoke {w : Organizations} (orgId seatId : Nat) (now : Time) (hplain : Plain seatId w) :
      Effect (.revoke seatId) w
        { w with
          seats := w.seats.updateMany (fun s => s.id = seatId && s.orgId = orgId && s.revokedAt = none)
            (fun s => { s with revokedAt := some now }) fun _ => rfl }

section Kept

variable {l : Step} {w w' : Organizations}

/-- A stored seat stays, and one that is not an owner's never becomes one. -/
theorem Plain.step {seatId : Nat} (hact : Effect l w w') (h : Plain seatId w) : Plain seatId w' := by
  obtain ⟨s, hs, hrole⟩ := h
  cases hact with
  | quiet _ _ hseats =>
      refine ⟨s, ?_, hrole⟩
      rw [hseats]
      exact hs
  | createOrg o s' t u _ _ _ _ _ _ hseat => exact ⟨s, find_create_of_find hseat hs, hrole⟩
  | seat s' u _ _ hcreate => exact ⟨s, find_create_of_find hcreate hs, hrole⟩
  | submit | review => exact ⟨s, hs, hrole⟩
  | revive id found f hf _ _ hnew =>
      refine ⟨_, find_updateMany_some hf hs, ?_⟩
      split
      · exact hnew s
      · exact hrole
  | revoke orgId id now =>
      refine ⟨_, find_updateMany_some (fun _ => by rfl) hs, ?_⟩
      split
      · exact hrole
      · exact hrole

/-- Every organization has one owner's seat, its creator's; owners' seats are never revoked. -/
structure Owned (w : Organizations) : Prop where
  issued : ∀ o ∈ w.organizations.rows, o.id < w.nextId
  known : ∀ s ∈ w.seats.rows, s.orgId < w.nextId
  active : ∀ s ∈ w.seats.rows, s.role = .owner → s.revokedAt = none
  owner : ∀ o ∈ w.organizations.rows, ∃ s ∈ w.seats.rows, s.orgId = o.id ∧ s.role = .owner ∧ s.userId = o.createdBy
  unique : ∀ s ∈ w.seats.rows, ∀ s' ∈ w.seats.rows, s.role = .owner → s'.role = .owner → s.orgId = s'.orgId → s = s'

theorem owned_empty : Owned empty where
  issued _ h := absurd h List.not_mem_nil
  known _ h := absurd h List.not_mem_nil
  active _ h := absurd h List.not_mem_nil
  owner _ h := absurd h List.not_mem_nil
  unique _ h := absurd h List.not_mem_nil

theorem Owned.seats {t : Table OrgUser.id} {n : Nat} (h : Owned w) (hn : w.nextId ≤ n)
    (hknown : ∀ s ∈ t.rows, s.orgId < w.nextId) (howners : ∀ s : OrgUser, s.role = .owner → (s ∈ t.rows ↔ s ∈ w.seats.rows)) :
    Owned { w with nextId := n, seats := t } where
  issued o ho := (h.issued o ho).trans_le hn
  known s hs := (hknown s hs).trans_le hn
  active s hs hrole := h.active s ((howners s hrole).mp hs) hrole
  owner o ho := by
    obtain ⟨s, hs, horg, hrole, huser⟩ := h.owner o ho
    exact ⟨s, (howners s hrole).mpr hs, horg, hrole, huser⟩
  unique s hs s' hs' hrole hrole' :=
    h.unique s ((howners s hrole).mp hs) s' ((howners s' hrole').mp hs') hrole hrole'

theorem Owned.organizations {t : Table Organization.id} (h : Owned w)
    (hfrom : ∀ o ∈ t.rows, ∃ o' ∈ w.organizations.rows, o'.id = o.id ∧ o'.createdBy = o.createdBy) :
    Owned { w with organizations := t } where
  issued o ho := by
    obtain ⟨o', ho', hid, -⟩ := hfrom o ho
    rw [← hid]
    exact h.issued o' ho'
  known := h.known
  active := h.active
  owner o ho := by
    obtain ⟨o', ho', hid, hcreator⟩ := hfrom o ho
    rw [← hid, ← hcreator]
    exact h.owner o' ho'
  unique := h.unique

theorem owners_of_plain {seatId : Nat} {p : OrgUser → Bool} {f : OrgUser → OrgUser} {hf : ∀ s, (f s).id = s.id}
    (hplain : Plain seatId w) (hp : ∀ s, p s = true → s.id = seatId) (hrole : ∀ s, s.role ≠ .owner → (f s).role ≠ .owner)
    (s : OrgUser) (hs : s.role = .owner) : s ∈ (w.seats.updateMany p f hf).rows ↔ s ∈ w.seats.rows := by
  obtain ⟨x, hx, hother⟩ := hplain
  have hpicked {y : OrgUser} (hy : y ∈ w.seats.rows) (hpy : p y = true) : y = x := by
    have hfound : w.seats.find y.id = some y := find_of_mem hy
    rw [hp y hpy, hx] at hfound
    cases hfound
    rfl
  constructor
  · intro h
    obtain ⟨y, hy, rfl⟩ := of_mem_updateMany hf h
    by_cases hpy : p y = true
    · rw [if_pos hpy, hpicked hy hpy] at hs
      exact absurd hs (hrole x hother)
    · rw [if_neg hpy]
      exact hy
  · intro h
    have hnot : p s = false := by
      cases hps : p s with
      | false => rfl
      | true =>
          rw [hpicked h hps] at hs
          exact absurd hs hother
    refine List.mem_map.mpr ⟨s, h, ?_⟩
    rw [hnot]
    rfl

theorem Effect.owned (hact : Effect l w w') (h : Owned w) : Owned w' := by
  have hfrom {p : OrgUser → Bool} {f : OrgUser → OrgUser} {hf : ∀ s, (f s).id = s.id} (horg : ∀ s, (f s).orgId = s.orgId) :
      ∀ s ∈ (w.seats.updateMany p f hf).rows, s.orgId < w.nextId := by
    intro s hs
    obtain ⟨y, hy, rfl⟩ := of_mem_updateMany hf hs
    split
    · rw [horg]
      exact h.known y hy
    · exact h.known y hy
  cases hact with
  | quiet _ horganizations hseats hnext =>
      constructor
      · rw [horganizations, hnext]
        exact h.issued
      · rw [hseats, hnext]
        exact h.known
      · rw [hseats]
        exact h.active
      · rw [horganizations, hseats]
        exact h.owner
      · rw [hseats]
        exact h.unique
  | createOrg o s t u hid horg huser hrole hactive hcreate hseat =>
      -- no seat is of the new organization yet
      have hnone {x : OrgUser} (hx : x ∈ w.seats.rows) : x.orgId ≠ s.orgId := by
        rw [horg, hid]
        exact (h.known x hx).ne
      constructor
      · intro x hx
        rcases (mem_create hcreate).mp hx with hx | rfl
        · exact (h.issued x hx).trans (by simp)
        · rw [hid]
          simp
      · intro x hx
        rcases (mem_create hseat).mp hx with hx | rfl
        · exact (h.known x hx).trans (by simp)
        · rw [horg, hid]
          simp
      · intro x hx hx'
        rcases (mem_create hseat).mp hx with hx | rfl
        · exact h.active x hx hx'
        · exact hactive
      · intro x hx
        rcases (mem_create hcreate).mp hx with hx | rfl
        · obtain ⟨y, hy, hrest⟩ := h.owner x hx
          exact ⟨y, (mem_create hseat).mpr (.inl hy), hrest⟩
        · exact ⟨s, (mem_create hseat).mpr (.inr rfl), horg, hrole, huser⟩
      · intro x hx y hy hxrole hyrole hsame
        rcases (mem_create hseat).mp hx with hx | rfl
        · rcases (mem_create hseat).mp hy with hy | rfl
          · exact h.unique x hx y hy hxrole hyrole hsame
          · exact absurd hsame (hnone hx)
        · rcases (mem_create hseat).mp hy with hy | rfl
          · exact absurd hsame.symm (hnone hy)
          · rfl
  | submit orgId found now =>
      refine h.organizations fun o ho => ?_
      obtain ⟨o', ho', rfl⟩ := of_mem_updateMany (fun _ => by rfl) ho
      refine ⟨o', ho', ?_⟩
      split
      · exact ⟨rfl, rfl⟩
      · exact ⟨rfl, rfl⟩
  | review orgId found action f hf _ _ hcreator =>
      refine h.organizations fun o ho => ?_
      obtain ⟨o', ho', rfl⟩ := of_mem_updateMany hf ho
      refine ⟨o', ho', ?_⟩
      split
      · exact ⟨(hf o').symm, (hcreator o').symm⟩
      · exact ⟨rfl, rfl⟩
  | seat s u hrole hknown hcreate =>
      obtain ⟨o, ho⟩ := Option.isSome_iff_exists.mp hknown
      refine h.seats (Nat.le_succ _) (fun x hx => ?_) fun x hx => ?_
      · rcases (mem_create hcreate).mp hx with hx | rfl
        · exact h.known x hx
        · rw [← key_of_find ho]
          exact h.issued o (mem_of_find ho)
      · rw [mem_create hcreate, or_iff_left]
        rintro rfl
        exact hrole hx
  | revive seatId found f hf hplain _ hrole horg =>
      exact h.seats le_rfl (hfrom horg) (owners_of_plain hplain (fun s hs => of_decide_eq_true hs) fun s _ => hrole s)
  | revoke orgId seatId now hplain =>
      refine h.seats le_rfl (hfrom fun _ => rfl) (owners_of_plain hplain (fun s hs => ?_) fun s hs => hs)
      simp only [Bool.and_eq_true, decide_eq_true_eq] at hs
      exact hs.1.1

theorem owned_of_rely (h : Rely Effect empty w) : Owned w :=
  Rely.stable (fun _ _ _ hact hs => hact.owned hs) h owned_empty

end Kept

/-! ### Requests -/

section Requests

variable {w : Organizations}

theorem query_does {α : Type} (f : Organizations → α) : Svc.Does Effect (Svc.query .read f : Service α) :=
  Svc.Does.query (fun _ => .quiet .read rfl rfl rfl) f

theorem write_does {α : Type} {l : Step} {tx : Transaction α} (h : ∀ w a w', tx w = .ok (a, w') → Effect l w w') :
    Svc.Does Effect (Svc.transaction l tx) :=
  Svc.Does.transaction h fun _ _ _ => .quiet l rfl rfl rfl

theorem modify_does {l : Step} {f : Organizations → Organizations} (horganizations : ∀ w, (f w).organizations = w.organizations)
    (hseats : ∀ w, (f w).seats = w.seats) (hnext : ∀ w, (f w).nextId = w.nextId) :
    Svc.Does Effect (Svc.transaction l (Tx.modify f) : Service Unit) := by
  refine write_does fun w a w' h => ?_
  rw [Tx.modify_eq_ok] at h
  subst h
  exact .quiet l (horganizations w) (hseats w) (hnext w)

theorem record_does (r : AuditRecord) : Svc.Does Effect (record r) :=
  modify_does (fun _ => rfl) (fun _ => rfl) fun _ => rfl

theorem trigger_does (n : Notification) : Svc.Does Effect (trigger n) :=
  modify_does (fun _ => rfl) (fun _ => rfl) fun _ => rfl

theorem createOrg_does (creatorUserId : String) (body : CreateOrgInput) :
    Svc.Does Effect (createOrg creatorUserId body) := by
  unfold createOrg
  split
  · exact Svc.Does.fail _
  · split
    · exact Svc.Does.fail _
    · refine Svc.Does.bind (write_does fun w a w' h => ?_) fun org =>
        Svc.Does.bind (record_does _) fun _ => Svc.Does.pure _
      obtain ⟨now, w₁, hnow, h⟩ := Tx.bind_eq_ok.mp h
      obtain ⟨-, rfl⟩ := Tx.read_eq_ok.mp hnow
      obtain ⟨id, w₂, hfresh, h⟩ := Tx.bind_eq_ok.mp h
      cases hfresh
      obtain ⟨created, w₃, hcreate, h⟩ := Tx.bind_eq_ok.mp h
      obtain ⟨t, ht, -, rfl, rfl⟩ := Delegate.create_eq_ok.mp hcreate
      obtain ⟨seatId, w₄, hfresh, h⟩ := Tx.bind_eq_ok.mp h
      cases hfresh
      obtain ⟨seat, w₅, hseat, h⟩ := Tx.bind_eq_ok.mp h
      obtain ⟨u, hu, -, rfl, rfl⟩ := Delegate.create_eq_ok.mp hseat
      obtain ⟨rfl, rfl⟩ := Tx.pure_eq_ok.mp h
      exact .createOrg _ _ t u rfl rfl rfl rfl rfl ht hu

theorem updateOrg_does {l : Step} {orgId : Nat} {f : Time → Organization → Organization}
    {hf : ∀ now o, (f now o).id = o.id}
    (h : ∀ w now, Effect l w { w with organizations := w.organizations.update orgId (f now) (hf now) }) :
    Svc.Does Effect (Svc.transaction l (updateOrg orgId f hf)) := by
  refine write_does fun w a w' htx => ?_
  obtain ⟨now, w₁, hnow, htx⟩ := Tx.bind_eq_ok.mp htx
  obtain ⟨-, rfl⟩ := Tx.read_eq_ok.mp hnow
  obtain ⟨o, -, -, rfl⟩ := Delegate.update_eq_ok.mp htx
  exact h w now

theorem submitOrg_does (actorUserId : String) (orgId : Nat) : Svc.Does Effect (submitOrg actorUserId orgId) := by
  refine Svc.Does.bind (query_does _) fun org => ?_
  cases org with
  | none => exact Svc.Does.fail _
  | some org =>
      refine Svc.Does.guard fun hsubmittable => Svc.Does.guard fun _ => ?_
      refine Svc.Does.bind (updateOrg_does fun w now => .submit orgId org.status now hsubmittable) fun updated => ?_
      exact Svc.Does.bind (record_does _) fun _ => Svc.Does.pure _

theorem tellOwner_does (orgId : Nat) (action : OrgReviewAction) (body : Option String) :
    Svc.Does Effect (tellOwner orgId action body) := by
  refine Svc.Does.bind (query_does _) fun owner => ?_
  cases owner with
  | none => exact Svc.Does.pure _
  | some owner => exact trigger_does _

theorem reviewOrg_does (adminUserId : String) (orgId : Nat) (action : String) (reason : Option String) :
    Svc.Does Effect (reviewOrg adminUserId orgId action reason) := by
  unfold reviewOrg
  split
  · exact Svc.Does.fail _
  · rename_i action _
    refine Svc.Does.guard fun _ => Svc.Does.bind (query_does _) fun org => ?_
    cases org with
    | none => exact Svc.Does.fail _
    | some org =>
        refine Svc.Does.guard fun hsubmitted => ?_
        refine Svc.Does.bind (updateOrg_does fun w now => ?_) fun updated => ?_
        · exact .review orgId org.status action _ (fun _ => by rfl) hsubmitted (fun _ => by rfl) fun _ => by rfl
        · refine Svc.Does.bind (record_does _) fun _ => Svc.Does.bind (tellOwner_does _ _ _) fun _ => Svc.Does.pure _

/-! #### Seats -/

/-- A call, whatever the others do. -/
abbrev Acts {α : Type} (x : Service α) (w : Organizations) : Prop :=
  x.Ensures (Rely Effect) Effect (fun _ _ => True) w

theorem acts_of_does {α : Type} {x : Service α} (h : Svc.Does Effect x) (w : Organizations) : Acts x w :=
  Svc.Ensures.mono (fun _ _ _ => trivial)
    (Svc.Does.ensures (fun _ _ _ hact => hact) (P := fun _ => True) h (fun _ _ _ _ => trivial) trivial)

theorem plain_stable {seatId : Nat} {w w' : Organizations} (h : Plain seatId w) (hlater : Rely Effect w w') :
    Plain seatId w' :=
  hlater.stable (fun _ _ _ hact hs => Plain.step hact hs) h

theorem plain_of_revoked (hw : Owned w) {s : OrgUser} (hs : s ∈ w.seats.rows) (hrevoked : s.revokedAt ≠ none) :
    Plain s.id w :=
  ⟨s, find_of_mem hs, fun hrole => hrevoked (hw.active s hs hrole)⟩

theorem grantable_ne_owner {text : String} {role : SeatRole} (h : grantable? text = some role) : role ≠ .owner := by
  unfold grantable? at h
  split at h <;> cases h <;> decide

theorem seat_does {actorUserId : String} {orgId : Nat} {userId : String} {role : SeatRole} (hrole : role ≠ .owner) :
    Svc.Does Effect (Svc.transaction .seat (seatTx actorUserId orgId userId role)) := by
  refine write_does fun w a w' h => ?_
  obtain ⟨known, w₁, hread, h⟩ := Tx.bind_eq_ok.mp h
  obtain ⟨hknown, rfl⟩ := Tx.read_eq_ok.mp hread
  obtain ⟨_, w₂, hensure, h⟩ := Tx.bind_eq_ok.mp h
  obtain ⟨htrue, rfl⟩ := Tx.ensure_eq_ok.mp hensure
  obtain ⟨now, w₃, hnow, h⟩ := Tx.bind_eq_ok.mp h
  obtain ⟨-, rfl⟩ := Tx.read_eq_ok.mp hnow
  obtain ⟨id, w₄, hfresh, h⟩ := Tx.bind_eq_ok.mp h
  cases hfresh
  obtain ⟨u, hu, -, -, rfl⟩ := Delegate.create_eq_ok.mp h
  rw [htrue] at hknown
  exact .seat { id := w.nextId, orgId := orgId, userId := userId, role := role, invitedBy := some actorUserId,
                acceptedAt := some _, revokedAt := none, createdAt := _ } u hrole hknown hu

theorem revive_acts {actorUserId : String} {existing : OrgUser} {role : SeatRole} (hrole : role ≠ .owner)
    (hrevoked : existing.revokedAt ≠ none) (hplain : Plain existing.id w) :
    Acts (Svc.transaction (.revive existing.id existing.revokedAt) (reviveTx actorUserId existing.id role)) w := by
  refine Svc.Ensures.transaction (fun t _ => .quiet _ rfl rfl rfl) fun t a u hlater htx => ⟨?_, trivial⟩
  obtain ⟨now, w₁, hnow, htx⟩ := Tx.bind_eq_ok.mp htx
  obtain ⟨-, rfl⟩ := Tx.read_eq_ok.mp hnow
  obtain ⟨s, -, -, rfl⟩ := Delegate.update_eq_ok.mp htx
  exact .revive existing.id existing.revokedAt _ (fun _ => by rfl) (plain_stable hplain hlater) hrevoked
    (fun _ => by exact hrole) fun _ => by rfl

theorem addMember_acts (actorUserId : String) (orgId : Nat) (qiftUsername role : Option String) (hw : Owned w) :
    Acts (addMember actorUserId orgId qiftUsername role) w := by
  unfold addMember
  split
  · exact Svc.Ensures.fail
  rename_i role hgrant
  have hrole : role ≠ .owner := by
    obtain ⟨text, -, htext⟩ := Option.bind_eq_some_iff.mp hgrant
    exact grantable_ne_owner htext
  split
  · exact Svc.Ensures.fail
  refine Svc.Ensures.bind (P := fun _ => Owned)
    (Svc.Ensures.query (fun _ _ => .quiet .read rfl rfl rfl) fun t hlater => ?_) fun user t ht => ?_
  · exact hlater.stable (fun _ _ _ hact hs => hact.owned hs) hw
  cases user with
  | none => exact Svc.Ensures.fail
  | some user =>
      -- a seat that is found revoked is not an owner's, now and later
      refine Svc.Ensures.bind
        (P := fun (found : Option OrgUser) u => ∀ s, found = some s → s.revokedAt ≠ none → Plain s.id u)
        (Svc.Ensures.query (fun _ _ => .quiet .read rfl rfl rfl) fun u hlater s hs hrevoked => ?_)
        fun existing u hplain => ?_
      · have hu : Owned u := hlater.stable (fun _ _ _ hact hs => hact.owned hs) ht
        exact plain_of_revoked hu (List.mem_of_find?_eq_some hs) hrevoked
      · refine Svc.Ensures.bind (P := fun _ v => v = u ∧ existing.all (fun s => s.revokedAt ≠ none) = true)
          (Svc.Ensures.ensure fun hall => ⟨rfl, hall⟩) fun _ v ⟨hv, hall⟩ => ?_
        subst hv
        refine Svc.Ensures.bind (P := fun _ _ => True) ?_ fun seat v _ =>
          acts_of_does (Svc.Does.bind (record_does _) fun _ => Svc.Does.pure _) v
        cases existing with
        | none => exact acts_of_does (seat_does hrole) _
        | some existing =>
            have hrevoked : existing.revokedAt ≠ none := by simpa using hall
            exact revive_acts hrole hrevoked (hplain existing rfl hrevoked)

theorem revokeMember_acts (actorUserId : String) (orgId seatId : Nat) (w : Organizations) :
    Acts (revokeMember actorUserId orgId seatId) w := by
  refine Svc.Ensures.bind
    (P := fun (found : Option OrgUser) t => ∀ s, found = some s → s.role ≠ .owner → Plain seatId t)
    (Svc.Ensures.query (fun _ _ => .quiet .read rfl rfl rfl) fun t _ s hs hrole => ?_) fun seat t hplain => ?_
  · exact ⟨s, (Option.filter_eq_some_iff.mp hs).1, hrole⟩
  cases seat with
  | none => exact Svc.Ensures.fail
  | some seat =>
      refine Svc.Ensures.bind (P := fun _ u => u = t) (Svc.Ensures.ensure fun _ => rfl) fun _ u hu => ?_
      subst hu
      refine Svc.Ensures.bind (P := fun _ v => Plain seatId v)
        (Svc.Ensures.ensure fun hrole => hplain seat rfl hrole) fun _ v hv => ?_
      refine Svc.Ensures.bind (P := fun _ _ => True)
        (Svc.Ensures.transaction (fun _ _ => .quiet _ rfl rfl rfl) fun t a u hlater htx => ⟨?_, trivial⟩)
        fun count x _ => acts_of_does (Svc.Does.bind (Svc.Does.ensure _ _) fun _ => record_does _) x
      obtain ⟨now, w₁, hnow, htx⟩ := Tx.bind_eq_ok.mp htx
      obtain ⟨-, rfl⟩ := Tx.read_eq_ok.mp hnow
      obtain ⟨-, rfl⟩ := Delegate.updateMany_eq_ok.mp htx
      exact .revoke orgId seatId _ (plain_stable hv hlater)

theorem program_acts (c : Call) (hw : Owned w) : Acts (program c) w := by
  have hmap {α : Type} {x : Service α} {f : α → Reply} (hx : Acts x w) : Acts (f <$> x) w :=
    Svc.Ensures.bind hx fun _ _ _ => Svc.Ensures.pure trivial
  cases c with
  | tick elapsed => exact hmap (acts_of_does (modify_does (fun _ => by rfl) (fun _ => by rfl) fun _ => by rfl) w)
  | accounts users => exact hmap (acts_of_does (modify_does (fun _ => by rfl) (fun _ => by rfl) fun _ => by rfl) w)
  | createOrg creatorUserId body => exact hmap (acts_of_does (createOrg_does creatorUserId body) w)
  | submitOrg actorUserId orgId => exact hmap (acts_of_does (submitOrg_does actorUserId orgId) w)
  | reviewOrg adminUserId orgId action reason => exact hmap (acts_of_does (reviewOrg_does adminUserId orgId action reason) w)
  | addMember actorUserId orgId qiftUsername role => exact hmap (addMember_acts actorUserId orgId qiftUsername role hw)
  | revokeMember actorUserId orgId seatId => exact hmap (revokeMember_acts actorUserId orgId seatId w)

end Requests

theorem Run.path {tr : List (Event Organizations Step)} {cfg : Config Organizations Step (Except Err Reply)}
    (h : Run tr cfg) : Path Effect empty tr cfg.state :=
  (Exec.path (Q := fun _ _ => True) (fun _ _ _ _ _ => trivial)
    (fun c _ hs => (program_acts c (owned_of_rely hs)).meets) h).1

/-! ### The claim -/

/-- A change of an organization is a submission from a submittable status, or a decision on a submitted one. -/
def Lawful (e : Event Organizations Step) : Prop :=
  ∀ k o o', e.pre.organizations.find k = some o → e.post.organizations.find k = some o' →
    o' = o ∨ (o.status ∈ SUBMITTABLE ∧ o'.status = .submitted) ∨
      (o.status = .submitted ∧ o'.status ∈ [OrgStatus.approved, .rejected, .changes_requested])

/-- A seat that is active before and after has the same role. -/
def RolesKept (e : Event Organizations Step) : Prop :=
  ∀ k s s', e.pre.seats.find k = some s → e.post.seats.find k = some s' → s.revokedAt = none → s'.revokedAt = none →
    s'.role = s.role

/-- The one active owner's seat of every organization is its creator's. -/
def OneOwner (w : Organizations) : Prop :=
  ∀ o ∈ w.organizations.rows, ∃ s,
    (w.seats.rows.filter fun s => s.orgId = o.id ∧ s.role = .owner ∧ s.revokedAt = none) = [s] ∧ s.userId = o.createdBy

/-- The check that the call had made answers as it did. -/
def Fresh (e : Event Organizations Step) : Prop :=
  match e.lbl with
  | .submit orgId found => ∀ o ∈ e.pre.organizations.find orgId, (o.status ∈ SUBMITTABLE ↔ found ∈ SUBMITTABLE)
  | .review orgId found => ∀ o ∈ e.pre.organizations.find orgId, (o.status = .submitted ↔ found = .submitted)
  | .revive seatId found => ∀ s ∈ e.pre.seats.find seatId, (s.revokedAt = none ↔ found = none)
  | _ => True

instance (e : Event Organizations Step) : Decidable (Fresh e) := by
  unfold Fresh
  split <;> infer_instance

theorem Owned.oneOwner {w : Organizations} (h : Owned w) : OneOwner w := by
  intro o ho
  obtain ⟨s, hs, horg, hrole, huser⟩ := h.owner o ho
  refine ⟨s, filter_eq_singleton hs ?_ fun x hx hmatch => ?_, huser⟩
  · exact decide_eq_true ⟨horg, hrole, h.active s hs hrole⟩
  · obtain ⟨hxorg, hxrole, -⟩ := of_decide_eq_true hmatch
    exact h.unique x hx s hs hxrole hrole (hxorg.trans horg.symm)

section Claim

variable {l : Step} {w w' : Organizations}

theorem Effect.lawful (hact : Effect l w w') (hfresh : Fresh ⟨w, l, w'⟩) : Lawful ⟨w, l, w'⟩ := by
  intro k o o' ho ho'
  have hsame (horganizations : w'.organizations = w.organizations) : o' = o := by
    rw [horganizations, ho] at ho'
    exact (Option.some.inj ho').symm
  have hcreated {x : Organization} {t : Table Organization.id} (hcreate : w.organizations.create x = some t)
      (ht : t.find k = some o') : o' = o := by
    rw [find_create_of_find hcreate ho] at ht
    exact (Option.some.inj ht).symm
  cases hact with
  | quiet _ horganizations => exact .inl (hsame horganizations)
  | createOrg x s t u _ _ _ _ _ hcreate => exact .inl (hcreated hcreate ho')
  | submit orgId found now hfound =>
      simp only [find_update] at ho'
      split at ho'
      next hk =>
        subst hk
        have hcheck : o.status ∈ SUBMITTABLE ↔ found ∈ SUBMITTABLE := hfresh o ho
        rw [ho] at ho'
        cases ho'
        exact .inr (.inl ⟨hcheck.mpr hfound, rfl⟩)
      next =>
        rw [ho] at ho'
        exact .inl (Option.some.inj ho').symm
  | review orgId found action f hf hfound hstatus =>
      simp only [find_update] at ho'
      split at ho'
      next hk =>
        subst hk
        have hcheck : o.status = .submitted ↔ found = .submitted := hfresh o ho
        rw [ho] at ho'
        cases ho'
        refine .inr (.inr ⟨hcheck.mpr hfound, ?_⟩)
        rw [hstatus]
        cases action <;> decide
      next =>
        rw [ho] at ho'
        exact .inl (Option.some.inj ho').symm
  | seat | revive | revoke => exact .inl (hsame rfl)

theorem Effect.rolesKept (hact : Effect l w w') (hfresh : Fresh ⟨w, l, w'⟩) : RolesKept ⟨w, l, w'⟩ := by
  intro k s s' hs hs' hactive hactive'
  have hsame (hseats : w'.seats = w.seats) : s'.role = s.role := by
    rw [hseats, hs] at hs'
    cases hs'
    rfl
  have hcreated {x : OrgUser} {u : Table OrgUser.id} (hcreate : w.seats.create x = some u) (hu : u.find k = some s') :
      s'.role = s.role := by
    rw [find_create_of_find hcreate hs] at hu
    cases hu
    rfl
  cases hact with
  | quiet _ _ hseats => exact hsame hseats
  | createOrg x y t u _ _ _ _ _ _ hseat => exact hcreated hseat hs'
  | seat x u _ _ hcreate => exact hcreated hcreate hs'
  | submit | review => exact hsame rfl
  | revive seatId found f hf _ hfound =>
      simp only [find_update] at hs'
      split at hs'
      next hk =>
        -- the seat that is taken up again was revoked when it was read, and still is
        subst hk
        have hcheck : s.revokedAt = none ↔ found = none := hfresh s hs
        exact absurd (hcheck.mp hactive) hfound
      next =>
        rw [hs] at hs'
        cases hs'
        rfl
  | revoke orgId seatId now =>
      simp only [find_updateMany, hs, Option.map_some, Option.some.injEq] at hs'
      subst hs'
      split
      · rfl
      · rfl

end Claim

/-- **Reviews and seats, whatever the interleaving**: each organization has one active owner's seat, its creator's; where
the checks still hold at the writes, it is written only by a submission from a submittable status or a decision on a
submitted one, and no seat changes its role while it is active. -/
theorem Run.review_and_seats {tr : List (Event Organizations Step)}
    {cfg : Config Organizations Step (Except Err Reply)} (h : Run tr cfg) :
    OneOwner cfg.state ∧ ((∀ e ∈ tr, Fresh e) → ∀ e ∈ tr, Lawful e ∧ RolesKept e) := by
  have hpath := Run.path h
  refine ⟨(owned_of_rely hpath.rely).oneOwner, fun hfresh e he => ?_⟩
  obtain ⟨_, _, -, -, hact, -⟩ := hpath.split he
  exact ⟨Effect.lawful hact (hfresh e he), Effect.rolesKept hact (hfresh e he)⟩

namespace Pilot

/-- Follow a schedule from the empty database. -/
def played (schedule : List (Choice Call)) :
    List (Event Organizations Step) × Config Organizations Step (Except Err Reply) :=
  Config.play program ⟨empty, []⟩ schedule

theorem run (schedule : List (Choice Call)) : Run (played schedule).1 (played schedule).2 := by
  have hinit : Run [] ⟨empty, []⟩ := Exec.init
  simpa [played] using hinit.play schedule

/-- Start a call and let it end. -/
def toEnd (c : Call) : List (Choice Call) := .start c :: List.replicate 8 (.run 0)

/-- Huda drafts an organization; Omar and Noor have accounts. -/
def drafted : List (Choice Call) :=
  toEnd (.accounts [⟨"omar", "omar", none⟩, ⟨"noor", "noor", none⟩]) ++
    toEnd (.createOrg "huda" { legalName := some "Qift Trading", displayName := some "Qift", crNumber := some "1010" })

/-- It is submitted and approved, and Omar is seated, revoked and seated again. -/
def reviewed : List (Choice Call) :=
  drafted ++ toEnd (.submitOrg "huda" 0) ++ toEnd (.reviewOrg "admin" 0 "approve" none) ++
    toEnd (.addMember "huda" 0 (some "@omar") (some "admin")) ++ toEnd (.revokeMember "huda" 0 2) ++
    toEnd (.addMember "huda" 0 (some "omar") (some "viewer"))

/-- A submission reads the draft and writes after another one has been approved. -/
def crossed : List (Choice Call) :=
  drafted ++ [.start (.submitOrg "huda" 0), .run 0] ++ toEnd (.submitOrg "huda" 0) ++
    toEnd (.reviewOrg "admin" 0 "approve" none) ++ [.run 2]

end Pilot

theorem Run.review_and_seats_reviewed :
    OneOwner (Pilot.played Pilot.reviewed).2.state ∧
      ∀ e ∈ (Pilot.played Pilot.reviewed).1, Lawful e ∧ RolesKept e :=
  have h := Run.review_and_seats (Pilot.run Pilot.reviewed)
  ⟨h.1, h.2 (by decide +kernel)⟩

/-- **An approval is overwritten** by a submission that had read the draft. -/
theorem Run.approval_overwritten : ∃ tr cfg, Run tr cfg ∧
    (tr.any fun e => (e.pre.organizations.find 0).any (fun o => o.status = .approved) &&
      (e.post.organizations.find 0).any fun o => o.status = .submitted) = true ∧ ¬ ∀ e ∈ tr, Lawful e := by
  have hcrossed : ((Pilot.played Pilot.crossed).1.any fun e =>
      (e.pre.organizations.find 0).any (fun o => o.status = .approved) &&
        (e.post.organizations.find 0).any fun o => o.status = .submitted) = true := by
    decide +kernel
  refine ⟨_, _, Pilot.run Pilot.crossed, hcrossed, fun hlawful => ?_⟩
  obtain ⟨e, he, hmoved⟩ := List.any_eq_true.mp hcrossed
  simp only [Bool.and_eq_true, Option.any_eq_true, decide_eq_true_eq] at hmoved
  obtain ⟨⟨o, ho, hbefore⟩, o', ho', hafter⟩ := hmoved
  rcases hlawful e he 0 o o' ho ho' with hsame | ⟨hsubmittable, -⟩ | ⟨hsubmitted, -⟩
  · rw [hsame, hbefore] at hafter
    cases hafter
  · rw [hbefore] at hsubmittable
    revert hsubmittable
    decide
  · rw [hbefore] at hsubmitted
    cases hsubmitted

end Qift.Organizations
