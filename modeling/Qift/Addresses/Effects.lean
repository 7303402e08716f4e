import Qift.Addresses.Service
import Qift.Lib.Settling

/-!
# What the requests on addresses do

* `cleared` — a user's addresses without their default flags, and what it leaves of the counts of each user.
* `Effect` — what an action does to the addresses and the attempts, by its label. A write of an address concerns the
  user whose address it is; a resolution concerns attempts that are stored with the sender its call had read.
* `vow` — what a call still owes after a write that gives its user a default and calls for the senders: by its end
  every attempt that was stored is resolved.
* `program_redeems` — each request acts by effects and redeems its vows; `Run.path` makes every run a path of effects.
-/

namespace Qift.Addresses

open Relational Relational.Table Interleaving

/-! ### Flags -/

theorem unflagged_id (a : Address) : ({ a with isDefault := false } : Address).id = a.id := rfl

/-- The addresses after the user's defaults have lost their flag. -/
def cleared (t : Table Address.id) (userId : String) : Table Address.id :=
  t.updateMany (Address.defaultOf userId) (fun a => { a with isDefault := false }) unflagged_id

theorem count_cleared_default (t : Table Address.id) (userId other : String) :
    (cleared t userId).count (Address.defaultOf other) =
      if other = userId then 0 else t.count (Address.defaultOf other) := by
  rw [cleared, count_updateMany]
  split
  next heq =>
    subst heq
    refine List.countP_eq_zero.mpr fun a _ => ?_
    by_cases hdefault : a.defaultOf other = true
    · rw [if_pos hdefault]
      simp [Address.defaultOf]
    · rwa [if_neg hdefault]
  next hne =>
    refine List.countP_congr fun a _ => ?_
    by_cases hdefault : a.defaultOf userId = true
    · rw [if_pos hdefault]
      simp only [Address.defaultOf, Bool.and_eq_true, decide_eq_true_eq] at hdefault
      have hother : userId ≠ other := fun h => hne h.symm
      simp [Address.defaultOf, hdefault.1, hother]
    · rw [if_neg hdefault]

theorem count_cleared_owned (t : Table Address.id) (userId other : String) :
    (cleared t userId).count (Address.ownedBy other) = t.count (Address.ownedBy other) := by
  rw [cleared, count_updateMany]
  refine List.countP_congr fun a _ => ?_
  split <;> simp [Address.ownedBy]

theorem find_cleared (t : Table Address.id) (userId : String) (k : Nat) :
    (cleared t userId).find k =
      (t.find k).map fun a => if a.defaultOf userId then { a with isDefault := false } else a := find_updateMany t k

/-! ### Effects -/

/-- A write of an address that finds no row. -/
def Step.Lost (l : Step) (w : Addresses) : Prop :=
  match l with
  | .update _ addressId _ _ _ | .setDefault _ addressId _ | .remove _ addressId _ => w.addresses.find addressId = none
  | .create _ _ _ | .resolve _ _ => False
  | _ => True

/-- An identifier that was handed out, and belongs to the user while it is stored. -/
structure Owned (userId : String) (addressId : Nat) (w : Addresses) : Prop where
  known : addressId < w.nextId
  owner : ∀ a, w.addresses.find addressId = some a → a.userId = userId

/-- The attempts are stored with their receiver and their senders. -/
def Recorded (receiverId : String) (waiting : List Waiting) (w : Addresses) : Prop :=
  ∀ a ∈ waiting, ∃ x, w.attempts.find a.1 = some x ∧ x.receiverId = receiverId ∧ x.senderId = a.2

/-- An address before its write takes its flag. -/
def base (w : Addresses) (userId : String) (clears : Bool) : Table Address.id :=
  if clears then cleared w.addresses userId else w.addresses

/-- What an action does to the addresses and the attempts. -/
inductive Effect : Step → Addresses → Addresses → Prop
  | quiet (l : Step) {w w' : Addresses} (hl : l.Lost w) (haddresses : w'.addresses = w.addresses)
      (hattempts : w'.attempts = w.attempts) (hnext : w'.nextId = w.nextId) : Effect l w w'
  | create {w : Addresses} (a : Address) (had : Bool) (t : Table Address.id) (hid : a.id = w.nextId)
      (hcreate : (base w a.userId a.isDefault).create a = some t) :
      Effect (.create a.userId a.isDefault had) w { w with nextId := w.nextId + 1, addresses := t }
  | update {w : Addresses} (userId : String) (addressId : Nat) (found wants had : Bool) (fields : AddressPayload)
      (howned : Owned userId addressId w) (hstored : (w.addresses.find addressId).isSome) :
      Effect (.update userId addressId found wants had) w
        { w with
          addresses := (base w userId (wants && !found)).update addressId
            (fun a => { a with fields := fields, isDefault := if wants then true else found }) fun _ => rfl }
  | setDefault {w : Addresses} (userId : String) (addressId : Nat) (had : Bool) (howned : Owned userId addressId w)
      (hstored : (w.addresses.find addressId).isSome) :
      Effect (.setDefault userId addressId had) w
        { w with
          addresses := (cleared w.addresses userId).update addressId (fun a => { a with isDefault := true })
            fun _ => rfl }
  | remove {w : Addresses} (userId : String) (addressId : Nat) (howned : Owned userId addressId w)
      (hstored : (w.addresses.find addressId).isSome) :
      Effect (.remove userId addressId false) w { w with addresses := w.addresses.erase addressId }
  | promote {w : Addresses} (userId : String) (addressId : Nat) (howned : Owned userId addressId w)
      (hstored : (w.addresses.find addressId).isSome) (t : Table Address.id)
      (hnone : newestOf userId (w.addresses.erase addressId) = none → t = w.addresses.erase addressId)
      (hsome : ∀ next, newestOf userId (w.addresses.erase addressId) = some next →
        t = (w.addresses.erase addressId).update next.id (fun a => { a with isDefault := true }) fun _ => rfl) :
      Effect (.remove userId addressId true) w { w with addresses := t }
  | attempt {w : Addresses} (x : GiftAttempt) (t : Table GiftAttempt.id) (hid : x.id = w.nextId)
      (hopen : x.resolvedAt = none) (hcreate : w.attempts.create x = some t) :
      Effect (.attempt x.receiverId) w { w with nextId := w.nextId + 1, attempts := t }
  | resolve {w : Addresses} (receiverId : String) (waiting : List Waiting) (now : Time)
      (hrecorded : Recorded receiverId waiting w) :
      Effect (.resolve receiverId waiting) w
        { w with
          attempts := w.attempts.updateMany (fun a => decide (a.id ∈ waiting.map Prod.fst))
            (fun a => { a with notifiedAt := some now, resolvedAt := some now }) fun _ => rfl }

/-- A query. -/
theorem Effect.read (w : Addresses) : Effect .read w w := .quiet .read trivial rfl rfl rfl

/-! ### What every action keeps -/

/-- Every identifier that is stored was handed out. -/
structure Issued (w : Addresses) : Prop where
  addresses : ∀ a ∈ w.addresses.rows, a.id < w.nextId
  attempts : ∀ x ∈ w.attempts.rows, x.id < w.nextId

theorem issued_empty : Issued empty := ⟨fun _ h => (by cases h), fun _ h => (by cases h)⟩

theorem id_of_mem_cleared {t : Table Address.id} {userId : String} {x : Address} (h : x ∈ (cleared t userId).rows) :
    ∃ a ∈ t.rows, a.id = x.id := by
  unfold cleared at h
  exact key_of_mem_updateMany _ h

theorem id_of_mem_base {w : Addresses} {userId : String} {clears : Bool} {x : Address}
    (h : x ∈ (base w userId clears).rows) : ∃ a ∈ w.addresses.rows, a.id = x.id := by
  cases clears with
  | false => exact ⟨x, h, rfl⟩
  | true => exact id_of_mem_cleared h

theorem Effect.issued {l : Step} {w w' : Addresses} (h : Effect l w w') (hw : Issued w) : Issued w' := by
  have hkept {t : Table Address.id} (ht : ∀ x ∈ t.rows, ∃ a ∈ w.addresses.rows, a.id = x.id) :
      ∀ x ∈ t.rows, x.id < w.nextId := by
    intro x hx
    obtain ⟨a, ha, hid⟩ := ht x hx
    rw [← hid]
    exact hw.addresses a ha
  cases h with
  | quiet _ _ haddresses hattempts hnext =>
      constructor
      · rw [haddresses, hnext]
        exact hw.addresses
      · rw [hattempts, hnext]
        exact hw.attempts
  | create a had t hid hcreate =>
      refine ⟨fun x hx => ?_, fun x hx => (hw.attempts x hx).trans (Nat.lt_succ_self _)⟩
      rcases (mem_create hcreate).mp hx with hx | rfl
      · exact (hkept (fun x hx => id_of_mem_base hx) x hx).trans (Nat.lt_succ_self _)
      · rw [hid]
        exact Nat.lt_succ_self _
  | update userId addressId found wants had fields =>
      refine ⟨hkept fun x hx => ?_, hw.attempts⟩
      obtain ⟨a, ha, hid⟩ := key_of_mem_update (fun _ => by rfl) hx
      obtain ⟨b, hb, hid'⟩ := id_of_mem_base ha
      exact ⟨b, hb, hid'.trans hid⟩
  | setDefault userId addressId had =>
      refine ⟨hkept fun x hx => ?_, hw.attempts⟩
      obtain ⟨a, ha, hid⟩ := key_of_mem_update (fun _ => by rfl) hx
      obtain ⟨b, hb, hid'⟩ := id_of_mem_cleared ha
      exact ⟨b, hb, hid'.trans hid⟩
  | remove userId addressId => exact ⟨hkept fun x hx => ⟨x, (mem_erase.mp hx).1, rfl⟩, hw.attempts⟩
  | promote userId addressId howned hstored t hnone hsome =>
      refine ⟨hkept fun x hx => ?_, hw.attempts⟩
      cases hnext : newestOf userId (w.addresses.erase addressId) with
      | none =>
          rw [hnone hnext] at hx
          exact ⟨x, (mem_erase.mp hx).1, rfl⟩
      | some next =>
          rw [hsome next hnext] at hx
          obtain ⟨a, ha, hid⟩ := key_of_mem_update (fun _ => by rfl) hx
          exact ⟨a, (mem_erase.mp ha).1, hid⟩
  | attempt x t hid hopen hcreate =>
      refine ⟨fun a ha => (hw.addresses a ha).trans (Nat.lt_succ_self _), fun y hy => ?_⟩
      rcases (mem_create hcreate).mp hy with hy | rfl
      · exact (hw.attempts y hy).trans (Nat.lt_succ_self _)
      · rw [hid]
        exact Nat.lt_succ_self _
  | resolve receiverId waiting now =>
      refine ⟨hw.addresses, fun y hy => ?_⟩
      obtain ⟨x, hx, rfl⟩ := of_mem_updateMany (fun _ => by rfl) hy
      have hx := hw.attempts x hx
      split
      · exact hx
      · exact hx

theorem issued_of_rely {w : Addresses} (h : Rely Effect empty w) : Issued w :=
  Rely.stable (fun _ _ _ hact hs => hact.issued hs) h issued_empty

/-- Where a stored address comes from: it is new, or it was stored, and its owner's. -/
theorem Effect.address_from {l : Step} {w w' : Addresses} (h : Effect l w w') {k : Nat} {a' : Address}
    (ha' : w'.addresses.find k = some a') :
    k = w.nextId ∨ ∃ a, w.addresses.find k = some a ∧ a.userId = a'.userId := by
  have hbase {userId : String} {clears : Bool} {a : Address} (ha : (base w userId clears).find k = some a) :
      ∃ b, w.addresses.find k = some b ∧ b.userId = a.userId := by
    cases clears with
    | false => exact ⟨a, ha, rfl⟩
    | true =>
        have ha : (cleared w.addresses userId).find k = some a := ha
        rw [find_cleared] at ha
        obtain ⟨b, hb, rfl⟩ := Option.map_eq_some_iff.mp ha
        refine ⟨b, hb, ?_⟩
        split <;> rfl
  have hupdate {t : Table Address.id} {k' : Nat} {f : Address → Address} (hf : ∀ a, (f a).id = a.id)
      (ha : (t.update k' f hf).find k = some a') (hkeep : ∀ a, (f a).userId = a.userId) :
      ∃ b, t.find k = some b ∧ b.userId = a'.userId := by
    rw [find_update] at ha
    split at ha
    · obtain ⟨b, hb, rfl⟩ := Option.map_eq_some_iff.mp ha
      exact ⟨b, hb, (hkeep b).symm⟩
    · exact ⟨a', ha, rfl⟩
  have herase {k' : Nat} {b : Address} (hb : (w.addresses.erase k').find k = some b) :
      w.addresses.find k = some b := by
    rw [find_erase] at hb
    split at hb
    · cases hb
    · exact hb
  cases h with
  | quiet _ _ haddresses =>
      rw [haddresses] at ha'
      exact .inr ⟨a', ha', rfl⟩
  | create a had t hid hcreate =>
      rw [find_create hcreate] at ha'
      split at ha'
      next heq => exact .inl (heq.symm.trans hid)
      next => exact .inr (hbase ha')
  | update userId addressId found wants had fields =>
      obtain ⟨b, hb, howner⟩ := hupdate (fun _ => by rfl) ha' fun _ => rfl
      obtain ⟨c, hc, howner'⟩ := hbase hb
      exact .inr ⟨c, hc, howner'.trans howner⟩
  | setDefault userId addressId had =>
      obtain ⟨b, hb, howner⟩ := hupdate (fun _ => by rfl) ha' fun _ => rfl
      have hb : (base w userId true).find k = some b := hb
      obtain ⟨c, hc, howner'⟩ := hbase hb
      exact .inr ⟨c, hc, howner'.trans howner⟩
  | remove userId addressId => exact .inr ⟨a', herase ha', rfl⟩
  | promote userId addressId howned hstored t hnone hsome =>
      cases hnext : newestOf userId (w.addresses.erase addressId) with
      | none =>
          rw [hnone hnext] at ha'
          exact .inr ⟨a', herase ha', rfl⟩
      | some next =>
          rw [hsome next hnext] at ha'
          obtain ⟨b, hb, howner⟩ := hupdate (fun _ => by rfl) ha' fun _ => rfl
          exact .inr ⟨b, herase hb, howner⟩
  | attempt x t => exact .inr ⟨a', ha', rfl⟩
  | resolve receiverId waiting now => exact .inr ⟨a', ha', rfl⟩

theorem Effect.nextId_le {l : Step} {w w' : Addresses} (h : Effect l w w') : w.nextId ≤ w'.nextId := by
  cases h with
  | quiet _ _ _ _ hnext => exact hnext.ge
  | create | attempt => exact Nat.le_succ _
  | update | setDefault | remove | promote | resolve => exact le_rfl

theorem Owned.step {userId : String} {addressId : Nat} {l : Step} {w w' : Addresses} (hact : Effect l w w')
    (h : Owned userId addressId w) : Owned userId addressId w' := by
  refine ⟨h.known.trans_le hact.nextId_le, fun a ha => ?_⟩
  rcases hact.address_from ha with hnew | ⟨b, hb, howner⟩
  · exact absurd hnew h.known.ne
  · rw [← howner]
    exact h.owner b hb

theorem Owned.later {userId : String} {addressId : Nat} {w w' : Addresses} (h : Owned userId addressId w)
    (hlater : Rely Effect w w') : Owned userId addressId w' :=
  hlater.stable (fun _ _ _ hact hs => Owned.step hact hs) h

theorem Effect.attempt_stays {l : Step} {w w' : Addresses} (h : Effect l w w') {k : Nat} {x : GiftAttempt}
    (hx : w.attempts.find k = some x) : ∃ x', w'.attempts.find k = some x' ∧ x'.receiverId = x.receiverId ∧
      x'.senderId = x.senderId ∧ (x'.resolvedAt = x.resolvedAt ∨ x'.resolvedAt ≠ none) := by
  cases h with
  | quiet _ _ _ hattempts =>
      rw [hattempts]
      exact ⟨x, hx, rfl, rfl, .inl rfl⟩
  | create | update | setDefault | remove | promote => exact ⟨x, hx, rfl, rfl, .inl rfl⟩
  | attempt y t hid hopen hcreate => exact ⟨x, find_create_of_find hcreate hx, rfl, rfl, .inl rfl⟩
  | resolve receiverId waiting now =>
      refine ⟨_, find_updateMany_some (fun _ => by rfl) hx, ?_⟩
      split
      · exact ⟨rfl, rfl, .inr (Option.some_ne_none now)⟩
      · exact ⟨rfl, rfl, .inl rfl⟩

theorem Recorded.later {receiverId : String} {waiting : List Waiting} {w w' : Addresses}
    (h : Recorded receiverId waiting w) (hlater : Rely Effect w w') : Recorded receiverId waiting w' := by
  refine hlater.stable (P := Recorded receiverId waiting) (fun l s t hact hs a ha => ?_) h
  obtain ⟨x, hx, hreceiver, hsender⟩ := hs a ha
  obtain ⟨x', hx', hreceiver', hsender', -⟩ := hact.attempt_stays hx
  exact ⟨x', hx', hreceiver'.trans hreceiver, hsender'.trans hsender⟩

/-! ### Vows -/

/-- The user whose waiting senders are called after a write. -/
def Step.fires : Step → Option String
  | .create userId wantsDefault had => if wantsDefault && !had then some userId else none
  | .update userId _ _ wantsDefault had => if wantsDefault && !had then some userId else none
  | .setDefault userId _ had => if !had then some userId else none
  | _ => none

/-- Every attempt to the receiver that was stored is resolved. -/
def Settled (receiverId : String) (w t : Addresses) : Prop :=
  ∀ k x, w.attempts.find k = some x → x.receiverId = receiverId → ∃ y, t.attempts.find k = some y ∧ y.resolvedAt ≠ none

/-- What is owed after a write that gives its user a default and calls for the senders. -/
def vow (e : Event Addresses Step) (t : Addresses) : Prop :=
  ∀ userId, e.lbl.fires = some userId → countDefaults userId e.pre = 0 → 0 < countDefaults userId e.post →
    Settled userId e.post t

/-- An attempt that was stored is resolved, or among those that are about to be. -/
def Covered (receiverId : String) (w : Addresses) (waiting : List Waiting) (t : Addresses) : Prop :=
  ∀ k x, w.attempts.find k = some x → x.receiverId = receiverId →
    ∃ y, t.attempts.find k = some y ∧ (y.resolvedAt ≠ none ∨ k ∈ waiting.map Prod.fst)

theorem Covered.later {receiverId : String} {w t t' : Addresses} {waiting : List Waiting}
    (h : Covered receiverId w waiting t) (hlater : Rely Effect t t') : Covered receiverId w waiting t' := by
  refine hlater.stable (P := Covered receiverId w waiting) (fun l s u hact hs k x hx hreceiver => ?_) h
  obtain ⟨y, hy, hcase⟩ := hs k x hx hreceiver
  obtain ⟨y', hy', -, -, hresolved⟩ := hact.attempt_stays hy
  refine ⟨y', hy', ?_⟩
  rcases hcase with hcase | hcase
  · refine .inl fun hnone => ?_
    rcases hresolved with hsame | hsome
    · exact hcase (hsame.symm.trans hnone)
    · exact hsome hnone
  · exact .inr hcase

theorem settled_iff_covered {receiverId : String} {w t : Addresses} :
    Settled receiverId w t ↔ Covered receiverId w [] t := by
  simp [Settled, Covered]

theorem Settled.later {receiverId : String} {w t t' : Addresses} (h : Settled receiverId w t)
    (hlater : Rely Effect t t') : Settled receiverId w t' := by
  rw [settled_iff_covered] at h ⊢
  exact h.later hlater

theorem vow_later (e : Event Addresses Step) (s t : Addresses) (h : vow e s) (hlater : Rely Effect s t) : vow e t :=
  fun userId hfires hpre hpost => (h userId hfires hpre hpost).later hlater

theorem vow_kept (e : Event Addresses Step) (l : Step) (s t u : Addresses) (h : vow e s) (hst : Rely Effect s t)
    (hact : Effect l t u) : vow e u :=
  vow_later e s u h (hst.trans (Rely.single hact))

/-! ### Requests -/

section Requests

variable {w : Addresses}

/-- An effect after which nobody is called. -/
abbrev Calm (l : Step) (s t : Addresses) : Prop := Effect l s t ∧ l.fires = none

/-- A part of a call that calls nobody, whatever the others do. -/
abbrev Acts {α : Type} (x : Service α) (P : α → Addresses → Prop) (w : Addresses) : Prop :=
  x.Ensures (Rely Effect) Calm P w

/-- A call that acts by effects and redeems its vows. -/
abbrev Redeems {α : Type} (x : Service α) (w : Addresses) : Prop := Prog.Redeems vow (Rely Effect) Effect [] x w

theorem Calm.redeemed (l : Step) (s t : Addresses) (h : Calm l s t) : Effect l s t ∧ vow ⟨s, l, t⟩ t := by
  refine ⟨h.1, fun userId hfires => ?_⟩
  rw [h.2] at hfires
  cases hfires

/-- A part that calls nobody, then the rest. -/
theorem Redeems.after {α β : Type} {x : Service α} {g : α → Service β} {P : α → Addresses → Prop} (hx : Acts x P w)
    (hg : ∀ a t, P a t → Redeems (g a) t) : Redeems (x >>= g) w := by
  refine Prog.Redeems.bind vow_kept Calm.redeemed hx fun r t hr => ?_
  cases r with
  | ok a => exact hg a t (hr a rfl)
  | error e => exact fun _ he => absurd he List.not_mem_nil

theorem Redeems.of_acts {α : Type} {x : Service α} {P : α → Addresses → Prop} (hx : Acts x P w) : Redeems x w :=
  Prog.Redeems.of_meets vow_kept Calm.redeemed (fun _ _ _ _ he => absurd he List.not_mem_nil) hx

/-- A call each of whose actions is an effect in any state. -/
theorem does_acts {α : Type} {x : Service α} (h : Svc.Does Calm x) {P : Addresses → Prop}
    (hP : ∀ s t, P s → Rely Effect s t → P t) (hw : P w) : Acts x (fun _ t => P t) w :=
  Svc.Does.ensures (fun _ _ _ hact => hact.1) h hP hw

theorem query_does {α : Type} (f : Addresses → α) : Svc.Does Calm (Svc.query .read f : Service α) :=
  Svc.Does.query (fun w => ⟨Effect.read w, rfl⟩) f

/-- A write that leaves the addresses and the attempts alone. -/
theorem quiet_does {l : Step} {f : Addresses → Addresses} (hl : ∀ w, l.Lost w) (hfires : l.fires = none)
    (haddresses : ∀ w, (f w).addresses = w.addresses) (hattempts : ∀ w, (f w).attempts = w.attempts)
    (hnext : ∀ w, (f w).nextId = w.nextId) : Svc.Does Calm (Svc.transaction l (Tx.modify f) : Service Unit) := by
  refine Svc.Does.transaction (fun w a w' h => ⟨?_, hfires⟩) fun w e h => ?_
  · rw [Tx.modify_eq_ok] at h
    subst h
    exact .quiet l (hl w) (haddresses w) (hattempts w) (hnext w)
  · cases h

theorem pendingAttempts_recorded (receiverId : String) (w : Addresses) :
    Recorded receiverId (pendingAttempts receiverId w) w := by
  intro a ha
  obtain ⟨x, hx, rfl⟩ := List.mem_map.mp ha
  obtain ⟨hx, hpending⟩ := List.mem_filter.mp hx
  simp only [Bool.and_eq_true, decide_eq_true_eq] at hpending
  exact ⟨x, find_of_mem hx, hpending.1, rfl⟩

theorem trigger_does {l : Step} (hl : ∀ w, l.Lost w) (hfires : l.fires = none) (n : Notification) :
    Svc.Does Calm (trigger l n) :=
  quiet_does hl hfires (fun _ => rfl) (fun _ => rfl) fun _ => rfl

/-- What is not resolved is found waiting. -/
theorem pendingAttempts_cover (receiverId : String) {w t : Addresses} (h : Rely Effect w t) :
    Covered receiverId w (pendingAttempts receiverId t) t := by
  intro k x hx hreceiver
  have hstays : ∃ y, t.attempts.find k = some y ∧ y.receiverId = receiverId := by
    refine h.stable (P := fun u => ∃ y, u.attempts.find k = some y ∧ y.receiverId = receiverId)
      (fun l s u hact hs => ?_) ⟨x, hx, hreceiver⟩
    obtain ⟨y, hy, hreceiver⟩ := hs
    obtain ⟨y', hy', hreceiver', -⟩ := hact.attempt_stays hy
    exact ⟨y', hy', hreceiver'.trans hreceiver⟩
  obtain ⟨y, hy, hreceiver⟩ := hstays
  refine ⟨y, hy, ?_⟩
  by_cases hopen : y.resolvedAt = none
  · refine .inr (List.mem_map.mpr ⟨(y.id, y.senderId), List.mem_map.mpr ⟨y, ?_, rfl⟩, ?_⟩)
    · exact List.mem_filter.mpr ⟨mem_of_find hy, by simp [hreceiver, hopen]⟩
    · have hkey : y.id = k := key_of_find hy
      exact hkey
  · exact .inl hopen

theorem Covered.resolve {receiverId : String} {w t : Addresses} {waiting : List Waiting}
    (h : Covered receiverId w waiting t) (now : Time) :
    Covered receiverId w []
      { t with
        attempts := t.attempts.updateMany (fun a => decide (a.id ∈ waiting.map Prod.fst))
          (fun a => { a with notifiedAt := some now, resolvedAt := some now }) fun _ => rfl } := by
  intro k x hx hreceiver
  obtain ⟨y, hy, hcase⟩ := h k x hx hreceiver
  refine ⟨_, find_updateMany_some (fun _ => by rfl) hy, .inl ?_⟩
  split
  next => exact Option.some_ne_none now
  next hother =>
    rcases hcase with hresolved | hmem
    · exact hresolved
    · rw [key_of_find hy] at hother
      exact absurd (decide_eq_true hmem) hother

theorem resolvePendingAttemptsFor_settles (receiverId : String) (w : Addresses) :
    (resolvePendingAttemptsFor receiverId).Completes (Rely Effect) Calm (fun _ t => Settled receiverId w t) w := by
  refine Svc.Completes.tryCatch ?_
  refine Svc.Completes.bind (P := fun waiting t => Recorded receiverId waiting t ∧ Covered receiverId w waiting t)
    (Svc.Completes.query (fun t _ => ⟨Effect.read t, rfl⟩) fun t hlater =>
      ⟨pendingAttempts_recorded receiverId t, pendingAttempts_cover receiverId hlater⟩) fun waiting t ht => ?_
  cases waiting with
  | nil => exact Svc.Completes.pure (settled_iff_covered.mpr ht.2)
  | cons first rest =>
      refine Svc.Completes.bind
        (P := fun _ t => Recorded receiverId (first :: rest) t ∧ Covered receiverId w (first :: rest) t)
        (Svc.Completes.query (fun t _ => ⟨Effect.read t, rfl⟩) fun t hlater => ⟨ht.1.later hlater, ht.2.later hlater⟩)
        fun now t ht => ?_
      refine Svc.Completes.bind (P := fun _ => Covered receiverId w []) (Svc.Completes.transaction fun t' hlater => ?_)
        fun n t ht => ?_
      · refine ⟨_, _, rfl, ⟨.resolve receiverId (first :: rest) now (ht.1.later hlater), rfl⟩, ?_⟩
        exact (ht.2.later hlater).resolve now
      · refine Prog.Meets.mono (fun r t hr => ?_) (Svc.Completes.forEach (I := Covered receiverId w [])
          (fun senderId _ t ht => Svc.Completes.transaction fun t' hlater => ?_) ht)
        · obtain ⟨u, hu, hcovered⟩ := hr
          exact ⟨u, hu, settled_iff_covered.mpr hcovered⟩
        · refine ⟨_, _, rfl, ⟨.quiet _ trivial rfl rfl rfl, rfl⟩, ?_⟩
          exact ht.later (hlater.trans (Rely.single (.quiet (.wake senderId []) trivial rfl rfl rfl)))

theorem wakeIf_settles (condition : Bool) (receiverId : String) (w : Addresses) :
    (wakeIf condition receiverId).Completes (Rely Effect) Calm
      (fun _ t => condition = true → Settled receiverId w t) w := by
  unfold wakeIf
  split
  next =>
    refine Prog.Meets.mono (fun r t hr => ?_) (resolvePendingAttemptsFor_settles receiverId w)
    obtain ⟨u, hu, hsettled⟩ := hr
    exact ⟨u, hu, fun _ => hsettled⟩
  next hcondition => exact Svc.Completes.pure fun h => absurd h hcondition

/-- What precedes a write of an address is the write of some of its flags. -/
theorem clears_eq_ok {clears : Bool} {userId : String} {n : Nat} {w w' : Addresses}
    (h : clearIf clears userId w = .ok (n, w')) :
    w' = { w with addresses := base w userId clears } := by
  cases clears with
  | false =>
      obtain ⟨-, rfl⟩ := Tx.pure_eq_ok.mp h
      rfl
  | true =>
      obtain ⟨-, rfl⟩ := Delegate.updateMany_eq_ok.mp h
      rfl

theorem clears_ne_error {clears : Bool} {userId : String} {e : Err} {w : Addresses}
    (h : clearIf clears userId w = .error e) : False := by
  cases clears with
  | false => exact Tx.pure_ne_error.mp h
  | true => cases h

theorem findOwned_finds (viewerUserId : String) (addressId : Nat) (hw : Issued w) :
    Acts (findOwned viewerUserId addressId) (fun _ t => Owned viewerUserId addressId t) w := by
  refine Svc.Ensures.bind (P := fun (found : Option Address) t => Issued t ∧ t.addresses.find addressId = found)
    (Svc.Ensures.query (fun t _ => ⟨Effect.read t, rfl⟩) fun t hlater => ⟨?_, rfl⟩) fun found t hfound => ?_
  · exact hlater.stable (fun _ _ _ hact hs => hact.issued hs) hw
  · obtain ⟨hissued, hfound⟩ := hfound
    cases found with
    | none => exact Svc.Ensures.fail
    | some a =>
        refine Svc.Ensures.bind (P := fun _ t => Owned viewerUserId addressId t)
          (Svc.Ensures.ensure fun howner => ⟨?_, fun b hb => ?_⟩) fun _ t howned => Svc.Ensures.pure howned
        · rw [← key_of_find hfound]
          exact hissued.addresses a (mem_of_find hfound)
        · rw [hfound] at hb
          cases hb
          exact howner

theorem read_owned {α : Type} {userId : String} {addressId : Nat} (f : Addresses → α) (h : Owned userId addressId w) :
    Acts (Svc.query .read f) (fun _ t => Owned userId addressId t) w :=
  does_acts (query_does f) (fun _ _ => Owned.later) h

theorem payload_owned {userId : String} {addressId : Nat} (body : AddressInput) (h : Owned userId addressId w) :
    Acts (Svc.ofExcept (buildPayload body)) (fun _ t => Owned userId addressId t) w :=
  Svc.Ensures.ofExcept fun _ _ => h

theorem Redeems.written {l : Step} {tx : Transaction Address} {condition : Bool} {receiverId : String}
    (hfires : l.fires = if condition then some receiverId else none)
    (hok : ∀ t a u, Rely Effect w t → tx t = .ok (a, u) → Effect l t u)
    (herr : ∀ t e, Rely Effect w t → tx t = .error e → Effect l t t) :
    Redeems (Svc.transaction l tx >>= fun a => wakeIf condition receiverId >>= fun _ => pure a) w := by
  intro t hlater
  rcases htx : tx t with e | ⟨a, u⟩
  · -- a write that is refused gives no default
    simp only [htx]
    refine ⟨herr t e hlater htx, fun e' he' userId _ hpre hpost => ?_⟩
    obtain rfl := List.mem_singleton.mp he'
    exact absurd hpre hpost.ne'
  · simp only [htx]
    refine ⟨hok t a u hlater htx, ?_⟩
    have hrest : (wakeIf condition receiverId >>= fun _ => pure a).Completes (Rely Effect) Calm
        (fun _ t' => condition = true → Settled receiverId u t') u :=
      Svc.Completes.bind (wakeIf_settles condition receiverId u) fun _ _ hsettled => Svc.Completes.pure hsettled
    refine Prog.Redeems.of_meets vow_kept Calm.redeemed (fun r t' hsettled e' he' userId hfires' _ _ => ?_) hrest.meets
    obtain rfl := List.mem_singleton.mp he'
    cases condition with
    | false =>
        rw [hfires] at hfires'
        cases hfires'
    | true =>
        rw [hfires] at hfires'
        cases hfires'
        exact hsettled rfl

theorem create_redeems (viewerUserId : String) (body : AddressInput) (hw : Issued w) :
    Redeems (create viewerUserId body) w := by
  have hissued (s t : Addresses) (hs : Issued s) (hlater : Rely Effect s t) : Issued t :=
    hlater.stable (fun _ _ _ hact h => hact.issued h) hs
  refine Redeems.after (P := fun _ => Issued) (Svc.Ensures.ofExcept fun _ _ => hw) fun payload t ht => ?_
  refine Redeems.after (does_acts (query_does _) hissued ht) fun existing t ht => ?_
  refine Redeems.after (P := fun _ => Issued) ?_ fun had t ht => Redeems.written rfl (fun s a u hlater h => ?_) ?_
  · unfold hadDefault
    split
    · exact Svc.Ensures.pure ht
    · exact does_acts (query_does _) hissued ht
  · obtain ⟨n, s₁, hclears, h⟩ := Tx.bind_eq_ok.mp h
    obtain ⟨id, s₂, hfresh, h⟩ := Tx.bind_eq_ok.mp h
    obtain rfl := clears_eq_ok hclears
    cases hfresh
    obtain ⟨t', ht', -, rfl, rfl⟩ := Delegate.create_eq_ok.mp h
    exact .create _ had t' rfl ht'
  · -- an identifier that was not handed out collides with no row
    intro s e hlater h
    have hs := hissued t s ht hlater
    rcases Tx.bind_eq_error.mp h with hclears | ⟨n, s₁, hclears, h⟩
    · exact (clears_ne_error hclears).elim
    · obtain rfl := clears_eq_ok hclears
      rcases Tx.bind_eq_error.mp h with hfresh | ⟨id, s₂, hfresh, h⟩
      · cases hfresh
      · cases hfresh
        have hfree {clears : Bool} (x : Address) (hx : x ∈ (base s viewerUserId clears).rows) : x.id ≠ s.nextId := by
          obtain ⟨a, ha, hid⟩ := id_of_mem_base hx
          rw [← hid]
          exact (hs.addresses a ha).ne
        obtain ⟨-, x, hx, hconflict⟩ := Delegate.create_eq_error hfree h
        cases hconflict

/-- The row of an owned address is there, or the write is lost. -/
theorem isSome_of_base {userId : String} {addressId : Nat} {clears : Bool} {a : Address}
    (h : (base w userId clears).find addressId = some a) : (w.addresses.find addressId).isSome := by
  cases clears with
  | false => exact Option.isSome_of_eq_some h
  | true =>
      have h : (cleared w.addresses userId).find addressId = some a := h
      rw [find_cleared] at h
      obtain ⟨b, hb, -⟩ := Option.map_eq_some_iff.mp h
      exact Option.isSome_of_eq_some hb

theorem none_of_base {userId : String} {addressId : Nat} {clears : Bool}
    (h : (base w userId clears).find addressId = none) : w.addresses.find addressId = none := by
  cases clears with
  | false => exact h
  | true =>
      have h : (cleared w.addresses userId).find addressId = none := h
      rwa [find_cleared, Option.map_eq_none_iff] at h

theorem update_redeems (viewerUserId : String) (addressId : Nat) (body : AddressInput) (hw : Issued w) :
    Redeems (update viewerUserId addressId body) w := by
  refine Redeems.after (findOwned_finds viewerUserId addressId hw) fun existing t ht => ?_
  refine Redeems.after (payload_owned body ht) fun payload t ht => ?_
  refine Redeems.after (read_owned _ ht) fun had t ht => Redeems.written rfl (fun s a u hlater h => ?_) fun s e hlater h => ?_
  · obtain ⟨n, s₁, hclears, h⟩ := Tx.bind_eq_ok.mp h
    obtain rfl := clears_eq_ok hclears
    obtain ⟨r, hr, -, rfl⟩ := Delegate.update_eq_ok.mp h
    exact .update viewerUserId addressId existing.isDefault _ had payload (ht.later hlater) (isSome_of_base hr)
  · rcases Tx.bind_eq_error.mp h with hclears | ⟨n, s₁, hclears, h⟩
    · exact (clears_ne_error hclears).elim
    · obtain rfl := clears_eq_ok hclears
      exact .quiet _ (none_of_base (Delegate.update_eq_error.mp h).1) rfl rfl rfl

theorem setDefault_redeems (viewerUserId : String) (addressId : Nat) (hw : Issued w) :
    Redeems (setDefault viewerUserId addressId) w := by
  refine Redeems.after (findOwned_finds viewerUserId addressId hw) fun existing t ht => ?_
  refine Redeems.after (read_owned _ ht) fun had t ht => Redeems.written rfl (fun s a u hlater h => ?_) fun s e hlater h => ?_
  · obtain ⟨n, s₁, hclears, h⟩ := Tx.bind_eq_ok.mp h
    obtain rfl : s₁ = { s with addresses := base s viewerUserId true } := clears_eq_ok hclears
    obtain ⟨r, hr, -, rfl⟩ := Delegate.update_eq_ok.mp h
    exact .setDefault viewerUserId addressId had (ht.later hlater) (isSome_of_base hr)
  · rcases Tx.bind_eq_error.mp h with hclears | ⟨n, s₁, hclears, h⟩
    · cases hclears
    · obtain rfl : s₁ = { s with addresses := base s viewerUserId true } := clears_eq_ok hclears
      exact .quiet _ (none_of_base (Delegate.update_eq_error.mp h).1) rfl rfl rfl

theorem promoteNewest_eq_ok {userId : String} {w w' : Addresses} {u : Unit} (h : promoteNewest userId w = .ok (u, w')) :
    ∃ t, w' = { w with addresses := t } ∧ (newestOf userId w.addresses = none → t = w.addresses) ∧
      ∀ next, newestOf userId w.addresses = some next →
        t = w.addresses.update next.id (fun a => { a with isDefault := true }) fun _ => rfl := by
  obtain ⟨next, w₁, hread, h⟩ := Tx.bind_eq_ok.mp h
  obtain ⟨hnext, rfl⟩ := Tx.read_eq_ok.mp hread
  cases next with
  | none =>
      obtain ⟨-, rfl⟩ := Tx.pure_eq_ok.mp h
      refine ⟨w.addresses, rfl, fun _ => rfl, fun next hsome => ?_⟩
      rw [hnext] at hsome
      cases hsome
  | some next =>
      obtain ⟨a, w₂, hupdate, h⟩ := Tx.bind_eq_ok.mp h
      obtain ⟨-, rfl⟩ := Tx.pure_eq_ok.mp h
      obtain ⟨r, -, -, rfl⟩ := Delegate.update_eq_ok.mp hupdate
      refine ⟨_, rfl, fun hnone => ?_, fun next' hsome => ?_⟩
      · rw [hnext] at hnone
        cases hnone
      · rw [hnext] at hsome
        cases hsome
        rfl

theorem newestOf_mem {userId : String} {t : Table Address.id} {next : Address} (h : newestOf userId t = some next) :
    next ∈ t.rows ∧ next.userId = userId := by
  have hfold (xs : List Address) (best : Option Address)
      (hbest : xs.foldl (fun best a => if best.all (fun b => b.id < a.id) then some a else best) best = some next) :
      next ∈ xs ∨ best = some next := by
    induction xs generalizing best with
    | nil => exact .inr hbest
    | cons a xs ih =>
        rcases ih _ hbest with hmem | hhead
        · exact .inl (List.mem_cons_of_mem _ hmem)
        · dsimp only at hhead
          split at hhead
          · cases hhead
            exact .inl List.mem_cons_self
          · exact .inr hhead
  rcases hfold _ _ h with hmem | hnone
  · obtain ⟨hrow, howner⟩ := List.mem_filter.mp hmem
    exact ⟨hrow, of_decide_eq_true howner⟩
  · cases hnone

theorem remove_acts (viewerUserId : String) (addressId : Nat) (hw : Issued w) :
    Acts (remove viewerUserId addressId) (fun _ _ => True) w := by
  refine Svc.Ensures.bind (findOwned_finds viewerUserId addressId hw) fun existing t ht s hlater => ?_
  have howned := ht.later hlater
  rcases htx : removeTx viewerUserId addressId existing.isDefault s with e | ⟨a, u⟩
  · simp only [htx]
    refine ⟨⟨.quiet _ ?_ rfl rfl rfl, rfl⟩, fun _ _ => trivial⟩
    rcases Tx.bind_eq_error.mp htx with hdelete | ⟨x, s₁, hdelete, h⟩
    · unfold Delegate.delete at hdelete
      split at hdelete
      next hnone => exact hnone
      next => cases hdelete
    · -- the promoted row is stored, so nothing refuses
      exfalso
      split at h
      · rcases Tx.bind_eq_error.mp h with hread | ⟨next, s₂, hread, h⟩
        · cases hread
        · obtain ⟨hnext, rfl⟩ := Tx.read_eq_ok.mp hread
          cases next with
          | none => exact Tx.pure_ne_error.mp h
          | some next =>
              rcases Tx.bind_eq_error.mp h with hupdate | ⟨y, s₃, hupdate, h⟩
              · have hnone := (Delegate.update_eq_error.mp hupdate).1
                have hstored := find_of_mem (newestOf_mem hnext).1
                rw [hstored] at hnone
                cases hnone
              · exact Tx.pure_ne_error.mp h
      · exact Tx.pure_ne_error.mp h
  · simp only [htx]
    refine ⟨⟨?_, rfl⟩, fun _ _ => trivial⟩
    obtain ⟨x, s₁, hdelete, h⟩ := Tx.bind_eq_ok.mp htx
    obtain ⟨hfound, rfl⟩ := Delegate.delete_eq_ok.mp hdelete
    have hstored : (s.addresses.find addressId).isSome := Option.isSome_of_eq_some hfound
    cases hdefault : existing.isDefault with
    | false =>
        rw [hdefault] at h
        obtain ⟨-, rfl⟩ := Tx.pure_eq_ok.mp h
        exact .remove viewerUserId addressId howned hstored
    | true =>
        rw [hdefault] at h
        obtain ⟨t', rfl, hnone, hsome⟩ := promoteNewest_eq_ok h
        exact .promote viewerUserId addressId howned hstored t' hnone hsome

theorem recordAttempt_does (senderId receiverId receiverUsername productName storeName : String) :
    Svc.Does Calm (recordAttempt senderId receiverId receiverUsername productName storeName) := by
  refine Svc.Does.bind (Svc.Does.tryCatch (Svc.Does.bind ?_ fun _ => Svc.Does.pure _) fun _ => Svc.Does.pure _)
    fun _ => trigger_does (fun _ => by trivial) rfl _
  refine Svc.Does.transaction (fun w x w' h => ⟨?_, rfl⟩) fun w e _ => ⟨.quiet _ trivial rfl rfl rfl, rfl⟩
  obtain ⟨id, w₁, hfresh, h⟩ := Tx.bind_eq_ok.mp h
  obtain ⟨now, w₂, hnow, h⟩ := Tx.bind_eq_ok.mp h
  cases hfresh
  obtain ⟨-, rfl⟩ := Tx.read_eq_ok.mp hnow
  obtain ⟨t, ht, -, rfl, rfl⟩ := Delegate.create_eq_ok.mp h
  exact .attempt _ t rfl rfl ht

theorem refuseGift_does (senderId receiverUsername productName storeName : String) :
    Svc.Does Calm (refuseGift senderId receiverUsername productName storeName) := by
  refine Svc.Does.bind (query_does _) fun sender => ?_
  cases sender with
  | none => exact Svc.Does.fail _
  | some sender =>
      refine Svc.Does.bind (Svc.Does.ensure _ _) fun _ => Svc.Does.bind (query_does _) fun receiver => ?_
      cases receiver with
      | none => exact Svc.Does.fail _
      | some receiver =>
          refine Svc.Does.bind (query_does _) fun blocked => Svc.Does.bind (Svc.Does.ensure _ _) fun _ => ?_
          refine Svc.Does.bind (query_does _) fun defaultAddress => ?_
          cases defaultAddress with
          | some a => exact Svc.Does.pure _
          | none => exact Svc.Does.bind (recordAttempt_does _ _ _ _ _) fun _ => Svc.Does.fail _

theorem program_redeems (c : Call) (hw : Issued w) : Redeems (program c) w := by
  have hmap {α : Type} {x : Service α} {f : α → Reply} (hx : Redeems x w) : Redeems (f <$> x) w := by
    refine Prog.Redeems.map (fun r => ?_) hx
    cases r with
    | ok a => exact ⟨_, rfl⟩
    | error e => exact ⟨_, rfl⟩
  have hdoes {α : Type} {x : Service α} (hx : Svc.Does Calm x) : Redeems x w :=
    Redeems.of_acts (does_acts (P := fun _ => True) hx (fun _ _ _ _ => trivial) trivial)
  cases c with
  | tick elapsed =>
      exact hmap (hdoes (quiet_does (fun _ => trivial) rfl (fun _ => rfl) (fun _ => rfl) fun _ => rfl))
  | accounts users blocks =>
      exact hmap (hdoes (quiet_does (fun _ => trivial) rfl (fun _ => rfl) (fun _ => rfl) fun _ => rfl))
  | create viewerUserId body => exact hmap (create_redeems viewerUserId body hw)
  | update viewerUserId addressId body => exact hmap (update_redeems viewerUserId addressId body hw)
  | setDefault viewerUserId addressId => exact hmap (setDefault_redeems viewerUserId addressId hw)
  | remove viewerUserId addressId => exact hmap (Redeems.of_acts (remove_acts viewerUserId addressId hw))
  | refuseGift senderId receiverUsername productName storeName =>
      exact hmap (hdoes (refuseGift_does senderId receiverUsername productName storeName))

end Requests

theorem Run.path {tr : List (Event Addresses Step)} {cfg : Config Addresses Step (Except Err Reply)} (h : Run tr cfg) :
    Path Effect empty tr cfg.state :=
  (Exec.path (Q := fun _ _ => True) (fun _ _ _ _ _ => trivial)
    (fun c _ hs => (program_redeems c (issued_of_rely hs)).meets) h).1

/-- Once no call is in progress, every vow is redeemed. -/
theorem Run.redeemed {tr : List (Event Addresses Step)} {cfg : Config Addresses Step (Except Err Reply)} (h : Run tr cfg)
    (hquiet : cfg.Quiet) : ∀ e ∈ tr, vow e cfg.state :=
  Exec.redeems vow_later (fun c _ hs => program_redeems c (issued_of_rely hs)) h hquiet

end Qift.Addresses
