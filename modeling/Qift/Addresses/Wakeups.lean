import Qift.Addresses.Defaults

/-!
# Waking the senders who wait

* `Timely` — what a call had read of the defaults and of the waiting senders is still so when it writes: a refused
  gift finds its receiver without a default, a resolution finds its attempts open, and a write that calls for nobody
  finds a default, or nobody waiting.
* `Path.answered` — an open attempt to a receiver with a default is owed an answer by a call in progress.
* `Step.resolves`, `Step.wakes` — the resolutions and the messages that concern a sender and some of the attempts.
  `Run.wakes_resolves`: once no call is in progress, there were as many of the one as of the other.
* **`Run.woken_once`** — in a run whose actions are timely, once no call is in progress, no attempt to a receiver with
  a default is open, and each resolved attempt has led to one message, to its sender.
* `Run.wakeup_lost` — a gift that is refused while its receiver creates her first address waits in vain.
-/

namespace Qift.Addresses

open Relational Relational.Table Interleaving

/-! ### Who gives a default, and who calls for the senders -/

/-- The user whom a write may leave with a default without a call for the senders. -/
def Step.silent : Step → Option String
  | .create userId wantsDefault had => if wantsDefault && had then some userId else none
  | .update userId _ found wantsDefault had => if (if wantsDefault then had else found) then some userId else none
  | .setDefault userId _ had => if had then some userId else none
  | .remove userId _ found => if found then some userId else none
  | _ => none

/-- What a call had read of the defaults and the attempts is still so when it writes. -/
def Timely (e : Event Addresses Step) : Prop :=
  match e.lbl with
  | .attempt receiverId => countDefaults receiverId e.pre = 0
  | .resolve _ waiting => ∀ a ∈ waiting, (e.pre.attempts.find a.1).all fun x => x.resolvedAt = none
  | l => ∀ userId ∈ l.silent, 0 < countDefaults userId e.pre ∨ pendingAttempts userId e.pre = []

theorem first_default_update {t : Table Address.id} {addressId : Nat} {a : Address} (h : t.find addressId = some a)
    {f : Address → Address} (hf : ∀ a, (f a).id = a.id) (howner : (f a).userId = a.userId) {userId : String}
    (hbefore : t.count (Address.defaultOf userId) = 0)
    (hafter : 0 < (t.update addressId f hf).count (Address.defaultOf userId)) :
    a.userId = userId ∧ (f a).isDefault = true := by
  have hcount : (t.update addressId f hf).count (Address.defaultOf userId) + _ = _ := count_default_update h howner userId
  by_cases hu : a.userId = userId
  · rw [if_pos hu, if_pos hu] at hcount
    refine ⟨hu, ?_⟩
    by_contra hflag
    simp only [Bool.not_eq_true] at hflag
    rw [hflag, Bool.toNat_false] at hcount
    omega
  · rw [if_neg hu, if_neg hu] at hcount
    omega

theorem count_base_zero {w : Addresses} {userId other : String} {clears : Bool} (h : countDefaults other w = 0) :
    (base w userId clears).count (Address.defaultOf other) = 0 := by
  rw [count_base_default]
  split
  · rfl
  · exact h

/-- **A user's first default**: the write calls for the senders, or it is one of those that do not. -/
theorem Effect.first_default {l : Step} {w w' : Addresses} (h : Effect l w w') {userId : String}
    (hbefore : countDefaults userId w = 0) (hafter : 0 < countDefaults userId w') :
    l.fires = some userId ∨ l.silent = some userId := by
  have hstay (haddresses : w'.addresses = w.addresses) : False := by
    have hsame : countDefaults userId w' = countDefaults userId w := 
      congrArg (fun t : Table Address.id => t.count (Address.defaultOf userId)) haddresses
    omega
  cases h with
  | quiet _ _ haddresses => exact (hstay haddresses).elim
  | create a had t hid hcreate =>
      have hcount := count_create hcreate (Address.defaultOf userId)
      rw [count_base_zero hbefore] at hcount
      have hnew : a.defaultOf userId = true := by
        by_contra hother
        rw [if_neg hother] at hcount
        exact hafter.ne' hcount
      simp only [Address.defaultOf, Bool.and_eq_true, decide_eq_true_eq] at hnew
      cases had <;> simp [Step.fires, Step.silent, hnew]
  | update owner addressId found wants had fields howned hstored =>
      obtain ⟨a, ha⟩ := Option.isSome_iff_exists.mp hstored
      obtain ⟨b, hb, hbowner, -⟩ := find_base (wants && !found) ha (howned.owner a ha)
      obtain ⟨hu, hflag⟩ := first_default_update hb (fun _ => by rfl) rfl (count_base_zero hbefore) hafter
      obtain rfl := hbowner.symm.trans hu
      cases wants <;> cases had <;> cases found <;> simp [Step.fires, Step.silent] at hflag ⊢
  | setDefault owner addressId had howned hstored =>
      obtain ⟨a, ha⟩ := Option.isSome_iff_exists.mp hstored
      obtain ⟨b, hb, hbowner, -⟩ := find_base true ha (howned.owner a ha)
      obtain ⟨hu, -⟩ := first_default_update (t := base w owner true) hb (fun _ => by rfl) rfl (count_base_zero hbefore) hafter
      obtain rfl := hbowner.symm.trans hu
      cases had <;> simp [Step.fires, Step.silent]
  | remove owner addressId howned hstored =>
      obtain ⟨a, ha⟩ := Option.isSome_iff_exists.mp hstored
      have hcount := count_erase (q := Address.defaultOf userId) ha
      have hafter : 0 < (w.addresses.erase addressId).count (Address.defaultOf userId) := hafter
      have hbefore : w.addresses.count (Address.defaultOf userId) = 0 := hbefore
      omega
  | promote owner addressId howned hstored t hnone hsome =>
      obtain ⟨a, ha⟩ := Option.isSome_iff_exists.mp hstored
      have hcount := count_erase (q := Address.defaultOf userId) ha
      have hafter : 0 < t.count (Address.defaultOf userId) := hafter
      have hbefore : w.addresses.count (Address.defaultOf userId) = 0 := hbefore
      cases hnext : newestOf owner (w.addresses.erase addressId) with
      | none =>
          rw [hnone hnext] at hafter
          omega
      | some next =>
          obtain ⟨hrow, howner⟩ := newestOf_mem hnext
          rw [hsome next hnext] at hafter
          obtain ⟨hu, -⟩ := first_default_update (find_of_mem hrow) (fun _ => by rfl) rfl (by omega) hafter
          obtain rfl := howner.symm.trans hu
          exact .inr rfl
  | attempt x t => exact (hstay rfl).elim
  | resolve receiverId waiting now => exact (hstay rfl).elim

/-! ### Attempts that wait -/

theorem Effect.open_from {l : Step} {w w' : Addresses} (h : Effect l w w') {k : Nat} {x' : GiftAttempt}
    (hx' : w'.attempts.find k = some x') (hopen : x'.resolvedAt = none) :
    (l = .attempt x'.receiverId ∧ w'.addresses = w.addresses) ∨
      ∃ x, w.attempts.find k = some x ∧ x.receiverId = x'.receiverId ∧ x.resolvedAt = none := by
  cases h with
  | quiet _ _ _ hattempts =>
      rw [hattempts] at hx'
      exact .inr ⟨x', hx', rfl, hopen⟩
  | create | update | setDefault | remove | promote => exact .inr ⟨x', hx', rfl, hopen⟩
  | attempt x t hid _ hcreate =>
      rw [find_create hcreate] at hx'
      split at hx'
      next =>
        cases hx'
        exact .inl ⟨rfl, rfl⟩
      next => exact .inr ⟨x', hx', rfl, hopen⟩
  | resolve receiverId waiting now =>
      rw [find_updateMany] at hx'
      obtain ⟨x, hx, rfl⟩ := Option.map_eq_some_iff.mp hx'
      refine .inr ⟨x, hx, ?_⟩
      split at hopen
      next => cases hopen
      next hother =>
        rw [if_neg hother]
        exact ⟨rfl, hopen⟩

/-- A write that gave a user a first default and calls for the senders of an attempt that was stored. -/
structure Answers (receiverId : String) (k : Nat) (e : Event Addresses Step) : Prop where
  fires : e.lbl.fires = some receiverId
  before : countDefaults receiverId e.pre = 0
  after : 0 < countDefaults receiverId e.post
  stored : ∃ y, e.post.attempts.find k = some y ∧ y.receiverId = receiverId

theorem mem_pendingAttempts {w : Addresses} {k : Nat} {x : GiftAttempt} (hx : w.attempts.find k = some x)
    (hopen : x.resolvedAt = none) : (x.id, x.senderId) ∈ pendingAttempts x.receiverId w :=
  List.mem_map.mpr ⟨x, List.mem_filter.mpr ⟨mem_of_find hx, by simp [hopen]⟩, rfl⟩

/-- **An open attempt to a receiver with a default is owed an answer**, by a write of the run so far. -/
theorem answered_of_path {tr : List (Event Addresses Step)} {s : Addresses} (h : Path Effect empty tr s)
    (htimely : ∀ e ∈ tr, Timely e) {k : Nat} {x : GiftAttempt} (hx : s.attempts.find k = some x)
    (hopen : x.resolvedAt = none) (hdefault : 0 < countDefaults x.receiverId s) :
    ∃ e ∈ tr, Answers x.receiverId k e := by
  induction h generalizing x with
  | nil => cases hx
  | @snoc t u l tr _ hact ih =>
      have hlast : Timely ⟨t, l, u⟩ := htimely _ (by simp)
      rcases hact.open_from hx hopen with ⟨rfl, haddresses⟩ | ⟨y, hy, hreceiver, hyopen⟩
      · -- it was refused now, for the want of a default
        have hnone : countDefaults x.receiverId t = 0 := hlast
        have hsame : countDefaults x.receiverId u = countDefaults x.receiverId t :=
          congrArg (fun t : Table Address.id => t.count (Address.defaultOf x.receiverId)) haddresses
        omega
      · by_cases hbefore : countDefaults x.receiverId t = 0
        · -- the default is new
          rcases hact.first_default hbefore hdefault with hfires | hsilent
          · exact ⟨⟨t, l, u⟩, by simp, hfires, hbefore, hdefault, x, hx, rfl⟩
          · exfalso
            have hkept : 0 < countDefaults x.receiverId t ∨ pendingAttempts x.receiverId t = [] := by
              cases l with
              | attempt receiverId => cases hsilent
              | resolve receiverId waiting => cases hsilent
              | _ => exact hlast _ hsilent
            rcases hkept with hpos | hnil
            · omega
            · have hmem := mem_pendingAttempts hy hyopen
              rw [hreceiver, hnil] at hmem
              cases hmem
        · obtain ⟨e, he, hanswers⟩ := ih (fun e he => htimely e (List.mem_append_left _ he)) hy hyopen
            (by rw [hreceiver]; omega)
          rw [hreceiver] at hanswers
          exact ⟨e, List.mem_append_left _ he, hanswers⟩

/-! ### Resolutions -/

/-- A resolution that answers a sender for some of the attempts. -/
def Step.resolves (senderId : String) (ks : Nat → Bool) : Step → Bool
  | .resolve _ waiting => waiting.any fun a => decide (a.2 = senderId) && ks a.1
  | _ => false

/-- A message to a sender for some of the attempts. -/
def Step.wakes (senderId : String) (ks : Nat → Bool) : Step → Bool
  | .wake senderId' attemptIds => decide (senderId' = senderId) && attemptIds.any ks
  | _ => false

/-- The attempt is resolved, and the sender's. -/
def resolvedFor (senderId : String) (k : Nat) (w : Addresses) : Bool :=
  (w.attempts.find k).any fun x => decide (x.senderId = senderId) && x.resolvedAt.isSome

theorem resolves_recorded {receiverId : String} {waiting : List Waiting} {w : Addresses}
    (h : Recorded receiverId waiting w) {k : Nat} {x : GiftAttempt} (hx : w.attempts.find k = some x)
    (senderId : String) :
    ((Step.resolve receiverId waiting).resolves senderId fun k' => decide (k' = k)) =
      (decide (x.senderId = senderId) && decide (k ∈ waiting.map Prod.fst)) := by
  rw [Bool.eq_iff_iff]
  simp only [Step.resolves, List.any_eq_true, Bool.and_eq_true, decide_eq_true_eq, List.mem_map]
  constructor
  · rintro ⟨a, ha, rfl, rfl⟩
    obtain ⟨y, hy, -, hsender⟩ := h a ha
    rw [hx] at hy
    cases hy
    exact ⟨hsender, a, ha, rfl⟩
  · rintro ⟨rfl, a, ha, rfl⟩
    obtain ⟨y, hy, -, hsender⟩ := h a ha
    rw [hx] at hy
    cases hy
    exact ⟨a, ha, hsender.symm, rfl⟩

theorem resolves_unrecorded {receiverId : String} {waiting : List Waiting} {w : Addresses}
    (h : Recorded receiverId waiting w) {k : Nat} (hx : w.attempts.find k = none) (senderId : String) :
    ((Step.resolve receiverId waiting).resolves senderId fun k' => decide (k' = k)) = false := by
  rw [Step.resolves, List.any_eq_false]
  intro a ha
  obtain ⟨y, hy, -⟩ := h a ha
  simp only [Bool.and_eq_true, decide_eq_true_eq, not_and]
  rintro - rfl
  rw [hx] at hy
  cases hy

theorem Effect.resolved_once {l : Step} {w w' : Addresses} (h : Effect l w w') (htimely : Timely ⟨w, l, w'⟩)
    (senderId : String) (k : Nat) :
    (resolvedFor senderId k w').toNat =
      (resolvedFor senderId k w).toNat + (l.resolves senderId fun k' => decide (k' = k)).toNat := by
  cases h with
  | quiet _ hl _ hattempts =>
      rw [resolvedFor, hattempts]
      cases l with
      | resolve => exact hl.elim
      | _ => rfl
  | create | update | setDefault | remove | promote => rfl
  | attempt x t hid hopen hcreate =>
      refine (congrArg Bool.toNat ?_).trans (Nat.add_zero _).symm
      simp only [resolvedFor, find_create hcreate]
      split
      next hk =>
        have hnew : w.attempts.find x.id = none := (create_eq_some hcreate).2
        rw [← hk, hnew]
        simp [hopen]
      next => rfl
  | resolve receiverId waiting now hrecorded =>
      simp only [resolvedFor, find_updateMany]
      cases hx : w.attempts.find k with
      | none =>
          rw [resolves_unrecorded hrecorded hx]
          rfl
      | some x =>
          have hkey : x.id = k := key_of_find hx
          rw [resolves_recorded hrecorded hx]
          simp only [Option.map_some, Option.any_some, hkey]
          by_cases hmem : k ∈ waiting.map Prod.fst
          · -- the resolution finds the attempt open
            obtain ⟨a, ha, hak⟩ := List.mem_map.mp hmem
            have hopen : x.resolvedAt = none := by
              have hall := htimely a ha
              dsimp only at hall
              rw [hak, hx] at hall
              simpa using hall
            simp [hmem, hopen]
          · simp [hmem]

theorem resolved_of_path {tr : List (Event Addresses Step)} {s : Addresses} (h : Path Effect empty tr s)
    (htimely : ∀ e ∈ tr, Timely e) (senderId : String) (k : Nat) :
    (tr.countP fun e => e.lbl.resolves senderId fun k' => decide (k' = k)) = (resolvedFor senderId k s).toNat := by
  induction h with
  | nil => rfl
  | snoc _ hact ih =>
      rw [List.countP_append, ih fun e he => htimely e (List.mem_append_left _ he),
        hact.resolved_once (htimely _ (by simp)), List.countP_singleton]
      split <;> simp_all

/-! ### Messages -/

theorem any_attemptsOf (senderId : String) (ks : Nat → Bool) (waiting : List Waiting) :
    (attemptsOf senderId waiting).any ks = waiting.any fun a => decide (a.2 = senderId) && ks a.1 := by
  simp [attemptsOf, List.any_map, List.any_filter, Function.comp_def]

/-- A sender is told once of a resolution. -/
theorem countP_uniqueSenderIds (senderId : String) (ks : Nat → Bool) (waiting : List Waiting) :
    ((uniqueSenderIds waiting).countP fun s => decide (s = senderId) && (attemptsOf s waiting).any ks) =
      (waiting.any fun a => decide (a.2 = senderId) && ks a.1).toNat := by
  have hnodup : (uniqueSenderIds waiting).Nodup := List.nodup_reverse.mpr (List.nodup_dedup _)
  rw [← any_attemptsOf]
  cases hany : (attemptsOf senderId waiting).any ks with
  | false =>
      refine List.countP_eq_zero.mpr fun s _ hs => ?_
      obtain ⟨heq, hks⟩ := (Bool.and_eq_true _ _).mp hs
      rw [of_decide_eq_true heq, hany] at hks
      cases hks
  | true =>
      have hmem : senderId ∈ uniqueSenderIds waiting := by
        rw [any_attemptsOf, List.any_eq_true] at hany
        obtain ⟨a, ha, hsender⟩ := hany
        simp only [Bool.and_eq_true, decide_eq_true_eq] at hsender
        rw [uniqueSenderIds, List.mem_reverse, List.mem_dedup, List.mem_reverse, ← hsender.1]
        exact List.mem_map_of_mem ha
      calc ((uniqueSenderIds waiting).countP fun s => decide (s = senderId) && (attemptsOf s waiting).any ks)
        _ = (uniqueSenderIds waiting).count senderId := by
            refine List.countP_congr fun s _ => ?_
            by_cases hs : s = senderId <;> simp [hs, hany]
        _ = 1 := List.count_eq_one_of_mem hnodup hmem

section Messages

variable (senderId : String) (ks : Nat → Bool)

/-- The balance of a call: as many messages as resolutions, for a sender and some attempts. -/
abbrev Told {α : Type} (x : Service α) : Prop :=
  Svc.Balanced (fun l _ => l.resolves senderId ks) (fun l _ => l.wakes senderId ks) 0 x

/-- An action that neither resolves nor tells. -/
abbrev Mute (l : Step) (_ _ : Addresses) : Prop := l.resolves senderId ks = false ∧ l.wakes senderId ks = false

variable {senderId ks}

theorem told_of_mute {α : Type} {x : Service α} (h : Svc.Does (Mute senderId ks) x) : Told senderId ks x :=
  Svc.Balanced.of_neutral empty h

theorem query_mute {α : Type} (f : Addresses → α) : Svc.Does (Mute senderId ks) (Svc.query .read f : Service α) :=
  Svc.Does.query (fun _ => ⟨rfl, rfl⟩) f

theorem write_mute {α : Type} {l : Step} (hl : Mute senderId ks l empty empty) (tx : Transaction α) :
    Svc.Does (Mute senderId ks) (Svc.transaction l tx) :=
  Svc.Does.transaction (fun _ _ _ _ => hl) fun _ _ _ => hl

theorem resolvePendingAttemptsFor_told (receiverId : String) : Told senderId ks (resolvePendingAttemptsFor receiverId) := by
  refine Svc.Balanced.tryCatch (Svc.Balanced.query_bind (fun _ => ⟨rfl, rfl⟩) fun w => ?_) fun _ => Svc.Balanced.pure ()
  cases pendingAttempts receiverId w with
  | nil => exact Svc.Balanced.pure ()
  | cons first rest =>
      refine Svc.Balanced.query_bind (fun _ => ⟨rfl, rfl⟩) fun w => ?_
      refine Svc.Balanced.transaction_bind (fun _ h => by cases h) (fun s n t _ => ?_) fun s e h => by cases h
      change Svc.Balanced _ _
        (0 + ((first :: rest).any fun a => decide (a.2 = senderId) && ks a.1).toNat - 0) (Svc.forEach _ _)
      rw [Nat.zero_add, Nat.sub_zero, ← countP_uniqueSenderIds]
      exact Svc.Balanced.forEach (fun s _ => ⟨rfl, rfl⟩) fun s w => ⟨_, rfl⟩

theorem wakeIf_told (condition : Bool) (receiverId : String) : Told senderId ks (wakeIf condition receiverId) := by
  unfold wakeIf
  split
  · exact resolvePendingAttemptsFor_told receiverId
  · exact Svc.Balanced.pure ()

theorem written_told {l : Step} (hl : Mute senderId ks l empty empty) (tx : Transaction Address) (condition : Bool)
    (receiverId : String) :
    Told senderId ks (Svc.transaction l tx >>= fun a => wakeIf condition receiverId >>= fun _ => pure a) :=
  Svc.Balanced.bind (told_of_mute (write_mute hl tx)) fun a =>
    Svc.Balanced.bind (wakeIf_told condition receiverId) fun _ => Svc.Balanced.pure a

theorem findOwned_mute (viewerUserId : String) (addressId : Nat) :
    Svc.Does (Mute senderId ks) (findOwned viewerUserId addressId) := by
  refine Svc.Does.bind (query_mute _) fun existing => ?_
  cases existing with
  | none => exact Svc.Does.fail _
  | some existing => exact Svc.Does.bind (Svc.Does.ensure _ _) fun _ => Svc.Does.pure _

theorem create_told (viewerUserId : String) (body : AddressInput) : Told senderId ks (create viewerUserId body) := by
  refine Svc.Balanced.bind (told_of_mute (Svc.Does.ofExcept _)) fun payload => ?_
  refine Svc.Balanced.bind (told_of_mute (query_mute _)) fun existing => ?_
  refine Svc.Balanced.bind ?_ fun had => written_told ⟨rfl, rfl⟩ _ _ _
  unfold hadDefault
  split
  · exact Svc.Balanced.pure false
  · exact told_of_mute (query_mute _)

theorem update_told (viewerUserId : String) (addressId : Nat) (body : AddressInput) :
    Told senderId ks (update viewerUserId addressId body) := by
  refine Svc.Balanced.bind (told_of_mute (findOwned_mute _ _)) fun existing => ?_
  refine Svc.Balanced.bind (told_of_mute (Svc.Does.ofExcept _)) fun payload => ?_
  exact Svc.Balanced.bind (told_of_mute (query_mute _)) fun had => written_told ⟨rfl, rfl⟩ _ _ _

theorem setDefault_told (viewerUserId : String) (addressId : Nat) :
    Told senderId ks (setDefault viewerUserId addressId) := by
  refine Svc.Balanced.bind (told_of_mute (findOwned_mute _ _)) fun existing => ?_
  exact Svc.Balanced.bind (told_of_mute (query_mute _)) fun had => written_told ⟨rfl, rfl⟩ _ _ _

theorem refuseGift_mute (senderId' receiverUsername productName storeName : String) :
    Svc.Does (Mute senderId ks) (refuseGift senderId' receiverUsername productName storeName) := by
  refine Svc.Does.bind (query_mute _) fun sender => ?_
  cases sender with
  | none => exact Svc.Does.fail _
  | some sender =>
      refine Svc.Does.bind (Svc.Does.ensure _ _) fun _ => Svc.Does.bind (query_mute _) fun receiver => ?_
      cases receiver with
      | none => exact Svc.Does.fail _
      | some receiver =>
          refine Svc.Does.bind (query_mute _) fun blocked => Svc.Does.bind (Svc.Does.ensure _ _) fun _ => ?_
          refine Svc.Does.bind (query_mute _) fun defaultAddress => ?_
          cases defaultAddress with
          | some a => exact Svc.Does.pure _
          | none =>
              refine Svc.Does.bind (Svc.Does.bind ?_ fun _ => write_mute ⟨rfl, rfl⟩ _) fun _ => Svc.Does.fail _
              refine Svc.Does.tryCatch ?_ fun _ => Svc.Does.pure _
              exact Svc.Does.bind (write_mute ⟨rfl, rfl⟩ _) fun _ => Svc.Does.pure _

theorem program_told (c : Call) : Told senderId ks (program c) := by
  cases c with
  | tick elapsed => exact Svc.Balanced.map (told_of_mute (write_mute ⟨rfl, rfl⟩ _))
  | accounts users blocks => exact Svc.Balanced.map (told_of_mute (write_mute ⟨rfl, rfl⟩ _))
  | create viewerUserId body => exact Svc.Balanced.map (create_told viewerUserId body)
  | update viewerUserId addressId body => exact Svc.Balanced.map (update_told viewerUserId addressId body)
  | setDefault viewerUserId addressId => exact Svc.Balanced.map (setDefault_told viewerUserId addressId)
  | remove viewerUserId addressId =>
      refine Svc.Balanced.map (told_of_mute ?_)
      exact Svc.Does.bind (findOwned_mute _ _) fun existing => write_mute ⟨rfl, rfl⟩ _
  | refuseGift senderId receiverUsername productName storeName =>
      exact Svc.Balanced.map (told_of_mute (refuseGift_mute senderId receiverUsername productName storeName))

end Messages

/-- The messages to a sender for some attempts. -/
def wakeups (senderId : String) (ks : Nat → Bool) (tr : List (Event Addresses Step)) : Nat :=
  tr.countP fun e => e.lbl.wakes senderId ks

/-- The resolutions that answer a sender for some attempts. -/
def resolutions (senderId : String) (ks : Nat → Bool) (tr : List (Event Addresses Step)) : Nat :=
  tr.countP fun e => e.lbl.resolves senderId ks

section Runs

variable {tr : List (Event Addresses Step)} {cfg : Config Addresses Step (Except Err Reply)}

/-- **A sender is told once of each resolution**, whichever of his attempts it answers. -/
theorem Run.wakes_resolves (h : Run tr cfg) (hquiet : cfg.Quiet) (senderId : String) (ks : Nat → Bool) :
    wakeups senderId ks tr = resolutions senderId ks tr :=
  Exec.balanced program_told h hquiet

/-- **No attempt to a receiver with a default is open.** -/
theorem Run.none_waits (h : Run tr cfg) (htimely : ∀ e ∈ tr, Timely e) (hquiet : cfg.Quiet) {k : Nat} {x : GiftAttempt}
    (hx : cfg.state.attempts.find k = some x) (hdefault : 0 < countDefaults x.receiverId cfg.state) :
    x.resolvedAt ≠ none := by
  intro hopen
  obtain ⟨e, he, hanswers⟩ := answered_of_path h.path htimely hx hopen hdefault
  obtain ⟨y, hy, hreceiver⟩ := hanswers.stored
  obtain ⟨z, hz, hresolved⟩ := h.redeemed hquiet e he _ hanswers.fires hanswers.before hanswers.after k y hy hreceiver
  rw [hx] at hz
  cases hz
  exact hresolved hopen

/-- **Waiting senders are woken once**, in a run whose actions are timely: once no call is in progress, no attempt to a
receiver with a default is open, a resolved attempt has led to one message to its sender and to nobody else, and a
sender had one message for each resolution, however many of his attempts it answered. -/
theorem Run.woken_once (h : Run tr cfg) (htimely : ∀ e ∈ tr, Timely e) (hquiet : cfg.Quiet) :
    (∀ x ∈ cfg.state.attempts.rows, 0 < countDefaults x.receiverId cfg.state → x.resolvedAt ≠ none) ∧
    (∀ x ∈ cfg.state.attempts.rows, ∀ senderId,
      wakeups senderId (fun k => decide (k = x.id)) tr = if senderId = x.senderId ∧ x.resolvedAt ≠ none then 1 else 0) ∧
    ∀ senderId, wakeups senderId (fun _ => true) tr = resolutions senderId (fun _ => true) tr := by
  refine ⟨fun x hx => Run.none_waits h htimely hquiet (find_of_mem hx), fun x hx senderId => ?_, fun senderId =>
    Run.wakes_resolves h hquiet senderId _⟩
  have hresolved := resolved_of_path h.path htimely senderId x.id
  rw [resolvedFor, find_of_mem hx, Option.any_some] at hresolved
  rw [Run.wakes_resolves h hquiet]
  refine Eq.trans hresolved ?_
  by_cases hsender : senderId = x.senderId <;> cases x.resolvedAt <;> simp [hsender, Ne.symm]

end Runs

/-! ### A lost wake-up -/

instance (e : Event Addresses Step) : Decidable (Timely e) := by
  obtain ⟨pre, l, post⟩ := e
  cases l <;> dsimp only [Timely] <;> infer_instance

namespace Pilot

/-- Omar and Noor have accounts, and so has Huda. -/
def joined : List (Choice Call) :=
  toEnd (.accounts [⟨"huda", "huda", none⟩, ⟨"omar", "omar", none⟩, ⟨"noor", "noor", none⟩] [])

/-- Omar tries twice and Noor once, before Huda has an address; then she adds one. -/
def awaited : List (Choice Call) :=
  joined ++ toEnd (.refuseGift "omar" "huda" "oud" "souq") ++ toEnd (.refuseGift "omar" "huda" "rose" "souq") ++
    toEnd (.refuseGift "noor" "huda" "oud" "souq") ++ toEnd (.create "huda" house)

/-- Omar's attempt is recorded after Huda's first address has looked for attempts. -/
def missed : List (Choice Call) :=
  joined ++ .start (.refuseGift "omar" "huda" "oud" "souq") :: List.replicate 4 (.run 0) ++
    toEnd (.create "huda" house) ++ List.replicate 2 (.run 1)

end Pilot

/-- Omar is told once, for both his attempts, and Noor once. -/
theorem Run.woken_once_awaited :
    (∀ x ∈ (Pilot.played Pilot.awaited).2.state.attempts.rows,
      0 < countDefaults x.receiverId (Pilot.played Pilot.awaited).2.state → x.resolvedAt ≠ none) ∧
    (∀ x ∈ (Pilot.played Pilot.awaited).2.state.attempts.rows, ∀ senderId,
      wakeups senderId (fun k => decide (k = x.id)) (Pilot.played Pilot.awaited).1 =
        if senderId = x.senderId ∧ x.resolvedAt ≠ none then 1 else 0) ∧
    ∀ senderId, wakeups senderId (fun _ => true) (Pilot.played Pilot.awaited).1 =
      resolutions senderId (fun _ => true) (Pilot.played Pilot.awaited).1 :=
  Run.woken_once (Pilot.run Pilot.awaited) (by decide +kernel) (by decide +kernel)

/-- **A lost wake-up**: no call is in progress, Huda has a default address, and Omar's attempt is open. -/
theorem Run.wakeup_lost : ∃ tr cfg, Run tr cfg ∧ cfg.Quiet ∧
    ∃ x ∈ cfg.state.attempts.rows, 0 < countDefaults x.receiverId cfg.state ∧ x.resolvedAt = none :=
  ⟨_, _, Pilot.run Pilot.missed, by decide +kernel⟩

end Qift.Addresses
