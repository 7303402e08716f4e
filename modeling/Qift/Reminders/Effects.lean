import Qift.Lib.Proviso
import Qift.Reminders.Worker

/-!
# What the reminder worker does

* `Acts` says of every action what it may write, and `Effect` also whose reminder a claim is about: one that is due on
  the day of the run, with the number of days that the stored reminder has.
* `Run.path` — a run is a path of such actions.
* `Unique` — no two firings are of one reminder and occurrence; it is kept, as are `Issued` and what is `Known`.
-/

namespace Qift.Reminders

open Relational Relational.Table Interleaving
open Occasions (OccasionReminder Umalqura nextOccurrence startOfUtcDay)
open Notifications (EnqueueInput)

/-! ### Actions -/

/-- What a firing is about; the rest of it is what became of it. -/
def ReminderFiring.anchor (x : ReminderFiring) : Nat × Nat × Time × Time :=
  (x.id, x.reminderId, x.occurrenceAt, x.firedAt)

def ReminderFiring.isOf (reminderId : Nat) (occurrenceAt : Time) (x : ReminderFiring) : Bool :=
  decide (x.reminderId = reminderId ∧ x.occurrenceAt = occurrenceAt)

def Fired (reminderId : Nat) (occurrenceAt : Time) (w : Reminders) : Prop :=
  ∃ x ∈ w.firings.rows, x.isOf reminderId occurrenceAt = true

/-- A claim succeeds: the reminder is stored, the occurrence was not claimed, and its firing is written. -/
structure Claimed (mark : Mark) (s t : Reminders) : Prop where
  stored : ∃ x ∈ s.reminders.rows, x.id = mark.reminderId
  free : ¬Fired mark.reminderId mark.occurrenceAt s
  written : ∃ x : ReminderFiring, x.isOf mark.reminderId mark.occurrenceAt = true ∧ x.firedAt = s.now ∧
    ∃ T : Table ReminderFiring.id, t = { s with firings := T } ∧ T.rows = s.firings.rows ++ [x]

/-- The orchestrator's action on the bell: nothing happens to its notifications, or one is written. -/
def Rings (l : Notifications.Step) (b b' : Notifications) : Prop :=
  b'.notifications = b.notifications ∨ l = .write ∧ ∃ x, b'.notifications.rows = b.notifications.rows ++ [x]

/-- What an action may do. -/
def Acts : Step → Reminders → Reminders → Prop
  | .read, s, t => t = s
  | .candidates _, s, t => t = s
  | .gate _, s, t => t = s
  | .environment, s, t => t = s ∨ ∃ e : Edit, e.Allowed s ∧ t = e.apply s
  | .claim mark, s, t => (∃ e, claimTx mark s = .error e ∧ t = s) ∨ ∃ x, claimTx mark s = .ok (x, t)
  | .remind _ l, s, t => ∃ b, t = { s with bell := b } ∧ Rings l s.bell b
  | .settle _, s, t => ∃ T : Table ReminderFiring.id, t = { s with firings := T } ∧
      T.rows.map ReminderFiring.anchor = s.firings.rows.map ReminderFiring.anchor
  | .recover _, s, t => ∃ T : Table ReminderFiring.id, t = { s with firings := T } ∧
      T.rows.map ReminderFiring.anchor = s.firings.rows.map ReminderFiring.anchor
  | .clear _, s, t => ∃ T : Table ReminderFiring.id, t = { s with firings := T } ∧
      T.rows.Sublist s.firings.rows

/-- The reminder an action is about. -/
def Step.mark : Step → Option Mark
  | .gate mark => some mark
  | .claim mark => some mark
  | .remind mark _ => some mark
  | .read | .candidates _ | .environment | .settle _ | .recover _ | .clear _ => none

/-- Stale claims are not deleted. -/
def Step.safe : Step → Bool
  | .clear _ => false
  | .read | .candidates _ | .environment | .gate _ | .claim _ | .remind _ _ | .settle _ | .recover _ => true

/-- The run takes place on the day on which the reminder is due. -/
def Mark.OnDay (mark : Mark) : Prop := subtractDaysUtc mark.occurrenceAt mark.daysBefore = startOfUtcDay mark.now

/-- The reminder has its number of days, now and later. -/
def Cadence (reminderId : Nat) (daysBefore : Int) (w : Reminders) : Prop :=
  reminderId < w.nextId ∧ ∀ x ∈ w.reminders.rows, x.id = reminderId → x.daysBefore = daysBefore

/-- The actions of calls, with whose reminder they are about. -/
def Effect (l : Step) (s t : Reminders) : Prop :=
  Acts l s t ∧ ∀ mark, l.mark = some mark → mark.OnDay ∧ Cadence mark.reminderId mark.daysBefore s

/-- The actions on behalf of one reminder. -/
def ActsFor (mark : Mark) (l : Step) (s t : Reminders) : Prop :=
  Acts l s t ∧ l.safe = true ∧ ∀ other, l.mark = some other → other = mark

/-- The actions that are on behalf of no reminder. -/
def ActsApart (l : Step) (s t : Reminders) : Prop := Acts l s t ∧ l.mark = none

/-! ### What transactions do -/

theorem whenUp_ok {α : Type} {tx : Transaction α} {s t : Reminders} {a : α} (h : whenUp tx s = .ok (a, t)) :
    tx s = .ok (a, t) := by
  unfold whenUp at h
  split at h
  · cases h
  · exact h

theorem answer_ok {α : Type} {f : Reminders → α} {s t : Reminders} {a : α} (h : answer f s = .ok (a, t)) :
    a = f s ∧ t = s := by
  unfold answer at h
  split at h
  · cases h
  · cases h
    exact ⟨rfl, rfl⟩

theorem claimTx_ok {mark : Mark} {s t : Reminders} {claim : ReminderFiring} (h : claimTx mark s = .ok (claim, t)) :
    Claimed mark s t := by
  have hclaim := whenUp_ok h
  split at hclaim
  next hstored =>
    obtain ⟨x, hx⟩ := Option.isSome_iff_exists.mp hstored
    obtain ⟨T, hT, hfree, -, rfl⟩ := Delegate.create_eq_ok.mp hclaim
    refine ⟨⟨x, mem_of_find hx, key_of_find hx⟩, ?_, ⟨_, decide_eq_true ⟨rfl, rfl⟩, rfl, T, rfl, (create_eq_some hT).1⟩⟩
    rintro ⟨y, hy, hof⟩
    obtain ⟨hreminder, hoccurrence⟩ := of_decide_eq_true hof
    exact of_decide_eq_false (hfree y hy) ⟨hreminder.symm, hoccurrence.symm⟩
  next => cases hclaim

/-- A write of what became of some firings. -/
theorem anchors_updateMany {t : Table ReminderFiring.id} {p : ReminderFiring → Bool}
    {f : ReminderFiring → ReminderFiring} {hid : ∀ x : ReminderFiring, (f x).id = x.id}
    (hf : ∀ x, (f x).anchor = x.anchor) :
    (t.updateMany p f hid).rows.map ReminderFiring.anchor = t.rows.map ReminderFiring.anchor := by
  rw [updateMany, List.map_map]
  refine List.map_congr_left fun x _ => ?_
  change (if p x then f x else x).anchor = x.anchor
  split
  · exact hf x
  · rfl

theorem settleTx_ok {id : Nat} {status : String} {reason : Option String} {s t : Reminders} {x : ReminderFiring}
    (h : settleTx id status reason s = .ok (x, t)) : Acts (.settle id) s t := by
  obtain ⟨y, -, -, rfl⟩ := Delegate.update_eq_ok.mp (whenUp_ok h)
  exact ⟨_, rfl, anchors_updateMany fun _ => rfl⟩

theorem recoverTx_ok {ids : List Nat} {s t : Reminders} {n : Nat} (h : recoverTx ids s = .ok (n, t)) :
    Acts (.recover ids) s t := by
  obtain ⟨-, rfl⟩ := Delegate.updateMany_eq_ok.mp (whenUp_ok h)
  exact ⟨_, rfl, anchors_updateMany fun _ => rfl⟩

theorem clearTx_ok {ids : List Nat} {s t : Reminders} {n : Nat} (h : clearTx ids s = .ok (n, t)) :
    Acts (.clear ids) s t := by
  obtain ⟨-, rfl⟩ := Delegate.deleteMany_eq_ok.mp (whenUp_ok h)
  exact ⟨_, rfl, List.filter_sublist⟩

/-! ### What is kept -/

/-- Reminders have identifiers that were handed out. -/
def Issued (w : Reminders) : Prop := ∀ x ∈ w.reminders.rows, x.id < w.nextId

/-- No two firings are of one reminder and occurrence. -/
def Unique (w : Reminders) : Prop := (w.firings.rows.map fun x => (x.reminderId, x.occurrenceAt)).Nodup

/-- The reminder was deleted: its identifier is handed out, and nothing has it. -/
def Dead (reminderId : Nat) (w : Reminders) : Prop :=
  reminderId < w.nextId ∧ ∀ x ∈ w.reminders.rows, x.id ≠ reminderId

/-- The reminders and the identifiers handed out stay as they are, unless other requests edit them. -/
theorem Acts.reminders {l : Step} {s t : Reminders} (h : Acts l s t) :
    t.reminders = s.reminders ∧ t.nextId = s.nextId ∨ ∃ e : Edit, e.Allowed s ∧ t = e.apply s := by
  cases l with
  | read | candidates now | gate mark =>
      cases h
      exact Or.inl ⟨rfl, rfl⟩
  | environment =>
      rcases h with rfl | hedit
      · exact Or.inl ⟨rfl, rfl⟩
      · exact Or.inr hedit
  | claim mark =>
      rcases h with ⟨e, -, rfl⟩ | ⟨x, hclaim⟩
      · exact Or.inl ⟨rfl, rfl⟩
      · obtain ⟨x, -, -, T, rfl, -⟩ := (claimTx_ok hclaim).written
        exact Or.inl ⟨rfl, rfl⟩
  | remind mark l =>
      obtain ⟨b, rfl, -⟩ := h
      exact Or.inl ⟨rfl, rfl⟩
  | settle id | recover ids | clear ids =>
      obtain ⟨T, rfl, -⟩ := h
      exact Or.inl ⟨rfl, rfl⟩

theorem Acts.issued {l : Step} {s t : Reminders} (h : Acts l s t) (hs : Issued s) : Issued t := by
  rcases h.reminders with ⟨hrows, hid⟩ | ⟨e, hallowed, rfl⟩
  · intro x hx
    rw [hid]
    rw [hrows] at hx
    exact hs x hx
  · exact fun x hx => (hallowed.2 x hx).1

theorem Acts.cadence {l : Step} {s t : Reminders} (h : Acts l s t) {reminderId : Nat} {daysBefore : Int}
    (hs : Cadence reminderId daysBefore s) : Cadence reminderId daysBefore t := by
  obtain ⟨hlt, hdays⟩ := hs
  rcases h.reminders with ⟨hrows, hid⟩ | ⟨e, hallowed, rfl⟩
  · rw [Cadence, hrows, hid]
    exact ⟨hlt, hdays⟩
  · refine ⟨hlt.trans_le hallowed.1, fun x hx hkey => ?_⟩
    rcases (hallowed.2 x hx).2 with hnew | ⟨y, hy, hyx, -, -, hsame⟩
    · omega
    · exact hsame.symm.trans (hdays y hy (hyx.trans hkey))

theorem Acts.dead {l : Step} {s t : Reminders} (h : Acts l s t) {reminderId : Nat} (hs : Dead reminderId s) :
    Dead reminderId t := by
  obtain ⟨hlt, hgone⟩ := hs
  rcases h.reminders with ⟨hrows, hid⟩ | ⟨e, hallowed, rfl⟩
  · rw [Dead, hrows, hid]
    exact ⟨hlt, hgone⟩
  · refine ⟨hlt.trans_le hallowed.1, fun x hx hkey => ?_⟩
    rcases (hallowed.2 x hx).2 with hnew | ⟨y, hy, hyx, -⟩
    · omega
    · exact hgone y hy (hyx.trans hkey)

/-- What the firings are of follows from their anchors. -/
theorem isOf_of_anchor {reminderId : Nat} {occurrenceAt : Time} {x y : ReminderFiring} (h : x.anchor = y.anchor) :
    x.isOf reminderId occurrenceAt = y.isOf reminderId occurrenceAt := by
  obtain ⟨-, hrest⟩ := Prod.mk.inj h
  obtain ⟨hreminder, hrest⟩ := Prod.mk.inj hrest
  obtain ⟨hoccurrence, -⟩ := Prod.mk.inj hrest
  rw [ReminderFiring.isOf, ReminderFiring.isOf, hreminder, hoccurrence]

/-- A claimed occurrence stays claimed while its reminder is stored and stale claims are not deleted. -/
theorem Acts.fired {l : Step} {s t : Reminders} (h : Acts l s t) (hsafe : l.safe = true) {reminderId : Nat}
    {occurrenceAt : Time} (hs : Fired reminderId occurrenceAt s) (hid : reminderId < s.nextId) :
    Fired reminderId occurrenceAt t ∨ Dead reminderId t := by
  obtain ⟨x, hx, hof⟩ := hs
  have hanchors {T : Table ReminderFiring.id}
      (hT : T.rows.map ReminderFiring.anchor = s.firings.rows.map ReminderFiring.anchor) :
      ∃ y ∈ T.rows, y.isOf reminderId occurrenceAt = true := by
    obtain ⟨y, hy, hyx⟩ := List.mem_map.mp (hT ▸ List.mem_map_of_mem hx)
    exact ⟨y, hy, (isOf_of_anchor hyx).trans hof⟩
  cases l with
  | read | candidates now | gate mark =>
      cases h
      exact Or.inl ⟨x, hx, hof⟩
  | environment =>
      rcases h with rfl | ⟨e, hallowed, rfl⟩
      · exact Or.inl ⟨x, hx, hof⟩
      · have hreminder : x.reminderId = reminderId := (of_decide_eq_true hof).1
        cases hfound : e.reminders.find reminderId with
        | none => exact Or.inr ⟨hid.trans_le hallowed.1, fun y hy => find_eq_none.mp hfound y hy⟩
        | some y =>
            refine Or.inl ⟨x, mem_deleteMany.mpr ⟨hx, ?_⟩, hof⟩
            rw [hreminder, hfound]
            rfl
  | claim mark =>
      rcases h with ⟨e, -, rfl⟩ | ⟨y, hclaim⟩
      · exact Or.inl ⟨x, hx, hof⟩
      · obtain ⟨y, -, -, T, rfl, hrows⟩ := (claimTx_ok hclaim).written
        exact Or.inl ⟨x, hrows ▸ List.mem_append_left _ hx, hof⟩
  | remind mark l =>
      obtain ⟨b, rfl, -⟩ := h
      exact Or.inl ⟨x, hx, hof⟩
  | settle id =>
      obtain ⟨T, rfl, hT⟩ := h
      exact Or.inl (hanchors hT)
  | recover ids =>
      obtain ⟨T, rfl, hT⟩ := h
      exact Or.inl (hanchors hT)
  | clear ids => cases hsafe

theorem Acts.unique {l : Step} {s t : Reminders} (h : Acts l s t) (hs : Unique s) : Unique t := by
  have hanchors {T : Table ReminderFiring.id}
      (hT : T.rows.map ReminderFiring.anchor = s.firings.rows.map ReminderFiring.anchor) :
      (T.rows.map fun x => (x.reminderId, x.occurrenceAt)).Nodup := by
    have hkeys := congrArg (List.map fun a : Nat × Nat × Time × Time => (a.2.1, a.2.2.1)) hT
    rw [List.map_map, List.map_map] at hkeys
    exact hkeys ▸ hs
  cases l with
  | read | candidates now | gate mark =>
      cases h
      exact hs
  | environment =>
      rcases h with rfl | ⟨e, -, rfl⟩
      · exact hs
      · exact List.Nodup.sublist (List.filter_sublist.map _) hs
  | claim mark =>
      rcases h with ⟨e, -, rfl⟩ | ⟨x, hclaim⟩
      · exact hs
      · have hclaimed := claimTx_ok hclaim
        obtain ⟨x, hof, -, T, rfl, hrows⟩ := hclaimed.written
        change (T.rows.map _).Nodup
        rw [hrows, List.map_append, List.nodup_append]
        refine ⟨hs, List.nodup_singleton _, ?_⟩
        intro a ha b hb hab
        obtain ⟨y, hy, rfl⟩ := List.mem_map.mp ha
        rw [List.map_singleton, List.mem_singleton] at hb
        rw [hb] at hab
        obtain ⟨hreminder, hoccurrence⟩ := Prod.mk.inj hab
        obtain ⟨hxr, hxo⟩ := of_decide_eq_true hof
        exact hclaimed.free ⟨y, hy, decide_eq_true ⟨hreminder.trans hxr, hoccurrence.trans hxo⟩⟩
  | remind mark l =>
      obtain ⟨b, rfl, -⟩ := h
      exact hs
  | settle id =>
      obtain ⟨T, rfl, hT⟩ := h
      exact hanchors hT
  | recover ids =>
      obtain ⟨T, rfl, hT⟩ := h
      exact hanchors hT
  | clear ids =>
      obtain ⟨T, rfl, hT⟩ := h
      exact List.Nodup.sublist (hT.map _) hs

/-! ### What lasts -/

theorem Rely.cadence {reminderId : Nat} {daysBefore : Int} {s t : Reminders} (hs : Cadence reminderId daysBefore s)
    (hst : Rely Effect s t) : Cadence reminderId daysBefore t :=
  Rely.stable (fun _ _ _ hact => hact.1.cadence) hst hs

theorem Rely.issued {s t : Reminders} (hs : Issued s) (hst : Rely Effect s t) : Issued t :=
  Rely.stable (fun _ _ _ hact => hact.1.issued) hst hs

/-! ### What edits do -/

theorem editTx_ok {e : Edit} {s t : Reminders} {u : Unit} (h : editTx e s = .ok (u, t)) : Acts .environment s t := by
  unfold editTx at h
  split at h
  next hallowed =>
    cases h
    exact Or.inr ⟨e, hallowed, rfl⟩
  next => cases h

/-- An action that fails changes nothing. -/
theorem Acts.refl {l : Step} (hl : l.mark = none) (s : Reminders) : Acts l s s := by
  cases l with
  | read | candidates now => rfl
  | gate mark | claim mark | remind mark l => cases hl
  | environment => exact Or.inl rfl
  | settle id | recover ids => exact ⟨s.firings, rfl, rfl⟩
  | clear ids => exact ⟨s.firings, rfl, List.Sublist.refl _⟩

/-! ### What the orchestrator does -/

theorem query_rings {α : Type} (f : Notifications → α) : Svc.Does Rings (Notifications.query f) := by
  refine Svc.Does.transaction (fun b a b' htx => ?_) fun b _ _ => Or.inl rfl
  unfold Notifications.answer at htx
  split at htx
  · cases htx
  · cases htx
    exact Or.inl rfl

theorem writeNotificationRow_rings (input : EnqueueInput) (pushDeliveredAt : Option Time) :
    Svc.Does Rings (Notifications.writeNotificationRow .write input pushDeliveredAt) := by
  refine Svc.Does.tryCatch (Svc.Does.bind (Svc.Does.transaction (fun b x b' htx => ?_) fun b _ _ => Or.inl rfl)
    fun _ => Svc.Does.pure _) fun _ => Svc.Does.pure _
  unfold Notifications.createTx at htx
  split at htx
  · obtain ⟨T, hT, -, -, rfl⟩ := Delegate.create_eq_ok.mp htx
    exact Or.inr ⟨rfl, _, (create_eq_some hT).1⟩
  · cases htx

theorem firePush_rings (input : EnqueueInput) : Svc.Does Rings (Notifications.firePush input) := by
  refine Svc.Does.transaction (fun b _ b' htx => ?_) fun b _ _ => Or.inl rfl
  cases htx
  refine Or.inl ?_
  dsimp only
  split
  · rfl
  · rfl

theorem sendRealtime_rings (input : EnqueueInput) (now : Time) :
    Svc.Does Rings (Notifications.sendRealtime .write input now) := by
  refine Svc.Does.bind (writeNotificationRow_rings input _) fun row => ?_
  cases row with
  | none => exact Svc.Does.pure _
  | some row => exact Svc.Does.bind (firePush_rings input) fun _ => Svc.Does.pure _

theorem queueDigest_rings (input : EnqueueInput) (reason : String) :
    Svc.Does Rings (Notifications.queueDigest .write input reason) := by
  refine Svc.Does.bind (writeNotificationRow_rings input _) fun row => ?_
  cases row with
  | none => exact Svc.Does.pure _
  | some row => exact Svc.Does.pure _

/-- A candidate's reminder has its number of days, now and later. -/
def Candidate.Known (c : Candidate) (w : Reminders) : Prop := Cadence c.id c.daysBefore w

theorem candidatesOf_known {w : Reminders} (hw : Issued w) : ∀ c ∈ candidatesOf w, c.Known w := by
  intro c hc
  obtain ⟨x, hx, hcx⟩ := List.mem_filterMap.mp hc
  have hfields : c.id = x.id ∧ c.daysBefore = x.daysBefore := by
    unfold candidateOf at hcx
    split at hcx
    · split at hcx
      · cases hcx
        exact ⟨rfl, rfl⟩
      · cases hcx
    · cases hcx
  rw [Candidate.Known, hfields.1, hfields.2]
  refine ⟨hw x hx, fun y hy hkey => ?_⟩
  have hfound := find_of_mem hy
  rw [hkey, find_of_mem hx] at hfound
  cases hfound
  rfl

theorem Effect.of_acts {l : Step} {s t : Reminders} (hl : l.mark = none) (h : Acts l s t) : Effect l s t :=
  ⟨h, fun mark hmark => by rw [hl] at hmark; cases hmark⟩

section Bell

variable [Notifications.Intl]

theorem enqueueAt_rings (input : EnqueueInput) (now : Time) :
    Svc.Does Rings (Notifications.enqueueAt .write input now) := by
  unfold Notifications.enqueueAt
  split
  · exact sendRealtime_rings input now
  · refine Svc.Does.bind (query_rings _) fun prefs => ?_
    refine Svc.Does.bind (Svc.Does.bind (query_rings _) fun _ => Svc.Does.pure _) fun decision => ?_
    cases decision with
    | suppress reason => exact Svc.Does.pure _
    | queue_digest reason => exact queueDigest_rings input reason
    | send_realtime => exact sendRealtime_rings input now

theorem enqueue_rings (input : EnqueueInput) : Svc.Does Rings (Notifications.enqueue .write input) := by
  unfold Notifications.enqueue
  cases input.now with
  | some now => exact enqueueAt_rings input now
  | none => exact Svc.Does.bind (Svc.Does.query (fun _ => Or.inl rfl) _) fun now => enqueueAt_rings input now

/-! ### What calls do -/

variable {mark : Mark}

theorem deliver_acts (c : Candidate) (claim : ReminderFiring) : Svc.Does (ActsFor mark) (deliver mark c claim) := by
  refine Svc.Does.bind (Svc.Does.zoom (fun l s b hrings => ?_) (enqueue_rings _)) fun result => ?_
  · exact ⟨⟨b, rfl, hrings⟩, rfl, fun other hother => (Option.some.inj hother).symm⟩
  · refine Svc.Does.bind (Svc.Does.transaction (fun s x t htx => ?_) fun s e _ => ?_) fun _ => Svc.Does.pure _
    · exact ⟨settleTx_ok htx, rfl, fun other hother => nomatch hother⟩
    · exact ⟨Acts.refl rfl s, rfl, fun other hother => nomatch hother⟩

theorem fire_acts (c : Candidate) : Svc.Does (ActsFor mark) (fire mark c) := by
  refine Svc.Does.bind (Svc.Does.tryCatch (Svc.Does.bind (Svc.Does.transaction (fun s x t htx => ?_) fun s e htx => ?_)
    fun _ => Svc.Does.pure _) fun e => ?_) fun claimed => ?_
  · exact ⟨Or.inr ⟨x, htx⟩, rfl, fun other hother => (Option.some.inj hother).symm⟩
  · exact ⟨Or.inl ⟨e, htx, rfl⟩, rfl, fun other hother => (Option.some.inj hother).symm⟩
  · split
    · exact Svc.Does.pure _
    · exact Svc.Does.fail _
  · cases claimed with
    | none => exact Svc.Does.pure _
    | some claim => exact Svc.Does.tryCatch (deliver_acts c claim) fun _ => Svc.Does.pure _

theorem processInWindow_acts (dryRun : Bool) (c : Candidate) :
    Svc.Does (ActsFor mark) (processInWindow dryRun mark c) := by
  refine Svc.Does.bind (Svc.Does.query (fun s => ?_) _) fun decision => ?_
  · exact ⟨rfl, rfl, fun other hother => (Option.some.inj hother).symm⟩
  · cases decision with
    | reject_allowlist => exact Svc.Does.pure _
    | reject_sample_percent => exact Svc.Does.pure _
    | process =>
        dsimp only
        split
        · exact Svc.Does.pure _
        · exact fire_acts c

section Run

variable [Umalqura]

/-- The actions on behalf of one candidate, in a state that knows it. -/
theorem processCandidate_acts (now : Time) (dryRun : Bool) (c : Candidate) :
    Svc.Does (fun l s t => Acts l s t ∧ l.safe = true ∧ ∀ mark, l.mark = some mark → mark.OnDay ∧
      mark.reminderId = c.id ∧ mark.daysBefore = c.daysBefore) (processCandidate now dryRun c) := by
  unfold processCandidate
  cases nextOccurrence c.occasion.spec now with
  | error e => exact Svc.Does.pure _
  | ok next =>
      cases next with
      | none => exact Svc.Does.pure _
      | some occurrenceAt =>
          dsimp only
          split
          · exact Svc.Does.pure _
          next hwindow =>
            refine Svc.Does.tryCatch ((processInWindow_acts dryRun c).mono fun l s t hact => ?_) fun _ => Svc.Does.pure _
            refine ⟨hact.1, hact.2.1, fun mark hmark => ?_⟩
            rw [hact.2.2 mark hmark]
            exact ⟨not_not.mp hwindow, rfl, rfl⟩

theorem processCandidate_effect (now : Time) (dryRun : Bool) {candidates : List Candidate} {c : Candidate}
    (hc : c ∈ candidates) {s : Reminders} (hs : ∀ c ∈ candidates, c.Known s) :
    (processCandidate now dryRun c).Ensures (Rely Effect) Effect (fun _ t => ∀ c ∈ candidates, c.Known t) s := by
  refine (processCandidate_acts now dryRun c).carries (fun l s t hs hact => ?_)
    (fun s t hs hst c hc => Rely.cadence (hs c hc) hst) hs
  refine ⟨hact.1, fun mark hmark => ?_⟩
  obtain ⟨hday, hid, hdays⟩ := hact.2.2 mark hmark
  rw [hid, hdays]
  exact ⟨hday, hs c hc⟩

theorem runAt_effect (now : Time) (dryRun : Bool) {s : Reminders} (hs : Issued s) :
    (runAt now dryRun).Ensures (Rely Effect) Effect (fun _ _ => True) s := by
  have hissued : ∀ t, Rely Effect s t → Issued t := fun t ht => Rely.issued hs ht
  refine Svc.Ensures.bind (P := fun _ t => Issued t) ?_ fun staleClaims t ht => ?_
  · refine Svc.Ensures.tryCatch Rely.refl (fun _ _ _ => Rely.trans) (fun _ _ _ => Rely.single) ?_
      fun e t ht => Svc.Ensures.pure (hissued t ht)
    refine Svc.Ensures.transaction (fun t _ => Effect.of_acts rfl rfl) fun t n u ht htx => ?_
    obtain ⟨-, rfl⟩ := answer_ok htx
    exact ⟨Effect.of_acts rfl rfl, hissued _ ht⟩
  refine Svc.Ensures.bind (P := fun _ t => Issued t) (Svc.Ensures.query (fun u _ => Effect.of_acts rfl rfl)
    fun u hu => Rely.issued ht hu) fun enabled u hu => ?_
  split
  · exact Svc.Ensures.pure trivial
  refine Svc.Ensures.bind (P := fun candidates v => ∀ c ∈ candidates, c.Known v) (Svc.Ensures.transaction
    (fun v _ => Effect.of_acts rfl rfl) fun v candidates v' hv htx => ?_) fun candidates v hv => ?_
  · obtain ⟨rfl, rfl⟩ := answer_ok htx
    exact ⟨Effect.of_acts rfl rfl, candidatesOf_known (Rely.issued hu hv)⟩
  · refine Svc.Ensures.bind (Svc.Ensures.collect (fun c hc t ht => processCandidate_effect now dryRun hc ht) hv)
      fun outcomes t _ => Svc.Ensures.pure trivial

theorem runOnce_effect (opts : ReminderRunOptions) {s : Reminders} (hs : Issued s) :
    (runOnce opts).Ensures (Rely Effect) Effect (fun _ _ => True) s := by
  refine Svc.Ensures.bind (P := fun _ t => Issued t) (Svc.Ensures.query (fun t _ => Effect.of_acts rfl rfl)
    fun t ht => Rely.issued hs ht) fun start t ht => ?_
  exact Svc.Ensures.bind (runAt_effect start.1 start.2 ht) fun _ _ _ => Svc.Ensures.pure trivial

end Run

end Bell

theorem attempt_apart {l : Step} {tx : Transaction Nat} (hl : l.mark = none)
    (htx : ∀ s n t, tx s = .ok (n, t) → Acts l s t) : Svc.Does ActsApart (attempt l tx) := by
  refine Svc.Does.tryCatch (Svc.Does.bind (Svc.Does.transaction (fun s n t h => ?_) fun s e _ => ?_)
    fun _ => Svc.Does.pure _) fun _ => Svc.Does.pure _
  · exact ⟨htx s n t h, hl⟩
  · exact ⟨Acts.refl hl s, hl⟩

theorem cleanupStaleClaims_apart (opts : StaleClaimCleanupOptions) :
    Svc.Does ActsApart (cleanupStaleClaims opts) := by
  refine Svc.Does.bind (Svc.Does.query (fun s => ⟨Acts.refl (l := .read) rfl s, rfl⟩) _) fun now => ?_
  dsimp only
  refine Svc.Does.bind (Svc.Does.tryCatch (Svc.Does.bind (Svc.Does.transaction (fun s ids t htx => ?_) fun s e _ => ?_)
    fun _ => Svc.Does.pure _) fun _ => Svc.Does.pure _) fun scan => ?_
  · obtain ⟨-, rfl⟩ := answer_ok htx
    exact ⟨rfl, rfl⟩
  · exact ⟨rfl, rfl⟩
  · cases scan with
    | none => exact Svc.Does.pure _
    | some ids =>
        dsimp only
        split
        · exact Svc.Does.pure _
        · split
          · exact Svc.Does.bind (attempt_apart rfl fun _ _ _ => clearTx_ok) fun _ => Svc.Does.pure _
          · exact Svc.Does.bind (attempt_apart rfl fun _ _ _ => recoverTx_ok) fun _ => Svc.Does.pure _

theorem edit_apart (e : Edit) : Svc.Does ActsApart (Svc.transaction .environment (editTx e)) :=
  Svc.Does.transaction (fun _ _ _ htx => ⟨editTx_ok htx, rfl⟩) fun s _ _ => ⟨Acts.refl rfl s, rfl⟩

/-! ### Runs -/

theorem empty_issued : Issued empty := fun _ hx => nomatch hx

section Program

variable [Notifications.Intl] [Umalqura]

theorem program_effect (c : Call) {s : Reminders} (hs : Issued s) :
    (program c).Ensures (Rely Effect) Effect (fun _ _ => True) s := by
  have hapart {α : Type} {x : Service α} (hx : Svc.Does ActsApart x) :
      x.Ensures (Rely Effect) Effect (fun _ _ => True) s :=
    hx.carries (fun l s t _ hact => Effect.of_acts hact.2 hact.1) (fun _ _ _ _ => trivial) trivial
  cases c with
  | edit e => exact Svc.Ensures.bind (hapart (edit_apart e)) fun _ _ _ => Svc.Ensures.pure trivial
  | runOnce opts => exact Svc.Ensures.bind (runOnce_effect opts hs) fun _ _ _ => Svc.Ensures.pure trivial
  | cleanupStaleClaims opts =>
      exact Svc.Ensures.bind (hapart (cleanupStaleClaims_apart opts)) fun _ _ _ => Svc.Ensures.pure trivial

/-- **A run is a path** of the allowed actions. -/
theorem Run.path {tr : List (Event Reminders Step)} {cfg : Config Reminders Step (Except Err Reply)} (h : Run tr cfg) :
    Path Effect empty tr cfg.state :=
  (Exec.path (fun _ _ _ _ _ _ _ => trivial) (fun c _ hs => program_effect c (Rely.issued empty_issued hs)) h).1

end Program

end Qift.Reminders
