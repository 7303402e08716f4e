import Qift.Reminders.Effects

/-!
# A firing and a notification for each occurrence

* `fires` and `notifies` are the events that write a firing, and a notification, of a reminder and an occurrence.
* `Settled` — the occurrence is claimed, or its reminder is deleted: no claim succeeds any more.
* **`Run.fires_le`** — a firing is written once, by the unique constraint; **`Run.notifies_le`** — so is a notification,
  since a call that claims an occurrence hands it to the orchestrator once.
-/

namespace Qift.Reminders

open Relational Relational.Table Interleaving
open Occasions (Umalqura nextOccurrence)
open Notifications (EnqueueInput)

/-! ### What is written -/

def fires (reminderId : Nat) (occurrenceAt : Time) (e : Event Reminders Step) : Bool :=
  e.post.firings.rows.any fun x => x.isOf reminderId occurrenceAt && (e.pre.firings.find x.id).isNone

/-- The action is on behalf of the reminder and the occurrence. -/
def Step.isFor (reminderId : Nat) (occurrenceAt : Time) (l : Step) : Bool :=
  l.mark.any fun mark => mark.reminderId = reminderId && mark.occurrenceAt = occurrenceAt

def notifies (reminderId : Nat) (occurrenceAt : Time) (e : Event Reminders Step) : Bool :=
  e.lbl.isFor reminderId occurrenceAt &&
    e.post.bell.notifications.rows.any fun x => (e.pre.bell.notifications.find x.id).isNone

variable {reminderId : Nat} {occurrenceAt : Time}

theorem Step.isFor_iff {l : Step} : l.isFor reminderId occurrenceAt = true ↔
    ∃ mark, l.mark = some mark ∧ mark.reminderId = reminderId ∧ mark.occurrenceAt = occurrenceAt := by
  rw [Step.isFor, Option.any_eq_true]
  simp only [Bool.and_eq_true, decide_eq_true_eq]

/-- Where every firing was there before, none is written. -/
theorem fires_false {e : Event Reminders Step}
    (h : ∀ x ∈ e.post.firings.rows, ∃ y ∈ e.pre.firings.rows, y.id = x.id) : fires reminderId occurrenceAt e = false := by
  rw [fires, List.any_eq_false]
  intro x hx
  obtain ⟨y, hy, hyx⟩ := h x hx
  rw [← hyx, find_of_mem hy, Option.isNone_some, Bool.and_false]
  exact Bool.false_ne_true

/-- Firings are written by claims. -/
theorem Acts.claims {l : Step} {s t : Reminders} (h : Acts l s t)
    (hfires : fires reminderId occurrenceAt ⟨s, l, t⟩ = true) :
    l.isFor reminderId occurrenceAt = true ∧ ∃ mark x, l = .claim mark ∧ claimTx mark s = .ok (x, t) := by
  have hold (hrows : ∀ x ∈ t.firings.rows, ∃ y ∈ s.firings.rows, y.id = x.id) :
      l.isFor reminderId occurrenceAt = true ∧ ∃ mark x, l = .claim mark ∧ claimTx mark s = .ok (x, t) := by
    rw [fires_false hrows] at hfires
    cases hfires
  have hanchors {T : Table ReminderFiring.id}
      (hT : T.rows.map ReminderFiring.anchor = s.firings.rows.map ReminderFiring.anchor) :
      ∀ x ∈ T.rows, ∃ y ∈ s.firings.rows, y.id = x.id := by
    intro x hx
    obtain ⟨y, hy, hyx⟩ := List.mem_map.mp (hT ▸ List.mem_map_of_mem hx)
    exact ⟨y, hy, (Prod.mk.inj hyx).1⟩
  cases l with
  | read | candidates now | gate mark =>
      cases h
      exact hold fun x hx => ⟨x, hx, rfl⟩
  | environment =>
      rcases h with rfl | ⟨e, -, rfl⟩
      · exact hold fun x hx => ⟨x, hx, rfl⟩
      · exact hold fun x hx => ⟨x, (mem_deleteMany.mp hx).1, rfl⟩
  | claim mark =>
      rcases h with ⟨e, -, rfl⟩ | ⟨claim, hclaim⟩
      · exact hold fun x hx => ⟨x, hx, rfl⟩
      · refine ⟨Step.isFor_iff.mpr ⟨mark, rfl, ?_⟩, mark, claim, rfl, hclaim⟩
        obtain ⟨y, hof, -, T, rfl, hrows⟩ := (claimTx_ok hclaim).written
        obtain ⟨x, hx, hnew⟩ := List.any_eq_true.mp hfires
        rw [Bool.and_eq_true] at hnew
        change x ∈ T.rows at hx
        rw [hrows] at hx
        rcases List.mem_append.mp hx with hx | hx
        · rw [find_of_mem hx] at hnew
          cases hnew.2
        · rw [List.mem_singleton.mp hx] at hnew
          obtain ⟨hreminder, hoccurrence⟩ := of_decide_eq_true hof
          obtain ⟨hreminder', hoccurrence'⟩ := of_decide_eq_true hnew.1
          exact ⟨hreminder.symm.trans hreminder', hoccurrence.symm.trans hoccurrence'⟩
  | remind mark l =>
      obtain ⟨b, rfl, -⟩ := h
      exact hold fun x hx => ⟨x, hx, rfl⟩
  | settle id =>
      obtain ⟨T, rfl, hT⟩ := h
      exact hold (hanchors hT)
  | recover ids =>
      obtain ⟨T, rfl, hT⟩ := h
      exact hold (hanchors hT)
  | clear ids =>
      obtain ⟨T, rfl, hT⟩ := h
      exact hold fun x hx => ⟨x, hT.subset hx, rfl⟩

theorem Acts.rings {l : Step} {s t : Reminders} (h : Acts l s t)
    (hnotifies : notifies reminderId occurrenceAt ⟨s, l, t⟩ = true) :
    l.isFor reminderId occurrenceAt = true ∧ ∃ mark, l = .remind mark .write ∧
      ∃ x, t.bell.notifications.rows = s.bell.notifications.rows ++ [x] := by
  rw [notifies, Bool.and_eq_true] at hnotifies
  obtain ⟨hfor, hnew⟩ := hnotifies
  refine ⟨hfor, ?_⟩
  obtain ⟨x, hx, hfresh⟩ := List.any_eq_true.mp hnew
  have hold (hrows : t.bell.notifications = s.bell.notifications) : False := by
    rw [hrows] at hx
    rw [find_of_mem hx] at hfresh
    cases hfresh
  obtain ⟨mark, hmark, -⟩ := Step.isFor_iff.mp hfor
  cases l with
  | read | candidates now | environment | settle id | recover ids | clear ids => cases hmark
  | gate other =>
      cases h
      exact (hold rfl).elim
  | claim other =>
      rcases h with ⟨e, -, rfl⟩ | ⟨claim, hclaim⟩
      · exact (hold rfl).elim
      · obtain ⟨y, -, -, T, rfl, -⟩ := (claimTx_ok hclaim).written
        exact (hold rfl).elim
  | remind other l =>
      obtain ⟨b, rfl, hsame | ⟨rfl, hrow⟩⟩ := h
      · exact (hold hsame).elim
      · exact ⟨other, rfl, hrow⟩

/-! ### A firing is written once -/

/-- The occurrence is claimed, or its reminder is deleted. -/
def Settled (reminderId : Nat) (occurrenceAt : Time) (w : Reminders) : Prop :=
  Fired reminderId occurrenceAt w ∧ reminderId < w.nextId ∨ Dead reminderId w

/-- What actions do while stale claims are not deleted. -/
def Safely (l : Step) (s t : Reminders) : Prop := Acts l s t ∧ l.safe = true

theorem Safely.settled {l : Step} {s t : Reminders} (h : Safely l s t) (hs : Settled reminderId occurrenceAt s) :
    Settled reminderId occurrenceAt t := by
  rcases hs with ⟨hfired, hlt⟩ | hdead
  · rcases h.1.fired h.2 hfired hlt with hfired' | hdead
    · refine Or.inl ⟨hfired', ?_⟩
      rcases h.1.reminders with ⟨-, hid⟩ | ⟨e, hallowed, rfl⟩
      · rw [hid]
        exact hlt
      · exact hlt.trans_le hallowed.1
    · exact Or.inr hdead
  · exact Or.inr (h.1.dead hdead)

theorem Claimed.settles {mark : Mark} {s t : Reminders} (h : Claimed mark s t) (hid : mark.reminderId < s.nextId) :
    ¬Settled mark.reminderId mark.occurrenceAt s ∧ Settled mark.reminderId mark.occurrenceAt t := by
  constructor
  · rintro (⟨hfired, -⟩ | ⟨-, hgone⟩)
    · exact h.free hfired
    · obtain ⟨x, hx, hkey⟩ := h.stored
      exact hgone x hx hkey
  · obtain ⟨x, hof, -, T, rfl, hrows⟩ := h.written
    exact Or.inl ⟨⟨x, hrows ▸ List.mem_append_right _ (List.mem_singleton_self x), hof⟩, hid⟩

/-- The action is a claim of the occurrence, and succeeds. -/
def earns (reminderId : Nat) (occurrenceAt : Time) (l : Step) (w : Reminders) : Bool :=
  match l with
  | .claim mark => mark.reminderId = reminderId && mark.occurrenceAt = occurrenceAt && (claimTx mark w).isOk
  | _ => false

/-- The action writes a notification of the occurrence. -/
def spends (reminderId : Nat) (occurrenceAt : Time) (l : Step) (_ : Reminders) : Bool :=
  match l with
  | .remind mark .write => mark.reminderId = reminderId && mark.occurrenceAt = occurrenceAt
  | _ => false

theorem earns_iff {l : Step} {w : Reminders} : earns reminderId occurrenceAt l w = true ↔
    ∃ mark x t, l = .claim mark ∧ claimTx mark w = .ok (x, t) ∧ mark.reminderId = reminderId ∧
      mark.occurrenceAt = occurrenceAt := by
  cases l with
  | claim mark =>
      rcases hclaim : claimTx mark w with e | ⟨x, t⟩
      · simp [earns, hclaim, Except.isOk, Except.toBool]
      · simp [earns, hclaim, Except.isOk, Except.toBool]
  | read | candidates now | environment | gate mark | remind mark l | settle id | recover ids | clear ids =>
      simp [earns]

theorem Effect.turns {l : Step} {s t : Reminders} (h : Effect l s t) (hearns : earns reminderId occurrenceAt l s = true) :
    ¬Settled reminderId occurrenceAt s ∧ Settled reminderId occurrenceAt t := by
  obtain ⟨mark, x, u, rfl, hclaim, rfl, rfl⟩ := earns_iff.mp hearns
  obtain ⟨hact, hmark⟩ := h
  rcases hact with ⟨e, herror, -⟩ | ⟨y, hok⟩
  · rw [hclaim] at herror
    cases herror
  · exact (claimTx_ok hok).settles (hmark mark rfl).2.1

theorem Effect.earns_of_fires {e : Event Reminders Step} (h : Effect e.lbl e.pre e.post)
    (hfires : fires reminderId occurrenceAt e = true) : earns reminderId occurrenceAt e.lbl e.pre = true := by
  obtain ⟨hfor, mark, x, hlbl, hclaim⟩ := h.1.claims hfires
  obtain ⟨other, hother, hreminder, hoccurrence⟩ := Step.isFor_iff.mp hfor
  rw [hlbl] at hother
  cases hother
  exact earns_iff.mpr ⟨mark, x, e.post, hlbl, hclaim, hreminder, hoccurrence⟩

theorem Effect.spends_of_notifies {e : Event Reminders Step} (h : Effect e.lbl e.pre e.post)
    (hnotifies : notifies reminderId occurrenceAt e = true) : spends reminderId occurrenceAt e.lbl e.pre = true := by
  obtain ⟨hfor, mark, hlbl, -⟩ := h.1.rings hnotifies
  obtain ⟨other, hother, hreminder, hoccurrence⟩ := Step.isFor_iff.mp hfor
  rw [hlbl] at hother ⊢
  cases hother
  exact Bool.and_eq_true_iff.mpr ⟨decide_eq_true hreminder, decide_eq_true hoccurrence⟩

/-! ### The orchestrator is called once for each claim -/

/-- Nothing is earned on the bell. -/
def free (_ : Notifications.Step) (_ : Notifications) : Bool := false

/-- The orchestrator spends by writing. -/
def rings (l : Notifications.Step) (_ : Notifications) : Bool := decide (l = .write)

theorem query_free {α : Type} (f : Notifications → α) :
    Svc.Does (Unpriced free rings) (Notifications.query f) :=
  Svc.Does.transaction (fun _ _ _ _ => ⟨rfl, rfl⟩) fun _ _ _ => ⟨rfl, rfl⟩

theorem firePush_free (input : EnqueueInput) :
    Svc.Does (Unpriced free rings) (Notifications.firePush input) :=
  Svc.Does.transaction (fun _ _ _ _ => ⟨rfl, rfl⟩) fun _ _ _ => ⟨rfl, rfl⟩

theorem writeNotificationRow_solvent {β : Type} (input : EnqueueInput) (pushDeliveredAt : Option Time)
    {g : Option Notifications.Notification → Notifications.Service β}
    (hg : ∀ row, (g row).Solvent free rings 0) :
    (Notifications.writeNotificationRow .write input pushDeliveredAt >>= g).Solvent free rings 1 :=
  Svc.Solvent.attempt_bind (fun _ _ => Nat.one_pos)
    (fun _ _ _ _ => Prog.Solvent.mono (Nat.zero_le _) (hg _)) fun _ _ _ => Prog.Solvent.mono (Nat.zero_le _) (hg none)

theorem ActsApart.free {l : Step} {s t : Reminders} (h : ActsApart l s t) :
    Unpriced (earns reminderId occurrenceAt) (spends reminderId occurrenceAt) l s t := by
  obtain ⟨-, hmark⟩ := h
  cases l with
  | read | candidates now | environment | settle id | recover ids | clear ids => exact ⟨rfl, rfl⟩
  | gate mark | claim mark | remind mark l => cases hmark

theorem ActsFor.free {mark : Mark} (hmark : ¬(mark.reminderId = reminderId ∧ mark.occurrenceAt = occurrenceAt)) {l : Step}
    {s t : Reminders} (h : ActsFor mark l s t) :
    Unpriced (earns reminderId occurrenceAt) (spends reminderId occurrenceAt) l s t := by
  have hother : l.isFor reminderId occurrenceAt ≠ true := by
    intro hfor
    obtain ⟨other, hsome, hreminder, hoccurrence⟩ := Step.isFor_iff.mp hfor
    rw [h.2.2 other hsome] at hreminder hoccurrence
    exact hmark ⟨hreminder, hoccurrence⟩
  constructor
  · rw [← Bool.not_eq_true, earns_iff]
    rintro ⟨other, x, u, rfl, -, hreminder, hoccurrence⟩
    exact hother (Step.isFor_iff.mpr ⟨other, rfl, hreminder, hoccurrence⟩)
  · cases l with
    | read | candidates now | environment | gate mark | claim mark | settle id | recover ids | clear ids => rfl
    | remind other l =>
        rw [← Bool.not_eq_true]
        intro hspends
        cases l with
        | read | environment | summary rows consumed | push | consume rows | catchUp rows => cases hspends
        | write => exact hother hspends

theorem sendRealtime_solvent (input : EnqueueInput) (now : Time) :
    (Notifications.sendRealtime .write input now).Solvent free rings 1 := by
  refine writeNotificationRow_solvent input _ fun row => ?_
  cases row with
  | none => exact Svc.Solvent.pure _
  | some row =>
      exact Svc.Solvent.bind_neutral Notifications.empty (firePush_free input) fun _ => Svc.Solvent.pure _

theorem queueDigest_solvent (input : EnqueueInput) (reason : String) :
    (Notifications.queueDigest .write input reason).Solvent free rings 1 := by
  refine writeNotificationRow_solvent input _ fun row => ?_
  cases row with
  | none => exact Svc.Solvent.pure _
  | some row => exact Svc.Solvent.pure _

section Bell

variable [Notifications.Intl]

theorem enqueueAt_solvent (input : EnqueueInput) (now : Time) :
    (Notifications.enqueueAt .write input now).Solvent free rings 1 := by
  unfold Notifications.enqueueAt
  split
  · exact sendRealtime_solvent input now
  · refine Svc.Solvent.bind_neutral Notifications.empty (query_free _) fun prefs => ?_
    refine Svc.Solvent.bind_neutral Notifications.empty
      (Svc.Does.bind (query_free _) fun _ => Svc.Does.pure _) fun decision => ?_
    cases decision with
    | suppress reason => exact Svc.Solvent.pure _
    | queue_digest reason => exact queueDigest_solvent input reason
    | send_realtime => exact sendRealtime_solvent input now

theorem enqueue_solvent (input : EnqueueInput) :
    (Notifications.enqueue .write input).Solvent free rings 1 := by
  unfold Notifications.enqueue
  cases input.now with
  | some now => exact enqueueAt_solvent input now
  | none =>
      exact Svc.Solvent.bind_neutral Notifications.empty (Svc.Does.query (l := Notifications.Step.read) (fun _ => ⟨rfl, rfl⟩) _) fun now =>
        enqueueAt_solvent input now

variable {mark : Mark}

theorem deliver_solvent (hmark : mark.reminderId = reminderId ∧ mark.occurrenceAt = occurrenceAt) (c : Candidate)
    (claim : ReminderFiring) :
    (deliver mark c claim).Solvent (earns reminderId occurrenceAt) (spends reminderId occurrenceAt) 1 := by
  refine Svc.Solvent.bind (Prog.Solvent.zoom (fun l w => rfl) (fun l w => ?_) (enqueue_solvent _)) fun result => ?_
  · cases l with
    | read | environment | summary rows consumed | push | consume rows | catchUp rows => rfl
    | write => exact Bool.and_eq_true_iff.mpr ⟨decide_eq_true hmark.1, decide_eq_true hmark.2⟩
  · refine Svc.Solvent.bind_neutral empty ?_ fun _ => Svc.Solvent.pure _
    exact Svc.Does.transaction (fun _ _ _ _ => ⟨rfl, rfl⟩) fun _ _ _ => ⟨rfl, rfl⟩

theorem fire_solvent (mark : Mark) (c : Candidate) :
    (fire mark c).Solvent (earns reminderId occurrenceAt) (spends reminderId occurrenceAt) 0 := by
  by_cases hmark : mark.reminderId = reminderId ∧ mark.occurrenceAt = occurrenceAt
  · refine Svc.Solvent.attempt_bind (fun _ hspends => nomatch hspends) (fun w claim t hclaim => ?_) fun w e herror => ?_
    · have hearns : earns reminderId occurrenceAt (.claim mark) w = true :=
        earns_iff.mpr ⟨mark, claim, t, rfl, hclaim, hmark⟩
      rw [hearns]
      exact Svc.Solvent.tryCatch (deliver_solvent hmark c claim) fun _ => Svc.Solvent.pure _
    · refine Prog.Solvent.mono (Nat.zero_le _) ?_
      split
      · exact Svc.Solvent.pure _
      · exact Svc.Solvent.fail _
  · exact Svc.Solvent.of_neutral empty ((fire_acts c).mono fun _ _ _ => ActsFor.free hmark)

theorem processInWindow_solvent (dryRun : Bool) (mark : Mark) (c : Candidate) :
    (processInWindow dryRun mark c).Solvent (earns reminderId occurrenceAt) (spends reminderId occurrenceAt) 0 := by
  refine Svc.Solvent.bind_neutral empty (Svc.Does.query (l := Step.gate mark) (fun _ => ⟨rfl, rfl⟩) _) fun decision => ?_
  cases decision with
  | reject_allowlist => exact Svc.Solvent.pure _
  | reject_sample_percent => exact Svc.Solvent.pure _
  | process =>
      dsimp only
      split
      · exact Svc.Solvent.pure _
      · exact fire_solvent mark c

section Run

variable [Umalqura]

theorem processCandidate_solvent (now : Time) (dryRun : Bool) (c : Candidate) :
    (processCandidate now dryRun c).Solvent (earns reminderId occurrenceAt) (spends reminderId occurrenceAt) 0 := by
  unfold processCandidate
  cases nextOccurrence c.occasion.spec now with
  | error e => exact Svc.Solvent.pure _
  | ok next =>
      cases next with
      | none => exact Svc.Solvent.pure _
      | some occurrence =>
          dsimp only
          split
          · exact Svc.Solvent.pure _
          · exact Svc.Solvent.tryCatch (processInWindow_solvent dryRun _ c) fun _ => Svc.Solvent.pure _

theorem runAt_solvent (now : Time) (dryRun : Bool) :
    (runAt now dryRun).Solvent (earns reminderId occurrenceAt) (spends reminderId occurrenceAt) 0 := by
  refine Svc.Solvent.bind_neutral empty (Svc.Does.tryCatch (Svc.Does.transaction (fun _ _ _ _ => ⟨rfl, rfl⟩)
    fun _ _ _ => ⟨rfl, rfl⟩) fun _ => Svc.Does.pure _) fun staleClaims => ?_
  refine Svc.Solvent.bind_neutral empty (Svc.Does.query (l := Step.read) (fun _ => ⟨rfl, rfl⟩) _) fun enabled => ?_
  split
  · exact Svc.Solvent.pure _
  · refine Svc.Solvent.bind_neutral empty (Svc.Does.transaction (l := Step.candidates now) (fun _ _ _ _ => ⟨rfl, rfl⟩)
      fun _ _ _ => ⟨rfl, rfl⟩) fun candidates => ?_
    exact Svc.Solvent.bind (Svc.Solvent.collect fun c _ => processCandidate_solvent now dryRun c) fun _ =>
      Svc.Solvent.pure _

theorem program_solvent (c : Call) :
    Prog.Solvent (earns reminderId occurrenceAt) (spends reminderId occurrenceAt) 0 (program c) := by
  cases c with
  | edit e =>
      exact Svc.Solvent.bind_neutral empty ((edit_apart e).mono fun _ _ _ => ActsApart.free) fun _ => Svc.Solvent.pure _
  | runOnce opts =>
      refine Svc.Solvent.bind (Svc.Solvent.bind_neutral empty (Svc.Does.query (l := Step.read) (fun _ => ⟨rfl, rfl⟩) _)
        fun start => ?_) fun _ => Svc.Solvent.pure _
      exact Svc.Solvent.bind (runAt_solvent start.1 start.2) fun _ => Svc.Solvent.pure _
  | cleanupStaleClaims opts =>
      exact Svc.Solvent.bind_neutral empty ((cleanupStaleClaims_apart opts).mono fun _ _ _ => ActsApart.free) fun _ =>
        Svc.Solvent.pure _

/-! ### Once -/

variable {tr : List (Event Reminders Step)} {cfg : Config Reminders Step (Except Err Reply)}

theorem Run.earns_le (h : Run tr cfg) (hsafe : ∀ e ∈ tr, e.lbl.safe = true) (reminderId : Nat) (occurrenceAt : Time) :
    (tr.countP fun e => earns reminderId occurrenceAt e.lbl e.pre) ≤ 1 := by
  refine Path.countP_le_one (P := Settled reminderId occurrenceAt) (fun l s t hact hs => ?_)
    (fun l s t hact hearns => hact.1.turns hearns) ((Run.path h).restrict hsafe)
  exact Safely.settled ⟨hact.1.1, hact.2⟩ hs

theorem Run.fires_le (h : Run tr cfg) (hsafe : ∀ e ∈ tr, e.lbl.safe = true) (reminderId : Nat) (occurrenceAt : Time) :
    tr.countP (fires reminderId occurrenceAt) ≤ 1 := by
  refine le_trans (List.countP_mono_left fun e he hfires => ?_) (Run.earns_le h hsafe reminderId occurrenceAt)
  obtain ⟨-, -, -, -, hact, -⟩ := (Run.path h).split he
  exact hact.earns_of_fires hfires

theorem Run.notifies_le (h : Run tr cfg) (hsafe : ∀ e ∈ tr, e.lbl.safe = true) (reminderId : Nat)
    (occurrenceAt : Time) : tr.countP (notifies reminderId occurrenceAt) ≤ 1 := by
  have hspends : (tr.countP fun e => spends reminderId occurrenceAt e.lbl e.pre) ≤
      tr.countP fun e => earns reminderId occurrenceAt e.lbl e.pre := Exec.solvent program_solvent h
  refine le_trans (List.countP_mono_left fun e he hnotifies => ?_)
    (hspends.trans (Run.earns_le h hsafe reminderId occurrenceAt))
  obtain ⟨-, -, -, -, hact, -⟩ := (Run.path h).split he
  exact hact.spends_of_notifies hnotifies

end Run

end Bell

end Qift.Reminders
