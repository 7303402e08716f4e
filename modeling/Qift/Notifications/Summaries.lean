import Qift.Lib.Proviso
import Qift.Lib.Row
import Qift.Notifications.Digest

/-!
# What is summed up

* `Known` — rows that a worker read as queued: they are stored as it read them, and none of them is a summary.
* `Effect` — what an action does to the notifications, by its label; `DigestRun.path` puts every interleaving on a path
  of effects.
* A run that has marked some of its rows may write one summary: `program_solvent` is the credit of a run.
* **`DigestRun.digested_once`** — as long as a run finds its rows all waiting or all taken, no row is counted twice and
  every count is what its run has marked; `not_digested_once` is an interleaving that breaks both.
-/

namespace Qift.Notifications

open Relational Interleaving

/-! ### Effects -/

/-- Rows that were read as queued. -/
def Known (rows : List Pending) (w : Notifications) : Prop :=
  ∀ row ∈ rows, ∃ x, w.notifications.find row.id = some x ∧ x.pending = row ∧ x.type ≠ SUMMARY_TYPE

/-- What the label of an action says of the state. -/
def Step.Sound (l : Step) (w : Notifications) : Prop :=
  match l with
  | .summary rows _ | .consume rows | .catchUp rows => Known rows w
  | .read | .environment | .write | .push => True

/-- A row that an action with the label writes. -/
def Step.Writes (l : Step) (x : Notification) : Prop :=
  match l with
  | .write => True
  | .summary rows _ => x.type = SUMMARY_TYPE ∧ x.body = some (composeDigestBody (summariseCategories rows))
  | _ => False

/-- The rows an action marks. -/
def Step.marks : Step → Option (List Pending)
  | .consume rows | .catchUp rows => some rows
  | _ => none

/-- The state in which those of the rows that wait are marked. -/
def marked (rows : List Pending) (now : Time) (w : Notifications) : Notifications where
  now := w.now
  environment := w.environment
  outage := w.outage
  users := w.users
  notifications := w.notifications.updateMany (Waiting rows) (Notification.deliver now) (Notification.deliver_id now)
  preferences := w.preferences
  pushes := w.pushes

/-- What an action does to the notifications. -/
inductive Move (l : Step) : Notifications → Notifications → Prop
  | idle {w w' : Notifications} (hl : l.marks = none ∨ w.outage.writes = true)
      (hrows : w'.notifications = w.notifications) : Move l w w'
  | insert {w : Notifications} (x : Notification) (t : Table Notification.id) (hl : l.Writes x)
      (hcreate : w.notifications.create x = some t) : Move l w { w with notifications := t }
  | mark {w : Notifications} (rows : List Pending) (now : Time) (hl : l.marks = some rows)
      (hwrites : w.outage.writes = false) : Move l w (marked rows now w)

/-- An action: what its label says is so, and what it does. -/
def Effect (l : Step) (w w' : Notifications) : Prop := l.Sound w ∧ Move l w w'

/-- What is fixed of a stored row. -/
def Fixed (x y : Notification) : Prop :=
  y.pending = x.pending ∧ y.type = x.type ∧ (x.pushDeliveredAt ≠ none → y.pushDeliveredAt ≠ none)

theorem Fixed.refl (x : Notification) : Fixed x x := ⟨rfl, rfl, id⟩

/-- Rows stay, and a stamp stays on its row. -/
theorem Effect.evolves {l : Step} {w w' : Notifications} (h : Effect l w w') :
    w.notifications.Evolves Fixed w'.notifications := by
  cases h.2 with
  | idle _ hrows =>
      rw [hrows]
      exact Table.Evolves.refl Fixed.refl _
  | insert x t _ hcreate => exact Table.Evolves.create Fixed.refl hcreate
  | mark rows now _ _ =>
      refine Table.Evolves.updateMany Fixed.refl rfl (Notification.deliver_id now) fun x _ _ => ?_
      exact ⟨rfl, rfl, fun _ => nofun⟩

theorem Effect.known {l : Step} {w w' : Notifications} (h : Effect l w w') {rows : List Pending} (hrows : Known rows w) :
    Known rows w' := by
  intro row hrow
  obtain ⟨x, hx, hpending, htype⟩ := hrows row hrow
  obtain ⟨y, hy, hsame, hkind, -⟩ := h.evolves row.id x hx
  exact ⟨y, hy, hsame.trans hpending, hkind ▸ htype⟩

theorem Step.Sound.stable {l : Step} {s t : Notifications} (h : Rely Effect s t) (hs : l.Sound s) : l.Sound t := by
  have hknown {rows : List Pending} (hrows : Known rows s) : Known rows t :=
    Rely.stable (fun _ _ _ heffect => heffect.known) h hrows
  cases l with
  | summary rows n => exact hknown hs
  | consume rows => exact hknown hs
  | catchUp rows => exact hknown hs
  | read | environment | write | push => trivial

/-- A query. -/
theorem Effect.read (w : Notifications) : Effect .read w w := ⟨trivial, .idle (Or.inl rfl) rfl⟩

theorem Effect.push {w w' : Notifications} (h : w'.notifications = w.notifications) : Effect .push w w' :=
  ⟨trivial, .idle (Or.inl rfl) h⟩

/-! ### What is read as queued -/

theorem known_queuedRows (w : Notifications) : Known (queuedRows w) w := by
  intro row hrow
  obtain ⟨x, hx, rfl⟩ := List.mem_map.mp hrow
  obtain ⟨hmem, hqueued⟩ := List.mem_filter.mp hx
  simp only [ne_eq, decide_not, Bool.and_eq_true, Bool.not_eq_true', decide_eq_false_iff_not] at hqueued
  exact ⟨x, Table.find_of_mem hmem, rfl, hqueued.2⟩

/-- A user's rows are among those that were read. -/
theorem Known.user {pending : List Pending} {w : Notifications} (h : Known pending w) {turn : String × List Pending}
    (hturn : turn ∈ byUser pending) : Known turn.2 w := by
  obtain ⟨userId, -, rfl⟩ := List.mem_map.mp hturn
  exact fun row hrow => h row (List.mem_filter.mp hrow).1

/-! ### The calls -/

/-- A call whose row its label allows. -/
def Step.Tells (l : Step) (input : EnqueueInput) : Prop := ∀ pushDeliveredAt w, l.Writes (written input pushDeliveredAt w)

section Calls

variable [Intl] {s : Notifications}

omit [Intl] in
/-- What the others do leaves what a label says as it is. -/
theorem query_ensures {α : Type} (l : Step) (f : Notifications → α) (hs : l.Sound s) :
    (query f).Ensures (Rely Effect) Effect (fun _ t => l.Sound t) s := by
  refine Svc.Ensures.transaction (fun t _ => Effect.read t) fun t a u ht htx => ?_
  have hu : t = u := by
    unfold answer at htx
    split at htx
    · cases htx
    · cases htx
      rfl
  subst hu
  exact ⟨Effect.read t, hs.stable ht⟩

omit [Intl] in
theorem writeNotificationRow_ensures {l : Step} {input : EnqueueInput} (pushDeliveredAt : Option Time)
    (hl : l.marks = none) (htells : l.Tells input) (hs : l.Sound s) :
    (writeNotificationRow l input pushDeliveredAt).Ensures (Rely Effect) Effect (fun _ t => l.Sound t) s := by
  refine Svc.Ensures.attempt (fun t b u ht htx => ?_) fun t e ht _ => ?_
  · rw [createTx_eq] at htx
    split at htx
    · cases htx
      obtain ⟨table, hcreate⟩ := create_written input pushDeliveredAt t
      have hstored : stored input pushDeliveredAt t = { t with notifications := table } := by
        rw [stored, hcreate]
      have heffect : Effect l t (stored input pushDeliveredAt t) := by
        rw [hstored]
        exact ⟨hs.stable ht, .insert _ table (htells _ _) hcreate⟩
      exact ⟨heffect, hs.stable (ht.trans (Rely.single heffect))⟩
    · cases htx
  · exact ⟨⟨hs.stable ht, .idle (Or.inl hl) rfl⟩, Svc.Ensures.pure (hs.stable ht)⟩

omit [Intl] in
theorem firePush_ensures (l : Step) (input : EnqueueInput) (hs : l.Sound s) :
    (firePush input).Ensures (Rely Effect) Effect (fun _ t => l.Sound t) s := by
  refine Svc.Ensures.transaction (fun t _ => Effect.push rfl) fun t a u ht htx => ?_
  obtain rfl := Tx.modify_eq_ok.mp htx
  have heffect : Effect .push t (if isPushDeliveryEnabled t then { t with pushes := t.pushes ++ [pushOf input] } else t) := by
    refine Effect.push ?_
    split <;> rfl
  exact ⟨heffect, hs.stable (ht.trans (Rely.single heffect))⟩

omit [Intl] in
theorem sendRealtime_ensures {l : Step} {input : EnqueueInput} (now : Time) (hl : l.marks = none)
    (htells : l.Tells input) (hs : l.Sound s) :
    (sendRealtime l input now).Ensures (Rely Effect) Effect (fun _ t => l.Sound t) s := by
  refine Svc.Ensures.bind (writeNotificationRow_ensures _ hl htells hs) fun row t ht => ?_
  cases row with
  | none => exact Svc.Ensures.pure ht
  | some row => exact Svc.Ensures.bind (firePush_ensures l input ht) fun _ u hu => Svc.Ensures.pure hu

omit [Intl] in
theorem queueDigest_ensures {l : Step} {input : EnqueueInput} (reason : String) (hl : l.marks = none)
    (htells : l.Tells input) (hs : l.Sound s) :
    (queueDigest l input reason).Ensures (Rely Effect) Effect (fun _ t => l.Sound t) s := by
  refine Svc.Ensures.bind (writeNotificationRow_ensures _ hl htells hs) fun row t ht => ?_
  cases row with
  | none => exact Svc.Ensures.pure ht
  | some row => exact Svc.Ensures.pure ht

theorem enqueueAt_ensures {l : Step} {input : EnqueueInput} (now : Time) (hl : l.marks = none) (htells : l.Tells input)
    (hs : l.Sound s) : (enqueueAt l input now).Ensures (Rely Effect) Effect (fun _ t => l.Sound t) s := by
  unfold enqueueAt
  split
  · exact sendRealtime_ensures now hl htells hs
  · refine Svc.Ensures.bind (query_ensures l _ hs) fun prefs t ht => ?_
    refine Svc.Ensures.bind (P := fun _ t => l.Sound t)
      (Svc.Ensures.bind (query_ensures l _ ht) fun _ u hu => Svc.Ensures.pure hu) fun decision u hu => ?_
    cases decision with
    | suppress reason => exact Svc.Ensures.pure hu
    | queue_digest reason => exact queueDigest_ensures reason hl htells hu
    | send_realtime => exact sendRealtime_ensures now hl htells hu

theorem enqueue_ensures {l : Step} {input : EnqueueInput} (hl : l.marks = none) (htells : l.Tells input)
    (hs : l.Sound s) : (enqueue l input).Ensures (Rely Effect) Effect (fun _ t => l.Sound t) s := by
  unfold enqueue
  cases input.now with
  | some now => exact enqueueAt_ensures now hl htells hs
  | none =>
      refine Svc.Ensures.bind (P := fun _ t => l.Sound t)
        (Svc.Ensures.query (fun t _ => Effect.read t) fun t ht => hs.stable ht) fun now t ht => ?_
      exact enqueueAt_ensures now hl htells ht

omit [Intl] in
theorem markDelivered_ensures {l : Step} {rows : List Pending} (now : Time) (hl : l.marks = some rows)
    (hsound : ∀ t, Known rows t → l.Sound t) (hs : Known rows s) :
    (markDelivered l rows now).Ensures (Rely Effect) Effect (fun _ t => Known rows t) s := by
  have hknown {t : Notifications} (ht : Rely Effect s t) : Known rows t :=
    Rely.stable (fun _ _ _ heffect => heffect.known) ht hs
  unfold markDelivered
  split
  · exact Svc.Ensures.pure hs
  · intro t ht
    unfold markTx
    by_cases hwrites : t.outage.writes = true
    · simp only [hwrites, if_true]
      exact ⟨⟨hsound t (hknown ht), .idle (Or.inr hwrites) rfl⟩, nofun⟩
    · have heffect : Effect l t (marked rows now t) :=
        ⟨hsound t (hknown ht), .mark rows now hl (eq_false_of_ne_true hwrites)⟩
      simp only [hwrites, Bool.false_eq_true, if_false]
      exact ⟨heffect, fun _ _ => hknown (ht.trans (Rely.single heffect))⟩

omit [Intl] in
theorem summary_tells (userId : String) (rows : List Pending) (consumed : Nat) (now : Time) :
    (Step.summary rows consumed).Tells (summaryOf userId rows now) := fun _ _ => ⟨rfl, rfl⟩

/-- Whatever the others do, and whatever fails: what is true of a state for good is true afterwards. -/
theorem digestUser_ensures (opts : DigestRunOptions) (dryRun : Bool) (now : Time) (userId : String) {rows : List Pending}
    (hs : Known rows s) :
    (digestUser opts dryRun now userId rows).Ensures (Rely Effect) Effect (fun _ _ => True) s := by
  have hcatch {α : Type} {x : Service α} {handler : Err → Service α} {t : Notifications}
      (hx : x.Ensures (Rely Effect) Effect (fun _ _ => True) t)
      (hh : ∀ e u, (handler e).Ensures (Rely Effect) Effect (fun _ _ => True) u) :
      (Svc.tryCatch x handler).Ensures (Rely Effect) Effect (fun _ _ => True) t :=
    Svc.Ensures.tryCatch Rely.refl (fun _ _ _ => Rely.trans) (fun _ _ _ => Rely.single) hx fun e u _ => hh e u
  refine hcatch ?_ fun e u => Svc.Ensures.pure trivial
  refine Svc.Ensures.bind (P := fun _ t => Known rows t) (query_ensures (.consume rows) _ hs) fun prefs t ht => ?_
  unfold digestFor
  split
  · exact Svc.Ensures.bind (markDelivered_ensures now rfl (fun _ h => h) ht) fun _ _ _ => Svc.Ensures.pure trivial
  split
  · exact Svc.Ensures.pure trivial
  split
  · exact Svc.Ensures.pure trivial
  split
  · exact Svc.Ensures.pure trivial
  refine Svc.Ensures.bind (markDelivered_ensures now rfl (fun _ h => h) ht) fun consumed u hu => ?_
  split
  · exact Svc.Ensures.pure trivial
  · refine hcatch ?_ fun e v => Svc.Ensures.pure trivial
    exact Svc.Ensures.bind (enqueue_ensures (l := .summary rows consumed) rfl (summary_tells userId rows consumed now) hu)
      fun _ _ _ => Svc.Ensures.pure trivial

theorem digestUsers_ensures (opts : DigestRunOptions) (dryRun : Bool) (now : Time) (turns : List (String × List Pending))
    (stats : DigestRunResult) (hs : ∀ turn ∈ turns, Known turn.2 s) :
    (digestUsers opts dryRun now turns stats).Ensures (Rely Effect) Effect (fun _ _ => True) s := by
  induction turns generalizing s stats with
  | nil => exact Svc.Ensures.pure trivial
  | cons turn rest ih =>
      have hturn := digestUser_ensures opts dryRun now turn.1 (hs turn List.mem_cons_self)
      have hreach := hturn.reach Rely.refl (fun _ _ _ => Rely.trans) fun _ _ _ => Rely.single
      refine Svc.Ensures.bind (P := fun _ t => Rely Effect s t) (Prog.Meets.mono (fun _ _ hr _ _ => hr.1) hreach)
        fun outcome t ht => ih (stats.add outcome) fun turn' hturn' => ?_
      exact Rely.stable (fun _ _ _ heffect => heffect.known) ht (hs turn' (List.mem_cons_of_mem _ hturn'))

theorem runOnce_ensures (opts : DigestRunOptions) :
    (runOnce opts).Ensures (Rely Effect) Effect (fun _ _ => True) s := by
  have hread {α : Type} (f : Notifications → α) {t : Notifications} :
      (Svc.query .read f : Service α).Ensures (Rely Effect) Effect (fun _ _ => True) t :=
    Svc.Ensures.query (fun u _ => Effect.read u) fun _ _ => trivial
  have hrun (now : Time) {t : Notifications} : (runAt opts now).Ensures (Rely Effect) Effect (fun _ _ => True) t := by
    refine Svc.Ensures.bind (hread _) fun dry u _ => ?_
    refine Svc.Ensures.bind (hread _) fun enabled u _ => ?_
    dsimp only
    split
    · exact Svc.Ensures.pure trivial
    · refine Svc.Ensures.bind (P := fun pending v => Known pending v) ?_ fun pending v hv =>
        digestUsers_ensures opts _ now _ _ fun turn hturn => hv.user hturn
      refine Svc.Ensures.transaction (fun v _ => Effect.read v) fun v a v' _ htx => ?_
      unfold answer at htx
      split at htx
      · cases htx
      · cases htx
        exact ⟨Effect.read v, known_queuedRows v⟩
  unfold runOnce
  cases opts.now with
  | some now => exact hrun now
  | none => exact Svc.Ensures.bind (hread _) fun now _ _ => hrun now

theorem program_ensures (call : Call) : (program call).Ensures (Rely Effect) Effect (fun _ _ => True) s := by
  cases call with
  | enqueue input =>
      exact Svc.Ensures.bind (enqueue_ensures (l := .write) rfl (fun _ _ => trivial) trivial)
        fun _ _ _ => Svc.Ensures.pure trivial
  | runOnce opts => exact Svc.Ensures.bind (runOnce_ensures opts) fun _ _ _ => Svc.Ensures.pure trivial
  | environment c =>
      have heffect (t : Notifications) : Effect .environment t (c.apply t) :=
        ⟨trivial, .idle (Or.inl rfl) (c.apply_notifications t)⟩
      show (Svc.transaction .environment (Tx.modify c.apply) : Service Unit).Ensures (Rely Effect) Effect _ s
      refine Svc.Ensures.transaction (fun t _ => ⟨trivial, .idle (Or.inl rfl) rfl⟩) fun t a u _ htx => ?_
      obtain rfl := Tx.modify_eq_ok.mp htx
      exact ⟨heffect t, trivial⟩

theorem DigestRun.path {tr : List (Event Notifications Step)} {cfg : Config Notifications Step (Except Err Unit)}
    (h : DigestRun tr cfg) : Path Effect empty tr cfg.state :=
  (Exec.path (Q := fun _ _ => True) (fun _ _ _ _ _ => trivial) (fun call _ _ => (program_ensures call).meets) h).1

/-! ### One summary for each time rows are marked -/

/-- A run marks rows, and at least one of them was waiting. -/
def earns (p : List Pending → Nat → Bool) (l : Step) (w : Notifications) : Bool :=
  match l with
  | .consume rows => !w.outage.writes && decide (0 < waiting rows w) && p rows (waiting rows w)
  | _ => false

/-- A summary is handed to the database. -/
def spends (p : List Pending → Nat → Bool) (l : Step) (_ : Notifications) : Bool :=
  match l with
  | .summary rows consumed => p rows consumed
  | _ => false

variable (p : List Pending → Nat → Bool)

/-- An action that is neither. -/
def Step.Plain (l : Step) : Prop :=
  match l with
  | .consume _ | .summary _ _ => False
  | _ => True

omit [Intl] in
theorem Step.Plain.unpriced {l : Step} (h : l.Plain) (s t : Notifications) : Unpriced (earns p) (spends p) l s t := by
  cases l with
  | consume | summary => exact h.elim
  | read | environment | write | push | catchUp => exact ⟨rfl, rfl⟩

omit [Intl] in
theorem transaction_plain {α : Type} {l : Step} (hl : l.Plain) (tx : Transaction α) :
    Svc.Does (Unpriced (earns p) (spends p)) (Svc.transaction l tx) :=
  Svc.Does.transaction (fun s _ t _ => hl.unpriced p s t) fun s _ _ => hl.unpriced p s s

omit [Intl] in
theorem query_plain {α : Type} (f : Notifications → α) :
    Svc.Does (Unpriced (earns p) (spends p)) (query f) := transaction_plain p (by trivial) _

/-- What is left to do about a row that may be a summary. -/
def priceOf (l : Step) : Nat := (spends p l empty).toNat

omit [Intl] in
theorem writeNotificationRow_solvent (l : Step) (hl : ∀ s, earns p l s = false) (input : EnqueueInput)
    (pushDeliveredAt : Option Time) :
    (writeNotificationRow l input pushDeliveredAt).Solvent (earns p) (spends p) (priceOf p l) := by
  refine Svc.Solvent.tryCatch ?_ fun _ => Svc.Solvent.pure _
  refine Svc.Solvent.transaction_bind (fun s hs => ?_) fun _ _ _ _ => Svc.Solvent.pure _
  have hsame : spends p l empty = spends p l s := by
    cases l <;> rfl
  rw [priceOf, hsame, hs]
  exact Nat.one_pos

omit [Intl] in
theorem sendRealtime_solvent (l : Step) (hl : ∀ s, earns p l s = false) (input : EnqueueInput) (now : Time) :
    (sendRealtime l input now).Solvent (earns p) (spends p) (priceOf p l) := by
  refine Svc.Solvent.bind (writeNotificationRow_solvent p l hl input _) fun row => ?_
  cases row with
  | none => exact Svc.Solvent.pure _
  | some row =>
      exact Svc.Solvent.bind_neutral empty (transaction_plain p (by trivial) _) fun _ => Svc.Solvent.pure _

theorem enqueueAt_solvent (l : Step) (hl : ∀ s, earns p l s = false) (input : EnqueueInput) (now : Time) :
    (enqueueAt l input now).Solvent (earns p) (spends p) (priceOf p l) := by
  unfold enqueueAt
  split
  · exact sendRealtime_solvent p l hl input now
  · refine Svc.Solvent.bind_neutral empty (query_plain p _) fun prefs => ?_
    refine Svc.Solvent.bind_neutral empty (Svc.Does.bind (query_plain p _) fun _ => Svc.Does.pure _) fun decision => ?_
    cases decision with
    | suppress reason => exact Svc.Solvent.pure _
    | queue_digest reason =>
        refine Svc.Solvent.bind (writeNotificationRow_solvent p l hl input _) fun row => ?_
        cases row with
        | none => exact Svc.Solvent.pure _
        | some row => exact Svc.Solvent.pure _
    | send_realtime => exact sendRealtime_solvent p l hl input now

theorem enqueue_solvent (l : Step) (hl : ∀ s, earns p l s = false) (input : EnqueueInput) :
    (enqueue l input).Solvent (earns p) (spends p) (priceOf p l) := by
  unfold enqueue
  cases input.now with
  | some now => exact enqueueAt_solvent p l hl input now
  | none =>
      refine Svc.Solvent.bind_neutral empty ?_ fun now => enqueueAt_solvent p l hl input now
      exact Svc.Does.query (fun s => Step.Plain.unpriced p (by trivial) s s) _

theorem digestRows_solvent (userId : String) (rows : List Pending) (now : Time) :
    (digestRows userId rows now).Solvent (earns p) (spends p) 0 := by
  unfold digestRows markDelivered
  split
  · exact Svc.Solvent.pure _
  · refine Svc.Solvent.transaction_bind (fun s hs => absurd hs (by simp [spends])) fun s consumed t htx => ?_
    split
    · exact Svc.Solvent.pure _
    · rename_i hconsumed
      unfold markTx at htx
      split at htx
      · cases htx
      rename_i hwrites
      obtain ⟨rfl, -⟩ := Delegate.updateMany_eq_ok.mp htx
      have hcredit : (0 + (earns p (.consume rows) s).toNat - (spends p (.consume rows) s).toNat) =
          priceOf p (.summary rows (waiting rows s)) := by
        have hpos : 0 < waiting rows s := Nat.pos_of_ne_zero hconsumed
        simp [earns, spends, priceOf, hwrites, hpos]
      rw [hcredit]
      refine Svc.Solvent.tryCatch ?_ fun _ => Svc.Solvent.pure _
      exact Svc.Solvent.bind (enqueue_solvent p _ (fun _ => rfl) _) fun _ => Svc.Solvent.pure _

theorem digestUser_solvent (opts : DigestRunOptions) (dryRun : Bool) (now : Time) (userId : String)
    (rows : List Pending) : (digestUser opts dryRun now userId rows).Solvent (earns p) (spends p) 0 := by
  refine Svc.Solvent.tryCatch ?_ fun _ => Svc.Solvent.pure _
  refine Svc.Solvent.bind_neutral empty (query_plain p _) fun prefs => ?_
  unfold digestFor
  split
  · refine Svc.Solvent.bind_neutral empty ?_ fun _ => Svc.Solvent.pure _
    unfold markDelivered
    split
    · exact Svc.Does.pure _
    · exact transaction_plain p (by trivial) _
  split
  · exact Svc.Solvent.pure _
  split
  · exact Svc.Solvent.pure _
  split
  · exact Svc.Solvent.pure _
  exact digestRows_solvent p userId rows now

theorem digestUsers_solvent (opts : DigestRunOptions) (dryRun : Bool) (now : Time) (turns : List (String × List Pending))
    (stats : DigestRunResult) : (digestUsers opts dryRun now turns stats).Solvent (earns p) (spends p) 0 := by
  induction turns generalizing stats with
  | nil => exact Svc.Solvent.pure _
  | cons turn rest ih =>
      exact Svc.Solvent.bind (digestUser_solvent p opts dryRun now turn.1 turn.2) fun outcome => ih (stats.add outcome)

/-- **A run sums up no more often than it marks.** -/
theorem program_solvent (call : Call) : (program call).Solvent (earns p) (spends p) 0 := by
  have hread {α : Type} (f : Notifications → α) :
      Svc.Does (Unpriced (earns p) (spends p)) (Svc.query .read f : Service α) :=
    Svc.Does.query (fun s => Step.Plain.unpriced p (by trivial) s s) f
  cases call with
  | enqueue input =>
      exact Svc.Solvent.bind (enqueue_solvent p .write (fun _ => rfl) input) fun _ => Svc.Solvent.pure _
  | environment c =>
      show (Svc.transaction .environment (Tx.modify c.apply) : Service Unit).Solvent (earns p) (spends p) 0
      exact Svc.Solvent.of_neutral empty (transaction_plain p (by trivial) _)
  | runOnce opts =>
      refine Svc.Solvent.bind ?_ fun _ => Svc.Solvent.pure _
      have hrun (now : Time) : (runAt opts now).Solvent (earns p) (spends p) 0 := by
        refine Svc.Solvent.bind_neutral empty (hread _) fun dry => ?_
        refine Svc.Solvent.bind_neutral empty (hread _) fun enabled => ?_
        dsimp only
        split
        · exact Svc.Solvent.pure _
        · exact Svc.Solvent.bind_neutral empty (query_plain p _) fun pending => digestUsers_solvent p opts _ now _ _
      unfold runOnce
      cases opts.now with
      | some now => exact hrun now
      | none => exact Svc.Solvent.bind_neutral empty (hread _) fun now => hrun now

/-! ### Whole markings -/

omit [Intl] in
/-- The rows are all waiting when a run marks them, or none is. -/
def Whole (e : Event Notifications Step) : Prop :=
  match e.lbl with
  | .consume rows => waiting rows e.pre = 0 ∨ waiting rows e.pre = rows.length
  | _ => True

instance (e : Event Notifications Step) : Decidable (Whole e) := by
  unfold Whole
  split <;> infer_instance

/-- The event hands a summary to the database that counts a notification. -/
def Counts (id : Nat) (e : Event Notifications Step) : Bool :=
  match e.lbl with
  | .summary rows _ => decide (id ∈ rows.map Pending.id)
  | _ => false

/-- The notification is stored and has its stamp. -/
def Delivered (id : Nat) (w : Notifications) : Prop :=
  ∃ x, w.notifications.find id = some x ∧ x.pushDeliveredAt ≠ none

omit [Intl] in
theorem Effect.delivered {l : Step} {w w' : Notifications} (h : Effect l w w') {id : Nat} (hid : Delivered id w) :
    Delivered id w' := by
  obtain ⟨x, hx, hstamp⟩ := hid
  obtain ⟨y, hy, -, -, hkept⟩ := h.evolves id x hx
  exact ⟨y, hy, hkept hstamp⟩

/-- A run that includes the notification marks some of its rows. -/
def taking (id : Nat) : List Pending → Nat → Bool := fun rows _ => decide (id ∈ rows.map Pending.id)

omit [Intl] in
theorem not_delivered_of_waiting {rows : List Pending} {w : Notifications} (hall : waiting rows w = rows.length)
    {id : Nat} (hid : id ∈ rows.map Pending.id) : ¬Delivered id w := by
  rintro ⟨x, hx, hstamp⟩
  have hcount : w.notifications.count (Waiting rows) = (rows.map Pending.id).length := by
    rw [List.length_map]
    exact hall
  obtain ⟨y, hy, hwaits⟩ := Table.count_eq_length (t := w.notifications)
    (q := fun x : Notification => decide (x.pushDeliveredAt = none)) hcount hid
  rw [hx] at hy
  cases hy
  exact hstamp (of_decide_eq_true hwaits)

omit [Intl] in
theorem marked_delivered {rows : List Pending} {w : Notifications} (h : Known rows w) (now : Time) {id : Nat}
    (hid : id ∈ rows.map Pending.id) : Delivered id (marked rows now w) := by
  obtain ⟨row, hrow, rfl⟩ := List.mem_map.mp hid
  obtain ⟨x, hx, -, -⟩ := h row hrow
  refine ⟨_, Table.find_updateMany_some (Notification.deliver_id now) hx, ?_⟩
  split
  · nofun
  · rename_i hwaits
    intro hnone
    have hkey : x.id = row.id := Table.key_of_find hx
    simp [Waiting, hkey, hnone, hid] at hwaits

omit [Intl] in
/-- A whole marking finds the row waiting and leaves it delivered. -/
theorem Effect.takes {l : Step} {w w' : Notifications} (h : Effect l w w') (hwhole : Whole ⟨w, l, w'⟩) {id : Nat}
    (htakes : earns (taking id) l w = true) : ¬Delivered id w ∧ Delivered id w' := by
  cases l with
  | read | environment | write | summary | push | catchUp => cases htakes
  | consume rows =>
      simp only [earns, taking, Bool.and_eq_true, Bool.not_eq_true', decide_eq_true_eq] at htakes
      obtain ⟨⟨hwrites, hpos⟩, hid⟩ := htakes
      have hall : waiting rows w = rows.length := hwhole.resolve_left (Nat.ne_of_gt hpos)
      refine ⟨not_delivered_of_waiting hall hid, ?_⟩
      cases h.2 with
      | idle hl _ =>
          rcases hl with hl | hl
          · cases hl
          · rw [hwrites] at hl
            cases hl
      | insert _ _ hl _ => exact hl.elim
      | mark rows' now hl _ =>
          cases hl
          exact marked_delivered h.1 now hid

/-- **No notification is counted twice**, as long as every marking is whole. -/
theorem DigestRun.counted_once {tr : List (Event Notifications Step)} {cfg : Config Notifications Step (Except Err Unit)}
    (h : DigestRun tr cfg) (hwhole : ∀ e ∈ tr, Whole e) (id : Nat) : tr.countP (Counts id) ≤ 1 := by
  have hsame : (tr.countP fun e => spends (taking id) e.lbl e.pre) = tr.countP (Counts id) := by
    refine List.countP_congr fun e _ => ?_
    unfold spends Counts
    cases e.lbl <;> rfl
  calc tr.countP (Counts id)
    _ = tr.countP fun e => spends (taking id) e.lbl e.pre := hsame.symm
    _ ≤ tr.countP fun e => earns (taking id) e.lbl e.pre := Exec.solvent (program_solvent (taking id)) h
    _ ≤ 1 := (h.path.restrict hwhole).countP_le_one (P := Delivered id) (fun _ _ _ heffect => heffect.1.delivered)
      fun _ _ _ heffect htakes => heffect.1.takes heffect.2 htakes

theorem DigestRun.marked_before {tr : List (Event Notifications Step)}
    {cfg : Config Notifications Step (Except Err Unit)} (h : DigestRun tr cfg) {e : Event Notifications Step} (he : e ∈ tr)
    {rows : List Pending} {consumed : Nat} (hlabel : e.lbl = .summary rows consumed) :
    0 < consumed ∧ ∃ e' ∈ tr, e'.lbl = .consume rows ∧ waiting rows e'.pre = consumed ∧ e'.pre.outage.writes = false := by
  let p : List Pending → Nat → Bool := fun rows' consumed' => decide (rows' = rows ∧ consumed' = consumed)
  have hspent : 0 < tr.countP fun e => spends p e.lbl e.pre := by
    refine List.countP_pos_iff.mpr ⟨e, he, ?_⟩
    rw [hlabel]
    exact decide_eq_true ⟨rfl, rfl⟩
  obtain ⟨e', he', hearned⟩ := List.countP_pos_iff.mp (hspent.trans_le (Exec.solvent (program_solvent p) h))
  cases hl : e'.lbl with
  | read | environment | write | summary | push | catchUp =>
      rw [hl] at hearned
      cases hearned
  | consume rows' =>
      rw [hl] at hearned
      simp only [earns, p, Bool.and_eq_true, Bool.not_eq_true', decide_eq_true_eq] at hearned
      obtain ⟨⟨hwrites, hpos⟩, rfl, hconsumed⟩ := hearned
      exact ⟨hconsumed ▸ hpos, e', he', hl, hconsumed, hwrites⟩

omit [Intl] in
/-- What the database does with a summary: it refuses it, or stores it with the counts of its rows. -/
theorem Effect.summary {rows : List Pending} {consumed : Nat} {w w' : Notifications}
    (h : Effect (.summary rows consumed) w w') : w'.notifications.rows = w.notifications.rows ∨
      ∃ x, w'.notifications.rows = w.notifications.rows ++ [x] ∧ x.type = SUMMARY_TYPE ∧
        x.body = some (composeDigestBody (summariseCategories rows)) := by
  cases h.2 with
  | idle _ hrows => exact Or.inl (by rw [hrows])
  | insert x t hl hcreate => exact Or.inr ⟨x, (Table.create_eq_some hcreate).1, hl⟩
  | mark rows' now hl _ => cases hl

end Calls

namespace Digests

/-- Follow a schedule. -/
def played (schedule : List (Choice Call)) :
    List (Event Notifications Step) × Config Notifications Step (Except Err Unit) :=
  Config.play (@program greenwich) ⟨empty, []⟩ schedule

theorem run (schedule : List (Choice Call)) : @DigestRun greenwich (played schedule).1 (played schedule).2 := by
  have hinit : @DigestRun greenwich [] ⟨empty, []⟩ := Exec.init
  have hplay := Exec.play hinit schedule
  rwa [List.nil_append] at hplay

/-- A call with its steps, undisturbed. -/
def toEnd (call : Call) (steps : Nat) : List (Choice Call) := .start call :: List.replicate steps (.run 0)

/-- A user who is always in quiet hours, and a worker that is switched on. -/
def quiet : List (Choice Call) :=
  toEnd (.environment (.register "huda")) 1 ++
    toEnd (.environment (.configure { QIFT_DIGEST_WORKER_ENABLED := some "true" })) 1 ++
    toEnd (.environment (.prefer ⟨"huda", some "00:00", some "00:00", "Asia/Riyadh", .obj [], true, "daily"⟩)) 1

def shipped : EnqueueInput where
  userId := "huda"
  type := "gift.shipped"
  title := "On its way"

/-- One queued notification, and a run that sums it up. -/
def single : List (Choice Call) := quiet ++ toEnd (.enqueue shipped) 4 ++ toEnd (.runOnce {}) 9

/-- A run that has read, one more notification, and a second run that has read before the first one marks. -/
def overlapping : List (Choice Call) :=
  quiet ++ toEnd (.enqueue shipped) 4 ++ toEnd (.runOnce {}) 5 ++ toEnd (.enqueue shipped) 4 ++ toEnd (.runOnce {}) 5 ++
    List.replicate 4 (.run 2) ++ List.replicate 4 (.run 0)

end Digests

end Qift.Notifications
