import Qift.Lib.Toll
import Qift.Portal.Otp

/-!
# Guessing a code

Code requests and verifications one after another, at any times.

* `Guarded` says what one action of such a sequence does: a wrong code is only compared while the rows of the target
  that were created in the last fifteen minutes have fewer wrong attempts than the limit.
* `Tally` is the invariant: the attempts of a row are the wrong codes compared with it, and the rows of one interval
  hold at most the limit.
* `guesses_bounded` is the bound over every sequence.  It counts by rows: wrong codes compared with an older row, and
  those of a row that a success removed, do not count against later ones (`guesses_exceed`).
-/

namespace Qift.Portal.Guesses

open Relational Interleaving

/-- What happens to the codes of the portal. -/
inductive Call
  | wait (ms : Nat)
  | send (body : SendOtpInput)
  | verify (body : VerifyOtpInput)

/-- Time passes. -/
def waited (ms : Nat) (w : Portal) : Portal := { w with now := w.now + ms }

def program : Call → Service Unit
  | .wait ms => Svc.transaction .environment (Tx.modify (waited ms))
  | .send body => do
      let _ ← send body
      pure ()
  | .verify body => do
      let _ ← verify body
      pure ()

/-- The state after a sequence of calls. -/
def after (calls : List Call) : Portal := runCalls program Portal.empty calls

/-- What the calls did, action by action. -/
def trace (calls : List Call) : List (Event Portal Place) := callEvents program Portal.empty calls

/-! ### What one action does -/

/-- The effects of single actions on the codes; a wrong code carries what was checked before. -/
inductive Guarded : Place → Portal → Portal → Prop
  | idle (l : Place) (w : Portal) (hl : ∀ n, l ≠ .wrongCode n) : Guarded l w w
  | wait (ms : Nat) (w : Portal) : Guarded .environment w (waited ms w)
  | limiter (hits : List (String × Time)) (w : Portal) : Guarded .environment w { w with sendHits := hits }
  | send {w : Portal} {r : Otp} {t : Table Otp.id} (hid : r.id = w.nextId) (hattempts : r.attempts = 0)
      (hcreated : r.createdAt = w.now) (hcreate : w.otps.create r = some t) :
      Guarded .otpSend w { w with nextId := w.nextId + 1, otps := t }
  | wrongCode {w : Portal} {row : Otp} (hrow : row ∈ w.otps.rows) (hattempts : row.attempts < MAX_VERIFY_ATTEMPTS)
      (hwindow : windowAttempts row.target (w.now - TARGET_ATTEMPT_WINDOW_MS) w < MAX_TARGET_ATTEMPTS) :
      Guarded (.wrongCode row.id) w { w with
        otps := w.otps.updateMany (fun r => r.id = row.id) countAttempt countAttempt_id }
  | consume (n : Nat) (w : Portal) : Guarded (.consume n) w { w with otps := w.otps.deleteMany fun r => r.id = n }

theorem Guarded.outage {l : Place} {w w' : Portal} (h : Guarded l w w') : w'.outage = w.outage := by
  cases h <;> rfl

/-- No action of the sequences brings an outage. -/
theorem outage_of_rely {w : Portal} (h : Rely Guarded Portal.empty w) : w.outage = false :=
  Rely.stable (P := fun w => w.outage = false) (fun _ _ _ hact hup => hact.outage.trans hup) h rfl

theorem query_guarded {α : Type} {P : α → Portal → Prop} (f : Portal → α) {w : Portal} (hP : P (f w) w) :
    (Svc.query .read f : Service α).Ensures Eq Guarded P w :=
  Svc.Ensures.query (fun _ _ => Guarded.idle _ _ nofun) fun t ht => by rwa [← ht]

/-- A swallowed write where the database answers. -/
theorem bestEffort_guarded {place : Place} {tx : Transaction Nat} {w : Portal} (hup : w.outage = false)
    (hok : ∃ n w', tx w = .ok (n, w') ∧ Guarded place w w') :
    (bestEffort place tx).Ensures Eq Guarded (fun _ _ => True) w := by
  obtain ⟨n, w', htx, heffect⟩ := hok
  have hwhole : (do
      let down ← Tx.read Portal.outage
      Tx.ensure (down = false) (.error "database unavailable")
      tx : Transaction Nat) w = .ok (n, w') := by
    refine Tx.bind_eq_ok.mpr ⟨w.outage, w, rfl, Tx.bind_eq_ok.mpr ⟨(), w, ?_, htx⟩⟩
    exact Tx.ensure_eq_ok.mpr ⟨hup, rfl⟩
  rintro t rfl
  simp only [hwhole]
  exact ⟨heffect, fun _ _ => trivial⟩

-- a judgment is used by its rules, never by what it unfolds to
attribute [local irreducible] Prog.Meets

theorem latestOtp_mem {target : String} {type : Option OtpType} {w : Portal} {row : Otp}
    (h : latestOtp target type w = some row) : row ∈ w.otps.rows ∧ row.target = target := by
  have hfold : ∀ (rows : List Otp) (acc : Option Otp), rows.foldl later acc = some row → row ∈ rows ∨ acc = some row := by
    intro rows
    induction rows with
    | nil => exact fun acc h => .inr h
    | cons r rest ih =>
        intro acc h
        rcases ih _ h with hmem | hacc
        · exact .inl (List.mem_cons_of_mem _ hmem)
        · cases acc with
          | none =>
              cases hacc
              exact .inl (List.mem_cons_self ..)
          | some a =>
              simp only [later] at hacc
              split at hacc <;> cases hacc
              · exact .inl (List.mem_cons_self ..)
              · exact .inr rfl
  rcases hfold _ _ h with hmem | hnone
  · obtain ⟨hrow, htarget⟩ := List.mem_filter.mp hmem
    simp only [Bool.and_eq_true, decide_eq_true_eq] at htarget
    exact ⟨hrow, htarget.1⟩
  · cases hnone

theorem verify_guarded (body : VerifyOtpInput) {w : Portal} (hup : w.outage = false) :
    (verify body).Ensures Eq Guarded (fun _ _ => True) w := by
  unfold verify
  refine Svc.Ensures.bind (P := fun _ t => t = w) (Svc.Ensures.ensure fun _ => rfl) fun _ t ht => ?_
  subst ht
  refine Svc.Ensures.bind (P := fun now' t' => now' = t.now ∧ t' = t) (query_guarded _ ⟨rfl, rfl⟩) ?_
  rintro _ _ ⟨rfl, rfl⟩
  rename_i w
  refine Svc.Ensures.bind (P := fun n t' =>
    n = windowAttempts (verifyTarget (trim (body.target.getD ""))) (w.now - TARGET_ATTEMPT_WINDOW_MS) w ∧ t' = w)
      (query_guarded _ ⟨rfl, rfl⟩) ?_
  rintro _ _ ⟨rfl, rfl⟩
  rename_i w
  refine Svc.Ensures.bind (P := fun _ t =>
    windowAttempts (verifyTarget (trim (body.target.getD ""))) (w.now - TARGET_ATTEMPT_WINDOW_MS) w <
      MAX_TARGET_ATTEMPTS ∧ t = w) (Svc.Ensures.ensure fun h => ⟨h, rfl⟩) ?_
  rintro _ _ ⟨hwindow, rfl⟩
  rename_i w
  refine Svc.Ensures.bind (P := fun found t =>
    found = latestOtp (verifyTarget (trim (body.target.getD ""))) body.type w ∧ t = w)
      (query_guarded _ ⟨rfl, rfl⟩) ?_
  rintro found _ ⟨hfound, rfl⟩
  rename_i w
  cases found with
  | none => exact Svc.Ensures.fail
  | some row =>
      obtain ⟨hrow, htarget⟩ := latestOtp_mem hfound.symm
      refine Svc.Ensures.bind (P := fun _ t => row.attempts < MAX_VERIFY_ATTEMPTS ∧ t = w)
        (Svc.Ensures.ensure fun h => ⟨h, rfl⟩) ?_
      rintro _ _ ⟨hattempts, rfl⟩
      rename_i w
      refine Svc.Ensures.bind (P := fun _ t => t = w) (query_guarded _ rfl) ?_
      rintro _ _ rfl
      rename_i w
      refine Svc.Ensures.bind (P := fun _ t => t = w) (Svc.Ensures.ensure fun _ => rfl) ?_
      rintro _ _ rfl
      rename_i w
      rw [← htarget] at hwindow
      split
      · refine Svc.Ensures.bind (bestEffort_guarded hup ?_) fun _ _ _ => Svc.Ensures.fail
        exact ⟨_, _, rfl, Guarded.wrongCode hrow hattempts hwindow⟩
      · split
        · refine Svc.Ensures.bind (bestEffort_guarded hup ?_) fun _ _ _ => Svc.Ensures.pure trivial
          exact ⟨_, _, rfl, Guarded.consume row.id w⟩
        · exact Svc.Ensures.pure trivial

theorem limiterHit_guarded (key : String) (w : Portal) :
    (Svc.transaction .environment (limiterHit key)).Ensures Eq Guarded (fun _ t => t.outage = w.outage) w := by
  refine Svc.Ensures.transaction (fun _ _ => Guarded.idle _ _ nofun) ?_
  rintro t allowed u rfl h
  simp only [limiterHit] at h
  split at h <;> cases h <;> exact ⟨Guarded.limiter _ _, rfl⟩

theorem createOtp_guarded (target : String) (type : OtpType) (code : String) (expiresAt : Time) (w : Portal) :
    (Svc.transaction .otpSend (createOtp target type code expiresAt)).Ensures Eq Guarded (fun _ _ => True) w := by
  refine Svc.Ensures.transaction (fun _ _ => Guarded.idle _ _ nofun) ?_
  rintro t r u rfl h
  obtain ⟨id, w₁, hid, h⟩ := Tx.bind_eq_ok.mp h
  cases hid
  obtain ⟨createdAt, w₂, hread, h⟩ := Tx.bind_eq_ok.mp h
  obtain ⟨rfl, rfl⟩ := Tx.read_eq_ok.mp hread
  obtain ⟨t, hcreate, -, rfl, rfl⟩ := Delegate.create_eq_ok.mp h
  exact ⟨Guarded.send rfl rfl rfl hcreate, trivial⟩

theorem send_guarded (body : SendOtpInput) (w : Portal) :
    (send body).Ensures Eq Guarded (fun _ _ => True) w := by
  unfold send
  refine Svc.Ensures.bind (P := fun _ _ => True) (Svc.Ensures.ensure fun _ => trivial) fun _ _ _ => ?_
  split
  · exact Svc.Ensures.fail
  · refine Svc.Ensures.bind (P := fun _ _ => True) (Svc.Ensures.ensure fun _ => trivial) fun _ _ _ => ?_
    refine Svc.Ensures.bind (P := fun _ _ => True) (query_guarded _ trivial) fun _ _ _ => ?_
    refine Svc.Ensures.bind (P := fun _ _ => True) (Svc.Ensures.ensure fun _ => trivial) fun _ _ _ => ?_
    refine Svc.Ensures.bind (P := fun _ _ => True) (query_guarded _ trivial) fun _ _ _ => ?_
    refine Svc.Ensures.bind (P := fun _ _ => True) (Svc.Ensures.ensure fun _ => trivial) fun _ t _ => ?_
    refine Svc.Ensures.bind (limiterHit_guarded _ t) fun _ _ _ => ?_
    refine Svc.Ensures.bind (P := fun _ _ => True) (Svc.Ensures.ensure fun _ => trivial) fun _ _ _ => ?_
    refine Svc.Ensures.bind (P := fun _ _ => True) (query_guarded _ trivial) fun _ t _ => ?_
    exact createOtp_guarded _ _ _ _ t

theorem program_guarded (c : Call) (w : Portal) (hw : Rely Guarded Portal.empty w) :
    (program c).Ensures Eq Guarded (fun _ _ => True) w := by
  have hup := outage_of_rely hw
  unfold program
  cases c with
  | wait ms =>
      refine Svc.Ensures.transaction (fun _ _ => Guarded.idle _ _ nofun) ?_
      rintro t _ u rfl h
      obtain rfl := Tx.modify_eq_ok.mp h
      exact ⟨Guarded.wait ms w, trivial⟩
  | send body => exact Svc.Ensures.bind (send_guarded body w) fun _ _ _ => Svc.Ensures.pure trivial
  | verify body => exact Svc.Ensures.bind (verify_guarded body hup) fun _ _ _ => Svc.Ensures.pure trivial

theorem trace_path (calls : List Call) : Path Guarded Portal.empty (trace calls) (after calls) :=
  callEvents_path (fun c w hw => (program_guarded c w hw).meets) (Rely.refl _) calls

/-! ### Counting the wrong codes -/

/-- The wrong codes compared with a row at instants of an interval of the window's length. -/
def wrongIn (since : Time) (tr : List (Event Portal Place)) (r : Otp) : Nat :=
  tr.countP fun e => e.lbl = .wrongCode r.id ∧ since ≤ e.pre.now ∧ e.pre.now ≤ since + TARGET_ATTEMPT_WINDOW_MS

/-- The wrong codes compared, in the interval, with the stored rows of the target that were issued in it. -/
def wrongCodes (target : String) (since : Time) (tr : List (Event Portal Place)) (w : Portal) : Nat :=
  ((w.otps.rows.filter (Otp.inWindow target since)).map (wrongIn since tr)).sum

/-- The books of the wrong codes. -/
structure Tally (tr : List (Event Portal Place)) (w : Portal) : Prop where
  drawn : ∀ r ∈ w.otps.rows, r.id < w.nextId
  named : ∀ e ∈ tr, ∀ n, e.lbl = .wrongCode n → n < w.nextId
  told : ∀ r ∈ w.otps.rows, (tr.countP fun e => e.lbl = .wrongCode r.id) = r.attempts
  row : ∀ r ∈ w.otps.rows, r.attempts ≤ MAX_VERIFY_ATTEMPTS
  window : ∀ target since, w.now ≤ since + TARGET_ATTEMPT_WINDOW_MS →
    windowAttempts target since w ≤ MAX_TARGET_ATTEMPTS
  bounded : ∀ target since, wrongCodes target since tr w ≤ MAX_TARGET_ATTEMPTS

theorem tally_empty : Tally [] Portal.empty := by
  constructor
  · intro r hr
    cases hr
  · intro e he
    cases he
  · intro r hr
    cases hr
  · intro r hr
    cases hr
  · exact fun _ _ _ => Nat.zero_le _
  · exact fun _ _ => Nat.zero_le _

/-- An earlier start counts more rows. -/
theorem windowAttempts_antitone {target : String} {since since' : Time} (h : since' ≤ since) (w : Portal) :
    windowAttempts target since w ≤ windowAttempts target since' w := by
  unfold windowAttempts
  induction w.otps.rows with
  | nil => exact le_rfl
  | cons r rest ih =>
      simp only [List.filter_cons]
      by_cases hin : Otp.inWindow target since r = true
      · have hin' : Otp.inWindow target since' r = true := by
          obtain ⟨htarget, hsince⟩ := of_decide_eq_true hin
          exact decide_eq_true ⟨htarget, h.trans hsince⟩
        simpa [hin, hin'] using ih
      · simp only [hin, Bool.false_eq_true, if_false]
        split
        · simp only [List.map_cons, List.sum_cons]
          omega
        · exact ih

theorem wrongCodes_le {tr : List (Event Portal Place)} {w : Portal}
    (htold : ∀ r ∈ w.otps.rows, (tr.countP fun e => e.lbl = .wrongCode r.id) = r.attempts) (target : String)
    (since : Time) : wrongCodes target since tr w ≤ windowAttempts target since w := by
  refine List.sum_le_sum fun r hr => ?_
  rw [← htold r (List.mem_filter.mp hr).1]
  exact List.countP_mono_left fun e _ he => by simp_all

/-! ### One action -/

section Step

variable {tr : List (Event Portal Place)} {w : Portal}

/-- An event that compares no code adds nothing to any count. -/
theorem wrongIn_append {e : Event Portal Place} (h : ∀ n, e.lbl ≠ .wrongCode n) (since : Time) (r : Otp) :
    wrongIn since (tr ++ [e]) r = wrongIn since tr r := by
  simp [wrongIn, List.countP_append, h]

theorem wrongCodes_append {e : Event Portal Place} (h : ∀ n, e.lbl ≠ .wrongCode n) (target : String) (since : Time)
    (w' : Portal) : wrongCodes target since (tr ++ [e]) w' = wrongCodes target since tr w' := by
  have hsame : wrongIn since (tr ++ [e]) = wrongIn since tr := funext (wrongIn_append h since)
  rw [wrongCodes, hsame, wrongCodes]

/-- The parts of the books an event without comparison leaves alone. -/
theorem Tally.quiet (h : Tally tr w) {l : Place} {w' : Portal} (hl : ∀ n, l ≠ .wrongCode n) (hotps : w'.otps = w.otps)
    (hnext : w.nextId ≤ w'.nextId) (hnow : w.now ≤ w'.now) : Tally (tr ++ [⟨w, l, w'⟩]) w' := by
  constructor
  · intro r hr
    rw [hotps] at hr
    exact (h.drawn r hr).trans_le hnext
  · intro e he n hn
    rcases List.mem_append.mp he with he | he
    · exact (h.named e he n hn).trans_le hnext
    · cases List.mem_singleton.mp he
      exact absurd hn (hl n)
  · intro r hr
    rw [hotps] at hr
    simpa [List.countP_append, hl] using h.told r hr
  · intro r hr
    rw [hotps] at hr
    exact h.row r hr
  · intro target since hsince
    have hwindow := h.window target since (hnow.trans hsince)
    simpa only [windowAttempts, hotps] using hwindow
  · intro target since
    rw [wrongCodes_append hl]
    simpa only [wrongCodes, hotps] using h.bounded target since

/-- A new row has no attempts and is named by no event. -/
theorem Tally.send (h : Tally tr w) {r : Otp} {t : Table Otp.id} (hid : r.id = w.nextId) (hattempts : r.attempts = 0)
    (hcreate : w.otps.create r = some t) :
    Tally (tr ++ [⟨w, .otpSend, { w with nextId := w.nextId + 1, otps := t }⟩])
      { w with nextId := w.nextId + 1, otps := t } := by
  have hrows : t.rows = w.otps.rows ++ [r] := (Table.create_eq_some hcreate).1
  have hnone (since : Time) : wrongIn since tr r = 0 := by
    refine List.countP_eq_zero.mpr fun e he hcount => ?_
    simp only [Bool.decide_and, Bool.and_eq_true, decide_eq_true_eq] at hcount
    have hlt := h.named e he r.id hcount.1
    omega
  constructor
  · intro x hx
    change x.id < w.nextId + 1
    rcases (Table.mem_create hcreate).mp hx with hx | rfl
    · exact (h.drawn x hx).trans (Nat.lt_succ_self _)
    · omega
  · intro e he n hn
    rcases List.mem_append.mp he with he | he
    · exact (h.named e he n hn).trans (Nat.lt_succ_self _)
    · cases List.mem_singleton.mp he
      cases hn
  · intro x hx
    rcases (Table.mem_create hcreate).mp hx with hx | rfl
    · simpa [List.countP_append] using h.told x hx
    · rw [hattempts, List.countP_eq_zero]
      intro e he hcount
      rcases List.mem_append.mp he with he | he
      · have hlt := h.named e he x.id (of_decide_eq_true hcount)
        omega
      · cases List.mem_singleton.mp he
        simp at hcount
  · intro x hx
    rcases (Table.mem_create hcreate).mp hx with hx | rfl
    · exact h.row x hx
    · omega
  · intro target since hsince
    have hwindow := h.window target since hsince
    simp only [windowAttempts, hrows, List.filter_append, List.map_append, List.sum_append] at hwindow ⊢
    by_cases hin : Otp.inWindow target since r = true <;> simp [hin, hattempts, hwindow]
  · intro target since
    rw [wrongCodes_append fun n hn => by cases hn]
    have hbounded := h.bounded target since
    simp only [wrongCodes, hrows, List.filter_append, List.map_append, List.sum_append] at hbounded ⊢
    by_cases hin : Otp.inWindow target since r = true <;> simp [hin, hnone, hbounded]

/-- A deleted row takes its attempts along. -/
theorem Tally.consume (h : Tally tr w) (n : Nat) :
    Tally (tr ++ [⟨w, .consume n, { w with otps := w.otps.deleteMany fun r => r.id = n }⟩])
      { w with otps := w.otps.deleteMany fun r => r.id = n } := by
  have hsub : List.Sublist (w.otps.deleteMany fun r => r.id = n).rows w.otps.rows := List.filter_sublist
  constructor
  · exact fun r hr => h.drawn r (hsub.subset hr)
  · intro e he m hm
    rcases List.mem_append.mp he with he | he
    · exact h.named e he m hm
    · cases List.mem_singleton.mp he
      cases hm
  · intro r hr
    simpa [List.countP_append] using h.told r (hsub.subset hr)
  · exact fun r hr => h.row r (hsub.subset hr)
  · intro target since hsince
    refine le_trans ?_ (h.window target since hsince)
    exact ((hsub.filter _).map _).sum_le_sum fun _ _ => Nat.zero_le _
  · intro target since
    rw [wrongCodes_append fun n hn => by cases hn]
    refine le_trans ?_ (h.bounded target since)
    exact ((hsub.filter _).map _).sum_le_sum fun _ _ => Nat.zero_le _

theorem sum_bumped (rows : List Otp) (n : Nat) :
    (rows.map fun r => (if r.id = n then countAttempt r else r).attempts).sum =
      (rows.map Otp.attempts).sum + rows.countP fun r => r.id = n := by
  induction rows with
  | nil => rfl
  | cons r rest ih =>
      simp only [List.map_cons, List.sum_cons, List.countP_cons, ih]
      by_cases hid : r.id = n
      · simp only [hid, if_true, decide_true, countAttempt]
        omega
      · simp only [hid, if_false, decide_false, Bool.false_eq_true]
        omega

theorem Tally.wrongCode (h : Tally tr w) {row : Otp} (hrow : row ∈ w.otps.rows)
    (hattempts : row.attempts < MAX_VERIFY_ATTEMPTS)
    (hwindow : windowAttempts row.target (w.now - TARGET_ATTEMPT_WINDOW_MS) w < MAX_TARGET_ATTEMPTS) {w' : Portal}
    (hw' : w' = { w with otps := w.otps.updateMany (fun r => r.id = row.id) countAttempt countAttempt_id }) :
    Tally (tr ++ [⟨w, .wrongCode row.id, w'⟩]) w' := by
  have hrows : w'.otps.rows = w.otps.rows.map fun r => if r.id = row.id then countAttempt r else r := by
    rw [hw']
    simp [Table.updateMany]
  have hnow : w'.now = w.now := by rw [hw']
  have hnext : w'.nextId = w.nextId := by rw [hw']
  -- the rows keep what the counts look at
  have hrow' (x : Otp) (hx : x ∈ w'.otps.rows) : ∃ r ∈ w.otps.rows,
      x = if r.id = row.id then countAttempt r else r := by
    rw [hrows] at hx
    obtain ⟨r, hr, hx⟩ := List.mem_map.mp hx
    exact ⟨r, hr, hx.symm⟩
  have hself (r : Otp) (hr : r ∈ w.otps.rows) (hid : r.id = row.id) : r = row := Table.row_unique _ hr hrow hid
  have htold : ∀ r ∈ w'.otps.rows,
      ((tr ++ [(⟨w, .wrongCode row.id, w'⟩ : Event Portal Place)]).countP fun e => e.lbl = .wrongCode r.id) =
        r.attempts := by
    intro x hx
    obtain ⟨r, hr, rfl⟩ := hrow' x hx
    have hold := h.told r hr
    by_cases hid : r.id = row.id
    · simp only [hid, if_true, countAttempt_id, List.countP_append, List.countP_singleton, decide_true] at hold ⊢
      rw [hold]
      rfl
    · simpa [hid, List.countP_append, Ne.symm hid] using hold
  have hinWindow (target : String) (since : Time) (r : Otp) :
      Otp.inWindow target since (if r.id = row.id then countAttempt r else r) = Otp.inWindow target since r := by
    split <;> rfl
  have hroom : ∀ target since, w'.now ≤ since + TARGET_ATTEMPT_WINDOW_MS →
      windowAttempts target since w' ≤ MAX_TARGET_ATTEMPTS := by
    intro target since hsince
    have hold := h.window target since (hnow ▸ hsince)
    have hbump : windowAttempts target since w' = windowAttempts target since w +
        (w.otps.rows.filter (Otp.inWindow target since)).countP fun r => r.id = row.id := by
      rw [windowAttempts, hrows, List.filter_map, List.map_map, windowAttempts, ← sum_bumped]
      congr 2
      exact List.filter_congr fun r _ => hinWindow target since r
    rw [hbump]
    by_cases htarget : row.target = target ∧ since ≤ row.createdAt
    · -- the rows of the interval are rows of the window, where there was room
      obtain ⟨rfl, hcreated⟩ := htarget
      have hearlier : w.now - TARGET_ATTEMPT_WINDOW_MS ≤ since := sub_le_iff_le_add.mpr (hnow ▸ hsince)
      have hle : windowAttempts row.target since w ≤ _ := windowAttempts_antitone hearlier w
      have hone : (w.otps.rows.filter (Otp.inWindow row.target since)).countP (fun r => r.id = row.id) ≤ 1 :=
        (List.filter_sublist.countP_le).trans (Table.count_le_one (t := w.otps) fun r hr => of_decide_eq_true hr)
      omega
    · have hzero : (w.otps.rows.filter (Otp.inWindow target since)).countP (fun r => r.id = row.id) = 0 := by
        refine List.countP_eq_zero.mpr fun r hr hid => htarget ?_
        obtain ⟨hr, hin⟩ := List.mem_filter.mp hr
        rw [← hself r hr (of_decide_eq_true hid)]
        exact of_decide_eq_true hin
      omega
  constructor
  · intro x hx
    obtain ⟨r, hr, rfl⟩ := hrow' x hx
    rw [hnext]
    split <;> exact h.drawn r hr
  · intro e he n hn
    rw [hnext]
    rcases List.mem_append.mp he with he | he
    · exact h.named e he n hn
    · cases List.mem_singleton.mp he
      cases hn
      exact h.drawn row hrow
  · exact htold
  · intro x hx
    obtain ⟨r, hr, rfl⟩ := hrow' x hx
    by_cases hid : r.id = row.id
    · rw [if_pos hid, hself r hr hid]
      exact hattempts
    · rw [if_neg hid]
      exact h.row r hr
  · exact hroom
  · intro target since
    by_cases hsince : w.now ≤ since + TARGET_ATTEMPT_WINDOW_MS
    · exact (wrongCodes_le htold target since).trans (hroom target since (hnow ▸ hsince))
    · -- the interval is over
      have hsame (r : Otp) : wrongIn since (tr ++ [⟨w, .wrongCode row.id, w'⟩])
          (if r.id = row.id then countAttempt r else r) = wrongIn since tr r := by
        have hid : (if r.id = row.id then countAttempt r else r).id = r.id := by split <;> rfl
        simp [wrongIn, List.countP_append, hid, hsince]
      have hold := h.bounded target since
      rw [wrongCodes, hrows, List.filter_map, List.map_map]
      have hfilter : w.otps.rows.filter
          (Otp.inWindow target since ∘ fun r => if r.id = row.id then countAttempt r else r) =
            w.otps.rows.filter (Otp.inWindow target since) :=
        List.filter_congr fun r _ => hinWindow target since r
      rw [hfilter]
      refine le_trans (le_of_eq ?_) hold
      exact congrArg List.sum (List.map_congr_left fun r _ => hsame r)

/-- Every guarded action keeps the books. -/
theorem Tally.step (h : Tally tr w) {l : Place} {w' : Portal} (hact : Guarded l w w') :
    Tally (tr ++ [⟨w, l, w'⟩]) w' := by
  cases hact with
  | idle _ _ hl => exact h.quiet hl rfl le_rfl le_rfl
  | wait ms => exact h.quiet (fun n hn => by cases hn) rfl le_rfl (by simp [waited])
  | limiter hits => exact h.quiet (fun n hn => by cases hn) rfl le_rfl le_rfl
  | send hid hattempts _ hcreate => exact h.send hid hattempts hcreate
  | wrongCode hrow hattempts hwindow => exact h.wrongCode hrow hattempts hwindow rfl
  | consume n => exact h.consume n

end Step

/-- The books are in order after every sequence of calls. -/
theorem tally (calls : List Call) : Tally (trace calls) (after calls) := by
  have hpath := trace_path calls
  generalize after calls = w at hpath
  generalize trace calls = tr at hpath
  induction hpath with
  | nil => exact tally_empty
  | snoc _ hact ih => exact ih.step hact

/-- A target whose recent rows hold the limit is locked. -/
theorem verify_locked {body : VerifyOtpInput} {w : Portal} (htarget : trim (body.target.getD "") ≠ "")
    (hcode : trim (body.code.getD "") ≠ "")
    (hfull : MAX_TARGET_ATTEMPTS ≤
      windowAttempts (verifyTarget (trim (body.target.getD ""))) (w.now - TARGET_ATTEMPT_WINDOW_MS) w) :
    (verify body).exec w = (.error (.badRequest "otp_locked"), w) := by
  unfold verify
  refine Svc.exec_bind_error.mpr (.inr ⟨(), w, Svc.exec_ensure_ok.mpr ⟨⟨htarget, hcode⟩, rfl⟩, ?_⟩)
  refine Svc.exec_bind_error.mpr (.inr ⟨w.now, w, rfl, ?_⟩)
  refine Svc.exec_bind_error.mpr (.inr ⟨_, w, rfl, ?_⟩)
  refine Svc.exec_bind_error.mpr (.inl ?_)
  rw [Svc.exec_ensure, if_neg (not_lt.mpr hfull)]

/-- **Guesses are bounded by the codes they are made against.**  In every interval of fifteen minutes at most the
limit of wrong codes are compared with the stored codes of a target that were issued in it; no code takes more than
its own limit; and at the limit every verification is refused. -/
theorem guesses_bounded (calls : List Call) (target : String) :
    (∀ since, wrongCodes target since (trace calls) (after calls) ≤ MAX_TARGET_ATTEMPTS) ∧
      (∀ r ∈ (after calls).otps.rows,
        ((trace calls).countP fun e => e.lbl = .wrongCode r.id) ≤ MAX_VERIFY_ATTEMPTS) ∧
      ∀ body : VerifyOtpInput, trim (body.target.getD "") ≠ "" → trim (body.code.getD "") ≠ "" →
        verifyTarget (trim (body.target.getD "")) = target →
        MAX_TARGET_ATTEMPTS ≤ wrongCodes target ((after calls).now - TARGET_ATTEMPT_WINDOW_MS) (trace calls)
          (after calls) →
        (verify body).exec (after calls) = (.error (.badRequest "otp_locked"), after calls) := by
  have htally := tally calls
  refine ⟨htally.bounded target, fun r hr => ?_, fun body hbody hcode htarget hfull => ?_⟩
  · rw [htally.told r hr]
    exact htally.row r hr
  · refine verify_locked hbody hcode ?_
    rw [htarget]
    exact hfull.trans (wrongCodes_le htally.told target _)

/-! ### What the count by rows lets through -/

namespace Pilot

/-- A code for one address. -/
def request : Call := .send { target := some "a@b.c", type := .email, draw := 0 }

/-- A wrong code for that address. -/
def guess : Call := .verify { target := some "a@b.c", code := some "0" }

/-- The code itself. -/
def proof : Call := .verify { target := some "a@b.c", code := some "100000" }

/-- Five guesses at an old code, five at a new one, five more when the old one has left the window. -/
def aged : List Call :=
  [request, .wait 300000] ++ List.replicate 5 guess ++ [request] ++ List.replicate 5 guess ++
    [.wait 600001, request] ++ List.replicate 5 guess

/-- Four guesses at each of three codes that are then used. -/
def used : List Call := (List.replicate 3 ([request] ++ List.replicate 4 guess ++ [proof])).flatten

end Pilot

/-- A wrong code was compared with a row of the target. -/
def comparesFor (target : String) (e : Event Portal Place) : Bool :=
  match e.lbl with
  | .wrongCode n => (e.pre.otps.find n).any fun r => r.target = target
  | _ => false

/-- The wrong codes compared for a target at instants of an interval of the window's length. -/
def wrongAt (target : String) (since : Time) (tr : List (Event Portal Place)) : Nat :=
  tr.countP fun e => comparesFor target e && since ≤ e.pre.now && e.pre.now ≤ since + TARGET_ATTEMPT_WINDOW_MS

/-- Fifteen wrong codes within eleven minutes, and twelve at one instant. -/
theorem guesses_exceed :
    MAX_TARGET_ATTEMPTS < wrongAt "a@b.c" 300000 (trace Pilot.aged) ∧
      MAX_TARGET_ATTEMPTS < wrongAt "a@b.c" 0 (trace Pilot.used) := by
  decide +kernel

/-- Ten guesses at two codes lock the address out, also for the right code. -/
theorem guesses_bounded_lockedOut :
    (verify { target := some "a@b.c", code := some "100000" }).exec (after (Pilot.aged.take 13)) =
      (.error (.badRequest "otp_locked"), after (Pilot.aged.take 13)) :=
  (guesses_bounded (Pilot.aged.take 13) "a@b.c").2.2 { target := some "a@b.c", code := some "100000" }
    (by decide +kernel) (by decide +kernel) (by decide +kernel) (by decide +kernel)

end Qift.Portal.Guesses
