import Qift.Campaigns.Paths

/-!
# How long a roster row is kept

A contact is imported with a purge deadline, archived under another one, and deleted by a sweep.

* `Early` — an archive that does not push the deadline of its contact back.
* `Retained` — what the runs of the services promise of the deadlines and the sweeps.
* **`Run.retained`** — they keep it where every archive is early; `Run.retained_late` is a run that breaks it.
-/

namespace Qift.Campaigns

open Relational Relational.Table Interleaving

variable {V : Nat → String → Prop} {w w' : Campaigns} {l : Step}

/-! ### The promise -/

/-- An archive finds the deadline of its contact no earlier than the grace window ends. -/
def Early (e : Event Campaigns Step) : Prop :=
  match e.lbl with
  | .archive orgId contactId => ∀ c ∈ e.pre.contacts.rows, c.id = contactId → c.orgId = orgId → c.status = .active →
      graceUntil e.pre ≤ c.purgeAfter
  | _ => True

/-- A campaign that is submitted, approved or dispatching has selected the contact. -/
def Protected (w : Campaigns) (contactId : Nat) : Prop :=
  ∃ r ∈ w.recipients.rows, r.contactId = contactId ∧ ∃ campaign, w.campaigns.find r.campaignId = some campaign ∧
    campaign.status ∈ [.pending_approval, .approved, .dispatching]

/-- The action stores a row under an identifier that had none. -/
structure Created (e : Event Campaigns Step) (c₀ : CorporateContact) : Prop where
  fresh : ∀ c ∈ e.pre.contacts.rows, c.id ≠ c₀.id
  stored : c₀ ∈ e.post.contacts.rows

/-- The retention of a roster over a run that ends in `w`. -/
structure Retained (tr : List (Event Campaigns Step)) (w : Campaigns) : Prop where
  /-- A row was created with the deadline of its import. -/
  created : ∀ c ∈ w.contacts.rows, ∃ e ∈ tr, ∃ c₀, Created e c₀ ∧ c₀.id = c.id ∧ c₀.purgeAfter = retainUntil e.pre
  /-- Its deadline is never later than that. -/
  bounded : ∀ e ∈ tr, ∀ c₀, Created e c₀ → ∀ c ∈ w.contacts.rows, c.id = c₀.id → c.purgeAfter ≤ c₀.purgeAfter
  /-- No action moves it back. -/
  forward : ∀ e ∈ tr, ∀ c ∈ e.pre.contacts.rows, ∀ c' ∈ e.post.contacts.rows, c'.id = c.id →
    c'.purgeAfter ≤ c.purgeAfter
  /-- A sweep deletes the rows whose deadline has passed and that no campaign protects, and no others. -/
  swept : ∀ e ∈ tr, e.lbl = .sweep → ∀ c, c ∈ e.post.contacts.rows ↔
    c ∈ e.pre.contacts.rows ∧ ¬(c.purgeAfter < e.pre.now ∧ ¬Protected e.pre c.id)
  /-- Nothing else deletes a row. -/
  kept : ∀ e ∈ tr, e.lbl ≠ .sweep → ∀ c ∈ e.pre.contacts.rows, ∃ c' ∈ e.post.contacts.rows, c'.id = c.id
  /-- A row that a sweep leaves is within its retention, or protected. -/
  lapses : ∀ tr₁ e tr₂, tr = tr₁ ++ e :: tr₂ → e.lbl = .sweep → ∀ e₀ ∈ tr₁, ∀ c₀, Created e₀ c₀ →
    ∀ c ∈ e.post.contacts.rows, c.id = c₀.id → e.pre.now ≤ c₀.purgeAfter ∨ Protected e.pre c.id
  /-- A protected row is not deleted. -/
  safe : ∀ e ∈ tr, ∀ c ∈ e.pre.contacts.rows, Protected e.pre c.id → ∃ c' ∈ e.post.contacts.rows, c'.id = c.id

theorem protects_iff {contactId : Nat} : protects w contactId = true ↔ Protected w contactId := by
  simp only [protects, List.any_eq_true, Bool.and_eq_true, decide_eq_true_eq, Option.any_eq_true]
  rfl

theorem purgeable_iff {c : CorporateContact} :
    purgeable w c = true ↔ c.purgeAfter < w.now ∧ ¬Protected w c.id := by
  rw [purgeable, Bool.and_eq_true, decide_eq_true_eq, Bool.not_eq_true', ← Bool.not_eq_true, protects_iff]

/-! ### One action -/

/-- The contacts carry identifiers that have been drawn. -/
def Drawn (w : Campaigns) : Prop := ∀ c ∈ w.contacts.rows, c.id < w.nextId

theorem mem_importedContacts {orgId : Nat} {rows : List RosterRow} {batchId : String} {c : CorporateContact}
    (h : c ∈ importedContacts orgId rows batchId w) :
    w.nextId ≤ c.id ∧ c.id < w.nextId + rows.length ∧ c.purgeAfter = retainUntil w := by
  obtain ⟨i, hi, rfl⟩ := List.mem_mapIdx.mp h
  exact ⟨Nat.le_add_right _ _, Nat.add_lt_add_left hi _, rfl⟩

theorem Effect.contact_from (h : Effect V l w w') (hearly : Early ⟨w, l, w'⟩) {c' : CorporateContact}
    (hc' : c' ∈ w'.contacts.rows) :
    (∃ c ∈ w.contacts.rows, c.id = c'.id ∧ c'.purgeAfter ≤ c.purgeAfter) ∨
      w.nextId ≤ c'.id ∧ c'.id < w'.nextId ∧ c'.purgeAfter = retainUntil w := by
  cases h with
  | frame _ _ hsame =>
      rw [hsame.contacts] at hc'
      exact .inl ⟨c', hc', rfl, le_rfl⟩
  | importRows orgId rows batchId hall =>
      rcases mem_insertNew.mp hc' with hold | hnew
      · exact .inl ⟨c', hold, rfl, le_rfl⟩
      · exact .inr (mem_importedContacts (newRows_sublist.subset hnew))
  | archive orgId contactId =>
      obtain ⟨c, hc, rfl⟩ := of_mem_updateMany (fun _ => by rfl) hc'
      split
      · rename_i harchived
        simp only [Bool.and_eq_true, decide_eq_true_eq] at harchived
        obtain ⟨⟨hid, horg⟩, hactive⟩ := harchived
        exact .inl ⟨c, hc, rfl, hearly c hc hid horg hactive⟩
      · exact .inl ⟨c, hc, rfl, le_rfl⟩
  | sweep => exact .inl ⟨c', (mem_deleteMany.mp hc').1, rfl, le_rfl⟩
  | addRecipients | removeRecipient | dispatch | startJob | settleJob | mint | rotate | touch | claim =>
      exact .inl ⟨c', hc', rfl, le_rfl⟩

theorem Effect.nextId_le (h : Effect V l w w') : w.nextId ≤ w'.nextId := by
  cases h with
  | frame _ _ hsame => exact hsame.nextId
  | importRows | addRecipients | dispatch | mint => exact Nat.le_add_right _ _
  | archive | removeRecipient | startJob | settleJob | rotate | touch | claim | sweep => exact le_rfl

theorem Effect.contact_stays (h : Effect V l w w') (hl : l ≠ .sweep) {c : CorporateContact} (hc : c ∈ w.contacts.rows) :
    ∃ c' ∈ w'.contacts.rows, c'.id = c.id := by
  cases h with
  | frame _ _ hsame => exact ⟨c, hsame.contacts ▸ hc, rfl⟩
  | importRows => exact ⟨c, mem_insertNew.mpr (.inl hc), rfl⟩
  | archive orgId contactId =>
      refine ⟨_, mem_of_find (find_updateMany_some (fun _ => by rfl) (find_of_mem hc)), ?_⟩
      split
      · rfl
      · rfl
  | sweep => exact absurd rfl hl
  | addRecipients | removeRecipient | dispatch | startJob | settleJob | mint | rotate | touch | claim =>
      exact ⟨c, hc, rfl⟩

theorem Effect.swept (h : Effect V .sweep w w') {c : CorporateContact} :
    c ∈ w'.contacts.rows ↔ c ∈ w.contacts.rows ∧ ¬(c.purgeAfter < w.now ∧ ¬Protected w c.id) := by
  cases h with
  | frame _ hl _ => exact absurd rfl hl
  | touch _ hl => exact absurd rfl hl
  | sweep => rw [mem_deleteMany, ← purgeable_iff, Bool.not_eq_true]

/-! ### A run -/

theorem Effect.drawn (h : Effect V l w w') (hearly : Early ⟨w, l, w'⟩) (hw : Drawn w) : Drawn w' := by
  intro c' hc'
  rcases h.contact_from hearly hc' with ⟨c, hc, hid, -⟩ | ⟨-, hlt, -⟩
  · rw [← hid]
    exact (hw c hc).trans_le h.nextId_le
  · exact hlt

/-- The rows under an identifier that has been drawn have no later deadline. -/
structure Bounded (id : Nat) (deadline : Time) (w : Campaigns) : Prop where
  drawn : id < w.nextId
  bounded : ∀ c ∈ w.contacts.rows, c.id = id → c.purgeAfter ≤ deadline

theorem Effect.bounded (h : Effect V l w w') (hearly : Early ⟨w, l, w'⟩) {id : Nat} {deadline : Time}
    (hw : Bounded id deadline w) : Bounded id deadline w' where
  drawn := hw.drawn.trans_le h.nextId_le
  bounded c' hc' hid := by
    rcases h.contact_from hearly hc' with ⟨c, hc, hsame, hle⟩ | ⟨hnew, -, -⟩
    · exact hle.trans (hw.bounded c hc (hsame.trans hid))
    · -- a drawn identifier is not drawn again
      have hdrawn := hw.drawn
      omega

section Path

variable {tr : List (Event Campaigns Step)}

theorem drawn_of_path (h : Path (Effect V) empty tr w) (hearly : ∀ e ∈ tr, Early e) : Drawn w :=
  h.invariant (fun _ _ _ hact he hw => hact.drawn he hw) hearly fun _ hc => by cases hc

theorem created_of_path (h : Path (Effect V) empty tr w) (hearly : ∀ e ∈ tr, Early e) :
    ∀ c ∈ w.contacts.rows, ∃ e ∈ tr, ∃ c₀, Created e c₀ ∧ c₀.id = c.id ∧ c₀.purgeAfter = retainUntil e.pre := by
  induction h with
  | nil => exact fun _ hc => by cases hc
  | @snoc t u l tr' hpath hact ih =>
      intro c' hc'
      have hbefore : ∀ e ∈ tr', Early e := fun e he => hearly e (List.mem_append_left _ he)
      rcases hact.contact_from (hearly _ (by simp)) hc' with ⟨c, hc, hid, -⟩ | ⟨hnew, -, hdeadline⟩
      · obtain ⟨e, he, c₀, hcreated, hsame, hdeadline⟩ := ih hbefore c hc
        exact ⟨e, List.mem_append_left _ he, c₀, hcreated, hsame.trans hid, hdeadline⟩
      · refine ⟨_, List.mem_append_right _ (List.mem_singleton.mpr rfl), c', ⟨fun c hc hsame => ?_, hc'⟩, rfl,
          hdeadline⟩
        have hlt := drawn_of_path hpath hbefore c hc
        omega

theorem bounded_of_path (h : Path (Effect V) empty tr w) (hearly : ∀ e ∈ tr, Early e) {e : Event Campaigns Step}
    (he : e ∈ tr) {c₀ : CorporateContact} (hcreated : Created e c₀) {c : CorporateContact} (hc : c ∈ w.contacts.rows)
    (hid : c.id = c₀.id) : c.purgeAfter ≤ c₀.purgeAfter := by
  obtain ⟨tr₁, tr₂, rfl, hbefore, hact, hafter⟩ := h.split he
  have hearly₁ : ∀ e ∈ tr₁, Early e := fun e' he' => hearly e' (List.mem_append_left _ he')
  have hearly₂ : ∀ e ∈ tr₂, Early e := fun e' he' =>
    hearly e' (List.mem_append_right _ (List.mem_cons_of_mem _ he'))
  have hborn : Bounded c₀.id c₀.purgeAfter e.post := by
    refine ⟨hact.drawn (hearly e he) (drawn_of_path hbefore hearly₁) c₀ hcreated.stored, fun c hc hsame => ?_⟩
    rw [e.post.contacts.row_unique hc hcreated.stored hsame]
  have hend : Bounded c₀.id c₀.purgeAfter w :=
    hafter.invariant (fun _ _ _ hact he hw => hact.bounded he hw) hearly₂ hborn
  exact hend.bounded c hc hid

theorem retained_of_path (h : Path (Effect V) empty tr w) (hearly : ∀ e ∈ tr, Early e) : Retained tr w where
  created := created_of_path h hearly
  bounded := fun _ he _ hcreated _ hc hid => bounded_of_path h hearly he hcreated hc hid
  forward := fun e he c hc c' hc' hid => by
    obtain ⟨tr₁, tr₂, rfl, hbefore, hact, -⟩ := h.split he
    have hdrawn := drawn_of_path hbefore (fun e' he' => hearly e' (List.mem_append_left _ he')) c hc
    rcases hact.contact_from (hearly e he) hc' with ⟨x, hx, hsame, hle⟩ | ⟨hnew, -, -⟩
    · rwa [e.pre.contacts.row_unique hc hx (hid.symm.trans hsame.symm)]
    · omega
  swept := fun e he hl c => by
    obtain ⟨-, -, -, -, hact, -⟩ := h.split he
    rw [hl] at hact
    exact hact.swept
  kept := fun e he hl c hc => by
    obtain ⟨-, -, -, -, hact, -⟩ := h.split he
    exact hact.contact_stays hl hc
  lapses := fun tr₁ e tr₂ htr hl e₀ he₀ c₀ hcreated c hc hid => by
    subst htr
    obtain ⟨u, hbefore, hrest⟩ := h.split_append
    obtain ⟨rfl, hact, -⟩ := hrest.cons_inv
    rw [hl] at hact
    obtain ⟨hpre, hleft⟩ := hact.swept.mp hc
    have hle := bounded_of_path hbefore (fun e' he' => hearly e' (List.mem_append_left _ he')) he₀ hcreated hpre hid
    by_contra hlapsed
    obtain ⟨hlate, hfree⟩ := not_or.mp hlapsed
    exact hleft ⟨hle.trans_lt (not_le.mp hlate), hfree⟩
  safe := fun e he c hc hprotected => by
    obtain ⟨-, -, -, -, hact, -⟩ := h.split he
    by_cases hl : e.lbl = .sweep
    · rw [hl] at hact
      exact ⟨c, hact.swept.mpr ⟨hc, fun hgone => hgone.2 hprotected⟩, rfl⟩
    · exact hact.contact_stays hl hc

end Path

variable [Shop.Cities] [Runtime]

/-- **The retention of a roster is bounded** where every archive is early. -/
theorem Run.retained {tr : List (Event Campaigns Step)} {cfg : Config Campaigns Step (Except Err Reply)}
    (h : Run tr cfg) (hearly : ∀ e ∈ tr, Early e) : Retained tr cfg.state :=
  retained_of_path (Run.plain h) hearly

/-! ### A contact that leaves -/

instance (e : Event Campaigns Step) : Decidable (Early e) := by
  obtain ⟨pre, l, post⟩ := e
  cases l <;> dsimp only [Early] <;> infer_instance

namespace Pilot

/-- So many days go by. -/
def days (n : Nat) : List (Choice Call) := toEnd (.tick (n * 86400000))

/-- Acme imports one contact, who leaves after so many days; the next sweep comes so many days later. -/
def leaver (archivedAfter sweptAfter : Nat) : List (Choice Call) :=
  opened ++ roster "name,email\nNoor,noor@acme.sa" ++ days archivedAfter ++ toEnd (.archiveContact "huda" 1 0) ++
    days sweptAfter ++ toEnd .purge

end Pilot

omit [Shop.Cities] [Runtime] in
/-- A contact who leaves after ten days is gone after forty-one. -/
theorem Run.retained_leaver :
    Retained (Pilot.played (Pilot.leaver 10 31)).1 (Pilot.played (Pilot.leaver 10 31)).2.state ∧
      (Pilot.played (Pilot.leaver 10 31)).2.state.contacts.rows = [] :=
  ⟨@Run.retained Market.Pilot.plainCities plainRuntime _ _ (Pilot.run _) (by decide +kernel), by decide +kernel⟩

omit [Shop.Cities] [Runtime] in
/-- **An archive can push the deadline back**: a contact of a year's retention, archived five days before its end, is
kept for another twenty-five. -/
theorem Run.retained_late : ∃ tr cfg, @Run Market.Pilot.plainCities plainRuntime tr cfg ∧
    cfg.state.now = 366 * DAY_MS ∧ cfg.state.recipients.rows = [] ∧
    (cfg.state.contacts.rows.map fun c => (c.createdAt, c.purgeAfter)) = [(0, 390 * DAY_MS)] ∧ ¬Retained tr cfg.state :=
  ⟨_, _, Pilot.run (Pilot.leaver 360 6), by decide +kernel, by decide +kernel, by decide +kernel,
    fun h => absurd h.forward (by decide +kernel)⟩

end Qift.Campaigns
