import Qift.Runs.Invoices

/-!
# Batches over runs

What every interleaving does to batches and their items.

* `Settles` — an action after which an item is settled that was not; `Closes` — the same for a batch.
* `Effect.settles` — only a closing settles items, and it settles the frozen items of its batch.
* **`Run.paidOnce`** — an item is settled once, under one batch, for the frozen amount; the remittances are
  those of the batches that closed through `markSettled`.
-/

namespace Qift

open Relational Relational.Table Interleaving Settlement Financial

-- a judgment is used by its rules, never by what it unfolds to
attribute [local irreducible] Prog.Meets

/-- An action after which an item is settled that was not. -/
structure Settles (e : Event World Site) (item : SettlementItem) : Prop where
  stored : e.post.db.items.find item.id = some item
  settled : item.state = .settled
  fresh : ∀ x, e.pre.db.items.find item.id = some x → x.state ≠ .settled

/-- An action after which a batch is settled that was not. -/
structure Closes (e : Event World Site) (batchId : Nat) : Prop where
  settled : ∃ r, e.post.db.batches.find batchId = some r ∧ r.status = .settled
  fresh : ∀ r, e.pre.db.batches.find batchId = some r → r.status ≠ .settled

/-! ### One action -/

section Steps

variable [Runtime] {l : Site} {b b' : Books}

/-- A closing settles an item: it was ready in the batch that closes. -/
structure SettledBy (l : Site) (b b' : Books) (batch : SettlementBatch) (x y : SettlementItem) :
    Prop where
  label : ∃ gate, l = .markSettled batch.id gate ∨ l = .markSettledZeroNet batch.id gate
  closable : Closable b batch
  found : b.items.find y.id = some x
  ready : x.state = .ready
  bound : x.batchId = some batch.id
  settled : y = { x with state := .settled }
  member : y.id ∈ memberIds batch
  closed : ∃ closureType closedAt, b'.batches.find batch.id =
    some (closeRow closureType closedAt batch)

omit [Runtime] in
theorem Closable.settles {batch : SettlementBatch} (h : Closable b batch) {y : SettlementItem}
    (hlabel : ∃ gate, l = .markSettled batch.id gate ∨ l = .markSettledZeroNet batch.id gate)
    {closureType : ClosureType} {closedAt : Time}
    (hitems : b'.items = b.items.updateMany
      (fun i => i.id ∈ memberIds batch ∧ i.batchId = some batch.id ∧ i.state = .ready)
      (fun i => { i with state := .settled }) fun _ => rfl)
    (hbatches : b'.batches = b.batches.updateMany (fun r => r.id = batch.id ∧ r.status = .ready)
      (closeRow closureType closedAt) (closeRow_id _ _))
    (hy : b'.items.find y.id = some y) :
    (∃ x, b.items.find y.id = some x ∧ x = y) ∨ ∃ x, SettledBy l b b' batch x y := by
  rw [hitems, find_updateMany] at hy
  obtain ⟨x, hx, hxy⟩ := Option.map_eq_some_iff.mp hy
  by_cases hp : x.id ∈ memberIds batch ∧ x.batchId = some batch.id ∧ x.state = .ready
  · rw [if_pos (by simpa using hp)] at hxy
    have hid : x.id = y.id := by rw [← hxy]
    refine Or.inr ⟨x, hlabel, h, hx, hp.2.2, hp.2.1, hxy.symm, hid ▸ hp.1, closureType, closedAt, ?_⟩
    rw [hbatches]
    exact h.find_close closureType closedAt 0 b.ledger 0
  · rw [if_neg (by simpa using hp)] at hxy
    exact Or.inl ⟨x, hx, hxy⟩

/-- **Only a closing settles items.**  An item that is settled or reversed was so before, or a closing of its
batch has just settled it. -/
theorem Effect.settles (heffect : Effect l b b') {y : SettlementItem}
    (hy : b'.items.find y.id = some y) (hfinal : y.state ∈ FINAL_STATES) :
    (∃ x, b.items.find y.id = some x ∧ x.state ∈ FINAL_STATES ∧
      (y.state = .settled → x.state = .settled)) ∨
    ∃ batch x, SettledBy l b b' batch x y := by
  have hold {x : SettlementItem} (hx : b.items.find y.id = some x) (hstate : x.state = y.state) :
      ∃ x, b.items.find y.id = some x ∧ x.state ∈ FINAL_STATES ∧
        (y.state = .settled → x.state = .settled) :=
    ⟨x, hx, hstate ▸ hfinal, fun hs => hstate.trans hs⟩
  cases heffect with
  | @item _ inv createdAt items n hstored hcurrency hcovered hfresh hcreate hn =>
      change items.find y.id = some y at hy
      rw [find_create hcreate] at hy
      split at hy
      · have hrow := Option.some.inj hy
        rw [← hrow] at hfinal
        simp [itemRow, FINAL_STATES] at hfinal
      · exact Or.inl (hold hy rfl)
  | eligible =>
      obtain ⟨x, hx, ⟨-, hxy⟩ | ⟨-, hxy⟩⟩ := find_updated hy rfl fun _ => rfl
      · rw [hxy] at hfinal
        simp [FINAL_STATES] at hfinal
      · exact Or.inl (hold hx (congrArg SettlementItem.state hxy.symm))
  | assemble hassembles hcreate hposts hn =>
      obtain ⟨x, hx, ⟨-, hxy⟩ | ⟨-, hxy⟩⟩ := find_updated hy rfl fun _ => rfl
      · rw [hxy] at hfinal
        simp [bindRow, FINAL_STATES] at hfinal
      · exact Or.inl (hold hx (congrArg SettlementItem.state hxy.symm))
  | supersede hstored hcause hlegal hposts hn =>
      obtain ⟨x, hx, ⟨-, hxy⟩ | ⟨-, hxy⟩⟩ := find_updated hy rfl fun _ => rfl
      · rw [hxy] at hfinal
        exact absurd hfinal (free_notFinal (superseded_free hcause _ _))
      · exact Or.inl (hold hx (congrArg SettlementItem.state hxy.symm))
  | markSettled hclosable hgated hcreate hposts hn =>
      rcases hclosable.settles ⟨_, Or.inl rfl⟩ rfl rfl hy with ⟨x, hx, rfl⟩ | ⟨x, hby⟩
      · exact Or.inl (hold hx rfl)
      · exact Or.inr ⟨_, x, hby⟩
  | markSettledZeroNet hclosable hgated hzero hposts hn =>
      rcases hclosable.settles ⟨_, Or.inr rfl⟩ rfl rfl hy with ⟨x, hx, rfl⟩ | ⟨x, hby⟩
      · exact Or.inl (hold hx rfl)
      · exact Or.inr ⟨_, x, hby⟩
  | reduce hrefunds hstate hunbound hamount hcreate hposts hn =>
      obtain ⟨x, hx, ⟨-, hxy⟩ | ⟨-, hxy⟩⟩ := find_updated hy rfl fun _ => rfl
      · have hstate : x.state = y.state := by rw [hxy]; rfl
        exact Or.inl (hold hx hstate)
      · exact Or.inl (hold hx (congrArg SettlementItem.state hxy.symm))
  | accrue hrefunds hstate hreversed hcreate haccrue hposts hid hn =>
      obtain ⟨x, hx, ⟨hp, hxy⟩ | ⟨-, hxy⟩⟩ := find_updated hy rfl fun _ => rfl
      · -- a settled item may become reversed
        simp only [Bool.and_eq_true, decide_eq_true_eq] at hp
        have hsettled : x.state = .settled := hp.2.2
        exact Or.inl ⟨x, hx, by simp [hsettled, FINAL_STATES], fun _ => hsettled⟩
      · exact Or.inl (hold hx (congrArg SettlementItem.state hxy.symm))
  | _ => exact Or.inl (hold hy rfl)

/-- A closing of a stored batch. -/
structure ClosedBy (l : Site) (b b' : Books) (batch : SettlementBatch) (closureType : ClosureType) :
    Prop where
  closable : Closable b batch
  closed : ∃ closedAt, b'.batches.find batch.id = some (closeRow closureType closedAt batch)
  remitted : closureType = .remitted → (∃ gate, l = .markSettled batch.id gate) ∧
    ∃ r, b'.remittances.find batch.id = some r
  zeroNet : closureType = .zero_net_no_transfer → ∃ gate, l = .markSettledZeroNet batch.id gate

/-- **Only a closing settles a batch.** -/
theorem Effect.closes (heffect : Effect l b b') {n : Nat} {r : SettlementBatch}
    (hr : b'.batches.find n = some r) (hsettled : r.status = .settled)
    (hfresh : ∀ x, b.batches.find n = some x → x.status ≠ .settled) :
    ∃ batch closureType, batch.id = n ∧ ClosedBy l b b' batch closureType := by
  have hold {x : SettlementBatch} (hx : b.batches.find n = some x)
      (hstatus : r.status = x.status) : False := hfresh x hx (hstatus.symm.trans hsettled)
  -- a closing settles no batch but its own
  have hclose {batch : SettlementBatch} {closureType : ClosureType} {closedAt : Time}
      (hr : (b.batches.updateMany (fun r => r.id = batch.id ∧ r.status = .ready)
        (closeRow closureType closedAt) (closeRow_id _ _)).find n = some r) : batch.id = n := by
    obtain ⟨x, hx, ⟨hp, -⟩ | ⟨-, hxr⟩⟩ := find_updated hr rfl fun _ => rfl
    · have hid : x.id = n := key_of_find hx
      simp only [decide_eq_true_eq] at hp
      exact hp.1.symm.trans hid
    · exact (hold hx (congrArg SettlementBatch.status hxr)).elim
  cases heffect with
  | @assemble _ batch batches ledger n' hassembles hcreate hposts hn =>
      change batches.find n = some r at hr
      rw [find_create hcreate] at hr
      split at hr
      · have hrow := Option.some.inj hr
        rw [← hrow, hassembles.ready] at hsettled
        cases hsettled
      · exact (hold hr rfl).elim
  | statusWrite hlegal htarget =>
      obtain ⟨x, hx, ⟨-, hxr⟩ | ⟨-, hxr⟩⟩ := find_updated hr rfl fun _ => rfl
      · rw [hxr] at hsettled
        rcases htarget with rfl | rfl | rfl
        · cases hsettled
        · cases hsettled
        · cases hsettled
      · exact (hold hx (congrArg SettlementBatch.status hxr)).elim
  | supersede hstored hcause hlegal hposts hn =>
      obtain ⟨x, hx, ⟨-, hxr⟩ | ⟨-, hxr⟩⟩ := find_updated hr rfl fun _ => rfl
      · rw [hxr] at hsettled
        cases hsettled
      · exact (hold hx (congrArg SettlementBatch.status hxr)).elim
  | link =>
      obtain ⟨x, hx, ⟨-, hxr⟩ | ⟨-, hxr⟩⟩ := find_updated hr rfl fun _ => rfl
      · exact (hold hx (by rw [hxr])).elim
      · exact (hold hx (congrArg SettlementBatch.status hxr)).elim
  | @markSettled _ batch evidence closedAt remittances ledger _ gate n' hclosable hgated hcreate
      hposts hn =>
      refine ⟨batch, .remitted, hclose hr, hclosable, ⟨closedAt, ?_⟩, fun _ => ⟨⟨gate, rfl⟩, ?_⟩, (by simp)⟩
      · exact hclosable.find_close .remitted closedAt 0 b.ledger 0
      · exact ⟨_, find_create_self hcreate⟩
  | @markSettledZeroNet _ batch closedAt ledger _ gate n' hclosable hgated hzero hposts hn =>
      refine ⟨batch, .zero_net_no_transfer, hclose hr, hclosable, ⟨closedAt, ?_⟩, (by simp),
        fun _ => ⟨gate, rfl⟩⟩
      exact hclosable.find_close .zero_net_no_transfer closedAt 0 b.ledger 0
  | _ => exact (hold hr rfl).elim

/-- **Only a closing with a transfer remits.** -/
theorem Effect.remits (heffect : Effect l b b') {r : SettlementRemittance}
    (hr : r ∈ b'.remittances.rows) (hfresh : r ∉ b.remittances.rows) :
    ∃ batch gate, batch.id = r.settlementId ∧ l = .markSettled batch.id gate ∧ Closable b batch ∧
      ∃ closedAt, b'.batches.find batch.id = some (closeRow .remitted closedAt batch) := by
  cases heffect with
  | @markSettled _ batch evidence closedAt remittances ledger _ gate n hclosable hgated hcreate
      hposts hn =>
      rcases (mem_create hcreate).mp hr with hold | rfl
      · exact absurd hold hfresh
      · exact ⟨batch, gate, rfl, rfl, hclosable, closedAt,
          hclosable.find_close .remitted closedAt 0 b.ledger 0⟩
  | _ => exact absurd hr hfresh

end Steps

/-! ### Runs -/

section Runs

variable [Runtime] {tr : List (Event World Site)} {cfg : Config World Site (Except Err Reply)}

theorem escrow_of_rely {s t : World} (hs : Reachable s) (hst : Rely Step s t) :
    Escrow.Run s.db.books.escrow t.db.books.escrow := by
  induction hst with
  | refl => exact Relation.ReflTransGen.refl
  | @tail u v hsu hact ih =>
      obtain ⟨l, hl⟩ := hact
      have hu : Reachable u := hs.trans hsu
      exact ih.tail (Effect.escrow hu.custody hl)

theorem Run.settles (h : Run tr cfg) {e : Event World Site} (he : e ∈ tr) {y : SettlementItem}
    (hy : Settles e y) : ∃ batch x, SettledBy e.lbl e.pre.db.books e.post.db.books batch x y := by
  obtain ⟨-, hact, -⟩ := h.event he
  have hfinal : y.state ∈ FINAL_STATES := by simp [hy.settled, FINAL_STATES]
  rcases Effect.settles hact hy.stored hfinal with ⟨x, hx, -, hsettled⟩ | hby
  · exact absurd (hsettled hy.settled) (hy.fresh x hx)
  · exact hby

theorem Settles.kept {e : Event World Site} {y : SettlementItem} (hy : Settles e y)
    (hpost : Reachable e.post) {t : World} (hst : Rely Step e.post t) :
    ∃ z, t.db.items.find y.id = some z ∧ z.state ∈ FINAL_STATES ∧ z.batchId = y.batchId := by
  have hpaid : e.post.db.books.escrow.paid y.id :=
    ⟨y, hy.stored, by simp [hy.settled, FINAL_STATES]⟩
  obtain ⟨⟨z, hz, hfinal⟩, hholder⟩ := Escrow.paid_forever (escrow_of_rely hpost hst) hpaid
  refine ⟨z, hz, hfinal, ?_⟩
  have hpre : e.post.db.books.items.find y.id = some y := hy.stored
  simpa only [Books.escrow, hz, hpre, Option.bind_some] using hholder

theorem Run.closes (h : Run tr cfg) {e : Event World Site} (he : e ∈ tr) {n : Nat}
    (hcloses : Closes e n) : ∃ batch closureType, batch.id = n ∧
      ClosedBy e.lbl e.pre.db.books e.post.db.books batch closureType := by
  obtain ⟨-, hact, -⟩ := h.event he
  obtain ⟨r, hr, hsettled⟩ := hcloses.settled
  exact Effect.closes hact hr hsettled hcloses.fresh

theorem Run.settles_of_closed (h : Run tr cfg) {n i : Nat} {batch : SettlementBatch}
    (hbatch : cfg.state.db.batches.find n = some batch) (hclosed : batch.closureType ≠ none)
    (hi : i ∈ memberIds batch) :
    ∃ e ∈ tr, ∃ y, Settles e y ∧ y.id = i ∧ y.batchId = some n := by
  have hcustody := h.reachable.custody
  have hstored : cfg.state.db.books.batches.find n = some batch := hbatch
  have hid : batch.id = n := key_of_find hstored
  obtain ⟨-, -, hmembers⟩ := (hcustody.batches batch (mem_of_find hstored)).closed hclosed
  obtain ⟨item, hitem, hbound⟩ := hmembers i hi
  rw [hid] at hbound
  -- in the end the item is final, in the beginning it was not stored
  have hfinal : item.state ∈ FINAL_STATES := by
    obtain ⟨row, hrow, hto⟩ := hcustody.boundTo (mem_of_find hitem) hbound
    obtain rfl := Option.some.inj (hstored.symm.trans hrow)
    exact hto.final hclosed
  have hempty : ¬ ∃ x, World.empty.db.items.find i = some x ∧ x.state ∈ FINAL_STATES := by
    rintro ⟨x, hx, -⟩
    cases hx
  obtain ⟨e, he, hact, hbefore, y, hy, hyfinal⟩ := h.path.flip
    (P := fun w => ∃ x, w.db.items.find i = some x ∧ x.state ∈ FINAL_STATES) hempty ⟨item, hitem, hfinal⟩
  obtain ⟨hpre, -, hlast⟩ := h.event he
  have hyid : y.id = i := key_of_find hy
  subst hyid
  rcases Effect.settles hact hy hyfinal with ⟨x, hx, hxfinal, -⟩ | ⟨other, x, hby⟩
  · exact absurd ⟨x, hx, hxfinal⟩ hbefore
  · have hsettles : Settles e y := by
      refine ⟨hy, by rw [hby.settled], fun x' hx' hsettled => hbefore ⟨x', hx', ?_⟩⟩
      simp [hsettled, FINAL_STATES]
    have hpost : Reachable e.post := hpre.trans (Rely.single hact)
    obtain ⟨z, hz, -, hkept⟩ := hsettles.kept hpost hlast
    have hsame : cfg.state.db.items.find y.id = some item := hitem
    obtain rfl := Option.some.inj (hsame.symm.trans hz)
    exact ⟨e, he, y, hsettles, rfl, hkept.symm.trans hbound⟩

/-- What no run can do twice. -/
structure PaidOnce (tr : List (Event World Site)) (w : World) : Prop where
  /-- A settled item is paid by a batch for the amount frozen there. -/
  frozen : ∀ e ∈ tr, ∀ y, Settles e y → ∃ batch, y.batchId = some batch.id ∧
    e.post.db.batches.find batch.id = some batch ∧
      ∃ c ∈ batch.composition, c.itemId = y.id ∧ c.amount = moneyToNumber y.amount
  /-- It is settled under one batch. -/
  oneBatch : ∀ e ∈ tr, ∀ e' ∈ tr, ∀ y y', Settles e y → Settles e' y' → y'.id = y.id →
    y'.batchId = y.batchId
  /-- It is settled by one action. -/
  once : ∀ tr₁ e tr₂, tr = tr₁ ++ e :: tr₂ → ∀ y, Settles e y → ∀ e' ∈ tr₂, ∀ y', Settles e' y' →
    y'.id ≠ y.id
  /-- A remittance stands for a batch that closed with a transfer. -/
  remitted : ∀ n, (∃ r ∈ w.db.remittances.rows, r.settlementId = n) ↔
    ∃ e ∈ tr, Closes e n ∧ ∃ gate, e.lbl = .markSettled n gate
  zeroNet : ∀ e ∈ tr, ∀ n gate, Closes e n → e.lbl = .markSettledZeroNet n gate →
    ∀ r ∈ w.db.remittances.rows, r.settlementId ≠ n
  oneRemittance : ∀ r ∈ w.db.remittances.rows, ∀ r' ∈ w.db.remittances.rows,
    r'.settlementId = r.settlementId → r' = r
  /-- A closed batch settled its frozen composition, no less and no more. -/
  composition : ∀ n batch, w.db.batches.find n = some batch → ∀ i,
    (∃ e ∈ tr, ∃ y, Settles e y ∧ y.id = i ∧ y.batchId = some n) ↔
      (∃ e ∈ tr, Closes e n) ∧ i ∈ memberIds batch

theorem Run.closure (h : Run tr cfg) {e : Event World Site} (he : e ∈ tr) {batch : SettlementBatch}
    {closureType : ClosureType}
    (hby : ClosedBy e.lbl e.pre.db.books e.post.db.books batch closureType) :
    ∃ row, cfg.state.db.batches.find batch.id = some row ∧ row.closureType = some closureType ∧
      memberIds row = memberIds batch := by
  obtain ⟨-, -, hlast⟩ := h.event he
  obtain ⟨closedAt, hclosed⟩ := hby.closed
  obtain ⟨row, hrow, hsame⟩ := (later_of_rely hlast).batches _ _ hclosed
  have hclosure := (hsame.closure (by nofun)).1
  exact ⟨row, hrow, hclosure, hsame.memberIds⟩

omit [Runtime] in
theorem SettledBy.closes {e : Event World Site} {batch : SettlementBatch} {x y : SettlementItem}
    (h : SettledBy e.lbl e.pre.db.books e.post.db.books batch x y) : Closes e batch.id where
  settled := by
    obtain ⟨closureType, closedAt, hclosed⟩ := h.closed
    exact ⟨_, hclosed, rfl⟩
  fresh := by
    intro r hr hsettled
    have hstored : e.pre.db.books.batches.find batch.id = some r := hr
    obtain rfl := Option.some.inj (h.closable.stored.symm.trans hstored)
    rw [h.closable.ready] at hsettled
    cases hsettled

/-- **No double payment.** -/
theorem Run.paidOnce (h : Run tr cfg) : PaidOnce tr cfg.state where
  frozen := by
    intro e he y hy
    obtain ⟨hpre, hact, -⟩ := h.event he
    obtain ⟨batch, x, hby⟩ := h.settles he hy
    obtain ⟨closureType, closedAt, hclosed⟩ := hby.closed
    obtain ⟨row, hrow, hto⟩ := hpre.custody.boundTo (mem_of_find hby.found) hby.bound
    obtain rfl := Option.some.inj (hby.closable.stored.symm.trans hrow)
    obtain ⟨c, hc, hcid, hamount⟩ := hto.frozen.1
    refine ⟨closeRow closureType closedAt batch, ?_, hclosed, c, hc, ?_, ?_⟩
    · rw [hby.settled]
      exact hby.bound
    · rw [hcid, hby.settled]
    · rw [hamount, hby.settled]
  oneBatch := by
    intro e he e' he' y y' hy hy' hid
    obtain ⟨hpre, hact, hlast⟩ := h.event he
    obtain ⟨hpre', hact', hlast'⟩ := h.event he'
    obtain ⟨z, hz, -, hkept⟩ := hy.kept (hpre.trans (Rely.single hact)) hlast
    obtain ⟨z', hz', -, hkept'⟩ := hy'.kept (hpre'.trans (Rely.single hact')) hlast'
    rw [hid] at hz'
    obtain rfl := Option.some.inj (hz.symm.trans hz')
    exact hkept'.symm.trans hkept
  once := by
    intro tr₁ e tr₂ htr y hy e' he' y' hy' hid
    have hpath := h.path
    rw [htr] at hpath
    obtain ⟨u, hbefore, hrest⟩ := hpath.split_append
    obtain ⟨rfl, hact, hafter⟩ := hrest.cons_inv
    obtain ⟨_, _, -, hbetween, hact', -⟩ := hafter.split he'
    have hpost : Reachable e.post := hbefore.rely.trans (Rely.single hact)
    obtain ⟨z, hz, hfinal, -⟩ := hy.kept hpost hbetween.rely
    -- what is settled later was ready, and the item is final by then
    obtain ⟨batch, x, hby⟩ := h.settles (by rw [htr]; simp [he']) hy'
    have hx : e'.pre.db.books.items.find y.id = some x := hid ▸ hby.found
    obtain rfl := Option.some.inj (hx.symm.trans hz)
    rw [hby.ready] at hfinal
    simp [FINAL_STATES] at hfinal
  remitted := by
    intro n
    constructor
    · rintro ⟨r, hr, rfl⟩
      have hempty : r ∉ World.empty.db.remittances.rows := by simp [World.empty]
      obtain ⟨e, he, hact, hbefore, hafter⟩ :=
        h.path.flip (P := fun w => r ∈ w.db.remittances.rows) hempty hr
      obtain ⟨batch, gate, hid, hlbl, hclosable, closedAt, hclosed⟩ := Effect.remits hact hafter hbefore
      rw [← hid]
      refine ⟨e, he, ⟨⟨_, hclosed, rfl⟩, fun x hx hsettled => ?_⟩, gate, hlbl⟩
      have hstored : e.pre.db.books.batches.find batch.id = some x := hx
      obtain rfl := Option.some.inj (hclosable.stored.symm.trans hstored)
      rw [hclosable.ready] at hsettled
      cases hsettled
    · rintro ⟨e, he, hcloses, gate, hlbl⟩
      obtain ⟨-, -, hlast⟩ := h.event he
      obtain ⟨batch, closureType, rfl, hby⟩ := h.closes he hcloses
      cases closureType with
      | remitted =>
          obtain ⟨-, r, hr⟩ := hby.remitted rfl
          obtain ⟨r', hr', rfl⟩ := (later_of_rely hlast).remittances _ _ hr
          exact ⟨r, mem_of_find hr', key_of_find hr'⟩
      | zero_net_no_transfer =>
          obtain ⟨gate', hlbl'⟩ := hby.zeroNet rfl
          rw [hlbl] at hlbl'
          cases hlbl'
  zeroNet := by
    intro e he n gate hcloses hlbl r hr hid
    obtain ⟨batch, closureType, rfl, hby⟩ := h.closes he hcloses
    obtain ⟨row, hrow, hclosure, -⟩ := h.closure he hby
    cases closureType with
    | remitted =>
        obtain ⟨⟨gate', hlbl'⟩, -⟩ := hby.remitted rfl
        rw [hlbl] at hlbl'
        cases hlbl'
    | zero_net_no_transfer =>
        have hnone := h.reachable.custody.no_remittance hrow hclosure
        have hfound : cfg.state.db.books.remittances.find batch.id = some r := hid ▸ find_of_mem hr
        rw [hnone] at hfound
        cases hfound
  oneRemittance := fun r hr r' hr' hid => row_unique _ hr' hr hid
  composition := by
    intro n batch hbatch i
    constructor
    · rintro ⟨e, he, y, hy, rfl, hbound⟩
      obtain ⟨other, x, hby⟩ := h.settles he hy
      have hn : other.id = n := by
        have hsame : y.batchId = some other.id := by rw [hby.settled]; exact hby.bound
        exact Option.some.inj (hsame.symm.trans hbound)
      subst hn
      refine ⟨⟨e, he, hby.closes⟩, ?_⟩
      obtain ⟨-, -, hlast⟩ := h.event he
      obtain ⟨closureType, closedAt, hclosed⟩ := hby.closed
      obtain ⟨row, hrow, hsame⟩ := (later_of_rely hlast).batches _ _ hclosed
      obtain rfl := Option.some.inj (hrow.symm.trans hbatch)
      rw [hsame.memberIds]
      exact hby.member
    · rintro ⟨⟨e, he, hcloses⟩, hi⟩
      obtain ⟨other, closureType, rfl, hby⟩ := h.closes he hcloses
      obtain ⟨row, hrow, hclosure, -⟩ := h.closure he hby
      obtain rfl := Option.some.inj (hrow.symm.trans hbatch)
      exact h.settles_of_closed hrow (by rw [hclosure]; simp) hi

end Runs

/-- A batch of one item, paid. -/
def Pilot.assembled : List Call :=
  [.surround surroundings, issueGoods 100, receive .merchant_invoice 0 100 "B-1", .evaluate 500,
    .assembleBatch 1 500 "SAR" fun _ => ["QS-1"]]

def Pilot.remit : Call :=
  .markSettled 6 { bankTransferReference := "T-1", executedAt := newYear, executedBy := 2 }

theorem Run.paidOnce_oneBatch :
    let run := Pilot.played (Pilot.inOrder (Pilot.assembled ++ [Pilot.remit]))
    (run.2.state.db.remittances.rows.map fun r => (r.settlementId, r.amount.cents)) = [(6, 10000)] ∧
      PaidOnce run.1 run.2.state :=
  ⟨by decide +kernel, @Run.paidOnce plainRuntime _ _ (Pilot.run _)⟩

/-! ### Statuses -/

def Books.fresh (b : Books) : Site → Bool
  | .statusWrite batchId readStatus _ =>
      (b.batches.find batchId).all fun r => r.status = readStatus
  | _ => true

/-- The batches keep step with their items: a closed one is settled, and one that is not superseded has all of
its items. -/
structure InStep (b : Books) : Prop where
  closed : ∀ r ∈ b.batches.rows, r.closureType ≠ none → r.status = .settled
  members : ∀ r ∈ b.batches.rows, r.status ≠ .superseded → MembersBound b.items r

theorem inStep_empty : InStep World.empty.db.books where
  closed := by simp [Db.books, World.empty]
  members := by simp [Db.books, World.empty]

section Steps

variable [Runtime] {l : Site} {b b' : Books}

omit [Runtime] in
theorem InStep.keep (h : InStep b) (hbatches : b'.batches = b.batches)
    (hitems : ∀ r, MembersBound b.items r → MembersBound b'.items r) : InStep b' where
  closed := fun r hr => h.closed r (hbatches ▸ hr)
  members := fun r hr hs => hitems r (h.members r (hbatches ▸ hr) hs)

omit [Runtime] in
theorem InStep.close (h : InStep b) {batch : SettlementBatch} {closureType : ClosureType}
    {closedAt : Time}
    (hitems : b'.items.rows = b.items.rows.map fun i =>
      if decide (i.id ∈ memberIds batch ∧ i.batchId = some batch.id ∧ i.state = .ready) = true
      then { i with state := .settled } else i)
    (hbatches : b'.batches.rows = b.batches.rows.map fun r =>
      if decide (r.id = batch.id ∧ r.status = .ready) = true then closeRow closureType closedAt r
      else r) : InStep b' := by
  have hbound {r : SettlementBatch} (hr : MembersBound b.items r) : MembersBound b'.items r :=
    membersBound_updateMany hitems (fun _ => rfl) hr fun _ _ _ hi => hi
  constructor
  · intro r hr hc
    rw [hbatches] at hr
    obtain ⟨r₀, hr₀, rfl⟩ := List.mem_map.mp hr
    split at hc
    · rename_i hp
      rw [if_pos hp]
      rfl
    · rename_i hp
      rw [if_neg hp]
      exact h.closed r₀ hr₀ hc
  · intro r hr hs
    rw [hbatches] at hr
    obtain ⟨r₀, hr₀, rfl⟩ := List.mem_map.mp hr
    by_cases hp : decide (r₀.id = batch.id ∧ r₀.status = .ready) = true
    · rw [if_pos hp]
      simp only [decide_eq_true_eq] at hp
      have hmembers := h.members r₀ hr₀ (by rw [hp.2]; nofun)
      exact hbound hmembers
    · rw [if_neg hp] at hs ⊢
      exact hbound (h.members r₀ hr₀ hs)

/-- **Every effect keeps batches and items in step**, as long as no status write is stale. -/
theorem InStep.effect (h : InStep b) (hcustody : Custody b) (heffect : Effect l b b')
    (hfresh : b.fresh l = true) : InStep b' := by
  cases heffect with
  | item hstored hcurrency hcovered hfree hcreate hn =>
      refine h.keep rfl fun r hr i hi => ?_
      obtain ⟨item, hitem, hbound⟩ := hr i hi
      exact ⟨item, find_create_of_find hcreate hitem, hbound⟩
  | eligible =>
      exact h.keep rfl fun r hr => membersBound_updateMany (f := fun i => { i with state := .eligible })
        rfl (fun _ => rfl) hr fun _ _ _ hi => hi
  | @assemble _ batch batches ledger n hassembles hcreate hposts hn =>
      have hold {r : SettlementBatch} (hr : MembersBound b.items r) : MembersBound
          (b.items.updateMany (fun i => decide (i.id ∈ memberIds batch)) (bindRow batch.id)
            (bindRow_id _)) r := by
        refine membersBound_updateMany rfl (bindRow_id _) hr fun i hi hp hbound => ?_
        -- the items of the new batch were free
        obtain ⟨-, hfree, -⟩ := hassembles.member hi (by simpa using hp)
        rw [hfree] at hbound
        cases hbound
      constructor
      · intro r hr hc
        rcases (mem_create hcreate).mp hr with hr | rfl
        · exact h.closed r hr hc
        · exact absurd hassembles.unclosed hc
      · intro r hr hs
        rcases (mem_create hcreate).mp hr with hr | rfl
        · exact hold (h.members r hr hs)
        · intro i hi
          obtain ⟨c, hc, hci⟩ := List.mem_map.mp hi
          obtain ⟨item, hitem, -⟩ := hassembles.members c hc
          rw [hci] at hitem
          have hid : item.id = i := key_of_find hitem
          refine ⟨bindRow r.id item, ?_, rfl⟩
          rw [find_updateMany, hitem, Option.map_some, if_pos (by simpa [hid] using hi)]
  | @statusWrite _ batchId readStatus target evidence hlegal htarget =>
      have hread {r : SettlementBatch} (hr : r ∈ b.batches.rows) (hid : r.id = batchId) :
          r.status = readStatus := by
        have hfound : b.batches.find batchId = some r := hid ▸ find_of_mem hr
        simpa [Books.fresh, hfound] using hfresh
      constructor
      · intro r hr hc
        obtain ⟨r₀, hr₀, rfl⟩ := List.mem_map.mp hr
        by_cases hp : r₀.id = batchId
        · -- no status may follow the one of a closed batch
          rw [if_pos (by simpa using hp)] at hc
          have hsettled := h.closed r₀ hr₀ hc
          rw [hread hr₀ hp] at hsettled
          rw [hsettled] at hlegal
          cases hlegal
        · rw [if_neg (by simpa using hp)] at hc ⊢
          exact h.closed r₀ hr₀ hc
      · intro r hr hs
        obtain ⟨r₀, hr₀, rfl⟩ := List.mem_map.mp hr
        by_cases hp : r₀.id = batchId
        · rw [if_pos (by simpa using hp)]
          have hmembers : MembersBound b.items r₀ := by
            refine h.members r₀ hr₀ fun hsuperseded => ?_
            rw [hread hr₀ hp] at hsuperseded
            rw [hsuperseded] at hlegal
            cases hlegal
          exact hmembers
        · rw [if_neg (by simpa using hp)] at hs ⊢
          exact h.members r₀ hr₀ hs
  | @supersede _ batch cause disposition affectedItemIds hold ledger n hstored hcause hlegal hposts hn =>
      have hopen := hcustody.unclosed_of_legal hstored hcause hlegal
      constructor
      · intro r hr hc
        obtain ⟨r₀, hr₀, rfl⟩ := List.mem_map.mp hr
        by_cases hp : r₀.id = batch.id
        · rw [if_pos (by simpa using hp)] at hc
          have hsame := row_unique _ hr₀ (mem_of_find hstored) hp
          subst hsame
          exact absurd hopen hc
        · rw [if_neg (by simpa using hp)] at hc ⊢
          exact h.closed r₀ hr₀ hc
      · intro r hr hs
        obtain ⟨r₀, hr₀, rfl⟩ := List.mem_map.mp hr
        by_cases hp : r₀.id = batch.id
        · rw [if_pos (by simpa using hp)] at hs
          exact absurd rfl hs
        · rw [if_neg (by simpa using hp)] at hs ⊢
          refine membersBound_updateMany rfl (unbindRow_id _ _ _) (h.members r₀ hr₀ hs)
            fun i hi hbound hother => ?_
          -- an item of another batch is not touched
          simp only [decide_eq_true_eq] at hbound
          rw [hbound, Option.some.injEq] at hother
          exact absurd hother.symm hp
  | link =>
      constructor
      · intro r hr hc
        obtain ⟨r₀, hr₀, rfl⟩ := List.mem_map.mp hr
        split at hc
        · rename_i hp
          rw [if_pos hp]
          exact h.closed r₀ hr₀ hc
        · rename_i hp
          rw [if_neg hp]
          exact h.closed r₀ hr₀ hc
      · intro r hr hs
        obtain ⟨r₀, hr₀, rfl⟩ := List.mem_map.mp hr
        split at hs
        · rename_i hp
          rw [if_pos hp]
          exact h.members r₀ hr₀ hs
        · rename_i hp
          rw [if_neg hp]
          exact h.members r₀ hr₀ hs
  | markSettled hclosable hgated hcreate hposts hn => exact h.close rfl rfl
  | markSettledZeroNet hclosable hgated hzero hposts hn => exact h.close rfl rfl
  | reduce hrefunds hstate hunbound hamount hcreate hposts hn =>
      exact h.keep rfl fun r hr => membersBound_updateMany rfl (reduceRow_id _) hr fun _ _ _ hi => hi
  | accrue hrefunds hstate hreversed hcreate haccrue hposts hid hn =>
      exact h.keep rfl fun r hr => membersBound_updateMany (f := fun i => { i with state := .reversed })
        rfl (fun _ => rfl) hr fun _ _ _ hi => hi
  | _ => exact h.keep rfl fun _ hr => hr

/-- **A status moves along the table.** -/
theorem Effect.status (heffect : Effect l b b') (hcustody : Custody b)
    (hfresh : b.fresh l = true) {n : Nat} {r r' : SettlementBatch} (hr : b.batches.find n = some r) (hr' : b'.batches.find n = some r') :
    r'.status = r.status ∨ r'.status ∈ BATCH_TRANSITIONS r.status := by
  have hrow {x : SettlementBatch} (hx : b.batches.find n = some x) : x = r :=
    Option.some.inj (hx.symm.trans hr)
  -- a closing takes a ready batch
  have hclose {batch : SettlementBatch} {closureType : ClosureType} {closedAt : Time}
      (hr' : (b.batches.updateMany (fun r => r.id = batch.id ∧ r.status = .ready)
        (closeRow closureType closedAt) (closeRow_id _ _)).find n = some r') :
      r'.status = r.status ∨ r'.status ∈ BATCH_TRANSITIONS r.status := by
    obtain ⟨x, hx, ⟨hp, hxr⟩ | ⟨-, hxr⟩⟩ := find_updated hr' rfl fun _ => rfl
    · obtain rfl := hrow hx
      simp only [decide_eq_true_eq] at hp
      right
      rw [hxr, hp.2]
      simp [closeRow, BATCH_TRANSITIONS]
    · obtain rfl := hrow hx
      exact Or.inl (congrArg SettlementBatch.status hxr)
  cases heffect with
  | assemble hassembles hcreate hposts hn =>
      have hkept := find_create_of_find hcreate hr
      exact Or.inl (congrArg SettlementBatch.status (Option.some.inj (hr'.symm.trans hkept)))
  | @statusWrite _ batchId readStatus target evidence hlegal htarget =>
      obtain ⟨x, hx, ⟨hp, hxr⟩ | ⟨-, hxr⟩⟩ := find_updated hr' rfl fun _ => rfl
      · obtain rfl := hrow hx
        simp only [decide_eq_true_eq] at hp
        have hid : x.id = n := key_of_find hx
        have hfound : b.batches.find batchId = some x := hp ▸ hid ▸ hx
        have hread : x.status = readStatus := by simpa [Books.fresh, hfound] using hfresh
        right
        rw [hxr, hread]
        exact hlegal
      · obtain rfl := hrow hx
        exact Or.inl (congrArg SettlementBatch.status hxr)
  | @supersede _ batch cause disposition affectedItemIds hold ledger n' hstored hcause hlegal hposts hn =>
      obtain ⟨x, hx, ⟨hp, hxr⟩ | ⟨-, hxr⟩⟩ := find_updated hr' rfl fun _ => rfl
      · obtain rfl := hrow hx
        simp only [decide_eq_true_eq] at hp
        obtain rfl := row_unique _ (mem_of_find hx) (mem_of_find hstored) hp
        have hopen := hcustody.unclosed_of_legal hstored hcause hlegal
        have hok := hcustody.batches x (mem_of_find hx)
        rw [hxr]
        cases hstatus : x.status with
        | settled => exact absurd hopen (hok.settled hstatus)
        | superseded => exact Or.inl rfl
        | ready => exact Or.inr (by simp [BATCH_TRANSITIONS])
        | failed => exact Or.inr (by simp [BATCH_TRANSITIONS])
        | held => exact Or.inr (by simp [BATCH_TRANSITIONS])
      · obtain rfl := hrow hx
        exact Or.inl (congrArg SettlementBatch.status hxr)
  | link =>
      obtain ⟨x, hx, ⟨-, hxr⟩ | ⟨-, hxr⟩⟩ := find_updated hr' rfl fun _ => rfl
      · obtain rfl := hrow hx
        exact Or.inl (by rw [hxr])
      · obtain rfl := hrow hx
        exact Or.inl (congrArg SettlementBatch.status hxr)
  | markSettled hclosable hgated hcreate hposts hn => exact hclose hr'
  | markSettledZeroNet hclosable hgated hzero hposts hn => exact hclose hr'
  | _ => exact Or.inl (congrArg SettlementBatch.status (Option.some.inj (hr'.symm.trans hr)))

/-- **What a supersession does.**  It is the action that supersedes a batch: every item of the batch leaves it
for the state of the cause or, unaffected, for the eligible pool. -/
theorem Effect.supersedes (heffect : Effect l b b') (h : InStep b) {n : Nat} {cause : String} {affectedItemIds : List Nat} (hlbl : l = .supersede n cause affectedItemIds)
    {r r' : SettlementBatch} (hr : b.batches.find n = some r) (hopen : r.status ≠ .superseded)
    (hr' : b'.batches.find n = some r') (hsuperseded : r'.status = .superseded) :
    ∃ disposition, SUPERSEDE_ITEM_DISPOSITION cause = some disposition ∧ ∀ i ∈ memberIds r, ∃ x y,
      b.items.find i = some x ∧ b'.items.find i = some y ∧ y.batchId = none ∧
        y.amount = x.amount ∧ y.state = supersededState disposition affectedItemIds i := by
  have hsame (hr'' : b.batches.find n = some r') : False := by
    obtain rfl := Option.some.inj (hr.symm.trans hr'')
    exact hopen hsuperseded
  cases heffect with
  | @supersede _ batch _ disposition _ hold ledger n' hstored hcause hlegal hposts hn =>
      cases hlbl
      obtain rfl := Option.some.inj (hstored.symm.trans hr)
      refine ⟨disposition, hcause, fun i hi => ?_⟩
      obtain ⟨x, hx, hbound⟩ := h.members batch (mem_of_find hstored) hopen i hi
      have hid : x.id = i := key_of_find hx
      refine ⟨x, unbindRow disposition affectedItemIds hold x, hx, ?_, rfl, rfl, ?_⟩
      · rw [find_updateMany, hx, Option.map_some, if_pos (by simpa using hbound)]
      · rw [← hid]
        rfl
  | skip => exact (hsame hr').elim
  | posting => exact (hsame hr').elim
  | invoiceUpdate => exact (hsame hr').elim
  | corporateUpdate => exact (hsame hr').elim
  | requestUpdate => exact (hsame hr').elim
  | _ => cases hlbl

end Steps

/-! ### The failure lane undisturbed -/

section Runs

variable [Runtime] {tr : List (Event World Site)} {cfg : Config World Site (Except Err Reply)}

/-- An effect whose status write, if it is one, is not stale. -/
def FreshStep (l : Site) (w w' : World) : Prop := Step l w w' ∧ w.db.books.fresh l = true

theorem FreshStep.rely {s t : World} (h : Rely FreshStep s t) : Rely Step s t := by
  induction h with
  | refl => exact Rely.refl _
  | tail _ hact ih =>
      obtain ⟨l, hl⟩ := hact
      exact ih.trans (Rely.single hl.1)

theorem inStep_of_rely {s t : World} (hs : Reachable s) (h : Rely FreshStep s t)
    (hstep : InStep s.db.books) : InStep t.db.books := by
  induction h with
  | refl => exact hstep
  | @tail u v hsu hact ih =>
      obtain ⟨l, hl, hfresh⟩ := hact
      have hu : Reachable u := hs.trans (FreshStep.rely hsu)
      exact ih.effect hu.custody hl hfresh

def BatchState.Terminal (status : BatchState) : Prop := status = .settled ∨ status = .superseded

omit [Runtime] in
theorem BatchState.Terminal.stuck {status target : BatchState} (h : BatchState.Terminal status) :
    target ∉ BATCH_TRANSITIONS status := by
  rcases h with rfl | rfl
  · simp [BATCH_TRANSITIONS]
  · simp [BATCH_TRANSITIONS]

theorem terminal_of_rely {s t : World} (hs : Reachable s) (h : Rely FreshStep s t) {n : Nat}
    {r : SettlementBatch} (hr : s.db.batches.find n = some r) (hterminal : BatchState.Terminal r.status) :
    ∃ r', t.db.batches.find n = some r' ∧ r'.status = r.status := by
  induction h with
  | refl => exact ⟨r, hr, rfl⟩
  | @tail u v hsu hact ih =>
      obtain ⟨l, hl, hfresh⟩ := hact
      obtain ⟨r₁, hr₁, hstatus⟩ := ih
      have hu : Reachable u := hs.trans (FreshStep.rely hsu)
      obtain ⟨r', hr', -⟩ := hl.later.batches _ _ hr₁
      rcases Effect.status hl hu.custody hfresh hr₁ hr' with hsame | hmove
      · exact ⟨r', hr', hsame.trans hstatus⟩
      · rw [hstatus] at hmove
        exact absurd hmove hterminal.stuck

/-- The statuses of batches over a run. -/
structure BatchesTerminate (tr : List (Event World Site)) (w : World) : Prop where
  /-- Every status that is written follows the one that is stored. -/
  legal : ∀ e ∈ tr, ∀ n r r', e.pre.db.batches.find n = some r → e.post.db.batches.find n = some r' →
    r'.status ≠ r.status → r'.status ∈ BATCH_TRANSITIONS r.status
  /-- A batch that is settled or superseded stays so. -/
  terminal : ∀ e ∈ tr, ∀ n r, e.post.db.batches.find n = some r → BatchState.Terminal r.status →
    ∃ r', w.db.batches.find n = some r' ∧ r'.status = r.status

/-- **Terminal statuses stay as long as no status write is stale.** -/
theorem Run.batchesTerminate (h : Run tr cfg) (hfresh : ∀ e ∈ tr, e.pre.db.books.fresh e.lbl = true) :
    BatchesTerminate tr cfg.state where
  legal := by
    intro e he n r r' hr hr' hne
    obtain ⟨hpre, hact, -⟩ := h.event he
    rcases Effect.status hact hpre.custody (hfresh e he) hr hr' with hsame | hmove
    · exact absurd hsame hne
    · exact hmove
  terminal := by
    intro e he n r hr hterminal
    have hpath : Path FreshStep World.empty tr cfg.state :=
      h.path.restrict (C := fun e : Event World Site => e.pre.db.books.fresh e.lbl = true) hfresh
    obtain ⟨_, _, -, -, -, hafter⟩ := hpath.split he
    obtain ⟨hpre, hact, -⟩ := h.event he
    exact terminal_of_rely (hpre.trans (Rely.single hact)) hafter.rely hr hterminal

end Runs

/-- A batch that fails, is retried and closes. -/
theorem Run.batchesTerminate_retried :
    let run := Pilot.played (Pilot.inOrder (Pilot.assembled ++
      [.markFailed 6 "returned by the bank", .retry 6, Pilot.remit]))
    (run.2.state.db.batches.rows.map SettlementBatch.status) = [.settled] ∧
      BatchesTerminate run.1 run.2.state := by
  have hfresh : ((Pilot.played (Pilot.inOrder (Pilot.assembled ++
      [.markFailed 6 "returned by the bank", .retry 6, Pilot.remit]))).1.all fun e =>
        e.pre.db.books.fresh e.lbl) = true := by decide +kernel
  exact ⟨by decide +kernel,
    @Run.batchesTerminate plainRuntime _ _ (Pilot.run _) (List.all_eq_true.mp hfresh)⟩

/-- A failure is written on the status read before a closing. -/
def Pilot.staleFailure : List (Choice Call) :=
  inOrder assembled ++ [.start (.markFailed 6 "returned by the bank"), .run 0] ++ toEnd remit ++
    [.run 1]

/-- **A stale failure reopens a settled batch.** -/
theorem Run.settled_then_failed :
    ∃ tr cfg, @Run plainRuntime tr cfg ∧ ¬ BatchesTerminate tr cfg.state := by
  refine ⟨_, _, Pilot.run Pilot.staleFailure, fun hterminate => ?_⟩
  have hreopened : ((Pilot.played Pilot.staleFailure).1.any fun e =>
      (e.post.db.batches.find 6).map SettlementBatch.status = some .settled) = true ∧
      ((Pilot.played Pilot.staleFailure).2.state.db.batches.find 6).map SettlementBatch.status =
        some .failed := by decide +kernel
  obtain ⟨hsettled, hfailed⟩ := hreopened
  obtain ⟨e, he, hstatus⟩ := List.any_eq_true.mp hsettled
  obtain ⟨r, hr, hrs⟩ := Option.map_eq_some_iff.mp (of_decide_eq_true hstatus)
  obtain ⟨r', hr', hsame⟩ := hterminate.terminal e he 6 r hr (Or.inl hrs)
  rw [hr', Option.map_some, hsame, hrs] at hfailed
  cases hfailed

/-! ### Calls one after the other -/

section Calls

variable [Runtime]

/-- Allowed in an undisturbed call: a status write finds the status the call read. -/
abbrev ReadsFresh (l : Site) (w _w' : World) : Prop := w.db.books.fresh l = true

omit [Runtime] in
theorem loadBatch_fresh (batchId : Nat) (s : World) :
    (loadBatch batchId).Ensures Eq ReadsFresh
      (fun batch t => t.db.books.batches.find batchId = some batch) s := by
  refine Svc.Ensures.bind (P := fun found t => t.db.books.batches.find batchId = found) ?_ ?_
  · exact Svc.Ensures.query (fun _ _ => rfl) fun _ _ => rfl
  · intro found t hfound
    cases found with
    | none => exact Svc.Ensures.fail
    | some batch => exact Svc.Ensures.pure hfound

omit [Runtime] in
theorem writeStatus_fresh {batch : SettlementBatch} {batchId : Nat} {s : World}
    (hbatch : s.db.books.batches.find batchId = some batch) (target : BatchState)
    (failureEvidence : Option String) :
    (writeStatus batch target failureEvidence).Ensures Eq ReadsFresh (fun _ _ => True) s := by
  have hid : batch.id = batchId := key_of_find hbatch
  subst hid
  have hfresh : s.db.books.fresh (.statusWrite batch.id batch.status target) = true := by
    simp [Books.fresh, hbatch]
  refine Svc.Ensures.transaction (fun t ht => ?_) fun t _ _ ht _ => ⟨?_, trivial⟩
  · exact ht ▸ hfresh
  · exact ht ▸ hfresh

omit [Runtime] in
theorem markFailed_fresh (batchId : Nat) (evidence : String) (s : World) :
    (markFailed batchId evidence).Ensures Eq ReadsFresh (fun _ _ => True) s := by
  refine Svc.Ensures.bind (loadBatch_fresh batchId s) fun batch t hbatch => ?_
  refine Svc.Ensures.bind (P := fun _ u => u = t) (Svc.Ensures.ofExcept fun _ _ => rfl) fun _ u hu => ?_
  refine Svc.Ensures.bind (P := fun _ v => v = t) (Svc.Ensures.ensure fun _ => hu) fun _ v hv => ?_
  exact hv ▸ writeStatus_fresh hbatch _ _

omit [Runtime] in
theorem retry_fresh (batchId : Nat) (s : World) :
    (retry batchId).Ensures Eq ReadsFresh (fun _ _ => True) s := by
  refine Svc.Ensures.bind (loadBatch_fresh batchId s) fun batch t hbatch => ?_
  refine Svc.Ensures.bind (P := fun _ u => u = t) (Svc.Ensures.ofExcept fun _ _ => rfl) fun _ u hu => ?_
  exact hu ▸ writeStatus_fresh hbatch _ _

omit [Runtime] in
theorem holdBatch_fresh (batchId : Nat) (evidence : String) (s : World) :
    (holdBatch batchId evidence).Ensures Eq ReadsFresh (fun _ _ => True) s := by
  refine Svc.Ensures.bind (loadBatch_fresh batchId s) fun batch t hbatch => ?_
  refine Svc.Ensures.bind (P := fun _ u => u = t) (Svc.Ensures.ofExcept fun _ _ => rfl) fun _ u hu => ?_
  refine Svc.Ensures.bind (P := fun _ v => v = t) (Svc.Ensures.ensure fun _ => hu) fun _ v hv => ?_
  exact hv ▸ writeStatus_fresh hbatch _ _

omit [Runtime] in
theorem answer_fresh {α : Type} {x : Service α} {s : World}
    (h : x.Ensures Eq ReadsFresh (fun _ _ => True) s) :
    Prog.Meets Eq ReadsFresh (fun _ _ => True) (answer x) s :=
  Svc.Ensures.meets (P := fun _ _ => True)
    (Svc.Ensures.bind h fun _ _ _ => Svc.Ensures.pure trivial)

omit [Runtime] in
theorem Lane.fresh {q : Lane} (hq : q ≠ .failure) {l : Site} (hl : q.admits l = true) (b : Books) :
    b.fresh l = true := by
  cases l with
  | statusWrite => exact absurd (of_decide_eq_true hl) hq
  | _ => rfl

/-- **An undisturbed call writes no stale status.** -/
theorem program_fresh (c : Call) {s : World} (hs : Reachable s) :
    Prog.Meets Eq FreshStep (fun _ _ => True) (program c) s := by
  have hserves : Prog.Meets Eq (Allowed c.lane) (fun _ _ => True) (program c) s := by
    refine Prog.Meets.weaken_rely (R := Rely Step) (fun t u (htu : t = u) => htu ▸ Rely.refl t) ?_
    exact (program_serves c s hs).meets
  have hquiet (hc : c.lane ≠ .failure) : Prog.Meets Eq FreshStep (fun _ _ => True) (program c) s :=
    hserves.weaken_action fun l t _ hact => ⟨hact.2, Lane.fresh hc hact.1 _⟩
  have hloud (h : Prog.Meets Eq ReadsFresh (fun _ _ => True) (program c) s) :
      Prog.Meets Eq FreshStep (fun _ _ => True) (program c) s :=
    ((hserves.and h).weaken_action fun _ _ _ hact => ⟨hact.1.2, hact.2⟩).mono fun _ _ _ => trivial
  cases c with
  | markFailed batchId evidence => exact hloud (answer_fresh (markFailed_fresh batchId evidence s))
  | retry batchId => exact hloud (answer_fresh (retry_fresh batchId s))
  | holdBatch batchId evidence => exact hloud (answer_fresh (holdBatch_fresh batchId evidence s))
  | _ => exact hquiet nofun

theorem calls_path (calls : List Call) :
    Path FreshStep World.empty (callEvents program World.empty calls)
      (runCalls program World.empty calls) :=
  callEvents_path (fun c _ hs => program_fresh c (FreshStep.rely hs)) (Rely.refl _) calls

/-- Batches and items agree. -/
structure BatchesAgree (b : Books) : Prop where
  /-- The items of an open batch are its frozen composition, ready and for the frozen amounts. -/
  composition : ∀ r ∈ b.batches.rows, ¬ BatchState.Terminal r.status →
    (∀ i, (∃ item, b.items.find i = some item ∧ item.batchId = some r.id) ↔ i ∈ memberIds r) ∧
    ∀ item ∈ b.items.rows, item.batchId = some r.id → item.state = .ready ∧
      ∃ c ∈ r.composition, c.itemId = item.id ∧ c.amount = moneyToNumber item.amount
  /-- An item in a state before settlement is in no batch. -/
  free : ∀ item ∈ b.items.rows,
    item.state = .pending ∨ item.state = .eligible ∨ item.state = .held → item.batchId = none

omit [Runtime] in
theorem InStep.agree {b : Books} (h : InStep b) (hcustody : Custody b) : BatchesAgree b where
  composition := by
    intro r hr hopen
    have hstored : b.batches.find r.id = some r := find_of_mem hr
    have hbound {item : SettlementItem} (hitem : item ∈ b.items.rows)
        (hbatch : item.batchId = some r.id) : BoundTo r item := by
      obtain ⟨row, hrow, hto⟩ := hcustody.boundTo hitem hbatch
      obtain rfl := Option.some.inj (hstored.symm.trans hrow)
      exact hto
    have hnot : r.closureType = none := by
      by_contra hclosed
      exact hopen (Or.inl (h.closed r hr hclosed))
    constructor
    · intro i
      constructor
      · rintro ⟨item, hitem, hbatch⟩
        obtain ⟨c, hc, hci, -⟩ := (hbound (mem_of_find hitem) hbatch).frozen.1
        exact List.mem_map.mpr ⟨c, hc, hci.trans (key_of_find hitem)⟩
      · exact h.members r hr (fun hs => hopen (Or.inr hs)) i
    · intro item hitem hbatch
      have hto := hbound hitem hbatch
      obtain ⟨c, hc, hci, hamount⟩ := hto.frozen.1
      rcases hto.state with ⟨-, hready, -⟩ | ⟨hclosed, -⟩
      · exact ⟨hready, c, hc, hci, hamount⟩
      · exact absurd hnot hclosed
  free := by
    intro item hitem hstate
    cases hbatch : item.batchId with
    | none => rfl
    | some n =>
        obtain ⟨row, -, hto⟩ := hcustody.boundTo hitem hbatch
        rcases hto.state with ⟨-, hready, -⟩ | ⟨-, hfinal⟩
        · rw [hready] at hstate
          simp at hstate
        · rcases hstate with hstate | hstate | hstate
          · simp [hstate, FINAL_STATES] at hfinal
          · simp [hstate, FINAL_STATES] at hfinal
          · simp [hstate, FINAL_STATES] at hfinal

/-- A supersession gives every item of the batch back: an affected one to the state of its cause, every other
one to the eligible pool, with its amount. -/
def Releases (e : Event World Site) : Prop :=
  ∀ n cause affectedItemIds r r', e.lbl = .supersede n cause affectedItemIds →
    e.pre.db.batches.find n = some r → r.status ≠ .superseded →
    e.post.db.batches.find n = some r' → r'.status = .superseded →
    ∃ disposition, SUPERSEDE_ITEM_DISPOSITION cause = some disposition ∧
      ∀ i ∈ memberIds r, ∃ x y, e.pre.db.items.find i = some x ∧ e.post.db.items.find i = some y ∧
        y.batchId = none ∧ y.amount = x.amount ∧
          y.state = if i ∈ affectedItemIds then disposition else .eligible

/-- **Batches and items agree after any calls**, and a supersession releases what the batch held. -/
theorem calls_agree (calls : List Call) :
    BatchesAgree (runCalls program World.empty calls).db.books ∧
      ∀ e ∈ callEvents program World.empty calls, Releases e := by
  have hpath := calls_path calls
  have hrely := FreshStep.rely hpath.rely
  constructor
  · exact (inStep_of_rely (Rely.refl _) hpath.rely inStep_empty).agree (Reachable.custody hrely)
  · intro e he n cause affectedItemIds r r' hlbl hr hopen hr' hsuperseded
    obtain ⟨_, _, -, hbefore, hact, -⟩ := hpath.split he
    have hstep := inStep_of_rely (Rely.refl _) hbefore.rely inStep_empty
    exact Effect.supersedes hact.1 hstep hlbl hr hopen hr' hsuperseded

end Calls

/-- **A supersession need not give an item back to the eligible pool**: a hold keeps it. -/
theorem supersede_holds_item :
    ∃ calls, let _ := plainRuntime
      let w := runCalls program World.empty calls
      let w' := ((program (.supersede 6 "hold_landed" [5]
        (some { holdType := "manual", holdEvidence := "called" }))).exec w).2
      (w.db.batches.find 6).map (fun r => (r.status, memberIds r)) = some (.ready, [5]) ∧
        (w'.db.batches.find 6).map SettlementBatch.status = some .superseded ∧
          (w'.db.items.find 5).map SettlementItem.state = some .held :=
  ⟨Pilot.assembled, by decide +kernel⟩

end Qift
