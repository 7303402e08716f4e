import Qift.Lib.Escrow
import Qift.Later

/-!
# Custody of settlement items

The invariant that ties items, batches and remittances together in every interleaving.

* `ItemOk` — an unbound item is pending, eligible, held or disputed; a bound one stands in the frozen
  composition of its batch with the frozen amount, `ready` while the batch is open and settled or reversed
  once it is closed.
* `BatchOk` — the frozen columns belong together; a closed batch still has every item of its composition,
  and has a remittance exactly when it closed with one.
* **`Custody.effect`** — every effect keeps the invariant.
* **`Effect.escrow`** — under it, an effect is a step of the escrow of `Qift.Lib.Escrow`: items are the units,
  batches the groups.
-/

namespace Qift

open Relational Relational.Table Interleaving Settlement Financial

/-- The states of an item no batch holds. -/
def FREE_STATES : List ItemState := [.pending, .eligible, .held, .disputed]

/-- The states of an item a closed batch holds. -/
def FINAL_STATES : List ItemState := [.settled, .reversed]

/-- The entry of an item in the composition of a batch. -/
def Frozen (batch : SettlementBatch) (i : SettlementItem) : Prop :=
  (∃ c ∈ batch.composition, c.itemId = i.id ∧ c.amount = moneyToNumber i.amount) ∧
    i.storeId = batch.storeId ∧ i.currency = batch.currency

/-- A bound item agrees with its batch. -/
structure BoundTo (batch : SettlementBatch) (i : SettlementItem) : Prop where
  frozen : Frozen batch i
  state : batch.closureType = none ∧ i.state = .ready ∧ batch.status ≠ .superseded ∨
    batch.closureType ≠ none ∧ i.state ∈ FINAL_STATES

/-- An item agrees with the batches. -/
structure ItemOk (b : Books) (i : SettlementItem) : Prop where
  free : i.batchId = none → i.state ∈ FREE_STATES
  bound : ∀ n, i.batchId = some n → ∃ batch, b.batches.find n = some batch ∧ BoundTo batch i

/-- Every member of a closed batch is still bound to it. -/
def MembersBound (items : Table SettlementItem.id) (batch : SettlementBatch) : Prop :=
  ∀ i ∈ memberIds batch, ∃ item, items.find i = some item ∧ item.batchId = some batch.id

/-- A batch agrees with the items and the remittances. -/
structure BatchOk (b : Books) (batch : SettlementBatch) : Prop where
  frozen : WellFrozen batch
  nodup : (memberIds batch).Nodup
  settled : batch.status = .settled → batch.closureType ≠ none
  closed : batch.closureType ≠ none →
    batch.status ≠ .superseded ∧ batch.closedAt ≠ none ∧ MembersBound b.items batch
  remitted : batch.closureType = some .remitted ↔ ∃ r, b.remittances.find batch.id = some r
  zeroNet : batch.closureType = some .zero_net_no_transfer → batch.netAmount.cents = 0

/-- A remittance is the frozen net of its batch. -/
def RemittanceOk (b : Books) (r : SettlementRemittance) : Prop :=
  ∃ batch, b.batches.find r.settlementId = some batch ∧ r.amount = batch.netAmount ∧
    r.storeId = batch.storeId ∧ r.currency = batch.currency

structure Custody (b : Books) : Prop where
  itemIds : ∀ i ∈ b.items.rows, i.id < b.nextId
  batchIds : ∀ r ∈ b.batches.rows, r.id < b.nextId
  items : ∀ i ∈ b.items.rows, ItemOk b i
  batches : ∀ r ∈ b.batches.rows, BatchOk b r
  remittances : ∀ r ∈ b.remittances.rows, RemittanceOk b r

theorem memberIds_ne_nil {batch : SettlementBatch} (h : WellFrozen batch) : memberIds batch ≠ [] := by
  simpa [memberIds] using h.nonempty

theorem custody_empty : Custody World.empty.db.books where
  itemIds := by simp [Db.books, World.empty]
  batchIds := by simp [Db.books, World.empty]
  items := by simp [Db.books, World.empty]
  batches := by simp [Db.books, World.empty]
  remittances := by simp [Db.books, World.empty]

namespace Custody

variable {b b' : Books}

theorem boundTo (h : Custody b) {i : SettlementItem} (hi : i ∈ b.items.rows) {n : Nat}
    (hn : i.batchId = some n) : ∃ batch, b.batches.find n = some batch ∧ BoundTo batch i :=
  (h.items i hi).bound n hn

/-- A batch holds only stored identifiers. -/
theorem batchId_lt (h : Custody b) {i : SettlementItem} (hi : i ∈ b.items.rows) {n : Nat}
    (hn : i.batchId = some n) : n < b.nextId := by
  obtain ⟨batch, hbatch, -⟩ := h.boundTo hi hn
  have := h.batchIds batch (mem_of_find hbatch)
  rwa [key_of_find hbatch] at this

theorem of_same (h : Custody b) (hitems : b'.items = b.items) (hbatches : b'.batches = b.batches)
    (hremittances : b'.remittances = b.remittances) (hn : b.nextId ≤ b'.nextId) : Custody b' where
  itemIds := fun i hi => lt_of_lt_of_le (h.itemIds i (hitems ▸ hi)) hn
  batchIds := fun r hr => lt_of_lt_of_le (h.batchIds r (hbatches ▸ hr)) hn
  items := fun i hi => by
    obtain ⟨hfree, hbound⟩ := h.items i (hitems ▸ hi)
    exact ⟨hfree, hbatches ▸ hbound⟩
  batches := fun r hr => by
    obtain ⟨hfrozen, hnodup, hsettled, hclosed, hremitted, hzero⟩ := h.batches r (hbatches ▸ hr)
    exact ⟨hfrozen, hnodup, hsettled, hitems ▸ hclosed, hremittances ▸ hremitted, hzero⟩
  remittances := fun r hr => by
    have := h.remittances r (hremittances ▸ hr)
    unfold RemittanceOk at this ⊢
    rwa [hbatches]

end Custody

/-! ### Updates of items -/

theorem membersBound_updateMany {items items' : Table SettlementItem.id}
    {p : SettlementItem → Bool} {f : SettlementItem → SettlementItem}
    (hrows : items'.rows = items.rows.map fun i => if p i then f i else i)
    (hf : ∀ i, (f i).id = i.id) {batch : SettlementBatch} (h : MembersBound items batch)
    (hkeep : ∀ i ∈ items.rows, p i = true → i.batchId = some batch.id →
      (f i).batchId = some batch.id) : MembersBound items' batch := by
  obtain rfl : items' = items.updateMany p f hf := ext_rows hrows
  intro i hi
  obtain ⟨item, hitem, hbound⟩ := h i hi
  refine ⟨_, by rw [find_updateMany, hitem, Option.map_some], ?_⟩
  by_cases hp : p item = true
  · rw [if_pos hp]
    exact hkeep item (mem_of_find hitem) hp hbound
  · rw [if_neg hp]
    exact hbound

theorem Custody.updateItems {b b' : Books} (h : Custody b) {p : SettlementItem → Bool}
    {f : SettlementItem → SettlementItem}
    (hrows : b'.items.rows = b.items.rows.map fun i => if p i then f i else i)
    (hf : ∀ i, (f i).id = i.id) (hbatches : b'.batches = b.batches)
    (hremittances : b'.remittances = b.remittances) (hn : b.nextId ≤ b'.nextId)
    (hbatch : ∀ i, (f i).batchId = i.batchId)
    (hok : ∀ i ∈ b.items.rows, p i = true → ItemOk b (f i)) : Custody b' where
  itemIds := by
    intro i hi
    rw [hrows] at hi
    obtain ⟨r, hr, rfl⟩ := List.mem_map.mp hi
    have hid := h.itemIds r hr
    by_cases hp : p r = true
    · rw [if_pos hp, hf]
      exact lt_of_lt_of_le hid hn
    · rw [if_neg hp]
      exact lt_of_lt_of_le hid hn
  batchIds := fun r hr => lt_of_lt_of_le (h.batchIds r (hbatches ▸ hr)) hn
  items := by
    intro i hi
    rw [hrows] at hi
    obtain ⟨r, hr, rfl⟩ := List.mem_map.mp hi
    have hitem : ItemOk b (if p r = true then f r else r) := by
      by_cases hp : p r = true
      · rw [if_pos hp]
        exact hok r hr hp
      · rw [if_neg hp]
        exact h.items r hr
    exact ⟨hitem.free, hbatches ▸ hitem.bound⟩
  batches := by
    intro r hr
    obtain ⟨hfrozen, hnodup, hsettled, hclosed, hremitted, hzero⟩ := h.batches r (hbatches ▸ hr)
    refine ⟨hfrozen, hnodup, hsettled, fun hc => ?_, hremittances ▸ hremitted, hzero⟩
    obtain ⟨hstatus, hat, hmembers⟩ := hclosed hc
    exact ⟨hstatus, hat, membersBound_updateMany hrows hf hmembers
      fun i _ _ hbound => (hbatch i).trans hbound⟩
  remittances := fun r hr => by
    have := h.remittances r (hremittances ▸ hr)
    unfold RemittanceOk at this ⊢
    rwa [hbatches]

/-! ### Updates of batches -/

/-- An update of batches that moves none in or out of a terminal state and closes none. -/
structure Reworks (p : SettlementBatch → Bool) (f : SettlementBatch → SettlementBatch) : Prop where
  same : ∀ r, SettlementBatch.Same r (f r)
  closureType : ∀ r, (f r).closureType = r.closureType
  closedAt : ∀ r, (f r).closedAt = r.closedAt
  status : ∀ r, p r = true → (f r).status = r.status ∨
    (f r).status ≠ .settled ∧ (f r).status ≠ .superseded

theorem Frozen.same {r r' : SettlementBatch} (h : SettlementBatch.Same r r') {i : SettlementItem}
    (hi : Frozen r i) : Frozen r' i := by
  unfold Frozen at hi ⊢
  rwa [h.composition, h.storeId, h.currency]

theorem RemittanceOk.evolves {b b' : Books} {r : SettlementRemittance} (h : RemittanceOk b r)
    (hbatches : Evolves SettlementBatch.Same b.batches b'.batches) : RemittanceOk b' r := by
  obtain ⟨batch, hbatch, hamount, hstore, hcurrency⟩ := h
  obtain ⟨batch', hbatch', hsame⟩ := hbatches _ _ hbatch
  exact ⟨batch', hbatch', hamount.trans hsame.net.symm, hstore.trans hsame.storeId.symm,
    hcurrency.trans hsame.currency.symm⟩

theorem Custody.updateBatches {b b' : Books} (h : Custody b) {p : SettlementBatch → Bool}
    {f : SettlementBatch → SettlementBatch}
    (hrows : b'.batches.rows = b.batches.rows.map fun r => if p r then f r else r)
    (hf : ∀ r, (f r).id = r.id) (hreworks : Reworks p f)
    (hitems : b'.items = b.items) (hremittances : b'.remittances = b.remittances)
    (hn : b.nextId ≤ b'.nextId) : Custody b' where
  itemIds := fun i hi => lt_of_lt_of_le (h.itemIds i (hitems ▸ hi)) hn
  batchIds := by
    intro r hr
    rw [hrows] at hr
    obtain ⟨r₀, hr₀, rfl⟩ := List.mem_map.mp hr
    have hid := lt_of_lt_of_le (h.batchIds r₀ hr₀) hn
    by_cases hp : p r₀ = true
    · rwa [if_pos hp, hf]
    · rwa [if_neg hp]
  items := by
    intro i hi
    rw [hitems] at hi
    obtain ⟨hfree, hbound⟩ := h.items i hi
    refine ⟨hfree, fun n hn => ?_⟩
    obtain ⟨batch, hbatch, hto⟩ := hbound n hn
    have hbatches : b'.batches = b.batches.updateMany p f hf := ext_rows hrows
    refine ⟨_, by rw [hbatches, find_updateMany, hbatch, Option.map_some], ?_⟩
    by_cases hp : p batch = true
    · rw [if_pos hp]
      refine ⟨hto.frozen.same (hreworks.same batch), ?_⟩
      rw [hreworks.closureType]
      refine hto.state.imp (fun ⟨hopen, hready, hstatus⟩ => ⟨hopen, hready, ?_⟩) id
      rcases hreworks.status batch hp with hsame | ⟨-, hne⟩
      · rwa [hsame]
      · exact hne
    · rw [if_neg hp]
      exact hto
  batches := by
    intro r hr
    rw [hrows] at hr
    obtain ⟨r₀, hr₀, rfl⟩ := List.mem_map.mp hr
    obtain ⟨hfrozen, hnodup, hsettled, hclosed, hremitted, hzero⟩ := h.batches r₀ hr₀
    by_cases hp : p r₀ = true
    · rw [if_pos hp]
      have hsame := hreworks.same r₀
      have hstatus : ∀ s, s = .settled ∨ s = .superseded → (f r₀).status = s → r₀.status = s := by
        intro s hs heq
        rcases hreworks.status r₀ hp with hkeep | ⟨hne, hne'⟩
        · exact hkeep.symm.trans heq
        · rcases hs with rfl | rfl
          · exact absurd heq hne
          · exact absurd heq hne'
      refine ⟨hsame.wellFrozen hfrozen, hsame.memberIds ▸ hnodup, fun hs => ?_, fun hc => ?_, ?_,
        fun hz => ?_⟩
      · rw [hreworks.closureType]
        exact hsettled (hstatus .settled (Or.inl rfl) hs)
      · rw [hreworks.closureType] at hc
        obtain ⟨hne, hat, hmembers⟩ := hclosed hc
        refine ⟨fun hs => hne (hstatus .superseded (Or.inr rfl) hs), hreworks.closedAt r₀ ▸ hat, ?_⟩
        unfold MembersBound at hmembers ⊢
        rwa [hsame.memberIds, hsame.id, hitems]
      · rw [hreworks.closureType, hsame.id, hremittances]
        exact hremitted
      · rw [hreworks.closureType] at hz
        rw [hsame.net]
        exact hzero hz
    · rw [if_neg hp]
      exact ⟨hfrozen, hnodup, hsettled, hitems ▸ hclosed, hremittances ▸ hremitted, hzero⟩
  remittances := by
    intro r hr
    have hevolves : Evolves SettlementBatch.Same b.batches b'.batches :=
      Evolves.updateMany SettlementBatch.Same.refl hrows hf fun r _ _ => hreworks.same r
    exact (h.remittances r (hremittances ▸ hr)).evolves hevolves

/-! ### Creating, binding, releasing and settling items -/

/-- The item of a covered invoice starts unbound. -/
theorem Custody.createItem {b : Books} (h : Custody b) {row : SettlementItem}
    {items : Table SettlementItem.id} (hcreate : b.items.create row = some items)
    (hid : row.id = b.nextId) (hstate : row.state = .pending) (hunbound : row.batchId = none)
    {n : Nat} (hn : b.nextId < n) : Custody { b with items := items, nextId := n } where
  itemIds := by
    intro i hi
    rcases (mem_create hcreate).mp hi with hold | rfl
    · exact (h.itemIds i hold).trans hn
    · exact hid ▸ hn
  batchIds := fun r hr => (h.batchIds r hr).trans hn
  items := by
    intro i hi
    rcases (mem_create hcreate).mp hi with hold | rfl
    · exact ⟨(h.items i hold).free, (h.items i hold).bound⟩
    · refine ⟨fun _ => by simp [hstate, FREE_STATES], fun m hm => ?_⟩
      rw [hunbound] at hm
      cases hm
  batches := by
    intro r hr
    obtain ⟨hfrozen, hnodup, hsettled, hclosed, hremitted, hzero⟩ := h.batches r hr
    refine ⟨hfrozen, hnodup, hsettled, fun hc => ?_, hremitted, hzero⟩
    obtain ⟨hstatus, hat, hmembers⟩ := hclosed hc
    refine ⟨hstatus, hat, fun i hi => ?_⟩
    obtain ⟨item, hitem, hbound⟩ := hmembers i hi
    exact ⟨item, find_create_of_find hcreate hitem, hbound⟩
  remittances := h.remittances

theorem Assembles.member {b : Books} {batch : SettlementBatch} (h : Assembles b batch)
    {i : SettlementItem} (hi : i ∈ b.items.rows) (hmem : i.id ∈ memberIds batch) :
    i.state = .eligible ∧ i.batchId = none ∧ Frozen batch i := by
  obtain ⟨c, hc, hcid⟩ := List.mem_map.mp hmem
  obtain ⟨i', hfind, heligible, hunbound, hamount, hstore, hcurrency⟩ := h.members c hc
  obtain rfl := row_unique _ hi (mem_of_find hfind) ((key_of_find hfind).trans hcid).symm
  exact ⟨heligible, hunbound, ⟨c, hc, hcid, hamount⟩, hstore, hcurrency⟩

theorem Custody.assemble {b b' : Books} (h : Custody b) {batch : SettlementBatch}
    (hassembles : Assembles b batch) {batches : Table SettlementBatch.id}
    (hcreate : b.batches.create batch = some batches) (hbatches : b'.batches = batches)
    (hitems : b'.items = b.items.updateMany (fun i => decide (i.id ∈ memberIds batch))
      (bindRow batch.id) (bindRow_id _)) (hremittances : b'.remittances = b.remittances)
    (hn : b.nextId < b'.nextId) : Custody b' where
  itemIds := by
    intro i hi
    rw [hitems] at hi
    obtain ⟨r, hr, rfl⟩ := mem_updateMany.mp hi
    have hid := (h.itemIds r hr).trans hn
    split
    · exact hid
    · exact hid
  batchIds := by
    intro r hr
    rw [hbatches] at hr
    rcases (mem_create hcreate).mp hr with hold | rfl
    · exact (h.batchIds r hold).trans hn
    · exact hassembles.fresh ▸ hn
  items := by
    intro i hi
    rw [hitems] at hi
    obtain ⟨r, hr, rfl⟩ := mem_updateMany.mp hi
    by_cases hmem : r.id ∈ memberIds batch
    · rw [if_pos (by simpa using hmem)]
      refine ⟨nofun, fun m hm => ?_⟩
      obtain rfl : batch.id = m := Option.some.inj hm
      refine ⟨batch, by rw [hbatches]; exact find_create_self hcreate, ?_,
        Or.inl ⟨hassembles.unclosed, rfl, by simp [hassembles.ready]⟩⟩
      exact (hassembles.member hr hmem).2.2
    · rw [if_neg (by simpa using hmem)]
      refine ⟨(h.items r hr).free, fun m hm => ?_⟩
      obtain ⟨row, hrow, hto⟩ := h.boundTo hr hm
      exact ⟨row, by rw [hbatches]; exact find_create_of_find hcreate hrow, hto⟩
  batches := by
    intro r hr
    rw [hbatches] at hr
    rcases (mem_create hcreate).mp hr with hold | rfl
    · obtain ⟨hfrozen, hnodup, hsettled, hclosed, hremitted, hzero⟩ := h.batches r hold
      refine ⟨hfrozen, hnodup, hsettled, fun hc => ?_, hremittances ▸ hremitted, hzero⟩
      obtain ⟨hstatus, hat, hmembers⟩ := hclosed hc
      refine ⟨hstatus, hat, membersBound_updateMany (congrArg Table.rows hitems) (fun _ => rfl)
        hmembers fun i hi hp hbound => ?_⟩
      -- an item of the new batch was unbound
      obtain ⟨-, hunbound, -⟩ := hassembles.member hi (by simpa using hp)
      rw [hunbound] at hbound
      cases hbound
    · refine ⟨hassembles.frozen, hassembles.nodup, fun hs => ?_, fun hc => ?_, ?_, fun hz => ?_⟩
      · rw [hassembles.ready] at hs
        cases hs
      · exact absurd hassembles.unclosed hc
      · rw [hassembles.unclosed, hremittances]
        constructor
        · rintro ⟨⟩
        · rintro ⟨r', hr'⟩
          obtain ⟨row, hrow, -⟩ := h.remittances r' (mem_of_find hr')
          rw [key_of_find hr', (create_eq_some hcreate).2] at hrow
          cases hrow
      · rw [hassembles.unclosed] at hz
        cases hz
  remittances := by
    intro r hr
    have hevolves : Evolves SettlementBatch.Same b.batches b'.batches := by
      rw [hbatches]
      exact Evolves.create SettlementBatch.Same.refl hcreate
    exact (h.remittances r (hremittances ▸ hr)).evolves hevolves

theorem superseded_free {cause : String} {disposition : ItemState}
    (hcause : SUPERSEDE_ITEM_DISPOSITION cause = some disposition) (affectedItemIds : List Nat)
    (itemId : Nat) : supersededState disposition affectedItemIds itemId ∈ FREE_STATES := by
  have hdisposition : disposition ∈ FREE_STATES := by
    unfold SUPERSEDE_ITEM_DISPOSITION at hcause
    split at hcause <;> simp_all [FREE_STATES]
  unfold supersededState
  split
  · exact hdisposition
  · simp [FREE_STATES]

theorem final_stays {s t : ItemState} (hs : s ∈ FINAL_STATES) (ht : t ∈ FREE_STATES) :
    t ∉ ITEM_TRANSITIONS s := by
  cases s <;> cases t <;> simp_all [FREE_STATES, FINAL_STATES, ITEM_TRANSITIONS]

theorem Custody.unclosed_of_legal {b : Books} (h : Custody b) {batch : SettlementBatch}
    (hstored : b.batches.find batch.id = some batch) {cause : String} {disposition : ItemState}
    {affectedItemIds : List Nat} (hcause : SUPERSEDE_ITEM_DISPOSITION cause = some disposition)
    (hlegal : ∀ i ∈ b.items.rows, i.batchId = some batch.id →
      supersededState disposition affectedItemIds i.id ∈ ITEM_TRANSITIONS i.state) :
    batch.closureType = none := by
  by_contra hclosed
  have hok := h.batches batch (mem_of_find hstored)
  obtain ⟨-, -, hmembers⟩ := hok.closed hclosed
  obtain ⟨i, hi⟩ := List.exists_mem_of_ne_nil _ (memberIds_ne_nil hok.frozen)
  obtain ⟨item, hitem, hbound⟩ := hmembers i hi
  have hmem := mem_of_find hitem
  obtain ⟨row, hrow, hto⟩ := h.boundTo hmem hbound
  rw [hstored, Option.some.injEq] at hrow
  subst hrow
  -- its items are settled or reversed, and neither state leads back
  rcases hto.state with ⟨hopen, -, -⟩ | ⟨-, hfinal⟩
  · exact hclosed hopen
  · exact final_stays hfinal (superseded_free hcause affectedItemIds item.id)
      (hlegal item hmem hbound)

theorem Custody.supersede {b b' : Books} (h : Custody b) {batch : SettlementBatch}
    (hstored : b.batches.find batch.id = some batch) {cause : String} {disposition : ItemState}
    {affectedItemIds : List Nat} {hold : Option SupersedeHold}
    (hcause : SUPERSEDE_ITEM_DISPOSITION cause = some disposition)
    (hlegal : ∀ i ∈ b.items.rows, i.batchId = some batch.id →
      supersededState disposition affectedItemIds i.id ∈ ITEM_TRANSITIONS i.state)
    (hbatches : b'.batches = b.batches.updateMany (fun r => r.id = batch.id)
      (fun r => { r with status := .superseded }) fun _ => rfl)
    (hitems : b'.items = b.items.updateMany (fun i => i.batchId = some batch.id)
      (unbindRow disposition affectedItemIds hold) (unbindRow_id _ _ _))
    (hremittances : b'.remittances = b.remittances) (hn : b.nextId ≤ b'.nextId) : Custody b' where
  itemIds := by
    intro i hi
    rw [hitems] at hi
    obtain ⟨r, hr, rfl⟩ := mem_updateMany.mp hi
    have hid := lt_of_lt_of_le (h.itemIds r hr) hn
    split
    · exact hid
    · exact hid
  batchIds := by
    intro r hr
    rw [hbatches] at hr
    obtain ⟨r₀, hr₀, rfl⟩ := mem_updateMany.mp hr
    have hid := lt_of_lt_of_le (h.batchIds r₀ hr₀) hn
    split
    · exact hid
    · exact hid
  items := by
    intro i hi
    rw [hitems] at hi
    obtain ⟨r, hr, rfl⟩ := mem_updateMany.mp hi
    by_cases hbound : r.batchId = some batch.id
    · rw [if_pos (by simpa using hbound)]
      exact ⟨fun _ => superseded_free hcause affectedItemIds r.id, nofun⟩
    · rw [if_neg (by simpa using hbound)]
      refine ⟨(h.items r hr).free, fun m hm => ?_⟩
      obtain ⟨row, hrow, hto⟩ := h.boundTo hr hm
      have hne : row.id ≠ batch.id := by
        rw [key_of_find hrow]
        rintro rfl
        exact hbound hm
      exact ⟨row, by rw [hbatches, find_updateMany, hrow, Option.map_some, if_neg (by simpa)], hto⟩
  batches := by
    intro r hr
    rw [hbatches] at hr
    obtain ⟨r₀, hr₀, rfl⟩ := mem_updateMany.mp hr
    obtain ⟨hfrozen, hnodup, hsettled, hclosed, hremitted, hzero⟩ := h.batches r₀ hr₀
    by_cases hid : r₀.id = batch.id
    · rw [if_pos (by simpa using hid)]
      obtain rfl := row_unique _ hr₀ (mem_of_find hstored) hid
      have hopen := h.unclosed_of_legal hstored hcause hlegal
      refine ⟨?_, hnodup, nofun, fun hc => absurd hopen hc, hremittances ▸ hremitted, hzero⟩
      exact { hfrozen with }
    · rw [if_neg (by simpa using hid)]
      refine ⟨hfrozen, hnodup, hsettled, fun hc => ?_, hremittances ▸ hremitted, hzero⟩
      obtain ⟨hstatus, hat, hmembers⟩ := hclosed hc
      refine ⟨hstatus, hat, membersBound_updateMany (congrArg Table.rows hitems) (fun _ => rfl)
        hmembers fun i hi hp hbound => ?_⟩
      simp only [decide_eq_true_eq] at hp
      rw [hp, Option.some.injEq] at hbound
      exact absurd hbound.symm hid
  remittances := by
    intro r hr
    have hevolves : Evolves SettlementBatch.Same b.batches b'.batches := by
      rw [hbatches]
      exact Evolves.updateMany SettlementBatch.Same.refl rfl (fun _ => rfl)
        fun _ _ _ => ⟨rfl, rfl, rfl, rfl, fun _ => ⟨rfl, rfl⟩⟩
    exact (h.remittances r (hremittances ▸ hr)).evolves hevolves

theorem Closable.find_close {b : Books} {batch : SettlementBatch} (h : Closable b batch)
    (closureType : ClosureType) (closedAt consumedAt : Time) (ledger : Ledger) (n : Nat) :
    (b.close batch closureType closedAt consumedAt ledger n).batches.find batch.id =
      some (closeRow closureType closedAt batch) := by
  rw [Books.close_batches, find_updateMany, h.stored, Option.map_some, if_pos (by simp [h.ready])]

/-- Another batch stays as it is. -/
theorem Closable.find_close_of_ne {b : Books} {batch : SettlementBatch} {m : Nat} (hm : m ≠ batch.id)
    (closureType : ClosureType) (closedAt consumedAt : Time) (ledger : Ledger) (n : Nat) :
    (b.close batch closureType closedAt consumedAt ledger n).batches.find m = b.batches.find m := by
  rw [Books.close_batches, find_updateMany]
  cases hrow : b.batches.find m with
  | none => rfl
  | some row => rw [Option.map_some, if_neg (by simp [key_of_find hrow, hm])]

theorem Custody.close {b b' : Books} (h : Custody b) {batch : SettlementBatch}
    (hclosable : Closable b batch) {closureType : ClosureType} {closedAt : Time} (consumedAt : Time)
    (ledger : Ledger) {n : Nat} (hn : b.nextId ≤ n)
    (hbatches : b'.batches = (b.close batch closureType closedAt consumedAt ledger n).batches)
    (hitems : b'.items = (b.close batch closureType closedAt consumedAt ledger n).items)
    (hnextId : b'.nextId = n)
    (hremitted : closureType = .remitted ↔ ∃ r, b'.remittances.find batch.id = some r)
    (hother : ∀ m, m ≠ batch.id → b'.remittances.find m = b.remittances.find m)
    (hrow : ∀ r, b'.remittances.find batch.id = some r → r.amount = batch.netAmount ∧
      r.storeId = batch.storeId ∧ r.currency = batch.currency)
    (hzero : closureType = .zero_net_no_transfer → batch.netAmount.cents = 0) : Custody b' := by
  have hlater : b.nextId ≤ b'.nextId := hnextId ▸ hn
  have hfind : b'.batches.find batch.id = some (closeRow closureType closedAt batch) := by
    rw [hbatches, hclosable.find_close]
  have hfindOther {m : Nat} (hm : m ≠ batch.id) : b'.batches.find m = b.batches.find m := by
    rw [hbatches, Closable.find_close_of_ne hm]
  have hok := h.batches batch (mem_of_find hclosable.stored)
  have hmembers {r : SettlementBatch} (hr : MembersBound b.items r) : MembersBound b'.items r :=
    membersBound_updateMany (congrArg Table.rows hitems) (fun _ => rfl) hr
      fun _ _ _ hbound => hbound
  refine
    { itemIds := fun i hi => ?_, batchIds := fun r hr => ?_, items := fun i hi => ?_
      batches := fun r hr => ?_, remittances := fun r hr => ?_ }
  · rw [hitems, Books.close_items] at hi
    obtain ⟨r, hr, rfl⟩ := mem_updateMany.mp hi
    have hid := lt_of_lt_of_le (h.itemIds r hr) hlater
    split
    · exact hid
    · exact hid
  · rw [hbatches, Books.close_batches] at hr
    obtain ⟨r₀, hr₀, rfl⟩ := mem_updateMany.mp hr
    have hid := lt_of_lt_of_le (h.batchIds r₀ hr₀) hlater
    split
    · exact hid
    · exact hid
  · rw [hitems, Books.close_items] at hi
    obtain ⟨r, hr, rfl⟩ := mem_updateMany.mp hi
    by_cases hbound : r.batchId = some batch.id
    · -- an item of the batch is ready and in its composition, so it settles
      obtain ⟨row, hstored, hto⟩ := h.boundTo hr hbound
      rw [hclosable.stored, Option.some.injEq] at hstored
      subst hstored
      have hready : r.state = .ready := by
        rcases hto.state with ⟨-, hready, -⟩ | ⟨hclosed, -⟩
        · exact hready
        · exact absurd hclosable.unclosed hclosed
      obtain ⟨c, hc, hcid, -⟩ := hto.frozen.1
      have hmem : r.id ∈ memberIds batch := List.mem_map.mpr ⟨c, hc, hcid⟩
      rw [if_pos (by simp [hmem, hbound, hready])]
      refine ⟨fun hnone => ?_, fun m hm => ?_⟩
      · have hnone' : r.batchId = none := hnone
        rw [hbound] at hnone'
        cases hnone'
      · have hm' : r.batchId = some m := hm
        rw [hbound, Option.some.injEq] at hm'
        subst hm'
        exact ⟨_, hfind, hto.frozen, Or.inr ⟨nofun, by simp [FINAL_STATES]⟩⟩
    · rw [if_neg (by simp [hbound])]
      refine ⟨(h.items r hr).free, fun m hm => ?_⟩
      obtain ⟨row, hrow, hto⟩ := h.boundTo hr hm
      have hne : m ≠ batch.id := by
        rintro rfl
        exact hbound hm
      exact ⟨row, (hfindOther hne).trans hrow, hto⟩
  · have hkey := find_of_mem hr
    by_cases hid : r.id = batch.id
    · rw [hid, hfind, Option.some.injEq] at hkey
      subst hkey
      refine ⟨{ hok.frozen with }, hok.nodup, nofun, fun _ => ⟨nofun, nofun, hmembers fun i hi => ?_⟩,
        ?_, fun hz => hzero (Option.some.inj hz)⟩
      · obtain ⟨item, hitem, hbound, -⟩ := hclosable.members i hi
        exact ⟨item, hitem, hbound⟩
      · exact Iff.trans ⟨Option.some.inj, congrArg some⟩ hremitted
    · rw [hfindOther hid] at hkey
      obtain ⟨hfrozen, hnodup, hsettled, hclosed, hrem, hz⟩ := h.batches r (mem_of_find hkey)
      refine ⟨hfrozen, hnodup, hsettled, fun hc => ?_, (hother r.id hid).symm ▸ hrem, hz⟩
      obtain ⟨hstatus, hat, hbound⟩ := hclosed hc
      exact ⟨hstatus, hat, hmembers hbound⟩
  · have hkey := find_of_mem hr
    by_cases hid : r.settlementId = batch.id
    · rw [hid] at hkey
      obtain ⟨hamount, hstore, hcurrency⟩ := hrow r hkey
      exact ⟨closeRow closureType closedAt batch, hid ▸ hfind, hamount, hstore, hcurrency⟩
    · rw [hother _ hid] at hkey
      obtain ⟨row, hrow', hamount, hstore, hcurrency⟩ := h.remittances r (mem_of_find hkey)
      exact ⟨row, (hfindOther hid).trans hrow', hamount, hstore, hcurrency⟩

/-! ### The invariant -/

section Effects

variable [Runtime]

/-- **Every effect keeps custody.** -/
theorem Custody.effect {l : Site} {b b' : Books} (h : Custody b) (heffect : Effect l b b') :
    Custody b' := by
  have hnext := heffect.later.nextId
  cases heffect with
  | item hstored hcurrency hcovered hfresh hcreate hn => exact h.createItem hcreate rfl rfl rfl hn
  | eligible =>
      refine h.updateItems rfl (fun _ => rfl) rfl rfl (le_refl _) (fun _ => rfl) fun i hi hp => ?_
      simp only [decide_eq_true_eq] at hp
      refine ⟨fun _ => by simp [FREE_STATES], fun m hm => ?_⟩
      have hm' : i.batchId = some m := hm
      rw [hp.2.2] at hm'
      cases hm'
  | assemble hassembles hcreate hposts hn => exact h.assemble hassembles hcreate rfl rfl rfl hn
  | statusWrite hlegal htarget =>
      refine h.updateBatches rfl (fun _ => rfl) ⟨fun _ => ⟨rfl, rfl, rfl, rfl, fun _ => ⟨rfl, rfl⟩⟩, fun _ => rfl,
        fun _ => rfl, fun r _ => Or.inr ?_⟩ rfl rfl (le_refl _)
      rcases htarget with rfl | rfl | rfl
      · exact ⟨nofun, nofun⟩
      · exact ⟨nofun, nofun⟩
      · exact ⟨nofun, nofun⟩
  | supersede hstored hcause hlegal hposts hn =>
      exact h.supersede hstored hcause hlegal rfl rfl rfl hn
  | link =>
      exact h.updateBatches rfl (fun _ => rfl) ⟨fun _ => ⟨rfl, rfl, rfl, rfl, fun _ => ⟨rfl, rfl⟩⟩, fun _ => rfl,
        fun _ => rfl, fun r _ => Or.inl rfl⟩ rfl rfl (le_refl _)
  | @markSettled _ batch evidence closedAt remittances ledger _ gate n hclosable hgated hcreate hposts hn =>
      have hself := find_create_self hcreate
      refine h.close hclosable evidence.executedAt ledger hn.le rfl rfl rfl ⟨fun _ => ⟨_, hself⟩, fun _ => rfl⟩
        (fun m hm => ?_) (fun r hr => ?_) nofun
      · change remittances.find m = _
        rw [find_create hcreate]
        exact if_neg (Ne.symm hm)
      · have hr' : remittances.find batch.id = some r := hr
        have hrow : remittances.find batch.id =
            some (remittanceRow batch evidence closedAt b.nextId) := hself
        rw [hrow, Option.some.injEq] at hr'
        subst hr'
        exact ⟨rfl, rfl, rfl⟩
  | @markSettledZeroNet _ batch closedAt ledger _ gate n hclosable hgated hzero hposts hn =>
      have hnone : ¬ ∃ r, b.remittances.find batch.id = some r := by
        rw [← (h.batches batch (mem_of_find hclosable.stored)).remitted, hclosable.unclosed]
        nofun
      exact h.close hclosable closedAt ledger hn rfl rfl rfl ⟨nofun, fun hr => absurd hr hnone⟩ (fun _ _ => rfl)
        (fun r hr => absurd ⟨r, hr⟩ hnone) fun _ => hzero
  | reduce hrefunds hstate hunbound hamount hcreate hposts hn =>
      refine h.updateItems rfl (fun _ => rfl) rfl rfl hn.le (fun _ => rfl) fun i hi hp => ?_
      simp only [decide_eq_true_eq] at hp
      obtain rfl := row_unique _ hi (mem_of_find hrefunds.itemStored) hp
      refine ⟨fun hnone => (h.items i hi).free hunbound, fun m hm => ?_⟩
      have hm' : i.batchId = some m := hm
      rw [hunbound] at hm'
      cases hm'
  | accrue hrefunds hstate hreversed hcreate haccrue hposts hid hn =>
      refine h.updateItems rfl (fun _ => rfl) rfl rfl (hid.trans hn).le (fun _ => rfl) fun i hi hp => ?_
      simp only [Bool.and_eq_true, decide_eq_true_eq] at hp
      refine ⟨fun hnone => ?_, fun m hm => ?_⟩
      · -- a settled item has a batch
        have hfree := (h.items i hi).free hnone
        rw [hp.2.2] at hfree
        simp [FREE_STATES] at hfree
      · obtain ⟨row, hrow, hto⟩ := h.boundTo hi hm
        refine ⟨row, hrow, hto.frozen, ?_⟩
        rcases hto.state with ⟨-, hready, -⟩ | ⟨hclosed, -⟩
        · rw [hp.2.2] at hready
          cases hready
        · exact Or.inr ⟨hclosed, by simp [FINAL_STATES]⟩
  | _ => exact h.of_same rfl rfl rfl hnext

end Effects

/-! ### The escrow behind the books -/

/-- The books as an escrow: a batch holds its items and pays them when it closes. -/
def Books.escrow (b : Books) : Escrow.State Nat Nat where
  holder i := (b.items.find i).bind SettlementItem.batchId
  paid i := ∃ item, b.items.find i = some item ∧ item.state ∈ FINAL_STATES

/-- What may happen to a stored item: a final one stays with its batch, a bound one changes its batch for
none. -/
structure Handled (i i' : SettlementItem) : Prop where
  final : i.state ∈ FINAL_STATES → i'.state ∈ FINAL_STATES ∧ i'.batchId = i.batchId
  moves : ∀ n m, i.batchId = some n → i'.batchId = some m → n = m

theorem Handled.refl (i : SettlementItem) : Handled i i where
  final := fun h => ⟨h, rfl⟩
  moves := fun _ _ hn hm => Option.some.inj (hn.symm.trans hm)

theorem Handled.of_batchId {i i' : SettlementItem} (hstate : i.state ∉ FINAL_STATES)
    (hbatch : i'.batchId = i.batchId) : Handled i i' where
  final := fun h => absurd h hstate
  moves := fun _ _ hn hm => Option.some.inj (hn.symm.trans (hbatch.symm.trans hm))

theorem free_notFinal {s : ItemState} (h : s ∈ FREE_STATES) : s ∉ FINAL_STATES := by
  cases s <;> simp_all [FREE_STATES, FINAL_STATES]

theorem Handled.settle {i : SettlementItem} (h : i.state = .ready) :
    Handled i { i with state := .settled } :=
  Handled.of_batchId (by simp [h, FINAL_STATES]) rfl

theorem Books.holder_eq_some {b : Books} {i n : Nat} :
    b.escrow.holder i = some n ↔ ∃ item, b.items.find i = some item ∧ item.batchId = some n :=
  Option.bind_eq_some_iff

theorem Custody.closed_of_final {b : Books} (h : Custody b) {i : SettlementItem}
    (hi : i ∈ b.items.rows) (hfinal : i.state ∈ FINAL_STATES) :
    ∃ n batch, i.batchId = some n ∧ b.batches.find n = some batch ∧ BoundTo batch i ∧
      batch.closureType ≠ none := by
  cases hn : i.batchId with
  | none => exact absurd hfinal (free_notFinal ((h.items i hi).free hn))
  | some n =>
      obtain ⟨batch, hbatch, hto⟩ := h.boundTo hi hn
      refine ⟨n, batch, rfl, hbatch, hto, ?_⟩
      rcases hto.state with ⟨-, hready, -⟩ | ⟨hclosed, -⟩
      · rw [hready] at hfinal
        simp [FINAL_STATES] at hfinal
      · exact hclosed

theorem BoundTo.final {batch : SettlementBatch} {i : SettlementItem} (h : BoundTo batch i)
    (hclosed : batch.closureType ≠ none) : i.state ∈ FINAL_STATES := by
  rcases h.state with ⟨hopen, -, -⟩ | ⟨-, hfinal⟩
  · exact absurd hopen hclosed
  · exact hfinal

section Effects

variable [Runtime]

theorem Effect.handled {l : Site} {b b' : Books} (heffect : Effect l b b') :
    Evolves Handled b.items b'.items := by
  cases heffect with
  | item hstored hcurrency hcovered hfresh hcreate hn => exact Evolves.create Handled.refl hcreate
  | eligible =>
      refine Evolves.updateMany Handled.refl rfl (fun _ => rfl) fun i _ hp => ?_
      simp only [decide_eq_true_eq] at hp
      exact Handled.of_batchId (by simp [hp.2.1, FINAL_STATES]) rfl
  | assemble hassembles hcreate hposts hn =>
      refine Evolves.updateMany Handled.refl rfl (fun _ => rfl) fun i hi hp => ?_
      obtain ⟨heligible, hunbound, -⟩ := hassembles.member hi (by simpa using hp)
      refine ⟨fun hfinal => ?_, fun n m hn _ => ?_⟩
      · rw [heligible] at hfinal
        simp [FINAL_STATES] at hfinal
      · rw [hunbound] at hn
        cases hn
  | supersede hstored hcause hlegal hposts hn =>
      refine Evolves.updateMany Handled.refl rfl (fun _ => rfl) fun i hi hp => ?_
      refine ⟨fun hfinal => ?_, fun n m _ hm => by cases hm⟩
      have hmove := hlegal i hi (by simpa using hp)
      exact absurd hmove (final_stays hfinal (superseded_free hcause _ _))
  | markSettled hclosable hgated hcreate hposts hn =>
      refine Evolves.updateMany Handled.refl rfl (fun _ => rfl) fun i _ hp => ?_
      simp only [decide_eq_true_eq] at hp
      exact Handled.settle hp.2.2
  | markSettledZeroNet hclosable hgated hzero hposts hn =>
      refine Evolves.updateMany Handled.refl rfl (fun _ => rfl) fun i _ hp => ?_
      simp only [decide_eq_true_eq] at hp
      exact Handled.settle hp.2.2
  | reduce hrefunds hstate hunbound hamount hcreate hposts hn =>
      refine Evolves.updateMany Handled.refl rfl (fun _ => rfl) fun i hi hp => ?_
      obtain rfl := row_unique _ hi (mem_of_find hrefunds.itemStored) (by simpa using hp)
      refine Handled.of_batchId ?_ rfl
      rcases hstate with hstate | hstate | hstate
      · simp [hstate, FINAL_STATES]
      · simp [hstate, FINAL_STATES]
      · simp [hstate, FINAL_STATES]
  | accrue hrefunds hstate hreversed hcreate haccrue hposts hid hn =>
      refine Evolves.updateMany Handled.refl rfl (fun _ => rfl) fun i _ _ => ?_
      exact ⟨fun _ => ⟨by simp [FINAL_STATES], rfl⟩,
        fun _ _ hn hm => Option.some.inj (hn.symm.trans hm)⟩
  | _ => exact Evolves.refl Handled.refl _

/-- A batch that was not stored before is open. -/
theorem Effect.unclosed {l : Site} {b b' : Books} (h : Custody b) (heffect : Effect l b b')
    {r : SettlementBatch} (hr : r ∈ b'.batches.rows) (hid : b.nextId ≤ r.id) :
    r.closureType = none := by
  have hstored {p : SettlementBatch → Bool} {f : SettlementBatch → SettlementBatch}
      (hr : r ∈ b.batches.rows.map fun r => if p r then f r else r)
      (hf : ∀ r, (f r).id = r.id) : False := by
    obtain ⟨r₀, hr₀, rfl⟩ := List.mem_map.mp hr
    have hlt := h.batchIds r₀ hr₀
    by_cases hp : p r₀ = true
    · rw [if_pos hp, hf] at hid
      omega
    · rw [if_neg hp] at hid
      omega
  have hsame (hr : r ∈ b.batches.rows) : False := absurd (h.batchIds r hr) (by omega)
  cases heffect with
  | assemble hassembles hcreate hposts hn =>
      rcases (mem_create hcreate).mp hr with hold | rfl
      · exact (hsame hold).elim
      · exact hassembles.unclosed
  | statusWrite hlegal htarget => exact (hstored hr fun _ => rfl).elim
  | supersede hstored' hcause hlegal hposts hn => exact (hstored hr fun _ => rfl).elim
  | link => exact (hstored hr fun _ => rfl).elim
  | markSettled hclosable hgated hcreate hposts hn => exact (hstored hr fun _ => rfl).elim
  | markSettledZeroNet hclosable hgated hzero hposts hn => exact (hstored hr fun _ => rfl).elim
  | _ => exact (hsame hr).elim

/-- **An effect is a step of the escrow.** -/
theorem Effect.escrow {l : Site} {b b' : Books} (h : Custody b) (heffect : Effect l b b') :
    Escrow.Step b.escrow b'.escrow where
  final := by
    rintro u ⟨item, hitem, hfinal⟩
    obtain ⟨item', hitem', hhandled⟩ := heffect.handled u item hitem
    obtain ⟨hfinal', hbatch⟩ := hhandled.final hfinal
    refine ⟨⟨item', hitem', hfinal'⟩, ?_⟩
    simp only [Books.escrow, hitem, hitem', Option.bind_some, hbatch]
  pays := by
    rintro u - ⟨item', hitem', hfinal'⟩
    have h' := h.effect heffect
    obtain ⟨n, batch, hn, hbatch, -, hclosed⟩ := h'.closed_of_final (mem_of_find hitem') hfinal'
    -- the batch is an old one, so it held the item before
    have hlt : n < b.nextId := by
      by_contra hge
      rw [← key_of_find hbatch] at hge
      exact hclosed (heffect.unclosed h (mem_of_find hbatch) (not_lt.mp hge))
    obtain ⟨item, hmem, hid, hbound⟩ := heffect.later.bound n hlt item' (mem_of_find hitem') hn
    refine ⟨n, Books.holder_eq_some.mpr ⟨item, ?_, hbound⟩,
      Books.holder_eq_some.mpr ⟨item', hitem', hn⟩, fun v hv => ?_⟩
    · rw [← key_of_find hitem', ← hid]
      exact find_of_mem hmem
    · obtain ⟨other, hother, hheld⟩ := Books.holder_eq_some.mp hv
      obtain ⟨row, hrow, hto⟩ := h'.boundTo (mem_of_find hother) hheld
      rw [hbatch, Option.some.injEq] at hrow
      subst hrow
      exact ⟨other, hother, hto.final hclosed⟩
  moves := by
    intro u n m hn hm
    obtain ⟨item, hitem, hn⟩ := Books.holder_eq_some.mp hn
    obtain ⟨item', hitem', hm⟩ := Books.holder_eq_some.mp hm
    obtain ⟨row, hrow, hhandled⟩ := heffect.handled u item hitem
    rw [hitem', Option.some.injEq] at hrow
    subst hrow
    exact hhandled.moves n m hn hm
  closed := by
    rintro u v n - hn hv
    obtain ⟨item, hitem, hn⟩ := Books.holder_eq_some.mp hn
    obtain ⟨item', hitem', hv⟩ := Books.holder_eq_some.mp hv
    obtain ⟨other, hmem, hid, hbound⟩ := heffect.later.bound n
      (h.batchId_lt (mem_of_find hitem) hn) item' (mem_of_find hitem') hv
    refine Books.holder_eq_some.mpr ⟨other, ?_, hbound⟩
    rw [← key_of_find hitem', ← hid]
    exact find_of_mem hmem

end Effects

end Qift
