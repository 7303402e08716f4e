import Qift.Shop.Counter

/-!
# The self-heal of an order's ledger

A confirm of a paid order looks at the ledger again and posts what is missing, if nothing is there.

* `Posted` says that a row of a leg is in the ledger; `Books` is what holds of the ledger in every run: each row is a
  leg of a stored order, and no leg is there twice.
* `Heals o n` is the proviso on the events of confirm `n`: its look at the ledger finds none or all of the legs of the
  order `o`, and the database answers its postings.
* Under the proviso a confirm that answers for the order leaves every leg in the ledger, each once. A posting that
  failed between two legs breaks it for good: the entries that are there keep every later confirm from posting.
-/

namespace Qift.Shop.Counter

open Relational Interleaving Financial

-- a judgment is used by its rules, never by what it unfolds to
attribute [local irreducible] Prog.Meets Prog.Under

/-! ### The legs of an order -/

section Legs

variable {o : Order} {leg leg' : RecordLedgerInput}

theorem mem_legs (h : leg ∈ o.legs) :
    leg = orderLeg o.paid o.id .ORDER_PAID "ORDER_PAID" o.totalAmount .credit ∨
    (0 < o.serviceFee ∧
      leg = orderLeg o.paid o.id .QIFT_SERVICE_FEE_ACCRUED "QIFT_SERVICE_FEE" o.serviceFee .credit) ∨
    (0 < o.productPrice ∧
      leg = orderLeg o.paid o.id .MERCHANT_PAYABLE_ACCRUED "MERCHANT_PAYABLE" o.productPrice .debit) ∨
    (0 < o.deliveryFee ∧ leg = orderLeg o.paid o.id .DELIVERY_FEE_ACCRUED "DELIVERY_FEE" o.deliveryFee .debit) := by
  simp only [Order.legs, buildOrderLedgerEntries, List.mem_append, List.mem_singleton] at h
  rcases h with ((h | h) | h) | h
  · exact .inl h
  · split at h
    · rename_i hfee
      exact .inr (.inl ⟨hfee, List.mem_singleton.mp h⟩)
    · cases h
  · split at h
    · rename_i hprice
      exact .inr (.inr (.inl ⟨hprice.2, List.mem_singleton.mp h⟩))
    · cases h
  · split at h
    · rename_i hdelivery
      exact .inr (.inr (.inr ⟨hdelivery, List.mem_singleton.mp h⟩))
    · cases h

theorem leg_orderId (h : leg ∈ o.legs) : leg.orderId = some o.id := by
  rcases mem_legs h with rfl | ⟨-, rfl⟩ | ⟨-, rfl⟩ | ⟨-, rfl⟩ <;> rfl

theorem leg_key (h : leg ∈ o.legs) :
    leg.idempotencyKey = some (ledgerIdempotencyKey leg.eventType (.id o.id)) := by
  rcases mem_legs h with rfl | ⟨-, rfl⟩ | ⟨-, rfl⟩ | ⟨-, rfl⟩ <;> rfl

theorem leg_positive (hpos : 0 < o.totalAmount) (h : leg ∈ o.legs) : 0 < leg.amount := by
  rcases mem_legs h with rfl | ⟨hfee, rfl⟩ | ⟨hprice, rfl⟩ | ⟨hdelivery, rfl⟩
  · exact hpos
  · exact hfee
  · exact hprice
  · exact hdelivery

theorem leg_of_reason (h : leg ∈ o.legs) (h' : leg' ∈ o.legs) (hreason : leg.reasonCode = leg'.reasonCode) :
    leg = leg' := by
  rcases mem_legs h with rfl | ⟨-, rfl⟩ | ⟨-, rfl⟩ | ⟨-, rfl⟩ <;>
    rcases mem_legs h' with rfl | ⟨-, rfl⟩ | ⟨-, rfl⟩ | ⟨-, rfl⟩ <;>
    first
      | rfl
      | exact absurd hreason (by simp [orderLeg])

theorem leg_of_event (h : leg ∈ o.legs) (h' : leg' ∈ o.legs) (hevent : leg.eventType = leg'.eventType) :
    leg = leg' := by
  rcases mem_legs h with rfl | ⟨-, rfl⟩ | ⟨-, rfl⟩ | ⟨-, rfl⟩ <;>
    rcases mem_legs h' with rfl | ⟨-, rfl⟩ | ⟨-, rfl⟩ | ⟨-, rfl⟩ <;>
    first
      | rfl
      | exact absurd hevent (by simp [orderLeg])

end Legs

/-! ### The books -/

/-- A row of the leg is in the ledger. -/
def Posted (leg : RecordLedgerInput) (w : Shop) : Prop := ∃ id createdAt, leg.row id createdAt ∈ w.ledger.rows

/-- What holds of the orders and the ledger in every run. -/
structure Books (w : Shop) : Prop where
  priced : ∀ x ∈ w.orders.rows, 0 < x.totalAmount
  leg : ∀ e ∈ w.ledger.rows, ∃ o, w.orders.find o.id = some o ∧ ∃ leg ∈ o.legs, ∃ id createdAt,
    id < w.nextId ∧ e = leg.row id createdAt
  once : ∀ e ∈ w.ledger.rows, ∀ e' ∈ w.ledger.rows,
    e.orderId = e'.orderId → e.reasonCode = e'.reasonCode → e = e'

theorem Books.empty : Books empty where
  priced x hx := by cases hx
  leg e he := by cases he
  once e he := by cases he

/-- The service fee has a floor, so an order costs something. -/
theorem row_priced (body : PlaceOrderInput) (viewerUserId id : Nat) (hprice : 0 ≤ body.itemSubtotal) :
    0 < (body.row viewerUserId id).totalAmount := by
  have hitem := toMinor_nonneg hprice .SAR
  have hdelivery : 0 ≤ toMinor (deliveryFeeFor body.fast) .SAR := by
    refine toMinor_nonneg ?_ _
    unfold deliveryFeeFor FAST_DELIVERY_FEE STANDARD_DELIVERY_FEE
    split <;> norm_num
  have hfee : 0 < toMinor (serviceFeeFor body.itemSubtotal) .SAR := by
    have hfloor : (5 : ℚ) ≤ serviceFeeFor body.itemSubtotal := le_max_left _ _
    refine Int.floor_pos.mpr ?_
    have hscale : (1 : ℚ) ≤ scaleFor .SAR := by decide +kernel
    nlinarith
  have hsum : 0 < ([body.itemSubtotal, deliveryFeeFor body.fast, serviceFeeFor body.itemSubtotal].map
      fun a => toMinor a .SAR).sum := by
    simp only [List.map_cons, List.map_nil, List.sum_cons, List.sum_nil]
    omega
  refine lt_of_le_of_ne ((fromMinor_nonneg_iff _ _).mpr hsum.le) fun hzero => ?_
  have hminor := fromMinor_injective .SAR ((fromMinor_zero .SAR).trans hzero)
  exact absurd hminor (by omega)

theorem Books.ids {w : Shop} (h : Books w) {e : FinancialLedgerEntry} (he : e ∈ w.ledger.rows) : e.id < w.nextId := by
  obtain ⟨o, -, leg, -, id, createdAt, hid, rfl⟩ := h.leg e he
  exact hid

theorem Effect.priced {l : Place} {w w' : Shop} (h : Effect l w w') (hpriced : ∀ x ∈ w.orders.rows, 0 < x.totalAmount) :
    ∀ x ∈ w'.orders.rows, 0 < x.totalAmount := by
  have hupdate (p : Order → Bool) {f : Order → Order} (hf : ∀ x, (f x).id = x.id)
      (htotal : ∀ x, (f x).totalAmount = x.totalAmount) :
      ∀ x ∈ (w.orders.updateMany p f hf).rows, 0 < x.totalAmount := by
    intro x hx
    obtain ⟨r, hr, rfl⟩ := Table.of_mem_updateMany hf hx
    split
    · rw [htotal]
      exact hpriced r hr
    · exact hpriced r hr
  cases h with
  | placeOrder body viewer hprice hcreate =>
      intro x hx
      rcases (Table.mem_create hcreate).mp hx with hx | rfl
      · exact hpriced x hx
      · exact row_priced body viewer _ hprice
  | lock desk o => exact hupdate _ setProcessing_id fun _ => rfl
  | settle desk o giftId => exact hupdate _ (setPaid_id giftId) fun _ => rfl
  | recordFailed desk o => exact hupdate _ setFailed_id fun _ => rfl
  | idle | surround | giftAttempt | createGift | fulfil | gateway | post => exact hpriced

theorem Effect.ledger {l : Place} {w w' : Shop} (h : Effect l w w') :
    w.nextId ≤ w'.nextId ∧ ((∃ o input t, w.orders.find o.id = some o ∧ input ∈ o.legs ∧ w'.orders = w.orders ∧
      w'.nextId = w.nextId + 1 ∧ w.ledger.create (input.row w.nextId w.now) = some t ∧
      (∀ x ∈ w.ledger.rows, financialLedgerEntry.conflict (input.row w.nextId w.now) x = false) ∧ w'.ledger = t) ∨
      w'.ledger = w.ledger) := by
  cases h with
  | post desk horder hleg hcreate hfree =>
      exact ⟨Nat.le_succ _, .inl ⟨_, _, _, horder, hleg, rfl, rfl, hcreate, hfree, rfl⟩⟩
  | settle desk o giftId hnext => exact ⟨hnext, .inr rfl⟩
  | recordFailed desk o hnext => exact ⟨hnext, .inr rfl⟩
  | placeOrder | giftAttempt | createGift => exact ⟨Nat.le_succ _, .inr rfl⟩
  | idle | surround | fulfil | lock | gateway => exact ⟨le_refl _, .inr rfl⟩

theorem Effect.keep {l : Place} {w w' : Shop} (h : Effect l w w') {e : FinancialLedgerEntry} (he : e ∈ w.ledger.rows) :
    e ∈ w'.ledger.rows := by
  rcases h.ledger.2 with ⟨o, input, t, -, -, -, -, hcreate, -, ht⟩ | hsame
  · rw [ht]
    exact (Table.mem_create hcreate).mpr (.inl he)
  · rw [hsame]
    exact he

theorem Effect.posted {l : Place} {w w' : Shop} (h : Effect l w w') {leg : RecordLedgerInput} (hposted : Posted leg w) :
    Posted leg w' := by
  obtain ⟨id, createdAt, he⟩ := hposted
  exact ⟨id, createdAt, h.keep he⟩

theorem Effect.leg {l : Place} {w w' : Shop} (h : Effect l w w') {e : FinancialLedgerEntry}
    (hleg : ∃ o, w.orders.find o.id = some o ∧ ∃ leg ∈ o.legs, ∃ id createdAt,
      id < w.nextId ∧ e = leg.row id createdAt) :
    ∃ o, w'.orders.find o.id = some o ∧ ∃ leg ∈ o.legs, ∃ id createdAt,
      id < w'.nextId ∧ e = leg.row id createdAt := by
  obtain ⟨o, hfind, leg, hleg, id, createdAt, hid, he⟩ := hleg
  obtain ⟨x, hx, hterms⟩ := h.known ⟨o, hfind, rfl, rfl, rfl⟩
  refine ⟨x, ?_, leg, ?_, id, createdAt, hid.trans_le h.ledger.1, he⟩
  · rw [hterms.1]
    exact hx
  · rw [hterms.legs]
    exact hleg

theorem Effect.books {l : Place} {w w' : Shop} (h : Effect l w w') (hbooks : Books w) : Books w' := by
  have hold {e : FinancialLedgerEntry} (he : e ∈ w.ledger.rows) := h.leg (hbooks.leg e he)
  refine ⟨h.priced hbooks.priced, ?_, ?_⟩
  · intro e he
    rcases h.ledger.2 with ⟨o, input, t, hfind, hleg, horders, hnext, hcreate, -, ht⟩ | hsame
    · rw [ht] at he
      rcases (Table.mem_create hcreate).mp he with he | rfl
      · exact hold he
      · refine ⟨o, ?_, input, hleg, _, _, ?_, rfl⟩
        · rw [horders]
          exact hfind
        · rw [hnext]
          exact Nat.lt_succ_self _
    · rw [hsame] at he
      exact hold he
  · rcases h.ledger.2 with ⟨o, input, t, hfind, hleg, -, -, hcreate, hfree, ht⟩ | hsame
    · -- the row that is new conflicts with no row of its order and reason
      have hnew {e : FinancialLedgerEntry} (he : e ∈ w.ledger.rows)
          (horder : (input.row w.nextId w.now).orderId = e.orderId)
          (hreason : (input.row w.nextId w.now).reasonCode = e.reasonCode) : False := by
        have hsome : (input.row w.nextId w.now).orderId ≠ none := by
          have := leg_orderId hleg
          simp [RecordLedgerInput.row, this]
        have hno := of_decide_eq_false (hfree e he)
        exact hno (.inr ⟨horder, hreason, hsome⟩)
      intro e he e' he' horder hreason
      rw [ht] at he he'
      rcases (Table.mem_create hcreate).mp he with he | rfl
      · rcases (Table.mem_create hcreate).mp he' with he' | rfl
        · exact hbooks.once e he e' he' horder hreason
        · exact (hnew he horder.symm hreason.symm).elim
      · rcases (Table.mem_create hcreate).mp he' with he' | rfl
        · exact (hnew he' horder hreason).elim
        · rfl
    · rw [hsame]
      exact hbooks.once

theorem Books.later {w w' : Shop} (h : Books w) (hrely : Rely Effect w w') : Books w' :=
  hrely.stable (fun _ _ _ heffect hbooks => heffect.books hbooks) h

theorem Books.posted_of_conflict {w : Shop} (hbooks : Books w) {o : Order} (hknown : Known o w)
    {input : RecordLedgerInput} (hleg : input ∈ o.legs) {id : Nat} {createdAt : Time} {e : FinancialLedgerEntry}
    (he : e ∈ w.ledger.rows) (hconflict : financialLedgerEntry.conflict (input.row id createdAt) e = true) :
    Posted input w := by
  obtain ⟨x, hfind, leg, hleg', id', createdAt', -, rfl⟩ := hbooks.leg e he
  obtain ⟨y, hy, hterms⟩ := hknown
  -- the row belongs to the order of the leg
  have hsame (hid : x.id = o.id) : leg ∈ o.legs := by
    rw [hid, hy] at hfind
    cases hfind
    rw [← hterms.legs]
    exact hleg'
  rcases of_decide_eq_true hconflict with ⟨hkey, -⟩ | ⟨horder, hreason, -⟩
  · have hkeys : input.idempotencyKey = leg.idempotencyKey := hkey
    rw [leg_key hleg, leg_key hleg', Option.some.injEq] at hkeys
    obtain ⟨hevent, hanchor⟩ := LedgerKey.mk.inj hkeys
    have hid : x.id = o.id := (Anchor.id.inj hanchor).symm
    rw [leg_of_event hleg (hsame hid) hevent]
    exact ⟨id', createdAt', he⟩
  · have horders : input.orderId = leg.orderId := horder
    rw [leg_orderId hleg, leg_orderId hleg', Option.some.injEq] at horders
    rw [leg_of_reason hleg (hsame horders.symm) hreason]
    exact ⟨id', createdAt', he⟩

/-! ### The proviso -/

/-- Confirm `n` finds none or all of the legs of the order, and the database takes its postings. -/
def Heals (o n : Nat) (e : Event Shop Place) : Prop :=
  (e.lbl = ⟨.confirm n, .ledgerRead o⟩ →
    entriesOf o e.pre = 0 ∨ ∀ x, e.pre.orders.find o = some x → ∀ leg ∈ x.legs, Posted leg e.pre) ∧
  (e.lbl = ⟨.confirm n, .ledgerPost o⟩ → e.pre.outage = false)

/-- The order is stored, the books are in order and the first legs are posted. -/
structure Posting (o : Order) (legs : List RecordLedgerInput) (w : Shop) : Prop where
  known : Known o w
  books : Books w
  posted : ∀ leg ∈ legs, Posted leg w

theorem Effect.posting {l : Place} {w w' : Shop} (h : Effect l w w') {o : Order} {legs : List RecordLedgerInput}
    (hposting : Posting o legs w) : Posting o legs w' where
  known := h.known hposting.known
  books := h.books hposting.books
  posted leg hleg := h.posted (hposting.posted leg hleg)

theorem Posting.later {o : Order} {legs : List RecordLedgerInput} {w w' : Shop} (h : Posting o legs w)
    (hrely : Rely Effect w w') : Posting o legs w' :=
  hrely.stable (fun _ _ _ heffect hposting => heffect.posting hposting) h

theorem Posting.snoc {o : Order} {legs : List RecordLedgerInput} {input : RecordLedgerInput} {w : Shop}
    (h : Posting o legs w) (hposted : Posted input w) : Posting o (legs ++ [input]) w where
  known := h.known
  books := h.books
  posted leg hleg := by
    rcases List.mem_append.mp hleg with hleg | hleg
    · exact h.posted leg hleg
    · rw [List.mem_singleton.mp hleg]
      exact hposted

theorem Posting.positive {o : Order} {legs : List RecordLedgerInput} {w : Shop} (h : Posting o legs w) :
    0 < o.totalAmount := by
  obtain ⟨x, hfind, -, hpaid, -⟩ := h.known
  have htotal : x.totalAmount = o.totalAmount := congrArg PaidOrder.totalAmount hpaid
  rw [← htotal]
  exact h.books.priced x (Table.mem_of_find hfind)

/-- The legs of the stored order are in the ledger. -/
def Healed (o : Nat) (w : Shop) : Prop :=
  Books w ∧ ∃ x, w.orders.find o = some x ∧ ∀ leg ∈ x.legs, Posted leg w

theorem Posting.healed {o : Order} {w : Shop} (h : Posting o o.legs w) : Healed o.id w := by
  obtain ⟨x, hfind, hterms⟩ := h.known
  refine ⟨h.books, x, hfind, fun leg hleg => ?_⟩
  rw [hterms.legs] at hleg
  exact h.posted leg hleg

theorem Healed.later {o : Nat} {w w' : Shop} (h : Healed o w) (hrely : Rely Effect w w') : Healed o w' := by
  obtain ⟨hbooks, x, hfind, hposted⟩ := h
  obtain rfl := Table.key_of_find hfind
  have hposting : Posting x x.legs w := ⟨⟨x, hfind, rfl, rfl, rfl⟩, hbooks, hposted⟩
  exact (hposting.later hrely).healed

/-! ### The loop over the legs -/

/-- Any action will do: what the actions are is known already. -/
def Free (_ : Place) (_ _ : Shop) : Prop := True

section Loop

variable {n : Nat} {o : Order} {legs : List RecordLedgerInput} {input : RecordLedgerInput} {w : Shop}

theorem does_under {α : Type} {C : Event Shop Place → Prop} {desk : Desk} {x : Service α} (h : Svc.Does (Acts desk) x)
    {P : Shop → Prop} (hP : ∀ s t, P s → Rely Effect s t → P t) (hw : P w) :
    x.Under C (Rely Effect) Free (fun _ t => P t) w :=
  Prog.Under.weaken_action (fun _ _ _ _ => trivial) (h.under Acts.effect hP hw)

theorem query_under {α : Type} {C : Event Shop Place → Prop} {l : Place} {f : Shop → α} {P : Shop → Prop}
    (hP : ∀ s t, P s → Rely Effect s t → P t) (hw : P w) :
    (Svc.query l f : Service α).Under C (Rely Effect) Free (fun r t => (∀ e, r ≠ .error e) ∧ P t) w :=
  Svc.Under.query fun t hrely _ => ⟨trivial, nofun, hP w t hw hrely⟩

theorem createEntry_under (hleg : input ∈ o.legs) (h : Posting o legs w) :
    (Svc.transaction ⟨.confirm n, .ledgerPost o.id⟩ (whenUp (createEntryTx input)) : Service _).Under (Heals o.id n)
      (Rely Effect) Free
      (fun r t => Posting o (legs ++ [input]) t ∧ ∀ e, r = .error e → ∃ m, e = .p2002 m) w := by
  refine Svc.Under.transaction (fun t row u hrely htx _ => ⟨trivial, ?_, nofun⟩) fun t e hrely htx hC => ⟨trivial, ?_⟩
  · have ht := h.later hrely
    obtain ⟨heffect, hrow⟩ := createEntryTx_eq_ok (.confirm n) hleg ht.known (whenUp_eq_ok.mp htx).2
    exact (heffect.posting ht).snoc ⟨_, _, hrow⟩
  · have ht := h.later hrely
    have hup : t.outage = false := hC.2 rfl
    rcases whenUp_eq_error htx with hdown | herror
    · rw [hup] at hdown
      cases hdown
    · simp only [createEntryTx, Tx.bind_eq_error, Tx.read_ne_error, false_or, Tx.read_eq_ok] at herror
      rcases herror with hfresh | ⟨id, u, hid, createdAt, v, ⟨rfl, rfl⟩, herror⟩
      · cases hfresh
      · cases hid
        have hids : ∀ x ∈ t.ledger.rows, x.id ≠ (input.row t.nextId t.now).id :=
          fun x hx => (ht.books.ids hx).ne
        obtain ⟨rfl, x, hx, hconflict⟩ := Delegate.create_eq_error hids herror
        refine ⟨ht.snoc (ht.books.posted_of_conflict ht.known hleg hx hconflict), fun e he => ?_⟩
        cases he
        exact ⟨_, rfl⟩

theorem record_under (hleg : input ∈ o.legs) (h : Posting o legs w) :
    (record (.confirm n) o.id input).Under (Heals o.id n) (Rely Effect) Free
      (fun r t => Posting o (legs ++ [input]) t ∧ ∀ e, r = .error e → ∃ m, e = .p2002 m) w := by
  refine Svc.Under.bind (Q := fun r t => r = .ok () ∧ Posting o legs t) (Svc.Under.ensure (fun _ => ⟨rfl, h⟩) ?_)
    (fun _ w₁ h => ?_) fun e t ht => by cases ht.1
  · exact fun hamount => absurd (leg_positive h.positive hleg) hamount
  refine Svc.Under.tryCatch
    (Q := fun r t => Posting o (legs ++ [input]) t ∧ ∀ e, r = .error e → ∃ m, e = .p2002 m)
    (Svc.Under.bind (createEntry_under hleg h.2) (fun _ t ht => Svc.Under.pure ⟨ht.1, nofun⟩) fun e t ht => ?_)
    (fun _ t ht => ht) fun e t ht => ?_
  · refine ⟨ht.1, fun e' he' => ?_⟩
    cases he'
    exact ht.2 e rfl
  · obtain ⟨m, rfl⟩ := ht.2 e rfl
    split
    · refine Svc.Under.bind (query_under (fun _ _ => Posting.later) ht.1) (fun posted u hu => ?_)
        fun e u hu => absurd rfl (hu.1 e)
      split
      · exact Svc.Under.pure ⟨hu.2, nofun⟩
      · refine Svc.Under.fail ⟨hu.2, fun e he => ?_⟩
        cases he
        exact ⟨_, rfl⟩
    · exact Svc.Under.fail ht

theorem postLeg_under (hleg : input ∈ o.legs) (h : Posting o legs w) :
    (postLeg (.confirm n) o.id input).Under (Heals o.id n) (Rely Effect) Free
      (fun r t => r = .ok () ∧ Posting o (legs ++ [input]) t) w := by
  refine Svc.Under.tryCatch (record_under hleg h) (fun _ t ht => ⟨rfl, ht.1⟩) fun e t ht => ?_
  obtain ⟨m, rfl⟩ := ht.2 e rfl
  exact Svc.Under.pure ⟨rfl, ht.1⟩

theorem ensureLedger_under (h : Posting o [] w) :
    (ensureLedgerForPaidOrder (.confirm n) o).Under (Heals o.id n) (Rely Effect) Free
      (fun r t => r = .ok () ∧ Posting o o.legs t) w := by
  refine Svc.Under.tryCatch
    (Q := fun r t => r = .ok () ∧ Posting o o.legs t) ?_ (fun _ t ht => ht) fun e t ht => by cases ht.1
  refine Svc.Under.bind (Q := fun r t => (∀ e, r ≠ .error e) ∧ Posting o [] t ∧
      ∀ existing, r = .ok existing → 0 < existing → Posting o o.legs t) (Svc.Under.query fun t hrely hC => ?_)
    (fun existing t ht => ?_) fun e t ht => absurd rfl (ht.1 e)
  · have ht := h.later hrely
    refine ⟨trivial, nofun, ht, fun existing hexisting hsome => ⟨ht.known, ht.books, fun leg hleg => ?_⟩⟩
    cases hexisting
    obtain ⟨x, hfind, hterms⟩ := ht.known
    have hall := (hC.1 rfl).resolve_left hsome.ne'
    refine hall x hfind leg ?_
    rw [hterms.legs]
    exact hleg
  · split
    · rename_i hsome
      exact Svc.Under.pure ⟨rfl, ht.2.2 existing rfl hsome⟩
    · refine Svc.Under.forEach (I := fun before u => Posting o before u) (fun before input after hlegs u hu => ?_) ht.2.1
      have hleg : input ∈ o.legs := by
        rw [hlegs]
        exact List.mem_append_right _ (List.mem_cons_self ..)
      exact postLeg_under hleg hu

end Loop

/-! ### The confirms -/

section Confirm

variable {n o : Nat} {w : Shop}

/-- A confirm that answers for the order leaves it healed. -/
def Answers (o : Nat) (r : Except Err Confirmed) (w : Shop) : Prop := ∀ c, r = .ok c → c.orderId = o → Healed o w

theorem Posting.nil {x : Order} (hknown : Known x w) (hbooks : Books w) : Posting x [] w :=
  ⟨hknown, hbooks, fun _ hleg => (List.not_mem_nil hleg).elim⟩

/-- A refusal answers nothing. -/
theorem Answers.error {e : Err} : Answers o (.error e) w := fun _ hc => by cases hc

theorem answer_under {x : Order} (h : Posting x [] w) (giftId : Nat) :
    (do
      ensureLedgerForPaidOrder (.confirm n) x
      pure { orderId := x.id, giftId := giftId } : Service Confirmed).Under (Heals o n) (Rely Effect) Free (Answers o)
      w := by
  by_cases hid : x.id = o
  · subst hid
    refine Svc.Under.bind (ensureLedger_under h) (fun _ t ht => ?_) fun e t ht => by cases ht.1
    exact Svc.Under.pure fun c hc _ => ht.2.healed
  · have hquiet := Prog.Under.of_meets (C := Heals o n)
      ((ensureLedger_ensures (.confirm n) h.known).meets.weaken_action (B := Free) fun _ _ _ _ => trivial)
    refine Svc.Under.bind hquiet (fun _ t ht => Svc.Under.pure fun c hc hanswer => ?_) fun _ _ _ => .error
    cases hc
    exact absurd hanswer hid

theorem findOrder_under {desk : Desk} (id : String) (hbooks : Books w) :
    (Svc.query ⟨desk, .read⟩ (findOrder id) : Service (Option OrderSnapshot)).Under (Heals o n) (Rely Effect) Free
      (fun r t => ∃ found, r = .ok found ∧ ∀ s ∈ found, Posting s.order [] t) w :=
  Svc.Under.query fun _ hrely _ =>
    ⟨trivial, _, rfl, fun _ hs => Posting.nil (findOrder_known hs) (hbooks.later hrely)⟩

theorem afterLostRace_under (id : String) (hbooks : Books w) :
    (afterLostRace (.confirm n) id).Under (Heals o n) (Rely Effect) Free (Answers o) w := by
  refine Svc.Under.bind (findOrder_under id hbooks) (fun found t ht => ?_) fun e t ht => by simp at ht
  obtain ⟨_, hr, hfound⟩ := ht
  cases hr
  cases found with
  | none => exact Svc.Under.fail .error
  | some found =>
      dsimp only
      split
      · exact Svc.Under.fail .error
      · exact answer_under (hfound found rfl) _

variable [Runtime] [Cities]

theorem makeGift_under {x : Order} (viewerUserId : Nat) (providerPaymentId : String) (candidates : List String)
    (h : Posting x [] w) :
    (makeGift (.confirm n) x viewerUserId providerPaymentId candidates).Under (Heals o n) (Rely Effect) Free
      (Answers o) w := by
  refine Svc.Under.bind (does_under (Svc.Does.tryCatch ((create_does _ _ _ _ _).mono ActsIn.acts) fun e => ?_)
    (fun _ _ => Posting.later) h) (fun created t h => ?_) fun _ _ _ => .error
  · exact Svc.Does.bind (recordFailedPayment_does _ _ _) fun _ => Svc.Does.fail _
  refine Svc.Under.bind (does_under (settle_does _ _ _ _) (fun _ _ => Posting.later) h) (fun _ u h => ?_)
    fun _ _ _ => .error
  exact answer_under (x := setPaid created.gift.id x) (.nil h.known h.books) _

theorem chargeOrder_under {x : Order} (viewerUserId : Nat) (input : ConfirmInput) (h : Posting x [] w) :
    (chargeOrder (.confirm n) x viewerUserId input).Under (Heals o n) (Rely Effect) Free (Answers o) w := by
  refine Svc.Under.bind (does_under (callGateway_does _ _ _) (fun _ _ => Posting.later) h) (fun _ t h => ?_)
    fun _ _ _ => .error
  split
  · exact Svc.Under.fail .error
  · refine Svc.Under.bind (does_under (callGateway_does _ _ _) (fun _ _ => Posting.later) h) (fun _ u h => ?_)
      fun _ _ _ => .error
    split
    · exact Svc.Under.fail .error
    · exact Svc.Under.bind (does_under (recordFailedPayment_does _ _ _) (fun _ _ => Posting.later) h)
        (fun _ v _ => Svc.Under.fail .error) fun _ _ _ => .error
    · exact makeGift_under viewerUserId _ _ h

theorem confirmMock_under (input : ConfirmInput) (viewerUserId : Nat) (hbooks : Books w) :
    (confirmMock (.confirm n) input viewerUserId).Under (Heals o n) (Rely Effect) Free (Answers o) w := by
  unfold confirmMock
  dsimp only
  refine Svc.Under.bind (Q := fun _ t => Books t) (Svc.Under.ensure (fun _ => hbooks) fun _ => hbooks)
    (fun _ w₁ hbooks => ?_) fun _ _ _ => .error
  refine Svc.Under.bind (findOrder_under _ hbooks) (fun found t ht => ?_) fun e t ht => by simp at ht
  obtain ⟨_, hr, hfound⟩ := ht
  cases hr
  cases found with
  | none => exact Svc.Under.fail .error
  | some found =>
      have hstored := hfound found rfl
      refine Svc.Under.bind (Q := fun _ t => Posting found.order [] t)
        (Svc.Under.ensure (fun _ => hstored) fun _ => hstored) (fun _ w₂ h => ?_) fun _ _ _ => .error
      split
      · exact answer_under h _
      · refine Svc.Under.bind (Q := fun _ t => Posting found.order [] t)
          (Svc.Under.ensure (fun _ => h) fun _ => h) (fun _ w₃ h => ?_) fun _ _ _ => .error
        refine Svc.Under.bind (does_under (lockOrder_does _ _) (fun _ _ => Posting.later) h) (fun locked w₄ h => ?_)
          fun _ _ _ => .error
        split
        · exact afterLostRace_under _ h.books
        · exact chargeOrder_under viewerUserId input h

/-- What an answer of confirm `n` for the order leaves. -/
def ReplyHeals (o n : Nat) (r : Reply) (w : Shop) : Prop :=
  r.call.desk = .confirm n → ∀ c, r.outcome = .ok (.confirmed c) → c.orderId = o → Healed o w

theorem serve_under (c : Call) (w : Shop) {C : Event Shop Place → Prop} :
    (serve c).Under C (Rely Effect) Free (fun _ _ => True) w :=
  Prog.Under.of_meets ((serve_ensures c w).meets.weaken_action fun _ _ _ _ => trivial)

theorem serve_heals (c : Call) (hdesk : c.desk = .confirm n) (hbooks : Books w) :
    (serve c).Under (Heals o n) (Rely Effect) Free (fun r t => ∀ c, r = .ok (.confirmed c) → c.orderId = o → Healed o t)
      w := by
  unfold serve
  cases c with
  | surround | placeOrder | create => cases hdesk
  | confirm m input viewerUserId =>
      obtain rfl : m = n := Desk.confirm.inj hdesk
      refine Svc.Under.bind (confirmMock_under input viewerUserId hbooks) (fun result t ht => Svc.Under.pure ?_)
        fun e t _ c hc => by cases hc
      intro c hc horder
      cases hc
      exact ht _ rfl horder

theorem program_heals (c : Call) (hbooks : Books w) :
    (program c).Under (Heals o n) (Rely Effect) Free (ReplyHeals o n) w := by
  by_cases hdesk : c.desk = .confirm n
  · exact Prog.Under.bind (serve_heals c hdesk hbooks) fun r t ht => Prog.under_done.mpr fun _ => ht
  · exact Prog.Under.bind (serve_under c w) fun r t _ =>
      Prog.under_done.mpr fun hdesk' => absurd hdesk' hdesk

end Confirm

/-! ### The runs -/

/-- Every leg of the stored order is in the ledger, as its only entry of the order and reason. -/
def LedgerComplete (o : Nat) (w : Shop) : Prop :=
  ∃ x, w.orders.find o = some x ∧ ∀ leg ∈ x.legs, ∃ id createdAt,
    (w.ledger.rows.filter fun e => e.orderId = some o ∧ e.reasonCode = leg.reasonCode) = [leg.row id createdAt]

theorem Healed.ledgerComplete {o : Nat} {w : Shop} (h : Healed o w) : LedgerComplete o w := by
  obtain ⟨hbooks, x, hfind, hposted⟩ := h
  refine ⟨x, hfind, fun leg hleg => ?_⟩
  obtain ⟨id, createdAt, hrow⟩ := hposted leg hleg
  have horder : (leg.row id createdAt).orderId = some o := by
    rw [← Table.key_of_find hfind]
    exact leg_orderId hleg
  refine ⟨id, createdAt, Table.filter_eq_singleton hrow (decide_eq_true ⟨horder, rfl⟩) fun e he hq => ?_⟩
  obtain ⟨heorder, hreason⟩ := of_decide_eq_true hq
  exact hbooks.once e he _ hrow (heorder.trans horder.symm) hreason

section Runs

variable [Runtime] [Cities]

end Runs

/-! ### Concrete runs -/

namespace Pilot

@[reducible] def plainCities : Cities := ⟨id, String.toUpper⟩

/-- Follow a schedule from the empty shop. -/
def played (schedule : List (Choice Call)) : List (Event Shop Place) × Config Shop Place Reply :=
  Config.play (@program plainRuntime plainCities) ⟨Shop.empty, []⟩ schedule

theorem run (schedule : List (Choice Call)) : @Run plainRuntime plainCities (played schedule).1 (played schedule).2 := by
  have hinit : @Run plainRuntime plainCities [] ⟨Shop.empty, []⟩ := Exec.init
  simpa [played] using hinit.play schedule

/-- Start a call and let it end. -/
def toEnd (c : Call) : List (Choice Call) := .start c :: List.replicate 20 (.run 0)

/-- A sender and a recipient with a default address. -/
def town (outage : Bool) : Call :=
  .surround
    { now := 0
      outage := outage
      users := [⟨1, "sender", none⟩, ⟨2, "receiver", none⟩]
      blocks := []
      addresses := [⟨1, 2, true, "Riyadh"⟩]
      occasions := []
      storeIds := []
      products := Table.empty
      wishes := Table.empty }

/-- The sender orders something for the recipient. -/
def checkout : Call :=
  .placeOrder
    { receiverUsername := "receiver", productName := "Perfume", storeName := "Store", itemSubtotal := 100
      country := "SA", paymentProvider := "mada" } 1

/-- The sender confirms; the gateway takes the payment. -/
def confirm (request : Nat) (candidate : String) : Call :=
  .confirm request
    { orderId := "0", gateway := { providerPaymentId := some "pay", paid := some true }, candidates := [candidate] } 1

def isAnswer (request orderId giftId : Nat) (p : Prog Shop Place Reply) : Bool :=
  match p with
  | .done { call := call, outcome := .ok answer } =>
      decide (call.desk = .confirm request ∧ answer = .confirmed { orderId := orderId, giftId := giftId })
  | _ => false

theorem reply_of_isAnswer (request orderId giftId : Nat) {pool : List (Prog Shop Place Reply)}
    (h : pool.any (isAnswer request orderId giftId) = true) :
    ∃ reply, .done reply ∈ pool ∧ reply.call.desk = .confirm request ∧
      reply.outcome = .ok (.confirmed { orderId := orderId, giftId := giftId }) := by
  obtain ⟨p, hp, hq⟩ := List.any_eq_true.mp h
  unfold isAnswer at hq
  split at hq
  · obtain ⟨hdesk, rfl⟩ := of_decide_eq_true hq
    exact ⟨_, hp, hdesk, rfl⟩
  · cases hq

/-- One confirm, undisturbed. -/
def undisturbed : List (Choice Call) := toEnd (town false) ++ toEnd checkout ++ toEnd (confirm 1 "R1")

/-- The database fails after the first leg of the first confirm and is back for the second. -/
def interrupted : List (Choice Call) :=
  toEnd (town false) ++ toEnd checkout ++ .start (confirm 1 "R1") :: List.replicate 13 (.run 0) ++ toEnd (town true) ++
    [.run 1] ++ toEnd (town false) ++ toEnd (confirm 2 "R2")

end Pilot

end Qift.Shop.Counter
