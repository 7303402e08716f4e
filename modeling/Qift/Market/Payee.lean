import Qift.Market.Checkout

/-!
# Who is paid, and how much

What an accepted checkout stores.

* `create_ok` — a stored order carries the charges of its item price and speed, and the resolved store.
* `balanced_SAR` — the legs of an order allocate the captured total, in halalas; `balanced_iff` — in the minor units
  of another currency exactly when the price is whole in halalas.
* **`decidedByServer_iff`** — an accepted request is paid to the owner of its product exactly when it names no other
  store.
-/

namespace Qift.Market

open Relational Shop Financial

/-! ### Charges in minor units -/

theorem toMinor_intCast (n : Int) (c : CurrencyCode) : toMinor n c = n * scaleFor c := by
  have hmul : ((n : ℚ) * scaleFor c) = ((n * scaleFor c : Int) : ℚ) := by push_cast; ring
  rw [toMinor, hmul, floor_add_half]

theorem serviceFeeFor_eq (itemSubtotal : Number) : ∃ n : Int, 5 ≤ n ∧ serviceFeeFor itemSubtotal = n := by
  refine ⟨max 5 ⌊itemSubtotal * QIFT_SERVICE_FEE_RATE + 1 / 2⌋, le_max_left _ _, ?_⟩
  simp [serviceFeeFor, QIFT_MIN_SERVICE_FEE]

theorem deliveryFeeFor_eq (fast : Bool) : ∃ n : Int, 0 ≤ n ∧ deliveryFeeFor fast = n := by
  cases fast
  · exact ⟨0, le_refl _, by simp [deliveryFeeFor, STANDARD_DELIVERY_FEE]⟩
  · exact ⟨15, by omega, by simp [deliveryFeeFor, FAST_DELIVERY_FEE]⟩

/-- Minor units of a currency in one halala. -/
def perHalala (c : CurrencyCode) : Int := if c.minorDigits = 2 then 1 else 10

theorem scaleFor_eq (c : CurrencyCode) : (scaleFor c : Int) = 100 * perHalala c := by
  cases c <;> rfl

theorem toMinor_fromMinor_SAR (k : Int) (c : CurrencyCode) : toMinor (fromMinor k .SAR) c = k * perHalala c := by
  have hscale : (scaleFor c : ℚ) = 100 * (perHalala c : ℚ) := by
    exact_mod_cast congrArg (fun n : Int => (n : ℚ)) (scaleFor_eq c)
  have hsar : (scaleFor .SAR : ℚ) = 100 := by norm_num [scaleFor, CurrencyCode.minorDigits]
  have hmul : fromMinor k .SAR * scaleFor c = ((k * perHalala c : Int) : ℚ) := by
    rw [fromMinor, hscale, hsar]
    push_cast
    ring
  rw [toMinor, hmul, floor_add_half]

/-! ### The allocation -/

/-- What the legs post under a reason. -/
def amountOf (reasonCode : String) (legs : List OrderLeg) : Number :=
  ((legs.filter fun l => l.reasonCode = reasonCode).map OrderLeg.amount).sum

theorem amountOf_append (reasonCode : String) (legs legs' : List OrderLeg) :
    amountOf reasonCode (legs ++ legs') = amountOf reasonCode legs + amountOf reasonCode legs' := by
  simp [amountOf]

theorem amountOf_singleton (reasonCode : String) (leg : OrderLeg) :
    amountOf reasonCode [leg] = if leg.reasonCode = reasonCode then leg.amount else 0 := by
  by_cases h : leg.reasonCode = reasonCode <;> simp [amountOf, h]

theorem amountOf_ite (reasonCode : String) (c : Prop) [Decidable c] (leg : OrderLeg) :
    amountOf reasonCode (if c then [leg] else []) =
      if c ∧ leg.reasonCode = reasonCode then leg.amount else 0 := by
  by_cases hc : c
  · simp only [hc, if_true, true_and, amountOf_singleton]
  · simp [hc, amountOf]

/-- What an order allocates to its product: the merchant's leg, and on an order without a store the price itself. -/
def productShare (order : Order) : Number :=
  if order.storeId.isSome then amountOf "MERCHANT_PAYABLE" (buildOrderLedgerEntries order) else order.productPrice

/-- The legs of an order allocate the captured total, in the minor units of a currency. -/
def Balanced (c : CurrencyCode) (order : Order) : Prop :=
  let legs := buildOrderLedgerEntries order
  toMinor (amountOf "ORDER_PAID" legs) c =
    toMinor (amountOf "QIFT_SERVICE_FEE" legs) c + toMinor (productShare order) c +
      toMinor (amountOf "DELIVERY_FEE" legs) c

/-- The charges of an order are those of an item price and a speed. -/
structure Charged (order : Order) (itemSubtotal : Number) (deliverySpeed : DeliverySpeed) : Prop where
  nonneg : 0 ≤ itemSubtotal
  productPrice : order.productPrice = itemSubtotal
  serviceFee : order.serviceFee = serviceFeeFor itemSubtotal
  deliveryFee : order.deliveryFee = deliveryFeeFor (deliverySpeed = .fast)
  totalAmount : order.totalAmount =
    addMoney [itemSubtotal, deliveryFeeFor (deliverySpeed = .fast), serviceFeeFor itemSubtotal]

/-- Each leg carries its column. -/
theorem Charged.legs {order : Order} {itemSubtotal : Number} {deliverySpeed : DeliverySpeed}
    (h : Charged order itemSubtotal deliverySpeed) :
    amountOf "ORDER_PAID" (buildOrderLedgerEntries order) = order.totalAmount ∧
      amountOf "QIFT_SERVICE_FEE" (buildOrderLedgerEntries order) = order.serviceFee ∧
      productShare order = order.productPrice ∧
      amountOf "DELIVERY_FEE" (buildOrderLedgerEntries order) = order.deliveryFee := by
  obtain ⟨fee, hfee, hserviceFee⟩ := serviceFeeFor_eq itemSubtotal
  obtain ⟨delivery, hdelivery, hdeliveryFee⟩ := deliveryFeeFor_eq (deliverySpeed = .fast)
  have hfeepos : 0 < order.serviceFee := by
    rw [h.serviceFee, hserviceFee]
    exact_mod_cast lt_of_lt_of_le (by omega) hfee
  have hdeliverynonneg : 0 ≤ order.deliveryFee := by
    rw [h.deliveryFee, hdeliveryFee]
    exact_mod_cast hdelivery
  have hpricenonneg : 0 ≤ order.productPrice := h.productPrice ▸ h.nonneg
  simp only [productShare, buildOrderLedgerEntries, amountOf_append, amountOf_singleton, amountOf_ite]
  refine ⟨?_, ?_, ?_, ?_⟩
  · simp
  · simp [hfeepos]
  · cases hstore : order.storeId with
    | none => simp
    | some storeId =>
        by_cases hpos : 0 < order.productPrice
        · simp [hpos]
        · simp [le_antisymm (not_lt.mp hpos) hpricenonneg]
  · by_cases hpos : 0 < order.deliveryFee
    · simp [hpos]
    · simp [le_antisymm (not_lt.mp hpos) hdeliverynonneg]

/-- **The allocation.**  In the minor units of a currency the legs allocate the captured total exactly when the item
price is whole in halalas there. -/
theorem Charged.balanced_iff {order : Order} {itemSubtotal : Number} {deliverySpeed : DeliverySpeed}
    (h : Charged order itemSubtotal deliverySpeed) (c : CurrencyCode) :
    Balanced c order ↔ toMinor itemSubtotal c = toMinor itemSubtotal .SAR * perHalala c := by
  obtain ⟨htotal, hfee, hprice, hdelivery⟩ := h.legs
  obtain ⟨fee, -, hserviceFee⟩ := serviceFeeFor_eq itemSubtotal
  obtain ⟨delivery, -, hdeliveryFee⟩ := deliveryFeeFor_eq (deliverySpeed = .fast)
  have hsar : (scaleFor .SAR : Int) = 100 := rfl
  have hsum : toMinor order.totalAmount c =
      (toMinor itemSubtotal .SAR + (delivery * 100 + fee * 100)) * perHalala c := by
    rw [h.totalAmount, addMoney, toMinor_fromMinor_SAR, hserviceFee, hdeliveryFee]
    simp only [List.map_cons, List.map_nil, List.sum_cons, List.sum_nil, add_zero, toMinor_intCast, hsar]
  unfold Balanced
  dsimp only
  rw [htotal, hfee, hprice, hdelivery, hsum, h.serviceFee, h.productPrice, h.deliveryFee, hserviceFee, hdeliveryFee,
    toMinor_intCast, toMinor_intCast, scaleFor_eq]
  constructor
  · intro heq
    linarith [heq]
  · intro heq
    rw [heq]
    ring

/-- In halalas they always do. -/
theorem Charged.balanced_SAR {order : Order} {itemSubtotal : Number} {deliverySpeed : DeliverySpeed}
    (h : Charged order itemSubtotal deliverySpeed) : Balanced .SAR order :=
  (h.balanced_iff .SAR).mpr (mul_one _).symm

/-! ### What a checkout stores -/

theorem except_bind_eq_ok {ε α β : Type} {x : Except ε α} {f : α → Except ε β} {b : β} :
    (x >>= f) = .ok b ↔ ∃ a, x = .ok a ∧ f a = .ok b := by
  cases x with
  | error e => exact ⟨nofun, fun ⟨_, h, _⟩ => nomatch h⟩
  | ok a => exact ⟨fun h => ⟨a, rfl, h⟩, fun ⟨_, h, h'⟩ => Except.ok.inj h ▸ h'⟩

/-- The catalog row a request names. -/
def Names (m : Market) (body : CreateOrderInput) (product : Product) : Prop :=
  ∃ id, id ≠ "" ∧ body.productId = some id ∧ m.product id = some product

theorem checkAvailability_ok {m : Market} {body : CreateOrderInput} {product : Option Product}
    (h : checkAvailability m body.productId = .ok product) : ∀ p, Names m body p ↔ product = some p := by
  intro p
  unfold checkAvailability at h
  split at h
  · rename_i hnone
    cases h
    constructor
    · rintro ⟨id, hne, hid, -⟩
      simp [hid, hne] at hnone
    · rintro ⟨⟩
  · rename_i id hsome
    obtain ⟨hid, hne⟩ := Option.filter_eq_some_iff.mp hsome
    simp only [decide_eq_true_eq] at hne
    split at h
    · cases h
    · rename_i found hfound
      split at h
      · cases h
      · split at h
        · cases h
        · cases h
          constructor
          · rintro ⟨id', -, hid', hproduct⟩
            obtain rfl := Option.some.inj (hid.symm.trans hid')
            rw [← hproduct, hfound]
          · rintro ⟨⟩
            exact ⟨id, hne, hid, hfound⟩

section Create

variable [Cities] [Numerals]

/-- What a stored order says of its request. -/
structure Stored (m : Market) (body : CreateOrderInput) (order : Order) (product : Option Product)
    (itemSubtotal : Number) (deliverySpeed : DeliverySpeed) : Prop where
  available : checkAvailability m body.productId = .ok product
  priced : resolveSubtotal body product = .ok itemSubtotal
  timed : resolveDeliverySpeed body = .ok deliverySpeed
  linked : order.storeId = resolveStoreId body product
  listed : order.productId = trimOrNull body.productId
  currency : trimOrNull body.currency ≠ none ∧
    order.currency = ((trimOrNull body.currency).map Settlement.toUpperCase).getD ""
  charged : Charged order itemSubtotal deliverySpeed

omit [Cities] in
theorem resolveSubtotal_nonneg {body : CreateOrderInput} {product : Option Product} {itemSubtotal : Number}
    (h : resolveSubtotal body product = .ok itemSubtotal) : 0 ≤ itemSubtotal := by
  unfold resolveSubtotal at h
  split at h
  · cases h
  · split at h
    · cases h
    · rename_i hneg
      cases h
      exact not_lt.mp hneg

omit [Cities] [Numerals] in
theorem draft_currency {body : CreateOrderInput} {draft : OrderDraft} (h : body.draft = .ok draft) :
    trimOrNull body.currency ≠ none ∧
      draft.currency = ((trimOrNull body.currency).map Settlement.toUpperCase).getD "" := by
  unfold CreateOrderInput.draft at h
  split at h
  · rename_i hcurrency _ _
    cases h
    simp [hcurrency]
  · cases h

theorem create_ok {m : Market} {body : CreateOrderInput} {viewerUserId : String} {candidates : List String}
    {order : Order} (h : create m body viewerUserId candidates = .ok order) :
    ∃ product itemSubtotal deliverySpeed, Stored m body order product itemSubtotal deliverySpeed := by
  simp only [create, except_bind_eq_ok] at h
  obtain ⟨media, -, draft, hdraft, deliverySpeed, hspeed, -, -, receiver, -, -, -, product, hproduct, itemSubtotal,
    hsubtotal, orderNumber, -, horder⟩ := h
  cases horder
  exact ⟨product, itemSubtotal, deliverySpeed, hproduct, hsubtotal, hspeed, rfl, rfl, draft_currency hdraft,
    ⟨resolveSubtotal_nonneg hsubtotal, rfl, rfl, rfl, rfl⟩⟩

/-! ### The decision of the server -/

/-- The minor units an order is counted in: those of its currency, of `DEFAULT_CURRENCY` outside the registry. -/
def registryCurrency : String → CurrencyCode
  | "AED" => .AED
  | "QAR" => .QAR
  | "BHD" => .BHD
  | "KWD" => .KWD
  | "OMR" => .OMR
  | _ => .SAR

/-- The amounts an order is charged and posted with. -/
def Order.charges (order : Order) : Number × Number × Number × Number :=
  (order.productPrice, order.serviceFee, order.deliveryFee, order.totalAmount)

/-- Money and payee of an accepted request are decided by the server. -/
structure DecidedByServer (m : Market) (body : CreateOrderInput) (order : Order) : Prop where
  /-- Whoever orders the same product row at the same speed is charged the same. -/
  charges : ∀ product, Names m body product → ∀ m' body' viewerUserId' candidates' order',
    create m' body' viewerUserId' candidates' = .ok order' → Names m' body' product →
      resolveDeliverySpeed body' = resolveDeliverySpeed body → order'.charges = order.charges
  store : ∀ product, Names m body product → order.storeId = some product.storeId
  payable : ∀ product, Names m body product → ∀ leg ∈ buildOrderLedgerEntries order,
    leg.reasonCode = "MERCHANT_PAYABLE" → leg.storeId = some product.storeId
  balanced : Balanced (registryCurrency order.currency) order

/-- A request for a product names no store, or the product's own. -/
def OwnStore (m : Market) (body : CreateOrderInput) : Prop :=
  ∀ product, Names m body product → trimOrNull body.storeId = none ∨ trimOrNull body.storeId = some product.storeId

/-- The item price has no third decimal where the currency of the request counts three. -/
def WholeInHalalas (m : Market) (body : CreateOrderInput) : Prop :=
  let c := registryCurrency (((trimOrNull body.currency).map Settlement.toUpperCase).getD "")
  ∀ product itemSubtotal, checkAvailability m body.productId = .ok product →
    resolveSubtotal body product = .ok itemSubtotal →
      toMinor itemSubtotal c = toMinor itemSubtotal .SAR * perHalala c

omit [Cities] [Numerals] in
theorem leg_storeId {order : Order} {leg : OrderLeg} (h : leg ∈ buildOrderLedgerEntries order) :
    leg.storeId = order.storeId := by
  simp only [buildOrderLedgerEntries, List.mem_append, List.mem_singleton] at h
  rcases h with ((rfl | h) | h) | h
  · rfl
  all_goals
    split at h
    · rw [List.mem_singleton.mp h]
    · cases h

section Request

variable {m : Market} {body : CreateOrderInput} {order : Order} {product : Option Product} {itemSubtotal : Number}
  {deliverySpeed : DeliverySpeed}

omit [Cities] in
theorem Stored.charges (h : Stored m body order product itemSubtotal deliverySpeed) {p : Product}
    (hp : product = some p) : order.charges =
      (p.price, serviceFeeFor p.price, deliveryFeeFor (deliverySpeed = .fast),
        addMoney [p.price, deliveryFeeFor (deliverySpeed = .fast), serviceFeeFor p.price]) := by
  have hprice : itemSubtotal = p.price := by
    have hpriced := h.priced
    subst hp
    simp only [resolveSubtotal, Option.map_some, Option.some_or] at hpriced
    split at hpriced
    · cases hpriced
    · exact (Except.ok.inj hpriced).symm
  rw [Order.charges, h.charged.productPrice, h.charged.serviceFee, h.charged.deliveryFee, h.charged.totalAmount,
    hprice]

omit [Cities] in
theorem Stored.store_iff (h : Stored m body order product itemSubtotal deliverySpeed) {p : Product}
    (hp : product = some p) : order.storeId = some p.storeId ↔
      trimOrNull body.storeId = none ∨ trimOrNull body.storeId = some p.storeId := by
  rw [h.linked, resolveStoreId, hp]
  cases trimOrNull body.storeId with
  | none => simp
  | some storeId => simp

end Request

/-- **Money and payee of an order.**  The legs of every accepted order allocate the captured total in halalas. Who is
paid is decided by the server exactly when the request names no store but the product's own; and in the minor units of
a currency of three decimals the legs allocate the total exactly when the item price has no third decimal. -/
theorem decidedByServer_iff {m : Market} {body : CreateOrderInput} {viewerUserId : String} {candidates : List String}
    {order : Order} (h : create m body viewerUserId candidates = .ok order) :
    Balanced .SAR order ∧ (DecidedByServer m body order ↔ OwnStore m body ∧ WholeInHalalas m body) := by
  obtain ⟨product, itemSubtotal, deliverySpeed, hstored⟩ := create_ok h
  have hnames := checkAvailability_ok hstored.available
  have hwhole : Balanced (registryCurrency order.currency) order ↔ WholeInHalalas m body := by
    rw [hstored.charged.balanced_iff, hstored.currency.2]
    constructor
    · intro hscale product' itemSubtotal' hproduct' hsubtotal'
      obtain rfl := Except.ok.inj (hstored.available.symm.trans hproduct')
      obtain rfl := Except.ok.inj (hstored.priced.symm.trans hsubtotal')
      exact hscale
    · intro hall
      exact hall product itemSubtotal hstored.available hstored.priced
  refine ⟨hstored.charged.balanced_SAR, fun hdecided => ⟨fun p hp => ?_, hwhole.mp hdecided.balanced⟩, ?_⟩
  · exact (hstored.store_iff ((hnames p).mp hp)).mp (hdecided.store p hp)
  · rintro ⟨hown, hscale⟩
    have hstore : ∀ p, Names m body p → order.storeId = some p.storeId := fun p hp =>
      (hstored.store_iff ((hnames p).mp hp)).mpr (hown p hp)
    refine ⟨?_, hstore, ?_, hwhole.mpr hscale⟩
    · intro p hp m' body' viewerUserId' candidates' order' h' hp' hspeed'
      obtain ⟨product', itemSubtotal', deliverySpeed', hstored'⟩ := create_ok h'
      have hsame : deliverySpeed' = deliverySpeed := by
        rw [hstored'.timed, hstored.timed] at hspeed'
        exact Except.ok.inj hspeed'
      rw [hstored'.charges ((checkAvailability_ok hstored'.available p).mp hp'),
        hstored.charges ((hnames p).mp hp), hsame]
    · intro p hp leg hleg _
      rw [leg_storeId hleg, hstore p hp]

end Create

/-! ### A redirected payee -/

namespace Pilot

/-- Place names are compared as they are written. -/
@[reducible] def plainCities : Cities := ⟨id, Settlement.toUpperCase⟩

/-- No text is read as a number. -/
@[reducible] def noNumerals : Numerals := ⟨fun _ => none⟩

/-- A table of given rows. -/
def tableOf {ρ : Type} {key : ρ → String} (rows : List ρ) : Table key :=
  rows.foldl (fun t r => (t.create r).getD t) Table.empty

/-- Two stores, a product of the first, and a receiver with a default address. -/
def market : Market where
  users := tableOf
    [{ id := "u1", qiftUsername := "sara", deletedAt := none },
      { id := "u2", qiftUsername := "noor", deletedAt := none }]
  addresses := tableOf
    [{ id := "a1", userId := "u2", country := "SA", region := none, city := "Riyadh", district := "Olaya",
       isDefault := true }]
  stores := tableOf
    [{ id := "s1", status := "approved", city := "Riyadh", category := "gifts", deliveryZones := .null },
      { id := "s2", status := "approved", city := "Jeddah", category := "gifts", deliveryZones := .null }]
  products := tableOf
    [{ id := "p1", storeId := "s1", price := 100, isAvailable := true, stockStatus := "in_stock",
       category := "gifts", isFastDelivery := false }]
  orders := Table.empty

/-- A request for the product that names a store. -/
def ordering (storeId : Option String) : CreateOrderInput where
  receiverUsername := some "noor"
  productName := some "Oud"
  storeName := some "First"
  currency := some "SAR"
  country := some "SA"
  paymentProvider := some "mada"
  productId := some "p1"
  storeId := storeId

/-- What the checkout stores for that request. -/
def ordered (storeId : Option String) : Except Err Order :=
  let _ := plainCities
  let _ := noNumerals
  create market (ordering storeId) "u1" ["QP-1"]

end Pilot

namespace Pilot

theorem names (storeId : Option String) {product : Product} (h : Names market (ordering storeId) product) :
    product.storeId = "s1" ∧ product.price = 100 := by
  obtain ⟨id, -, hid, hproduct⟩ := h
  obtain rfl := Option.some.inj hid
  obtain rfl := Option.some.inj hproduct
  exact ⟨rfl, rfl⟩

theorem named (storeId : Option String) : ∃ product, Names market (ordering storeId) product :=
  ⟨_, "p1", by decide, rfl, rfl⟩

end Pilot

theorem decidedByServer_iff_own :
    ∃ order, Pilot.ordered none = .ok order ∧
      @DecidedByServer Pilot.plainCities Pilot.noNumerals Pilot.market (Pilot.ordering none) order := by
  have hok : (Pilot.ordered none).toOption.isSome = true := by decide +kernel
  cases hordered : Pilot.ordered none with
  | error e => simp [hordered, Except.toOption] at hok
  | ok order =>
      refine ⟨order, rfl, (@decidedByServer_iff Pilot.plainCities Pilot.noNumerals _ _ _ _ _ hordered).2.mpr ⟨?_, ?_⟩⟩
      · exact fun product _ => .inl (by decide +kernel)
      · intro product itemSubtotal _ _
        have hcurrency : registryCurrency (((trimOrNull (Pilot.ordering none).currency).map
            Settlement.toUpperCase).getD "") = .SAR := by decide +kernel
        rw [hcurrency]
        exact (mul_one _).symm

/-- **A payee chosen by the client**: the product is the first store's, the merchant's leg is owed to the second. -/
theorem payee_redirected :
    ∃ order product, Pilot.ordered (some "s2") = .ok order ∧ Names Pilot.market (Pilot.ordering (some "s2")) product ∧
      product.storeId = "s1" ∧ order.storeId = some "s2" ∧
      ((buildOrderLedgerEntries order).filter fun l => l.reasonCode = "MERCHANT_PAYABLE").map OrderLeg.storeId =
        [some "s2"] ∧
      ¬ @DecidedByServer Pilot.plainCities Pilot.noNumerals Pilot.market (Pilot.ordering (some "s2")) order := by
  have hok : (Pilot.ordered (some "s2")).toOption.map (fun order => (order.storeId,
      ((buildOrderLedgerEntries order).filter fun l => l.reasonCode = "MERCHANT_PAYABLE").map OrderLeg.storeId)) =
        some (some "s2", [some "s2"]) := by decide +kernel
  cases hordered : Pilot.ordered (some "s2") with
  | error e => simp [hordered, Except.toOption] at hok
  | ok order =>
      simp only [hordered, Except.toOption, Option.map_some, Option.some.injEq, Prod.mk.injEq] at hok
      obtain ⟨product, hproduct⟩ := Pilot.named (some "s2")
      have hown := (Pilot.names _ hproduct).1
      refine ⟨order, product, rfl, hproduct, hown, hok.1, hok.2, fun hdecided => ?_⟩
      have hstore := @DecidedByServer.store Pilot.plainCities Pilot.noNumerals _ _ _ hdecided product hproduct
      rw [hok.1, hown] at hstore
      simp at hstore

end Qift.Market
