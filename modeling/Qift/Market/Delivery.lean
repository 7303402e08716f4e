import Qift.Market.Payee

/-!
# Delivering a gift

The three places that decide whether a gift can be delivered once its order was accepted.

* `confirmAddress` of `gifts.service.ts` up to its write: the address the receiver picks must lie in the zones of the
  store when the product is fast.
* `sweepChoice` of `gifts-auto-default.service.ts`: the address the sweep picks for an overdue gift.
* `canStoreDeliverToReceiver` of `users.service.ts`: the probe before payment, which goes by the category of the store.
* **`deliverable_iff`** — they agree that an ordered gift can be delivered exactly when its store exists and, where the
  product or the store is of a fast category, some address of the receiver lies in the store's zones.
-/

namespace Qift.Market

open Relational Shop

def FAST_DELIVERY_CATEGORIES : List String := ["flowers", "chocolate", "cake", "perishable"]

def isFastCategory (category : String) : Bool := FAST_DELIVERY_CATEGORIES.contains (Portal.toLowerCase category)

/-- The columns of a gift that decide its delivery. -/
structure GiftRefs where
  receiverId : String
  storeId : Option String
  productId : Option String

/-- The gift `GiftsService.create` makes of a request's store and product. -/
def giftRefs (receiverId : String) (storeId productId : Option String) (product : Option Product) : GiftRefs where
  receiverId := receiverId
  storeId := (trimOrNull storeId).or (product.map Product.storeId)
  productId := trimOrNull productId

/-- The gift a paid order becomes. -/
def Order.gift (order : Order) (receiverId : String) (product : Product) : GiftRefs :=
  giftRefs receiverId order.storeId order.productId (some product)

/-- What the matcher reads of an address. -/
def Address.scope (a : Address) : AddressScope where
  country := some a.country
  region := a.region
  city := some a.city
  district := some a.district

/-- The product of a gift decides whether it is fast; without a row it is not. -/
def isFastGift (m : Market) (gift : GiftRefs) : Bool :=
  (gift.productId.bind m.product).any fun p => p.isFastDelivery || isFastCategory p.category

def giftStore (m : Market) (gift : GiftRefs) : Option Store := (gift.storeId.filter fun id => id ≠ "").bind m.store

section Coverage

variable [Cities]

/-- A store delivers to an address. -/
def Store.covers (store : Store) (a : Address) : Bool :=
  matchAddressToStoreZones a.scope store.city store.deliveryZones true = .ok

/-! ### The receiver confirms -/

/-- The coverage gate of `confirmAddress`. -/
def coverageGate (m : Market) (gift : GiftRefs) (a : Address) : Except Err Address :=
  match giftStore m gift with
  | none => .ok a
  | some store =>
      if isFastGift m gift = true ∧ store.covers a = false then
        .error (.badRequest "address_unsupported_for_store")
      else .ok a

/-- `confirmAddress` up to its write; the default address stands for a missing choice. -/
def confirmAddress (m : Market) (gift : GiftRefs) (viewerUserId : String) (addressId : Option String) :
    Except Err Address :=
  if gift.receiverId ≠ viewerUserId then .error (.forbidden FORBIDDEN_MSG)
  else
    match addressId with
    | some id =>
        match (m.addressesOf viewerUserId).find? fun a => a.id = id with
        | none => .error (.badRequest "العنوان غير موجود أو لا يخصك")
        | some owned => coverageGate m gift owned
    | none =>
        match m.defaultAddress viewerUserId with
        | none => .error (.badRequest "لا يوجد عنوان افتراضي لتأكيده")
        | some default => coverageGate m gift default

/-! ### The sweep -/

inductive SweepChoice
  | skipped
  | promoted (a : Address)
  | blocked
  deriving DecidableEq

/-- The saved addresses, the default first, then by identifier. -/
def sweepOrder (a b : Address) : Prop := (a.isDefault = true ∧ b.isDefault = false) ∨
  (a.isDefault = b.isDefault ∧ a.id ≤ b.id)

instance (a b : Address) : Decidable (sweepOrder a b) := inferInstanceAs (Decidable (_ ∨ _))

/-- What `runOnce` decides for an overdue gift. -/
def sweepChoice (m : Market) (gift : GiftRefs) : SweepChoice :=
  match (m.addressesOf gift.receiverId).insertionSort sweepOrder with
  | [] => .skipped
  | first :: rest =>
      match isFastGift m gift, giftStore m gift with
      | true, some store =>
          match (first :: rest).find? store.covers with
          | some a => .promoted a
          | none => .blocked
      | _, _ => .promoted first

/-! ### The probe -/

def canStoreDeliverToReceiver (m : Market) (receiverId storeId : String) : Bool :=
  if storeId = "" then false
  else
    match m.store storeId with
    | none => false
    | some store =>
        let addresses := m.addressesOf receiverId
        if addresses = [] then false
        else if isFastCategory store.category = false then true
        else addresses.any store.covers

/-! ### Agreement -/

/-- A gift can be delivered: the receiver may confirm some saved address, the sweep picks one, and the probe says so
exactly when there is one. -/
structure Deliverable (before m : Market) (gift : GiftRefs) : Prop where
  confirmable : ∃ a ∈ m.addressesOf gift.receiverId, confirmAddress m gift gift.receiverId (some a.id) = .ok a
  swept : ∃ a, sweepChoice m gift = .promoted a
  probed : canStoreDeliverToReceiver before gift.receiverId (gift.storeId.getD "") = true ↔
    ∃ a ∈ m.addressesOf gift.receiverId, confirmAddress m gift gift.receiverId (some a.id) = .ok a

/-- The store of a gift exists; where its product or its store is fast, some saved address lies in the zones. -/
def Reached (m : Market) (gift : GiftRefs) : Prop :=
  ∃ store, giftStore m gift = some store ∧
    ((isFastGift m gift || isFastCategory store.category) = true →
      ∃ a ∈ m.addressesOf gift.receiverId, store.covers a = true)

/-- The columns of a store that say where it delivers. -/
def Store.zones (store : Store) : String × Json := (store.city, store.deliveryZones)

/-- What delivery depends on did not change. -/
structure SameDelivery (before m : Market) (gift : GiftRefs) : Prop where
  addresses : m.addressesOf gift.receiverId = before.addressesOf gift.receiverId
  product : gift.productId.bind m.product = gift.productId.bind before.product
  zones : (giftStore m gift).map Store.zones = (giftStore before gift).map Store.zones

/-- The gate lets an address through: no store refuses a fast gift there. -/
def GateOpen (m : Market) (gift : GiftRefs) (a : Address) : Prop :=
  ∀ store, giftStore m gift = some store → isFastGift m gift = true → store.covers a = true

theorem coverageGate_ok {m : Market} {gift : GiftRefs} {a : Address} :
    coverageGate m gift a = .ok a ↔ GateOpen m gift a := by
  unfold coverageGate GateOpen
  cases hstore : giftStore m gift with
  | none => simp
  | some store =>
      simp only [Option.some.injEq, forall_eq']
      split
      · rename_i hrefused
        simp [hrefused.1, hrefused.2]
      · rename_i hopen
        simp only [true_iff]
        intro hfast
        by_contra hcovers
        exact hopen ⟨hfast, by simpa using hcovers⟩

omit [Cities] in
/-- A saved address is found under its identifier. -/
theorem find_address {m : Market} {userId : String} {a : Address} (ha : a ∈ m.addressesOf userId) :
    ((m.addressesOf userId).find? fun x => x.id = a.id) = some a := by
  have hnodup : ((m.addressesOf userId).map Address.id).Nodup :=
    (List.filter_sublist.map Address.id).nodup m.addresses.nodup
  cases hfound : (m.addressesOf userId).find? fun x => x.id = a.id with
  | none =>
      have hnone := List.find?_eq_none.mp hfound a ha
      simp at hnone
  | some x =>
      have hx := List.mem_of_find?_eq_some hfound
      have hid := List.find?_some hfound
      simp only [decide_eq_true_eq] at hid
      rw [List.inj_on_of_nodup_map hnodup hx ha hid]

theorem confirmAddress_ok {m : Market} {gift : GiftRefs} {a : Address} (ha : a ∈ m.addressesOf gift.receiverId) :
    confirmAddress m gift gift.receiverId (some a.id) = .ok a ↔ GateOpen m gift a := by
  rw [confirmAddress, if_neg (fun h => h rfl), find_address ha]
  exact coverageGate_ok

/-- Some saved address is let through. -/
def Confirmable (m : Market) (gift : GiftRefs) : Prop := ∃ a ∈ m.addressesOf gift.receiverId, GateOpen m gift a

theorem confirmable_iff {m : Market} {gift : GiftRefs} :
    (∃ a ∈ m.addressesOf gift.receiverId, confirmAddress m gift gift.receiverId (some a.id) = .ok a) ↔
      Confirmable m gift :=
  exists_congr fun _ => and_congr_right confirmAddress_ok

/-- The sweep picks an address exactly when one is let through. -/
theorem sweepChoice_promoted {m : Market} {gift : GiftRefs} :
    (∃ a, sweepChoice m gift = .promoted a) ↔ Confirmable m gift := by
  have hmem (a : Address) : a ∈ (m.addressesOf gift.receiverId).insertionSort sweepOrder ↔
      a ∈ m.addressesOf gift.receiverId := List.mem_insertionSort _
  unfold sweepChoice
  cases hsorted : (m.addressesOf gift.receiverId).insertionSort sweepOrder with
  | nil =>
      rw [hsorted] at hmem
      simp [Confirmable, ← hmem]
  | cons first rest =>
      rw [hsorted] at hmem
      dsimp only
      have hfirst := (hmem first).mp List.mem_cons_self
      split
      · -- a fast gift of a store: the first covered address
        rename_i store hfast hstore
        have hopen (a : Address) : GateOpen m gift a ↔ store.covers a = true := by
          simp [GateOpen, hstore, hfast]
        cases hfound : (first :: rest).find? store.covers with
        | none =>
            have hnone := List.find?_eq_none.mp hfound
            constructor
            · rintro ⟨a, ⟨⟩⟩
            · rintro ⟨a, ha, hgate⟩
              exact absurd ((hopen a).mp hgate) (hnone a ((hmem a).mpr ha))
        | some a =>
            have ha := (hmem a).mp (List.mem_of_find?_eq_some hfound)
            exact ⟨fun _ => ⟨a, ha, (hopen a).mpr (List.find?_some hfound)⟩, fun _ => ⟨a, rfl⟩⟩
      · rename_i hplain
        refine ⟨fun _ => ⟨first, hfirst, fun store hstore hfast => ?_⟩, fun _ => ⟨first, rfl⟩⟩
        exact absurd hstore (hplain store hfast)

theorem canStoreDeliverToReceiver_iff {m : Market} {gift : GiftRefs} (hsaved : m.addressesOf gift.receiverId ≠ []) :
    canStoreDeliverToReceiver m gift.receiverId (gift.storeId.getD "") = true ↔
      ∃ store, giftStore m gift = some store ∧ (isFastCategory store.category = true →
        ∃ a ∈ m.addressesOf gift.receiverId, store.covers a = true) := by
  unfold canStoreDeliverToReceiver giftStore
  cases hid : gift.storeId with
  | none => simp
  | some id =>
      by_cases hempty : id = ""
      · simp [hempty, Option.filter]
      · cases hstore : m.store id with
        | none => simp [hempty, hstore, Option.filter]
        | some store =>
            cases hcategory : isFastCategory store.category with
            | false => simp [hempty, hstore, hsaved, hcategory, Option.filter]
            | true => simp [hempty, hstore, hsaved, hcategory, Option.filter]

omit [Cities] in
theorem SameDelivery.isFastGift {before m : Market} {gift : GiftRefs} (h : SameDelivery before m gift) :
    isFastGift m gift = isFastGift before gift := by
  unfold Market.isFastGift
  rw [h.product]

theorem covers_congr {store store' : Store} (h : store.zones = store'.zones) (a : Address) :
    store.covers a = store'.covers a := by
  obtain ⟨hcity, hzones⟩ := Prod.mk.inj h
  rw [Store.covers, Store.covers, hcity, hzones]

theorem SameDelivery.confirmable {before m : Market} {gift : GiftRefs} (h : SameDelivery before m gift) :
    Confirmable m gift ↔ Confirmable before gift := by
  unfold Confirmable GateOpen
  rw [h.addresses, h.isFastGift]
  have hzones := h.zones
  cases hafter : giftStore m gift with
  | none =>
      rw [hafter, Option.map_none, eq_comm, Option.map_eq_none_iff] at hzones
      rw [hzones]
  | some store =>
      rw [hafter, Option.map_some, eq_comm, Option.map_eq_some_iff] at hzones
      obtain ⟨store', hbefore, hsame⟩ := hzones
      simp only [hbefore, Option.some.injEq, forall_eq', covers_congr hsame]

theorem deliverable_iff_reached {before m : Market} {gift : GiftRefs}
    (hsaved : before.addressesOf gift.receiverId ≠ []) (hsame : SameDelivery before m gift) :
    Deliverable before m gift ↔ Reached before gift := by
  have hconfirm : (∃ a ∈ m.addressesOf gift.receiverId, confirmAddress m gift gift.receiverId (some a.id) = .ok a) ↔
      Confirmable before gift := confirmable_iff.trans hsame.confirmable
  have hsweep : (∃ a, sweepChoice m gift = .promoted a) ↔ Confirmable before gift :=
    sweepChoice_promoted.trans hsame.confirmable
  have hprobe := canStoreDeliverToReceiver_iff hsaved
  constructor
  · intro h
    have hopen := hconfirm.mp h.confirmable
    obtain ⟨store, hstore, hcategory⟩ := hprobe.mp (h.probed.mpr h.confirmable)
    refine ⟨store, hstore, fun hfast => ?_⟩
    cases hcat : isFastCategory store.category with
    | true => exact hcategory hcat
    | false =>
        rw [hcat, Bool.or_false] at hfast
        obtain ⟨a, ha, hgate⟩ := hopen
        exact ⟨a, ha, hgate store hstore hfast⟩
  · rintro ⟨store, hstore, hreached⟩
    have hopen : Confirmable before gift := by
      cases hfast : Market.isFastGift before gift with
      | true =>
          obtain ⟨a, ha, hcovers⟩ := hreached (by rw [hfast, Bool.true_or])
          refine ⟨a, ha, fun store' hstore' _ => ?_⟩
          obtain rfl := Option.some.inj (hstore.symm.trans hstore')
          exact hcovers
      | false =>
          obtain ⟨a, ha⟩ := List.exists_mem_of_ne_nil _ hsaved
          exact ⟨a, ha, fun _ _ hfast' => absurd hfast' (by simp [hfast])⟩
    have hprobed := hprobe.mpr ⟨store, hstore, fun hcat => hreached (by rw [hcat, Bool.or_true])⟩
    exact ⟨hconfirm.mpr hopen, hsweep.mpr hopen, fun _ => hconfirm.mpr hopen, fun _ => hprobed⟩

/-! ### Ordered gifts -/

/-- The standing account of a user name. -/
def receiverOf (m : Market) (username : String) : Option User :=
  m.users.rows.find? fun u => u.qiftUsername = username ∧ u.deletedAt = none

def requestGift (body : CreateOrderInput) (receiverId : String) (product : Product) : GiftRefs :=
  giftRefs receiverId (resolveStoreId body (some product)) (trimOrNull body.productId) (some product)

omit [Cities] in
theorem checkReceiver_ok {m : Market} {viewerUserId username : String} {receiver : User}
    (h : checkReceiver m viewerUserId username = .ok receiver) :
    receiverOf m username = some receiver ∧ m.addressesOf receiver.id ≠ [] := by
  unfold checkReceiver at h
  split at h
  · cases h
  · split at h
    · cases h
    · split at h
      · cases h
      · rename_i found hfound
        split at h
        · cases h
        · rename_i hdefault
          cases h
          refine ⟨hfound, fun hnone => hdefault ?_⟩
          simp [defaultAddress, hnone]

variable [Numerals]

theorem create_receiver {m : Market} {body : CreateOrderInput} {viewerUserId : String} {candidates : List String}
    {order : Order} (h : create m body viewerUserId candidates = .ok order) :
    ∃ receiver, receiverOf m order.receiverUsername = some receiver ∧ m.addressesOf receiver.id ≠ [] := by
  simp only [create, except_bind_eq_ok] at h
  obtain ⟨media, -, draft, -, deliverySpeed, -, -, -, receiver, hreceiver, -, -, product, -, itemSubtotal, -,
    orderNumber, -, horder⟩ := h
  cases horder
  exact ⟨receiver, checkReceiver_ok hreceiver⟩

/-- **Paid gifts that can be delivered.**  As long as the receiver's addresses, the product and the store stay as they
were, the gift of an accepted order for a catalog product can be delivered, and the probe agrees, exactly when the
ordered store exists and, where product or store is of a fast category, some saved address lies in its zones. -/
theorem deliverable_iff {before m : Market} {body : CreateOrderInput} {viewerUserId : String}
    {candidates : List String} {order : Order} {receiver : User} {product : Product}
    (h : create before body viewerUserId candidates = .ok order) (hproduct : Names before body product)
    (hreceiver : receiverOf before order.receiverUsername = some receiver)
    (hsame : SameDelivery before m (order.gift receiver.id product)) :
    Deliverable before m (order.gift receiver.id product) ↔ Reached before (requestGift body receiver.id product) := by
  obtain ⟨receiver', hreceiver', hsaved⟩ := create_receiver h
  obtain rfl := Option.some.inj (hreceiver.symm.trans hreceiver')
  obtain ⟨product', itemSubtotal, deliverySpeed, hstored⟩ := create_ok h
  have hnamed := (checkAvailability_ok hstored.available product).mp hproduct
  have hgift : order.gift receiver.id product = requestGift body receiver.id product := by
    rw [Order.gift, requestGift, hstored.linked, hstored.listed, hnamed]
  rw [← hgift]
  exact deliverable_iff_reached hsaved hsame

end Coverage

/-! ### A paid gift nobody can deliver -/

namespace Pilot

/-- Flowers of a store that delivers in one city, for a receiver with one address. -/
def florist (city : String) : Market where
  users := market.users
  addresses := tableOf
    [{ id := "a1", userId := "u2", country := "SA", region := none, city := city, district := "Olaya",
       isDefault := true }]
  stores := tableOf
    [{ id := "s1", status := "approved", city := "Riyadh", category := "flowers"
       deliveryZones := .arr [.obj [("city", .str "Riyadh")]] }]
  products := tableOf
    [{ id := "p1", storeId := "s1", price := 100, isAvailable := true, stockStatus := "in_stock",
       category := "flowers", isFastDelivery := true }]
  orders := Table.empty

def flowers (city : String) : Except Err Order :=
  let _ := plainCities
  let _ := noNumerals
  create (florist city) (ordering none) "u1" ["QP-1"]

/-- The gift of the order. -/
def bouquet : GiftRefs where
  receiverId := "u2"
  storeId := some "s1"
  productId := some "p1"

theorem flowers_ordered {city : String}
    (hok : (flowers city).toOption.map (fun o => (o.storeId, o.productId, o.receiverUsername)) =
      some (some "s1", some "p1", "noor")) :
    ∃ (order : Order) (receiver : User) (product : Product), flowers city = .ok order ∧
      Names (florist city) (ordering none) product ∧
      receiverOf (florist city) order.receiverUsername = some receiver ∧ order.gift receiver.id product = bouquet ∧
      requestGift (ordering none) receiver.id product = bouquet := by
  cases hordered : flowers city with
  | error e => simp [hordered, Except.toOption] at hok
  | ok order =>
      simp only [hordered, Except.toOption, Option.map_some, Option.some.injEq, Prod.mk.injEq] at hok
      have hreceiver : receiverOf market "noor" = some { id := "u2", qiftUsername := "noor", deletedAt := none } := by
        decide +kernel
      have hstore : trimOrNull (some "s1") = some "s1" := by decide +kernel
      have hlisted : trimOrNull (some "p1") = some "p1" := by decide +kernel
      refine ⟨order, _, _, rfl, ⟨"p1", by decide, rfl, rfl⟩, hok.2.2 ▸ hreceiver, ?_, ?_⟩
      · rw [Order.gift, giftRefs, hok.1, hok.2.1, hstore, hlisted]
        rfl
      · show giftRefs "u2" (some "s1") (trimOrNull (some "p1")) _ = bouquet
        rw [giftRefs, hstore, hlisted, hlisted]
        rfl

end Pilot

theorem deliverable_iff_riyadh :
    ∃ (order : Order) (receiver : User) (product : Product), Pilot.flowers "Riyadh" = .ok order ∧
      @Deliverable Pilot.plainCities (Pilot.florist "Riyadh") (Pilot.florist "Riyadh")
        (order.gift receiver.id product) := by
  obtain ⟨order, receiver, product, hordered, hproduct, hreceiver, hgift, hrequest⟩ :=
    Pilot.flowers_ordered (by decide +kernel : (Pilot.flowers "Riyadh").toOption.map _ = _)
  refine ⟨order, receiver, product, hordered, ?_⟩
  refine (@deliverable_iff Pilot.plainCities Pilot.noNumerals _ (Pilot.florist "Riyadh") _ _ _ _ _ _ hordered hproduct
    hreceiver ⟨rfl, rfl, rfl⟩).mpr ?_
  rw [hrequest]
  refine ⟨{ id := "s1", status := "approved", city := "Riyadh", category := "flowers"
            deliveryZones := .arr [.obj [("city", .str "Riyadh")]] }, rfl, fun _ => ?_⟩
  exact ⟨{ id := "a1", userId := "u2", country := "SA", region := none, city := "Riyadh", district := "Olaya",
           isDefault := true }, by decide +kernel, by decide +kernel⟩

/-- **A paid gift nobody can deliver**: the request does not say that flowers are fast, so no gate asks for the city;
the receiver's only address is refused and the sweep reports the gift blocked. -/
theorem undeliverable_bouquet :
    ∃ (order : Order) (receiver : User) (product : Product), Pilot.flowers "Jeddah" = .ok order ∧
      Names (Pilot.florist "Jeddah") (Pilot.ordering none) product ∧
      receiverOf (Pilot.florist "Jeddah") order.receiverUsername = some receiver ∧
      @sweepChoice Pilot.plainCities (Pilot.florist "Jeddah") (order.gift receiver.id product) = .blocked ∧
      ¬ @Deliverable Pilot.plainCities (Pilot.florist "Jeddah") (Pilot.florist "Jeddah")
        (order.gift receiver.id product) := by
  obtain ⟨order, receiver, product, hordered, hproduct, hreceiver, hgift, -⟩ :=
    Pilot.flowers_ordered (by decide +kernel : (Pilot.flowers "Jeddah").toOption.map _ = _)
  have hblocked : @sweepChoice Pilot.plainCities (Pilot.florist "Jeddah") Pilot.bouquet = .blocked := by decide +kernel
  refine ⟨order, receiver, product, hordered, hproduct, hreceiver, hgift ▸ hblocked, fun hdeliverable => ?_⟩
  obtain ⟨a, ha⟩ := @Deliverable.swept Pilot.plainCities _ _ _ hdeliverable
  rw [hgift, hblocked] at ha
  cases ha

end Qift.Market
