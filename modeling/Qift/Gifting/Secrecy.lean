import Qift.Gifting.Walls
import Qift.Market.Payee
import Qift.Runtime

/-!
# What a gift keeps from its parties

Two-run statements about the gift service, for every sequence of requests.

* **`address_unseen`** — two databases that differ in the saved addresses of one account, no coverage gate telling
  them apart, answer everybody else alike and hand out the same notices.  `city_seen` — the verdicts of the zones are
  not enough: a request for the same day compares a city its sender names.
* **`surprise_kept_iff`** — a gift that has not been delivered keeps its secret from the receiver exactly when the
  references to product, store and occasion and the digest of the request are the same in both runs: the masks scrub
  the names and leave those columns.  `surprise_seen` — they show the product of a surprise.
-/

namespace Qift.Gifting

open Relational Interleaving Variation

/-! ### Addresses -/

section Addresses

variable [Shop.Cities]

/-- Two databases that differ in the contents of the saved addresses of one account, at the same verdicts of the zones
of every store; no gift to somebody else is on its way to one of them. -/
structure OtherAddresses (receiverId : String) (s t : Gifting) : Prop where
  same : t = { s with addresses := t.addresses }
  alike : List.Forall₂ (AddressAlike (fun userId => userId = receiverId) s.stores) s.addresses.rows t.addresses.rows
  owned : ∀ g ∈ s.gifts.rows, ∀ id, g.addressId = some id → ∀ a, s.addresses.find id = some a →
    a.userId = receiverId → a.userId = g.receiverId

/-- No gift is hidden; the addresses of one account are. -/
@[reducible] def OtherAddresses.variation {receiverId : String} {s t : Gifting} (h : OtherAddresses receiverId s t) :
    Variation where
  hides := fun _ => False
  veils := fun _ _ => False
  party := fun _ => False
  discreet := fun _ => False
  moved := fun userId => userId = receiverId
  watched := fun _ => true
  stores := s.stores
  addresses := s.addresses
  addresses' := t.addresses
  alike := h.alike
  anonymous := fun _ _ hveils => hveils.elim
  quiet := fun _ _ hhides => hhides.elim
  silent := fun _ hparty => hparty.elim

theorem OtherAddresses.twins {receiverId : String} {s t : Gifting} (h : OtherAddresses receiverId s t) :
    h.variation.Twins nothingKnown s t where
  same := by
    have hsame := h.same
    show t = { s with addresses := t.addresses, gifts := t.gifts, notifications := t.notifications }
    have hgifts : t.gifts = s.gifts := by rw [hsame]
    have hnotifications : t.notifications = s.notifications := by rw [hsame]
    rw [hgifts, hnotifications]
    exact hsame
  addresses := rfl
  stores := rfl
  gifts := by
    have hgifts : t.gifts = s.gifts := by rw [h.same]
    rw [hgifts]
    refine List.forall₂_same.mpr fun g hg => RowAlike.refl fun id hid a ha hmoved => ?_
    exact h.owned g hg id hid a ha hmoved
  told := by
    have hnotifications : t.notifications = s.notifications := by rw [h.same]
    rw [hnotifications]
  posts := fun _ _ hdiscreet => hdiscreet.elim
  known := fun _ _ _ hk => hk.elim

variable [Runtime]

/-- **Nobody but the receiver learns anything of the receiver's addresses**: every answer and every notice is the same,
whatever they are, as long as no coverage gate tells them apart. -/
theorem address_unseen {receiverId : String} {s t : Gifting} (h : OtherAddresses receiverId s t) {cs : List Call}
    (hcs : ∀ c ∈ cs, SameGate s.addresses t.addresses c) {c : Call} (hc : SameGate s.addresses t.addresses c)
    (hviewer : c.viewer ≠ some receiverId) :
    ((program c).exec (runCalls program s cs)).1 = ((program c).exec (runCalls program t cs)).1 ∧
      ((program c).exec (runCalls program s cs)).2.notifications =
        ((program c).exec (runCalls program t cs)).2.notifications := by
  have hlast : h.variation.Lasting := ⟨fun _ => ⟨fun _ hhides => hhides.elim, fun _ _ hveils => hveils.elim⟩,
    fun _ _ _ hhides => hhides.elim, fun _ _ _ _ hveils => hveils.elim⟩
  have hadmits {c : Call} (hgate : SameGate s.addresses t.addresses c) : h.variation.Admits c :=
    ⟨hgate, fun _ _ hparty => hparty⟩
  have hrun := runCalls_agrees (fun c hc => program_agrees hlast (hadmits (hcs c hc))) h.twins
  have hblind (v : String) (hv : c.viewer = some v) : h.variation.Blind v :=
    ⟨fun hmoved => hviewer (hv.trans (congrArg some hmoved)), fun _ hhides => hhides.elim⟩
  constructor
  · exact program_answers hlast (hadmits hc) hrun hblind fun _ _ => ⟨fun hhides => hhides, fun _ hveils => hveils.elim⟩
  · have htold := (program_agrees hlast (hadmits hc) _ _ hrun).2.told
    rwa [List.filter_eq_self.mpr fun _ _ => rfl, List.filter_eq_self.mpr fun _ _ => rfl] at htold

/-! ### An address book in two cities -/

namespace Pilot

/-- Omar's address, and a store in Dammam. -/
def town (city : String) (street : Option String) : Gifting :=
  { empty with
    users := [⟨"u1", "sara", none, none⟩, ⟨"u2", "omar", none, none⟩]
    addresses := ⟨[{ id := "a1", userId := "u2", label := none, country := "SA", region := none, city := city,
                     governorate := none, district := "Olaya", street := street, buildingNumber := none,
                     unitNumber := none, postalCode := none, additionalNumber := none, shortAddress := none,
                     deliveryPhone := none, details := none, isDefault := true }], by simp⟩
    stores := ⟨[⟨"s1", "u3", "approved", "Dammam", .null⟩], by simp⟩ }

/-- Sara sends Omar flowers; a request for the same day names the city of the store. -/
def flowers (sameDay : Bool) : Call :=
  .create
    { receiverUsername := some "omar", productName := some "roses", storeName := some "florist"
      isFastDelivery := sameDay, storeCity := some "Riyadh" } "u1" none ["QF-1"] "g1"

omit [Shop.Cities] [Runtime] in
theorem otherStreet : @OtherAddresses Market.Pilot.plainCities "u2" (town "Riyadh" (some "King Fahd Road"))
    (town "Riyadh" (some "Olaya Street")) := by
  let _ := Market.Pilot.plainCities
  exact ⟨rfl, .cons ⟨rfl, rfl, rfl, fun hother => absurd rfl hother, fun _ _ => rfl⟩ .nil, fun _ hg => by cases hg⟩

omit [Shop.Cities] [Runtime] in
theorem otherCity : @OtherAddresses Market.Pilot.plainCities "u2" (town "Riyadh" none) (town "Jeddah" none) := by
  let _ := Market.Pilot.plainCities
  refine ⟨rfl, .cons ⟨rfl, rfl, rfl, fun hother => absurd rfl hother, fun store hstore => ?_⟩ .nil,
    fun _ hg => by cases hg⟩
  rw [List.mem_singleton.mp hstore]
  decide +kernel

end Pilot

omit [Shop.Cities] [Runtime] in
/-- Omar confirms the gift in either street; Sara sees the same. -/
theorem address_unseen_street :
    ((@program Market.Pilot.plainCities plainRuntime (.findOne "g1" "u1")).exec
        (runCalls (@program Market.Pilot.plainCities plainRuntime) (Pilot.town "Riyadh" (some "King Fahd Road"))
          [Pilot.flowers false, .confirmAddress "g1" "u2" none])).1 =
      ((@program Market.Pilot.plainCities plainRuntime (.findOne "g1" "u1")).exec
        (runCalls (@program Market.Pilot.plainCities plainRuntime) (Pilot.town "Riyadh" (some "Olaya Street"))
          [Pilot.flowers false, .confirmAddress "g1" "u2" none])).1 := by
  refine (@address_unseen Market.Pilot.plainCities plainRuntime "u2" _ _ Pilot.otherStreet _ (fun c hc => ?_)
    (.findOne "g1" "u1") trivial (by decide)).1
  rcases List.mem_cons.mp hc with rfl | hc
  · intro hfast
    cases hfast
  · rw [List.mem_singleton.mp hc]
    trivial

omit [Shop.Cities] [Runtime] in
/-- **The sender learns the receiver's city**: no zone tells the two address books apart, but a request for the same day
is accepted in the city it names and refused elsewhere. -/
theorem city_seen : ∃ receiverId s t c, @OtherAddresses Market.Pilot.plainCities receiverId s t ∧
    c.viewer = some "u1" ∧ receiverId ≠ "u1" ∧
    ((@program Market.Pilot.plainCities plainRuntime c).exec s).1 ≠
      ((@program Market.Pilot.plainCities plainRuntime c).exec t).1 := by
  refine ⟨"u2", _, _, Pilot.flowers true, Pilot.otherCity, rfl, by decide, fun hsame => ?_⟩
  have hok := congrArg Except.isOk hsame
  revert hok
  decide +kernel

end Addresses

/-! ### Surprises -/

/-- The columns two runs differ in when they differ in what a gift is and says. -/
structure Secret where
  contents : Contents
  productId : Option String
  storeId : Option String
  occasionId : Option String
  idempotencyRequestHash : Option String

def Secret.write (x : Secret) (g : Gift) : Gift :=
  { x.contents.write g with
    productId := x.productId
    storeId := x.storeId
    occasionId := x.occasionId
    idempotencyRequestHash := x.idempotencyRequestHash }

def toldTo (receiverId giftId : String) (n : Notification) : Bool :=
  n.userId = receiverId && !(n.type = .GiftDelivered && n.link = giftLink giftId)

/-- Two databases that differ in the secret of one gift to somebody else: the message, the media and the digest of the
request, and for a surprise the product, the store and the occasion. -/
structure OtherSecret (g : Gift) (x : Secret) (s t : Gifting) : Prop where
  same : t = { s with gifts := t.gifts, notifications := t.notifications }
  gifts : t.gifts.rows = s.gifts.rows.map fun row => if row.id = g.id then x.write row else row
  stored : s.gifts.find g.id = some g
  told : s.notifications.filter (toldTo g.receiverId g.id) = t.notifications.filter (toldTo g.receiverId g.id)
  other : g.senderId ≠ g.receiverId
  undelivered : g.status ≠ .delivered
  plain : g.isSurprise = false → x.contents.productName = g.productName ∧ x.contents.storeName = g.storeName ∧
    x.productId = g.productId ∧ x.storeId = g.storeId ∧ x.occasionId = g.occasionId

/-- What the receiver of a gift asks. -/
def Call.asksAs (receiverId : String) : Call → Prop
  | .findOne _ viewerUserId => viewerUserId = receiverId
  | .findReceived _ viewerUserId => viewerUserId = receiverId
  | .confirmAddress _ viewerUserId _ => viewerUserId = receiverId
  | _ => False

/-- The request leaves the books. -/
def Call.onGifts : Call → Prop
  | .books _ => False
  | _ => True

variable [Shop.Cities] [Runtime]

/-- After any requests the receiver has been told the same and, while the gift is not delivered, is answered alike. -/
def Kept (receiverId giftId : String) (s t : Gifting) : Prop :=
  ∀ cs : List Call, (∀ c ∈ cs, c.onGifts) →
    (runCalls program s cs).notifications.filter (toldTo receiverId giftId) =
        (runCalls program t cs).notifications.filter (toldTo receiverId giftId) ∧
      (((runCalls program s cs).gifts.find giftId).any (fun g => g.status ≠ .delivered) = true →
        ∀ c : Call, c.asksAs receiverId →
          ((program c).exec (runCalls program s cs)).1 = ((program c).exec (runCalls program t cs)).1)

/-- The contents of one gift are hidden, as far as `hidden` says. -/
@[reducible] def contentsOf (receiverId giftId : String) (s : Gifting) (hidden : Gift → Prop)
    (hrows : ∀ g, hidden g → g.id = giftId ∧ g.senderId ≠ receiverId) : Variation where
  hides := hidden
  veils := fun _ _ => False
  party := fun _ => False
  discreet := fun _ => False
  moved := fun _ => False
  watched := toldTo receiverId giftId
  stores := s.stores
  addresses := s.addresses
  addresses' := s.addresses
  alike := addresses_alike s
  anonymous := fun _ _ hveils => hveils.elim
  quiet := fun g n hhides hn => by
    obtain ⟨hid, hsender⟩ := hrows g hhides
    rcases hn with hn | ⟨htype, hlink⟩
    · simp [toldTo, hn, hsender]
    · simp [toldTo, htype, hlink, hid]
  silent := fun _ hparty => hparty.elim

/-- The rows of the hidden gift. -/
def IsGift (receiverId giftId : String) (g : Gift) : Prop :=
  g.id = giftId ∧ g.receiverId = receiverId ∧ g.senderId ≠ receiverId

/-- Two runs may differ in what the gift is and says. -/
@[reducible] def anyTime (receiverId giftId : String) (s : Gifting) : Variation :=
  contentsOf receiverId giftId s (IsGift receiverId giftId) fun _ hg => ⟨hg.1, hg.2.2⟩

/-- They may differ so until it is delivered. -/
@[reducible] def untilDelivery (receiverId giftId : String) (s : Gifting) : Variation :=
  contentsOf receiverId giftId s (fun g => IsGift receiverId giftId g ∧ g.status ≠ .delivered) fun _ hg =>
    ⟨hg.1.1, hg.1.2.2⟩

/-- The references and the digest are the same. -/
def Secret.SameColumns (x : Secret) (g : Gift) : Prop :=
  x.productId = g.productId ∧ x.storeId = g.storeId ∧ x.occasionId = g.occasionId ∧
    x.idempotencyRequestHash = g.idempotencyRequestHash

omit [Runtime] in
theorem OtherSecret.twins {g : Gift} {x : Secret} {s t : Gifting} (h : OtherSecret g x s t) (hx : x.SameColumns g) :
    (anyTime g.receiverId g.id s).Twins nothingKnown s t where
  same := h.same
  addresses := rfl
  stores := rfl
  gifts := by
    rw [h.gifts]
    refine List.forall₂_map_right_iff.mpr (List.forall₂_same.mpr fun row hrow => ?_)
    have hown : (anyTime g.receiverId g.id s).Owned row := fun _ _ _ _ hmoved => hmoved.elim
    split
    · rename_i hid
      have hsame : row = g := s.gifts.row_unique hrow (Table.mem_of_find h.stored) hid
      subst hsame
      have hwrite : x.write row = x.contents.write row := by
        obtain ⟨hproduct, hstore, hoccasion, hhash⟩ := hx
        rw [Secret.write, hproduct, hstore, hoccasion, hhash]
        rfl
      rw [hwrite]
      refine RowAlike.intro ⟨x.contents, row.senderId⟩ hown (.inr (.hidden ⟨rfl, rfl, h.other⟩ rfl ?_))
      cases hsurprise : row.isSurprise with
      | true => exact .inl rfl
      | false => exact .inr ⟨(h.plain hsurprise).1, (h.plain hsurprise).2.1⟩
    · exact RowAlike.refl hown
  told := h.told
  posts := fun _ _ hdiscreet => hdiscreet.elim
  known := fun _ _ _ hk => hk.elim

/-- Two rows agree on the references and the digest. -/
def SameColumns (g h : Gift) : Prop :=
  g.productId = h.productId ∧ g.storeId = h.storeId ∧ g.occasionId = h.occasionId ∧
    g.idempotencyRequestHash = h.idempotencyRequestHash

section Masks

omit [Shop.Cities] [Runtime]

theorem SameColumns.trans {g h k : Gift} (hgh : SameColumns g h) (hhk : SameColumns h k) : SameColumns g k :=
  ⟨hgh.1.trans hhk.1, hgh.2.1.trans hhk.2.1, hgh.2.2.1.trans hhk.2.2.1, hgh.2.2.2.trans hhk.2.2.2⟩

theorem maskAnonymous_columns (x : GiftWithParties) (viewer : String) :
    SameColumns (maskAnonymous x viewer).gift x.gift := by
  unfold maskAnonymous
  split_ifs <;> exact ⟨rfl, rfl, rfl, rfl⟩

theorem applySurpriseReveal_columns (x : GiftWithParties) (viewer : String) :
    SameColumns (applySurpriseReveal x viewer).1.gift x.gift := by
  unfold applySurpriseReveal
  split_ifs <;> exact ⟨rfl, rfl, rfl, rfl⟩

theorem applyMessageReveal_columns (x : GiftWithParties) (viewer : String) :
    SameColumns (applyMessageReveal x viewer).1.gift x.gift := by
  unfold applyMessageReveal
  split_ifs <;> exact ⟨rfl, rfl, rfl, rfl⟩

theorem applyAddressPrivacy_columns (x : GiftWithParties) (viewer : String) :
    SameColumns (applyAddressPrivacy x viewer).1.gift x.gift := by
  unfold applyAddressPrivacy
  split_ifs <;> exact ⟨rfl, rfl, rfl, rfl⟩

end Masks

omit [Shop.Cities] [Runtime] in
/-- The masks leave the references and the digest. -/
theorem applyGiftVisibility_columns (x : GiftWithParties) (viewer : String) :
    (applyGiftVisibility x viewer).gift.productId = x.gift.productId ∧
      (applyGiftVisibility x viewer).gift.storeId = x.gift.storeId ∧
      (applyGiftVisibility x viewer).gift.occasionId = x.gift.occasionId ∧
      (applyGiftVisibility x viewer).gift.idempotencyRequestHash = x.gift.idempotencyRequestHash := by
  have hmask := maskAnonymous_columns x viewer
  have hsurprise := applySurpriseReveal_columns (maskAnonymous x viewer) viewer
  have hmessage := applyMessageReveal_columns (applySurpriseReveal (maskAnonymous x viewer) viewer).1 viewer
  have haddress := applyAddressPrivacy_columns
    (applyMessageReveal (applySurpriseReveal (maskAnonymous x viewer) viewer).1 viewer).1 viewer
  exact ((haddress.trans hmessage).trans hsurprise).trans hmask

omit [Shop.Cities] [Runtime] in
/-- What `findOne` answers the receiver. -/
theorem findOne_receiver {s : Gifting} {g : Gift} (hg : s.gifts.find g.id = some g) :
    (findOne g.id g.receiverId).exec s = (.ok
      { gift := applyGiftVisibility (withParties s g) g.receiverId
        coverage := coverageSnapshot s g.storeId g.productId
        shipment := shipmentOf g.id s }, s) := by
  rw [findOne, findGiftWithParties]
  simp only [Svc.exec_bind, Svc.exec_query, hg, Option.map_some, Svc.exec_pure, Svc.exec_ensure]
  rw [if_pos (.inr rfl)]
  rfl

omit [Runtime] in
theorem twins_undelivered {receiverId giftId : String} {base s t : Gifting}
    (h : (anyTime receiverId giftId base).Twins nothingKnown s t)
    (hopen : (s.gifts.find giftId).any (fun g => g.status ≠ .delivered) = true) :
    (untilDelivery receiverId giftId base).Twins nothingKnown s t where
  same := h.same
  addresses := h.addresses
  stores := h.stores
  gifts := by
    have hstatus (row : Gift) (hrow : row ∈ s.gifts.rows) (hid : row.id = giftId) : row.status ≠ .delivered := by
      have hfind : s.gifts.find giftId = some row := Table.find_eq_some.mpr ⟨hrow, hid⟩
      rw [hfind] at hopen
      exact of_decide_eq_true hopen
    refine ((List.forall₂_and_left _ _).mpr ⟨hstatus, h.gifts⟩).imp fun a b hab => ?_
    obtain ⟨hopen, c, -, hc⟩ := hab
    refine RowAlike.intro c (fun _ _ _ _ hmoved => hmoved.elim) ?_
    rcases hc with hsame | ⟨hhides, hsender, hnames⟩ | ⟨hveils, -⟩
    · exact .inl hsame
    · exact .inr (.hidden ⟨hhides, hopen hhides.1⟩ hsender hnames)
    · exact hveils.elim
  told := h.told
  posts := h.posts
  known := h.known

theorem asked_alike {receiverId giftId : String} {base s t : Gifting}
    (h : (untilDelivery receiverId giftId base).Twins nothingKnown s t) {c : Call} (hc : c.asksAs receiverId) :
    ((program c).exec s).1 = ((program c).exec t).1 := by
  have hblind : (untilDelivery receiverId giftId base).Blind receiverId :=
    ⟨fun hmoved => hmoved, fun g hg => ⟨hg.1.2.1.symm, hg.2⟩⟩
  have hkeep (addressId : String) (confirmedAt : Time) :
      (untilDelivery receiverId giftId base).Keeps (.addressConfirmed addressId confirmedAt) :=
    ⟨fun g hg => ⟨hg.1, by rintro ⟨⟩⟩, fun _ _ hveils => hveils.elim⟩
  have hsees {α : Type} {f : α → Reply} {x : Service α}
      (hx : Svc.Agrees ((untilDelivery receiverId giftId base).Twins nothingKnown)
        ((untilDelivery receiverId giftId base).Sees receiverId) x x) :
      ((f <$> x).exec s).1 = ((f <$> x).exec t).1 := by
    have hmap := hx.mono (P := fun a b => f a = f b) fun a b hab => congrArg f (hab hblind)
    have hagrees : Svc.Agrees _ Eq (f <$> x) (f <$> x) := Svc.Agrees.map hmap
    exact hagrees.answers h
  unfold program
  cases c with
  | findOne giftId viewerUserId =>
      obtain rfl : viewerUserId = receiverId := hc
      exact hsees (findOne_agrees _ fun hparty => hparty)
  | findReceived receiverId' viewerUserId =>
      obtain rfl : viewerUserId = receiverId := hc
      exact hsees (findReceived_agrees _ fun hparty => hparty)
  | confirmAddress giftId viewerUserId addressId =>
      obtain rfl : viewerUserId = receiverId := hc
      exact hsees (confirmAddress_agrees hkeep _ (fun hparty => hparty) _)
  | _ => exact hc.elim

/-- **A surprise is kept exactly when the columns no mask touches are the same.** -/
theorem surprise_kept_iff {g : Gift} {x : Secret} {s t : Gifting} (h : OtherSecret g x s t) :
    Kept g.receiverId g.id s t ↔ x.SameColumns g := by
  constructor
  · intro hkept
    have hstored : t.gifts.find g.id = some (x.write g) := by
      refine Table.find_eq_some.mpr ⟨?_, rfl⟩
      rw [h.gifts, List.mem_map]
      exact ⟨g, Table.mem_of_find h.stored, if_pos rfl⟩
    have hopen : (s.gifts.find g.id).any (fun g => g.status ≠ .delivered) = true := by
      rw [h.stored]
      exact decide_eq_true h.undelivered
    have hanswer : ((findOne g.id g.receiverId >>= fun d => pure (Reply.detail d)).exec s).1 =
        ((findOne g.id g.receiverId >>= fun d => pure (Reply.detail d)).exec t).1 :=
      (hkept [] fun _ hc => by cases hc).2 hopen (.findOne g.id g.receiverId) rfl
    have hright : (findOne g.id g.receiverId).exec t = _ := findOne_receiver (g := x.write g) hstored
    rw [Svc.exec_bind, Svc.exec_bind, findOne_receiver h.stored, hright] at hanswer
    have hview : applyGiftVisibility (withParties s g) g.receiverId =
        applyGiftVisibility (withParties t (x.write g)) g.receiverId := by
      have hdetail := Reply.detail.inj (Except.ok.inj hanswer)
      exact congrArg GiftDetail.gift hdetail
    obtain ⟨hproduct, hstore, hoccasion, hhash⟩ := applyGiftVisibility_columns (withParties s g) g.receiverId
    rw [hview] at hproduct hstore hoccasion hhash
    obtain ⟨hproduct', hstore', hoccasion', hhash'⟩ :=
      applyGiftVisibility_columns (withParties t (x.write g)) g.receiverId
    exact ⟨hproduct'.symm.trans hproduct, hstore'.symm.trans hstore, hoccasion'.symm.trans hoccasion,
      hhash'.symm.trans hhash⟩
  · intro hx cs hcs
    have hlast : (anyTime g.receiverId g.id s).Lasting := by
      refine ⟨fun u => ⟨fun row hrow => ?_, fun _ _ hveils => hveils.elim⟩, fun row _ _ hrow => hrow,
        fun _ _ _ _ hveils => hveils.elim⟩
      show (u.write row).id = g.id ∧ (u.write row).receiverId = g.receiverId ∧ (u.write row).senderId ≠ g.receiverId
      rw [u.write_id, (u.write_parties row).1, (u.write_parties row).2]
      exact hrow
    have hgate (c : Call) (hc : c ∈ cs) : SameGate s.addresses s.addresses c := by
      have hgifts := hcs c hc
      cases c with
      | books b => exact hgifts.elim
      | create body viewerUserId idempotencyKey drawn giftId =>
          exact fun _ _ _ => List.forall₂_same.mpr fun _ _ => Iff.rfl
      | _ => trivial
    have hrun := runCalls_agrees
      (fun c hc => program_agrees hlast ⟨hgate c hc, fun _ _ hparty => hparty⟩) (h.twins hx)
    exact ⟨hrun.told, fun hopen c hc => asked_alike (twins_undelivered hrun hopen) hc⟩

/-! ### A ring in a box -/

namespace Pilot

/-- A surprise for Omar. -/
def wrapped : Gift where
  id := "g1"
  fulfillmentNumber := "QF-1"
  senderId := "u1"
  receiverId := "u2"
  productName := "ring"
  storeName := "jeweller"
  storeId := none
  productId := some "p1"
  occasionId := none
  messageText := none
  mediaUrl := none
  mediaType := none
  status := .pending_address
  isAnonymous := false
  isSurprise := true
  addressId := none
  confirmedAt := none
  shippedAt := none
  deliveredAt := none
  trackingNumber := none
  carrier := none
  createdAt := 0
  idempotencyKey := none
  idempotencyRequestHash := none

/-- The same box with a watch in it. -/
def watch (productId : String) : Secret :=
  ⟨⟨"watch", "jeweller", some "for you", none, none⟩, some productId, none, none, none⟩

def holding (g : Gift) : Gifting :=
  { empty with
    users := [⟨"u1", "sara", none, none⟩, ⟨"u2", "omar", none, none⟩]
    gifts := ⟨[g], by simp⟩ }

omit [Shop.Cities] [Runtime] in
theorem otherSecret (productId : String) :
    OtherSecret wrapped (watch productId) (holding wrapped) (holding ((watch productId).write wrapped)) :=
  ⟨rfl, rfl, rfl, rfl, by decide, by decide, fun hplain => by cases hplain⟩

/-- The product an answer shows. -/
def shownProduct : Except Err Reply → Option String
  | .ok (.detail d) => d.gift.gift.productId
  | _ => none

end Pilot

omit [Shop.Cities] [Runtime] in
theorem surprise_kept_iff_ring : @Kept Market.Pilot.plainCities plainRuntime "u2" "g1" (Pilot.holding Pilot.wrapped)
    (Pilot.holding ((Pilot.watch "p1").write Pilot.wrapped)) :=
  (@surprise_kept_iff Market.Pilot.plainCities plainRuntime _ _ _ _ (Pilot.otherSecret "p1")).mpr ⟨rfl, rfl, rfl, rfl⟩

omit [Shop.Cities] [Runtime] in
/-- **A surprise is no secret**: its receiver is shown which product it is before it is delivered. -/
theorem surprise_seen : ∃ g x s t, OtherSecret g x s t ∧ g.isSurprise = true ∧
    coverageSnapshot s g.storeId g.productId = coverageSnapshot t x.storeId x.productId ∧
    ¬ @Kept Market.Pilot.plainCities plainRuntime g.receiverId g.id s t := by
  refine ⟨_, _, _, _, Pilot.otherSecret "p2", rfl, rfl, fun hkept => ?_⟩
  have hanswer := (hkept [] fun _ hc => by cases hc).2 (by decide +kernel) (.findOne "g1" "u2") rfl
  have hshown := congrArg Pilot.shownProduct hanswer
  revert hshown
  decide +kernel

end Qift.Gifting
