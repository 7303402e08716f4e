import Qift.Gifting.Journey
import Qift.Lib.Agreement

/-!
# Two databases that differ in a secret

The relation between two runs of the gift service that differ only in what somebody must not see: the contents of
gifts, or the addresses of accounts.

* `Variation` says which gifts and which accounts the two runs may differ in, and which notices they may not.
* `Twins` relates the two databases; `RowAlike` and `AddressAlike` relate their rows.
* One lemma for each request says that it takes twins to twins and answers alike; `Sees` is what alike means to a
  viewer.
-/

namespace Qift.Gifting

open Relational Interleaving

/-! ### Rows -/

/-- The columns of a gift that are kept from its receiver. -/
structure Contents where
  productName : String
  storeName : String
  messageText : Option String
  mediaUrl : Option String
  mediaType : Option String

def Contents.write (c : Contents) (g : Gift) : Gift :=
  { g with
    productName := c.productName
    storeName := c.storeName
    messageText := c.messageText
    mediaUrl := c.mediaUrl
    mediaType := c.mediaType }

def Gift.contents (g : Gift) : Contents where
  productName := g.productName
  storeName := g.storeName
  messageText := g.messageText
  mediaUrl := g.mediaUrl
  mediaType := g.mediaType

/-- What two runs may show differently of a gift: its contents and its sender. -/
structure Face where
  contents : Contents
  senderId : String

def Face.write (c : Face) (g : Gift) : Gift := { c.contents.write g with senderId := c.senderId }

def Gift.face (g : Gift) : Face := ⟨g.contents, g.senderId⟩

theorem Face.update (c : Face) (u : Update) (g : Gift) : u.write (c.write g) = c.write (u.write g) := by
  cases u <;> rfl

theorem Update.write_face (u : Update) (g : Gift) : (u.write g).face = g.face := by
  cases u <;> rfl

theorem Update.write_parties (u : Update) (g : Gift) :
    (u.write g).receiverId = g.receiverId ∧ (u.write g).senderId = g.senderId := by
  cases u <;> exact ⟨rfl, rfl⟩

section Rows

variable [Shop.Cities]

/-- Two addresses that no coverage gate tells apart, and one and the same unless their owner is a moved account. -/
structure AddressAlike (moved : String → Prop) (stores : Table Store.id) (a b : Address) : Prop where
  id : a.id = b.id
  userId : a.userId = b.userId
  isDefault : a.isDefault = b.isDefault
  same : ¬moved a.userId → a = b
  covers : ∀ store ∈ stores.rows, store.covers a.scope = store.covers b.scope

theorem addresses_alike (s : Gifting) :
    List.Forall₂ (AddressAlike (fun _ => False) s.stores) s.addresses.rows s.addresses.rows :=
  List.forall₂_same.mpr fun _ _ => ⟨rfl, rfl, rfl, fun _ => rfl, fun _ _ => rfl⟩

/-- What two runs may differ in. -/
structure Variation where
  /-- The gifts whose contents may differ. -/
  hides : Gift → Prop
  /-- The gifts whose sender may differ, with the sender of the second run. -/
  veils : Gift → String → Prop
  /-- The senders of these gifts. -/
  party : String → Prop
  /-- The gifts of which no post reveals the sender. -/
  discreet : String → Prop
  /-- The accounts whose addresses may differ. -/
  moved : String → Prop
  /-- The notices that must not differ. -/
  watched : Notification → Bool
  stores : Table Store.id
  addresses : Table Address.id
  addresses' : Table Address.id
  alike : List.Forall₂ (AddressAlike moved stores) addresses.rows addresses'.rows
  /-- A gift whose sender differs is anonymous. -/
  anonymous : ∀ g senderId, veils g senderId → g.isAnonymous = true ∧ party g.senderId ∧ party senderId
  /-- Nobody watches what the sender of a hidden gift is told, or the notice of its delivery. -/
  quiet : ∀ g n, hides g → n.userId = g.senderId ∨ n.type = .GiftDelivered ∧ n.link = giftLink g.id →
    watched n = false
  /-- Nobody watches what the senders of a veiled gift are told. -/
  silent : ∀ n, party n.userId → watched n = false

namespace Variation

variable (V : Variation)

/-- An address of a moved account is used for gifts to it only. -/
def Owned (g : Gift) : Prop :=
  ∀ id, g.addressId = some id → ∀ a, V.addresses.find id = some a → V.moved a.userId → a.userId = g.receiverId

/-- A status write does not uncover a gift. -/
structure Keeps (u : Update) : Prop where
  hides : ∀ g, V.hides g → V.hides (u.write g)
  veils : ∀ g senderId, V.veils g senderId → V.veils (u.write g) senderId

/-- What a gift may show in the second run: other contents, where a gift that is no surprise shows its product, or
another sender. -/
inductive Masked (g : Gift) (c : Face) : Prop
  | hidden (hhides : V.hides g) (hsender : c.senderId = g.senderId)
      (hnames : g.isSurprise = true ∨
        c.contents.productName = g.productName ∧ c.contents.storeName = g.storeName)
  | veiled (hveils : V.veils g c.senderId) (hcontents : c.contents = g.contents)

/-- The two rows of a gift. -/
inductive RowAlike (g : Gift) : Gift → Prop
  | intro (c : Face) (hown : V.Owned g) (hc : c = g.face ∨ V.Masked g c) : RowAlike g (c.write g)

/-- To `viewer` neither the hidden gifts nor the moved addresses are shown. -/
structure Blind (viewer : String) : Prop where
  moved : ¬V.moved viewer
  hides : ∀ g, V.hides g → viewer = g.receiverId ∧ g.status ≠ .delivered

/-- Two answers that `viewer` cannot tell apart. -/
def Sees {α : Type} (viewer : String) (a b : α) : Prop := V.Blind viewer → a = b

/-- Two databases that differ in what the variation allows; `known` are gifts a call has read, whose parties stay. -/
structure Twins (known : Gift → Prop) (s t : Gifting) : Prop where
  same : t = { s with addresses := V.addresses', gifts := t.gifts, notifications := t.notifications }
  addresses : s.addresses = V.addresses
  stores : s.stores = V.stores
  gifts : List.Forall₂ V.RowAlike s.gifts.rows t.gifts.rows
  told : s.notifications.filter V.watched = t.notifications.filter V.watched
  posts : ∀ p ∈ s.posts.rows, V.discreet p.giftId → p.revealSender = false
  known : ∀ g ∈ s.gifts.rows, ∀ k, known k → k.id = g.id → g.receiverId = k.receiverId ∧ g.senderId = k.senderId

end Variation

end Rows

open Variation

section Requests

variable [Shop.Cities] {V : Variation} {known : Gift → Prop}

theorem Variation.RowAlike.id {g g' : Gift} (h : V.RowAlike g g') : g.id = g'.id := by
  obtain ⟨c, -, -⟩ := h
  rfl

theorem Variation.RowAlike.status {g g' : Gift} (h : V.RowAlike g g') : g.status = g'.status := by
  obtain ⟨c, -, -⟩ := h
  rfl

theorem Variation.RowAlike.receiverId {g g' : Gift} (h : V.RowAlike g g') : g.receiverId = g'.receiverId := by
  obtain ⟨c, -, -⟩ := h
  rfl

theorem Variation.RowAlike.fulfillmentNumber {g g' : Gift} (h : V.RowAlike g g') :
    g.fulfillmentNumber = g'.fulfillmentNumber := by
  obtain ⟨c, -, -⟩ := h
  rfl

theorem Variation.RowAlike.idempotencyKey {g g' : Gift} (h : V.RowAlike g g') :
    g.idempotencyKey = g'.idempotencyKey := by
  obtain ⟨c, -, -⟩ := h
  rfl

theorem Variation.RowAlike.requestHash {g g' : Gift} (h : V.RowAlike g g') :
    g.idempotencyRequestHash = g'.idempotencyRequestHash := by
  obtain ⟨c, -, -⟩ := h
  rfl

theorem Variation.RowAlike.refl {g : Gift} (hown : V.Owned g) : V.RowAlike g g :=
  RowAlike.intro g.face hown (.inl rfl)

/-- An account that is none of the senders finds itself in both rows or in neither. -/
theorem Variation.RowAlike.sender_iff {g g' : Gift} (h : V.RowAlike g g') {viewer : String} (hviewer : ¬V.party viewer) :
    viewer = g.senderId ↔ viewer = g'.senderId := by
  obtain ⟨c, -, hc⟩ := h
  rcases hc with rfl | ⟨-, hsender, -⟩ | ⟨hveils, -⟩
  · exact Iff.rfl
  · show viewer = g.senderId ↔ viewer = c.senderId
    rw [hsender]
  · obtain ⟨-, hfirst, hsecond⟩ := V.anonymous g _ hveils
    exact ⟨fun heq => absurd (heq ▸ hfirst) hviewer, fun heq => absurd (heq ▸ hsecond) hviewer⟩

theorem Variation.RowAlike.update {g g' : Gift} (h : V.RowAlike g g') {u : Update} (hkeep : V.Keeps u)
    (hown : V.Owned (u.write g)) : V.RowAlike (u.write g) (u.write g') := by
  obtain ⟨c, -, hc⟩ := h
  rw [c.update]
  refine RowAlike.intro c hown ?_
  rcases hc with rfl | ⟨hhides, hsender, hnames⟩ | ⟨hveils, hcontents⟩
  · exact .inl (u.write_face g).symm
  · refine .inr (.hidden (hkeep.hides g hhides) (hsender.trans (u.write_parties g).2.symm) ?_)
    cases u <;> exact hnames
  · refine .inr (.veiled (hkeep.veils g _ hveils) (hcontents.trans ?_))
    exact (congrArg Face.contents (u.write_face g)).symm

/-! ### Queries -/

/-- A query of what the two databases have in common. -/
theorem common {α : Type} {f : Gifting → α}
    (hf : ∀ s A G N, f { s with addresses := A, gifts := G, notifications := N } = f s) (s t : Gifting)
    (h : V.Twins known s t) : f s = f t := by
  rw [h.same]
  exact (hf _ _ _ _).symm

theorem query_common {α : Type} {f : Gifting → α}
    (hf : ∀ s A G N, f { s with addresses := A, gifts := G, notifications := N } = f s) :
    Svc.Agrees (V.Twins known) Eq (Svc.query .read f : Service α) (Svc.query .read f) :=
  Svc.Agrees.query fun s t h => common hf s t h

theorem find_alike {s t : Gifting} (h : V.Twins known s t) (giftId : String) :
    Option.Rel V.RowAlike (s.gifts.find giftId) (t.gifts.find giftId) :=
  Table.forall₂_find (fun _ _ hg => hg.id) h.gifts giftId

theorem find_address_alike {s t : Gifting} (h : V.Twins known s t) (id : String) :
    Option.Rel (AddressAlike V.moved V.stores) (s.addresses.find id) (t.addresses.find id) := by
  rw [h.same, h.addresses]
  exact Table.forall₂_find (fun _ _ ha => ha.id) V.alike id

theorem dateNow_agrees : Svc.Agrees (V.Twins known) Eq dateNow dateNow := query_common fun _ _ _ _ => rfl

theorem findGift_agrees (giftId : String) :
    Svc.Agrees (V.Twins known) (fun g g' => V.RowAlike g g' ∧ g.id = giftId) (findGift giftId) (findGift giftId) := by
  refine Svc.Agrees.bind (Q := Option.Rel fun g g' => V.RowAlike g g' ∧ g.id = giftId)
    (Svc.Agrees.query fun s t h => ?_) fun found found' h => ?_
  · have hfind := find_alike h giftId
    cases hleft : s.gifts.find giftId with
    | none =>
        rw [hleft] at hfind
        generalize t.gifts.find giftId = right at hfind
        cases hfind
        exact .none
    | some g =>
        rw [hleft] at hfind
        generalize t.gifts.find giftId = right at hfind
        cases hfind with
        | some hg => exact .some ⟨hg, Table.key_of_find hleft⟩
  · cases h with
    | none => exact Svc.Agrees.fail _
    | some hg => exact Svc.Agrees.pure hg

/-- The two rows of a gift with what is included; the address is the same unless the receiver has moved. -/
structure GiftAlike (V : Variation) (x y : GiftWithParties) : Prop where
  gift : V.RowAlike x.gift y.gift
  sender : x.sender = y.sender ∨ V.veils x.gift y.gift.senderId
  receiver : x.receiver = y.receiver
  address : ¬V.moved x.gift.receiverId → x.address = y.address

theorem sender_alike {s t : Gifting} (h : V.Twins known s t) {g g' : Gift} (hg : V.RowAlike g g') :
    partyOf s g.senderId = partyOf t g'.senderId ∨ V.veils g g'.senderId := by
  obtain ⟨c, -, hc⟩ := hg
  have hsame : partyOf s g.senderId = partyOf t g.senderId :=
    common (f := fun w => partyOf w g.senderId) (fun _ _ _ _ => rfl) s t h
  rcases hc with rfl | ⟨-, hsender, -⟩ | ⟨hveils, -⟩
  · exact .inl hsame
  · refine .inl (hsame.trans ?_)
    show partyOf t g.senderId = partyOf t c.senderId
    rw [hsender]
  · exact .inr hveils

theorem withParties_alike {s t : Gifting} (h : V.Twins known s t) {g g' : Gift} (hg : V.RowAlike g g') :
    GiftAlike V (withParties s g) (withParties t g') where
  gift := hg
  sender := sender_alike h hg
  receiver := by
    obtain ⟨c, -, -⟩ := hg
    exact common (f := fun w => partyOf w g.receiverId) (fun _ _ _ _ => rfl) s t h
  address hmoved := by
    obtain ⟨c, hown, -⟩ := hg
    show g.addressId.bind s.addresses.find = g.addressId.bind t.addresses.find
    cases hid : g.addressId with
    | none => rfl
    | some id =>
        show s.addresses.find id = t.addresses.find id
        have halike := find_address_alike h id
        cases hfound : s.addresses.find id with
        | none =>
            rw [hfound] at halike
            generalize t.addresses.find id = found at halike
            cases halike
            rfl
        | some a =>
            have howner := hown id hid a (h.addresses ▸ hfound)
            rw [hfound] at halike
            generalize t.addresses.find id = found at halike
            cases halike with
            | some ha => rw [ha.same fun hmine => hmoved (howner hmine ▸ hmine)]

theorem findGiftWithParties_agrees (giftId : String) :
    Svc.Agrees (V.Twins known) (GiftAlike V) (findGiftWithParties giftId) (findGiftWithParties giftId) := by
  refine Svc.Agrees.bind (Q := Option.Rel (GiftAlike V)) (Svc.Agrees.query fun s t h => ?_) fun found found' h => ?_
  · have hfind := find_alike h giftId
    generalize s.gifts.find giftId = found at hfind
    generalize t.gifts.find giftId = found' at hfind
    cases hfind with
    | none => exact .none
    | some hg => exact .some (withParties_alike h hg)
  · cases h with
    | none => exact Svc.Agrees.fail _
    | some hg => exact Svc.Agrees.pure hg

/-! ### Masks -/

omit [Shop.Cities] in
theorem maskAnonymous_address (x : GiftWithParties) (address : Option Address) (viewer : String) :
    maskAnonymous { x with address := address } viewer = { maskAnonymous x viewer with address := address } := by
  rw [maskAnonymous, maskAnonymous]
  split_ifs <;> rfl

omit [Shop.Cities] in
theorem applySurpriseReveal_address (x : GiftWithParties) (address : Option Address) (viewer : String) :
    applySurpriseReveal { x with address := address } viewer =
      ({ (applySurpriseReveal x viewer).1 with address := address }, (applySurpriseReveal x viewer).2) := by
  have hhides : hidesProduct { x with address := address } viewer = hidesProduct x viewer := rfl
  rw [applySurpriseReveal, applySurpriseReveal, hhides]
  split_ifs <;> rfl

omit [Shop.Cities] in
theorem applyMessageReveal_address (x : GiftWithParties) (address : Option Address) (viewer : String) :
    applyMessageReveal { x with address := address } viewer =
      ({ (applyMessageReveal x viewer).1 with address := address }, (applyMessageReveal x viewer).2) := by
  have hhides : hidesMessage { x with address := address } viewer = hidesMessage x viewer := rfl
  rw [applyMessageReveal, applyMessageReveal, hhides]
  split_ifs <;> rfl

omit [Shop.Cities] in
theorem masked_receiverId (x : GiftWithParties) (viewer : String) :
    (applyMessageReveal (applySurpriseReveal (maskAnonymous x viewer) viewer).1 viewer).1.gift.receiverId =
      x.gift.receiverId := by
  have hmask : (maskAnonymous x viewer).gift.receiverId = x.gift.receiverId := by
    rw [maskAnonymous]
    split_ifs <;> rfl
  have hsurprise (y : GiftWithParties) : (applySurpriseReveal y viewer).1.gift.receiverId = y.gift.receiverId := by
    rw [applySurpriseReveal]
    split_ifs <;> rfl
  have hmessage (y : GiftWithParties) : (applyMessageReveal y viewer).1.gift.receiverId = y.gift.receiverId := by
    rw [applyMessageReveal]
    split_ifs <;> rfl
  rw [hmessage, hsurprise, hmask]

omit [Shop.Cities] in
theorem applyGiftVisibility_address {x : GiftWithParties} {viewer : String} (h : viewer ≠ x.gift.receiverId)
    (address : Option Address) :
    applyGiftVisibility { x with address := address } viewer = applyGiftVisibility x viewer := by
  have hviewer : viewer ≠ (applyMessageReveal (applySurpriseReveal (maskAnonymous x viewer) viewer).1
      viewer).1.gift.receiverId := by rwa [masked_receiverId]
  simp only [applyGiftVisibility, maskAnonymous_address, applySurpriseReveal_address, applyMessageReveal_address]
  generalize applyMessageReveal (applySurpriseReveal (maskAnonymous x viewer) viewer).1 viewer = masked at hviewer ⊢
  have hleft : applyAddressPrivacy { masked.1 with address := address } viewer = _ := if_neg hviewer
  have hright : applyAddressPrivacy masked.1 viewer = _ := if_neg hviewer
  rw [hleft, hright]

omit [Shop.Cities] in
theorem reveal_undelivered {x : GiftWithParties} (hstatus : x.gift.status ≠ .delivered) :
    applyMessageReveal (applySurpriseReveal x x.gift.receiverId).1 x.gift.receiverId =
      ({ x with gift := (Contents.mk (if x.gift.isSurprise then "" else x.gift.productName)
          (if x.gift.isSurprise then "" else x.gift.storeName) none none none).write x.gift }, false) ∧
      (applySurpriseReveal x x.gift.receiverId).2 = !x.gift.isSurprise := by
  obtain ⟨g, sender, receiver, a⟩ := x
  have hlate : decide (g.status ≠ .delivered) = true := decide_eq_true hstatus
  have hproduct : hidesProduct ⟨g, sender, receiver, a⟩ g.receiverId = g.isSurprise := by
    simp [hidesProduct, hlate]
  show applyMessageReveal (applySurpriseReveal ⟨g, sender, receiver, a⟩ g.receiverId).1 g.receiverId = _ ∧
    (applySurpriseReveal ⟨g, sender, receiver, a⟩ g.receiverId).2 = _
  rw [applySurpriseReveal, hproduct]
  cases hsurprise : g.isSurprise with
  | true => exact ⟨if_pos (by simp [hidesMessage, hlate]), rfl⟩
  | false => exact ⟨if_pos (by simp [hidesMessage, hlate]), rfl⟩

omit [Shop.Cities] in
theorem maskAnonymous_write (x : GiftWithParties) (c : Contents) (viewer : String) :
    maskAnonymous { x with gift := c.write x.gift } viewer =
      { maskAnonymous x viewer with gift := c.write (maskAnonymous x viewer).gift } := by
  obtain ⟨g, sender, receiver, a⟩ := x
  show (if g.isAnonymous = false then _ else if viewer ≠ "" ∧ viewer = g.senderId then _ else _) = _
  rw [maskAnonymous]
  split_ifs <;> rfl

omit [Shop.Cities] in
theorem maskAnonymous_gift (x : GiftWithParties) (viewer : String) :
    (maskAnonymous x viewer).gift.receiverId = x.gift.receiverId ∧
      (maskAnonymous x viewer).gift.status = x.gift.status ∧
      (maskAnonymous x viewer).gift.isSurprise = x.gift.isSurprise ∧
      (maskAnonymous x viewer).gift.contents = x.gift.contents := by
  rw [maskAnonymous]
  split_ifs <;> exact ⟨rfl, rfl, rfl, rfl⟩

omit [Shop.Cities] in
/-- Until delivery the receiver sees nothing of the contents. -/
theorem applyGiftVisibility_contents {x : GiftWithParties} {c : Contents} (hstatus : x.gift.status ≠ .delivered)
    (hnames : x.gift.isSurprise = true ∨ c.productName = x.gift.productName ∧ c.storeName = x.gift.storeName) :
    applyGiftVisibility { x with gift := c.write x.gift } x.gift.receiverId =
      applyGiftVisibility x x.gift.receiverId := by
  obtain ⟨hreceiver, hkept, hsurprise, hcontents⟩ := maskAnonymous_gift x x.gift.receiverId
  simp only [applyGiftVisibility, maskAnonymous_write]
  generalize maskAnonymous x x.gift.receiverId = m at hreceiver hkept hsurprise hcontents ⊢
  obtain ⟨hleft, hvisible⟩ := reveal_undelivered (x := { m with gift := c.write m.gift }) (hkept ▸ hstatus)
  obtain ⟨hright, hvisible'⟩ := reveal_undelivered (x := m) (hkept ▸ hstatus)
  rw [← hreceiver]
  have hleft' : applyMessageReveal (applySurpriseReveal { m with gift := c.write m.gift } m.gift.receiverId).1
      m.gift.receiverId = _ := hleft
  have hshown : (if m.gift.isSurprise then "" else c.productName) =
        (if m.gift.isSurprise then "" else m.gift.productName) ∧
      (if m.gift.isSurprise then "" else c.storeName) = (if m.gift.isSurprise then "" else m.gift.storeName) := by
    rcases hnames with hyes | ⟨hproduct, hstore⟩
    · rw [hsurprise, hyes]
      exact ⟨rfl, rfl⟩
    · rw [hproduct, hstore, show x.gift.productName = m.gift.productName from (congrArg Contents.productName hcontents).symm,
        show x.gift.storeName = m.gift.storeName from (congrArg Contents.storeName hcontents).symm]
      exact ⟨rfl, rfl⟩
  have hsame : applyMessageReveal (applySurpriseReveal { m with gift := c.write m.gift } m.gift.receiverId).1
      m.gift.receiverId = applyMessageReveal (applySurpriseReveal m m.gift.receiverId).1 m.gift.receiverId := by
    rw [hleft', hright]
    show ({ m with gift := (Contents.mk (if m.gift.isSurprise then "" else c.productName)
      (if m.gift.isSurprise then "" else c.storeName) none none none).write m.gift }, false) = _
    rw [hshown.1, hshown.2]
  rw [hsame, show (applySurpriseReveal { m with gift := c.write m.gift } m.gift.receiverId).2 =
    (applySurpriseReveal m m.gift.receiverId).2 from hvisible.trans hvisible'.symm]

omit [Shop.Cities] in
theorem applyGiftVisibility_sender {x : GiftWithParties} {viewer senderId : String} {sender : Party}
    (hanonymous : x.gift.isAnonymous = true) (hfirst : viewer ≠ x.gift.senderId) (hsecond : viewer ≠ senderId) :
    applyGiftVisibility { x with gift := { x.gift with senderId := senderId }, sender := sender } viewer =
      applyGiftVisibility x viewer := by
  obtain ⟨g, sender₀, receiver, a⟩ := x
  have hleft : maskAnonymous ⟨{ g with senderId := senderId }, sender, receiver, a⟩ viewer =
      ⟨{ g with senderId := "" }, ⟨"", "", none⟩, receiver, a⟩ := by
    rw [maskAnonymous, if_neg (by rw [hanonymous]; decide), if_neg fun hboth => hsecond hboth.2]
  have hright : maskAnonymous ⟨g, sender₀, receiver, a⟩ viewer =
      ⟨{ g with senderId := "" }, ⟨"", "", none⟩, receiver, a⟩ := by
    rw [maskAnonymous, if_neg (by rw [hanonymous]; decide), if_neg fun hboth => hfirst hboth.2]
  rw [applyGiftVisibility, applyGiftVisibility, hleft, hright]

theorem face_alike {g g' : Gift} (hg : V.RowAlike g g') {sender sender' : Party}
    (hsender : sender = sender' ∨ V.veils g g'.senderId) {viewer : String} (hviewer : ¬V.party viewer)
    (hblind : V.Blind viewer) (receiver : Party) (address : Option Address) :
    applyGiftVisibility ⟨g, sender, receiver, address⟩ viewer =
      applyGiftVisibility ⟨g', sender', receiver, address⟩ viewer := by
  have hveiled (x : String) (hx : V.veils g x) : applyGiftVisibility ⟨g, sender, receiver, address⟩ viewer =
      applyGiftVisibility ⟨{ g with senderId := x }, sender', receiver, address⟩ viewer := by
    obtain ⟨hanonymous, hfirst, hsecond⟩ := V.anonymous g x hx
    have hnotFirst : viewer ≠ g.senderId := fun heq => hviewer (heq ▸ hfirst)
    have hnotSecond : viewer ≠ x := fun heq => hviewer (heq ▸ hsecond)
    exact (applyGiftVisibility_sender (x := ⟨g, sender, receiver, address⟩) hanonymous hnotFirst hnotSecond).symm
  cases hg with
  | intro c hown hc =>
      rcases hc with rfl | ⟨hhides, hsame, hnames⟩ | ⟨hveils, hcontents⟩
      · rcases hsender with rfl | hveils
        · rfl
        · exact hveiled g.senderId hveils
      · obtain ⟨rfl, hstatus⟩ := hblind.hides g hhides
        have hhidden : applyGiftVisibility ⟨g, sender', receiver, address⟩ g.receiverId =
            applyGiftVisibility ⟨c.contents.write g, sender', receiver, address⟩ g.receiverId :=
          (applyGiftVisibility_contents (x := ⟨g, sender', receiver, address⟩) hstatus hnames).symm
        have hwrite : c.write g = c.contents.write g := by
          rw [Face.write, hsame]
          rfl
        rw [hwrite, ← hhidden]
        rcases hsender with rfl | hveils
        · rfl
        · have hveils' : V.veils g g.senderId := by
            rw [hwrite] at hveils
            exact hveils
          exact hveiled g.senderId hveils'
      · rw [hveiled c.senderId hveils, Face.write, hcontents]
        rfl

theorem view_alike {x y : GiftWithParties} (h : GiftAlike V x y) {viewer : String} (hviewer : ¬V.party viewer) :
    V.Sees viewer (applyGiftVisibility x viewer) (applyGiftVisibility y viewer) := by
  intro hblind
  have hplace : applyGiftVisibility x viewer = applyGiftVisibility { x with address := y.address } viewer := by
    by_cases hmine : viewer = x.gift.receiverId
    · rw [← h.address (hmine ▸ hblind.moved)]
    · exact (applyGiftVisibility_address hmine y.address).symm
  rw [hplace]
  have hface := face_alike h.gift h.sender hviewer hblind x.receiver y.address
  rw [h.receiver] at hface
  exact (congrArg (fun receiver => applyGiftVisibility ⟨x.gift, x.sender, receiver, y.address⟩ viewer) h.receiver).trans
    hface

end Requests

end Qift.Gifting
