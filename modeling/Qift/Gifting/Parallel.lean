import Qift.Gifting.Twins

/-!
# Requests on two databases that differ in a secret

One lemma for each request of the gift service: from twins it leaves twins and answers alike.

* The writes come first: a status write, a notice, a new gift and the writes of a shipment each keep the relation.
* A request is then followed action by action; what it answers is related by `Sees`, for the viewer who asked.
-/

namespace Qift.Gifting

open Relational Interleaving Variation

variable [Shop.Cities] {V : Variation} {known : Gift → Prop}

/-! ### Writes -/

theorem Variation.Twins.store {s t : Gifting} (h : V.Twins known s t) {T T' : Table Gift.id}
    (hrows : List.Forall₂ V.RowAlike T.rows T'.rows)
    (hknown : ∀ g ∈ T.rows, ∀ k, known k → k.id = g.id → g.receiverId = k.receiverId ∧ g.senderId = k.senderId) :
    V.Twins known (gift.store T s) (gift.store T' t) where
  same := by
    show { t with gifts := T' } = { s with
      addresses := V.addresses', gifts := T', notifications := t.notifications }
    conv_lhs => rw [h.same]
  addresses := h.addresses
  stores := h.stores
  gifts := hrows
  told := h.told
  posts := h.posts
  known := hknown

theorem Variation.Twins.change {s t : Gifting} (h : V.Twins known s t) {f : Gifting → Gifting}
    (hf : ∀ w A G N, f { w with addresses := A, gifts := G, notifications := N } =
      { f w with addresses := A, gifts := G, notifications := N })
    (hposts : ∀ p ∈ (f s).posts.rows, V.discreet p.giftId → p.revealSender = false)
    (haddresses : ∀ w, (f w).addresses = w.addresses := by intro w; rfl)
    (hstores : ∀ w, (f w).stores = w.stores := by intro w; rfl)
    (hgifts : ∀ w, (f w).gifts = w.gifts := by intro w; rfl)
    (hnotifications : ∀ w, (f w).notifications = w.notifications := by intro w; rfl) :
    V.Twins known (f s) (f t) where
  same := by
    rw [hgifts, hnotifications]
    conv_lhs => rw [h.same]
    exact hf _ _ _ _
  addresses := (haddresses s).trans h.addresses
  stores := (hstores s).trans h.stores
  gifts := by
    rw [hgifts, hgifts]
    exact h.gifts
  told := by
    rw [hnotifications, hnotifications]
    exact h.told
  posts := hposts
  known := by
    rw [hgifts]
    exact h.known

theorem Variation.Twins.setStatus {s t : Gifting} (h : V.Twins known s t) {giftId : String} {u : Update} (pick : Pick)
    (hkeep : V.Keeps u)
    (hown : ∀ g, (∀ k, known k → k.id = giftId → g.receiverId = k.receiverId) → V.Owned g → V.Owned (u.write g)) :
    V.Twins known
      (gift.store (s.gifts.updateMany (fun g => g.id = giftId && pick.takes g.status) u.write u.write_id) s)
      (gift.store (t.gifts.updateMany (fun g => g.id = giftId && pick.takes g.status) u.write u.write_id) t) := by
  refine h.store (Table.forall₂_updateMany (fun a b hab => ?_) (fun a ha b hab hp => ?_) h.gifts) ?_
  · rw [hab.id, hab.status]
  · have hid : a.id = giftId := of_decide_eq_true (Bool.and_eq_true_iff.mp hp).1
    refine hab.update hkeep (hown a (fun k hk hkid => (h.known a ha k hk (hkid.trans hid.symm)).1) ?_)
    obtain ⟨c, howned, -⟩ := hab
    exact howned
  · intro g hg k hk hkid
    obtain ⟨g₀, hg₀, rfl⟩ := Table.of_mem_updateMany u.write_id hg
    have hsame : (if (decide (g₀.id = giftId) && pick.takes g₀.status) = true then u.write g₀ else g₀).id = g₀.id ∧
        (if (decide (g₀.id = giftId) && pick.takes g₀.status) = true then u.write g₀ else g₀).receiverId =
          g₀.receiverId ∧
        (if (decide (g₀.id = giftId) && pick.takes g₀.status) = true then u.write g₀ else g₀).senderId =
          g₀.senderId := by
      split
      · exact ⟨u.write_id g₀, (u.write_parties g₀).1, (u.write_parties g₀).2⟩
      · exact ⟨rfl, rfl, rfl⟩
    rw [hsame.2.1, hsame.2.2]
    exact h.known g₀ hg₀ k hk (hkid.trans hsame.1)

theorem trigger_agrees {n n' : Notification} (hn : n = n' ∨ V.watched n = false ∧ V.watched n' = false) :
    Svc.Agrees (V.Twins known) Eq (trigger n) (trigger n') := by
  refine Svc.Agrees.transaction (Tx.Agrees.modify fun s t h => ?_)
  exact {
    same := by
      show { t with notifications := t.notifications ++ [n'] } = { s with
        addresses := V.addresses', gifts := t.gifts, notifications := t.notifications ++ [n'] }
      conv_lhs => rw [h.same]
    addresses := h.addresses
    stores := h.stores
    gifts := h.gifts
    told := by
      show (s.notifications ++ [n]).filter V.watched = (t.notifications ++ [n']).filter V.watched
      rw [List.filter_append, List.filter_append, h.told]
      rcases hn with rfl | ⟨hleft, hright⟩
      · rfl
      · simp [hleft, hright]
    posts := h.posts
    known := h.known }

theorem updateGiftWhile_agrees {giftId : String} {found found' : GiftStatus} {statuses : List GiftStatus} {u : Update}
    (hkeep : V.Keeps u)
    (hown : ∀ g, (∀ k, known k → k.id = giftId → g.receiverId = k.receiverId) → V.Owned g → V.Owned (u.write g)) :
    Svc.Agrees (V.Twins known) Eq (updateGiftWhile giftId found statuses u)
      (updateGiftWhile giftId found' statuses u) := by
  refine Svc.Agrees.transaction fun s t h => .ok ⟨?_, h.setStatus (.whileIn statuses) hkeep hown⟩
  exact Table.forall₂_count (fun a b hab => by rw [hab.id, hab.status]) h.gifts

theorem updateGift_agrees {α : Type} {giftId : String} {found found' : GiftStatus} {u : Update}
    {included : Gifting → Gift → α} {Q : α → α → Prop} (hkeep : V.Keeps u)
    (hown : ∀ g, (∀ k, known k → k.id = giftId → g.receiverId = k.receiverId) → V.Owned g → V.Owned (u.write g))
    (hQ : ∀ s t, V.Twins known s t → ∀ g ∈ s.gifts.rows, ∀ g', V.RowAlike g g' → g.id = giftId →
      g.status = u.target → Q (included s g) (included t g')) :
    Svc.Agrees (V.Twins known) Q (updateGift giftId found u included) (updateGift giftId found' u included) := by
  refine Svc.Agrees.bind (Q := Option.Rel Q) (Svc.Agrees.transaction fun s t h => ?_) fun written written' h => ?_
  · have hset := h.setStatus .byId hkeep hown
    refine .ok ⟨?_, hset⟩
    have hfind := find_alike hset giftId
    have hstored (g : Gift) (hg : (s.gifts.updateMany (fun g => g.id = giftId && Pick.byId.takes g.status) u.write
        u.write_id).find giftId = some g) : g.id = giftId ∧ g.status = u.target := by
      refine ⟨Table.key_of_find hg, ?_⟩
      rw [Table.find_updateMany] at hg
      obtain ⟨g₀, hg₀, rfl⟩ := Option.map_eq_some_iff.mp hg
      have hid : g₀.id = giftId := Table.key_of_find hg₀
      simp [hid, Pick.takes]
    show Option.Rel Q (((gift.store _ s).gifts.find giftId).map _) (((gift.store _ t).gifts.find giftId).map _)
    cases hleft : (gift.store (s.gifts.updateMany (fun g => g.id = giftId && Pick.byId.takes g.status) u.write
        u.write_id) s).gifts.find giftId with
    | none =>
        rw [hleft] at hfind
        generalize Table.find _ giftId = right at hfind
        cases hfind
        exact .none
    | some g =>
        rw [hleft] at hfind
        obtain ⟨hid, hstatus⟩ := hstored g hleft
        generalize Table.find _ giftId = right at hfind
        cases hfind with
        | some hg => exact .some (hQ _ _ hset g (Table.mem_of_find hleft) _ hg hid hstatus)
  · cases h with
    | none => exact Svc.Agrees.fail _
    | some hupdated => exact Svc.Agrees.pure hupdated

/-- A table the two databases have in common, whose rows are all `ok`. -/
structure Common (V : Variation) (known : Gift → Prop) {ρ κ : Type} {key : ρ → κ} (d : Delegate Gifting key)
    (ok : ρ → Prop) : Prop where
  table : ∀ s t, V.Twins known s t → d.table s = d.table t
  rows : ∀ s t, V.Twins known s t → ∀ r ∈ (d.table s).rows, ok r
  store : ∀ T s t, V.Twins known s t → (∀ r ∈ T.rows, ok r) → V.Twins known (d.store T s) (d.store T t)

section Tables

variable {ρ κ : Type} [DecidableEq κ] {key : ρ → κ} {d : Delegate Gifting key} {ok : ρ → Prop}

theorem create_common (hd : Common V known d ok) (e : Err) {row : ρ} (hrow : ok row) :
    Tx.Agrees (V.Twins known) Eq (d.create e row) (d.create e row) := by
  intro s t h
  unfold Delegate.create
  rw [← hd.table s t h]
  cases hcreate : (d.table s).createUnless d.conflict row with
  | none => exact .error e
  | some T =>
      refine .ok ⟨rfl, hd.store T s t h fun r hr => ?_⟩
      rw [(Table.create_eq_some (Table.createUnless_eq_some.mp hcreate).1).1] at hr
      rcases List.mem_append.mp hr with hr | hr
      · exact hd.rows s t h r hr
      · rwa [List.mem_singleton.mp hr]

omit [DecidableEq κ] in
theorem updateMany_common (hd : Common V known d ok) (p : ρ → Bool) {f : ρ → ρ} (hf : ∀ r, key (f r) = key r)
    (hok : ∀ r, ok r → ok (f r)) :
    Tx.Agrees (ε := Err) (V.Twins known) Eq (d.updateMany p f hf) (d.updateMany p f hf) := by
  intro s t h
  unfold Delegate.updateMany
  rw [← hd.table s t h]
  refine .ok ⟨rfl, hd.store _ s t h fun written hwritten => ?_⟩
  obtain ⟨r, hr, rfl⟩ := Table.mem_updateMany.mp hwritten
  have hrow := hd.rows s t h r hr
  split
  · exact hok r hrow
  · exact hrow

end Tables

theorem shipments_common : Common V known shipment fun _ => True where
  table := common (f := Gifting.shipments) fun _ _ _ _ => rfl
  rows _ _ _ _ _ := trivial
  store T _ _ h _ := h.change (f := fun w => { w with shipments := T }) (fun _ _ _ _ => rfl) h.posts

theorem posts_common : Common V known giftPost fun p => V.discreet p.giftId → p.revealSender = false where
  table := common (f := Gifting.posts) fun _ _ _ _ => rfl
  rows _ _ h := h.posts
  store T _ _ h hrows := h.change (f := fun w => { w with posts := T }) (fun _ _ _ _ => rfl) hrows

theorem deactivatePosts_agrees (giftId : String) :
    Svc.Agrees (V.Twins known) Eq (deactivatePosts giftId) (deactivatePosts giftId) := by
  refine Svc.Agrees.bind dateNow_agrees fun now _ hnow => ?_
  subst hnow
  exact Svc.Agrees.bind (Svc.Agrees.transaction (updateMany_common posts_common _ _ fun _ hp => hp)) fun _ _ _ =>
    Svc.Agrees.pure rfl

/-! ### Reads -/

theorem coverage_agrees {g g' : Gift} (hg : V.RowAlike g g') :
    Svc.Agrees (V.Twins known) Eq (loadCoverageSnapshot g.storeId g.productId)
      (loadCoverageSnapshot g'.storeId g'.productId) := by
  obtain ⟨c, -, -⟩ := hg
  exact query_common fun _ _ _ _ => rfl

theorem findOne_agrees (giftId : String) {viewer : String} (hviewer : ¬V.party viewer) :
    Svc.Agrees (V.Twins known) (V.Sees viewer) (findOne giftId viewer) (findOne giftId viewer) := by
  refine Svc.Agrees.bind (findGiftWithParties_agrees giftId) fun x y hxy => ?_
  have hguard := or_congr (hxy.gift.sender_iff hviewer) (by rw [hxy.gift.receiverId] :
    viewer = x.gift.receiverId ↔ viewer = y.gift.receiverId)
  refine Svc.Agrees.bind (Svc.Agrees.ensure hguard) fun _ _ _ => ?_
  refine Svc.Agrees.bind (coverage_agrees hxy.gift) fun coverage coverage' hcoverage => ?_
  refine Svc.Agrees.bind (query_common fun _ _ _ _ => rfl) fun shipment shipment' hshipment => ?_
  refine Svc.Agrees.pure fun hblind => ?_
  rw [view_alike hxy hviewer hblind, hcoverage, hshipment]

theorem list_agrees {viewer : String} (hviewer : ¬V.party viewer) {p : Gift → Bool} (hp : ∀ g g', V.RowAlike g g' → p g = p g') :
    Svc.Agrees (V.Twins known) (V.Sees viewer)
      (do
        let list ← Svc.query .read fun w : Gifting => (newestFirst (w.gifts.rows.filter p)).map (withParties w)
        pure (list.map fun g => applyGiftVisibility g viewer) : Service (List GiftView))
      (do
        let list ← Svc.query .read fun w : Gifting => (newestFirst (w.gifts.rows.filter p)).map (withParties w)
        pure (list.map fun g => applyGiftVisibility g viewer)) := by
  refine Svc.Agrees.bind (Q := List.Forall₂ (GiftAlike V)) (Svc.Agrees.query fun s t h => ?_) fun l l' hl => ?_
  · have hrows := forall₂_filter hp h.gifts
    have hsorted : List.Forall₂ V.RowAlike (newestFirst (s.gifts.rows.filter p)) (newestFirst (t.gifts.rows.filter p)) := by
      refine forall₂_insertionSort (fun a b c d hab hcd => ?_) hrows
      obtain ⟨x, -, -⟩ := hab
      obtain ⟨y, -, -⟩ := hcd
      exact Iff.rfl
    exact List.forall₂_map_left_iff.mpr (List.forall₂_map_right_iff.mpr
      (hsorted.imp fun g g' hg => withParties_alike h hg))
  · refine Svc.Agrees.pure fun hblind => ?_
    rw [← List.forall₂_eq_eq_eq]
    exact List.forall₂_map_left_iff.mpr (List.forall₂_map_right_iff.mpr
      (hl.imp fun x y hxy => view_alike hxy hviewer hblind))

theorem findSent_agrees (senderId : String) {viewer : String} (hviewer : ¬V.party viewer) :
    Svc.Agrees (V.Twins known) (V.Sees viewer) (findSent senderId viewer) (findSent senderId viewer) := by
  by_cases hown : senderId = viewer
  · subst hown
    refine Svc.Agrees.bind (Svc.Agrees.ensure Iff.rfl) fun _ _ _ => list_agrees hviewer fun g g' hg => ?_
    rw [decide_eq_decide, eq_comm, hg.sender_iff hviewer, eq_comm]
  · rw [findSent, Svc.ensure, if_neg hown]
    exact Svc.Agrees.fail _

theorem findReceived_agrees (receiverId : String) {viewer : String} (hviewer : ¬V.party viewer) :
    Svc.Agrees (V.Twins known) (V.Sees viewer) (findReceived receiverId viewer) (findReceived receiverId viewer) := by
  by_cases hown : receiverId = viewer
  · subst hown
    refine Svc.Agrees.bind (Svc.Agrees.ensure Iff.rfl) fun _ _ _ => list_agrees hviewer fun g g' hg => ?_
    rw [hg.receiverId]
  · rw [findReceived, Svc.ensure, if_neg hown]
    exact Svc.Agrees.fail _

/-! ### create -/

theorem default_alike {s t : Gifting} (h : V.Twins known s t) (userId : String) :
    Option.Rel (AddressAlike V.moved V.stores) (defaultAddress userId s) (defaultAddress userId t) := by
  rw [defaultAddress, defaultAddress, h.same, h.addresses]
  by_cases hempty : userId = ""
  · rw [if_pos hempty, if_pos hempty]
    exact .none
  · rw [if_neg hempty, if_neg hempty]
    exact forall₂_find? (fun a b hab => by rw [hab.userId, hab.isDefault]) V.alike

theorem checkRecipient_agrees (draft : GiftDraft) :
    Svc.Agrees (V.Twins known) Eq (checkRecipient draft) (checkRecipient draft) := by
  refine Svc.Agrees.bind (query_common fun _ _ _ _ => rfl) fun sender _ hsender => ?_
  subst hsender
  cases sender with
  | none => exact Svc.Agrees.fail _
  | some sender =>
      refine Svc.Agrees.bind (Svc.Agrees.ensure Iff.rfl) fun _ _ _ => ?_
      refine Svc.Agrees.bind (query_common fun _ _ _ _ => rfl) fun receiver _ hreceiver => ?_
      subst hreceiver
      cases receiver with
      | none => exact Svc.Agrees.fail _
      | some receiver =>
          refine Svc.Agrees.bind (query_common fun _ _ _ _ => rfl) fun blocked _ hblocked => ?_
          subst hblocked
          refine Svc.Agrees.bind (Svc.Agrees.ensure Iff.rfl) fun _ _ _ => ?_
          refine Svc.Agrees.bind (Q := Eq) (Svc.Agrees.query fun s t h => ?_) fun hasDefault _ hdefault => ?_
          · have halike := default_alike h receiver.id
            generalize defaultAddress receiver.id s = left at halike
            generalize defaultAddress receiver.id t = right at halike
            cases halike <;> rfl
          · subst hdefault
            refine Svc.Agrees.ite Iff.rfl (fun _ => Svc.Agrees.pure rfl) fun _ => ?_
            exact Svc.Agrees.bind (trigger_agrees (.inl rfl)) fun _ _ _ => Svc.Agrees.fail _

/-- The city a request for the same day names does not tell two address books apart. -/
def SameCities (addresses addresses' : Table Address.id) (body : Shop.CreateGiftInput) : Prop :=
  body.isFastDelivery = true → ∀ storeCity, Shop.trimOrNull body.storeCity = some storeCity →
    List.Forall₂ (fun a b : Address => (Shop.Cities.normaliseCity a.city = Shop.Cities.normaliseCity storeCity ↔
      Shop.Cities.normaliseCity b.city = Shop.Cities.normaliseCity storeCity)) addresses.rows addresses'.rows

theorem checkFastDelivery_agrees {body : Shop.CreateGiftInput} (hcities : SameCities V.addresses V.addresses' body) (receiverId : String) :
    Svc.Agrees (V.Twins known) Eq (checkFastDelivery body receiverId) (checkFastDelivery body receiverId) := by
  rw [checkFastDelivery]
  refine Svc.Agrees.ite Iff.rfl (fun hfast => ?_) fun _ => Svc.Agrees.pure rfl
  cases hcity : Shop.trimOrNull body.storeCity with
  | none => exact Svc.Agrees.fail _
  | some storeCity =>
      have hsame := hcities hfast storeCity hcity
      refine Svc.Agrees.bind (Q := Eq) (Svc.Agrees.query fun s t h => ?_) fun ok _ hok => ?_
      · rw [canDeliverFastInline, canDeliverFastInline, h.same, h.addresses]
        have hboth := (forall₂_conj V.alike hsame)
        have hrows := forall₂_filter (p := fun a => decide (a.userId = receiverId))
          (q := fun a => decide (a.userId = receiverId)) (fun a b hab => by rw [hab.1.userId]) hboth
        exact congrArg _ (forall₂_any (fun a b hab => decide_eq_decide.mpr hab.2) hrows)
      · subst hok
        exact Svc.Agrees.ensure Iff.rfl

theorem checkProduct_agrees (productId : Option String) :
    Svc.Agrees (V.Twins known) Eq (checkProduct productId) (checkProduct productId) := by
  rw [checkProduct]
  cases productId.filter fun id => id ≠ "" with
  | none => exact Svc.Agrees.pure rfl
  | some productId =>
      refine Svc.Agrees.bind (query_common fun _ _ _ _ => rfl) fun product _ hproduct => ?_
      subst hproduct
      cases product with
      | none => exact Svc.Agrees.fail _
      | some product => exact Svc.Agrees.bind (Svc.Agrees.ensure Iff.rfl) fun _ _ _ => Svc.Agrees.pure rfl

theorem resolveOccasion_agrees (occasionId : Option String) (senderId receiverId : String) :
    Svc.Agrees (V.Twins known) Eq (resolveOccasion occasionId senderId receiverId)
      (resolveOccasion occasionId senderId receiverId) := by
  rw [resolveOccasion]
  cases Shop.trimOrNull occasionId with
  | none => exact Svc.Agrees.pure rfl
  | some requested =>
      refine Svc.Agrees.bind (query_common fun _ _ _ _ => rfl) fun occasion _ hoccasion => ?_
      subst hoccasion
      exact Svc.Agrees.pure rfl

theorem allocateReference_agrees (drawn : List String) (attempts : Nat) :
    Svc.Agrees (V.Twins known) Eq (allocateReference drawn attempts) (allocateReference drawn attempts) := by
  induction attempts generalizing drawn with
  | zero =>
      cases drawn with
      | nil => exact Svc.Agrees.fail _
      | cons candidate rest => exact Svc.Agrees.fail _
  | succ attempts ih =>
      cases drawn with
      | nil => exact Svc.Agrees.fail _
      | cons candidate rest =>
          refine Svc.Agrees.bind (Q := Eq) (Svc.Agrees.query fun s t h => ?_) fun taken _ htaken => ?_
          · refine forall₂_any (fun g g' hg => ?_) h.gifts
            obtain ⟨c, -, -⟩ := hg
            rfl
          · subst htaken
            exact Svc.Agrees.ite Iff.rfl (fun _ => ih rest) fun _ => Svc.Agrees.pure rfl

theorem giftByKey_alike {s t : Gifting} (h : V.Twins known s t) {senderId : String} (hviewer : ¬V.party senderId)
    (key : String) : Option.Rel (GiftAlike V) (giftByKey senderId key s) (giftByKey senderId key t) := by
  rw [giftByKey, giftByKey]
  have hfind := forall₂_find? (p := fun g : Gift => decide (g.senderId = senderId ∧ g.idempotencyKey = some key))
    (q := fun g : Gift => decide (g.senderId = senderId ∧ g.idempotencyKey = some key)) (fun g g' hg => by
      rw [decide_eq_decide, eq_comm, hg.sender_iff hviewer, eq_comm, hg.idempotencyKey]) h.gifts
  generalize List.find? _ s.gifts.rows = left at hfind
  generalize List.find? _ t.gifts.rows = right at hfind
  cases hfind with
  | none => exact .none
  | some hg => exact .some (withParties_alike h hg)

theorem replayGift_agrees {senderId : String} (hviewer : ¬V.party senderId) (requestHash : String)
    {x y : GiftWithParties} (hxy : GiftAlike V x y) :
    Svc.Agrees (V.Twins known) (fun r r' => r.replayed = true ∧ r'.replayed = true ∧ V.Sees senderId r r')
      (replayGift senderId requestHash x) (replayGift senderId requestHash y) := by
  have hview := view_alike hxy hviewer
  refine Svc.Agrees.bind (Svc.Agrees.ensure (by rw [hxy.gift.requestHash])) fun _ _ _ => Svc.Agrees.pure ⟨rfl, rfl, fun hblind => ?_⟩
  rw [hview hblind]

theorem createRow_agrees {g : Gift} {e : Err} (haddress : g.addressId = none) (hsender : ¬V.party g.senderId)
    (hnew : ∀ k, ¬known k) :
    Tx.Agrees (V.Twins known) (fun a b => a = g ∧ b = g) (gift.create e g) (gift.create e g) := by
  intro s t h
  have hown : V.Owned g := fun id hid => by rw [haddress] at hid; cases hid
  have hcreate : Option.Rel (fun T T' => List.Forall₂ V.RowAlike T.rows T'.rows)
      ((gift.table s).createUnless gift.conflict g) ((gift.table t).createUnless gift.conflict g) :=
    Table.forall₂_createUnless (RowAlike.refl hown) (fun _ _ hg => hg.id) (fun x y hxy => by
      show decide (g.fulfillmentNumber = x.fulfillmentNumber ∨ g.senderId = x.senderId ∧ _) =
        decide (g.fulfillmentNumber = y.fulfillmentNumber ∨ g.senderId = y.senderId ∧ _)
      rw [hxy.fulfillmentNumber, hxy.idempotencyKey, decide_eq_decide, hxy.sender_iff hsender]) h.gifts
  unfold Delegate.create
  generalize (gift.table s).createUnless gift.conflict g = left at hcreate
  generalize (gift.table t).createUnless gift.conflict g = right at hcreate
  cases hcreate with
  | none => exact .error e
  | some hrows => exact .ok ⟨⟨rfl, rfl⟩, h.store hrows fun _ _ k hk => absurd hk (hnew k)⟩

theorem createGift_agrees {row : Time → Gift} (haddress : ∀ now, (row now).addressId = none)
    (hsender : ∀ now, ¬V.party (row now).senderId) (hnew : ∀ k, ¬known k) :
    Svc.Agrees (V.Twins known) Eq (Svc.transaction .createGift (createGiftTx row) : Service GiftWithParties)
      (Svc.transaction .createGift (createGiftTx row)) := by
  refine Svc.Agrees.transaction ?_
  refine Tx.Agrees.bind (Q := Eq) (Tx.Agrees.read fun s t h => common (fun _ _ _ _ => rfl) s t h) fun now _ hnow => ?_
  subst hnow
  refine Tx.Agrees.bind (Q := Eq) (Tx.Agrees.read fun s t h => common
    (f := fun w => (row now).storeId.all fun id => (w.stores.find id).isSome) (fun _ _ _ _ => rfl) s t h)
    fun known' _ hknown => ?_
  subst hknown
  refine Tx.Agrees.bind (Tx.Agrees.ensure Iff.rfl) fun _ _ _ => ?_
  refine Tx.Agrees.bind (createRow_agrees (haddress now) (hsender now) hnew) fun a b hab => ?_
  obtain ⟨rfl, hb⟩ := hab
  rw [hb]
  refine Tx.Agrees.read fun s t h => common (f := fun w => withParties w (row now)) (fun w A G N => ?_) s t h
  show GiftWithParties.mk _ _ _ ((row now).addressId.bind _) = GiftWithParties.mk _ _ _ ((row now).addressId.bind _)
  rw [haddress now]
  rfl

theorem insertGift_agrees (identity : Option (String × String)) {senderId : String} (hviewer : ¬V.party senderId)
    {row : Time → Gift} (haddress : ∀ now, (row now).addressId = none) (hsender : ∀ now, (row now).senderId = senderId)
    (hnew : ∀ k, ¬known k) :
    Svc.Agrees (V.Twins known) (V.Sees senderId) (insertGift identity senderId row)
      (insertGift identity senderId row) := by
  refine Svc.Agrees.bind (Q := fun r r' => r.replayed = r'.replayed ∧ (r.replayed = false → r = r') ∧
    V.Sees senderId r r') ?_ fun r r' hr => ?_
  · refine Svc.Agrees.tryCatch (Svc.Agrees.bind (createGift_agrees haddress (fun now => hsender now ▸ hviewer) hnew) fun x _ hx => ?_) fun e => ?_
    · subst hx
      exact Svc.Agrees.pure ⟨rfl, fun _ => rfl, fun _ => rfl⟩
    · cases e with
      | p2002 target =>
          cases identity with
          | none => exact Svc.Agrees.fail _
          | some pair =>
              refine Svc.Agrees.bind (Svc.Agrees.query fun s t h => giftByKey_alike h hviewer pair.1)
                fun winner winner' hwinner => ?_
              cases hwinner with
              | none => exact Svc.Agrees.fail _
              | some hxy =>
                  refine (replayGift_agrees hviewer pair.2 hxy).mono fun r r' hr => ?_
                  exact ⟨hr.1.trans hr.2.1.symm, fun hnot => absurd hr.1 (by rw [hnot]; decide), hr.2.2⟩
      | _ => exact Svc.Agrees.fail _
  · refine Svc.Agrees.ite (by rw [hr.1]) (fun _ => Svc.Agrees.pure hr.2.2) fun hnot => ?_
    obtain rfl := hr.2.1 (Bool.not_eq_true _ ▸ hnot)
    refine Svc.Agrees.bind (Svc.Agrees.bind (trigger_agrees (.inl rfl)) fun _ _ _ => trigger_agrees (.inl rfl))
      fun _ _ _ => Svc.Agrees.pure fun _ => rfl

theorem createNew_agrees {body : Shop.CreateGiftInput} (hcities : SameCities V.addresses V.addresses' body) {draft : GiftDraft}
    (hviewer : ¬V.party draft.senderId) (drawn : List String) (giftId : String) (hnew : ∀ k, ¬known k) :
    Svc.Agrees (V.Twins known) (V.Sees draft.senderId) (createNew body draft drawn giftId)
      (createNew body draft drawn giftId) := by
  refine Svc.Agrees.bind (checkRecipient_agrees draft) fun receiverId _ hreceiver => ?_
  subst hreceiver
  refine Svc.Agrees.bind (checkFastDelivery_agrees hcities receiverId) fun _ _ _ => ?_
  refine Svc.Agrees.bind (checkProduct_agrees body.productId) fun storeId _ hstore => ?_
  subst hstore
  refine Svc.Agrees.bind (resolveOccasion_agrees _ _ _) fun occasionId _ hoccasion => ?_
  subst hoccasion
  refine Svc.Agrees.bind (allocateReference_agrees _ _) fun fulfillmentNumber _ hnumber => ?_
  subst hnumber
  exact insertGift_agrees draft.identity hviewer (fun _ => rfl) (fun _ => rfl) hnew

theorem create_agrees [Runtime] {body : Shop.CreateGiftInput} (hcities : SameCities V.addresses V.addresses' body) {viewer : String}
    (hviewer : ¬V.party viewer) (idempotencyKey : Option String) (drawn : List String) (giftId : String) (hnew : ∀ k, ¬known k) :
    Svc.Agrees (V.Twins known) (V.Sees viewer) (create body viewer idempotencyKey drawn giftId)
      (create body viewer idempotencyKey drawn giftId) := by
  have hcreate (draft : GiftDraft) (hsender : draft.senderId = viewer) : Svc.Agrees (V.Twins known) (V.Sees viewer)
      (createNew body draft drawn giftId) (createNew body draft drawn giftId) :=
    hsender ▸ createNew_agrees hcities (hsender ▸ hviewer) drawn giftId hnew
  refine Svc.Agrees.bind (Svc.Agrees.ofExcept (Alike.refl (fun _ => rfl) _)) fun media _ hmedia => ?_
  subst hmedia
  cases Shop.trimOrNull body.receiverUsername with
  | none => exact Svc.Agrees.fail _
  | some receiverUsername =>
      cases Shop.trimOrNull body.productName with
      | none => exact Svc.Agrees.fail _
      | some productName =>
          cases Shop.trimOrNull body.storeName with
          | none => exact Svc.Agrees.fail _
          | some storeName =>
              cases Shop.trimOrNull idempotencyKey with
              | none => exact hcreate _ rfl
              | some key =>
                  refine Svc.Agrees.bind (Svc.Agrees.ensure Iff.rfl) fun _ _ _ => ?_
                  refine Svc.Agrees.bind (Svc.Agrees.query fun s t h => giftByKey_alike h hviewer key)
                    fun existing existing' hexisting => ?_
                  cases hexisting with
                  | none => exact hcreate _ rfl
                  | some hxy => exact (replayGift_agrees hviewer _ hxy).mono fun _ _ hr => hr.2.2

/-! ### What the parties are told -/

theorem notifySender_agrees {g g' : Gift} (hg : V.RowAlike g g') (type : NotificationType) (title : String) :
    Svc.Agrees (V.Twins known) Eq (trigger (notifySender g type title)) (trigger (notifySender g' type title)) := by
  refine trigger_agrees ?_
  obtain ⟨c, -, hc⟩ := hg
  rcases hc with rfl | ⟨hhides, hsender, -⟩ | ⟨hveils, -⟩
  · exact .inl rfl
  · exact .inr ⟨V.quiet g _ hhides (.inl rfl), V.quiet g _ hhides (.inl hsender)⟩
  · obtain ⟨-, hfirst, hsecond⟩ := V.anonymous g _ hveils
    exact .inr ⟨V.silent _ hfirst, V.silent _ hsecond⟩

theorem notifyReceiver_agrees {g g' : Gift} (hg : V.RowAlike g g') {status : GiftStatus} (hstatus : status ≠ .delivered)
    (type : NotificationType) (title : String) :
    Svc.Agrees (V.Twins known) Eq (trigger (notifyReceiver g status type title))
      (trigger (notifyReceiver g' status type title)) := by
  refine trigger_agrees (.inl ?_)
  obtain ⟨c, -, hc⟩ := hg
  show notifyReceiver g status type title =
    notifyReceiver { g with productName := c.contents.productName } status type title
  rcases hc with rfl | ⟨-, -, hsurprise | ⟨hproduct, -⟩⟩ | ⟨-, hcontents⟩
  · rfl
  · have hbody (product : String) : bodyForReceiverGiftUpdate g.isSurprise status product = none := by
      rw [bodyForReceiverGiftUpdate, if_pos ⟨hsurprise, hstatus⟩]
    show Notification.mk _ _ _ (some (withFulfillmentRef (bodyForReceiverGiftUpdate g.isSurprise status _) _)) _ =
      Notification.mk _ _ _ (some (withFulfillmentRef (bodyForReceiverGiftUpdate g.isSurprise status _) _)) _
    rw [hbody, hbody]
  · rw [hproduct]
  · rw [hcontents]
    rfl

/-! ### confirmAddress -/

/-- What a confirmation chooses: the address of its caller, at coverage the two runs agree on. -/
structure ChosenAlike (V : Variation) (viewer : String) (p q : String × Market.AddressScope) : Prop where
  id : p.1 = q.1
  covers : ∀ store ∈ V.stores.rows, store.covers p.2 = store.covers q.2
  owner : ∀ a, V.addresses.find p.1 = some a → a.userId = viewer

theorem chooseAddress_agrees (viewer : String) (addressId : Option String) :
    Svc.Agrees (V.Twins known) (ChosenAlike V viewer) (chooseAddress viewer addressId)
      (chooseAddress viewer addressId) := by
  have howner {a : Address} (ha : a ∈ V.addresses.rows) (hmine : a.userId = viewer) (b : Address)
      (hb : V.addresses.find a.id = some b) : b.userId = viewer := by
    rw [Table.find_of_mem ha] at hb
    cases hb
    exact hmine
  rw [chooseAddress]
  cases addressId.filter fun id => id ≠ "" with
  | some addressId =>
      refine Svc.Agrees.bind (Q := Option.Rel fun a b => AddressAlike V.moved V.stores a b ∧ a ∈ V.addresses.rows ∧
        a.userId = viewer) (Svc.Agrees.query fun s t h => ?_) fun owned owned' howned => ?_
      · rw [h.same, h.addresses]
        have hfind := forall₂_find? (p := fun a : Address => decide (a.id = addressId ∧ a.userId = viewer))
          (q := fun a : Address => decide (a.id = addressId ∧ a.userId = viewer))
          (fun a b hab => by rw [hab.id, hab.userId]) V.alike
        cases hleft : V.addresses.rows.find? fun a => decide (a.id = addressId ∧ a.userId = viewer) with
        | none =>
            rw [hleft] at hfind
            show Option.Rel _ _ (V.addresses'.rows.find? _)
            generalize List.find? _ V.addresses'.rows = right at hfind ⊢
            cases hfind
            exact .none
        | some a =>
            rw [hleft] at hfind
            have hmine : a.id = addressId ∧ a.userId = viewer := by
              simpa using List.find?_some hleft
            show Option.Rel _ _ (V.addresses'.rows.find? _)
            generalize List.find? _ V.addresses'.rows = right at hfind ⊢
            cases hfind with
            | some hab => exact .some ⟨hab, List.mem_of_find?_eq_some hleft, hmine.2⟩
      · cases howned with
        | none => exact Svc.Agrees.fail _
        | some hab => exact Svc.Agrees.pure ⟨hab.1.id, hab.1.covers, howner hab.2.1 hab.2.2⟩
  | none =>
      refine Svc.Agrees.bind (Q := Option.Rel fun a b => AddressAlike V.moved V.stores a b ∧ a ∈ V.addresses.rows ∧
        a.userId = viewer) (Svc.Agrees.query fun s t h => ?_) fun found found' hfound => ?_
      · have hdefault := default_alike h viewer
        cases hleft : defaultAddress viewer s with
        | none =>
            rw [hleft] at hdefault
            generalize defaultAddress viewer t = right at hdefault
            cases hdefault
            exact .none
        | some a =>
            rw [hleft] at hdefault
            rw [defaultAddress, h.addresses] at hleft
            split at hleft
            · cases hleft
            · have hmine : a.userId = viewer ∧ a.isDefault = true := by
                simpa using List.find?_some hleft
              generalize defaultAddress viewer t = right at hdefault
              cases hdefault with
              | some hab => exact .some ⟨hab, List.mem_of_find?_eq_some hleft, hmine.1⟩
      · cases hfound with
        | none => exact Svc.Agrees.fail _
        | @some a b hab =>
            obtain ⟨hab, hmem, hmine⟩ := hab
            refine Svc.Agrees.bind (Q := Option.Rel (AddressAlike V.moved V.stores))
              (Svc.Agrees.query fun s t h => hab.id ▸ find_address_alike h a.id) fun full full' hfull => ?_
            refine Svc.Agrees.pure ⟨hab.id, fun store hstore => ?_, howner hmem hmine⟩
            cases hfull with
            | none => rfl
            | some hcd => exact hcd.covers store hstore

theorem storeOf_agrees {g g' : Gift} (hg : V.RowAlike g g') :
    Svc.Agrees (V.Twins known) (fun o o' => o = o' ∧ ∀ store, o = some store → store ∈ V.stores.rows)
      (Svc.query .read fun w => referenced w.stores.find g.storeId : Service (Option Store))
      (Svc.query .read fun w => referenced w.stores.find g'.storeId) := by
  obtain ⟨c, -, -⟩ := hg
  refine Svc.Agrees.query fun s t h => ⟨?_, fun store hstore => ?_⟩
  · exact common (f := fun w => referenced w.stores.find g.storeId) (fun _ _ _ _ => rfl) s t h
  · rw [referenced, h.stores] at hstore
    obtain ⟨id, -, hfind⟩ := Option.bind_eq_some_iff.mp hstore
    exact Table.mem_of_find hfind

theorem coverageGate_agrees {g g' : Gift} (hg : V.RowAlike g g') {scope scope' : Market.AddressScope}
    (hcovers : ∀ store ∈ V.stores.rows, store.covers scope = store.covers scope') :
    Svc.Agrees (V.Twins known) Eq (coverageGate g scope) (coverageGate g' scope') := by
  refine Svc.Agrees.bind (storeOf_agrees hg) fun store _ hstore => ?_
  obtain ⟨c, -, -⟩ := hg
  obtain ⟨rfl, hmem⟩ := hstore
  cases store with
  | none => exact Svc.Agrees.pure rfl
  | some store =>
      refine Svc.Agrees.bind (query_common fun _ _ _ _ => rfl) fun fast _ hfast => ?_
      subst hfast
      exact Svc.Agrees.ensure (by rw [hcovers store (hmem store rfl)])

omit [Shop.Cities] in
theorem findGift_finds {giftId : String} {s u : Gifting} {g : Gift} (h : (findGift giftId).exec s = (.ok g, u)) :
    u.gifts.find giftId = some g := by
  rw [findGift, Svc.exec_bind_ok] at h
  obtain ⟨found, t, hquery, hrest⟩ := h
  cases hquery
  dsimp only at hrest
  cases hfound : s.gifts.find giftId with
  | none =>
      rw [hfound] at hrest
      cases hrest
  | some g' =>
      rw [hfound] at hrest
      cases hrest
      exact hfound

/-- The gift a call has read keeps its parties. -/
theorem Variation.Twins.learn {s t : Gifting} {known : Gift → Prop} (h : V.Twins known s t) {known' : Gift → Prop}
    (hstored : ∀ k, known' k → k ∈ s.gifts.rows) : V.Twins known' s t :=
  { h with
    known := fun g hg k hk hid => by
      rw [s.gifts.row_unique (hstored k hk) hg hid]
      exact ⟨rfl, rfl⟩ }

/-- No gift has been read yet. -/
def nothingKnown : Gift → Prop := fun _ => False

theorem Variation.Twins.forget {s t : Gifting} {known : Gift → Prop} (h : V.Twins known s t) :
    V.Twins nothingKnown s t :=
  { h with known := fun _ _ _ hk => hk.elim }

theorem owned_of_chosen {viewer addressId : String} {confirmedAt : Time} {g : Gift} {u : Update}
    (hu : u = .addressConfirmed addressId confirmedAt ∨ u = .defaultAddressUsed addressId confirmedAt)
    (hreceiver : g.receiverId = viewer) (howner : ∀ a, V.addresses.find addressId = some a → a.userId = viewer) :
    V.Owned (u.write g) := by
  intro id hid a ha _
  have hchosen : addressId = id := by
    rcases hu with rfl | rfl <;> exact Option.some.inj hid
  subst hchosen
  rw [howner a ha, (u.write_parties g).1, hreceiver]

theorem confirmed_told {x y g : Gift} {c : Face} (hxy : V.RowAlike x y) (hsender : x.senderId = g.senderId)
    (hsame : c.senderId = g.senderId) :
    (Notification.mk g.senderId .GiftAddressConfirmed "تم تأكيد العنوان وجاري التجهيز"
        (some (withFulfillmentRef (some x.productName) x.fulfillmentNumber)) (giftLink g.id) =
      Notification.mk c.senderId .GiftAddressConfirmed "تم تأكيد العنوان وجاري التجهيز"
        (some (withFulfillmentRef (some y.productName) y.fulfillmentNumber)) (giftLink g.id)) ∨
    V.watched (Notification.mk g.senderId .GiftAddressConfirmed "تم تأكيد العنوان وجاري التجهيز"
        (some (withFulfillmentRef (some x.productName) x.fulfillmentNumber)) (giftLink g.id)) = false ∧
      V.watched (Notification.mk c.senderId .GiftAddressConfirmed "تم تأكيد العنوان وجاري التجهيز"
        (some (withFulfillmentRef (some y.productName) y.fulfillmentNumber)) (giftLink g.id)) = false := by
  obtain ⟨c', -, hc'⟩ := hxy
  rw [hsame]
  rcases hc' with rfl | ⟨hhides, -, -⟩ | ⟨-, hcontents⟩
  · exact .inl rfl
  · exact .inr ⟨V.quiet x _ hhides (.inl hsender.symm), V.quiet x _ hhides (.inl hsender.symm)⟩
  · refine .inl ?_
    show Notification.mk _ _ _ (some (withFulfillmentRef (some x.productName) x.fulfillmentNumber)) _ =
      Notification.mk _ _ _ (some (withFulfillmentRef (some c'.contents.productName) x.fulfillmentNumber)) _
    rw [hcontents]
    rfl

theorem confirmAddress_agrees (hkeep : ∀ addressId confirmedAt, V.Keeps (.addressConfirmed addressId confirmedAt))
    (giftId : String) {viewer : String} (houtside : ¬V.party viewer) (addressId : Option String) :
    Svc.Agrees (V.Twins nothingKnown) (V.Sees viewer) (confirmAddress giftId viewer addressId)
      (confirmAddress giftId viewer addressId) := by
  refine Svc.Agrees.bind_learning (S := fun g => V.Twins fun k => k = g) (findGift_agrees giftId)
    (fun s g u hexec t h => h.learn ?_) (fun _ _ _ h => h.forget) fun g g' hg => ?_
  · rintro k rfl
    exact Table.mem_of_find (findGift_finds hexec)
  obtain ⟨hg, hgid⟩ := hg
  have hrow := hg
  obtain ⟨c, hown, hc⟩ := hg
  by_cases hviewer : g.receiverId = viewer
  swap
  · have hother : ¬(c.write g).receiverId = viewer := hviewer
    refine Svc.Agrees.bind (Q := fun _ _ => False) ?_ fun _ _ h => h.elim
    rw [Svc.ensure, Svc.ensure, if_neg hviewer, if_neg hother]
    exact Svc.Agrees.fail _
  refine Svc.Agrees.bind (Svc.Agrees.ensure Iff.rfl) fun _ _ _ => ?_
  refine Svc.Agrees.ite Iff.rfl (fun _ => ?_) fun _ => ?_
  · refine Svc.Agrees.bind (findGiftWithParties_agrees giftId) fun x y hxy => ?_
    refine Svc.Agrees.bind (coverage_agrees hxy.gift) fun coverage _ hcoverage => ?_
    refine Svc.Agrees.pure fun hblind => ?_
    rw [view_alike hxy houtside hblind, hcoverage]
  · refine Svc.Agrees.bind (Svc.Agrees.ensure Iff.rfl) fun _ _ _ => ?_
    refine Svc.Agrees.bind (chooseAddress_agrees viewer addressId) fun chosen chosen' hchosen => ?_
    refine Svc.Agrees.bind (coverageGate_agrees hrow hchosen.covers) fun _ _ _ => ?_
    refine Svc.Agrees.bind dateNow_agrees fun now _ hnow => ?_
    subst hnow
    rw [← hchosen.id]
    refine Svc.Agrees.bind (Q := fun x y => GiftAlike V x y ∧ x.gift.senderId = g.senderId)
      (updateGift_agrees (hkeep _ _) (fun g₀ hk _ => ?_) fun s t h g₀ hg₀ g₁ hg₁ hid _ => ?_) fun x y hxy => ?_
    · exact owned_of_chosen (.inl rfl) ((hk g rfl hgid).trans hviewer) hchosen.owner
    · exact ⟨withParties_alike h hg₁, (h.known g₀ hg₀ g rfl (hgid.trans hid.symm)).2⟩
    · obtain ⟨hxy, hsender⟩ := hxy
      refine Svc.Agrees.bind (trigger_agrees ?_) fun _ _ _ => ?_
      · have hveiled (hveils : V.veils g c.senderId) := V.anonymous g _ hveils
        rcases hc with rfl | ⟨-, hsame, -⟩ | ⟨hveils, -⟩
        · exact confirmed_told hxy.gift hsender rfl
        · exact confirmed_told hxy.gift hsender hsame
        · exact .inr ⟨V.silent _ (hveiled hveils).2.1, V.silent _ (hveiled hveils).2.2⟩
      · refine Svc.Agrees.bind (coverage_agrees hxy.gift) fun coverage _ hcoverage => ?_
        refine Svc.Agrees.pure fun hblind => ?_
        rw [view_alike hxy houtside hblind, hcoverage]

/-! ### cancel -/

theorem Variation.Owned.update {g : Gift} (hown : V.Owned g) {u : Update}
    (haddress : (u.write g).addressId = g.addressId) : V.Owned (u.write g) := by
  intro id hid a ha hmoved
  rw [(u.write_parties g).1]
  exact hown id (haddress ▸ hid) a ha hmoved

theorem cancel_agrees (hkeep : V.Keeps .cancelled) (giftId : String) {viewer : String} (hviewer : ¬V.party viewer) :
    Svc.Agrees (V.Twins known) (V.Sees viewer) (cancel giftId viewer) (cancel giftId viewer) := by
  have hlast : Svc.Agrees (V.Twins known) (V.Sees viewer)
      (do
        let fresh ← findGiftWithParties giftId
        pure (applyGiftVisibility fresh viewer) : Service GiftView)
      (do
        let fresh ← findGiftWithParties giftId
        pure (applyGiftVisibility fresh viewer)) :=
    Svc.Agrees.bind (findGiftWithParties_agrees giftId) fun x y hxy => Svc.Agrees.pure (view_alike hxy hviewer)
  refine Svc.Agrees.bind (findGiftWithParties_agrees giftId) fun x y hxy => ?_
  have hguard : x.gift.senderId = viewer ↔ y.gift.senderId = viewer := by
    rw [eq_comm, hxy.gift.sender_iff hviewer, eq_comm]
  refine Svc.Agrees.bind (Svc.Agrees.ensure hguard) fun _ _ _ => ?_
  rw [hxy.gift.status]
  refine Svc.Agrees.ite Iff.rfl (fun _ => Svc.Agrees.pure (view_alike hxy hviewer)) fun _ => ?_
  refine Svc.Agrees.bind (Svc.Agrees.ensure Iff.rfl) fun _ _ _ => ?_
  refine Svc.Agrees.bind (updateGiftWhile_agrees hkeep fun g _ hg => hg.update rfl) fun count _ hcount => ?_
  subst hcount
  refine Svc.Agrees.ite Iff.rfl (fun _ => hlast) fun _ => ?_
  refine Svc.Agrees.bind (deactivatePosts_agrees giftId) fun _ _ _ => ?_
  exact Svc.Agrees.bind (notifyReceiver_agrees hxy.gift (by decide) _ _) fun _ _ _ => hlast

/-! ### The sweep -/

theorem candidates_alike {s t : Gifting} (h : V.Twins known s t) (receiverId : String) :
    List.Forall₂ (fun a b => AddressAlike V.moved V.stores a b ∧ a ∈ V.addresses.rows ∧ a.userId = receiverId)
      (candidates receiverId s) (candidates receiverId t) := by
  rw [candidates, candidates, h.same, h.addresses]
  refine forall₂_insertionSort (fun a b c d hab hcd => ?_) ?_
  · rw [sweepOrder, sweepOrder, hab.1.isDefault, hab.1.id, hcd.1.isDefault, hcd.1.id]
  · have hrows := forall₂_filter (p := fun a : Address => decide (a.userId = receiverId))
      (q := fun a : Address => decide (a.userId = receiverId)) (fun a b hab => by rw [hab.userId]) V.alike
    have hmine (a : Address) (ha : a ∈ V.addresses.rows.filter fun a => decide (a.userId = receiverId)) :
        a ∈ V.addresses.rows ∧ a.userId = receiverId := by
      simpa using ha
    refine ((List.forall₂_and_left _ _).mpr ⟨hmine, hrows⟩).imp fun a b hab => ⟨hab.2, hab.1⟩

/-- The two runs use the same address. -/
theorem chooseCandidate_alike {receiverId : String} {store : Option Store}
    (hstore : ∀ x, store = some x → x ∈ V.stores.rows) (fast : Bool) {first first' : Address} {rest rest' : List Address}
    (h : List.Forall₂ (fun a b => AddressAlike V.moved V.stores a b ∧ a ∈ V.addresses.rows ∧ a.userId = receiverId)
      (first :: rest) (first' :: rest')) :
    chooseCandidate store fast first rest = chooseCandidate store fast first' rest' ∧
      ∀ id, chooseCandidate store fast first rest = some id →
        ∀ a, V.addresses.find id = some a → a.userId = receiverId := by
  have howner {a : Address} (ha : a ∈ V.addresses.rows) (hmine : a.userId = receiverId) (id : String)
      (hid : a.id = id) (b : Address) (hb : V.addresses.find id = some b) : b.userId = receiverId := by
    rw [← hid, Table.find_of_mem ha] at hb
    cases hb
    exact hmine
  have hfirst : chooseCandidate none fast first rest = chooseCandidate none fast first' rest' ∧
      ∀ id, chooseCandidate none fast first rest = some id →
        ∀ a, V.addresses.find id = some a → a.userId = receiverId := by
    cases h with
    | cons hab _ =>
        have hleft : chooseCandidate none fast first rest = some first.id := by cases fast <;> rfl
        have hright : chooseCandidate none fast first' rest' = some first'.id := by cases fast <;> rfl
        rw [hleft, hright, hab.1.id]
        refine ⟨rfl, fun id hid => ?_⟩
        exact howner hab.2.1 hab.2.2 id (hab.1.id.trans (Option.some.inj hid))
  cases store with
  | none => exact hfirst
  | some store =>
      cases fast with
      | false => exact hfirst
      | true =>
          have hfind := forall₂_find? (p := fun a : Address => store.covers a.scope)
            (q := fun a : Address => store.covers a.scope)
            (fun a b hab => hab.1.covers store (hstore store rfl)) h
          show ((first :: rest).find? _).map Address.id = ((first' :: rest').find? _).map Address.id ∧
            ∀ id, ((first :: rest).find? _).map Address.id = some id → _
          generalize (first :: rest).find? _ = left at hfind ⊢
          generalize (first' :: rest').find? _ = right at hfind ⊢
          cases hfind with
          | none => exact ⟨rfl, fun id hid => by cases hid⟩
          | some hab =>
              refine ⟨congrArg some hab.1.id, fun id hid => ?_⟩
              exact howner hab.2.1 hab.2.2 id (Option.some.inj hid)

theorem sweepGift_agrees (hkeep : ∀ addressId confirmedAt, V.Keeps (.defaultAddressUsed addressId confirmedAt))
    {g g' : Gift} (hg : V.RowAlike g g') (hknown : known g) :
    Svc.Agrees (V.Twins known) Eq (sweepGift g) (sweepGift g') := by
  have hrow := hg
  obtain ⟨c, -, -⟩ := hg
  refine Svc.Agrees.bind (storeOf_agrees hrow) fun store _ hstore => ?_
  obtain ⟨rfl, hmem⟩ := hstore
  refine Svc.Agrees.bind (query_common fun _ _ _ _ => rfl) fun fast _ hfast => ?_
  subst hfast
  refine Svc.Agrees.bind (Svc.Agrees.query fun s t h => candidates_alike h g.receiverId) fun found found' hfound => ?_
  cases hfound with
  | nil => exact Svc.Agrees.pure rfl
  | @cons first first' rest rest' hfirst hrest =>
      obtain ⟨hsame, howner⟩ := chooseCandidate_alike hmem fast (.cons hfirst hrest)
      dsimp only
      rw [← hsame]
      cases hchosen : chooseCandidate store fast first rest with
      | none =>
          refine Svc.Agrees.bind (notifyReceiver_agrees hrow (by decide) _ _) fun _ _ _ => ?_
          exact Svc.Agrees.bind (notifySender_agrees hrow _ _) fun _ _ _ => Svc.Agrees.pure rfl
      | some chosenId =>
          refine Svc.Agrees.bind dateNow_agrees fun now _ hnow => ?_
          subst hnow
          refine Svc.Agrees.bind (updateGiftWhile_agrees (hkeep _ _) fun g₀ hk _ =>
            owned_of_chosen (.inr rfl) (hk g hknown rfl) (howner chosenId hchosen)) fun count _ hcount => ?_
          subst hcount
          refine Svc.Agrees.ite Iff.rfl (fun _ => Svc.Agrees.pure rfl) fun _ => ?_
          refine Svc.Agrees.bind (notifyReceiver_agrees hrow (by decide) _ _) fun _ _ _ => ?_
          exact Svc.Agrees.bind (notifySender_agrees hrow _ _) fun _ _ _ => Svc.Agrees.pure rfl

theorem sweepAll_agrees (hkeep : ∀ addressId confirmedAt, V.Keeps (.defaultAddressUsed addressId confirmedAt))
    {l l' : List Gift} (hl : List.Forall₂ V.RowAlike l l') (hknown : ∀ g ∈ l, known g) (r : SweepResult) :
    Svc.Agrees (V.Twins known) Eq (sweepAll l r) (sweepAll l' r) := by
  induction hl generalizing r with
  | nil => exact Svc.Agrees.pure rfl
  | @cons g g' l l' hg _ ih =>
      have hfirst := sweepGift_agrees hkeep hg (hknown g List.mem_cons_self)
      refine Svc.Agrees.bind (Svc.Agrees.tryCatch hfirst fun _ => Svc.Agrees.pure rfl) fun outcome _ houtcome => ?_
      subst houtcome
      exact ih (fun g hg => hknown g (List.mem_cons_of_mem _ hg)) _

theorem runOnce_agrees (hkeep : ∀ addressId confirmedAt, V.Keeps (.defaultAddressUsed addressId confirmedAt)) :
    Svc.Agrees (V.Twins nothingKnown) Eq runOnce runOnce := by
  refine Svc.Agrees.bind dateNow_agrees fun now _ hnow => ?_
  subst hnow
  refine Svc.Agrees.bind_learning (Q := List.Forall₂ V.RowAlike) (S := fun l => V.Twins fun k => k ∈ l)
    (Svc.Agrees.query fun s t h => ?_) (fun s l u hexec t h => h.learn fun k hk => ?_) (fun _ _ _ h => h.forget)
    fun l l' hl => sweepAll_agrees hkeep hl (fun g hg => hg) _
  · refine forall₂_filter (fun g g' hg => ?_) h.gifts
    obtain ⟨c, -, -⟩ := hg
    rfl
  · cases hexec
    exact (List.mem_filter.mp hk).1

/-! ### The store's desk -/

theorem assertCanMutate_agrees (viewer : String) (giftStoreId : Option String) :
    Svc.Agrees (V.Twins known) Eq (assertCanMutate viewer giftStoreId) (assertCanMutate viewer giftStoreId) := by
  refine Svc.Agrees.bind (query_common fun _ _ _ _ => rfl) fun allowList _ hallow => ?_
  subst hallow
  refine Svc.Agrees.ite Iff.rfl (fun _ => Svc.Agrees.pure rfl) fun _ => ?_
  cases giftStoreId.filter fun id => id ≠ "" with
  | none => exact Svc.Agrees.fail _
  | some storeId =>
      refine Svc.Agrees.bind (query_common fun _ _ _ _ => rfl) fun owned _ howned => ?_
      subst howned
      exact Svc.Agrees.ensure Iff.rfl

/-- What the desk is answered does not depend on the contents. -/
theorem desk_alike {g g' : Gift} (hg : V.RowAlike g g') : toSafeStoreMutationResult g = toSafeStoreMutationResult g' := by
  obtain ⟨c, -, -⟩ := hg
  rfl

theorem deskUpdate_agrees {giftId : String} {found : GiftStatus} {u : Update} (hkeep : V.Keeps u)
    (haddress : ∀ g, (u.write g).addressId = g.addressId) :
    Svc.Agrees (V.Twins known) (fun g g' => V.RowAlike g g' ∧ g.id = giftId ∧ g.status = u.target ∧
        ∀ k, known k → k.id = giftId → g.receiverId = k.receiverId ∧ g.senderId = k.senderId)
      (updateGift giftId found u fun _ updated => updated) (updateGift giftId found u fun _ updated => updated) :=
  updateGift_agrees hkeep (fun g _ hg => hg.update (haddress g)) fun _ _ h g hmem _ hg hid hstatus =>
    ⟨hg, hid, hstatus, fun k hk hkid => h.known g hmem k hk (hkid.trans hid.symm)⟩

theorem markPreparing_agrees (hkeep : V.Keeps .preparing) (viewer giftId : String) :
    Svc.Agrees (V.Twins known) Eq (markPreparing viewer giftId) (markPreparing viewer giftId) := by
  refine Svc.Agrees.bind (findGift_agrees giftId) fun g g' hg => ?_
  obtain ⟨hg, -⟩ := hg
  have hanswer := desk_alike hg
  obtain ⟨c, -, -⟩ := hg
  refine Svc.Agrees.bind (assertCanMutate_agrees viewer g.storeId) fun _ _ _ => ?_
  refine Svc.Agrees.ite Iff.rfl (fun _ => Svc.Agrees.pure hanswer) fun _ => ?_
  refine Svc.Agrees.bind (Svc.Agrees.ensure Iff.rfl) fun _ _ _ => ?_
  refine Svc.Agrees.bind (deskUpdate_agrees hkeep fun _ => rfl) fun x y hxy => ?_
  obtain ⟨hxy, -, hstatus, -⟩ := hxy
  rw [← hxy.status, hstatus]
  refine Svc.Agrees.bind (notifyReceiver_agrees hxy (by decide) _ _) fun _ _ _ => ?_
  exact Svc.Agrees.bind (notifySender_agrees hxy _ _) fun _ _ _ => Svc.Agrees.pure (desk_alike hxy)

theorem upsertShipmentTx_agrees (giftId provider : String) (trackingNumber : Option String)
    (status : Option ShipmentStatus) (now : Time) :
    Tx.Agrees (V.Twins known) Eq (upsertShipmentTx giftId provider trackingNumber status now)
      (upsertShipmentTx giftId provider trackingNumber status now) := by
  refine Tx.Agrees.bind (Q := Eq) (Tx.Agrees.read fun s t h => common (f := fun w => w.shipments.find giftId)
    (fun _ _ _ _ => rfl) s t h) fun found _ hfound => ?_
  subst hfound
  cases found with
  | none => exact Tx.Agrees.bind (create_common shipments_common _ trivial) fun _ _ _ => Tx.Agrees.pure rfl
  | some row => exact Tx.Agrees.bind (updateMany_common shipments_common _ _ fun _ _ => trivial) fun _ _ _ => Tx.Agrees.pure rfl

theorem markShipped_agrees (hkeep : ∀ shippedAt trackingNumber carrier, V.Keeps (.shipped shippedAt trackingNumber carrier))
    (viewer giftId : String) (opts : ShippingInput) :
    Svc.Agrees (V.Twins known) Eq (markShipped viewer giftId opts) (markShipped viewer giftId opts) := by
  refine Svc.Agrees.bind (findGift_agrees giftId) fun g g' hg => ?_
  obtain ⟨hg, -⟩ := hg
  have hanswer := desk_alike hg
  obtain ⟨c, -, -⟩ := hg
  refine Svc.Agrees.bind (assertCanMutate_agrees viewer g.storeId) fun _ _ _ => ?_
  refine Svc.Agrees.ite Iff.rfl (fun _ => Svc.Agrees.pure hanswer) fun _ => ?_
  refine Svc.Agrees.bind (Svc.Agrees.ensure Iff.rfl) fun _ _ _ => ?_
  refine Svc.Agrees.bind dateNow_agrees fun now _ hnow => ?_
  subst hnow
  refine Svc.Agrees.bind (deskUpdate_agrees (hkeep _ _ _) fun _ => rfl) fun x y hxy => ?_
  obtain ⟨hxy, -, hstatus, -⟩ := hxy
  have hlast : Svc.Agrees (V.Twins known) Eq
      (do
        trigger (notifyReceiver x x.status .GiftShipped "تم شحن هديتك 🚚")
        trigger (notifySender x .GiftShipped "تم شحن الهدية")
        pure (toSafeStoreMutationResult x) : Service StoreMutationResult)
      (do
        trigger (notifyReceiver y y.status .GiftShipped "تم شحن هديتك 🚚")
        trigger (notifySender y .GiftShipped "تم شحن الهدية")
        pure (toSafeStoreMutationResult y)) := by
    rw [← hxy.status, hstatus]
    refine Svc.Agrees.bind (notifyReceiver_agrees hxy (by rintro ⟨⟩) _ _) fun _ _ _ => ?_
    exact Svc.Agrees.bind (notifySender_agrees hxy _ _) fun _ _ _ => Svc.Agrees.pure (desk_alike hxy)
  dsimp only
  cases (Shop.trimOrNull opts.provider).bind findProvider with
  | none => exact hlast
  | some provider =>
      refine Svc.Agrees.bind dateNow_agrees fun now _ hnow => ?_
      subst hnow
      exact Svc.Agrees.bind (Svc.Agrees.transaction (upsertShipmentTx_agrees _ _ _ _ _)) fun _ _ _ => hlast

/-- The notice of a delivery names the product; nobody watches it for a hidden gift. -/
theorem markDelivered_agrees (hkeep : ∀ deliveredAt, V.Keeps (.delivered deliveredAt)) (viewer giftId : String) :
    Svc.Agrees (V.Twins nothingKnown) Eq (markDelivered viewer giftId) (markDelivered viewer giftId) := by
  refine Svc.Agrees.bind (findGift_agrees giftId) fun g g' hg => ?_
  obtain ⟨hg, hgid⟩ := hg
  have hanswer := desk_alike hg
  obtain ⟨c, -, -⟩ := hg
  refine Svc.Agrees.bind (assertCanMutate_agrees viewer g.storeId) fun _ _ _ => ?_
  refine Svc.Agrees.ite Iff.rfl (fun _ => Svc.Agrees.pure hanswer) fun _ => ?_
  refine Svc.Agrees.bind (Svc.Agrees.ensure Iff.rfl) fun _ _ _ => ?_
  refine Svc.Agrees.bind dateNow_agrees fun now _ hnow => ?_
  subst hnow
  refine Svc.Agrees.bind (deskUpdate_agrees (hkeep _) fun _ => rfl) fun x y hxy => ?_
  obtain ⟨hxy, hid, -, -⟩ := hxy
  refine Svc.Agrees.bind (trigger_agrees ?_) fun _ _ _ => ?_
  · obtain ⟨c', -, hc'⟩ := hxy
    rcases hc' with rfl | ⟨hhides, -, -⟩ | ⟨-, hcontents⟩
    · exact .inl rfl
    · have hlink : giftLink g.id = giftLink x.id := by rw [hgid, hid]
      exact .inr ⟨V.quiet x _ hhides (.inr ⟨rfl, hlink⟩), V.quiet x _ hhides (.inr ⟨rfl, hlink⟩)⟩
    · refine .inl ?_
      show Notification.mk _ _ _ (some (withFulfillmentRef (some x.productName) x.fulfillmentNumber)) _ =
        Notification.mk _ _ _ (some (withFulfillmentRef (some c'.contents.productName) x.fulfillmentNumber)) _
      rw [hcontents]
      rfl
  · exact Svc.Agrees.bind (notifySender_agrees hxy _ _) fun _ _ _ => Svc.Agrees.pure (desk_alike hxy)

theorem getShipmentForOrder_agrees (viewer giftId : String) :
    Svc.Agrees (V.Twins known) Eq (getShipmentForOrder viewer giftId) (getShipmentForOrder viewer giftId) := by
  refine Svc.Agrees.bind (findGift_agrees giftId) fun g g' hg => ?_
  obtain ⟨⟨c, -, -⟩, -⟩ := hg
  refine Svc.Agrees.bind (assertCanMutate_agrees viewer g.storeId) fun _ _ _ => ?_
  refine Svc.Agrees.bind (query_common fun _ _ _ _ => rfl) fun found _ hfound => ?_
  subst hfound
  cases found with
  | none => exact Svc.Agrees.pure rfl
  | some row => exact Svc.Agrees.pure rfl

/-- No write uncovers a gift. -/
structure Variation.Lasting (V : Variation) : Prop where
  keeps : ∀ u, V.Keeps u
  hides : ∀ g (carrier trackingNumber : Option String), V.hides g →
    V.hides { g with carrier := carrier, trackingNumber := trackingNumber }
  veils : ∀ g senderId (carrier trackingNumber : Option String), V.veils g senderId →
    V.veils { g with carrier := carrier, trackingNumber := trackingNumber } senderId

theorem setCarrier_agrees (hlast : V.Lasting) (giftId : String) (carrier trackingNumber : Option String) :
    Svc.Agrees (V.Twins nothingKnown) Eq
      (Svc.transaction .carrier (setCarrierTx giftId carrier trackingNumber) : Service Nat)
      (Svc.transaction .carrier (setCarrierTx giftId carrier trackingNumber)) := by
  refine Svc.Agrees.transaction fun s t h => .ok ⟨?_, h.store ?_ fun _ _ _ hk => hk.elim⟩
  · exact Table.forall₂_count (fun a b hab => by rw [hab.id]) h.gifts
  · refine Table.forall₂_updateMany (fun a b hab => by rw [hab.id]) (fun a _ b hab _ => ?_) h.gifts
    obtain ⟨c, hown, hc⟩ := hab
    refine RowAlike.intro c hown ?_
    rcases hc with rfl | ⟨hhides, hsender, hnames⟩ | ⟨hveils, hcontents⟩
    · exact .inl rfl
    · exact .inr (.hidden (hlast.hides a carrier trackingNumber hhides) hsender hnames)
    · exact .inr (.veiled (hlast.veils a _ carrier trackingNumber hveils) hcontents)

theorem upsertShipment_agrees (hlast : V.Lasting) (viewer giftId provider : String) (trackingNumber : Option String) :
    Svc.Agrees (V.Twins nothingKnown) Eq (upsertShipment viewer giftId provider trackingNumber)
      (upsertShipment viewer giftId provider trackingNumber) := by
  refine Svc.Agrees.bind (findGift_agrees giftId) fun g g' hg => ?_
  obtain ⟨⟨c, -, -⟩, -⟩ := hg
  refine Svc.Agrees.bind (assertCanMutate_agrees viewer g.storeId) fun _ _ _ => ?_
  cases findProvider (trim provider) with
  | none => exact Svc.Agrees.fail _
  | some provider =>
      refine Svc.Agrees.bind dateNow_agrees fun now _ hnow => ?_
      subst hnow
      refine Svc.Agrees.bind (Svc.Agrees.transaction (Tx.Agrees.bind (upsertShipmentTx_agrees _ _ _ _ _) fun _ _ _ =>
        Tx.Agrees.read fun s t h => common (f := shipmentOf giftId) (fun _ _ _ _ => rfl) s t h)) fun written _ hw => ?_
      subst hw
      refine Svc.Agrees.ite Iff.rfl (fun _ => ?_) fun _ => Svc.Agrees.pure rfl
      exact Svc.Agrees.bind (setCarrier_agrees hlast giftId _ _) fun _ _ _ => Svc.Agrees.pure rfl

theorem mirrorDelivered_agrees (hkeep : ∀ deliveredAt, V.Keeps (.delivered deliveredAt)) {g g' : Gift}
    (hg : V.RowAlike g g') (status : ShipmentStatus) (occurredAt : Time) :
    Svc.Agrees (V.Twins known) Eq (mirrorDelivered g status occurredAt) (mirrorDelivered g' status occurredAt) := by
  obtain ⟨c, -, -⟩ := hg
  refine Svc.Agrees.ite Iff.rfl (fun _ => ?_) fun _ => Svc.Agrees.pure rfl
  refine Svc.Agrees.tryCatch ?_ fun _ => Svc.Agrees.pure rfl
  refine Svc.Agrees.bind (Svc.Agrees.ensure Iff.rfl) fun _ _ _ => ?_
  exact Svc.Agrees.bind (deskUpdate_agrees (hkeep _) fun _ => rfl) fun _ _ _ => Svc.Agrees.pure rfl

theorem appendShipmentEvent_agrees (hkeep : ∀ deliveredAt, V.Keeps (.delivered deliveredAt))
    (viewer giftId status : String) (note : Option String) (occurredAt : Option Time) :
    Svc.Agrees (V.Twins known) Eq (appendShipmentEvent viewer giftId status note occurredAt)
      (appendShipmentEvent viewer giftId status note occurredAt) := by
  refine Svc.Agrees.bind (findGift_agrees giftId) fun g g' hg => ?_
  obtain ⟨hg, -⟩ := hg
  have hrow := hg
  obtain ⟨c, -, -⟩ := hg
  refine Svc.Agrees.bind (assertCanMutate_agrees viewer g.storeId) fun _ _ _ => ?_
  refine Svc.Agrees.bind (query_common fun _ _ _ _ => rfl) fun found _ hfound => ?_
  subst hfound
  cases found with
  | none => exact Svc.Agrees.fail _
  | some row =>
      cases shipmentStatus? (trim status) with
      | none => exact Svc.Agrees.fail _
      | some status =>
          refine Svc.Agrees.bind dateNow_agrees fun now _ hnow => ?_
          subst hnow
          refine Svc.Agrees.bind (Svc.Agrees.transaction (updateMany_common shipments_common _ _ fun _ _ => trivial)) fun _ _ _ => ?_
          refine Svc.Agrees.bind (Svc.Agrees.transaction (updateMany_common shipments_common _ _ fun _ _ => trivial)) fun _ _ _ => ?_
          exact Svc.Agrees.bind (mirrorDelivered_agrees hkeep hrow _ _) fun _ _ _ => getShipmentForOrder_agrees _ _

end Qift.Gifting
