import Qift.Gifting.Fulfillment
import Qift.Lib.Proviso

/-!
# The journey of a gift

Every interleaving of the requests that move a gift, and what they leave of its status and its stamps.

* `Effect` — what an action does to the gifts; one lemma for each request says that it does nothing else.
* `Moves` — what one action leaves of a row: the row, or the row after an allowed update.
* **`Run.journey`** — in a run whose writes by identifier find the status their call has read, a gift moves along
  `ALLOWED_TRANSITIONS` only, rests once delivered or cancelled, and each stamp is written once, at its stage.
* `Run.resurrected` — without that a cancelled gift moves on.
-/

namespace Qift.Gifting

open Relational Relational.Table Interleaving

/-! ### What an action does to the gifts -/

/-- The row of a gift no one has touched. -/
structure Gift.New (g : Gift) : Prop where
  status : g.status = .pending_address
  confirmedAt : g.confirmedAt = none
  shippedAt : g.shippedAt = none
  deliveredAt : g.deliveredAt = none

/-- A status write follows the graph from the statuses it has checked. -/
def Checked (found : GiftStatus) (pick : Pick) (u : Update) : Prop :=
  match pick with
  | .byId => u.target ∈ ALLOWED_TRANSITIONS found
  | .whileIn statuses => ∀ stored ∈ statuses, u.target ∈ ALLOWED_TRANSITIONS stored

theorem carried_id (carrier trackingNumber : Option String) (g : Gift) :
    ({ g with carrier := carrier, trackingNumber := trackingNumber } : Gift).id = g.id := rfl

/-- What an action does to the gifts. -/
def Effect (l : Step) (w w' : Gifting) : Prop :=
  match l with
  | .createGift => w'.gifts = w.gifts ∨ ∃ row, row.New ∧ w.gifts.create row = some w'.gifts
  | .setStatus giftId found pick u =>
      Checked found pick u ∧ w'.gifts =
        w.gifts.updateMany (fun g => g.id = giftId && pick.takes g.status) u.write u.write_id
  | .carrier => ∃ (giftId : String) (carrier trackingNumber : Option String), w'.gifts =
      w.gifts.updateMany (fun g => g.id = giftId)
        (fun g => { g with carrier := carrier, trackingNumber := trackingNumber }) (carried_id carrier trackingNumber)
  | .read | .environment | .shipment | .post | .notify => w'.gifts = w.gifts

@[grind ←] theorem query_does {α : Type} (f : Gifting → α) : Svc.Does Effect (Svc.query .read f : Service α) :=
  Svc.Does.query (fun _ => rfl) f

@[grind ←] theorem dateNow_does : Svc.Does Effect dateNow := query_does Gifting.now

@[grind ←] theorem trigger_does (n : Notification) : Svc.Does Effect (trigger n) :=
  Svc.Does.transaction (fun w a w' h => by
    rw [Tx.modify_eq_ok] at h
    subst h
    rfl) fun _ _ _ => rfl

@[grind ←] theorem findGift_does (giftId : String) : Svc.Does Effect (findGift giftId) := by
  refine Svc.Does.bind (query_does _) fun found => ?_
  cases found with
  | none => exact Svc.Does.fail _
  | some g => exact Svc.Does.pure g

@[grind ←] theorem findGiftWithParties_does (giftId : String) : Svc.Does Effect (findGiftWithParties giftId) := by
  refine Svc.Does.bind (query_does _) fun found => ?_
  cases found with
  | none => exact Svc.Does.fail _
  | some g => exact Svc.Does.pure g

theorem setStatusTx_eq_ok {giftId : String} {pick : Pick} {u : Update} {n : Nat} {w w' : Gifting}
    (h : setStatusTx giftId pick u w = .ok (n, w')) : w' =
      gift.store (w.gifts.updateMany (fun g => g.id = giftId && pick.takes g.status) u.write u.write_id) w :=
  (Delegate.updateMany_eq_ok.mp h).2

theorem updateGift_does {α : Type} {giftId : String} {found : GiftStatus} {u : Update} {included : Gifting → Gift → α}
    (h : u.target ∈ ALLOWED_TRANSITIONS found) : Svc.Does Effect (updateGift giftId found u included) := by
  refine Svc.Does.bind ?_ fun written => ?_
  · refine Svc.Does.transaction (fun w a w' htx => ?_) fun w e htx => ?_
    · obtain ⟨n, w₁, hset, hread⟩ := Tx.bind_eq_ok.mp htx
      obtain ⟨-, rfl⟩ := Tx.read_eq_ok.mp hread
      rw [setStatusTx_eq_ok hset]
      exact ⟨h, rfl⟩
    · rcases Tx.bind_eq_error.mp htx with hset | ⟨n, w₁, -, hread⟩
      · cases hset
      · cases hread
  · cases written with
    | none => exact Svc.Does.fail _
    | some updated => exact Svc.Does.pure updated

theorem updateGiftWhile_does {giftId : String} {found : GiftStatus} {statuses : List GiftStatus} {u : Update}
    (h : ∀ stored ∈ statuses, u.target ∈ ALLOWED_TRANSITIONS stored) :
    Svc.Does Effect (updateGiftWhile giftId found statuses u) :=
  Svc.Does.transaction (fun w n w' htx => by
    rw [setStatusTx_eq_ok htx]
    exact ⟨h, rfl⟩) fun w e htx => nomatch htx

/-! ### create -/

@[grind ←] theorem createGift_does (row : Time → Gift) (hrow : ∀ now, (row now).New) :
    Svc.Does Effect (Svc.transaction .createGift (createGiftTx row)) := by
  refine Svc.Does.transaction (fun w a w' htx => ?_) fun _ _ _ => .inl rfl
  simp only [createGiftTx, Tx.bind_eq_ok, Tx.read_eq_ok, Tx.ensure_eq_ok] at htx
  obtain ⟨now, _, ⟨rfl, rfl⟩, known, _, ⟨-, rfl⟩, _, _, ⟨-, rfl⟩, created, w₁, hcreate, -, rfl⟩ := htx
  obtain ⟨t, ht, -, -, rfl⟩ := Delegate.create_eq_ok.mp hcreate
  exact .inr ⟨_, hrow _, ht⟩

@[grind ←] theorem replayGift_does (senderId requestHash : String) (existing : GiftWithParties) :
    Svc.Does Effect (replayGift senderId requestHash existing) :=
  Svc.Does.bind (Svc.Does.ensure _ _) fun _ => Svc.Does.pure _

theorem insertGift_does (identity : Option (String × String)) (senderId : String) (row : Time → Gift)
    (hrow : ∀ now, (row now).New) : Svc.Does Effect (insertGift identity senderId row) := by
  refine Svc.Does.bind (Svc.Does.tryCatch ?_ fun e => ?_) fun written => ?_
  · exact Svc.Does.bind (createGift_does row hrow) fun _ => Svc.Does.pure _
  · split
    · refine Svc.Does.bind (query_does _) fun winner => ?_
      cases winner with
      | none => exact Svc.Does.fail _
      | some winner => exact replayGift_does _ _ _
    · exact Svc.Does.fail _
  · split
    · exact Svc.Does.pure _
    · exact Svc.Does.bind (Svc.Does.bind (trigger_does _) fun _ => trigger_does _) fun _ => Svc.Does.pure _

theorem checkRecipient_does (draft : GiftDraft) : Svc.Does Effect (checkRecipient draft) := by
  refine Svc.Does.bind (query_does _) fun sender => ?_
  cases sender with
  | none => exact Svc.Does.fail _
  | some sender =>
      refine Svc.Does.bind (Svc.Does.ensure _ _) fun _ => Svc.Does.bind (query_does _) fun receiver => ?_
      cases receiver with
      | none => exact Svc.Does.fail _
      | some receiver =>
          refine Svc.Does.bind (query_does _) fun blocked => Svc.Does.bind (Svc.Does.ensure _ _) fun _ => ?_
          refine Svc.Does.bind (query_does _) fun hasDefault => ?_
          split
          · exact Svc.Does.pure _
          · exact Svc.Does.bind (trigger_does _) fun _ => Svc.Does.fail _

theorem checkProduct_does (productId : Option String) : Svc.Does Effect (checkProduct productId) := by
  unfold checkProduct
  split
  · exact Svc.Does.pure _
  · refine Svc.Does.bind (query_does _) fun product => ?_
    cases product with
    | none => exact Svc.Does.fail _
    | some product => exact Svc.Does.bind (Svc.Does.ensure _ _) fun _ => Svc.Does.pure _

theorem resolveOccasion_does (occasionId : Option String) (senderId receiverId : String) :
    Svc.Does Effect (resolveOccasion occasionId senderId receiverId) := by
  unfold resolveOccasion
  split
  · exact Svc.Does.pure _
  · exact Svc.Does.bind (query_does _) fun _ => Svc.Does.pure _

theorem allocateReference_does (candidates : List String) (attempts : Nat) :
    Svc.Does Effect (allocateReference candidates attempts) := by
  induction candidates generalizing attempts with
  | nil => exact Svc.Does.fail _
  | cons candidate rest ih =>
      cases attempts with
      | zero => exact Svc.Does.fail _
      | succ attempts =>
          refine Svc.Does.bind (query_does _) fun taken => ?_
          split
          · exact ih attempts
          · exact Svc.Does.pure _

section Requests

variable [Shop.Cities]

theorem checkFastDelivery_does (body : Shop.CreateGiftInput) (receiverId : String) :
    Svc.Does Effect (checkFastDelivery body receiverId) := by
  unfold checkFastDelivery
  split
  · split
    · exact Svc.Does.fail _
    · exact Svc.Does.bind (query_does _) fun _ => Svc.Does.ensure _ _
  · exact Svc.Does.pure _

theorem createNew_does (body : Shop.CreateGiftInput) (draft : GiftDraft) (candidates : List String)
    (giftId : String) : Svc.Does Effect (createNew body draft candidates giftId) := by
  refine Svc.Does.bind (checkRecipient_does draft) fun receiverId => ?_
  refine Svc.Does.bind (checkFastDelivery_does body receiverId) fun _ => ?_
  refine Svc.Does.bind (checkProduct_does _) fun productStoreId => ?_
  refine Svc.Does.bind (resolveOccasion_does _ _ _) fun occasionId => ?_
  refine Svc.Does.bind (allocateReference_does _ _) fun fulfillmentNumber => ?_
  exact insertGift_does _ _ _ fun _ => ⟨rfl, rfl, rfl, rfl⟩

theorem create_does [Runtime] (body : Shop.CreateGiftInput) (viewerUserId : String) (idempotencyKey : Option String)
    (candidates : List String) (giftId : String) :
    Svc.Does Effect (create body viewerUserId idempotencyKey candidates giftId) := by
  refine Svc.Does.bind (Svc.Does.ofExcept _) fun media => ?_
  split
  · dsimp only
    split
    · exact createNew_does _ _ _ _
    · refine Svc.Does.bind (Svc.Does.ensure _ _) fun _ => Svc.Does.bind (query_does _) fun existing => ?_
      cases existing with
      | none => exact createNew_does _ _ _ _
      | some existing => exact replayGift_does _ _ _
  · exact Svc.Does.fail _

/-! ### The parties -/

omit [Shop.Cities] in
theorem chooseAddress_does (viewerUserId : String) (addressId : Option String) :
    Svc.Does Effect (chooseAddress viewerUserId addressId) := by
  unfold chooseAddress
  split
  · refine Svc.Does.bind (query_does _) fun owned => ?_
    cases owned with
    | none => exact Svc.Does.fail _
    | some owned => exact Svc.Does.pure _
  · refine Svc.Does.bind (query_does _) fun default => ?_
    cases default with
    | none => exact Svc.Does.fail _
    | some default => exact Svc.Does.bind (query_does _) fun _ => Svc.Does.pure _

theorem coverageGate_does (g : Gift) (scope : Market.AddressScope) : Svc.Does Effect (coverageGate g scope) := by
  refine Svc.Does.bind (query_does _) fun store => ?_
  cases store with
  | none => exact Svc.Does.pure _
  | some store => exact Svc.Does.bind (query_does _) fun _ => Svc.Does.ensure _ _

theorem confirmAddress_does (giftId viewerUserId : String) (addressId : Option String) :
    Svc.Does Effect (confirmAddress giftId viewerUserId addressId) := by
  refine Svc.Does.bind (findGift_does giftId) fun g => Svc.Does.bind (Svc.Does.ensure _ _) fun _ => ?_
  split
  · exact Svc.Does.bind (findGiftWithParties_does _) fun fresh => Svc.Does.bind (query_does _) fun _ => Svc.Does.pure _
  · refine Svc.Does.guard fun hallowed => ?_
    refine Svc.Does.bind (chooseAddress_does _ _) fun chosen => Svc.Does.bind (coverageGate_does _ _) fun _ => ?_
    refine Svc.Does.bind dateNow_does fun now => Svc.Does.bind (updateGift_does hallowed) fun updated => ?_
    exact Svc.Does.bind (trigger_does _) fun _ => Svc.Does.bind (query_does _) fun _ => Svc.Does.pure _

omit [Shop.Cities] in
theorem updatePosts_does (p : GiftPost → Bool) (f : GiftPost → GiftPost) (hf : ∀ x, (f x).id = x.id) :
    Svc.Does Effect (Svc.transaction .post (giftPost.updateMany p f hf) : Service Nat) :=
  Svc.Does.transaction (fun w n w' h => by
    obtain ⟨-, rfl⟩ := Delegate.updateMany_eq_ok.mp h
    rfl) fun _ _ _ => rfl

omit [Shop.Cities] in
theorem deactivatePosts_does (giftId : String) : Svc.Does Effect (deactivatePosts giftId) :=
  Svc.Does.bind dateNow_does fun _ => Svc.Does.bind (updatePosts_does _ _ _) fun _ => Svc.Does.pure _

omit [Shop.Cities] in
theorem cancel_does (giftId viewerUserId : String) : Svc.Does Effect (cancel giftId viewerUserId) := by
  refine Svc.Does.bind (findGiftWithParties_does giftId) fun g => Svc.Does.bind (Svc.Does.ensure _ _) fun _ => ?_
  split
  · exact Svc.Does.pure _
  · refine Svc.Does.bind (Svc.Does.ensure _ _) fun _ => ?_
    refine Svc.Does.bind (updateGiftWhile_does (by decide)) fun count => ?_
    split
    · exact Svc.Does.bind (findGiftWithParties_does _) fun _ => Svc.Does.pure _
    · refine Svc.Does.bind (deactivatePosts_does _) fun _ => ?_
      exact Svc.Does.bind (trigger_does _) fun _ => Svc.Does.bind (findGiftWithParties_does _) fun _ => Svc.Does.pure _

omit [Shop.Cities] in
theorem findOne_does (giftId viewerUserId : String) : Svc.Does Effect (findOne giftId viewerUserId) := by
  refine Svc.Does.bind (findGiftWithParties_does giftId) fun g => Svc.Does.bind (Svc.Does.ensure _ _) fun _ => ?_
  exact Svc.Does.bind (query_does _) fun _ => Svc.Does.bind (query_does _) fun _ => Svc.Does.pure _

/-! ### Posts -/

section Posts

omit [Shop.Cities]

theorem generateUniqueSlug_does (drawn : List String) (retries : Nat) :
    Svc.Does Effect (generateUniqueSlug drawn retries) := by
  induction retries generalizing drawn with
  | zero => cases drawn <;> exact Svc.Does.fail _
  | succ retries ih =>
      cases drawn with
      | nil => exact Svc.Does.fail _
      | cons candidate rest =>
          refine Svc.Does.bind (query_does _) fun collision => ?_
          split
          · exact ih rest
          · exact Svc.Does.pure _

theorem updatePost_does (id : String) (f : GiftPost → GiftPost) (hf : ∀ x, (f x).id = x.id) :
    Svc.Does Effect (updatePost id f hf) := by
  refine Svc.Does.bind (Svc.Does.transaction (fun w a w' h => ?_) fun _ _ _ => rfl) fun written => ?_
  · obtain ⟨n, w₁, hset, hread⟩ := Tx.bind_eq_ok.mp h
    obtain ⟨-, rfl⟩ := Tx.read_eq_ok.mp hread
    obtain ⟨-, rfl⟩ := Delegate.updateMany_eq_ok.mp hset
    rfl
  · cases written with
    | none => exact Svc.Does.fail _
    | some post => exact Svc.Does.pure _

theorem createPost_does (row : GiftPost) :
    Svc.Does Effect (Svc.transaction .post (giftPost.create (.p2002 "GiftPost") row) : Service GiftPost) :=
  Svc.Does.transaction (fun w a w' h => by
    obtain ⟨t, -, -, -, rfl⟩ := Delegate.create_eq_ok.mp h
    rfl) fun _ _ _ => rfl

theorem publish_does (viewerUserId : String) (input : PublishInput) (postId : String) (drawn : List String) :
    Svc.Does Effect (publish viewerUserId input postId drawn) := by
  rw [publish]
  cases Shop.trimOrNull input.giftId with
  | none => exact Svc.Does.fail _
  | some giftId =>
      refine Svc.Does.bind (Svc.Does.ensure _ _) fun _ => Svc.Does.bind (findGift_does _) fun g => ?_
      refine Svc.Does.bind (Svc.Does.ofExcept _) fun direction => Svc.Does.bind (Svc.Does.ensure _ _) fun _ => ?_
      refine Svc.Does.bind (query_does _) fun existing => ?_
      cases existing with
      | none =>
          refine Svc.Does.bind (generateUniqueSlug_does _ _) fun slug => Svc.Does.bind dateNow_does fun now => ?_
          exact createPost_does _
      | some existing =>
          have hlast (slug : String) : Svc.Does Effect (do
              let now ← dateNow
              updatePost existing.id fun p =>
                { p with
                  publishedAt := some now
                  publicSlug := some slug
                  visibility := input.visibility.getD "public"
                  deactivatedAt := none
                  deactivatedReason := none } : Service GiftPost) :=
            Svc.Does.bind dateNow_does fun now => updatePost_does _ _ _
          dsimp only
          split
          · exact Svc.Does.pure _
          · cases existing.publicSlug with
            | some slug => exact hlast slug
            | none => exact Svc.Does.bind (generateUniqueSlug_does _ _) fun slug => hlast slug

theorem requireOwnedPost_does (viewerUserId postId : String) :
    Svc.Does Effect (requireOwnedPost viewerUserId postId) := by
  refine Svc.Does.bind (query_does _) fun found => ?_
  cases found with
  | none => exact Svc.Does.fail _
  | some post => exact Svc.Does.bind (Svc.Does.ensure _ _) fun _ => Svc.Does.pure _

theorem unpublish_does (viewerUserId postId : String) : Svc.Does Effect (unpublish viewerUserId postId) := by
  refine Svc.Does.bind (requireOwnedPost_does _ _) fun post => ?_
  split
  · exact Svc.Does.pure _
  · exact updatePost_does _ _ _

theorem setVisibility_does (viewerUserId postId visibility : String) :
    Svc.Does Effect (setVisibility viewerUserId postId visibility) := by
  refine Svc.Does.bind (Svc.Does.ensure _ _) fun _ => Svc.Does.bind (requireOwnedPost_does _ _) fun post => ?_
  split
  · exact Svc.Does.pure _
  · exact updatePost_does _ _ _

theorem listByUser_does (targetUserId : String) (viewerUserId : Option String) :
    Svc.Does Effect (listByUser targetUserId viewerUserId) := by
  refine Svc.Does.bind (query_does _) fun blocked => ?_
  split
  · exact Svc.Does.pure _
  · exact Svc.Does.bind (query_does _) fun _ => Svc.Does.pure _

theorem showPost_does (row : PostWithGift) (viewerUserId : Option String) : Svc.Does Effect (showPost row viewerUserId) :=
  Svc.Does.bind (query_does _) fun _ => Svc.Does.bind (Svc.Does.ensure _ _) fun _ =>
    Svc.Does.bind (Svc.Does.ensure _ _) fun _ => Svc.Does.pure _

theorem getBySlug_does (slug viewerUserId : Option String) : Svc.Does Effect (getBySlug slug viewerUserId) := by
  rw [getBySlug]
  cases Shop.trimOrNull slug with
  | none => exact Svc.Does.fail _
  | some slug =>
      refine Svc.Does.bind (query_does _) fun found => ?_
      cases found with
      | none => exact Svc.Does.fail _
      | some row => exact showPost_does _ _

end Posts

/-! ### The sweep -/

theorem sweepGift_does (g : Gift) : Svc.Does Effect (sweepGift g) := by
  refine Svc.Does.bind (query_does _) fun store => Svc.Does.bind (query_does _) fun fast => ?_
  refine Svc.Does.bind (query_does _) fun found => ?_
  cases found with
  | nil => exact Svc.Does.pure _
  | cons first rest =>
      dsimp only
      split
      · exact Svc.Does.bind (trigger_does _) fun _ => Svc.Does.bind (trigger_does _) fun _ => Svc.Does.pure _
      · refine Svc.Does.bind dateNow_does fun now => ?_
        refine Svc.Does.bind (updateGiftWhile_does fun stored hstored => ?_) fun count => ?_
        · rw [List.mem_singleton.mp hstored]
          show GiftStatus.default_address_used ∈ ALLOWED_TRANSITIONS .pending_address
          decide
        · split
          · exact Svc.Does.pure _
          · exact Svc.Does.bind (trigger_does _) fun _ => Svc.Does.bind (trigger_does _) fun _ => Svc.Does.pure _

theorem sweepAll_does (gifts : List Gift) (r : SweepResult) : Svc.Does Effect (sweepAll gifts r) := by
  induction gifts generalizing r with
  | nil => exact Svc.Does.pure r
  | cons g rest ih =>
      exact Svc.Does.bind (Svc.Does.tryCatch (sweepGift_does g) fun _ => Svc.Does.pure _) fun outcome => ih _

theorem runOnce_does : Svc.Does Effect runOnce :=
  Svc.Does.bind dateNow_does fun _ => Svc.Does.bind (query_does _) fun overdue => sweepAll_does overdue _

end Requests

/-! ### The store's desk -/

theorem assertCanMutate_does (viewerUserId : String) (giftStoreId : Option String) :
    Svc.Does Effect (assertCanMutate viewerUserId giftStoreId) := by
  refine Svc.Does.bind (query_does _) fun allowList => ?_
  split
  · exact Svc.Does.pure _
  · split
    · exact Svc.Does.fail _
    · exact Svc.Does.bind (query_does _) fun _ => Svc.Does.ensure _ _

theorem markPreparing_does (viewerUserId giftId : String) : Svc.Does Effect (markPreparing viewerUserId giftId) := by
  refine Svc.Does.bind (findGift_does giftId) fun g => Svc.Does.bind (assertCanMutate_does _ _) fun _ => ?_
  split
  · exact Svc.Does.pure _
  · refine Svc.Does.guard fun hallowed => Svc.Does.bind (updateGift_does hallowed) fun updated => ?_
    exact Svc.Does.bind (trigger_does _) fun _ => Svc.Does.bind (trigger_does _) fun _ => Svc.Does.pure _

theorem shipment_does {α : Type} {tx : Transaction α} (h : ∀ w a w', tx w = .ok (a, w') → w'.gifts = w.gifts) :
    Svc.Does Effect (Svc.transaction .shipment tx) :=
  Svc.Does.transaction h fun _ _ _ => rfl

theorem upsertShipmentTx_gifts {giftId provider : String} {trackingNumber : Option String}
    {status : Option ShipmentStatus} {now : Time} {w w' : Gifting} {a : Unit}
    (h : upsertShipmentTx giftId provider trackingNumber status now w = .ok (a, w')) : w'.gifts = w.gifts := by
  obtain ⟨found, w₁, hread, h⟩ := Tx.bind_eq_ok.mp h
  obtain ⟨rfl, rfl⟩ := Tx.read_eq_ok.mp hread
  rcases hfound : w.shipments.find giftId with _ | row <;> simp only [hfound] at h
  · obtain ⟨row, w₂, hcreate, h⟩ := Tx.bind_eq_ok.mp h
    obtain ⟨-, rfl⟩ := Tx.pure_eq_ok.mp h
    obtain ⟨t, -, -, -, rfl⟩ := Delegate.create_eq_ok.mp hcreate
    rfl
  · obtain ⟨n, w₂, hupdate, h⟩ := Tx.bind_eq_ok.mp h
    obtain ⟨-, rfl⟩ := Tx.pure_eq_ok.mp h
    obtain ⟨-, rfl⟩ := Delegate.updateMany_eq_ok.mp hupdate
    rfl

theorem markShipped_does (viewerUserId giftId : String) (opts : ShippingInput) :
    Svc.Does Effect (markShipped viewerUserId giftId opts) := by
  refine Svc.Does.bind (findGift_does giftId) fun g => Svc.Does.bind (assertCanMutate_does _ _) fun _ => ?_
  split
  · exact Svc.Does.pure _
  · refine Svc.Does.guard fun hallowed => ?_
    dsimp only
    refine Svc.Does.bind dateNow_does fun now => Svc.Does.bind (updateGift_does hallowed) fun updated => ?_
    split
    · exact Svc.Does.bind (trigger_does _) fun _ => Svc.Does.bind (trigger_does _) fun _ => Svc.Does.pure _
    · refine Svc.Does.bind dateNow_does fun now => ?_
      refine Svc.Does.bind (shipment_does fun _ _ _ => upsertShipmentTx_gifts) fun _ => ?_
      exact Svc.Does.bind (trigger_does _) fun _ => Svc.Does.bind (trigger_does _) fun _ => Svc.Does.pure _

theorem markDelivered_does (viewerUserId giftId : String) : Svc.Does Effect (markDelivered viewerUserId giftId) := by
  refine Svc.Does.bind (findGift_does giftId) fun g => Svc.Does.bind (assertCanMutate_does _ _) fun _ => ?_
  split
  · exact Svc.Does.pure _
  · refine Svc.Does.guard fun hallowed => ?_
    refine Svc.Does.bind dateNow_does fun now => Svc.Does.bind (updateGift_does hallowed) fun updated => ?_
    exact Svc.Does.bind (trigger_does _) fun _ => Svc.Does.bind (trigger_does _) fun _ => Svc.Does.pure _

theorem getShipmentForOrder_does (viewerUserId giftId : String) :
    Svc.Does Effect (getShipmentForOrder viewerUserId giftId) := by
  refine Svc.Does.bind (findGift_does giftId) fun g => Svc.Does.bind (assertCanMutate_does _ _) fun _ => ?_
  refine Svc.Does.bind (query_does _) fun found => ?_
  cases found with
  | none => exact Svc.Does.pure _
  | some shipment => exact Svc.Does.pure _

theorem upsertShipment_does (viewerUserId giftId provider : String) (trackingNumber : Option String) :
    Svc.Does Effect (upsertShipment viewerUserId giftId provider trackingNumber) := by
  refine Svc.Does.bind (findGift_does giftId) fun g => Svc.Does.bind (assertCanMutate_does _ _) fun _ => ?_
  split
  · exact Svc.Does.fail _
  · dsimp only
    refine Svc.Does.bind dateNow_does fun now => Svc.Does.bind (shipment_does fun w a w' htx => ?_) fun written => ?_
    · obtain ⟨_, w₁, hupsert, hread⟩ := Tx.bind_eq_ok.mp htx
      obtain ⟨-, rfl⟩ := Tx.read_eq_ok.mp hread
      exact upsertShipmentTx_gifts hupsert
    · split
      · refine Svc.Does.bind (Svc.Does.transaction (fun w n w' htx => ?_) fun w e htx => nomatch htx) fun _ =>
          Svc.Does.pure _
        obtain ⟨-, rfl⟩ := Delegate.updateMany_eq_ok.mp htx
        exact ⟨giftId, _, _, rfl⟩
      · exact Svc.Does.pure _

theorem mirrorDelivered_does (g : Gift) (status : ShipmentStatus) (occurredAt : Time) :
    Svc.Does Effect (mirrorDelivered g status occurredAt) := by
  unfold mirrorDelivered
  split
  · refine Svc.Does.tryCatch (Svc.Does.guard fun hallowed => ?_) fun _ => Svc.Does.pure _
    exact Svc.Does.bind (updateGift_does hallowed) fun _ => Svc.Does.pure _
  · exact Svc.Does.pure _

theorem appendShipmentEvent_does (viewerUserId giftId status : String) (note : Option String)
    (occurredAt : Option Time) :
    Svc.Does Effect (appendShipmentEvent viewerUserId giftId status note occurredAt) := by
  have hwrite {f : Shipment → Shipment} {hf : ∀ s, (f s).giftId = s.giftId} {w w' : Gifting} {n : Nat}
      (h : (shipment.updateMany (fun s => s.giftId = giftId) f hf : Transaction Nat) w = .ok (n, w')) : w'.gifts = w.gifts := by
    obtain ⟨-, rfl⟩ := Delegate.updateMany_eq_ok.mp h
    rfl
  refine Svc.Does.bind (findGift_does giftId) fun g => Svc.Does.bind (assertCanMutate_does _ _) fun _ => ?_
  refine Svc.Does.bind (query_does _) fun found => ?_
  cases found with
  | none => exact Svc.Does.fail _
  | some found =>
      dsimp only
      split
      · exact Svc.Does.fail _
      · refine Svc.Does.bind dateNow_does fun now => ?_
        refine Svc.Does.bind (shipment_does fun _ _ _ => hwrite) fun _ => ?_
        refine Svc.Does.bind (shipment_does fun _ _ _ => hwrite) fun _ => ?_
        refine Svc.Does.bind (mirrorDelivered_does _ _ _) fun _ => ?_
        exact getShipmentForOrder_does _ _

/-! ### Every request -/

section Program

variable [Shop.Cities] [Runtime]

theorem program_does (c : Call) : Svc.Does Effect (program c) := by
  have hmap {α : Type} {x : Service α} {f : α → Reply} (hx : Svc.Does Effect x) : Svc.Does Effect (f <$> x) :=
    Svc.Does.bind hx fun _ => Svc.Does.pure _
  unfold program
  cases c with
  | tick elapsed =>
      exact Svc.Does.bind (Svc.Does.transaction (fun w a w' h => by cases h; rfl) fun _ _ _ => rfl) fun _ =>
        Svc.Does.pure _
  | books b =>
      exact Svc.Does.bind (Svc.Does.transaction (fun w a w' h => by cases h; rfl) fun _ _ _ => rfl) fun _ =>
        Svc.Does.pure _
  | create body viewerUserId idempotencyKey candidates giftId => exact hmap (create_does _ _ _ _ _)
  | findOne giftId viewerUserId => exact hmap (findOne_does _ _)
  | findSent senderId viewerUserId =>
      exact hmap (Svc.Does.bind (Svc.Does.ensure _ _) fun _ =>
        Svc.Does.bind (query_does _) fun _ => Svc.Does.pure _)
  | findReceived receiverId viewerUserId =>
      exact hmap (Svc.Does.bind (Svc.Does.ensure _ _) fun _ =>
        Svc.Does.bind (query_does _) fun _ => Svc.Does.pure _)
  | confirmAddress giftId viewerUserId addressId => exact hmap (confirmAddress_does _ _ _)
  | cancel giftId viewerUserId => exact hmap (cancel_does _ _)
  | runOnce => exact hmap runOnce_does
  | markPreparing viewerUserId giftId => exact hmap (markPreparing_does _ _)
  | markShipped viewerUserId giftId opts => exact hmap (markShipped_does _ _ _)
  | markDelivered viewerUserId giftId => exact hmap (markDelivered_does _ _)
  | upsertShipment viewerUserId giftId provider trackingNumber => exact hmap (upsertShipment_does _ _ _ _)
  | getShipmentForOrder viewerUserId giftId => exact hmap (getShipmentForOrder_does _ _)
  | appendShipmentEvent viewerUserId giftId status note occurredAt =>
      exact hmap (appendShipmentEvent_does _ _ _ _ _)
  | publish viewerUserId input postId drawn => exact hmap (publish_does _ _ _ _)
  | unpublish viewerUserId postId => exact hmap (unpublish_does _ _)
  | setVisibility viewerUserId postId visibility => exact hmap (setVisibility_does _ _ _)
  | listMine viewerUserId => exact hmap (Svc.Does.bind (query_does _) fun _ => Svc.Does.pure _)
  | listByUser targetUserId viewerUserId => exact hmap (listByUser_does _ _)
  | getBySlug slug viewerUserId => exact hmap (getBySlug_does _ _)

theorem Run.path {tr : List (Event Gifting Step)} {cfg : Config Gifting Step (Except Err Reply)} (h : Run tr cfg) :
    Path Effect empty tr cfg.state := Exec.does program_does h

end Program

/-! ### Rows -/

/-- The stamps of a gift. -/
inductive Stamp
  | confirmedAt | shippedAt | deliveredAt
  deriving DecidableEq

def Stamp.of : Stamp → Gift → Option Time
  | confirmedAt, g => g.confirmedAt
  | shippedAt, g => g.shippedAt
  | deliveredAt, g => g.deliveredAt

def Stamp.stage : Stamp → List GiftStatus
  | confirmedAt => [.address_confirmed, .default_address_used]
  | shippedAt => [.shipped]
  | deliveredAt => [.delivered]

/-- The update writes the stamp. -/
def Update.stamps (u : Update) (stamp : Stamp) : Bool := u.target ∈ stamp.stage

theorem Stamp.of_write (stamp : Stamp) (u : Update) (g : Gift) :
    (u.stamps stamp = true ∧ stamp.of (u.write g) ≠ none) ∨
      (u.stamps stamp = false ∧ stamp.of (u.write g) = stamp.of g) := by
  cases stamp <;> cases u <;> simp [Update.stamps, Update.target, Stamp.stage, Stamp.of, Update.write]

/-- What one action leaves of a row: the row with its status and its stamps, or the row after an allowed update. -/
inductive Moves (g : Gift) : Gift → Prop
  | keeps {g' : Gift} (hstatus : g'.status = g.status) (hstamps : ∀ stamp : Stamp, stamp.of g' = stamp.of g) : Moves g g'
  | writes (u : Update) (hallowed : u.target ∈ ALLOWED_TRANSITIONS g.status) : Moves g (u.write g)

theorem Moves.refl (g : Gift) : Moves g g := .keeps rfl fun _ => rfl

/-- Statuses that come after a stage has been entered. -/
def Stamp.passed : Stamp → GiftStatus → Bool
  | confirmedAt, status => status ∈ [.address_confirmed, .default_address_used, .preparing, .shipped, .delivered]
  | shippedAt, status => status ∈ [.shipped, .delivered]
  | deliveredAt, status => status ∈ [.delivered]

/-- The stamps of a row agree with its status; a cancelled gift may have been confirmed or not. -/
def Stamped (g : Gift) : Prop := ∀ stamp : Stamp,
  (stamp.passed g.status = true → stamp.of g ≠ none) ∧ (stamp.of g ≠ none → g.status ≠ .pending_address ∧
    (stamp.passed g.status = true ∨ stamp = .confirmedAt ∧ g.status = .cancelled))

theorem Gift.New.stamped {g : Gift} (h : g.New) : Stamped g := by
  intro stamp
  have hnone : stamp.of g = none := by cases stamp <;> simp [Stamp.of, h.confirmedAt, h.shippedAt, h.deliveredAt]
  refine ⟨fun hpassed => ?_, fun hstamp => absurd hnone hstamp⟩
  rw [h.status] at hpassed
  cases stamp <;> cases hpassed

theorem Stamp.passed_of_allowed {stamp : Stamp} {source target : GiftStatus}
    (h : target ∈ ALLOWED_TRANSITIONS source) :
    (target ∈ stamp.stage → stamp.passed source = false ∧ source ≠ .cancelled) ∧
      (stamp.passed target = true → target ∈ stamp.stage ∨ stamp.passed source = true) ∧
      target ≠ .pending_address ∧ (target ∈ stamp.stage → stamp.passed target = true) ∧
      (stamp.passed source = true → stamp.passed target = true ∨ stamp = .confirmedAt ∧ target = .cancelled) := by
  revert target
  cases stamp <;> cases source <;> decide

theorem Moves.stamped {g g' : Gift} (h : Moves g g') (hg : Stamped g) : Stamped g' := by
  intro stamp
  obtain ⟨hset, hpassed⟩ := hg stamp
  cases h with
  | keeps hstatus hstamps =>
      rw [hstatus, hstamps]
      exact ⟨hset, hpassed⟩
  | writes u hallowed =>
      obtain ⟨-, hbefore, hpending, hstage, hafter⟩ := @Stamp.passed_of_allowed stamp _ _ hallowed
      rw [Update.write_status]
      rcases stamp.of_write u g with ⟨hstamps, hnew⟩ | ⟨hstamps, hold⟩
      · exact ⟨fun _ => hnew, fun _ => ⟨hpending, .inl (hstage (of_decide_eq_true hstamps))⟩⟩
      · rw [hold]
        have hnot : u.target ∉ stamp.stage := of_decide_eq_false hstamps
        refine ⟨fun htarget => hset ((hbefore htarget).resolve_left hnot), fun hstamp => ⟨hpending, ?_⟩⟩
        rcases (hpassed hstamp).2 with hpast | ⟨-, hcancelled⟩
        · exact hafter hpast
        · rw [hcancelled] at hallowed
          cases hallowed

/-- A stamp that is set stays. -/
theorem Moves.keeps_stamp {g g' : Gift} (h : Moves g g') {stamp : Stamp} (hg : stamp.of g ≠ none) :
    stamp.of g' ≠ none := by
  cases h with
  | keeps hstatus hstamps => rwa [hstamps]
  | writes u hallowed =>
      rcases stamp.of_write u g with ⟨-, hnew⟩ | ⟨-, hold⟩
      · exact hnew
      · rwa [hold]

/-- A status from which the graph leads nowhere stays. -/
theorem Moves.rests {g g' : Gift} (h : Moves g g') (hg : ALLOWED_TRANSITIONS g.status = []) : g'.status = g.status := by
  cases h with
  | keeps hstatus _ => exact hstatus
  | writes u hallowed =>
      rw [hg] at hallowed
      cases hallowed

/-! ### Steps -/

/-- A write by identifier finds the status its call has read. -/
def Fresh (e : Event Gifting Step) : Prop :=
  match e.lbl with
  | .setStatus giftId found .byId _ => ∀ g, e.pre.gifts.find giftId = some g → g.status = found
  | _ => True

/-- A status write that finds its row follows the graph. -/
theorem Effect.allowed {giftId : String} {found : GiftStatus} {pick : Pick} {u : Update} {w w' : Gifting}
    (h : Effect (.setStatus giftId found pick u) w w') (hfresh : Fresh ⟨w, .setStatus giftId found pick u, w'⟩)
    {g : Gift} (hg : w.gifts.find giftId = some g) (htakes : pick.takes g.status = true) :
    u.target ∈ ALLOWED_TRANSITIONS g.status := by
  obtain ⟨hchecked, -⟩ := h
  cases pick with
  | byId =>
      rw [hfresh g hg]
      exact hchecked
  | whileIn statuses => exact hchecked _ (of_decide_eq_true htakes)

theorem Effect.rows {l : Step} {w w' : Gifting} (h : Effect l w w') (hfresh : Fresh ⟨w, l, w'⟩) (giftId : String) :
    (∀ g, w.gifts.find giftId = some g → ∃ g', w'.gifts.find giftId = some g' ∧ Moves g g') ∧
      (∀ g', w'.gifts.find giftId = some g' → w.gifts.find giftId = none → g'.New) := by
  have hsame (heq : w'.gifts = w.gifts) :
      (∀ g, w.gifts.find giftId = some g → ∃ g', w'.gifts.find giftId = some g' ∧ Moves g g') ∧
        (∀ g', w'.gifts.find giftId = some g' → w.gifts.find giftId = none → g'.New) := by
    rw [heq]
    refine ⟨fun g hg => ⟨g, hg, Moves.refl g⟩, fun g' hg' hnone => ?_⟩
    rw [hnone] at hg'
    cases hg'
  cases l with
  | read | environment | shipment | post | notify => exact hsame h
  | createGift =>
      rcases h with heq | ⟨row, hnew, hcreate⟩
      · exact hsame heq
      · refine ⟨fun g hg => ⟨g, find_create_of_find hcreate hg, Moves.refl g⟩, fun g' hg' hnone => ?_⟩
        rw [find_create hcreate] at hg'
        split at hg'
        · cases hg'
          exact hnew
        · rw [hnone] at hg'
          cases hg'
  | carrier =>
      obtain ⟨id, carrier, trackingNumber, heq⟩ := h
      rw [heq]
      refine ⟨fun g hg => ⟨_, find_updateMany_some _ hg, ?_⟩, fun g' hg' hnone => ?_⟩
      · split
        · exact .keeps rfl fun stamp => by cases stamp <;> rfl
        · exact Moves.refl g
      · rw [find_updateMany_none _ hnone] at hg'
        cases hg'
  | setStatus id found pick u =>
      have hrows := h.2
      rw [hrows]
      refine ⟨fun g hg => ⟨_, find_updateMany_some _ hg, ?_⟩, fun g' hg' hnone => ?_⟩
      · split
        next htaken =>
          obtain ⟨hid, htakes⟩ := Bool.and_eq_true_iff.mp htaken
          have hkey : giftId = id := (key_of_find hg).symm.trans (of_decide_eq_true hid)
          subst hkey
          exact .writes u (h.allowed hfresh hg htakes)
        next => exact Moves.refl g
      · rw [find_updateMany_none _ hnone] at hg'
        cases hg'

/-! ### Runs -/

/-- The update an action writes to a gift, if it finds it. -/
def written (giftId : String) (e : Event Gifting Step) : Option Update :=
  match e.lbl with
  | .setStatus id _ pick u =>
      if id = giftId ∧ (e.pre.gifts.find giftId).any (fun g => pick.takes g.status) = true then some u else none
  | _ => none

def Been (giftId : String) (statuses : List GiftStatus) (tr : List (Event Gifting Step)) : Prop :=
  ∃ e ∈ tr, ∃ g, e.post.gifts.find giftId = some g ∧ g.status ∈ statuses

/-- The journey of one gift in a run. -/
structure Journey (giftId : String) (tr : List (Event Gifting Step)) (w : Gifting) : Prop where
  /-- Every status written is a successor of the stored one. -/
  along : ∀ e ∈ tr, ∀ u, written giftId e = some u →
    ∃ g, e.pre.gifts.find giftId = some g ∧ u.target ∈ ALLOWED_TRANSITIONS g.status
  /-- A status changes by such a write only. -/
  moves : ∀ e ∈ tr, ∀ g g', e.pre.gifts.find giftId = some g → e.post.gifts.find giftId = some g' →
    g'.status = g.status ∨ g'.status ∈ ALLOWED_TRANSITIONS g.status
  /-- A delivered or cancelled gift keeps its status. -/
  rests : ∀ e ∈ tr, ∀ g, e.pre.gifts.find giftId = some g → g.status ∈ [.delivered, .cancelled] →
    ∃ g', w.gifts.find giftId = some g' ∧ g'.status = g.status
  /-- A stamp is written once. -/
  once : ∀ stamp : Stamp, (tr.countP fun e => (written giftId e).any fun u => u.stamps stamp) ≤ 1
  /-- A stamp is set exactly when its stage has been reached. -/
  stamped : ∀ stamp : Stamp, ∀ g, w.gifts.find giftId = some g →
    (stamp.of g ≠ none ↔ Been giftId stamp.stage tr)

/-- An action that meets the condition. -/
abbrev FreshEffect (l : Step) (w w' : Gifting) : Prop := Effect l w w' ∧ Fresh ⟨w, l, w'⟩

theorem FreshEffect.keeps {P : Gift → Prop} (hP : ∀ g g', Moves g g' → P g → P g') {giftId : String} (l : Step)
    (w w' : Gifting) (h : FreshEffect l w w') (hw : ∃ g, w.gifts.find giftId = some g ∧ P g) :
    ∃ g, w'.gifts.find giftId = some g ∧ P g := by
  obtain ⟨g, hg, hPg⟩ := hw
  obtain ⟨g', hg', hmoves⟩ := (h.1.rows h.2 giftId).1 g hg
  exact ⟨g', hg', hP g g' hmoves hPg⟩

/-- The stamps of every stored row agree with its status. -/
def AllStamped (w : Gifting) : Prop := ∀ giftId g, w.gifts.find giftId = some g → Stamped g

theorem FreshEffect.allStamped {l : Step} {w w' : Gifting} (h : FreshEffect l w w') (hw : AllStamped w) :
    AllStamped w' := by
  intro giftId g' hg'
  obtain ⟨hkept, hnew⟩ := h.1.rows h.2 giftId
  cases hg : w.gifts.find giftId with
  | none => exact (hnew g' hg' hg).stamped
  | some g =>
      obtain ⟨x, hx, hmoves⟩ := hkept g hg
      rw [hg'] at hx
      cases hx
      exact hmoves.stamped (hw giftId g hg)

theorem FreshEffect.stamps {giftId : String} {stamp : Stamp} {l : Step} {w w' : Gifting} (h : FreshEffect l w w')
    (hw : AllStamped w) (hturn : (written giftId ⟨w, l, w'⟩).any (fun u => u.stamps stamp) = true) :
    (¬∃ g, w.gifts.find giftId = some g ∧ stamp.of g ≠ none) ∧
      ∃ g, w'.gifts.find giftId = some g ∧ stamp.of g ≠ none ∧ g.status ∈ stamp.stage := by
  cases l with
  | setStatus id found pick u =>
      simp only [written] at hturn
      split at hturn
      next htaken =>
        obtain ⟨rfl, htakes⟩ := htaken
        rw [Option.any_eq_true] at htakes
        obtain ⟨g, hg, htakes⟩ := htakes
        have hstage : u.target ∈ stamp.stage := of_decide_eq_true hturn
        have hallowed := h.1.allowed h.2 hg htakes
        obtain ⟨hfirst, -⟩ := @Stamp.passed_of_allowed stamp _ _ hallowed
        constructor
        · rintro ⟨x, hx, hset⟩
          rw [hg] at hx
          cases hx
          obtain ⟨-, hpast⟩ := hw id g hg stamp
          rcases (hpast hset).2 with hpassed | ⟨-, hcancelled⟩
          · rw [(hfirst hstage).1] at hpassed
            cases hpassed
          · exact (hfirst hstage).2 hcancelled
        · have hkey := key_of_find hg
          have hrow := find_updateMany_some (p := fun g => g.id = id && pick.takes g.status) u.write_id hg
          rw [if_pos (by simp [hkey, htakes])] at hrow
          rcases stamp.of_write u g with ⟨-, hnew⟩ | ⟨hnot, -⟩
          · exact ⟨u.write g, by rw [h.1.2]; exact hrow, hnew, by rw [Update.write_status]; exact hstage⟩
          · rw [Update.stamps, decide_eq_false_iff_not] at hnot
            exact absurd hstage hnot
      next => cases hturn
  | read | environment | createGift | carrier | shipment | post | notify => cases hturn

theorem FreshEffect.entered {giftId : String} {stamp : Stamp} {l : Step} {w w' : Gifting} (h : FreshEffect l w w')
    (hw : ¬∃ g, w.gifts.find giftId = some g ∧ stamp.of g ≠ none)
    (hw' : ∃ g, w'.gifts.find giftId = some g ∧ stamp.of g ≠ none) :
    ∃ g, w'.gifts.find giftId = some g ∧ g.status ∈ stamp.stage := by
  obtain ⟨g', hg', hset⟩ := hw'
  obtain ⟨hkept, hnew⟩ := h.1.rows h.2 giftId
  cases hg : w.gifts.find giftId with
  | none =>
      obtain ⟨-, hpast⟩ := (hnew g' hg' hg).stamped stamp
      exact absurd (hnew g' hg' hg).status (hpast hset).1
  | some g =>
      obtain ⟨x, hx, hmoves⟩ := hkept g hg
      rw [hg'] at hx
      cases hx
      cases hmoves with
      | keeps hstatus hstamps => exact absurd ⟨g, hg, by rwa [← hstamps]⟩ hw
      | writes u hallowed =>
          rcases stamp.of_write u g with ⟨hstamps, -⟩ | ⟨-, hold⟩
          · exact ⟨u.write g, hg', by rw [Update.write_status]; exact of_decide_eq_true hstamps⟩
          · exact absurd ⟨g, hg, by rwa [← hold]⟩ hw

variable [Shop.Cities] [Runtime]

/-- **The journey**: where every write by identifier finds the status its call has read. -/
theorem Run.journey {tr : List (Event Gifting Step)} {cfg : Config Gifting Step (Except Err Reply)} (h : Run tr cfg)
    (hfresh : ∀ e ∈ tr, Fresh e) (giftId : String) : Journey giftId tr cfg.state := by
  have hpath : Path FreshEffect empty tr cfg.state := (Run.path h).restrict hfresh
  have hempty : AllStamped empty := fun _ _ hg => by cases hg
  have hall {u : Gifting} {tr' : List (Event Gifting Step)} (hbefore : Path FreshEffect empty tr' u) : AllStamped u :=
    hbefore.invariant (C := fun _ => True) (fun l s t hact _ hs => hact.allStamped hs) (fun _ _ => trivial) hempty
  refine ⟨fun e he u hu => ?_, fun e he g g' hg hg' => ?_, fun e he g hg hfinal => ?_, fun stamp => ?_,
    fun stamp g hg => ⟨fun hset => ?_, ?_⟩⟩
  · obtain ⟨-, -, -, -, hact, -⟩ := hpath.split he
    obtain ⟨pre, l, post⟩ := e
    cases l with
    | setStatus id found pick u' =>
        simp only [written] at hu
        split at hu
        next htaken =>
          obtain ⟨rfl, htakes⟩ := htaken
          cases hu
          rw [Option.any_eq_true] at htakes
          obtain ⟨g, hg, htakes⟩ := htakes
          exact ⟨g, hg, hact.1.allowed hact.2 hg htakes⟩
        next => cases hu
    | read | environment | createGift | carrier | shipment | post | notify => cases hu
  · obtain ⟨-, -, -, -, hact, -⟩ := hpath.split he
    obtain ⟨x, hx, hmoves⟩ := (hact.1.rows hact.2 giftId).1 g hg
    rw [hg'] at hx
    cases hx
    cases hmoves with
    | keeps hstatus _ => exact .inl hstatus
    | writes u hallowed => exact .inr (by rwa [Update.write_status])
  · obtain ⟨tr₁, tr₂, -, -, hact, hrest⟩ := hpath.split he
    -- a final status has no successor, so no later move changes it
    have hdead : ALLOWED_TRANSITIONS g.status = [] := by
      simp only [List.mem_cons, List.not_mem_nil, or_false] at hfinal
      rcases hfinal with hfinal | hfinal <;> rw [hfinal] <;> rfl
    have hkeep (x x' : Gift) (hmoves : Moves x x') (hx : x.status = g.status) : x'.status = g.status := by
      rw [← hx] at hdead
      rw [hmoves.rests hdead, hx]
    have hpost := FreshEffect.keeps hkeep _ _ _ hact ⟨g, hg, rfl⟩
    exact hrest.invariant (C := fun _ => True)
      (P := fun w => ∃ x, w.gifts.find giftId = some x ∧ x.status = g.status)
      (fun l s t hstep _ hs => FreshEffect.keeps hkeep l s t hstep hs) (fun _ _ => trivial) hpost
  · refine Path.countP_le_one
      (A := fun l s t => FreshEffect l s t ∧ AllStamped s)
      (P := fun w => ∃ g, w.gifts.find giftId = some g ∧ stamp.of g ≠ none)
      (fun l s t hact hs => FreshEffect.keeps (fun _ _ hmoves hset => hmoves.keeps_stamp hset) l s t hact.1 hs)
      (fun l s t hact hturn => ?_) (s := empty) (t := cfg.state) ?_
    · obtain ⟨hnot, g, hg, hset, -⟩ := hact.1.stamps hact.2 hturn
      exact ⟨hnot, g, hg, hset⟩
    · refine (hpath.restrict (C := fun e => AllStamped e.pre) fun e he => ?_)
      obtain ⟨tr₁, tr₂, -, hbefore, -, -⟩ := hpath.split he
      exact hall hbefore
  · obtain ⟨e, he, hact, hnot, hflip⟩ := hpath.flip
      (P := fun w => ∃ g, w.gifts.find giftId = some g ∧ stamp.of g ≠ none)
      (by rintro ⟨x, hx, -⟩; cases hx) ⟨g, hg, hset⟩
    obtain ⟨x, hx, hstage⟩ := hact.entered hnot hflip
    exact ⟨e, he, x, hx, hstage⟩
  · rintro ⟨e, he, x, hx, hstage⟩
    obtain ⟨tr₁, tr₂, -, hbefore, hact, hrest⟩ := hpath.split he
    have hpassed : stamp.passed x.status = true := by
      revert hstage
      cases stamp <;> cases x.status <;> decide
    have hset : stamp.of x ≠ none := (hact.allStamped (hall hbefore) giftId x hx stamp).1 hpassed
    obtain ⟨y, hy, hyset⟩ := hrest.invariant (C := fun _ => True)
      (P := fun w => ∃ g, w.gifts.find giftId = some g ∧ stamp.of g ≠ none)
      (fun l s t hstep _ hs =>
        FreshEffect.keeps (fun _ _ hmoves hold => hmoves.keeps_stamp hold) l s t hstep hs)
      (fun _ _ => trivial) ⟨x, hx, hset⟩
    rw [hg] at hy
    cases hy
    exact hyset

/-! ### Concrete runs -/

instance (e : Event Gifting Step) : Decidable (Fresh e) := by
  unfold Fresh
  split
  · rename_i giftId found _ _
    exact decidable_of_iff ((e.pre.gifts.find giftId).all (fun g => g.status = found) = true) (by
      cases e.pre.gifts.find giftId <;> simp)
  · exact .isTrue trivial

namespace Pilot

/-- A sender and a receiver with one address. -/
def books : Books where
  storeUserIds := []
  users := [⟨"u1", "sara", none, none⟩, ⟨"u2", "omar", none, none⟩]
  blocks := []
  addresses := ⟨[{ id := "a1", userId := "u2", label := none, country := "SA", region := none, city := "Riyadh",
                   governorate := none, district := "Olaya", street := none, buildingNumber := none,
                   unitNumber := none, postalCode := none, additionalNumber := none, shortAddress := none,
                   deliveryPhone := none, details := none, isDefault := true }], by simp⟩
  stores := Table.empty
  products := Table.empty
  occasions := []

/-- Follow a schedule from the empty database. -/
def played (schedule : List (Choice Call)) :
    List (Event Gifting Step) × Config Gifting Step (Except Err Reply) :=
  Config.play (@program Market.Pilot.plainCities plainRuntime) ⟨empty, []⟩ schedule

omit [Shop.Cities] [Runtime] in
theorem run (schedule : List (Choice Call)) :
    @Run Market.Pilot.plainCities plainRuntime (played schedule).1 (played schedule).2 := by
  have hinit : @Run Market.Pilot.plainCities plainRuntime [] ⟨empty, []⟩ := Exec.init
  simpa [played] using hinit.play schedule

/-- Start a call and let it end. -/
def toEnd (c : Call) : List (Choice Call) := .start c :: List.replicate 9 (.run 0)

/-- Omar has been sent a gift. -/
def sent : List (Choice Call) :=
  toEnd (.books books) ++ toEnd (.create
    { receiverUsername := some "omar", productName := some "vase", storeName := some "home" } "u1" none ["QF-1"] "g1")

/-- He confirms his address. -/
def confirmed : List (Choice Call) := sent ++ toEnd (.confirmAddress "g1" "u2" none)

/-- He confirms his address, and Sara cancels the gift after it has been read and before it is written. -/
def crossed : List (Choice Call) :=
  sent ++ [.start (.confirmAddress "g1" "u2" none), .run 0] ++ toEnd (.cancel "g1" "u1") ++ List.replicate 5 (.run 1)

end Pilot

omit [Shop.Cities] [Runtime] in
theorem Run.journey_confirmed :
    Journey "g1" (Pilot.played Pilot.confirmed).1 (Pilot.played Pilot.confirmed).2.state ∧
      ((Pilot.played Pilot.confirmed).2.state.gifts.find "g1").any
        (fun g => g.status = .address_confirmed ∧ g.confirmedAt ≠ none) = true :=
  ⟨@Run.journey Market.Pilot.plainCities plainRuntime _ _ (Pilot.run _) (by decide +kernel) "g1", by decide +kernel⟩

omit [Shop.Cities] [Runtime] in
/-- **A cancelled gift moves on**: its confirmation was read before it was cancelled and is written after. -/
theorem Run.resurrected : ∃ tr cfg giftId, @Run Market.Pilot.plainCities plainRuntime tr cfg ∧
    (tr.any fun e => (written giftId e).any fun u => (e.pre.gifts.find giftId).any fun g =>
      g.status = .cancelled ∧ u.target = .address_confirmed) = true ∧ ¬ Journey giftId tr cfg.state := by
  have hwrites : ((Pilot.played Pilot.crossed).1.any fun e => (written "g1" e).any fun u =>
      (e.pre.gifts.find "g1").any fun g => g.status = .cancelled ∧ u.target = .address_confirmed) = true := by
    decide +kernel
  refine ⟨_, _, "g1", Pilot.run Pilot.crossed, hwrites, fun hjourney => ?_⟩
  simp only [List.any_eq_true, Option.any_eq_true] at hwrites
  obtain ⟨e, he, u, hu, g, hg, hmoved⟩ := hwrites
  obtain ⟨hcancelled, -⟩ := of_decide_eq_true hmoved
  obtain ⟨x, hx, hallowed⟩ := hjourney.along e he u hu
  rw [hg] at hx
  cases hx
  rw [hcancelled] at hallowed
  cases hallowed

end Qift.Gifting
