import Qift.Tallies.Counting

/-!
# What a request that counts has to pay

* `Balance` is what is owed: each wish or gift that is added or taken away is followed by the write of the counter.
* `Pays b n x` — from a debt of `n`, the call pays all it owes by its end.
* `program_pays` — every request that ends has paid.
-/

namespace Qift.Tallies

open Relational Relational.Table Interleaving

/-! ### Calls that pay -/

/-- What is earned by a change of what is counted, and spent by the write of the counter. -/
inductive Balance
  | added (c : Counter) (productId : String)
  | taken (c : Counter) (productId : String)

namespace Balance

def earns : Balance → Step → Tallies → Bool
  | added c p, l, w => c.gains p l w
  | taken c p, l, w => c.loses p l w

def spends : Balance → Step → Bool
  | added c p, l => c.ups p l
  | taken c p, l => c.downs p l

variable (b : Balance)

/-- A heart is to be counted when it is new. -/
theorem earns_upsertWish {row : Wish} {q : String} (hrow : row.productId = some q) (existing : Bool) (id : Nat)
    (w : Tallies) : b.earns (.upsertWish row existing) w =
      (b.spends (.countWish id q) && (!existing && succeeds (upsertWishTx row) w)) := by
  rcases b with ⟨c, p⟩ | ⟨c, p⟩ <;> cases c <;>
    simp [earns, spends, Counter.gains, Counter.loses, Counter.ups, Counter.downs, hrow, Bool.and_assoc]

theorem earns_deleteWish (id : Nat) (q : String) (w : Tallies) : b.earns (.deleteWish id (some q)) w =
    (b.spends (.uncountWish id q) && (w.wishes.find id).isSome) := by
  rcases b with ⟨c, p⟩ | ⟨c, p⟩ <;> cases c <;>
    simp [earns, spends, Counter.gains, Counter.loses, Counter.ups, Counter.downs]

theorem earns_createGift {row : Gifting.Gift} {q : String} (hrow : row.productId = some q) (w : Tallies) :
    b.earns (.createGift row) w = (b.spends (.countGift row.id q) && succeeds (createGiftTx row) w) := by
  rcases b with ⟨c, p⟩ | ⟨c, p⟩ <;> cases c <;>
    simp [earns, spends, Counter.gains, Counter.loses, Counter.ups, Counter.downs, hrow]

theorem earns_cancelGift (giftId q : String) (w : Tallies) : b.earns (.cancelGift giftId (some q)) w =
    (b.spends (.uncountGift giftId q) && decide (cancelCount giftId w ≠ 0)) := by
  rcases b with ⟨c, p⟩ | ⟨c, p⟩ <;> cases c <;>
    simp [earns, spends, Counter.gains, Counter.loses, Counter.ups, Counter.downs]

/-- What has no product is counted nowhere. -/
theorem earns_none (w : Tallies) :
    (∀ id, b.earns (.deleteWish id none) w = false) ∧ (∀ giftId, b.earns (.cancelGift giftId none) w = false) ∧
      ∀ row, row.productId = none → b.earns (.createGift row) w = false := by
  refine ⟨fun id => ?_, fun giftId => ?_, fun row hrow => ?_⟩ <;> rcases b with ⟨c, p⟩ | ⟨c, p⟩ <;> cases c <;>
    simp [earns, Counter.gains, Counter.loses]
  simp [hrow]

end Balance

/-- A write of a counter. -/
def Step.pays : Step → Bool
  | .countWish _ _ | .uncountWish _ _ | .countGift _ _ | .uncountGift _ _ => true
  | _ => false

/-- A change of what is counted. -/
def Step.owes : Step → Bool
  | .upsertWish _ _ | .deleteWish _ _ | .createGift _ | .cancelGift _ _ => true
  | _ => false

section Paid

variable {b : Balance}

theorem earns_of_not_owes {l : Step} (hl : l.owes = false) (w : Tallies) : b.earns l w = false := by
  cases l with
  | upsertWish | deleteWish | createGift | cancelGift => cases hl
  | _ => rcases b with ⟨c, p⟩ | ⟨c, p⟩ <;> cases c <;> rfl

theorem spends_of_not_pays {l : Step} (hl : l.pays = false) : b.spends l = false := by
  cases l with
  | countWish | uncountWish | countGift | uncountGift => cases hl
  | _ => rcases b with ⟨c, p⟩ | ⟨c, p⟩ <;> cases c <;> rfl

/-- The call pays what it owes. -/
abbrev Pays {α : Type} (b : Balance) (n : Nat) (x : Service α) : Prop := x.Balanced b.earns (fun l _ => b.spends l) n

abbrev Mute {α : Type} (b : Balance) (x : Service α) : Prop := Svc.Does (Unpriced b.earns fun l _ => b.spends l) x

theorem query_mute {α : Type} (f : Tallies → α) : Mute b (Svc.query .read f : Service α) :=
  Svc.Does.query (fun w => ⟨earns_of_not_owes rfl w, spends_of_not_pays rfl⟩) f

theorem write_mute {α : Type} {l : Step} (howes : l.owes = false) (hpays : l.pays = false) (tx : Transaction α) :
    Mute b (Svc.transaction l tx) :=
  Svc.Does.transaction (fun w _ _ _ => ⟨earns_of_not_owes howes w, spends_of_not_pays hpays⟩)
    fun w _ _ => ⟨earns_of_not_owes howes w, spends_of_not_pays hpays⟩

theorem ofGifting_mute {α : Type} {x : Gifting.Service α} (h : Svc.Does Gifting.Side x) : Mute b (ofGifting x) :=
  Svc.Does.zoom (fun _ w _ _ => ⟨earns_of_not_owes rfl w, spends_of_not_pays rfl⟩) h

theorem bestEffort_mute {x : Service Unit} (h : Mute b x) : Mute b (bestEffort x) :=
  Svc.Does.tryCatch h fun _ => Svc.Does.pure _

theorem pays_of_mute {α : Type} {x : Service α} (h : Mute b x) : Pays b 0 x := Svc.Balanced.of_neutral empty h

theorem read_pays {α β : Type} {n : Nat} {f : Tallies → α} {g : α → Service β} (hg : ∀ w, Pays b n (g (f w))) :
    Pays b n (Svc.query .read f >>= g) :=
  Svc.Balanced.query_bind (fun w => ⟨earns_of_not_owes rfl w, spends_of_not_pays rfl⟩) hg

/-- The write of a counter, then the rest. -/
theorem pay_bind {α β : Type} {l : Step} (hl : l.owes = false) (tx : Transaction α) {g : α → Service β}
    (hg : ∀ a, Pays b 0 (g a)) : Pays b (b.spends l).toNat (Svc.transaction l tx >>= g) :=
  Svc.Balanced.spend_bind (fun w => ⟨earns_of_not_owes hl w, rfl⟩) hg

/-! #### Wishes -/

theorem countWish_pays (id : Nat) (productId : String) :
    Pays b (b.spends (.countWish id productId)).toNat (countWish id productId) := by
  refine pay_bind rfl _ fun updated => pays_of_mute ?_
  split
  · refine bestEffort_mute (Svc.Does.bind (query_mute _) fun now => ?_)
    exact Svc.Does.bind (write_mute rfl rfl _) fun _ => Svc.Does.pure _
  · exact Svc.Does.pure _

theorem heartProduct_pays (userId productId : String) (body : CreateWishInput) :
    Pays b 0 (heartProduct userId productId body) := by
  refine read_pays fun w => ?_
  cases hproduct : w.products.find productId with
  | none => exact Svc.Balanced.fail _
  | some product =>
      have hid : product.id = productId := key_of_find hproduct
      have hrow : (snapshotOf userId body product).productId = some productId := congrArg some hid
      refine read_pays fun v => ?_
      generalize (wishOf userId productId v).isSome = existing
      refine Svc.Balanced.earn_bind (c := fun x => b.spends (.countWish x.id productId) && !existing)
        (fun _ => spends_of_not_pays rfl) (fun u x u' htx => ?_) (fun u e htx => ?_) fun x => ?_
      · rw [b.earns_upsertWish hrow existing x.id, succeeds, htx, Bool.and_true]
      · rw [b.earns_upsertWish hrow existing 0, succeeds, htx, Bool.and_false, Bool.and_false]
      · cases existing with
        | true =>
            rw [Bool.not_true, Bool.and_false]
            exact Svc.Balanced.pure x
        | false =>
            rw [Bool.not_false, Bool.and_true]
            exact Svc.Balanced.bind (countWish_pays x.id productId) fun _ => Svc.Balanced.pure x

theorem wishFor_mute (userId : String) (body : CreateWishInput) : Mute b (wishFor userId body) := by
  unfold wishFor
  split
  · exact Svc.Does.fail _
  · refine Svc.Does.bind (Svc.Does.ensure _ _) fun _ => Svc.Does.bind (Svc.Does.ensure _ _) fun _ => ?_
    refine Svc.Does.bind (query_mute _) fun existing => ?_
    cases existing with
    | some existing => exact Svc.Does.pure _
    | none => exact write_mute rfl rfl _

theorem createWish_pays (userId : String) (body : CreateWishInput) : Pays b 0 (createWish userId body) := by
  unfold createWish
  split
  · exact heartProduct_pays _ _ _
  · exact pays_of_mute (wishFor_mute _ _)

theorem deleteWish_pays (id : Nat) (productId : Option String) : Pays b 0 (deleteWish id productId) := by
  have hfound {w : Tallies} {x : Wish} {w' : Tallies}
      (htx : (wish.delete (.error "record to delete does not exist") id : Transaction Wish) w = .ok (x, w')) :
      (w.wishes.find id).isSome = true := Option.isSome_of_eq_some (Delegate.delete_eq_ok.mp htx).1
  have hmissing {w : Tallies} {e : Err}
      (htx : (wish.delete (.error "record to delete does not exist") id : Transaction Wish) w = .error e) :
      (w.wishes.find id).isSome = false := by
    unfold Delegate.delete at htx
    split at htx
    next hnone => rw [hnone, Option.isSome_none]
    next => cases htx
  cases productId with
  | none =>
      exact Svc.Balanced.earn_bind (c := fun _ => false) (fun _ => spends_of_not_pays rfl)
        (fun w _ _ _ => (b.earns_none w).1 id) (fun w _ _ => (b.earns_none w).1 id) fun _ => Svc.Balanced.pure _
  | some q =>
      refine Svc.Balanced.earn_bind (c := fun _ => b.spends (.uncountWish id q)) (fun _ => spends_of_not_pays rfl)
        (fun w x w' htx => ?_) (fun w e htx => ?_) fun x => pay_bind rfl _ fun _ => Svc.Balanced.pure _
      · rw [b.earns_deleteWish, hfound htx, Bool.and_true]
      · rw [b.earns_deleteWish, hmissing htx, Bool.and_false]

theorem removeWish_pays (userId : String) (id : Nat) : Pays b 0 (removeWish userId id) := by
  refine read_pays fun w => ?_
  split
  · exact Svc.Balanced.fail _
  · exact deleteWish_pays _ _

theorem removeWishByProduct_pays (userId productId : String) : Pays b 0 (removeWishByProduct userId productId) := by
  refine read_pays fun w => ?_
  split
  · exact Svc.Balanced.pure _
  · exact deleteWish_pays _ _

/-! #### Gifts -/

/-- Wishes may be written in between. -/
theorem recover_pays {β : Type} {n : Nat} {x : Service Unit} (hx : Mute b x) {g : Unit → Service β}
    (hg : ∀ u, Pays b n (g u)) : Pays b n (bestEffort x >>= g) :=
  Svc.Balanced.recover_bind empty hx hg

theorem countGift_pays (giftId productId : String) :
    Pays b (b.spends (.countGift giftId productId)).toNat (countGift giftId productId) :=
  Svc.Balanced.tryCatch (read_pays fun _ => pay_bind rfl _ fun _ => Svc.Balanced.pure _) fun _ => Svc.Balanced.pure _

theorem uncountGift_pays (giftId productId : String) :
    Pays b (b.spends (.uncountGift giftId productId)).toNat (uncountGift giftId productId) :=
  Svc.Balanced.tryCatch (pay_bind rfl _ fun _ => Svc.Balanced.pure _) fun _ => Svc.Balanced.pure _

/-- What is to be paid for a new gift. -/
def Balance.newGift (b : Balance) (row : Gifting.Gift) : Bool :=
  match row.productId with
  | none => false
  | some q => b.spends (.countGift row.id q)

theorem Balance.earns_new (b : Balance) (row : Gifting.Gift) (w : Tallies) :
    b.earns (.createGift row) w = (b.newGift row && succeeds (createGiftTx row) w) := by
  unfold newGift
  split
  next hrow => rw [(b.earns_none w).2.2 row hrow, Bool.false_and]
  next q hrow => rw [b.earns_createGift hrow]

theorem tallyGift_pays (row : Gifting.Gift) : Pays b (b.newGift row).toNat (tallyGift row) := by
  unfold tallyGift Balance.newGift
  cases row.productId with
  | none => exact Svc.Balanced.pure _
  | some q => exact recover_pays (Svc.Does.bind (query_mute _) fun _ =>
      Svc.Does.bind (write_mute rfl rfl _) fun _ => Svc.Does.pure _) fun _ => countGift_pays row.id q

theorem answerRace_mute (identity : Option (String × String)) (senderId : String) (e : Err) :
    Mute b (answerRace identity senderId e) := by
  unfold answerRace
  split
  · refine ofGifting_mute (Svc.Does.bind (Gifting.Side.query _) fun winner => ?_)
    cases winner with
    | none => exact Svc.Does.fail _
    | some winner => exact Gifting.Side.replayGift _ _ _
  · exact Svc.Does.fail _

theorem insertGift_pays (identity : Option (String × String)) (senderId : String) (row : Gifting.Gift) :
    Pays b 0 (insertGift identity senderId row) := by
  have hspend : b.spends (.createGift row) = false := spends_of_not_pays rfl
  refine Svc.Balanced.attempt (fun w hw => ?_) (fun w created w' htx => ?_) (fun w e htx => ?_)
    (fun e => pays_of_mute (answerRace_mute identity senderId e)) fun replay => Svc.Balanced.pure _
  · rw [hspend] at hw
    cases hw
  · have hearn : b.earns (.createGift row) w = b.newGift row := by
      rw [b.earns_new, succeeds, htx, Bool.and_true]
    rw [hspend, hearn, Nat.zero_add]
    refine Svc.Balanced.bind (tallyGift_pays row) fun _ => pays_of_mute ?_
    exact Svc.Does.bind (ofGifting_mute (Gifting.Side.announceGift _)) fun _ => Svc.Does.pure _
  · have hearn : b.earns (.createGift row) w = false := by
      rw [b.earns_new, succeeds, htx, Bool.and_false]
    rw [hspend, hearn]
    rfl

section Cities

variable [Shop.Cities]

theorem createNewGift_pays (body : Shop.CreateGiftInput) (draft : Gifting.GiftDraft) (candidates : List String)
    (giftId : String) : Pays b 0 (createNewGift body draft candidates giftId) := by
  refine Svc.Balanced.bind (pays_of_mute (ofGifting_mute (Gifting.Side.checkRecipient _))) fun receiverId => ?_
  refine Svc.Balanced.bind (pays_of_mute (ofGifting_mute (Gifting.Side.checkFastDelivery _ _))) fun _ => ?_
  refine Svc.Balanced.bind (pays_of_mute (ofGifting_mute (Gifting.Side.checkProduct _))) fun productStoreId => ?_
  refine Svc.Balanced.bind (pays_of_mute (ofGifting_mute (Gifting.Side.resolveOccasion _ _ _))) fun occasionId => ?_
  refine Svc.Balanced.bind (pays_of_mute (ofGifting_mute (Gifting.Side.allocateReference _ _))) fun number => ?_
  exact insertGift_pays _ _ _

theorem createGift_pays [Runtime] (body : Shop.CreateGiftInput) (viewerUserId : String)
    (idempotencyKey : Option String) (candidates : List String) (giftId : String) :
    Pays b 0 (createGift body viewerUserId idempotencyKey candidates giftId) := by
  refine Svc.Balanced.bind (pays_of_mute (Svc.Does.ofExcept _)) fun media => ?_
  split
  · dsimp only
    split
    · exact createNewGift_pays _ _ _ _
    · refine Svc.Balanced.bind (Svc.Balanced.ensure _ _) fun _ => ?_
      refine Svc.Balanced.bind (pays_of_mute (ofGifting_mute (Gifting.Side.query _))) fun existing => ?_
      cases existing with
      | none => exact createNewGift_pays _ _ _ _
      | some existing => exact pays_of_mute (ofGifting_mute (Gifting.Side.replayGift _ _ _))
  · exact Svc.Balanced.fail _

end Cities

/-- What is to be paid for a cancelled gift. -/
def Balance.cancelled (b : Balance) (giftId : String) (g : Gifting.Gift) : Bool :=
  match g.productId with
  | none => false
  | some q => b.spends (.uncountGift giftId q)

theorem Balance.earns_cancelled (b : Balance) (giftId : String) (g : Gifting.Gift) (w : Tallies) :
    b.earns (.cancelGift giftId g.productId) w = (b.cancelled giftId g && decide (cancelCount giftId w ≠ 0)) := by
  unfold cancelled
  cases g.productId with
  | none => rw [(b.earns_none w).2.1 giftId, Bool.false_and]
  | some q => rw [b.earns_cancelGift]

theorem untallyGift_pays (giftId : String) (g : Gifting.Gift) :
    Pays b (b.cancelled giftId g).toNat (untallyGift giftId g) := by
  unfold untallyGift Balance.cancelled
  cases g.productId with
  | none => exact Svc.Balanced.pure _
  | some q => exact recover_pays (Svc.Does.bind (write_mute rfl rfl _) fun _ => Svc.Does.pure _) fun _ =>
      uncountGift_pays giftId q

theorem cancelGift_pays (giftId viewerUserId : String) : Pays b 0 (cancelGift giftId viewerUserId) := by
  refine Svc.Balanced.bind (pays_of_mute (ofGifting_mute (Gifting.Side.findGiftWithParties _))) fun g => ?_
  refine Svc.Balanced.bind (Svc.Balanced.ensure _ _) fun _ => ?_
  split
  · exact Svc.Balanced.pure _
  · refine Svc.Balanced.bind (Svc.Balanced.ensure _ _) fun _ => ?_
    refine Svc.Balanced.earn_bind (c := fun count => b.cancelled giftId g.gift && decide (count ≠ 0))
      (fun _ => spends_of_not_pays rfl) (fun w count w' htx => ?_) (fun w e htx => by cases htx) fun count => ?_
    · obtain ⟨h, htx, -⟩ := Tx.zoom_eq_ok.mp htx
      obtain ⟨rfl, -⟩ := Delegate.updateMany_eq_ok.mp htx
      exact b.earns_cancelled giftId g.gift w
    · split
      next hcount =>
        rw [hcount, decide_eq_false (by simp), Bool.and_false]
        refine pays_of_mute ?_
        exact Svc.Does.bind (ofGifting_mute (Gifting.Side.findGiftWithParties _)) fun _ => Svc.Does.pure _
      next hcount =>
        rw [decide_eq_true hcount, Bool.and_true]
        refine Svc.Balanced.bind (untallyGift_pays giftId g.gift) fun _ => pays_of_mute ?_
        refine Svc.Does.bind (ofGifting_mute (Gifting.Side.deactivatePosts _)) fun _ => ?_
        refine Svc.Does.bind (ofGifting_mute (Gifting.Side.trigger _)) fun _ => ?_
        exact Svc.Does.bind (ofGifting_mute (Gifting.Side.findGiftWithParties _)) fun _ => Svc.Does.pure _

/-! #### Appreciations and purges -/

theorem appreciate_mute (viewerUserId postId : String) : Mute b (appreciate viewerUserId postId) := by
  refine Svc.Does.bind (query_mute _) fun post => ?_
  cases post with
  | none => exact Svc.Does.fail _
  | some post =>
      refine Svc.Does.bind (Svc.Does.ensure _ _) fun _ => Svc.Does.bind (Svc.Does.ensure _ _) fun _ => ?_
      refine Svc.Does.tryCatch (Svc.Does.bind (write_mute rfl rfl _) fun _ => Svc.Does.pure _) fun e => ?_
      split
      · exact Svc.Does.bind (write_mute rfl rfl _) fun _ => Svc.Does.pure _
      · exact Svc.Does.fail _

theorem purgeUser_mute (viewerUserId targetUserId confirmUsername : String) :
    Mute b (purgeUser viewerUserId targetUserId confirmUsername) := by
  refine Svc.Does.bind (Svc.Does.ensure _ _) fun _ => Svc.Does.bind (query_mute _) fun target => ?_
  cases target with
  | none => exact Svc.Does.fail _
  | some target =>
      obtain ⟨user, account⟩ := target
      dsimp only
      split
      · exact Svc.Does.pure _
      · refine Svc.Does.bind (Svc.Does.ensure _ _) fun _ => Svc.Does.bind (Svc.Does.ensure _ _) fun _ => ?_
        refine Svc.Does.bind (Svc.Does.ensure _ _) fun _ => Svc.Does.bind (query_mute _) fun inflight => ?_
        refine Svc.Does.bind (Svc.Does.ensure _ _) fun _ => Svc.Does.bind (query_mute _) fun now => ?_
        exact Svc.Does.bind (write_mute rfl rfl _) fun _ => Svc.Does.pure _

section Program

variable [Shop.Cities] [Runtime]

/-- **Every request that ends has paid.** -/
theorem program_pays (b : Balance) (c : Call) : Pays b 0 (program c) := by
  cases c with
  | tick elapsed => exact Svc.Balanced.map (pays_of_mute (ofGifting_mute (Gifting.Side.tick elapsed)))
  | books books => exact Svc.Balanced.map (pays_of_mute (ofGifting_mute (Gifting.Side.books books)))
  | accounts accounts => exact Svc.Balanced.map (pays_of_mute (write_mute rfl rfl _))
  | product id name imageUrl price storeId storeName => exact Svc.Balanced.map (pays_of_mute (write_mute rfl rfl _))
  | createWish userId body => exact Svc.Balanced.map (createWish_pays userId body)
  | removeWish userId id => exact Svc.Balanced.map (removeWish_pays userId id)
  | removeWishByProduct userId productId => exact Svc.Balanced.map (removeWishByProduct_pays userId productId)
  | createGift body viewerUserId idempotencyKey candidates giftId =>
      exact Svc.Balanced.map (createGift_pays body viewerUserId idempotencyKey candidates giftId)
  | confirmAddress giftId viewerUserId addressId =>
      exact Svc.Balanced.map (pays_of_mute (ofGifting_mute (Gifting.Side.confirmAddress giftId viewerUserId addressId)))
  | cancelGift giftId viewerUserId => exact Svc.Balanced.map (cancelGift_pays giftId viewerUserId)
  | publish viewerUserId input postId drawn =>
      exact Svc.Balanced.map (pays_of_mute (ofGifting_mute (Gifting.Side.publish viewerUserId input postId drawn)))
  | appreciate viewerUserId postId => exact Svc.Balanced.map (pays_of_mute (appreciate_mute viewerUserId postId))
  | purgeUser viewerUserId targetUserId confirmUsername =>
      exact Svc.Balanced.map (pays_of_mute (purgeUser_mute viewerUserId targetUserId confirmUsername))

end Program

end Paid

end Qift.Tallies
