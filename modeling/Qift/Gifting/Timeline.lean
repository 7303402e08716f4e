import Qift.Gifting.Journey
import Qift.Lib.Notes
import Qift.Lib.Sorting

/-!
# The status of a shipment and its timeline

* `Desk` — what an action does to the shipments; a call that has added an event owes the status of that event.
* `Faithful` — where an action sets another status and adds no event, the timeline ends with that status.
* **`Run.status_latest`** — once no call is in progress every shipment has an event, and in a run of faithful actions its
  status is that of the last event `getShipmentForOrder` lists.
* `Run.astray` — without that it is not: after an event that is dated back, where two calls add an event each and set the
  status the other way round, and after a gift is shipped that has a shipment.
-/

namespace Qift.Gifting

open Relational Relational.Table Interleaving

-- a judgment is used by its rules, never by what it unfolds to
attribute [local irreducible] Prog.Meets

/-! ### Timelines -/

/-- The status a timeline ends with. -/
def latestStatus (events : List ShipmentEvent) : Option ShipmentStatus :=
  (timeline events).getLast?.map ShipmentEvent.status

theorem latestStatus_of_greatest {xs ys : List ShipmentEvent} {event : ShipmentEvent}
    (hxs : ∀ x ∈ xs, x.occurredAt ≤ event.occurredAt) (hys : ∀ y ∈ ys, y.occurredAt < event.occurredAt) :
    latestStatus (xs ++ event :: ys) = some event.status := by
  unfold latestStatus timeline
  rw [Lib.getLast?_insertionSort (fun _ _ => Iff.rfl) hxs hys]
  rfl

/-- An added event comes last, or the timeline ends as before. -/
theorem latestStatus_append (events : List ShipmentEvent) (event : ShipmentEvent) :
    latestStatus (events ++ [event]) = some event.status ∨
      latestStatus (events ++ [event]) = latestStatus events := by
  by_cases hempty : events = []
  · subst hempty
    exact Or.inl rfl
  · obtain ⟨xs, last, ys, rfl, hxs, hys⟩ := Lib.exists_greatest ShipmentEvent.occurredAt hempty
    rcases le_or_gt last.occurredAt event.occurredAt with hle | hlt
    · -- no event is after the last one, and so none is after the new one
      left
      apply latestStatus_of_greatest (fun x hx => ?_) (List.forall_mem_nil _)
      rcases List.mem_append.mp hx with hx | hx
      · exact (hxs x hx).trans hle
      · rcases List.mem_cons.mp hx with rfl | hx
        · exact hle
        · exact (hys x hx).le.trans hle
    · refine Or.inr ?_
      rw [List.append_assoc, List.cons_append, latestStatus_of_greatest hxs hys, latestStatus_of_greatest hxs]
      intro y hy
      rcases List.mem_append.mp hy with hy | hy
      · exact hys y hy
      · rw [List.mem_singleton.mp hy]
        exact hlt

/-- A shipment whose status is that of the last event. -/
def InStep (sh : Shipment) : Prop := latestStatus sh.events = some sh.status

/-! ### What an action does to the shipments -/

/-- The status write a call owes after it has added an event. -/
structure Debt where
  giftId : String
  status : ShipmentStatus

/-- An action, with what its call owes before and after it. -/
inductive Desk : Option Debt → Gifting → Option Debt → Gifting → Prop
  | elsewhere {s t : Gifting} (h : t.shipments = s.shipments) : Desk none s none t
  | upsert {s t : Gifting} {giftId provider : String} {trackingNumber : Option String} {status : Option ShipmentStatus}
      {now : Time} (h : upsertShipmentTx giftId provider trackingNumber status now s = .ok ((), t)) : Desk none s none t
  | append {s t : Gifting} {giftId : String} {event : ShipmentEvent} {n : Nat}
      (h : appendEventTx giftId event s = .ok (n, t)) : Desk none s (some ⟨giftId, event.status⟩) t
  | setStatus {s t : Gifting} {giftId : String} {status : ShipmentStatus} {n : Nat}
      (h : setShipmentStatusTx giftId status s = .ok (n, t)) : Desk (some ⟨giftId, status⟩) s none t

/-- What an action leaves of a shipment `sh`, with what its call owes before and after it. -/
inductive Leaves (o o' : Option Debt) (sh : Shipment) : Shipment → Prop
  | keeps {sh' : Shipment} (hevents : sh'.events = sh.events)
      (hdebt : ∀ d, o = some d → d.giftId = sh.giftId → sh'.status = d.status) : Leaves o o' sh sh'
  | adds {sh' : Shipment} (event : ShipmentEvent) (hevents : sh'.events = sh.events ++ [event])
      (hstatus : sh'.status = sh.status) (ho : o = none) (ho' : o' = some ⟨sh.giftId, event.status⟩) : Leaves o o' sh sh'

theorem upsertShipmentTx_rows {giftId provider : String} {trackingNumber : Option String}
    {status : Option ShipmentStatus} {now : Time} {s t : Gifting} {a : Unit}
    (h : upsertShipmentTx giftId provider trackingNumber status now s = .ok (a, t)) {sh' : Shipment}
    (hsh' : sh' ∈ t.shipments.rows) : (∃ event, sh'.events = [event] ∧ sh'.status = event.status) ∨
      ∃ sh ∈ s.shipments.rows, sh'.giftId = sh.giftId ∧ sh'.events = sh.events := by
  obtain ⟨found, s₁, hread, h⟩ := Tx.bind_eq_ok.mp h
  obtain ⟨rfl, rfl⟩ := Tx.read_eq_ok.mp hread
  rcases hfound : s.shipments.find giftId with _ | row <;> simp only [hfound] at h
  · obtain ⟨row, s₂, hcreate, h⟩ := Tx.bind_eq_ok.mp h
    obtain ⟨-, rfl⟩ := Tx.pure_eq_ok.mp h
    obtain ⟨T, hT, -, -, rfl⟩ := Delegate.create_eq_ok.mp hcreate
    rcases (mem_create hT).mp hsh' with hold | rfl
    · exact Or.inr ⟨sh', hold, rfl, rfl⟩
    · exact Or.inl ⟨_, rfl, rfl⟩
  · obtain ⟨n, s₂, hupdate, h⟩ := Tx.bind_eq_ok.mp h
    obtain ⟨-, rfl⟩ := Tx.pure_eq_ok.mp h
    obtain ⟨-, rfl⟩ := Delegate.updateMany_eq_ok.mp hupdate
    obtain ⟨sh, hsh, rfl⟩ := of_mem_updateMany (by exact fun _ => rfl) hsh'
    refine Or.inr ⟨sh, hsh, ?_⟩
    split <;> exact ⟨rfl, rfl⟩

theorem Desk.rows {o o' : Option Debt} {s t : Gifting} (h : Desk o s o' t) {sh' : Shipment}
    (hsh' : sh' ∈ t.shipments.rows) : (∃ event, sh'.events = [event] ∧ sh'.status = event.status) ∨
      ∃ sh ∈ s.shipments.rows, sh'.giftId = sh.giftId ∧ Leaves o o' sh sh' := by
  cases h with
  | elsewhere hsame =>
      rw [hsame] at hsh'
      exact Or.inr ⟨sh', hsh', rfl, .keeps rfl nofun⟩
  | upsert htx =>
      rcases upsertShipmentTx_rows htx hsh' with hnew | ⟨sh, hsh, hgift, hevents⟩
      · exact Or.inl hnew
      · exact Or.inr ⟨sh, hsh, hgift, .keeps hevents nofun⟩
  | @append _ _ giftId event n htx =>
      obtain ⟨-, rfl⟩ := Delegate.updateMany_eq_ok.mp htx
      obtain ⟨sh, hsh, rfl⟩ := of_mem_updateMany (by exact fun _ => rfl) hsh'
      refine Or.inr ⟨sh, hsh, ?_⟩
      split
      next hgift =>
        obtain rfl : sh.giftId = giftId := of_decide_eq_true hgift
        exact ⟨rfl, .adds event rfl rfl rfl rfl⟩
      next => exact ⟨rfl, .keeps rfl nofun⟩
  | @setStatus _ _ giftId status n htx =>
      obtain ⟨-, rfl⟩ := Delegate.updateMany_eq_ok.mp htx
      obtain ⟨sh, hsh, rfl⟩ := of_mem_updateMany (by exact fun _ => rfl) hsh'
      refine Or.inr ⟨sh, hsh, ?_⟩
      split
      next =>
        refine ⟨rfl, .keeps rfl fun d hd _ => ?_⟩
        cases hd
        rfl
      next hother =>
        refine ⟨rfl, .keeps rfl fun d hd hgift => ?_⟩
        cases hd
        exact absurd (decide_eq_true hgift.symm) hother

/-- An action that leaves the shipments. -/
def SameShipments (s t : Gifting) : Prop := t.shipments = s.shipments

instance : Std.Refl SameShipments := ⟨fun _ => rfl⟩

instance : IsTrans Gifting SameShipments := ⟨fun _ _ _ hst htu => htu.trans hst⟩

/-! ### Calls that leave the shipments -/

@[grind ←] theorem dateNow_keeps : Svc.Keeps SameShipments dateNow := Svc.Keeps.query _ _

@[grind ←] theorem trigger_keeps (n : Notification) : Svc.Keeps SameShipments (trigger n) := by
  apply Svc.Keeps.transaction
  intro s a t h
  obtain ⟨-, rfl⟩ := Tx.modify_eq_ok.mp h
  rfl

@[grind ←] theorem findGift_keeps (giftId : String) : Svc.Keeps SameShipments (findGift giftId) := by
  unfold findGift
  grind

@[grind ←] theorem findGiftWithParties_keeps (giftId : String) :
    Svc.Keeps SameShipments (findGiftWithParties giftId) := by
  unfold findGiftWithParties
  grind

@[grind ←] theorem setStatusTx_keeps (giftId : String) (pick : Pick) (u : Update) :
    Tx.Keeps SameShipments (setStatusTx giftId pick u) := by
  intro s n t h
  obtain ⟨-, rfl⟩ := Delegate.updateMany_eq_ok.mp h
  rfl

@[grind ←] theorem updateGift_keeps {α : Type} (giftId : String) (found : GiftStatus) (u : Update)
    (included : Gifting → Gift → α) : Svc.Keeps SameShipments (updateGift giftId found u included) := by
  refine Svc.Keeps.bind (Svc.Keeps.transaction ?_) fun written => ?_
  · exact Tx.Keeps.bind (setStatusTx_keeps _ _ _) fun _ => Tx.Keeps.read _
  · cases written with
    | none => exact Svc.Keeps.fail _
    | some updated => exact Svc.Keeps.pure updated

@[grind ←] theorem updateGiftWhile_keeps (giftId : String) (found : GiftStatus) (statuses : List GiftStatus)
    (u : Update) : Svc.Keeps SameShipments (updateGiftWhile giftId found statuses u) :=
  Svc.Keeps.transaction (setStatusTx_keeps _ _ _)

@[grind ←] theorem assertTransition_keeps (source target : GiftStatus) :
    Svc.Keeps SameShipments (assertTransition source target) := Svc.Keeps.ensure _ _

@[grind ←] theorem updatePosts_keeps (p : GiftPost → Bool) (f : GiftPost → GiftPost) (hf : ∀ x, (f x).id = x.id) :
    Tx.Keeps SameShipments (giftPost.updateMany p f hf : Transaction Nat) := by
  intro s n t h
  obtain ⟨-, rfl⟩ := Delegate.updateMany_eq_ok.mp h
  rfl

/-! #### Parties -/

@[grind ←] theorem createGiftTx_keeps (row : Time → Gift) : Tx.Keeps SameShipments (createGiftTx row) := by
  have hcreate (r : Gift) : Tx.Keeps SameShipments (gift.create (.p2002 "Gift") r : Transaction Gift) := by
    intro s a t h
    obtain ⟨T, -, -, -, rfl⟩ := Delegate.create_eq_ok.mp h
    rfl
  refine Tx.Keeps.bind (Tx.Keeps.read _) fun now => Tx.Keeps.bind (Tx.Keeps.read _) fun known => ?_
  exact Tx.Keeps.bind (Tx.Keeps.ensure _ _) fun _ => Tx.Keeps.bind (hcreate _) fun _ => Tx.Keeps.read _

@[grind ←] theorem replayGift_keeps (senderId requestHash : String) (existing : GiftWithParties) :
    Svc.Keeps SameShipments (replayGift senderId requestHash existing) := by
  unfold replayGift
  grind

@[grind ←] theorem insertGift_keeps (identity : Option (String × String)) (senderId : String) (row : Time → Gift) :
    Svc.Keeps SameShipments (insertGift identity senderId row) := by
  refine Svc.Keeps.bind (Svc.Keeps.tryCatch (by grind) fun e => ?_) fun written => ?_
  · split
    · refine Svc.Keeps.bind (Svc.Keeps.query _ _) fun winner => ?_
      cases winner with
      | none => exact Svc.Keeps.fail _
      | some winner => exact replayGift_keeps _ _ _
    · exact Svc.Keeps.fail _
  · split
    · exact Svc.Keeps.pure _
    · exact Svc.Keeps.bind (Svc.Keeps.bind (trigger_keeps _) fun _ => trigger_keeps _) fun _ => Svc.Keeps.pure _

@[grind ←] theorem checkRecipient_keeps (draft : GiftDraft) : Svc.Keeps SameShipments (checkRecipient draft) := by
  refine Svc.Keeps.bind (Svc.Keeps.query _ _) fun sender => ?_
  cases sender with
  | none => exact Svc.Keeps.fail _
  | some sender =>
      refine Svc.Keeps.bind (Svc.Keeps.ensure _ _) fun _ => Svc.Keeps.bind (Svc.Keeps.query _ _) fun receiver => ?_
      cases receiver with
      | none => exact Svc.Keeps.fail _
      | some receiver =>
          refine Svc.Keeps.bind (Svc.Keeps.query _ _) fun blocked => Svc.Keeps.bind (Svc.Keeps.ensure _ _) fun _ => ?_
          refine Svc.Keeps.bind (Svc.Keeps.query _ _) fun hasDefault => ?_
          split
          · exact Svc.Keeps.pure _
          · exact Svc.Keeps.bind (trigger_keeps _) fun _ => Svc.Keeps.fail _

@[grind ←] theorem checkProduct_keeps (productId : Option String) : Svc.Keeps SameShipments (checkProduct productId) := by
  unfold checkProduct
  grind

@[grind ←] theorem resolveOccasion_keeps (occasionId : Option String) (senderId receiverId : String) :
    Svc.Keeps SameShipments (resolveOccasion occasionId senderId receiverId) := by
  unfold resolveOccasion
  grind

@[grind ←] theorem allocateReference_keeps (candidates : List String) (attempts : Nat) :
    Svc.Keeps SameShipments (allocateReference candidates attempts) := by
  fun_induction allocateReference candidates attempts with
  | case1 candidate rest attempts ih => grind
  | case2 => exact Svc.Keeps.fail _

@[grind ←] theorem checkFastDelivery_keeps [Shop.Cities] (body : Shop.CreateGiftInput) (receiverId : String) :
    Svc.Keeps SameShipments (checkFastDelivery body receiverId) := by
  unfold checkFastDelivery
  grind

@[grind ←] theorem createNew_keeps [Shop.Cities] (body : Shop.CreateGiftInput) (draft : GiftDraft)
    (candidates : List String) (giftId : String) : Svc.Keeps SameShipments (createNew body draft candidates giftId) := by
  unfold createNew
  grind

@[grind ←] theorem create_keeps [Shop.Cities] [Runtime] (body : Shop.CreateGiftInput) (viewerUserId : String)
    (idempotencyKey : Option String) (candidates : List String) (giftId : String) :
    Svc.Keeps SameShipments (create body viewerUserId idempotencyKey candidates giftId) := by
  refine Svc.Keeps.bind (Svc.Keeps.ofExcept _) fun media => ?_
  split
  · dsimp only
    split
    · exact createNew_keeps _ _ _ _
    · refine Svc.Keeps.bind (Svc.Keeps.ensure _ _) fun _ => Svc.Keeps.bind (Svc.Keeps.query _ _) fun existing => ?_
      cases existing with
      | none => exact createNew_keeps _ _ _ _
      | some existing => exact replayGift_keeps _ _ _
  · exact Svc.Keeps.fail _

@[grind ←] theorem chooseAddress_keeps (viewerUserId : String) (addressId : Option String) :
    Svc.Keeps SameShipments (chooseAddress viewerUserId addressId) := by
  unfold chooseAddress
  grind

@[grind ←] theorem coverageGate_keeps [Shop.Cities] (g : Gift) (scope : Market.AddressScope) :
    Svc.Keeps SameShipments (coverageGate g scope) := by
  unfold coverageGate
  grind

@[grind ←] theorem loadCoverageSnapshot_keeps (storeId productId : Option String) :
    Svc.Keeps SameShipments (loadCoverageSnapshot storeId productId) := Svc.Keeps.query _ _

@[grind ←] theorem confirmAddress_keeps [Shop.Cities] (giftId viewerUserId : String) (addressId : Option String) :
    Svc.Keeps SameShipments (confirmAddress giftId viewerUserId addressId) := by
  refine Svc.Keeps.bind (findGift_keeps giftId) fun g => Svc.Keeps.bind (Svc.Keeps.ensure _ _) fun _ => ?_
  split
  · grind
  · refine Svc.Keeps.bind (assertTransition_keeps _ _) fun _ => Svc.Keeps.bind (chooseAddress_keeps _ _) fun chosen => ?_
    refine Svc.Keeps.bind (coverageGate_keeps _ _) fun _ => Svc.Keeps.bind dateNow_keeps fun now => ?_
    exact Svc.Keeps.bind (updateGift_keeps _ _ _ _) fun updated => Svc.Keeps.bind (trigger_keeps _) fun _ => by grind

@[grind ←] theorem deactivatePosts_keeps (giftId : String) : Svc.Keeps SameShipments (deactivatePosts giftId) :=
  Svc.Keeps.bind dateNow_keeps fun _ => Svc.Keeps.bind (Svc.Keeps.transaction (updatePosts_keeps _ _ _)) fun _ =>
    Svc.Keeps.pure _

@[grind ←] theorem cancel_keeps (giftId viewerUserId : String) : Svc.Keeps SameShipments (cancel giftId viewerUserId) := by
  unfold cancel
  grind

/-! #### Posts -/

@[grind ←] theorem generateUniqueSlug_keeps (drawn : List String) (retries : Nat) :
    Svc.Keeps SameShipments (generateUniqueSlug drawn retries) := by
  fun_induction generateUniqueSlug drawn retries with
  | case1 candidate rest retries ih => grind
  | case2 => exact Svc.Keeps.fail _

@[grind ←] theorem updatePost_keeps (id : String) (f : GiftPost → GiftPost) (hf : ∀ x, (f x).id = x.id) :
    Svc.Keeps SameShipments (updatePost id f hf) := by
  refine Svc.Keeps.bind (Svc.Keeps.transaction ?_) fun written => ?_
  · exact Tx.Keeps.bind (updatePosts_keeps _ _ _) fun _ => Tx.Keeps.read _
  · cases written with
    | none => exact Svc.Keeps.fail _
    | some post => exact Svc.Keeps.pure _

@[grind ←] theorem createPost_keeps (row : GiftPost) :
    Tx.Keeps SameShipments (giftPost.create (.p2002 "GiftPost") row : Transaction GiftPost) := by
  intro s a t h
  obtain ⟨T, -, -, -, rfl⟩ := Delegate.create_eq_ok.mp h
  rfl

@[grind ←] theorem publish_keeps (viewerUserId : String) (input : PublishInput) (postId : String)
    (drawn : List String) : Svc.Keeps SameShipments (publish viewerUserId input postId drawn) := by
  rw [publish]
  cases Shop.trimOrNull input.giftId with
  | none => exact Svc.Keeps.fail _
  | some giftId =>
      refine Svc.Keeps.bind (Svc.Keeps.ensure _ _) fun _ => Svc.Keeps.bind (findGift_keeps _) fun g => ?_
      refine Svc.Keeps.bind (Svc.Keeps.ofExcept _) fun direction => Svc.Keeps.bind (Svc.Keeps.ensure _ _) fun _ => ?_
      refine Svc.Keeps.bind (Svc.Keeps.query _ _) fun existing => ?_
      cases existing with
      | none =>
          refine Svc.Keeps.bind (generateUniqueSlug_keeps _ _) fun slug => Svc.Keeps.bind dateNow_keeps fun now => ?_
          exact Svc.Keeps.transaction (createPost_keeps _)
      | some existing =>
          dsimp only
          split
          · exact Svc.Keeps.pure _
          · cases existing.publicSlug with
            | some slug =>
                refine Svc.Keeps.bind (Svc.Keeps.pure slug) fun slug => ?_
                exact Svc.Keeps.bind dateNow_keeps fun now => updatePost_keeps _ _ _
            | none =>
                refine Svc.Keeps.bind (generateUniqueSlug_keeps _ _) fun slug => ?_
                exact Svc.Keeps.bind dateNow_keeps fun now => updatePost_keeps _ _ _

@[grind ←] theorem requireOwnedPost_keeps (viewerUserId postId : String) :
    Svc.Keeps SameShipments (requireOwnedPost viewerUserId postId) := by
  unfold requireOwnedPost
  grind

@[grind ←] theorem unpublish_keeps (viewerUserId postId : String) :
    Svc.Keeps SameShipments (unpublish viewerUserId postId) := by
  unfold unpublish
  grind

@[grind ←] theorem setVisibility_keeps (viewerUserId postId visibility : String) :
    Svc.Keeps SameShipments (setVisibility viewerUserId postId visibility) := by
  unfold setVisibility
  grind

@[grind ←] theorem showPost_keeps (row : PostWithGift) (viewerUserId : Option String) :
    Svc.Keeps SameShipments (showPost row viewerUserId) := by
  unfold showPost
  grind

/-! #### The sweep and the desk -/

@[grind ←] theorem sweepGift_keeps [Shop.Cities] (g : Gift) : Svc.Keeps SameShipments (sweepGift g) := by
  refine Svc.Keeps.bind (Svc.Keeps.query _ _) fun store => Svc.Keeps.bind (Svc.Keeps.query _ _) fun fast => ?_
  refine Svc.Keeps.bind (Svc.Keeps.query _ _) fun found => ?_
  cases found with
  | nil => exact Svc.Keeps.pure _
  | cons first rest => grind

@[grind ←] theorem sweepAll_keeps [Shop.Cities] (gifts : List Gift) (r : SweepResult) :
    Svc.Keeps SameShipments (sweepAll gifts r) := by
  induction gifts generalizing r with
  | nil => exact Svc.Keeps.pure r
  | cons g rest ih =>
      exact Svc.Keeps.bind (Svc.Keeps.tryCatch (sweepGift_keeps g) fun _ => Svc.Keeps.pure _) fun outcome => ih _

@[grind ←] theorem runOnce_keeps [Shop.Cities] : Svc.Keeps SameShipments runOnce :=
  Svc.Keeps.bind dateNow_keeps fun _ => Svc.Keeps.bind (Svc.Keeps.query _ _) fun overdue => sweepAll_keeps overdue _

@[grind ←] theorem assertCanMutate_keeps (viewerUserId : String) (giftStoreId : Option String) :
    Svc.Keeps SameShipments (assertCanMutate viewerUserId giftStoreId) := by
  unfold assertCanMutate
  grind

@[grind ←] theorem markPreparing_keeps (viewerUserId giftId : String) :
    Svc.Keeps SameShipments (markPreparing viewerUserId giftId) := by
  unfold markPreparing
  grind

@[grind ←] theorem markDelivered_keeps (viewerUserId giftId : String) :
    Svc.Keeps SameShipments (markDelivered viewerUserId giftId) := by
  unfold markDelivered
  grind

@[grind ←] theorem getShipmentForOrder_keeps (viewerUserId giftId : String) :
    Svc.Keeps SameShipments (getShipmentForOrder viewerUserId giftId) := by
  unfold getShipmentForOrder
  grind

@[grind ←] theorem setCarrierTx_keeps (giftId : String) (carrier trackingNumber : Option String) :
    Tx.Keeps SameShipments (setCarrierTx giftId carrier trackingNumber) := by
  intro s n t h
  obtain ⟨-, rfl⟩ := Delegate.updateMany_eq_ok.mp h
  rfl

@[grind ←] theorem mirrorDelivered_keeps (g : Gift) (status : ShipmentStatus) (occurredAt : Time) :
    Svc.Keeps SameShipments (mirrorDelivered g status occurredAt) := by
  unfold mirrorDelivered
  split
  · refine Svc.Keeps.tryCatch (Svc.Keeps.bind (assertTransition_keeps _ _) fun _ => ?_) fun _ => Svc.Keeps.pure _
    exact Svc.Keeps.bind (updateGift_keeps _ _ _ _) fun _ => Svc.Keeps.pure _
  · exact Svc.Keeps.pure _

/-! ### Calls that write shipments -/

theorem owes_nothing {α : Type} {x : Service α} (h : Svc.Keeps SameShipments x) : x.Noted Desk none none :=
  Svc.Noted.of_keeps (fun _ _ => .elsewhere) empty h

theorem markShipped_noted (viewerUserId giftId : String) (opts : ShippingInput) :
    (markShipped viewerUserId giftId opts).Noted Desk none none := by
  refine Svc.Noted.bind (owes_nothing (findGift_keeps giftId)) fun g => ?_
  refine Svc.Noted.bind (owes_nothing (assertCanMutate_keeps _ _)) fun _ => ?_
  split
  · exact Svc.Noted.pure _
  · refine Svc.Noted.bind (owes_nothing (assertTransition_keeps _ _)) fun _ => ?_
    dsimp only
    refine Svc.Noted.bind (owes_nothing dateNow_keeps) fun now => ?_
    refine Svc.Noted.bind (owes_nothing (updateGift_keeps _ _ _ _)) fun updated => ?_
    split
    · apply owes_nothing
      grind
    · refine Svc.Noted.bind (owes_nothing dateNow_keeps) fun now => ?_
      refine Svc.Noted.transaction_bind (fun s a t htx => ?_) fun s e _ => .elsewhere rfl
      refine ⟨none, .upsert htx, owes_nothing ?_⟩
      grind

theorem upsertShipment_noted (viewerUserId giftId provider : String) (trackingNumber : Option String) :
    (upsertShipment viewerUserId giftId provider trackingNumber).Noted Desk none none := by
  refine Svc.Noted.bind (owes_nothing (findGift_keeps giftId)) fun g => ?_
  refine Svc.Noted.bind (owes_nothing (assertCanMutate_keeps _ _)) fun _ => ?_
  split
  · exact Svc.Noted.fail _
  · dsimp only
    refine Svc.Noted.bind (owes_nothing dateNow_keeps) fun now => ?_
    refine Svc.Noted.transaction_bind (fun s written t htx => ?_) fun s e _ => .elsewhere rfl
    -- the shipment is read back in the transaction
    obtain ⟨_, s₁, hupsert, hread⟩ := Tx.bind_eq_ok.mp htx
    obtain ⟨-, rfl⟩ := Tx.read_eq_ok.mp hread
    refine ⟨none, .upsert hupsert, owes_nothing ?_⟩
    grind

theorem appendShipmentEvent_noted (viewerUserId giftId status : String) (note : Option String)
    (occurredAt : Option Time) :
    (appendShipmentEvent viewerUserId giftId status note occurredAt).Noted Desk none none := by
  refine Svc.Noted.bind (owes_nothing (findGift_keeps giftId)) fun g => ?_
  refine Svc.Noted.bind (owes_nothing (assertCanMutate_keeps _ _)) fun _ => ?_
  refine Svc.Noted.bind (owes_nothing (Svc.Keeps.query _ _)) fun found => ?_
  cases found with
  | none => exact Svc.Noted.fail _
  | some found =>
      dsimp only
      split
      · exact Svc.Noted.fail _
      next status hstatus =>
        refine Svc.Noted.bind (owes_nothing dateNow_keeps) fun now => ?_
        -- the first write leaves the second one owed
        refine Svc.Noted.transaction_bind (fun s n t htx => ?_) fun s e _ => .elsewhere rfl
        refine ⟨some ⟨giftId, status⟩, .append htx, ?_⟩
        refine Svc.Noted.transaction_bind (fun s n t htx => ?_) fun s e htx => nomatch htx
        refine ⟨none, .setStatus htx, owes_nothing ?_⟩
        exact Svc.Keeps.bind (mirrorDelivered_keeps _ _ _) fun _ => getShipmentForOrder_keeps _ _

section Program

variable [Shop.Cities] [Runtime]

theorem program_noted (c : Call) : (program c).Noted Desk none none := by
  have hmap {α : Type} {x : Service α} (f : α → Reply) (hx : Svc.Keeps SameShipments x) :
      (f <$> x).Noted Desk none none := Svc.Noted.map (owes_nothing hx)
  unfold program
  cases c with
  | tick elapsed | books b =>
      refine Svc.Noted.transaction_bind (fun s a t htx => ?_) fun s e _ => .elsewhere rfl
      obtain ⟨-, rfl⟩ := Tx.modify_eq_ok.mp htx
      exact ⟨none, .elsewhere rfl, Svc.Noted.pure _⟩
  | create body viewerUserId idempotencyKey candidates giftId => exact hmap _ (create_keeps _ _ _ _ _)
  | findOne giftId viewerUserId => exact hmap _ (by unfold findOne; grind)
  | findSent senderId viewerUserId => exact hmap _ (by unfold findSent; grind)
  | findReceived receiverId viewerUserId => exact hmap _ (by unfold findReceived; grind)
  | confirmAddress giftId viewerUserId addressId => exact hmap _ (confirmAddress_keeps _ _ _)
  | cancel giftId viewerUserId => exact hmap _ (cancel_keeps _ _)
  | runOnce => exact hmap _ runOnce_keeps
  | markPreparing viewerUserId giftId => exact hmap _ (markPreparing_keeps _ _)
  | markShipped viewerUserId giftId opts => exact Svc.Noted.map (markShipped_noted _ _ _)
  | markDelivered viewerUserId giftId => exact hmap _ (markDelivered_keeps _ _)
  | upsertShipment viewerUserId giftId provider trackingNumber => exact Svc.Noted.map (upsertShipment_noted _ _ _ _)
  | getShipmentForOrder viewerUserId giftId => exact hmap _ (getShipmentForOrder_keeps _ _)
  | appendShipmentEvent viewerUserId giftId status note occurredAt =>
      exact Svc.Noted.map (appendShipmentEvent_noted _ _ _ _ _)
  | publish viewerUserId input postId drawn => exact hmap _ (publish_keeps _ _ _ _)
  | unpublish viewerUserId postId => exact hmap _ (unpublish_keeps _ _)
  | setVisibility viewerUserId postId visibility => exact hmap _ (setVisibility_keeps _ _ _)
  | listMine viewerUserId => exact hmap _ (by unfold listMine; grind)
  | listByUser targetUserId viewerUserId => exact hmap _ (by unfold listByUser; grind)
  | getBySlug slug viewerUserId => exact hmap _ (by unfold getBySlug; grind)

end Program

/-! ### Runs -/

/-- A status set without an event is the one the timeline ends with. -/
def Faithful (e : Event Gifting Step) : Prop :=
  ∀ sh ∈ e.pre.shipments.rows, ∀ sh' ∈ e.post.shipments.rows,
    sh'.giftId = sh.giftId → sh'.events = sh.events → sh'.status ≠ sh.status → latestStatus sh.events = some sh'.status

instance (e : Event Gifting Step) : Decidable (Faithful e) := by
  unfold Faithful
  infer_instance

/-- Some call owes the shipment the status its timeline ends with. -/
def Owed (debts : List (Option Debt)) (sh : Shipment) : Prop :=
  ∃ d, some d ∈ debts ∧ d.giftId = sh.giftId ∧ latestStatus sh.events = some d.status

theorem Desk.step {e : Event Gifting Step} (he : Faithful e) {o o' : Option Debt} {debts₁ debts₂ : List (Option Debt)}
    (h : Desk o e.pre o' e.post)
    (hpre : ∀ sh ∈ e.pre.shipments.rows, InStep sh ∨ Owed (debts₁ ++ o :: debts₂) sh) :
    ∀ sh ∈ e.post.shipments.rows, InStep sh ∨ Owed (debts₁ ++ o' :: debts₂) sh := by
  intro sh' hsh'
  rcases h.rows hsh' with ⟨event, hevents, hstatus⟩ | ⟨sh, hsh, hgift, hleaves⟩
  · refine Or.inl ?_
    rw [InStep, hevents, hstatus]
    rfl
  -- what another call owes it still owes
  have hothers {d : Debt} (hd : some d ∈ debts₁ ++ o :: debts₂) : some d ∈ debts₁ ++ o' :: debts₂ ∨ o = some d := by
    rcases List.mem_append.mp hd with hd | hd
    · exact Or.inl (List.mem_append_left _ hd)
    · rcases List.mem_cons.mp hd with rfl | hd
      · exact Or.inr rfl
      · exact Or.inl (List.mem_append_right _ (List.mem_cons_of_mem _ hd))
  cases hleaves with
  | keeps hevents hdebt =>
      by_cases hstatus : sh'.status = sh.status
      · rcases hpre sh hsh with hin | ⟨d, hd, hdgift, hlatest⟩
        · refine Or.inl ?_
          rw [InStep, hevents, hstatus]
          exact hin
        · rcases hothers hd with hd | rfl
          · refine Or.inr ⟨d, hd, hdgift.trans hgift.symm, ?_⟩
            rw [hevents]
            exact hlatest
          · -- the debt is paid by this action
            refine Or.inl ?_
            rw [InStep, hevents, hdebt d rfl hdgift]
            exact hlatest
      · refine Or.inl ?_
        rw [InStep, hevents]
        exact he sh hsh sh' hsh' hgift hevents hstatus
  | adds event hevents hstatus ho ho' =>
      rcases latestStatus_append sh.events event with hlatest | hlatest
      · refine Or.inr ⟨⟨sh.giftId, event.status⟩, ?_, hgift.symm, ?_⟩
        · rw [ho']
          exact List.mem_append_right _ List.mem_cons_self
        · rw [hevents]
          exact hlatest
      · rcases hpre sh hsh with hin | ⟨d, hd, hdgift, howed⟩
        · refine Or.inl ?_
          rw [InStep, hevents, hlatest, hstatus]
          exact hin
        · rcases hothers hd with hd | rfl
          · refine Or.inr ⟨d, hd, hdgift.trans hgift.symm, ?_⟩
            rw [hevents, hlatest]
            exact howed
          · cases ho

theorem Leaves.events_ne_nil {o o' : Option Debt} {sh sh' : Shipment} (h : Leaves o o' sh sh') (hsh : sh.events ≠ []) :
    sh'.events ≠ [] := by
  cases h with
  | keeps hevents _ =>
      rw [hevents]
      exact hsh
  | adds event hevents _ _ _ =>
      rw [hevents]
      simp

section Runs

variable [Shop.Cities] [Runtime] {tr : List (Event Gifting Step)} {cfg : Config Gifting Step (Except Err Reply)}

theorem Run.has_events (h : Run tr cfg) : ∀ sh ∈ cfg.state.shipments.rows, sh.events ≠ [] := by
  have hstep (e : Event Gifting Step) (debts₁ : List (Option Debt)) (o o' : Option Debt) (debts₂ : List (Option Debt))
      (hpre : ∀ sh ∈ e.pre.shipments.rows, sh.events ≠ []) (hact : Desk o e.pre o' e.post) :
      ∀ sh ∈ e.post.shipments.rows, sh.events ≠ [] := by
    intro sh' hsh'
    rcases hact.rows hsh' with ⟨event, hnew, -⟩ | ⟨sh, hsh, -, hleaves⟩
    · rw [hnew]
      simp
    · exact hleaves.events_ne_nil (hpre sh hsh)
  have hinit : ∀ sh ∈ empty.shipments.rows, sh.events ≠ [] := by simp [empty]
  obtain ⟨-, hevents, -⟩ := Exec.noted (I := fun s _ => ∀ sh ∈ s.shipments.rows, sh.events ≠ []) (C := fun _ => True)
    hinit (fun s debts hI => by exact hI) (fun e ds₁ o o' ds₂ hpre _ hact => hstep e ds₁ o o' ds₂ hpre hact)
    program_noted h fun _ _ => trivial
  exact hevents

/-- **The status of a shipment.**  When no call is in progress, every shipment `getShipmentForOrder` answers has an event,
and after faithful actions its status is that of the last one. -/
theorem Run.status_latest (h : Run tr cfg) (hquiet : cfg.Quiet) {giftId : String} {sh : Shipment}
    (hsh : shipmentOf giftId cfg.state = some sh) :
    sh.events ≠ [] ∧ ((∀ e ∈ tr, Faithful e) → sh.events.getLast?.map ShipmentEvent.status = some sh.status) := by
  obtain ⟨row, hrow, rfl⟩ := Option.map_eq_some_iff.mp hsh
  have hmem : row ∈ cfg.state.shipments.rows := mem_of_find hrow
  refine ⟨?_, fun hfaithful => ?_⟩
  · intro hempty
    apply Run.has_events h row hmem
    rw [← List.length_eq_zero_iff, ← List.length_insertionSort (fun a b : ShipmentEvent => a.occurredAt ≤ b.occurredAt)]
    exact congrArg List.length hempty
  · obtain ⟨debts, hsteps, hidle⟩ := Exec.noted (C := Faithful)
      (I := fun s debts => ∀ sh ∈ s.shipments.rows, InStep sh ∨ Owed debts sh) (by simp [empty])
      (fun s debts hI sh hsh => (hI sh hsh).imp_right fun ⟨d, hd, hrest⟩ => ⟨d, List.mem_cons_of_mem _ hd, hrest⟩)
      (fun e _ o o' _ hI he hact => Desk.step he hact hI) program_noted h hfaithful
    rcases hsteps row hmem with hin | ⟨d, hd, -⟩
    · exact hin
    · cases hidle hquiet _ hd

end Runs

namespace Pilot

/-- Omar has been sent a gift, and it has a shipment. -/
def parcel : List (Choice Call) :=
  sent ++ toEnd (.books { books with storeUserIds := ["m"] }) ++ toEnd (.upsertShipment "m" "g1" "smsa" none)

/-- The parcel is on its way. -/
def moving : List (Choice Call) :=
  parcel ++ toEnd (.tick 10) ++ toEnd (.appendShipmentEvent "m" "g1" "in_transit" none none)

/-- An event of an earlier moment is entered late. -/
def backDated : List (Choice Call) :=
  moving ++ toEnd (.appendShipmentEvent "m" "g1" "exception" none (some 5))

/-- Two calls add an event each, and set the status the other way round. -/
def swapped : List (Choice Call) :=
  parcel ++ [.start (.appendShipmentEvent "m" "g1" "in_transit" none (some 5))] ++ List.replicate 5 (.run 0) ++
    [.start (.appendShipmentEvent "m" "g1" "out_for_delivery" none (some 6))] ++ List.replicate 9 (.run 0) ++
    List.replicate 4 (.run 1)

/-- The gift is shipped after its shipment has moved. -/
def reset : List (Choice Call) :=
  moving ++ toEnd (.confirmAddress "g1" "u2" none) ++ toEnd (.markPreparing "m" "g1") ++
    toEnd (.markShipped "m" "g1" { provider := some "smsa" })

/-- The gift has a shipment whose status is not that of the last event. -/
def goesAstray (schedule : List (Choice Call)) : Bool :=
  (shipmentOf "g1" (played schedule).2.state).any fun sh => sh.events.getLast?.map ShipmentEvent.status ≠ some sh.status

/-- The same of a run, when no call is in progress. -/
def Astray (schedule : List (Choice Call)) : Prop :=
  @Run Market.Pilot.plainCities plainRuntime (played schedule).1 (played schedule).2 ∧ (played schedule).2.Quiet ∧
    ∃ sh, shipmentOf "g1" (played schedule).2.state = some sh ∧
      sh.events.getLast?.map ShipmentEvent.status ≠ some sh.status

theorem astray_of {schedule : List (Choice Call)} (h : (played schedule).2.Quiet ∧ goesAstray schedule = true) :
    Astray schedule := by
  obtain ⟨sh, hsh, hstatus⟩ := (Option.any_eq_true _ _).mp h.2
  exact ⟨run schedule, h.1, sh, hsh, of_decide_eq_true hstatus⟩

end Pilot

theorem Run.status_latest_moving : ∃ sh, shipmentOf "g1" (Pilot.played Pilot.moving).2.state = some sh ∧
    sh.events.getLast?.map ShipmentEvent.status = some sh.status := by
  have hmoving : (shipmentOf "g1" (Pilot.played Pilot.moving).2.state).any (fun sh => sh.status = .in_transit) = true := by
    decide +kernel
  obtain ⟨sh, hsh, -⟩ := (Option.any_eq_true _ _).mp hmoving
  exact ⟨sh, hsh, (@Run.status_latest Market.Pilot.plainCities plainRuntime _ _ (Pilot.run Pilot.moving)
    (by decide +kernel) "g1" sh hsh).2 (by decide +kernel)⟩

/-- **The status goes astray** by an event that is dated back, by two calls that cross, and by a late `markShipped`. -/
theorem Run.astray : Pilot.Astray Pilot.backDated ∧ Pilot.Astray Pilot.swapped ∧ Pilot.Astray Pilot.reset :=
  ⟨Pilot.astray_of (by decide +kernel), Pilot.astray_of (by decide +kernel), Pilot.astray_of (by decide +kernel)⟩

end Qift.Gifting
