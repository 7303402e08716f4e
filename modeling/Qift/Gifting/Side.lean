import Qift.Gifting.Fulfillment
import Qift.Gifting.Writes

/-!
# What the gift service does to the gifts and the posts

* `PostsKept` — a stored post keeps its appreciations' count, and a new one has none.
* `Side` — what an action of the gift service on its own part does: a read or a message leaves gifts and posts, the
  writes of a post keep the counts, and a status write moves a gift between statuses that are not `cancelled`.
* One lemma for each part of the requests says that it does nothing else.
-/

namespace Qift.Gifting

open Relational Relational.Table Interleaving

/-- A post keeps its count, or is new and counts nothing. -/
def PostsKept (s t : Gifting) : Prop :=
  ∀ k p', t.posts.find k = some p' → (s.posts.find k = none ∧ p'.appreciationCount = 0) ∨
    ∃ p, s.posts.find k = some p ∧ p'.appreciationCount = p.appreciationCount

/-- No stored post is dropped. -/
def PostsStay (s t : Gifting) : Prop := ∀ k, (s.posts.find k).isSome → (t.posts.find k).isSome

/-- What an action of the gift service does to the gifts and the posts. -/
def Side (l : Step) (s t : Gifting) : Prop :=
  match l with
  | .read | .notify | .environment => t.gifts = s.gifts ∧ t.posts = s.posts
  | .post => t.gifts = s.gifts ∧ PostsKept s t ∧ PostsStay s t
  | .setStatus giftId found pick u => found ≠ .cancelled ∧ u.target ≠ .cancelled ∧ t.posts = s.posts ∧
      t.gifts = s.gifts.updateMany (fun g => g.id = giftId && pick.takes g.status) u.write u.write_id
  | .createGift | .carrier | .shipment => False

namespace Side

/-- What writes posts and statuses as an action of the service may does no more. -/
theorem of_writes (l : Step) (s t : Gifting) (h : Writes (fun s t => PostsKept s t ∧ PostsStay s t)
    (fun _ found _ u => found ≠ .cancelled ∧ u.target ≠ .cancelled) l s t) : Side l s t := by
  cases l with
  | setStatus => exact ⟨h.1.1, h.1.2, h.2⟩
  | read | notify | environment | post | createGift | carrier | shipment => exact h

theorem query {α : Type} (f : Gifting → α) : Svc.Does Side (Svc.query .read f : Service α) :=
  (Writes.query f).mono of_writes

theorem trigger (n : Notification) : Svc.Does Side (trigger n) := (Writes.trigger n).mono of_writes

theorem findGift (giftId : String) : Svc.Does Side (findGift giftId) := (Writes.findGift giftId).mono of_writes

theorem findGiftWithParties (giftId : String) : Svc.Does Side (findGiftWithParties giftId) :=
  (Writes.findGiftWithParties giftId).mono of_writes

/-! ### The gates of a new gift -/

theorem checkRecipient (draft : GiftDraft) : Svc.Does Side (checkRecipient draft) := by
  refine Svc.Does.bind (query _) fun sender => ?_
  cases sender with
  | none => exact Svc.Does.fail _
  | some sender =>
      refine Svc.Does.bind (Svc.Does.ensure _ _) fun _ => Svc.Does.bind (query _) fun receiver => ?_
      cases receiver with
      | none => exact Svc.Does.fail _
      | some receiver =>
          refine Svc.Does.bind (query _) fun blocked => Svc.Does.bind (Svc.Does.ensure _ _) fun _ => ?_
          refine Svc.Does.bind (query _) fun hasDefault => ?_
          split
          · exact Svc.Does.pure _
          · exact Svc.Does.bind (trigger _) fun _ => Svc.Does.fail _

theorem checkProduct (productId : Option String) : Svc.Does Side (checkProduct productId) := by
  unfold Gifting.checkProduct
  split
  · exact Svc.Does.pure _
  · refine Svc.Does.bind (query _) fun product => ?_
    cases product with
    | none => exact Svc.Does.fail _
    | some product => exact Svc.Does.bind (Svc.Does.ensure _ _) fun _ => Svc.Does.pure _

theorem resolveOccasion (occasionId : Option String) (senderId receiverId : String) :
    Svc.Does Side (resolveOccasion occasionId senderId receiverId) := by
  unfold Gifting.resolveOccasion
  split
  · exact Svc.Does.pure _
  · exact Svc.Does.bind (query _) fun _ => Svc.Does.pure _

theorem allocateReference (candidates : List String) (attempts : Nat) :
    Svc.Does Side (allocateReference candidates attempts) := by
  induction candidates generalizing attempts with
  | nil => exact Svc.Does.fail _
  | cons candidate rest ih =>
      cases attempts with
      | zero => exact Svc.Does.fail _
      | succ attempts =>
          refine Svc.Does.bind (query _) fun taken => ?_
          split
          · exact ih attempts
          · exact Svc.Does.pure _

theorem replayGift (senderId requestHash : String) (existing : GiftWithParties) :
    Svc.Does Side (replayGift senderId requestHash existing) :=
  Svc.Does.bind (Svc.Does.ensure _ _) fun _ => Svc.Does.pure _

theorem announceGift (g : Gift) : Svc.Does Side (announceGift g) :=
  Svc.Does.bind (trigger _) fun _ => trigger _

section Requests

variable [Shop.Cities]

theorem checkFastDelivery (body : Shop.CreateGiftInput) (receiverId : String) :
    Svc.Does Side (checkFastDelivery body receiverId) := by
  unfold Gifting.checkFastDelivery
  split
  · split
    · exact Svc.Does.fail _
    · exact Svc.Does.bind (query _) fun _ => Svc.Does.ensure _ _
  · exact Svc.Does.pure _

/-! ### confirmAddress -/

theorem confirmAddress (giftId viewerUserId : String) (addressId : Option String) :
    Svc.Does Side (confirmAddress giftId viewerUserId addressId) := by
  have hwrites : Svc.Does (Writes (fun s t => PostsKept s t ∧ PostsStay s t) (Confirms giftId))
      (Gifting.confirmAddress giftId viewerUserId addressId) := Writes.confirmAddress giftId viewerUserId addressId
  refine hwrites.mono fun l s t h => of_writes l s t ?_
  refine Writes.mono (fun _ _ hposts => hposts) (fun id found pick u hconfirms => ?_) l s t h
  obtain ⟨-, rfl, -, htarget⟩ := hconfirms
  rw [htarget]
  exact ⟨by decide, by decide⟩

end Requests

/-! ### Posts -/

theorem updatePosts (p : GiftPost → Bool) (f : GiftPost → GiftPost) (hf : ∀ x, (f x).id = x.id)
    (hcount : ∀ x, (f x).appreciationCount = x.appreciationCount) (s : Gifting) :
    Side .post s { s with posts := s.posts.updateMany p f hf } := by
  refine ⟨rfl, fun k p' hp' => .inr ?_, fun k hk => ?_⟩
  · rw [find_updateMany] at hp'
    obtain ⟨x, hx, rfl⟩ := Option.map_eq_some_iff.mp hp'
    refine ⟨x, hx, ?_⟩
    split
    · exact hcount x
    · rfl
  · rwa [find_updateMany, Option.isSome_map]

theorem idle_post (s : Gifting) : Side .post s s :=
  ⟨rfl, fun _ p hp => .inr ⟨p, hp, rfl⟩, fun _ hk => hk⟩

theorem deactivatePosts (giftId : String) : Svc.Does Side (deactivatePosts giftId) := by
  refine Svc.Does.bind (query _) fun now => Svc.Does.bind ?_ fun _ => Svc.Does.pure _
  refine Svc.Does.transaction (fun w n w' h => ?_) fun w e _ => idle_post w
  obtain ⟨-, rfl⟩ := Delegate.updateMany_eq_ok.mp h
  exact updatePosts _ _ _ (fun _ => by rfl) w

theorem generateUniqueSlug (drawn : List String) (retries : Nat) :
    Svc.Does Side (generateUniqueSlug drawn retries) := (Writes.generateUniqueSlug drawn retries).mono of_writes

theorem updatePost (id : String) (f : GiftPost → GiftPost) (hf : ∀ x, (f x).id = x.id)
    (hcount : ∀ x, (f x).appreciationCount = x.appreciationCount) : Svc.Does Side (updatePost id f hf) :=
  (Writes.updatePost fun s => (updatePosts _ f hf hcount s).2).mono of_writes

theorem createPost (row : GiftPost) (hcount : row.appreciationCount = 0) :
    Svc.Does Side (Svc.transaction .post (giftPost.create (.p2002 "GiftPost") row) : Service GiftPost) := by
  refine Svc.Does.transaction (fun w a w' h => ?_) fun w _ _ => idle_post w
  obtain ⟨t, ht, -, -, rfl⟩ := Delegate.create_eq_ok.mp h
  refine ⟨rfl, fun k p' hp' => ?_, fun k hk => ?_⟩
  · dsimp only at hp'
    rw [find_create ht] at hp'
    split at hp'
    next hkey =>
      cases hp'
      refine .inl ⟨?_, hcount⟩
      rw [← hkey]
      exact (create_eq_some ht).2
    next => exact .inr ⟨p', hp', rfl⟩
  · obtain ⟨p, hp⟩ := Option.isSome_iff_exists.mp hk
    exact Option.isSome_of_eq_some (find_create_of_find ht hp)

theorem publish (viewerUserId : String) (input : PublishInput) (postId : String) (drawn : List String) :
    Svc.Does Side (publish viewerUserId input postId drawn) := by
  rw [Gifting.publish]
  cases Shop.trimOrNull input.giftId with
  | none => exact Svc.Does.fail _
  | some giftId =>
      refine Svc.Does.bind (Svc.Does.ensure _ _) fun _ => Svc.Does.bind (findGift _) fun g => ?_
      refine Svc.Does.bind (Svc.Does.ofExcept _) fun direction => Svc.Does.bind (Svc.Does.ensure _ _) fun _ => ?_
      refine Svc.Does.bind (query _) fun existing => ?_
      cases existing with
      | none =>
          refine Svc.Does.bind (generateUniqueSlug _ _) fun slug => Svc.Does.bind (query _) fun now => ?_
          exact createPost _ rfl
      | some existing =>
          have hlast (slug : String) : Svc.Does Side (do
              let now ← dateNow
              Gifting.updatePost existing.id fun p =>
                { p with
                  publishedAt := some now
                  publicSlug := some slug
                  visibility := input.visibility.getD "public"
                  deactivatedAt := none
                  deactivatedReason := none } : Service GiftPost) :=
            Svc.Does.bind (query _) fun now => updatePost _ _ _ fun _ => by rfl
          dsimp only
          split
          · exact Svc.Does.pure _
          · cases existing.publicSlug with
            | some slug => exact hlast slug
            | none => exact Svc.Does.bind (generateUniqueSlug _ _) fun slug => hlast slug

/-! ### The clock and the books -/

theorem tick (elapsed : Nat) : Svc.Does Side (Svc.transaction .environment (tickTx elapsed) : Service Unit) :=
  Svc.Does.transaction (fun w a w' h => by
    rw [tickTx, Tx.modify_eq_ok] at h
    subst h
    exact ⟨rfl, rfl⟩) fun _ _ _ => ⟨rfl, rfl⟩

theorem books (b : Books) : Svc.Does Side (Svc.transaction .environment (Tx.modify b.open) : Service Unit) :=
  Svc.Does.transaction (fun w a w' h => by
    rw [Tx.modify_eq_ok] at h
    subst h
    exact ⟨rfl, rfl⟩) fun _ _ _ => ⟨rfl, rfl⟩

end Side

end Qift.Gifting
