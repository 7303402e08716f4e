import Qift.Gifting.Posts
import Qift.Lib.Proviso

/-!
# What the requests of a gift's parties write

* `Writes posts statuses` — an action of the gift service that writes posts only as `posts` says and statuses only
  as `statuses` says, and leaves the rest of the two tables.
* One lemma for each part of the requests of the parties, and for each request, says what it writes.
-/

namespace Qift.Gifting

open Relational Relational.Table Interleaving

/-- An action that writes posts as `posts` says and statuses as `statuses` says. -/
def Writes (posts : Gifting → Gifting → Prop) (statuses : String → GiftStatus → Pick → Update → Prop) (l : Step)
    (s t : Gifting) : Prop :=
  match l with
  | .read | .notify | .environment => t.gifts = s.gifts ∧ t.posts = s.posts
  | .post => t.gifts = s.gifts ∧ posts s t
  | .setStatus giftId found pick u => statuses giftId found pick u ∧ t.posts = s.posts ∧
      t.gifts = s.gifts.updateMany (fun g => g.id = giftId && pick.takes g.status) u.write u.write_id
  | .createGift | .carrier | .shipment => False

/-- The status write of `confirmAddress`. -/
def Confirms (giftId id : String) (found : GiftStatus) (pick : Pick) (u : Update) : Prop :=
  id = giftId ∧ found = .pending_address ∧ pick = .byId ∧ u.target = .address_confirmed

/-- The status write of `cancel`. -/
def Cancels (giftId id : String) (_ : GiftStatus) (pick : Pick) (u : Update) : Prop :=
  id = giftId ∧ pick = .whileIn cancellable ∧ u = .cancelled

/-- The request writes no status. -/
def WritesNoStatus (_ : String) (_ : GiftStatus) (_ : Pick) (_ : Update) : Prop := False

theorem deactivated_id (now : Time) (p : GiftPost) :
    ({ p with deactivatedAt := some now, deactivatedReason := some "gift_cancelled" } : GiftPost).id = p.id := rfl

/-- The posts of a gift are taken down, and no others are touched. -/
def TakesDown (giftId : String) (s t : Gifting) : Prop :=
  ∃ now, t.posts = s.posts.updateMany (fun p => p.giftId = giftId ∧ p.deactivatedAt = none)
    (fun p => { p with deactivatedAt := some now, deactivatedReason := some "gift_cancelled" })
      (deactivated_id now)

/-- A post is rewritten, but for its gift and its deactivation. -/
def Rewrites (s t : Gifting) : Prop :=
  ∃ (id : String) (f : GiftPost → GiftPost) (hf : ∀ p, (f p).id = p.id),
    (∀ p, (f p).giftId = p.giftId ∧ (f p).deactivatedAt = p.deactivatedAt) ∧
      t.posts = s.posts.updateMany (fun p => p.id = id) f hf

namespace Writes

variable {posts posts' : Gifting → Gifting → Prop} {statuses statuses' : String → GiftStatus → Pick → Update → Prop}

theorem mono (hposts : ∀ s t, posts s t → posts' s t)
    (hstatuses : ∀ giftId found pick u, statuses giftId found pick u → statuses' giftId found pick u) (l : Step)
    (s t : Gifting) (h : Writes posts statuses l s t) : Writes posts' statuses' l s t := by
  cases l with
  | read | notify | environment => exact h
  | post => exact ⟨h.1, hposts s t h.2⟩
  | setStatus giftId found pick u => exact ⟨hstatuses _ _ _ _ h.1, h.2⟩
  | createGift | carrier | shipment => exact h

theorem query {α : Type} (f : Gifting → α) : Svc.Does (Writes posts statuses) (Svc.query .read f : Service α) :=
  Svc.Does.query (fun _ => ⟨rfl, rfl⟩) f

theorem trigger (n : Notification) : Svc.Does (Writes posts statuses) (trigger n) :=
  Svc.Does.transaction (fun w a w' h => by
    rw [Tx.modify_eq_ok] at h
    subst h
    exact ⟨rfl, rfl⟩) fun _ _ _ => ⟨rfl, rfl⟩

theorem findGift (giftId : String) : Svc.Does (Writes posts statuses) (findGift giftId) := by
  refine Svc.Does.bind (query _) fun found => ?_
  cases found with
  | none => exact Svc.Does.fail _
  | some g => exact Svc.Does.pure g

theorem findGiftWithParties (giftId : String) : Svc.Does (Writes posts statuses) (findGiftWithParties giftId) := by
  refine Svc.Does.bind (query _) fun found => ?_
  cases found with
  | none => exact Svc.Does.fail _
  | some g => exact Svc.Does.pure g

/-! ### confirmAddress -/

theorem chooseAddress (viewerUserId : String) (addressId : Option String) :
    Svc.Does (Writes posts statuses) (chooseAddress viewerUserId addressId) := by
  unfold Gifting.chooseAddress
  split
  · refine Svc.Does.bind (query _) fun owned => ?_
    cases owned with
    | none => exact Svc.Does.fail _
    | some owned => exact Svc.Does.pure _
  · refine Svc.Does.bind (query _) fun default => ?_
    cases default with
    | none => exact Svc.Does.fail _
    | some default => exact Svc.Does.bind (query _) fun _ => Svc.Does.pure _

theorem coverageGate [Shop.Cities] (g : Gift) (scope : Market.AddressScope) :
    Svc.Does (Writes posts statuses) (coverageGate g scope) := by
  refine Svc.Does.bind (query _) fun store => ?_
  cases store with
  | none => exact Svc.Does.pure _
  | some store => exact Svc.Does.bind (query _) fun _ => Svc.Does.ensure _ _

theorem updateGift {α : Type} {giftId : String} {found : GiftStatus} {u : Update} {included : Gifting → Gift → α}
    (h : statuses giftId found .byId u) :
    Svc.Does (Writes posts statuses) (updateGift giftId found u included) := by
  refine Svc.Does.bind ?_ fun written => ?_
  · refine Svc.Does.transaction (fun w a w' htx => ?_) fun w e htx => ?_
    · obtain ⟨n, w₁, hset, hread⟩ := Tx.bind_eq_ok.mp htx
      obtain ⟨-, rfl⟩ := Tx.read_eq_ok.mp hread
      obtain ⟨-, rfl⟩ := Delegate.updateMany_eq_ok.mp hset
      exact ⟨h, rfl, rfl⟩
    · rcases Tx.bind_eq_error.mp htx with hset | ⟨n, w₁, -, hread⟩
      · cases hset
      · cases hread
  · cases written with
    | none => exact Svc.Does.fail _
    | some updated => exact Svc.Does.pure updated

theorem confirmAddress [Shop.Cities] (giftId viewerUserId : String) (addressId : Option String) :
    Svc.Does (Writes posts (Confirms giftId)) (confirmAddress giftId viewerUserId addressId) := by
  refine Svc.Does.bind (findGift giftId) fun g => Svc.Does.bind (Svc.Does.ensure _ _) fun _ => ?_
  split
  next => exact Svc.Does.bind (findGiftWithParties _) fun fresh => Svc.Does.bind (query _) fun _ => Svc.Does.pure _
  next hstatus =>
    refine Svc.Does.bind (Svc.Does.ensure _ _) fun _ => Svc.Does.bind (chooseAddress _ _) fun chosen => ?_
    refine Svc.Does.bind (coverageGate _ _) fun _ => Svc.Does.bind (query _) fun now => ?_
    refine Svc.Does.bind (updateGift ⟨rfl, not_not.mp hstatus, rfl, rfl⟩) fun updated => ?_
    exact Svc.Does.bind (trigger _) fun _ => Svc.Does.bind (query _) fun _ => Svc.Does.pure _

/-! ### cancel -/

theorem updateGiftWhile (giftId : String) (found : GiftStatus) :
    Svc.Does (Writes posts (Cancels giftId)) (updateGiftWhile giftId found cancellable .cancelled) :=
  Svc.Does.transaction (fun w n w' htx => by
    obtain ⟨-, rfl⟩ := Delegate.updateMany_eq_ok.mp htx
    exact ⟨⟨rfl, rfl, rfl⟩, rfl, rfl⟩) fun w e htx => nomatch htx

theorem deactivatePosts (giftId : String) :
    Svc.Does (Writes (TakesDown giftId) statuses) (deactivatePosts giftId) := by
  refine Svc.Does.bind (query _) fun now => Svc.Does.bind ?_ fun _ => Svc.Does.pure _
  refine Svc.Does.transaction (fun w n w' h => ?_) fun w e h => nomatch h
  obtain ⟨-, rfl⟩ := Delegate.updateMany_eq_ok.mp h
  exact ⟨rfl, now, rfl⟩

theorem cancel (giftId viewerUserId : String) :
    Svc.Does (Writes (TakesDown giftId) (Cancels giftId)) (cancel giftId viewerUserId) := by
  refine Svc.Does.bind (findGiftWithParties giftId) fun g => Svc.Does.bind (Svc.Does.ensure _ _) fun _ => ?_
  split
  · exact Svc.Does.pure _
  · refine Svc.Does.bind (Svc.Does.ensure _ _) fun _ => Svc.Does.bind (updateGiftWhile _ _) fun count => ?_
    split
    · exact Svc.Does.bind (findGiftWithParties _) fun _ => Svc.Does.pure _
    · refine Svc.Does.bind (deactivatePosts _) fun _ => ?_
      exact Svc.Does.bind (trigger _) fun _ => Svc.Does.bind (findGiftWithParties _) fun _ => Svc.Does.pure _

/-! ### Posts -/

theorem generateUniqueSlug (drawn : List String) (retries : Nat) :
    Svc.Does (Writes posts statuses) (generateUniqueSlug drawn retries) := by
  induction retries generalizing drawn with
  | zero => cases drawn <;> exact Svc.Does.fail _
  | succ retries ih =>
      cases drawn with
      | nil => exact Svc.Does.fail _
      | cons candidate rest =>
          refine Svc.Does.bind (query _) fun collision => ?_
          split
          · exact ih rest
          · exact Svc.Does.pure _

theorem updatePost {id : String} {f : GiftPost → GiftPost} {hf : ∀ x, (f x).id = x.id}
    (h : ∀ s, posts s { s with posts := s.posts.updateMany (fun p => p.id = id) f hf }) :
    Svc.Does (Writes posts statuses) (updatePost id f hf) := by
  refine Svc.Does.bind (Svc.Does.transaction (fun w a w' htx => ?_) fun w e htx => ?_) fun written => ?_
  · obtain ⟨n, w₁, hset, hread⟩ := Tx.bind_eq_ok.mp htx
    obtain ⟨-, rfl⟩ := Tx.read_eq_ok.mp hread
    obtain ⟨-, rfl⟩ := Delegate.updateMany_eq_ok.mp hset
    exact ⟨rfl, h w⟩
  · rcases Tx.bind_eq_error.mp htx with hset | ⟨n, w₁, -, hread⟩
    · cases hset
    · cases hread
  · cases written with
    | none => exact Svc.Does.fail _
    | some post => exact Svc.Does.pure _

theorem requireOwnedPost (viewerUserId postId : String) :
    Svc.Does (Writes posts statuses) (requireOwnedPost viewerUserId postId) := by
  refine Svc.Does.bind (query _) fun found => ?_
  cases found with
  | none => exact Svc.Does.fail _
  | some post => exact Svc.Does.bind (Svc.Does.ensure _ _) fun _ => Svc.Does.pure _

theorem unpublish (viewerUserId postId : String) :
    Svc.Does (Writes Rewrites statuses) (unpublish viewerUserId postId) := by
  refine Svc.Does.bind (requireOwnedPost _ _) fun post => ?_
  split
  · exact Svc.Does.pure _
  · exact updatePost fun s => ⟨post.id, fun p => { p with publishedAt := none }, fun _ => rfl, fun _ => ⟨rfl, rfl⟩, rfl⟩

theorem setVisibility (viewerUserId postId visibility : String) :
    Svc.Does (Writes Rewrites statuses) (setVisibility viewerUserId postId visibility) := by
  refine Svc.Does.bind (Svc.Does.ensure _ _) fun _ => Svc.Does.bind (requireOwnedPost _ _) fun post => ?_
  split
  · exact Svc.Does.pure _
  · exact updatePost fun s => ⟨post.id, fun p => { p with visibility := visibility }, fun _ => rfl,
      fun _ => ⟨rfl, rfl⟩, rfl⟩

end Writes

end Qift.Gifting
