import Qift.Gifting.Parallel

/-!
# Posts on two databases that differ in a secret

* The requests on posts take twins to twins, as those on gifts do.
* `postView_alike` — the view of a post is the same for everybody but the receiver of a gift whose sender differs.
* **`program_agrees`** and **`program_answers`** — every request leaves twins, and answers alike whoever is blind to
  the difference and is shown no post that tells it.
-/

namespace Qift.Gifting

open Relational Interleaving Variation

variable [Shop.Cities] {V : Variation} {known : Gift → Prop}

/-! ### Writes -/

theorem generateUniqueSlug_agrees (drawn : List String) (retries : Nat) :
    Svc.Agrees (V.Twins known) Eq (generateUniqueSlug drawn retries) (generateUniqueSlug drawn retries) := by
  induction retries generalizing drawn with
  | zero =>
      cases drawn with
      | nil => exact Svc.Agrees.fail _
      | cons candidate rest => exact Svc.Agrees.fail _
  | succ retries ih =>
      cases drawn with
      | nil => exact Svc.Agrees.fail _
      | cons candidate rest =>
          refine Svc.Agrees.bind (query_common fun _ _ _ _ => rfl) fun collision _ hcollision => ?_
          subst hcollision
          exact Svc.Agrees.ite Iff.rfl (fun _ => ih rest) fun _ => Svc.Agrees.pure rfl

theorem updatePost_agrees (id : String) {f : GiftPost → GiftPost} (hf : ∀ p, (f p).id = p.id)
    (hreveal : ∀ p, (f p).giftId = p.giftId ∧ (f p).revealSender = p.revealSender) :
    Svc.Agrees (V.Twins known) Eq (updatePost id f hf) (updatePost id f hf) := by
  refine Svc.Agrees.bind (Q := Eq) (Svc.Agrees.transaction ?_) fun written _ hwritten => ?_
  · refine Tx.Agrees.bind (updateMany_common posts_common _ _ fun p hp => ?_) fun _ _ _ =>
      Tx.Agrees.read fun s t h => ?_
    · rw [(hreveal p).1, (hreveal p).2]
      exact hp
    exact common (f := fun w => w.posts.find id) (fun _ _ _ _ => rfl) s t h
  · subst hwritten
    cases written with
    | none => exact Svc.Agrees.fail _
    | some post => exact Svc.Agrees.pure rfl

/-- The side an account is on does not depend on a sender it is not. -/
theorem directionOf_alike {g g' : Gift} (hg : V.RowAlike g g') {viewer : String} (hviewer : ¬V.party viewer) :
    directionOf viewer g = directionOf viewer g' := by
  rw [directionOf, directionOf, hg.receiverId, if_congr (hg.sender_iff hviewer) rfl rfl]

theorem publish_agrees {viewer : String} (hviewer : ¬V.party viewer) (input : PublishInput) (postId : String)
    (drawn : List String) :
    Svc.Agrees (V.Twins known) Eq (publish viewer input postId drawn) (publish viewer input postId drawn) := by
  rw [publish]
  cases Shop.trimOrNull input.giftId with
  | none => exact Svc.Agrees.fail _
  | some giftId =>
      refine Svc.Agrees.bind (Svc.Agrees.ensure Iff.rfl) fun _ _ _ => ?_
      refine Svc.Agrees.bind (findGift_agrees giftId) fun g g' hg => ?_
      rw [directionOf_alike hg.1 hviewer, hg.1.status]
      refine Svc.Agrees.bind (Svc.Agrees.ofExcept (Alike.refl (fun _ => rfl) _)) fun direction _ hdirection => ?_
      subst hdirection
      refine Svc.Agrees.bind (Svc.Agrees.ensure Iff.rfl) fun _ _ _ => ?_
      refine Svc.Agrees.bind (query_common fun _ _ _ _ => rfl) fun existing _ hexisting => ?_
      subst hexisting
      cases existing with
      | none =>
          refine Svc.Agrees.bind (generateUniqueSlug_agrees _ _) fun slug _ hslug => ?_
          subst hslug
          refine Svc.Agrees.bind dateNow_agrees fun now _ hnow => ?_
          subst hnow
          exact Svc.Agrees.transaction (create_common posts_common _ fun _ => rfl)
      | some existing =>
          have hlast (slug : String) : Svc.Agrees (V.Twins known) Eq
              (do
                let now ← dateNow
                updatePost existing.id fun p =>
                  { p with
                    publishedAt := some now
                    publicSlug := some slug
                    visibility := input.visibility.getD "public"
                    deactivatedAt := none
                    deactivatedReason := none } : Service GiftPost)
              (do
                let now ← dateNow
                updatePost existing.id fun p =>
                  { p with
                    publishedAt := some now
                    publicSlug := some slug
                    visibility := input.visibility.getD "public"
                    deactivatedAt := none
                    deactivatedReason := none }) := by
            refine Svc.Agrees.bind dateNow_agrees fun now _ hnow => ?_
            subst hnow
            exact updatePost_agrees _ _ fun _ => ⟨rfl, rfl⟩
          dsimp only
          refine Svc.Agrees.ite Iff.rfl (fun _ => Svc.Agrees.pure rfl) fun _ => ?_
          cases existing.publicSlug with
          | some slug => exact hlast slug
          | none =>
              refine Svc.Agrees.bind (generateUniqueSlug_agrees _ _) fun slug _ hslug => ?_
              subst hslug
              exact hlast slug

theorem requireOwnedPost_agrees (viewer postId : String) :
    Svc.Agrees (V.Twins known) Eq (requireOwnedPost viewer postId) (requireOwnedPost viewer postId) := by
  refine Svc.Agrees.bind (query_common fun _ _ _ _ => rfl) fun found _ hfound => ?_
  subst hfound
  cases found with
  | none => exact Svc.Agrees.fail _
  | some post => exact Svc.Agrees.bind (Svc.Agrees.ensure Iff.rfl) fun _ _ _ => Svc.Agrees.pure rfl

theorem unpublish_agrees (viewer postId : String) :
    Svc.Agrees (V.Twins known) Eq (unpublish viewer postId) (unpublish viewer postId) := by
  refine Svc.Agrees.bind (requireOwnedPost_agrees viewer postId) fun post _ hpost => ?_
  subst hpost
  exact Svc.Agrees.ite Iff.rfl (fun _ => Svc.Agrees.pure rfl) fun _ =>
    updatePost_agrees _ _ fun _ => ⟨rfl, rfl⟩

theorem setVisibility_agrees (viewer postId visibility : String) :
    Svc.Agrees (V.Twins known) Eq (setVisibility viewer postId visibility) (setVisibility viewer postId visibility) := by
  refine Svc.Agrees.bind (Svc.Agrees.ensure Iff.rfl) fun _ _ _ => ?_
  refine Svc.Agrees.bind (requireOwnedPost_agrees viewer postId) fun post _ hpost => ?_
  subst hpost
  exact Svc.Agrees.ite Iff.rfl (fun _ => Svc.Agrees.pure rfl) fun _ =>
    updatePost_agrees _ _ fun _ => ⟨rfl, rfl⟩

/-! ### Views -/

/-- The post of a gift in the two databases. -/
structure PostAlike (V : Variation) (x y : PostWithGift) : Prop where
  post : x.post = y.post
  gift : V.RowAlike x.gift y.gift
  product : x.product = y.product
  store : x.store = y.store
  sender : x.sender = y.sender ∨ V.veils x.gift y.gift.senderId
  receiver : x.receiver = y.receiver

/-- A post that tells a viewer nothing of the difference. -/
structure Variation.Clear (V : Variation) (viewer : Option String) (x : PostWithGift) : Prop where
  hides : ¬V.hides x.gift
  veils : ∀ senderId, V.veils x.gift senderId → viewer ≠ some x.gift.receiverId ∧ x.post.revealSender = false

theorem withGift_alike {s t : Gifting} (h : V.Twins known s t) (p : GiftPost) :
    Option.Rel (PostAlike V) (withGift s p) (withGift t p) := by
  have hfind := find_alike h p.giftId
  rw [withGift, withGift]
  generalize s.gifts.find p.giftId = left at hfind
  generalize t.gifts.find p.giftId = right at hfind
  cases hfind with
  | none => exact .none
  | @some g g' hg =>
      have hsender := sender_alike h hg
      have hrow := hg
      obtain ⟨c, -, -⟩ := hg
      exact .some {
        post := rfl
        gift := hrow
        product := common (f := fun w => g.productId.bind w.products.find) (fun _ _ _ _ => rfl) s t h
        store := common (f := fun w => g.storeId.bind w.stores.find) (fun _ _ _ _ => rfl) s t h
        sender := hsender
        receiver := common (f := fun w => partyOf w g.receiverId) (fun _ _ _ _ => rfl) s t h }

/-- A viewer who is no sender finds itself in both rows or in neither. -/
theorem viewer_alike {x y : PostWithGift} (hxy : PostAlike V x y) {viewer : Option String}
    (hviewer : ∀ u, viewer = some u → ¬V.party u) : viewer = some x.gift.senderId ↔ viewer = some y.gift.senderId := by
  cases viewer with
  | none => exact iff_of_false (by rintro ⟨⟩) (by rintro ⟨⟩)
  | some u => simpa using hxy.gift.sender_iff (hviewer u rfl)

theorem showsSender_alike {x y : PostWithGift} (hxy : PostAlike V x y) {viewer : Option String}
    (hviewer : ∀ u, viewer = some u → ¬V.party u) (hclear : V.Clear viewer x) :
    showsSender x viewer = showsSender y viewer ∧ (showsSender x viewer = true → x.sender = y.sender) := by
  constructor
  · rw [showsSender, showsSender, hxy.post, hxy.gift.receiverId, decide_eq_decide.mpr (viewer_alike hxy hviewer)]
  · intro hshown
    rcases hxy.sender with hsame | hveils
    · exact hsame
    · obtain ⟨hreceiver, hreveal⟩ := hclear.veils _ hveils
      obtain ⟨-, hfirst, -⟩ := V.anonymous _ _ hveils
      have hother : viewer ≠ some x.gift.senderId := fun heq => hviewer _ heq hfirst
      rw [showsSender, decide_eq_false hother, decide_eq_false hreceiver, hreveal] at hshown
      cases hshown

theorem postView_alike {x y : PostWithGift} (hxy : PostAlike V x y) {viewer : Option String}
    (hviewer : ∀ u, viewer = some u → ¬V.party u) (hclear : V.Clear viewer x) (eventCount : Nat) :
    buildGiftPostView x viewer eventCount = buildGiftPostView y viewer eventCount := by
  obtain ⟨hshow, hsame⟩ := showsSender_alike hxy hviewer hclear
  have hreceiver : showsReceiver x viewer = showsReceiver y viewer := by
    rw [showsReceiver, showsReceiver, hxy.post, hxy.gift.receiverId, decide_eq_decide.mpr (viewer_alike hxy hviewer)]
  have hnames : x.gift.productName = y.gift.productName ∧ x.gift.storeName = y.gift.storeName ∧
      x.gift.productId = y.gift.productId ∧ x.gift.storeId = y.gift.storeId := by
    obtain ⟨post, g, product, store, sender, receiver⟩ := x
    obtain ⟨post', g', product', store', sender', receiver'⟩ := y
    have hgift : V.RowAlike g g' := hxy.gift
    have hopen : ¬V.hides g := hclear.hides
    show g.productName = g'.productName ∧ g.storeName = g'.storeName ∧ g.productId = g'.productId ∧
      g.storeId = g'.storeId
    obtain ⟨c, -, hc⟩ := hgift
    rcases hc with rfl | ⟨hhides, -, -⟩ | ⟨-, hcontents⟩
    · exact ⟨rfl, rfl, rfl, rfl⟩
    · exact absurd hhides hopen
    · refine ⟨?_, ?_, rfl, rfl⟩
      · show g.productName = c.contents.productName
        rw [hcontents]
        rfl
      · show g.storeName = c.contents.storeName
        rw [hcontents]
        rfl
  rw [buildGiftPostView, buildGiftPostView]
  rw [hxy.post, hxy.product, hxy.store, hxy.receiver, hnames.1, hnames.2.1, hnames.2.2.1, hnames.2.2.2, hreceiver]
  cases hshown : showsSender x viewer with
  | true => rw [← hshow, hshown, hsame hshown]
  | false =>
      rw [← hshow, hshown]
      rfl

/-! ### Walls -/

/-- The posts that head the piles of a wall. -/
def headPosts (posts : List PostWithGift) : List PostWithGift := (collapseGiftPostGroups posts).map Prod.fst

theorem samePile_alike {x y a b : PostWithGift} (hxy : PostAlike V x y) (hab : PostAlike V a b) :
    samePile x a = samePile y b := by
  have hproduct {x y : PostWithGift} (h : PostAlike V x y) : x.gift.productId = y.gift.productId := by
    obtain ⟨post, g, product, store, sender, receiver⟩ := x
    obtain ⟨post', g', product', store', sender', receiver'⟩ := y
    have hgift : V.RowAlike g g' := h.gift
    obtain ⟨c, -, -⟩ := hgift
    rfl
  rw [samePile, samePile, hproduct hxy, hproduct hab, hxy.post, hab.post]

/-- Piles headed by alike posts, of the same sizes. -/
def PilesAlike (V : Variation) : List (PostWithGift × Nat) → List (PostWithGift × Nat) → Prop :=
  List.Forall₂ fun a b => PostAlike V a.1 b.1 ∧ a.2 = b.2

theorem intoPiles_alike {piles piles' : List (PostWithGift × Nat)} (h : PilesAlike V piles piles') {x y : PostWithGift}
    (hxy : PostAlike V x y) : PilesAlike V (intoPiles piles x) (intoPiles piles' y) := by
  rw [intoPiles, intoPiles]
  have hany := forall₂_any (p := fun pile : PostWithGift × Nat => samePile pile.1 x)
    (q := fun pile : PostWithGift × Nat => samePile pile.1 y) (fun a b hab => samePile_alike hab.1 hxy) h
  rw [hany]
  split
  · refine List.forall₂_map_left_iff.mpr (List.forall₂_map_right_iff.mpr (h.imp fun a b hab => ?_))
    rw [samePile_alike hab.1 hxy]
    split
    · exact ⟨hab.1, congrArg (· + 1) hab.2⟩
    · exact hab
  · exact List.rel_append h (.cons ⟨hxy, rfl⟩ .nil)

theorem collapse_alike {l l' : List PostWithGift} (h : List.Forall₂ (PostAlike V) l l') :
    PilesAlike V (collapseGiftPostGroups l) (collapseGiftPostGroups l') := by
  have hempty : PilesAlike V [] [] := .nil
  exact List.rel_foldl (P := PilesAlike V) (R := PostAlike V)
    (fun _ _ hpiles _ _ hxy => intoPiles_alike hpiles hxy) hempty h

theorem wall_alike {viewer : Option String} (hviewer : ∀ u, viewer = some u → ¬V.party u) {l l' : List PostWithGift}
    (h : List.Forall₂ (PostAlike V) l l') (hclear : ∀ x ∈ headPosts l, V.Clear viewer x) :
    wall l viewer = wall l' viewer := by
  have hheads (pile : PostWithGift × Nat) (hpile : pile ∈ collapseGiftPostGroups l) : V.Clear viewer pile.1 :=
    hclear pile.1 (List.mem_map.mpr ⟨pile, hpile, rfl⟩)
  rw [wall, wall, ← List.forall₂_eq_eq_eq]
  refine List.forall₂_map_left_iff.mpr (List.forall₂_map_right_iff.mpr ?_)
  refine ((List.forall₂_and_left _ _).mpr ⟨hheads, collapse_alike h⟩).imp fun a b hab => ?_
  obtain ⟨hcleared, halike, hcount⟩ := hab
  rw [hcount]
  exact postView_alike halike hviewer hcleared b.2

theorem posts_alike {s t : Gifting} (h : V.Twins known s t) (posts : List GiftPost) :
    List.Forall₂ (PostAlike V) (posts.filterMap (withGift s)) (posts.filterMap (withGift t)) := by
  induction posts with
  | nil => exact .nil
  | cons p posts ih =>
      have halike := withGift_alike h p
      rw [List.filterMap_cons, List.filterMap_cons]
      generalize withGift s p = left at halike
      generalize withGift t p = right at halike
      cases halike with
      | none => exact ih
      | some hxy => exact .cons hxy ih

theorem postBySlug_alike {s t : Gifting} (h : V.Twins known s t) (slug : String) :
    Option.Rel (PostAlike V) (postBySlug slug s) (postBySlug slug t) := by
  have hposts : s.posts = t.posts := common (f := Gifting.posts) (fun _ _ _ _ => rfl) s t h
  rw [postBySlug, postBySlug, hposts]
  cases t.posts.rows.find? fun p => decide (p.publicSlug = some slug) with
  | none => exact .none
  | some p => exact withGift_alike h p

theorem showPost_agrees {x y : PostWithGift} (hxy : PostAlike V x y) {viewer : Option String}
    (hviewer : ∀ u, viewer = some u → ¬V.party u) :
    Svc.Agrees (V.Twins known) (fun v v' => V.Clear viewer x → v = v') (showPost x viewer) (showPost y viewer) := by
  have hparty := or_congr (viewer_alike hxy hviewer) (by rw [hxy.gift.receiverId] :
    viewer = some x.gift.receiverId ↔ viewer = some y.gift.receiverId)
  rw [showPost, showPost, hxy.post]
  refine Svc.Agrees.bind (query_common fun _ _ _ _ => rfl) fun blocked _ hblocked => ?_
  subst hblocked
  refine Svc.Agrees.bind (Svc.Agrees.ensure (or_congr Iff.rfl (or_congr Iff.rfl hparty))) fun _ _ _ => ?_
  refine Svc.Agrees.bind (Svc.Agrees.ensure (or_congr Iff.rfl (or_congr Iff.rfl hparty))) fun _ _ _ => ?_
  exact Svc.Agrees.pure fun hclear => postView_alike hxy hviewer hclear 1

theorem getBySlug_agrees (slug : Option String) {viewer : Option String}
    (hviewer : ∀ u, viewer = some u → ¬V.party u) :
    Svc.Agrees (V.Twins known) (fun _ _ => True) (getBySlug slug viewer) (getBySlug slug viewer) := by
  rw [getBySlug]
  cases Shop.trimOrNull slug with
  | none => exact Svc.Agrees.fail _
  | some slug =>
      refine Svc.Agrees.bind (Svc.Agrees.query fun s t h => postBySlug_alike h slug) fun found found' hfound => ?_
      cases hfound with
      | none => exact Svc.Agrees.fail _
      | some hxy => exact (showPost_agrees hxy hviewer).mono fun _ _ _ => trivial

theorem getBySlug_answers {s t : Gifting} (slug : Option String) {viewer : Option String}
    (hviewer : ∀ u, viewer = some u → ¬V.party u) (h : V.Twins known s t)
    (hclear : ∀ x ∈ ((Shop.trimOrNull slug).bind fun slug => postBySlug slug s).toList, V.Clear viewer x) :
    ((getBySlug slug viewer).exec s).1 = ((getBySlug slug viewer).exec t).1 := by
  rw [getBySlug]
  cases htrim : Shop.trimOrNull slug with
  | none => rfl
  | some slug =>
      have hfound := postBySlug_alike h slug
      rw [htrim, Option.bind_some] at hclear
      dsimp only
      rw [Svc.exec_bind, Svc.exec_bind, Svc.exec_query, Svc.exec_query]
      generalize postBySlug slug s = left at hfound hclear
      generalize postBySlug slug t = right at hfound
      cases hfound with
      | none => rfl
      | @some x y hxy =>
          have hshow := (showPost_agrees hxy hviewer s t h).1
          exact (hshow.mono fun v v' hv => hv (hclear x (by simp))).eq

/-! ### All requests -/

/-- Who asks. -/
def Call.viewer : Call → Option String
  | .create _ viewerUserId _ _ _ => some viewerUserId
  | .findOne _ viewerUserId => some viewerUserId
  | .findSent _ viewerUserId => some viewerUserId
  | .findReceived _ viewerUserId => some viewerUserId
  | .confirmAddress _ viewerUserId _ => some viewerUserId
  | .cancel _ viewerUserId => some viewerUserId
  | .publish viewerUserId _ _ _ => some viewerUserId
  | .unpublish viewerUserId _ => some viewerUserId
  | .setVisibility viewerUserId _ _ => some viewerUserId
  | .listMine viewerUserId => some viewerUserId
  | .listByUser _ viewerUserId => viewerUserId
  | .getBySlug _ viewerUserId => viewerUserId
  | _ => none

/-- `listByUser` answers an account that is blocked by the target with nothing. -/
def blockedFrom (viewerUserId : Option String) (targetUserId : String) (w : Gifting) : Bool :=
  viewerUserId.any fun viewer => viewer ≠ targetUserId && isBlockedEitherWay viewer targetUserId w

/-- The posts a request shows, before they are masked. -/
def shownPosts : Call → Gifting → List PostWithGift
  | .listMine viewerUserId, w => headPosts ((ownPosts viewerUserId w).filterMap (withGift w))
  | .listByUser targetUserId viewerUserId, w =>
      if blockedFrom viewerUserId targetUserId w then []
      else headPosts ((publicPosts targetUserId w).filterMap (withGift w))
  | .getBySlug slug _, w => ((Shop.trimOrNull slug).bind fun slug => postBySlug slug w).toList
  | _, _ => []

omit [Shop.Cities] in
theorem mem_of_intoPiles {piles : List (PostWithGift × Nat)} {x y : PostWithGift}
    (h : x ∈ (intoPiles piles y).map Prod.fst) : x ∈ piles.map Prod.fst ∨ x = y := by
  rw [intoPiles] at h
  split at h
  · rw [List.map_map] at h
    obtain ⟨pile, hpile, rfl⟩ := List.mem_map.mp h
    refine .inl (List.mem_map.mpr ⟨pile, hpile, ?_⟩)
    show pile.1 = (if samePile pile.1 y then (pile.1, pile.2 + 1) else pile).1
    split <;> rfl
  · rw [List.map_append, List.mem_append] at h
    rcases h with h | h
    · exact .inl h
    · exact .inr (List.mem_singleton.mp h)

omit [Shop.Cities] in
theorem mem_of_foldl_intoPiles {l : List PostWithGift} {piles : List (PostWithGift × Nat)} {x : PostWithGift}
    (h : x ∈ (l.foldl intoPiles piles).map Prod.fst) : x ∈ piles.map Prod.fst ∨ x ∈ l := by
  induction l generalizing piles with
  | nil => exact .inl h
  | cons y l ih =>
      rcases ih h with h | h
      · rcases mem_of_intoPiles h with h | rfl
        · exact .inl h
        · exact .inr List.mem_cons_self
      · exact .inr (List.mem_cons_of_mem y h)

omit [Shop.Cities] in
/-- A wall is headed by its own rows. -/
theorem mem_of_headPosts {l : List PostWithGift} {x : PostWithGift} (h : x ∈ headPosts l) : x ∈ l := by
  rcases mem_of_foldl_intoPiles h with h | h
  · cases h
  · exact h

omit [Shop.Cities] in
theorem shownPosts_stored {c : Call} {w : Gifting} {x : PostWithGift} (hx : x ∈ shownPosts c w) :
    x.post ∈ w.posts.rows ∧ x.gift.id = x.post.giftId := by
  have hread {posts : List GiftPost} (hposts : ∀ p ∈ posts, p ∈ w.posts.rows)
      (hx : x ∈ posts.filterMap (withGift w)) : x.post ∈ w.posts.rows ∧ x.gift.id = x.post.giftId := by
    obtain ⟨p, hp, hgift⟩ := List.mem_filterMap.mp hx
    obtain ⟨g, hfound, rfl⟩ := Option.map_eq_some_iff.mp hgift
    exact ⟨hposts p hp, Table.key_of_find hfound⟩
  cases c with
  | listMine viewerUserId =>
      refine hread (fun p hp => ?_) (mem_of_headPosts hx)
      exact List.mem_of_mem_filter ((List.mem_insertionSort _).mp hp)
  | listByUser targetUserId viewerUserId =>
      change x ∈ if blockedFrom viewerUserId targetUserId w then [] else _ at hx
      split at hx
      · cases hx
      · refine hread (fun p hp => ?_) (mem_of_headPosts hx)
        exact List.mem_of_mem_filter ((List.mem_insertionSort _).mp hp)
  | getBySlug slug viewerUserId =>
      obtain ⟨slug, -, hpost⟩ := Option.bind_eq_some_iff.mp (Option.mem_toList.mp hx)
      obtain ⟨p, hp, hgift⟩ := Option.bind_eq_some_iff.mp hpost
      exact hread (fun p hp => hp) (List.mem_filterMap.mpr ⟨p, List.mem_of_find?_eq_some hp, hgift⟩)
  | _ => cases hx

/-- The request reads posts. -/
def Call.readsPosts : Call → Bool
  | .listMine _ => true
  | .listByUser _ _ => true
  | .getBySlug _ _ => true
  | _ => false

/-- The request leaves the books, and the city it names does not tell two address books apart. -/
def SameGate (addresses addresses' : Table Address.id) : Call → Prop
  | .books _ => False
  | .create body _ _ _ _ => SameCities addresses addresses' body
  | _ => True

/-- The request is nobody's whose gifts the two runs send differently, and no gate tells the runs apart. -/
structure Variation.Admits (V : Variation) (c : Call) : Prop where
  gate : SameGate V.addresses V.addresses' c
  outside : ∀ v, c.viewer = some v → ¬V.party v

variable [Runtime]

/-- **Every request takes twins to twins**; if it does not read posts it answers alike whoever is blind. -/
theorem program_agrees (hlast : V.Lasting) {c : Call} (hc : V.Admits c) :
    Svc.Agrees (V.Twins nothingKnown)
      (fun r r' => (∀ v, c.viewer = some v → V.Blind v) → c.readsPosts = false → r = r') (program c) (program c) := by
  have hsees {α : Type} {f : α → Reply} {x : Service α} {viewer : String} (hviewer : c.viewer = some viewer)
      (h : Svc.Agrees (V.Twins nothingKnown) (V.Sees viewer) x x) : Svc.Agrees (V.Twins nothingKnown)
        (fun r r' => (∀ v, c.viewer = some v → V.Blind v) → c.readsPosts = false → r = r') (f <$> x) (f <$> x) :=
    Svc.Agrees.map (h.mono fun a b hab hblind _ => congrArg f (hab (hblind viewer hviewer)))
  have hsame {α : Type} {f : α → Reply} {x : Service α} (h : Svc.Agrees (V.Twins nothingKnown) Eq x x) :
      Svc.Agrees (V.Twins nothingKnown)
        (fun r r' => (∀ v, c.viewer = some v → V.Blind v) → c.readsPosts = false → r = r') (f <$> x) (f <$> x) :=
    Svc.Agrees.map (h.mono fun a b hab _ _ => congrArg f hab)
  have hreads {α : Type} {f : α → Reply} {x : Service α} (hposts : c.readsPosts = true)
      (h : Svc.Agrees (V.Twins nothingKnown) (fun _ _ => True) x x) : Svc.Agrees (V.Twins nothingKnown)
        (fun r r' => (∀ v, c.viewer = some v → V.Blind v) → c.readsPosts = false → r = r') (f <$> x) (f <$> x) :=
    Svc.Agrees.map (h.mono fun a b _ _ hnot => by rw [hposts] at hnot; cases hnot)
  obtain ⟨hgate, houtside⟩ := hc
  unfold program
  cases c with
  | tick elapsed =>
      refine Svc.Agrees.bind (Svc.Agrees.transaction (Tx.Agrees.modify fun s t h => ?_)) fun _ _ _ =>
        Svc.Agrees.pure fun _ _ => rfl
      exact h.change (f := fun w => { w with now := w.now + elapsed }) (fun _ _ _ _ => rfl) h.posts
  | books b => exact hgate.elim
  | create body viewerUserId idempotencyKey drawn giftId =>
      exact hsees rfl (create_agrees hgate (houtside _ rfl) idempotencyKey drawn giftId fun _ hk => hk)
  | findOne giftId viewerUserId => exact hsees rfl (findOne_agrees giftId (houtside _ rfl))
  | findSent senderId viewerUserId => exact hsees rfl (findSent_agrees senderId (houtside _ rfl))
  | findReceived receiverId viewerUserId => exact hsees rfl (findReceived_agrees receiverId (houtside _ rfl))
  | confirmAddress giftId viewerUserId addressId =>
      exact hsees rfl (confirmAddress_agrees (fun _ _ => hlast.keeps _) giftId (houtside _ rfl) addressId)
  | cancel giftId viewerUserId => exact hsees rfl (cancel_agrees (hlast.keeps _) giftId (houtside _ rfl))
  | runOnce => exact hsame (runOnce_agrees fun _ _ => hlast.keeps _)
  | markPreparing viewerUserId giftId => exact hsame (markPreparing_agrees (hlast.keeps _) viewerUserId giftId)
  | markShipped viewerUserId giftId opts =>
      exact hsame (markShipped_agrees (fun _ _ _ => hlast.keeps _) viewerUserId giftId opts)
  | markDelivered viewerUserId giftId =>
      exact hsame (markDelivered_agrees (fun _ => hlast.keeps _) viewerUserId giftId)
  | upsertShipment viewerUserId giftId provider trackingNumber =>
      exact hsame (upsertShipment_agrees hlast viewerUserId giftId provider trackingNumber)
  | getShipmentForOrder viewerUserId giftId => exact hsame (getShipmentForOrder_agrees viewerUserId giftId)
  | appendShipmentEvent viewerUserId giftId status note occurredAt =>
      exact hsame (appendShipmentEvent_agrees (fun _ => hlast.keeps _) viewerUserId giftId status note occurredAt)
  | publish viewerUserId input postId drawn =>
      exact hsame (publish_agrees (houtside _ rfl) input postId drawn)
  | unpublish viewerUserId postId => exact hsame (unpublish_agrees viewerUserId postId)
  | setVisibility viewerUserId postId visibility =>
      exact hsame (setVisibility_agrees viewerUserId postId visibility)
  | listMine viewerUserId =>
      refine hreads rfl (Svc.Agrees.bind (Q := fun _ _ => True) (Svc.Agrees.query fun _ _ _ => trivial) fun _ _ _ => ?_)
      exact Svc.Agrees.pure trivial
  | listByUser targetUserId viewerUserId =>
      refine hreads rfl (Svc.Agrees.bind (query_common fun _ _ _ _ => rfl) fun blocked _ hblocked => ?_)
      subst hblocked
      refine Svc.Agrees.ite Iff.rfl (fun _ => Svc.Agrees.pure trivial) fun _ => ?_
      exact Svc.Agrees.bind (Q := fun _ _ => True) (Svc.Agrees.query fun _ _ _ => trivial) fun _ _ _ =>
        Svc.Agrees.pure trivial
  | getBySlug slug viewerUserId =>
      exact hreads rfl (getBySlug_agrees slug houtside)

/-- **Every request answers alike** whoever is blind to the difference and is shown no post that tells it. -/
theorem program_answers (hlast : V.Lasting) {c : Call} (hc : V.Admits c) {s t : Gifting}
    (h : V.Twins nothingKnown s t) (hblind : ∀ v, c.viewer = some v → V.Blind v)
    (hclear : ∀ x ∈ shownPosts c s, V.Clear c.viewer x) : ((program c).exec s).1 = ((program c).exec t).1 := by
  have hposts : s.posts = t.posts := common (f := Gifting.posts) (fun _ _ _ _ => rfl) s t h
  by_cases hreads : c.readsPosts = true
  swap
  · exact ((program_agrees hlast hc s t h).1.mono fun r r' hr => hr hblind (Bool.not_eq_true _ ▸ hreads)).eq
  · have houtside := hc.outside
    cases c with
    | listMine viewer =>
        have hwall := wall_alike houtside (posts_alike h (ownPosts viewer s)) hclear
        have hown : ownPosts viewer t = ownPosts viewer s := by rw [ownPosts, ownPosts, hposts]
        show Except.ok (Reply.wall (wall ((ownPosts viewer s).filterMap (withGift s)) (some viewer))) =
          Except.ok (Reply.wall (wall ((ownPosts viewer t).filterMap (withGift t)) (some viewer)))
        rw [hown]
        exact congrArg (fun views => Except.ok (Reply.wall views)) hwall
    | listByUser target viewer =>
        have hgate : blockedFrom viewer target s = blockedFrom viewer target t :=
          common (f := blockedFrom viewer target) (fun _ _ _ _ => rfl) s t h
        have hpublic : publicPosts target t = publicPosts target s := by rw [publicPosts, publicPosts, hposts]
        have hshow (w : Gifting) : ((program (.listByUser target viewer)).exec w).1 = .ok (.wall
            (if blockedFrom viewer target w then []
             else wall ((publicPosts target w).filterMap (withGift w)) viewer)) := by
          show ((listByUser target viewer >>= fun views => pure (Reply.wall views)).exec w).1 = _
          rw [listByUser, Svc.exec_bind, Svc.exec_bind, Svc.exec_query]
          rw [← blockedFrom]
          cases blockedFrom viewer target w <;> rfl
        rw [hshow, hshow, ← hgate, hpublic]
        cases hblocked : blockedFrom viewer target s with
        | true => rfl
        | false =>
            have hheads : ∀ x ∈ headPosts ((publicPosts target s).filterMap (withGift s)), V.Clear viewer x := by
              intro x hx
              refine hclear x ?_
              show x ∈ if blockedFrom viewer target s then [] else _
              rwa [hblocked]
            exact congrArg (fun views => Except.ok (Reply.wall views))
              (wall_alike houtside (posts_alike h (publicPosts target s)) hheads)
    | getBySlug slug viewer =>
        have hview : ((getBySlug slug viewer).exec s).1 = ((getBySlug slug viewer).exec t).1 :=
          getBySlug_answers slug houtside h hclear
        show ((getBySlug slug viewer >>= fun v => pure (Reply.shownPost v)).exec s).1 =
          ((getBySlug slug viewer >>= fun v => pure (Reply.shownPost v)).exec t).1
        rw [Svc.exec_bind, Svc.exec_bind]
        revert hview
        generalize (getBySlug slug viewer).exec s = left
        generalize (getBySlug slug viewer).exec t = right
        obtain ⟨r, s'⟩ := left
        obtain ⟨r', t'⟩ := right
        rintro (rfl : r = r')
        cases r <;> rfl
    | _ => cases hreads

end Qift.Gifting
