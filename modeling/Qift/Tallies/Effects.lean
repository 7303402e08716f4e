import Qift.Gifting.Side
import Qift.Lib.Tally
import Qift.Tallies.Service

/-!
# What the requests do to what is counted

* `Effect` — what an action does to the counters, the wishes, the gifts, the posts and the appreciations, by its label.
  A deletion and a cancellation carry the product their call had read, which is the product of the row.
* `Run.path` — every run is a path of effects.
-/

namespace Qift.Tallies

open Relational Relational.Table Interleaving

/-- The transaction goes through. -/
def succeeds {α : Type} (tx : Transaction α) (w : Tallies) : Bool :=
  match tx w with
  | .ok _ => true
  | .error _ => false

/-- The gifts a cancellation would write. -/
def cancelCount (giftId : String) (w : Tallies) : Nat :=
  w.gifting.gifts.count fun g => g.id = giftId && (Gifting.Pick.whileIn Gifting.cancellable).takes g.status

/-- The product a counter write is about, and what it adds to its hearts and its gifts. -/
def Step.move : Step → Option (String × Int × Int)
  | .countWish _ productId => some (productId, 1, 0)
  | .uncountWish _ productId => some (productId, -1, 0)
  | .countGift _ productId => some (productId, 0, 1)
  | .uncountGift _ productId => some (productId, 0, -1)
  | .trending productId => some (productId, 0, 0)
  | _ => none

/-- An action that changes nothing. -/
def Step.Refused (l : Step) (w : Tallies) : Prop :=
  match l with
  | .upsertWish row _ => succeeds (upsertWishTx row) w = false
  | .createGift row => succeeds (createGiftTx row) w = false
  | .deleteWish id _ => w.wishes.find id = none
  | .cancelGift giftId _ => cancelCount giftId w = 0
  | .countWish _ productId | .uncountWish _ productId | .countGift _ productId | .uncountGift _ productId
  | .trending productId => w.products.find productId = none
  | .gifting _ | .purge _ => False
  | .read | .environment | .wish | .appreciate _ _ | .unappreciate _ _ => True

/-- An identifier that was handed out to a wish for the product. -/
structure Linked (id : Nat) (productId : Option String) (w : Tallies) : Prop where
  known : id < w.nextId
  product : ∀ x, w.wishes.find id = some x → x.productId = productId

/-- A stored gift of the product. -/
def GiftOf (giftId : String) (productId : Option String) (w : Tallies) : Prop :=
  ∃ g, w.gifting.gifts.find giftId = some g ∧ g.productId = productId

/-- What an action does to what is counted. -/
inductive Effect : Step → Tallies → Tallies → Prop
  | quiet (l : Step) {w w' : Tallies} (hl : l.Refused w) (hproducts : w'.products = w.products)
      (hwishes : w'.wishes = w.wishes) (happreciations : w'.appreciations = w.appreciations)
      (hgifts : w'.gifting.gifts = w.gifting.gifts) (hposts : w'.gifting.posts = w.gifting.posts)
      (hnext : w'.nextId = w.nextId) : Effect l w w'
  | gifting (l : Gifting.Step) {w : Tallies} (g : Gifting) (hside : Gifting.Side l w.gifting g) :
      Effect (.gifting l) w { w with gifting := g }
  | product {w : Tallies} (p : Product) (t : Table Product.id) (hwishlisted : p.wishlistedByCount = 0)
      (hgifted : p.giftedByCount = 0) (hcreate : w.products.create p = some t) :
      Effect .environment w { w with products := t }
  | plainWish {w : Tallies} (x : Wish) (t : Table Wish.id) (hproduct : x.productId = none) (hid : x.id = w.nextId)
      (hcreate : w.wishes.create x = some t) : Effect .wish w { w with nextId := w.nextId + 1, wishes := t }
  | fulfil {w : Tallies} (p : Wish → Bool) (f : Wish → Wish) (hf : ∀ x, (f x).id = x.id)
      (huser : ∀ x, (f x).userId = x.userId) (hproduct : ∀ x, (f x).productId = x.productId) :
      Effect .wish w { w with wishes := w.wishes.updateMany p f hf }
  | heart {w : Tallies} (row : Wish) (existing : Bool) (x : Wish) (t : Table Wish.id)
      (hok : succeeds (upsertWishTx row) w = true) (hstored : row.stored w = none)
      (hproduct : x.productId = row.productId) (hid : x.id = w.nextId) (hcreate : w.wishes.create x = some t) :
      Effect (.upsertWish row existing) w { w with nextId := w.nextId + 1, wishes := t }
  | refresh {w : Tallies} (row : Wish) (existing : Bool) (x : Wish) (hok : succeeds (upsertWishTx row) w = true)
      (hstored : row.stored w = some x) :
      Effect (.upsertWish row existing) w { w with wishes := w.wishes.update x.id (refreshed row) (refreshed_id row) }
  | deleteWish {w : Tallies} (id : Nat) (productId : Option String) (hlinked : Linked id productId w)
      (hstored : (w.wishes.find id).isSome) :
      Effect (.deleteWish id productId) w { w with wishes := w.wishes.erase id }
  | move {w : Tallies} (l : Step) (productId : String) (hearts gifts : Int) (f : Product → Product)
      (hf : ∀ p, (f p).id = p.id) (hl : l.move = some (productId, hearts, gifts))
      (hstored : (w.products.find productId).isSome)
      (hhearts : ∀ p, (f p).wishlistedByCount = p.wishlistedByCount + hearts)
      (hgifts : ∀ p, (f p).giftedByCount = p.giftedByCount + gifts) :
      Effect l w { w with products := w.products.update productId f hf }
  | createGift {w : Tallies} (row g : Gifting.Gift) (t : Table Gifting.Gift.id)
      (hok : succeeds (createGiftTx row) w = true) (hproduct : g.productId = row.productId)
      (hstatus : g.status ≠ .cancelled) (hcreate : w.gifting.gifts.create g = some t) :
      Effect (.createGift row) w { w with gifting := { w.gifting with gifts := t } }
  | cancelGift {w : Tallies} (giftId : String) (productId : Option String) (hgift : GiftOf giftId productId w)
      (hcount : cancelCount giftId w ≠ 0) :
      Effect (.cancelGift giftId productId) w
        { w with
          gifting :=
            { w.gifting with
              gifts := w.gifting.gifts.updateMany
                (fun g => g.id = giftId && (Gifting.Pick.whileIn Gifting.cancellable).takes g.status)
                Gifting.Update.cancelled.write (Gifting.Update.write_id _) } }
  | appreciate {w : Tallies} (a : GiftPostAppreciation) (t : Table GiftPostAppreciation.key)
      (hcreate : w.appreciations.create a = some t) (hstored : (w.gifting.posts.find a.giftPostId).isSome) :
      Effect (.appreciate a.giftPostId a.userId) w
        { w with
          appreciations := t
          gifting :=
            { w.gifting with
              posts := w.gifting.posts.update a.giftPostId
                (fun p => { p with appreciationCount := p.appreciationCount + 1 }) fun _ => rfl } }
  | unappreciate {w : Tallies} (giftPostId userId : String)
      (happreciated : (w.appreciations.find (giftPostId, userId)).isSome)
      (hstored : (w.gifting.posts.find giftPostId).isSome) :
      Effect (.unappreciate giftPostId userId) w
        { w with
          appreciations := w.appreciations.erase (giftPostId, userId)
          gifting :=
            { w.gifting with
              posts := w.gifting.posts.update giftPostId
                (fun p => { p with appreciationCount := p.appreciationCount - 1 }) fun _ => rfl } }
  | purge {w w' : Tallies} (userId : String) (hproducts : w'.products = w.products)
      (hwishes : w'.wishes = w.wishes.deleteMany fun x => x.userId = userId)
      (happreciations : w'.appreciations = w.appreciations.deleteMany fun a => a.userId = userId)
      (hgifts : w'.gifting.gifts = w.gifting.gifts) (hposts : w'.gifting.posts = w.gifting.posts)
      (hnext : w'.nextId = w.nextId) : Effect (.purge userId) w w'

/-- A query. -/
theorem Effect.read (w : Tallies) : Effect .read w w := .quiet .read trivial rfl rfl rfl rfl rfl rfl

/-! ### What every action keeps -/

/-- Every wish that is stored has an identifier that was handed out. -/
def Issued (w : Tallies) : Prop := ∀ x ∈ w.wishes.rows, x.id < w.nextId

theorem issued_empty : Issued empty := fun _ h => absurd h List.not_mem_nil

theorem Effect.issued {l : Step} {w w' : Tallies} (h : Effect l w w') (hw : Issued w) : Issued w' := by
  have hnew {x : Wish} {t : Table Wish.id} (hid : x.id = w.nextId) (hcreate : w.wishes.create x = some t) :
      ∀ y ∈ t.rows, y.id < w.nextId + 1 := by
    intro y hy
    rcases (mem_create hcreate).mp hy with hy | rfl
    · exact (hw y hy).trans (Nat.lt_succ_self _)
    · rw [hid]
      exact Nat.lt_succ_self _
  cases h with
  | quiet _ _ _ hwishes _ _ _ hnext =>
      intro x hx
      rw [hwishes] at hx
      rw [hnext]
      exact hw x hx
  | plainWish x t _ hid hcreate => exact hnew hid hcreate
  | heart row existing x t _ _ _ hid hcreate => exact hnew hid hcreate
  | fulfil p f hf =>
      intro y hy
      obtain ⟨x, hx, hid⟩ := key_of_mem_updateMany hf hy
      rw [← hid]
      exact hw x hx
  | refresh row existing x =>
      intro y hy
      obtain ⟨z, hz, hid⟩ := key_of_mem_update (refreshed_id row) hy
      rw [← hid]
      exact hw z hz
  | deleteWish id productId => exact fun x hx => hw x (mem_erase.mp hx).1
  | purge userId _ hwishes _ _ _ hnext =>
      intro x hx
      rw [hwishes] at hx
      rw [hnext]
      exact hw x (mem_deleteMany.mp hx).1
  | gifting | product | move | createGift | cancelGift | appreciate | unappreciate => exact hw

theorem issued_of_rely {w : Tallies} (h : Rely Effect empty w) : Issued w :=
  Rely.stable (fun _ _ _ hact hs => hact.issued hs) h issued_empty

theorem Effect.nextId_le {l : Step} {w w' : Tallies} (h : Effect l w w') : w.nextId ≤ w'.nextId := by
  cases h with
  | quiet _ _ _ _ _ _ _ hnext | purge _ _ _ _ _ _ hnext => exact hnext.ge
  | plainWish | heart => exact Nat.le_succ _
  | _ => exact le_rfl

/-- Where a stored wish comes from: it is new, or it was stored, for the same product. -/
theorem Effect.wish_from {l : Step} {w w' : Tallies} (h : Effect l w w') {k : Nat} {x' : Wish}
    (hx' : w'.wishes.find k = some x') :
    k = w.nextId ∨ ∃ x, w.wishes.find k = some x ∧ x.productId = x'.productId := by
  have hnew {x : Wish} {t : Table Wish.id} (hid : x.id = w.nextId) (hcreate : w.wishes.create x = some t)
      (hx' : t.find k = some x') : k = w.nextId ∨ ∃ x, w.wishes.find k = some x ∧ x.productId = x'.productId := by
    rw [find_create hcreate] at hx'
    split at hx'
    next hkey => exact .inl (hkey.symm.trans hid)
    next => exact .inr ⟨x', hx', rfl⟩
  cases h with
  | quiet _ _ _ hwishes =>
      rw [hwishes] at hx'
      exact .inr ⟨x', hx', rfl⟩
  | plainWish x t _ hid hcreate => exact hnew hid hcreate hx'
  | heart row existing x t _ _ _ hid hcreate => exact hnew hid hcreate hx'
  | fulfil p f hf _ hproduct =>
      rw [find_updateMany] at hx'
      obtain ⟨x, hx, rfl⟩ := Option.map_eq_some_iff.mp hx'
      refine .inr ⟨x, hx, ?_⟩
      split
      · exact (hproduct x).symm
      · rfl
  | refresh row existing x =>
      rw [find_update] at hx'
      split at hx'
      · obtain ⟨y, hy, rfl⟩ := Option.map_eq_some_iff.mp hx'
        exact .inr ⟨y, hy, rfl⟩
      · exact .inr ⟨x', hx', rfl⟩
  | deleteWish id productId =>
      rw [find_erase] at hx'
      split at hx'
      · cases hx'
      · exact .inr ⟨x', hx', rfl⟩
  | purge userId _ hwishes =>
      rw [hwishes] at hx'
      exact .inr ⟨x', (find_deleteMany.mp hx').1, rfl⟩
  | gifting | product | move | createGift | cancelGift | appreciate | unappreciate => exact .inr ⟨x', hx', rfl⟩

theorem Linked.step {id : Nat} {productId : Option String} {l : Step} {w w' : Tallies} (hact : Effect l w w')
    (h : Linked id productId w) : Linked id productId w' := by
  refine ⟨h.known.trans_le hact.nextId_le, fun x' hx' => ?_⟩
  rcases hact.wish_from hx' with hnew | ⟨x, hx, hproduct⟩
  · exact absurd hnew h.known.ne
  · rw [← hproduct]
    exact h.product x hx

theorem Effect.gift_stays {l : Step} {w w' : Tallies} (h : Effect l w w') {k : String} {g : Gifting.Gift}
    (hg : w.gifting.gifts.find k = some g) :
    ∃ g', w'.gifting.gifts.find k = some g' ∧ g'.productId = g.productId := by
  have hwrite {p : Gifting.Gift → Bool} (u : Gifting.Update) :
      ∃ g', (w.gifting.gifts.updateMany p u.write u.write_id).find k = some g' ∧ g'.productId = g.productId := by
    refine ⟨_, find_updateMany_some u.write_id hg, ?_⟩
    split
    · cases u <;> rfl
    · rfl
  cases h with
  | quiet _ _ _ _ _ hgifts | purge _ _ _ _ hgifts =>
      rw [hgifts]
      exact ⟨g, hg, rfl⟩
  | gifting l g' hside =>
      cases l with
      | read | environment | notify | post =>
          rw [hside.1]
          exact ⟨g, hg, rfl⟩
      | setStatus giftId found pick u =>
          rw [hside.2.2.2]
          exact hwrite u
      | createGift | carrier | shipment => exact hside.elim
  | createGift row g' t _ _ _ hcreate => exact ⟨g, find_create_of_find hcreate hg, rfl⟩
  | cancelGift giftId productId => exact hwrite .cancelled
  | _ => exact ⟨g, hg, rfl⟩

theorem GiftOf.step {giftId : String} {productId : Option String} {l : Step} {w w' : Tallies} (hact : Effect l w w')
    (h : GiftOf giftId productId w) : GiftOf giftId productId w' := by
  obtain ⟨g, hg, hproduct⟩ := h
  obtain ⟨g', hg', hproduct'⟩ := hact.gift_stays hg
  exact ⟨g', hg', hproduct'.trans hproduct⟩

/-! ### Requests -/

/-- A call, whatever the others do. -/
abbrev Acts {α : Type} (x : Service α) (P : α → Tallies → Prop) (w : Tallies) : Prop :=
  x.Ensures (Rely Effect) Effect P w

theorem does_acts {α : Type} {x : Service α} (h : Svc.Does Effect x) {P : Tallies → Prop}
    (hP : ∀ s t, P s → Rely Effect s t → P t) {w : Tallies} (hw : P w) : Acts x (fun _ t => P t) w :=
  Svc.Does.ensures (fun _ _ _ hact => hact) h hP hw

theorem query_does {α : Type} (f : Tallies → α) : Svc.Does Effect (Svc.query .read f : Service α) :=
  Svc.Does.query Effect.read f

theorem ofGifting_does {α : Type} {x : Gifting.Service α} (h : Svc.Does Gifting.Side x) :
    Svc.Does Effect (ofGifting x) :=
  Svc.Does.zoom (fun l _ s hside => .gifting l s hside) h

theorem bestEffort_does {x : Service Unit} (h : Svc.Does Effect x) : Svc.Does Effect (bestEffort x) :=
  Svc.Does.tryCatch h fun _ => Svc.Does.pure _

theorem quiet_of_refused {l : Step} {w : Tallies} (hl : l.Refused w) : Effect l w w := .quiet l hl rfl rfl rfl rfl rfl rfl

theorem refused_of_move {l : Step} {productId : String} {hearts gifts : Int} {w : Tallies}
    (hl : l.move = some (productId, hearts, gifts)) (hnone : w.products.find productId = none) : l.Refused w := by
  cases l <;> cases hl <;> exact hnone

theorem updateProduct_does {l : Step} {productId : String} {hearts gifts : Int}
    (hl : l.move = some (productId, hearts, gifts)) {f : Product → Product} (hf : ∀ p, (f p).id = p.id)
    (hhearts : ∀ p, (f p).wishlistedByCount = p.wishlistedByCount + hearts)
    (hgifts : ∀ p, (f p).giftedByCount = p.giftedByCount + gifts) :
    Svc.Does Effect (Svc.transaction l (updateProduct productId f hf)) := by
  refine Svc.Does.transaction (fun w a w' h => ?_) fun w e h => ?_
  · obtain ⟨r, hr, -, rfl⟩ := Delegate.update_eq_ok.mp h
    exact .move l productId hearts gifts f hf hl (Option.isSome_of_eq_some hr) hhearts hgifts
  · exact quiet_of_refused (refused_of_move hl (Delegate.update_eq_error.mp h).1)

theorem fulfil_does (p : Wish → Bool) (f : Wish → Wish) (hf : ∀ x, (f x).id = x.id)
    (huser : ∀ x, (f x).userId = x.userId) (hproduct : ∀ x, (f x).productId = x.productId) :
    Svc.Does Effect (Svc.transaction .wish (wish.updateMany p f hf) : Service Nat) := by
  refine Svc.Does.transaction (fun w n w' h => ?_) fun w e _ => quiet_of_refused trivial
  obtain ⟨-, rfl⟩ := Delegate.updateMany_eq_ok.mp h
  exact .fulfil p f hf huser hproduct

/-! #### Wishes -/

theorem wishOf_eq_some {userId productId : String} {w : Tallies} {x : Wish} (h : wishOf userId productId w = some x) :
    x ∈ w.wishes.rows ∧ x.userId = userId ∧ x.productId = some productId := by
  have hmatch := List.find?_some h
  simp only [decide_eq_true_eq] at hmatch
  exact ⟨List.mem_of_find?_eq_some h, hmatch⟩

theorem insertWish_eq_ok {row x : Wish} {w w' : Tallies} (h : insertWish row w = .ok (x, w')) :
    ∃ t, w.wishes.create x = some t ∧ w' = { w with nextId := w.nextId + 1, wishes := t } ∧ x.id = w.nextId ∧
      x.productId = row.productId := by
  obtain ⟨id, w₁, hfresh, h⟩ := Tx.bind_eq_ok.mp h
  obtain ⟨now, w₂, hnow, h⟩ := Tx.bind_eq_ok.mp h
  cases hfresh
  obtain ⟨-, rfl⟩ := Tx.read_eq_ok.mp hnow
  obtain ⟨t, ht, -, rfl, rfl⟩ := Delegate.create_eq_ok.mp h
  exact ⟨t, ht, rfl, rfl, rfl⟩

theorem upsertWish_does (row : Wish) (existing : Bool) :
    Svc.Does Effect (Svc.transaction (.upsertWish row existing) (upsertWishTx row)) := by
  refine Svc.Does.transaction (fun w x w' h => ?_) fun w e h => ?_
  · have hok : succeeds (upsertWishTx row) w = true := by
      rw [succeeds, h]
    obtain ⟨found, w₁, hread, h⟩ := Tx.bind_eq_ok.mp h
    obtain ⟨hfound, rfl⟩ := Tx.read_eq_ok.mp hread
    cases found with
    | none =>
        obtain ⟨t, ht, rfl, hid, hproduct⟩ := insertWish_eq_ok h
        exact .heart row existing x t hok hfound hproduct hid ht
    | some y =>
        obtain ⟨r, -, -, rfl⟩ := Delegate.update_eq_ok.mp h
        exact .refresh row existing y hok hfound
  · refine quiet_of_refused ?_
    change succeeds (upsertWishTx row) w = false
    rw [succeeds, h]

theorem countWish_does (id : Nat) (productId : String) : Svc.Does Effect (countWish id productId) := by
  refine Svc.Does.bind (updateProduct_does rfl _ (fun _ => by rfl) fun p => (Int.add_zero _).symm) fun updated => ?_
  split
  · refine bestEffort_does (Svc.Does.bind (query_does _) fun now => Svc.Does.bind ?_ fun _ => Svc.Does.pure _)
    exact updateProduct_does rfl _ (fun p => (Int.add_zero _).symm) fun p => (Int.add_zero _).symm
  · exact Svc.Does.pure _

theorem heartProduct_does (userId productId : String) (body : CreateWishInput) :
    Svc.Does Effect (heartProduct userId productId body) := by
  refine Svc.Does.bind (query_does _) fun product => ?_
  cases product with
  | none => exact Svc.Does.fail _
  | some product =>
      refine Svc.Does.bind (query_does _) fun existing => Svc.Does.bind (upsertWish_does _ _) fun x => ?_
      split
      · exact Svc.Does.pure _
      · exact Svc.Does.bind (countWish_does _ _) fun _ => Svc.Does.pure _

theorem wishFor_does (userId : String) (body : CreateWishInput) : Svc.Does Effect (wishFor userId body) := by
  unfold wishFor
  split
  · exact Svc.Does.fail _
  · refine Svc.Does.bind (Svc.Does.ensure _ _) fun _ => Svc.Does.bind (Svc.Does.ensure _ _) fun _ => ?_
    refine Svc.Does.bind (query_does _) fun existing => ?_
    cases existing with
    | some existing => exact Svc.Does.pure _
    | none =>
        refine Svc.Does.transaction (fun w x w' h => ?_) fun w e _ => quiet_of_refused trivial
        obtain ⟨t, ht, rfl, hid, hproduct⟩ := insertWish_eq_ok h
        exact .plainWish x t hproduct hid ht

theorem createWish_does (userId : String) (body : CreateWishInput) : Svc.Does Effect (createWish userId body) := by
  unfold createWish
  split
  · exact heartProduct_does _ _ _
  · exact wishFor_does _ _

section Wishes

variable {w : Tallies}

theorem deleteWish_acts {id : Nat} {productId : Option String} (h : Linked id productId w) :
    Acts (deleteWish id productId) (fun _ _ => True) w := by
  refine Svc.Ensures.bind (P := fun _ _ => True) (fun t hlater => ?_) fun _ t _ => ?_
  · have hlinked : Linked id productId t := hlater.stable (fun _ _ _ hact hs => Linked.step hact hs) h
    rcases htx : (wish.delete (.error "record to delete does not exist") id : Transaction Wish) t with e | ⟨x, u⟩
    · simp only [htx]
      refine ⟨quiet_of_refused ?_, fun _ _ => trivial⟩
      change t.wishes.find id = none
      unfold Delegate.delete at htx
      split at htx
      next hnone => exact hnone
      next => cases htx
    · simp only [htx]
      obtain ⟨hfound, rfl⟩ := Delegate.delete_eq_ok.mp htx
      exact ⟨.deleteWish id productId hlinked (Option.isSome_of_eq_some hfound), fun _ _ => trivial⟩
  · refine Svc.Ensures.mono (fun _ _ _ => trivial) (does_acts (P := fun _ => True) ?_ (fun _ _ _ _ => trivial) trivial)
    cases productId with
    | none => exact Svc.Does.pure _
    | some productId =>
        refine Svc.Does.bind ?_ fun _ => Svc.Does.pure _
        exact updateProduct_does rfl _ (fun _ => by rfl) fun p => (Int.add_zero _).symm

theorem linked_of_find {id : Nat} {x : Wish} (hw : Issued w) (hx : w.wishes.find id = some x) :
    Linked id x.productId w := by
  refine ⟨?_, fun y hy => ?_⟩
  · have hkey : x.id = id := key_of_find hx
    rw [← hkey]
    exact hw x (mem_of_find hx)
  · rw [hx] at hy
    cases hy
    rfl

theorem removeWish_acts (userId : String) (id : Nat) (hw : Issued w) :
    Acts (removeWish userId id) (fun _ _ => True) w := by
  refine Svc.Ensures.bind (P := fun (found : Option Wish) t => ∀ x, found = some x → Linked id x.productId t)
    (Svc.Ensures.query (fun t _ => Effect.read t) fun t hlater x hx => ?_) fun found t hfound => ?_
  · obtain ⟨hx, -⟩ := Option.filter_eq_some_iff.mp hx
    exact linked_of_find (hlater.stable (fun _ _ _ hact hs => hact.issued hs) hw) hx
  · cases found with
    | none => exact Svc.Ensures.fail
    | some x => exact deleteWish_acts (hfound x rfl)

theorem removeWishByProduct_acts (userId productId : String) (hw : Issued w) :
    Acts (removeWishByProduct userId productId) (fun _ _ => True) w := by
  refine Svc.Ensures.bind (P := fun (found : Option Wish) t => ∀ x, found = some x → Linked x.id (some productId) t)
    (Svc.Ensures.query (fun t _ => Effect.read t) fun t hlater x hx => ?_) fun found t hfound => ?_
  · obtain ⟨hmem, -, hproduct⟩ := wishOf_eq_some hx
    rw [← hproduct]
    exact linked_of_find (hlater.stable (fun _ _ _ hact hs => hact.issued hs) hw) (find_of_mem hmem)
  · cases found with
    | none => exact Svc.Ensures.pure trivial
    | some x => exact deleteWish_acts (hfound x rfl)

end Wishes

/-! #### Gifts -/

theorem createGift_does (row : Gifting.Gift) (hstatus : row.status = .pending_address) :
    Svc.Does Effect (Svc.transaction (.createGift row) (createGiftTx row)) := by
  refine Svc.Does.transaction (fun w x w' h => ?_) fun w e h => ?_
  · have hok : succeeds (createGiftTx row) w = true := by
      rw [succeeds, h]
    obtain ⟨g, htx, rfl⟩ := Tx.zoom_eq_ok.mp h
    simp only [Gifting.createGiftTx, Tx.bind_eq_ok, Tx.read_eq_ok, Tx.ensure_eq_ok] at htx
    obtain ⟨now, _, ⟨rfl, rfl⟩, known, _, ⟨-, rfl⟩, _, _, ⟨-, rfl⟩, created, w₁, hcreate, -, rfl⟩ := htx
    obtain ⟨t, ht, -, -, rfl⟩ := Delegate.create_eq_ok.mp hcreate
    refine .createGift row { row with createdAt := w.gifting.now } t hok rfl ?_ ht
    rw [hstatus]
    decide
  · refine quiet_of_refused ?_
    change succeeds (createGiftTx row) w = false
    rw [succeeds, h]

theorem fulfillWish_does (receiverId productId : String) : Svc.Does Effect (fulfillWish receiverId productId) :=
  bestEffort_does (Svc.Does.bind (query_does _) fun _ =>
    Svc.Does.bind (fulfil_does _ _ _ (fun _ => by rfl) fun _ => by rfl) fun _ => Svc.Does.pure _)

theorem unfulfillWish_does (receiverId productId : String) : Svc.Does Effect (unfulfillWish receiverId productId) :=
  bestEffort_does (Svc.Does.bind (fulfil_does _ _ _ (fun _ => by rfl) fun _ => by rfl) fun _ => Svc.Does.pure _)

theorem countGift_does (giftId productId : String) : Svc.Does Effect (countGift giftId productId) :=
  bestEffort_does (Svc.Does.bind (query_does _) fun _ => Svc.Does.bind
    (updateProduct_does rfl _ (fun p => (Int.add_zero _).symm) fun _ => by rfl) fun _ => Svc.Does.pure _)

theorem uncountGift_does (giftId productId : String) : Svc.Does Effect (uncountGift giftId productId) :=
  bestEffort_does (Svc.Does.bind (updateProduct_does rfl _ (fun p => (Int.add_zero _).symm) fun _ => by rfl) fun _ =>
    Svc.Does.pure _)

theorem answerRace_does (identity : Option (String × String)) (senderId : String) (e : Err) :
    Svc.Does Effect (answerRace identity senderId e) := by
  unfold answerRace
  split
  · refine ofGifting_does (Svc.Does.bind (Gifting.Side.query _) fun winner => ?_)
    cases winner with
    | none => exact Svc.Does.fail _
    | some winner => exact Gifting.Side.replayGift _ _ _
  · exact Svc.Does.fail _

theorem tallyGift_does (row : Gifting.Gift) : Svc.Does Effect (tallyGift row) := by
  unfold tallyGift
  split
  · exact Svc.Does.pure _
  · exact Svc.Does.bind (fulfillWish_does _ _) fun _ => countGift_does _ _

theorem insertGift_does (identity : Option (String × String)) (senderId : String) (row : Gifting.Gift)
    (hstatus : row.status = .pending_address) : Svc.Does Effect (insertGift identity senderId row) := by
  refine Svc.Does.bind (Svc.Does.tryCatch ?_ fun e => ?_) fun written => ?_
  · exact Svc.Does.bind (createGift_does row hstatus) fun _ => Svc.Does.pure _
  · exact Svc.Does.bind (answerRace_does _ _ _) fun _ => Svc.Does.pure _
  · cases written with
    | inr replay => exact Svc.Does.pure _
    | inl created =>
        refine Svc.Does.bind (tallyGift_does row) fun _ => ?_
        exact Svc.Does.bind (ofGifting_does (Gifting.Side.announceGift _)) fun _ => Svc.Does.pure _

section Cities

variable [Shop.Cities]

theorem createNewGift_does (body : Shop.CreateGiftInput) (draft : Gifting.GiftDraft) (candidates : List String)
    (giftId : String) : Svc.Does Effect (createNewGift body draft candidates giftId) := by
  refine Svc.Does.bind (ofGifting_does (Gifting.Side.checkRecipient _)) fun receiverId => ?_
  refine Svc.Does.bind (ofGifting_does (Gifting.Side.checkFastDelivery _ _)) fun _ => ?_
  refine Svc.Does.bind (ofGifting_does (Gifting.Side.checkProduct _)) fun productStoreId => ?_
  refine Svc.Does.bind (ofGifting_does (Gifting.Side.resolveOccasion _ _ _)) fun occasionId => ?_
  refine Svc.Does.bind (ofGifting_does (Gifting.Side.allocateReference _ _)) fun fulfillmentNumber => ?_
  exact insertGift_does _ _ _ rfl

theorem createGiftRequest_does [Runtime] (body : Shop.CreateGiftInput) (viewerUserId : String)
    (idempotencyKey : Option String) (candidates : List String) (giftId : String) :
    Svc.Does Effect (createGift body viewerUserId idempotencyKey candidates giftId) := by
  refine Svc.Does.bind (Svc.Does.ofExcept _) fun media => ?_
  split
  · dsimp only
    split
    · exact createNewGift_does _ _ _ _
    · refine Svc.Does.bind (Svc.Does.ensure _ _) fun _ => ?_
      refine Svc.Does.bind (ofGifting_does (Gifting.Side.query _)) fun existing => ?_
      cases existing with
      | none => exact createNewGift_does _ _ _ _
      | some existing => exact ofGifting_does (Gifting.Side.replayGift _ _ _)
  · exact Svc.Does.fail _

end Cities

theorem untallyGift_does (giftId : String) (g : Gifting.Gift) : Svc.Does Effect (untallyGift giftId g) := by
  unfold untallyGift
  split
  · exact Svc.Does.pure _
  · exact Svc.Does.bind (unfulfillWish_does _ _) fun _ => uncountGift_does _ _

theorem findGift_finds (giftId : String) (w : Tallies) :
    Acts (ofGifting (Gifting.findGiftWithParties giftId)) (fun g t => GiftOf giftId g.gift.productId t) w := by
  have hread : (Gifting.findGiftWithParties giftId).Ensures (fun _ _ => True) Gifting.Side
      (fun g t => t.gifts.find giftId = some g.gift) w.gifting := by
    refine Svc.Ensures.bind
      (P := fun (found : Option Gifting.GiftWithParties) t => ∀ g, found = some g → t.gifts.find giftId = some g.gift)
      (Svc.Ensures.query (fun _ _ => ⟨rfl, rfl⟩) fun t _ g hg => ?_) fun found t hfound => ?_
    · obtain ⟨g', hg', rfl⟩ := Option.map_eq_some_iff.mp hg
      exact hg'
    · cases found with
      | none => exact Svc.Ensures.fail
      | some g => exact Svc.Ensures.pure (hfound g rfl)
  have hzoom : Acts (ofGifting (Gifting.findGiftWithParties giftId))
      (fun g t => t.gifting.gifts.find giftId = some g.gift) w :=
    Svc.Ensures.zoom (L := giftingPart) (fun _ _ _ => trivial) (fun l t s hside => Effect.gifting l s hside) hread
  exact hzoom.mono fun g t hg => ⟨g.gift, hg, rfl⟩

theorem cancelGift_acts (giftId viewerUserId : String) (w : Tallies) :
    Acts (cancelGift giftId viewerUserId) (fun _ _ => True) w := by
  have hdoes {α : Type} {x : Service α} (hx : Svc.Does Effect x) (t : Tallies) : Acts x (fun _ _ => True) t :=
    does_acts (P := fun _ => True) hx (fun _ _ _ _ => trivial) trivial
  refine Svc.Ensures.bind (findGift_finds giftId w) fun g t hg => ?_
  refine Svc.Ensures.bind (P := fun _ => GiftOf giftId g.gift.productId) (Svc.Ensures.ensure fun _ => hg) fun _ t hg => ?_
  split
  · exact Svc.Ensures.pure trivial
  · refine Svc.Ensures.bind (P := fun _ => GiftOf giftId g.gift.productId) (Svc.Ensures.ensure fun _ => hg)
      fun _ t hg => ?_
    refine Svc.Ensures.bind (P := fun _ _ => True) (fun u hlater => ⟨?_, fun _ _ => trivial⟩) fun count u _ =>
      hdoes ?_ u
    · have hgift : GiftOf giftId g.gift.productId u := hlater.stable (fun _ _ _ hact hs => GiftOf.step hact hs) hg
      by_cases hcount : cancelCount giftId u = 0
      · have hsame : (u.gifting.gifts.updateMany
            (fun g => g.id = giftId && (Gifting.Pick.whileIn Gifting.cancellable).takes g.status)
            Gifting.Update.cancelled.write (Gifting.Update.write_id _)) = u.gifting.gifts := updateMany_eq_self hcount
        exact .quiet _ hcount rfl rfl rfl hsame rfl rfl
      · exact .cancelGift giftId _ hgift hcount
    · split
      · exact Svc.Does.bind (ofGifting_does (Gifting.Side.findGiftWithParties _)) fun _ => Svc.Does.pure _
      · refine Svc.Does.bind (untallyGift_does _ _) fun _ => ?_
        refine Svc.Does.bind (ofGifting_does (Gifting.Side.deactivatePosts _)) fun _ => ?_
        refine Svc.Does.bind (ofGifting_does (Gifting.Side.trigger _)) fun _ => ?_
        exact Svc.Does.bind (ofGifting_does (Gifting.Side.findGiftWithParties _)) fun _ => Svc.Does.pure _

/-! #### Appreciations and purges -/

theorem appreciateTx_does (giftPostId userId : String) :
    Svc.Does Effect (Svc.transaction (.appreciate giftPostId userId) (appreciateTx giftPostId userId)) := by
  refine Svc.Does.transaction (fun w n w' h => ?_) fun w e _ => quiet_of_refused trivial
  obtain ⟨now, w₁, hnow, h⟩ := Tx.bind_eq_ok.mp h
  obtain ⟨-, rfl⟩ := Tx.read_eq_ok.mp hnow
  obtain ⟨a, w₂, hcreate, h⟩ := Tx.bind_eq_ok.mp h
  obtain ⟨t, ht, -, -, rfl⟩ := Delegate.create_eq_ok.mp hcreate
  obtain ⟨p, w₃, hupdate, h⟩ := Tx.bind_eq_ok.mp h
  obtain ⟨-, rfl⟩ := Tx.pure_eq_ok.mp h
  obtain ⟨r, hr, -, rfl⟩ := Delegate.update_eq_ok.mp hupdate
  exact .appreciate ⟨giftPostId, userId, _⟩ t ht (Option.isSome_of_eq_some hr)

theorem unappreciateTx_does (giftPostId userId : String) :
    Svc.Does Effect (Svc.transaction (.unappreciate giftPostId userId) (unappreciateTx giftPostId userId)) := by
  refine Svc.Does.transaction (fun w n w' h => ?_) fun w e _ => quiet_of_refused trivial
  obtain ⟨a, w₁, hdelete, h⟩ := Tx.bind_eq_ok.mp h
  obtain ⟨ha, rfl⟩ := Delegate.delete_eq_ok.mp hdelete
  obtain ⟨p, w₂, hupdate, h⟩ := Tx.bind_eq_ok.mp h
  obtain ⟨-, rfl⟩ := Tx.pure_eq_ok.mp h
  obtain ⟨r, hr, -, rfl⟩ := Delegate.update_eq_ok.mp hupdate
  exact .unappreciate giftPostId userId (Option.isSome_of_eq_some ha) (Option.isSome_of_eq_some hr)

theorem appreciate_does (viewerUserId postId : String) : Svc.Does Effect (appreciate viewerUserId postId) := by
  refine Svc.Does.bind (query_does _) fun post => ?_
  cases post with
  | none => exact Svc.Does.fail _
  | some post =>
      refine Svc.Does.bind (Svc.Does.ensure _ _) fun _ => Svc.Does.bind (Svc.Does.ensure _ _) fun _ => ?_
      refine Svc.Does.tryCatch (Svc.Does.bind (appreciateTx_does _ _) fun _ => Svc.Does.pure _) fun e => ?_
      split
      · exact Svc.Does.bind (unappreciateTx_does _ _) fun _ => Svc.Does.pure _
      · exact Svc.Does.fail _

theorem purgeUser_does (viewerUserId targetUserId confirmUsername : String) :
    Svc.Does Effect (purgeUser viewerUserId targetUserId confirmUsername) := by
  refine Svc.Does.bind (Svc.Does.ensure _ _) fun _ => Svc.Does.bind (query_does _) fun target => ?_
  cases target with
  | none => exact Svc.Does.fail _
  | some target =>
      obtain ⟨user, account⟩ := target
      dsimp only
      split
      · exact Svc.Does.pure _
      · refine Svc.Does.bind (Svc.Does.ensure _ _) fun _ => Svc.Does.bind (Svc.Does.ensure _ _) fun _ => ?_
        refine Svc.Does.bind (Svc.Does.ensure _ _) fun _ => Svc.Does.bind (query_does _) fun inflight => ?_
        refine Svc.Does.bind (Svc.Does.ensure _ _) fun _ => Svc.Does.bind (query_does _) fun now => ?_
        refine Svc.Does.bind (Svc.Does.transaction (fun w a w' h => ?_) fun w e h => by cases h) fun _ => Svc.Does.pure _
        rw [purgeTx, Tx.modify_eq_ok] at h
        subst h
        exact .purge targetUserId rfl rfl rfl rfl rfl rfl

section Program

variable [Shop.Cities] [Runtime]

theorem program_acts (c : Call) {w : Tallies} (hw : Issued w) : Acts (program c) (fun _ _ => True) w := by
  have hmap {α : Type} {x : Service α} {f : α → Reply} (hx : Acts x (fun _ _ => True) w) :
      Acts (f <$> x) (fun _ _ => True) w := Svc.Ensures.bind hx fun _ _ _ => Svc.Ensures.pure trivial
  have hdoes {α : Type} {x : Service α} {f : α → Reply} (hx : Svc.Does Effect x) : Acts (f <$> x) (fun _ _ => True) w :=
    hmap (does_acts (P := fun _ => True) hx (fun _ _ _ _ => trivial) trivial)
  cases c with
  | tick elapsed => exact hdoes (ofGifting_does (Gifting.Side.tick elapsed))
  | books b => exact hdoes (ofGifting_does (Gifting.Side.books b))
  | accounts accounts =>
      refine hdoes (Svc.Does.transaction (fun w a w' h => ?_) fun w e h => by cases h)
      rw [Tx.modify_eq_ok] at h
      subst h
      exact .quiet .environment trivial rfl rfl rfl rfl rfl rfl
  | product id name imageUrl price storeId storeName =>
      refine hdoes (Svc.Does.transaction (fun w a w' h => ?_) fun w e _ => quiet_of_refused trivial)
      obtain ⟨t, ht, -, -, rfl⟩ := Delegate.create_eq_ok.mp h
      exact .product _ t rfl rfl ht
  | createWish userId body => exact hdoes (createWish_does userId body)
  | removeWish userId id => exact hmap (removeWish_acts userId id hw)
  | removeWishByProduct userId productId => exact hmap (removeWishByProduct_acts userId productId hw)
  | createGift body viewerUserId idempotencyKey candidates giftId =>
      exact hdoes (createGiftRequest_does body viewerUserId idempotencyKey candidates giftId)
  | confirmAddress giftId viewerUserId addressId =>
      exact hdoes (ofGifting_does (Gifting.Side.confirmAddress giftId viewerUserId addressId))
  | cancelGift giftId viewerUserId => exact hmap (cancelGift_acts giftId viewerUserId w)
  | publish viewerUserId input postId drawn =>
      exact hdoes (ofGifting_does (Gifting.Side.publish viewerUserId input postId drawn))
  | appreciate viewerUserId postId => exact hdoes (appreciate_does viewerUserId postId)
  | purgeUser viewerUserId targetUserId confirmUsername =>
      exact hdoes (purgeUser_does viewerUserId targetUserId confirmUsername)

theorem Run.path {tr : List (Event Tallies Step)} {cfg : Config Tallies Step (Except Err Reply)} (h : Run tr cfg) :
    Path Effect empty tr cfg.state :=
  (Exec.path (Q := fun _ _ => True) (fun _ _ _ _ _ => trivial)
    (fun c _ hs => (program_acts c (issued_of_rely hs)).meets) h).1

end Program

end Qift.Tallies
