import Qift.Gifting.Journey
import Qift.Gifting.Side
import Qift.Gifting.Writes
import Qift.Lib.Zoom

/-!
# The posts of a cancelled gift

`publish`, `unpublish`, `setVisibility`, `confirmAddress` and `cancel`, interleaved.

* `PostStep` tells the post written by `publish` and the taking down of `cancel` from the other writes;
  `postProgram` is the service under these labels, and `PostEffect` is what an action does.
* `cancellations` and `takeDowns` count the two halves of `cancel`: no gift is taken down more often than it was
  cancelled, and once no call is in progress as often.
* **`PostRun.unadvertised`** — if `publish` puts up a post of a cancelled gift only while a call that cancelled it has
  still to take its posts down, then once no call is in progress a cancelled gift has no public post, and never gets
  one.
* `PostRun.advertised` — otherwise it may: `publish` checks the status some actions before it writes.
-/

namespace Qift.Gifting

open Relational Relational.Table Interleaving

/-! ### The calls and their labels -/

inductive PostCall
  | tick (elapsed : Nat)
  | publish (viewerUserId : String) (input : PublishInput) (postId : String) (drawn : List String)
  | unpublish (viewerUserId postId : String)
  | setVisibility (viewerUserId postId visibility : String)
  | cancel (giftId viewerUserId : String)
  | confirmAddress (giftId viewerUserId : String) (addressId : Option String)

def PostCall.call : PostCall → Call
  | tick elapsed => .tick elapsed
  | publish viewerUserId input postId drawn => .publish viewerUserId input postId drawn
  | unpublish viewerUserId postId => .unpublish viewerUserId postId
  | setVisibility viewerUserId postId visibility => .setVisibility viewerUserId postId visibility
  | cancel giftId viewerUserId => .cancel giftId viewerUserId
  | confirmAddress giftId viewerUserId addressId => .confirmAddress giftId viewerUserId addressId

/-- An atomic action, with the two kinds of writes of posts that decide whether a gift is shown. -/
inductive PostStep
  /-- `publish` writes a post of the gift. -/
  | publish (giftId : String)
  /-- `cancel` takes the posts of the gift down. -/
  | takeDown (giftId : String)
  | other (l : Step)
  deriving DecidableEq

def PublishInput.gift (input : PublishInput) : String := (Shop.trimOrNull input.giftId).getD ""

def PostCall.label (c : PostCall) (l : Step) : PostStep :=
  match c, l with
  | publish _ input _ _, .post => .publish input.gift
  | cancel giftId _, .post => .takeDown giftId
  | _, l => .other l

section Program

variable [Shop.Cities] [Runtime]

def postProgram (c : PostCall) : Svc Gifting PostStep Err Reply :=
  Svc.zoom (Lens.whole Gifting) c.label (program c.call)

/-- Any interleaving of the calls, from any database. -/
abbrev PostRun (init : Gifting) (tr : List (Event Gifting PostStep))
    (cfg : Config Gifting PostStep (Except Err Reply)) : Prop := Exec postProgram init tr cfg

end Program

/-! ### Cancelled gifts and their posts -/

/-- The stored gift is cancelled. -/
abbrev Cancelled (giftId : String) (w : Gifting) : Prop :=
  (w.gifts.find giftId).any (fun g => g.status = .cancelled) = true

/-- Every post of the gift is taken down. -/
abbrev Dark (giftId : String) (w : Gifting) : Prop :=
  ∀ p ∈ w.posts.rows, p.giftId = giftId → p.deactivatedAt ≠ none

/-- No post of the gift is open to third parties. -/
abbrev Unadvertised (giftId : String) (w : Gifting) : Prop :=
  ∀ p ∈ w.posts.rows, p.giftId = giftId → p.isPublic = false

theorem Cancelled.gift {giftId : String} {w : Gifting} (h : Cancelled giftId w) :
    ∃ g, w.gifts.find giftId = some g ∧ g.status = .cancelled := by
  obtain ⟨g, hg, hstatus⟩ := (Option.any_eq_true _ _).mp h
  exact ⟨g, hg, of_decide_eq_true hstatus⟩

theorem Cancelled.of_gift {giftId : String} {w : Gifting} {g : Gift} (hg : w.gifts.find giftId = some g)
    (hstatus : g.status = .cancelled) : Cancelled giftId w := by
  rw [Cancelled, hg]
  exact decide_eq_true hstatus

theorem Dark.hidden {giftId : String} {w : Gifting} (h : Dark giftId w) : Unadvertised giftId w := by
  intro p hp hgift
  rw [GiftPost.isPublic, decide_eq_false (h p hp hgift), Bool.and_false]

/-! ### What an action does -/

def SameGift (p p' : GiftPost) : Prop := p'.giftId = p.giftId

theorem SameGift.refl (p : GiftPost) : SameGift p p := rfl

/-- The stored posts stay, each of its gift. -/
def PostsStand (s t : Gifting) : Prop := s.posts.Evolves SameGift t.posts

theorem PostsStand.refl (s : Gifting) : PostsStand s s := Evolves.refl SameGift.refl s.posts

theorem PostsStand.of_rely {s t : Gifting} (h : Rely (fun _ : Step => PostsStand) s t) : PostsStand s t := by
  induction h with
  | refl => exact PostsStand.refl s
  | tail _ hact ih =>
      obtain ⟨-, hstand⟩ := hact
      exact Evolves.trans (fun _ _ _ hab hbc => hbc.trans hab) ih hstand

/-- The posts of the gift may be written; those of others are as they were. -/
def Publishes (giftId : String) (s t : Gifting) : Prop :=
  PostsStand s t ∧ ∀ p ∈ t.posts.rows, p.giftId = giftId ∨ p ∈ s.posts.rows

/-- What an action does to the gifts and their posts. -/
def PostEffect (l : PostStep) (s t : Gifting) : Prop :=
  match l with
  | .publish giftId => t.gifts = s.gifts ∧ Publishes giftId s t
  | .takeDown giftId => t.gifts = s.gifts ∧ TakesDown giftId s t
  | .other l => Writes Rewrites (fun id found pick u => Confirms id id found pick u ∨ Cancels id id found pick u) l s t

theorem TakesDown.stand {giftId : String} {s t : Gifting} (h : TakesDown giftId s t) : PostsStand s t := by
  obtain ⟨now, hposts⟩ := h
  rw [PostsStand, hposts]
  exact Evolves.updateMany SameGift.refl rfl (fun _ => rfl) fun p _ _ => SameGift.refl p

theorem Rewrites.stand {s t : Gifting} (h : Rewrites s t) : PostsStand s t := by
  obtain ⟨id, f, hf, hkeep, hposts⟩ := h
  rw [PostsStand, hposts]
  exact Evolves.updateMany SameGift.refl rfl hf fun p _ _ => (hkeep p).1

theorem TakesDown.post {giftId : String} {s t : Gifting} (h : TakesDown giftId s t) {p : GiftPost}
    (hp : p ∈ t.posts.rows) : p.deactivatedAt ≠ none ∨ p ∈ s.posts.rows ∧ p.giftId ≠ giftId := by
  obtain ⟨now, hposts⟩ := h
  rw [hposts] at hp
  obtain ⟨q, hq, rfl⟩ := mem_updateMany.mp hp
  by_cases htaken : q.giftId = giftId ∧ q.deactivatedAt = none
  · rw [if_pos (decide_eq_true htaken)]
    exact .inl (Option.some_ne_none now)
  · rw [if_neg (by simpa using htaken)]
    by_cases hgift : q.giftId = giftId
    · exact .inl fun hup => htaken ⟨hgift, hup⟩
    · exact .inr ⟨hq, hgift⟩

theorem Rewrites.post {s t : Gifting} (h : Rewrites s t) {p : GiftPost} (hp : p ∈ t.posts.rows) :
    ∃ q ∈ s.posts.rows, p.giftId = q.giftId ∧ p.deactivatedAt = q.deactivatedAt := by
  obtain ⟨id, f, hf, hkeep, hposts⟩ := h
  rw [hposts] at hp
  obtain ⟨q, hq, rfl⟩ := of_mem_updateMany hf hp
  refine ⟨q, hq, ?_⟩
  split
  · exact hkeep q
  · exact ⟨rfl, rfl⟩

theorem Writes.stand {posts : Gifting → Gifting → Prop} {statuses : String → GiftStatus → Pick → Update → Prop}
    (hposts : ∀ s t, posts s t → PostsStand s t) {l : Step} {s t : Gifting} (h : Writes posts statuses l s t) :
    PostsStand s t := by
  have hsame (heq : t.posts = s.posts) : PostsStand s t := by
    rw [PostsStand, heq]
    exact Evolves.refl SameGift.refl _
  cases l with
  | read | notify | environment => exact hsame h.2
  | post => exact hposts s t h.2
  | setStatus giftId found pick u => exact hsame h.2.1
  | createGift | carrier | shipment => exact h.elim

theorem PostEffect.stand {l : PostStep} {s t : Gifting} (h : PostEffect l s t) : PostsStand s t := by
  cases l with
  | publish giftId => exact h.2.1
  | takeDown giftId => exact h.2.stand
  | other l => exact Writes.stand (fun _ _ => Rewrites.stand) h

/-! ### What a call writes -/

/-- The post under an identifier is one of the gift. -/
def PostOf (giftId id : String) (w : Gifting) : Prop := ∃ p, w.posts.find id = some p ∧ p.giftId = giftId

theorem PostOf.later {giftId id : String} {s t : Gifting} (h : PostOf giftId id s) (hstand : PostsStand s t) :
    PostOf giftId id t := by
  obtain ⟨p, hp, hgift⟩ := h
  obtain ⟨p', hp', hsame⟩ := hstand id p hp
  exact ⟨p', hp', hsame.trans hgift⟩

theorem postOf_found {giftId viewerUserId : String} {w : Gifting} {p : GiftPost}
    (h : postOf giftId viewerUserId w = some p) : PostOf giftId p.id w := by
  have hp := List.find?_some h
  exact ⟨p, find_of_mem (List.mem_of_find?_eq_some h), (of_decide_eq_true hp).1⟩

theorem Publishes.update {giftId id : String} {s : Gifting} (h : PostOf giftId id s) {f : GiftPost → GiftPost}
    {hf : ∀ p, (f p).id = p.id} (hgift : ∀ p, (f p).giftId = p.giftId) :
    Publishes giftId s { s with posts := s.posts.updateMany (fun p => p.id = id) f hf } := by
  refine ⟨Evolves.updateMany SameGift.refl rfl hf fun p _ _ => hgift p, fun p hp => ?_⟩
  obtain ⟨q, hq, rfl⟩ := of_mem_updateMany hf hp
  split
  next hid =>
    obtain ⟨q', hq', hof⟩ := h
    have hkey : q.id = id := of_decide_eq_true hid
    rw [← hkey, find_of_mem hq] at hq'
    cases hq'
    exact .inl ((hgift q).trans hof)
  next => exact .inr hq

theorem Publishes.create {s : Gifting} {row : GiftPost} {posts : Table GiftPost.id}
    (h : s.posts.create row = some posts) : Publishes row.giftId s { s with posts := posts } := by
  refine ⟨Evolves.create SameGift.refl h, fun p hp => ?_⟩
  rcases (mem_create h).mp hp with hold | rfl
  · exact .inr hold
  · exact .inl rfl

theorem Publishes.refl (giftId : String) (s : Gifting) : Publishes giftId s s :=
  ⟨PostsStand.refl s, fun _ hp => .inr hp⟩

/-- What the other calls leave of the posts. -/
abbrev Standing : Gifting → Gifting → Prop := Rely fun _ : Step => PostsStand

theorem ensures_standing {A : Step → Gifting → Gifting → Prop} {α : Type} {x : Service α} (h : Svc.Does A x)
    (s : Gifting) : x.Ensures Standing A (fun _ _ => True) s :=
  Prog.Meets.weaken_rely (fun _ _ _ => trivial) (h s)

theorem ensures_postOf {giftId id : String} {α : Type} {x : Service α}
    (h : Svc.Does (Writes (Publishes giftId) WritesNoStatus) x) {s : Gifting} (hs : PostOf giftId id s) :
    x.Ensures Standing (Writes (Publishes giftId) WritesNoStatus) (fun _ t => PostOf giftId id t) s :=
  Svc.Does.ensures (E := fun _ => PostsStand) (fun _ _ _ => Writes.stand fun _ _ hpub => hpub.1) h
    (fun _ _ hof hrely => hof.later (PostsStand.of_rely hrely)) hs

theorem rewritePost_ensures {giftId id : String} {f : GiftPost → GiftPost} {hf : ∀ p, (f p).id = p.id}
    (hgift : ∀ p, (f p).giftId = p.giftId) {s : Gifting} (hs : PostOf giftId id s) :
    (updatePost id f hf).Ensures Standing (Writes (Publishes giftId) WritesNoStatus) (fun _ _ => True) s := by
  refine Svc.Ensures.bind (P := fun _ _ => True) ?_ fun written t _ => ?_
  · refine Svc.Ensures.transaction (fun t _ => ⟨rfl, Publishes.refl giftId t⟩) fun t a u ht htx => ⟨?_, trivial⟩
    obtain ⟨n, w₁, hset, hread⟩ := Tx.bind_eq_ok.mp htx
    obtain ⟨-, rfl⟩ := Tx.read_eq_ok.mp hread
    obtain ⟨-, rfl⟩ := Delegate.updateMany_eq_ok.mp hset
    exact ⟨rfl, Publishes.update (hs.later (PostsStand.of_rely ht)) hgift⟩
  · cases written with
    | none => exact Svc.Ensures.fail
    | some post => exact Svc.Ensures.pure trivial

theorem createPost_writes (row : GiftPost) :
    Svc.Does (Writes (Publishes row.giftId) WritesNoStatus)
      (Svc.transaction .post (giftPost.create (.p2002 "GiftPost") row) : Service GiftPost) := by
  refine Svc.Does.transaction (fun w a w' h => ?_) fun w _ _ => ⟨rfl, Publishes.refl _ w⟩
  obtain ⟨t, ht, -, -, rfl⟩ := Delegate.create_eq_ok.mp h
  exact ⟨rfl, Publishes.create ht⟩

/-- Whatever the others do, `publish` writes posts of its gift only. -/
theorem publish_ensures (viewerUserId : String) (input : PublishInput) (postId : String) (drawn : List String)
    (s : Gifting) : (publish viewerUserId input postId drawn).Ensures Standing
      (Writes (Publishes input.gift) WritesNoStatus) (fun _ _ => True) s := by
  rw [publish]
  cases hinput : Shop.trimOrNull input.giftId with
  | none => exact Svc.Ensures.fail
  | some giftId =>
      have hgift : input.gift = giftId := by rw [PublishInput.gift, hinput, Option.getD_some]
      rw [hgift]
      refine Svc.Ensures.bind (ensures_standing (Svc.Does.ensure _ _) s) fun _ s _ => ?_
      refine Svc.Ensures.bind (ensures_standing (Writes.findGift giftId) s) fun g s _ => ?_
      refine Svc.Ensures.bind (ensures_standing (Svc.Does.ofExcept _) s) fun direction s _ => ?_
      refine Svc.Ensures.bind (ensures_standing (Svc.Does.ensure _ _) s) fun _ s _ => ?_
      refine Svc.Ensures.bind (P := fun found t => ∀ p, found = some p → PostOf giftId p.id t)
        (Svc.Ensures.query (fun _ _ => ⟨rfl, rfl⟩) fun t _ p hp => postOf_found hp) fun existing s hfound => ?_
      cases existing with
      | none =>
          refine ensures_standing ?_ s
          refine Svc.Does.bind (Writes.generateUniqueSlug _ _) fun slug => Svc.Does.bind (Writes.query _) fun now => ?_
          exact createPost_writes _
      | some existing =>
          have hlast (slug : String) (t : Gifting) (ht : PostOf giftId existing.id t) :
              Svc.Ensures Standing (Writes (Publishes giftId) WritesNoStatus) (fun _ _ => True) (do
                let now ← dateNow
                updatePost existing.id fun p =>
                  { p with
                    publishedAt := some now
                    publicSlug := some slug
                    visibility := input.visibility.getD "public"
                    deactivatedAt := none
                    deactivatedReason := none } : Service GiftPost) t :=
            Svc.Ensures.bind (ensures_postOf (Writes.query _) ht) fun now u hu =>
              rewritePost_ensures (fun _ => by rfl) hu
          dsimp only
          split
          · exact Svc.Ensures.pure trivial
          · cases existing.publicSlug with
            | some slug => exact hlast slug s (hfound _ rfl)
            | none =>
                exact Svc.Ensures.bind (ensures_postOf (Writes.generateUniqueSlug _ _) (hfound _ rfl))
                  fun slug t ht => hlast slug t ht

/-- What a call does, under its own labels. -/
def PostCall.Act : PostCall → Step → Gifting → Gifting → Prop
  | tick _ | unpublish _ _ | setVisibility _ _ _ => Writes Rewrites WritesNoStatus
  | publish _ input _ _ => Writes (Publishes input.gift) WritesNoStatus
  | cancel giftId _ => Writes (TakesDown giftId) (Cancels giftId)
  | confirmAddress giftId _ _ => Writes (fun _ _ => False) (Confirms giftId)

theorem PostCall.Act.effect {c : PostCall} {l : Step} {s t : Gifting} (h : c.Act l s t) :
    PostEffect (c.label l) s t := by
  have hnone {giftId : String} {found : GiftStatus} {pick : Pick} {u : Update}
      (hno : WritesNoStatus giftId found pick u) :
      Confirms giftId giftId found pick u ∨ Cancels giftId giftId found pick u := hno.elim
  cases c with
  | tick | unpublish | setVisibility => exact Writes.mono (fun _ _ => id) (fun _ _ _ _ => hnone) l s t h
  | publish viewerUserId input postId drawn =>
      cases l with
      | post => exact h
      | read | notify | environment | createGift | carrier | shipment => exact h
      | setStatus => exact ⟨hnone h.1, h.2⟩
  | cancel giftId viewerUserId =>
      cases l with
      | post => exact h
      | read | notify | environment | createGift | carrier | shipment => exact h
      | setStatus =>
          obtain ⟨hid, hwrite⟩ := h.1
          exact ⟨.inr ⟨rfl, hwrite⟩, h.2⟩
  | confirmAddress giftId viewerUserId addressId =>
      refine Writes.mono (fun _ _ => False.elim) (fun id found pick u hconfirms => ?_) l s t h
      obtain ⟨hid, hwrite⟩ := hconfirms
      exact .inl ⟨rfl, hwrite⟩

section Calls

variable [Shop.Cities] [Runtime]

theorem call_ensures (c : PostCall) (s : Gifting) :
    (program c.call).Ensures Standing c.Act (fun _ _ => True) s := by
  have hmap {α : Type} {x : Service α} {f : α → Reply} (hx : x.Ensures Standing c.Act (fun _ _ => True) s) :
      (f <$> x).Ensures Standing c.Act (fun _ _ => True) s :=
    Svc.Ensures.bind hx fun _ _ _ => Svc.Ensures.pure trivial
  cases c with
  | tick elapsed =>
      refine ensures_standing (Svc.Does.bind (Svc.Does.transaction (fun w a w' h => ?_) fun _ _ _ => ?_) fun _ =>
        Svc.Does.pure _) s
      · rw [tickTx, Tx.modify_eq_ok] at h
        subst h
        exact ⟨rfl, rfl⟩
      · exact ⟨rfl, rfl⟩
  | publish viewerUserId input postId drawn => exact hmap (publish_ensures viewerUserId input postId drawn s)
  | unpublish viewerUserId postId => exact hmap (ensures_standing (Writes.unpublish _ _) s)
  | setVisibility viewerUserId postId visibility =>
      exact hmap (ensures_standing (Writes.setVisibility _ _ _) s)
  | cancel giftId viewerUserId => exact hmap (ensures_standing (Writes.cancel _ _) s)
  | confirmAddress giftId viewerUserId addressId =>
      exact hmap (ensures_standing (Writes.confirmAddress _ _ _) s)

theorem postProgram_meets (c : PostCall) (s : Gifting) :
    (postProgram c).Meets (Rely PostEffect) PostEffect (fun _ _ => True) s := by
  have hrely (t t' : Gifting) (h : Rely PostEffect t t') : Standing t t' :=
    h.relabel fun _ _ _ hact => ⟨.read, PostEffect.stand hact⟩
  exact (Svc.Ensures.zoom (L := Lens.whole Gifting) hrely (fun l t u hact => PostCall.Act.effect hact)
    (call_ensures c s)).meets

theorem PostRun.path {init : Gifting} {tr : List (Event Gifting PostStep)}
    {cfg : Config Gifting PostStep (Except Err Reply)} (h : PostRun init tr cfg) : Path PostEffect init tr cfg.state :=
  (Exec.path (fun _ _ _ _ _ => trivial) (fun c s _ => postProgram_meets c s) h).1

end Calls

/-! ### A cancelled gift whose posts are down -/

/-- The action neither publishes the gift nor sets its status unasked. -/
def Spares (giftId : String) : PostStep → Prop
  | .publish id => id ≠ giftId
  | .other (.setStatus id _ .byId _) => id ≠ giftId
  | _ => True

theorem PostEffect.cancelled {giftId : String} {l : PostStep} {s t : Gifting} (h : PostEffect l s t)
    (hspares : Spares giftId l) (hs : Cancelled giftId s) : Cancelled giftId t := by
  have hsame (heq : t.gifts = s.gifts) : Cancelled giftId t := by rwa [Cancelled, heq]
  cases l with
  | publish | takeDown => exact hsame h.1
  | other l =>
      cases l with
      | read | notify | environment | post => exact hsame h.1
      | createGift | carrier | shipment => exact h.elim
      | setStatus id found pick u =>
          obtain ⟨hcall, -, hgifts⟩ := h
          obtain ⟨g, hg, hstatus⟩ := hs.gift
          -- the write takes no gift under this identifier that is cancelled
          have hnot : (g.id = id && pick.takes g.status) = false := by
            rcases hcall with ⟨-, -, rfl, -⟩ | ⟨-, rfl, -⟩
            · have hid : g.id ≠ id := fun hid => hspares (hid.symm.trans (key_of_find hg))
              simp [hid]
            · rw [hstatus, Bool.and_eq_false_iff]
              exact .inr (by decide)
          have hrow := find_updateMany_some (p := fun g => g.id = id && pick.takes g.status) u.write_id hg
          rw [hnot, if_neg Bool.false_ne_true, ← hgifts] at hrow
          exact Cancelled.of_gift hrow hstatus

theorem PostEffect.dark {giftId : String} {l : PostStep} {s t : Gifting} (h : PostEffect l s t)
    (hl : l ≠ .publish giftId) (hs : Dark giftId s) : Dark giftId t := by
  have hsame (heq : t.posts = s.posts) : Dark giftId t := by rwa [Dark, heq]
  cases l with
  | publish id =>
      intro p hp hgift
      rcases h.2.2 p hp with hid | hold
      · exact absurd (congrArg PostStep.publish (hid.symm.trans hgift)) hl
      · exact hs p hold hgift
  | takeDown id =>
      intro p hp hgift
      rcases h.2.post hp with hdown | ⟨hold, -⟩
      · exact hdown
      · exact hs p hold hgift
  | other l =>
      cases l with
      | read | notify | environment => exact hsame h.2
      | createGift | carrier | shipment => exact h.elim
      | setStatus id found pick u => exact hsame h.2.1
      | post =>
          intro p hp hgift
          obtain ⟨q, hq, hsamegift, hdown⟩ := Rewrites.post h.2 hp
          rw [hdown]
          exact hs q hq (hsamegift.symm.trans hgift)

theorem PostEffect.takeDown {giftId : String} {s t : Gifting} (h : PostEffect (.takeDown giftId) s t) :
    Dark giftId t := by
  intro p hp hgift
  rcases h.2.post hp with hdown | ⟨-, hother⟩
  · exact hdown
  · exact absurd hgift hother

/-- The gift a call would bring back. -/
def PostCall.target : PostCall → Option String
  | publish _ input _ _ => some input.gift
  | confirmAddress giftId _ _ => some giftId
  | tick _ | unpublish _ _ | setVisibility _ _ _ | cancel _ _ => none

theorem PostCall.Act.spares {c : PostCall} {giftId : String} (htarget : c.target ≠ some giftId) {l : Step}
    {s t : Gifting} (h : c.Act l s t) : Spares giftId (c.label l) := by
  cases c with
  | tick | unpublish | setVisibility =>
      cases l with
      | setStatus => exact h.1.elim
      | read | notify | environment | createGift | carrier | shipment | post => trivial
  | publish viewerUserId input postId drawn =>
      cases l with
      | setStatus => exact h.1.elim
      | post => exact fun hgift => htarget (congrArg some hgift)
      | read | notify | environment | createGift | carrier | shipment => trivial
  | cancel id viewerUserId =>
      cases l with
      | setStatus giftId found pick u =>
          obtain ⟨-, rfl, -⟩ := h.1
          trivial
      | read | notify | environment | createGift | carrier | shipment | post => trivial
  | confirmAddress id viewerUserId addressId =>
      cases l with
      | setStatus giftId found pick u =>
          obtain ⟨rfl, -, rfl, -⟩ := h.1
          exact fun hgift => htarget (congrArg some hgift)
      | read | notify | environment | createGift | carrier | shipment | post => trivial

/-- The call writes neither a post nor a status. -/
abbrev Idle : Step → Gifting → Gifting → Prop := Writes (fun _ _ => False) WritesNoStatus

theorem Idle.effect {l : Step} {s t : Gifting} (h : Idle l s t) (c : PostCall) (giftId : String) :
    PostEffect (c.label l) s t ∧ Spares giftId (c.label l) := by
  cases l with
  | read | notify | environment => cases c <;> exact ⟨h, trivial⟩
  | post => exact h.2.elim
  | setStatus => exact h.1.elim
  | createGift | carrier | shipment => exact h.elim

/-- What the other calls leave of a cancelled gift. -/
abbrev Resting (giftId : String) : Gifting → Gifting → Prop :=
  Rely fun (_ : Step) s t => Cancelled giftId s → Cancelled giftId t

theorem Resting.cancelled {giftId : String} {s t : Gifting} (h : Resting giftId s t) (hs : Cancelled giftId s) :
    Cancelled giftId t := Rely.stable (fun _ _ _ hact => hact) h hs

theorem ensures_resting {giftId : String} {A : Step → Gifting → Gifting → Prop} {α : Type} {x : Service α}
    (h : Svc.Does A x) (s : Gifting) : x.Ensures (Resting giftId) A (fun _ _ => True) s :=
  Prog.Meets.weaken_rely (fun _ _ _ => trivial) (h s)

theorem findGift_ensures {giftId : String} {s : Gifting} (hs : Cancelled giftId s) :
    (findGift giftId).Ensures (Resting giftId) Idle (fun g _ => g.status = .cancelled) s := by
  refine Svc.Ensures.bind (P := fun found _ => ∀ g, found = some g → g.status = .cancelled)
    (Svc.Ensures.query (fun _ _ => ⟨rfl, rfl⟩) fun t ht g hg => ?_) fun found t hfound => ?_
  · obtain ⟨x, hx, hstatus⟩ := (ht.cancelled hs).gift
    rw [hx] at hg
    cases hg
    exact hstatus
  · cases found with
    | none => exact Svc.Ensures.fail
    | some g => exact Svc.Ensures.pure (hfound g rfl)

section Calls

variable [Shop.Cities] [Runtime]

theorem call_idle {c : PostCall} {giftId : String} (htarget : c.target = some giftId) {s : Gifting}
    (hs : Cancelled giftId s) : (program c.call).Ensures (Resting giftId) Idle (fun _ _ => True) s := by
  cases c with
  | tick | unpublish | setVisibility | cancel => cases htarget
  | publish viewerUserId input postId drawn =>
      refine Svc.Ensures.bind (P := fun _ _ => True) ?_ fun _ _ _ => Svc.Ensures.pure trivial
      rw [publish]
      cases hinput : Shop.trimOrNull input.giftId with
      | none => exact Svc.Ensures.fail
      | some id =>
          obtain rfl : id = giftId := by
            cases htarget
            rw [PublishInput.gift, hinput, Option.getD_some]
          refine Svc.Ensures.bind (P := fun _ t => Cancelled id t) (Svc.Ensures.ensure fun _ => hs) fun _ s hs => ?_
          refine Svc.Ensures.bind (findGift_ensures hs) fun g s hg => ?_
          refine Svc.Ensures.bind (ensures_resting (Svc.Does.ofExcept _) s) fun direction s _ => ?_
          -- the gift that was read is cancelled, and so the call ends here
          rw [Svc.ensure, if_neg (not_not.mpr hg)]
          exact Svc.Ensures.fail
  | confirmAddress id viewerUserId addressId =>
      cases htarget
      refine Svc.Ensures.bind (P := fun _ _ => True) ?_ fun _ _ _ => Svc.Ensures.pure trivial
      refine Svc.Ensures.bind (findGift_ensures hs) fun g s hg => ?_
      refine Svc.Ensures.bind (ensures_resting (Svc.Does.ensure _ _) s) fun _ s _ => ?_
      have hmoved : g.status ≠ .pending_address := by
        rw [hg]
        decide
      rw [if_pos hmoved]
      exact ensures_resting (Svc.Does.bind (Writes.findGiftWithParties _) fun fresh =>
        Svc.Does.bind (Writes.query _) fun _ => Svc.Does.pure _) s

/-- An action that leaves a cancelled gift alone. -/
abbrev Lasts (giftId : String) (l : PostStep) (s t : Gifting) : Prop := PostEffect l s t ∧ Spares giftId l

theorem postProgram_lasts (c : PostCall) {giftId : String} {s : Gifting} (hs : Cancelled giftId s) :
    (postProgram c).Meets (Rely (Lasts giftId)) (Lasts giftId) (fun _ _ => True) s := by
  by_cases htarget : c.target = some giftId
  · have hrely (t t' : Gifting) (h : Rely (Lasts giftId) t t') : Resting giftId t t' :=
      h.relabel fun _ _ _ hact => ⟨.read, hact.1.cancelled hact.2⟩
    exact (Svc.Ensures.zoom (L := Lens.whole Gifting) hrely (fun l t u hact => Idle.effect hact c giftId)
      (call_idle htarget hs)).meets
  · have hrely (t t' : Gifting) (h : Rely (Lasts giftId) t t') : Standing t t' :=
      h.relabel fun _ _ _ hact => ⟨.read, hact.1.stand⟩
    exact (Svc.Ensures.zoom (L := Lens.whole Gifting) hrely
      (fun l t u hact => ⟨PostCall.Act.effect hact, PostCall.Act.spares htarget hact⟩) (call_ensures c s)).meets

/-- **From then on**: a cancelled gift whose posts are down stays so. -/
theorem PostRun.stays {giftId : String} {init : Gifting} {tr : List (Event Gifting PostStep)}
    {cfg : Config Gifting PostStep (Except Err Reply)} (h : PostRun init tr cfg) (hcancelled : Cancelled giftId init)
    (hdark : Dark giftId init) : Dark giftId cfg.state := by
  have hkeep (l : PostStep) (s t : Gifting) (hact : Lasts giftId l s t) (hs : Cancelled giftId s) :
      Cancelled giftId t := hact.1.cancelled hact.2 hs
  have hpath := (Exec.path (A := Lasts giftId) (fun _ _ _ _ _ => trivial)
    (fun c s hrely => postProgram_lasts c (Rely.stable hkeep hrely hcancelled)) h).1
  refine hpath.invariant (C := fun _ => True) (fun l s t hact _ hs => hact.1.dark ?_ hs) (fun _ _ => trivial) hdark
  rintro rfl
  exact hact.2 rfl

end Calls

/-! ### The two halves of a cancellation -/

/-- The action cancels the gift. -/
def cancels (giftId : String) (l : PostStep) (w : Gifting) : Bool :=
  match l with
  | .other (.setStatus id _ pick u) =>
      id = giftId && u.target = .cancelled && (w.gifts.find giftId).any (fun g => pick.takes g.status)
  | _ => false

def takesDown (giftId : String) (l : PostStep) (_ : Gifting) : Bool := l = .takeDown giftId

abbrev cancellations (giftId : String) (tr : List (Event Gifting PostStep)) : Nat :=
  tr.countP fun e => cancels giftId e.lbl e.pre

abbrev takeDowns (giftId : String) (tr : List (Event Gifting PostStep)) : Nat :=
  tr.countP fun e => takesDown giftId e.lbl e.pre

theorem updateMany_takes {giftId : String} {pick : Pick} {w : Gifting} :
    w.gifts.count (fun g => g.id = giftId && pick.takes g.status) ≠ 0 ↔
      (w.gifts.find giftId).any (fun g => pick.takes g.status) = true := by
  constructor
  · intro hcount
    obtain ⟨g, hg, htakes⟩ := count_pos (fun g hq => of_decide_eq_true (Bool.and_eq_true_iff.mp hq).1) hcount
    rw [hg]
    exact (Bool.and_eq_true_iff.mp htakes).2
  · intro htakes
    obtain ⟨g, hg, hpick⟩ := (Option.any_eq_true _ _).mp htakes
    have hmatch : (decide (g.id = giftId) && pick.takes g.status) = true := by
      rw [decide_eq_true (key_of_find hg), hpick, Bool.and_self]
    exact (List.countP_pos_iff.mpr ⟨g, mem_of_find hg, hmatch⟩).ne'

theorem Side.free {giftId : String} {c : PostCall} (hc : ∀ id viewerUserId, c ≠ .cancel id viewerUserId) {l : Step}
    {s t : Gifting} (h : Side l s t) :
    Unpriced (fun l => cancels giftId (c.label l)) (fun l => takesDown giftId (c.label l)) l s t := by
  cases c with
  | cancel id viewerUserId => exact absurd rfl (hc id viewerUserId)
  | tick | publish | unpublish | setVisibility | confirmAddress =>
      cases l with
      | setStatus id found pick u => exact ⟨by simp [PostCall.label, cancels, h.2.1], rfl⟩
      | read | notify | environment | createGift | carrier | shipment | post => exact ⟨rfl, rfl⟩

theorem Writes.free {giftId : String} {c : PostCall} (hc : ∀ id viewerUserId, c ≠ .cancel id viewerUserId)
    {posts : Gifting → Gifting → Prop} {l : Step} {s t : Gifting} (h : Writes posts WritesNoStatus l s t) :
    Unpriced (fun l => cancels giftId (c.label l)) (fun l => takesDown giftId (c.label l)) l s t := by
  cases c with
  | cancel id viewerUserId => exact absurd rfl (hc id viewerUserId)
  | tick | publish | unpublish | setVisibility | confirmAddress =>
      cases l with
      | setStatus id found pick u => exact h.1.elim
      | read | notify | environment | createGift | carrier | shipment | post => exact ⟨rfl, rfl⟩

/-- The parts of `cancel` that neither cancel nor take down. -/
theorem Idle.free {giftId id viewerUserId : String} {l : Step} {s t : Gifting} (h : Idle l s t) :
    Unpriced (fun l => cancels giftId ((PostCall.cancel id viewerUserId).label l))
      (fun l => takesDown giftId ((PostCall.cancel id viewerUserId).label l)) l s t := by
  cases l with
  | post => exact h.2.elim
  | setStatus => exact h.1.elim
  | read | notify | environment | createGift | carrier | shipment => exact ⟨rfl, rfl⟩

theorem cancel_balanced (giftId id viewerUserId : String) : (cancel id viewerUserId).Balanced
    (fun l => cancels giftId ((PostCall.cancel id viewerUserId).label l))
    (fun l => takesDown giftId ((PostCall.cancel id viewerUserId).label l)) 0 := by
  have hidle {α : Type} {x : Service α} (hx : Svc.Does Idle x) :
      x.Balanced (fun l => cancels giftId ((PostCall.cancel id viewerUserId).label l))
        (fun l => takesDown giftId ((PostCall.cancel id viewerUserId).label l)) 0 :=
    Svc.Balanced.of_neutral empty (hx.mono fun l s t hact => Idle.free hact)
  refine Svc.Balanced.bind (hidle (Writes.findGiftWithParties id)) fun g => ?_
  refine Svc.Balanced.bind (hidle (Svc.Does.ensure _ _)) fun _ => ?_
  split
  · exact Svc.Balanced.pure _
  · refine Svc.Balanced.bind (hidle (Svc.Does.ensure _ _)) fun _ => ?_
    refine Svc.Balanced.earn_bind (c := fun count => decide (id = giftId ∧ count ≠ 0)) (fun _ => rfl)
      (fun w count t htx => ?_) (fun w e htx => nomatch htx) fun count => ?_
    · obtain ⟨rfl, -⟩ := Delegate.updateMany_eq_ok.mp htx
      rw [Bool.eq_iff_iff, decide_eq_true_iff, updateMany_takes]
      by_cases hid : id = giftId
      · subst hid
        simp [PostCall.label, cancels, Update.target]
      · simp [PostCall.label, cancels, hid]
    · split
      next hnone =>
        rw [decide_eq_false fun hboth => hboth.2 hnone]
        exact hidle (Svc.Does.bind (Writes.findGiftWithParties _) fun _ => Svc.Does.pure _)
      next hsome =>
        refine Svc.Balanced.bind ?_ fun _ => ?_
        · refine Svc.Balanced.query_bind (fun _ => ⟨rfl, rfl⟩) fun w => ?_
          refine Svc.Balanced.spend_bind (fun _ => ⟨rfl, ?_⟩) fun _ => Svc.Balanced.pure _
          simp [PostCall.label, takesDown, hsome]
        · exact hidle (Svc.Does.bind (Writes.trigger _) fun _ =>
            Svc.Does.bind (Writes.findGiftWithParties _) fun _ => Svc.Does.pure _)

section Calls

variable [Shop.Cities] [Runtime]

theorem postProgram_balanced (giftId : String) (c : PostCall) :
    (postProgram c).Balanced (cancels giftId) (takesDown giftId) 0 := by
  refine @Prog.Balanced.zoom _ _ _ _ _ _ _ (fun l => cancels giftId (c.label l))
    (fun l => takesDown giftId (c.label l)) _ _ (fun _ _ => rfl) (fun _ _ => rfl) 0 _ ?_
  have hside {α : Type} {x : Service α} {f : α → Reply} (hc : ∀ id viewerUserId, c ≠ .cancel id viewerUserId)
      (hx : Svc.Does Side x) : (f <$> x).Balanced (fun l => cancels giftId (c.label l))
        (fun l => takesDown giftId (c.label l)) 0 :=
    Svc.Balanced.map (Svc.Balanced.of_neutral empty (hx.mono fun l s t hact => Side.free hc hact))
  have hwrites {α : Type} {x : Service α} {f : α → Reply} (hc : ∀ id viewerUserId, c ≠ .cancel id viewerUserId)
      (hx : Svc.Does (Writes Rewrites WritesNoStatus) x) : (f <$> x).Balanced (fun l => cancels giftId (c.label l))
        (fun l => takesDown giftId (c.label l)) 0 :=
    Svc.Balanced.map (Svc.Balanced.of_neutral empty (hx.mono fun l s t hact => Writes.free hc hact))
  cases c with
  | tick elapsed => exact Svc.Balanced.bind (Svc.Balanced.of_neutral empty ((Side.tick elapsed).mono
      fun l s t hact => Side.free (c := .tick elapsed) (fun _ _ h => nomatch h) hact)) fun _ => Svc.Balanced.pure _
  | publish viewerUserId input postId drawn => exact hside (fun _ _ h => nomatch h) (Side.publish _ _ _ _)
  | unpublish viewerUserId postId => exact hwrites (fun _ _ h => nomatch h) (Writes.unpublish _ _)
  | setVisibility viewerUserId postId visibility => exact hwrites (fun _ _ h => nomatch h) (Writes.setVisibility _ _ _)
  | cancel id viewerUserId => exact Svc.Balanced.map (cancel_balanced giftId id viewerUserId)
  | confirmAddress id viewerUserId addressId => exact hside (fun _ _ h => nomatch h) (Side.confirmAddress _ _ _)

end Calls

/-! ### Runs -/

/-- `publish` writes a post of the gift, once it is cancelled, only while a call that cancelled it has still to take
its posts down. -/
def Timely (giftId : String) (tr : List (Event Gifting PostStep)) : Prop :=
  ∀ tr₁ e tr₂, tr = tr₁ ++ e :: tr₂ → e.lbl = .publish giftId → Cancelled giftId e.pre →
    takeDowns giftId tr₁ < cancellations giftId tr₁

theorem PostEffect.cancels {giftId : String} {l : PostStep} {s t : Gifting} (h : PostEffect l s t)
    (hs : ¬Cancelled giftId s) (ht : Cancelled giftId t) : cancels giftId l s = true := by
  have hsame (heq : t.gifts = s.gifts) : Gifting.cancels giftId l s = true := by
    rw [Cancelled, heq] at ht
    exact absurd ht hs
  cases l with
  | publish | takeDown => exact hsame h.1
  | other l =>
      cases l with
      | read | notify | environment | post => exact hsame h.1
      | createGift | carrier | shipment => exact h.elim
      | setStatus id found pick u =>
          obtain ⟨-, -, hgifts⟩ := h
          obtain ⟨g', hg', hstatus⟩ := ht.gift
          rw [hgifts, find_updateMany] at hg'
          obtain ⟨g, hg, rfl⟩ := Option.map_eq_some_iff.mp hg'
          by_cases htaken : (decide (g.id = id) && pick.takes g.status) = true
          · rw [if_pos htaken, Update.write_status] at hstatus
            obtain ⟨hid, htakes⟩ := Bool.and_eq_true_iff.mp htaken
            have hkey : id = giftId := (of_decide_eq_true hid).symm.trans (key_of_find hg)
            simp [Gifting.cancels, hkey, hstatus, hg, htakes]
          · rw [if_neg htaken] at hstatus
            exact absurd (Cancelled.of_gift hg hstatus) hs

theorem dark_or_pending {giftId : String} {init s : Gifting} {tr : List (Event Gifting PostStep)}
    (hpath : Path PostEffect init tr s) (hinit : Cancelled giftId init → Dark giftId init) (htimely : Timely giftId tr)
    (hsolvent : ∀ tr₁ tr₂, tr = tr₁ ++ tr₂ → takeDowns giftId tr₁ ≤ cancellations giftId tr₁)
    (hs : Cancelled giftId s) : Dark giftId s ∨ takeDowns giftId tr < cancellations giftId tr := by
  induction hpath with
  | nil => exact .inl (hinit hs)
  | @snoc t u l tr _ hact ih =>
      have htimely' : Timely giftId tr := fun tr₁ e tr₂ htr =>
        htimely tr₁ e (tr₂ ++ [⟨t, l, u⟩]) (by rw [htr, List.append_assoc, List.cons_append])
      have hsolvent' (tr₁ tr₂ : List (Event Gifting PostStep)) (htr : tr = tr₁ ++ tr₂) :
          takeDowns giftId tr₁ ≤ cancellations giftId tr₁ :=
        hsolvent tr₁ (tr₂ ++ [⟨t, l, u⟩]) (by rw [htr, List.append_assoc])
      by_cases hdown : l = .takeDown giftId
      · subst hdown
        exact .inl hact.takeDown
      · have hsame : takeDowns giftId (tr ++ [⟨t, l, u⟩]) = takeDowns giftId tr := by
          simp [takeDowns, takesDown, hdown]
        have hmore : cancellations giftId (tr ++ [⟨t, l, u⟩]) =
            cancellations giftId tr + (cancels giftId l t).toNat := by
          simp [cancellations, List.countP_append, Bool.toNat, Bool.cond_eq_ite]
        rw [hsame, hmore]
        by_cases ht : Cancelled giftId t
        · by_cases hpublish : l = .publish giftId
          · have hpending := htimely tr ⟨t, l, u⟩ [] rfl hpublish ht
            exact .inr (by omega)
          · rcases ih htimely' hsolvent' ht with hdark | hpending
            · exact .inl (hact.dark hpublish hdark)
            · exact .inr (by omega)
        · have hbefore := hsolvent' tr [] (List.append_nil tr).symm
          rw [hact.cancels ht hs]
          exact .inr (by simpa [Nat.lt_succ_iff] using hbefore)

section Calls

variable [Shop.Cities] [Runtime]

/-- **A cancelled gift is not advertised**, where `publish` puts up no post of a cancelled gift that will not be taken
down. -/
theorem PostRun.unadvertised {giftId : String} {init : Gifting} {tr : List (Event Gifting PostStep)}
    {cfg : Config Gifting PostStep (Except Err Reply)} (h : PostRun init tr cfg)
    (hinit : Cancelled giftId init → Dark giftId init) (htimely : Timely giftId tr) (hquiet : cfg.Quiet)
    (hcancelled : Cancelled giftId cfg.state) :
    Unadvertised giftId cfg.state ∧ ∀ tr' cfg', PostRun cfg.state tr' cfg' → Unadvertised giftId cfg'.state := by
  have hsolvent (tr₁ tr₂ : List (Event Gifting PostStep)) (htr : tr = tr₁ ++ tr₂) :
      takeDowns giftId tr₁ ≤ cancellations giftId tr₁ := by
    subst htr
    obtain ⟨cfg₁, hbefore⟩ := Exec.before h
    exact hbefore.solvent fun c => (postProgram_balanced giftId c).solvent
  have hbalanced : takeDowns giftId tr = cancellations giftId tr := Exec.balanced (postProgram_balanced giftId) h hquiet
  have hdark : Dark giftId cfg.state := by
    rcases dark_or_pending h.path hinit htimely hsolvent hcancelled with hdark | hpending
    · exact hdark
    · omega
  exact ⟨hdark.hidden, fun tr' cfg' h' => (h'.stays hcancelled hdark).hidden⟩

end Calls

namespace PostPilot

/-- Omar has been sent a gift by Sara. -/
def before : Gifting := (Pilot.played Pilot.sent).2.state

/-- Follow a schedule from there. -/
def played (schedule : List (Choice PostCall)) :
    List (Event Gifting PostStep) × Config Gifting PostStep (Except Err Reply) :=
  Config.play (@postProgram Market.Pilot.plainCities plainRuntime) ⟨before, []⟩ schedule

theorem run (schedule : List (Choice PostCall)) :
    @PostRun Market.Pilot.plainCities plainRuntime before (played schedule).1 (played schedule).2 := by
  have hinit : @PostRun Market.Pilot.plainCities plainRuntime before [] ⟨before, []⟩ := Exec.init
  simpa [played] using hinit.play schedule

/-- Start a call and let it end. -/
def toEnd (c : PostCall) : List (Choice PostCall) := .start c :: List.replicate 9 (.run 0)

/-- Sara's publication of the gift. -/
def shared : PostCall := .publish "u1" { giftId := some "g1" } "p1" ["slug"]

/-- Sara publishes the gift and then cancels it. -/
def inTurn : List (Choice PostCall) := toEnd shared ++ toEnd (.cancel "g1" "u1")

/-- She cancels it between the status check of her publication and its write. -/
def crossed : List (Choice PostCall) :=
  [.start shared, .run 0, .run 0, .run 0, .run 0] ++ toEnd (.cancel "g1" "u1") ++ List.replicate 5 (.run 1)

end PostPilot

theorem PostRun.unadvertised_inTurn :
    (∃ p ∈ (PostPilot.played PostPilot.inTurn).2.state.posts.rows, p.giftId = "g1") ∧
      Unadvertised "g1" (PostPilot.played PostPilot.inTurn).2.state := by
  refine ⟨by decide +kernel, (@PostRun.unadvertised Market.Pilot.plainCities plainRuntime "g1" _ _ _
    (PostPilot.run PostPilot.inTurn) (by decide +kernel) (fun tr₁ e tr₂ htr hlbl hcancelled => ?_) (by decide +kernel)
    (by decide +kernel)).1⟩
  have hnone : ∀ e ∈ (PostPilot.played PostPilot.inTurn).1, e.lbl = .publish "g1" → ¬Cancelled "g1" e.pre := by
    decide +kernel
  exact absurd hcancelled (hnone e (by rw [htr]; simp) hlbl)

/-- **A cancelled gift is advertised**: it was not cancelled when its publication checked. -/
theorem PostRun.advertised : ∃ init tr cfg, ¬Cancelled "g1" init ∧
    @PostRun Market.Pilot.plainCities plainRuntime init tr cfg ∧ cfg.Quiet ∧ Cancelled "g1" cfg.state ∧
      ∃ p ∈ cfg.state.posts.rows, p.giftId = "g1" ∧ p.isPublic = true := by
  refine ⟨_, _, _, ?_, PostPilot.run PostPilot.crossed, ?_, ?_, ?_⟩
  · decide +kernel
  · decide +kernel
  · decide +kernel
  · decide +kernel

end Qift.Gifting
