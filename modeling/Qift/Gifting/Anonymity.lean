import Qift.Gifting.Walls
import Qift.Market.Payee
import Qift.Runtime

/-!
# Who sent an anonymous gift

* **`sender_unseen`** — two databases that differ in the sender of one anonymous gift answer everybody but the two
  senders alike and tell them the same, after any requests of theirs, as long as no request shows the receiver a post
  of the gift.
* `sender_seen` — a receiver who publishes the gift reads the name of its sender on the own wall.
-/

namespace Qift.Gifting

open Relational Interleaving Variation

/-- A notice to somebody else than two accounts. -/
def toldOthers (senderId senderId' : String) (n : Notification) : Bool :=
  n.userId ≠ senderId && n.userId ≠ senderId'

/-- Two databases that differ in who has sent one anonymous gift, of which no post reveals the sender. -/
structure OtherSender (g : Gift) (senderId : String) (s t : Gifting) : Prop where
  same : t = { s with gifts := t.gifts, notifications := t.notifications }
  gifts : t.gifts.rows = s.gifts.rows.map fun row => if row.id = g.id then { row with senderId := senderId } else row
  stored : s.gifts.find g.id = some g
  anonymous : g.isAnonymous = true
  told : s.notifications.filter (toldOthers g.senderId senderId) =
    t.notifications.filter (toldOthers g.senderId senderId)
  unrevealed : ∀ p ∈ s.posts.rows, p.giftId = g.id → p.revealSender = false

/-- A request of the receiver, of a third party or of the sweep that leaves the books. -/
structure Call.Outside (c : Call) (senderId senderId' : String) : Prop where
  books : ∀ b, c ≠ .books b
  first : c.viewer ≠ some senderId
  second : c.viewer ≠ some senderId'

/-- The row of an anonymous gift, and who has sent it in the second run. -/
structure IsVeiled (g : Gift) (senderId : String) (row : Gift) (senderId' : String) : Prop where
  id : row.id = g.id
  anonymous : row.isAnonymous = true
  first : row.senderId = g.senderId
  second : senderId' = senderId

section Addresses

variable [Shop.Cities]

/-- Nothing is hidden but the sender of the gift. -/
@[reducible] def veiled (g : Gift) (senderId : String) (s : Gifting) : Variation where
  hides := fun _ => False
  veils := IsVeiled g senderId
  party := fun userId => userId = g.senderId ∨ userId = senderId
  discreet := fun giftId => giftId = g.id
  moved := fun _ => False
  watched := toldOthers g.senderId senderId
  stores := s.stores
  addresses := s.addresses
  addresses' := s.addresses
  alike := addresses_alike s
  anonymous := fun _ _ hveils => ⟨hveils.anonymous, .inl hveils.first, .inr hveils.second⟩
  quiet := fun _ _ hhides => hhides.elim
  silent := fun n hparty => by
    rcases hparty with hparty | hparty <;> simp [toldOthers, hparty]

theorem OtherSender.twins {g : Gift} {senderId : String} {s t : Gifting} (h : OtherSender g senderId s t) :
    (veiled g senderId s).Twins nothingKnown s t where
  same := h.same
  addresses := rfl
  stores := rfl
  gifts := by
    rw [h.gifts]
    refine List.forall₂_map_right_iff.mpr (List.forall₂_same.mpr fun row hrow => ?_)
    have hown : (veiled g senderId s).Owned row := fun _ _ _ _ hmoved => hmoved.elim
    split
    · rename_i hid
      obtain rfl : row = g := s.gifts.row_unique hrow (Table.mem_of_find h.stored) hid
      exact RowAlike.intro ⟨row.contents, senderId⟩ hown (.inr (.veiled ⟨rfl, h.anonymous, rfl, rfl⟩ rfl))
    · exact RowAlike.refl hown
  told := h.told
  posts := h.unrevealed
  known := fun _ _ _ hk => hk.elim

theorem veiled_lasting (g : Gift) (senderId : String) (s : Gifting) : (veiled g senderId s).Lasting where
  keeps u := {
    hides := fun _ hhides => hhides.elim
    veils := fun row senderId' hveils => by
      have hanonymous : (u.write row).isAnonymous = row.isAnonymous := by cases u <;> rfl
      exact ⟨(u.write_id row).trans hveils.id, hanonymous.trans hveils.anonymous,
        (u.write_parties row).2.trans hveils.first, hveils.second⟩ }
  hides := fun _ _ _ hhides => hhides.elim
  veils := fun _ _ _ _ hveils => ⟨hveils.id, hveils.anonymous, hveils.first, hveils.second⟩

theorem admits_of_outside {g : Gift} {senderId : String} (s : Gifting) {c : Call}
    (hc : c.Outside g.senderId senderId) : (veiled g senderId s).Admits c where
  gate := by
    cases c with
    | books b => exact absurd rfl (hc.books b)
    | create body viewerUserId idempotencyKey drawn giftId =>
        exact fun _ _ _ => List.forall₂_same.mpr fun _ _ => Iff.rfl
    | _ => trivial
  outside v hv := by
    rintro (rfl | rfl)
    · exact hc.first hv
    · exact hc.second hv

variable [Runtime]

/-- **Nobody learns who has sent an anonymous gift**, but for a receiver who is shown a post of it. -/
theorem sender_unseen {g : Gift} {senderId : String} {s t : Gifting} (h : OtherSender g senderId s t) {cs : List Call}
    (hcs : ∀ c ∈ cs, c.Outside g.senderId senderId) {c : Call} (hc : c.Outside g.senderId senderId)
    (hposts : ∀ x ∈ shownPosts c (runCalls program s cs), x.gift.id = g.id → c.viewer ≠ some x.gift.receiverId) :
    ((program c).exec (runCalls program s cs)).1 = ((program c).exec (runCalls program t cs)).1 ∧
      ((program c).exec (runCalls program s cs)).2.notifications.filter (toldOthers g.senderId senderId) =
        ((program c).exec (runCalls program t cs)).2.notifications.filter (toldOthers g.senderId senderId) := by
  have hlast := veiled_lasting g senderId s
  have hrun := runCalls_agrees (fun c hc => program_agrees hlast (admits_of_outside s (hcs c hc))) h.twins
  constructor
  · refine program_answers hlast (admits_of_outside s hc) hrun (fun _ _ => ⟨fun hmoved => hmoved, fun _ hhides =>
      hhides.elim⟩) fun x hx => ⟨fun hhides => hhides, fun _ hveils => ⟨hposts x hx hveils.id, ?_⟩⟩
    obtain ⟨hstored, hgift⟩ := shownPosts_stored hx
    exact hrun.posts x.post hstored (hgift.symm.trans hveils.id)
  · exact (program_agrees hlast (admits_of_outside s hc) _ _ hrun).2.told

end Addresses

/-! ### A gift from nobody -/

namespace Pilot

/-- An anonymous gift for Omar. -/
def unsigned (senderId : String) : Gift where
  id := "g1"
  fulfillmentNumber := "QF-1"
  senderId := senderId
  receiverId := "u2"
  productName := "ring"
  storeName := "jeweller"
  storeId := none
  productId := none
  occasionId := none
  messageText := none
  mediaUrl := none
  mediaType := none
  status := .pending_address
  isAnonymous := true
  isSurprise := false
  addressId := none
  confirmedAt := none
  shippedAt := none
  deliveredAt := none
  trackingNumber := none
  carrier := none
  createdAt := 0
  idempotencyKey := none
  idempotencyRequestHash := none

/-- Sara or Huda has sent it. -/
def sentBy (senderId : String) : Gifting :=
  { empty with
    users := [⟨"u1", "sara", none, none⟩, ⟨"u2", "omar", none, none⟩, ⟨"u3", "huda", none, none⟩]
    gifts := ⟨[unsigned senderId], by simp⟩ }

theorem otherSender : OtherSender (unsigned "u1") "u3" (sentBy "u1") (sentBy "u3") :=
  ⟨rfl, rfl, rfl, rfl, rfl, fun _ hp => by cases hp⟩

/-- Omar publishes the gift he has received. -/
def published : Call := .publish "u2" { giftId := some "g1", visibility := some "public" } "p1" ["slug"]

theorem published_outside : published.Outside "u1" "u3" := ⟨fun _ => by rintro ⟨⟩, by decide, by decide⟩

/-- The sender an answer names. -/
def namedSender : Except Err Reply → Option String
  | .ok (.wall (view :: _)) => view.senderUsername
  | .ok (.shownPost view) => view.senderUsername
  | _ => none

end Pilot

/-- A visitor reads the post of the anonymous gift. -/
theorem sender_unseen_slug :
    ((@program Market.Pilot.plainCities plainRuntime (.getBySlug (some "slug") none)).exec
        (runCalls (@program Market.Pilot.plainCities plainRuntime) (Pilot.sentBy "u1") [Pilot.published])).1 =
      ((@program Market.Pilot.plainCities plainRuntime (.getBySlug (some "slug") none)).exec
        (runCalls (@program Market.Pilot.plainCities plainRuntime) (Pilot.sentBy "u3") [Pilot.published])).1 := by
  have hvisitor : (Call.getBySlug (some "slug") none).Outside "u1" "u3" :=
    ⟨fun _ => by rintro ⟨⟩, by decide, by decide⟩
  have hcalls : ∀ c ∈ [Pilot.published], c.Outside "u1" "u3" := fun c hc => by
    rw [List.mem_singleton.mp hc]
    exact Pilot.published_outside
  exact (@sender_unseen Market.Pilot.plainCities plainRuntime _ _ _ _ Pilot.otherSender _ hcalls _ hvisitor
    fun _ _ _ => by rintro ⟨⟩).1

/-- **Publishing an anonymous gift names its sender** to the receiver, on the own wall. -/
theorem sender_seen : ∃ g senderId s t c c', OtherSender g senderId s t ∧ c.Outside g.senderId senderId ∧
    c'.Outside g.senderId senderId ∧
    ((@program Market.Pilot.plainCities plainRuntime c').exec
        (runCalls (@program Market.Pilot.plainCities plainRuntime) s [c])).1 ≠
      ((@program Market.Pilot.plainCities plainRuntime c').exec
        (runCalls (@program Market.Pilot.plainCities plainRuntime) t [c])).1 := by
  refine ⟨_, _, _, _, _, .listMine "u2", Pilot.otherSender, Pilot.published_outside,
    ⟨fun _ => by rintro ⟨⟩, by decide, by decide⟩, fun hsame => ?_⟩
  have hnamed := congrArg Pilot.namedSender hsame
  revert hnamed
  decide +kernel

end Qift.Gifting
