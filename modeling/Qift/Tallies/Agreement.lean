import Qift.Tallies.Balance

/-!
# Denormalised counters equal what they count

* `Appreciated` — every post counts its appreciations, at all times.
* `CountsFirst` — a wish is deleted, and a gift is cancelled, only after it has been counted.
* `Run.counters_agree` — where the checks still hold at the writes, every counter equals what it counts once no call is
  in progress, and, where counting comes first, no counter is ever negative.
* A purge of a user who has hearted a product leaves its counter standing.
-/

namespace Qift.Tallies

open Relational Relational.Table Interleaving

/-! ### Appreciations -/

/-- Every post counts its appreciations, and every appreciation is of a stored post. -/
structure Appreciated (w : Tallies) : Prop where
  counted : ∀ k q, w.gifting.posts.find k = some q → q.appreciationCount = w.appreciations.count fun a => a.giftPostId = k
  stored : ∀ a ∈ w.appreciations.rows, (w.gifting.posts.find a.giftPostId).isSome = true

theorem appreciated_empty : Appreciated empty where
  counted k q h := by
    rw [find_eq_some] at h
    exact absurd h.1 List.not_mem_nil
  stored a h := absurd h List.not_mem_nil

section Appreciations

variable {w w' : Tallies}

theorem Appreciated.of_same (h : Appreciated w) (hposts : w'.gifting.posts = w.gifting.posts)
    (happreciations : w'.appreciations = w.appreciations) : Appreciated w' := by
  constructor
  · rw [hposts, happreciations]
    exact h.counted
  · rw [hposts, happreciations]
    exact h.stored

theorem Appreciated.gifting {l : Gifting.Step} {g : Gifting} (h : Appreciated w) (hside : Gifting.Side l w.gifting g) :
    Appreciated { w with gifting := g } := by
  cases l with
  | read | notify | environment => exact h.of_same hside.2 rfl
  | setStatus giftId found pick u => exact h.of_same hside.2.2.1 rfl
  | createGift | carrier | shipment => exact hside.elim
  | post =>
      obtain ⟨-, hkept, hstay⟩ := hside
      refine ⟨fun k q' hq' => ?_, fun a ha => hstay _ (h.stored a ha)⟩
      rcases hkept k q' hq' with ⟨hnew, hzero⟩ | ⟨q, hq, hcount⟩
      · -- a new post has no appreciations: they are of posts that were stored
        have hnone : w.appreciations.count (fun a => a.giftPostId = k) = 0 := by
          refine List.countP_eq_zero.mpr fun a ha hk => ?_
          have hstored := h.stored a ha
          rw [of_decide_eq_true hk, hnew] at hstored
          cases hstored
        rw [hzero, hnone]
        rfl
      · rw [hcount]
        exact h.counted k q hq

theorem Appreciated.step {l : Step} (hact : Effect l w w') (hfresh : Fresh ⟨w, l, w'⟩) (h : Appreciated w) :
    Appreciated w' := by
  cases hact with
  | quiet _ _ _ _ happreciations _ hposts => exact h.of_same hposts happreciations
  | gifting l g hside => exact h.gifting hside
  | appreciate a t hcreate hstored =>
      refine ⟨fun k q hq => ?_, fun x hx => ?_⟩
      · simp only [find_update] at hq
        rw [count_create hcreate]
        by_cases hk : k = a.giftPostId
        · rw [if_pos hk] at hq
          obtain ⟨r, hr, rfl⟩ := Option.map_eq_some_iff.mp hq
          rw [if_pos (by simp [hk]), h.counted k r hr]
          rfl
        · rw [if_neg hk] at hq
          rw [if_neg (by simpa using Ne.symm hk), h.counted k q hq, Nat.add_zero]
      · simp only [find_update]
        rcases (mem_create hcreate).mp hx with hx | rfl
        · split
          · rw [Option.isSome_map]
            exact h.stored x hx
          · exact h.stored x hx
        · rw [if_pos rfl, Option.isSome_map]
          exact hstored
  | unappreciate giftPostId userId happreciated hstored =>
      obtain ⟨a, ha⟩ := Option.isSome_iff_exists.mp happreciated
      have hpost : a.giftPostId = giftPostId := congrArg Prod.fst (key_of_find ha)
      refine ⟨fun k q hq => ?_, fun x hx => ?_⟩
      · simp only [find_update] at hq
        have hcount := count_erase (q := fun a => decide (a.giftPostId = k)) ha
        rw [hpost] at hcount
        by_cases hk : k = giftPostId
        · rw [if_pos hk] at hq
          obtain ⟨r, hr, rfl⟩ := Option.map_eq_some_iff.mp hq
          have hbefore := h.counted k r hr
          rw [decide_eq_true hk.symm, Bool.toNat_true] at hcount
          dsimp only
          omega
        · rw [if_neg hk] at hq
          rw [decide_eq_false (Ne.symm hk), Bool.toNat_false, Nat.add_zero] at hcount
          rw [h.counted k q hq, hcount]
      · have hbefore := h.stored x (mem_erase.mp hx).1
        simp only [find_update]
        split
        · rw [Option.isSome_map]
          exact hbefore
        · exact hbefore
  | purge userId _ _ happreciations _ hposts =>
      obtain ⟨-, hnone⟩ : wishesBy userId w = 0 ∧ appreciationsBy userId w = 0 := hfresh
      refine ⟨fun k q hq => ?_, fun a ha => ?_⟩
      · rw [hposts] at hq
        rw [happreciations, count_deleteMany, h.counted k q hq]
        congr 1
        refine count_congr fun a ha => ?_
        have hother : decide (a.userId = userId) = false := by simpa using List.countP_eq_zero.mp hnone a ha
        rw [hother, Bool.not_false, Bool.and_true]
      · rw [happreciations] at ha
        rw [hposts]
        exact h.stored a (mem_deleteMany.mp ha).1
  | _ => exact h.of_same rfl rfl

end Appreciations

/-! ### What is counted before it is lost -/

/-- A wish or a gift. -/
inductive Item
  | wish (id : Nat)
  | gift (id : String)
  deriving DecidableEq

def Step.item : Step → Option Item
  | .deleteWish id _ | .countWish id _ => some (.wish id)
  | .cancelGift giftId _ | .countGift giftId _ => some (.gift giftId)
  | _ => none

/-- The product whose wish is deleted or whose gift is cancelled. -/
def lostOf (l : Step) (w : Tallies) : Option String :=
  match l with
  | .deleteWish id q => if (w.wishes.find id).isSome then q else none
  | .cancelGift giftId q => if cancelCount giftId w ≠ 0 then q else none
  | _ => none

def Step.countedOf : Step → Option String
  | .countWish _ q | .countGift _ q => some q
  | _ => none

/-- A wish is deleted, and a gift is cancelled, after it was counted. -/
def CountsFirst (tr : List (Event Tallies Step)) : Prop :=
  ∀ n < tr.length, ∀ e ∈ tr[n]?, ∀ q ∈ lostOf e.lbl e.pre,
    ∃ e' ∈ tr.take n, e'.lbl.countedOf = some q ∧ e'.lbl.item = e.lbl.item

instance (tr : List (Event Tallies Step)) : Decidable (CountsFirst tr) := by
  unfold CountsFirst
  infer_instance

def Gone : Item → Tallies → Prop
  | .wish id, w => id < w.nextId ∧ w.wishes.find id = none
  | .gift giftId, w => ∃ g, w.gifting.gifts.find giftId = some g ∧ g.status = .cancelled

section Lost

variable {c : Counter} {l : Step} {w w' : Tallies} {p : String} {k : Item}

theorem Gone.wish_step {id : Nat} (hact : Effect l w w') (h : Gone (.wish id) w) : Gone (.wish id) w' := by
  obtain ⟨hknown, hnone⟩ := h
  refine ⟨hknown.trans_le hact.nextId_le, ?_⟩
  cases hfind : w'.wishes.find id with
  | none => rfl
  | some x' =>
      rcases hact.wish_from hfind with hnew | ⟨x, hx, -⟩
      · exact absurd hnew hknown.ne
      · rw [hnone] at hx
        cases hx

theorem Gone.gift_step {giftId : String} (hact : Effect l w w') (hfresh : Fresh ⟨w, l, w'⟩)
    (h : Gone (.gift giftId) w) : Gone (.gift giftId) w' := by
  obtain ⟨g, hg, hcancelled⟩ := h
  have hsame (hgifts : w'.gifting.gifts = w.gifting.gifts) : Gone (.gift giftId) w' := by
    refine ⟨g, ?_, hcancelled⟩
    rw [hgifts]
    exact hg
  cases hact with
  | quiet _ _ _ _ _ hgifts | purge _ _ _ _ hgifts => exact hsame hgifts
  | gifting l g' hside =>
      cases l with
      | read | environment | notify | post => exact hsame hside.1
      | setStatus id found pick u =>
          -- a gift whose status is set is not cancelled, so it is another one
          have hlive : ∀ x ∈ w.gifting.gifts.find id, x.status ≠ .cancelled := hfresh
          have hother : giftId ≠ id := by
            rintro rfl
            exact hlive g hg hcancelled
          refine ⟨g, ?_, hcancelled⟩
          rw [hside.2.2.2, find_updateMany, hg, Option.map_some, if_neg]
          simp [key_of_find hg, hother]
      | createGift | carrier | shipment => exact hside.elim
  | createGift row g' t _ _ _ hcreate => exact ⟨g, find_create_of_find hcreate hg, hcancelled⟩
  | cancelGift id q =>
      refine ⟨_, find_updateMany_some (Gifting.Update.write_id _) hg, ?_⟩
      split
      · rfl
      · exact hcancelled
  | _ => exact hsame rfl

theorem Gone.step (hact : Effect l w w') (hfresh : Fresh ⟨w, l, w'⟩) (h : Gone k w) : Gone k w' := by
  cases k with
  | wish id => exact Gone.wish_step hact h
  | gift giftId => exact Gone.gift_step hact hfresh h

/-- What a counter loses, and what it counts. -/
def Counter.lost (c : Counter) (p : String) (l : Step) (w : Tallies) : Option Item :=
  if c.loses p l w then l.item else none

def Counter.counted (c : Counter) (p : String) (l : Step) (_ : Tallies) : Option Item :=
  if c.ups p l then l.item else none

theorem Counter.lost_isSome : (c.lost p l w).isSome = c.loses p l w := by
  cases hloses : c.loses p l w with
  | false => simp [lost, hloses]
  | true =>
      rw [lost, hloses, if_pos rfl]
      cases c <;> cases l <;> first | rfl | cases hloses

theorem Counter.counted_isSome : (c.counted p l w).isSome = c.ups p l := by
  cases hups : c.ups p l with
  | false => simp [counted, hups]
  | true =>
      rw [counted, hups, if_pos rfl]
      cases c <;> cases l <;> first | rfl | cases hups

theorem Counter.lost_gone (hact : Effect l w w') (h : c.lost p l w = some k) : ¬ Gone k w ∧ Gone k w' := by
  have hloses : c.loses p l w = true := by
    rw [← lost_isSome, h]
    rfl
  rw [lost, if_pos hloses] at h
  cases hact with
  | quiet _ hl =>
      rw [(unmoved_of_refused hl).2] at hloses
      cases hloses
  | deleteWish id q hlinked hstored =>
      cases h
      refine ⟨fun hgone => ?_, hlinked.known, ?_⟩
      · rw [hgone.2] at hstored
        cases hstored
      · simp [find_erase]
  | cancelGift giftId q hgift hcount =>
      cases h
      obtain ⟨g, hg, htakes⟩ := count_pos (k := giftId)
        (fun r hr => of_decide_eq_true (Bool.and_eq_true_iff.mp hr).1) hcount
      refine ⟨fun hgone => ?_, _, find_updateMany_some (Gifting.Update.write_id _) hg, ?_⟩
      · obtain ⟨g', hg', hcancelled⟩ := hgone
        rw [hg] at hg'
        cases hg'
        rw [hcancelled] at htakes
        have htaken := (Bool.and_eq_true_iff.mp htakes).2
        cases htaken
      · rw [if_pos htakes]
        rfl
  | move l q hearts gifts f hf hl =>
      rw [(unmoved_of_move hl).2] at hloses
      cases hloses
  | _ => cases c <;> cases hloses

theorem lostOf_of_loses (h : c.loses p l w = true) : lostOf l w = some p := by
  cases c <;> cases l <;> first | cases h | simp_all [Counter.loses, lostOf]

/-- A wish is counted as a wish, and a gift as a gift. -/
theorem ups_of_countedOf {l' : Step} (h : c.loses p l w = true) (hcounted : l'.countedOf = some p)
    (hitem : l'.item = l.item) : c.ups p l' = true := by
  cases l' with
  | countWish id q =>
      cases c <;> cases l <;> first | simpa [Counter.ups, Step.countedOf] using hcounted | cases h | cases hitem
  | countGift giftId q =>
      cases c <;> cases l <;> first | simpa [Counter.ups, Step.countedOf] using hcounted | cases h | cases hitem
  | _ => cases hcounted

theorem CountsFirst.counted {tr : List (Event Tallies Step)} (h : CountsFirst tr) {e : Event Tallies Step}
    (he : e ∈ tr) (hk : c.lost p e.lbl e.pre = some k) : ∃ e' ∈ tr, c.counted p e'.lbl e'.pre = some k := by
  have hloses : c.loses p e.lbl e.pre = true := by
    rw [← Counter.lost_isSome, hk]
    rfl
  rw [Counter.lost, if_pos hloses] at hk
  obtain ⟨n, hn, rfl⟩ := List.mem_iff_getElem.mp he
  obtain ⟨e', he', hcounted, hitem⟩ := h n hn _ (List.getElem?_eq_getElem hn) p (lostOf_of_loses hloses)
  refine ⟨e', List.mem_of_mem_take he', ?_⟩
  rw [Counter.counted, if_pos (ups_of_countedOf hloses hcounted hitem), hitem, hk]

end Lost

/-! ### The claim -/

/-- Every counter equals what it counts. -/
structure Agree (w : Tallies) : Prop where
  wishlisted : ∀ p ∈ w.products.rows, p.wishlistedByCount = w.wishes.count fun x => x.productId = some p.id
  gifted : ∀ p ∈ w.products.rows, p.giftedByCount =
    w.gifting.gifts.count fun g => decide (g.productId = some p.id) && decide (g.status ≠ .cancelled)
  appreciated : ∀ q ∈ w.gifting.posts.rows, q.appreciationCount = w.appreciations.count fun a => a.giftPostId = q.id

/-- No counter is negative. -/
structure NonNegative (w : Tallies) : Prop where
  wishlisted : ∀ p ∈ w.products.rows, 0 ≤ p.wishlistedByCount
  gifted : ∀ p ∈ w.products.rows, 0 ≤ p.giftedByCount
  appreciated : ∀ q ∈ w.gifting.posts.rows, 0 ≤ q.appreciationCount

theorem Counter.value_eq (c : Counter) {w : Tallies} {p : Product} (hp : p ∈ w.products.rows) :
    c.value p.id w = c.column p := by
  have hfind : w.products.find p.id = some p := find_of_mem hp
  simp only [value, hfind]

section Claim

variable [Shop.Cities] [Runtime] {tr : List (Event Tallies Step)} {cfg : Config Tallies Step (Except Err Reply)}
  (h : Run tr cfg) (hfresh : ∀ e ∈ tr, Fresh e)

include h hfresh

theorem Run.appreciated : Appreciated cfg.state :=
  (Run.path h).invariant (C := Fresh) (fun _ _ _ hact hC hs => hs.step hact hC) hfresh appreciated_empty

theorem Run.value (c : Counter) (p : String) : c.value p cfg.state =
    (tr.countP fun e => c.ups p e.lbl) - tr.countP fun e => c.downs p e.lbl := by
  have htally := Path.tally (c.value p) (fun l _ => c.ups p l) (fun l _ => c.downs p l)
    (fun _ _ _ hact hC => Counter.value_step hact hC) (Run.path h) hfresh
  have hzero : c.value p empty = 0 := by cases c <;> rfl
  rw [hzero] at htally
  omega

theorem Run.size (c : Counter) (p : String) : c.size p cfg.state + (tr.countP fun e => c.loses p e.lbl e.pre) =
    tr.countP fun e => c.gains p e.lbl e.pre := by
  have hflow := Path.flow (c.size p) (c.gains p) (c.loses p)
    (fun _ _ _ hact hC => Counter.size_step hact hC) (Run.path h) hfresh
  have hzero : c.size p empty = 0 := by cases c <;> rfl
  omega

theorem Run.value_eq_size (hquiet : cfg.Quiet) (c : Counter) (p : String) : c.value p cfg.state = c.size p cfg.state := by
  have hups := Exec.balanced (program_pays (.added c p)) h hquiet
  have hdowns := Exec.balanced (program_pays (.taken c p)) h hquiet
  have hvalue := Run.value h hfresh c p
  have hsize := Run.size h hfresh c p
  simp only [Balance.earns, Balance.spends] at hups hdowns
  omega

theorem Run.value_nonneg (hfirst : CountsFirst tr) (c : Counter) (p : String) : 0 ≤ c.value p cfg.state := by
  -- what is counted down was lost, and what was lost had been counted up
  have hdowns := Exec.solvent (fun call => (program_pays (.taken c p) call).solvent) h
  have hkeep : ∀ l s t k, Effect l s t → Fresh ⟨s, l, t⟩ → Gone k s → Gone k t := fun _ _ _ _ hact hC hgone =>
    hgone.step hact hC
  have hlost := Path.lost_le hkeep (fun _ _ _ _ hact _ hk => Counter.lost_gone hact hk) (c.counted p) (Run.path h) hfresh
    fun e he k hk => hfirst.counted he hk
  simp only [Counter.lost_isSome, Counter.counted_isSome] at hlost
  simp only [Balance.earns, Balance.spends] at hdowns
  rw [Run.value h hfresh c p]
  omega

/-- **Denormalised counters equal what they count**, once no request is in progress, where what a request had read still
stands at its writes and no purge takes away what is counted; where nothing is lost before it is counted, none is ever
negative. -/
theorem Run.counters_agree : (cfg.Quiet → Agree cfg.state) ∧ (CountsFirst tr → NonNegative cfg.state) := by
  have hposts := Run.appreciated h hfresh
  refine ⟨fun hquiet => ⟨fun p hp => ?_, fun p hp => ?_, fun q hq => ?_⟩,
    fun hfirst => ⟨fun p hp => ?_, fun p hp => ?_, fun q hq => ?_⟩⟩
  · have hagree := Run.value_eq_size h hfresh hquiet .wishlistedBy p.id
    rwa [Counter.value_eq _ hp] at hagree
  · have hagree := Run.value_eq_size h hfresh hquiet .giftedBy p.id
    rwa [Counter.value_eq _ hp] at hagree
  · exact hposts.counted q.id q (find_of_mem hq)
  · have hpos := Run.value_nonneg h hfresh hfirst .wishlistedBy p.id
    rwa [Counter.value_eq _ hp] at hpos
  · have hpos := Run.value_nonneg h hfresh hfirst .giftedBy p.id
    rwa [Counter.value_eq _ hp] at hpos
  · rw [hposts.counted q.id q (find_of_mem hq)]
    exact Int.natCast_nonneg _

end Claim

namespace Pilot

/-- Follow a schedule from the empty database. -/
def played (schedule : List (Choice Call)) :
    List (Event Tallies Step) × Config Tallies Step (Except Err Reply) :=
  Config.play (@program Market.Pilot.plainCities plainRuntime) ⟨empty, []⟩ schedule

theorem run (schedule : List (Choice Call)) :
    @Run Market.Pilot.plainCities plainRuntime (played schedule).1 (played schedule).2 := by
  have hinit : @Run Market.Pilot.plainCities plainRuntime [] ⟨empty, []⟩ := Exec.init
  simpa [played] using hinit.play schedule

/-- Start a call and let it end. -/
def toEnd (c : Call) : List (Choice Call) := .start c :: List.replicate 20 (.run 0)

/-- Huda and Omar have accounts, and a vase is for sale. -/
def opened : List (Choice Call) :=
  toEnd (.books
    { storeUserIds := []
      users := [⟨"huda", "huda", none, none⟩, ⟨"omar", "omar", none, none⟩]
      blocks := []
      addresses := Table.empty
      stores := Table.empty
      products := Table.empty
      occasions := [] }) ++
    toEnd (.accounts [⟨"huda", "user", none, 0⟩, ⟨"omar", "user", none, 0⟩]) ++
    toEnd (.product "vase" "Vase" none 120 none none)

/-- Both wish for the vase, and Omar no more. -/
def wished : List (Choice Call) :=
  opened ++ toEnd (.createWish "huda" { productId := some "vase" }) ++
    toEnd (.createWish "omar" { productId := some "vase" }) ++ toEnd (.removeWishByProduct "omar" "vase")

/-- Huda's account is purged. -/
def purged : List (Choice Call) := wished ++ toEnd (.purgeUser "admin" "huda" "huda")

end Pilot

/-- One wish is left, and counted. -/
theorem Run.counters_agree_wished :
    Agree (Pilot.played Pilot.wished).2.state ∧ NonNegative (Pilot.played Pilot.wished).2.state :=
  have h := @Run.counters_agree Market.Pilot.plainCities plainRuntime _ _ (Pilot.run Pilot.wished)
    (by decide +kernel)
  ⟨h.1 (by decide +kernel), h.2 (by decide +kernel)⟩

/-- **A counter that counts nothing**: no request is in progress, the vase was hearted once by its counter, and there is
no wish for it. -/
theorem Run.counter_stands : ∃ tr cfg, @Run Market.Pilot.plainCities plainRuntime tr cfg ∧ cfg.Quiet ∧
    ∃ p ∈ cfg.state.products.rows,
      p.wishlistedByCount = 1 ∧ (cfg.state.wishes.count fun x => x.productId = some p.id) = 0 :=
  ⟨_, _, Pilot.run Pilot.purged, by decide +kernel⟩

end Qift.Tallies
