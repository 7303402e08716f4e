import Qift.Tallies.Effects

/-!
# What the counters of a product count

* `Counter` is one of the two counters: its column, the labels that write it, what it is meant to count, and the labels
  that change what is counted.
* `Fresh` — what a call had read still stands when it writes: the wish its upsert finds, the gift whose status it sets;
  a purge finds no hearted product and no appreciation; a counter write finds its product.
* A fresh step moves a counter by its own label (`Counter.value_step`), and what is counted by the row it writes
  (`Counter.size_step`).
-/

namespace Qift.Tallies

open Relational Relational.Table Interleaving

/-! ### Counters and what they count -/

/-- A counter of a product. -/
inductive Counter
  | wishlistedBy
  | giftedBy

namespace Counter

def column : Counter → Product → Int
  | wishlistedBy, p => p.wishlistedByCount
  | giftedBy, p => p.giftedByCount

/-- Where the counter of a product stands. -/
def value (c : Counter) (productId : String) (w : Tallies) : Int :=
  match w.products.find productId with
  | none => 0
  | some p => c.column p

/-- What is to be counted: the wishes for a product, and its gifts that are not cancelled. -/
def size (c : Counter) (productId : String) (w : Tallies) : Nat :=
  match c with
  | wishlistedBy => w.wishes.count fun x => x.productId = some productId
  | giftedBy => w.gifting.gifts.count fun g => decide (g.productId = some productId) && decide (g.status ≠ .cancelled)

/-- The label counts up. -/
def ups (c : Counter) (productId : String) (l : Step) : Bool :=
  match c, l with
  | wishlistedBy, .countWish _ q => q = productId
  | giftedBy, .countGift _ q => q = productId
  | _, _ => false

/-- The label counts down. -/
def downs (c : Counter) (productId : String) (l : Step) : Bool :=
  match c, l with
  | wishlistedBy, .uncountWish _ q => q = productId
  | giftedBy, .uncountGift _ q => q = productId
  | _, _ => false

/-- A wish for a product that its call had not found wished for, and a new gift. -/
def gains (c : Counter) (productId : String) (l : Step) (w : Tallies) : Bool :=
  match c, l with
  | wishlistedBy, .upsertWish row existing =>
      decide (row.productId = some productId) && !existing && succeeds (upsertWishTx row) w
  | giftedBy, .createGift row => decide (row.productId = some productId) && succeeds (createGiftTx row) w
  | _, _ => false

/-- A wish that is deleted, and a gift that is cancelled. -/
def loses (c : Counter) (productId : String) (l : Step) (w : Tallies) : Bool :=
  match c, l with
  | wishlistedBy, .deleteWish id q => decide (q = some productId) && (w.wishes.find id).isSome
  | giftedBy, .cancelGift giftId q => decide (q = some productId) && decide (cancelCount giftId w ≠ 0)
  | _, _ => false

end Counter

/-! ### Steps whose checks still hold -/

/-- A user's wishes for products. -/
def wishesBy (userId : String) (w : Tallies) : Nat :=
  w.wishes.count fun x => decide (x.userId = userId) && x.productId.isSome

def appreciationsBy (userId : String) (w : Tallies) : Nat := w.appreciations.count fun a => a.userId = userId

/-- What the call had read still stands at its write, and a counter write finds its product. -/
def Fresh (e : Event Tallies Step) : Prop :=
  match e.lbl with
  | .upsertWish row existing => (row.stored e.pre).isSome = existing
  | .gifting (.setStatus giftId _ _ _) => ∀ g ∈ e.pre.gifting.gifts.find giftId, g.status ≠ .cancelled
  | .purge userId => wishesBy userId e.pre = 0 ∧ appreciationsBy userId e.pre = 0
  | .countWish _ productId | .uncountWish _ productId | .countGift _ productId | .uncountGift _ productId =>
      (e.pre.products.find productId).isSome = true
  | _ => True

instance (e : Event Tallies Step) : Decidable (Fresh e) := by
  unfold Fresh
  split <;> infer_instance

/-! ### Counters -/

/-- What a counter label adds. -/
def Counter.addend (c : Counter) (hearts gifts : Int) : Int :=
  match c with
  | .wishlistedBy => hearts
  | .giftedBy => gifts

theorem Counter.addend_of_move (c : Counter) {l : Step} {q : String} {hearts gifts : Int}
    (hl : l.move = some (q, hearts, gifts)) (p : String) :
    ((c.ups p l).toNat : Int) - (c.downs p l).toNat = if q = p then c.addend hearts gifts else 0 := by
  cases c <;> cases l <;> cases hl <;> by_cases hq : q = p <;> simp [Counter.ups, Counter.downs, Counter.addend, hq]

section Counters

variable {c : Counter} {l : Step} {w w' : Tallies} {p : String}

theorem Counter.still_of_refused (hfresh : Fresh ⟨w, l, w'⟩) (hl : l.Refused w) :
    c.ups p l = false ∧ c.downs p l = false := by
  cases l with
  | countWish id q | uncountWish id q | countGift id q | uncountGift id q =>
      have hstored : (w.products.find q).isSome = true := hfresh
      have hnone : w.products.find q = none := hl
      rw [hnone] at hstored
      cases hstored
  | _ => cases c <;> exact ⟨rfl, rfl⟩

/-- **A fresh step moves a counter by its label.** -/
theorem Counter.value_step (h : Effect l w w') (hfresh : Fresh ⟨w, l, w'⟩) :
    c.value p w' = c.value p w + (c.ups p l).toNat - (c.downs p l).toNat := by
  have hsame (hproducts : w'.products = w.products) (hstill : c.ups p l = false ∧ c.downs p l = false) :
      c.value p w' = c.value p w + (c.ups p l).toNat - (c.downs p l).toNat := by
    rw [hstill.1, hstill.2, value, hproducts]
    simp [value]
  cases h with
  | quiet _ hl hproducts => exact hsame hproducts (still_of_refused hfresh hl)
  | product q t hwishlisted hgifted hcreate =>
      have hstill : c.ups p .environment = false ∧ c.downs p .environment = false := by
        cases c <;> exact ⟨rfl, rfl⟩
      have hzero : c.column q = 0 := by
        cases c
        · exact hwishlisted
        · exact hgifted
      have hnone := (create_eq_some hcreate).2
      rw [hstill.1, hstill.2]
      simp only [value, find_create hcreate]
      by_cases hq : q.id = p
      · rw [hq] at hnone
        simp [hq, hnone, hzero]
      · simp [hq]
  | move l q hearts gifts f hf hl hstored hhearts hgifts =>
      have hmove := c.addend_of_move hl p
      have hcolumn (r : Product) : c.column (f r) = c.column r + c.addend hearts gifts := by
        cases c
        · exact hhearts r
        · exact hgifts r
      simp only [value, find_update]
      by_cases hq : q = p
      · obtain ⟨r, hr⟩ := Option.isSome_iff_exists.mp hstored
        rw [if_pos hq] at hmove
        rw [← hq]
        simp only [hr, if_true, Option.map_some, hcolumn]
        rw [← hq] at hmove
        omega
      · rw [if_neg hq] at hmove
        rw [if_neg (Ne.symm hq)]
        omega
  | purge userId hproducts => exact hsame hproducts (by cases c <;> exact ⟨rfl, rfl⟩)
  | _ => exact hsame rfl (by cases c <;> exact ⟨rfl, rfl⟩)

end Counters

/-! ### What is counted -/

/-- What a step does to a guarded count of the gifts that are not cancelled. -/
theorem Effect.gifts_kept {w : Tallies} {l : Gifting.Step} {g : Gifting} {p : String}
    (hside : Gifting.Side l w.gifting g) (hfresh : Fresh ⟨w, .gifting l, { w with gifting := g }⟩) :
    Counter.size .giftedBy p { w with gifting := g } = Counter.size .giftedBy p w := by
  have hsame (hgifts : g.gifts = w.gifting.gifts) :
      Counter.size .giftedBy p { w with gifting := g } = Counter.size .giftedBy p w := by
    simp only [Counter.size, hgifts]
  cases l with
  | read | notify | environment | post => exact hsame hside.1
  | setStatus giftId found pick u =>
      obtain ⟨-, htarget, -, hgifts⟩ := hside
      have hlive : ∀ x ∈ w.gifting.gifts.find giftId, x.status ≠ .cancelled := hfresh
      simp only [Counter.size, hgifts, count_updateMany]
      refine count_congr fun x hx => ?_
      split
      next hpicked =>
        -- a gift that is written was not cancelled, and is not
        have hid : x.id = giftId := of_decide_eq_true (Bool.and_eq_true_iff.mp hpicked).1
        have hstatus : x.status ≠ .cancelled := by
          apply hlive
          rw [← hid]
          exact find_of_mem hx
        have hproduct : (u.write x).productId = x.productId := by cases u <;> rfl
        rw [hproduct, Gifting.Update.write_status, decide_eq_true hstatus, decide_eq_true htarget]
      next => rfl
  | createGift | carrier | shipment => exact hside.elim

theorem cancelled_one {w : Tallies} {giftId : String} {productId : Option String} {p : String}
    (hgift : GiftOf giftId productId w) (hcount : cancelCount giftId w ≠ 0) :
    ((w.gifting.gifts.updateMany
        (fun g => g.id = giftId && (Gifting.Pick.whileIn Gifting.cancellable).takes g.status)
        Gifting.Update.cancelled.write (Gifting.Update.write_id _)).count
      fun g => decide (g.productId = some p) && decide (g.status ≠ .cancelled)) + (decide (productId = some p)).toNat =
    Counter.size .giftedBy p w := by
  obtain ⟨g, hg, rfl⟩ := hgift
  obtain ⟨g', hg', htakes⟩ := count_pos (k := giftId)
    (fun r hr => of_decide_eq_true (Bool.and_eq_true_iff.mp hr).1) hcount
  have hsame : g' = g := by
    rw [hg] at hg'
    cases hg'
    rfl
  subst hsame
  have htaken := (Bool.and_eq_true_iff.mp htakes).2
  have hlive : g'.status ≠ .cancelled := by
    intro hcancelled
    rw [hcancelled] at htaken
    cases htaken
  -- among the stored gifts the guard picks this one alone
  have hone : w.gifting.gifts.updateMany
        (fun g => g.id = giftId && (Gifting.Pick.whileIn Gifting.cancellable).takes g.status)
        Gifting.Update.cancelled.write (Gifting.Update.write_id _) =
      w.gifting.gifts.update giftId Gifting.Update.cancelled.write (Gifting.Update.write_id _) := by
    refine updateMany_congr fun r hr => ?_
    by_cases hid : r.id = giftId
    · have hrow : r = g' := by
        have hfound := find_of_mem hr
        rw [hid, hg] at hfound
        cases hfound
        rfl
      rw [hrow, htaken, Bool.and_true]
    · simp [hid]
  have hmove : (w.gifting.gifts.update giftId Gifting.Update.cancelled.write (Gifting.Update.write_id _)).count
      (fun g => decide (g.productId = some p) && decide (g.status ≠ .cancelled)) + _ = _ := count_update hg
  have hgone : (decide ((Gifting.Update.cancelled.write g').productId = some p) &&
      decide ((Gifting.Update.cancelled.write g').status ≠ .cancelled)) = false := by
    simp [Gifting.Update.target]
  rw [hone]
  rw [hgone, decide_eq_true hlive, Bool.and_true] at hmove
  exact hmove

section Sizes

variable {c : Counter} {l : Step} {w w' : Tallies} {p : String}

theorem Counter.unmoved_of_refused (hl : l.Refused w) : c.gains p l w = false ∧ c.loses p l w = false := by
  cases l with
  | upsertWish row existing =>
      have hfails : succeeds (upsertWishTx row) w = false := hl
      cases c <;> simp [gains, loses, hfails]
  | createGift row =>
      have hfails : succeeds (createGiftTx row) w = false := hl
      cases c <;> simp [gains, loses, hfails]
  | deleteWish id q =>
      have hnone : w.wishes.find id = none := hl
      cases c <;> simp [gains, loses, hnone]
  | cancelGift giftId q =>
      have hnone : cancelCount giftId w = 0 := hl
      cases c <;> simp [gains, loses, hnone]
  | _ => cases c <;> exact ⟨rfl, rfl⟩

theorem Counter.unmoved_of_move {q : String} {hearts gifts : Int} (hl : l.move = some (q, hearts, gifts)) :
    c.gains p l w = false ∧ c.loses p l w = false := by
  cases l <;> cases hl <;> cases c <;> exact ⟨rfl, rfl⟩

/-- **A fresh step moves what is counted by the row it writes.** -/
theorem Counter.size_step (h : Effect l w w') (hfresh : Fresh ⟨w, l, w'⟩) :
    c.size p w' + (c.loses p l w).toNat = c.size p w + (c.gains p l w).toNat := by
  have hsame (hsize : c.size p w' = c.size p w) (hstill : c.gains p l w = false ∧ c.loses p l w = false) :
      c.size p w' + (c.loses p l w).toNat = c.size p w + (c.gains p l w).toNat := by
    rw [hstill.1, hstill.2, hsize]
  cases h with
  | quiet _ hl _ hwishes _ hgifts =>
      refine hsame ?_ (unmoved_of_refused hl)
      cases c
      · simp only [size, hwishes]
      · simp only [size, hgifts]
  | gifting l g hside =>
      refine hsame ?_ (by cases c <;> exact ⟨rfl, rfl⟩)
      cases c
      · rfl
      · exact Effect.gifts_kept hside hfresh
  | plainWish x t hproduct hid hcreate =>
      refine hsame ?_ (by cases c <;> exact ⟨rfl, rfl⟩)
      cases c
      · simp [size, count_create hcreate, hproduct]
      · rfl
  | fulfil q f hf huser hproduct =>
      refine hsame ?_ (by cases c <;> exact ⟨rfl, rfl⟩)
      cases c
      · simp only [size, count_updateMany]
        refine count_congr fun x _ => ?_
        split
        · rw [hproduct]
        · rfl
      · rfl
  | heart row existing x t hok hstored hproduct hid hcreate =>
      cases c with
      | wishlistedBy =>
          have hexisting : (row.stored w).isSome = existing := hfresh
          rw [hstored] at hexisting
          subst hexisting
          simp [size, gains, loses, count_create hcreate, hok, hproduct, Bool.toNat, cond_eq_ite]
      | giftedBy => exact hsame rfl ⟨rfl, rfl⟩
  | refresh row existing x hok hstored =>
      cases c with
      | wishlistedBy =>
          have hexisting : (row.stored w).isSome = existing := hfresh
          rw [hstored] at hexisting
          subst hexisting
          refine hsame ?_ (by simp [gains, loses])
          simp only [size, update, count_updateMany]
          refine count_congr fun y _ => ?_
          split
          · rfl
          · rfl
      | giftedBy => exact hsame rfl ⟨rfl, rfl⟩
  | deleteWish id q hlinked hstored =>
      cases c with
      | wishlistedBy =>
          obtain ⟨x, hx⟩ := Option.isSome_iff_exists.mp hstored
          have hcount := count_erase (q := fun x => decide (x.productId = some p)) hx
          rw [hlinked.product x hx] at hcount
          simpa [size, gains, loses, hstored] using hcount
      | giftedBy => exact hsame rfl ⟨rfl, rfl⟩
  | createGift row g t hok hproduct hstatus hcreate =>
      cases c with
      | wishlistedBy => exact hsame rfl ⟨rfl, rfl⟩
      | giftedBy => simp [size, gains, loses, count_create hcreate, hok, hproduct, hstatus, Bool.toNat, cond_eq_ite]
  | cancelGift giftId q hgift hcount =>
      cases c with
      | wishlistedBy => exact hsame rfl ⟨rfl, rfl⟩
      | giftedBy =>
          have hone := cancelled_one (p := p) hgift hcount
          simpa [size, gains, loses, hcount] using hone
  | purge userId _ hwishes _ hgifts =>
      refine hsame ?_ (by cases c <;> exact ⟨rfl, rfl⟩)
      cases c with
      | wishlistedBy =>
          obtain ⟨hnone, -⟩ : wishesBy userId w = 0 ∧ appreciationsBy userId w = 0 := hfresh
          simp only [size, hwishes, count_deleteMany]
          refine count_congr fun x hx => ?_
          have hother := List.countP_eq_zero.mp hnone x hx
          by_cases hproduct : x.productId = some p
          · simp [hproduct] at hother ⊢
            exact hother
          · simp [hproduct]
      | giftedBy => simp only [size, hgifts]
  | move l q hearts gifts f hf hl => exact hsame (by cases c <;> rfl) (unmoved_of_move hl)
  | product | appreciate | unappreciate => exact hsame (by cases c <;> rfl) (by cases c <;> exact ⟨rfl, rfl⟩)

end Sizes

end Qift.Tallies
