import Qift.Addresses.Effects
import Qift.Lib.Settling

/-!
# One default address

* `OneDefault` — a user with an address has one default address, and no user has two.
* `Fresh` — what a request had read of the user's addresses is still so when it writes: a new address that is not to
  be the default finds another one, and a rewritten or deleted address still carries the flag that was read.
* **`Effect.oneDefault_iff`** — where there was one default, there is one after an action exactly if it is fresh.
* **`Run.one_default`** — it holds in every state of a run whose actions are fresh.
* `Run.two_defaults` — an update and a change of the default that overlap leave a user with two defaults.
-/

namespace Qift.Addresses

open Relational Relational.Table Interleaving

/-- A user with an address has one default address, and no user has two. -/
def OneDefault (t : Table Address.id) : Prop :=
  ∀ userId, t.count (Address.defaultOf userId) = min 1 (t.count (Address.ownedBy userId))

/-! ### Counts of one user -/

section Counts

variable {t t' : Table Address.id} {userId : String} {addressId : Nat} {a : Address}

theorem defaultOf_toNat (userId : String) (a : Address) :
    (a.defaultOf userId).toNat = if a.userId = userId then a.isDefault.toNat else 0 := by
  by_cases h : a.userId = userId <;> simp [Address.defaultOf, h]

theorem ownedBy_toNat (userId : String) (a : Address) :
    (a.ownedBy userId).toNat = if a.userId = userId then 1 else 0 := by
  by_cases h : a.userId = userId <;> simp [Address.ownedBy, h]

theorem count_default_le (t : Table Address.id) (userId : String) :
    t.count (Address.defaultOf userId) ≤ t.count (Address.ownedBy userId) := by
  refine List.countP_mono_left fun a _ h => ?_
  simp only [Address.defaultOf, Bool.and_eq_true] at h
  exact h.1

/-- A stored address is among its owner's. -/
theorem owned_pos (h : t.find addressId = some a) : 0 < t.count (Address.ownedBy a.userId) :=
  List.countP_pos_iff.mpr ⟨a, mem_of_find h, by simp [Address.ownedBy]⟩

section Rewrite

variable {f : Address → Address} {hf : ∀ a, (f a).id = a.id}

theorem count_default_update (h : t.find addressId = some a) (howner : (f a).userId = a.userId) (userId : String) :
    (t.update addressId f hf).count (Address.defaultOf userId) +
        (if a.userId = userId then a.isDefault.toNat else 0) =
      t.count (Address.defaultOf userId) + if a.userId = userId then (f a).isDefault.toNat else 0 := by
  have hcount : (t.update addressId f hf).count (Address.defaultOf userId) + _ = _ := count_update h
  rwa [defaultOf_toNat, defaultOf_toNat, howner] at hcount

theorem count_owned_update (h : t.find addressId = some a) (howner : (f a).userId = a.userId) (userId : String) :
    (t.update addressId f hf).count (Address.ownedBy userId) = t.count (Address.ownedBy userId) := by
  have hcount : (t.update addressId f hf).count (Address.ownedBy userId) + _ = _ := count_update h
  rw [ownedBy_toNat, ownedBy_toNat, howner] at hcount
  exact Nat.add_right_cancel hcount

end Rewrite

theorem oneDefault_iff_user (userId : String) (h : OneDefault t)
    (hothers : ∀ other, other ≠ userId → t'.count (Address.defaultOf other) = t.count (Address.defaultOf other) ∧
      t'.count (Address.ownedBy other) = t.count (Address.ownedBy other)) :
    OneDefault t' ↔ t'.count (Address.defaultOf userId) = min 1 (t'.count (Address.ownedBy userId)) := by
  constructor
  · intro h'
    exact h' userId
  · intro h' other
    by_cases hother : other = userId
    · rw [hother]
      exact h'
    · obtain ⟨hdefault, howned⟩ := hothers other hother
      rw [hdefault, howned]
      exact h other

end Counts

section Base

variable {w : Addresses} {userId : String}

theorem count_base_default (clears : Bool) (other : String) :
    (base w userId clears).count (Address.defaultOf other) =
      if clears = true ∧ other = userId then 0 else w.addresses.count (Address.defaultOf other) := by
  cases clears with
  | false => simp [base]
  | true =>
      have hcount := count_cleared_default w.addresses userId other
      simpa [base] using hcount

theorem count_base_owned (clears : Bool) (other : String) :
    (base w userId clears).count (Address.ownedBy other) = w.addresses.count (Address.ownedBy other) := by
  cases clears with
  | false => rfl
  | true => exact count_cleared_owned w.addresses userId other

theorem find_base (clears : Bool) {k : Nat} {a : Address} (h : w.addresses.find k = some a) (howner : a.userId = userId) :
    ∃ b, (base w userId clears).find k = some b ∧ b.userId = userId ∧ b.isDefault = (!clears && a.isDefault) := by
  cases clears with
  | false => exact ⟨a, h, howner, rfl⟩
  | true =>
      refine ⟨_, (find_cleared w.addresses userId k).trans (congrArg _ h), ?_⟩
      dsimp only
      split
      next => exact ⟨howner, rfl⟩
      next hdefault =>
        refine ⟨howner, ?_⟩
        simpa [Address.defaultOf, howner] using hdefault

end Base

/-! ### The newest address -/

theorem newestOf_eq_none {userId : String} {t : Table Address.id} (h : newestOf userId t = none) :
    t.count (Address.ownedBy userId) = 0 := by
  have hfold (xs : List Address) (best : Option Address)
      (hbest : xs.foldl (fun best a => if best.all (fun b => b.id < a.id) then some a else best) best = none) :
      xs = [] ∧ best = none := by
    induction xs generalizing best with
    | nil => exact ⟨rfl, hbest⟩
    | cons a xs ih =>
        obtain ⟨-, hhead⟩ := ih _ hbest
        dsimp only at hhead
        split at hhead
        next => cases hhead
        next hall => simp [hhead] at hall
  have hnil := (hfold _ _ h).1
  refine List.countP_eq_zero.mpr fun a ha howned => ?_
  have hmem : a ∈ t.rows.filter fun a => decide (a.userId = userId) := List.mem_filter.mpr ⟨ha, howned⟩
  rw [hnil] at hmem
  cases hmem

/-! ### The law of the default -/

/-- The address carries the flag that was read, while it is stored. -/
def Carries (addressId : Nat) (flag : Bool) (w : Addresses) : Prop :=
  ∀ a, w.addresses.find addressId = some a → a.isDefault = flag

theorem carries_of_find {addressId : Nat} {flag : Bool} {w : Addresses} {a : Address}
    (h : w.addresses.find addressId = some a) : Carries addressId flag w ↔ a.isDefault = flag := by
  constructor
  · intro hcarries
    exact hcarries a h
  · intro hflag b hb
    rw [h] at hb
    cases hb
    exact hflag

theorem carries_of_none {addressId : Nat} {flag : Bool} {w : Addresses} (h : w.addresses.find addressId = none) :
    Carries addressId flag w := by
  intro a ha
  rw [h] at ha
  cases ha

/-- What a write takes from an earlier read is still so, or does no harm. -/
def Fresh (e : Event Addresses Step) : Prop :=
  match e.lbl with
  | .create userId wantsDefault _ => wantsDefault = true ∨ 0 < countAddresses userId e.pre
  | .update _ addressId found wantsDefault _ => (wantsDefault = true ∧ found = false) ∨ Carries addressId found e.pre
  | .remove userId addressId found =>
      Carries addressId found e.pre ∨
        if found = true then (newestOf userId (e.pre.addresses.erase addressId)).any Address.isDefault = true
        else countAddresses userId e.pre = 1
  | _ => True

section Writes

variable {w : Addresses} (hw : OneDefault w.addresses)
include hw

/-- A new address: the default takes the flag, another one needs a default that is there. -/
theorem oneDefault_create {a : Address} {t : Table Address.id}
    (hcreate : (base w a.userId a.isDefault).create a = some t) :
    OneDefault t ↔ a.isDefault = true ∨ 0 < countAddresses a.userId w := by
  have hdefault (other : String) := count_create hcreate (Address.defaultOf other)
  have howned (other : String) := count_create hcreate (Address.ownedBy other)
  simp only [count_base_default, count_base_owned] at hdefault howned
  rw [oneDefault_iff_user a.userId hw fun other hother => ?_]
  · have hbefore := hw a.userId
    rw [hdefault, howned, countAddresses]
    cases hflag : a.isDefault with
    | true => simp [Address.defaultOf, Address.ownedBy, hflag]
    | false =>
        simp only [Address.defaultOf, Address.ownedBy, hflag, Bool.and_false, decide_true]
        simp
        omega
  · rw [hdefault, howned]
    simp [Address.defaultOf, Address.ownedBy, hother, Ne.symm hother]

/-- A rewritten address whose flag becomes `flag`. -/
theorem oneDefault_update {userId : String} {addressId : Nat} {clears : Bool} (flag : Bool) {a : Address}
    {f : Address → Address} (hf : ∀ a, (f a).id = a.id) (hfind : w.addresses.find addressId = some a)
    (howner : a.userId = userId) (hkeeps : ∀ a, (f a).userId = a.userId) (hflag : ∀ a, (f a).isDefault = flag) :
    OneDefault ((base w userId clears).update addressId f hf) ↔ flag = (clears || a.isDefault) := by
  obtain ⟨b, hb, hbowner, hbflag⟩ := find_base clears hfind howner
  have hdefault : ∀ other, ((base w userId clears).update addressId f hf).count (Address.defaultOf other) + _ = _ :=
    count_default_update hb (hkeeps b)
  have howned : ∀ other, ((base w userId clears).update addressId f hf).count (Address.ownedBy other) = _ :=
    count_owned_update hb (hkeeps b)
  simp only [count_base_default, count_base_owned, hbowner, hbflag, hflag] at hdefault howned
  rw [oneDefault_iff_user userId hw fun other hother => ⟨?_, howned other⟩]
  · have hpos := owned_pos hfind
    have hbefore := hw userId
    have hafter := hdefault userId
    rw [howner] at hpos
    rw [howned]
    cases clears <;> cases hold : a.isDefault <;> cases flag <;> simp [hold] at hafter ⊢ <;> omega
  · have hafter := hdefault other
    simpa [hother, Ne.symm hother] using hafter

/-- An address that is dropped, without a promotion. -/
theorem oneDefault_erase {addressId : Nat} {a : Address} (hfind : w.addresses.find addressId = some a) :
    OneDefault (w.addresses.erase addressId) ↔ a.isDefault = false ∨ countAddresses a.userId w = 1 := by
  have hdefault (other : String) := count_erase (q := Address.defaultOf other) hfind
  have howned (other : String) := count_erase (q := Address.ownedBy other) hfind
  simp only [defaultOf_toNat, ownedBy_toNat] at hdefault howned
  rw [oneDefault_iff_user a.userId hw fun other hother => ?_]
  · have hpos := owned_pos hfind
    have hbefore := hw a.userId
    have hle := count_default_le (w.addresses.erase addressId) a.userId
    have hdefault := hdefault a.userId
    have howned := howned a.userId
    rw [countAddresses]
    cases hflag : a.isDefault <;> simp [hflag] at hdefault howned ⊢ <;> omega
  · have hdefault := hdefault other
    have howned := howned other
    rw [if_neg (Ne.symm hother)] at hdefault howned
    exact ⟨hdefault, howned⟩

theorem oneDefault_promote {addressId : Nat} {a next : Address} (hfind : w.addresses.find addressId = some a)
    (hnext : newestOf a.userId (w.addresses.erase addressId) = some next) {f : Address → Address}
    (hf : ∀ a, (f a).id = a.id) (hkeeps : ∀ a, (f a).userId = a.userId) (hflag : ∀ a, (f a).isDefault = true) :
    OneDefault ((w.addresses.erase addressId).update next.id f hf) ↔ a.isDefault = true ∨ next.isDefault = true := by
  obtain ⟨hrow, howner⟩ := newestOf_mem hnext
  have hstored := find_of_mem hrow
  have herased (other : String) := count_erase (q := Address.defaultOf other) hfind
  have hleft (other : String) := count_erase (q := Address.ownedBy other) hfind
  have hdefault : ∀ other, ((w.addresses.erase addressId).update next.id f hf).count (Address.defaultOf other) + _ = _ :=
    count_default_update hstored (hkeeps next)
  have howned : ∀ other, ((w.addresses.erase addressId).update next.id f hf).count (Address.ownedBy other) = _ :=
    count_owned_update hstored (hkeeps next)
  simp only [defaultOf_toNat, ownedBy_toNat, howner, hflag] at herased hleft hdefault howned
  rw [oneDefault_iff_user a.userId hw fun other hother => ?_]
  · have hpos := owned_pos hstored
    rw [howner] at hpos
    have hbefore := hw a.userId
    have herased := herased a.userId
    have hleft := hleft a.userId
    have hdefault := hdefault a.userId
    have hflagged := count_erase (q := Address.defaultOf a.userId) hstored
    rw [defaultOf_toNat, if_pos howner] at hflagged
    rw [howned]
    cases hold : a.isDefault <;> cases hnew : next.isDefault <;> 
      simp [hold, hnew] at herased hleft hdefault hflagged ⊢ <;> omega
  · have herased := herased other
    have hleft := hleft other
    have hdefault := hdefault other
    rw [if_neg (Ne.symm hother)] at herased hleft
    rw [if_neg (Ne.symm hother), if_neg (Ne.symm hother)] at hdefault
    exact ⟨hdefault.trans herased, (howned other).trans hleft⟩

end Writes

/-- **One action**: where there was one default, there is one afterwards exactly if the action is fresh. -/
theorem Effect.oneDefault_iff {l : Step} {w w' : Addresses} (h : Effect l w w') (hw : OneDefault w.addresses) :
    OneDefault w'.addresses ↔ Fresh ⟨w, l, w'⟩ := by
  cases h with
  | quiet _ hl haddresses =>
      rw [haddresses]
      refine iff_of_true hw ?_
      cases l with
      | create | resolve => exact hl.elim
      | update userId addressId found wants had => exact .inr (carries_of_none hl)
      | remove userId addressId found => exact .inl (carries_of_none hl)
      | read | environment | setDefault | attempt | wake | ask => trivial
  | create a had t hid hcreate => exact oneDefault_create hw hcreate
  | update userId addressId found wants had fields howned hstored =>
      obtain ⟨a, ha⟩ := Option.isSome_iff_exists.mp hstored
      change _ ↔ (wants = true ∧ found = false) ∨ Carries addressId found w
      rw [carries_of_find ha]
      refine (oneDefault_update hw (if wants then true else found) (fun _ => by rfl) ha (howned.owner a ha)
        (fun _ => by rfl) fun _ => by rfl).trans ?_
      cases found <;> cases wants <;> cases a.isDefault <;> simp
  | setDefault userId addressId had howned hstored =>
      obtain ⟨a, ha⟩ := Option.isSome_iff_exists.mp hstored
      refine iff_of_true ?_ trivial
      have hcleared : OneDefault ((base w userId true).update addressId (fun a => { a with isDefault := true })
          fun _ => rfl) := (oneDefault_update hw true (fun _ => by rfl) ha (howned.owner a ha)
            (fun _ => by rfl) fun _ => by rfl).mpr rfl
      exact hcleared
  | remove userId addressId howned hstored =>
      obtain ⟨a, ha⟩ := Option.isSome_iff_exists.mp hstored
      refine (oneDefault_erase hw ha).trans ?_
      change _ ↔ Carries addressId false w ∨ countAddresses userId w = 1
      rw [carries_of_find ha, howned.owner a ha]
  | promote userId addressId howned hstored t hnone hsome =>
      obtain ⟨a, ha⟩ := Option.isSome_iff_exists.mp hstored
      obtain rfl := howned.owner a ha
      change OneDefault t ↔ Carries addressId true w ∨
        (newestOf a.userId (w.addresses.erase addressId)).any Address.isDefault = true
      rw [carries_of_find ha]
      cases hnext : newestOf a.userId (w.addresses.erase addressId) with
      | none =>
          -- nothing is left to promote: what was dropped was the only address, and the default
          have honly : countAddresses a.userId w = 1 := by
            have herased := count_erase (q := Address.ownedBy a.userId) ha
            rw [newestOf_eq_none hnext, ownedBy_toNat, if_pos rfl] at herased
            exact herased.symm
          have hflag : a.isDefault = true := by
            by_contra hother
            have hzero := count_default_le (w.addresses.erase addressId) a.userId
            have herased := count_erase (q := Address.defaultOf a.userId) ha
            rw [newestOf_eq_none hnext] at hzero
            rw [defaultOf_toNat, if_pos rfl, hw a.userId] at herased
            simp only [Bool.not_eq_true] at hother
            simp only [hother, Bool.toNat_false] at herased
            have hpos := owned_pos ha
            omega
          rw [hnone hnext]
          exact iff_of_true ((oneDefault_erase hw ha).mpr (.inr honly)) (.inl hflag)
      | some next =>
          rw [hsome next hnext, oneDefault_promote hw ha hnext (fun _ => by rfl) (fun _ => by rfl) fun _ => by rfl,
            Option.any_some]
  | attempt x t => exact iff_of_true hw trivial
  | resolve receiverId waiting now => exact iff_of_true hw trivial

theorem oneDefault_empty : OneDefault empty.addresses := by
  intro userId
  rfl

/-- **One default address**, in every state of a run whose writes are fresh. -/
theorem Run.one_default {tr : List (Event Addresses Step)} {cfg : Config Addresses Step (Except Err Reply)}
    (h : Run tr cfg) (hfresh : ∀ e ∈ tr, Fresh e) (userId : String) :
    countDefaults userId cfg.state ≤ 1 ∧ (0 < countAddresses userId cfg.state → countDefaults userId cfg.state = 1) := by
  have hone : OneDefault cfg.state.addresses :=
    (Run.path h).invariant (P := fun w => OneDefault w.addresses)
      (fun _ _ _ hact hC hs => (hact.oneDefault_iff hs).mpr hC) hfresh oneDefault_empty
  have hcount : countDefaults userId cfg.state = min 1 (countAddresses userId cfg.state) := hone userId
  omega

/-! ### Two defaults -/

instance (addressId : Nat) (flag : Bool) (w : Addresses) : Decidable (Carries addressId flag w) :=
  decidable_of_iff ((w.addresses.find addressId).all fun a => a.isDefault == flag) (by
    rw [Carries]
    cases w.addresses.find addressId <;> simp)

instance (e : Event Addresses Step) : Decidable (Fresh e) := by
  unfold Fresh
  split
  · infer_instance
  · infer_instance
  · infer_instance
  · exact .isTrue trivial

namespace Pilot

/-- Follow a schedule from the empty database. -/
def played (schedule : List (Choice Call)) : List (Event Addresses Step) × Config Addresses Step (Except Err Reply) :=
  Config.play program ⟨empty, []⟩ schedule

theorem run (schedule : List (Choice Call)) : Run (played schedule).1 (played schedule).2 := by
  have hinit : Run [] ⟨empty, []⟩ := Exec.init
  simpa [played] using hinit.play schedule

/-- Start a call and let it end. -/
def toEnd (c : Call) : List (Choice Call) := .start c :: List.replicate 12 (.run 0)

/-- A house in a country without rules of its own. -/
def house : AddressInput := { country := some "FR", city := some "Lyon", district := some "Bellecour" }

/-- Huda's home, her default, and her office. -/
def housed : List (Choice Call) := toEnd (.create "huda" house) ++ toEnd (.create "huda" house)

/-- She makes the office her default, and deletes it: the home is promoted. -/
def moved : List (Choice Call) :=
  housed ++ toEnd (.update "huda" 0 house) ++ toEnd (.setDefault "huda" 1) ++ toEnd (.remove "huda" 1)

/-- She edits the home, not minding the flag; before the edit is written, the office becomes the default. -/
def overtaken : List (Choice Call) :=
  housed ++ .start (.update "huda" 0 house) :: List.replicate 2 (.run 0) ++ toEnd (.setDefault "huda" 1) ++
    List.replicate 3 (.run 1)

end Pilot

theorem Run.one_default_moved : countDefaults "huda" (Pilot.played Pilot.moved).2.state ≤ 1 ∧
    (0 < countAddresses "huda" (Pilot.played Pilot.moved).2.state →
      countDefaults "huda" (Pilot.played Pilot.moved).2.state = 1) :=
  Run.one_default (Pilot.run Pilot.moved) (by decide +kernel) "huda"

/-- **Two defaults**: no call is in progress, and Huda's home and her office both carry the flag. -/
theorem Run.two_defaults : ∃ tr cfg, Run tr cfg ∧ cfg.Quiet ∧ countDefaults "huda" cfg.state = 2 :=
  ⟨_, _, Pilot.run Pilot.overtaken, by decide +kernel⟩

end Qift.Addresses
