import Qift.Canonical
import Qift.Shop.Charges

/-!
# Gift requests with an idempotency key

* Two requests have one digest exactly if their canonicalised fields agree (`computeGiftRequestHash_eq_iff`).
* `Keyed` is what holds of the stored gifts in every run: a sender and a key have one gift.
* One judgment on `create` says what it answers, what it inserts and, as long as it inserts nothing, that it does
  nothing but look and note an attempt; `Run.idempotent` puts them together.
-/

namespace Qift.Shop.Counter

open Relational Interleaving

/-! ### The digest of a request -/

/-- A value without parts or number. -/
def IsFlat : Json → Prop
  | .null | .bool _ | .str _ => True
  | _ => False

theorem Same.eq_of_flat {x y : Json} (h : x.Same y) (hx : IsFlat x) : x = y := by
  cases h with
  | null | bool | str => rfl
  | num | arr | obj => exact hx.elim

theorem sameMembers_eq_of_flat {ms ns : List (String × Json)} (h : Json.SameMembers ms ns)
    (hflat : ∀ m ∈ ms, IsFlat m.2) : ms = ns := by
  induction ms generalizing ns with
  | nil =>
      cases h
      rfl
  | cons m rest ih =>
      cases h with
      | cons hvalue hrest =>
          rw [Same.eq_of_flat hvalue (hflat _ (List.mem_cons_self ..)),
            ih hrest fun m hm => hflat m (List.mem_cons_of_mem _ hm)]

theorem keys_of_sameMembers {ms ns : List (String × Json)} (h : Json.SameMembers ms ns) :
    ms.map Prod.fst = ns.map Prod.fst := by
  induction ms generalizing ns with
  | nil =>
      cases h
      rfl
  | cons m rest ih =>
      cases h with
      | cons hvalue hrest => rw [List.map_cons, List.map_cons, ih hrest]

/-- A reordering that leaves the keys where they are is none. -/
theorem eq_of_perm_of_keys {ms ns : List (String × Json)} (hperm : ms.Perm ns) (hnodup : (ms.map Prod.fst).Nodup)
    (hkeys : ms.map Prod.fst = ns.map Prod.fst) : ms = ns := by
  induction ms generalizing ns with
  | nil => exact (List.Perm.nil_eq hperm)
  | cons m rest ih =>
      cases ns with
      | nil => cases hkeys
      | cons n others =>
          rw [List.map_cons, List.map_cons, List.cons.injEq] at hkeys
          rw [List.map_cons, List.nodup_cons] at hnodup
          obtain rfl : m = n := by
            rcases List.mem_cons.mp (hperm.mem_iff.mp (List.mem_cons_self ..)) with heq | hmem
            · exact heq
            · refine absurd ?_ hnodup.1
              rw [hkeys.2]
              exact List.mem_map_of_mem hmem
          rw [ih ((List.perm_cons m).mp hperm) hnodup.2 hkeys.2]

/-- The fields a digest covers. -/
def coveredKeys : List String :=
  ["receiverUsername", "productName", "storeName", "productId", "storeId", "messageText", "isAnonymous", "isSurprise",
    "isFastDelivery", "storeCity", "occasionId", "mediaUrl", "mediaType"]

theorem flat_textOrNull (s : Option String) : IsFlat (Settlement.textOrNull s) := by
  cases s <;> trivial

theorem wellFormed_of_flat {x : Json} (h : IsFlat x) : x.WellFormed ∅ := by
  cases x with
  | null | bool | str => simp [Json.WellFormed]
  | num | arr | obj => exact h.elim

theorem canonical_shape (body : CreateGiftInput) :
    ∃ members, body.canonical = .obj members ∧ members.map Prod.fst = coveredKeys ∧ ∀ m ∈ members, IsFlat m.2 := by
  refine ⟨_, rfl, rfl, fun m hm => ?_⟩
  simp only [List.mem_cons, List.not_mem_nil, or_false] at hm
  rcases hm with rfl | rfl | rfl | rfl | rfl | rfl | rfl | rfl | rfl | rfl | rfl | rfl | rfl <;>
    first
      | exact flat_textOrNull _
      | trivial

theorem coveredKeys_nodup : coveredKeys.Nodup := by decide

theorem canonical_wellFormed (body : CreateGiftInput) : body.canonical.WellFormed ∅ := by
  obtain ⟨members, heq, hkeys, hflat⟩ := canonical_shape body
  rw [heq, Json.WellFormed, hkeys]
  exact ⟨coveredKeys_nodup, (Json.wellFormedMembers_iff members).mpr fun m hm => wellFormed_of_flat (hflat m hm)⟩

theorem canonical_eq_of_same {body other : CreateGiftInput} (h : body.canonical.Same other.canonical) :
    body.canonical = other.canonical := by
  obtain ⟨ms, hms, hkeys, hflat⟩ := canonical_shape body
  obtain ⟨ns, hns, hkeys', -⟩ := canonical_shape other
  rw [hms, hns] at h ⊢
  cases h with
  | obj hperm hsame =>
      have hordered := (keys_of_sameMembers hsame).trans (hkeys'.trans hkeys.symm)
      have heq := eq_of_perm_of_keys hperm (hkeys ▸ coveredKeys_nodup) hordered.symm
      rw [← heq] at hsame
      rw [sameMembers_eq_of_flat hsame hflat]

section Digest

variable [Runtime]

theorem numberTexts_empty : NumberTexts ∅ where
  injective := Set.injOn_empty _
  nonempty _ hx := hx.elim
  letters _ hx := hx.elim

/-- **The digest identifies the covered fields.** -/
theorem computeGiftRequestHash_eq_iff (hsha : Function.Injective Runtime.sha256Hex) (body other : CreateGiftInput) :
    computeGiftRequestHash body = computeGiftRequestHash other ↔ body.canonical = other.canonical := by
  constructor
  · intro h
    exact canonical_eq_of_same ((hashCanonical_eq_iff_same numberTexts_empty hsha (canonical_wellFormed body)
      (canonical_wellFormed other)).mp h)
  · intro h
    rw [computeGiftRequestHash, computeGiftRequestHash, h]

end Digest

/-! ### The stored gifts -/

/-- A sender and a key have one gift. -/
def Keyed (w : Shop) : Prop :=
  ∀ g ∈ w.gifts.rows, ∀ x ∈ w.gifts.rows, g.senderId = x.senderId → g.idempotencyKey = x.idempotencyKey →
    g.idempotencyKey ≠ none → g = x

/-- Gifts are made, one at a time, and stay. -/
theorem Effect.gifts {l : Place} {w w' : Shop} (h : Effect l w w') :
    w'.gifts = w.gifts ∨ ∃ g t, w.gifts.create g = some t ∧
      (∀ x ∈ w.gifts.rows, gift.conflict g x = false) ∧ w'.gifts = t := by
  cases h with
  | createGift desk hid hcreate hfree => exact .inr ⟨_, _, hcreate, hfree, rfl⟩
  | idle | surround | placeOrder | giftAttempt | fulfil | lock | gateway | settle | recordFailed | post =>
      exact .inl rfl

theorem Effect.keepGift {l : Place} {w w' : Shop} (h : Effect l w w') {g : Gift} (hg : g ∈ w.gifts.rows) :
    g ∈ w'.gifts.rows := by
  rcases h.gifts with hsame | ⟨x, t, hcreate, -, ht⟩
  · rw [hsame]
    exact hg
  · rw [ht]
    exact (Table.mem_create hcreate).mpr (.inl hg)

theorem keepGift_later {w w' : Shop} (hrely : Rely Effect w w') {g : Gift} (hg : g ∈ w.gifts.rows) :
    g ∈ w'.gifts.rows :=
  hrely.stable (P := fun w => g ∈ w.gifts.rows) (fun _ _ _ heffect => heffect.keepGift) hg

theorem Effect.keyed {l : Place} {w w' : Shop} (h : Effect l w w') (hkeyed : Keyed w) : Keyed w' := by
  rcases h.gifts with hsame | ⟨g, t, hcreate, hfree, ht⟩
  · unfold Keyed
    rw [hsame]
    exact hkeyed
  · -- the gift that is new conflicts with no gift of its sender and key
    have hnew {x : Gift} (hx : x ∈ w.gifts.rows) (hsender : g.senderId = x.senderId)
        (hkey : g.idempotencyKey = x.idempotencyKey) (hsome : g.idempotencyKey ≠ none) : False :=
      of_decide_eq_false (hfree x hx) (.inr ⟨hsender, hkey, hsome⟩)
    unfold Keyed
    rw [ht]
    intro a ha b hb hsender hkey hsome
    rcases (Table.mem_create hcreate).mp ha with ha | rfl
    · rcases (Table.mem_create hcreate).mp hb with hb | rfl
      · exact hkeyed a ha b hb hsender hkey hsome
      · exact (hnew ha hsender.symm hkey.symm (by rw [← hkey]; exact hsome)).elim
    · rcases (Table.mem_create hcreate).mp hb with hb | rfl
      · exact (hnew hb hsender hkey hsome).elim
      · rfl

/-! ### What a gift request answers and inserts -/

section Requests

variable [Runtime]

/-- The gift a request stands for. -/
structure MadeFor (body : CreateGiftInput) (viewerUserId : Nat) (idempotencyKey : Option String) (g : Gift) :
    Prop where
  sender : g.senderId = viewerUserId
  key : g.idempotencyKey = trimOrNull idempotencyKey
  digest : g.idempotencyRequestHash = (trimOrNull idempotencyKey).map fun _ => computeGiftRequestHash body

/-- An answer is a stored gift the request stands for; without a key it is a new one. -/
def Answered (body : CreateGiftInput) (viewerUserId : Nat) (idempotencyKey : Option String)
    (result : CreateGiftResult) (w : Shop) : Prop :=
  result.gift ∈ w.gifts.rows ∧ MadeFor body viewerUserId idempotencyKey result.gift ∧
    (trimOrNull idempotencyKey = none → result.replayed = false)

/-- The key of a request has the gift of another request. -/
def KeyTaken (body : CreateGiftInput) (viewerUserId : Nat) (idempotencyKey : Option String) (w : Shop) : Prop :=
  ∃ key, trimOrNull idempotencyKey = some key ∧ ∃ g ∈ w.gifts.rows, g.senderId = viewerUserId ∧
    g.idempotencyKey = some key ∧ g.idempotencyRequestHash ≠ some (computeGiftRequestHash body)

/-- How a gift request ends: with an answer, or with a refusal that is a conflict only if the key is taken. -/
def CreateEnds (body : CreateGiftInput) (viewerUserId : Nat) (idempotencyKey : Option String)
    (r : Except Err CreateGiftResult) (w : Shop) : Prop :=
  (∀ result, r = .ok result → Answered body viewerUserId idempotencyKey result w) ∧
    ∀ m, r = .error (.conflict m) → KeyTaken body viewerUserId idempotencyKey w

variable {body : CreateGiftInput} {viewerUserId : Nat} {idempotencyKey : Option String}

theorem Answered.later {result : CreateGiftResult} {w w' : Shop}
    (h : Answered body viewerUserId idempotencyKey result w) (hrely : Rely Effect w w') :
    Answered body viewerUserId idempotencyKey result w' :=
  ⟨keepGift_later hrely h.1, h.2⟩

theorem KeyTaken.later {w w' : Shop} (h : KeyTaken body viewerUserId idempotencyKey w) (hrely : Rely Effect w w') :
    KeyTaken body viewerUserId idempotencyKey w' := by
  obtain ⟨key, hkey, g, hg, htaken⟩ := h
  exact ⟨key, hkey, g, keepGift_later hrely hg, htaken⟩

theorem CreateEnds.ok {result : CreateGiftResult} {w : Shop} (h : Answered body viewerUserId idempotencyKey result w) :
    CreateEnds body viewerUserId idempotencyKey (.ok result) w := by
  refine ⟨fun result' hr => ?_, fun _ hm => (nomatch hm)⟩
  cases hr
  exact h

theorem CreateEnds.error {e : Err} {w : Shop} (h : NoConflict e) :
    CreateEnds body viewerUserId idempotencyKey (.error e) w := by
  refine ⟨fun _ hr => (nomatch hr), fun m hm => ?_⟩
  cases hm
  exact absurd rfl (h m)

theorem CreateEnds.conflict {m : String} {w : Shop} (h : KeyTaken body viewerUserId idempotencyKey w) :
    CreateEnds body viewerUserId idempotencyKey (.error (.conflict m)) w :=
  ⟨fun _ hr => (nomatch hr), fun _ _ => h⟩

def InsertsNothing (asked : Bool) (desk : Desk) (e : Event Shop Place) : Prop :=
  asked = true → e.lbl = ⟨desk, .createGift⟩ → e.post = e.pre

/-- The actions of the request at a desk: a gift it inserts is the one it stands for, and one that inserts nothing only
looks. -/
def RequestActs (body : CreateGiftInput) (viewerUserId : Nat) (idempotencyKey : Option String) (asked : Bool)
    (desk : Desk) (l : Place) (w w' : Shop) : Prop :=
  Effect l w w' ∧ (l.desk = desk →
    (l.step = .createGift → ∀ g ∈ w'.gifts.rows, g ∈ w.gifts.rows ∨ MadeFor body viewerUserId idempotencyKey g) ∧
      (asked = true → isLookStep l.step = true ∨ w' = w))

variable {asked : Bool} {desk : Desk} {w : Shop}

theorem Looks.under {α : Type} {x : Service α} (h : Looks desk x) :
    x.Under (InsertsNothing asked desk) (Rely Effect) (RequestActs body viewerUserId idempotencyKey asked desk)
      (fun r _ => ∀ e, r = .error e → NoConflict e) w := by
  refine Prog.Under.of_meets (((h w).weaken_rely fun _ _ _ => trivial).weaken_action fun l s t hact => ?_)
  refine ⟨hact.2.2, fun _ => ⟨fun hstep => ?_, fun _ => .inl hact.2.1⟩⟩
  have hlook := hact.2.1
  rw [hstep] at hlook
  cases hlook

theorem replayGift_under {key : String} (hkey : trimOrNull idempotencyKey = some key) {existing : Gift}
    (hstored : existing ∈ w.gifts.rows) (hsender : existing.senderId = viewerUserId)
    (hexisting : existing.idempotencyKey = some key) :
    (replayGift (computeGiftRequestHash body) existing).Under (InsertsNothing asked desk) (Rely Effect)
      (RequestActs body viewerUserId idempotencyKey asked desk) (CreateEnds body viewerUserId idempotencyKey) w := by
  refine Svc.Under.bind (Q := fun r t => t = w ∧
      (r = .ok () ∧ existing.idempotencyRequestHash = some (computeGiftRequestHash body) ∨
        existing.idempotencyRequestHash ≠ some (computeGiftRequestHash body) ∧
          r = .error (.conflict "idempotency_key_reused")))
    (Svc.Under.ensure (fun hsame => ⟨rfl, .inl ⟨rfl, hsame⟩⟩) fun hother => ⟨rfl, .inr ⟨hother, rfl⟩⟩)
    (fun _ t ht => ?_) fun e t ht => ?_
  · obtain ⟨rfl, ⟨-, hsame⟩ | ⟨-, hr⟩⟩ := ht
    · refine Svc.Under.pure (.ok ⟨hstored, ⟨hsender, hexisting.trans hkey.symm, ?_⟩, fun hnone => ?_⟩)
      · rw [hkey, Option.map_some]
        exact hsame
      · rw [hkey] at hnone
        cases hnone
    · cases hr
  · obtain ⟨rfl, ⟨hr, -⟩ | ⟨hother, hr⟩⟩ := ht
    · cases hr
    · cases hr
      exact .conflict ⟨key, hkey, existing, hstored, hsender, hexisting, hother⟩

end Requests

theorem createGiftTx_eq_error {row : Nat → Gift} {w : Shop} {e : Err} (h : createGiftTx row w = .error e) :
    NoConflict e := by
  simp only [createGiftTx, Tx.bind_eq_error, Tx.read_ne_error, Tx.ensure_eq_error, false_or] at h
  rcases h with hfresh | ⟨id, u, -, known, v, -, ⟨-, rfl⟩ | ⟨_, t, -, hcreate⟩⟩
  · cases hfresh
  · intro m hm
    cases hm
  · unfold Delegate.create at hcreate
    split at hcreate
    · cases hcreate
    · cases hcreate
      intro m hm
      cases hm

theorem giftByKey_eq_some {senderId : Nat} {key : String} {w : Shop} {g : Gift} (h : giftByKey senderId key w = some g) :
    g ∈ w.gifts.rows ∧ g.senderId = senderId ∧ g.idempotencyKey = some key := by
  unfold giftByKey at h
  have hg := List.find?_some h
  exact ⟨List.mem_of_find?_eq_some h, of_decide_eq_true hg⟩

theorem Keyed.find {w : Shop} (h : Keyed w) {viewerUserId : Nat} {key : String} {g : Gift} (hg : g ∈ w.gifts.rows)
    (hsender : g.senderId = viewerUserId) (hkey : g.idempotencyKey = some key) :
    giftByKey viewerUserId key w = some g := by
  cases hfind : giftByKey viewerUserId key w with
  | none =>
      unfold giftByKey at hfind
      exact absurd (decide_eq_true ⟨hsender, hkey⟩) (List.find?_eq_none.mp hfind g hg)
  | some x =>
      obtain ⟨hx, hxsender, hxkey⟩ := giftByKey_eq_some hfind
      rw [h x hx g hg (hxsender.trans hsender.symm) (hxkey.trans hkey.symm) (by rw [hxkey]; nofun)]

section Create

variable [Runtime] {body : CreateGiftInput} {viewerUserId : Nat} {idempotencyKey : Option String} {asked : Bool}
  {desk : Desk} {w : Shop}

theorem insert_under {row : Nat → Gift}
    (hrow : ∀ id, (row id).id = id ∧ MadeFor body viewerUserId idempotencyKey (row id)) :
    (Svc.transaction ⟨desk, .createGift⟩ (whenUp (createGiftTx row))).Under (InsertsNothing asked desk) (Rely Effect)
      (RequestActs body viewerUserId idempotencyKey asked desk)
      (fun r t => (∀ g, r = .ok g → g ∈ t.gifts.rows ∧ MadeFor body viewerUserId idempotencyKey g ∧ asked = false) ∧
        ∀ e, r = .error e → NoConflict e) w := by
  refine Svc.Under.transaction (fun s g u hrely htx hnothing => ?_) fun s e _ htx _ => ?_
  · obtain ⟨t, rfl, hcreate, hfree, rfl⟩ := createGiftTx_eq_ok (whenUp_eq_ok.mp htx).2
    have hmade := (hrow s.nextId).2
    -- a row was written, so this request was not asked to insert nothing
    have hasked : asked = false := by
      refine eq_false_of_ne_true fun hasked => ?_
      have hsame : s.nextId + 1 = s.nextId := congrArg Shop.nextId (hnothing hasked rfl)
      omega
    refine ⟨⟨Effect.createGift desk (hrow _).1 hcreate hfree, fun _ => ⟨fun _ g hg => ?_, fun h => ?_⟩⟩, ?_,
      fun _ he => (by cases he)⟩
    · rcases (Table.mem_create hcreate).mp hg with hg | rfl
      · exact .inl hg
      · exact .inr hmade
    · rw [hasked] at h
      cases h
    · intro g hg
      cases hg
      exact ⟨(Table.mem_create hcreate).mpr (.inr rfl), hmade, hasked⟩
  · refine ⟨⟨Effect.idle _ s (by simp), fun _ => ⟨fun _ g hg => .inl hg, fun _ => .inr rfl⟩⟩,
      fun _ hg => (by cases hg), ?_⟩
    intro e' he
    cases he
    unfold whenUp at htx
    simp only [Tx.bind_eq_error, Tx.read_ne_error, false_or, Tx.read_eq_ok, Tx.ensure_eq_error] at htx
    rcases htx with ⟨down, u, ⟨rfl, rfl⟩, ⟨-, rfl⟩ | ⟨_, v, -, htx⟩⟩
    · intro m hm
      cases hm
    · exact createGiftTx_eq_error htx

/-- What the writing part of a request leaves: an end of the request, and a new gift only if it may insert. -/
def Written (body : CreateGiftInput) (viewerUserId : Nat) (idempotencyKey : Option String) (asked : Bool)
    (r : Except Err CreateGiftResult) (w : Shop) : Prop :=
  CreateEnds body viewerUserId idempotencyKey r w ∧ ∀ result, r = .ok result → result.replayed = false → asked = false

theorem Written.error {e : Err} (h : NoConflict e) : Written body viewerUserId idempotencyKey asked (.error e) w :=
  ⟨.error h, fun _ hr => (nomatch hr)⟩

theorem giftByKey_under (key : String) :
    (Svc.query ⟨desk, .read⟩ (giftByKey viewerUserId key) : Service (Option Gift)).Under (InsertsNothing asked desk)
      (Rely Effect) (RequestActs body viewerUserId idempotencyKey asked desk)
      (fun r t => ∃ found, r = .ok found ∧ ∀ g ∈ found, g ∈ t.gifts.rows ∧ g.senderId = viewerUserId ∧
        g.idempotencyKey = some key) w :=
  Svc.Under.query fun s _ _ => ⟨⟨Effect.read s, fun _ => ⟨fun hstep => (nomatch hstep), fun _ => .inl rfl⟩⟩, _, rfl, fun _ hg =>
    giftByKey_eq_some hg⟩

theorem replayGift_written {key : String} (hkey : trimOrNull idempotencyKey = some key) {existing : Gift}
    (hexisting : existing ∈ w.gifts.rows ∧ existing.senderId = viewerUserId ∧ existing.idempotencyKey = some key) :
    (replayGift (computeGiftRequestHash body) existing).Under (InsertsNothing asked desk) (Rely Effect)
      (RequestActs body viewerUserId idempotencyKey asked desk) (Written body viewerUserId idempotencyKey asked) w := by
  have hends : (replayGift (computeGiftRequestHash body) existing).Under (InsertsNothing asked desk) (Rely Effect)
      (RequestActs body viewerUserId idempotencyKey asked desk) (CreateEnds body viewerUserId idempotencyKey) w :=
    replayGift_under hkey hexisting.1 hexisting.2.1 hexisting.2.2
  unfold replayGift Svc.ensure at hends ⊢
  split at hends
  · rename_i hsame
    rw [if_pos hsame]
    refine ⟨hends, fun result hr hreplayed => ?_⟩
    cases hr
    cases hreplayed
  · rename_i hother
    rw [if_neg hother]
    exact ⟨hends, fun _ hr => (nomatch hr)⟩

theorem lostRace_under {identity : Option (String × String)} {e : Err} :
    NoConflict e → identity = ((trimOrNull idempotencyKey).map fun key => (key, computeGiftRequestHash body)) →
    (match e, identity with
      | .p2002 _, some (key, requestHash) => do
          let winner ← Svc.query ⟨desk, .read⟩ (giftByKey viewerUserId key)
          match winner with
          | none => Svc.fail e
          | some winner => replayGift requestHash winner
      | _, _ => Svc.fail e : Service CreateGiftResult).Under (InsertsNothing asked desk) (Rely Effect)
      (RequestActs body viewerUserId idempotencyKey asked desk) (Written body viewerUserId idempotencyKey asked) w := by
  intro he hidentity
  split
  · rename_i m key requestHash
    obtain ⟨key', hkey, hpair⟩ := Option.map_eq_some_iff.mp hidentity.symm
    obtain ⟨rfl, rfl⟩ := Prod.mk.inj hpair
    refine Svc.Under.bind (giftByKey_under _) (fun winner t ht => ?_) fun e t ht => by simp at ht
    obtain ⟨_, hr, hwinner⟩ := ht
    cases hr
    cases winner with
    | none => exact Svc.Under.fail (.error he)
    | some winner => exact replayGift_written hkey (hwinner winner rfl)
  · exact Svc.Under.fail (.error he)

theorem insertGift_under {identity : Option (String × String)} {row : Nat → Gift}
    (hidentity : identity = (trimOrNull idempotencyKey).map fun key => (key, computeGiftRequestHash body))
    (hrow : ∀ id, (row id).id = id ∧ MadeFor body viewerUserId idempotencyKey (row id)) :
    (insertGift desk identity viewerUserId row).Under (InsertsNothing asked desk) (Rely Effect)
      (RequestActs body viewerUserId idempotencyKey asked desk) (CreateEnds body viewerUserId idempotencyKey) w := by
  refine Svc.Under.bind (Q := Written body viewerUserId idempotencyKey asked) (Svc.Under.tryCatch
    (Q := fun r t => (∀ result, r = .ok result → Written body viewerUserId idempotencyKey asked r t) ∧
      ∀ e, r = .error e → NoConflict e)
    (Svc.Under.bind (insert_under hrow) (fun g t ht => ?_) fun e t ht => ?_)
    (fun result t ht => ht.1 result rfl) fun e t ht => lostRace_under (ht.2 e rfl) hidentity)
    (fun written t ht => ?_) fun e t ht => ht.1
  · obtain ⟨hstored, hmade, hasked⟩ := ht.1 g rfl
    refine Svc.Under.pure ⟨fun result hr => ⟨.ok ?_, fun _ _ _ => hasked⟩, fun _ he => (nomatch he)⟩
    exact ⟨hstored, hmade, fun _ => rfl⟩
  · refine ⟨fun _ hr => (nomatch hr), fun e' he => ?_⟩
    cases he
    exact ht.2 e rfl
  · split
    · exact Svc.Under.pure ht.1
    · rename_i hfresh
      have hasked := ht.2 written rfl (eq_false_of_ne_true hfresh)
      have hanswered := ht.1.1 written rfl
      -- the request has inserted, so it was not asked to insert nothing
      have hfulfil : (fulfil desk written.gift).Under (InsertsNothing asked desk) (Rely Effect)
          (RequestActs body viewerUserId idempotencyKey asked desk) (fun r u => (∀ e, r = .error e → NoConflict e) ∧
            Answered body viewerUserId idempotencyKey written u) t := by
        have hacts := Prog.Under.of_meets (C := InsertsNothing asked desk)
          (((fulfil_does desk written.gift t).weaken_rely (S := Rely Effect) fun _ _ _ => trivial).weaken_action
            (B := RequestActs body viewerUserId idempotencyKey asked desk) fun l s u hact =>
              ⟨hact.2.2, fun _ => ⟨fun hstep => ?_, fun h => ?_⟩⟩)
        · exact hacts.keeps (P := Answered body viewerUserId idempotencyKey written) (fun _ _ h hrely => h.later hrely)
            (fun _ _ _ hact _ h => h.later (Rely.single hact.1)) hanswered
        · have hfulfilStep := hact.2.1
          rw [hstep] at hfulfilStep
          cases hfulfilStep
        · rw [hasked] at h
          cases h
      exact Svc.Under.bind hfulfil (fun _ u hu => Svc.Under.pure (.ok hu.2)) fun e u hu => .error (hu.1 e rfl)

variable [Cities]

theorem createNew_under {draft : GiftDraft} {candidates : List String} (hsender : draft.senderId = viewerUserId)
    (hidentity : draft.identity = (trimOrNull idempotencyKey).map fun key => (key, computeGiftRequestHash body)) :
    (createNew desk body draft candidates).Under (InsertsNothing asked desk) (Rely Effect)
      (RequestActs body viewerUserId idempotencyKey asked desk) (CreateEnds body viewerUserId idempotencyKey) w := by
  refine Svc.Under.bind (checkRecipient_looks _ _).under (fun _ _ _ => ?_) fun e t ht => .error (ht e rfl)
  refine Svc.Under.bind (checkFastDelivery_looks _ _ _).under (fun _ _ _ => ?_) fun e t ht => .error (ht e rfl)
  refine Svc.Under.bind (checkProduct_looks _ _).under (fun _ _ _ => ?_) fun e t ht => .error (ht e rfl)
  refine Svc.Under.bind (resolveOccasion_looks _ _ _ _).under (fun _ _ _ => ?_) fun e t ht => .error (ht e rfl)
  refine Svc.Under.bind (allocateReference_looks _ _ _).under (fun _ _ _ => ?_) fun e t ht => .error (ht e rfl)
  rw [hsender]
  refine insertGift_under hidentity fun id => ⟨rfl, hsender, ?_, ?_⟩
  · simp only [GiftDraft.row, hidentity, Option.map_map]
    cases trimOrNull idempotencyKey <;> rfl
  · simp only [GiftDraft.row, hidentity, Option.map_map]
    cases trimOrNull idempotencyKey <;> rfl

omit [Runtime] [Cities] in
theorem validateGiftMedia_error {mediaUrl mediaType : Option String} {e : Err}
    (h : validateGiftMedia mediaUrl mediaType = .error e) : NoConflict e := by
  unfold validateGiftMedia at h
  split at h
  · cases h
  · split at h
    · cases h
      exact nofun
    · cases h

/-- **What a gift request answers and does.** -/
theorem create_under (candidates : List String) :
    (create desk body viewerUserId idempotencyKey candidates).Under (InsertsNothing asked desk) (Rely Effect)
      (RequestActs body viewerUserId idempotencyKey asked desk) (CreateEnds body viewerUserId idempotencyKey) w := by
  unfold create
  cases hmedia : validateGiftMedia body.mediaUrl body.mediaType with
  | error e => exact CreateEnds.error (validateGiftMedia_error hmedia)
  | ok media =>
      refine Svc.Under.bind (Q := fun r _ => ∃ a, r = .ok a) ⟨media, rfl⟩ (fun media' t _ => ?_) fun e t ht => by
        simp at ht
      dsimp only
      split
      · cases hkey : trimOrNull idempotencyKey with
        | none =>
            refine createNew_under rfl ?_
            rw [hkey]
            rfl
        | some key =>
            refine Svc.Under.bind (Q := fun r _ => ∀ e, r = .error e → NoConflict e)
              (Svc.Under.ensure (fun _ _ he => (nomatch he)) fun _ e he => ?_) (fun _ u _ => ?_)
              fun e t ht => .error (ht e rfl)
            · cases he
              exact nofun
            · refine Svc.Under.bind (giftByKey_under _) (fun existing u hu => ?_) fun e t ht => by simp at ht
              obtain ⟨_, hr, hexisting⟩ := hu
              cases hr
              cases existing with
              | none =>
                  refine createNew_under rfl ?_
                  rw [hkey]
                  rfl
              | some existing => exact (replayGift_written hkey (hexisting existing rfl)).mono fun r t hr => hr.1
      · exact Svc.Under.fail (.error nofun)

end Create

/-! ### The runs -/

section Runs

variable [Runtime] [Cities] {body : CreateGiftInput} {viewerUserId n : Nat} {idempotencyKey : Option String}
  {asked : Bool} {w : Shop}

/-- How a reply to the request at its desk ends. -/
def ReplyEnds (n : Nat) (body : CreateGiftInput) (viewerUserId : Nat) (idempotencyKey : Option String) (r : Reply)
    (w : Shop) : Prop :=
  r.call.desk = .create n body viewerUserId idempotencyKey →
    (∀ answer, r.outcome = .ok answer → ∃ result, answer = .gift result ∧
      Answered body viewerUserId idempotencyKey result w) ∧
    ∀ m, r.outcome = .error (.conflict m) → KeyTaken body viewerUserId idempotencyKey w

omit [Cities] in
theorem ReplyEnds.later {r : Reply} {w w' : Shop} (h : ReplyEnds n body viewerUserId idempotencyKey r w)
    (hrely : Rely Effect w w') : ReplyEnds n body viewerUserId idempotencyKey r w' := by
  intro hdesk
  obtain ⟨hok, herror⟩ := h hdesk
  refine ⟨fun answer hanswer => ?_, fun m hm => (herror m hm).later hrely⟩
  obtain ⟨result, hresult, hanswered⟩ := hok answer hanswer
  exact ⟨result, hresult, hanswered.later hrely⟩

theorem serve_ends (c : Call) (hdesk : c.desk = .create n body viewerUserId idempotencyKey) :
    (serve c).Under (InsertsNothing asked (.create n body viewerUserId idempotencyKey)) (Rely Effect)
      (RequestActs body viewerUserId idempotencyKey asked (.create n body viewerUserId idempotencyKey))
      (fun r t => (∀ answer, r = .ok answer → ∃ result, answer = .gift result ∧
        Answered body viewerUserId idempotencyKey result t) ∧
        ∀ m, r = .error (.conflict m) → KeyTaken body viewerUserId idempotencyKey t) w := by
  unfold serve
  cases c with
  | surround | placeOrder | confirm => cases hdesk
  | create request body' viewerUserId' idempotencyKey' candidates =>
      cases hdesk
      refine Svc.Under.bind (create_under candidates) (fun result t ht => Svc.Under.pure ⟨fun answer hanswer => ?_,
        fun m hm => (nomatch hm)⟩) fun e t ht => ⟨fun answer hanswer => (nomatch hanswer), fun m hm => ?_⟩
      · cases hanswer
        exact ⟨result, rfl, ht.1 result rfl⟩
      · cases hm
        exact ht.2 m rfl

theorem program_ends (c : Call) :
    (program c).Under (InsertsNothing asked (.create n body viewerUserId idempotencyKey)) (Rely Effect)
      (RequestActs body viewerUserId idempotencyKey asked (.create n body viewerUserId idempotencyKey))
      (ReplyEnds n body viewerUserId idempotencyKey) w := by
  by_cases hdesk : c.desk = .create n body viewerUserId idempotencyKey
  · exact Prog.Under.bind (serve_ends c hdesk) fun r t ht _ => ht
  · refine Prog.Under.bind (Q := fun _ _ => True) (Prog.Under.of_meets ((serve_ensures c w).meets.weaken_action
      fun l s t hact => ⟨hact.2, fun hl => absurd (hact.1.symm.trans hl) hdesk⟩)) fun r t _ hdesk' => ?_
    exact absurd hdesk' hdesk

/-- The checks that come before the key is looked at. -/
structure Presentable (body : CreateGiftInput) (idempotencyKey : Option String) : Prop where
  media : ∃ media, validateGiftMedia body.mediaUrl body.mediaType = .ok media
  receiver : trimOrNull body.receiverUsername ≠ none
  product : trimOrNull body.productName ≠ none
  store : trimOrNull body.storeName ≠ none
  key : ∀ key, trimOrNull idempotencyKey = some key → (codeUnits key).length ≤ MAX_IDEMPOTENCY_KEY_LENGTH

/-- The request at a desk finds its key taken, whatever it does. -/
def FindsKeyTaken (body : CreateGiftInput) (viewerUserId : Nat) (idempotencyKey : Option String) (desk : Desk)
    (e : Event Shop Place) : Prop :=
  e.lbl.desk = desk → KeyTaken body viewerUserId idempotencyKey e.pre

def DoesNothing (desk : Desk) (l : Place) (w w' : Shop) : Prop := l.desk = desk → w' = w

/-- A refusal, which is the conflict of the key if the request is presentable. -/
def Conflicts (body : CreateGiftInput) (idempotencyKey : Option String) {α : Type} (r : Except Err α) : Prop :=
  ∃ e, r = .error e ∧ (Presentable body idempotencyKey → e = .conflict "idempotency_key_reused")

theorem create_refused (hkeyed : ∀ t, Rely Effect w t → Keyed t) {key : String}
    (hkey : trimOrNull idempotencyKey = some key) {desk : Desk} (candidates : List String) :
    (create desk body viewerUserId idempotencyKey candidates).Under
      (FindsKeyTaken body viewerUserId idempotencyKey desk) (Rely Effect) (DoesNothing desk)
      (fun r _ => Conflicts body idempotencyKey r) w := by
  unfold create
  cases hmedia : validateGiftMedia body.mediaUrl body.mediaType with
  | error e =>
      refine ⟨e, rfl, fun hpresentable => ?_⟩
      obtain ⟨media, hok⟩ := hpresentable.media
      rw [hmedia] at hok
      cases hok
  | ok media =>
      refine Svc.Under.bind (Q := fun r t => r = .ok media ∧ t = w) ⟨rfl, rfl⟩ (fun media' t ht => ?_) fun e t ht => by
        cases ht.1
      obtain ⟨-, rfl⟩ := ht
      dsimp only
      split
      · rw [hkey]
        refine Svc.Under.bind (Q := fun r u => u = t ∧
          (r = .ok () ∨ ¬(codeUnits key).length ≤ MAX_IDEMPOTENCY_KEY_LENGTH))
          (Svc.Under.ensure (fun _ => ⟨rfl, .inl rfl⟩) fun hlong => ⟨rfl, .inr hlong⟩) (fun _ u hu => ?_) fun e u hu => ?_
        · obtain ⟨rfl, -⟩ := hu
          refine Svc.Under.bind (Q := fun r _ => ∃ g, r = .ok (some g) ∧
            g.idempotencyRequestHash ≠ some (computeGiftRequestHash body)) (Svc.Under.query fun s hrely htaken => ?_)
            (fun existing v hv => ?_) fun e v hv => by simp at hv
          · obtain ⟨key', hkey', g, hg, hsender, hgkey, hother⟩ := htaken rfl
            rw [hkey] at hkey'
            cases hkey'
            exact ⟨fun _ => rfl, g, by rw [(hkeyed s hrely).find hg hsender hgkey], hother⟩
          · obtain ⟨g, hr, hother⟩ := hv
            cases hr
            dsimp only
            unfold replayGift Svc.ensure
            rw [if_neg hother]
            exact ⟨_, rfl, fun _ => rfl⟩
        · refine ⟨e, rfl, fun hpresentable => ?_⟩
          obtain ⟨-, hr | hlong⟩ := hu
          · cases hr
          · exact absurd (hpresentable.key key hkey) hlong
      · rename_i hmissing
        refine ⟨_, rfl, fun hpresentable => ?_⟩
        obtain ⟨receiver, hreceiver⟩ := Option.ne_none_iff_exists'.mp hpresentable.receiver
        obtain ⟨product, hproduct⟩ := Option.ne_none_iff_exists'.mp hpresentable.product
        obtain ⟨store, hstore⟩ := Option.ne_none_iff_exists'.mp hpresentable.store
        exact absurd hstore (hmissing receiver product store hreceiver hproduct)

/-- A reply to the request at its desk is a refusal. -/
def ReplyConflicts (n : Nat) (body : CreateGiftInput) (viewerUserId : Nat) (idempotencyKey : Option String)
    (r : Reply) : Prop :=
  r.call.desk = .create n body viewerUserId idempotencyKey → Conflicts body idempotencyKey r.outcome

theorem program_refused (hkeyed : ∀ t, Rely Effect w t → Keyed t) {key : String}
    (hkey : trimOrNull idempotencyKey = some key) (c : Call) :
    (program c).Under (FindsKeyTaken body viewerUserId idempotencyKey (.create n body viewerUserId idempotencyKey))
      (Rely Effect) (DoesNothing (.create n body viewerUserId idempotencyKey))
      (fun r _ => ReplyConflicts n body viewerUserId idempotencyKey r) w := by
  by_cases hdesk : c.desk = .create n body viewerUserId idempotencyKey
  · have hserve : (serve c).Under
        (FindsKeyTaken body viewerUserId idempotencyKey (.create n body viewerUserId idempotencyKey)) (Rely Effect)
        (DoesNothing (.create n body viewerUserId idempotencyKey)) (fun r _ => Conflicts body idempotencyKey r) w := by
      unfold serve
      cases c with
      | surround | placeOrder | confirm => cases hdesk
      | create request body' viewerUserId' idempotencyKey' candidates =>
          cases hdesk
          refine Svc.Under.bind (create_refused hkeyed hkey candidates) (fun result t ht => ?_) fun e t ht => ?_
          · obtain ⟨e, he, -⟩ := ht
            cases he
          · obtain ⟨e', he, hconflict⟩ := ht
            cases he
            exact ⟨e, rfl, hconflict⟩
    exact Prog.Under.bind hserve fun r t ht _ => ht
  · refine Prog.Under.bind (Q := fun _ _ => True) (Prog.Under.of_meets ((serve_ensures c w).meets.weaken_action
      fun l s t hact hl => absurd (hact.1.symm.trans hl) hdesk)) fun r t _ hdesk' => ?_
    exact absurd hdesk' hdesk

variable {tr : List (Event Shop Place)} {cfg : Config Shop Place Reply}

omit [Runtime] [Cities] in
theorem keyed_empty : Keyed Shop.empty := fun g hg => by cases hg

omit [Runtime] [Cities] in
theorem Keyed.later {w w' : Shop} (h : Keyed w) (hrely : Rely Effect w w') : Keyed w' :=
  hrely.stable (fun _ _ _ heffect hkeyed => heffect.keyed hkeyed) h

theorem Run.request (h : Run tr cfg) (n : Nat) (body : CreateGiftInput) (viewerUserId : Nat)
    (idempotencyKey : Option String) (asked : Bool) (hnothing : ∀ e ∈ tr,
    InsertsNothing asked (.create n body viewerUserId idempotencyKey) e) :
    Path (RequestActs body viewerUserId idempotencyKey asked (.create n body viewerUserId idempotencyKey)) Shop.empty tr
      cfg.state ∧ ∀ reply, .done reply ∈ cfg.pool → ReplyEnds n body viewerUserId idempotencyKey reply cfg.state := by
  have hrun := Exec.under (E := Effect) (Q := ReplyEnds n body viewerUserId idempotencyKey)
    (fun r s t hr hst => hr.later hst) (fun l s t hact => hact.1) (fun c s _ => program_ends c) h hnothing
  exact ⟨hrun.1, fun reply hreply => hrun.2 _ hreply⟩

/-- The request only looks and notes an attempt. -/
def NotesAttempt (w w' : Shop) : Prop := ∃ t, w' = { w with nextId := w.nextId + 1, giftAttempts := t }

omit [Runtime] [Cities] in
theorem Effect.look {l : Place} {w w' : Shop} (h : Effect l w w') (hstep : isLookStep l.step = true) :
    w' = w ∨ NotesAttempt w w' := by
  cases h with
  | idle => exact .inl rfl
  | giftAttempt => exact .inr ⟨_, rfl⟩
  | surround | placeOrder | createGift | fulfil | lock | gateway | settle | recordFailed | post => cases hstep

theorem Run.insertsNothing (hsha : Function.Injective Runtime.sha256Hex) (h : Run tr cfg) {other : CreateGiftInput}
    {g : Gift} (hg : g ∈ cfg.state.gifts.rows) (hmade : MadeFor other viewerUserId idempotencyKey g)
    (hkey : trimOrNull idempotencyKey ≠ none) (hother : body.canonical ≠ other.canonical) :
    ∀ e ∈ tr, InsertsNothing true (.create n body viewerUserId idempotencyKey) e := by
  intro e he _ hlbl
  have hacts := (h.request n body viewerUserId idempotencyKey false fun _ _ hasked => by cases hasked).1
  obtain ⟨tr₁, tr₂, -, -, hact, hlater⟩ := hacts.split he
  obtain ⟨hticket, -⟩ := hact.2 (by rw [hlbl])
  have hinserted := hticket (by rw [hlbl])
  obtain ⟨heffect, -⟩ := hact
  generalize hpre : e.pre = w at heffect hinserted
  generalize hpost : e.post = w' at heffect hinserted hlater
  rw [hlbl] at heffect
  cases heffect with
  | idle => rfl
  | createGift desk hid hcreate hfree =>
      rename_i x t
      -- the gift that is new is the request's, so it is the gift of the key, which is another request's
      rcases hinserted x ((Table.mem_create hcreate).mpr (.inr rfl)) with hold | hnew
      · exact absurd rfl (Table.find_eq_none.mp (Table.create_eq_some hcreate).2 x hold)
      · have hrely : Rely Effect _ cfg.state := hlater.rely.stable (P := Rely Effect _)
          (fun l u v hact hu => hu.trans (Rely.single hact.1)) (Rely.refl _)
        have hstored := keepGift_later hrely ((Table.mem_create hcreate).mpr (.inr rfl) : x ∈ t.rows)
        have hkeyed := keyed_empty.later h.path.rely
        have hsame := hkeyed x hstored g hg (hnew.sender.trans hmade.sender.symm) (hnew.key.trans hmade.key.symm)
          (by rw [hnew.key]; exact hkey)
        obtain ⟨key, hsome⟩ := Option.ne_none_iff_exists'.mp hkey
        have hdigest := hnew.digest
        rw [hsame, hmade.digest, hsome, Option.map_some, Option.map_some, Option.some.injEq] at hdigest
        exact absurd ((computeGiftRequestHash_eq_iff hsha _ _).mp hdigest).symm hother

omit [Runtime] [Cities] in
theorem Keyed.filter_length (hkeyed : Keyed w) (viewerUserId : Nat) (key : String) :
    (w.gifts.rows.filter fun g => g.senderId = viewerUserId ∧ g.idempotencyKey = some key).length ≤ 1 := by
  cases hfilter : w.gifts.rows.filter fun g => g.senderId = viewerUserId ∧ g.idempotencyKey = some key with
  | nil => exact Nat.zero_le 1
  | cons g rest =>
      have hmem : g ∈ w.gifts.rows.filter fun g => g.senderId = viewerUserId ∧ g.idempotencyKey = some key := by
        rw [hfilter]
        exact List.mem_cons_self ..
      obtain ⟨hg, hof⟩ := List.mem_filter.mp hmem
      obtain ⟨hsender, hkey⟩ := of_decide_eq_true hof
      have honly := Table.filter_eq_singleton hg hof fun x hx hq => by
        obtain ⟨hxsender, hxkey⟩ : x.senderId = viewerUserId ∧ x.idempotencyKey = some key := of_decide_eq_true hq
        exact hkeyed x hx g hg (hxsender.trans hsender.symm) (hxkey.trans hkey.symm) (by rw [hxkey]; nofun)
      rw [← hfilter, honly]
      exact le_refl 1

theorem Run.other_refused (hsha : Function.Injective Runtime.sha256Hex) (h : Run tr cfg) {other : CreateGiftInput}
    {g : Gift} (hg : g ∈ cfg.state.gifts.rows) (hmade : MadeFor other viewerUserId idempotencyKey g)
    (hkey : trimOrNull idempotencyKey ≠ none) (hother : body.canonical ≠ other.canonical) :
    (∀ reply, .done reply ∈ cfg.pool → reply.call.desk = .create n body viewerUserId idempotencyKey →
      ∃ e, reply.outcome = .error e) ∧
    ∀ e ∈ tr, e.lbl.desk = .create n body viewerUserId idempotencyKey →
      e.post = e.pre ∨ NotesAttempt e.pre e.post := by
  obtain ⟨hpath, hends⟩ := h.request n body viewerUserId idempotencyKey true (h.insertsNothing hsha hg hmade hkey hother)
  refine ⟨fun reply hreply hdesk => ?_, fun e he hdesk => ?_⟩
  · cases houtcome : reply.outcome with
    | error e => exact ⟨e, rfl⟩
    | ok answer =>
        obtain ⟨result, -, hstored, hanswered, -⟩ := (hends reply hreply hdesk).1 answer houtcome
        have hkeyed := keyed_empty.later h.path.rely
        have hsame := hkeyed _ hstored g hg (hanswered.sender.trans hmade.sender.symm)
          (hanswered.key.trans hmade.key.symm) (by rw [hanswered.key]; exact hkey)
        obtain ⟨key, hsome⟩ := Option.ne_none_iff_exists'.mp hkey
        have hdigest := hanswered.digest
        rw [hsame, hmade.digest, hsome, Option.map_some, Option.map_some, Option.some.injEq] at hdigest
        exact absurd ((computeGiftRequestHash_eq_iff hsha _ _).mp hdigest).symm hother
  · obtain ⟨tr₁, tr₂, -, -, hact, -⟩ := hpath.split he
    rcases (hact.2 hdesk).2 rfl with hlook | hsame
    · exact hact.1.look hlook
    · exact .inl hsame

/-- A request all of whose actions find the gift of another request stored is refused, with the conflict if it is
presentable, and does nothing. -/
theorem Run.late_refused (hsha : Function.Injective Runtime.sha256Hex) (h : Run tr cfg) {other : CreateGiftInput}
    {g : Gift} (hmade : MadeFor other viewerUserId idempotencyKey g) (hkey : trimOrNull idempotencyKey ≠ none)
    (hother : body.canonical ≠ other.canonical)
    (hlate : ∀ e ∈ tr, e.lbl.desk = .create n body viewerUserId idempotencyKey → g ∈ e.pre.gifts.rows) :
    (∀ e ∈ tr, e.lbl.desk = .create n body viewerUserId idempotencyKey → e.post = e.pre) ∧
    ∀ reply, .done reply ∈ cfg.pool → reply.call.desk = .create n body viewerUserId idempotencyKey →
      Presentable body idempotencyKey → reply.outcome = .error (.conflict "idempotency_key_reused") := by
  obtain ⟨key, hsome⟩ := Option.ne_none_iff_exists'.mp hkey
  have htaken : ∀ e ∈ tr,
      FindsKeyTaken body viewerUserId idempotencyKey (.create n body viewerUserId idempotencyKey) e := by
    intro e he hdesk
    refine ⟨key, hsome, g, hlate e he hdesk, hmade.sender, hmade.key.trans hsome, fun hdigest => hother ?_⟩
    rw [hmade.digest, hsome, Option.map_some, Option.some.injEq] at hdigest
    exact ((computeGiftRequestHash_eq_iff hsha _ _).mp hdigest).symm
  have hrun := Exec.under (E := Effect) (A := fun l s t => Effect l s t ∧
      DoesNothing (.create n body viewerUserId idempotencyKey) l s t)
    (Q := fun r _ => ReplyConflicts n body viewerUserId idempotencyKey r) (fun _ _ _ hr _ => hr)
    (fun l s t hact => hact.1)
    (fun c s hs => Prog.Under.mono (fun r t hr => hr.2) (Prog.Under.and_meets
      (program_refused (fun t ht => keyed_empty.later (hs.trans ht)) hsome c)
      ((program_meets c s).weaken_action Acts.effect))) h htaken
  refine ⟨fun e he hdesk => ?_, fun reply hreply hdesk hpresentable => ?_⟩
  · obtain ⟨tr₁, tr₂, -, -, hact, -⟩ := hrun.1.split he
    exact hact.2 hdesk
  · obtain ⟨e, houtcome, hconflict⟩ := hrun.2 _ hreply hdesk
    rw [houtcome, hconflict hpresentable]

end Runs

/-! ### Concrete runs -/

namespace Pilot

/-- A sender, and a recipient without an address. -/
def bare : Call :=
  .surround
    { now := 0
      outage := false
      users := [⟨1, "sender", none⟩, ⟨2, "receiver", none⟩]
      blocks := []
      addresses := []
      occasions := []
      storeIds := []
      products := Table.empty
      wishes := Table.empty }

def requestFor (productName : String) : CreateGiftInput :=
  { receiverUsername := some "receiver", productName := some productName, storeName := some "Store" }

/-- The sender asks for a gift of that product, always with the same key. -/
def ask (request : Nat) (productName : String) : Call :=
  .create request (requestFor productName) 1 (some "key") ["R1"]

/-- The second request has found no address, and before it notes that, the recipient has one and the first request has
made the gift of the key. -/
def crossed : List (Choice Call) :=
  toEnd bare ++ .start (ask 2 "Watch") :: List.replicate 5 (.run 0) ++ toEnd (town false) ++ toEnd (ask 1 "Perfume") ++
    List.replicate 5 (.run 2)

theorem crossed_gift : ∃ g ∈ (played crossed).2.state.gifts.rows,
    @MadeFor plainRuntime (requestFor "Perfume") 1 (some "key") g := by
  have hstored : ∃ g ∈ (played crossed).2.state.gifts.rows, g.senderId = 1 ∧
      g.idempotencyKey = trimOrNull (some "key") ∧ g.idempotencyRequestHash =
        (trimOrNull (some "key")).map fun _ => @computeGiftRequestHash plainRuntime (requestFor "Perfume") := by
    decide +kernel
  obtain ⟨g, hg, hsender, hkey, hdigest⟩ := hstored
  exact ⟨g, hg, @MadeFor.mk plainRuntime _ _ _ _ hsender hkey hdigest⟩

theorem requests_differ : (requestFor "Watch").canonical ≠ (requestFor "Perfume").canonical := by
  intro h
  have htext : @canonicalJson plainRuntime (requestFor "Watch").canonical =
      @canonicalJson plainRuntime (requestFor "Perfume").canonical := by rw [h]
  exact absurd htext (by decide +kernel)

theorem key_usable : trimOrNull (some "key") ≠ none := by decide +kernel

end Pilot

end Qift.Shop.Counter
