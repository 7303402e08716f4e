import Qift.Onboarding.Effects

/-!
# Which stores the public sees

Every interleaving of owners' and administrators' requests, and the decisions behind a store that a public surface
shows.

* `decisionOf`, `lastDecision` — the decisions a run records on a store.
* `Ruled` — a store is stored at the last decision, or at the submission its owner has answered it with; a store nobody
  has decided on is as good as sent back to `pending`.
* **`Run.public_decided`** — where owners' writes find the status their call has read, a store on a public surface has
  been approved last exactly when it is not stored as `pending`; owners move a store from a submittable status only.
* `Run.public_undecided` — a new store is `pending`, and shown.
-/

namespace Qift.Onboarding

open Relational Relational.Table Interleaving

/-! ### Surfaces -/

/-- A public question. -/
inductive Surface
  | stores
  | store (storeId : String)
  | products (storeId : String) (includeUnavailable : Bool)
  | product (productId : String)
  | availability (productId : Option String)

/-- The stores a public answer shows, itself or by a product. -/
def shown (surface : Surface) (w : Onboarding) : List String :=
  match surface with
  | .stores => (listStores.exec w).1.toOption.getD [] |>.map Store.id
  | .store storeId => (findStore storeId |>.exec w).1.toOption.toList.map Store.id
  | .products storeId includeUnavailable =>
      ((listProducts storeId includeUnavailable).exec w).1.toOption.getD [] |>.map Product.storeId
  | .product productId => ((findProduct productId).exec w).1.toOption.toList.map Product.storeId
  | .availability productId =>
      ((checkAvailability productId).exec w).1.toOption.join.toList.map Product.storeId

/-- A public store of the database. -/
def Public (w : Onboarding) (storeId : String) : Prop := ∃ s, w.stores.find storeId = some s ∧ s.public = true

theorem public_of_filter {w : Onboarding} {storeId : String} {s : Store}
    (h : (w.stores.find storeId).filter Store.public = some s) : Public w storeId :=
  ⟨s, (Option.filter_eq_some_iff.mp h).1, (Option.filter_eq_some_iff.mp h).2⟩

theorem Product.listed_public {w : Onboarding} {p : Product} (h : p.listed w = true) : Public w p.storeId := by
  rw [Product.listed, Option.any_eq_true] at h
  exact h

/-- **A public answer shows public stores only.** -/
theorem shown_public {surface : Surface} {w : Onboarding} {storeId : String} (h : storeId ∈ shown surface w) :
    Public w storeId := by
  cases surface with
  | stores =>
      obtain ⟨s, hs, rfl⟩ := List.mem_map.mp h
      obtain ⟨hs, hpublic⟩ := List.mem_filter.mp hs
      exact ⟨s, find_of_mem hs, hpublic⟩
  | store id =>
      simp only [shown, findStore, Svc.exec_bind, Svc.exec_query] at h
      cases hfound : (w.stores.find id).filter Store.public with
      | none => simp [hfound, Except.toOption] at h
      | some s =>
          simp only [hfound, Svc.exec_pure, Except.toOption, Option.toList_some, List.map_cons, List.map_nil,
            List.mem_singleton] at h
          obtain ⟨hfind, hpublic⟩ := Option.filter_eq_some_iff.mp hfound
          rw [h, key_of_find hfind]
          exact ⟨s, hfind, hpublic⟩
  | products id includeUnavailable =>
      simp only [shown, listProducts] at h
      split at h
      · simp [Except.toOption] at h
      · simp only [Svc.exec_bind, Svc.exec_query] at h
        cases hfound : (w.stores.find id).filter Store.public with
        | none => simp [hfound, Except.toOption] at h
        | some s =>
            simp only [hfound, Svc.exec_query, Except.toOption, Option.getD_some, List.mem_map, List.mem_filter,
              Bool.and_eq_true, decide_eq_true_eq] at h
            obtain ⟨p, ⟨-, hid, -⟩, rfl⟩ := h
            rw [hid]
            exact public_of_filter hfound
  | product id =>
      simp only [shown, findProduct, Svc.exec_bind, Svc.exec_query] at h
      cases hfound : (w.products.find id).filter (Product.listed w) with
      | none => simp [hfound, Except.toOption] at h
      | some p =>
          simp only [hfound, Svc.exec_pure, Except.toOption, Option.toList_some, List.map_cons, List.map_nil,
            List.mem_singleton] at h
          rw [h]
          exact Product.listed_public (Option.filter_eq_some_iff.mp hfound).2
  | availability id =>
      simp only [shown, checkAvailability] at h
      split at h
      · simp [Except.toOption] at h
      · simp only [Svc.exec_bind, Svc.exec_query] at h
        rename_i productId _
        cases hfound : w.products.find productId with
        | none => simp [hfound, Except.toOption] at h
        | some p =>
            simp only [hfound, Option.map_some, Svc.exec_bind, Svc.exec_ensure] at h
            by_cases hsold : p.sold = true
            · by_cases hlisted : p.listed w = true
              · simp only [hsold, hlisted, if_true, Svc.exec_pure, Except.toOption, Option.join_some, Option.toList_some,
                  List.map_cons, List.map_nil, List.mem_singleton] at h
                rw [h]
                exact Product.listed_public hlisted
              · simp [hsold, hlisted, Except.toOption] at h
            · simp [hsold, Except.toOption] at h

/-! ### Decisions -/

/-- The decision an event records on a store: the store is left at it. -/
def decisionOf (storeId : String) (e : Event Onboarding Step) : Option StoreStatus :=
  match e.lbl with
  | .decide id decision =>
      if id = storeId ∧ (e.post.stores.find storeId).any (fun s => s.status = decision) = true then some decision
      else none
  | _ => none

/-- The last decision a run has recorded on a store. -/
def lastDecision (storeId : String) (tr : List (Event Onboarding Step)) : Option StoreStatus :=
  (tr.filterMap (decisionOf storeId)).getLast?

theorem lastDecision_concat (storeId : String) (tr : List (Event Onboarding Step)) (e : Event Onboarding Step) :
    lastDecision storeId (tr ++ [e]) = (decisionOf storeId e).or (lastDecision storeId tr) := by
  rw [lastDecision, List.filterMap_append]
  cases he : decisionOf storeId e with
  | none => simp [lastDecision, he]
  | some decision => simp [he]

/-- A store against the last decision on it. -/
def Ruled (last : Option StoreStatus) (status : StoreStatus) : Prop :=
  status = last.getD .pending ∨ last.getD .pending ∈ submittable ∧ status = .submitted

theorem Ruled.approved_iff {last : Option StoreStatus} {s : Store} (h : Ruled last s.status)
    (hpublic : s.public = true) : last = some .approved ↔ s.status ≠ .pending := by
  have hstatus : s.status = .approved ∨ s.status = .pending := by
    simpa [Store.public, PUBLIC_STORE_STATUSES] using hpublic
  rcases h with heq | ⟨-, hsubmitted⟩
  · cases last with
    | none => simp [heq]
    | some decision =>
        rw [Option.getD_some] at heq
        rcases hstatus with happroved | hpending
        · simp [← heq, happroved]
        · simp [← heq, hpending]
  · rcases hstatus with h | h <;> rw [h] at hsubmitted <;> cases hsubmitted

/-- An owner's write finds the status its call has read. -/
def Fresh (e : Event Onboarding Step) : Prop :=
  match e.lbl with
  | .patch storeId found _ | .submit storeId found => ∀ s, e.pre.stores.find storeId = some s → s.status = found
  | _ => True

def ownersWrite (storeId : String) (e : Event Onboarding Step) : Bool :=
  match e.lbl with
  | .patch id _ _ | .submit id _ => id = storeId
  | _ => false

/-- Every store is stored as it has been ruled. -/
def AllRuled (tr : List (Event Onboarding Step)) (w : Onboarding) : Prop :=
  ∀ storeId s, w.stores.find storeId = some s → Ruled (lastDecision storeId tr) s.status

theorem status_moves {storeId : String} {l : Step} {w w' : Onboarding} (hfresh : Fresh ⟨w, l, w'⟩) {s s' : Store}
    (hs : w.stores.find storeId = some s) (hmoves : StoreMoves storeId l s s') :
    (l = .decide storeId s'.status) ∨ s'.status = s.status ∨ (s.status ∈ submittable ∧ s'.status = .submitted) := by
  cases hmoves with
  | same | applied => exact .inr (.inl rfl)
  | patched found data hresubmits =>
      by_cases hdata : data.resubmittedAt.isSome = true
      · refine .inr (.inr ⟨?_, if_pos hdata⟩)
        rw [hfresh s hs, hresubmits hdata]
        decide
      · exact .inr (.inl (if_neg hdata))
  | submitted found now hfound =>
      refine .inr (.inr ⟨?_, rfl⟩)
      rw [hfresh s hs]
      exact hfound
  | decided decision f hf => exact .inl (by rw [hf.status])

/-- An action that leaves the status, or answers a decision with a submission, keeps the rule. -/
theorem Ruled.answered {last : Option StoreStatus} {status status' : StoreStatus} (h : Ruled last status)
    (hmoves : status' = status ∨ status ∈ submittable ∧ status' = .submitted) : Ruled last status' := by
  rcases hmoves with rfl | ⟨hfrom, hto⟩
  · exact h
  · rcases h with heq | ⟨hlast, -⟩
    · exact .inr ⟨heq ▸ hfrom, hto⟩
    · exact .inr ⟨hlast, hto⟩

theorem status_of_decisionOf {storeId : String} {e : Event Onboarding Step} {decision : StoreStatus}
    (h : decisionOf storeId e = some decision) :
    ∃ s, e.post.stores.find storeId = some s ∧ s.status = decision := by
  unfold decisionOf at h
  split at h
  · split at h
    next hrecorded =>
      cases h
      rw [Option.any_eq_true] at hrecorded
      obtain ⟨-, s, hs, hstatus⟩ := hrecorded
      exact ⟨s, hs, of_decide_eq_true hstatus⟩
    next => cases h
  · cases h

theorem lastDecision_none {tr : List (Event Onboarding Step)} {w : Onboarding} (h : Path Effect empty tr w)
    {storeId : String} (hw : w.stores.find storeId = none) : lastDecision storeId tr = none := by
  rw [lastDecision, List.getLast?_eq_none_iff, List.filterMap_eq_nil_iff]
  intro e he
  obtain ⟨tr₁, tr₂, -, -, -, hrest⟩ := h.split he
  cases hdecision : decisionOf storeId e with
  | none => rfl
  | some decision =>
      obtain ⟨s, hs, -⟩ := status_of_decisionOf hdecision
      obtain ⟨x, hx⟩ := hrest.invariant (C := fun _ => True) (P := fun w => ∃ s, w.stores.find storeId = some s)
        (fun l t u hact _ ht => by
          obtain ⟨y, hy⟩ := ht
          obtain ⟨y', hy', -⟩ := hact.store_moves hy
          exact ⟨y', hy'⟩) (fun _ _ => trivial) ⟨s, hs⟩
      rw [hw] at hx
      cases hx

/-- **One action keeps every store ruled.** -/
theorem AllRuled.step {tr : List (Event Onboarding Step)} {l : Step} {w w' : Onboarding}
    (hpath : Path Effect empty tr w) (hw : AllRuled tr w) (h : Effect l w w') (hfresh : Fresh ⟨w, l, w'⟩) :
    AllRuled (tr ++ [⟨w, l, w'⟩]) w' := by
  intro storeId s' hs'
  rw [lastDecision_concat]
  cases hdecision : decisionOf storeId ⟨w, l, w'⟩ with
  | some decision =>
      obtain ⟨x, hx, hstatus⟩ := status_of_decisionOf hdecision
      rw [show w'.stores.find storeId = some x from hx] at hs'
      cases hs'
      exact .inl hstatus
  | none =>
      rw [Option.none_or]
      cases hs : w.stores.find storeId with
      | none =>
          obtain ⟨-, _, _, _, _, _, rfl⟩ := h.store_new hs hs'
          rw [lastDecision_none hpath hs]
          exact .inl rfl
      | some s =>
          obtain ⟨x, hx, hmoves⟩ := h.store_moves hs
          rw [hs'] at hx
          cases hx
          rcases status_moves hfresh hs hmoves with rfl | hanswered
          · -- a decision that has left its status is recorded
            rw [decisionOf] at hdecision
            simp [hs'] at hdecision
          · exact (hw storeId s hs).answered hanswered

/-- Every reachable store is ruled. -/
theorem allRuled_of_path {tr : List (Event Onboarding Step)} {w : Onboarding} (h : Path Effect empty tr w)
    (hfresh : ∀ e ∈ tr, Fresh e) : AllRuled tr w := by
  induction h with
  | nil => exact fun _ _ hs => by cases hs
  | @snoc t u l tr' hpath hact ih =>
      refine (ih fun e he => hfresh e (List.mem_append_left _ he)).step hpath hact ?_
      exact hfresh _ (List.mem_append_right _ (List.mem_singleton.mpr rfl))

/-- **The decisions behind public stores**: where owners' writes find the status their call has read, a store a public
surface shows has been approved last exactly when it is not stored as pending; and an owner's write neither makes a
store public nor moves one that an administrator has approved, rejected or suspended. -/
theorem Run.public_decided {tr : List (Event Onboarding Step)} {cfg : Config Onboarding Step (Except Err Reply)}
    (h : Run tr cfg) (hfresh : ∀ e ∈ tr, Fresh e) :
    (∀ surface storeId, storeId ∈ shown surface cfg.state → ∃ s, cfg.state.stores.find storeId = some s ∧
      (lastDecision storeId tr = some .approved ↔ s.status ≠ .pending)) ∧
    (∀ e ∈ tr, ∀ storeId s s', ownersWrite storeId e = true → e.pre.stores.find storeId = some s →
      e.post.stores.find storeId = some s' →
        s'.status = s.status ∨ s.status ∉ [.approved, .rejected, .suspended] ∧ s'.public = false) := by
  refine ⟨fun surface storeId hshown => ?_, fun e he storeId s s' howner hs hs' => ?_⟩
  · obtain ⟨s, hs, hpublic⟩ := shown_public hshown
    exact ⟨s, hs, (allRuled_of_path (Run.path h) hfresh storeId s hs).approved_iff hpublic⟩
  · obtain ⟨-, -, -, -, hact, -⟩ := (Run.path h).split he
    obtain ⟨x, hx, hmoves⟩ := hact.store_moves hs
    rw [hs'] at hx
    cases hx
    rcases status_moves (hfresh e he) hs hmoves with hdecide | hsame | ⟨hfrom, hto⟩
    · rw [ownersWrite, hdecide] at howner
      cases howner
    · exact .inl hsame
    · refine .inr ⟨fun hfinal => ?_, by rw [Store.public, hto]; decide⟩
      revert hfrom hfinal
      cases s.status <;> decide

/-! ### A store nobody has decided on -/

instance (e : Event Onboarding Step) : Decidable (Fresh e) := by
  unfold Fresh
  split
  · rename_i storeId found _ _
    exact decidable_of_iff ((e.pre.stores.find storeId).all (fun s => s.status = found) = true) (by
      cases e.pre.stores.find storeId <;> simp)
  · rename_i storeId found _
    exact decidable_of_iff ((e.pre.stores.find storeId).all (fun s => s.status = found) = true) (by
      cases e.pre.stores.find storeId <;> simp)
  · exact .isTrue trivial

namespace Pilot

/-- Follow a schedule from the empty database. -/
def played (schedule : List (Choice Call)) :
    List (Event Onboarding Step) × Config Onboarding Step (Except Err Reply) :=
  Config.play program ⟨empty, []⟩ schedule

theorem run (schedule : List (Choice Call)) : Run (played schedule).1 (played schedule).2 := by
  have hinit : Run [] ⟨empty, []⟩ := Exec.init
  simpa [played] using hinit.play schedule

/-- Start a call and let it end. -/
def toEnd (c : Call) : List (Choice Call) := .start c :: List.replicate 8 (.run 0)

/-- Huda opens a store. -/
def opened : List (Choice Call) :=
  toEnd (.books ⟨[⟨"u1", .user⟩], by simp⟩ Table.empty) ++
    toEnd (.create "u1" { name := some "roses", city := some "Riyadh", category := some "flowers" } "s1")

/-- She submits it, and it is approved. -/
def approved : List (Choice Call) := opened ++ toEnd (.submit "u1" "s1") ++ toEnd (.setStoreStatus "s1" "approved")

end Pilot

theorem Run.public_decided_approved : ∃ s, (Pilot.played Pilot.approved).2.state.stores.find "s1" = some s ∧
    (lastDecision "s1" (Pilot.played Pilot.approved).1 = some .approved ↔ s.status ≠ .pending) :=
  (Run.public_decided (Pilot.run Pilot.approved) (by decide +kernel)).1 .stores "s1" (by decide +kernel)

/-- **A new store is public**: it is born pending, and nobody has decided on it. -/
theorem Run.public_undecided : ∃ tr cfg storeId, Run tr cfg ∧ (∀ e ∈ tr, Fresh e) ∧ storeId ∈ shown .stores cfg.state ∧
    lastDecision storeId tr = none :=
  ⟨_, _, "s1", Pilot.run Pilot.opened, by decide +kernel⟩

end Qift.Onboarding
