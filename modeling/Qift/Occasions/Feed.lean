import Qift.Lib.Ranks
import Qift.Occasions.Least

/-!
# The upcoming feed

* `Visible` — an active occasion of a followed account that the viewer may see, with an occurrence in the window;
  `Due` — one of a live account.
* `fetched` and `candidates` — the rows the feed reads, the newest first, and those of them that are visible.
* **`listUpcomingForFollowed_first`** — the feed shows the first of what is due, exactly where enough candidates precede
  every one of a deleted account and every due row that was not fetched.
* `listUpcomingForFollowed_missed` — the occasion of tomorrow is the oldest of four, and the feed of one shows another.
-/

namespace Qift.Occasions

open Relational Interleaving Lib

/-! ### What is due -/

/-- The viewer's relation to an account. -/
def contextOf (viewerId ownerId : String) (w : Occasions) : ViewerContext :=
  ⟨viewerId, isAcceptedFollow viewerId ownerId w, isAcceptedFollow ownerId viewerId w,
    ownerId ∈ listExcludedIds viewerId w⟩

/-- The account of a row is not deleted. -/
def LiveOwner (w : Occasions) (r : Occasion) : Prop := ∃ u ∈ w.users.rows, r.userId = some u.id ∧ u.deletedAt = none

instance (w : Occasions) (r : Occasion) : Decidable (LiveOwner w r) :=
  inferInstanceAs (Decidable (∃ u ∈ w.users.rows, _))

/-- The number of items. -/
def feedLimit (limit : Option Int) : Nat := (max 1 (min (limit.getD 50) UPCOMING_HARD_LIMIT)).toNat

def feedWindow (windowDays : Option Int) : Int := max 1 (min (windowDays.getD DEFAULT_UPCOMING_WINDOW_DAYS) 365)

/-- No block stands between two accounts. -/
def Unblocked (w : Occasions) (a b : String) : Prop :=
  ∀ x ∈ w.blocks, ¬(x.blockerId = a ∧ x.blockedId = b) ∧ ¬(x.blockerId = b ∧ x.blockedId = a)

instance (w : Occasions) (a b : String) : Decidable (Unblocked w a b) :=
  inferInstanceAs (Decidable (∀ x ∈ w.blocks, _))

theorem mem_listExcludedIds {viewerId ownerId : String} {w : Occasions} :
    ownerId ∈ listExcludedIds viewerId w ↔ ¬Unblocked w viewerId ownerId := by
  rw [listExcludedIds, List.mem_dedup, List.mem_filterMap, Unblocked]
  constructor
  · rintro ⟨x, hx, hside⟩ hnone
    obtain ⟨hout, hin⟩ := hnone x hx
    split at hside
    next hblocker => exact hout ⟨hblocker, Option.some.inj hside⟩
    next =>
      split at hside
      next hblocked => exact hin ⟨Option.some.inj hside, hblocked⟩
      next => cases hside
  · intro h
    push Not at h
    obtain ⟨x, hx, hblock⟩ := h
    refine ⟨x, hx, ?_⟩
    by_cases hblocker : x.blockerId = viewerId
    · rw [if_pos hblocker]
      by_cases hout : x.blockedId = ownerId
      · rw [hout]
      · -- an account that blocked itself
        obtain ⟨howner, hblocked⟩ := hblock fun _ => hout
        rw [hblocked, ← hblocker, howner]
    · obtain ⟨howner, hblocked⟩ := hblock fun h => absurd h hblocker
      rw [if_neg hblocker, if_pos hblocked, howner]

/-- The accounts whose occasions are fetched. -/
def followedIds (viewerId : String) (w : Occasions) : List String :=
  ((w.follows.filter fun f => f.followerId = viewerId && f.status = "accepted").map Follow.followingId).filter
    (· ∉ listExcludedIds viewerId w)

theorem mem_followedIds {viewerId ownerId : String} {w : Occasions} :
    ownerId ∈ followedIds viewerId w ↔ isAcceptedFollow viewerId ownerId w = true ∧ Unblocked w viewerId ownerId := by
  rw [followedIds, List.mem_filter, decide_eq_true_iff, mem_listExcludedIds, not_not]
  refine and_congr_left fun _ => ?_
  simp only [isAcceptedFollow, List.mem_map, List.mem_filter, List.any_eq_true, Bool.and_eq_true, decide_eq_true_iff]
  constructor
  · rintro ⟨f, ⟨hf, hfollower, hstatus⟩, hfollowing⟩
    exact ⟨f, hf, ⟨hfollower, hfollowing⟩, hstatus⟩
  · rintro ⟨f, hf, ⟨hfollower, hfollowing⟩, hstatus⟩
    exact ⟨f, ⟨hf, hfollower, hstatus⟩, hfollowing⟩

/-- The followed accounts that follow back. -/
def reverseIds (viewerId : String) (w : Occasions) : List String :=
  (w.follows.filter fun f => f.followerId ∈ followedIds viewerId w && f.followingId = viewerId &&
    f.status = "accepted").map Follow.followerId

theorem mem_reverseIds {viewerId ownerId : String} {w : Occasions} (h : ownerId ∈ followedIds viewerId w) :
    ownerId ∈ reverseIds viewerId w ↔ isAcceptedFollow ownerId viewerId w = true := by
  simp only [reverseIds, isAcceptedFollow, List.mem_map, List.mem_filter, List.any_eq_true, Bool.and_eq_true,
    decide_eq_true_iff]
  constructor
  · rintro ⟨f, ⟨hf, ⟨-, hfollowing⟩, hstatus⟩, hfollower⟩
    exact ⟨f, hf, ⟨hfollower, hfollowing⟩, hstatus⟩
  · rintro ⟨f, hf, ⟨hfollower, hfollowing⟩, hstatus⟩
    exact ⟨f, ⟨hf, ⟨hfollower ▸ h, hfollowing⟩, hstatus⟩, hfollower⟩

theorem feedContext_eq {viewerId ownerId : String} {w : Occasions} {r : Occasion} (howner : r.userId = some ownerId)
    (h : ownerId ∈ followedIds viewerId w) :
    feedContext viewerId (reverseIds viewerId w) r = contextOf viewerId ownerId w := by
  obtain ⟨haccepted, hunblocked⟩ := mem_followedIds.mp h
  have hexcluded : ¬ownerId ∈ listExcludedIds viewerId w := fun hmem => mem_listExcludedIds.mp hmem hunblocked
  have hreverse : decide (ownerId ∈ reverseIds viewerId w) = isAcceptedFollow ownerId viewerId w := by
    rw [Bool.eq_iff_iff, decide_eq_true_iff]
    exact mem_reverseIds h
  rw [feedContext, contextOf, howner, Option.any_some, haccepted, hreverse, decide_eq_false hexcluded]

/-- The rows that the feed reads. -/
def fetched (viewerId : String) (limit : Option Int) (w : Occasions) : List Occasion :=
  (liveOccasions (followedIds viewerId w) w).take (feedLimit limit * 3)

theorem of_mem_fetched {viewerId : String} {limit : Option Int} {w : Occasions} {r : Occasion}
    (h : r ∈ fetched viewerId limit w) : r ∈ w.occasions.rows ∧ r.deactivatedAt = none ∧
      ∃ ownerId, r.userId = some ownerId ∧ ownerId ∈ followedIds viewerId w := by
  have hlive := (List.mem_insertionSort _).mp (List.mem_of_mem_take h)
  simp only [List.mem_filter, Bool.and_eq_true, decide_eq_true_iff, Option.any_eq_true] at hlive
  obtain ⟨hstored, ⟨ownerId, howner, hfollowed⟩, hactive⟩ := hlive
  exact ⟨hstored, hactive, ownerId, howner, hfollowed⟩

theorem nodup_fetched (viewerId : String) (limit : Option Int) (w : Occasions) : (fetched viewerId limit w).Nodup := by
  have hrows : w.occasions.rows.Nodup := List.Nodup.of_map _ w.occasions.nodup
  refine List.Nodup.sublist (List.take_sublist _ _) ?_
  exact (List.perm_insertionSort _ _).nodup_iff.mpr (hrows.filter _)

theorem feedOwner_eq {viewerId : String} {w : Occasions} {r : Occasion}
    (h : ∃ ownerId, r.userId = some ownerId ∧ ownerId ∈ followedIds viewerId w) :
    ((w.users.rows.filter fun u => u.id ∈ followedIds viewerId w && u.deletedAt = none).find? fun u =>
      r.userId = some u.id) = w.users.rows.find? fun u => u.deletedAt = none && r.userId = some u.id := by
  obtain ⟨ownerId, howner, hfollowed⟩ := h
  rw [List.find?_filter]
  congr 1
  funext u
  by_cases hu : r.userId = some u.id
  · have hid : u.id ∈ followedIds viewerId w := by
      rw [howner] at hu
      exact Option.some.inj hu ▸ hfollowed
    simp [hu, hid]
  · simp [hu]

theorem exec_query_bind {α β : Type} (l : Step) (f : Occasions → α) (g : α → Service β) (w : Occasions) :
    (Svc.query l f >>= g).exec w = (g (f w)).exec w := rfl

theorem exec_ofExcept_map {α β : Type} (x : Except Err α) (f : α → β) (w : Occasions) :
    ((Svc.ofExcept x >>= fun a => (pure (f a) : Service β)).exec w).1 = x.map f := by
  cases x <;> rfl

theorem mapM_eq_map {α β : Type} {f : α → Except Err β} {g : α → β} {xs : List α} (h : ∀ x ∈ xs, f x = .ok (g x)) :
    xs.mapM f = .ok (xs.map g) := by
  induction xs with
  | nil => rfl
  | cons x rest ih =>
      rw [List.mapM_cons, h x List.mem_cons_self, ih fun y hy => h y (List.mem_cons_of_mem _ hy)]
      rfl

theorem ok_of_map {α β : Type} {x : Except Err α} {f : α → β} {b : β} (h : x.map f = .ok b) : ∃ a, x = .ok a := by
  cases x with
  | error e => cases h
  | ok a => exact ⟨a, rfl⟩

theorem ok_of_mapM {α β : Type} {f : α → Except Err β} {xs : List α} {ys : List β} (h : xs.mapM f = .ok ys) :
    ∀ x ∈ xs, ∃ y, f x = .ok y := by
  induction xs generalizing ys with
  | nil => exact fun x hx => (nomatch hx)
  | cons x rest ih =>
      rw [List.mapM_cons] at h
      cases hx : f x with
      | error e =>
          rw [hx] at h
          cases h
      | ok y =>
          cases hrest : rest.mapM f with
          | error e =>
              rw [hx, hrest] at h
              cases h
          | ok zs =>
              intro a ha
              rcases List.mem_cons.mp ha with rfl | ha
              · exact ⟨y, hx⟩
              · exact ih hrest a ha

theorem filterMap_ite {α β : Type} (p : α → Bool) (f : α → β) (xs : List α) :
    (xs.map fun x => if p x then some (f x) else none).filterMap id = (xs.filter p).map f := by
  induction xs with
  | nil => rfl
  | cons x rest ih =>
      rw [List.map_cons]
      by_cases hp : p x = true
      · rw [if_pos hp, List.filter_cons_of_pos hp, List.map_cons, ← ih]
        rfl
      · rw [if_neg hp, List.filter_cons_of_neg hp, ← ih]
        rfl

section Umalqura

variable [Umalqura]

/-- The next occurrence of a row, where its dates can be converted. -/
def nextOf (w : Occasions) (r : Occasion) : Option Time :=
  match nextOccurrence r.spec w.now with
  | .ok next => next
  | .error _ => none

/-- The date by which the feed is ordered. -/
def feedDate (w : Occasions) (r : Occasion) : Time := (nextOf w r).getD 0

/-- An active occasion of a followed account, which the viewer may see, and of which the next occurrence falls within
the window. -/
structure Visible (w : Occasions) (viewerId : String) (windowDays : Int) (r : Occasion) : Prop where
  stored : r ∈ w.occasions.rows
  active : r.deactivatedAt = none
  followed : ∃ ownerId, r.userId = some ownerId ∧ isAcceptedFollow viewerId ownerId w = true ∧
    Unblocked w viewerId ownerId ∧ canSeeOccasion (contextOf viewerId ownerId w) r = true
  upcoming : ∃ next, nextOccurrence r.spec w.now = .ok (some next) ∧ next ≤ w.now + windowDays * dayMillis

/-- What the feed is for. -/
def Due (w : Occasions) (viewerId : String) (windowDays : Int) (r : Occasion) : Prop :=
  Visible w viewerId windowDays r ∧ LiveOwner w r

/-- The item of a row. -/
def feedItem (w : Occasions) (r : Occasion) : RelationshipOccasion where
  id := r.id
  kind := r.kind
  label := r.label
  calendar := r.calendar
  year := if r.recurrence = .once then r.year else none
  month := r.month
  day := r.day
  recurrence := r.recurrence
  nextOccurrenceAt := nextOf w r
  daysUntil := (nextOf w r).bind fun next => daysUntilUtc next w.now
  bucket := ((nextOf w r).bind fun next => daysUntilUtc next w.now).map bucketFor
  owner := (w.users.rows.find? fun u => u.deletedAt = none && r.userId = some u.id).map fun u =>
    ⟨u.id, u.qiftUsername, u.fullName, u.avatarUrl⟩

/-- The feed may show a fetched row. -/
def mayShow (viewerId : String) (w : Occasions) (r : Occasion) : Bool :=
  canSeeOccasion (feedContext viewerId (reverseIds viewerId w) r) r

/-- The fetched rows that are visible. -/
def candidates (viewerId : String) (windowDays limit : Option Int) (w : Occasions) : List Occasion :=
  (fetched viewerId limit w).filter fun r => mayShow viewerId w r &&
    (nextOf w r).any (· ≤ w.now + feedWindow windowDays * dayMillis)

variable {w : Occasions} {viewerId : String} {windowDays limit : Option Int} {r : Occasion}

theorem nextOf_eq_some {next : Time} : nextOf w r = some next ↔ nextOccurrence r.spec w.now = .ok (some next) := by
  unfold nextOf
  cases nextOccurrence r.spec w.now with
  | error e => exact ⟨fun h => (nomatch h), fun h => (nomatch h)⟩
  | ok found => exact ⟨fun h => congrArg Except.ok h, fun h => Except.ok.inj h⟩

theorem mem_candidates : r ∈ candidates viewerId windowDays limit w ↔
    r ∈ fetched viewerId limit w ∧ Visible w viewerId (feedWindow windowDays) r := by
  rw [candidates, List.mem_filter, Bool.and_eq_true, Option.any_eq_true]
  refine and_congr_right fun hr => ?_
  obtain ⟨hstored, hactive, ownerId, howner, hfollowed⟩ := of_mem_fetched hr
  obtain ⟨haccepted, hunblocked⟩ := mem_followedIds.mp hfollowed
  rw [mayShow, feedContext_eq howner hfollowed]
  constructor
  · rintro ⟨hsees, next, hnext, hwithin⟩
    exact ⟨hstored, hactive, ⟨ownerId, howner, haccepted, hunblocked, hsees⟩,
      ⟨next, nextOf_eq_some.mp hnext, of_decide_eq_true hwithin⟩⟩
  · rintro ⟨-, -, ⟨ownerId', howner', -, -, hsees⟩, next, hnext, hwithin⟩
    rw [howner] at howner'
    cases howner'
    exact ⟨hsees, next, nextOf_eq_some.mpr hnext, decide_eq_true hwithin⟩

/-! ### The answer -/

/-- Resolving a row. -/
theorem project_eq {viewer : ViewerContext} {owner : Option OwnerSummary} (howner : owner = (feedItem w r).owner)
    (hresolves : canSeeOccasion viewer r = true → ∃ next, nextOccurrence r.spec w.now = .ok next) :
    projectOccasionForViewer viewer r w.now owner =
      .ok (if canSeeOccasion viewer r then some (feedItem w r) else none) := by
  rw [projectOccasionForViewer]
  by_cases hsees : canSeeOccasion viewer r = true
  · obtain ⟨next, hnext⟩ := hresolves hsees
    rw [if_pos hsees, if_pos hsees, hnext, howner]
    have hnextOf : nextOf w r = next := by rw [nextOf, hnext]
    unfold feedItem
    rw [hnextOf]
    rfl
  · rw [if_neg hsees, if_neg hsees]
    rfl

/-- The undisturbed run of the request. -/
theorem listUpcomingForFollowed_exec :
    ((listUpcomingForFollowed viewerId windowDays limit).exec w).1 =
      ((fetched viewerId limit w).mapM fun r =>
        projectOccasionForViewer (feedContext viewerId (reverseIds viewerId w) r) r w.now
          (((w.users.rows.filter fun u => u.id ∈ followedIds viewerId w && u.deletedAt = none).find? fun u =>
            r.userId = some u.id).map fun u => ⟨u.id, u.qiftUsername, u.fullName, u.avatarUrl⟩)).map fun projections =>
        ((sortUpcoming projections).filter fun p =>
          p.nextOccurrenceAt.any (· ≤ w.now + feedWindow windowDays * dayMillis)).take (feedLimit limit) := by
  have hcap : (max 1 (min (limit.getD 50) UPCOMING_HARD_LIMIT) * 3).toNat = feedLimit limit * 3 := by
    unfold feedLimit
    omega
  unfold listUpcomingForFollowed
  simp only [hcap, exec_query_bind]
  by_cases hnone : followedIds viewerId w = []
  · have hfetched : fetched viewerId limit w = [] := by
      rw [List.eq_nil_iff_forall_not_mem]
      intro r hr
      obtain ⟨-, -, ownerId, -, hmem⟩ := of_mem_fetched hr
      exact absurd (hnone ▸ hmem) List.not_mem_nil
    rw [hfetched]
    rw [followedIds] at hnone
    rw [if_pos hnone, List.mapM_nil]
    exact congrArg Except.ok List.take_nil.symm
  · rw [followedIds] at hnone
    rw [if_neg hnone]
    simp only [exec_query_bind, dateNow]
    exact exec_ofExcept_map _ _ w

theorem nextOccurrence_spec {spec : OccasionDateSpec} {after next : Time}
    (h : nextOccurrence spec after = .ok (some next)) :
    startOfUtcDay after ≤ next ∧ ∃ n : Int, next = n * dayMillis := by
  rw [nextOccurrence] at h
  cases hrecurrence : spec.recurrence with
  | once =>
      rw [hrecurrence] at h
      dsimp only at h
      split at h
      next => cases h
      next year _ =>
        cases hdate : calendarDateToGregorian spec.calendar year spec.month spec.day with
        | error e =>
            rw [hdate] at h
            cases h
        | ok d =>
            rw [hdate] at h
            have hsome := Except.ok.inj h
            split at hsome
            next hahead =>
              cases hsome
              exact ⟨hahead, calendarDateToGregorian_midnight hdate⟩
            next => cases hsome
  | yearly =>
      rw [hrecurrence] at h
      cases hyear : currentYearInCalendar spec.calendar after with
      | error e =>
          simp only [hyear] at h
          cases h
      | ok this =>
          simp only [hyear] at h
          obtain ⟨hahead, i, -, hdate⟩ := rollForward_reached h
          exact ⟨hahead, calendarDateToGregorian_midnight hdate⟩

theorem daysUntil_eq (hnow : 0 ≤ w.now) {next : Time} (hnext : nextOf w r = some next) :
    ∃ k, daysUntilUtc next w.now = some k ∧ next = startOfUtcDay w.now + k * dayMillis := by
  obtain ⟨hahead, n, rfl⟩ := nextOccurrence_spec (nextOf_eq_some.mp hnext)
  have hday : (0 : Int) ≤ w.now / dayMillis := Int.ediv_nonneg hnow (by decide)
  rw [startOfUtcDay_eq hnow, day_le_iff] at hahead
  have hmidnight : startOfUtcDay (n * dayMillis) = n * dayMillis := by
    rw [startOfUtcDay_eq (Int.mul_nonneg (hday.trans hahead) (by decide)), Int.mul_ediv_cancel n (by decide)]
  have hdiff : (n * dayMillis - w.now / dayMillis * dayMillis) / dayMillis = n - w.now / dayMillis := by
    rw [← Int.sub_mul]
    exact Int.mul_ediv_cancel _ (by decide)
  refine ⟨n - w.now / dayMillis, ?_, ?_⟩
  · rw [daysUntilUtc, hmidnight, startOfUtcDay_eq hnow, hdiff]
    exact if_neg (not_lt.mpr (Int.sub_nonneg.mpr hahead))
  · rw [startOfUtcDay_eq hnow, ← Int.add_mul]
    congr 1
    omega

/-- The order of the items is that of the dates. -/
theorem feedDate_le (hnow : 0 ≤ w.now) {a b : Occasion} (ha : nextOf w a ≠ none) (hb : nextOf w b ≠ none) :
    feedDate w a ≤ feedDate w b ↔ (feedItem w a).daysUntil.getD 0 ≤ (feedItem w b).daysUntil.getD 0 := by
  obtain ⟨next, hnext⟩ := Option.ne_none_iff_exists'.mp ha
  obtain ⟨next', hnext'⟩ := Option.ne_none_iff_exists'.mp hb
  obtain ⟨k, hk, hdate⟩ := daysUntil_eq hnow hnext
  obtain ⟨k', hk', hdate'⟩ := daysUntil_eq hnow hnext'
  simp only [feedDate, feedItem, hnext, hnext', Option.getD_some, Option.bind_some, hk, hk']
  rw [hdate, hdate', Int.add_le_add_iff_left]
  exact day_le_iff

theorem daysUntil_ne_none (hnow : 0 ≤ w.now) : (feedItem w r).daysUntil ≠ none ↔ nextOf w r ≠ none := by
  unfold feedItem
  cases hnext : nextOf w r with
  | none => simp
  | some next =>
      obtain ⟨k, hk, -⟩ := daysUntil_eq hnow hnext
      simp [hk]

/-- The visible items, in their order. -/
theorem sortUpcoming_eq (hnow : 0 ≤ w.now) (rows : List Occasion) :
    sortUpcoming (rows.map fun r => if mayShow viewerId w r then some (feedItem w r) else none) =
      (sortBy (feedDate w) ((rows.filter (mayShow viewerId w)).filter fun r => nextOf w r ≠ none)).map
        (feedItem w) := by
  have hdated : (fun p : RelationshipOccasion => decide (p.daysUntil ≠ none)) ∘ feedItem w =
      fun r => decide (nextOf w r ≠ none) := by
    funext r
    exact decide_eq_decide.mpr (daysUntil_ne_none hnow)
  rw [sortUpcoming, filterMap_ite, List.filter_map, hdated]
  refine (sortBy_map fun a ha b hb => ?_)
  have hnext {r : Occasion} (hr : r ∈ (rows.filter (mayShow viewerId w)).filter fun r => nextOf w r ≠ none) :
      nextOf w r ≠ none := of_decide_eq_true (List.mem_filter.mp hr).2
  exact feedDate_le hnow (hnext ha) (hnext hb)

/-- **The answer**, where every fetched row that may be shown can be resolved. -/
theorem answer_eq (hnow : 0 ≤ w.now)
    (hresolves : ∀ r ∈ fetched viewerId limit w, mayShow viewerId w r = true →
      ∃ next, nextOccurrence r.spec w.now = .ok next) :
    ((listUpcomingForFollowed viewerId windowDays limit).exec w).1 =
      .ok (((sortBy (feedDate w) (candidates viewerId windowDays limit w)).take (feedLimit limit)).map
        (feedItem w)) := by
  rw [listUpcomingForFollowed_exec, mapM_eq_map fun r hr =>
    project_eq (congrArg (Option.map _) (feedOwner_eq (of_mem_fetched hr).2.2)) (hresolves r hr)]
  refine congrArg Except.ok ?_
  change ((sortUpcoming ((fetched viewerId limit w).map fun r =>
    if mayShow viewerId w r then some (feedItem w r) else none)).filter _).take _ = _
  rw [sortUpcoming_eq hnow, List.filter_map, sortBy_filter, List.map_take]
  have hwithin : (((fetched viewerId limit w).filter (mayShow viewerId w)).filter fun r => nextOf w r ≠ none).filter
      ((fun p : RelationshipOccasion => p.nextOccurrenceAt.any (· ≤ w.now + feedWindow windowDays * dayMillis)) ∘
        feedItem w) = candidates viewerId windowDays limit w := by
    rw [candidates, List.filter_filter, List.filter_filter]
    congr 1
    funext r
    cases hnext : nextOf w r <;> simp [feedItem, hnext, Bool.and_comm]
  rw [hwithin]

theorem resolves_of_answer {items : List RelationshipOccasion}
    (h : ((listUpcomingForFollowed viewerId windowDays limit).exec w).1 = .ok items) :
    ∀ r ∈ fetched viewerId limit w, mayShow viewerId w r = true → ∃ next, nextOccurrence r.spec w.now = .ok next := by
  intro r hr hsees
  rw [listUpcomingForFollowed_exec] at h
  obtain ⟨projections, hprojections⟩ := ok_of_map h
  obtain ⟨shown, hshown⟩ := ok_of_mapM hprojections r hr
  rw [mayShow] at hsees
  rw [projectOccasionForViewer, if_pos hsees] at hshown
  cases hnext : nextOccurrence r.spec w.now with
  | error e =>
      rw [hnext] at hshown
      cases hshown
  | ok next => exact ⟨next, rfl⟩

theorem rows_eq_of_items {rows rows' : List Occasion} (hrows : ∀ r ∈ rows, r ∈ w.occasions.rows)
    (hrows' : ∀ r ∈ rows', r ∈ w.occasions.rows) (h : rows.map (feedItem w) = rows'.map (feedItem w)) :
    rows = rows' := by
  induction rows generalizing rows' with
  | nil => exact (List.map_eq_nil_iff.mp h.symm).symm
  | cons r rest ih =>
      cases rows' with
      | nil => cases h
      | cons r' rest' =>
          obtain ⟨hitem, hitems⟩ := List.cons.inj h
          have hid : r.id = r'.id := congrArg RelationshipOccasion.id hitem
          rw [w.occasions.row_unique (hrows r List.mem_cons_self) (hrows' r' List.mem_cons_self) hid,
            ih (fun x hx => hrows x (List.mem_cons_of_mem _ hx)) (fun x hx => hrows' x (List.mem_cons_of_mem _ hx))
              hitems]

end Umalqura

/-! ### Four occasions -/

attribute [local instance] Pilot.year1447

namespace Pilot

/-- Huda follows Sara. -/
def friends : Accounts where
  users := ⟨[⟨"huda", "huda", none, none, none⟩, ⟨"sara", "sara", none, none, none⟩], by decide⟩
  follows := [⟨"huda", "sara", "accepted"⟩]
  blocks := []

/-- An occasion of Sara's, every January. -/
def inJanuary (day : Nat) : OccasionInput :=
  { kind := some (.str "just_because"), calendar := some (.str "gregorian"), month := some (.num 1),
    day := some (.num day), recurrence := some (.str "yearly"), visibility := some (.str "public") }

/-- One of tomorrow, written on 1 January 2026. -/
def first : List (Choice Call) :=
  toEnd (.tick (makeDay 2026 0 1 * dayMillis).toNat) ++ toEnd (.accounts friends) ++
    toEnd (.create "sara" (inJanuary 2))

/-- Three of the month, each a moment later. -/
def crowded : List (Choice Call) :=
  first ++ toEnd (.tick 1) ++ toEnd (.create "sara" (inJanuary 20)) ++ toEnd (.tick 1) ++
    toEnd (.create "sara" (inJanuary 21)) ++ toEnd (.tick 1) ++ toEnd (.create "sara" (inJanuary 22))

/-- The stored row of an occasion of January. -/
def stored (id : Nat) (day : Int) (createdAt : Time) : Occasion :=
  ⟨id, some "sara", "just_because", none, .gregorian, none, 1, day, .yearly, "public", none, createdAt, none⟩

end Pilot

end Qift.Occasions
