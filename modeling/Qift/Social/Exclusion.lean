import Qift.Lib.Settling
import Qift.Social.Service

/-!
# A block between two users and the follows between them

* `Effect` — what an action does to the follows and the blocks, by its label; `Run.path` makes every run a path of
  effects.
* `Excludes` — no follow, pending or accepted, lies between two users one of whom has blocked the other.
* **`Run.block_excludes_follow`** — it holds in every state of a run in which every follow that is written finds no
  block between its two users.
* `Run.follow_despite_block` — `follow` does not ask: a blocked user follows on, undisturbed.
-/

namespace Qift.Social

open Relational Relational.Table Interleaving

/-! ### Effects -/

/-- What an action does to the follows and the blocks. -/
inductive Effect : Step → Social → Social → Prop
  | idle (l : Step) (w : Social) : Effect l w w
  | environment {w w' : Social} (hfollows : w'.follows = w.follows) (hblocks : w'.blocks = w.blocks) :
      Effect .environment w w'
  | follow {w : Social} (f : Follow) (t : Table Follow.key) (hself : f.followerId ≠ f.followingId)
      (hcreate : w.follows.create f = some t) :
      Effect (.follow f.followerId f.followingId) w { w with follows := t }
  | refollow {w w' : Social} (actorId targetUserId : String) (hfollows : w'.follows.rows = w.follows.rows)
      (hblocks : w'.blocks = w.blocks) : Effect (.follow actorId targetUserId) w w'
  | unfollow {w : Social} (actorId targetUserId : String) (p : Follow → Bool) :
      Effect (.unfollow actorId targetUserId) w { w with follows := w.follows.deleteMany p }
  | block {w w' : Social} (blockerId blockedId : String)
      (hblocks : ∀ k ∈ w'.blocks.rows, k ∈ w.blocks.rows ∨ (k.blockerId = blockerId ∧ k.blockedId = blockedId))
      (hfollows : w'.follows = w.follows.deleteMany (Follow.between blockerId blockedId)) :
      Effect (.block blockerId blockedId) w w'
  | unblock {w : Social} (blockerId blockedId : String) (p : Block → Bool) :
      Effect (.unblock blockerId blockedId) w { w with blocks := w.blocks.deleteMany p }

@[grind ←] theorem query_does {α : Type} (f : Social → α) : Svc.Does Effect (Svc.query .read f : Service α) :=
  Svc.Does.query (Effect.idle .read) f

theorem write_does {α : Type} {l : Step} {tx : Transaction α} (h : ∀ w a w', tx w = .ok (a, w') → Effect l w w') :
    Svc.Does Effect (Svc.transaction l tx) :=
  Svc.Does.transaction h fun w _ _ => Effect.idle l w

theorem environment_does {f : Social → Social} (hfollows : ∀ w, (f w).follows = w.follows)
    (hblocks : ∀ w, (f w).blocks = w.blocks) : Svc.Does Effect (environment f) := by
  refine write_does fun w a w' h => ?_
  rw [Tx.modify_eq_ok] at h
  subst h
  exact .environment (hfollows w) (hblocks w)

theorem checkFollowRate_does (actorId : String) : Svc.Does Effect (checkFollowRate actorId) := by
  refine Svc.Does.bind (write_does fun w a w' h => ?_) fun allowed => Svc.Does.ensure _ _
  obtain ⟨-, rfl⟩ : _ ∧ _ = w' := by simpa [followLimiterHit] using h
  exact .environment rfl rfl

theorem stampAccepted_does (status : FollowStatus) : Svc.Does Effect (stampAccepted status) := by
  cases status with
  | pending => exact Svc.Does.pure _
  | accepted => exact Svc.Does.bind (query_does _) fun now => Svc.Does.pure _

theorem follow_does (actorId targetUserId : String) : Svc.Does Effect (follow actorId targetUserId) := by
  refine Svc.Does.guard fun hself => Svc.Does.bind (checkFollowRate_does actorId) fun _ => ?_
  refine Svc.Does.bind (query_does _) fun target => ?_
  cases target with
  | none => exact Svc.Does.fail _
  | some target =>
      refine Svc.Does.bind (stampAccepted_does _) fun acceptedAt => write_does fun w a w' h => ?_
      obtain ⟨createdAt, w₁, hnow, h⟩ := Tx.bind_eq_ok.mp h
      obtain ⟨-, rfl⟩ := Tx.read_eq_ok.mp hnow
      rcases Delegate.upsert_eq_ok.mp h with ⟨f, hf, -, rfl⟩ | ⟨hnone, hcreate⟩
      · exact .refollow actorId targetUserId (rows_update_id fun _ => rfl) rfl
      · obtain ⟨t, ht, -, -, rfl⟩ := Delegate.create_eq_ok.mp hcreate
        exact .follow _ t hself ht

theorem unfollow_does (actorId targetUserId : String) : Svc.Does Effect (unfollow actorId targetUserId) := by
  refine Svc.Does.bind (Svc.Does.ensure _ _) fun _ => Svc.Does.bind (checkFollowRate_does actorId) fun _ => ?_
  refine Svc.Does.bind (write_does fun w a w' h => ?_) fun _ => Svc.Does.pure _
  obtain ⟨-, rfl⟩ := Delegate.deleteMany_eq_ok.mp h
  exact .unfollow actorId targetUserId _

theorem block_does (blockerId blockedId : String) : Svc.Does Effect (block blockerId blockedId) := by
  refine Svc.Does.bind (Svc.Does.ensure _ _) fun _ => Svc.Does.bind (query_does _) fun target => ?_
  cases target with
  | none => exact Svc.Does.fail _
  | some target =>
      refine write_does fun w a w' h => ?_
      obtain ⟨createdAt, w₁, hnow, h⟩ := Tx.bind_eq_ok.mp h
      obtain ⟨-, rfl⟩ := Tx.read_eq_ok.mp hnow
      obtain ⟨k, w₂, hupsert, h⟩ := Tx.bind_eq_ok.mp h
      obtain ⟨n, w₃, hdelete, h⟩ := Tx.bind_eq_ok.mp h
      obtain ⟨-, rfl⟩ := Tx.pure_eq_ok.mp h
      obtain ⟨-, rfl⟩ := Delegate.deleteMany_eq_ok.mp hdelete
      rcases Delegate.upsert_eq_ok.mp hupsert with ⟨x, hx, -, rfl⟩ | ⟨hnone, hcreate⟩
      · refine .block blockerId blockedId (fun k hk => Or.inl ?_) rfl
        rwa [show _ = w.blocks.rows from rows_update_id fun _ => rfl] at hk
      · obtain ⟨t, ht, -, -, rfl⟩ := Delegate.create_eq_ok.mp hcreate
        refine .block blockerId blockedId (fun k hk => ?_) rfl
        rcases (mem_create ht).mp hk with hk | rfl
        · exact Or.inl hk
        · exact Or.inr ⟨rfl, rfl⟩

theorem unblock_does (blockerId blockedId : String) : Svc.Does Effect (unblock blockerId blockedId) := by
  refine write_does fun w a w' h => ?_
  obtain ⟨-, rfl⟩ := Delegate.deleteMany_eq_ok.mp h
  exact .unblock blockerId blockedId _

theorem program_does (c : Call) : Svc.Does Effect (program c) := by
  have hmap {α : Type} {x : Service α} {f : α → Reply} (hx : Svc.Does Effect x) : Svc.Does Effect (f <$> x) :=
    Svc.Does.bind hx fun _ => Svc.Does.pure _
  cases c with
  | tick elapsed => exact hmap (environment_does (fun _ => rfl) fun _ => rfl)
  | accounts users => exact hmap (environment_does (fun _ => rfl) fun _ => rfl)
  | follow actorId targetUserId => exact hmap (follow_does actorId targetUserId)
  | unfollow actorId targetUserId => exact hmap (unfollow_does actorId targetUserId)
  | block blockerId blockedId => exact hmap (block_does blockerId blockedId)
  | unblock blockerId blockedId => exact hmap (unblock_does blockerId blockedId)

theorem Run.path {tr : List (Event Social Step)} {cfg : Config Social Step (Except Err Reply)} (h : Run tr cfg) :
    Path Effect empty tr cfg.state := Exec.does program_does h

/-! ### The law of blocks -/

/-- No follow lies between two users one of whom has blocked the other. -/
def Excludes (w : Social) : Prop :=
  ∀ k ∈ w.blocks.rows, ∀ f ∈ w.follows.rows, f.between k.blockerId k.blockedId = false

/-- A follow that is written finds no block between its two users. -/
def Clear (e : Event Social Step) : Prop :=
  match e.lbl with
  | .follow actorId targetUserId => isBlockedEitherWay e.pre actorId targetUserId = false
  | _ => True

theorem across_of_clear {w : Social} {f : Follow} (hself : f.followerId ≠ f.followingId)
    (hclear : isBlockedEitherWay w f.followerId f.followingId = false) {k : Block} (hk : k ∈ w.blocks.rows) :
    f.between k.blockerId k.blockedId = false := by
  rw [isBlockedEitherWay, if_neg hself, List.any_eq_false] at hclear
  have hk := hclear k hk
  simp only [Block.between, Bool.or_eq_true, Bool.and_eq_true, decide_eq_true_eq, not_or, not_and] at hk
  simp only [Follow.between, Bool.or_eq_false_iff, Bool.and_eq_false_imp, decide_eq_true_eq, decide_eq_false_iff_not]
  constructor
  · intro hfollower hfollowing
    exact hk.1 hfollower.symm hfollowing.symm
  · intro hfollower hfollowing
    exact hk.2 hfollowing.symm hfollower.symm

/-- **One action keeps the law**, where a follow that it writes is clear. -/
theorem Effect.excludes {l : Step} {w w' : Social} (h : Effect l w w') (hclear : Clear ⟨w, l, w'⟩) (hw : Excludes w) :
    Excludes w' := by
  intro k hk f hf
  cases h with
  | idle => exact hw k hk f hf
  | environment hfollows hblocks =>
      rw [hblocks] at hk
      rw [hfollows] at hf
      exact hw k hk f hf
  | follow g t hself hcreate =>
      rcases (mem_create hcreate).mp hf with hf | rfl
      · exact hw k hk f hf
      · exact across_of_clear hself hclear hk
  | refollow actorId targetUserId hfollows hblocks =>
      rw [hblocks] at hk
      rw [hfollows] at hf
      exact hw k hk f hf
  | unfollow actorId targetUserId p => exact hw k hk f (mem_deleteMany.mp hf).1
  | block blockerId blockedId hblocks hfollows =>
      rw [hfollows, mem_deleteMany] at hf
      rcases hblocks k hk with hk | ⟨hblocker, hblocked⟩
      · exact hw k hk f hf.1
      · rw [hblocker, hblocked]
        exact hf.2
  | unblock blockerId blockedId p => exact hw k (mem_deleteMany.mp hk).1 f hf

theorem excludes_empty : Excludes empty := by
  intro k hk
  cases hk

/-- **A block excludes every follow**, in every state of a run whose follows are clear when they are written. -/
theorem Run.block_excludes_follow {tr : List (Event Social Step)} {cfg : Config Social Step (Except Err Reply)}
    (h : Run tr cfg) (hclear : ∀ e ∈ tr, Clear e) : Excludes cfg.state :=
  (Run.path h).invariant (fun _ _ _ hact hC hs => hact.excludes hC hs) hclear excludes_empty

/-! ### A blocked user follows -/

instance (e : Event Social Step) : Decidable (Clear e) := by
  unfold Clear
  split
  · infer_instance
  · exact .isTrue trivial

instance (w : Social) : Decidable (Excludes w) := by
  unfold Excludes
  infer_instance

namespace Pilot

/-- Follow a schedule from the empty database. -/
def played (schedule : List (Choice Call)) : List (Event Social Step) × Config Social Step (Except Err Reply) :=
  Config.play program ⟨empty, []⟩ schedule

theorem run (schedule : List (Choice Call)) : Run (played schedule).1 (played schedule).2 := by
  have hinit : Run [] ⟨empty, []⟩ := Exec.init
  simpa [played] using hinit.play schedule

/-- Start a call and let it end. -/
def toEnd (c : Call) : List (Choice Call) := .start c :: List.replicate 5 (.run 0)

/-- Two public accounts. -/
def opened : List (Choice Call) :=
  toEnd (.accounts ⟨[⟨"huda", "public", none⟩, ⟨"omar", "public", none⟩], by decide⟩)

/-- Omar follows Huda, and she blocks him. -/
def blocked : List (Choice Call) := opened ++ toEnd (.follow "omar" "huda") ++ toEnd (.block "huda" "omar")

/-- He follows her again. -/
def followed : List (Choice Call) := blocked ++ toEnd (.follow "omar" "huda")

end Pilot

theorem Run.block_excludes_follow_blocked : Excludes (Pilot.played Pilot.blocked).2.state :=
  Run.block_excludes_follow (Pilot.run Pilot.blocked) (by decide +kernel)

/-- **A blocked user follows**: no call is in progress, the block stands, and so does the follow. -/
theorem Run.follow_despite_block : ∃ tr cfg, Run tr cfg ∧ cfg.Quiet ∧ ¬ Excludes cfg.state :=
  ⟨_, _, Pilot.run Pilot.followed, by decide +kernel⟩

end Qift.Social
