import Qift.Database
import Qift.Lib.Row

/-!
# Follows and blocks

The social graph: who follows whom and who has blocked whom.

* `Social` is the part of the database behind it, with the clock and the hits of the process-local limiter.
* `follow`, `unfollow`, `block` and `unblock` of `follows.service.ts` and `blocks.service.ts`.
* `isBlockedEitherWay` is the gate that the other social services ask.
* `Call` and `program` are the requests; `Run` is any interleaving of them.
-/

namespace Qift.Social

open Relational Interleaving

/-! ### The limiter -/

/-- A sliding window: at most `max` hits in `windowMs`. -/
structure RateLimiter where
  max : Nat
  windowMs : Int

/-- Whether a hit at `now` is let through, and the hits the window then holds. -/
def RateLimiter.hit (limiter : RateLimiter) (now : Time) (hits : List Time) : Bool × List Time :=
  let recent := hits.filter fun t => now - limiter.windowMs < t
  if limiter.max ≤ recent.length then (false, recent) else (true, recent ++ [now])

def followLimiter : RateLimiter := { max := 30, windowMs := 60 * 1000 }

/-! ### Rows -/

structure User where
  id : String
  profileVisibility : String
  deletedAt : Option Time

inductive FollowStatus
  | pending | accepted

structure Follow where
  followerId : String
  followingId : String
  status : FollowStatus
  createdAt : Time
  acceptedAt : Option Time

/-- The composite key of a follow. -/
def Follow.key (f : Follow) : String × String := (f.followerId, f.followingId)

structure Block where
  blockerId : String
  blockedId : String
  createdAt : Time

/-- The composite key of a block. -/
def Block.key (b : Block) : String × String := (b.blockerId, b.blockedId)

/-- A follow between two users, in either direction. -/
def Follow.between (a b : String) (f : Follow) : Bool :=
  (f.followerId = a && f.followingId = b) || (f.followerId = b && f.followingId = a)

/-- A block between two users, in either direction. -/
def Block.between (a b : String) (k : Block) : Bool :=
  (k.blockerId = a && k.blockedId = b) || (k.blockerId = b && k.blockedId = a)

end Qift.Social

namespace Qift

open Relational

/-- The social graph: the tables, the clock and the limiter. -/
structure Social where
  now : Time
  /-- The hits of `followLimiter`, by key. -/
  hits : String → List Time
  users : Table Social.User.id
  follows : Table Social.Follow.key
  blocks : Table Social.Block.key

end Qift

namespace Qift.Social

open Relational Interleaving

def empty : Social where
  now := 0
  hits _ := []
  users := Table.empty
  follows := Table.empty
  blocks := Table.empty

/-! ### Client delegates -/

abbrev followRow : Delegate Social Follow.key where
  table := Social.follows
  store t w := { w with follows := t }
  conflict _ _ := false

abbrev blockRow : Delegate Social Block.key where
  table := Social.blocks
  store t w := { w with blocks := t }
  conflict _ _ := false

/-- An atomic action. -/
inductive Step
  /-- A query or a clock read. -/
  | read
  /-- The clock, the accounts and the limiter. -/
  | environment
  | follow (actorId targetUserId : String)
  | unfollow (actorId targetUserId : String)
  | block (blockerId blockedId : String)
  | unblock (blockerId blockedId : String)

/-- A service call. -/
abbrev Service := Svc Social Step Err

/-- The body of a database transaction. -/
abbrev Transaction := Tx Social Err

/-- `Date.now()`. -/
def dateNow : Service Time := Svc.query .read Social.now

/-! ### Follows -/

/-- `followLimiter.hit`. -/
def followLimiterHit (key : String) : Transaction Bool := fun w =>
  let outcome := followLimiter.hit w.now (w.hits key)
  .ok (outcome.1, { w with hits := Function.update w.hits key outcome.2 })

/-- The limiter in front of every follow action. -/
def checkFollowRate (actorId : String) : Service Unit := do
  let allowed ← Svc.transaction .environment (followLimiterHit ("follow:" ++ actorId))
  Svc.ensure (allowed = true) (.error "follow_rate_limited")

/-- A live account. -/
def findLiveUser (w : Social) (userId : String) : Option User :=
  (w.users.find userId).filter fun u => u.deletedAt = none

def stampAccepted (status : FollowStatus) : Service (Option Time) :=
  match status with
  | .pending => pure none
  | .accepted => some <$> dateNow

def follow (actorId targetUserId : String) : Service Follow := do
  Svc.ensure (actorId ≠ targetUserId) (.badRequest "cannot_follow_self")
  checkFollowRate actorId
  let target ← Svc.query .read fun w => findLiveUser w targetUserId
  match target with
  | none => Svc.fail (.notFound "user_not_found")
  | some target => do
      let status : FollowStatus := if target.profileVisibility = "private" then .pending else .accepted
      let acceptedAt ← stampAccepted status
      Svc.transaction (.follow actorId targetUserId) (do
        let createdAt ← Tx.read Social.now
        followRow.upsert (.p2002 "Follow")
          { followerId := actorId
            followingId := targetUserId
            status := status
            createdAt := createdAt
            acceptedAt := acceptedAt } id)

def unfollow (actorId targetUserId : String) : Service Unit := do
  Svc.ensure (actorId ≠ targetUserId) (.badRequest "cannot_unfollow_self")
  checkFollowRate actorId
  let _ ← Svc.transaction (.unfollow actorId targetUserId)
    (followRow.deleteMany fun f => f.followerId = actorId && f.followingId = targetUserId)
  pure ()

/-! ### Blocks -/

/-- `$transaction`: the block, and the end of the follows between the two. -/
def blockTx (blockerId blockedId : String) : Transaction Unit := do
  let createdAt ← Tx.read Social.now
  let _ ← blockRow.upsert (.p2002 "Block")
    { blockerId := blockerId, blockedId := blockedId, createdAt := createdAt } id
  let _ ← followRow.deleteMany (Follow.between blockerId blockedId)
  pure ()

def block (blockerId blockedId : String) : Service Unit := do
  Svc.ensure (blockerId ≠ blockedId) (.badRequest "cannot_block_self")
  let target ← Svc.query .read fun w => findLiveUser w blockedId
  match target with
  | none => Svc.fail (.notFound "user_not_found")
  | some _ => Svc.transaction (.block blockerId blockedId) (blockTx blockerId blockedId)

/-- The number of blocks removed. -/
def unblock (blockerId blockedId : String) : Service Nat :=
  Svc.transaction (.unblock blockerId blockedId)
    (blockRow.deleteMany fun k => k.blockerId = blockerId && k.blockedId = blockedId)

/-- The gate of the social services: a block in either direction. -/
def isBlockedEitherWay (w : Social) (viewerId otherId : String) : Bool :=
  if viewerId = otherId then false else w.blocks.rows.any (Block.between viewerId otherId)

/-! ### Requests -/

/-- A request, the clock, or a change of the accounts. -/
inductive Call
  | tick (elapsed : Nat)
  | accounts (users : Table User.id)
  | follow (actorId targetUserId : String)
  | unfollow (actorId targetUserId : String)
  | block (blockerId blockedId : String)
  | unblock (blockerId blockedId : String)

inductive Reply
  | done
  | follow (f : Follow)
  | removed (count : Nat)

def environment (f : Social → Social) : Service Unit := Svc.transaction .environment (Tx.modify f)

def program : Call → Service Reply
  | .tick elapsed => (fun _ => Reply.done) <$> environment fun w => { w with now := w.now + elapsed }
  | .accounts users => (fun _ => Reply.done) <$> environment fun w => { w with users := users }
  | .follow actorId targetUserId => Reply.follow <$> follow actorId targetUserId
  | .unfollow actorId targetUserId => (fun _ => Reply.done) <$> unfollow actorId targetUserId
  | .block blockerId blockedId => (fun _ => Reply.done) <$> block blockerId blockedId
  | .unblock blockerId blockedId => Reply.removed <$> unblock blockerId blockedId

/-- The interleavings of requests. -/
abbrev Run : List (Event Social Step) → Config Social Step (Except Err Reply) → Prop := Exec program empty

end Qift.Social
