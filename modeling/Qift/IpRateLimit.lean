import Qift.RateLimiter

/-!
# Requests from one address

`ip-rate-limit.guard.ts`: one limiter for each bucket, made when its first request arrives, and in it one key for each
address.

* `serve_limiter` — the requests of a bucket are the calls of its limiter.
* **`canActivate_exact`** — where the routes of a bucket agree on their limit, no window holds more than that many of one
  address that pass, and a request is turned away exactly when so many have passed.
-/

namespace Qift.IpRateLimit

open Lib RateLimiter

structure IpRateLimitConfig where
  bucket : String
  max : Int
  windowMs : Time
  deriving DecidableEq

structure HttpException where
  statusCode : Nat
  code : String
  message : String

def tooManyRequests : HttpException where
  statusCode := 429
  code := "rate_limited"
  message := "Too many requests — please wait a few minutes"

/-- The limiters of the guard, by bucket. -/
abbrev Limiters := String → Option RateLimiter

/-- `req.ip?.trim() || 'unknown'`. -/
def clientIp (ip : Option String) : String :=
  let trimmed := trim (ip.getD "")
  if trimmed = "" then "unknown" else trimmed

/-- What the guard reads of a request: the configuration of its route and its address. -/
structure Request where
  config : Option IpRateLimitConfig
  ip : Option String
  now : Time

def canActivate (r : Request) (limiters : Limiters) : Except HttpException Bool × Limiters :=
  match r.config with
  | none => (.ok true, limiters)
  | some config =>
      let limiter := (limiters config.bucket).getD (.new config.max config.windowMs)
      let (ok, limiter') := limiter.hit r.now (config.bucket ++ ":" ++ clientIp r.ip)
      (if ok then .ok true else .error tooManyRequests, Function.update limiters config.bucket (some limiter'))

/-- The requests with whether they pass, and the limiters after them. -/
def serve : List Request → Limiters → List (Request × Bool) × Limiters
  | [], limiters => ([], limiters)
  | r :: rest, limiters =>
      let (answer, limiters') := canActivate r limiters
      let (answered, limiters'') := serve rest limiters'
      ((r, answer.isOk) :: answered, limiters'')

theorem serve_cons (r : Request) (rest : List Request) (limiters : Limiters) : serve (r :: rest) limiters =
    ((r, (canActivate r limiters).1.isOk) :: (serve rest (canActivate r limiters).2).1,
      (serve rest (canActivate r limiters).2).2) := rfl

/-! ### One bucket -/

def Request.of (bucket : String) (r : Request) : Bool := r.config.any fun c => c.bucket = bucket

def Request.call (bucket : String) (r : Request) : Call := { key := bucket ++ ":" ++ clientIp r.ip, now := r.now }

/-- The routes of a bucket agree on its limit and its window. -/
def Agree (c : IpRateLimitConfig) (requests : List Request) : Prop :=
  ∀ r ∈ requests, r.of c.bucket = true → r.config = some c

section Bucket

variable {c : IpRateLimitConfig} {r : Request} {requests : List Request} {limiters : Limiters}

/-- The limiter of a bucket, made if there is none. -/
def limiterOf (c : IpRateLimitConfig) (limiters : Limiters) : RateLimiter :=
  (limiters c.bucket).getD (.new c.max c.windowMs)

theorem canActivate_own (h : r.config = some c) (limiters : Limiters) :
    (canActivate r limiters).1.isOk = ((limiterOf c limiters).hit r.now (r.call c.bucket).key).1 ∧
      limiterOf c (canActivate r limiters).2 = ((limiterOf c limiters).hit r.now (r.call c.bucket).key).2 := by
  rw [canActivate, h]
  change (Except.isOk
      (if ((limiterOf c limiters).hit r.now (r.call c.bucket).key).1 = true then .ok true else .error _)) = _ ∧
    limiterOf c (Function.update limiters c.bucket _) = _
  refine ⟨?_, by rw [limiterOf, Function.update_self]; rfl⟩
  cases ((limiterOf c limiters).hit r.now (r.call c.bucket).key).1 with
  | true => rfl
  | false => rfl

theorem canActivate_other (h : r.of c.bucket = false) :
    limiterOf c (canActivate r limiters).2 = limiterOf c limiters := by
  rw [canActivate]
  cases hconfig : r.config with
  | none => rfl
  | some d =>
      rw [Request.of, hconfig] at h
      have hne : c.bucket ≠ d.bucket := fun heq => by simp [heq] at h
      change limiterOf c (Function.update limiters d.bucket _) = _
      rw [limiterOf, Function.update_of_ne hne, limiterOf]

/-- **The requests of a bucket are the calls of its limiter.** -/
theorem serve_limiter (hagree : Agree c requests) (limiters : Limiters) :
    ((serve requests limiters).1.filter fun a => a.1.of c.bucket).map (fun a => (a.1.call c.bucket, a.2)) =
      (RateLimiter.serve ((requests.filter (Request.of c.bucket)).map (Request.call c.bucket))
        (limiterOf c limiters)).1 := by
  induction requests generalizing limiters with
  | nil => rfl
  | cons r rest ih =>
      have hrest := ih fun r' hr' => hagree r' (List.mem_cons_of_mem _ hr')
      rw [serve_cons]
      cases hof : r.of c.bucket with
      | true =>
          obtain ⟨hanswer, hthen⟩ := canActivate_own (hagree r List.mem_cons_self hof) limiters
          simp only [List.filter_cons, hof, if_true, List.map_cons]
          rw [RateLimiter.serve_cons, hrest, hthen, hanswer]
          rfl
      | false =>
          simp only [List.filter_cons, hof, Bool.false_eq_true, if_false]
          rw [hrest, canActivate_other hof]

/-- The instants at which requests of a bucket and an address pass. -/
def passed (bucket ip : String) (answered : List (Request × Bool)) : List Time :=
  (answered.filter fun a => a.1.of bucket && (clientIp a.1.ip = ip && a.2)).map fun a => a.1.now

/-- They are the accepted hits of the key of the address. -/
theorem passed_eq_accepted (bucket ip : String) (answered : List (Request × Bool)) :
    passed bucket ip answered = accepted (bucket ++ ":" ++ ip)
      ((answered.filter fun a => a.1.of bucket).map fun a => (a.1.call bucket, a.2)) := by
  rw [passed, accepted, List.filter_map, List.map_map, List.filter_filter]
  refine congrArg (List.map _) (List.filter_congr fun a _ => ?_)
  simp only [Function.comp_apply, Request.call, String.append_right_inj, Bool.decide_and, Bool.decide_eq_true]
  rw [Bool.and_comm]

theorem serve_history (hagree : Agree c requests) :
    ((serve requests fun _ => none).1.filter fun a => a.1.of c.bucket).map (fun a => (a.1.call c.bucket, a.2)) =
      history c.max c.windowMs ((requests.filter (Request.of c.bucket)).map (Request.call c.bucket)) :=
  serve_limiter hagree _

theorem inOrder_calls (horder : requests.Pairwise fun r r' => r.now ≤ r'.now) :
    InOrder ((requests.filter (Request.of c.bucket)).map (Request.call c.bucket)) :=
  List.pairwise_map.mpr (horder.filter _)

/-- **The limit of an address.** No window holds more of its requests that pass than the limit of the bucket, and one is
turned away exactly when the window that ends with it holds that many, whatever other addresses and buckets do. -/
theorem canActivate_exact (hmax : 1 ≤ c.max) (hagree : Agree c requests)
    (horder : requests.Pairwise fun r r' => r.now ≤ r'.now) :
    (∀ ip t, ((within c.windowMs t (passed c.bucket ip (serve requests fun _ => none).1)).length : Int) ≤ c.max) ∧
    ∀ before r ok later, (serve requests fun _ => none).1 = before ++ (r, ok) :: later → r.config = some c →
      (ok = false ↔
        ((within c.windowMs r.now (passed c.bucket (clientIp r.ip) before)).length : Int) = c.max) := by
  have hpos : 0 ≤ c.max := by omega
  have hcalls := inOrder_calls (c := c) horder
  refine ⟨fun ip t => ?_, fun before r ok later h hconfig => ?_⟩
  · rw [passed_eq_accepted, serve_history hagree]
    exact length_within_history_le hpos hcalls _ t
  · have hown : r.of c.bucket = true := by
      rw [Request.of, hconfig]
      exact decide_eq_true rfl
    have hhistory := serve_history hagree
    rw [h, List.filter_append, List.filter_cons, if_pos hown, List.map_append, List.map_cons] at hhistory
    rw [passed_eq_accepted]
    exact refused_iff hpos hcalls hhistory.symm

end Bucket

/-- Two addresses on a route of two requests in ten, and a route without a limit. -/
def knocks : List Request :=
  let login : IpRateLimitConfig := { bucket := "auth-login", max := 2, windowMs := 10 }
  [{ config := some login, ip := some "10.0.0.7", now := 0 }, { config := none, ip := some "10.0.0.7", now := 1 },
    { config := some login, ip := some " 10.0.0.7", now := 5 }, { config := some login, ip := none, now := 7 },
    { config := some login, ip := some "10.0.0.7", now := 9 },
    { config := some login, ip := some "10.0.0.7", now := 10 }]

theorem canActivate_exact_knocks :
    (serve knocks fun _ => none).1.map Prod.snd = [true, true, true, true, false, true] ∧
      ∀ ip t, ((within 10 t (passed "auth-login" ip (serve knocks fun _ => none).1)).length : Int) ≤ 2 :=
  ⟨by decide +kernel, (canActivate_exact (c := { bucket := "auth-login", max := 2, windowMs := 10 }) (by decide)
    (by intro r hr hof; revert r; decide +kernel) (by decide +kernel)).1⟩

end Qift.IpRateLimit
