import FloodRisk.Lib.SlidingWindow
import Mathlib.Data.Rat.Floor
import Mathlib.Logic.Function.Basic

/-!
# Rate limits (domain/reports/abuse.py)

The limiter in memory keeps a deque of each client in seconds; the Redis script
keeps a sorted set and a sequence number of each client in milliseconds.
-/

namespace FloodRisk.Abuse

structure RateLimitPolicy where
  maxRequests : ℤ
  windowSeconds : ℤ

def RateLimitPolicy.IsValid (policy : RateLimitPolicy) : Prop :=
  1 ≤ policy.maxRequests ∧ 1 ≤ policy.windowSeconds

inductive RateLimitError where
  | value (message : String)
  | exceeded (retryAfterSeconds : ℤ)
  deriving DecidableEq

abbrev Outcome := Except RateLimitError Unit

def checkPolicy (policy : RateLimitPolicy) : Outcome :=
  if policy.maxRequests < 1 then .error (.value "rate limit max_requests must be at least 1")
  else if policy.windowSeconds < 1 then
    .error (.value "rate limit window_seconds must be at least 1")
  else .ok ()

/-! ### The limiter in memory -/

/-- `_requests_by_client`; a client without an entry has the empty deque. -/
abbrev RequestsByClient := String → List ℚ

/-- `while requests and requests[0] <= window_start: requests.popleft()`. -/
def popExpired (windowStart : ℚ) : List ℚ → List ℚ
  | [] => []
  | first :: rest => if first ≤ windowStart then popExpired windowStart rest else first :: rest

/-- `max(1, ceil(window - (now - oldest)))`. -/
def retryAfter (policy : RateLimitPolicy) (now oldest : ℚ) : ℤ :=
  max 1 ⌈(policy.windowSeconds : ℚ) - (now - oldest)⌉

/-- `InMemoryRateLimiter._check`. -/
def checkInMemory (clientKey : String) (policy : RateLimitPolicy) (now : ℚ)
    (requestsByClient : RequestsByClient) : Outcome × RequestsByClient :=
  match checkPolicy policy with
  | .error error => (.error error, requestsByClient)
  | .ok _ =>
      let requests := popExpired (now - policy.windowSeconds) (requestsByClient clientKey)
      if policy.maxRequests ≤ requests.length then
        (.error (.exceeded (retryAfter policy now (requests.headD now))),
          Function.update requestsByClient clientKey requests)
      else (.ok (), Function.update requestsByClient clientKey (requests ++ [now]))

/-! ### The Redis script -/

/-- `now_ms .. ":" .. sequence`, as its two numbers. -/
structure Member where
  nowMs : ℤ
  sequence : ℤ
  deriving DecidableEq

/-- The members of a sorted set with their scores. -/
abbrev SortedSet := List (Member × ℤ)

/-- A value with the time at which Redis drops it. -/
structure Expiring (α : Type) where
  value : α
  expiresAt : Option ℤ

/-- `KEYS[1]` and `KEYS[2]` of a client. -/
structure ClientKeys where
  bucket : Option (Expiring SortedSet) := none
  sequence : Option (Expiring ℤ) := none

/-- What a command sees of a key. -/
def live {α : Type} (nowMs : ℤ) (key : Option (Expiring α)) : Option (Expiring α) :=
  key.filter fun entry => entry.expiresAt.all (nowMs ≤ ·)

/-- `ZREMRANGEBYSCORE key -inf window_start`; an emptied set is deleted. -/
def zremrangebyscore (windowStart : ℤ) (key : Option (Expiring SortedSet)) :
    Option (Expiring SortedSet) :=
  match key with
  | none => none
  | some entry =>
      let kept := entry.value.filter fun member => windowStart < member.2
      if kept.isEmpty then none else some { entry with value := kept }

def members (key : Option (Expiring SortedSet)) : SortedSet :=
  key.elim [] Expiring.value

/-- `ZADD key score member`. -/
def zadd (set : SortedSet) (member : Member) (score : ℤ) : SortedSet :=
  set.filter (fun entry => entry.1 ≠ member) ++ [(member, score)]

/-- The score of `ZRANGE key 0 0 WITHSCORES`. -/
def lowestScore (set : SortedSet) : Option ℤ := (set.map Prod.snd).min?

/-- `_REDIS_RATE_LIMIT_SCRIPT`: its two numbers and the keys after it. -/
def rateLimitScript (nowMs windowMs maxRequests : ℤ) (keys : ClientKeys) :
    (ℤ × ℤ) × ClientKeys :=
  let bucket := zremrangebyscore (nowMs - windowMs) (live nowMs keys.bucket)
  let sequence := live nowMs keys.sequence
  let currentCount : ℤ := (members bucket).length
  if maxRequests ≤ currentCount then
    let retryMs :=
      match lowestScore (members bucket) with
      | some oldest => max 1 (windowMs - (nowMs - oldest))
      | none => windowMs
    ((0, retryMs), ⟨bucket, sequence⟩)
  else
    let next := sequence.elim 0 Expiring.value + 1
    let expiresAt := some (nowMs + (windowMs + 1000))
    ((1, 0), ⟨some ⟨zadd (members bucket) ⟨nowMs, next⟩ nowMs, expiresAt⟩,
      some ⟨next, expiresAt⟩⟩)

/-- `int(value)`. -/
def truncate (value : ℚ) : ℤ := if 0 ≤ value then ⌊value⌋ else ⌈value⌉

/-- `RedisRateLimiter.check` with a reachable server. -/
def checkRedis (policy : RateLimitPolicy) (now : ℚ) (keys : ClientKeys) : Outcome × ClientKeys :=
  match checkPolicy policy with
  | .error error => (.error error, keys)
  | .ok _ =>
      let (result, keys) := rateLimitScript (truncate (now * 1000)) (policy.windowSeconds * 1000)
        policy.maxRequests keys
      if result.1 = 0 then (.error (.exceeded (max 1 ⌈(result.2 : ℚ) / 1000⌉)), keys)
      else (.ok (), keys)

/-! ### Runs -/

/-- A limiter of one client, at clock times in milliseconds. -/
structure Limiter (σ : Type) where
  initial : σ
  check : σ → ℤ → Outcome × σ

def seconds (ms : ℤ) : ℚ := ms / 1000

def inMemoryLimiter (clientKey : String) (policy : RateLimitPolicy) : Limiter RequestsByClient where
  initial := fun _ => []
  check requests ms := checkInMemory clientKey policy (seconds ms) requests

def redisLimiter (policy : RateLimitPolicy) : Limiter ClientKeys where
  initial := {}
  check keys ms := checkRedis policy (seconds ms) keys

namespace Limiter

variable {σ τ : Type}

/-- The state after some checks, and each check with its outcome. -/
def run (limiter : Limiter σ) (times : List ℤ) : σ × List (ℤ × Outcome) :=
  times.foldl
    (fun (state, done) ms =>
      let (outcome, next) := limiter.check state ms
      (next, done ++ [(ms, outcome)]))
    (limiter.initial, [])

def after (limiter : Limiter σ) (times : List ℤ) : σ := (limiter.run times).1

/-- The outcome of a check after some checks. -/
def outcome (limiter : Limiter σ) (before : List ℤ) (ms : ℤ) : Outcome :=
  (limiter.check (limiter.after before) ms).1

/-- The times of the admitted checks. -/
def admittedTimes (limiter : Limiter σ) (times : List ℤ) : List ℤ :=
  ((limiter.run times).2.filter fun check => check.2 = .ok ()).map Prod.fst

theorem run_concat (limiter : Limiter σ) (times : List ℤ) (ms : ℤ) :
    limiter.run (times ++ [ms]) =
      ((limiter.check (limiter.after times) ms).2,
        (limiter.run times).2 ++ [(ms, limiter.outcome times ms)]) := by
  rw [run, List.foldl_append]
  rfl

theorem admittedTimes_concat (limiter : Limiter σ) (times : List ℤ) (ms : ℤ) :
    limiter.admittedTimes (times ++ [ms]) =
      limiter.admittedTimes times ++
        if limiter.outcome times ms = .ok () then [ms] else [] := by
  rw [admittedTimes, run_concat, List.filter_append, List.map_append]
  split_ifs with hok
  · rw [List.filter_cons_of_pos (by simpa using hok)]
    rfl
  · rw [List.filter_cons_of_neg (by simpa using hok)]
    rfl

end Limiter

end FloodRisk.Abuse
