import FloodRisk.Reports.Abuse
import Mathlib.Tactic.FieldSimp
import Mathlib.Tactic.Linarith
import Mathlib.Tactic.Ring

/-!
# Runs of the rate limiters

Both limiters refine the limiter that keeps the log of all admitted times.
-/

namespace FloodRisk.Abuse
open SlidingWindow

variable {policy : RateLimitPolicy} {clientKey : String} {times log : List ℤ} {now ms : ℤ}

/-! ### Simulation -/

theorem Limiter.simulation {σ τ : Type} {limiter : Limiter σ} {other : Limiter τ}
    {R : List ℤ → σ → τ → Prop} (hstart : R [] limiter.initial other.initial)
    (hstep : ∀ times s s' ms, (times ++ [ms]).Pairwise (· ≤ ·) → R times s s' →
      (limiter.check s ms).1 = (other.check s' ms).1 ∧
        R (times ++ [ms]) (limiter.check s ms).2 (other.check s' ms).2)
    {times : List ℤ} (hsorted : times.Pairwise (· ≤ ·)) :
    (limiter.run times).2 = (other.run times).2 ∧
      R times (limiter.after times) (other.after times) := by
  induction times using List.reverseRecOn with
  | nil => exact ⟨rfl, hstart⟩
  | append_singleton times ms ih =>
    obtain ⟨hchecks, hstates⟩ := ih (List.pairwise_append.mp hsorted).1
    obtain ⟨houtcome, hnext⟩ := hstep times _ _ ms hsorted hstates
    have hsame : limiter.outcome times ms = other.outcome times ms := houtcome
    constructor
    · rw [run_concat, run_concat]
      show (limiter.run times).2 ++ _ = (other.run times).2 ++ _
      rw [hchecks, hsame]
    · rw [after, after, run_concat, run_concat]
      exact hnext

/-! ### The log -/

def windowMs (policy : RateLimitPolicy) : ℤ := policy.windowSeconds * 1000

def limitOf (policy : RateLimitPolicy) : ℕ := policy.maxRequests.toNat

/-- The outcome of a check after the admitted times of the log. -/
def logOutcome (policy : RateLimitPolicy) (log : List ℤ) (ms : ℤ) : Outcome :=
  if (recent (windowMs policy) log ms).length < limitOf policy then .ok ()
  else
    .error (.exceeded (retryAfter policy (seconds ms)
      (seconds ((recent (windowMs policy) log ms).headD ms))))

/-- The limiter that forgets nothing. -/
def logLimiter (policy : RateLimitPolicy) : Limiter (List ℤ) where
  initial := []
  check log ms := (logOutcome policy log ms, accept (limitOf policy) (windowMs policy) log ms)

theorem logOutcome_eq_ok :
    logOutcome policy log ms = .ok () ↔
      (recent (windowMs policy) log ms).length < limitOf policy := by
  unfold logOutcome
  split_ifs with hroom
  · exact iff_of_true rfl hroom
  · exact iff_of_false (by simp) hroom

theorem logLimiter_after (policy : RateLimitPolicy) (times : List ℤ) :
    (logLimiter policy).after times = admitted (limitOf policy) (windowMs policy) times := by
  induction times using List.reverseRecOn with
  | nil => rfl
  | append_singleton times ms ih =>
    rw [Limiter.after, Limiter.run_concat, admitted_concat, ← ih]
    rfl

theorem logLimiter_admittedTimes (policy : RateLimitPolicy) (times : List ℤ) :
    (logLimiter policy).admittedTimes times =
      admitted (limitOf policy) (windowMs policy) times := by
  induction times using List.reverseRecOn with
  | nil => rfl
  | append_singleton times ms ih =>
    have hiff : (logLimiter policy).outcome times ms = .ok () ↔
        (recent (windowMs policy) (admitted (limitOf policy) (windowMs policy) times) ms).length <
          limitOf policy := by
      rw [← logLimiter_after]
      exact logOutcome_eq_ok
    rw [Limiter.admittedTimes_concat, ih, admitted_concat, accept]
    by_cases hroom : (recent (windowMs policy)
        (admitted (limitOf policy) (windowMs policy) times) ms).length < limitOf policy
    · rw [if_pos hroom, if_pos (hiff.mpr hroom)]
    · rw [if_neg hroom, if_neg (mt hiff.mp hroom), List.append_nil]

/-! ### Milliseconds and seconds -/

theorem seconds_le_sub_iff (policy : RateLimitPolicy) (t now : ℤ) :
    seconds t ≤ seconds now - policy.windowSeconds ↔ ¬ now - windowMs policy < t := by
  have hscale : seconds now - (policy.windowSeconds : ℚ) = ((now - windowMs policy : ℤ) : ℚ) / 1000 := by
    unfold seconds windowMs
    push_cast
    ring
  rw [hscale, seconds, div_le_div_iff_of_pos_right (by norm_num), Int.cast_le, not_lt]

theorem truncate_seconds (ms : ℤ) : truncate (seconds ms * 1000) = ms := by
  have hms : seconds ms * 1000 = (ms : ℚ) := by
    unfold seconds
    ring
  unfold truncate
  rw [hms, Int.floor_intCast, Int.ceil_intCast, ite_self]

/-- The wait in milliseconds is the wait in seconds. -/
theorem retryAfter_eq (policy : RateLimitPolicy) (now oldest : ℤ)
    (h : now - windowMs policy < oldest) :
    max 1 ⌈((max 1 (windowMs policy - (now - oldest)) : ℤ) : ℚ) / 1000⌉ =
      retryAfter policy (seconds now) (seconds oldest) := by
  have hwait : max 1 (windowMs policy - (now - oldest)) = windowMs policy - (now - oldest) := by
    omega
  have hscale : ((windowMs policy - (now - oldest) : ℤ) : ℚ) / 1000 =
      (policy.windowSeconds : ℚ) - (seconds now - seconds oldest) := by
    unfold seconds windowMs
    push_cast
    ring
  rw [hwait, hscale, retryAfter]

/-! ### The deque -/

/-- Of a sorted deque the front that has left the window is dropped. -/
theorem popExpired_map (policy : RateLimitPolicy) (now : ℤ) {log : List ℤ}
    (hsorted : log.Pairwise (· ≤ ·)) :
    popExpired (seconds now - policy.windowSeconds) (log.map seconds) =
      (recent (windowMs policy) log now).map seconds := by
  induction log with
  | nil => rfl
  | cons first rest ih =>
    obtain ⟨hfirst, hrest⟩ := List.pairwise_cons.mp hsorted
    rw [List.map_cons, popExpired, recent]
    by_cases hrecent : now - windowMs policy < first
    · have hall : ∀ t ∈ rest, now - windowMs policy < t := fun t ht =>
        lt_of_lt_of_le hrecent (hfirst t ht)
      have hkept : rest.filter (now - windowMs policy < ·) = rest :=
        List.filter_eq_self.mpr fun t ht => decide_eq_true (hall t ht)
      rw [if_neg (mt (seconds_le_sub_iff policy first now).mp (not_not.mpr hrecent)),
        List.filter_cons_of_pos (by simpa using hrecent), hkept, List.map_cons]
    · rw [if_pos ((seconds_le_sub_iff policy first now).mpr hrecent),
        List.filter_cons_of_neg (by simpa using hrecent)]
      exact ih hrest

theorem recent_recent {window : ℤ} (h : ms ≤ now) :
    recent window (recent window log ms) now = recent window log now := by
  unfold recent
  rw [List.filter_filter]
  apply List.filter_congr
  intro t _
  by_cases ht : now - window < t
  · have hms : ms - window < t := by omega
    simp [ht, hms]
  · simp [ht]

theorem checkPolicy_of_isValid (h : policy.IsValid) : checkPolicy policy = .ok () := by
  unfold checkPolicy
  rw [if_neg (not_lt.mpr h.1), if_neg (not_lt.mpr h.2)]

theorem not_room_iff (h : policy.IsValid) (length : ℕ) :
    policy.maxRequests ≤ length ↔ ¬ length < limitOf policy := by
  have hpos := h.1
  unfold limitOf
  omega

/-- The deque of the client holds the log as far as it is recent. -/
structure InMemoryHolds (clientKey : String) (policy : RateLimitPolicy) (times : List ℤ)
    (requestsByClient : RequestsByClient) (log : List ℤ) : Prop where
  log_eq : log = admitted (limitOf policy) (windowMs policy) times
  requests : ∀ now, (∀ t ∈ times, t ≤ now) →
    popExpired (seconds now - policy.windowSeconds) (requestsByClient clientKey) =
      (recent (windowMs policy) log now).map seconds

theorem InMemoryHolds.check (hvalid : policy.IsValid) {requestsByClient : RequestsByClient}
    (hsorted : (times ++ [ms]).Pairwise (· ≤ ·))
    (h : InMemoryHolds clientKey policy times requestsByClient log) :
    ((inMemoryLimiter clientKey policy).check requestsByClient ms).1 =
        ((logLimiter policy).check log ms).1 ∧
      InMemoryHolds clientKey policy (times ++ [ms])
        ((inMemoryLimiter clientKey policy).check requestsByClient ms).2
        ((logLimiter policy).check log ms).2 := by
  obtain ⟨htimes, -, hlast⟩ := List.pairwise_append.mp hsorted
  have hle : ∀ t ∈ times, t ≤ ms := fun t ht => hlast t ht ms List.mem_cons_self
  have hlog : log.Pairwise (· ≤ ·) := by
    rw [h.log_eq]
    exact admitted_sorted htimes
  have hlogLe : ∀ t ∈ log, t ≤ ms := by
    intro t ht
    rw [h.log_eq] at ht
    exact hle t ((admitted_sublist _ _ _).subset ht)
  have hkept := h.requests ms hle
  have hnext : accept (limitOf policy) (windowMs policy) log ms =
      admitted (limitOf policy) (windowMs policy) (times ++ [ms]) := by
    rw [admitted_concat, ← h.log_eq]
  have hrecent : (recent (windowMs policy) log ms).Pairwise (· ≤ ·) :=
    hlog.sublist List.filter_sublist
  have hcheck : (inMemoryLimiter clientKey policy).check requestsByClient ms =
      if (recent (windowMs policy) log ms).length < limitOf policy then
        (.ok (), Function.update requestsByClient clientKey
          (((recent (windowMs policy) log ms) ++ [ms]).map seconds))
      else
        (logOutcome policy log ms, Function.update requestsByClient clientKey
          ((recent (windowMs policy) log ms).map seconds)) := by
    show checkInMemory clientKey policy (seconds ms) requestsByClient = _
    unfold checkInMemory
    rw [checkPolicy_of_isValid hvalid]
    dsimp only
    rw [hkept, List.length_map]
    by_cases hroom : (recent (windowMs policy) log ms).length < limitOf policy
    · rw [if_pos hroom, if_neg (mt (not_room_iff hvalid _).mp (not_not.mpr hroom)), List.map_append]
      rfl
    · rw [if_neg hroom, if_pos ((not_room_iff hvalid _).mpr hroom), logOutcome, if_neg hroom]
      have hhead : ((recent (windowMs policy) log ms).map seconds).headD (seconds ms) =
          seconds ((recent (windowMs policy) log ms).headD ms) := by
        cases recent (windowMs policy) log ms <;> rfl
      rw [hhead]
  have hlater : ∀ now, (∀ t ∈ times ++ [ms], t ≤ now) → ms ≤ now := fun now hnow =>
    hnow ms (List.mem_append_right _ List.mem_cons_self)
  show _ = logOutcome policy log ms ∧ InMemoryHolds clientKey policy (times ++ [ms]) _
    (accept (limitOf policy) (windowMs policy) log ms)
  rw [hcheck]
  by_cases hroom : (recent (windowMs policy) log ms).length < limitOf policy
  · rw [if_pos hroom]
    refine ⟨(logOutcome_eq_ok.mpr hroom).symm, hnext, ?_⟩
    intro now hnow
    have hsorted' : (recent (windowMs policy) log ms ++ [ms]).Pairwise (· ≤ ·) := by
      refine List.pairwise_append.mpr ⟨hrecent, List.pairwise_singleton _ _, ?_⟩
      intro t ht u hu
      rw [List.mem_singleton.mp hu]
      exact hlogLe t (List.mem_of_mem_filter ht)
    have hconcat : ∀ kept : List ℤ, recent (windowMs policy) (kept ++ [ms]) now =
        recent (windowMs policy) kept now ++ recent (windowMs policy) [ms] now := fun kept =>
      List.filter_append kept [ms]
    dsimp only
    rw [Function.update_self, popExpired_map policy now hsorted', accept, if_pos hroom, hconcat,
      hconcat, recent_recent (hlater now hnow)]
  · rw [if_neg hroom]
    refine ⟨rfl, hnext, ?_⟩
    intro now hnow
    dsimp only
    rw [Function.update_self, popExpired_map policy now hrecent, accept, if_neg hroom,
      recent_recent (hlater now hnow)]

theorem inMemory_refines (clientKey : String) (hvalid : policy.IsValid)
    (hsorted : times.Pairwise (· ≤ ·)) :
    ((inMemoryLimiter clientKey policy).run times).2 = ((logLimiter policy).run times).2 ∧
      InMemoryHolds clientKey policy times ((inMemoryLimiter clientKey policy).after times)
        ((logLimiter policy).after times) := by
  refine Limiter.simulation ⟨rfl, fun _ _ => rfl⟩ ?_ hsorted
  intro times requests log ms hsorted h
  exact h.check hvalid hsorted

/-! ### The sorted set -/

theorem members_zremrangebyscore (windowStart : ℤ) (key : Option (Expiring SortedSet)) :
    members (zremrangebyscore windowStart key) =
      (members key).filter fun member => windowStart < member.2 := by
  cases key with
  | none => rfl
  | some entry =>
    unfold zremrangebyscore
    dsimp only
    split_ifs with hempty
    · exact (List.isEmpty_iff.mp hempty).symm
    · rfl

theorem live_live {α : Type} (h : ms ≤ now) (key : Option (Expiring α)) :
    live now (live ms key) = live now key := by
  have hall : ∀ expiresAt : Option ℤ,
      expiresAt.all (now ≤ ·) = true → expiresAt.all (ms ≤ ·) = true := by
    intro expiresAt hnow
    cases expiresAt with
    | none => rfl
    | some expiresAt =>
      simp only [Option.all_some, decide_eq_true_eq] at hnow ⊢
      exact h.trans hnow
  cases key with
  | none => rfl
  | some entry =>
    unfold live
    rw [Option.filter_some, Option.filter_some]
    by_cases hnow : entry.expiresAt.all (now ≤ ·) = true
    · rw [if_pos hnow, if_pos (hall _ hnow), Option.filter_some, if_pos hnow]
    · rw [if_neg hnow]
      split_ifs
      · rw [Option.filter_some, if_neg hnow]
      · rfl

theorem members_live_zremrangebyscore (now windowStart : ℤ)
    (key : Option (Expiring SortedSet)) :
    members (live now (zremrangebyscore windowStart key)) =
      (members (live now key)).filter fun member => windowStart < member.2 := by
  cases key with
  | none => rfl
  | some entry =>
    unfold zremrangebyscore live
    dsimp only
    by_cases hlive : entry.expiresAt.all (now ≤ ·) = true
    · split_ifs with hempty
      · rw [Option.filter_some, if_pos hlive]
        exact (List.isEmpty_iff.mp hempty).symm
      · rw [Option.filter_some, Option.filter_some, if_pos hlive, if_pos hlive]
        rfl
    · split_ifs with hempty
      · rw [Option.filter_some, if_neg hlive]
        rfl
      · rw [Option.filter_some, Option.filter_some, if_neg hlive, if_neg hlive]
        rfl

/-- The keys of the client hold the log as far as it is recent, under distinct members. -/
structure RedisHolds (policy : RateLimitPolicy) (times : List ℤ) (keys : ClientKeys)
    (log : List ℤ) : Prop where
  log_eq : log = admitted (limitOf policy) (windowMs policy) times
  scores : ∀ now, (∀ t ∈ times, t ≤ now) →
    (members (zremrangebyscore (now - windowMs policy) (live now keys.bucket))).map Prod.snd =
      recent (windowMs policy) log now
  tickets : ∀ bucket, keys.bucket = some bucket → ∃ sequence, keys.sequence = some sequence ∧
    sequence.expiresAt = bucket.expiresAt ∧
      ∀ member ∈ bucket.value, member.1.sequence ≤ sequence.value

theorem lowestScore_eq_head {set : SortedSet} (hsorted : (set.map Prod.snd).Pairwise (· ≤ ·)) :
    lowestScore set = (set.map Prod.snd).head? := by
  apply List.min?_eq_head?
  exact hsorted.imp fun hle => min_eq_left hle

theorem zadd_of_fresh {set : SortedSet} {member : Member} (score : ℤ)
    (h : ∀ entry ∈ set, entry.1 ≠ member) : zadd set member score = set ++ [(member, score)] := by
  unfold zadd
  rw [List.filter_eq_self.mpr fun entry hentry => decide_eq_true (h entry hentry)]

theorem live_eq_some {α : Type} {key : Option (Expiring α)} {entry : Expiring α}
    (h : live now key = some entry) :
    key = some entry ∧ entry.expiresAt.all (now ≤ ·) = true :=
  Option.filter_eq_some_iff.mp h

/-- A live bucket has a live sequence. -/
theorem RedisHolds.live_sequence {keys : ClientKeys} (h : RedisHolds policy times keys log)
    {bucket : Expiring SortedSet} (hbucket : live now keys.bucket = some bucket) :
    ∃ sequence, live now keys.sequence = some sequence ∧
      sequence.expiresAt = bucket.expiresAt ∧
        ∀ member ∈ bucket.value, member.1.sequence ≤ sequence.value := by
  obtain ⟨hkey, hlive⟩ := live_eq_some hbucket
  obtain ⟨sequence, hsequence, hexpires, hle⟩ := h.tickets bucket hkey
  refine ⟨sequence, ?_, hexpires, hle⟩
  unfold live
  rw [hsequence, Option.filter_some, hexpires, if_pos hlive]

/-- A new member is none of those in the set. -/
theorem RedisHolds.fresh {keys : ClientKeys} (h : RedisHolds policy times keys log)
    (windowStart : ℤ) :
    ∀ entry ∈ members (zremrangebyscore windowStart (live now keys.bucket)),
      entry.1.sequence < (live now keys.sequence).elim 0 Expiring.value + 1 := by
  intro entry hentry
  rw [members_zremrangebyscore] at hentry
  have hmember := List.mem_of_mem_filter hentry
  cases hbucket : live now keys.bucket with
  | none =>
    rw [hbucket] at hmember
    cases hmember
  | some bucket =>
    rw [hbucket] at hmember
    obtain ⟨sequence, hsequence, -, hle⟩ := h.live_sequence hbucket
    rw [hsequence]
    show entry.1.sequence < sequence.value + 1
    have hentryLe := hle entry hmember
    omega

theorem checkRedis_of_script (hvalid : policy.IsValid) {keys next : ClientKeys} {result : ℤ × ℤ}
    (hscript : rateLimitScript ms (windowMs policy) policy.maxRequests keys = (result, next)) :
    checkRedis policy (seconds ms) keys =
      if result.1 = 0 then (.error (.exceeded (max 1 ⌈(result.2 : ℚ) / 1000⌉)), next)
      else (.ok (), next) := by
  unfold windowMs at hscript
  unfold checkRedis
  rw [checkPolicy_of_isValid hvalid, truncate_seconds]
  dsimp only
  rw [hscript]

/-- The bucket as the script counts it. -/
def countedBucket (policy : RateLimitPolicy) (keys : ClientKeys) (ms : ℤ) :
    Option (Expiring SortedSet) :=
  zremrangebyscore (ms - windowMs policy) (live ms keys.bucket)

def nextSequence (keys : ClientKeys) (ms : ℤ) : ℤ :=
  (live ms keys.sequence).elim 0 Expiring.value + 1

/-- The keys after an admitted check. -/
def admittedKeys (policy : RateLimitPolicy) (keys : ClientKeys) (ms : ℤ) : ClientKeys :=
  ⟨some ⟨zadd (members (countedBucket policy keys ms)) ⟨ms, nextSequence keys ms⟩ ms,
      some (ms + (windowMs policy + 1000))⟩,
    some ⟨nextSequence keys ms, some (ms + (windowMs policy + 1000))⟩⟩

theorem checkRedis_room (hvalid : policy.IsValid) {keys : ClientKeys}
    (hscores : (members (countedBucket policy keys ms)).map Prod.snd =
      recent (windowMs policy) log ms)
    (hroom : (recent (windowMs policy) log ms).length < limitOf policy) :
    checkRedis policy (seconds ms) keys = (.ok (), admittedKeys policy keys ms) := by
  have hcount : ¬ policy.maxRequests ≤ ((members (countedBucket policy keys ms)).length : ℤ) := by
    rw [← hscores, List.length_map] at hroom
    exact mt (not_room_iff hvalid _).mp (not_not.mpr hroom)
  have hscript : rateLimitScript ms (windowMs policy) policy.maxRequests keys =
      ((1, 0), admittedKeys policy keys ms) := if_neg hcount
  rw [checkRedis_of_script hvalid hscript, if_neg one_ne_zero]

theorem checkRedis_full (hvalid : policy.IsValid) {keys : ClientKeys}
    (hscores : (members (countedBucket policy keys ms)).map Prod.snd =
      recent (windowMs policy) log ms)
    (hlog : log.Pairwise (· ≤ ·))
    (hfull : ¬ (recent (windowMs policy) log ms).length < limitOf policy) :
    checkRedis policy (seconds ms) keys =
      (logOutcome policy log ms, ⟨countedBucket policy keys ms, live ms keys.sequence⟩) := by
  have hne : recent (windowMs policy) log ms ≠ [] := by
    intro hnil
    rw [hnil] at hfull
    have hpos := hvalid.1
    unfold limitOf at hfull
    simp only [List.length_nil] at hfull
    omega
  obtain ⟨oldest, rest, hrecent⟩ := List.exists_cons_of_ne_nil hne
  have holdest : ms - windowMs policy < oldest := by
    have hmem : oldest ∈ recent (windowMs policy) log ms := hrecent ▸ List.mem_cons_self
    simpa using (List.mem_filter.mp hmem).2
  have hlowest : lowestScore (members (countedBucket policy keys ms)) = some oldest := by
    rw [lowestScore_eq_head, hscores, hrecent]
    · rfl
    · rw [hscores]
      exact hlog.sublist List.filter_sublist
  have hcount : policy.maxRequests ≤ ((members (countedBucket policy keys ms)).length : ℤ) := by
    apply (not_room_iff hvalid _).mpr
    rw [← hscores, List.length_map] at hfull
    exact hfull
  have hscript : rateLimitScript ms (windowMs policy) policy.maxRequests keys =
      ((0, max 1 (windowMs policy - (ms - oldest))),
        ⟨countedBucket policy keys ms, live ms keys.sequence⟩) := by
    unfold rateLimitScript
    dsimp only
    unfold countedBucket at hcount hlowest ⊢
    rw [if_pos hcount, hlowest]
  rw [checkRedis_of_script hvalid hscript, if_pos rfl, logOutcome, if_neg hfull]
  dsimp only
  rw [retryAfter_eq policy ms oldest holdest, hrecent]
  rfl

theorem RedisHolds.check (hvalid : policy.IsValid) {keys : ClientKeys}
    (hsorted : (times ++ [ms]).Pairwise (· ≤ ·)) (h : RedisHolds policy times keys log) :
    ((redisLimiter policy).check keys ms).1 = ((logLimiter policy).check log ms).1 ∧
      RedisHolds policy (times ++ [ms]) ((redisLimiter policy).check keys ms).2
        ((logLimiter policy).check log ms).2 := by
  obtain ⟨htimes, -, hlast⟩ := List.pairwise_append.mp hsorted
  have hle : ∀ t ∈ times, t ≤ ms := fun t ht => hlast t ht ms List.mem_cons_self
  have hlog : log.Pairwise (· ≤ ·) := by
    rw [h.log_eq]
    exact admitted_sorted htimes
  have hlogLe : ∀ t ∈ log, t ≤ ms := by
    intro t ht
    rw [h.log_eq] at ht
    exact hle t ((admitted_sublist _ _ _).subset ht)
  have hscores : (members (countedBucket policy keys ms)).map Prod.snd =
      recent (windowMs policy) log ms := h.scores ms hle
  have hnext : accept (limitOf policy) (windowMs policy) log ms =
      admitted (limitOf policy) (windowMs policy) (times ++ [ms]) := by
    rw [admitted_concat, ← h.log_eq]
  have hlater : ∀ now, (∀ t ∈ times ++ [ms], t ≤ now) → ms ≤ now := fun now hnow =>
    hnow ms (List.mem_append_right _ List.mem_cons_self)
  have hmap : ∀ (set : SortedSet) (start : ℤ),
      (set.filter fun member => start < member.2).map Prod.snd =
        (set.map Prod.snd).filter (start < ·) := by
    intro set start
    rw [List.filter_map]
    rfl
  show (checkRedis policy (seconds ms) keys).1 = logOutcome policy log ms ∧
    RedisHolds policy (times ++ [ms]) (checkRedis policy (seconds ms) keys).2
      (accept (limitOf policy) (windowMs policy) log ms)
  by_cases hroom : (recent (windowMs policy) log ms).length < limitOf policy
  · rw [checkRedis_room hvalid hscores hroom]
    refine ⟨(logOutcome_eq_ok.mpr hroom).symm, hnext, ?_, ?_⟩
    · intro now hnow
      have hfresh : ∀ entry ∈ members (countedBucket policy keys ms),
          entry.1 ≠ ⟨ms, nextSequence keys ms⟩ := by
        intro entry hentry heq
        have hless : entry.1.sequence < nextSequence keys ms :=
          h.fresh (ms - windowMs policy) entry hentry
        rw [heq] at hless
        exact lt_irrefl _ hless
      have hms := hlater now hnow
      rw [accept, if_pos hroom, members_zremrangebyscore, hmap]
      by_cases hlive : now ≤ ms + (windowMs policy + 1000)
      · have hbucket : live now (admittedKeys policy keys ms).bucket =
            (admittedKeys policy keys ms).bucket := if_pos (by simpa using hlive)
        rw [hbucket]
        show ((zadd (members (countedBucket policy keys ms)) _ ms).map Prod.snd).filter _ = _
        rw [zadd_of_fresh ms hfresh, List.map_append, hscores, List.filter_append, recent,
          recent, List.filter_append]
        congr 1
        exact recent_recent hms
      · -- both keys have expired, and so has every time of the log
        have hbucket : live now (admittedKeys policy keys ms).bucket = none :=
          if_neg (by simpa using hlive)
        have hnone : recent (windowMs policy) (log ++ [ms]) now = [] := by
          apply List.filter_eq_nil_iff.mpr
          intro t ht
          have htms : t ≤ ms := by
            rcases List.mem_append.mp ht with hold | hnew
            · exact hlogLe t hold
            · exact (List.mem_singleton.mp hnew).le
          simp only [decide_eq_true_eq]
          omega
        rw [hbucket, hnone]
        rfl
    · rintro bucket ⟨⟩
      refine ⟨_, rfl, rfl, ?_⟩
      intro member hmember
      rcases List.mem_append.mp hmember with hold | hnew
      · have hless : member.1.sequence < nextSequence keys ms :=
          h.fresh (ms - windowMs policy) member (List.mem_of_mem_filter hold)
        exact hless.le
      · rw [List.mem_singleton.mp hnew]
  · rw [checkRedis_full hvalid hscores hlog hroom, accept, if_neg hroom]
    rw [accept, if_neg hroom] at hnext
    refine ⟨rfl, hnext, ?_, ?_⟩
    · intro now hnow
      have hmembers : (members (live now (countedBucket policy keys ms))).map Prod.snd =
          ((members (live now keys.bucket)).map Prod.snd).filter (ms - windowMs policy < ·) := by
        rw [countedBucket, members_live_zremrangebyscore, live_live (hlater now hnow), hmap]
      have hold := h.scores now fun t ht => hnow t (List.mem_append_left _ ht)
      rw [members_zremrangebyscore, hmap] at hold ⊢
      show ((members (live now (countedBucket policy keys ms))).map Prod.snd).filter _ = _
      rw [hmembers, ← hold]
      exact recent_recent (hlater now hnow)
    · intro bucket hbucket
      cases hlive : live ms keys.bucket with
      | none =>
        rw [countedBucket, hlive] at hbucket
        cases hbucket
      | some entry =>
        obtain ⟨sequence, hsequence, hexpires, hle⟩ := h.live_sequence hlive
        rw [countedBucket, hlive] at hbucket
        simp only [zremrangebyscore] at hbucket
        split_ifs at hbucket with hempty
        cases hbucket
        exact ⟨sequence, hsequence, hexpires, fun member hmember =>
          hle member (List.mem_of_mem_filter hmember)⟩

theorem redis_refines (hvalid : policy.IsValid) (hsorted : times.Pairwise (· ≤ ·)) :
    ((redisLimiter policy).run times).2 = ((logLimiter policy).run times).2 ∧
      RedisHolds policy times ((redisLimiter policy).after times)
        ((logLimiter policy).after times) := by
  refine Limiter.simulation ⟨rfl, fun _ _ => rfl, ?_⟩ ?_ hsorted
  · intro times keys log ms hsorted h
    exact h.check hvalid hsorted
  · rintro bucket ⟨⟩

/-! ### The window of the limiter -/

/-- The outcome of a check is that of the log. -/
theorem outcome_eq_log {σ : Type} {limiter : Limiter σ}
    (hrun : ∀ times : List ℤ, times.Pairwise (· ≤ ·) →
      (limiter.run times).2 = ((logLimiter policy).run times).2)
    (hsorted : (times ++ [ms]).Pairwise (· ≤ ·)) :
    limiter.outcome times ms =
      logOutcome policy (admitted (limitOf policy) (windowMs policy) times) ms := by
  have hlast := hrun (times ++ [ms]) hsorted
  rw [Limiter.run_concat, Limiter.run_concat] at hlast
  have hpair := List.append_inj_right' hlast rfl
  have houtcome : limiter.outcome times ms = (logLimiter policy).outcome times ms :=
    (Prod.mk.inj (List.cons.inj hpair).1).2
  rw [houtcome, ← logLimiter_after]
  rfl

theorem admittedTimes_eq_log {σ : Type} {limiter : Limiter σ}
    (hrun : (limiter.run times).2 = ((logLimiter policy).run times).2) :
    limiter.admittedTimes times = admitted (limitOf policy) (windowMs policy) times := by
  rw [← logLimiter_admittedTimes, Limiter.admittedTimes, hrun]
  rfl

/-- What a sliding window of a limiter admits and refuses. -/
structure KeepsWindow {σ : Type} (policy : RateLimitPolicy) (limiter : Limiter σ)
    (times : List ℤ) : Prop where
  /-- A window that is open on the right, from any start in seconds. -/
  window : ∀ start : ℚ, ((limiter.admittedTimes times).filter fun t =>
    start ≤ seconds t ∧ seconds t < start + policy.windowSeconds).length ≤ policy.maxRequests
  windowLeft : ∀ start : ℚ, ((limiter.admittedTimes times).filter fun t =>
    start < seconds t ∧ seconds t ≤ start + policy.windowSeconds).length ≤ policy.maxRequests
  refused : ∀ ms, (∀ t ∈ times, t ≤ ms) → limiter.outcome times ms ≠ .ok () →
    ((limiter.admittedTimes times).filter fun t =>
      seconds ms - policy.windowSeconds < seconds t ∧ seconds t ≤ seconds ms).length =
        policy.maxRequests
  retried : ∀ ms retryAfterSeconds, (∀ t ∈ times, t ≤ ms) →
    limiter.outcome times ms = .error (.exceeded retryAfterSeconds) →
      limiter.outcome (times ++ [ms]) (ms + retryAfterSeconds * 1000) = .ok ()

theorem seconds_lt_iff (t now : ℤ) (window : ℤ) :
    seconds now - window < seconds t ↔ now - window * 1000 < t := by
  have hscale : seconds now - (window : ℚ) = ((now - window * 1000 : ℤ) : ℚ) / 1000 := by
    unfold seconds
    push_cast
    ring
  rw [hscale, seconds, div_lt_div_iff_of_pos_right (by norm_num), Int.cast_lt]

theorem length_recent_of_refused (hsorted : (times ++ [ms]).Pairwise (· ≤ ·))
    (h : logOutcome policy (admitted (limitOf policy) (windowMs policy) times) ms ≠ .ok ()) :
    (recent (windowMs policy) (admitted (limitOf policy) (windowMs policy) times) ms).length =
      limitOf policy := by
  have hfull := mt logOutcome_eq_ok.mpr h
  have hbound : (recent (windowMs policy) (admitted (limitOf policy) (windowMs policy) times)
      ms).length ≤ limitOf policy := length_recent_le hsorted
  omega

/-- After the wait the oldest time has left the window. -/
theorem oldest_le_of_retryAfter (policy : RateLimitPolicy) (ms oldest : ℤ) :
    oldest ≤ ms + retryAfter policy (seconds ms) (seconds oldest) * 1000 - windowMs policy := by
  have hceil : (policy.windowSeconds : ℚ) - (seconds ms - seconds oldest) ≤
      (retryAfter policy (seconds ms) (seconds oldest) : ℚ) := by
    unfold retryAfter
    refine (Int.le_ceil _).trans (Int.cast_le.mpr ?_)
    exact le_max_right _ _
  unfold seconds at hceil
  have hscaled : (oldest : ℚ) ≤
      ((ms + retryAfter policy (seconds ms) (seconds oldest) * 1000 - windowMs policy : ℤ) : ℚ) := by
    unfold windowMs seconds
    push_cast
    linarith
  exact Int.cast_le.mp hscaled

theorem keepsWindow_of_refines {σ : Type} {limiter : Limiter σ} (hvalid : policy.IsValid)
    (hrun : ∀ times : List ℤ, times.Pairwise (· ≤ ·) →
      (limiter.run times).2 = ((logLimiter policy).run times).2)
    (hsorted : times.Pairwise (· ≤ ·)) : KeepsWindow policy limiter times := by
  have hadmitted := admittedTimes_eq_log (hrun times hsorted)
  have hlimit : ((limitOf policy : ℕ) : ℤ) = policy.maxRequests := by
    have hpos := hvalid.1
    unfold limitOf
    omega
  have hconcat : ∀ ms, (∀ t ∈ times, t ≤ ms) → (times ++ [ms]).Pairwise (· ≤ ·) := by
    intro ms hms
    refine List.pairwise_append.mpr ⟨hsorted, List.pairwise_singleton _ _, ?_⟩
    intro t ht u hu
    rw [List.mem_singleton.mp hu]
    exact hms t ht
  constructor
  · intro start
    rw [hadmitted, ← hlimit, Int.ofNat_le]
    apply length_filter_admitted_le _ hsorted
    intro t u _ ht hu
    simp only [decide_eq_true_eq] at ht hu
    apply (seconds_lt_iff t u policy.windowSeconds).mp
    linarith [ht.1, hu.2]
  · intro start
    rw [hadmitted, ← hlimit, Int.ofNat_le]
    apply length_filter_admitted_le _ hsorted
    intro t u _ ht hu
    simp only [decide_eq_true_eq] at ht hu
    apply (seconds_lt_iff t u policy.windowSeconds).mp
    linarith [ht.1, hu.2]
  · intro ms hms hrefused
    have hsorted' := hconcat ms hms
    rw [outcome_eq_log hrun hsorted'] at hrefused
    have hsame : (limiter.admittedTimes times).filter (fun t =>
        seconds ms - policy.windowSeconds < seconds t ∧ seconds t ≤ seconds ms) =
          recent (windowMs policy) (admitted (limitOf policy) (windowMs policy) times) ms := by
      rw [hadmitted]
      apply List.filter_congr
      intro t ht
      have hle : seconds t ≤ seconds ms := by
        have htms : (t : ℚ) ≤ ms := Int.cast_le.mpr (hms t ((admitted_sublist _ _ _).subset ht))
        unfold seconds
        linarith
      have hiff := seconds_lt_iff t ms policy.windowSeconds
      simp only [hle, and_true, hiff]
      rfl
    rw [hsame, length_recent_of_refused hsorted' hrefused, hlimit]
  · intro ms retryAfterSeconds hms hrefused
    have hsorted' := hconcat ms hms
    rw [outcome_eq_log hrun hsorted'] at hrefused
    have hne : logOutcome policy (admitted (limitOf policy) (windowMs policy) times) ms ≠
        .ok () := by
      rw [hrefused]
      exact fun heq => by cases heq
    have hlength := length_recent_of_refused hsorted' hne
    have hfull : ¬ (recent (windowMs policy) (admitted (limitOf policy) (windowMs policy) times)
        ms).length < limitOf policy := hlength.not_lt
    have hpos : 0 < limitOf policy := by
      have hpolicy := hvalid.1
      unfold limitOf
      omega
    obtain ⟨oldest, rest, hrecent⟩ :=
      List.exists_cons_of_ne_nil (List.ne_nil_of_length_pos (hlength ▸ hpos))
    have hwait : retryAfter policy (seconds ms) (seconds oldest) = retryAfterSeconds := by
      rw [logOutcome, if_neg hfull, hrecent] at hrefused
      cases hrefused
      rfl
    have hlater := oldest_le_of_retryAfter policy ms oldest
    rw [hwait] at hlater
    have hone : 1 ≤ retryAfterSeconds := hwait ▸ le_max_left _ _
    have hle : ms ≤ ms + retryAfterSeconds * 1000 := by omega
    have hsorted'' : ((times ++ [ms]) ++ [ms + retryAfterSeconds * 1000]).Pairwise (· ≤ ·) := by
      refine List.pairwise_append.mpr ⟨hsorted', List.pairwise_singleton _ _, ?_⟩
      intro t ht u hu
      rw [List.mem_singleton.mp hu]
      rcases List.mem_append.mp ht with hold | hnew
      · exact (hms t hold).trans hle
      · rw [List.mem_singleton.mp hnew]
        exact hle
    rw [outcome_eq_log hrun hsorted'', logOutcome_eq_ok, admitted_concat, accept, if_neg hfull]
    exact length_recent_lt hsorted' (by rw [hrecent]; rfl) hlater hle

/-- The limiter in memory and the Redis script keep the window and agree. -/
theorem limiters_keep_the_window (clientKey : String) (hvalid : policy.IsValid)
    (hsorted : times.Pairwise (· ≤ ·)) :
    KeepsWindow policy (inMemoryLimiter clientKey policy) times ∧
      KeepsWindow policy (redisLimiter policy) times ∧
      ((redisLimiter policy).run times).2 = ((inMemoryLimiter clientKey policy).run times).2 := by
  refine ⟨?_, ?_, ?_⟩
  · exact keepsWindow_of_refines hvalid (fun _ h => (inMemory_refines clientKey hvalid h).1) hsorted
  · exact keepsWindow_of_refines hvalid (fun _ h => (redis_refines hvalid h).1) hsorted
  · exact (redis_refines hvalid hsorted).1.trans (inMemory_refines clientKey hvalid hsorted).1.symm

/-- Two requests in ten seconds, with a burst at the start. -/
theorem burst_keeps_the_window :
    KeepsWindow ⟨2, 10⟩ (inMemoryLimiter "client" ⟨2, 10⟩) [0, 0, 500, 10000] ∧
      KeepsWindow ⟨2, 10⟩ (redisLimiter ⟨2, 10⟩) [0, 0, 500, 10000] ∧
      ((redisLimiter ⟨2, 10⟩).run [0, 0, 500, 10000]).2 =
        ((inMemoryLimiter "client" ⟨2, 10⟩).run [0, 0, 500, 10000]).2 :=
  limiters_keep_the_window "client" ⟨by decide, by decide⟩ (by decide)

end FloodRisk.Abuse
