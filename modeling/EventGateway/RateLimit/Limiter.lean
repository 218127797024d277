import EventGateway.Domain.Clock
import EventGateway.Lib.FiniteMap
import EventGateway.Lib.TokenBucket
import Mathlib.Data.Multiset.Fold

/-! The rate limiter: one token bucket for each key, created on demand, and a sweep that forgets the
keys whose last allowed access is too old. `rate.Limiter` is an exact bucket that starts full; a
token is counted as the nanoseconds of a second, so that all amounts are integers. -/

namespace EventGateway.RateLimit
open Lib Lib.TokenBucket

def second : Int := 1000000000

/-- The settings of the limiter. `Config.Validate` asks for a positive rate and for nothing else. -/
structure Config where
  requestsPerSecond : Int
  burstSize : Int
  staleThreshold : Duration
  valid : 1 ≤ requestsPerSecond

def Config.policy (config : Config) : Policy Int where
  rate := config.requestsPerSecond
  capacity := config.burstSize * second
  cost := second
  rate_nonneg := by
    have := config.valid
    omega
  cost_pos := by decide

structure TokenBucketLimiter where
  limiters : Finmap (fun _ : String => Bucket Int)
  lastAccessTimestamps : Finmap (fun _ : String => Time)

/-- How a `Wait` on a bucket with a positive burst ends: its turn comes, the context ends before that and the
token is given back, or no token is reserved because the context has ended or will too soon. -/
inductive WaitEnd where
  | granted (reserved recorded : Time)
  | cancelled (reserved returned : Time) (err : String)
  | refused (err : String)

namespace TokenBucketLimiter

def new : TokenBucketLimiter := ⟨∅, ∅⟩

def bucket (config : Config) (tbl : TokenBucketLimiter) (key : String) : Bucket Int :=
  (tbl.limiters.lookup key).getD config.policy.full

def getOrCreateLimiter (config : Config) (tbl : TokenBucketLimiter) (key : String) :
    Bucket Int × TokenBucketLimiter :=
  match tbl.limiters.lookup key with
  | some limiter => (limiter, tbl)
  | none => (config.policy.full, { tbl with limiters := tbl.limiters.insert key config.policy.full })

def updateLastAccess (tbl : TokenBucketLimiter) (key : String) (now : Time) : TokenBucketLimiter :=
  { tbl with lastAccessTimestamps := tbl.lastAccessTimestamps.insert key now }

def setLimiter (tbl : TokenBucketLimiter) (key : String) (limiter : Bucket Int) : TokenBucketLimiter :=
  { tbl with limiters := tbl.limiters.insert key limiter }

def allow (config : Config) (tbl : TokenBucketLimiter) (key : String) (spent recorded : Time) :
    Except String Bool × TokenBucketLimiter :=
  if key = "" then (.error "key cannot be empty", tbl)
  else
    let (limiter, tbl) := tbl.getOrCreateLimiter config key
    let (allowed, limiter) := config.policy.take limiter spent
    let tbl := tbl.setLimiter key limiter
    (.ok allowed, if allowed then tbl.updateLastAccess key recorded else tbl)

/-- `limiter.Wait`: a reservation may put the bucket into debt. -/
def waitOn (config : Config) (limiter : Bucket Int) (ending : WaitEnd) : Except String Unit × Bucket Int :=
  let policy := config.policy
  if config.burstSize < 1 then
    (.error ("rate: Wait(n=1) exceeds limiter's burst " ++ toString config.burstSize), limiter)
  else match ending with
  | .granted reserved _ => (.ok (), ⟨policy.level limiter reserved - policy.cost, reserved⟩)
  | .cancelled reserved returned err =>
      let debited : Bucket Int := ⟨policy.level limiter reserved - policy.cost, reserved⟩
      (.error err, ⟨min policy.capacity (policy.level debited returned + policy.cost), returned⟩)
  | .refused err => (.error err, limiter)

def wait (config : Config) (tbl : TokenBucketLimiter) (key : String) (ending : WaitEnd) :
    Except String Unit × TokenBucketLimiter :=
  if key = "" then (.error "key cannot be empty", tbl)
  else
    let (limiter, tbl) := tbl.getOrCreateLimiter config key
    let (result, limiter) := waitOn config limiter ending
    let tbl := tbl.setLimiter key limiter
    match result, ending with
    | .ok (), .granted _ recorded => (.ok (), tbl.updateLastAccess key recorded)
    | result, _ => (result, tbl)

/-- The keys that `cleanupStaleLimiters` collects when it starts at this time. -/
def staleKeys (config : Config) (now : Time) (tbl : TokenBucketLimiter) : Finset String :=
  tbl.lastAccessTimestamps.keys.filter (fun key =>
    ∃ last ∈ tbl.lastAccessTimestamps.lookup key, config.staleThreshold < since now last)

def Stale (config : Config) (tbl : TokenBucketLimiter) (now : Time) (key : String) : Prop :=
  ∃ last, tbl.lastAccessTimestamps.lookup key = some last ∧ config.staleThreshold < since now last

def evict (key : String) (tbl : TokenBucketLimiter) : TokenBucketLimiter :=
  ⟨tbl.limiters.erase key, tbl.lastAccessTimestamps.erase key⟩

instance : LeftCommutative evict where
  left_comm one other tbl := by
    simp only [evict, Finmap.erase_erase]

def cleanupStaleLimiters (config : Config) (now : Time) (tbl : TokenBucketLimiter) : TokenBucketLimiter :=
  (tbl.staleKeys config now).val.foldr evict tbl

section Lookup
variable (config : Config) {tbl : TokenBucketLimiter} {key other : String}

/-- Which bucket a call gets, and that setting it afterwards hides whether it is new. -/
theorem getOrCreateLimiter_eq (tbl : TokenBucketLimiter) (key : String) :
    (tbl.getOrCreateLimiter config key).1 = tbl.bucket config key ∧
      ∀ limiter, (tbl.getOrCreateLimiter config key).2.setLimiter key limiter = tbl.setLimiter key limiter := by
  unfold getOrCreateLimiter bucket
  cases tbl.limiters.lookup key with
  | some limiter => exact ⟨rfl, fun _ => rfl⟩
  | none => exact ⟨rfl, fun limiter => by simp only [setLimiter, Finmap.insert_insert]⟩

/-- `Allow` takes from the key's bucket, and records the access if it was allowed. -/
theorem allow_eq (tbl : TokenBucketLimiter) (named : key ≠ "") (spent recorded : Time) :
    tbl.allow config key spent recorded =
      (.ok (config.policy.take (tbl.bucket config key) spent).1,
        ⟨tbl.limiters.insert key (config.policy.take (tbl.bucket config key) spent).2,
          if (config.policy.take (tbl.bucket config key) spent).1 then tbl.lastAccessTimestamps.insert key recorded
          else tbl.lastAccessTimestamps⟩) := by
  obtain ⟨taken, created⟩ := getOrCreateLimiter_eq config tbl key
  simp only [allow, if_neg named, created, taken]
  split
  next => rfl
  next => rfl

theorem mem_staleKeys {now : Time} : key ∈ tbl.staleKeys config now ↔ tbl.Stale config now key := by
  simp only [staleKeys, Stale, Finset.mem_filter, Option.mem_def, and_iff_right_iff_imp]
  rintro ⟨last, found, -⟩
  exact Finmap.mem_keys.mpr (Finmap.mem_of_lookup_eq_some found)

theorem lookup_evictAll (keys : Multiset String) (tbl : TokenBucketLimiter) (key : String) :
    (keys.foldr evict tbl).limiters.lookup key = (if key ∈ keys then none else tbl.limiters.lookup key) ∧
    (keys.foldr evict tbl).lastAccessTimestamps.lookup key =
      (if key ∈ keys then none else tbl.lastAccessTimestamps.lookup key) := by
  induction keys using Multiset.induction with
  | empty => exact ⟨rfl, rfl⟩
  | cons first rest ih =>
    simp only [Multiset.foldr_cons, evict, FiniteMap.lookup_erase, ih, Multiset.mem_cons]
    by_cases same : key = first
    · simp [same]
    · simp [same]

theorem lookup_cleanup (now : Time) (tbl : TokenBucketLimiter) (key : String) :
    (tbl.cleanupStaleLimiters config now).limiters.lookup key =
      (if key ∈ tbl.staleKeys config now then none else tbl.limiters.lookup key) ∧
    (tbl.cleanupStaleLimiters config now).lastAccessTimestamps.lookup key =
      (if key ∈ tbl.staleKeys config now then none else tbl.lastAccessTimestamps.lookup key) := by
  simp only [cleanupStaleLimiters, lookup_evictAll, Finset.mem_val, and_self]

end Lookup

end TokenBucketLimiter
end EventGateway.RateLimit
