import EventGateway.Configuration.Load
import EventGateway.RateLimit.Reclaim

/-! What the components do with a validated configuration. `Validate` looks at one field of the rate limit, counts the
brokers, and sees the number of partitions only after it was cut to 32 bits. What it does not rule out is described by
the variables themselves. -/

namespace EventGateway.Configuration
open RateLimit TokenBucketLimiter

/-- The goroutine that sweeps a limiter. It panics if `time.NewTicker` does. -/
inductive Cleanup where
  | stopped
  | ticking (period : Duration)
  | panicked
  deriving DecidableEq

def startCleanup (cleanupInterval : Duration) : Cleanup → Cleanup
  | .stopped => if cleanupInterval ≤ 0 then .panicked else .ticking cleanupInterval
  | running => running

def newTokenBucketLimiter (cfg : RateLimitConfig) : TokenBucketLimiter × Cleanup :=
  (.new, startCleanup cfg.cleanupInterval .stopped)

def RateLimitConfig.limits (cfg : RateLimitConfig) (valid : 1 ≤ cfg.requestsPerSecond) : RateLimit.Config where
  requestsPerSecond := cfg.requestsPerSecond.toInt
  burstSize := cfg.burstSize.toInt
  staleThreshold := cfg.staleThreshold
  valid := Int64.le_iff_toInt_le.mp valid

def Spares (key : String) : Call → Prop
  | .allow other _ _ => other ≠ key
  | .wait other _ => other ≠ key
  | .sweep _ => True

/-- A checked configuration does no harm: every broker has an address, the topic gets the partitions that were asked
for, the limiter sweeps, and the first call for a key is admitted whatever was called for others before. -/
structure SafeStart (env : Environment) (config : Config) (checked : config.Checked) : Prop where
  brokers : ∀ broker ∈ config.kafka.brokers, broker ≠ ""
  partitions : ∀ n, env.int "KAFKA_NUM_PARTITIONS" = some n → config.kafka.numPartitions.toInt = n.toInt
  ticker : ∃ period, 0 < period ∧ (newTokenBucketLimiter config.rateLimit).2 = .ticking period
  burst : 1 ≤ config.rateLimit.burstSize
  admitted : ∀ key, key ≠ "" → ∀ calls, (∀ call ∈ calls, Spares key call) → ∀ spent recorded,
    ((performAll (config.rateLimit.limits checked.requestsPerSecond) (newTokenBucketLimiter config.rateLimit).1
      calls).allow (config.rateLimit.limits checked.requestsPerSecond) key spent recorded).1 = .ok true

/-- No part of the list of brokers is blank, the partitions fit into 32 bits, and neither a burst nor an interval that
is written out is less than the smallest that works. -/
structure Usable (fraction : List Char → Nat → Nat) (env : Environment) : Prop where
  brokers : ∀ val, env "KAFKA_BROKERS" = some val → ∀ part ∈ val.toList.splitOn ',', ∃ c ∈ part, isSpace c = false
  partitions : ∀ n, env.int "KAFKA_NUM_PARTITIONS" = some n → -2 ^ 31 ≤ n.toInt ∧ n.toInt < 2 ^ 31
  interval : ∀ period, env.duration fraction "RATE_LIMIT_CLEANUP_INTERVAL" = some period → 0 < period
  burst : ∀ n, env.int "RATE_LIMIT_BURST" = some n → 1 ≤ n

section Limiter
variable (config : RateLimit.Config) {key : String}

theorem lookup_perform {tbl : TokenBucketLimiter} (unused : tbl.limiters.lookup key = none) {call : Call}
    (spared : Spares key call) : (perform config tbl call).limiters.lookup key = none := by
  have others {other : String} (apart : other ≠ key) (limiter : Lib.TokenBucket.Bucket Int) (access : Option Time) :
      (called tbl other limiter access).limiters.lookup key = none := by
    rw [called, Finmap.lookup_insert_of_ne _ apart.symm]
    exact unused
  cases call with
  | allow other spent recorded =>
    by_cases named : other = ""
    · subst named
      exact unused
    · obtain ⟨limiter, after⟩ := @allow_called config other tbl named spent recorded
      rw [after]
      exact others spared limiter _
  | wait other ending =>
    by_cases named : other = ""
    · subst named
      exact unused
    · obtain ⟨limiter, after⟩ := @wait_called config other tbl named ending
      rw [after]
      exact others spared limiter _
  | sweep now =>
    rw [perform, (lookup_cleanup config now tbl key).1, unused]
    exact ite_self none

theorem lookup_performAll {tbl : TokenBucketLimiter} (unused : tbl.limiters.lookup key = none) {calls : List Call}
    (spared : ∀ call ∈ calls, Spares key call) : (performAll config tbl calls).limiters.lookup key = none := by
  induction calls generalizing tbl with
  | nil => exact unused
  | cons call rest ih =>
    have first := lookup_perform config unused (spared call List.mem_cons_self)
    exact ih first (fun other member => spared other (List.mem_cons_of_mem call member))

theorem first_allow {tbl : TokenBucketLimiter} (unused : tbl.limiters.lookup key = none) (named : key ≠ "")
    (spent recorded : Time) :
    (tbl.allow config key spent recorded).1 = .ok (decide (1 ≤ config.burstSize)) := by
  have taken : (config.policy.take config.policy.full spent).1 = decide (1 ≤ config.burstSize) := by
    rw [Bool.eq_iff_iff, take_full, decide_eq_true_iff]
  rw [allow_eq config tbl named, bucket, unused, Option.getD_none, taken]

end Limiter

theorem startCleanup_ticks {interval : Duration} :
    (∃ period, 0 < period ∧ startCleanup interval .stopped = .ticking period) ↔ 0 < interval := by
  rw [startCleanup]
  split
  next harmful =>
    refine iff_of_false ?_ (Int64.not_lt.mpr harmful)
    rintro ⟨period, -, ticks⟩
    cases ticks
  next fine =>
    have positive := Int64.not_le.mp fine
    exact iff_of_true ⟨interval, positive, rfl⟩ positive

theorem toInt32_keeps {n : Int64} : n.toInt32.toInt = n.toInt ↔ -2 ^ 31 ≤ n.toInt ∧ n.toInt < 2 ^ 31 := by
  rw [Int64.toInt_toInt32, Int.bmod_def]
  split
  next => omega
  next => omega

section Variables
variable {fraction : List Char → Nat → Nat} {env : Environment} {key : String}

theorem brokers_named {defaultVal : List String} (named : ∀ broker ∈ defaultVal, broker ≠ "") :
    (∀ broker ∈ env.getStringSliceEnv key defaultVal, broker ≠ "") ↔
      ∀ val, env key = some val → ∀ part ∈ val.toList.splitOn ',', ∃ c ∈ part, isSpace c = false := by
  have trimmed (part : List Char) : trimSpace part ≠ "" ↔ ∃ c ∈ part, isSpace c = false := by
    rw [ne_eq, trimSpace_eq_empty]
    simp
  unfold Environment.getStringSliceEnv
  cases env key with
  | none => exact iff_of_true named nofun
  | some val =>
    simp only [List.forall_mem_map, trimmed, Option.some.injEq, forall_eq']

/-- What holds of a variable's default and of the number written in it holds of the number that is used. -/
theorem getD_iff {α : Type} {P : α → Prop} {written : Option α} {defaultVal : α} (fine : P defaultVal) :
    P (written.getD defaultVal) ↔ ∀ n, written = some n → P n := by
  cases written with
  | none => exact iff_of_true fine nofun
  | some n => simp

theorem partitions_kept :
    (∀ n, env.int key = some n → ((env.getIntEnv key 3).toInt32).toInt = n.toInt) ↔
      ∀ n, env.int key = some n → -2 ^ 31 ≤ n.toInt ∧ n.toInt < 2 ^ 31 := by
  refine forall_congr' (fun n => imp_congr_right (fun written => ?_))
  rw [Environment.getIntEnv_eq, written, Option.getD_some, toInt32_keeps]

end Variables

/-- A configuration that passes `Validate` is safe to start with exactly if the variables are usable. -/
theorem safeStart_iff (fraction : List Char → Nat → Nat) (env : Environment)
    (valid : (load fraction env).validate = .ok ()) :
    SafeStart env (load fraction env) ((Config.validate_ok _).mp valid) ↔ Usable fraction env := by
  have interval : (∃ period, 0 < period ∧ (newTokenBucketLimiter (load fraction env).rateLimit).2 =
      .ticking period) ↔
      ∀ period, env.duration fraction "RATE_LIMIT_CLEANUP_INTERVAL" = some period → 0 < period := by
    refine startCleanup_ticks.trans ?_
    change 0 < env.getDurationEnv fraction _ _ ↔ _
    rw [Environment.getDurationEnv_eq]
    exact getD_iff (P := fun period => 0 < period) (by decide)
  have burst : 1 ≤ (load fraction env).rateLimit.burstSize ↔
      ∀ n, env.int "RATE_LIMIT_BURST" = some n → 1 ≤ n := by
    change 1 ≤ env.getIntEnv _ _ ↔ _
    rw [Environment.getIntEnv_eq]
    exact getD_iff (P := fun n => 1 ≤ n) (by decide)
  have brokers := @brokers_named env "KAFKA_BROKERS" ["localhost:9092"] (by simp)
  constructor
  · intro safe
    exact ⟨brokers.mp safe.brokers, partitions_kept.mp safe.partitions, interval.mp safe.ticker, burst.mp safe.burst⟩
  · intro usable
    refine ⟨brokers.mpr usable.brokers, partitions_kept.mpr usable.partitions, interval.mpr usable.interval,
      burst.mpr usable.burst, ?_⟩
    intro key named calls spared spent recorded
    have positive := Int64.le_iff_toInt_le.mp (burst.mpr usable.burst)
    rw [first_allow _ (lookup_performAll _ (Finmap.lookup_empty key) spared) named, Except.ok.injEq]
    exact decide_eq_true positive

def setting (key val : String) : Environment := fun name => if name = key then some val else none

def noFraction : List Char → Nat → Nat := fun _ _ => 0

theorem safeStart_iff_brokers :
    (load noFraction (setting "KAFKA_BROKERS" "a:1, b:2")).validate = .ok () ∧
      (load noFraction (setting "KAFKA_BROKERS" "a:1, b:2")).kafka.brokers = ["a:1", "b:2"] ∧
      ∀ checked, SafeStart (setting "KAFKA_BROKERS" "a:1, b:2")
        (load noFraction (setting "KAFKA_BROKERS" "a:1, b:2")) checked := by
  have valid : (load noFraction (setting "KAFKA_BROKERS" "a:1, b:2")).validate = .ok () := by rfl
  have parts : "a:1, b:2".toList.splitOn ',' = ["a:1".toList, " b:2".toList] := by rfl
  refine ⟨valid, by rfl, fun _ => (safeStart_iff _ _ valid).mpr ⟨?_, nofun, nofun, nofun⟩⟩
  intro val same
  cases same
  rw [parts]
  exact List.forall_mem_cons.mpr ⟨⟨'a', List.mem_cons_self, rfl⟩, List.forall_mem_singleton.mpr ⟨'b', by simp, rfl⟩⟩

/-- The configuration passes `Validate`, and is not safe to start with. -/
def SlipsThrough (env : Environment) : Prop :=
  (load noFraction env).validate = .ok () ∧ ∀ checked, ¬SafeStart env (load noFraction env) checked

/-- What slips through: a broker without an address, partitions of which one is left, a burst that admits nothing, and
an interval that the ticker panics on. -/
theorem validate_passes_harmful :
    (SlipsThrough (setting "KAFKA_BROKERS" "") ∧
      (load noFraction (setting "KAFKA_BROKERS" "")).kafka.brokers = [""]) ∧
    (SlipsThrough (setting "KAFKA_NUM_PARTITIONS" "4294967297") ∧
      (load noFraction (setting "KAFKA_NUM_PARTITIONS" "4294967297")).kafka.numPartitions = 1) ∧
    (SlipsThrough (setting "RATE_LIMIT_BURST" "0") ∧
      ∃ positive, ∀ spent recorded,
        ((newTokenBucketLimiter (load noFraction (setting "RATE_LIMIT_BURST" "0")).rateLimit).1.allow
          ((load noFraction (setting "RATE_LIMIT_BURST" "0")).rateLimit.limits positive) "tenant" spent recorded).1 =
            .ok false) ∧
    (SlipsThrough (setting "RATE_LIMIT_CLEANUP_INTERVAL" "0s") ∧
      (newTokenBucketLimiter (load noFraction (setting "RATE_LIMIT_CLEANUP_INTERVAL" "0s")).rateLimit).2 =
        .panicked) := by
  have written : (setting "KAFKA_NUM_PARTITIONS" "4294967297").int "KAFKA_NUM_PARTITIONS" = some 4294967297 := by
    decide
  have panicked : (newTokenBucketLimiter (load noFraction (setting "RATE_LIMIT_CLEANUP_INTERVAL" "0s")).rateLimit).2 =
      .panicked := by decide +kernel
  refine ⟨⟨⟨rfl, fun _ safe => ?_⟩, rfl⟩, ⟨⟨rfl, fun _ safe => ?_⟩, by decide⟩,
    ⟨⟨rfl, fun _ safe => ?_⟩, by decide, fun spent recorded => ?_⟩, ⟨⟨rfl, fun _ safe => ?_⟩, panicked⟩⟩
  · exact safe.brokers "" List.mem_cons_self rfl
  · exact absurd (safe.partitions _ written) (by decide)
  · exact absurd safe.burst (by decide)
  · rw [first_allow _ (Finmap.lookup_empty "tenant") (by decide)]
    rfl
  · obtain ⟨period, -, ticks⟩ := safe.ticker
    cases panicked.symm.trans ticks

end EventGateway.Configuration
