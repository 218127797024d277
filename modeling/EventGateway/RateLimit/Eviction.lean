import EventGateway.RateLimit.Limiter

/-! Forgetting a bucket replaces it by a full one. That cannot be seen if a bucket fills up within the
shortest time after which it may be forgotten. The limiter is compared with buckets that are never
forgotten, one for each key. -/

namespace EventGateway.RateLimit
open Lib.TokenBucket TokenBucketLimiter

def Config.Refills (config : Config) : Prop :=
  config.burstSize ≤ 0 ∨ config.burstSize * second ≤ config.requestsPerSecond * (config.staleThreshold.toInt + 1)

/-- No access is ever stale, because `Sub` does not exceed the largest duration. -/
def Config.NeverStale (config : Config) : Prop := config.staleThreshold.toInt = 2 ^ 63 - 1

theorem level_of_stale {config : Config} {bucket : Bucket Int} {last started time : Time}
    (refills : config.Refills ∨ config.NeverStale)
    (covered : bucket = config.policy.full ∨ 0 ≤ bucket.tokens ∧ bucket.last ≤ last)
    (old : config.staleThreshold < since started last) (past : started ≤ time) :
    config.policy.level bucket time = config.policy.capacity := by
  rcases covered with rfl | ⟨solvent, paid⟩
  · exact config.policy.level_full time
  · rw [lt_since] at old
    rcases refills with (empty | enough) | never
    · have gained : 0 ≤ config.policy.rate * max 0 (time - bucket.last) :=
        mul_nonneg config.policy.rate_nonneg (le_max_left _ _)
      have capacity : config.policy.capacity ≤ 0 := mul_nonpos_of_nonpos_of_nonneg empty (by decide)
      exact min_eq_left (by linarith)
    · apply config.policy.level_refilled solvent _ enough
      lia
    · unfold Config.NeverStale at never
      omega

/-- The limiter behaves like the buckets `ideal` from now on, and a recorded access is no earlier than the last
payment, if there was one. -/
structure Tracks (config : Config) (tbl : TokenBucketLimiter) (ideal : String → Bucket Int) (now : Time) : Prop where
  same : ∀ key, config.policy.Same now (tbl.bucket config key) (ideal key)
  covered : ∀ key last, tbl.lastAccessTimestamps.lookup key = some last →
    tbl.bucket config key = config.policy.full ∨
      0 ≤ (tbl.bucket config key).tokens ∧ (tbl.bucket config key).last ≤ last

namespace Tracks
variable {config : Config} {tbl : TokenBucketLimiter} {ideal : String → Bucket Int} {key : String} {now : Time}

theorem new (config : Config) (now : Time) :
    Tracks config .new (fun _ => config.policy.full) now where
  same := fun _ => Policy.Same.refl _
  covered := fun _ _ found => by cases found

theorem after (tracked : Tracks config tbl ideal now) {later : Time} (late : now ≤ later) :
    Tracks config tbl ideal later where
  same := fun key => (tracked.same key).after late
  covered := tracked.covered

theorem bucket_insert {tbl : TokenBucketLimiter} {limiter : Bucket Int}
    {accesses : Finmap (fun _ : String => Time)} :
    bucket config ⟨tbl.limiters.insert key limiter, accesses⟩ = Function.update (tbl.bucket config) key limiter := by
  funext other
  by_cases same : other = key
  · rw [same, Function.update_self, bucket, Finmap.lookup_insert, Option.getD_some]
  · rw [Function.update_of_ne same, bucket, Finmap.lookup_insert_of_ne _ same, bucket]

/-- An `Allow` is answered by the ideal bucket and keeps the limiter on its track. -/
theorem allow (tracked : Tracks config tbl ideal now) (named : key ≠ "") {spent recorded : Time}
    (late : now ≤ spent) (order : spent ≤ recorded) :
    (tbl.allow config key spent recorded).1 = .ok (config.policy.take (ideal key) spent).1 ∧
      Tracks config (tbl.allow config key spent recorded).2
        (Function.update ideal key (config.policy.take (ideal key) spent).2) recorded := by
  obtain ⟨answer, levels⟩ := ((tracked.same key).after late).take
  rw [allow_eq config tbl named]
  refine ⟨congrArg Except.ok answer, ?_, ?_⟩
  · intro other
    rw [bucket_insert]
    by_cases same : other = key
    · rw [same, Function.update_self, Function.update_self]
      exact levels.after order
    · rw [Function.update_of_ne same, Function.update_of_ne same]
      exact (tracked.same other).after (late.trans order)
  · intro other last found
    rw [bucket_insert]
    by_cases same : other = key
    · subst same
      rw [Function.update_self]
      unfold Policy.take at found ⊢
      split at found
      next enough =>
        rw [if_pos enough]
        rw [if_pos rfl, Finmap.lookup_insert] at found
        cases found
        exact .inr ⟨sub_nonneg.mpr enough, order⟩
      next short =>
        rw [if_neg short]
        exact tracked.covered other last found
    · rw [Function.update_of_ne same]
      apply tracked.covered other last
      split at found
      next => rwa [Finmap.lookup_insert_of_ne _ same] at found
      next => exact found

theorem full_of_stale (tracked : Tracks config tbl ideal now) (refills : config.Refills ∨ config.NeverStale)
    {started : Time} (past : started ≤ now) (stale : tbl.Stale config started key) :
    config.policy.Same now config.policy.full (ideal key) := by
  intro time late
  obtain ⟨last, found, old⟩ := stale
  rw [← tracked.same key time late, config.policy.level_full]
  exact (level_of_stale refills (tracked.covered key last found) old (past.trans late)).symm

theorem forget (tracked : Tracks config tbl ideal now) (refills : config.Refills ∨ config.NeverStale)
    {started : Time} (past : started ≤ now) {pruned : TokenBucketLimiter}
    (buckets : ∀ key, pruned.limiters.lookup key = tbl.limiters.lookup key ∨
      pruned.limiters.lookup key = none ∧ tbl.Stale config started key)
    (accesses : ∀ key last, pruned.lastAccessTimestamps.lookup key = some last →
      tbl.lastAccessTimestamps.lookup key = some last) :
    Tracks config pruned ideal now := by
  constructor
  · intro key
    unfold bucket
    rcases buckets key with kept | ⟨gone, stale⟩
    · rw [kept]
      exact tracked.same key
    · rw [gone]
      exact tracked.full_of_stale refills past stale
  · intro key last found
    unfold bucket
    rcases buckets key with kept | ⟨gone, -⟩
    · rw [kept]
      exact tracked.covered key last (accesses key last found)
    · rw [gone]
      exact .inl rfl

theorem cleanup (tracked : Tracks config tbl ideal now) (refills : config.Refills ∨ config.NeverStale) :
    Tracks config (tbl.cleanupStaleLimiters config now) ideal now := by
  apply tracked.forget refills le_rfl
  · intro key
    rw [(lookup_cleanup config now tbl key).1]
    by_cases stale : key ∈ tbl.staleKeys config now
    · rw [if_pos stale]
      exact .inr ⟨rfl, (mem_staleKeys config).mp stale⟩
    · rw [if_neg stale]
      exact .inl rfl
  · intro key last found
    rw [(lookup_cleanup config now tbl key).2] at found
    split at found
    next => cases found
    next => exact found

end Tracks

inductive Operation where
  | allow (key : String) (spent recorded : Time)
  | sweep (now : Time)

def Timed : Time → List Operation → Prop
  | _, [] => True
  | now, .allow _ spent recorded :: rest => now ≤ spent ∧ spent ≤ recorded ∧ Timed recorded rest
  | now, .sweep time :: rest => now ≤ time ∧ Timed time rest

def answers (config : Config) : TokenBucketLimiter → List Operation → List (Except String Bool)
  | _, [] => []
  | tbl, .allow key spent recorded :: rest =>
      (tbl.allow config key spent recorded).1 :: answers config (tbl.allow config key spent recorded).2 rest
  | tbl, .sweep now :: rest => answers config (tbl.cleanupStaleLimiters config now) rest

def withoutSweeps : List Operation → List Operation
  | [] => []
  | .allow key spent recorded :: rest => .allow key spent recorded :: withoutSweeps rest
  | .sweep _ :: rest => withoutSweeps rest

/-- A limiter with sweeps on the track of one without them gives the same answers. -/
theorem answers_withoutSweeps {config : Config} (refills : config.Refills ∨ config.NeverStale)
    {operations : List Operation} {now : Time} (timed : Timed now operations) {swept plain : TokenBucketLimiter}
    (tracked : Tracks config swept (plain.bucket config) now) :
    answers config swept operations = answers config plain (withoutSweeps operations) := by
  induction operations generalizing now swept plain with
  | nil => rfl
  | cons operation rest ih =>
    cases operation with
    | allow key spent recorded =>
      obtain ⟨late, order, timed⟩ := timed
      by_cases named : key = ""
      · subst named
        exact congrArg (List.cons _) (ih timed (tracked.after (late.trans order)))
      · obtain ⟨answer, tracked⟩ := tracked.allow named late order
        have unswept := allow_eq config plain named spent recorded
        have taken : Function.update (plain.bucket config) key
            (config.policy.take (plain.bucket config key) spent).2 =
            (plain.allow config key spent recorded).2.bucket config := by
          rw [unswept, Tracks.bucket_insert]
        rw [taken] at tracked
        simp only [answers, withoutSweeps]
        rw [ih timed tracked, answer, unswept]
    | sweep time =>
      obtain ⟨late, timed⟩ := timed
      exact ih timed ((tracked.after late).cleanup refills)

/-- If a bucket fills up within the threshold, sweeps do not change the answer of any `Allow`. -/
theorem sweeps_unobservable (config : Config)
    (sane : config.burstSize * second ≤ config.requestsPerSecond * config.staleThreshold.toInt) {now : Time}
    {operations : List Operation} (timed : Timed now operations) :
    answers config .new operations = answers config .new (withoutSweeps operations) := by
  have refills : config.Refills := by
    right
    have rate := config.valid
    rw [mul_add]
    omega
  exact answers_withoutSweeps (.inl refills) timed (Tracks.new config now)

def onePerSecond : Config := ⟨1, 1, 1000000000, by decide⟩

theorem sweeps_unobservable_sample :
    let operations : List Operation := [.allow "k" 0 0, .sweep 1000000001, .allow "k" 1000000001 1000000001]
    Timed 0 operations ∧ answers onePerSecond .new operations = [.ok true, .ok true] ∧
      answers onePerSecond .new operations = answers onePerSecond .new (withoutSweeps operations) := by
  have timed : Timed 0 [.allow "k" 0 0, .sweep 1000000001, .allow "k" 1000000001 1000000001] :=
    ⟨by decide, by decide, by decide, by decide, by decide, trivial⟩
  exact ⟨timed, by decide +kernel, sweeps_unobservable onePerSecond (by decide) timed⟩

end EventGateway.RateLimit
