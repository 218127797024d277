import EventGateway.RateLimit.Eviction

/-! Which limiters a sweep can reclaim. A sweep only looks at the recorded accesses, and only calls
that succeed record one, while every call creates the limiter that it needs. -/

namespace EventGateway.RateLimit
open Lib.TokenBucket TokenBucketLimiter

inductive Call where
  | allow (key : String) (spent recorded : Time)
  | wait (key : String) (ending : WaitEnd)
  | sweep (now : Time)

def perform (config : Config) (tbl : TokenBucketLimiter) : Call → TokenBucketLimiter
  | .allow key spent recorded => (tbl.allow config key spent recorded).2
  | .wait key ending => (tbl.wait config key ending).2
  | .sweep now => tbl.cleanupStaleLimiters config now

def performAll (config : Config) : TokenBucketLimiter → List Call → TokenBucketLimiter
  | tbl, [] => tbl
  | tbl, call :: rest => performAll config (perform config tbl call) rest

def KeysAgree (tbl : TokenBucketLimiter) : Prop :=
  ∀ key, key ∈ tbl.limiters ↔ key ∈ tbl.lastAccessTimestamps

def CreatorSucceeds (config : Config) (tbl : TokenBucketLimiter) : Call → Prop
  | .allow key _ _ => key = "" ∨ key ∈ tbl.limiters ∨ 1 ≤ config.burstSize
  | .wait key ending => key = "" ∨ key ∈ tbl.limiters ∨
      1 ≤ config.burstSize ∧ ∃ reserved recorded, ending = .granted reserved recorded
  | .sweep _ => True

def CreatorsSucceed (config : Config) : TokenBucketLimiter → List Call → Prop
  | _, [] => True
  | tbl, call :: rest => CreatorSucceeds config tbl call ∧ CreatorsSucceed config (perform config tbl call) rest

def EndsBy (finished : Time) : Call → Prop
  | .allow _ _ recorded => recorded ≤ finished
  | .wait _ (.granted _ recorded) => recorded ≤ finished
  | _ => True

/-- Between the calls the two maps have the same keys, and a sweep more than the threshold after the last of
them leaves no limiter. -/
structure Reclaimed (config : Config) (calls : List Call) (finished : Time) : Prop where
  agree : ∀ done, done <+: calls → KeysAgree (performAll config .new done)
  swept : ∀ now, config.staleThreshold.toInt < now - finished →
    ((performAll config .new calls).cleanupStaleLimiters config now).limiters = ∅

section Keys
variable {config : Config} {tbl : TokenBucketLimiter} {key : String}

def called (tbl : TokenBucketLimiter) (key : String) (limiter : Bucket Int) (access : Option Time) :
    TokenBucketLimiter :=
  ⟨tbl.limiters.insert key limiter, access.elim tbl.lastAccessTimestamps (tbl.lastAccessTimestamps.insert key)⟩

theorem allow_called (tbl : TokenBucketLimiter) (named : key ≠ "") (spent recorded : Time) :
    ∃ limiter, perform config tbl (.allow key spent recorded) = called tbl key limiter
      (if (config.policy.take (tbl.bucket config key) spent).1 then some recorded else none) := by
  refine ⟨(config.policy.take (tbl.bucket config key) spent).2, ?_⟩
  rw [perform, allow_eq config tbl named, called]
  split
  next => rfl
  next => rfl

def waited (config : Config) : WaitEnd → Option Time
  | .granted _ recorded => if config.burstSize < 1 then none else some recorded
  | _ => none

theorem wait_called (tbl : TokenBucketLimiter) (named : key ≠ "") (ending : WaitEnd) :
    ∃ limiter, perform config tbl (.wait key ending) = called tbl key limiter (waited config ending) := by
  obtain ⟨taken, created⟩ := getOrCreateLimiter_eq config tbl key
  refine ⟨(waitOn config (tbl.bucket config key) ending).2, ?_⟩
  simp only [perform, wait, if_neg named, created, taken]
  by_cases small : config.burstSize < 1
  · cases ending with
    | granted => simp only [waitOn, if_pos small, waited, called, setLimiter, Option.elim_none]
    | cancelled => simp only [waitOn, if_pos small, waited, called, setLimiter, Option.elim_none]
    | refused => simp only [waitOn, if_pos small, waited, called, setLimiter, Option.elim_none]
  · cases ending with
    | granted =>
      simp only [waitOn, if_neg small, waited, called, setLimiter, updateLastAccess, Option.elim_some]
    | cancelled => simp only [waitOn, if_neg small, waited, called, setLimiter, Option.elim_none]
    | refused => simp only [waitOn, if_neg small, waited, called, setLimiter, Option.elim_none]

/-- A call keeps the keys in agreement exactly if its limiter was there before or its access is recorded. -/
theorem keysAgree_called (agree : KeysAgree tbl) (limiter : Bucket Int) (access : Option Time) :
    KeysAgree (called tbl key limiter access) ↔ key ∈ tbl.limiters ∨ access.isSome := by
  cases access with
  | none =>
    simp only [Option.isSome_none, Bool.false_eq_true, or_false]
    constructor
    · intro after
      exact (agree key).mpr ((after key).mp (Finmap.mem_insert.mpr (.inl rfl)))
    · intro there other
      rw [called, Finmap.mem_insert, Option.elim_none, ← agree other]
      exact or_iff_right_of_imp (fun same => same ▸ there)
  | some time =>
    simp only [Option.isSome_some, or_true, iff_true]
    intro other
    rw [called, Finmap.mem_insert, Option.elim_some, Finmap.mem_insert, agree other]

theorem take_full (config : Config) (time : Time) :
    (config.policy.take config.policy.full time).1 = true ↔ 1 ≤ config.burstSize := by
  have cost : config.policy.cost ≤ config.policy.capacity ↔ 1 ≤ config.burstSize := by
    change second ≤ config.burstSize * second ↔ _
    rw [le_mul_iff_one_le_left (by decide)]
  rw [← cost, Policy.take, config.policy.level_full]
  split
  next enough => exact iff_of_true rfl enough
  next short => exact iff_of_false (by simp) short

theorem keysAgree_cleanup (agree : KeysAgree tbl) (now : Time) :
    KeysAgree (tbl.cleanupStaleLimiters config now) := by
  intro key
  rw [← Finmap.lookup_isSome, ← Finmap.lookup_isSome, (lookup_cleanup config now tbl key).1,
    (lookup_cleanup config now tbl key).2]
  split
  next => rfl
  next =>
    rw [Finmap.lookup_isSome, Finmap.lookup_isSome]
    exact agree key

/-- From maps with the same keys, a call keeps them the same exactly if it does not fail on a limiter of its own. -/
theorem keysAgree_perform (agree : KeysAgree tbl) (call : Call) :
    KeysAgree (perform config tbl call) ↔ CreatorSucceeds config tbl call := by
  cases call with
  | allow key spent recorded =>
    by_cases named : key = ""
    · subst named
      exact iff_of_true agree (.inl rfl)
    · obtain ⟨limiter, after⟩ := @allow_called config key tbl named spent recorded
      rw [after, keysAgree_called agree]
      simp only [CreatorSucceeds, named, false_or]
      by_cases there : key ∈ tbl.limiters
      · exact iff_of_true (.inl there) (.inl there)
      · rw [bucket, Finmap.lookup_eq_none.mpr there, Option.getD_none, ← take_full config spent]
        simp [there]
  | wait key ending =>
    by_cases named : key = ""
    · subst named
      exact iff_of_true agree (.inl rfl)
    · obtain ⟨limiter, after⟩ := @wait_called config key tbl named ending
      rw [after, keysAgree_called agree]
      simp only [CreatorSucceeds, named, false_or]
      cases ending with
      | granted reserved recorded =>
        by_cases small : config.burstSize < 1
        · simp [waited, small]
        · simp [waited, small, not_lt.mp small]
      | cancelled => simp [waited]
      | refused => simp [waited]
  | sweep now => exact iff_of_true (keysAgree_cleanup agree now) trivial

/-- The maps have the same keys after each call exactly if no call fails on a limiter of its own. -/
theorem keysAgree_all (agree : KeysAgree tbl) (calls : List Call) :
    (∀ done, done <+: calls → KeysAgree (performAll config tbl done)) ↔ CreatorsSucceed config tbl calls := by
  induction calls generalizing tbl with
  | nil =>
    refine iff_of_true (fun done part => ?_) trivial
    rw [List.prefix_nil.mp part]
    exact agree
  | cons call rest ih =>
    constructor
    · intro always
      have first := always [call] (List.prefix_append [call] rest)
      refine ⟨(keysAgree_perform agree call).mp first, (ih first).mp (fun done part => ?_)⟩
      exact always (call :: done) (List.cons_prefix_cons.mpr ⟨rfl, part⟩)
    · intro ⟨succeeds, later⟩ done part
      have first := (keysAgree_perform agree call).mpr succeeds
      rcases List.prefix_cons_iff.mp part with rfl | ⟨others, rfl, among⟩
      · exact agree
      · exact (ih first).mpr later others among

end Keys

section Sweeping
variable {config : Config} {tbl : TokenBucketLimiter} {finished : Time}

def AccessedBy (finished : Time) (tbl : TokenBucketLimiter) : Prop :=
  ∀ key last, tbl.lastAccessTimestamps.lookup key = some last → last ≤ finished

theorem accessedBy_called {key : String} (past : AccessedBy finished tbl) (limiter : Bucket Int) {access : Option Time}
    (inTime : ∀ time ∈ access, time ≤ finished) : AccessedBy finished (called tbl key limiter access) := by
  intro other last found
  cases access with
  | none => exact past other last found
  | some time =>
    rw [called, Option.elim_some, Lib.FiniteMap.lookup_insert] at found
    split at found
    next =>
      cases found
      exact inTime last rfl
    next => exact past other last found

theorem accessedBy_perform (config : Config) (past : AccessedBy finished tbl) {call : Call}
    (ends : EndsBy finished call) : AccessedBy finished (perform config tbl call) := by
  cases call with
  | allow key spent recorded =>
    by_cases named : key = ""
    · subst named
      exact past
    · obtain ⟨limiter, after⟩ := @allow_called config key tbl named spent recorded
      rw [after]
      apply accessedBy_called past
      intro time recordedAt
      split at recordedAt
      next =>
        cases recordedAt
        exact ends
      next => cases recordedAt
  | wait key ending =>
    by_cases named : key = ""
    · subst named
      exact past
    · obtain ⟨limiter, after⟩ := @wait_called config key tbl named ending
      rw [after]
      apply accessedBy_called past
      intro time recordedAt
      cases ending with
      | granted reserved recorded =>
        simp only [waited] at recordedAt
        split at recordedAt
        next => cases recordedAt
        next =>
          cases recordedAt
          exact ends
      | cancelled => cases recordedAt
      | refused => cases recordedAt
  | sweep now =>
    intro key last found
    rw [perform, (lookup_cleanup config now tbl key).2] at found
    split at found
    next => cases found
    next => exact past key last found

theorem accessedBy_all {calls : List Call} (ended : ∀ call ∈ calls, EndsBy finished call)
    (past : AccessedBy finished tbl) : AccessedBy finished (performAll config tbl calls) := by
  induction calls generalizing tbl with
  | nil => exact past
  | cons call rest ih =>
    have first := accessedBy_perform config past (ended call List.mem_cons_self)
    exact ih (fun other member => ended other (List.mem_cons_of_mem call member)) first

theorem cleanup_empty (agree : KeysAgree tbl) (past : AccessedBy finished tbl) {now : Time}
    (late : config.staleThreshold.toInt < now - finished) (finite : ¬config.NeverStale) :
    (tbl.cleanupStaleLimiters config now).limiters = ∅ := by
  apply Finmap.ext_lookup
  intro key
  rw [(lookup_cleanup config now tbl key).1, Finmap.lookup_empty]
  split
  next => rfl
  next kept =>
    rw [Finmap.lookup_eq_none, agree key, ← Finmap.lookup_isSome, Option.not_isSome_iff_eq_none]
    by_contra present
    obtain ⟨last, found⟩ := Option.ne_none_iff_exists'.mp present
    have bound := config.staleThreshold.toInt_lt
    have before := past key last found
    have below : config.staleThreshold.toInt < 2 ^ 63 - 1 := by
      unfold Config.NeverStale at finite
      omega
    exact kept ((mem_staleKeys config).mpr ⟨last, found, lt_since.mpr ⟨by lia, below⟩⟩)

theorem unrecorded_kept {key : String} (unrecorded : key ∉ tbl.lastAccessTimestamps) (now : Time) :
    (tbl.cleanupStaleLimiters config now).limiters.lookup key = tbl.limiters.lookup key := by
  rw [(lookup_cleanup config now tbl key).1, if_neg]
  intro member
  obtain ⟨last, found, -⟩ := (mem_staleKeys config).mp member
  exact unrecorded (Finmap.mem_of_lookup_eq_some found)

theorem cleanup_never (never : config.NeverStale) (now : Time) : tbl.cleanupStaleLimiters config now = tbl := by
  have none : tbl.staleKeys config now = ∅ := by
    apply Finset.eq_empty_of_forall_notMem
    intro key member
    obtain ⟨last, -, old⟩ := (mem_staleKeys config).mp member
    have below := (lt_since.mp old).2
    unfold Config.NeverStale at never
    omega
  rw [cleanupStaleLimiters, none]
  rfl

end Sweeping

/-- Every limiter can be reclaimed exactly if no call fails on a limiter that it created, and unless the threshold
is the largest duration, with which only an unused limiter is empty. -/
theorem reclaimed_iff (config : Config) {calls : List Call} {finished : Time}
    (ended : ∀ call ∈ calls, EndsBy finished call) :
    Reclaimed config calls finished ↔ CreatorsSucceed config .new calls ∧
      (config.NeverStale → (performAll config .new calls).limiters = ∅) := by
  have fresh : KeysAgree .new := fun _ => iff_of_false Finmap.notMem_empty Finmap.notMem_empty
  rw [← keysAgree_all fresh]
  constructor
  · intro reclaimed
    refine ⟨reclaimed.agree, fun never => ?_⟩
    have swept := reclaimed.swept (finished + config.staleThreshold.toInt + 1) (by lia)
    rwa [cleanup_never never] at swept
  · intro ⟨agree, unused⟩
    refine ⟨agree, fun now late => ?_⟩
    by_cases never : config.NeverStale
    · rw [cleanup_never never]
      exact unused never
    · have past : AccessedBy finished (performAll config .new calls) :=
        accessedBy_all ended (fun _ _ found => by cases found)
      exact cleanup_empty (agree calls List.prefix_rfl) past late never

theorem reclaimed_sample :
    Reclaimed onePerSecond [.allow "k" 0 0, .allow "k" 1 1, .wait "l" (.granted 2 3)] 3 := by
  refine (reclaimed_iff onePerSecond ?_).mpr ⟨⟨?_, ?_, ?_, trivial⟩, ?_⟩
  · simp [EndsBy]
  · exact .inr (.inr (by decide))
  · exact .inr (.inr (by decide))
  · exact .inr (.inr ⟨by decide, 2, 3, rfl⟩)
  · intro never
    exact absurd never (by unfold Config.NeverStale; decide)

def noBurst : Config := { onePerSecond with burstSize := 0 }

/-- A denied first `Allow`, and a first `Wait` whose context has ended, leave a limiter that no sweep removes. -/
theorem limiter_leaks :
    (∀ now, "k" ∈ ((performAll noBurst .new [.allow "k" 0 0]).cleanupStaleLimiters noBurst now).limiters) ∧
    ¬KeysAgree (performAll noBurst .new [.allow "k" 0 0]) ∧
    (∀ now, "k" ∈ ((performAll onePerSecond .new [.wait "k" (.refused "context canceled")]).cleanupStaleLimiters
      onePerSecond now).limiters) ∧
    ¬KeysAgree (performAll onePerSecond .new [.wait "k" (.refused "context canceled")]) := by
  have denied : "k" ∈ (performAll noBurst .new [.allow "k" 0 0]).limiters ∧
      "k" ∉ (performAll noBurst .new [.allow "k" 0 0]).lastAccessTimestamps := by decide +kernel
  have cancelled : "k" ∈ (performAll onePerSecond .new [.wait "k" (.refused "context canceled")]).limiters ∧
      "k" ∉ (performAll onePerSecond .new [.wait "k" (.refused "context canceled")]).lastAccessTimestamps := by
    decide +kernel
  refine ⟨fun now => ?_, fun agree => denied.2 ((agree "k").mp denied.1), fun now => ?_,
    fun agree => cancelled.2 ((agree "k").mp cancelled.1)⟩
  · rw [← Finmap.lookup_isSome, unrecorded_kept denied.2, Finmap.lookup_isSome]
    exact denied.1
  · rw [← Finmap.lookup_isSome, unrecorded_kept cancelled.2, Finmap.lookup_isSome]
    exact cancelled.1

end EventGateway.RateLimit
