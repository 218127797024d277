import EventGateway.Lib.Calls
import EventGateway.Lib.Overtaking
import EventGateway.Lib.Machine
import EventGateway.RateLimit.Eviction

/-! The limiter as its callers find it, all at once. Each operation on a `sync.Map`, on a `rate.Limiter` and under the
mutex is one step; the clock is read in steps of its own, so that a call may be overtaken by one that has read it later.
A `rate.Limiter` is a place in memory: calls that have got hold of it keep it when the sweep deletes it from the map. The
range of a sweep may visit any entry that is there when it comes to it. A call that nothing interrupts does what
`TokenBucketLimiter.allow` does. -/

namespace EventGateway.RateLimit
open Lib Lib.Calls Lib.TokenBucket TokenBucketLimiter

/-- A `rate.Limiter` in memory. The other fields are records: the key that it was made for, whether it got into
the map, and when it granted. -/
structure Cell where
  bucket : Bucket Int
  key : String
  published : Bool
  granted : List Time

def Cell.new (config : Config) (key : String) : Cell := ⟨config.policy.full, key, false, []⟩

def Cell.publish (cell : Cell) : Cell := { cell with published := true }

def Cell.allow (config : Config) (cell : Cell) (now : Time) : Bool × Cell :=
  let (allowed, bucket) := config.policy.take cell.bucket now
  (allowed, { cell with bucket, granted := if allowed then now :: cell.granted else cell.granted })

inductive AllowAt where
  /-- Before `limiters.Load`. -/
  | loading (key : String)
  /-- Before `limiters.LoadOrStore` with the limiter it has made. -/
  | storing (key : String) (newLimiter : Nat)
  /-- Before `limiter.Allow`, which reads the clock. -/
  | asking (key : String) (limiter : Nat)
  /-- Before the lock of the limiter, with the time that was read. -/
  | taking (key : String) (limiter : Nat) (now : Time)
  /-- Before `updateLastAccess`, which reads the clock. -/
  | granted (key : String)
  /-- Before `lastAccessTimestamps.Store`. -/
  | recording (key : String) (now : Time)
  | returned (result : Except String Bool)

def AllowAt.operations : AllowAt → Nat
  | .loading _ => 6
  | .storing _ _ => 5
  | .asking _ _ => 4
  | .taking _ _ _ => 3
  | .granted _ => 2
  | .recording _ _ => 1
  | .returned _ => 0

inductive SweeperAt where
  | waiting
  /-- In `lastAccessTimestamps.Range`. -/
  | ranging (now : Time) (keysToDelete : List String)
  /-- Before the next `limiters.Delete`. -/
  | deleting (keysToDelete : List String)
  /-- Before `lastAccessTimestamps.Delete`. -/
  | forgetting (key : String) (keysToDelete : List String)
  | ended
  deriving DecidableEq

inductive StopAt where
  | locking
  /-- Before `close(stopCleanup)`. -/
  | closing
  | returned
  deriving DecidableEq

/-- The limiter with everything that goes on at once. The last two fields are records: the calls that were granted,
and the keys whose limiter was deleted. -/
structure Racing where
  cells : List Cell
  limiters : Finmap (fun _ : String => Nat)
  lastAccessTimestamps : Finmap (fun _ : String => Time)
  clock : Time
  calls : List AllowAt
  sweeper : SweeperAt
  isRunning : Bool
  stopCleanup : Bool
  stops : List StopAt
  panicked : Bool
  granted : List (String × Time)
  deleted : List String

namespace Racing

/-- `NewTokenBucketLimiter`, which has started the cleanup goroutine. -/
def new (clock : Time) : Racing where
  cells := []
  limiters := ∅
  lastAccessTimestamps := ∅
  clock := clock
  calls := []
  sweeper := .waiting
  isRunning := true
  stopCleanup := false
  stops := []
  panicked := false
  granted := []
  deleted := []

def begin (racing : Racing) (call : AllowAt) : Racing := { racing with calls := racing.calls ++ [call] }

/-- The next operation of a call of `Allow`, each of which is atomic: the maps are of type `sync.Map`, and a
`rate.Limiter` locks itself. -/
def perform (config : Config) (racing : Racing) : AllowAt → Option (Racing × AllowAt)
  | .loading key =>
    match racing.limiters.lookup key with
    | some limiter => some (racing, .asking key limiter)
    | none => some ({ racing with cells := racing.cells ++ [.new config key] },
        .storing key racing.cells.length)
  | .storing key newLimiter =>
    match racing.limiters.lookup key with
    | some actual => some (racing, .asking key actual)
    | none => some ({ racing with
        limiters := racing.limiters.insert key newLimiter
        cells := racing.cells.modify newLimiter Cell.publish },
        .asking key newLimiter)
  | .asking key limiter => some (racing, .taking key limiter racing.clock)
  | .taking key limiter now =>
    match racing.cells[limiter]? with
    | none => none
    | some cell =>
      let (allowed, after) := cell.allow config now
      let racing := { racing with cells := racing.cells.set limiter after }
      if allowed then some ({ racing with granted := (key, now) :: racing.granted }, .granted key)
      else some (racing, .returned (.ok false))
  | .granted key => some (racing, .recording key racing.clock)
  | .recording key now => some ({ racing with
      lastAccessTimestamps := racing.lastAccessTimestamps.insert key now }, .returned (.ok true))
  | .returned _ => none

end Racing

/-- A call of `Allow` or of `Stop` begins or takes its next step, time passes, or the cleanup goroutine takes its next
step: a tick, one entry of the range, the end of the range, one deletion, or the end. -/
inductive RacingStep where
  | allow (key : String)
  | advance (index : Nat)
  | stop
  | advanceStop (index : Nat)
  | tick (now : Time)
  | sweep
  | inspect (key : String)
  | ranged
  | delete
  | leave
  deriving DecidableEq

namespace Racing

def sweep (config : Config) (racing : Racing) : RacingStep → Option Racing
  | .sweep =>
    match racing.sweeper with
    | .waiting => some { racing with sweeper := .ranging racing.clock [] }
    | _ => none
  | .inspect key =>
    match racing.sweeper, racing.lastAccessTimestamps.lookup key with
    | .ranging now keys, some last =>
      if config.staleThreshold < since now last then some { racing with sweeper := .ranging now (keys ++ [key]) }
      else some racing
    | _, _ => none
  | .ranged =>
    match racing.sweeper with
    | .ranging _ keys => some { racing with sweeper := .deleting keys }
    | _ => none
  | .delete =>
    match racing.sweeper with
    | .deleting [] => some { racing with sweeper := .waiting }
    | .deleting (key :: rest) => some { racing with
        limiters := racing.limiters.erase key
        deleted := if (racing.limiters.lookup key).isSome then key :: racing.deleted else racing.deleted
        sweeper := .forgetting key rest }
    | .forgetting key rest => some { racing with
        lastAccessTimestamps := racing.lastAccessTimestamps.erase key, sweeper := .deleting rest }
    | _ => none
  | .leave =>
    match racing.sweeper with
    | .waiting => if racing.stopCleanup then some { racing with sweeper := .ended } else none
    | _ => none
  | _ => none

/-- The next operation of a call of `Stop`. Closing a closed channel panics. -/
def performStop (racing : Racing) : StopAt → Option (Racing × StopAt)
  | .locking => if racing.isRunning then some ({ racing with isRunning := false }, .closing) else some (racing, .returned)
  | .closing =>
    if racing.stopCleanup then some ({ racing with panicked := true }, .returned)
    else some ({ racing with stopCleanup := true }, .returned)
  | .returned => none

def step (config : Config) (racing : Racing) : RacingStep → Option Racing
  | .allow key =>
    some (racing.begin (if key = "" then .returned (.error "key cannot be empty") else .loading key))
  | .advance index => do
    let call ← racing.calls[index]?
    let (after, next) ← racing.perform config call
    pure { after with calls := racing.calls.set index next }
  | .stop => some { racing with stops := racing.stops ++ [.locking] }
  | .advanceStop index => do
    let call ← racing.stops[index]?
    let (after, next) ← racing.performStop call
    pure { after with stops := racing.stops.set index next }
  | .tick now => if racing.clock ≤ now then some { racing with clock := now } else none
  | label => racing.sweep config label

end Racing

def racingMachine (config : Config) : Machine Racing RacingStep where
  init := fun racing => ∃ clock, racing = .new clock
  step := Racing.step config

/-! ### What a step can do -/

/-- The limiter that a call has in its hands is one of this key, and one that was in the map if the call is about to
take from it. -/
def AllowAt.Holds (cells : List Cell) : AllowAt → Prop
  | .storing key limiter => ∃ cell, cells[limiter]? = some cell ∧ cell.key = key
  | .asking key limiter | .taking key limiter _ =>
    ∃ cell, cells[limiter]? = some cell ∧ cell.key = key ∧ cell.published = true
  | _ => True

def Keeps (before after : List Cell) : Prop :=
  ∀ (limiter : Nat) (cell : Cell), before[limiter]? = some cell → ∃ later, after[limiter]? = some later ∧
    later.key = cell.key ∧ (cell.published = true → later.published = true)

section Steps
variable {config : Config} {racing after : Racing} {call next : AllowAt} {index : Nat} {cells later : List Cell}

theorem AllowAt.Holds.keep (holds : call.Holds cells) (keeps : Keeps cells later) : call.Holds later := by
  cases call with
  | storing key limiter =>
    obtain ⟨cell, found, named⟩ := holds
    obtain ⟨kept, there, same, -⟩ := keeps limiter cell found
    exact ⟨kept, there, same.trans named⟩
  | asking key limiter | taking key limiter =>
    obtain ⟨cell, found, named, published⟩ := holds
    obtain ⟨kept, there, same, still⟩ := keeps limiter cell found
    exact ⟨kept, there, same.trans named, still published⟩
  | loading | granted | recording | returned => trivial

theorem Keeps.refl (cells : List Cell) : Keeps cells cells := fun _ cell found => ⟨cell, found, rfl, id⟩

theorem Keeps.append (cells : List Cell) (new : Cell) : Keeps cells (cells ++ [new]) :=
  fun _ cell found => ⟨cell, getElem?_append_of_found found, rfl, id⟩

theorem Keeps.set {limiter : Nat} {cell changed : Cell} (found : cells[limiter]? = some cell)
    (same : changed.key = cell.key) (still : cell.published = true → changed.published = true) :
    Keeps cells (cells.set limiter changed) := by
  intro other old there
  rw [getElem?_set_of_found found]
  split
  next here =>
    rw [here, found, Option.some.injEq] at there
    exact ⟨changed, rfl, there ▸ same, there ▸ still⟩
  next => exact ⟨old, there, rfl, id⟩

@[simp] theorem Cell.publish_key (cell : Cell) : cell.publish.key = cell.key := rfl

@[simp] theorem Cell.allow_key (cell : Cell) (now : Time) : (cell.allow config now).2.key = cell.key := rfl

theorem Cell.allow_granted {cell : Cell} {now : Time} (granted : (cell.allow config now).1 = true) :
    (cell.allow config now).2.granted = now :: cell.granted := if_pos granted

theorem Cell.allow_denied {cell : Cell} {now : Time} (denied : (cell.allow config now).1 = false) :
    (cell.allow config now).2 = cell := by
  have unpaid := config.policy.take_unpaid cell.bucket now denied
  have none : (cell.allow config now).2.granted = cell.granted := if_neg (Bool.not_eq_true _ ▸ denied)
  calc (cell.allow config now).2
      = { cell with bucket := (config.policy.take cell.bucket now).2, granted := (cell.allow config now).2.granted } := rfl
    _ = cell := by rw [unpaid, none]

inductive AllowMove (config : Config) (racing : Racing) : AllowAt → Racing → AllowAt → Prop where
  | load (key : String) (limiter : Nat) (found : racing.limiters.lookup key = some limiter) :
      AllowMove config racing (.loading key) racing (.asking key limiter)
  | make (key : String) (missing : racing.limiters.lookup key = none) :
      AllowMove config racing (.loading key)
        { racing with cells := racing.cells ++ [.new config key] }
        (.storing key racing.cells.length)
  | lose (key : String) (newLimiter actual : Nat) (found : racing.limiters.lookup key = some actual) :
      AllowMove config racing (.storing key newLimiter) racing (.asking key actual)
  | store (key : String) (newLimiter : Nat) (missing : racing.limiters.lookup key = none) :
      AllowMove config racing (.storing key newLimiter) { racing with
        limiters := racing.limiters.insert key newLimiter
        cells := racing.cells.modify newLimiter Cell.publish }
        (.asking key newLimiter)
  | ask (key : String) (limiter : Nat) :
      AllowMove config racing (.asking key limiter) racing (.taking key limiter racing.clock)
  | grant (key : String) (limiter : Nat) (now : Time) (cell : Cell) (there : racing.cells[limiter]? = some cell)
      (granted : (cell.allow config now).1 = true) :
      AllowMove config racing (.taking key limiter now) { racing with
        cells := racing.cells.set limiter (cell.allow config now).2
        granted := (key, now) :: racing.granted } (.granted key)
  | deny (key : String) (limiter : Nat) (now : Time) (cell : Cell) (there : racing.cells[limiter]? = some cell)
      (denied : (cell.allow config now).1 = false) :
      AllowMove config racing (.taking key limiter now)
        { racing with cells := racing.cells.set limiter (cell.allow config now).2 } (.returned (.ok false))
  | stamp (key : String) : AllowMove config racing (.granted key) racing (.recording key racing.clock)
  | record (key : String) (now : Time) :
      AllowMove config racing (.recording key now) { racing with
        lastAccessTimestamps := racing.lastAccessTimestamps.insert key now } (.returned (.ok true))

theorem perform_cases (performed : racing.perform config call = some (after, next)) :
    AllowMove config racing call after next := by
  cases call with
  | loading key =>
    simp only [Racing.perform] at performed
    split at performed
    next limiter found =>
      cases performed
      exact .load key limiter found
    next missing =>
      cases performed
      exact .make key missing
  | storing key newLimiter =>
    simp only [Racing.perform] at performed
    split at performed
    next actual found =>
      cases performed
      exact .lose key newLimiter actual found
    next missing =>
      cases performed
      exact .store key newLimiter missing
  | asking key limiter =>
    cases performed
    exact .ask key limiter
  | taking key limiter now =>
    simp only [Racing.perform] at performed
    split at performed
    next => cases performed
    next cell there =>
      split at performed
      next granted =>
        cases performed
        exact .grant key limiter now cell there granted
      next denied =>
        cases performed
        exact .deny key limiter now cell there (Bool.not_eq_true _ ▸ denied)
  | granted key =>
    cases performed
    exact .stamp key
  | recording key now =>
    cases performed
    exact .record key now
  | returned => cases performed

theorem AllowMove.operations_lt (moved : AllowMove config racing call after next) :
    next.operations < call.operations := by
  cases moved with
  | _ => simp [AllowAt.operations]

theorem AllowMove.kept (moved : AllowMove config racing call after next) :
    after.clock = racing.clock ∧ after.sweeper = racing.sweeper := by
  cases moved with
  | _ => exact ⟨rfl, rfl⟩

theorem AllowMove.with_calls (moved : AllowMove config racing call after next) (calls : List AllowAt) :
    AllowMove config { racing with calls } call { after with calls } next := by
  cases moved with
  | load key limiter known => exact .load key limiter known
  | make key missing => exact .make key missing
  | lose key newLimiter actual known => exact .lose key newLimiter actual known
  | store key newLimiter missing => exact .store key newLimiter missing
  | ask key limiter => exact .ask key limiter
  | grant key limiter now cell there granted => exact .grant key limiter now cell there granted
  | deny key limiter now cell there denied => exact .deny key limiter now cell there denied
  | stamp key => exact .stamp key
  | record key now => exact .record key now

inductive RacingMove (config : Config) (racing : Racing) : Racing → Prop where
  | advance (index : Nat) (call next : AllowAt) (after : Racing) (found : racing.calls[index]? = some call)
      (moved : AllowMove config racing call after next) :
      RacingMove config racing { after with calls := racing.calls.set index next }
  | delete (key : String) (after : Racing) (cells : after.cells = racing.cells) (calls : after.calls = racing.calls)
      (granted : after.granted = racing.granted)
      (limiters : after.limiters = racing.limiters.erase key)
      (deleted : after.deleted = if (racing.limiters.lookup key).isSome then key :: racing.deleted else racing.deleted) :
      RacingMove config racing after
  | aside (after : Racing) (cells : after.cells = racing.cells) (limiters : after.limiters = racing.limiters)
      (granted : after.granted = racing.granted) (deleted : after.deleted = racing.deleted)
      (calls : ∀ call ∈ after.calls, call ∈ racing.calls ∨ ∀ cells, call.Holds cells) :
      RacingMove config racing after

theorem step_cases {label : RacingStep} (stepped : racing.step config label = some after) :
    RacingMove config racing after := by
  cases label with
  | allow key =>
    cases stepped
    refine .aside _ rfl rfl rfl rfl (fun call member => ?_)
    rcases List.mem_append.mp member with old | new
    · exact .inl old
    · refine .inr (fun cells => ?_)
      rw [List.mem_singleton.mp new]
      split
      next => trivial
      next => trivial
  | advance index =>
    obtain ⟨call, found, rest⟩ := Option.bind_eq_some_iff.mp stepped
    obtain ⟨⟨moved, next⟩, performed, done⟩ := Option.bind_eq_some_iff.mp rest
    cases done
    exact .advance index call next moved found (perform_cases performed)
  | stop =>
    cases stepped
    exact .aside _ rfl rfl rfl rfl (fun _ => .inl)
  | advanceStop index =>
    obtain ⟨call, found, rest⟩ := Option.bind_eq_some_iff.mp stepped
    obtain ⟨⟨moved, next⟩, performed, done⟩ := Option.bind_eq_some_iff.mp rest
    cases done
    cases call with
    | locking | closing =>
      simp only [Racing.performStop] at performed
      split at performed
      all_goals
        cases performed
        exact .aside _ rfl rfl rfl rfl (fun _ => .inl)
    | returned => cases performed
  | tick now =>
    simp only [Racing.step] at stepped
    split at stepped
    next =>
      cases stepped
      exact .aside _ rfl rfl rfl rfl (fun _ => .inl)
    next => cases stepped
  | delete =>
    simp only [Racing.step, Racing.sweep] at stepped
    split at stepped
    next =>
      cases stepped
      exact .aside _ rfl rfl rfl rfl (fun _ => .inl)
    next key rest _ =>
      cases stepped
      exact .delete key _ rfl rfl rfl rfl rfl
    next =>
      cases stepped
      exact .aside _ rfl rfl rfl rfl (fun _ => .inl)
    next => cases stepped
  | sweep | ranged =>
    simp only [Racing.step, Racing.sweep] at stepped
    split at stepped
    next =>
      cases stepped
      exact .aside _ rfl rfl rfl rfl (fun _ => .inl)
    next => cases stepped
  | inspect | leave =>
    simp only [Racing.step, Racing.sweep] at stepped
    split at stepped
    next =>
      split at stepped
      all_goals
        cases stepped
        try exact .aside _ rfl rfl rfl rfl (fun _ => .inl)
    next => cases stepped

theorem sweep_kept {label : RacingStep} (swept : racing.sweep config label = some after) :
    after.clock = racing.clock ∧ after.granted = racing.granted := by
  cases label with
  | sweep | ranged | delete =>
    simp only [Racing.sweep] at swept
    split at swept
    all_goals
      cases swept
      try exact ⟨rfl, rfl⟩
  | inspect | leave =>
    simp only [Racing.sweep] at swept
    split at swept
    next =>
      split at swept
      all_goals
        cases swept
        try exact ⟨rfl, rfl⟩
    next => cases swept
  | _ => cases swept


theorem step_of_sweep {label : RacingStep} (swept : racing.sweep config label = some after) (calls : List AllowAt) :
    Racing.step config { racing with calls } label = some { after with calls } := by
  cases label with
  | sweep | ranged | delete =>
    simp only [Racing.sweep] at swept
    simp only [Racing.step, Racing.sweep]
    split at swept
    all_goals
      cases swept
      try simp [*]
  | inspect | leave =>
    simp only [Racing.sweep] at swept
    simp only [Racing.step, Racing.sweep]
    split at swept
    next =>
      split at swept
      all_goals
        cases swept
        try simp [*]
    next => cases swept
  | _ => cases swept

end Steps

/-! ### One call after the other -/

inductive Alone (config : Config) : Racing → AllowAt → Racing → Except String Bool → Prop where
  | returned (racing : Racing) (result : Except String Bool) : Alone config racing (.returned result) racing result
  | perform {racing after last : Racing} {call next : AllowAt} {result : Except String Bool}
      (performed : racing.perform config call = some (after, next)) (rest : Alone config after next last result) :
      Alone config racing call last result

structure Views (racing : Racing) (tbl : TokenBucketLimiter) : Prop where
  limiters : ∀ key, tbl.limiters.lookup key =
    (racing.limiters.lookup key).bind (fun limiter => racing.cells[limiter]?.map Cell.bucket)
  accesses : tbl.lastAccessTimestamps = racing.lastAccessTimestamps
  /-- No two keys have the same limiter. -/
  mapped : ∀ key limiter, racing.limiters.lookup key = some limiter → AllowAt.Holds racing.cells (.asking key limiter)

section Alone
variable {config : Config} {racing : Racing} {tbl : TokenBucketLimiter} {key : String} {limiter : Nat} {cell : Cell}

theorem Views.found (views : Views racing tbl) (known : racing.limiters.lookup key = some limiter)
    (there : racing.cells[limiter]? = some cell) : tbl.limiters.lookup key = some cell.bucket := by
  rw [views.limiters, known, Option.bind_some, there, Option.map_some]

theorem Views.set (views : Views racing tbl) (known : racing.limiters.lookup key = some limiter)
    (there : racing.cells[limiter]? = some cell) {changed : Cell} (same : changed.key = cell.key)
    (still : changed.published = cell.published) :
    Views { racing with cells := racing.cells.set limiter changed } (tbl.setLimiter key changed.bucket) where
  limiters := by
    intro other
    show (tbl.limiters.insert key changed.bucket).lookup other = _
    rw [FiniteMap.lookup_insert]
    split
    next own =>
      rw [own, known, Option.bind_some, getElem?_set_of_found there, if_pos rfl, Option.map_some]
    next apart =>
      rw [views.limiters other]
      cases found : racing.limiters.lookup other with
      | none => rfl
      | some place =>
        have elsewhere : place ≠ limiter := by
          rintro rfl
          obtain ⟨_, here, named, -⟩ := views.mapped other place found
          obtain ⟨_, here', named', -⟩ := views.mapped key place known
          cases here.symm.trans here'
          exact apart (named.symm.trans named')
        rw [Option.bind_some, Option.bind_some, getElem?_set_of_found there, if_neg elsewhere]
  accesses := views.accesses
  mapped := fun other place found => (views.mapped other place found).keep (.set there same (fun on => still.trans on))

theorem Views.record (views : Views racing tbl) (key : String) (now : Time) :
    Views { racing with lastAccessTimestamps := racing.lastAccessTimestamps.insert key now }
      (tbl.updateLastAccess key now) where
  limiters := views.limiters
  accesses := congrArg (fun accesses => accesses.insert key now) views.accesses
  mapped := views.mapped

structure Settled (racing after : Racing) (key : String) (allowed : Bool) : Prop where
  clock : after.clock = racing.clock
  sweeper : after.sweeper = racing.sweeper
  granted : after.granted = if allowed then (key, racing.clock) :: racing.granted else racing.granted

theorem alone_of_asking (config : Config) (views : Views racing tbl)
    (known : racing.limiters.lookup key = some limiter) (there : racing.cells[limiter]? = some cell) :
    ∃ after, Alone config racing (.asking key limiter) after (.ok (config.policy.take cell.bucket racing.clock).1) ∧
      Settled racing after key (config.policy.take cell.bucket racing.clock).1 ∧
      Views after ⟨tbl.limiters.insert key (config.policy.take cell.bucket racing.clock).2,
        if (config.policy.take cell.bucket racing.clock).1 then tbl.lastAccessTimestamps.insert key racing.clock
        else tbl.lastAccessTimestamps⟩ := by
  have changed := @Views.set _ _ _ _ _ views known there (cell.allow config racing.clock).2 rfl rfl
  cases answer : (config.policy.take cell.bucket racing.clock).1 with
  | true =>
    have taken : racing.perform config (.taking key limiter racing.clock) = some ({ racing with
        cells := racing.cells.set limiter (cell.allow config racing.clock).2
        granted := (key, racing.clock) :: racing.granted }, .granted key) := by
      have allowed : (cell.allow config racing.clock).1 = true := answer
      simp only [Racing.perform, there, allowed, if_true]
    have recorded := changed.record key racing.clock
    exact ⟨_, .perform rfl (.perform taken (.perform rfl (.perform rfl (.returned _ _)))), ⟨rfl, rfl, rfl⟩,
      recorded.limiters, recorded.accesses, recorded.mapped⟩
  | false =>
    have taken : racing.perform config (.taking key limiter racing.clock) = some ({ racing with
        cells := racing.cells.set limiter (cell.allow config racing.clock).2 }, .returned (.ok false)) := by
      have denied : (cell.allow config racing.clock).1 = false := answer
      simp only [Racing.perform, there, denied, Bool.false_eq_true, if_false]
    exact ⟨_, .perform rfl (.perform taken (.returned _ _)), ⟨rfl, rfl, rfl⟩, changed.limiters, changed.accesses,
      changed.mapped⟩

theorem Views.make (config : Config) (views : Views racing tbl) :
    Views { racing with
      limiters := racing.limiters.insert key racing.cells.length
      cells := (racing.cells ++ [Cell.new config key]).modify racing.cells.length Cell.publish }
      ⟨tbl.limiters.insert key config.policy.full, tbl.lastAccessTimestamps⟩ := by
  have cells : (racing.cells ++ [Cell.new config key]).modify racing.cells.length Cell.publish =
      racing.cells ++ [(Cell.new config key).publish] := by
    simp [List.modify_eq_set_getElem?]
  rw [cells]
  constructor
  · intro other
    simp only [FiniteMap.lookup_insert]
    split
    next =>
      rw [Option.bind_some, List.getElem?_concat_length, Option.map_some]
      rfl
    next =>
      rw [views.limiters other]
      cases found : racing.limiters.lookup other with
      | none => rfl
      | some place =>
        obtain ⟨cell, there, -⟩ := views.mapped other place found
        rw [Option.bind_some, Option.bind_some, there, getElem?_append_of_found there]
  · exact views.accesses
  · intro other place found
    simp only [FiniteMap.lookup_insert] at found
    split at found
    next own =>
      cases found
      exact ⟨_, List.getElem?_concat_length, own.symm, rfl⟩
    next => exact (views.mapped other place found).keep (.append _ _)

/-- A call that no other call interrupts does what `Allow` does one call after the other. -/
theorem allow_alone (config : Config) (views : Views racing tbl) (named : key ≠ "") :
    ∃ after, Alone config racing (.loading key) after (tbl.allow config key racing.clock racing.clock).1 ∧
      Settled racing after key (config.policy.take (tbl.bucket config key) racing.clock).1 ∧
      Views after (tbl.allow config key racing.clock racing.clock).2 := by
  rw [allow_eq config tbl named]
  cases known : racing.limiters.lookup key with
  | some limiter =>
    obtain ⟨cell, there, -⟩ := views.mapped key limiter known
    have bucket : tbl.bucket config key = cell.bucket := by
      rw [TokenBucketLimiter.bucket, views.found known there, Option.getD_some]
    obtain ⟨after, alone, settled, viewed⟩ := alone_of_asking config views known there
    have loaded : racing.perform config (.loading key) = some (racing, .asking key limiter) := by
      simp only [Racing.perform, known]
    rw [bucket]
    exact ⟨after, .perform loaded alone, settled, viewed⟩
  | none =>
    have bucket : tbl.bucket config key = config.policy.full := by
      rw [TokenBucketLimiter.bucket, views.limiters, known, Option.bind_none, Option.getD_none]
    let made : Racing := { racing with cells := racing.cells ++ [.new config key] }
    let stored : Racing := { racing with
      limiters := racing.limiters.insert key racing.cells.length
      cells := (racing.cells ++ [Cell.new config key]).modify racing.cells.length Cell.publish }
    have views' : Views stored ⟨tbl.limiters.insert key config.policy.full, tbl.lastAccessTimestamps⟩ :=
      views.make config
    have found : stored.limiters.lookup key = some racing.cells.length := Finmap.lookup_insert _
    have there : stored.cells[racing.cells.length]? = some (Cell.new config key).publish := by
      simp [stored]
    have loaded : racing.perform config (.loading key) = some (made, .storing key racing.cells.length) := by
      simp only [Racing.perform, known, made]
    have put : made.perform config (.storing key racing.cells.length) =
        some (stored, .asking key racing.cells.length) := by
      simp only [Racing.perform, made, known, stored]
    obtain ⟨after, alone, settled, viewed⟩ := alone_of_asking config views' found there
    dsimp only at viewed
    rw [Finmap.insert_insert] at viewed
    rw [bucket]
    exact ⟨after, .perform loaded (.perform put alone), ⟨settled.clock, settled.sweeper, settled.granted⟩, viewed⟩

end Alone

end EventGateway.RateLimit
