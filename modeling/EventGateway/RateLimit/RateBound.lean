import EventGateway.RateLimit.RacingBound

/-! What a key is granted in any interval if its calls overlap neither each other nor a sweep. The bucket that the map
has for a key is compared with one that is never forgotten; where the two part depends on where the call of the key is. -/

namespace EventGateway.RateLimit
open Lib Lib.Calls Lib.TokenBucket TokenBucketLimiter

def AllowAt.key : AllowAt → Option String
  | .loading key | .storing key _ | .asking key _ | .taking key _ _ | .granted key | .recording key _ => some key
  | .returned _ => none

def Racing.underWay (racing : Racing) (key : String) : List AllowAt :=
  racing.calls.filter (fun call => call.key = some key)

def SweeperAt.collected : SweeperAt → List String
  | .ranging _ keys | .deleting keys => keys
  | .forgetting key keys => key :: keys
  | .waiting | .ended => []

/-- A call of a key overlaps no other call of the key, and not the time from the collection of the key by a sweep to the
end of its deletion. -/
def Apart (racing : Racing) : RacingStep → Prop
  | .allow key => racing.underWay key = [] ∧ key ∉ racing.sweeper.collected
  | .inspect key => racing.underWay key = []
  | _ => True

instance (racing : Racing) (label : RacingStep) : Decidable (Apart racing label) :=
  match label with
  | .allow key => inferInstanceAs (Decidable (racing.underWay key = [] ∧ key ∉ racing.sweeper.collected))
  | .inspect key => inferInstanceAs (Decidable (racing.underWay key = []))
  | .advance _ | .stop | .advanceStop _ | .tick _ | .sweep | .ranged | .delete | .leave =>
    inferInstanceAs (Decidable True)

/-- Every key is granted at most the burst and what it gains, in every interval. Both sides are counted in
nanoseconds of a second. -/
def RateBounded (config : Config) (granted : List (String × Time)) : Prop :=
  ∀ key (start length : Time), 0 ≤ length →
    grantsWithin start (start + length) (timesOf key granted) * second ≤
      config.burstSize * second + config.requestsPerSecond * length

def Racing.bucket (config : Config) (racing : Racing) (key : String) : Bucket Int :=
  match (racing.limiters.lookup key).bind (fun limiter => racing.cells[limiter]?) with
  | some cell => cell.bucket
  | none => config.policy.full

def readAt (clock : Time) : Option AllowAt → Time
  | some (.taking _ _ now) => now
  | _ => clock

def Knows (config : Config) (racing : Racing) (key : String) : Option AllowAt → Prop
  | some (.storing _ newLimiter) => racing.limiters.lookup key = none ∧
      ∃ cell, racing.cells[newLimiter]? = some cell ∧ cell.key = key ∧ cell.bucket = config.policy.full
  | some (.asking _ limiter) | some (.taking _ limiter _) => racing.limiters.lookup key = some limiter
  | _ => True

/-- The recorded access is no earlier than the last payment, if there was one. A call that has paid has still to record
it. -/
def Covered (config : Config) (racing : Racing) (key : String) : Option AllowAt → Prop
  | some (.granted _) => 0 ≤ (racing.bucket config key).tokens ∧ (racing.bucket config key).last ≤ racing.clock
  | some (.recording _ now) => 0 ≤ (racing.bucket config key).tokens ∧ (racing.bucket config key).last ≤ now
  | _ => ∀ last, racing.lastAccessTimestamps.lookup key = some last → racing.bucket config key = config.policy.full ∨
      0 ≤ (racing.bucket config key).tokens ∧ (racing.bucket config key).last ≤ last

/-- The limiter as the only call of a key that is under way finds it, if there is one. Its bucket is on the track of one
that has paid for every grant. -/
structure Lane (config : Config) (racing : Racing) (key : String) (under : Option AllowAt) (ideal : Bucket Int) :
    Prop where
  only : racing.underWay key = under.toList
  knows : Knows config racing key under
  past : readAt racing.clock under ≤ racing.clock
  same : config.policy.Same (readAt racing.clock under) (racing.bucket config key) ideal
  covered : Covered config racing key under
  paid : Paid config.policy ideal (timesOf key racing.granted) (readAt racing.clock under)
  bounded : Bounded config.policy (timesOf key racing.granted)

def Released (config : Config) (racing : Racing) (key : String) (under : Option AllowAt) (ideal : Bucket Int) : Prop :=
  key ∈ racing.sweeper.collected → under = none ∧ config.policy.Same racing.clock config.policy.full ideal

def SweeperAt.Begun (clock : Time) : SweeperAt → Prop
  | .ranging now _ => now ≤ clock
  | _ => True

structure Lanes (config : Config) (racing : Racing) : Prop where
  lane : ∀ key, ∃ under ideal, Lane config racing key under ideal ∧ Released config racing key under ideal
  begun : racing.sweeper.Begun racing.clock

section Bound
variable {config : Config} {racing after : Racing} {key : String} {under : Option AllowAt} {ideal : Bucket Int}

theorem bucket_found {limiter : Nat} {cell : Cell} (known : racing.limiters.lookup key = some limiter)
    (there : racing.cells[limiter]? = some cell) : racing.bucket config key = cell.bucket := by
  simp only [Racing.bucket, known, Option.bind_some, there]

theorem bucket_missing (missing : racing.limiters.lookup key = none) :
    racing.bucket config key = config.policy.full := by
  simp only [Racing.bucket, missing, Option.bind_none]

theorem paid_take {policy : Policy Int} {bucket : Bucket Int} {times : List Time} {now spent : Time}
    (paid : Paid policy bucket times now) (late : now ≤ spent) {allowed : Bool}
    (answered : (policy.take bucket spent).1 = allowed) :
    Paid policy (policy.take bucket spent).2 (if allowed then spent :: times else times) spent := by
  cases allowed with
  | true => exact (paid.after late).take answered
  | false =>
    rw [policy.take_unpaid bucket spent answered]
    exact paid.after late

structure Untouched (racing after : Racing) (key : String) : Prop where
  calls : after.underWay key = racing.underWay key
  limiter : after.limiters.lookup key = racing.limiters.lookup key
  cells : ∀ (limiter : Nat) (cell : Cell), racing.cells[limiter]? = some cell → cell.key = key →
    after.cells[limiter]? = some cell
  access : after.lastAccessTimestamps.lookup key = racing.lastAccessTimestamps.lookup key
  clock : after.clock = racing.clock
  granted : timesOf key after.granted = timesOf key racing.granted

theorem Untouched.bucket (untouched : Untouched racing after key) (sound : Sound config racing) :
    after.bucket config key = racing.bucket config key := by
  cases known : racing.limiters.lookup key with
  | none => rw [bucket_missing known, bucket_missing (untouched.limiter.trans known)]
  | some limiter =>
    obtain ⟨cell, there, named, -⟩ := sound.mapped key limiter known
    rw [bucket_found known there,
      bucket_found (untouched.limiter.trans known) (untouched.cells limiter cell there named)]

theorem Lane.untouched (lane : Lane config racing key under ideal) (sound : Sound config racing)
    (untouched : Untouched racing after key) : Lane config after key under ideal := by
  have bucket := untouched.bucket sound
  obtain ⟨only, knows, past, same, covered, paid, bounded⟩ := lane
  rw [← untouched.clock] at past same paid
  rw [← untouched.granted] at paid bounded
  rw [← bucket] at same
  refine ⟨untouched.calls.trans only, ?_, past, same, ?_, paid, bounded⟩
  · unfold Knows at knows ⊢
    rw [untouched.limiter]
    split at knows
    next newLimiter =>
      obtain ⟨missing, cell, there, named, fresh⟩ := knows
      exact ⟨missing, cell, untouched.cells newLimiter cell there named, named, fresh⟩
    next => exact knows
    next => exact knows
    next => trivial
  · unfold Covered at covered ⊢
    rw [bucket, untouched.clock, untouched.access]
    exact covered

theorem readAt_mono (under : Option AllowAt) {clock later : Time} (late : clock ≤ later) :
    readAt clock under ≤ readAt later under := by
  unfold readAt
  split
  next => exact le_rfl
  next => exact late

theorem Lane.tick (lane : Lane config racing key under ideal) {now : Time} (late : racing.clock ≤ now) :
    Lane config { racing with clock := now } key under ideal := by
  obtain ⟨only, knows, past, same, covered, paid, bounded⟩ := lane
  have later := readAt_mono under late
  refine ⟨only, knows, ?_, same.after later, ?_, paid.after later, bounded⟩
  · show readAt now under ≤ now
    unfold readAt at past ⊢
    split
    next => exact past.trans late
    next => exact le_rfl
  · unfold Covered at covered ⊢
    split at covered
    next => exact ⟨covered.1, covered.2.trans late⟩
    next => exact covered
    next => exact covered

def AllowAt.live : AllowAt → Option AllowAt
  | .returned _ => none
  | call => some call

section Advance
variable {index : Nat} {call next : AllowAt}

theorem AllowMove.key_eq (moved : AllowMove config racing call after next) :
    ∃ own, call.key = some own ∧ ∀ other, next.key = some other → other = own := by
  cases moved with
  | deny | record => exact ⟨_, rfl, fun _ none => (by cases none)⟩
  | load | make | lose | store | ask | grant | stamp => exact ⟨_, rfl, fun _ same => (Option.some.inj same).symm⟩

theorem AllowMove.untouched (moved : AllowMove config racing call after next) (sound : Sound config racing)
    (found : racing.calls[index]? = some call) (apart : call.key ≠ some key) :
    Untouched racing { after with calls := racing.calls.set index next } key := by
  have calls : (racing.calls.set index next).filter (fun other => other.key = some key) = racing.underWay key := by
    obtain ⟨own, known, kept⟩ := moved.key_eq
    have still : next.key ≠ some key := fun same => apart (kept key same ▸ known)
    obtain ⟨before, later, whole, changed⟩ :=
      @filter_set_of_found _ _ _ _ next (fun other : AllowAt => other.key = some key) found
    rw [changed, Racing.underWay, whole]
    simp [apart, still]
  have holds := sound.holding call (List.mem_of_getElem? found)
  cases moved with
  | load | lose | ask | stamp => exact ⟨calls, rfl, fun _ _ there _ => there, rfl, rfl, rfl⟩
  | make own missing => exact ⟨calls, rfl, fun _ _ there _ => getElem?_append_of_found there, rfl, rfl, rfl⟩
  | store own newLimiter missing =>
    obtain ⟨made, here, named⟩ := holds
    refine ⟨calls, Finmap.lookup_insert_of_ne _ (fun same => apart (same ▸ rfl)), ?_, rfl, rfl, rfl⟩
    intro limiter cell there other
    have elsewhere : newLimiter ≠ limiter := by
      rintro rfl
      cases here.symm.trans there
      exact apart (congrArg some (named.symm.trans other))
    simpa [List.getElem?_modify, elsewhere] using there
  | grant own limiter now taken here allowed =>
    obtain ⟨held, place, named, -⟩ := holds
    cases here.symm.trans place
    refine ⟨calls, rfl, ?_, rfl, rfl, ?_⟩
    · intro other cell there same
      have elsewhere : other ≠ limiter := by
        rintro rfl
        cases here.symm.trans there
        exact apart (congrArg some (named.symm.trans same))
      simpa only [getElem?_set_of_found here, if_neg elsewhere] using there
    · exact (timesOf_cons own key now racing.granted).trans (if_neg (fun same => apart (congrArg some same.symm)))
  | deny own limiter now taken here denied =>
    rw [Cell.allow_denied denied, set_of_found here]
    exact ⟨calls, rfl, fun _ _ there _ => there, rfl, rfl, rfl⟩
  | record own now =>
    exact ⟨calls, rfl, fun _ _ there _ => there, Finmap.lookup_insert_of_ne _ (fun same => apart (congrArg some same.symm)),
      rfl, rfl⟩

theorem Lane.only_set (lane : Lane config racing key under ideal) (moved : AllowMove config racing call after next)
    (found : racing.calls[index]? = some call) (own : call.key = some key) :
    under = some call ∧ (racing.calls.set index next).filter (fun other => other.key = some key) = next.live.toList := by
  obtain ⟨before, later, whole, changed⟩ :=
    @filter_set_of_found _ _ _ _ next (fun other : AllowAt => other.key = some key) found
  have single : under.toList = before ++ [call] ++ later := by
    rw [← lane.only, Racing.underWay, whole]
    simp [own]
  cases under with
  | none => simp at single
  | some sole =>
    have alone : before = [] ∧ sole = call ∧ later = [] := by
      cases before with
      | nil => simpa using single
      | cons first rest => simp at single
    obtain ⟨rfl, rfl, rfl⟩ := alone
    refine ⟨rfl, ?_⟩
    rw [changed]
    cases moved with
    | deny | record => rfl
    | load | make | lose | store | ask | grant | stamp =>
      cases own
      simp [AllowAt.live, AllowAt.key]

theorem Lane.advance (lane : Lane config racing key (some call) ideal) (positive : 0 ≤ config.policy.capacity)
    (moved : AllowMove config racing call after next) (found : racing.calls[index]? = some call) (own : call.key = some key) :
    ∃ ideal, Lane config { after with calls := racing.calls.set index next } key next.live ideal := by
  have only := (lane.only_set moved found own).2
  obtain ⟨-, knows, past, same, covered, paid, bounded⟩ := lane
  cases moved with
  | load _ limiter known =>
    cases own
    exact ⟨ideal, only, known, past, same, covered, paid, bounded⟩
  | make _ missing =>
    cases own
    rw [bucket_missing missing] at same
    refine ⟨ideal, only, ⟨missing, _, List.getElem?_concat_length, rfl, rfl⟩, past, ?_,
      fun _ _ => .inl (bucket_missing missing), paid, bounded⟩
    rw [bucket_missing]
    · exact same
    · exact missing
  | lose _ newLimiter actual known =>
    cases own
    cases knows.1.symm.trans known
  | store _ newLimiter missing =>
    cases own
    obtain ⟨-, cell, there, -, fresh⟩ := knows
    have stored (later : Racing) (limiters : later.limiters = racing.limiters.insert key newLimiter)
        (cells : later.cells = racing.cells.modify newLimiter Cell.publish) :
        later.bucket config key = config.policy.full := by
      have published : later.cells[newLimiter]? = some cell.publish := by simp [cells, there]
      exact (bucket_found (limiters ▸ Finmap.lookup_insert _) published).trans fresh
    rw [bucket_missing missing] at same
    refine ⟨ideal, only, Finmap.lookup_insert _, past, ?_, fun _ _ => .inl (stored _ rfl rfl), paid, bounded⟩
    rw [stored]
    · exact same
    · rfl
    · rfl
  | ask _ limiter =>
    cases own
    exact ⟨ideal, only, knows, past, same, covered, paid, bounded⟩
  | grant _ limiter now cell there granted =>
    cases own
    have before : racing.bucket config key = cell.bucket := bucket_found knows there
    have changed : Racing.bucket config { racing with
        cells := racing.cells.set limiter (cell.allow config now).2
        granted := (key, now) :: racing.granted
        calls := racing.calls.set index (.granted key) } key = (cell.allow config now).2.bucket :=
      bucket_found knows (by rw [getElem?_set_of_found there, if_pos rfl])
    rw [before] at same
    obtain ⟨answer, track⟩ := same.take
    have taken : (config.policy.take ideal now).1 = true := answer.symm.trans granted
    have spent := paid_take paid le_rfl taken
    have times : timesOf key ((key, now) :: racing.granted) = now :: timesOf key racing.granted :=
      (timesOf_cons key key now racing.granted).trans (if_pos rfl)
    refine ⟨(config.policy.take ideal now).2, only, trivial, le_rfl, ?_, ?_, ?_, ?_⟩
    · rw [changed]
      exact track.after past
    · show 0 ≤ (Racing.bucket config _ key).tokens ∧ (Racing.bucket config _ key).last ≤ racing.clock
      rw [changed, Cell.allow, Policy.take, if_pos (config.policy.affordable granted)]
      exact ⟨sub_nonneg.mpr (config.policy.affordable granted), past⟩
    · rw [times]
      exact spent.after past
    · rw [times]
      exact bounded.cons positive spent
  | deny _ limiter now cell there denied =>
    cases own
    have before : racing.bucket config key = cell.bucket := bucket_found knows there
    have changed : Racing.bucket config { racing with
        cells := racing.cells.set limiter (cell.allow config now).2
        calls := racing.calls.set index (.returned (.ok false)) } key = racing.bucket config key := by
      rw [before, Cell.allow_denied denied]
      exact bucket_found knows (by rw [getElem?_set_of_found there, if_pos rfl])
    refine ⟨ideal, only, trivial, le_rfl, ?_, ?_, paid.after past, bounded⟩
    · rw [changed]
      exact same.after past
    · show ∀ last, _ → _
      rw [changed]
      exact covered
  | stamp _ =>
    cases own
    exact ⟨ideal, only, trivial, past, same, covered, paid, bounded⟩
  | record _ now =>
    cases own
    refine ⟨ideal, only, trivial, past, same, ?_, paid, bounded⟩
    intro last found
    cases (Finmap.lookup_insert racing.lastAccessTimestamps).symm.trans found
    exact .inr covered

end Advance

theorem Lanes.untouched (lanes : Lanes config racing) (sound : Sound config racing)
    (untouched : ∀ key, Untouched racing after key) (collected : after.sweeper.collected ⊆ racing.sweeper.collected)
    (begun : after.sweeper.Begun after.clock) : Lanes config after where
  lane := by
    intro key
    obtain ⟨under, ideal, lane, released⟩ := lanes.lane key
    refine ⟨under, ideal, lane.untouched sound (untouched key), fun member => ?_⟩
    rw [(untouched key).clock]
    exact released (collected member)
  begun := begun

theorem Lane.none_of_free (lane : Lane config racing key under ideal) (free : racing.underWay key = []) :
    under = none := by
  cases under with
  | none => rfl
  | some sole => cases free.symm.trans lane.only

theorem Lanes.allow (lanes : Lanes config racing) (sound : Sound config racing) (named : key ≠ "")
    (apart : Apart racing (.allow key)) : Lanes config (racing.begin (.loading key)) where
  lane := by
    intro other
    obtain ⟨under, ideal, lane, released⟩ := lanes.lane other
    by_cases own : other = key
    · subst own
      obtain rfl := lane.none_of_free apart.1
      refine ⟨some (.loading other), ideal, ⟨?_, trivial, le_rfl, lane.same, lane.covered, lane.paid, lane.bounded⟩, ?_⟩
      · have before : racing.calls.filter (fun call => call.key = some other) = [] := lane.only
        simp only [Racing.underWay, Racing.begin, List.filter_append, before]
        simp [AllowAt.key]
      · exact fun member => absurd member apart.2
    · refine ⟨under, ideal, lane.untouched sound ⟨?_, rfl, fun _ _ there _ => there, rfl, rfl, rfl⟩, released⟩
      have elsewhere : key ≠ other := Ne.symm own
      simp [Racing.underWay, Racing.begin, List.filter_append, AllowAt.key, elsewhere]
  begun := lanes.begun

theorem Lanes.advance {index : Nat} {call next : AllowAt} (lanes : Lanes config racing) (sound : Sound config racing)
    (positive : 0 ≤ config.policy.capacity) (found : racing.calls[index]? = some call)
    (moved : AllowMove config racing call after next) :
    Lanes config { after with calls := racing.calls.set index next } := by
  obtain ⟨clock, sweeper⟩ := moved.kept
  constructor
  · intro key
    obtain ⟨under, ideal, lane, released⟩ := lanes.lane key
    by_cases own : call.key = some key
    · obtain ⟨rfl, -⟩ := lane.only_set moved found own
      obtain ⟨ideal, lane⟩ := lane.advance positive moved found own
      refine ⟨next.live, ideal, lane, fun member => ?_⟩
      have collected : key ∈ racing.sweeper.collected := sweeper ▸ member
      cases (released collected).1
    · refine ⟨under, ideal, lane.untouched sound (moved.untouched sound found own), ?_⟩
      show key ∈ after.sweeper.collected → _ ∧ config.policy.Same after.clock _ _
      rw [sweeper, clock]
      exact released
  · show after.sweeper.Begun after.clock
    rw [sweeper, clock]
    exact lanes.begun

theorem SweeperAt.Begun.later {sweeper : SweeperAt} {clock time : Time} (begun : sweeper.Begun clock)
    (late : clock ≤ time) : sweeper.Begun time := by
  cases sweeper with
  | ranging now keys => exact le_trans begun late
  | waiting | deleting | forgetting | ended => trivial

theorem Lanes.tick (lanes : Lanes config racing) {now : Time} (late : racing.clock ≤ now) :
    Lanes config { racing with clock := now } where
  lane := by
    intro key
    obtain ⟨under, ideal, lane, released⟩ := lanes.lane key
    exact ⟨under, ideal, lane.tick late, fun member => ⟨(released member).1, (released member).2.after late⟩⟩
  begun := SweeperAt.Begun.later lanes.begun late

/-- A key that is collected had its last access too long ago, so that its bucket is full. -/
theorem Lanes.collect (lanes : Lanes config racing) (sound : Sound config racing)
    (refills : config.Refills ∨ config.NeverStale) (free : racing.underWay key = []) {now last : Time}
    {keys : List String} (ranging : racing.sweeper = .ranging now keys)
    (known : racing.lastAccessTimestamps.lookup key = some last) (old : config.staleThreshold < since now last) :
    Lanes config { racing with sweeper := .ranging now (keys ++ [key]) } := by
  have begun : now ≤ racing.clock := by
    have begun := lanes.begun
    rwa [ranging] at begun
  refine ⟨fun other => ?_, begun⟩
  obtain ⟨under, ideal, lane, released⟩ := lanes.lane other
  refine ⟨under, ideal, lane.untouched sound ⟨rfl, rfl, fun _ _ there _ => there, rfl, rfl, rfl⟩, fun member => ?_⟩
  rcases List.mem_append.mp member with before | new
  · apply released
    rw [ranging]
    exact before
  · cases List.mem_singleton.mp new
    obtain rfl := lane.none_of_free free
    refine ⟨rfl, fun time late => ?_⟩
    rw [← lane.same time late, config.policy.level_full]
    exact (level_of_stale refills (lane.covered last known) old (begun.trans late)).symm

theorem Lanes.delete (lanes : Lanes config racing) (sound : Sound config racing) {keys deleted : List String}
    (deleting : racing.sweeper = .deleting (key :: keys)) :
    Lanes config { racing with
      limiters := racing.limiters.erase key, deleted := deleted, sweeper := .forgetting key keys } := by
  refine ⟨fun other => ?_, trivial⟩
  obtain ⟨under, ideal, lane, released⟩ := lanes.lane other
  rw [Released, deleting] at released
  refine ⟨under, ideal, ?_, released⟩
  by_cases own : other = key
  · subst own
    obtain ⟨rfl, full⟩ := released List.mem_cons_self
    refine ⟨lane.only, trivial, le_rfl, ?_, fun _ _ => .inl (bucket_missing (Finmap.lookup_erase other _)), lane.paid,
      lane.bounded⟩
    rw [bucket_missing]
    · exact full
    · exact Finmap.lookup_erase other _
  · exact lane.untouched sound ⟨rfl, Finmap.lookup_erase_ne own, fun _ _ there _ => there, rfl, rfl, rfl⟩

theorem Lanes.forget (lanes : Lanes config racing) (sound : Sound config racing) {keys : List String}
    (forgetting : racing.sweeper = .forgetting key keys) :
    Lanes config { racing with
      lastAccessTimestamps := racing.lastAccessTimestamps.erase key, sweeper := .deleting keys } := by
  refine ⟨fun other => ?_, trivial⟩
  obtain ⟨under, ideal, lane, released⟩ := lanes.lane other
  rw [Released, forgetting] at released
  refine ⟨under, ideal, ?_, fun member => released (List.mem_cons_of_mem _ member)⟩
  by_cases own : other = key
  · subst own
    obtain ⟨rfl, -⟩ := released List.mem_cons_self
    refine ⟨lane.only, trivial, le_rfl, lane.same, fun last found => ?_, lane.paid, lane.bounded⟩
    cases (Finmap.lookup_erase other _).symm.trans found
  · exact lane.untouched sound ⟨rfl, rfl, fun _ _ there _ => there, Finmap.lookup_erase_ne own, rfl, rfl⟩

theorem Lanes.step {label : RacingStep} (lanes : Lanes config racing) (sound : Sound config racing)
    (positive : 0 ≤ config.policy.capacity) (refills : config.Refills ∨ config.NeverStale) (apart : Apart racing label)
    (stepped : racing.step config label = some after) : Lanes config after := by
  have same (key : String) : Untouched racing racing key := ⟨rfl, rfl, fun _ _ there _ => there, rfl, rfl, rfl⟩
  cases label with
  | allow key =>
    cases stepped
    split
    next =>
      refine lanes.untouched sound (fun key => ⟨?_, rfl, fun _ _ there _ => there, rfl, rfl, rfl⟩) (fun _ => id) lanes.begun
      simp [Racing.underWay, Racing.begin, List.filter_append, AllowAt.key]
    next named => exact lanes.allow sound named apart
  | advance index =>
    obtain ⟨call, found, rest⟩ := Option.bind_eq_some_iff.mp stepped
    obtain ⟨⟨moved, next⟩, performed, done⟩ := Option.bind_eq_some_iff.mp rest
    cases done
    exact lanes.advance sound positive found (perform_cases performed)
  | stop =>
    cases stepped
    exact lanes.untouched sound (fun key => ⟨rfl, rfl, (same key).cells, rfl, rfl, rfl⟩) (fun _ => id) lanes.begun
  | advanceStop index =>
    obtain ⟨call, found, rest⟩ := Option.bind_eq_some_iff.mp stepped
    obtain ⟨⟨moved, next⟩, performed, done⟩ := Option.bind_eq_some_iff.mp rest
    cases done
    cases call with
    | locking | closing =>
      simp only [Racing.performStop] at performed
      split at performed
      all_goals
        cases performed
        exact lanes.untouched sound (fun key => ⟨rfl, rfl, (same key).cells, rfl, rfl, rfl⟩) (fun _ => id) lanes.begun
    | returned => cases performed
  | tick now =>
    simp only [Racing.step] at stepped
    split at stepped
    next late =>
      cases stepped
      exact lanes.tick late
    next => cases stepped
  | sweep =>
    simp only [Racing.step, Racing.sweep] at stepped
    split at stepped
    next =>
      cases stepped
      exact lanes.untouched sound (fun key => ⟨rfl, rfl, (same key).cells, rfl, rfl, rfl⟩) (fun _ member => by cases member)
        le_rfl
    next => cases stepped
  | inspect key =>
    simp only [Racing.step, Racing.sweep] at stepped
    split at stepped
    next now keys last ranging known =>
      split at stepped
      next old =>
        cases stepped
        exact lanes.collect sound refills apart ranging known old
      next =>
        cases stepped
        exact lanes
    next => cases stepped
  | ranged =>
    simp only [Racing.step, Racing.sweep] at stepped
    split at stepped
    next now keys ranging =>
      cases stepped
      refine lanes.untouched sound (fun key => ⟨rfl, rfl, (same key).cells, rfl, rfl, rfl⟩) ?_ trivial
      rw [ranging]
      exact fun _ => id
    next => cases stepped
  | delete =>
    simp only [Racing.step, Racing.sweep] at stepped
    split at stepped
    next =>
      cases stepped
      exact lanes.untouched sound (fun key => ⟨rfl, rfl, (same key).cells, rfl, rfl, rfl⟩) (fun _ member => by cases member)
        trivial
    next key keys deleting =>
      cases stepped
      exact lanes.delete sound deleting
    next key keys forgetting =>
      cases stepped
      exact lanes.forget sound forgetting
    next => cases stepped
  | leave =>
    simp only [Racing.step, Racing.sweep] at stepped
    split at stepped
    next =>
      split at stepped
      next =>
        cases stepped
        exact lanes.untouched sound (fun key => ⟨rfl, rfl, (same key).cells, rfl, rfl, rfl⟩)
          (fun _ member => by cases member) trivial
      next => cases stepped
    next => cases stepped

theorem rateBounded_of_reaches (refills : config.Refills ∨ config.NeverStale) (burst : 0 ≤ config.burstSize)
    (reached : (racingMachine config).Reaches Apart racing) : RateBounded config racing.granted := by
  have positive : 0 ≤ config.policy.capacity := mul_nonneg burst (by decide)
  have lanes : Lanes config racing := by
    apply reached.invariant (Lanes config)
    · rintro _ ⟨clock, rfl⟩
      refine ⟨fun key => ⟨none, config.policy.full, ⟨rfl, trivial, le_rfl, Policy.Same.refl _, ?_,
        .full config.policy positive clock, .nil config.policy positive⟩, ?_⟩, trivial⟩
      · exact fun _ known => (by cases known)
      · exact fun member => (by cases member)
    · intro racing label after before lanes apart stepped
      exact lanes.step (sound_of_reachable positive before.reachable) positive refills apart stepped
  intro key start length span
  obtain ⟨under, ideal, lane, -⟩ := lanes.lane key
  have bound := lane.bounded start (start + length) (by lia)
  rwa [add_sub_cancel_left] at bound

end Bound

/-! ### A call on its own -/

def Racing.Wired (racing : Racing) : Prop :=
  ∀ key limiter, racing.limiters.lookup key = some limiter → AllowAt.Holds racing.cells (.asking key limiter)

theorem exists_views {racing : Racing} (wired : racing.Wired) : ∃ tbl, Views racing tbl := by
  obtain ⟨limiters, found⟩ := FiniteMap.exists_lookup_bind racing.limiters
    (fun limiter => racing.cells[limiter]?.map Cell.bucket)
  exact ⟨⟨limiters, racing.lastAccessTimestamps⟩, found, rfl, wired⟩

theorem Views.bucket {racing : Racing} {tbl : TokenBucketLimiter} (views : Views racing tbl) (config : Config)
    (key : String) : tbl.bucket config key = racing.bucket config key := by
  rw [TokenBucketLimiter.bucket, views.limiters]
  cases known : racing.limiters.lookup key with
  | none => rw [bucket_missing known, Option.bind_none, Option.getD_none]
  | some limiter =>
    obtain ⟨cell, there, -⟩ := views.mapped key limiter known
    rw [bucket_found known there, Option.bind_some, there]
    rfl

theorem granted_alone (config : Config) {racing : Racing} (wired : racing.Wired) {key : String} (named : key ≠ "")
    (affordable : (config.policy.take (racing.bucket config key) racing.clock).1 = true) :
    ∃ after, Alone config racing (.loading key) after (.ok true) := by
  obtain ⟨tbl, views⟩ := exists_views wired
  obtain ⟨after, alone, -⟩ := allow_alone config views named
  rw [TokenBucketLimiter.allow_eq config tbl named, views.bucket config key, affordable] at alone
  exact ⟨after, alone⟩

section Violation
variable {config : Config} {racing : Racing} {tbl : TokenBucketLimiter} {key : String}

theorem perform_calls (calls : List AllowAt) {after : Racing} {call next : AllowAt}
    (performed : racing.perform config call = some (after, next)) :
    Racing.perform config { racing with calls := calls } call = some ({ after with calls := calls }, next) := by
  cases perform_cases performed with
  | load key limiter known => simp only [Racing.perform, known]
  | make key missing => simp only [Racing.perform, missing]
  | lose key newLimiter actual known => simp only [Racing.perform, known]
  | store key newLimiter missing => simp only [Racing.perform, missing]
  | ask | stamp | record => rfl
  | grant key limiter now cell there granted => simp only [Racing.perform, there, granted, if_true]
  | deny key limiter now cell there denied => simp only [Racing.perform, there, denied, Bool.false_eq_true, if_false]

theorem reaches_of_alone {last : Racing} {call : AllowAt} {result : Except String Bool} {index : Nat}
    (alone : Alone config racing call last result) {calls : List AllowAt} (found : calls[index]? = some call)
    (reached : (racingMachine config).Reaches Apart { racing with calls := calls }) :
    (racingMachine config).Reaches Apart { last with calls := calls.set index (.returned result) } := by
  induction alone generalizing calls with
  | returned racing result => rwa [set_of_found found]
  | @perform racing after last call next result performed rest ih =>
    have stepped : (racingMachine config).step { racing with calls := calls } (.advance index) =
        some { after with calls := calls.set index next } := by
      show ((calls[index]?).bind fun call => _) = _
      simp only [found, Option.bind_some, perform_calls calls performed]
      rfl
    have moved := ih (by rw [getElem?_set_of_found found, if_pos rfl])
      (Machine.Reaches.next reached (show Apart _ (.advance index) from trivial) stepped)
    rwa [List.set_set] at moved

def Racing.Free (racing : Racing) (key : String) : Prop := Apart racing (.allow key)

theorem allow_granted (reached : (racingMachine config).Reaches Apart racing) (views : Views racing tbl)
    (named : key ≠ "") (free : racing.Free key)
    (affordable : config.policy.cost ≤ config.policy.level (tbl.bucket config key) racing.clock) :
    ∃ after, (racingMachine config).Reaches Apart after ∧ after.Free key ∧ after.clock = racing.clock ∧
      after.sweeper = racing.sweeper ∧ after.granted = (key, racing.clock) :: racing.granted ∧
      Views after ⟨tbl.limiters.insert key
        ⟨config.policy.level (tbl.bucket config key) racing.clock - second, racing.clock⟩,
        tbl.lastAccessTimestamps.insert key racing.clock⟩ := by
  have taken : config.policy.take (tbl.bucket config key) racing.clock =
      (true, ⟨config.policy.level (tbl.bucket config key) racing.clock - second, racing.clock⟩) := if_pos affordable
  obtain ⟨last, alone, settled, viewed⟩ := allow_alone config views named
  rw [allow_eq config tbl named, taken] at viewed alone
  rw [taken] at settled
  have begun : (racingMachine config).Reaches Apart (racing.begin (.loading key)) := by
    refine reached.next free ?_
    show some (racing.begin _) = _
    rw [if_neg named]
  refine ⟨_, reaches_of_alone alone List.getElem?_concat_length begun, ⟨?_, ?_⟩, settled.clock, settled.sweeper,
    settled.granted, viewed.limiters, viewed.accesses, viewed.mapped⟩
  · have before : racing.calls.filter (fun call => call.key = some key) = [] := free.1
    have ended : (racing.calls ++ [AllowAt.loading key]).set racing.calls.length (.returned (.ok true)) =
        racing.calls ++ [.returned (.ok true)] := by simp
    show ((racing.calls ++ [AllowAt.loading key]).set racing.calls.length _).filter _ = []
    rw [ended, List.filter_append, before]
    rfl
  · show key ∉ last.sweeper.collected
    rw [settled.sweeper]
    exact free.2

theorem burst_granted (named : key ≠ "") (count : Nat) {racing : Racing} {tbl : TokenBucketLimiter}
    (reached : (racingMachine config).Reaches Apart racing) (views : Views racing tbl) (free : racing.Free key)
    (enough : count * second ≤ config.policy.level (tbl.bucket config key) racing.clock) :
    ∃ after tbl', (racingMachine config).Reaches Apart after ∧ Views after tbl' ∧ after.Free key ∧
      after.clock = racing.clock ∧ after.sweeper = racing.sweeper ∧
      after.granted = List.replicate count (key, racing.clock) ++ racing.granted ∧
      tbl'.lastAccessTimestamps.lookup key =
        if count = 0 then tbl.lastAccessTimestamps.lookup key else some racing.clock := by
  induction count generalizing racing tbl with
  | zero => exact ⟨racing, tbl, reached, views, free, rfl, rfl, rfl, rfl⟩
  | succ count ih =>
    have level : (count : Int) * second + second ≤ config.policy.level (tbl.bucket config key) racing.clock := by
      push_cast at enough
      rw [add_mul, one_mul] at enough
      exact enough
    have affordable : config.policy.cost ≤ config.policy.level (tbl.bucket config key) racing.clock := by
      have before : (0 : Int) ≤ count * second := mul_nonneg (Int.natCast_nonneg count) (by decide)
      change second ≤ _
      linarith
    obtain ⟨next, reached, free, clock, sweeper, granted, views⟩ := allow_granted reached views named free affordable
    have left : (count : Int) * second ≤ config.policy.level (TokenBucketLimiter.bucket config
        ⟨tbl.limiters.insert key ⟨config.policy.level (tbl.bucket config key) racing.clock - second, racing.clock⟩,
          tbl.lastAccessTimestamps.insert key racing.clock⟩ key) next.clock := by
      have fits : config.policy.level (tbl.bucket config key) racing.clock - second ≤ config.policy.capacity := by
        have most := config.policy.level_le (tbl.bucket config key) racing.clock
        have positive : 0 < second := by decide
        linarith
      rw [Tracks.bucket_insert, Function.update_self, clock, config.policy.level_paid racing.clock fits]
      linarith
    obtain ⟨after, tbl', reached, views', free, clock', sweeper', granted', recorded⟩ := ih reached views free left
    refine ⟨after, tbl', reached, views', free, clock'.trans clock, sweeper'.trans sweeper, ?_, ?_⟩
    · rw [granted', granted, clock, List.replicate_succ', List.append_assoc]
      rfl
    · rw [recorded, if_neg (Nat.succ_ne_zero count), Finmap.lookup_insert, clock, ite_self]

/-- A sweep that starts when the last access to the key is stale forgets its bucket. -/
theorem sweep_forgets (reached : (racingMachine config).Reaches Apart racing) (views : Views racing tbl)
    (free : racing.Free key) (waiting : racing.sweeper = .waiting) {last : Time}
    (known : tbl.lastAccessTimestamps.lookup key = some last) (old : config.staleThreshold < since racing.clock last) :
    ∃ after tbl', (racingMachine config).Reaches Apart after ∧ Views after tbl' ∧ after.Free key ∧
      after.clock = racing.clock ∧ after.granted = racing.granted ∧ tbl'.limiters.lookup key = none := by
  have recorded : racing.lastAccessTimestamps.lookup key = some last := views.accesses ▸ known
  let ranging : Racing := { racing with sweeper := .ranging racing.clock [] }
  let collected : Racing := { racing with sweeper := .ranging racing.clock [key] }
  let deleting : Racing := { racing with sweeper := .deleting [key] }
  let forgetting : Racing := { racing with
    limiters := racing.limiters.erase key
    deleted := if (racing.limiters.lookup key).isSome then key :: racing.deleted else racing.deleted
    sweeper := .forgetting key [] }
  have start : racing.step config .sweep = some ranging := by
    simp only [Racing.step, Racing.sweep, waiting, ranging]
  have inspect : ranging.step config (.inspect key) = some collected := by
    simp only [Racing.step, Racing.sweep, ranging, recorded, if_pos old]
    rfl
  have reached₁ := Machine.Reaches.next reached (show Apart _ .sweep from trivial) start
  have reached₂ := Machine.Reaches.next reached₁ (show Apart ranging (.inspect key) from free.1) inspect
  have reached₃ := Machine.Reaches.next reached₂ (show Apart _ .ranged from trivial)
    (show collected.step config .ranged = some deleting from rfl)
  have reached₄ := Machine.Reaches.next reached₃ (show Apart _ .delete from trivial)
    (show deleting.step config .delete = some forgetting from rfl)
  have reached₅ := Machine.Reaches.next reached₄ (show Apart _ .delete from trivial) rfl
  refine ⟨_, ⟨tbl.limiters.erase key, tbl.lastAccessTimestamps.erase key⟩, reached₅, ⟨?_, ?_, ?_⟩, ⟨free.1, ?_⟩, rfl, rfl,
    Finmap.lookup_erase key _⟩
  · intro other
    show (tbl.limiters.erase key).lookup other = ((racing.limiters.erase key).lookup other).bind _
    rw [FiniteMap.lookup_erase, FiniteMap.lookup_erase, views.limiters]
    split
    next => rfl
    next => rfl
  · exact congrArg (fun accesses => accesses.erase key) views.accesses
  · intro other limiter found
    have before : (racing.limiters.erase key).lookup other = some limiter := found
    rw [FiniteMap.lookup_erase] at before
    split at before
    next => cases before
    next => exact views.mapped other limiter before
  · exact List.not_mem_nil

/-- If a bucket may be forgotten before it is full again, twice the burst is granted too fast. -/
theorem not_rateBounded (burst : 1 ≤ config.burstSize)
    (early : config.requestsPerSecond * (config.staleThreshold.toInt + 1) < config.burstSize * second)
    (stale : config.staleThreshold.toInt < 2 ^ 63 - 1) :
    ∃ racing, (racingMachine config).Reaches Apart racing ∧ ¬RateBounded config racing.granted := by
  obtain ⟨count, size⟩ := Int.eq_ofNat_of_zero_le (show 0 ≤ config.burstSize by omega)
  have present : count ≠ 0 := by
    rintro rfl
    omega
  have whole (tbl : TokenBucketLimiter) (absent : tbl.limiters.lookup "k" = none) (time : Time) :
      (count : Int) * second ≤ config.policy.level (tbl.bucket config "k") time := by
    rw [TokenBucketLimiter.bucket, absent, Option.getD_none, config.policy.level_full, ← size]
    exact le_rfl
  let time : Time := max 0 (config.staleThreshold.toInt + 1)
  have positive : 0 ≤ time := le_max_left _ _
  have fresh : Views (.new 0) .new := ⟨fun _ => rfl, rfl, fun _ _ known => by cases known⟩
  have free : (Racing.new 0).Free "k" := ⟨rfl, List.not_mem_nil⟩
  obtain ⟨first, tbl, reached, views, free, clock, sweeper, granted, recorded⟩ :=
    burst_granted (by decide) count (.start ⟨0, rfl⟩) fresh free (whole .new rfl 0)
  rw [if_neg present] at recorded
  have ticked : first.step config (.tick time) = some { first with clock := time } :=
    if_pos (clock.trans_le positive)
  have later := Machine.Reaches.next reached (show Apart _ (.tick time) from trivial) ticked
  have old : config.staleThreshold < since time 0 := by
    rw [lt_since]
    refine ⟨?_, stale⟩
    show config.staleThreshold.toInt < max 0 (config.staleThreshold.toInt + 1) - 0
    omega
  obtain ⟨swept, tbl', reached, views, free, clock', kept, absent⟩ :=
    sweep_forgets later ⟨views.limiters, views.accesses, views.mapped⟩ free sweeper recorded old
  obtain ⟨last, -, reached, -, -, -, -, granted', -⟩ :=
    burst_granted (by decide) count reached views free (whole tbl' absent swept.clock)
  refine ⟨last, reached, fun bounded => ?_⟩
  have bound := bounded "k" 0 time positive
  have history : last.granted = List.replicate count ("k", time) ++ List.replicate count ("k", 0) := by
    rw [granted', kept, clock', granted]
    exact congrArg _ (List.append_nil _)
  have twice : grantsWithin 0 (0 + time) (timesOf "k" last.granted) = 2 * count := by
    rw [history, grantsWithin, timesOf]
    simp [positive, two_mul, List.countP_replicate]
  have gain : config.requestsPerSecond * time < config.burstSize * second := by
    rcases max_choice 0 (config.staleThreshold.toInt + 1) with least | least
    · rw [show time = 0 from least, mul_zero]
      exact mul_pos (by omega) (by decide)
    · rw [show time = config.staleThreshold.toInt + 1 from least]
      exact early
  rw [twice] at bound
  push_cast at bound
  rw [size] at bound gain
  linarith

end Violation

/-- As long as calls of a key overlap neither each other nor the time from its collection to its deletion, the limiter
keeps its rate in every run exactly if a bucket that is forgotten is full. -/
theorem rate_bounded_iff (config : Config) (burst : 0 ≤ config.burstSize) :
    (∀ racing, (racingMachine config).Reaches Apart racing → RateBounded config racing.granted) ↔
      config.Refills ∨ config.NeverStale := by
  constructor
  · intro always
    by_contra forgets
    simp only [Config.Refills, Config.NeverStale, not_or, not_le] at forgets
    have bound := config.staleThreshold.toInt_lt
    obtain ⟨racing, reached, exceeded⟩ := not_rateBounded (by omega) forgets.1.2 (by omega)
    exact exceeded (always racing reached)
  · exact fun refills racing reached => rateBounded_of_reaches refills burst reached

theorem rate_bounded_onePerSecond : (0 ≤ onePerSecond.burstSize ∧ onePerSecond.Refills) ∧
    ∀ racing, (racingMachine onePerSecond).Reaches Apart racing → RateBounded onePerSecond racing.granted := by
  have refills : onePerSecond.Refills := .inr (by decide)
  exact ⟨⟨by decide, refills⟩, (rate_bounded_iff onePerSecond (by decide)).mpr (.inl refills)⟩

theorem exceeded_of_run {config : Config} (admits : Racing → RacingStep → Prop)
    [∀ racing label, Decidable (admits racing label)] (labels : List RacingStep) (granted : List (String × Time))
    (ran : ((racingMachine config).run admits (.new 0) labels).map (fun racing => decide (racing.granted = granted)) =
      some true) (exceeds : ¬RateBounded config granted) :
    ∃ racing, (racingMachine config).Reaches admits racing ∧ racing.granted = granted ∧
      ¬RateBounded config racing.granted := by
  obtain ⟨racing, reached, outcome⟩ := (racingMachine config).reaches_of_run admits (.new 0) labels _ ⟨0, rfl⟩ ran
  have ends := of_decide_eq_true outcome
  exact ⟨racing, reached, ends, ends ▸ exceeds⟩

/-- With a threshold of zero, a key gets two requests within a nanosecond. With one of a second it gets two at once,
if a call comes between its collection and its deletion. And with a burst of two it gets three at once, if a call that
has read the clock is overtaken by one ten seconds later. -/
theorem rate_exceeded :
    (∃ racing, (racingMachine ⟨1, 1, 0, by decide⟩).Reaches Apart racing ∧
      racing.granted = [("k", 1), ("k", 0)] ∧ ¬RateBounded ⟨1, 1, 0, by decide⟩ racing.granted) ∧
    (∃ racing, (racingMachine onePerSecond).Reachable racing ∧
      racing.granted = [("k", 1000000001), ("k", 1000000001), ("k", 0)] ∧
      ¬RateBounded onePerSecond racing.granted) ∧
    ∃ racing, (racingMachine ⟨1, 2, 2000000000, by decide⟩).Reaches (fun _ label => label ≠ .sweep) racing ∧
      racing.granted = [("k", 10 * second), ("k", 10 * second), ("k", 0), ("k", 10 * second)] ∧
      ¬RateBounded ⟨1, 2, 2000000000, by decide⟩ racing.granted := by
  refine ⟨?_, ?_, ?_⟩
  · apply exceeded_of_run Apart [.allow "k", .advance 0, .advance 0, .advance 0, .advance 0, .advance 0, .advance 0,
      .tick 1, .sweep, .inspect "k", .ranged, .delete, .delete, .allow "k", .advance 1, .advance 1, .advance 1,
      .advance 1]
    · decide +kernel
    · exact fun bounded => absurd (bounded "k" 0 1 (by decide)) (by decide)
  · apply exceeded_of_run (fun _ _ => True) [.allow "k", .advance 0, .advance 0, .advance 0, .advance 0, .advance 0,
      .advance 0, .tick 1000000001, .sweep, .inspect "k", .allow "k", .advance 1, .advance 1, .advance 1, .ranged, .delete,
      .allow "k", .advance 2, .advance 2, .advance 2, .advance 2]
    · decide +kernel
    · exact fun bounded => absurd (bounded "k" 1000000001 0 (by decide)) (by decide)
  · apply exceeded_of_run (fun _ label => label ≠ .sweep) [.allow "k", .allow "k", .advance 0, .advance 1, .advance 1,
      .advance 0, .advance 0, .tick (10 * second), .advance 1, .advance 1, .advance 0, .allow "k", .advance 2, .advance 2,
      .advance 2, .allow "k", .advance 3, .advance 3, .advance 3]
    · decide +kernel
    · exact fun bounded => absurd (bounded "k" (10 * second) 0 (by decide)) (by decide)

end EventGateway.RateLimit
