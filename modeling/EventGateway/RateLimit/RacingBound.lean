import EventGateway.RateLimit.Racing

/-! What a key is granted in any interval when calls race with each other and with the sweep. Every limiter that gets
into the map pays for its grants; a second one of the same key gets there only after the first was deleted. -/

namespace EventGateway.RateLimit
open Lib Lib.Calls Lib.TokenBucket TokenBucketLimiter

def timesOf (key : String) (granted : List (String × Time)) : List Time :=
  (granted.filter (fun grant => grant.1 = key)).map Prod.snd

def tally (key : String) (start finish : Time) (cells : List Cell) : Nat :=
  (cells.map (fun cell => if cell.key = key then grantsWithin start finish cell.granted else 0)).sum

def Cell.served (key : String) (cell : Cell) : Bool := cell.key = key ∧ cell.published

/-- By how much the limiters of a key were set back, by calls that were overtaken after they had read the clock. -/
def setback (key : String) (cells : List Cell) : Time :=
  (cells.map (fun cell => if cell.key = key then overtaken cell.granted else 0)).sum

structure Cell.Sound (config : Config) (cell : Cell) : Prop where
  tab : Tab config.policy cell.bucket cell.granted
  spaced : Spaced config.policy cell.granted
  unused : cell.published = false → cell.granted = []

structure Sound (config : Config) (racing : Racing) : Prop where
  cells : ∀ cell ∈ racing.cells, cell.Sound config
  mapped : ∀ key limiter, racing.limiters.lookup key = some limiter → AllowAt.Holds racing.cells (.asking key limiter)
  holding : ∀ call ∈ racing.calls, call.Holds racing.cells
  /-- A second limiter of a key is only put into the map after the first was deleted. -/
  served : ∀ key, racing.cells.countP (Cell.served key) ≤
    racing.deleted.count key + (racing.limiters.lookup key).isSome.toNat
  counted : ∀ key start finish,
    grantsWithin start finish (timesOf key racing.granted) = tally key start finish racing.cells

section Steps
variable {config : Config} {racing after : Racing} {call next : AllowAt} {index : Nat} {cells : List Cell}

theorem timesOf_cons (key other : String) (time : Time) (granted : List (String × Time)) :
    timesOf other ((key, time) :: granted) = if other = key then time :: timesOf other granted
      else timesOf other granted := by
  by_cases same : other = key
  · simp [timesOf, same]
  · simp [timesOf, same, Ne.symm same]

theorem Cell.Sound.allow {cell : Cell} {now : Time} (sound : cell.Sound config) (published : cell.published = true)
    (granted : (cell.allow config now).1 = true) : (cell.allow config now).2.Sound config where
  tab := Cell.allow_granted granted ▸ sound.tab.take granted
  spaced := Cell.allow_granted granted ▸ sound.spaced.cons (sound.tab.take granted)
  unused := fun hidden => (by cases hidden.symm.trans published)

theorem tally_append (key : String) (start finish : Time) (new : Cell) (unused : new.granted = []) :
    tally key start finish (cells ++ [new]) = tally key start finish cells := by
  simp [tally, unused, grantsWithin]

theorem tally_set {limiter : Nat} {cell : Cell} (changed : Cell) (found : cells[limiter]? = some cell)
    (same : changed.key = cell.key) (granted : changed.granted = cell.granted) (key : String) (start finish : Time) :
    tally key start finish (cells.set limiter changed) = tally key start finish cells := by
  have moved := @sum_map_set_of_found _ _ _ _ changed
    (fun cell : Cell => if cell.key = key then grantsWithin start finish cell.granted else 0) found
  simp only [same, granted] at moved
  exact Nat.add_right_cancel moved

/-- Where calls are after one has moved to a place at which it holds what it should. -/
theorem Sound.holding_set (sound : Sound config racing) (keeps : Keeps racing.cells cells) (holds : next.Holds cells) :
    ∀ call ∈ racing.calls.set index next, call.Holds cells := by
  intro call member
  rcases List.mem_or_eq_of_mem_set member with old | rfl
  · exact (sound.holding call old).keep keeps
  · exact holds

theorem Sound.with_calls (sound : Sound config racing) {calls : List AllowAt}
    (known : ∀ call ∈ calls, call ∈ racing.calls ∨ ∀ cells, call.Holds cells) : Sound config { racing with calls } :=
  ⟨sound.cells, sound.mapped, fun call member => (known call member).elim (sound.holding call) (fun free => free _),
    sound.served, sound.counted⟩

theorem Sound.make (sound : Sound config racing) (positive : 0 ≤ config.policy.capacity) (key : String) :
    Sound config { racing with
      cells := racing.cells ++ [.new config key]
      calls := racing.calls.set index (.storing key racing.cells.length) } where
  cells := by
    intro cell member
    rcases List.mem_append.mp member with old | new
    · exact sound.cells cell old
    · rw [List.mem_singleton.mp new]
      exact ⟨.full config.policy positive, .nil config.policy, fun _ => rfl⟩
  mapped := fun key limiter found => (sound.mapped key limiter found).keep (.append _ _)
  holding := sound.holding_set (.append _ _) ⟨_, List.getElem?_concat_length, rfl⟩
  served := by
    intro other
    have before := sound.served other
    simpa [Cell.served, Cell.new] using before
  counted := by
    intro other start finish
    rw [tally_append _ _ _ _ rfl]
    exact sound.counted other start finish

theorem Sound.store (sound : Sound config racing) {key : String} {newLimiter : Nat}
    (found : racing.calls[index]? = some (.storing key newLimiter)) (missing : racing.limiters.lookup key = none) :
    Sound config { racing with
      limiters := racing.limiters.insert key newLimiter
      cells := racing.cells.modify newLimiter Cell.publish
      calls := racing.calls.set index (.asking key newLimiter) } := by
  obtain ⟨cell, there, named⟩ := sound.holding _ (List.mem_of_getElem? found)
  have published : racing.cells.modify newLimiter Cell.publish =
      racing.cells.set newLimiter cell.publish := by
    simp [List.modify_eq_set_getElem?, there]
  have keeps : Keeps racing.cells (racing.cells.set newLimiter cell.publish) :=
    .set there rfl (fun _ => rfl)
  have holds : AllowAt.Holds (racing.cells.set newLimiter cell.publish) (.asking key newLimiter) :=
    ⟨cell.publish, by rw [getElem?_set_of_found there, if_pos rfl], named, rfl⟩
  rw [published]
  constructor
  · intro other member
    rcases List.mem_or_eq_of_mem_set member with old | rfl
    · exact sound.cells other old
    · have before := sound.cells cell (List.mem_of_getElem? there)
      exact ⟨before.tab, before.spaced, fun hidden => (by cases hidden)⟩
  · intro other limiter known
    simp only [FiniteMap.lookup_insert] at known
    split at known
    next same =>
      cases known
      exact same ▸ holds
    next => exact (sound.mapped other limiter known).keep keeps
  · exact sound.holding_set keeps holds
  · intro other
    have before := sound.served other
    have moved := @countP_set_of_found _ _ _ _ cell.publish (Cell.served other) there
    simp only [FiniteMap.lookup_insert]
    by_cases same : other = key
    · subst same
      rw [missing] at before
      simp only [if_true, Option.isSome_some, Option.isSome_none, Bool.toNat_true, Bool.toNat_false] at before ⊢
      split at moved
      all_goals
        split at moved
        all_goals omega
    · have apart : cell.key ≠ other := fun clash => same (clash.symm.trans named)
      simp only [Cell.served, Cell.publish_key, apart, false_and, decide_false, Bool.false_eq_true, if_false,
        Nat.add_zero] at moved
      rw [if_neg same]
      exact (le_of_eq moved).trans before
  · intro other start finish
    exact (sound.counted other start finish).trans (tally_set cell.publish there rfl rfl other start finish).symm

theorem Sound.grant (sound : Sound config racing) {key : String} {limiter : Nat} {now : Time} {cell : Cell}
    (found : racing.calls[index]? = some (.taking key limiter now)) (there : racing.cells[limiter]? = some cell)
    (granted : (cell.allow config now).1 = true) :
    Sound config { racing with
      cells := racing.cells.set limiter (cell.allow config now).2
      granted := (key, now) :: racing.granted
      calls := racing.calls.set index (.granted key) } := by
  obtain ⟨held, same, named, published⟩ := sound.holding _ (List.mem_of_getElem? found)
  cases there.symm.trans same
  have keeps : Keeps racing.cells (racing.cells.set limiter (cell.allow config now).2) := .set there rfl id
  constructor
  · intro other member
    rcases List.mem_or_eq_of_mem_set member with old | rfl
    · exact sound.cells other old
    · exact (sound.cells cell (List.mem_of_getElem? there)).allow published granted
  · exact fun other place known => (sound.mapped other place known).keep keeps
  · exact sound.holding_set keeps trivial
  · intro other
    have moved := @countP_set_of_found _ _ _ _ (cell.allow config now).2 (Cell.served other) there
    exact (le_of_eq (Nat.add_right_cancel moved)).trans (sound.served other)
  · intro other start finish
    have moved := @sum_map_set_of_found _ _ _ _ (cell.allow config now).2
      (fun cell : Cell => if cell.key = other then grantsWithin start finish cell.granted else 0) there
    have total := sound.counted other start finish
    rw [Cell.allow_key, Cell.allow_granted granted, named] at moved
    unfold tally at total ⊢
    dsimp only
    rw [timesOf_cons]
    by_cases own : other = key
    · rw [if_pos own]
      rw [if_pos own.symm, if_pos own.symm] at moved
      simp only [grantsWithin, List.countP_cons] at moved total ⊢
      omega
    · rw [if_neg own]
      rw [if_neg (Ne.symm own), if_neg (Ne.symm own)] at moved
      omega

theorem Sound.advance (sound : Sound config racing) (positive : 0 ≤ config.policy.capacity)
    (found : racing.calls[index]? = some call) (moved : AllowMove config racing call after next) :
    Sound config { after with calls := racing.calls.set index next } := by
  cases moved with
  | load key limiter known | lose key newLimiter limiter known =>
    exact ⟨sound.cells, sound.mapped, sound.holding_set (.refl _) (sound.mapped key limiter known), sound.served,
      sound.counted⟩
  | make key missing => exact sound.make positive key
  | store key newLimiter missing => exact sound.store found missing
  | ask key limiter =>
    have holds := sound.holding _ (List.mem_of_getElem? found)
    exact ⟨sound.cells, sound.mapped, sound.holding_set (.refl _) holds, sound.served, sound.counted⟩
  | grant key limiter now cell there granted => exact sound.grant found there granted
  | deny key limiter now cell there denied =>
    rw [Cell.allow_denied denied, set_of_found there]
    exact ⟨sound.cells, sound.mapped, sound.holding_set (.refl _) trivial, sound.served, sound.counted⟩
  | stamp key | record key now =>
    exact ⟨sound.cells, sound.mapped, sound.holding_set (.refl _) trivial, sound.served, sound.counted⟩

theorem Sound.step {label : RacingStep} (sound : Sound config racing) (positive : 0 ≤ config.policy.capacity)
    (stepped : racing.step config label = some after) : Sound config after := by
  cases step_cases stepped with
  | advance index call next moved found operation => exact sound.advance positive found operation
  | delete key after cells calls granted limiters deleted =>
    constructor
    · rw [cells]
      exact sound.cells
    · intro other limiter known
      rw [limiters, FiniteMap.lookup_erase] at known
      split at known
      next => cases known
      next =>
        rw [cells]
        exact sound.mapped other limiter known
    · rw [calls, cells]
      exact sound.holding
    · intro other
      have before := sound.served other
      rw [cells, limiters, deleted, FiniteMap.lookup_erase]
      by_cases same : other = key
      · subst same
        cases known : racing.limiters.lookup other with
        | none => simpa [known] using before
        | some limiter => simpa [known] using before
      · have count : (if (racing.limiters.lookup key).isSome then key :: racing.deleted else racing.deleted).count other =
            racing.deleted.count other := by
          split
          next => exact List.count_cons_of_ne (Ne.symm same)
          next => rfl
        rwa [count, if_neg same]
    · rw [granted, cells]
      exact sound.counted
  | aside after cells limiters granted deleted calls =>
    constructor
    · rw [cells]
      exact sound.cells
    · rw [limiters, cells]
      exact sound.mapped
    · intro call member
      rcases calls call member with old | free
      · rw [cells]
        exact sound.holding call old
      · exact free _
    · rw [cells, limiters, deleted]
      exact sound.served
    · rw [granted, cells]
      exact sound.counted

end Steps

theorem Sound.new (config : Config) (clock : Time) : Sound config (.new clock) where
  cells := fun _ member => by cases member
  mapped := fun _ _ known => by cases known
  holding := fun _ member => by cases member
  served := fun _ => Nat.zero_le _
  counted := fun _ _ _ => rfl

theorem sound_of_reachable {config : Config} {racing : Racing} (positive : 0 ≤ config.policy.capacity)
    (reached : (racingMachine config).Reachable racing) : Sound config racing := by
  apply reached.invariant (Sound config)
  · rintro racing ⟨clock, rfl⟩
    exact .new config clock
  · intro racing label after _ sound _ stepped
    exact sound.step positive stepped

/-- Limiters that were never in the map have granted nothing, and each of the others stays within the bound of one. -/
theorem tally_le {config : Config} (positive : 0 ≤ config.policy.capacity) {start finish : Time} (key : String)
    (order : start ≤ finish) {cells : List Cell} (sound : ∀ cell ∈ cells, cell.Sound config) :
    (tally key start finish cells : Int) * second ≤
      cells.countP (Cell.served key) * (config.policy.capacity + config.policy.rate * (finish - start)) +
        config.policy.rate * setback key cells := by
  induction cells with
  | nil => simp [tally, setback]
  | cons cell rest ih =>
    have others := ih (fun other member => sound other (List.mem_cons_of_mem _ member))
    have own := sound cell List.mem_cons_self
    have granted : tally key start finish (cell :: rest) =
        (if cell.key = key then grantsWithin start finish cell.granted else 0) + tally key start finish rest := rfl
    have back : setback key (cell :: rest) = (if cell.key = key then overtaken cell.granted else 0) +
        setback key rest := rfl
    rw [granted, back, List.countP_cons, Nat.cast_add, add_mul]
    by_cases served : cell.served key = true
    · have named : cell.key = key := (of_decide_eq_true served).1
      have bound : grantsWithin start finish cell.granted * second ≤ config.policy.capacity +
        config.policy.rate * (finish - start + overtaken cell.granted) := own.spaced.within positive order
      rw [if_pos named, if_pos named, if_pos served, Nat.cast_add, Nat.cast_one, add_mul, one_mul]
      rw [mul_add] at bound ⊢
      linarith
    · have none : cell.key = key → cell.granted = [] := by
        intro named
        have hidden : cell.published = false := by simpa [Cell.served, named] using served
        exact own.unused hidden
      have nothing : (if cell.key = key then grantsWithin start finish cell.granted else 0) = 0 := by
        split
        next named => rw [none named, grantsWithin, List.countP_nil]
        next => rfl
      have steady : (if cell.key = key then overtaken cell.granted else 0) = 0 := by
        split
        next named =>
          rw [none named]
          rfl
        next => rfl
      rw [nothing, steady, if_neg served, Nat.cast_zero, zero_mul, zero_add, zero_add, Nat.add_zero]
      exact others

theorem Sound.rate_bounded {config : Config} {racing : Racing} (sound : Sound config racing)
    (burst : 0 ≤ config.burstSize) (key : String) (start length : Time) (span : 0 ≤ length) :
    grantsWithin start (start + length) (timesOf key racing.granted) * second ≤
      (racing.deleted.count key + 1) * (config.burstSize * second + config.requestsPerSecond * length) +
        config.requestsPerSecond * setback key racing.cells := by
  have positive : 0 ≤ config.policy.capacity := mul_nonneg burst (by decide)
  have gain : 0 ≤ config.requestsPerSecond * length := mul_nonneg (by have := config.valid; omega) span
  have most : racing.cells.countP (Cell.served key) ≤ racing.deleted.count key + 1 :=
    (sound.served key).trans (Nat.add_le_add_left (Bool.toNat_le _) _)
  have order : start ≤ start + length := Int.le_add_of_nonneg_right span
  have bound := tally_le positive key order sound.cells
  rw [sound.counted key]
  calc (tally key start (start + length) racing.cells : Int) * second
      ≤ racing.cells.countP (Cell.served key) *
          (config.policy.capacity + config.policy.rate * (start + length - start)) +
            config.policy.rate * setback key racing.cells := bound
    _ = racing.cells.countP (Cell.served key) * (config.burstSize * second + config.requestsPerSecond * length) +
          config.requestsPerSecond * setback key racing.cells := by
        rw [add_sub_cancel_left]
        rfl
    _ ≤ (racing.deleted.count key + 1) * (config.burstSize * second + config.requestsPerSecond * length) +
          config.requestsPerSecond * setback key racing.cells := by
        apply add_le_add_left
        apply mul_le_mul_of_nonneg_right
        · exact_mod_cast most
        · exact add_nonneg positive gain

/-- However `Allow` calls, sweeps and deletions are interleaved: in every interval a key is granted at most the burst
and what it gains there, as much again for every time that a limiter of the key was deleted, and what the limiters
gained for the times by which overtaken calls set them back. -/
theorem racing_rate_bounded (config : Config) (burst : 0 ≤ config.burstSize) (racing : Racing)
    (reached : (racingMachine config).Reachable racing) (key : String) (start length : Time) (span : 0 ≤ length) :
    grantsWithin start (start + length) (timesOf key racing.granted) * second ≤
      (racing.deleted.count key + 1) * (config.burstSize * second + config.requestsPerSecond * length) +
        config.requestsPerSecond * setback key racing.cells :=
  (sound_of_reachable (mul_nonneg burst (by decide)) reached).rate_bounded burst key start length span

theorem overtaken_call_bounded : ∃ racing, (racingMachine ⟨1, 2, 0, by decide⟩).Reachable racing ∧
    racing.granted = [("k", 10 * second), ("k", 10 * second), ("k", 0), ("k", 10 * second)] ∧
    setback "k" racing.cells = 10 * second ∧
    grantsWithin (10 * second) (10 * second + 0) (timesOf "k" racing.granted) * second ≤
      (racing.deleted.count "k" + 1) * (2 * second + 1 * 0) + 1 * setback "k" racing.cells := by
  obtain ⟨racing, reached, outcome⟩ := (racingMachine ⟨1, 2, 0, by decide⟩).reaches_of_run (fun _ _ => True) (.new 0)
    [.allow "k", .allow "k", .advance 0, .advance 1, .advance 1, .advance 0, .advance 0, .tick (10 * second), .advance 1,
      .advance 1, .advance 0, .allow "k", .advance 2, .advance 2, .advance 2, .allow "k", .advance 3, .advance 3,
      .advance 3]
    (fun racing => racing.granted = [("k", 10 * second), ("k", 10 * second), ("k", 0), ("k", 10 * second)] ∧
      setback "k" racing.cells = 10 * second) ⟨0, rfl⟩ (by decide +kernel)
  obtain ⟨granted, back⟩ := of_decide_eq_true outcome
  exact ⟨racing, reached, granted, back,
    racing_rate_bounded ⟨1, 2, 0, by decide⟩ (by decide) racing reached "k" (10 * second) 0 le_rfl⟩

end EventGateway.RateLimit
