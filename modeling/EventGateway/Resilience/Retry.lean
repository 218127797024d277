import EventGateway.Resilience.Backoff

/-! `retry.Do`. What the function returns, when the context is done and which branch a select takes
where two are ready are data of the run. The loop has its counter as a 64-bit integer, so it is
given fuel: with the largest integer for `MaxRetries` it would not end. A run leaves a trace of the
calls of the function and of the receive from `ctx.Done()`. -/

namespace EventGateway.Retry

/-- What one call of `Do` meets. The moments of an attempt `n` are `2 * n`, when the loop checks the
context, and `2 * n + 1`, when the wait after the attempt ends; a context that is done stays done.
In a wait that ends with both ready, `timer` tells whether the timer is taken. -/
structure World where
  fn : Nat → Option String
  done : Nat → Bool
  stays : ∀ moment, done moment = true → done (moment + 1) = true
  ctxErr : String
  timer : Nat → Bool
  draw : Nat → Nat

inductive Act where
  | called (result : Option String)
  | sawDone
  deriving DecidableEq

/-- How the loop ends; `running` is one whose fuel is used up. -/
inductive DoResult where
  | returned (err : Option String)
  | panicked
  | running
  deriving DecidableEq

section Do
variable {M : Type} (scaling : Scaling M) (world : World)

def Config.retryable (cfg : Config M) (err : String) : Bool :=
  match cfg.isRetryable with
  | none => true
  | some isRetryable => isRetryable err

/-- The loop from one attempt on; `turn` counts the attempts made. -/
def doFrom (cfg : Config M) : Nat → Int64 → Nat → Option String → DoResult × List Act
  | 0, _, _, _ => (.running, [])
  | fuel + 1, attempt, turn, lastErr =>
    if attempt ≤ cfg.maxRetries then
      if world.done (2 * turn) then (.returned (some world.ctxErr), [.sawDone])
      else match world.fn turn with
        | none => (.returned none, [.called none])
        | some err =>
          if !cfg.retryable err then (.returned (some err), [.called (some err)])
          else if attempt < cfg.maxRetries then
            match calculateBackoff scaling attempt cfg (world.draw turn) with
            | none => (.panicked, [.called (some err)])
            | some _ =>
              if world.done (2 * turn + 1) && !world.timer turn then
                (.returned (some world.ctxErr), [.called (some err), .sawDone])
              else
                let (result, trace) := doFrom cfg fuel (attempt + 1) (turn + 1) (some err)
                (result, .called (some err) :: trace)
          else
            let (result, trace) := doFrom cfg fuel (attempt + 1) (turn + 1) (some err)
            (result, .called (some err) :: trace)
    else (.returned lastErr, [])

def retryDo (cfg : Config M) (fuel : Nat) : DoResult × List Act :=
  doFrom scaling world (cfg.normalised scaling) fuel 0 0 none

end Do

section Course
variable {M : Type} {scaling : Scaling M} {world : World} {cfg : Config M}

inductive Course (scaling : Scaling M) (world : World) (cfg : Config M) : Nat → Nat → DoResult × List Act → Prop where
  | cancelled {left turn : Nat} (done : world.done (2 * turn) = true) :
      Course scaling world cfg left turn (.returned (some world.ctxErr), [.sawDone])
  | succeeded {left turn : Nat} (result : world.fn turn = none) :
      Course scaling world cfg left turn (.returned none, [.called none])
  | rejected {left turn : Nat} {err : String} (result : world.fn turn = some err) (final : cfg.retryable err = false) :
      Course scaling world cfg left turn (.returned (some err), [.called (some err)])
  | exhausted {turn : Nat} {err : String} (result : world.fn turn = some err) (again : cfg.retryable err = true) :
      Course scaling world cfg 0 turn (.returned (some err), [.called (some err)])
  | interrupted {left turn : Nat} {err : String} (result : world.fn turn = some err) (again : cfg.retryable err = true)
      (done : world.done (2 * turn + 1) = true) :
      Course scaling world cfg (left + 1) turn (.returned (some world.ctxErr), [.called (some err), .sawDone])
  | panicked {left turn : Nat} {err : String} {attempt : Int64} (again : cfg.retryable err = true)
      (here : attempt.toInt = turn) (panics : calculateBackoff scaling attempt cfg (world.draw turn) = none) :
      Course scaling world cfg (left + 1) turn (.panicked, [.called (some err)])
  | retried {left turn : Nat} {err : String} {attempt : Int64} {out : DoResult × List Act}
      (result : world.fn turn = some err) (again : cfg.retryable err = true) (here : attempt.toInt = turn)
      (waits : calculateBackoff scaling attempt cfg (world.draw turn) ≠ none)
      (next : Course scaling world cfg left (turn + 1) out) :
      Course scaling world cfg (left + 1) turn (out.1, .called (some err) :: out.2)

theorem toInt_succ {attempt : Int64} {turn : Nat} (here : attempt.toInt = turn) (bound : (turn : Int) < 2 ^ 63 - 1) :
    (attempt + 1).toInt = (turn + 1 : Nat) := by
  rw [Int64.toInt_add, here]
  change ((turn : Int) + 1).bmod (2 ^ 64) = _
  rw [Int.bmod_eq_of_le (by omega) (by omega)]
  exact (Int.natCast_succ turn).symm

theorem course_of_attempt {left turn : Nat} {goOn : String → DoResult × List Act}
    (goesOn : ∀ err, world.fn turn = some err → cfg.retryable err = true →
      Course scaling world cfg left turn (goOn err)) :
    Course scaling world cfg left turn
      (if world.done (2 * turn) then (.returned (some world.ctxErr), [.sawDone])
      else match world.fn turn with
        | none => (.returned none, [.called none])
        | some err => if !cfg.retryable err then (.returned (some err), [.called (some err)]) else goOn err) := by
  split
  next done => exact .cancelled done
  split
  next result => exact .succeeded result
  next err result =>
    cases again : cfg.retryable err with
    | false => exact .rejected result again
    | true => exact goesOn err result again

theorem doFrom_course (below : cfg.maxRetries < Int64.maxValue) {left turn fuel : Nat} {attempt : Int64}
    {lastErr : Option String} (here : attempt.toInt = turn) (rest : (turn + left : Int) = cfg.maxRetries.toInt)
    (enough : left + 1 < fuel) :
    Course scaling world cfg left turn (doFrom scaling world cfg fuel attempt turn lastErr) := by
  have bound : cfg.maxRetries.toInt < 2 ^ 63 - 1 := Int64.lt_iff_toInt_lt.mp below
  induction left generalizing turn fuel attempt lastErr with
  | zero =>
    obtain ⟨fuel, rfl⟩ : ∃ spare, fuel = spare + 2 := ⟨fuel - 2, by omega⟩
    have next : (attempt + 1).toInt = (turn + 1 : Nat) := toInt_succ here (by omega)
    have last : ¬attempt < cfg.maxRetries := Int64.not_lt.mpr (Int64.le_iff_toInt_le.mpr (by omega))
    have past : ¬attempt + 1 ≤ cfg.maxRetries := Int64.not_le.mpr (Int64.lt_iff_toInt_lt.mpr (by omega))
    rw [doFrom, if_pos (Int64.le_iff_toInt_le.mpr (by omega))]
    apply course_of_attempt
    intro err result again
    rw [if_neg last, doFrom, if_neg past]
    exact .exhausted result again
  | succ left ih =>
    obtain ⟨fuel, rfl⟩ : ∃ spare, fuel = spare + 1 := ⟨fuel - 1, by omega⟩
    have next : (attempt + 1).toInt = (turn + 1 : Nat) := toInt_succ here (by omega)
    rw [doFrom, if_pos (Int64.le_iff_toInt_le.mpr (by omega))]
    apply course_of_attempt
    intro err result again
    rw [if_pos (Int64.lt_iff_toInt_lt.mpr (by omega))]
    split
    next panics => exact .panicked again here panics
    next backoff waits =>
      split
      next done => exact .interrupted result again (Bool.and_eq_true_iff.mp done).1
      next =>
        have later : Course scaling world cfg left (turn + 1)
            (doFrom scaling world cfg fuel (attempt + 1) (turn + 1) (some err)) :=
          ih next (by omega) (by omega)
        exact .retried result again here (waits ▸ Option.some_ne_none backoff) later

/-- A function that fails for ever, with an error that is retried, gets to an attempt that panics. -/
theorem Course.panics {left turn : Nat} {out : DoResult × List Act} (course : Course scaling world cfg left turn out)
    {err : String} {attempt : Int64} (fails : ∀ turn, world.fn turn = some err) (again : cfg.retryable err = true)
    (ongoing : ∀ moment, world.done moment = false)
    (panic : ∀ turn, calculateBackoff scaling attempt cfg (world.draw turn) = none)
    (ahead : turn ≤ attempt.toInt) (reaches : attempt.toInt < turn + left) : out.1 = .panicked := by
  induction course with
  | cancelled done => exact absurd done (Bool.eq_false_iff.mp (ongoing _))
  | succeeded result => cases (fails _).symm.trans result
  | rejected result final =>
    cases (fails _).symm.trans result
    cases again.symm.trans final
  | exhausted => omega
  | interrupted _ _ done => exact absurd done (Bool.eq_false_iff.mp (ongoing _))
  | panicked => rfl
  | @retried left turn _ other _ _ _ here waits _ ih =>
    refine ih ?_ (by omega)
    by_contra passed
    have same : other = attempt := Int64.toInt_inj.mp (by omega)
    exact waits (same ▸ panic turn)

end Course

section Behaviour
variable {M : Type} {scaling : Scaling M} {world : World} {cfg : Config M} {retryable : String → Bool}

def calls (trace : List Act) : List (Option String) :=
  trace.filterMap fun
    | .called result => some result
    | .sawDone => none

@[simp] theorem calls_called (result : Option String) (trace : List Act) :
    calls (.called result :: trace) = result :: calls trace := rfl

@[simp] theorem calls_sawDone (trace : List Act) : calls (.sawDone :: trace) = calls trace := rfl

@[simp] theorem calls_nil : calls [] = [] := rfl

/-- What a run from an attempt on does, with at most `limit` attempts. -/
structure Behaves (retryable : String → Bool) (world : World) (first limit : Nat) (out : DoResult × List Act) :
    Prop where
  returns : ∃ err, out.1 = .returned err
  asked : calls out.2 = (List.range' first (calls out.2).length).map world.fn
  count : (calls out.2).length ≤ limit
  earlier : ∀ result ∈ (calls out.2).dropLast, ∃ err, result = some err ∧ retryable err = true
  success : out.1 = .returned none ↔ (calls out.2).getLast? = some none
  failure : ∀ err last, out.1 = .returned (some err) → (calls out.2).getLast? = some (some last) →
    retryable last = false ∨ (calls out.2).length = limit → err = last
  cancellation : ∀ err, out.1 = .returned (some err) →
    (∀ last, (calls out.2).getLast? = some (some last) → retryable last = true ∧ (calls out.2).length ≠ limit) →
    err = world.ctxErr ∧ out.2.getLast? = some .sawDone ∧ world.done (2 * (first + (calls out.2).length)) = true
  quiet : ∀ before after, out.2 = before ++ .sawDone :: after → calls after = []
  full : (∀ moment, world.done moment = false) →
    (∀ turn, ∃ err, world.fn turn = some err ∧ retryable err = true) → (calls out.2).length = limit

theorem behaves_cancelled {first limit : Nat} (done : world.done (2 * first) = true) :
    Behaves retryable world first (limit + 1) (.returned (some world.ctxErr), [.sawDone]) where
  returns := ⟨_, rfl⟩
  asked := rfl
  count := Nat.zero_le _
  earlier := by simp
  success := by simp
  failure := by simp
  cancellation := by
    intro err same _
    cases same
    exact ⟨rfl, rfl, done⟩
  quiet := by
    intro before after same
    cases before with
    | nil =>
      cases same
      rfl
    | cons act before => simp at same
  full ongoing := absurd done (Bool.eq_false_iff.mp (ongoing _))

/-- A run whose only call ends it: a success, an error that is not retried, or the last attempt. -/
theorem behaves_called {first limit : Nat} {result : Option String} (called : world.fn first = result)
    (ends : ∀ err, result = some err → retryable err = false ∨ limit = 0) :
    Behaves retryable world first (limit + 1) (.returned result, [.called result]) where
  returns := ⟨_, rfl⟩
  asked := by simp [called]
  count := by simp
  earlier := by simp
  success := by simp
  failure := by
    intro err last same final _
    simp only [DoResult.returned.injEq] at same
    simp only [calls_called, calls_nil, List.getLast?_singleton, Option.some.injEq] at final
    exact Option.some.inj (same.symm.trans final)
  cancellation := by
    intro err same retried
    simp only [DoResult.returned.injEq] at same
    obtain ⟨again, short⟩ := retried err (by simp [same])
    rcases ends err same with final | last
    · cases again.symm.trans final
    · exact absurd (by simp [last]) short
  quiet := by
    intro before after same
    cases before with
    | nil => cases same
    | cons act before => simp at same
  full := by
    intro _ fails
    obtain ⟨err, failed, again⟩ := fails first
    rcases ends err (called.symm.trans failed) with final | last
    · cases again.symm.trans final
    · simp [last]

theorem getLast_cons_error {err : String} {others : List (Option String)} {last : Option String} :
    (some err :: others).getLast? = some last ↔
      (others = [] ∧ last = some err) ∨ others.getLast? = some last := by
  cases others with
  | nil => simp [eq_comm]
  | cons result rest => simp [List.getLast?_cons]

theorem Behaves.cons {first limit : Nat} {err : String} {out : DoResult × List Act} (result : world.fn first = some err)
    (again : retryable err = true) (rest : Behaves retryable world (first + 1) (limit + 1) out) :
    Behaves retryable world first (limit + 2) (out.1, .called (some err) :: out.2) where
  returns := rest.returns
  asked := by
    rw [calls_called, List.length_cons, List.range'_succ, List.map_cons, result]
    exact congrArg (some err :: ·) rest.asked
  count := Nat.succ_le_succ rest.count
  earlier := by
    intro earlier member
    cases others : calls out.2 with
    | nil => simp [others] at member
    | cons second later =>
      rw [calls_called, List.dropLast_cons_of_ne_nil (by simp [others])] at member
      rcases List.mem_cons.mp member with rfl | old
      · exact ⟨err, rfl, again⟩
      · exact rest.earlier earlier old
  success := by
    rw [rest.success, calls_called, getLast_cons_error]
    simp
  failure := by
    intro reported last same final ends
    rw [calls_called, getLast_cons_error] at final
    rw [calls_called, List.length_cons] at ends
    rcases final with ⟨none, this⟩ | later
    · cases this
      rcases ends with rejected | full
      · cases again.symm.trans rejected
      · simp [none] at full
    · exact rest.failure reported last same later (ends.imp_right (fun full => by omega))
  cancellation := by
    intro reported same retried
    have others : ∀ last, (calls out.2).getLast? = some (some last) →
        retryable last = true ∧ (calls out.2).length ≠ limit + 1 := by
      intro last final
      obtain ⟨again, short⟩ := retried last (getLast_cons_error.mpr (.inr final))
      exact ⟨again, fun full => short (by rw [calls_called, List.length_cons, full])⟩
    obtain ⟨reason, seen, done⟩ := rest.cancellation reported same others
    have moment : first + (calls out.2).length.succ = first + 1 + (calls out.2).length := by omega
    refine ⟨reason, ?_, ?_⟩
    · rw [List.getLast?_cons, seen]
      rfl
    · rw [calls_called, List.length_cons, moment]
      exact done
  quiet := by
    intro before after same
    cases before with
    | nil => cases same
    | cons act before => exact rest.quiet before after (List.cons.inj same).2
  full ongoing fails := by rw [calls_called, List.length_cons, rest.full ongoing fails]

theorem Course.behaves {left turn : Nat} {out : DoResult × List Act} (course : Course scaling world cfg left turn out)
    (safe : ∀ err (attempt : Int64) draw, cfg.retryable err = true → turn ≤ attempt.toInt →
      attempt.toInt < turn + left → calculateBackoff scaling attempt cfg draw ≠ none) :
    Behaves cfg.retryable world turn (left + 1) out := by
  induction course with
  | cancelled done => exact behaves_cancelled done
  | succeeded result => exact behaves_called result (fun _ absent => by cases absent)
  | rejected result final => exact behaves_called result (fun _ same => .inl (Option.some.inj same ▸ final))
  | exhausted result => exact behaves_called result (fun _ _ => .inr rfl)
  | interrupted result again done => exact (behaves_cancelled (world.stays _ done)).cons result again
  | panicked again here panics => exact absurd panics (safe _ _ _ again (by omega) (by omega))
  | retried result again _ _ _ ih =>
    exact (ih (fun err attempt draw again after before => safe err attempt draw again (by omega) (by omega))).cons
      result again

def limit (cfg : Config M) : Nat := (max cfg.maxRetries.toInt 0).toNat + 1

theorem normalised_maxRetries : (cfg.normalised scaling).maxRetries.toInt = max cfg.maxRetries.toInt 0 := by
  change (if cfg.maxRetries < 0 then 0 else cfg.maxRetries : Int64).toInt = _
  split
  next negative =>
    have below : cfg.maxRetries.toInt < 0 := Int64.lt_iff_toInt_lt.mp negative
    exact (max_eq_right below.le).symm
  next natural =>
    have above : 0 ≤ cfg.maxRetries.toInt := Int64.le_iff_toInt_le.mp (Int64.not_lt.mp natural)
    exact (max_eq_left above).symm

theorem retryDo_course (below : cfg.maxRetries < Int64.maxValue) (world : World) {fuel : Nat}
    (enough : limit cfg < fuel) :
    Course scaling world (cfg.normalised scaling) (max cfg.maxRetries.toInt 0).toNat 0
      (retryDo scaling world cfg fuel) := by
  have bound : cfg.maxRetries.toInt < 2 ^ 63 - 1 := Int64.lt_iff_toInt_lt.mp below
  have small : (cfg.normalised scaling).maxRetries < Int64.maxValue := by
    rw [Int64.lt_iff_toInt_lt, normalised_maxRetries]
    change _ < (2 ^ 63 - 1 : Int)
    omega
  refine doFrom_course small rfl ?_ enough
  rw [normalised_maxRetries]
  omega

def failing (err : String) (draw : Nat) : World where
  fn _ := some err
  done _ := false
  stays _ done := done
  ctxErr := "context canceled"
  timer _ := true
  draw _ := draw

/-- `Do` behaves as documented in every world exactly if no error is retried or no wait between
two attempts panics. -/
theorem retryDo_behaves_iff (scaling : Scaling M) (cfg : Config M) (below : cfg.maxRetries < Int64.maxValue) :
    (∀ world fuel, limit cfg < fuel → Behaves cfg.retryable world 0 (limit cfg) (retryDo scaling world cfg fuel)) ↔
      (∀ err, cfg.retryable err = false) ∨
        ∀ attempt draw, 0 ≤ attempt → attempt < cfg.maxRetries →
          calculateBackoff scaling attempt (cfg.normalised scaling) draw ≠ none := by
  constructor
  · intro behaves
    by_contra neither
    simp only [not_or, not_forall, not_not, exists_prop] at neither
    obtain ⟨⟨err, again⟩, attempt, draw, nonnegative, before, panics⟩ := neither
    have first : 0 ≤ attempt.toInt := Int64.le_iff_toInt_le.mp nonnegative
    have last : attempt.toInt < cfg.maxRetries.toInt := Int64.lt_iff_toInt_lt.mp before
    have course : Course scaling (failing err draw) (cfg.normalised scaling) _ 0
        (retryDo scaling (failing err draw) cfg (limit cfg + 1)) :=
      retryDo_course below (failing err draw) (Nat.lt_succ_self _)
    have ended := course.panics (fun _ => rfl) (Bool.ne_false_iff.mp again) (fun _ => rfl) (fun _ => panics)
      (by omega) (by omega)
    obtain ⟨result, returned⟩ := (behaves (failing err draw) _ (Nat.lt_succ_self _)).returns
    cases ended.symm.trans returned
  · intro safe world fuel enough
    have course : Course scaling world (cfg.normalised scaling) _ 0 (retryDo scaling world cfg fuel) :=
      retryDo_course below world enough
    have behaves : Behaves (cfg.normalised scaling).retryable world 0 (limit cfg) (retryDo scaling world cfg fuel) := by
      apply course.behaves
      intro err attempt draw again after before
      rcases safe with never | waits
      · cases again.symm.trans (never err)
      · exact waits attempt draw (Int64.le_iff_toInt_le.mpr after) (Int64.lt_iff_toInt_lt.mpr (by omega))
    exact behaves

theorem default_waits {attempt : Int64} (first : 0 ≤ attempt) (last : attempt < 3) (draw : Nat) :
    calculateBackoff (exact amd64) attempt (defaultConfig (exact amd64)) draw ≠ none := by
  have initial : 0 < (defaultConfig (exact amd64)).initialBackoff := by decide
  have least := product_mono (by decide : 1 ≤ 2) initial first
  have most := product_mono (by decide : 1 ≤ 2) initial (Int64.le_of_lt last)
  have value := toInt_capped_nat (rfl : (defaultConfig (exact amd64)).backoffMultiplier = (2 : Nat)) (by decide)
    initial first
  generalize (defaultConfig (exact amd64)).initialBackoff.toInt * ((2 : Nat) : Int) ^ attempt.toInt.toNat = product at *
  have start : 100000000 ≤ product := least
  have bound : product ≤ 800000000 := most
  have maximum : (defaultConfig (exact amd64)).maxBackoff.toInt = 30000000000 := rfl
  rw [calculateBackoff_ne_none rfl, Int64.le_iff_toInt_le, value, if_pos (by omega), maximum]
  change 2 ≤ min product 30000000000
  omega

theorem retryDo_behaves_default :
    (defaultConfig (exact amd64)).maxRetries < Int64.maxValue ∧
      ∀ world fuel, 4 < fuel → Behaves (defaultConfig (exact amd64)).retryable world 0 4
        (retryDo (exact amd64) world (defaultConfig (exact amd64)) fuel) := by
  have below : (defaultConfig (exact amd64)).maxRetries < Int64.maxValue := by decide
  refine ⟨below, (retryDo_behaves_iff (exact amd64) (defaultConfig (exact amd64)) below).mpr (.inr ?_)⟩
  exact fun attempt draw first last => default_waits first last draw

/-- A function that fails, with a first wait of one nanosecond: the retry panics. -/
theorem retry_panics :
    retryDo (exact amd64) (failing "timeout" 0) ((defaultConfig (exact amd64)).withInitialBackoff 1) 5 =
        (.panicked, [.called (some "timeout")]) ∧
      ¬Behaves (fun _ => true) (failing "timeout" 0) 0 4
        (retryDo (exact amd64) (failing "timeout" 0) ((defaultConfig (exact amd64)).withInitialBackoff 1) 5) := by
  have ran : retryDo (exact amd64) (failing "timeout" 0) ((defaultConfig (exact amd64)).withInitialBackoff 1) 5 =
      (.panicked, [.called (some "timeout")]) := by
    have same : ((defaultConfig (exact amd64)).withInitialBackoff 1).normalised (exact amd64) =
        (defaultConfig (exact amd64)).withInitialBackoff 1 := rfl
    rw [retryDo, same, doFrom, calculateBackoff_one]
    rfl
  refine ⟨ran, ?_⟩
  intro behaves
  obtain ⟨err, returned⟩ := behaves.returns
  rw [ran] at returned
  cases returned

end Behaviour
end EventGateway.Retry
