import EventGateway.Kafka.SingleBatch

/-! The accounting of publish attempts. A call ends in one of three ways, and all of the accounting follows from
that. -/

namespace EventGateway.Kafka
open Lib

def Producer.perform (now : Time) (kp : Producer) : PublishAct → Producer
  | .recordSuccess => kp.recordSuccess
  | .recordFailure => kp.recordFailure now
  | .attempted _ _ | .sawDone _ => kp

def attemptResults (log : List PublishAct) : List (Except String Unit) := (attempts log).map Prod.snd

def successes (log : List PublishAct) : Nat :=
  log.countP fun
    | .recordSuccess => true
    | _ => false

def failures (log : List PublishAct) : Nat :=
  log.countP fun
    | .recordFailure => true
    | _ => false

section Counting
variable (messages : List KafkaMessage) (errs : List String) (log : List PublishAct)

@[simp] theorem attemptResults_failed :
    attemptResults (failed messages errs ++ log) = errs.map .error ++ attemptResults log := by
  induction errs with
  | nil => rfl
  | cons err rest ih => exact congrArg (.error err :: ·) ih

@[simp] theorem successes_failed : successes (failed messages errs ++ log) = successes log := by
  induction errs with
  | nil => rfl
  | cons err rest ih => exact ih

@[simp] theorem failures_failed : failures (failed messages errs ++ log) = failures log := by
  induction errs with
  | nil => rfl
  | cons err rest ih => exact ih

theorem perform_failed (now : Time) (kp : Producer) :
    (failed messages errs ++ log).foldl (Producer.perform now) kp = log.foldl (Producer.perform now) kp := by
  induction errs with
  | nil => rfl
  | cons err rest ih => exact ih

/-- After an act that is not a failed attempt comes nothing but the end of the log. -/
theorem nothing_after {act : PublishAct} {before after : List PublishAct}
    (other : ∀ err, act ≠ .attempted messages (.error err)) (split : failed messages errs ++ log = before ++ act :: after)
    (last : attempts log.tail = []) : attemptResults after = [] := by
  induction errs generalizing before with
  | nil =>
    cases before with
    | nil =>
      cases split
      exact congrArg (List.map Prod.snd) last
    | cons head before =>
      have whole : log = head :: before ++ [act] ++ after := by simpa [failed] using split
      rw [whole, List.append_assoc, List.cons_append, List.tail_cons, ← List.append_assoc, attempts,
        List.filterMap_append] at last
      exact congrArg (List.map Prod.snd) (List.append_eq_nil_iff.mp last).2
  | cons err rest ih =>
    cases before with
    | nil => exact absurd (List.cons.inj split).1.symm (other err)
    | cons head before => exact ih (List.cons.inj split).2

end Counting

/-- The accounting of one call, for at most `limit` attempts with these messages: what the attempts
and the producer were, that nothing is tried after a success or an observed cancellation, and what
each of the three endings returns and records. -/
structure AttemptsAccounted (kp : Producer) (writer : WriterRun) (now : Time) (messages : List KafkaMessage) (limit : Nat)
    (call : LoggedCall) : Prop where
  asked : Asked writer messages 0 call.log
  performed : call.after = call.log.foldl (Producer.perform now) kp
  bounded : (attemptResults call.log).length ≤ limit
  afterSuccess : ∀ before written after, call.log = before ++ .attempted written (.ok ()) :: after →
    attemptResults after = []
  afterDone : ∀ before err after, call.log = before ++ .sawDone err :: after → attemptResults after = []
  returnsNil : call.result = .returned (.ok ()) ↔ (attemptResults call.log).getLast? = some (.ok ())
  success : call.result = .returned (.ok ()) → successes call.log = 1 ∧ failures call.log = 0
  exhaustion : (attemptResults call.log).length = limit → .ok () ∉ attemptResults call.log →
    successes call.log = 0 ∧ failures call.log = 1
  cancellation : ∀ err, .sawDone err ∈ call.log → (∃ attempt, 0 < attempt ∧ writer.done attempt = some err) ∧
    call.result = .returned (.error err) ∧ successes call.log = 0 ∧ failures call.log = 0
  ends : call.result = .returned (.ok ()) ∨ (∃ err, .sawDone err ∈ call.log) ∨
    ((attemptResults call.log).length = limit ∧ .ok () ∉ attemptResults call.log)

section Accounting
variable {kp : Producer} {writer : WriterRun} {now : Time} {messages : List KafkaMessage} {limit : Nat}
  {errs : List String} {err : String} {tail : List PublishAct}

theorem sawDone_mem : .sawDone err ∈ failed messages errs ++ tail ↔ .sawDone err ∈ tail := by
  rw [List.mem_append]
  refine or_iff_right ?_
  intro early
  obtain ⟨other, -, same⟩ := List.mem_map.mp early
  cases same

theorem length_attempts (nothing : attemptResults tail = []) :
    (attemptResults (failed messages errs ++ tail)).length = errs.length := by
  rw [attemptResults_failed, nothing, List.append_nil, List.length_map]

theorem ok_not_mem (nothing : attemptResults tail = []) : .ok () ∉ attemptResults (failed messages errs ++ tail) := by
  rw [attemptResults_failed, nothing, List.append_nil]
  intro member
  obtain ⟨err, -, same⟩ := List.mem_map.mp member
  cases same

/-- A call that returned an error after attempts that failed does not count as a success. -/
theorem returnsNil_iff (nothing : attemptResults tail = []) :
    Outcome.returned (.error err) = Outcome.returned (.ok ()) ↔
      (attemptResults (failed messages errs ++ tail)).getLast? = some (.ok ()) := by
  refine iff_of_false nofun ?_
  exact fun last => ok_not_mem nothing (List.mem_of_getLast? last)

theorem accounted_delivered (few : errs.length < limit)
    (asked : Asked writer messages 0 (failed messages errs ++ [.attempted messages (.ok ()), .recordSuccess])) :
    AttemptsAccounted kp writer now messages limit
      ⟨.returned (.ok ()), kp.recordSuccess, failed messages errs ++ [.attempted messages (.ok ()), .recordSuccess]⟩ where
  asked := asked
  performed := by
    rw [perform_failed]
    rfl
  bounded := by
    rw [attemptResults_failed, List.length_append, List.length_map]
    exact few
  afterSuccess _ _ _ split := nothing_after messages errs _ (by simp) split rfl
  afterDone _ _ _ split := nothing_after messages errs _ (by simp) split rfl
  returnsNil := by
    rw [attemptResults_failed]
    exact iff_of_true rfl List.getLast?_concat
  success _ := by
    rw [successes_failed, failures_failed]
    exact ⟨rfl, rfl⟩
  exhaustion _ without := by
    rw [attemptResults_failed] at without
    exact absurd (List.mem_append_right _ List.mem_cons_self) without
  cancellation err seen := by
    rw [sawDone_mem] at seen
    simp at seen
  ends := .inl rfl

theorem accounted_cancelled (few : errs.length < limit) (waited : 0 < errs.length)
    (done : writer.done errs.length = some err) (asked : Asked writer messages 0 (failed messages errs ++ [.sawDone err])) :
    AttemptsAccounted kp writer now messages limit ⟨.returned (.error err), kp, failed messages errs ++ [.sawDone err]⟩ where
  asked := asked
  performed := by
    rw [perform_failed]
    rfl
  bounded := (length_attempts rfl).trans_le few.le
  afterSuccess _ _ _ split := nothing_after messages errs _ (by simp) split rfl
  afterDone _ _ _ split := nothing_after messages errs _ (by simp) split rfl
  returnsNil := returnsNil_iff rfl
  success := nofun
  exhaustion full := absurd ((length_attempts rfl).symm.trans full) few.ne
  cancellation other seen := by
    rw [successes_failed, failures_failed]
    cases List.mem_singleton.mp (sawDone_mem.mp seen)
    exact ⟨⟨_, waited, done⟩, rfl, rfl, rfl⟩
  ends := .inr (.inl ⟨err, sawDone_mem.mpr List.mem_cons_self⟩)

theorem accounted_exhausted (all : errs.length = limit)
    (asked : Asked writer messages 0 (failed messages errs ++ [.recordFailure])) :
    AttemptsAccounted kp writer now messages limit
      ⟨.returned (.error err), kp.recordFailure now, failed messages errs ++ [.recordFailure]⟩ where
  asked := asked
  performed := by
    rw [perform_failed]
    rfl
  bounded := (length_attempts rfl).trans_le all.le
  afterSuccess _ _ _ split := nothing_after messages errs _ (by simp) split rfl
  afterDone _ _ _ split := nothing_after messages errs _ (by simp) split rfl
  returnsNil := returnsNil_iff rfl
  success := nofun
  exhaustion _ _ := by
    rw [successes_failed, failures_failed]
    exact ⟨rfl, rfl⟩
  cancellation other seen := by
    rw [sawDone_mem] at seen
    simp at seen
  ends := .inr (.inr ⟨(length_attempts rfl).trans all, ok_not_mem rfl⟩)

theorem logged_accounted (kp : Producer) (writer : WriterRun) (now : Time) (failure : String)
    (messages : List KafkaMessage) (limit : Nat) :
    AttemptsAccounted kp writer now messages limit
      (kp.logged (kp.retryFrom (writer.setting now) failure messages limit 0 "")) := by
  obtain ⟨ends, asked⟩ := logged_ends kp writer now failure messages limit
  revert asked ends
  generalize kp.logged (kp.retryFrom (writer.setting now) failure messages limit 0 "") = call
  intro ends asked
  cases ends with
  | delivered errs few => exact accounted_delivered few asked
  | cancelled errs err few waited done =>
    rw [Nat.zero_add] at waited done
    exact accounted_cancelled few waited done asked
  | exhausted errs text all => exact accounted_exhausted all asked

end Accounting

/-- Whatever the writer answers and whenever the context is done, the attempts of `Publish` past the
check and the serialization, and those of `publishWithRetry`, are accounted for. -/
theorem publish_attempts_accounted (kp : Producer) (writer : WriterRun) (now : Time) :
    (∀ event serialize serialized, kp.breaker.circuitOpen = false → kp.serializer = some serialize →
      serialize event = .ok serialized →
      AttemptsAccounted kp writer now [kp.message event serialized] (kp.maxRetries + 1)
        (kp.loggedPublish writer now (some event))) ∧
      ∀ messages, AttemptsAccounted kp writer now messages (kp.maxRetries + 1)
        (kp.logged (kp.publishWithRetry (writer.setting now) messages)) := by
  constructor
  · intro event serialize serialized closed set done
    have past : kp.loggedPublish writer now (some event) = kp.logged (kp.retryFrom (writer.setting now)
        "failed to publish" [kp.message event serialized] (kp.maxRetries + 1) 0 "") := by
      simp only [Producer.loggedPublish, Producer.publish, set, done, Producer.logged, Trial.alone_bind,
        Risky.bind_apply, Trial.alone_see, WriterRun.setting, closed, Bool.false_eq_true, if_false]
    rw [past]
    exact logged_accounted kp writer now "failed to publish" _ _
  · intro messages
    exact logged_accounted kp writer now "failed to publish batch" messages _

def thirdTime : WriterRun where
  done _ := none
  writeMessages number _ := if number < 2 then .error "broker not available" else .ok ()

def readyProducer : Producer := (newProducer (fun _ => "")).setSerializer (fun _ => .ok [0x31])

theorem publish_attempts_accounted_third :
    AttemptsAccounted readyProducer thirdTime 0 [readyProducer.message (.sample "a" 1) [0x31]] 4
      (readyProducer.loggedPublish thirdTime 0 (some (.sample "a" 1))) :=
  (publish_attempts_accounted readyProducer thirdTime 0).1 (.sample "a" 1) (fun _ => .ok [0x31]) [0x31] rfl rfl rfl

end EventGateway.Kafka
