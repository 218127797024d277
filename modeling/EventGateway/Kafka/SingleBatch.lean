import EventGateway.Kafka.Producer

/-! `Publish` of one event beside `PublishBatch` of a batch with that event alone. The two are compared by the messages
that they pass to the writer, by what they return and by the breaker that they leave. -/

namespace EventGateway.Kafka
open Lib

def Producer.setSerializer (kp : Producer) (serialize : Event → Except String Bytes) : Producer :=
  { kp with serializer := some serialize }

def LoggedCall.journal (call : LoggedCall) : List (List KafkaMessage) := (attempts call.log).map Prod.fst

def Alike : Outcome Unit → Outcome Unit → Prop
  | .returned (.ok ()), .returned (.ok ()) => True
  | .returned (.error _), .returned (.error _) => True
  | _, _ => False

/-- The two calls wrote the same messages in the same number of attempts, are alike in what they
returned, and leave the breaker with the same circuit and counters. -/
structure LoggedCall.Agrees (call other : LoggedCall) : Prop where
  journal : call.journal = other.journal
  result : Alike call.result other.result
  circuitOpen : call.after.breaker.circuitOpen = other.after.breaker.circuitOpen
  failureCount : call.after.breaker.failureCount = other.after.breaker.failureCount
  successCount : call.after.breaker.successCount = other.after.breaker.successCount

section Single
variable {kp : Producer} {writer : WriterRun} {now : Time}

/-- The message at its end makes no other difference to the loop. -/
theorem retryFrom_alike (failure failure' : String) (messages : List KafkaMessage) (left attempt : Nat) (lastErr : String)
    (log : List PublishAct) :
    let call := (kp.retryFrom (writer.setting now) failure messages left attempt lastErr).alone (kp, log)
    let other := (kp.retryFrom (writer.setting now) failure' messages left attempt lastErr).alone (kp, log)
    call.2 = other.2 ∧ Alike call.1 other.1 := by
  induction left generalizing attempt lastErr log with
  | zero => exact ⟨rfl, trivial⟩
  | succ left ih =>
    cases goOn : (if 0 < attempt then writer.done attempt else none) with
    | some err =>
      obtain ⟨waited, done⟩ := Option.ite_none_right_eq_some.mp goOn
      simp only [Producer.retryFrom, Producer.wait, if_pos waited, Trial.alone_bind, Risky.bind_apply, Trial.alone_see,
        WriterRun.setting, done]
      exact ⟨trivial, trivial⟩
    | none =>
      simp only [alone_attempt _ _ _ goOn]
      cases writer.writeMessages attempt messages with
      | ok => exact ⟨rfl, trivial⟩
      | error err => exact ih (attempt + 1) err _

theorem logged_agrees (failure failure' : String) (messages : List KafkaMessage) (limit : Nat) :
    (kp.logged (kp.retryFrom (writer.setting now) failure messages limit 0 "")).Agrees
      (kp.logged (kp.retryFrom (writer.setting now) failure' messages limit 0 "")) := by
  obtain ⟨same, alike⟩ := retryFrom_alike failure failure' messages limit 0 "" []
  unfold Producer.logged
  exact ⟨by rw [LoggedCall.journal, same]; rfl, alike, by rw [same], by rw [same], by rw [same]⟩

theorem recordFailure_ne {breaker : ProducerBreaker} (closed : breaker.circuitOpen = false) (now : Time) :
    (breaker.recordFailure now).circuitOpen ≠ breaker.circuitOpen ∨
      (breaker.recordFailure now).failureCount ≠ breaker.failureCount := by
  simp only [ProducerBreaker.recordFailure]
  split
  next => exact .inl (by simp [closed])
  next => exact .inr (Nat.succ_ne_self _)

end Single

/-- With a serializer set, `Publish` of an event agrees with `PublishBatch` of that event alone exactly if the
circuit is open or the event can be serialized: only `Publish` counts a failed serialization against the breaker. -/
theorem publish_agrees_iff (kp : Producer) (serialize : Event → Except String Bytes) (writer : WriterRun)
    (now : Time) (event : Event) :
    ((kp.setSerializer serialize).loggedPublish writer now (some event)).Agrees
        ((kp.setSerializer serialize).loggedPublishBatch writer now [some event]) ↔
      kp.breaker.circuitOpen = true ∨ ∃ serialized, serialize event = .ok serialized := by
  have breaker : (kp.setSerializer serialize).breaker = kp.breaker := rfl
  have set : (kp.setSerializer serialize).serializer = some serialize := rfl
  simp only [Producer.loggedPublish, Producer.loggedPublishBatch, Producer.publish, Producer.publishBatch,
    Producer.serializeEvents, set, reduceCtorEq, if_false, Producer.logged, Trial.alone_bind, Risky.bind_apply,
    Trial.alone_see, WriterRun.setting, breaker]
  cases closed : kp.breaker.circuitOpen with
  | true => exact iff_of_true ⟨rfl, trivial, rfl, rfl, rfl⟩ (.inl rfl)
  | false =>
    cases serialized : serialize event with
    | ok value => exact iff_of_true (logged_agrees _ _ _ _) (.inr ⟨value, rfl⟩)
    | error err =>
      refine iff_of_false ?_ (by simp)
      intro agrees
      rcases recordFailure_ne closed now with differs | differs
      · exact differs agrees.circuitOpen
      · exact differs agrees.failureCount

/-- An event that cannot be serialized: both calls fail without an attempt, and the breaker has counted the
failure of `Publish` only. -/
theorem publish_counts_unserializable :
    let kp := (newProducer (fun _ => "")).setSerializer (fun _ => .error "json: unsupported value")
    let single := kp.loggedPublish willingWriter 0 (some (.sample "order-1" 0))
    let batch := kp.loggedPublishBatch willingWriter 0 [some (.sample "order-1" 0)]
    single.journal = [] ∧ batch.journal = [] ∧ Alike single.result batch.result ∧
      single.after.breaker.failureCount = 1 ∧ batch.after.breaker.failureCount = 0 ∧ ¬single.Agrees batch := by
  refine ⟨rfl, rfl, trivial, rfl, rfl, ?_⟩
  intro agrees
  exact absurd agrees.failureCount (by decide)

end EventGateway.Kafka
