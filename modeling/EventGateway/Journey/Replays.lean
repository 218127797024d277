import EventGateway.Journey.Subscribers
import EventGateway.Replay.Stream

/-! From the client that sends an event to the clients that have it replayed. What the store holds was stored, and what
was stored it holds, until a cleanup whose cutoff is not before the event's time. -/

namespace EventGateway.Journey
open Lib Lib.BucketIndex Ingest Kafka Replay Replay.InMemoryEventStore Subscription Api

section Keeping
variable {ω : Type} {engine : RegexpEngine} {world : World ω} {relay after : Relay ω engine} {way next : Way}
  {ways : List Way} {event : Event}

def Relay.history (relay : Relay ω engine) : History := ⟨relay.store, relay.clock, relay.cutoff⟩

def Relay.Retains (relay : Relay ω engine) (event : Event) : Prop := ∀ cutoff ∈ relay.cutoff, cutoff < event.timestamp

structure Kept (relay : Relay ω engine) : Prop where
  sound : relay.history.Sound
  known : ∀ key, ∀ event ∈ relay.store.bucket key, event ∈ relay.stored
  retained : ∀ event ∈ relay.stored, relay.Retains event → event ∈ relay.store.events

theorem sound_later {history : History} (sound : history.Sound) {clock : Time} (later : history.clock ≤ clock) :
    History.Sound { history with clock } where
  indexed := sound.indexed
  past cutoff known := (sound.past cutoff known).trans (Int.add_le_add_right later _)

theorem storeEvent_history (world : World ω) (event : Event) (relay : Relay ω engine) :
    ∃ clock, relay.history.step (.store (some event) clock) = some (storeEvent world event relay).2.history := by
  have passes (relay : Relay ω engine) : relay.clock ≤ (readClock world relay).1 :=
    Int.le_add_of_nonneg_right (Int.natCast_nonneg _)
  let seen := readClock world relay
  let cleaned := readClock world seen.2
  let stamped := readClock world cleaned.2
  refine ⟨⟨seen.1, cleaned.1, stamped.1⟩, ?_⟩
  have ordered : relay.clock ≤ seen.1 ∧ seen.1 ≤ cleaned.1 ∧ cleaned.1 ≤ stamped.1 :=
    ⟨passes relay, passes seen.2, passes cleaned.2⟩
  refine (if_pos ordered).trans ?_
  by_cases due : relay.store.cleanupDue ⟨seen.1, cleaned.1, stamped.1⟩
  · refine (if_pos due).trans ?_
    have same : (storeEvent world event relay).2 = _ := congrArg Prod.snd (if_pos due)
    rw [same]
    rfl
  · refine (if_neg due).trans ?_
    have same : (storeEvent world event relay).2 = _ := congrArg Prod.snd (if_neg due)
    rw [same]
    rfl

theorem mem_bucket_add {ies : InMemoryEventStore} {event other : Event} {key : Int}
    (member : other ∈ (ies.add event).bucket key) : other ∈ ies.bucket key ∨ other = event := by
  rw [bucket_add] at member
  unfold insertIndex at member
  split at member
  next => exact (List.mem_append.mp member).imp_right List.mem_singleton.mp
  next => exact .inl member

theorem mem_bucket_cleanup {ies : InMemoryEventStore} {now : Time} {event : Event} {key : Int}
    (member : event ∈ (ies.cleanup now).bucket key) : event ∈ ies.bucket key := by
  rw [bucket_cleanup] at member
  unfold pruneIndex at member
  split at member
  next => cases member
  next => exact member

theorem Kept.storeEvent (kept : Kept relay) (world : World ω) (event : Event) :
    Kept (storeEvent world event relay).2 := by
  obtain ⟨clock, stepped⟩ := storeEvent_history world event relay
  have sound := History.sound_step kept.sound stepped
  obtain ⟨-, stored, -⟩ := storeEvent_frame world event relay
  generalize (Journey.storeEvent world event relay).2 = after at *
  have added {key : Int} {other : Event} (member : other ∈ (relay.store.add event).bucket key) : other ∈ after.stored := by
    rw [stored]
    rcases mem_bucket_add member with old | rfl
    · exact List.mem_append_left _ (kept.known key other old)
    · exact List.mem_append_right _ List.mem_cons_self
  have listed {other : Event} (member : other ∈ after.stored) (young : other ∈ relay.stored → relay.Retains other) :
      other ∈ (relay.store.add event).events := by
    rw [stored] at member
    rcases List.mem_append.mp member with old | new
    · exact List.mem_append_left _ (kept.retained other old (young old))
    · exact List.mem_append_right _ new
  rcases History.step_cases stepped with ⟨_, none, -⟩ | ⟨_, _, op, -, -, same⟩ | ⟨_, clock, op, -, later, -, same⟩ | ⟨none, -⟩
  · cases none
  · cases op
    have store : after.store = relay.store.add event := congrArg History.store same
    have cutoff : after.cutoff = relay.cutoff := congrArg History.cutoff same
    refine ⟨sound, fun key other member => added (store ▸ member), fun other member young => ?_⟩
    rw [store]
    exact listed member (fun _ latest known => young latest (cutoff ▸ known))
  · cases op
    have store : after.store = { (relay.store.add event).cleanup clock.cleanup with lastCleanup := clock.stamp } :=
      congrArg History.store same
    have cutoff : after.cutoff = some (relay.store.cutoffTime clock.cleanup) := congrArg History.cutoff same
    refine ⟨sound, fun key other member => ?_, fun other member young => ?_⟩
    · rw [store] at member
      exact added (mem_bucket_cleanup member)
    · have fresh := young _ cutoff
      rw [store]
      refine List.mem_filter.mpr ⟨listed member (fun _ latest known => ?_), decide_eq_true fresh⟩
      have before := kept.sound.past latest known
      exact (before.trans (Int.add_le_add_right later _)).trans_lt fresh
  · cases none

theorem kept_of_marches (marched : Marches Relay.Fresh (fun _ : Incoming => Way.start) Relay.happen (Moves world)
    relay ways) : Kept relay := by
  induction marched with
  | @start relay fresh =>
    have new : relay.history = ⟨newInMemoryEventStore System.storeRetention relay.clock, relay.clock, none⟩ := by
      rw [Relay.history, fresh.store, fresh.cutoff]
    refine ⟨new.symm ▸ History.sound_init _ _, ?_, ?_⟩
    · rw [fresh.store]
      exact nofun
    · rw [fresh.stored]
      exact nofun
  | join _ _ ih => exact ih
  | move _ _ moved ih =>
    cases moved with
    | aside outer clock breaker later => exact ⟨sound_later ih.sound later, ih.known, ih.retained⟩
    | store intake event => exact ih.storeEvent world event
    | receive | write | respond => exact ⟨ih.sound, ih.known, ih.retained⟩
  | disturb _ happened ih =>
    rcases happen_cases happened with ⟨clock, breaker, later, rfl⟩ | ⟨action, gateway, -, -, rfl⟩
    · exact ⟨sound_later ih.sound later, ih.known, ih.retained⟩
    · exact ⟨ih.sound, ih.known, ih.retained⟩

theorem mem_queryByTime {ies : InMemoryEventStore} (keyed : ∀ key, ∀ event ∈ ies.bucket key, bucketOf event.timestamp = key)
    {startTime endTime : Time} (ordered : startTime ≤ endTime) (filter : Option (Event → Bool)) :
    ∃ q, ies.queryByTime startTime endTime filter = .ok q ∧
      (∀ event ∈ q, event ∈ ies.bucket (bucketOf event.timestamp)) ∧
      (FitsUnix startTime → FitsUnix endTime → ∀ event ∈ ies.bucket (bucketOf event.timestamp),
        selects startTime endTime filter event = true → event ∈ q) := by
  refine ⟨_, queryByTime_ok ies ordered filter, fun event member => ?_, fun startFits endFits event member chosen => ?_⟩
  · obtain ⟨key, -, found⟩ := List.mem_flatMap.mp member
    have held := (List.mem_filter.mp found).1
    exact (keyed key event held).symm ▸ held
  · have inside := chosen
    simp only [selects_eq, Bool.and_eq_true, decide_eq_true_eq] at inside
    exact List.mem_flatMap.mpr
      ⟨_, mem_scanned startFits endFits inside.1.1 inside.1.2, List.mem_filter.mpr ⟨member, chosen⟩⟩

theorem Kept.indexed (kept : Kept relay) (listed : event ∈ relay.store.events) :
    event ∈ relay.store.bucket (bucketOf event.timestamp) :=
  (kept.sound.indexed.covers _).subset (List.mem_filter.mpr ⟨listed, decide_eq_true rfl⟩)

/-- A replay finds stored events only, and all that it is asked for and no cleanup has reached. -/
theorem Kept.queried (kept : Kept relay) (filter : EventFilter engine) {startTime endTime : Time}
    (ordered : startTime ≤ endTime) (now : Time) :
    ∃ q, relay.store.query filter (some ⟨startTime, endTime⟩) now = .ok q ∧ (∀ event ∈ q, event ∈ relay.stored) ∧
      (FitsUnix startTime → FitsUnix endTime → ∀ event ∈ relay.stored, relay.Retains event →
        startTime ≤ event.timestamp ∧ event.timestamp ≤ endTime →
        filter.empty = true ∨ filter.matchesEvent event = true → event ∈ q) := by
  obtain ⟨q, answered, held, finds⟩ := mem_queryByTime kept.sound.indexed.keyed ordered
    (some (fun event => if filter.empty then true else filter.matchesEvent event))
  refine ⟨q, answered, fun event member => kept.known _ event (held event member), ?_⟩
  intro startFits endFits event stored young inside wanted
  refine finds startFits endFits event (kept.indexed (kept.retained event stored young)) ?_
  simp only [selects_eq, Bool.and_eq_true, decide_eq_true_eq, Option.getD_some]
  refine ⟨inside, ?_⟩
  split
  next => rfl
  next full => exact wanted.resolve_left full

end Keeping

/-- However ingestion calls are interleaved, and whenever a client has events replayed: the client is sent only events that
some client submitted, as they were submitted; and every event that was acknowledged, lies in the range, passes the filter
and has been reached by no cleanup is sent, if `Unix()` of the bounds does not wrap and the replay goes on to its end. -/
theorem replay_reproduces_submitted {ω : Type} (engine : RegexpEngine) (world : World ω)
    (crew : Crew (Relay ω engine) Ended) (reached : (relayMachine engine world).Reachable crew) (largestBuffer : Int64)
    (request : ProtoReplayRequest) (filter : EventFilter engine) (capacity : Nat)
    (opened : openReplay largestBuffer newReplayService engine (some request) = .ok (.streaming filter capacity)) :
    ∃ q, crew.shared.store.query filter (some ⟨request.startTime.getD 0, request.endTime.getD 0⟩) crew.shared.clock =
        .ok q ∧
      (∀ state, (newReplayService.machine 0 (.ok (q.map some))).Reachable state → ∀ event ∈ state.sent,
        ∃ intake ∈ crew.shared.received, intake.Conveyed event) ∧
      ∀ answer ∈ crew.shared.answered, ∃ event ∈ crew.shared.stored, event.id = answer.2 ∧ answer.1.Conveyed event ∧
        (crew.shared.Retains event → FitsUnix (request.startTime.getD 0) → FitsUnix (request.endTime.getD 0) →
          request.startTime.getD 0 ≤ event.timestamp ∧ event.timestamp ≤ request.endTime.getD 0 →
          filter.empty = true ∨ filter.matchesEvent event = true →
          ∀ state, (newReplayService.machine 0 (.ok (q.map some))).Reaches (fun _ label => label.quiet = true) state →
            state.settled → event ∈ state.sent) := by
  obtain ⟨ways, marched⟩ := marched_of_reachable reached
  have traced := (traced_of_marches marched).1
  have kept := kept_of_marches marched
  obtain ⟨ordered, -⟩ := openReplay_streaming.mp opened
  obtain ⟨q, answered, sound, complete⟩ := kept.queried filter ordered crew.shared.clock
  have all : requested 0 q = q := if_neg (by decide)
  refine ⟨q, answered, ?_, ?_⟩
  · intro state running event sent
    have asked := (sent_initial running).subset sent
    rw [all] at asked
    exact traced.stored event (sound event asked)
  · intro answer member
    obtain ⟨event, stored, id, conveyed, -⟩ := traced.answered answer member
    refine ⟨event, stored, id, conveyed, fun young startFits endFits inside wanted state running settled => ?_⟩
    rw [sent_whole (by decide) (by decide) running settled, all]
    exact complete startFits endFits event stored young inside wanted

theorem spaced_event_replayed : ∃ crew : Crew (Relay Unit .none) Ended, (relayMachine .none calmWorld).Reachable crew ∧
    openReplay 17592186044416 newReplayService .none (some ⟨none, none, none⟩) =
      .ok (.streaming (EventFilter.matchAll .none) 100) ∧
    ∃ q state, crew.shared.store.query (EventFilter.matchAll .none) (some ⟨0, 0⟩) crew.shared.clock = .ok q ∧
      (newReplayService.machine 0 (.ok (q.map some))).Reachable state ∧ ∃ event ∈ state.sent, event.data = [0x20, 0x31] ∧
        ∃ intake ∈ crew.shared.received, intake.Conveyed event := by
  obtain ⟨crew, reached, -, -, found⟩ := calmRun_reached
  have opened : openReplay 17592186044416 newReplayService .none (some ⟨none, none, none⟩) =
      .ok (.streaming (EventFilter.matchAll .none) 100) := rfl
  obtain ⟨q, answered, sound, -⟩ := replay_reproduces_submitted .none calmWorld crew reached _ _ _ _ opened
  have whole : q = spacedEntity.toList := by
    have same : (Except.ok q : Except String (List Event)).toOption = some spacedEntity.toList := answered ▸ found
    exact Option.some.inj same
  obtain ⟨state, running, sent⟩ := (newReplayService.machine 0 (.ok (spacedEntity.toList.map some))).reaches_of_run
    (fun _ _ => True) .initial [.newTicker, .query, .check, .offer, .check, .receive, .send true]
    (fun state => decide (∃ event ∈ state.sent, event.data = [0x20, 0x31])) rfl (by decide +kernel)
  obtain ⟨event, member, data⟩ := of_decide_eq_true sent
  exact ⟨crew, reached, opened, q, state, answered, whole ▸ running, event, member, data,
    sound state (whole ▸ running) event member⟩

end EventGateway.Journey
