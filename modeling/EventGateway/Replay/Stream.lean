import EventGateway.Lib.Conduit
import EventGateway.Replay.Service

/-! What a replay sends to its client, over every interleaving of the two loops. Each loop is a
conduit: `streamReplayEvents` passes on what it plans to send, the handler what was offered to
the channel. Termination has two halves, that some loop can always move until both are over, and
a weight that every step lowers. -/

namespace EventGateway.Replay
open Lib

section MoveTo
variable (state : ReplayState) (place : StreamerAt)

@[simp] theorem moveTo_streamer : (state.moveTo place).streamer = place := rfl

@[simp] theorem moveTo_buffer : (state.moveTo place).buffer = state.buffer := rfl

@[simp] theorem moveTo_handler : (state.moveTo place).handler = state.handler := rfl

@[simp] theorem moveTo_done : (state.moveTo place).done = state.done := rfl

end MoveTo

/-- The pointers of the plan that `streamReplayEvents` still has before it. -/
def StreamerAt.held (plan : List (Option Event)) : StreamerAt → List (Option Event)
  | .unstarted | .querying => plan
  | .looping _ rest | .pausing _ rest => rest
  | .sending _ event rest => event :: rest
  | .failed | .cancelled | .completed | .panicked _ => []

def StreamerAt.steady : StreamerAt → Bool
  | .cancelled | .panicked _ => false
  | _ => true

def HandlerAt.held : HandlerAt → List (Option Event)
  | .sending event => [some event]
  | _ => []

def HandlerAt.steady : HandlerAt → Bool
  | .returned (.error _) => false
  | _ => true

theorem HandlerAt.got_steady (event : Option Event) : (HandlerAt.got event).steady = true := by
  cases event <;> rfl

theorem HandlerAt.eq_of_over {place : HandlerAt} (ended : place.over = true) (steady : place.steady = true) :
    place = .returned (.ok ()) := by
  cases place with
  | receiving => cases ended
  | sending event => cases ended
  | returned result =>
    cases result with
    | error status => cases steady
    | ok => rfl

theorem StreamerAt.steady_of_running {place : StreamerAt} (running : place.over = false) : place.steady = true := by
  cases place <;> first | rfl | cases running

section Places
variable (s : ReplayService) (limit : Int64) (answer : Answer) (index : Nat) (rest plan : List (Option Event))

/-- After a send the loop has the rest before it, unless the batching test panics. -/
theorem afterSend_cases :
    (s.batchSize = 0 ∧ s.afterSend index rest = .panicked .divide) ∨
      (s.batchSize ≠ 0 ∧ (s.afterSend index rest = .pausing (index + 1) rest ∨
        s.afterSend index rest = .looping (index + 1) rest)) := by
  unfold ReplayService.afterSend
  by_cases zero : s.batchSize = 0
  · exact .inl ⟨zero, if_pos zero⟩
  · rw [if_neg zero]
    exact .inr ⟨zero, ite_eq_or_eq _ _ _⟩

theorem afterSend_held (steady : (s.afterSend index rest).steady = true) :
    (s.afterSend index rest).held plan = rest := by
  rcases afterSend_cases s index rest with ⟨-, panics⟩ | ⟨-, pauses | loops⟩
  · rw [panics] at steady
    cases steady
  · rw [pauses, StreamerAt.held]
  · rw [loops, StreamerAt.held]

theorem afterSend_ne_cancelled : s.afterSend index rest ≠ .cancelled := by
  rcases afterSend_cases s index rest with ⟨-, panics⟩ | ⟨-, pauses | loops⟩
  · simp [panics]
  · simp [pauses]
  · simp [loops]

/-- The two outcomes of `time.NewTicker`; the product in the period is not evaluated past here. -/
theorem afterTicker_cases :
    (s.tickerPeriod ≤ 0 ∧ s.afterTicker = .panicked .newTicker) ∨
      (0 < s.tickerPeriod ∧ s.afterTicker = .querying) := by
  by_cases stuck : s.tickerPeriod ≤ 0
  · exact .inl ⟨stuck, if_pos stuck⟩
  · exact .inr ⟨Int64.not_le.mp stuck, if_neg stuck⟩

theorem afterTicker_panics (stuck : s.tickerPeriod ≤ 0) : s.afterTicker = .panicked .newTicker := if_pos stuck

theorem afterTicker_held (steady : s.afterTicker.steady = true) : s.afterTicker.held plan = plan := by
  rcases afterTicker_cases s with ⟨-, panics⟩ | ⟨-, queries⟩
  · rw [panics] at steady
    cases steady
  · rw [queries, StreamerAt.held]

theorem afterTicker_ne_cancelled : s.afterTicker ≠ .cancelled := by
  rcases afterTicker_cases s with ⟨-, panics⟩ | ⟨-, queries⟩
  · simp [panics]
  · simp [queries]

theorem afterQuery_held : (afterQuery limit answer).held (planned limit answer) = planned limit answer := by
  cases answer <;> rfl

end Places

section Runs
variable {s : ReplayService} {limit : Int64} {answer : Answer} {state after : ReplayState} {label : ReplayStep}

/-- Whatever the query answers: the channel is closed by leaving the function and not otherwise,
what is left to send ends the plan, and a panic has its setting as a cause. -/
structure StreamSound (s : ReplayService) (plan : List (Option Event)) (state : ReplayState) : Prop where
  closes : state.closes = if state.streamer.over then 1 else 0
  suffix : state.streamer.held plan <:+ plan
  cause : ∀ cause, state.streamer = .panicked cause →
    (cause = .newTicker ∧ s.tickerPeriod ≤ 0) ∨ (cause = .divide ∧ s.batchSize = 0 ∧ plan ≠ [])

theorem StreamSound.moveTo {plan : List (Option Event)} {place : StreamerAt} (before : StreamSound s plan state)
    (running : state.streamer.over = false) (suffix : place.held plan <:+ plan)
    (cause : ∀ cause, place = .panicked cause →
      (cause = .newTicker ∧ s.tickerPeriod ≤ 0) ∨ (cause = .divide ∧ s.batchSize = 0 ∧ plan ≠ [])) :
    StreamSound s plan (state.moveTo place) := by
  have open' : state.closes = 0 := by rw [before.closes, running, if_neg Bool.false_ne_true]
  refine ⟨?_, suffix, cause⟩
  simp only [ReplayState.moveTo, open', Nat.zero_add]

/-- A send takes the head off what is left, and is the only place where the batching test is made. -/
theorem StreamSound.pass {plan buffer : List (Option Event)} {handler : HandlerAt} {index : Nat}
    {event : Option Event} {rest : List (Option Event)} (before : StreamSound s plan state)
    (here : state.streamer = .sending index event rest) :
    StreamSound s plan ({ state with handler := handler, buffer := buffer }.moveTo (s.afterSend index rest)) := by
  have left : event :: rest <:+ plan := by simpa only [here, StreamerAt.held] using before.suffix
  have same : StreamSound s plan { state with handler := handler, buffer := buffer } :=
    ⟨before.closes, before.suffix, before.cause⟩
  refine same.moveTo (by simp only [here, StreamerAt.over]) ?_ ?_
  · rcases afterSend_cases s index rest with ⟨-, panics⟩ | ⟨-, pauses | loops⟩
    · rw [panics]
      exact List.nil_suffix
    · rw [pauses]
      exact (List.suffix_cons event rest).trans left
    · rw [loops]
      exact (List.suffix_cons event rest).trans left
  · intro cause ended
    rcases afterSend_cases s index rest with ⟨zero, panics⟩ | ⟨-, pauses | loops⟩
    · rw [panics] at ended
      have nonempty : plan ≠ [] := by
        rintro rfl
        cases List.suffix_nil.mp left
      exact .inr ⟨(StreamerAt.panicked.inj ended).symm, zero, nonempty⟩
    · rw [pauses] at ended
      cases ended
    · rw [loops] at ended
      cases ended

theorem StreamSound.step (before : StreamSound s (planned limit answer) state)
    (moved : ReplayMove s limit answer state label after) : StreamSound s (planned limit answer) after := by
  have same {place next : StreamerAt} (here : state.streamer = place)
      (keeps : place.held (planned limit answer) = next.held (planned limit answer)) :
      next.held (planned limit answer) <:+ planned limit answer := by
    rw [← keeps, ← here]
    exact before.suffix
  cases moved with
  | newTicker here =>
    rcases afterTicker_cases s with ⟨stuck, panics⟩ | ⟨-, queries⟩
    · rw [panics]
      exact before.moveTo (by rw [here]; rfl) List.nil_suffix
        (fun _ ended => .inl ⟨(StreamerAt.panicked.inj ended).symm, stuck⟩)
    · rw [queries]
      exact before.moveTo (by rw [here]; rfl) List.suffix_rfl (fun _ ended => by cases ended)
  | query here =>
    refine before.moveTo (by rw [here]; rfl) ?_ ?_
    · rw [afterQuery_held]
    · intro cause ended
      cases answer <;> cases ended
  | finish here => exact before.moveTo (by rw [here]; rfl) List.nil_suffix (fun _ ended => by cases ended)
  | stop here => exact before.moveTo (by rw [here]; rfl) List.nil_suffix (fun _ ended => by cases ended)
  | proceed here => exact before.moveTo (by rw [here]; rfl) (same here rfl) (fun _ ended => by cases ended)
  | offer here => exact before.pass here
  | handOver here => exact before.pass here
  | giveUp here => exact before.moveTo (by rw [here]; rfl) List.nil_suffix (fun _ ended => by cases ended)
  | tick here => exact before.moveTo (by rw [here]; rfl) (same here rfl) (fun _ ended => by cases ended)
  | _ => exact ⟨before.closes, before.suffix, before.cause⟩

theorem streamSound_of_reachable (reached : (s.machine limit answer).Reachable state) :
    StreamSound s (planned limit answer) state := by
  refine reached.invariant _ ?_ ?_
  · rintro _ rfl
    exact ⟨rfl, List.suffix_rfl, fun _ ended => by cases ended⟩
  · intro state label after _ before _ stepped
    exact before.step (replay_step_cases stepped)

/-- What went through the two loops, when the query answered with events and not with nils:
`offered` is what was sent on the channel. -/
structure Streaming (plan : List (Option Event)) (state : ReplayState) (offered : List (Option Event)) : Prop where
  streamer : Conduit (state.streamer.steady = true) plan (state.streamer.held plan) offered
  handler : Conduit (state.handler.steady = true) offered (state.handler.held ++ state.buffer) (state.sent.map some)
  drained : state.handler = .returned (.ok ()) → state.buffer = [] ∧ state.streamer.over = true

variable {plan offered : List (Option Event)}

/-- While `streamReplayEvents` runs, the handler has not seen the end of the channel. -/
theorem Streaming.unfinished (stream : Streaming plan state offered) (running : state.streamer.over = false) :
    state.handler ≠ .returned (.ok ()) := by
  intro ended
  exact Bool.false_ne_true (running.symm.trans (stream.drained ended).2)

theorem Streaming.moveTo {place : StreamerAt} (stream : Streaming plan state offered)
    (running : state.streamer.over = false)
    (stage : Conduit (place.steady = true) plan (place.held plan) offered) :
    Streaming plan (state.moveTo place) offered :=
  ⟨stage, stream.handler, fun ended => absurd ended (stream.unfinished running)⟩

theorem Streaming.keep {place next : StreamerAt} (stream : Streaming plan state offered)
    (here : state.streamer = place) (running : place.over = false)
    (keeps : next.steady = true → next.held plan = place.held plan) :
    Streaming plan (state.moveTo next) offered := by
  subst here
  refine stream.moveTo running ⟨stream.streamer.ordered, fun steady => ?_⟩
  rw [keeps steady]
  exact stream.streamer.whole (StreamerAt.steady_of_running running)

/-- The pointer that is being sent goes to the channel, where the handler's side takes it. -/
theorem Streaming.pass {index : Nat} {event : Option Event} {rest buffer : List (Option Event)}
    {handler : HandlerAt} (stream : Streaming plan state offered) (here : state.streamer = .sending index event rest)
    (stage : Conduit (handler.steady = true) (offered ++ [event]) (handler.held ++ buffer) (state.sent.map some))
    (unfinished : handler ≠ .returned (.ok ())) :
    Streaming plan ({ state with handler := handler, buffer := buffer }.moveTo (s.afterSend index rest))
      (offered ++ [event]) := by
  have sending : Conduit True plan (event :: rest) offered := by
    have now := stream.streamer
    rw [here] at now
    exact now.mono (fun _ => rfl)
  have passed : Conduit True plan rest (offered ++ [event]) := sending.leave trivial
  refine ⟨⟨passed.ordered, fun steady => ?_⟩, stage, fun ended => absurd ended unfinished⟩
  rw [moveTo_streamer] at steady ⊢
  rw [afterSend_held s index rest plan steady]
  exact passed.whole trivial

theorem Streaming.mem_plan {event : Option Event} (stream : Streaming plan state offered)
    (steady : state.handler.steady = true) (waiting : event ∈ state.buffer) : event ∈ plan := by
  refine stream.streamer.ordered.subset ?_
  rw [stream.handler.whole steady]
  exact List.mem_append_right _ (List.mem_append_right _ waiting)

theorem Streaming.step (real : ∀ event ∈ planned limit answer, event ≠ none)
    (sound : StreamSound s (planned limit answer) state) (stream : Streaming (planned limit answer) state offered)
    (moved : ReplayMove s limit answer state label after) :
    ∃ offered, Streaming (planned limit answer) after offered := by
  cases moved with
  | newTicker here => exact ⟨offered, stream.keep here rfl (afterTicker_held s _)⟩
  | query here => exact ⟨offered, stream.keep here rfl (fun _ => afterQuery_held limit answer)⟩
  | finish here => exact ⟨offered, stream.keep here rfl (fun _ => rfl)⟩
  | proceed here => exact ⟨offered, stream.keep here rfl (fun _ => rfl)⟩
  | tick here => exact ⟨offered, stream.keep here rfl (fun _ => rfl)⟩
  | stop here => exact ⟨offered, stream.keep here rfl (fun steady => by cases steady)⟩
  | giveUp here => exact ⟨offered, stream.keep here rfl (fun steady => by cases steady)⟩
  | @offer index event rest here =>
    refine ⟨offered ++ [event], stream.pass here ?_ (stream.unfinished (by rw [here]; rfl))⟩
    rw [← List.append_assoc]
    exact stream.handler.enter id event
  | @handOver index event rest here waiting drained =>
    have member : event ∈ planned limit answer := sound.suffix.subset (by simp [here, StreamerAt.held])
    obtain ⟨event, rfl⟩ := Option.ne_none_iff_exists'.mp (real event member)
    refine ⟨offered ++ [some event], stream.pass here ?_ (by simp [HandlerAt.got])⟩
    have stage : Conduit True (offered ++ [some event]) (state.handler.held ++ state.buffer ++ [some event])
        (state.sent.map some) := stream.handler.enter (fun _ => by rw [waiting]; rfl) (some event)
    simpa only [waiting, drained, HandlerAt.held, HandlerAt.got, List.append_nil, List.nil_append]
      using stage.mono (fun _ => trivial)
  | @receive event rest here next =>
    have steady : state.handler.steady = true := by rw [here]; rfl
    have member : event ∈ planned limit answer := stream.mem_plan steady (next ▸ List.mem_cons_self)
    obtain ⟨event, rfl⟩ := Option.ne_none_iff_exists'.mp (real event member)
    refine ⟨offered, stream.streamer, ?_, fun ended => by cases ended⟩
    have stage : Conduit True offered (state.handler.held ++ state.buffer) (state.sent.map some) :=
      stream.handler.mono (fun _ => steady)
    simpa only [here, next, HandlerAt.held, HandlerAt.got, List.nil_append, List.singleton_append]
      using stage.mono (fun _ => trivial)
  | receiveClosed here drained closed =>
    refine ⟨offered, stream.streamer, ?_, fun _ => ⟨drained, ?_⟩⟩
    · have stage := stream.handler
      rw [here] at stage
      exact stage
    · rw [sound.closes] at closed
      by_contra running
      rw [if_neg running] at closed
      exact Nat.lt_irrefl 0 closed
  | @send event here =>
    refine ⟨offered, stream.streamer, ?_, fun ended => by cases ended⟩
    have stage := stream.handler
    rw [here] at stage
    rw [List.map_append]
    exact Conduit.leave stage rfl
  | sendFails here =>
    exact ⟨offered, stream.streamer, stream.handler.shut (by simp [HandlerAt.steady]), fun ended => by cases ended⟩
  | leave here =>
    exact ⟨offered, stream.streamer, stream.handler.shut (by simp [HandlerAt.steady]), fun ended => by cases ended⟩
  | cancel => exact ⟨offered, stream.streamer, stream.handler, stream.drained⟩
  | release => exact ⟨offered, stream.streamer, stream.handler, stream.drained⟩

theorem streaming_of_reachable (real : ∀ event ∈ planned limit answer, event ≠ none)
    (reached : (s.machine limit answer).Reachable state) :
    ∃ offered, Streaming (planned limit answer) state offered := by
  refine reached.invariant (fun state => ∃ offered, Streaming (planned limit answer) state offered) ?_ ?_
  · rintro _ rfl
    refine ⟨[], ⟨List.nil_prefix, fun _ => rfl⟩, Conduit.empty, fun ended => by cases ended⟩
  · rintro state label after before ⟨offered, stream⟩ - stepped
    exact stream.step real (streamSound_of_reachable before) (replay_step_cases stepped)

structure Undisturbed (state : ReplayState) : Prop where
  released : state.done = true → state.handler = .returned (.ok ())
  streamer : state.streamer ≠ .cancelled
  handler : state.handler.steady = true

theorem Undisturbed.moveTo {place : StreamerAt} (before : Undisturbed state) (uncancelled : place ≠ .cancelled) :
    Undisturbed (state.moveTo place) :=
  ⟨before.released, uncancelled, before.handler⟩

theorem Undisturbed.step (stream : Streaming plan state offered) (before : Undisturbed state)
    (quiet : label.quiet = true) (moved : ReplayMove s limit answer state label after) : Undisturbed after := by
  have running {place : StreamerAt} (here : state.streamer = place) (running : place.over = false) :
      state.done ≠ true :=
    fun done => stream.unfinished (here ▸ running) (before.released done)
  have busy {place : HandlerAt} (here : state.handler = place) (busy : place ≠ .returned (.ok ())) :
      state.done ≠ true :=
    fun done => busy (here.symm.trans (before.released done))
  cases moved with
  | newTicker => exact before.moveTo (afterTicker_ne_cancelled s)
  | query => exact before.moveTo (by cases answer <;> simp [afterQuery])
  | finish => exact before.moveTo (by simp)
  | proceed => exact before.moveTo (by simp)
  | tick => exact before.moveTo (by simp)
  | stop here done => exact absurd done (running here rfl)
  | giveUp here done => exact absurd done (running here rfl)
  | offer here => exact ⟨before.released, afterSend_ne_cancelled s _ _, before.handler⟩
  | handOver here waiting =>
    exact ⟨fun done => absurd done (running here rfl), afterSend_ne_cancelled s _ _, HandlerAt.got_steady _⟩
  | receive here =>
    exact ⟨fun done => absurd done (busy here (by simp)), before.streamer, HandlerAt.got_steady _⟩
  | receiveClosed => exact ⟨fun _ => rfl, before.streamer, rfl⟩
  | send here => exact ⟨fun done => absurd done (busy here (by simp)), before.streamer, rfl⟩
  | sendFails => cases quiet
  | leave here done => exact absurd done (busy here (by simp))
  | cancel => cases quiet
  | release ended => exact ⟨fun _ => HandlerAt.eq_of_over ended before.handler, before.streamer, before.handler⟩

theorem undisturbed_of_reaches (real : ∀ event ∈ planned limit answer, event ≠ none)
    (reached : (s.machine limit answer).Reaches (fun _ label => label.quiet = true) state) : Undisturbed state := by
  refine reached.invariant Undisturbed ?_ ?_
  · rintro _ rfl
    exact ⟨fun done => absurd done Bool.false_ne_true, by simp [ReplayState.initial], rfl⟩
  · intro state label after reached before quiet stepped
    obtain ⟨offered, stream⟩ := streaming_of_reachable real reached.reachable
    exact before.step stream quiet (replay_step_cases stepped)

theorem sent_eq_of_settled (stream : Streaming plan state offered) (calm : Undisturbed state)
    (alive : ∀ cause, state.streamer ≠ .panicked cause) (settled : state.settled) : state.sent.map some = plan := by
  obtain ⟨streamed, handled, -⟩ := settled
  have ended : state.handler = .returned (.ok ()) := HandlerAt.eq_of_over handled calm.handler
  have steady : state.streamer.steady = true ∧ state.streamer.held plan = [] := by
    cases here : state.streamer with
    | cancelled => exact absurd here calm.streamer
    | panicked cause => exact absurd here (alive cause)
    | failed => exact ⟨rfl, rfl⟩
    | completed => exact ⟨rfl, rfl⟩
    | _ =>
      rw [here] at streamed
      cases streamed
  calc state.sent.map some
      = state.sent.map some ++ (state.handler.held ++ state.buffer) := by
        simp [(stream.drained ended).1, ended, HandlerAt.held]
    _ = offered := (stream.handler.whole calm.handler).symm
    _ = offered ++ state.streamer.held plan := by rw [steady.2, List.append_nil]
    _ = plan := (stream.streamer.whole steady.1).symm

/-- Until both loops are over and the context is released, some step of theirs is possible: a
full channel is emptied by the handler, and a handler that has returned lets go of the context. -/
theorem replay_unblocked (sound : StreamSound s plan state)
    (blocked : ∀ label, label.quiet = true → s.step limit answer state label = none) : state.settled := by
  have handler (busy : state.handler.over = false) (ready : state.buffer ≠ [] ∨ state.streamer.over = true) :
      False := by
    cases here : state.handler with
    | receiving =>
      cases next : state.buffer with
      | nil =>
        have ended : state.streamer.over = true := ready.resolve_left (fun full => full next)
        have closed : state.closes = 1 := by rw [sound.closes, if_pos ended]
        simpa [ReplayService.step, here, next, closed] using blocked .receiveClosed rfl
      | cons event rest => simpa [ReplayService.step, here, next] using blocked .receive rfl
    | sending event => simpa [ReplayService.step, here] using blocked (.send true) rfl
    | returned result =>
      rw [here] at busy
      cases busy
  have released (ended : state.handler.over = true) : state.done = true := by
    by_contra ongoing
    simpa [ReplayService.step, ended, ongoing] using blocked .release rfl
  have streamed : state.streamer.over = true := by
    cases here : state.streamer with
    | unstarted => simpa [ReplayService.step, here] using blocked .newTicker rfl
    | querying => simpa [ReplayService.step, here] using blocked .query rfl
    | looping index rest =>
      cases rest with
      | nil => simpa [ReplayService.step, here] using blocked .check rfl
      | cons event rest => simpa [ReplayService.step, here] using blocked .check rfl
    | pausing index rest => simpa [ReplayService.step, here] using blocked .tick rfl
    | sending index event rest =>
      exfalso
      by_cases done : state.done = true
      · simpa [ReplayService.step, here, done] using blocked .giveUp rfl
      have busy : state.handler.over = false := Bool.eq_false_iff.mpr (fun ended => done (released ended))
      by_cases drained : state.buffer = []
      · cases waiting : state.handler with
        | receiving => simpa [ReplayService.step, here, waiting, drained] using blocked .handOver rfl
        | sending event => simpa [ReplayService.step, waiting] using blocked (.send true) rfl
        | returned result =>
          rw [waiting] at busy
          cases busy
      · exact handler busy (.inl drained)
    | _ => rfl
  have handled : state.handler.over = true := by
    by_contra busy
    exact handler (Bool.eq_false_iff.mpr busy) (.inr streamed)
  exact ⟨streamed, handled, released handled⟩

end Runs

section Weight

def StreamerAt.weight (plan : List (Option Event)) : StreamerAt → Nat
  | .unstarted => 6 * plan.length + 3
  | .querying => 6 * plan.length + 2
  | .looping _ rest => 6 * rest.length + 1
  | .sending _ _ rest => 6 * rest.length + 6
  | .pausing _ rest => 6 * rest.length + 2
  | .failed | .cancelled | .completed | .panicked _ => 0

def HandlerAt.weight : HandlerAt → Nat
  | .receiving => 1
  | .sending _ => 3
  | .returned _ => 0

/-- How many steps can still be made at most: a pointer is checked, sent, perhaps followed by a
pause, received and sent on; the context is cancelled or released once. -/
def ReplayState.weight (plan : List (Option Event)) (state : ReplayState) : Nat :=
  state.streamer.weight plan + 3 * state.buffer.length + state.handler.weight + (!state.done).toNat

variable {s : ReplayService} {limit : Int64} {answer : Answer} {state after : ReplayState} {label : ReplayStep}

theorem HandlerAt.weight_got (event : Option Event) : (HandlerAt.got event).weight ≤ 3 := by
  cases event <;> simp [HandlerAt.got, HandlerAt.weight]

theorem afterSend_weight (s : ReplayService) (index : Nat) (rest plan : List (Option Event)) :
    (s.afterSend index rest).weight plan ≤ 6 * rest.length + 2 := by
  rcases afterSend_cases s index rest with ⟨-, panics⟩ | ⟨-, pauses | loops⟩
  · simp [panics, StreamerAt.weight]
  · simp [pauses, StreamerAt.weight]
  · simp [loops, StreamerAt.weight]

theorem afterQuery_weight :
    (afterQuery limit answer).weight (planned limit answer) ≤ 6 * (planned limit answer).length + 1 := by
  cases answer <;> simp [afterQuery, planned, StreamerAt.weight]

theorem weight_moveTo {plan : List (Option Event)} {place : StreamerAt}
    (lighter : place.weight plan < state.streamer.weight plan) :
    (state.moveTo place).weight plan < state.weight plan := by
  unfold ReplayState.weight
  simp only [moveTo_streamer, moveTo_buffer, moveTo_handler, moveTo_done]
  omega

theorem weight_pass {plan buffer rest : List (Option Event)} {handler : HandlerAt} {index : Nat}
    {event : Option Event} (here : state.streamer = .sending index event rest)
    (taken : 3 * buffer.length + handler.weight ≤ 3 * state.buffer.length + state.handler.weight + 3) :
    ({ state with handler := handler, buffer := buffer }.moveTo (s.afterSend index rest)).weight plan <
      state.weight plan := by
  have next := afterSend_weight s index rest plan
  have now : state.streamer.weight plan = 6 * rest.length + 6 := by rw [here, StreamerAt.weight]
  unfold ReplayState.weight
  simp only [moveTo_streamer, moveTo_buffer, moveTo_handler, moveTo_done]
  omega

theorem weight_lowered (moved : ReplayMove s limit answer state label after) :
    after.weight (planned limit answer) < state.weight (planned limit answer) := by
  cases moved with
  | newTicker here =>
    rcases afterTicker_cases s with ⟨-, panics⟩ | ⟨-, queries⟩
    · rw [panics]
      exact weight_moveTo (by simp [here, StreamerAt.weight])
    · rw [queries]
      exact weight_moveTo (by simp [here, StreamerAt.weight])
  | query here =>
    refine weight_moveTo (afterQuery_weight.trans_lt ?_)
    simp [here, StreamerAt.weight]
  | finish here | stop here | giveUp here => exact weight_moveTo (by simp [here, StreamerAt.weight])
  | tick here => exact weight_moveTo (by simp [here, StreamerAt.weight])
  | proceed here =>
    refine weight_moveTo ?_
    simp only [here, StreamerAt.weight, List.length_cons]
    omega
  | offer here =>
    refine weight_pass here ?_
    simp only [List.length_append, List.length_singleton]
    omega
  | @handOver _ event _ here =>
    refine weight_pass here ?_
    have got := HandlerAt.weight_got event
    omega
  | @receive event _ here next =>
    have got := HandlerAt.weight_got event
    have now : state.handler.weight = 1 := by rw [here, HandlerAt.weight]
    simp only [ReplayState.weight, next, List.length_cons]
    omega
  | receiveClosed here => simp [ReplayState.weight, here, HandlerAt.weight]
  | send here => simp [ReplayState.weight, here, HandlerAt.weight]
  | sendFails here => simp [ReplayState.weight, here, HandlerAt.weight]
  | leave here => simp [ReplayState.weight, here, HandlerAt.weight]
  | cancel ongoing => simp [ReplayState.weight, ongoing]
  | release _ ongoing => simp [ReplayState.weight, ongoing]

end Weight
def requested (limit : Int64) (q : List Event) : List Event :=
  if 0 < limit then q.take limit.toInt.toNat else q

theorem planned_eq (limit : Int64) (q : List Event) :
    planned limit (.ok (q.map some)) = (requested limit q).map some := by
  simp only [planned, truncate, requested, List.length_map]
  by_cases positive : 0 < limit
  · rw [if_pos positive, List.map_take]
    split
    next => rfl
    next short =>
      have within : q.length ≤ limit.toInt.toNat := by
        have bound : ¬limit.toInt < q.length := fun longer => short ⟨positive, longer⟩
        omega
      rw [List.take_of_length_le (by rwa [List.length_map])]
  · rw [if_neg positive, if_neg (fun both => positive both.1)]

theorem planned_real {limit : Int64} {q : List Event} {event : Option Event}
    (member : event ∈ planned limit (.ok (q.map some))) : event ≠ none := by
  rw [planned_eq] at member
  obtain ⟨real, -, rfl⟩ := List.mem_map.mp member
  exact Option.some_ne_none real

theorem planned_eq_nil (limit : Int64) {answer : Answer} :
    planned limit answer = [] ↔ ∀ events, answer = .ok events → events = [] := by
  cases answer with
  | error err => exact iff_of_true rfl (fun _ absent => by cases absent)
  | ok events =>
    have kept : truncate limit events = [] ↔ events = [] := by
      unfold truncate
      split
      next both =>
        have positive : 0 < limit.toInt := Int64.lt_iff_toInt_lt.mp both.1
        rw [List.take_eq_nil_iff]
        refine or_iff_right ?_
        omega
      next => rfl
    exact kept.trans ⟨fun nothing _ same => Except.ok.inj same ▸ nothing, fun all => all events rfl⟩

structure ReplayService.Positive (s : ReplayService) : Prop where
  batchSize : 1 ≤ s.batchSize
  rateLimitMS : 1 ≤ s.rateLimitMS
  channelBufferSize : 0 ≤ s.channelBufferSize

/-- A replay of the events `q`: the client is sent an initial segment of what it asked for, and everything without a
cancellation or a failing send; the channel is closed once; every run ends, and where only those two are left both
loops are over. -/
structure FaithfulReplay (largestBuffer : Int64) (s : ReplayService) (limit : Int64) (q : List Event) : Prop where
  made : ∀ engine request filter, ReplayRequest.accepted engine request = .ok filter →
    s.replayEvents largestBuffer engine request = .streaming filter s.capacity
  ordered : ∀ state, (s.machine limit (.ok (q.map some))).Reachable state → state.sent <+: requested limit q
  closed : ∀ state, (s.machine limit (.ok (q.map some))).Reachable state →
    state.closes ≤ 1 ∧ (state.settled → state.closes = 1)
  bounded : ∀ labels state,
    (s.machine limit (.ok (q.map some))).run (fun _ _ => True) .initial labels = some state →
    labels.length ≤ 6 * (requested limit q).length + 5
  unblocked : ∀ state, (s.machine limit (.ok (q.map some))).Reachable state →
    (∀ label, label.quiet = true → s.step limit (.ok (q.map some)) state label = none) → state.settled
  whole : ∀ state, (s.machine limit (.ok (q.map some))).Reaches (fun _ label => label.quiet = true) state →
    state.settled → state.sent = requested limit q

section Faithful
variable {s : ReplayService} {limit : Int64} {q : List Event} {state : ReplayState}

theorem sent_initial (reached : (s.machine limit (.ok (q.map some))).Reachable state) :
    state.sent <+: requested limit q := by
  obtain ⟨offered, stream⟩ := streaming_of_reachable (fun _ => planned_real) reached
  have sent := stream.handler.ordered.trans stream.streamer.ordered
  rw [planned_eq] at sent
  obtain ⟨segment, initial, same⟩ := List.prefix_map_iff.mp sent
  rwa [List.map_injective_iff.mpr (Option.some_injective _) same]

theorem closed_once {answer : Answer} (reached : (s.machine limit answer).Reachable state) :
    state.closes ≤ 1 ∧ (state.settled → state.closes = 1) := by
  have closes := (streamSound_of_reachable reached).closes
  constructor
  · rw [closes]
    split <;> omega
  · rintro ⟨ended, -⟩
    rw [closes, if_pos ended]

theorem run_bounded {labels : List ReplayStep}
    (ran : (s.machine limit (.ok (q.map some))).run (fun _ _ => True) .initial labels = some state) :
    labels.length ≤ 6 * (requested limit q).length + 5 := by
  have spent := Machine.length_add_le_of_run (ReplayState.weight (planned limit (.ok (q.map some))))
    (fun _ _ _ stepped => weight_lowered (replay_step_cases stepped)) ran
  have start : ReplayState.initial.weight (planned limit (.ok (q.map some))) = 6 * (requested limit q).length + 5 := by
    rw [planned_eq]
    simp [ReplayState.weight, ReplayState.initial, StreamerAt.weight, HandlerAt.weight]
  omega

theorem sent_whole (batches : s.batchSize ≠ 0) (ticks : 0 < s.tickerPeriod)
    (reached : (s.machine limit (.ok (q.map some))).Reaches (fun _ label => label.quiet = true) state)
    (settled : state.settled) : state.sent = requested limit q := by
  obtain ⟨offered, stream⟩ := streaming_of_reachable (fun _ => planned_real) reached.reachable
  have alive (cause : ReplayPanic) : state.streamer ≠ .panicked cause := by
    intro panicked
    rcases (streamSound_of_reachable reached.reachable).cause cause panicked with ⟨-, stuck⟩ | ⟨-, zero, -⟩
    · exact absurd ticks (Int64.not_lt.mpr stuck)
    · exact batches zero
  have calm := undisturbed_of_reaches (fun _ => planned_real) reached
  have sent := sent_eq_of_settled stream calm alive settled
  rw [planned_eq] at sent
  exact (List.map_injective_iff.mpr (Option.some_injective _)) sent

end Faithful

theorem newTicker_reached (s : ReplayService) (limit : Int64) (answer : Answer) :
    (s.machine limit answer).Reaches (fun _ label => label.quiet = true)
      (ReplayState.initial.moveTo s.afterTicker) := by
  have start : (s.machine limit answer).Reaches (fun _ label => label.quiet = true) .initial := .start rfl
  have stepped : (s.machine limit answer).step .initial .newTicker =
      some (ReplayState.initial.moveTo s.afterTicker) := by
    simp only [ReplayService.machine, ReplayService.step, ReplayState.initial, if_true]
  exact .next start rfl stepped

/-- After a ticker with a period that is not positive: the panic has closed the channel, which the
handler, if it still gets to run, takes for the end of the stream. -/
def afterTickerPanic : ReplayState where
  streamer := .panicked .newTicker
  buffer := []
  closes := 1
  handler := .returned (.ok ())
  done := true
  sent := []

theorem afterTickerPanic_reached {s : ReplayService} {limit : Int64} {answer : Answer} (stuck : s.tickerPeriod ≤ 0) :
    (s.machine limit answer).Reaches (fun _ label => label.quiet = true) afterTickerPanic := by
  have ticker := newTicker_reached s limit answer
  rw [afterTicker_panics s stuck] at ticker
  exact Machine.Reaches.run [.receiveClosed, .release] ticker rfl

def replayEverything : ReplayRequest := ⟨0, 0, none, 0⟩

theorem replayEvents_streaming {largestBuffer : Int64} {s : ReplayService} :
    (∀ engine request filter, ReplayRequest.accepted engine request = .ok filter →
      s.replayEvents largestBuffer engine request = .streaming filter s.capacity) ↔ s.Makes largestBuffer := by
  constructor
  · intro streams
    have streaming := streams .none replayEverything _ rfl
    by_contra refused
    exact absurd ((if_neg refused).symm.trans streaming) nofun
  · intro made engine request filter accepted
    simp only [ReplayService.replayEvents, accepted, if_pos made]

/-- Positive settings make a replay faithful, provided that there is room for the buffer, and that the rate limit is still
positive when it is converted to nanoseconds or there is nothing to send. -/
theorem faithfulReplay_iff (largestBuffer : Int64) (s : ReplayService) (limit : Int64) (q : List Event)
    (positive : s.Positive) :
    FaithfulReplay largestBuffer s limit q ↔
      s.channelBufferSize ≤ largestBuffer ∧ (0 < s.tickerPeriod ∨ requested limit q = []) := by
  constructor
  · intro faithful
    refine ⟨(replayEvents_streaming.mp faithful.made).2, ?_⟩
    by_contra neither
    obtain ⟨stuck, asked⟩ := not_or.mp neither
    have sent := faithful.whole _ (afterTickerPanic_reached (Int64.not_lt.mp stuck)) ⟨rfl, rfl, rfl⟩
    exact asked sent.symm
  · rintro ⟨room, enough⟩
    refine ⟨replayEvents_streaming.mpr ⟨positive.channelBufferSize, room⟩, fun _ => sent_initial,
      fun _ => closed_once, fun _ _ => run_bounded, ?_, ?_⟩
    · intro state reached blocked
      exact replay_unblocked (streamSound_of_reachable reached) blocked
    · intro state reached settled
      rcases enough with ticks | nothing
      · refine sent_whole ?_ ticks reached settled
        intro zero
        exact absurd positive.batchSize (by rw [zero]; decide)
      · have sent := sent_initial reached.reachable
        rw [nothing] at sent ⊢
        exact List.prefix_nil.mp sent

theorem faithfulReplay_default :
    newReplayService.Positive ∧
      FaithfulReplay 17592186044416 newReplayService 2 [.sample "a" 1, .sample "b" 2, .sample "c" 3] := by
  have positive : newReplayService.Positive := ⟨by decide, by decide, by decide⟩
  exact ⟨positive, (faithfulReplay_iff 17592186044416 newReplayService 2 _ positive).mpr ⟨by decide, .inl (by decide)⟩⟩

/-- A rate limit of `2 ^ 58` milliseconds is no time at all in nanoseconds: the goroutine panics
before it queries the store, and no event is sent although nothing was cancelled. -/
theorem replay_rate_wraps :
    (newReplayService.setRateLimit 288230376151711744).Positive ∧
      (∃ state, ((newReplayService.setRateLimit 288230376151711744).machine 0 (.ok [some (.sample "a" 1)])).Reaches
        (fun _ label => label.quiet = true) state ∧ state.settled ∧ state.handler = .returned (.ok ()) ∧
        state.sent = []) ∧
      ∀ largestBuffer,
        ¬FaithfulReplay largestBuffer (newReplayService.setRateLimit 288230376151711744) 0 [.sample "a" 1] := by
  have reached : ((newReplayService.setRateLimit 288230376151711744).machine 0 (.ok [some (.sample "a" 1)])).Reaches
      (fun _ label => label.quiet = true) afterTickerPanic := afterTickerPanic_reached (by decide)
  refine ⟨⟨by decide, by decide, by decide⟩, ⟨_, reached, ⟨rfl, rfl, rfl⟩, rfl, rfl⟩, ?_⟩
  intro largestBuffer faithful
  have sent := faithful.whole _ reached ⟨rfl, rfl, rfl⟩
  cases sent

section Crashes
variable {engine : RegexpEngine}

def ReplayService.NeverCrashes (largestBuffer : Int64) (s : ReplayService) (engine : RegexpEngine)
    (request : ReplayRequest) (answer : EventFilter engine → Answer) : Prop :=
  match s.replayEvents largestBuffer engine request with
  | .refused _ => True
  | .panicked _ => False
  | .streaming filter _ =>
    ∀ state, (s.machine request.limit (answer filter)).Reachable state → ∀ cause, state.streamer ≠ .panicked cause

theorem divide_reached {s : ReplayService} {limit : Int64} {answer : Answer} (ticks : 0 < s.tickerPeriod)
    (zero : s.batchSize = 0) (something : planned limit answer ≠ []) :
    ∃ state, (s.machine limit answer).Reachable state ∧ state.streamer = .panicked .divide := by
  obtain ⟨event, rest, plan⟩ := List.exists_cons_of_ne_nil something
  have looping : afterQuery limit answer = .looping 0 (event :: rest) := by
    cases answer with
    | error err => cases plan
    | ok events => exact congrArg (StreamerAt.looping 0) plan
  have querying : s.afterTicker = .querying := if_neg (Int64.not_le.mpr ticks)
  have ticker := (newTicker_reached s limit answer).reachable
  rw [querying] at ticker
  refine ⟨{ ReplayState.initial with streamer := .panicked .divide, closes := 1, handler := .got event }, ?_, rfl⟩
  refine Machine.Reaches.run [.query, .check, .handOver] ticker ?_
  simp [Machine.run, ReplayService.machine, ReplayService.step, ReplayState.initial, ReplayState.moveTo,
    ReplayService.afterSend, StreamerAt.over, looping, zero]

/-- The settings with which no accepted request crashes. -/
theorem neverCrashes_iff (largestBuffer : Int64) (s : ReplayService) (engine : RegexpEngine) (request : ReplayRequest)
    (answer : EventFilter engine → Answer) :
    s.NeverCrashes largestBuffer engine request answer ↔ ∀ filter, request.accepted engine = .ok filter →
      (0 ≤ s.channelBufferSize ∧ s.channelBufferSize ≤ largestBuffer) ∧ 0 < s.tickerPeriod ∧
        (s.batchSize ≠ 0 ∨ ∀ events, answer filter = .ok events → events = []) := by
  unfold ReplayService.NeverCrashes ReplayService.replayEvents
  cases accepted : request.accepted engine with
  | error err => simp
  | ok filter =>
    simp only [Except.ok.injEq, forall_eq', ← planned_eq_nil request.limit]
    change _ ↔ s.Makes largestBuffer ∧ _
    by_cases made : s.Makes largestBuffer
    · rw [if_pos made, and_iff_right made]
      constructor
      · intro never
        have ticks : 0 < s.tickerPeriod := by
          by_contra stuck
          exact never _ (afterTickerPanic_reached (Int64.not_lt.mp stuck)).reachable .newTicker rfl
        refine ⟨ticks, ?_⟩
        by_contra neither
        obtain ⟨zero, something⟩ := not_or.mp neither
        obtain ⟨state, reached, panicked⟩ := divide_reached ticks (not_not.mp zero) something
        exact never state reached .divide panicked
      · rintro ⟨ticks, safe⟩ state reached cause panicked
        rcases (streamSound_of_reachable reached).cause cause panicked with ⟨-, stuck⟩ | ⟨-, zero, something⟩
        · exact absurd ticks (Int64.not_lt.mpr stuck)
        · exact safe.elim (fun nonzero => nonzero zero) something
    · rw [if_neg made]
      exact iff_of_false id (fun both => made both.1)

/-- Each setting alone crashes a replay: a negative buffer size in the caller, a rate limit of
zero before the query, a batch size of zero after the first event. The runtime has room for `2 ^ 44` pointers. -/
theorem settings_crash :
    (newReplayService.setChannelBufferSize (-1)).replayEvents 17592186044416 .none replayEverything =
        .panicked .makeChannel ∧
      (∃ state, ((newReplayService.setRateLimit 0).machine 0 (.ok [some (.sample "a" 1)])).Reachable state ∧
        state.streamer = .panicked .newTicker) ∧
      (∃ state, ((newReplayService.setBatchSize 0).machine 0 (.ok [some (.sample "a" 1)])).Reachable state ∧
        state.streamer = .panicked .divide) ∧
      ∀ s ∈ [newReplayService.setChannelBufferSize (-1), newReplayService.setRateLimit 0,
          newReplayService.setBatchSize 0],
        ¬s.NeverCrashes 17592186044416 .none replayEverything (fun _ => .ok [some (.sample "a" 1)]) := by
  have ticker : ((newReplayService.setRateLimit 0).machine 0 (.ok [some (.sample "a" 1)])).Reachable
      afterTickerPanic := (afterTickerPanic_reached (by decide)).reachable
  have batching : ∃ state, ((newReplayService.setBatchSize 0).machine 0 (.ok [some (.sample "a" 1)])).Reachable state ∧
      state.streamer = .panicked .divide := divide_reached (by decide) rfl (List.cons_ne_nil _ _)
  obtain ⟨state, divided, panicked⟩ := batching
  refine ⟨rfl, ⟨_, ticker, rfl⟩, ⟨state, divided, panicked⟩, ?_⟩
  simp only [List.forall_mem_cons, List.not_mem_nil, false_implies, implies_true, and_true]
  exact ⟨fun never => never, fun never => never _ ticker _ rfl, fun never => never _ divided _ panicked⟩

end Crashes
end EventGateway.Replay
