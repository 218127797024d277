import EventGateway.Lib.Machine
import EventGateway.Replay.Store
import EventGateway.Subscription.Request

/-! Replay of stored events. `ReplayEvents` of the service checks the request, makes a channel
and starts `streamReplayEvents`, which queries the store and fills the channel in batches;
`ReplayEvents` of the gRPC handler empties it into the client's stream. The two loops are the
two threads of a machine. The channel carries pointers: the handler takes a nil for the end of
the stream, whether it comes from a closed channel or was sent. -/

namespace EventGateway.Replay
open Lib Subscription

structure ReplayRequest where
  startTime : Time
  endTime : Time
  filter : Option EventFilterDTO
  limit : Int64

structure ReplayService where
  batchSize : Int64
  rateLimitMS : Int64
  channelBufferSize : Int64
  deriving DecidableEq

def newReplayService : ReplayService where
  batchSize := 100
  rateLimitMS := 10
  channelBufferSize := 100

inductive ReplayPanic where
  | makeChannel
  | newTicker
  | divide
  deriving DecidableEq

/-- How the call of `ReplayService.ReplayEvents` ends; the channel of the last case is still
empty and its goroutine has not taken a step. -/
inductive Started (engine : RegexpEngine) where
  | refused (err : String)
  | panicked (cause : ReplayPanic)
  | streaming (filter : EventFilter engine) (capacity : Nat)

def ReplayRequest.accepted (engine : RegexpEngine) (request : ReplayRequest) : Except String (EventFilter engine) :=
  if request.endTime < request.startTime then .error "start time cannot be after end time"
  else match request.filter with
  | some filter => (filter.toValueObject engine).mapError ("invalid filter: " ++ ·)
  | none =>
    (EventFilter.newEventFilter engine "" "" "" ∅ priorityUnspecified).mapError ("invalid default filter: " ++ ·)

namespace ReplayService

def setBatchSize (s : ReplayService) (size : Int64) : ReplayService := { s with batchSize := size }

def setRateLimit (s : ReplayService) (ms : Int64) : ReplayService := { s with rateLimitMS := ms }

def setChannelBufferSize (s : ReplayService) (size : Int64) : ReplayService := { s with channelBufferSize := size }

def capacity (s : ReplayService) : Nat := s.channelBufferSize.toInt.toNat

/-- The size check of `make`; `largestBuffer` is the largest buffer of pointers that the runtime has room for. -/
def Makes (largestBuffer : Int64) (s : ReplayService) : Prop :=
  0 ≤ s.channelBufferSize ∧ s.channelBufferSize ≤ largestBuffer

instance (largestBuffer : Int64) (s : ReplayService) : Decidable (s.Makes largestBuffer) :=
  inferInstanceAs (Decidable (_ ∧ _))

def replayEvents (largestBuffer : Int64) (s : ReplayService) (engine : RegexpEngine) (request : ReplayRequest) :
    Started engine :=
  match request.accepted engine with
  | .error err => .refused err
  | .ok filter => if s.Makes largestBuffer then .streaming filter s.capacity else .panicked .makeChannel

/-- `time.Duration(s.rateLimitMS) * time.Millisecond`, a product of 64-bit integers. -/
def tickerPeriod (s : ReplayService) : Int64 := s.rateLimitMS * 1000000

end ReplayService

structure ProtoReplayRequest where
  startTime : Option Time
  endTime : Option Time
  filter : Option ProtoEventFilter

def replayRequestProtoToDTO : Option ProtoReplayRequest → Option ReplayRequest
  | none => none
  | some protoReq => some {
      startTime := protoReq.startTime.getD 0
      endTime := protoReq.endTime.getD 0
      filter := some (filterProtoToDTO protoReq.filter)
      limit := 0 }

def openReplay (largestBuffer : Int64) (s : ReplayService) (engine : RegexpEngine) (req : Option ProtoReplayRequest) :
    Except Status (Started engine) :=
  if req.isNone then .error ⟨.invalidArgument, "request cannot be nil"⟩
  else match replayRequestProtoToDTO req with
  | none => .error ⟨.invalidArgument, "converted request is nil"⟩
  | some dtoReq =>
    match s.replayEvents largestBuffer engine dtoReq with
    | .refused _ => .error ⟨.internal, "failed to replay events"⟩
    | started => .ok started

/-- The handler comes to its loop exactly if the range is not reversed, the patterns of the filter
compile and the channel can be made; the filter is then the one that was asked for. -/
theorem openReplay_streaming {largestBuffer : Int64} {s : ReplayService} {engine : RegexpEngine}
    {request : ProtoReplayRequest} {filter : EventFilter engine} {capacity : Nat} :
    openReplay largestBuffer s engine (some request) = .ok (.streaming filter capacity) ↔
      request.startTime.getD 0 ≤ request.endTime.getD 0 ∧
        (filterProtoToDTO request.filter).toValueObject engine = .ok filter ∧
        s.Makes largestBuffer ∧ capacity = s.capacity := by
  simp only [openReplay, replayRequestProtoToDTO, ReplayService.replayEvents, ReplayRequest.accepted,
    Option.isNone_some, Bool.false_eq_true, if_false]
  by_cases reversed : request.endTime.getD 0 < request.startTime.getD 0
  · simp [reversed, not_le.mpr reversed]
  · cases (filterProtoToDTO request.filter).toValueObject engine with
    | error err => simp [reversed, Except.mapError]
    | ok built =>
      by_cases made : s.Makes largestBuffer
      · simp [reversed, Except.mapError, made, not_lt.mp reversed, eq_comm]
      · simp [reversed, Except.mapError, made]

abbrev Answer := Except String (List (Option Event))

/-- `if limit > 0 && len(events) > limit { events = events[:limit] }` -/
def truncate (limit : Int64) (events : List (Option Event)) : List (Option Event) :=
  if 0 < limit ∧ limit.toInt < events.length then events.take limit.toInt.toNat else events

/-- The pointers that the loop of `streamReplayEvents` ranges over. -/
def planned (limit : Int64) : Answer → List (Option Event)
  | .error _ => []
  | .ok events => truncate limit events

/-- Where `streamReplayEvents` is. `looping` is the head of the loop with what is left to range
over, `sending` the select that sends, `pausing` the receive from the ticker; the index counts
the iterations that are over. -/
inductive StreamerAt where
  | unstarted
  | querying
  | looping (index : Nat) (rest : List (Option Event))
  | sending (index : Nat) (event : Option Event) (rest : List (Option Event))
  | pausing (index : Nat) (rest : List (Option Event))
  | failed
  | cancelled
  | completed
  | panicked (cause : ReplayPanic)
  deriving DecidableEq

def StreamerAt.over : StreamerAt → Bool
  | .failed | .cancelled | .completed | .panicked _ => true
  | _ => false

inductive HandlerAt where
  | receiving
  | sending (event : Event)
  | returned (result : Except Status Unit)
  deriving DecidableEq

def HandlerAt.over : HandlerAt → Bool
  | .returned _ => true
  | _ => false

def HandlerAt.got : Option Event → HandlerAt
  | none => .returned (.ok ())
  | some event => .sending event

/-- `done` is the context of the stream, which both loops watch; `closes` counts the calls of
`close` and `sent` is what the client was sent. -/
structure ReplayState where
  streamer : StreamerAt
  buffer : List (Option Event)
  closes : Nat
  handler : HandlerAt
  done : Bool
  sent : List Event
  deriving DecidableEq

/-- The state in which `ReplayService.ReplayEvents` returns its channel. -/
def ReplayState.initial : ReplayState where
  streamer := .unstarted
  buffer := []
  closes := 0
  handler := .receiving
  done := false
  sent := []

def ReplayState.settled (state : ReplayState) : Prop :=
  state.streamer.over = true ∧ state.handler.over = true ∧ state.done = true

/-- A step of `streamReplayEvents`; one that leaves the function closes the channel. -/
def ReplayState.moveTo (state : ReplayState) (place : StreamerAt) : ReplayState :=
  { state with streamer := place, closes := if place.over then state.closes + 1 else state.closes }

namespace ReplayService
variable (s : ReplayService)

def afterTicker : StreamerAt := if s.tickerPeriod ≤ 0 then .panicked .newTicker else .querying

/-- The batching test `(i+1)%s.batchSize == 0 && i+1 < len(events)` after a send. -/
def afterSend (index : Nat) (rest : List (Option Event)) : StreamerAt :=
  if s.batchSize = 0 then .panicked .divide
  else if Int.tmod (index + 1) s.batchSize.toInt = 0 ∧ rest ≠ [] then .pausing (index + 1) rest
  else .looping (index + 1) rest

end ReplayService

def afterQuery (limit : Int64) : Answer → StreamerAt
  | .error _ => .failed
  | .ok events => .looping 0 (truncate limit events)

/-- The steps of the two loops, and of the client and the gRPC server. A label that stands for
a select names the branch that was taken. -/
inductive ReplayStep where
  | newTicker
  | query
  | check
  | offer
  | handOver
  | giveUp
  | tick
  | receive
  | receiveClosed
  | send (succeeds : Bool)
  | leave
  | cancel
  | release
  deriving DecidableEq

def ReplayStep.quiet : ReplayStep → Bool
  | .cancel | .send false => false
  | _ => true

/-- One step. The first select of the loop takes its default only while the context is not done. A send succeeds when
the buffer has room (`offer`) or the handler is waiting at an empty one (`handOver`). The server cancels the stream's
context once the handler has returned (`release`). A panic of `streamReplayEvents` closes the channel on its way and
then ends the process; the handler may still move until that happens. -/
def ReplayService.step (s : ReplayService) (limit : Int64) (answer : Answer) (state : ReplayState) :
    ReplayStep → Option ReplayState
  | .newTicker => if state.streamer = .unstarted then some (state.moveTo s.afterTicker) else none
  | .query => if state.streamer = .querying then some (state.moveTo (afterQuery limit answer)) else none
  | .check =>
    match state.streamer with
    | .looping _ [] => some (state.moveTo .completed)
    | .looping index (event :: rest) =>
      some (state.moveTo (if state.done then .cancelled else .sending index event rest))
    | _ => none
  | .offer =>
    match state.streamer with
    | .sending index event rest =>
      if state.buffer.length < s.capacity then
        some ({ state with buffer := state.buffer ++ [event] }.moveTo (s.afterSend index rest))
      else none
    | _ => none
  | .handOver =>
    match state.streamer with
    | .sending index event rest =>
      if state.handler = .receiving ∧ state.buffer = [] then
        some ({ state with handler := .got event }.moveTo (s.afterSend index rest))
      else none
    | _ => none
  | .giveUp =>
    match state.streamer with
    | .sending _ _ _ => if state.done then some (state.moveTo .cancelled) else none
    | _ => none
  | .tick =>
    match state.streamer with
    | .pausing index rest => some (state.moveTo (.looping index rest))
    | _ => none
  | .receive =>
    match state.handler, state.buffer with
    | .receiving, event :: rest => some { state with handler := .got event, buffer := rest }
    | _, _ => none
  | .receiveClosed =>
    if state.handler = .receiving ∧ state.buffer = [] ∧ 0 < state.closes then
      some { state with handler := .returned (.ok ()) }
    else none
  | .send succeeds =>
    match state.handler with
    | .sending event =>
      some (if succeeds then { state with handler := .receiving, sent := state.sent ++ [event] }
        else { state with handler := .returned (.error ⟨.internal, "failed to send event"⟩) })
    | _ => none
  | .leave =>
    if state.handler = .receiving ∧ state.done then
      some { state with handler := .returned (.error ⟨.canceled, "replay canceled"⟩) }
    else none
  | .cancel => if state.done then none else some { state with done := true }
  | .release => if state.handler.over ∧ ¬state.done then some { state with done := true } else none

def ReplayService.machine (s : ReplayService) (limit : Int64) (answer : Answer) :
    Machine ReplayState ReplayStep where
  init := (· = .initial)
  step := s.step limit answer

inductive ReplayMove (s : ReplayService) (limit : Int64) (answer : Answer) (state : ReplayState) :
    ReplayStep → ReplayState → Prop where
  | newTicker (here : state.streamer = .unstarted) :
      ReplayMove s limit answer state .newTicker (state.moveTo s.afterTicker)
  | query (here : state.streamer = .querying) :
      ReplayMove s limit answer state .query (state.moveTo (afterQuery limit answer))
  | finish {index : Nat} (here : state.streamer = .looping index []) :
      ReplayMove s limit answer state .check (state.moveTo .completed)
  | stop {index : Nat} {event : Option Event} {rest : List (Option Event)}
      (here : state.streamer = .looping index (event :: rest)) (done : state.done = true) :
      ReplayMove s limit answer state .check (state.moveTo .cancelled)
  | proceed {index : Nat} {event : Option Event} {rest : List (Option Event)}
      (here : state.streamer = .looping index (event :: rest)) :
      ReplayMove s limit answer state .check (state.moveTo (.sending index event rest))
  | offer {index : Nat} {event : Option Event} {rest : List (Option Event)}
      (here : state.streamer = .sending index event rest) (room : state.buffer.length < s.capacity) :
      ReplayMove s limit answer state .offer
        ({ state with buffer := state.buffer ++ [event] }.moveTo (s.afterSend index rest))
  | handOver {index : Nat} {event : Option Event} {rest : List (Option Event)}
      (here : state.streamer = .sending index event rest) (waiting : state.handler = .receiving)
      (drained : state.buffer = []) :
      ReplayMove s limit answer state .handOver
        ({ state with handler := .got event }.moveTo (s.afterSend index rest))
  | giveUp {index : Nat} {event : Option Event} {rest : List (Option Event)}
      (here : state.streamer = .sending index event rest) (done : state.done = true) :
      ReplayMove s limit answer state .giveUp (state.moveTo .cancelled)
  | tick {index : Nat} {rest : List (Option Event)} (here : state.streamer = .pausing index rest) :
      ReplayMove s limit answer state .tick (state.moveTo (.looping index rest))
  | receive {event : Option Event} {rest : List (Option Event)} (here : state.handler = .receiving)
      (next : state.buffer = event :: rest) :
      ReplayMove s limit answer state .receive { state with handler := .got event, buffer := rest }
  | receiveClosed (here : state.handler = .receiving) (drained : state.buffer = []) (closed : 0 < state.closes) :
      ReplayMove s limit answer state .receiveClosed { state with handler := .returned (.ok ()) }
  | send {event : Event} (here : state.handler = .sending event) :
      ReplayMove s limit answer state (.send true)
        { state with handler := .receiving, sent := state.sent ++ [event] }
  | sendFails {event : Event} (here : state.handler = .sending event) :
      ReplayMove s limit answer state (.send false)
        { state with handler := .returned (.error ⟨.internal, "failed to send event"⟩) }
  | leave (here : state.handler = .receiving) (done : state.done = true) :
      ReplayMove s limit answer state .leave
        { state with handler := .returned (.error ⟨.canceled, "replay canceled"⟩) }
  | cancel (ongoing : state.done = false) : ReplayMove s limit answer state .cancel { state with done := true }
  | release (here : state.handler.over = true) (ongoing : state.done = false) :
      ReplayMove s limit answer state .release { state with done := true }

theorem replay_step_cases {s : ReplayService} {limit : Int64} {answer : Answer} {state after : ReplayState}
    {label : ReplayStep} (stepped : s.step limit answer state label = some after) :
    ReplayMove s limit answer state label after := by
  cases label <;> simp only [ReplayService.step] at stepped
  case newTicker =>
    obtain ⟨here, same⟩ := Option.ite_none_right_eq_some.mp stepped
    exact Option.some.inj same ▸ .newTicker here
  case query =>
    obtain ⟨here, same⟩ := Option.ite_none_right_eq_some.mp stepped
    exact Option.some.inj same ▸ .query here
  case check =>
    split at stepped
    next index here => exact Option.some.inj stepped ▸ .finish here
    next index event rest here =>
      cases done : state.done with
      | true =>
        rw [done, if_pos rfl] at stepped
        exact Option.some.inj stepped ▸ .stop here done
      | false =>
        rw [done, if_neg Bool.false_ne_true] at stepped
        exact Option.some.inj stepped ▸ .proceed here
    next => cases stepped
  case offer =>
    split at stepped
    next index event rest here =>
      obtain ⟨room, same⟩ := Option.ite_none_right_eq_some.mp stepped
      exact Option.some.inj same ▸ .offer here room
    next => cases stepped
  case handOver =>
    split at stepped
    next index event rest here =>
      obtain ⟨⟨waiting, drained⟩, same⟩ := Option.ite_none_right_eq_some.mp stepped
      exact Option.some.inj same ▸ .handOver here waiting drained
    next => cases stepped
  case giveUp =>
    split at stepped
    next index event rest here =>
      obtain ⟨done, same⟩ := Option.ite_none_right_eq_some.mp stepped
      exact Option.some.inj same ▸ .giveUp here done
    next => cases stepped
  case tick =>
    split at stepped
    next index rest here => exact Option.some.inj stepped ▸ .tick here
    next => cases stepped
  case receive =>
    split at stepped
    next event rest here next => exact Option.some.inj stepped ▸ .receive here next
    next => cases stepped
  case receiveClosed =>
    obtain ⟨⟨here, drained, closed⟩, same⟩ := Option.ite_none_right_eq_some.mp stepped
    exact Option.some.inj same ▸ .receiveClosed here drained closed
  case send succeeds =>
    split at stepped
    next event here =>
      cases succeeds with
      | true => exact Option.some.inj stepped ▸ .send here
      | false => exact Option.some.inj stepped ▸ .sendFails here
    next => cases stepped
  case leave =>
    obtain ⟨⟨here, done⟩, same⟩ := Option.ite_none_right_eq_some.mp stepped
    exact Option.some.inj same ▸ .leave here done
  case cancel =>
    obtain ⟨ongoing, same⟩ := Option.ite_none_left_eq_some.mp stepped
    exact Option.some.inj same ▸ .cancel (Bool.eq_false_iff.mpr ongoing)
  case release =>
    obtain ⟨⟨here, ongoing⟩, same⟩ := Option.ite_none_right_eq_some.mp stepped
    exact Option.some.inj same ▸ .release here (Bool.eq_false_iff.mpr ongoing)

end EventGateway.Replay
