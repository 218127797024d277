import EventGateway.Lib.Calls
import EventGateway.Subscription.Delivery
import EventGateway.Subscription.Request

/-! All subscriptions of a gateway, connected as in `run()`: any number of `SubscribeEvents`
calls share one `kafka.Consumer` behind `messagebrokerAdapter`, that is one running flag,
one context and one Kafka reader. Every call has a pipeline of its own, and its steps here
are steps of that pipeline. -/

namespace EventGateway.Subscription
open Lib
variable {engine : RegexpEngine}

/-- A `SubscribeEvents` call that got as far as the message broker. The adapter takes the
filter and does nothing with it. -/
structure Call (engine : RegexpEngine) where
  id : String
  request : ProtoSubscribeRequest
  filter : EventFilter engine
  built : subscribeEvents engine (some request) = .ok filter
  /-- The adapter's goroutine has not called `Consumer.Subscribe` yet. -/
  pending : Bool
  pipe : State

/-- Where a call of `SubscriptionService.Unsubscribe` is after it took its entry out. -/
inductive UnsubscribeAt where
  /-- Before `sub.cancel()`. -/
  | cancelling (index : Nat)
  /-- Before `Consumer.Unsubscribe` tests the flag and cancels the context. -/
  | stopping
  /-- Waiting for the loop, for five seconds at most, and then closing the reader. -/
  | closing
  | returned
  deriving DecidableEq

/-- `running` is `isRunning` together with the call that the loop was started for. -/
structure Gateway (engine : RegexpEngine) where
  calls : List (Call engine)
  subscriptions : Finmap (fun _ : String => Nat)
  running : Option Nat
  readerClosed : Bool
  unsubscribes : List UnsubscribeAt

inductive GatewayAction where
  /-- A client calls `SubscribeEvents`; `generateID` reads the clock twice. -/
  | subscribe (req : Option ProtoSubscribeRequest) (first second : Time)
  /-- The goroutine spawned by the adapter calls `Consumer.Subscribe`. -/
  | adapter (index : Nat)
  /-- `Subscribe` enters the subscription in the map and starts to forward. -/
  | register (index : Nat)
  /-- A step of the call's own goroutines, or its client cancels. -/
  | pipe (index : Nat) (action : Action)
  | unsubscribe (subscriptionID : String)
  /-- The next step of an `Unsubscribe` under way. -/
  | advance (number : Nat)

def Action.own : Action → Bool
  | .start | .subscribed | .cancelSubscription | .cancelConsumer => false
  | _ => true

def Action.fetched : Action → Option Fetch
  | .fetch returned => some returned
  | _ => none

namespace Gateway

def initial : Gateway engine where
  calls := []
  subscriptions := ∅
  running := none
  readerClosed := false
  unsubscribes := []

def setCall (gateway : Gateway engine) (index : Nat) (call : Call engine) : Gateway engine :=
  { gateway with calls := gateway.calls.set index call }

def setUnsubscribe (gateway : Gateway engine) (number : Nat) (place : UnsubscribeAt) : Gateway engine :=
  { gateway with unsubscribes := gateway.unsubscribes.set number place }

def movePipe (wiring : Wiring) (gateway : Gateway engine) (index : Nat) (action : Action) :
    Option (Gateway engine) := do
  let call ← gateway.calls[index]?
  let pipe ← step wiring call.pipe action
  pure (gateway.setCall index { call with pipe })

/-- A closed reader yields no message, and no committed message is fetched again, also not
by a later loop. -/
def Allows (gateway : Gateway engine) (action : Action) : Prop :=
  action.own ∧ ∀ fetch ∈ action.fetched,
    gateway.readerClosed = false ∧ ∀ call ∈ gateway.calls, ¬Covered call.pipe.committed fetch.message

instance (gateway : Gateway engine) (action : Action) : Decidable (gateway.Allows action) :=
  inferInstanceAs (Decidable (_ ∧ _))

def move (wiring : Wiring) (gateway : Gateway engine) : GatewayAction → Option (Gateway engine)
  | .subscribe none _ _ => some gateway
  | .subscribe (some request) first second =>
    match built : subscribeEvents engine (some request) with
    | .error _ => some gateway
    | .ok filter =>
      some { gateway with calls := gateway.calls ++ [{
        id := idText first second
        request, filter, built
        pending := true
        pipe := .initial }] }
  | .adapter index => do
    let call ← gateway.calls[index]?
    if call.pending then
      match gateway.running with
      | some _ => some (gateway.setCall index { call with pending := false })
      | none => do
        let pipe ← step wiring call.pipe .start
        pure { gateway.setCall index { call with pending := false, pipe } with running := some index }
    else none
  | .register index => do
    let call ← gateway.calls[index]?
    let next ← gateway.movePipe wiring index .subscribed
    pure { next with subscriptions := gateway.subscriptions.insert call.id index }
  | .pipe index action =>
    if gateway.Allows action then do
      let next ← gateway.movePipe wiring index action
      pure (if action = .finish then { next with running := none } else next)
    else none
  | .unsubscribe subscriptionID =>
    match gateway.subscriptions.lookup subscriptionID with
    | none => some gateway
    | some index =>
      some { gateway with
        subscriptions := gateway.subscriptions.erase subscriptionID
        unsubscribes := gateway.unsubscribes ++ [.cancelling index] }
  | .advance number =>
    match gateway.unsubscribes[number]? with
    | some (.cancelling index) => do
      let next ← gateway.movePipe wiring index .cancelSubscription
      pure (next.setUnsubscribe number .stopping)
    | some .stopping =>
      match gateway.running with
      | none => some (gateway.setUnsubscribe number .returned)
      | some index => do
        let next ← gateway.movePipe wiring index .cancelConsumer
        pure (next.setUnsubscribe number .closing)
    | some .closing => some { gateway.setUnsubscribe number .returned with readerClosed := true }
    | _ => none

def Alive (gateway : Gateway engine) : Prop := ∀ call ∈ gateway.calls, call.pipe.consumer ≠ .panicked

instance (gateway : Gateway engine) : Decidable gateway.Alive := inferInstanceAs (Decidable (∀ _ ∈ _, _))

def step (wiring : Wiring) (gateway : Gateway engine) (action : GatewayAction) : Option (Gateway engine) :=
  if gateway.Alive then gateway.move wiring action else none

end Gateway

def gatewayMachine (engine : RegexpEngine) (wiring : Wiring) : Machine (Gateway engine) GatewayAction where
  init := (· = .initial)
  step := Gateway.step wiring

/-- As `run()` leaves them: `NewConsumer` sets neither a serializer nor a filter, nobody
calls the setters, and `NewSubscriptionService` takes the default buffer size. -/
def runWiring : Wiring where
  serializer := none
  filter := none
  channelBufferSize := 1000

inductive GatewayMove (wiring : Wiring) (gateway : Gateway engine) : GatewayAction → Gateway engine → Prop where
  | refused (action : GatewayAction) : GatewayMove wiring gateway action gateway
  | subscribe (request : ProtoSubscribeRequest) (first second : Time) (call : Call engine)
      (pending : call.pending) (new : call.pipe = .initial) :
      GatewayMove wiring gateway (.subscribe (some request) first second)
        { gateway with calls := gateway.calls ++ [call] }
  | adapterFails (index owner : Nat) (call : Call engine) (found : gateway.calls[index]? = some call)
      (pending : call.pending) (busy : gateway.running = some owner) :
      GatewayMove wiring gateway (.adapter index) (gateway.setCall index { call with pending := false })
  | adapterStarts (index : Nat) (call : Call engine) (pipe : State) (found : gateway.calls[index]? = some call)
      (pending : call.pending) (free : gateway.running = none)
      (stepped : step wiring call.pipe .start = some pipe) :
      GatewayMove wiring gateway (.adapter index)
        { gateway.setCall index { call with pending := false, pipe } with running := some index }
  | register (index : Nat) (call : Call engine) (pipe : State) (found : gateway.calls[index]? = some call)
      (stepped : step wiring call.pipe .subscribed = some pipe) :
      GatewayMove wiring gateway (.register index)
        { gateway.setCall index { call with pipe } with
          subscriptions := gateway.subscriptions.insert call.id index }
  | pipe (index : Nat) (action : Action) (call : Call engine) (pipe : State)
      (found : gateway.calls[index]? = some call) (allowed : gateway.Allows action) (ongoing : action ≠ .finish)
      (stepped : step wiring call.pipe action = some pipe) :
      GatewayMove wiring gateway (.pipe index action) (gateway.setCall index { call with pipe })
  | finish (index : Nat) (call : Call engine) (pipe : State) (found : gateway.calls[index]? = some call)
      (stepped : step wiring call.pipe .finish = some pipe) :
      GatewayMove wiring gateway (.pipe index .finish)
        { gateway.setCall index { call with pipe } with running := none }
  | unsubscribe (subscriptionID : String) (index : Nat)
      (listed : gateway.subscriptions.lookup subscriptionID = some index) :
      GatewayMove wiring gateway (.unsubscribe subscriptionID)
        { gateway with
          subscriptions := gateway.subscriptions.erase subscriptionID
          unsubscribes := gateway.unsubscribes ++ [.cancelling index] }
  | cancel (number index : Nat) (call : Call engine) (pipe : State)
      (place : gateway.unsubscribes[number]? = some (.cancelling index))
      (found : gateway.calls[index]? = some call)
      (stepped : step wiring call.pipe .cancelSubscription = some pipe) :
      GatewayMove wiring gateway (.advance number)
        ((gateway.setCall index { call with pipe }).setUnsubscribe number .stopping)
  | notRunning (number : Nat) (place : gateway.unsubscribes[number]? = some .stopping)
      (free : gateway.running = none) :
      GatewayMove wiring gateway (.advance number) (gateway.setUnsubscribe number .returned)
  | stop (number index : Nat) (call : Call engine) (pipe : State)
      (place : gateway.unsubscribes[number]? = some .stopping) (busy : gateway.running = some index)
      (found : gateway.calls[index]? = some call)
      (stepped : step wiring call.pipe .cancelConsumer = some pipe) :
      GatewayMove wiring gateway (.advance number)
        ((gateway.setCall index { call with pipe }).setUnsubscribe number .closing)
  | close (number : Nat) (place : gateway.unsubscribes[number]? = some .closing) :
      GatewayMove wiring gateway (.advance number)
        { gateway.setUnsubscribe number .returned with readerClosed := true }

section Inversion
variable {wiring : Wiring} {gateway after : Gateway engine}

theorem movePipe_some {index : Nat} {action : Action} (moved : gateway.movePipe wiring index action = some after) :
    ∃ call pipe, gateway.calls[index]? = some call ∧ step wiring call.pipe action = some pipe ∧
      after = gateway.setCall index { call with pipe } := by
  simp only [Gateway.movePipe, Option.bind_eq_bind, Option.bind_eq_some_iff, Option.pure_def,
    Option.some.injEq] at moved
  obtain ⟨call, found, pipe, stepped, same⟩ := moved
  exact ⟨call, pipe, found, stepped, same.symm⟩

theorem gatewayMove_cases {action : GatewayAction} (moved : gateway.move wiring action = some after) :
    GatewayMove wiring gateway action after := by
  cases action with
  | subscribe req first second =>
    cases req with
    | none =>
      simp only [Gateway.move, Option.some.injEq] at moved
      exact moved ▸ .refused _
    | some request =>
      simp only [Gateway.move] at moved
      split at moved
      next =>
        cases moved
        exact .refused _
      next filter built =>
        cases moved
        exact .subscribe request first second _ rfl rfl
  | adapter index =>
    simp only [Gateway.move, Option.bind_eq_bind, Option.bind_eq_some_iff, Option.pure_def] at moved
    obtain ⟨call, found, moved⟩ := moved
    obtain ⟨pending, moved⟩ := Option.ite_none_right_eq_some.mp moved
    split at moved
    next owner busy =>
      cases moved
      exact .adapterFails index owner call found pending busy
    next free =>
      obtain ⟨pipe, stepped, same⟩ := Option.bind_eq_some_iff.mp moved
      cases same
      exact .adapterStarts index call pipe found pending free stepped
  | register index =>
    simp only [Gateway.move, Option.bind_eq_bind, Option.bind_eq_some_iff, Option.pure_def,
      Option.some.injEq] at moved
    obtain ⟨call, found, next, moved, same⟩ := moved
    obtain ⟨call', pipe, found', stepped, rfl⟩ := movePipe_some moved
    cases found.symm.trans found'
    exact same ▸ .register index call pipe found stepped
  | pipe index action =>
    obtain ⟨allowed, moved⟩ := Option.ite_none_right_eq_some.mp moved
    simp only [Option.bind_eq_bind, Option.bind_eq_some_iff, Option.pure_def, Option.some.injEq] at moved
    obtain ⟨next, moved, same⟩ := moved
    obtain ⟨call, pipe, found, stepped, rfl⟩ := movePipe_some moved
    split at same
    next finishing =>
      subst finishing
      exact same ▸ .finish index call pipe found stepped
    next ongoing => exact same ▸ .pipe index action call pipe found allowed ongoing stepped
  | unsubscribe subscriptionID =>
    simp only [Gateway.move] at moved
    split at moved
    next =>
      cases moved
      exact .refused _
    next index listed =>
      cases moved
      exact .unsubscribe subscriptionID index listed
  | advance number =>
    simp only [Gateway.move] at moved
    split at moved
    next index place =>
      obtain ⟨next, moved, same⟩ := Option.bind_eq_some_iff.mp moved
      obtain ⟨call, pipe, found, stepped, rfl⟩ := movePipe_some moved
      cases same
      exact .cancel number index call pipe place found stepped
    next place =>
      split at moved
      next free =>
        cases moved
        exact .notRunning number place free
      next index busy =>
        obtain ⟨next, moved, same⟩ := Option.bind_eq_some_iff.mp moved
        obtain ⟨call, pipe, found, stepped, rfl⟩ := movePipe_some moved
        cases same
        exact .stop number index call pipe place busy found stepped
    next place =>
      cases moved
      exact .close number place
    next => cases moved

theorem gatewayStep_cases {action : GatewayAction} (stepped : gateway.step wiring action = some after) :
    gateway.Alive ∧ GatewayMove wiring gateway action after := by
  obtain ⟨alive, moved⟩ := Option.ite_none_right_eq_some.mp stepped
  exact ⟨alive, gatewayMove_cases moved⟩

end Inversion

section Introduction
variable {wiring : Wiring} {gateway : Gateway engine} {index : Nat} {call : Call engine} {pipe : State}

/-! The other way round, for the steps that one client takes. -/

theorem step_subscribe (wiring : Wiring) {request : ProtoSubscribeRequest} {filter : EventFilter engine}
    {first second : Time} (alive : gateway.Alive)
    (built : subscribeEvents engine (some request) = .ok filter) :
    gateway.step wiring (.subscribe (some request) first second) = some { gateway with
      calls := gateway.calls ++ [⟨idText first second, request, filter, built, true, .initial⟩] } := by
  rw [Gateway.step, if_pos alive, Gateway.move]
  split
  next err failed =>
    rw [built] at failed
    cases failed
  next other same =>
    cases same.symm.trans built
    rfl

theorem movePipe_found {action : Action} (found : gateway.calls[index]? = some call)
    (stepped : step wiring call.pipe action = some pipe) :
    gateway.movePipe wiring index action = some (gateway.setCall index { call with pipe }) := by
  simp only [Gateway.movePipe, found, Option.bind_eq_bind, Option.bind_some, stepped, Option.pure_def]

theorem step_adapter (alive : gateway.Alive) (found : gateway.calls[index]? = some call) (pending : call.pending)
    (free : gateway.running = none) (stepped : step wiring call.pipe .start = some pipe) :
    gateway.step wiring (.adapter index) =
      some { gateway.setCall index { call with pending := false, pipe } with running := some index } := by
  simp only [Gateway.step, alive, if_true, Gateway.move, found, Option.bind_eq_bind, Option.bind_some, pending,
    free, stepped, Option.pure_def]

theorem step_register (alive : gateway.Alive) (found : gateway.calls[index]? = some call)
    (stepped : step wiring call.pipe .subscribed = some pipe) :
    gateway.step wiring (.register index) = some { gateway.setCall index { call with pipe } with
      subscriptions := gateway.subscriptions.insert call.id index } := by
  simp only [Gateway.step, alive, if_true, Gateway.move, found, Option.bind_eq_bind, Option.bind_some,
    movePipe_found found stepped, Option.pure_def]

theorem step_pipe {action : Action} (alive : gateway.Alive) (found : gateway.calls[index]? = some call)
    (allowed : gateway.Allows action) (stepped : step wiring call.pipe action = some pipe) :
    gateway.step wiring (.pipe index action) = some { gateway.setCall index { call with pipe } with
      running := if action = .finish then none else gateway.running } := by
  simp only [Gateway.step, alive, if_true, Gateway.move, allowed, movePipe_found found stepped,
    Option.bind_eq_bind, Option.bind_some, Option.pure_def]
  split <;> rfl

end Introduction

namespace Gateway

def pipeOf (gateway : Gateway engine) (index : Nat) : Option State := (gateway.calls[index]?).map Call.pipe

end Gateway

def GatewayAction.pipeAction (index : Nat) : GatewayAction → Option Action
  | .pipe other action => if other = index then some action else none
  | _ => none

inductive PipeStep (wiring : Wiring) (label : Option Action) : Option State → Option State → Prop where
  | other (quiet : label = none) (pipe : Option State) : PipeStep wiring label pipe pipe
  | begun (quiet : label = none) : PipeStep wiring label none (some .initial)
  | own (action : Action) (state after : State) (origin : label = some action ∨ label = none ∧ action.own = false)
      (stepped : step wiring state action = some after) : PipeStep wiring label (some state) (some after)

section Projection
variable {wiring : Wiring} {gateway after : Gateway engine} {index other : Nat} {call next : Call engine}

theorem pipeOf_found (found : gateway.calls[index]? = some call) : gateway.pipeOf index = some call.pipe := by
  rw [Gateway.pipeOf, found, Option.map_some]

theorem pipeOf_set (found : gateway.calls[other]? = some call) (calls : after.calls = gateway.calls.set other next)
    (index : Nat) : after.pipeOf index = if index = other then some next.pipe else gateway.pipeOf index := by
  rw [Gateway.pipeOf, calls, Calls.getElem?_set_of_found found]
  split <;> rfl

theorem PipeStep.set {action : Action} (found : gateway.calls[other]? = some call)
    (calls : after.calls = gateway.calls.set other next) (behalf : action.own = false)
    (stepped : step wiring call.pipe action = some next.pipe) :
    PipeStep wiring none (gateway.pipeOf index) (after.pipeOf index) := by
  rw [pipeOf_set found calls]
  split
  next here =>
    subst here
    rw [pipeOf_found found]
    exact .own action _ _ (.inr ⟨rfl, behalf⟩) stepped
  next => exact .other rfl _

theorem PipeStep.append (fresh : call.pipe = .initial) (calls : after.calls = gateway.calls ++ [call]) (index : Nat) :
    PipeStep wiring none (gateway.pipeOf index) (after.pipeOf index) := by
  unfold Gateway.pipeOf
  rw [calls]
  cases found : gateway.calls[index]? with
  | some old =>
    rw [Calls.getElem?_append_of_found found]
    exact .other rfl _
  | none =>
    cases there : (gateway.calls ++ [call])[index]? with
    | none => exact .other rfl _
    | some made =>
      rcases Calls.found_append there with ⟨-, rfl⟩ | old
      · rw [Option.map_none, Option.map_some, fresh]
        exact .begun rfl
      · cases found.symm.trans old

/-- A step of one pipeline. The case of a refused step of the gateway does not arise here. -/
theorem pipeStep_pipe {action : Action} (stepped : gateway.step wiring (.pipe other action) = some after)
    (index : Nat) :
    PipeStep wiring ((GatewayAction.pipe other action).pipeAction index) (gateway.pipeOf index)
      (after.pipeOf index) := by
  obtain ⟨-, moved⟩ := Option.ite_none_right_eq_some.mp stepped
  simp only [Gateway.move, Option.ite_none_right_eq_some, Option.bind_eq_bind, Option.bind_eq_some_iff,
    Option.pure_def, Option.some.injEq] at moved
  obtain ⟨-, middle, moved, same⟩ := moved
  obtain ⟨call, pipe, found, taken, rfl⟩ := movePipe_some moved
  have calls : after.calls = gateway.calls.set other { call with pipe } := by
    rw [← same]
    split <;> rfl
  rw [pipeOf_set found calls]
  by_cases here : index = other
  · subst here
    rw [pipeOf_found found, GatewayAction.pipeAction, if_pos rfl, if_pos rfl]
    exact .own action _ _ (.inl rfl) taken
  · rw [GatewayAction.pipeAction, if_neg here, if_neg (Ne.symm here)]
    exact .other rfl _

theorem pipeStep_cases {action : GatewayAction} (stepped : gateway.step wiring action = some after) (index : Nat) :
    PipeStep wiring (action.pipeAction index) (gateway.pipeOf index) (after.pipeOf index) := by
  by_cases piping : ∃ other own, action = .pipe other own
  · obtain ⟨other, own, rfl⟩ := piping
    exact pipeStep_pipe stepped index
  · have quiet : action.pipeAction index = none := by
      cases action with
      | pipe other own => exact absurd ⟨other, own, rfl⟩ piping
      | _ => rfl
    rw [quiet]
    cases (gatewayStep_cases stepped).2 with
    | refused | unsubscribe | notRunning | close => exact .other rfl _
    | subscribe request first second call pending fresh => exact .append fresh rfl index
    | adapterFails other owner call found =>
      have same : Gateway.pipeOf (gateway.setCall other { call with pending := false }) index =
          gateway.pipeOf index := by
        rw [pipeOf_set found rfl]
        split
        next here => rw [here, pipeOf_found found]
        next => rfl
      rw [same]
      exact .other rfl _
    | adapterStarts other call pipe found pending free taken => exact .set found rfl rfl taken
    | register other call pipe found taken => exact .set found rfl rfl taken
    | pipe other own => exact absurd ⟨other, own, rfl⟩ piping
    | finish other => exact absurd ⟨other, .finish, rfl⟩ piping
    | cancel number other call pipe place found taken => exact .set found rfl rfl taken
    | stop number other call pipe place busy found taken => exact .set found rfl rfl taken

theorem PipeStep.reachable {label : Option Action} {before next : Option State}
    (moved : PipeStep wiring label before next) (reached : ∀ state ∈ before, (machine wiring).Reachable state) :
    ∀ state ∈ next, (machine wiring).Reachable state := by
  cases moved with
  | other => exact reached
  | begun =>
    intro state same
    cases same
    exact .start rfl
  | own action state after origin stepped =>
    intro final same
    cases same
    exact .next (reached state rfl) trivial stepped

end Projection

theorem pipe_reachable {wiring : Wiring} {gateway : Gateway engine}
    (reached : (gatewayMachine engine wiring).Reachable gateway) :
    ∀ call ∈ gateway.calls, (machine wiring).Reachable call.pipe := by
  have pipes : ∀ index, ∀ state ∈ gateway.pipeOf index, (machine wiring).Reachable state := by
    apply reached.invariant (fun gateway => ∀ index, ∀ state ∈ gateway.pipeOf index, (machine wiring).Reachable state)
    · intro gateway initial index state there
      rw [initial] at there
      cases there
    · intro gateway action after _ pipes _ stepped index
      exact (pipeStep_cases stepped index).reachable (pipes index)
  intro call member
  obtain ⟨index, found⟩ := List.getElem?_of_mem member
  exact pipes index call.pipe (pipeOf_found found)

end EventGateway.Subscription
