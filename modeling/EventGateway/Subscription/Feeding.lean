import EventGateway.Lib.FiniteMap
import EventGateway.Subscription.Gateway

/-! Which subscriptions are fed. There is one consume loop for all clients: a second client
is turned away without a word, and whoever unsubscribes stops the loop and closes the reader
for good. The subscriptions in the map are fed as long as no client needs the loop while
another one has it, and no `Unsubscribe` reaches the consumer while a client still needs it. -/

namespace EventGateway.Subscription
open Lib
variable {engine : RegexpEngine} {wiring : Wiring}

def ConsumerAt.looping : ConsumerAt → Bool
  | .polling | .fetching | .reporting | .sending _ | .committing _ => true
  | _ => false

/-- From the start of the loop to the reset of `isRunning`. -/
def ConsumerAt.started (place : ConsumerAt) : Prop := place.looping ∨ place = .leaving

namespace Gateway

def Feeds (gateway : Gateway engine) (index : Nat) (call : Call engine) : Prop :=
  gateway.running = some index ∧ call.pipe.consumer.looping ∧ gateway.readerClosed = false

/-- Once every adapter goroutine has run, each subscription in the map whose client is still
there is fed. A dead process has no subscriptions. -/
def Fed (gateway : Gateway engine) : Prop :=
  gateway.Alive → (∀ call ∈ gateway.calls, call.pending = false) →
    ∀ subscriptionID index, gateway.subscriptions.lookup subscriptionID = some index →
      ∃ call, gateway.calls[index]? = some call ∧ (call.pipe.streamDone = false → gateway.Feeds index call)

def Wanted (gateway : Gateway engine) (index : Nat) (call : Call engine) : Prop :=
  call.pipe.streamDone = false ∧
    (call.pipe.handler = .subscribing ∨ gateway.subscriptions.lookup call.id = some index)

instance (gateway : Gateway engine) (index : Nat) (call : Call engine) : Decidable (gateway.Wanted index call) :=
  inferInstanceAs (Decidable (_ ∧ _))

def Spare (gateway : Gateway engine) : Prop :=
  ∀ owner ∈ gateway.running, ∀ call ∈ gateway.calls[owner]?, ¬gateway.Wanted owner call

instance (gateway : Gateway engine) : Decidable gateway.Spare := inferInstanceAs (Decidable (∀ _ ∈ _, _))

/-- The steps of clients that do not get in each other's way: a needed loop is started only
while there is none and the reader is open, and the loop is cancelled and the reader closed
only while the loop is not needed. -/
def Exclusive (gateway : Gateway engine) : GatewayAction → Prop
  | .adapter index => ∀ call ∈ gateway.calls[index]?, gateway.Wanted index call →
      gateway.running = none ∧ gateway.readerClosed = false
  | .advance number => gateway.unsubscribes[number]? = some .stopping ∨
      gateway.unsubscribes[number]? = some .closing → gateway.Spare
  | _ => True

instance (gateway : Gateway engine) (action : GatewayAction) : Decidable (gateway.Exclusive action) :=
  match action with
  | .adapter _ => inferInstanceAs (Decidable (∀ _ ∈ _, _))
  | .advance _ => inferInstanceAs (Decidable (_ → _))
  | .subscribe _ _ _ | .register _ | .pipe _ _ | .unsubscribe _ => .isTrue trivial

end Gateway

section Pipe
variable {state after : State} {action : Action}

structure Keeps (state after : State) : Prop where
  stream : after.streamDone = false → state.streamDone = false
  handler : after.handler = .subscribing → state.handler = .subscribing
  started : after.consumer.started → state.consumer.started
  idle : state.consumer = .idle → after.consumer = .idle

theorem keeps_move (moved : Move wiring state action after) (starting : action ≠ .start) : Keeps state after := by
  constructor
  · cases moved with
    | cancelStream => nofun
    | _ => exact id
  · cases moved with
    | subscribed | handOver | handlerReceive | sendSucceeds | handlerReturn => nofun
    | _ => exact id
  · cases moved with
    | start => exact absurd rfl starting
    | poll here | leave here | fetch _ here | fetchFails here | report here =>
      exact fun _ => .inl (by rw [here]; rfl)
    | enqueue _ here | commit _ here | commitFails _ here => exact fun _ => .inl (by rw [here]; rfl)
    | giveUp here =>
      intro _
      left
      cases place : state.consumer <;> rw [place] at here <;> first | rfl | cases here
    | finish => exact fun started => absurd started (by simp [ConsumerAt.started, ConsumerAt.looping])
    | _ => exact id
  · exact (idle_move moved starting).mpr

theorem consumerDone_move (moved : Move wiring state action after) (cancelling : action ≠ .cancelConsumer) :
    after.consumerDone = state.consumerDone := by
  cases moved with
  | cancelConsumer => exact absurd rfl cancelling
  | _ => rfl

theorem looping_move (moved : Move wiring state action after) (ongoing : ¬state.ctxDone)
    (looping : state.consumer.looping) (alive : after.consumer ≠ .panicked) : after.consumer.looping := by
  cases moved with
  | start | poll | fetchFails | report | giveUp | enqueue | commit | commitFails => rfl
  | leave here done => exact absurd done ongoing
  | fetch fetch here =>
    revert alive
    simp only [processMessage]
    cases judge wiring fetch with
    | panics => exact (absurd rfl ·)
    | skips | accepts => exact fun _ => rfl
  | finish here =>
    rw [here] at looping
    cases looping
  | _ => exact looping

end Pipe

section Tended
variable {gateway after : Gateway engine} {index : Nat} {call next : Call engine}

/-- The invariant for one call: it is fed while it is wanted, unless its adapter goroutine
has not run yet. -/
structure Placed (gateway : Gateway engine) (index : Nat) (call : Call engine) : Prop where
  fed : gateway.Wanted index call → call.pending ∨ gateway.Feeds index call ∧ call.pipe.consumerDone = false
  started : call.pipe.consumer.started → gateway.running = some index
  pending : call.pending → call.pipe.consumer = .idle ∧ call.pipe.consumerDone = false

structure Tended (gateway : Gateway engine) : Prop where
  calls : ∀ (index : Nat) (call : Call engine), gateway.calls[index]? = some call → Placed gateway index call
  owner : ∀ index, gateway.running = some index →
    ∃ call : Call engine, gateway.calls[index]? = some call ∧ call.pending = false
  listed : ∀ subscriptionID index, gateway.subscriptions.lookup subscriptionID = some index →
    ∃ call : Call engine, gateway.calls[index]? = some call ∧ call.id = subscriptionID

theorem Tended.initial : Tended (Gateway.initial : Gateway engine) := by
  constructor
  · intro index call found
    simp [Gateway.initial] at found
  · intro index running
    simp [Gateway.initial] at running
  · intro subscriptionID index entry
    simp [Gateway.initial] at entry

theorem Tended.fed (tended : Tended gateway) : gateway.Fed := by
  intro _ settled subscriptionID index entry
  obtain ⟨call, found, rfl⟩ := tended.listed subscriptionID index entry
  refine ⟨call, found, ?_⟩
  intro stream
  rcases (tended.calls index call found).fed ⟨stream, .inr entry⟩ with pending | fed
  · exact absurd pending (by simp [settled call (List.mem_of_getElem? found)])
  · exact fed.1

theorem Placed.mono (placed : Placed gateway index call)
    (entry : after.subscriptions.lookup call.id = some index → gateway.subscriptions.lookup call.id = some index)
    (running : gateway.running = some index → after.running = some index)
    (reader : gateway.Wanted index call → gateway.Feeds index call → after.readerClosed = false) :
    Placed after index call where
  fed := by
    intro wanted
    have before : gateway.Wanted index call := ⟨wanted.1, wanted.2.imp id entry⟩
    rcases placed.fed before with pending | ⟨feeds, ongoing⟩
    · exact .inl pending
    · exact .inr ⟨⟨running feeds.1, feeds.2.1, reader before feeds⟩, ongoing⟩
  started := fun started => running (placed.started started)
  pending := placed.pending

theorem calls_setCall (found : gateway.calls[index]? = some call) (other : Nat) :
    (gateway.setCall index next).calls[other]? = if other = index then some next else gateway.calls[other]? :=
  Calls.getElem?_set_of_found found other

theorem Tended.replace (tended : Tended gateway) (found : gateway.calls[index]? = some call)
    (calls : after.calls = (gateway.setCall index next).calls) (same : next.id = call.id)
    (entries : ∀ name other, after.subscriptions.lookup name = some other →
      gateway.subscriptions.lookup name = some other ∨ name = call.id ∧ other = index)
    (own : Placed after index next)
    (others : ∀ other call, other ≠ index → Placed gateway other call → Placed after other call)
    (owner : ∀ other, after.running = some other →
      if other = index then next.pending = false else gateway.running = some other) : Tended after := by
  constructor
  · intro other call' found'
    rw [calls, calls_setCall found] at found'
    split at found'
    next here =>
      cases found'
      exact here ▸ own
    next elsewhere => exact others other call' elsewhere (tended.calls other call' found')
  · intro other running
    rw [calls, calls_setCall found]
    have before := owner other running
    split
    next here =>
      rw [if_pos here] at before
      exact ⟨next, rfl, before⟩
    next elsewhere =>
      rw [if_neg elsewhere] at before
      exact tended.owner other before
  · intro subscriptionID other entry
    rw [calls, calls_setCall found]
    split
    next here =>
      refine ⟨next, rfl, ?_⟩
      rcases entries _ _ entry with old | ⟨own, -⟩
      · obtain ⟨call', found', listed⟩ := tended.listed _ _ old
        rw [here, found] at found'
        cases found'
        rw [same, listed]
      · rw [same, own]
    next elsewhere =>
      rcases entries _ _ entry with old | ⟨-, here⟩
      · exact tended.listed _ _ old
      · exact absurd here elsewhere

/-- A step of one pipeline that leaves the loop and the reader to whom they belong. -/
theorem Tended.moved {pipe : State} (tended : Tended gateway) (found : gateway.calls[index]? = some call)
    (kept : Keeps call.pipe pipe) (waiting : call.pending → pipe.consumerDone = false)
    (loops : gateway.Wanted index call → call.pipe.consumer.looping → call.pipe.consumerDone = false →
      pipe.consumer.looping ∧ pipe.consumerDone = false)
    (calls : after.calls = (gateway.setCall index { call with pipe }).calls)
    (running : after.running = gateway.running) (reader : after.readerClosed = gateway.readerClosed)
    (entries : ∀ name other, after.subscriptions.lookup name = some other →
      gateway.subscriptions.lookup name = some other ∨
        (name = call.id ∧ other = index) ∧ call.pipe.handler = .subscribing) : Tended after := by
  have placed := tended.calls index call found
  apply tended.replace found calls rfl (fun name other entry => (entries name other entry).imp_right And.left)
  · constructor
    · intro wanted
      have before : gateway.Wanted index call := by
        refine ⟨kept.stream wanted.1, ?_⟩
        rcases wanted.2 with subscribing | entry
        · exact .inl (kept.handler subscribing)
        · exact (entries _ _ entry).symm.imp_left And.right
      rcases placed.fed before with pending | ⟨feeds, ongoing⟩
      · exact .inl pending
      · have looping := loops before feeds.2.1 ongoing
        exact .inr ⟨⟨running.trans feeds.1, looping.1, reader.trans feeds.2.2⟩, looping.2⟩
    · intro started
      exact running.trans (placed.started (kept.started started))
    · intro pending
      exact ⟨kept.idle (placed.pending pending).1, waiting pending⟩
  · intro other call' elsewhere placed'
    apply placed'.mono
    · intro entry
      exact (entries _ _ entry).resolve_right (fun here => elsewhere here.1.2)
    · exact running.trans
    · exact fun _ feeds => reader.trans feeds.2.2
  · intro other owns
    rw [running] at owns
    split
    next here =>
      obtain ⟨owner, found', settled⟩ := tended.owner other owns
      rw [here, found] at found'
      cases found'
      exact settled
    next => exact owns

theorem Tended.stepped {pipe : State} {action : Action} (tended : Tended gateway)
    (found : gateway.calls[index]? = some call) (stepped : step wiring call.pipe action = some pipe)
    (starting : action ≠ .start) (cancelling : action ≠ .cancelConsumer) (alive : after.Alive)
    (calls : after.calls = (gateway.setCall index { call with pipe }).calls)
    (running : after.running = gateway.running) (reader : after.readerClosed = gateway.readerClosed)
    (entries : ∀ name other, after.subscriptions.lookup name = some other →
      gateway.subscriptions.lookup name = some other ∨
        (name = call.id ∧ other = index) ∧ call.pipe.handler = .subscribing) : Tended after := by
  have moved := (step_cases stepped).2
  have done := consumerDone_move moved cancelling
  have member : { call with pipe } ∈ after.calls := by
    apply List.mem_of_getElem? (i := index)
    rw [calls, calls_setCall found, if_pos rfl]
  apply tended.moved found (keeps_move moved starting) ?_ ?_ calls running reader entries
  · intro pending
    exact done.trans ((tended.calls index call found).pending pending).2
  · intro wanted looping ongoing
    have active : ¬call.pipe.ctxDone := by
      simp [State.ctxDone, wanted.1, ongoing]
    exact ⟨looping_move moved active looping (alive _ member), done.trans ongoing⟩

theorem Tended.subscribe (tended : Tended gateway) (pending : call.pending) (new : call.pipe = .initial) :
    Tended { gateway with calls := gateway.calls ++ [call] } := by
  have kept : ∀ {other : Nat} {old : Call engine}, gateway.calls[other]? = some old →
      (gateway.calls ++ [call])[other]? = some old := by
    intro other old found
    rw [List.getElem?_append_left (List.getElem?_eq_some_iff.mp found).1]
    exact found
  constructor
  · intro other call' found
    change (gateway.calls ++ [call])[other]? = some call' at found
    rw [List.getElem?_append] at found
    split at found
    next => exact (tended.calls other call' found).mono id id (fun _ feeds => feeds.2.2)
    next =>
      rw [List.mem_singleton.mp (List.mem_of_getElem? found)]
      refine ⟨fun _ => .inl pending, ?_, ?_⟩
      · rw [new]
        exact fun started => absurd started (by simp [ConsumerAt.started, ConsumerAt.looping, State.initial])
      · rw [new]
        exact fun _ => ⟨rfl, rfl⟩
  · intro other running
    obtain ⟨owner, found, settled⟩ := tended.owner other running
    exact ⟨owner, kept found, settled⟩
  · intro name other entry
    obtain ⟨listed, found, same⟩ := tended.listed name other entry
    exact ⟨listed, kept found, same⟩

theorem Tended.start {pipe : State} (tended : Tended gateway) (found : gateway.calls[index]? = some call)
    (pending : call.pending) (free : gateway.running = none)
    (reader : gateway.Wanted index call → gateway.readerClosed = false)
    (stepped : step wiring call.pipe .start = some pipe) :
    Tended { gateway.setCall index { call with pending := false, pipe } with running := some index } := by
  have idle := (tended.calls index call found).pending pending
  have polling : pipe = { call.pipe with consumer := .polling } := by
    cases (step_cases stepped).2 with
    | start => rfl
  subst polling
  refine tended.replace found rfl rfl (fun _ _ entry => .inl entry) ?_ ?_ ?_
  · refine ⟨fun wanted => .inr ⟨⟨rfl, rfl, reader wanted⟩, idle.2⟩, fun _ => rfl, nofun⟩
  · intro other call' elsewhere placed
    apply placed.mono
    · exact id
    · intro busy
      rw [free] at busy
      cases busy
    · exact fun _ feeds => feeds.2.2
  · intro other owns
    rw [if_pos (Option.some.inj owns).symm]

theorem Tended.turnedAway (tended : Tended gateway) (found : gateway.calls[index]? = some call)
    (spare : ¬gateway.Wanted index call) : Tended (gateway.setCall index { call with pending := false }) := by
  have placed := tended.calls index call found
  refine tended.replace found rfl rfl (fun _ _ entry => .inl entry) ?_ ?_ ?_
  · exact ⟨fun wanted => absurd wanted spare, placed.started, nofun⟩
  · intro other call' _ placed'
    apply placed'.mono
    · exact id
    · exact id
    · exact fun _ feeds => feeds.2.2
  · intro other owns
    split
    · rfl
    · exact owns

theorem Tended.finish {pipe : State} (tended : Tended gateway) (found : gateway.calls[index]? = some call)
    (stepped : step wiring call.pipe .finish = some pipe) :
    Tended { gateway.setCall index { call with pipe } with running := none } := by
  have placed := tended.calls index call found
  obtain ⟨leaving, stopped⟩ : call.pipe.consumer = .leaving ∧ pipe = { call.pipe with consumer := .stopped } := by
    cases (step_cases stepped).2 with
    | finish here => exact ⟨here, rfl⟩
  subst stopped
  have owner := placed.started (.inr leaving)
  have settled : ¬call.pending := by
    intro pending
    have idle := (placed.pending pending).1
    rw [leaving] at idle
    cases idle
  refine tended.replace found rfl rfl (fun _ _ entry => .inl entry) ?_ ?_ ?_
  · constructor
    · intro wanted
      rcases placed.fed wanted with pending | ⟨feeds, -⟩
      · exact absurd pending settled
      · have looping := feeds.2.1
        rw [leaving] at looping
        cases looping
    · exact fun started => absurd started (by simp [ConsumerAt.started, ConsumerAt.looping])
    · exact fun pending => absurd pending settled
  · intro other call' elsewhere placed'
    apply placed'.mono
    · exact id
    · intro running
      exact absurd (Option.some.inj (running.symm.trans owner)) elsewhere
    · exact fun _ feeds => feeds.2.2
  · nofun

theorem Tended.shared (tended : Tended gateway) (calls : after.calls = gateway.calls)
    (running : after.running = gateway.running)
    (entries : ∀ name other, after.subscriptions.lookup name = some other →
      gateway.subscriptions.lookup name = some other)
    (reader : ∀ (index : Nat) (call : Call engine), gateway.calls[index]? = some call →
      gateway.Wanted index call → gateway.Feeds index call → after.readerClosed = false) : Tended after := by
  constructor
  · intro index call found
    rw [calls] at found
    exact (tended.calls index call found).mono (entries _ _) running.trans (reader index call found)
  · intro index owns
    rw [calls]
    exact tended.owner index (running.symm.trans owns)
  · intro name index entry
    rw [calls]
    exact tended.listed name index (entries name index entry)

theorem tended_move {action : GatewayAction} (tended : Tended gateway) (admitted : gateway.Exclusive action)
    (moved : GatewayMove wiring gateway action after) (alive : after.Alive) : Tended after := by
  cases moved with
  | refused => exact tended
  | subscribe request first second call pending new => exact tended.subscribe pending new
  | adapterFails index owner call found pending busy =>
    refine tended.turnedAway found ?_
    intro wanted
    rw [(admitted call found wanted).1] at busy
    cases busy
  | adapterStarts index call pipe found pending free stepped =>
    exact tended.start found pending free (fun wanted => (admitted call found wanted).2) stepped
  | register index call pipe found stepped =>
    refine tended.stepped found stepped nofun nofun alive rfl rfl rfl ?_
    intro name other entry
    have here : call.pipe.handler = .subscribing := by
      cases (step_cases stepped).2 with
      | subscribed here => exact here
    rw [FiniteMap.lookup_insert] at entry
    split at entry
    next own => exact .inr ⟨⟨own, (Option.some.inj entry).symm⟩, here⟩
    next => exact .inl entry
  | pipe index action call pipe found allowed ongoing stepped =>
    refine tended.stepped found stepped ?_ ?_ alive rfl rfl rfl (fun _ _ entry => .inl entry)
    · intro starting
      exact absurd allowed.1 (by simp [starting, Action.own])
    · intro cancelling
      exact absurd allowed.1 (by simp [cancelling, Action.own])
  | finish index call pipe found stepped => exact tended.finish found stepped
  | unsubscribe subscriptionID index listed =>
    refine tended.shared rfl rfl ?_ (fun _ _ _ _ feeds => feeds.2.2)
    intro name other entry
    rw [FiniteMap.lookup_erase] at entry
    split at entry
    next => cases entry
    next => exact entry
  | cancel number index call pipe place found stepped =>
    exact tended.stepped found stepped nofun nofun alive rfl rfl rfl (fun _ _ entry => .inl entry)
  | notRunning => exact tended.shared rfl rfl (fun _ _ entry => entry) (fun _ _ _ _ feeds => feeds.2.2)
  | stop number index call pipe place busy found stepped =>
    have spare : ¬gateway.Wanted index call := admitted (.inl place) index busy call found
    refine tended.moved found (keeps_move (step_cases stepped).2 nofun) ?_ (fun wanted => absurd wanted spare)
      rfl rfl rfl (fun _ _ entry => .inl entry)
    intro pending
    obtain ⟨owner, found', settled⟩ := tended.owner index busy
    rw [found] at found'
    cases found'
    exact absurd pending (by simp [settled])
  | close number place =>
    refine tended.shared rfl rfl (fun _ _ entry => entry) ?_
    intro index call found wanted feeds
    exact absurd wanted (admitted (.inr place) index feeds.1 call found)

end Tended

/-- When clients do not get in each other's way, every subscription in the map whose client
is still there is fed. -/
theorem fed_of_exclusive (engine : RegexpEngine) (wiring : Wiring) (gateway : Gateway engine)
    (reached : (gatewayMachine engine wiring).Reaches Gateway.Exclusive gateway) : gateway.Fed := by
  have invariant : gateway.Alive → Tended gateway := by
    apply reached.invariant (fun gateway => gateway.Alive → Tended gateway)
    · intro gateway initial _
      exact initial ▸ Tended.initial
    · intro gateway action after _ tended admitted stepped alive
      obtain ⟨living, moved⟩ := gatewayStep_cases stepped
      exact tended_move (tended living) admitted moved alive
  intro alive
  exact (invariant alive).fed alive

theorem fed_in_turn : ∃ gateway : Gateway .none, (gatewayMachine .none runWiring).Reaches Gateway.Exclusive gateway ∧
    (gateway.Alive ∧ (∀ call ∈ gateway.calls, call.pending = false) ∧ gateway.running = some 1 ∧
      gateway.subscriptions.lookup (idText 2 2) = some 1) ∧ gateway.Fed := by
  obtain ⟨gateway, reached, found⟩ := (gatewayMachine .none runWiring).reaches_of_run Gateway.Exclusive .initial
    [.subscribe (some ⟨none⟩) 1 1, .register 0, .adapter 0, .pipe 0 .cancelStream, .pipe 0 .poll, .pipe 0 .finish,
      .subscribe (some ⟨none⟩) 2 2, .adapter 1, .register 1, .pipe 1 .poll]
    (fun gateway => decide (gateway.Alive ∧ (∀ call ∈ gateway.calls, call.pending = false) ∧
      gateway.running = some 1 ∧ gateway.subscriptions.lookup (idText 2 2) = some 1))
    rfl (by decide +kernel)
  exact ⟨gateway, reached, of_decide_eq_true found, fed_of_exclusive .none runWiring gateway reached⟩

/-- The second of two clients is registered and never fed: the adapter drops the error of
`Consumer.Subscribe`. -/
theorem second_client_starves : ∃ gateway : Gateway .none,
    (gatewayMachine .none runWiring).Reachable gateway ∧ ¬gateway.Fed := by
  obtain ⟨gateway, reached, found⟩ := (gatewayMachine .none runWiring).reaches_of_run (fun _ _ => True) .initial
    [.subscribe (some ⟨none⟩) 1 1, .register 0, .adapter 0, .subscribe (some ⟨none⟩) 2 2, .register 1, .adapter 1]
    (fun gateway => decide (gateway.Alive ∧ (∀ call ∈ gateway.calls, call.pending = false) ∧
      gateway.running = some 0 ∧ gateway.subscriptions.lookup (idText 2 2) = some 1 ∧
      ∀ call ∈ gateway.calls, call.pipe.streamDone = false))
    rfl (by decide +kernel)
  obtain ⟨alive, settled, running, entry, present⟩ := of_decide_eq_true found
  refine ⟨gateway, reached, ?_⟩
  intro fed
  obtain ⟨call, found, feeds⟩ := fed alive settled _ _ entry
  have owner := (feeds (present call (List.mem_of_getElem? found))).1
  rw [running] at owner
  exact absurd owner (by decide)

end EventGateway.Subscription
