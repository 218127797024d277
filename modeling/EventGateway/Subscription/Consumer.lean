import EventGateway.Lib.RWMutex
import EventGateway.Subscription.Pipeline
import Mathlib.Data.Finmap

/-! The `kafka.Consumer`, one atomic operation at a time. Any number of goroutines call `Subscribe`, `Unsubscribe`,
`Close` and `SetFilter`, and the consume loops that `Subscribe` starts run beside them. The loops read the context and
the filter of the consumer without the lock. -/

namespace EventGateway.Subscription
open Lib Lib.Calls Lib.RWMutex

/-- The operation that a call of `Subscribe` takes next, and after it the goroutine that it starts. What carries a
context has read it from the consumer already. -/
inductive Station where
  | locking
  /-- Reads `isRunning`. -/
  | testing
  /-- Unlocks and returns an error. -/
  | refusing
  /-- Stores a new context and its cancel function. -/
  | equipping
  /-- Sets `isRunning`. -/
  | marking
  | unlocking
  /-- `wg.Add(1)`. -/
  | adding
  | launching
  /-- The select at the head of the loop. -/
  | polling
  /-- Reads the context for `FetchMessage`. -/
  | calling
  | fetching (ctx : Nat)
  /-- `handleFetchError`, before its select. -/
  | failing
  | reporting (ctx : Nat)
  | decoding (fetch : Fetch)
  /-- `kc.filter != nil`. -/
  | consulting (envelope : Envelope)
  /-- `kc.filter(event)`. -/
  | filtering (envelope : Envelope)
  /-- `UpdateOffset`. -/
  | noting (envelope : Envelope)
  /-- `sendEvent`, before its select. -/
  | offering (envelope : Envelope)
  | sending (ctx : Nat) (envelope : Envelope)
  | committing (message : Message)
  /-- Out of the loop: takes the lock in the deferred function. -/
  | leaving
  /-- Clears `isRunning`. -/
  | resetting
  | releasing
  /-- `wg.Done()`. -/
  | finishing
  | returned
  deriving DecidableEq

/-- The operation that a call of `Unsubscribe` takes next. `waited` says whether the goroutine that waits for the
`WaitGroup` has closed `done`, or whether the select has seen that. That goroutine goes on also after a timeout. -/
inductive StopAt where
  | locking
  | testing
  | refusing
  | cancelling
  | unlocking (ctx : Nat)
  | waiting (ctx : Nat) (waited : Bool)
  /-- `kc.reader.Close()`. -/
  | closing (ctx : Nat) (waited : Bool)
  | returned (stopped : Option (Nat × Bool))
  deriving DecidableEq

/-- The goroutine that waits has closed `done`. -/
def StopAt.closed : StopAt → StopAt
  | .waiting ctx _ => .waiting ctx true
  | place => place

inductive FilterAt where
  | locking (filter : Option (Event → Bool))
  | setting (filter : Option (Event → Bool))
  | unlocking
  | returned

/-- A goroutine that uses the consumer. `errors` says whether `Subscribe` was given an error channel. -/
inductive Goroutine where
  | subscribe (errors : Bool) (place : Station)
  | unsubscribe (place : StopAt)
  | setFilter (place : FilterAt)

def Goroutine.hold : Goroutine → Option Hold
  | .subscribe _ .testing | .subscribe _ .refusing | .subscribe _ .equipping | .subscribe _ .marking
  | .subscribe _ .unlocking | .subscribe _ .resetting | .subscribe _ .releasing
  | .unsubscribe .testing | .unsubscribe .refusing | .unsubscribe .cancelling | .unsubscribe (.unlocking _)
  | .setFilter (.setting _) | .setFilter .unlocking => some .write
  | _ => none

/-- The ways in which a goroutine can panic: by use of a field that is nil, by a `WaitGroup` below zero, or by one that
is used again before all who waited for it have returned. -/
inductive Fault where
  | context
  | serializer
  | filter
  | waitGroup
  | reuse
  deriving DecidableEq

/-- The goroutines in `wg.Wait()`, each by its call of `Unsubscribe`: those that have still to read the counter, those
that the `WaitGroup` has counted as waiters, and those that were woken and have still to check the `WaitGroup`. -/
structure Waiters where
  entering : List Nat
  asleep : List Nat
  awake : List Nat
  deriving DecidableEq

/-- What has become of the messages, each by the call whose loop fetched it: fetched, skipped as undecodable or
filtered out, taken at the other end of the channel, given up when the context ended, and committed. -/
structure Record where
  fetched : List (Nat × Message)
  skipped : List (Nat × Message)
  handed : List (Nat × Envelope)
  abandoned : List (Nat × Message)
  committed : List (Nat × Message)

namespace Record
variable (record : Record) (call : Nat) (message : Message) (envelope : Envelope)

def fetch : Record := { record with fetched := record.fetched ++ [(call, message)] }

def skip : Record := { record with skipped := record.skipped ++ [(call, message)] }

def hand : Record := { record with handed := record.handed ++ [(call, envelope)] }

def abandon : Record := { record with abandoned := record.abandoned ++ [(call, message)] }

def commit : Record := { record with committed := record.committed ++ [(call, message)] }

end Record

/-- The consumer with all goroutines. A call of `Subscribe` is named by its index, which also stands for the context
that it makes, a child of the one that it was given; `streamDone` and `cancelled` say which of the two has
ended. -/
structure KafkaConsumer where
  serializer : Option (Bytes → Time → Time → Except Kafka.SerializerError Event)
  filter : Option (Event → Bool)
  ctx : Option Nat
  isRunning : Bool
  wg : Nat
  waiters : Waiters
  offsets : Finmap (fun _ : Int64 => Int64)
  readerClosed : Bool
  streamDone : Nat → Bool
  cancelled : Nat → Bool
  goroutines : List Goroutine
  fault : Option Fault
  record : Record

namespace KafkaConsumer

def new : KafkaConsumer where
  serializer := none
  filter := none
  ctx := none
  isRunning := false
  wg := 0
  waiters := ⟨[], [], []⟩
  offsets := ∅
  readerClosed := false
  streamDone := fun _ => false
  cancelled := fun _ => false
  goroutines := []
  fault := none
  record := { fetched := [], skipped := [], handed := [], abandoned := [], committed := [] }

variable (consumer : KafkaConsumer)

def Done (ctx : Nat) : Prop := consumer.streamDone ctx = true ∨ consumer.cancelled ctx = true

instance (ctx : Nat) : Decidable (consumer.Done ctx) := inferInstanceAs (Decidable (_ ∨ _))

def getOffset (partition : Int64) : Int64 := (consumer.offsets.lookup partition).getD 0

def updateOffset (partition offset : Int64) : KafkaConsumer :=
  { consumer with offsets := consumer.offsets.insert partition offset }

def panic (fault : Fault) : KafkaConsumer := { consumer with fault := some fault }

/-- The counter has come to zero, and those who wait for that have still to be woken. -/
def Waking : Prop := consumer.wg = 0 ∧ consumer.waiters.asleep ≠ []

instance : Decidable consumer.Waking := inferInstanceAs (Decidable (_ ∧ _))

def readContext (place : Station) (next : Nat → Station) : KafkaConsumer × Station :=
  match consumer.ctx with
  | none => (consumer.panic .context, place)
  | some ctx => (consumer, next ctx)

end KafkaConsumer

inductive Choice where
  /-- The operation is done, without an error. -/
  | proceeds
  | fetches (fetch : Fetch)
  /-- `FetchMessage`, `CommitMessages` or `Close` of the reader returns an error. -/
  | fails
  /-- The other end of the channel takes the value. -/
  | taken
  /-- A select takes a `Done` channel, or `FetchMessage` returns `context.Canceled`. -/
  | done
  /-- The context of `Unsubscribe` ends. -/
  | timeout
  /-- The goroutine that `Unsubscribe` has started goes on in `wg.Wait()`. -/
  | waits
  deriving DecidableEq

namespace KafkaConsumer
variable (consumer : KafkaConsumer)

def subscribe (call : Nat) : Station → Option (KafkaConsumer × Station)
  | .locking => if CanLock Goroutine.hold consumer.goroutines then some (consumer, .testing) else none
  | .testing => some (consumer, if consumer.isRunning then .refusing else .equipping)
  | .refusing => some (consumer, .returned)
  | .equipping => some ({ consumer with ctx := some call }, .marking)
  | .marking => some ({ consumer with isRunning := true }, .unlocking)
  | .unlocking => some (consumer, .adding)
  | .adding =>
      some (if consumer.Waking then (consumer.panic .reuse, .adding)
        else ({ consumer with wg := consumer.wg + 1 }, .launching))
  | .launching => some (consumer, .polling)
  | _ => none

def skip (call : Nat) (message : Message) : KafkaConsumer × Station :=
  ({ consumer with record := consumer.record.skip call message }, .committing message)

def decode (call : Nat) (fetch : Fetch) : KafkaConsumer × Station :=
  match consumer.serializer with
  | none => (consumer.panic .serializer, .decoding fetch)
  | some deserialize =>
    match deserialize fetch.message.value fetch.timestamp fetch.createdAt with
    | .error _ => consumer.skip call fetch.message
    | .ok event => (consumer, .consulting ⟨fetch.message, event⟩)

def applyFilter (call : Nat) (envelope : Envelope) : KafkaConsumer × Station :=
  match consumer.filter with
  | none => (consumer.panic .filter, .filtering envelope)
  | some filter =>
    if filter envelope.event then (consumer, .noting envelope) else consumer.skip call envelope.message

/-- `processMessage`, with `handleFetchError`, `sendEvent` and `commitMessage`. -/
def processing (call : Nat) (errors : Bool) : Station → Choice → Option (KafkaConsumer × Station)
  | .calling, .proceeds => some (consumer.readContext .calling .fetching)
  | .fetching _, .fetches fetch =>
      some ({ consumer with record := consumer.record.fetch call fetch.message }, .decoding fetch)
  | .fetching _, .fails => some (consumer, .failing)
  | .fetching ctx, .done => if consumer.Done ctx then some (consumer, .polling) else none
  | .failing, .proceeds => some (if errors then consumer.readContext .failing .reporting else (consumer, .polling))
  | .reporting _, .taken => some (consumer, .polling)
  | .reporting ctx, .done => if consumer.Done ctx then some (consumer, .polling) else none
  | .decoding fetch, .proceeds => some (consumer.decode call fetch)
  | .consulting envelope, .proceeds =>
      some (consumer, if consumer.filter.isSome then .filtering envelope else .noting envelope)
  | .filtering envelope, .proceeds => some (consumer.applyFilter call envelope)
  | .noting envelope, .proceeds =>
      some (consumer.updateOffset envelope.message.partition envelope.message.offset, .offering envelope)
  | .offering envelope, .proceeds => some (consumer.readContext (.offering envelope) (.sending · envelope))
  | .sending _ envelope, .taken =>
      some ({ consumer with record := consumer.record.hand call envelope }, .committing envelope.message)
  | .sending ctx envelope, .done =>
      if consumer.Done ctx then
        some ({ consumer with record := consumer.record.abandon call envelope.message }, .polling)
      else none
  | .committing message, .proceeds =>
      some ({ consumer with record := consumer.record.commit call message }, .polling)
  | .committing _, .fails => some (consumer, .polling)
  | _, _ => none

def poll : KafkaConsumer × Station :=
  match consumer.ctx with
  | none => (consumer.panic .context, .polling)
  | some ctx => (consumer, if consumer.Done ctx then .leaving else .calling)

def finish : Station → Option (KafkaConsumer × Station)
  | .leaving => if CanLock Goroutine.hold consumer.goroutines then some (consumer, .resetting) else none
  | .resetting => some ({ consumer with isRunning := false }, .releasing)
  | .releasing => some (consumer, .finishing)
  | .finishing =>
    match consumer.wg with
    | 0 => some (consumer.panic .waitGroup, .finishing)
    | left + 1 => some ({ consumer with wg := left }, .returned)
  | _ => none

def consume (call : Nat) (errors : Bool) (place : Station) (choice : Choice) : Option (KafkaConsumer × Station) :=
  match place, choice with
  | .polling, .proceeds => some consumer.poll
  | .locking, .proceeds | .testing, .proceeds | .refusing, .proceeds | .equipping, .proceeds | .marking, .proceeds
  | .unlocking, .proceeds | .adding, .proceeds | .launching, .proceeds => consumer.subscribe call place
  | .leaving, .proceeds | .resetting, .proceeds | .releasing, .proceeds | .finishing, .proceeds =>
      consumer.finish place
  | _, _ => consumer.processing call errors place choice

/-- `wg.Wait()`, up to its return. A waiter that is woken panics if the `WaitGroup` is in use again. -/
def wait (index : Nat) (place : StopAt) : Option (KafkaConsumer × StopAt) :=
  let ⟨entering, asleep, awake⟩ := consumer.waiters
  if index ∈ entering then
    if consumer.wg = 0 then some ({ consumer with waiters := ⟨entering.erase index, asleep, awake⟩ }, place.closed)
    else some ({ consumer with waiters := ⟨entering.erase index, index :: asleep, awake⟩ }, place)
  else if index ∈ awake then
    if consumer.wg = 0 ∧ asleep = [] then
      some ({ consumer with waiters := ⟨entering, asleep, awake.erase index⟩ }, place.closed)
    else some (consumer.panic .reuse, place)
  else none

/-- One operation of a call of `Unsubscribe`, or of `Close`, whose context only ends later. The reader is closed also
after an error. -/
def unsubscribe (index : Nat) : StopAt → Choice → Option (KafkaConsumer × StopAt)
  | .locking, .proceeds => if CanLock Goroutine.hold consumer.goroutines then some (consumer, .testing) else none
  | .testing, .proceeds => some (consumer, if consumer.isRunning then .cancelling else .refusing)
  | .refusing, .proceeds => some (consumer, .returned none)
  | .cancelling, .proceeds =>
    match consumer.ctx with
    | none => some (consumer.panic .context, .cancelling)
    | some ctx => some ({ consumer with cancelled := Function.update consumer.cancelled ctx true }, .unlocking ctx)
  | .unlocking ctx, .proceeds =>
      some ({ consumer with waiters.entering := index :: consumer.waiters.entering }, .waiting ctx false)
  | place, .waits => consumer.wait index place
  | .waiting ctx true, .done => some (consumer, .closing ctx true)
  | .waiting ctx _, .timeout => some (consumer, .closing ctx false)
  | .closing ctx waited, .proceeds | .closing ctx waited, .fails =>
      some ({ consumer with readerClosed := true }, .returned (some (ctx, waited)))
  | _, _ => none

def setFilter : FilterAt → Choice → Option (KafkaConsumer × FilterAt)
  | .locking filter, .proceeds =>
      if CanLock Goroutine.hold consumer.goroutines then some (consumer, .setting filter) else none
  | .setting filter, .proceeds => some ({ consumer with filter := filter }, .unlocking)
  | .unlocking, .proceeds => some (consumer, .returned)
  | _, _ => none

def perform (index : Nat) (choice : Choice) : Goroutine → Option (KafkaConsumer × Goroutine)
  | .subscribe errors place => (consumer.consume index errors place choice).map (Prod.map id (.subscribe errors))
  | .unsubscribe place => (consumer.unsubscribe index place choice).map (Prod.map id .unsubscribe)
  | .setFilter place => (consumer.setFilter place choice).map (Prod.map id .setFilter)

end KafkaConsumer

/-- A call begins, a field is set without the lock, the context given to a call of `Subscribe` ends, the `wg.Done()` that
has brought the counter to zero wakes those who wait, or a goroutine takes its next step. -/
inductive ConsumerStep where
  | subscribe (errors : Bool)
  | unsubscribe
  | setFilter (filter : Option (Event → Bool))
  | setSerializer (serializer : Option (Bytes → Time → Time → Except Kafka.SerializerError Event))
  | commitOffset (partition offset : Int64)
  | streamEnds (call : Nat)
  | wake
  | advance (index : Nat) (choice : Choice)

namespace KafkaConsumer

def wake (consumer : KafkaConsumer) : KafkaConsumer :=
  { consumer with waiters :=
    ⟨consumer.waiters.entering, [], consumer.waiters.asleep ++ consumer.waiters.awake⟩ }

def begin (consumer : KafkaConsumer) (goroutine : Goroutine) : KafkaConsumer :=
  { consumer with goroutines := consumer.goroutines ++ [goroutine] }

def put (consumer : KafkaConsumer) (index : Nat) (goroutine : Goroutine) : KafkaConsumer :=
  { consumer with goroutines := consumer.goroutines.set index goroutine }

def step (consumer : KafkaConsumer) (label : ConsumerStep) : Option KafkaConsumer :=
  if consumer.fault ≠ none then none else
  match label with
  | .subscribe errors => some (consumer.begin (.subscribe errors .locking))
  | .unsubscribe => some (consumer.begin (.unsubscribe .locking))
  | .setFilter filter => some (consumer.begin (.setFilter (.locking filter)))
  | .setSerializer serializer => some { consumer with serializer := serializer }
  | .commitOffset partition offset => some (consumer.updateOffset partition offset)
  | .streamEnds call => some { consumer with streamDone := Function.update consumer.streamDone call true }
  | .wake => if consumer.Waking then some consumer.wake else none
  | .advance index choice => do
    let goroutine ← consumer.goroutines[index]?
    let (after, next) ← consumer.perform index choice goroutine
    pure (after.put index next)

end KafkaConsumer

def consumerMachine : Machine KafkaConsumer ConsumerStep where
  init := (· = .new)
  step := KafkaConsumer.step

inductive Faulty (consumer : KafkaConsumer) : Station → Fault → Prop where
  | poll (missing : consumer.ctx = none) : Faulty consumer .polling .context
  | call (missing : consumer.ctx = none) : Faulty consumer .calling .context
  | report (missing : consumer.ctx = none) : Faulty consumer .failing .context
  | decode (fetch : Fetch) (missing : consumer.serializer = none) : Faulty consumer (.decoding fetch) .serializer
  | filter (envelope : Envelope) (missing : consumer.filter = none) : Faulty consumer (.filtering envelope) .filter
  | offer (envelope : Envelope) (missing : consumer.ctx = none) : Faulty consumer (.offering envelope) .context
  | add (waking : consumer.Waking) : Faulty consumer .adding .reuse
  | finish (none : consumer.wg = 0) : Faulty consumer .finishing .waitGroup

/-- The operations of a call of `Subscribe` and of its loop, one for each branch. -/
inductive Work (consumer : KafkaConsumer) (call : Nat) : Station → KafkaConsumer → Station → Prop where
  | lock (free : CanLock Goroutine.hold consumer.goroutines) : Work consumer call .locking consumer .testing
  | refuse (running : consumer.isRunning = true) : Work consumer call .testing consumer .refusing
  | pass (idle : consumer.isRunning = false) : Work consumer call .testing consumer .equipping
  | refused : Work consumer call .refusing consumer .returned
  | equip : Work consumer call .equipping { consumer with ctx := some call } .marking
  | mark : Work consumer call .marking { consumer with isRunning := true } .unlocking
  | unlock : Work consumer call .unlocking consumer .adding
  | add : Work consumer call .adding { consumer with wg := consumer.wg + 1 } .launching
  | launch : Work consumer call .launching consumer .polling
  | leave (ctx : Nat) (here : consumer.ctx = some ctx) (done : consumer.Done ctx) :
      Work consumer call .polling consumer .leaving
  | poll (ctx : Nat) (here : consumer.ctx = some ctx) (ongoing : ¬consumer.Done ctx) :
      Work consumer call .polling consumer .calling
  | call (ctx : Nat) (here : consumer.ctx = some ctx) : Work consumer call .calling consumer (.fetching ctx)
  | fetch (ctx : Nat) (fetch : Fetch) : Work consumer call (.fetching ctx)
      { consumer with record := consumer.record.fetch call fetch.message } (.decoding fetch)
  | fetchFails (ctx : Nat) : Work consumer call (.fetching ctx) consumer .failing
  | fetchDone (ctx : Nat) (done : consumer.Done ctx) : Work consumer call (.fetching ctx) consumer .polling
  | ignore : Work consumer call .failing consumer .polling
  | report (ctx : Nat) (here : consumer.ctx = some ctx) : Work consumer call .failing consumer (.reporting ctx)
  | reported (ctx : Nat) : Work consumer call (.reporting ctx) consumer .polling
  | undecoded (fetch : Fetch) : Work consumer call (.decoding fetch)
      { consumer with record := consumer.record.skip call fetch.message } (.committing fetch.message)
  | decode (fetch : Fetch) (event : Event) :
      Work consumer call (.decoding fetch) consumer (.consulting ⟨fetch.message, event⟩)
  | consult (envelope : Envelope) (set : consumer.filter.isSome = true) :
      Work consumer call (.consulting envelope) consumer (.filtering envelope)
  | unfiltered (envelope : Envelope) : Work consumer call (.consulting envelope) consumer (.noting envelope)
  | accept (envelope : Envelope) : Work consumer call (.filtering envelope) consumer (.noting envelope)
  | reject (envelope : Envelope) : Work consumer call (.filtering envelope)
      { consumer with record := consumer.record.skip call envelope.message } (.committing envelope.message)
  | note (envelope : Envelope) : Work consumer call (.noting envelope)
      (consumer.updateOffset envelope.message.partition envelope.message.offset) (.offering envelope)
  | offer (ctx : Nat) (envelope : Envelope) (here : consumer.ctx = some ctx) :
      Work consumer call (.offering envelope) consumer (.sending ctx envelope)
  | hand (ctx : Nat) (envelope : Envelope) : Work consumer call (.sending ctx envelope)
      { consumer with record := consumer.record.hand call envelope } (.committing envelope.message)
  | sendDone (ctx : Nat) (envelope : Envelope) (done : consumer.Done ctx) :
      Work consumer call (.sending ctx envelope)
        { consumer with record := consumer.record.abandon call envelope.message } .polling
  | commit (message : Message) : Work consumer call (.committing message)
      { consumer with record := consumer.record.commit call message } .polling
  | commitFails (message : Message) : Work consumer call (.committing message) consumer .polling
  | relock (free : CanLock Goroutine.hold consumer.goroutines) : Work consumer call .leaving consumer .resetting
  | reset : Work consumer call .resetting { consumer with isRunning := false } .releasing
  | release : Work consumer call .releasing consumer .finishing
  | finish (left : Nat) (counted : consumer.wg = left + 1) :
      Work consumer call .finishing { consumer with wg := left } .returned
  | panics (place : Station) (fault : Fault) (faulty : Faulty consumer place fault) :
      Work consumer call place (consumer.panic fault) place

inductive Halt (consumer : KafkaConsumer) (index : Nat) : StopAt → KafkaConsumer → StopAt → Prop where
  | lock (free : CanLock Goroutine.hold consumer.goroutines) : Halt consumer index .locking consumer .testing
  | refuse (idle : consumer.isRunning = false) : Halt consumer index .testing consumer .refusing
  | pass (running : consumer.isRunning = true) : Halt consumer index .testing consumer .cancelling
  | refused : Halt consumer index .refusing consumer (.returned none)
  | cancel (ctx : Nat) (here : consumer.ctx = some ctx) : Halt consumer index .cancelling
      { consumer with cancelled := Function.update consumer.cancelled ctx true } (.unlocking ctx)
  | panics (missing : consumer.ctx = none) : Halt consumer index .cancelling (consumer.panic .context) .cancelling
  | unlock (ctx : Nat) : Halt consumer index (.unlocking ctx)
      { consumer with waiters.entering := index :: consumer.waiters.entering } (.waiting ctx false)
  | pause (place : StopAt) (entering : index ∈ consumer.waiters.entering) (counted : consumer.wg ≠ 0) :
      Halt consumer index place { consumer with waiters := ⟨consumer.waiters.entering.erase index,
        index :: consumer.waiters.asleep, consumer.waiters.awake⟩ } place
  | passBy (place : StopAt) (entering : index ∈ consumer.waiters.entering) (none : consumer.wg = 0) :
      Halt consumer index place { consumer with waiters.entering := consumer.waiters.entering.erase index } place.closed
  | resume (place : StopAt) (awake : index ∈ consumer.waiters.awake) (none : consumer.wg = 0) :
      Halt consumer index place { consumer with waiters.awake := consumer.waiters.awake.erase index } place.closed
  | reused (place : StopAt) (awake : index ∈ consumer.waiters.awake)
      (busy : ¬(consumer.wg = 0 ∧ consumer.waiters.asleep = [])) :
      Halt consumer index place (consumer.panic .reuse) place
  | waited (ctx : Nat) : Halt consumer index (.waiting ctx true) consumer (.closing ctx true)
  | timeout (ctx : Nat) (waited : Bool) : Halt consumer index (.waiting ctx waited) consumer (.closing ctx false)
  | close (ctx : Nat) (waited : Bool) : Halt consumer index (.closing ctx waited)
      { consumer with readerClosed := true } (.returned (some (ctx, waited)))

inductive Refit (consumer : KafkaConsumer) : FilterAt → KafkaConsumer → FilterAt → Prop where
  | lock (filter : Option (Event → Bool)) (free : CanLock Goroutine.hold consumer.goroutines) :
      Refit consumer (.locking filter) consumer (.setting filter)
  | set (filter : Option (Event → Bool)) : Refit consumer (.setting filter) { consumer with filter := filter } .unlocking
  | unlock : Refit consumer .unlocking consumer .returned

namespace KafkaConsumer
variable {consumer after : KafkaConsumer} {call : Nat} {errors : Bool} {place next : Station} {choice : Choice}

theorem subscribe_cases (worked : consumer.subscribe call place = some (after, next)) :
    Work consumer call place after next := by
  cases place <;> simp only [subscribe, Option.ite_none_right_eq_some, Option.some.injEq, Prod.mk.injEq,
    reduceCtorEq] at worked
  case locking =>
    obtain ⟨free, rfl, rfl⟩ := worked
    exact .lock free
  case testing =>
    obtain ⟨rfl, rfl⟩ := worked
    split
    next running => exact .refuse running
    next idle => exact .pass (Bool.not_eq_true _ ▸ idle)
  case adding =>
    split at worked
    next waking =>
      cases worked
      exact .panics _ _ (.add waking)
    next =>
      cases worked
      exact .add
  all_goals
    obtain ⟨rfl, rfl⟩ := worked
    constructor

theorem finish_cases (worked : consumer.finish place = some (after, next)) : Work consumer call place after next := by
  cases place <;> simp only [finish, Option.ite_none_right_eq_some, Option.some.injEq, Prod.mk.injEq,
    reduceCtorEq] at worked
  case leaving =>
    obtain ⟨free, rfl, rfl⟩ := worked
    exact .relock free
  case finishing =>
    split at worked
    next none =>
      cases worked
      exact .panics _ _ (.finish none)
    next left counted =>
      cases worked
      exact .finish left counted
  all_goals
    obtain ⟨rfl, rfl⟩ := worked
    constructor

theorem readContext_cases {build : Nat → Station} (read : consumer.readContext place build = (after, next)) :
    (∃ ctx, consumer.ctx = some ctx ∧ after = consumer ∧ next = build ctx) ∨
      consumer.ctx = none ∧ after = consumer.panic .context ∧ next = place := by
  unfold readContext at read
  split at read
  next missing =>
    cases read
    exact .inr ⟨missing, rfl, rfl⟩
  next ctx here =>
    cases read
    exact .inl ⟨ctx, here, rfl, rfl⟩

theorem decode_cases {fetch : Fetch} (decoded : consumer.decode call fetch = (after, next)) :
    Work consumer call (.decoding fetch) after next := by
  unfold decode at decoded
  split at decoded
  next missing =>
    cases decoded
    exact .panics _ _ (.decode fetch missing)
  next =>
    split at decoded
    next =>
      cases decoded
      exact .undecoded fetch
    next event _ =>
      cases decoded
      exact .decode fetch event

theorem applyFilter_cases {envelope : Envelope} (applied : consumer.applyFilter call envelope = (after, next)) :
    Work consumer call (.filtering envelope) after next := by
  unfold applyFilter at applied
  split at applied
  next missing =>
    cases applied
    exact .panics _ _ (.filter envelope missing)
  next =>
    split at applied
    next =>
      cases applied
      exact .accept envelope
    next =>
      cases applied
      exact .reject envelope

theorem poll_cases (polled : consumer.poll = (after, next)) : Work consumer call .polling after next := by
  unfold poll at polled
  split at polled
  next missing =>
    cases polled
    exact .panics _ _ (.poll missing)
  next ctx here =>
    simp only [Prod.mk.injEq] at polled
    obtain ⟨rfl, rfl⟩ := polled
    split
    next done => exact .leave ctx here done
    next ongoing => exact .poll ctx here ongoing

theorem processing_cases (worked : consumer.processing call errors place choice = some (after, next)) :
    Work consumer call place after next := by
  unfold processing at worked
  split at worked
  next =>
    rcases readContext_cases (Option.some.inj worked) with ⟨ctx, here, rfl, rfl⟩ | ⟨missing, rfl, rfl⟩
    · exact .call ctx here
    · exact .panics _ _ (.call missing)
  next ctx fetch =>
    cases worked
    exact .fetch ctx fetch
  next ctx =>
    cases worked
    exact .fetchFails ctx
  next ctx =>
    obtain ⟨done, same⟩ := Option.ite_none_right_eq_some.mp worked
    cases same
    exact .fetchDone ctx done
  next =>
    cases errors with
    | false =>
      cases worked
      exact .ignore
    | true =>
      rcases readContext_cases (Option.some.inj worked) with ⟨ctx, here, rfl, rfl⟩ | ⟨missing, rfl, rfl⟩
      · exact .report ctx here
      · exact .panics _ _ (.report missing)
  next ctx =>
    cases worked
    exact .reported ctx
  next ctx =>
    obtain ⟨-, same⟩ := Option.ite_none_right_eq_some.mp worked
    cases same
    exact .reported ctx
  next => exact decode_cases (Option.some.inj worked)
  next envelope =>
    simp only [Option.some.injEq, Prod.mk.injEq] at worked
    obtain ⟨rfl, rfl⟩ := worked
    split
    next set => exact .consult envelope set
    next => exact .unfiltered envelope
  next => exact applyFilter_cases (Option.some.inj worked)
  next envelope =>
    cases worked
    exact .note envelope
  next envelope =>
    rcases readContext_cases (Option.some.inj worked) with ⟨ctx, here, rfl, rfl⟩ | ⟨missing, rfl, rfl⟩
    · exact .offer ctx envelope here
    · exact .panics _ _ (.offer envelope missing)
  next ctx envelope =>
    cases worked
    exact .hand ctx envelope
  next ctx envelope =>
    obtain ⟨done, same⟩ := Option.ite_none_right_eq_some.mp worked
    cases same
    exact .sendDone ctx envelope done
  next message =>
    cases worked
    exact .commit message
  next message =>
    cases worked
    exact .commitFails message
  next => cases worked

theorem consume_cases (worked : consumer.consume call errors place choice = some (after, next)) :
    Work consumer call place after next := by
  unfold consume at worked
  split at worked
  next => exact poll_cases (Option.some.inj worked)
  all_goals first
    | exact subscribe_cases worked
    | exact finish_cases worked
    | exact processing_cases worked

theorem wait_cases {index : Nat} {place next : StopAt} (waited : consumer.wait index place = some (after, next)) :
    Halt consumer index place after next := by
  unfold wait at waited
  dsimp only at waited
  split at waited
  next entering =>
    split at waited
    next none =>
      cases waited
      exact .passBy place entering none
    next counted =>
      cases waited
      exact .pause place entering counted
  next =>
    obtain ⟨awake, waited⟩ := Option.ite_none_right_eq_some.mp waited
    split at waited
    next unused =>
      cases waited
      exact .resume place awake unused.1
    next busy =>
      cases waited
      exact .reused place awake busy

theorem unsubscribe_cases {index : Nat} {place next : StopAt}
    (halted : consumer.unsubscribe index place choice = some (after, next)) : Halt consumer index place after next := by
  unfold unsubscribe at halted
  split at halted
  next =>
    obtain ⟨free, same⟩ := Option.ite_none_right_eq_some.mp halted
    cases same
    exact .lock free
  next =>
    simp only [Option.some.injEq, Prod.mk.injEq] at halted
    obtain ⟨rfl, rfl⟩ := halted
    split
    next running => exact .pass running
    next idle => exact .refuse (Bool.not_eq_true _ ▸ idle)
  next =>
    cases halted
    exact .refused
  next =>
    split at halted
    next missing =>
      cases halted
      exact .panics missing
    next ctx here =>
      cases halted
      exact .cancel ctx here
  next ctx =>
    cases halted
    exact .unlock ctx
  next => exact wait_cases halted
  next ctx =>
    cases halted
    exact .waited ctx
  next ctx waited =>
    cases halted
    exact .timeout ctx waited
  next ctx waited =>
    cases halted
    exact .close ctx waited
  next ctx waited =>
    cases halted
    exact .close ctx waited
  next => cases halted

theorem setFilter_cases {place next : FilterAt} (refitted : consumer.setFilter place choice = some (after, next)) :
    Refit consumer place after next := by
  unfold setFilter at refitted
  split at refitted
  next filter =>
    obtain ⟨free, same⟩ := Option.ite_none_right_eq_some.mp refitted
    cases same
    exact .lock filter free
  next filter =>
    cases refitted
    exact .set filter
  next =>
    cases refitted
    exact .unlock
  next => cases refitted

end KafkaConsumer

inductive Goroutine.Fresh : Goroutine → Prop where
  | subscribe (errors : Bool) : Fresh (.subscribe errors .locking)
  | unsubscribe : Fresh (.unsubscribe .locking)
  | setFilter (filter : Option (Event → Bool)) : Fresh (.setFilter (.locking filter))

inductive ConsumerMove (consumer : KafkaConsumer) : ConsumerStep → KafkaConsumer → Prop where
  | begin (label : ConsumerStep) (goroutine : Goroutine) (fresh : goroutine.Fresh)
      (call : ∀ index choice, label ≠ .advance index choice) :
      ConsumerMove consumer label (consumer.begin goroutine)
  | setSerializer (serializer : Option (Bytes → Time → Time → Except Kafka.SerializerError Event)) :
      ConsumerMove consumer (.setSerializer serializer) { consumer with serializer := serializer }
  | commitOffset (partition offset : Int64) :
      ConsumerMove consumer (.commitOffset partition offset) (consumer.updateOffset partition offset)
  | streamEnds (call : Nat) : ConsumerMove consumer (.streamEnds call)
      { consumer with streamDone := Function.update consumer.streamDone call true }
  | wake (waking : consumer.Waking) : ConsumerMove consumer .wake consumer.wake
  | work (call : Nat) (choice : Choice) (errors : Bool) (place next : Station) (after : KafkaConsumer)
      (found : consumer.goroutines[call]? = some (.subscribe errors place)) (worked : Work consumer call place after next) :
      ConsumerMove consumer (.advance call choice) (after.put call (.subscribe errors next))
  | halt (index : Nat) (choice : Choice) (place next : StopAt) (after : KafkaConsumer)
      (found : consumer.goroutines[index]? = some (.unsubscribe place)) (halted : Halt consumer index place after next) :
      ConsumerMove consumer (.advance index choice) (after.put index (.unsubscribe next))
  | refit (index : Nat) (choice : Choice) (place next : FilterAt) (after : KafkaConsumer)
      (found : consumer.goroutines[index]? = some (.setFilter place)) (refitted : Refit consumer place after next) :
      ConsumerMove consumer (.advance index choice) (after.put index (.setFilter next))

theorem KafkaConsumer.step_cases {consumer after : KafkaConsumer} {label : ConsumerStep}
    (stepped : consumer.step label = some after) : consumer.fault = none ∧ ConsumerMove consumer label after := by
  unfold KafkaConsumer.step at stepped
  split at stepped
  next => cases stepped
  next alive =>
    refine ⟨not_not.mp alive, ?_⟩
    cases label with
    | advance index choice =>
      obtain ⟨goroutine, found, stepped⟩ := Option.bind_eq_some_iff.mp stepped
      obtain ⟨⟨changed, next⟩, performed, same⟩ := Option.bind_eq_some_iff.mp stepped
      cases same
      cases goroutine with
      | subscribe errors place =>
        obtain ⟨⟨_, next⟩, worked, same⟩ := Option.map_eq_some_iff.mp performed
        cases same
        exact .work index choice errors place next _ found (consume_cases worked)
      | unsubscribe place =>
        obtain ⟨⟨_, next⟩, halted, same⟩ := Option.map_eq_some_iff.mp performed
        cases same
        exact .halt index choice place next _ found (unsubscribe_cases halted)
      | setFilter place =>
        obtain ⟨⟨_, next⟩, refitted, same⟩ := Option.map_eq_some_iff.mp performed
        cases same
        exact .refit index choice place next _ found (setFilter_cases refitted)
    | subscribe errors =>
      cases stepped
      exact .begin _ _ (.subscribe errors) nofun
    | unsubscribe =>
      cases stepped
      exact .begin _ _ .unsubscribe nofun
    | setFilter filter =>
      cases stepped
      exact .begin _ _ (.setFilter filter) nofun
    | setSerializer | commitOffset | streamEnds =>
      cases stepped
      constructor
    | wake =>
      obtain ⟨waking, same⟩ := Option.ite_none_right_eq_some.mp stepped
      cases same
      exact .wake waking

namespace KafkaConsumer
variable {consumer mid : KafkaConsumer} {call index : Nat} {errors : Bool} {place next : Station} {choice : Choice}

theorem step_advance {goroutine moved : Goroutine} (alive : consumer.fault = none)
    (found : consumer.goroutines[index]? = some goroutine)
    (performed : consumer.perform index choice goroutine = some (mid, moved)) :
    consumer.step (.advance index choice) = some (mid.put index moved) := by
  unfold step
  rw [if_neg (not_not.mpr alive)]
  simp only [found, performed, Option.bind_eq_bind, Option.bind_some, Option.pure_def]

/-- Where the pipeline of a subscription has the loop of this call, which it only follows from one call that can block to
the next one. -/
def Shows (consumer : KafkaConsumer) (call : Nat) : ConsumerAt → Prop
  | .panicked => consumer.fault ≠ none
  | .sending envelope => ∃ errors, consumer.goroutines[call]? = some (.subscribe errors (.sending call envelope))
  | .committing message => ∃ errors, consumer.goroutines[call]? = some (.subscribe errors (.committing message))
  | _ => False

def Comes (consumer : KafkaConsumer) (call : Nat) (result : ConsumerAt) : Prop :=
  ∃ steps after, consumerMachine.run (fun _ _ => True) consumer (List.replicate steps (.advance call .proceeds)) =
    some after ∧ after.Shows call result

structure Ready (consumer : KafkaConsumer) (call : Nat) (errors : Bool) (place : Station) : Prop where
  alive : consumer.fault = none
  own : consumer.ctx = some call
  found : consumer.goroutines[call]? = some (.subscribe errors place)

theorem found_put {goroutine moved : Goroutine} (found : consumer.goroutines[index]? = some goroutine) :
    (consumer.put index moved).goroutines[index]? = some moved := by
  unfold put
  rw [getElem?_set_of_found found, if_pos rfl]

theorem Ready.put (ready : consumer.Ready call errors place) (next : Station) :
    (consumer.put call (.subscribe errors next)).Ready call errors next :=
  ⟨ready.alive, ready.own, found_put ready.found⟩

theorem Shows.comes {result : ConsumerAt} (shows : consumer.Shows call result) : consumer.Comes call result :=
  ⟨0, consumer, rfl, shows⟩

theorem Ready.comes {result : ConsumerAt} (ready : consumer.Ready call errors place)
    (consumed : consumer.consume call errors place .proceeds = some (mid, next))
    (later : (mid.put call (.subscribe errors next)).Comes call result) : consumer.Comes call result := by
  obtain ⟨steps, after, ran, arrived⟩ := later
  refine ⟨steps + 1, after, ?_, arrived⟩
  have stepped : consumerMachine.step consumer (.advance call .proceeds) =
      some (mid.put call (.subscribe errors next)) :=
    step_advance ready.alive ready.found (by rw [perform, consumed]; rfl)
  rw [List.replicate_succ, Machine.run, if_pos trivial, stepped, Option.bind_some, ran]

theorem Ready.comes_noting {envelope : Envelope} (ready : consumer.Ready call errors (.noting envelope)) :
    consumer.Comes call (.sending envelope) := by
  have noted : (consumer.updateOffset envelope.message.partition envelope.message.offset).Ready call errors
      (.noting envelope) := ⟨ready.alive, ready.own, ready.found⟩
  have offering := noted.put (.offering envelope)
  refine ready.comes rfl (offering.comes ?_ (Shows.comes ⟨errors, found_put offering.found⟩))
  simp only [consume, processing, readContext, offering.own]

theorem Ready.comes_unfiltered {envelope : Envelope} (ready : consumer.Ready call errors (.consulting envelope))
    (unset : consumer.filter = none) : consumer.Comes call (.sending envelope) := by
  refine ready.comes ?_ (ready.put (.noting envelope)).comes_noting
  simp only [consume, processing, unset, Option.isSome_none, Bool.false_eq_true, if_false]

theorem Ready.comes_filtering {envelope : Envelope} {filter : Event → Bool}
    (ready : consumer.Ready call errors (.filtering envelope)) (set : consumer.filter = some filter) :
    consumer.Comes call (if filter envelope.event then .sending envelope else .committing envelope.message) := by
  have filtered : consumer.consume call errors (.filtering envelope) .proceeds = some (if filter envelope.event then
      (consumer, .noting envelope) else consumer.skip call envelope.message) := by
    simp only [consume, processing, applyFilter, set]
  by_cases accepts : filter envelope.event = true
  · rw [if_pos accepts] at filtered ⊢
    exact ready.comes filtered (ready.put (.noting envelope)).comes_noting
  · rw [if_neg accepts] at filtered ⊢
    exact ready.comes filtered (Shows.comes ⟨errors, found_put ready.found⟩)

theorem Ready.comes_filtered {envelope : Envelope} {filter : Event → Bool}
    (ready : consumer.Ready call errors (.consulting envelope)) (set : consumer.filter = some filter) :
    consumer.Comes call (if filter envelope.event then .sending envelope else .committing envelope.message) := by
  refine ready.comes ?_ ((ready.put (.filtering envelope)).comes_filtering set)
  simp only [consume, processing, set, Option.isSome_some, if_true]

/-- A round that nobody interrupts ends where the pipeline of a subscription has it: `processMessage` there is the
operations of the loop here, from the return of `FetchMessage` to the next call that can block. -/
theorem processMessage_alone {wiring : Wiring} {fetch : Fetch} (state : State)
    (ready : consumer.Ready call errors (.decoding fetch)) (serializer : consumer.serializer = wiring.serializer)
    (filter : consumer.filter = wiring.filter) :
    consumer.Comes call (processMessage wiring state fetch).consumer := by
  have decoded : consumer.consume call errors (.decoding fetch) .proceeds = some (consumer.decode call fetch) := rfl
  unfold decode at decoded
  unfold processMessage judge
  rw [← serializer, ← filter]
  cases unread : consumer.serializer with
  | none =>
    simp only [unread] at decoded
    exact ready.comes decoded (Shows.comes nofun)
  | some deserialize =>
    simp only [unread] at decoded
    cases read : deserialize fetch.message.value fetch.timestamp fetch.createdAt with
    | error =>
      simp only [read] at decoded ⊢
      exact ready.comes decoded (Shows.comes ⟨errors, found_put ready.found⟩)
    | ok event =>
      simp only [read] at decoded ⊢
      have consulting := ready.put (.consulting ⟨fetch.message, event⟩)
      apply ready.comes decoded
      cases set : consumer.filter with
      | none => exact consulting.comes_unfiltered set
      | some filter =>
        have filtered := consulting.comes_filtered set
        by_cases accepts : filter event = true
        · simpa only [if_pos accepts] using filtered
        · simpa only [if_neg accepts] using filtered

end KafkaConsumer
end EventGateway.Subscription
