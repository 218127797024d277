import EventGateway.Lib.FiniteMap
import EventGateway.Subscription.Gateway

/-! The entries of the subscription map against the `SubscribeEvents` calls in progress. An entry is
made by `Subscribe` and taken out by `Unsubscribe` only; how a stream ends makes no difference to it. -/

namespace EventGateway.Subscription
open Lib Lib.Calls
variable {engine : RegexpEngine}

def Gateway.getActiveSubscriptions (gateway : Gateway engine) : Nat := gateway.subscriptions.keys.card

def Call.inProgress (call : Call engine) : Prop := call.pipe.handler ≠ .returned

instance (call : Call engine) : Decidable call.inProgress := inferInstanceAs (Decidable (_ ≠ _))

/-- No call is in the middle of `Subscribe` or `Unsubscribe`. -/
structure Gateway.Quiet (gateway : Gateway engine) : Prop where
  subscribed : ∀ call ∈ gateway.calls, call.pipe.handler ≠ .subscribing
  unsubscribed : ∀ place ∈ gateway.unsubscribes, place = .returned

/-- There are as many entries as calls in progress, and a call that has returned leaves neither an entry nor a
forwarder whose context is not cancelled. -/
structure Gateway.Accounted (gateway : Gateway engine) : Prop where
  count : gateway.getActiveSubscriptions = gateway.calls.countP (fun call => call.inProgress)
  entries : ∀ (index : Nat) (call : Call engine), gateway.calls[index]? = some call → ¬call.inProgress →
    ∀ id, gateway.subscriptions.lookup id ≠ some index
  forwarders : ∀ call ∈ gateway.calls, ¬call.inProgress → call.pipe.forwarder.running → call.pipe.subscriptionDone

def FreshIDs (gateway : Gateway engine) : GatewayAction → Prop
  | .register index => ∀ call ∈ gateway.calls[index]?, call.id ∉ gateway.subscriptions
  | _ => True

instance (gateway : Gateway engine) (action : GatewayAction) : Decidable (FreshIDs gateway action) :=
  match action with
  | .register index => inferInstanceAs (Decidable (∀ call ∈ gateway.calls[index]?, call.id ∉ gateway.subscriptions))
  | .subscribe .. | .adapter _ | .pipe .. | .unsubscribe _ | .advance _ => inferInstanceAs (Decidable True)

section Booking
variable {calls : List (Call engine)} {subscriptions : Finmap (fun _ : String => Nat)} {closing closing' : Nat → Prop}
  {index : Nat} {call next : Call engine}

/-- An entry belongs to the call with its ID. It is there from the end of `Subscribe` to the start of `Unsubscribe`,
where `closing` says for which calls an `Unsubscribe` is about to cancel the context. -/
structure Booked (calls : List (Call engine)) (subscriptions : Finmap (fun _ : String => Nat))
    (closing : Nat → Prop) : Prop where
  owner : ∀ id index, subscriptions.lookup id = some index → ∃ call, calls[index]? = some call ∧ call.id = id
  listed : ∀ (index : Nat) (call : Call engine), calls[index]? = some call →
    (subscriptions.lookup call.id = some index ↔
      call.pipe.handler ≠ .subscribing ∧ call.pipe.subscriptionDone = false ∧ ¬closing index)
  begun : ∀ index, closing index → ∃ call, calls[index]? = some call ∧ call.pipe.handler ≠ .subscribing
  cancelled : ∀ call ∈ calls, call.pipe.subscriptionDone = true → call.pipe.handler ≠ .subscribing

theorem Booked.empty (never : ∀ index, ¬closing index) : Booked ([] : List (Call engine)) ∅ closing where
  owner := fun _ _ found => by cases found
  listed := fun _ _ found => by cases found
  begun := fun index closes => absurd closes (never index)
  cancelled := fun _ member => by cases member

theorem Booked.congr (booked : Booked calls subscriptions closing) (same : ∀ index, closing' index ↔ closing index) :
    Booked calls subscriptions closing' := by
  have equal : closing' = closing := funext (fun index => propext (same index))
  rw [equal]
  exact booked

theorem Booked.begin (booked : Booked calls subscriptions closing) (subscribing : call.pipe.handler = .subscribing)
    (live : call.pipe.subscriptionDone = false) : Booked (calls ++ [call]) subscriptions closing := by
  have free : ∀ id, subscriptions.lookup id ≠ some calls.length := by
    intro id found
    obtain ⟨other, there, -⟩ := booked.owner id _ found
    simp at there
  constructor
  · intro id index found
    obtain ⟨owner, there, named⟩ := booked.owner id index found
    exact ⟨owner, getElem?_append_of_found there, named⟩
  · intro index other there
    rcases found_append there with ⟨rfl, rfl⟩ | old
    · exact iff_of_false (free _) (fun waiting => waiting.1 subscribing)
    · exact booked.listed index other old
  · intro index closes
    obtain ⟨other, there, started⟩ := booked.begun index closes
    exact ⟨other, getElem?_append_of_found there, started⟩
  · intro other member done
    rcases List.mem_append.mp member with old | new
    · exact booked.cancelled other old done
    · cases List.mem_singleton.mp new
      rw [live] at done
      cases done

theorem Booked.owner_set (booked : Booked calls subscriptions closing) (found : calls[index]? = some call)
    (named : next.id = call.id) {id : String} {other : Nat} (there : subscriptions.lookup id = some other) :
    ∃ owner, (calls.set index next)[other]? = some owner ∧ owner.id = id := by
  obtain ⟨owner, place, same⟩ := booked.owner id other there
  rw [getElem?_set_of_found found]
  split
  next here =>
    subst here
    cases found.symm.trans place
    exact ⟨next, rfl, named.trans same⟩
  next => exact ⟨owner, place, same⟩

/-- A call whose entry is being taken out has begun, also after a call that has begun moved on. -/
theorem Booked.begun_set (booked : Booked calls subscriptions closing) (found : calls[index]? = some call)
    (handler : next.pipe.handler = .subscribing → call.pipe.handler = .subscribing) {other : Nat}
    (closes : closing other) :
    ∃ owner, (calls.set index next)[other]? = some owner ∧ owner.pipe.handler ≠ .subscribing := by
  obtain ⟨owner, place, started⟩ := booked.begun other closes
  rw [getElem?_set_of_found found]
  split
  next here =>
    subst here
    cases found.symm.trans place
    exact ⟨next, rfl, fun waiting => started (handler waiting)⟩
  next => exact ⟨owner, place, started⟩

theorem Booked.move (booked : Booked calls subscriptions closing) (found : calls[index]? = some call)
    (named : next.id = call.id) (handler : next.pipe.handler = .subscribing ↔ call.pipe.handler = .subscribing)
    (context : next.pipe.subscriptionDone = call.pipe.subscriptionDone) :
    Booked (calls.set index next) subscriptions closing := by
  constructor
  · exact fun id other there => booked.owner_set found named there
  · intro other after there
    rcases found_set found there with ⟨rfl, rfl⟩ | ⟨-, old⟩
    · rw [named, context, Ne, handler]
      exact booked.listed other call found
    · exact booked.listed other after old
  · exact fun other closes => booked.begun_set found handler.mp closes
  · intro other member done
    rcases List.mem_or_eq_of_mem_set member with old | rfl
    · exact booked.cancelled other old done
    · rw [context] at done
      rw [Ne, handler]
      exact booked.cancelled call (List.mem_of_getElem? found) done

theorem Booked.enter (booked : Booked calls subscriptions closing) (found : calls[index]? = some call)
    (named : next.id = call.id) (before : call.pipe.handler = .subscribing)
    (after : next.pipe.handler ≠ .subscribing) (context : next.pipe.subscriptionDone = call.pipe.subscriptionDone)
    (fresh : call.id ∉ subscriptions) :
    Booked (calls.set index next) (subscriptions.insert call.id index) closing := by
  have live : call.pipe.subscriptionDone = false := by
    apply Bool.eq_false_iff.mpr
    exact fun done => booked.cancelled call (List.mem_of_getElem? found) done before
  have unclosed : ¬closing index := by
    intro closes
    obtain ⟨owner, place, started⟩ := booked.begun index closes
    cases found.symm.trans place
    exact started before
  constructor
  · intro id other there
    rw [FiniteMap.lookup_insert] at there
    split at there
    next own =>
      cases there
      exact ⟨next, by rw [getElem?_set_of_found found, if_pos rfl], named.trans own.symm⟩
    next => exact booked.owner_set found named there
  · intro other called there
    rcases found_set found there with ⟨rfl, rfl⟩ | ⟨apart, old⟩
    · rw [named, Finmap.lookup_insert]
      exact iff_of_true rfl ⟨after, context.trans live, unclosed⟩
    · have before' := booked.listed other called old
      by_cases own : called.id = call.id
      · rw [own, Finmap.lookup_eq_none.mpr fresh] at before'
        rw [own, Finmap.lookup_insert, ← before']
        simp [Ne.symm apart]
      · rw [Finmap.lookup_insert_of_ne _ own]
        exact before'
  · exact fun other closes => booked.begun_set found (fun waiting => absurd waiting after) closes
  · intro other member done
    rcases List.mem_or_eq_of_mem_set member with old | rfl
    · exact booked.cancelled other old done
    · exact after

theorem Booked.leave (booked : Booked calls subscriptions closing) {id : String}
    (listed : subscriptions.lookup id = some index) :
    Booked calls (subscriptions.erase id) (fun other => closing other ∨ other = index) := by
  obtain ⟨owner, place, named⟩ := booked.owner id index listed
  constructor
  · intro other place found
    rw [FiniteMap.lookup_erase] at found
    split at found
    next => cases found
    next => exact booked.owner other place found
  · intro other call there
    rw [FiniteMap.lookup_erase]
    have before := booked.listed other call there
    split
    next same =>
      refine iff_of_false nofun ?_
      rintro ⟨entered, live, unclosed⟩
      have found := before.mpr ⟨entered, live, fun closes => unclosed (.inl closes)⟩
      rw [same, listed, Option.some.injEq] at found
      exact unclosed (.inr found.symm)
    next apart =>
      have elsewhere : other ≠ index := by
        rintro rfl
        cases place.symm.trans there
        exact apart named
      simp only [before, elsewhere, or_false]
  · rintro other (closes | rfl)
    · exact booked.begun other closes
    · exact ⟨owner, place, ((booked.listed other owner place).mp (named ▸ listed)).1⟩
  · exact booked.cancelled

theorem Booked.cancel (booked : Booked calls subscriptions closing) (found : calls[index]? = some call)
    (closes : closing index) (named : next.id = call.id) (handler : next.pipe.handler = call.pipe.handler)
    (done : next.pipe.subscriptionDone = true) (fewer : ∀ other, closing' other → closing other)
    (others : ∀ other ≠ index, closing other → closing' other) :
    Booked (calls.set index next) subscriptions closing' := by
  have started : call.pipe.handler ≠ .subscribing := by
    obtain ⟨owner, place, started⟩ := booked.begun index closes
    cases found.symm.trans place
    exact started
  have gone : subscriptions.lookup call.id ≠ some index :=
    fun entry => ((booked.listed index call found).mp entry).2.2 closes
  constructor
  · exact fun id other there => booked.owner_set found named there
  · intro other after there
    rcases found_set found there with ⟨rfl, rfl⟩ | ⟨apart, old⟩
    · rw [named]
      exact iff_of_false gone (fun entered => by simp [done] at entered)
    · have same : closing' other ↔ closing other := ⟨fewer other, others other apart⟩
      rw [same]
      exact booked.listed other after old
  · exact fun other still => booked.begun_set found (fun waiting => handler ▸ waiting) (fewer other still)
  · intro other member cancelled
    rcases List.mem_or_eq_of_mem_set member with old | rfl
    · exact booked.cancelled other old cancelled
    · exact handler ▸ started

end Booking

/-- Only the end of `Subscribe` takes the handler on, and only `sub.cancel()` cancels the context of the
subscription. -/
theorem handler_started_iff {wiring : Wiring} {state after : State} {action : Action}
    (stepped : step wiring state action = some after) (inside : action ≠ .subscribed)
    (kept : action ≠ .cancelSubscription) :
    (after.handler = .subscribing ↔ state.handler = .subscribing) ∧
      after.subscriptionDone = state.subscriptionDone := by
  cases (step_cases stepped).2 with
  | subscribed => exact absurd rfl inside
  | cancelSubscription => exact absurd rfl kept
  | handlerReturn ends =>
    have started : state.handler ≠ .subscribing := by
      intro here
      simp [State.handlerEnds, here] at ends
    simp [started]
  | handOver envelope here waiting => simp [waiting]
  | handlerReceive envelope rest here => simp [here]
  | sendSucceeds envelope here => simp [here]
  | _ => exact ⟨Iff.rfl, rfl⟩

/-- The `Unsubscribe` calls that are about to cancel the context of a call. -/
def Gateway.Closing (gateway : Gateway engine) (index : Nat) : Prop := .cancelling index ∈ gateway.unsubscribes

section Books
variable {wiring : Wiring} {gateway after : Gateway engine} {number index : Nat} {place next : UnsubscribeAt}

/-- The entries of the map are those of the calls between `Subscribe` and `Unsubscribe`. -/
def Gateway.BooksKept (gateway : Gateway engine) : Prop :=
  Booked gateway.calls gateway.subscriptions gateway.Closing

theorem closing_advance (there : gateway.unsubscribes[number]? = some place) (past : place ≠ .cancelling index)
    (onward : next ≠ .cancelling index) :
    .cancelling index ∈ gateway.unsubscribes.set number next ↔ gateway.Closing index := by
  constructor
  · intro member
    rcases List.mem_or_eq_of_mem_set member with old | new
    · exact old
    · exact absurd new.symm onward
  · exact mem_set_of_ne there past.symm

theorem booksKept_move {action : GatewayAction} (booked : gateway.BooksKept) (fresh : FreshIDs gateway action)
    (moved : GatewayMove wiring gateway action after) : after.BooksKept := by
  cases moved with
  | refused => exact booked
  | subscribe request first second call pending new =>
    exact booked.begin (by rw [new]; rfl) (by rw [new]; rfl)
  | adapterFails index owner call found pending busy => exact booked.move found rfl Iff.rfl rfl
  | adapterStarts index call pipe found pending free stepped =>
    obtain ⟨handler, context⟩ := handler_started_iff stepped nofun nofun
    exact booked.move found rfl handler context
  | register index call pipe found stepped =>
    cases (step_cases stepped).2 with
    | subscribed here unstarted => exact booked.enter found rfl here nofun rfl (fresh call found)
  | pipe index action call pipe found allowed ongoing stepped =>
    obtain ⟨handler, context⟩ := handler_started_iff stepped
      (fun entering => absurd allowed.1 (by simp [entering, Action.own]))
      (fun cancelling => absurd allowed.1 (by simp [cancelling, Action.own]))
    exact booked.move found rfl handler context
  | finish index call pipe found stepped =>
    obtain ⟨handler, context⟩ := handler_started_iff stepped nofun nofun
    exact booked.move found rfl handler context
  | unsubscribe subscriptionID index listed =>
    apply (booked.leave listed).congr
    intro other
    simp [Gateway.Closing]
  | cancel number index call pipe place found stepped =>
    cases (step_cases stepped).2 with
    | cancelSubscription =>
      refine booked.cancel found (List.mem_of_getElem? place) rfl rfl rfl ?_ ?_
      · intro other closes
        rcases List.mem_or_eq_of_mem_set closes with old | new
        · exact old
        · cases new
      · intro other apart closes
        exact mem_set_of_ne place (by simpa using apart) closes
  | notRunning number place free => exact booked.congr (fun _ => closing_advance place nofun nofun)
  | stop number index call pipe place busy found stepped =>
    obtain ⟨handler, context⟩ := handler_started_iff stepped nofun nofun
    have moved : Booked (gateway.calls.set index { call with pipe }) gateway.subscriptions gateway.Closing :=
      booked.move found rfl handler context
    exact moved.congr (fun _ => closing_advance place nofun nofun)
  | close number place => exact booked.congr (fun _ => closing_advance place nofun nofun)

theorem booksKept_of_reaches (reached : (gatewayMachine engine wiring).Reaches FreshIDs gateway) :
    gateway.BooksKept := by
  apply reached.invariant Gateway.BooksKept
  · rintro gateway rfl
    exact .empty (fun _ => List.not_mem_nil)
  · intro gateway action after _ booked fresh stepped
    exact booksKept_move booked fresh (gatewayStep_cases stepped).2

/-- With nothing under way, a call has an entry as long as its subscription is not cancelled. -/
theorem listed_iff_of_quiet (booked : gateway.BooksKept) (quiet : gateway.Quiet) {call : Call engine}
    (found : gateway.calls[index]? = some call) :
    gateway.subscriptions.lookup call.id = some index ↔ call.pipe.subscriptionDone = false := by
  have idle : ¬gateway.Closing index := fun closes => nomatch quiet.unsubscribed _ closes
  have entered := quiet.subscribed call (List.mem_of_getElem? found)
  simp [booked.listed index call found, idle, entered]

theorem active_eq_countP (booked : gateway.BooksKept) (quiet : gateway.Quiet) :
    gateway.getActiveSubscriptions = gateway.calls.countP (fun call => !call.pipe.subscriptionDone) := by
  apply FiniteMap.card_keys_eq_countP booked.owner
  intro index call found
  rw [listed_iff_of_quiet booked quiet found, Bool.not_eq_true']

end Books

/-- The entries of the map are accounted for exactly if the finished streams are those that were unsubscribed:
`SubscribeEvents` itself never calls `Unsubscribe`. -/
theorem accounted_iff_unsubscribed (wiring : Wiring) {gateway : Gateway engine}
    (reached : (gatewayMachine engine wiring).Reaches FreshIDs gateway) (quiet : gateway.Quiet) :
    gateway.Accounted ↔ ∀ call ∈ gateway.calls, ¬call.inProgress ↔ call.pipe.subscriptionDone = true := by
  have booked := booksKept_of_reaches reached
  have count := active_eq_countP booked quiet
  constructor
  · intro accounted
    have finished : ∀ call ∈ gateway.calls, ¬call.inProgress → call.pipe.subscriptionDone = true := by
      intro call member ended
      obtain ⟨index, found⟩ := List.mem_iff_getElem?.mp member
      have unlisted := accounted.entries index call found ended call.id
      rwa [Ne, listed_iff_of_quiet booked quiet found, Bool.not_eq_false] at unlisted
    have active : ∀ call ∈ gateway.calls.filter (fun call => call.inProgress),
        (!call.pipe.subscriptionDone) = true := by
      apply List.countP_eq_length.mp
      calc (gateway.calls.filter (fun call => call.inProgress)).countP (fun call => !call.pipe.subscriptionDone)
        _ = gateway.calls.countP (fun call => !call.pipe.subscriptionDone && call.inProgress) := List.countP_filter
        _ = gateway.calls.countP (fun call => !call.pipe.subscriptionDone) := by
          apply List.countP_congr
          intro call member
          simp only [Bool.and_eq_true, decide_eq_true_iff, and_iff_left_iff_imp]
          intro live
          by_contra ended
          simp [finished call member ended] at live
        _ = gateway.calls.countP (fun call => call.inProgress) := count.symm.trans accounted.count
        _ = (gateway.calls.filter (fun call => call.inProgress)).length := List.countP_eq_length_filter
    intro call member
    constructor
    · exact finished call member
    · intro done ongoing
      have live := active call (List.mem_filter.mpr ⟨member, decide_eq_true ongoing⟩)
      simp [done] at live
  · intro matched
    constructor
    · rw [count]
      apply List.countP_congr
      intro call member
      rw [Bool.not_eq_true', decide_eq_true_iff, ← Bool.not_eq_true, ← matched call member, not_not]
    · intro index call found ended id listed
      obtain ⟨owner, place, rfl⟩ := booked.owner id index listed
      cases found.symm.trans place
      rw [listed_iff_of_quiet booked quiet found] at listed
      rw [(matched call (List.mem_of_getElem? found)).mp ended] at listed
      cases listed
    · intro call member ended _
      exact (matched call member).mp ended

theorem accounted_after_unsubscribe : ∃ gateway : Gateway .none,
    (gatewayMachine .none runWiring).Reaches FreshIDs gateway ∧ gateway.Quiet ∧
    gateway.calls.map (fun call => decide call.inProgress) = [false, true] ∧ gateway.Accounted := by
  obtain ⟨gateway, reached, found⟩ := (gatewayMachine .none runWiring).reaches_of_run FreshIDs .initial
    [.subscribe (some ⟨none⟩) 1 1, .register 0, .subscribe (some ⟨none⟩) 2 2, .unsubscribe (idText 1 1), .register 1,
      .advance 0, .advance 0, .pipe 0 .forwardStop, .pipe 0 .handlerReturn]
    (fun gateway => decide ((∀ call ∈ gateway.calls, call.pipe.handler ≠ .subscribing) ∧
      (∀ place ∈ gateway.unsubscribes, place = .returned) ∧
      gateway.calls.map (fun call => decide call.inProgress) = [false, true] ∧
      ∀ call ∈ gateway.calls, ¬call.inProgress ↔ call.pipe.subscriptionDone = true))
    rfl (by decide +kernel)
  obtain ⟨subscribed, unsubscribed, ended, matched⟩ := of_decide_eq_true found
  have quiet : gateway.Quiet := ⟨subscribed, unsubscribed⟩
  exact ⟨gateway, reached, quiet, ended, (accounted_iff_unsubscribed runWiring reached quiet).mpr matched⟩

/-- A client goes away, and its entry stays. -/
theorem entry_left_behind : ∃ gateway : Gateway .none,
    (gatewayMachine .none runWiring).Reaches FreshIDs gateway ∧ gateway.Quiet ∧
    (∀ call ∈ gateway.calls, ¬call.inProgress ∧ call.pipe.forwarder.running) ∧
    gateway.getActiveSubscriptions = 1 ∧ ¬gateway.Accounted := by
  obtain ⟨gateway, reached, found⟩ := (gatewayMachine .none runWiring).reaches_of_run FreshIDs .initial
    [.subscribe (some ⟨none⟩) 1 1, .register 0, .pipe 0 .cancelStream, .pipe 0 .handlerReturn]
    (fun gateway => decide ((∀ call ∈ gateway.calls, call.pipe.handler ≠ .subscribing) ∧
      (∀ place ∈ gateway.unsubscribes, place = .returned) ∧
      (∀ call ∈ gateway.calls, ¬call.inProgress ∧ call.pipe.forwarder.running) ∧
      gateway.getActiveSubscriptions = 1 ∧ gateway.calls.countP (fun call => call.inProgress) = 0))
    rfl (by decide +kernel)
  obtain ⟨subscribed, unsubscribed, left, entries, ended⟩ := of_decide_eq_true found
  refine ⟨gateway, reached, ⟨subscribed, unsubscribed⟩, left, entries, ?_⟩
  intro accounted
  have count := accounted.count
  rw [entries, ended] at count
  cases count

end EventGateway.Subscription
