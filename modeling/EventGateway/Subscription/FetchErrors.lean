import EventGateway.Subscription.Gateway

/-! Fetch errors. The error channel that the adapter makes holds one error and has no reader:
the first error of a subscription fills it, and the second one blocks the consume loop until
its context is cancelled. -/

namespace EventGateway.Subscription
open Lib
variable {engine : RegexpEngine} {wiring : Wiring}

namespace Gateway

def Later (wiring : Wiring) (gateway later : Gateway engine) : Prop :=
  ((gatewayMachine engine wiring).startingAt gateway).Reachable later

/-- In a live process the loop of a call is in the select of `handleFetchError`, its context is not
cancelled, and until it is, no step of any goroutine gets the loop out of there. -/
structure Wedged (wiring : Wiring) (gateway : Gateway engine) (index : Nat) : Prop where
  alive : gateway.Alive
  here : ∃ state, gateway.pipeOf index = some state ∧ state.consumer = .reporting ∧ ¬state.ctxDone
  forever : ∀ later state, gateway.Later wiring later → later.pipeOf index = some state → ¬state.ctxDone →
    state.consumer = .reporting

end Gateway

/-- The step is a fetch of this call that fails, but not with `context.Canceled`. -/
def failsFetch (index : Nat) : GatewayAction → Bool
  | .pipe other .fetchFails => other = index
  | _ => false

def fetchErrors (index : Nat) (labels : List GatewayAction) : Nat := labels.countP (failsFetch index)

theorem failsFetch_eq (index : Nat) (action : GatewayAction) :
    failsFetch index action = decide (action.pipeAction index = some .fetchFails) := by
  cases action with
  | pipe other own =>
    by_cases here : other = index
    · cases own <;> simp [failsFetch, GatewayAction.pipeAction, here]
    · cases own <;> simp [failsFetch, GatewayAction.pipeAction, here]
  | _ => rfl

section Counting
variable {state after : State} {count : Nat}

/-- As long as its context is not cancelled, the errors of a loop are the one in the channel and the one
that it is about to report. -/
def ErrorsQueued (count : Nat) : Option State → Prop
  | none => count = 0
  | some state => ¬state.ctxDone →
      count = state.errorQueued.toNat + (decide (state.consumer = .reporting)).toNat

theorem ctxDone_move {action : Action} (moved : Move wiring state action after) (done : state.ctxDone) :
    after.ctxDone := by
  cases moved with
  | cancelStream => exact .inl rfl
  | cancelConsumer => exact .inr rfl
  | _ => exact done

theorem processMessage_reporting (wiring : Wiring) (state : State) (fetch : Fetch) :
    (processMessage wiring state fetch).consumer ≠ .reporting := by
  unfold processMessage
  cases judge wiring fetch <;> nofun

theorem errorsQueued_move {action : Action} (queued : ErrorsQueued count (some state))
    (moved : Move wiring state action after) :
    ErrorsQueued (count + (decide (action = .fetchFails)).toNat) (some after) := by
  intro ongoing
  have before := queued (mt (ctxDone_move moved) ongoing)
  rw [before]
  cases moved with
  | fetch fetch here =>
    have away := processMessage_reporting wiring state fetch
    have queued : (processMessage wiring state fetch).errorQueued = state.errorQueued := rfl
    simp [here, away, queued]
  | report here room => simp [here, room]
  | giveUp here done => exact absurd done ongoing
  | start here | poll here | leave here | fetchFails here | finish here => simp [here]
  | enqueue envelope here | commit message here | commitFails message here => simp [here]
  | _ => simp

theorem errorsQueued_step {label : Option Action} {before next : Option State} (queued : ErrorsQueued count before)
    (stepped : PipeStep wiring label before next) :
    ErrorsQueued (count + (decide (label = some .fetchFails)).toNat) next := by
  cases stepped with
  | other quiet => simpa [quiet] using queued
  | begun quiet =>
    intro _
    rw [show count = 0 from queued, quiet]
    rfl
  | own action state after origin taken =>
    have same : decide (label = some .fetchFails) = decide (action = .fetchFails) := by
      rcases origin with named | ⟨quiet, behalf⟩
      · simp [named]
      · cases action <;> simp_all [Action.own]
    rw [same]
    exact errorsQueued_move queued (step_cases taken).2

theorem errorsQueued_run {index : Nat} {labels : List GatewayAction} {gateway later : Gateway engine}
    (queued : ErrorsQueued count (gateway.pipeOf index))
    (ran : (gatewayMachine engine wiring).run (fun _ _ => True) gateway labels = some later) :
    ErrorsQueued (count + fetchErrors index labels) (later.pipeOf index) := by
  induction labels generalizing gateway count with
  | nil =>
    cases ran
    exact queued
  | cons label rest ih =>
    obtain ⟨next, -, stepped, tail⟩ := Machine.run_cons ran
    have moved := ih (errorsQueued_step queued (pipeStep_cases stepped index)) tail
    rw [← failsFetch_eq] at moved
    have total : count + (failsFetch index label).toNat + fetchErrors index rest =
        count + fetchErrors index (label :: rest) := by
      simp only [fetchErrors, List.countP_cons]
      cases failsFetch index label <;> simp [Nat.add_assoc, Nat.add_comm]
    rwa [total] at moved

end Counting

section Wedge
variable {state after : State}

def Blocked (state : State) : Prop := state.consumer = .reporting ∧ state.errorQueued = true

theorem blocked_move {action : Action} (blocked : ¬state.ctxDone → Blocked state)
    (moved : Move wiring state action after) (ongoing : ¬after.ctxDone) : Blocked after := by
  have before := mt (ctxDone_move moved) ongoing
  obtain ⟨here, full⟩ := blocked before
  cases moved with
  | report _ room => cases full.symm.trans room
  | giveUp _ done => exact absurd done before
  | start there | poll there | leave there | fetch _ there | fetchFails there => cases here.symm.trans there
  | enqueue _ there | commit _ there | commitFails _ there | finish there => cases here.symm.trans there
  | _ => exact ⟨here, full⟩

theorem later_of_step {gateway after : Gateway engine} {action : GatewayAction}
    (stepped : gateway.step wiring action = some after) : gateway.Later wiring after := by
  have start : ((gatewayMachine engine wiring).startingAt gateway).Reachable gateway := .start rfl
  exact start.next trivial stepped

theorem blocked_later {gateway later : Gateway engine} {index : Nat} (found : gateway.pipeOf index = some state)
    (blocked : Blocked state) (follows : gateway.Later wiring later) :
    ∃ state, later.pipeOf index = some state ∧ (¬state.ctxDone → Blocked state) := by
  apply Machine.Reaches.invariant
    (fun gateway => ∃ state, gateway.pipeOf index = some state ∧ (¬state.ctxDone → Blocked state)) _ _ follows
  · intro gateway' initial
    rw [show gateway' = gateway from initial]
    exact ⟨state, found, fun _ => blocked⟩
  · rintro gateway action after _ ⟨state, found, blocked⟩ _ stepped
    have moved := pipeStep_cases stepped index
    rw [found] at moved
    generalize result : after.pipeOf index = next at moved
    cases moved with
    | other quiet => exact ⟨state, rfl, blocked⟩
    | own own state next origin taken => exact ⟨next, rfl, blocked_move blocked (step_cases taken).2⟩

theorem wedged_iff_blocked (wiring : Wiring) (gateway : Gateway engine) (index : Nat) :
    gateway.Wedged wiring index ↔
      gateway.Alive ∧ ∃ state, gateway.pipeOf index = some state ∧ ¬state.ctxDone ∧ Blocked state := by
  constructor
  · rintro ⟨alive, ⟨state, found, here, ongoing⟩, forever⟩
    refine ⟨alive, state, found, ongoing, here, ?_⟩
    by_contra room
    obtain ⟨call, entry, rfl⟩ := Option.map_eq_some_iff.mp found
    have taken : step wiring call.pipe .report = some { call.pipe with consumer := .polling, errorQueued := true } := by
      simp [step, move, here, room]
    have allowed : gateway.Allows .report := ⟨rfl, fun _ fetched => (by cases fetched)⟩
    have follows := later_of_step (step_pipe alive entry allowed taken)
    have moved := forever _ { call.pipe with consumer := .polling, errorQueued := true } follows
      (by rw [pipeOf_set entry rfl, if_pos rfl]) ongoing
    cases moved
  · rintro ⟨alive, state, found, ongoing, blocked⟩
    refine ⟨alive, ⟨state, found, blocked.1, ongoing⟩, ?_⟩
    intro later state' follows found' ongoing'
    obtain ⟨same, there, still⟩ := blocked_later found blocked follows
    cases there.symm.trans found'
    exact (still ongoing').1

end Wedge

/-- After any run, the loop of a call is not wedged exactly if at most one fetch of it has failed, unless
its context is cancelled or the process is dead. -/
theorem not_wedged_iff_one_error (wiring : Wiring) (labels : List GatewayAction) {gateway : Gateway engine}
    (ran : (gatewayMachine engine wiring).run (fun _ _ => True) .initial labels = some gateway) (index : Nat) :
    ¬gateway.Wedged wiring index ↔ (gateway.Alive → ∀ state, gateway.pipeOf index = some state → ¬state.ctxDone →
      fetchErrors index labels ≤ 1) := by
  have start : ErrorsQueued 0 ((Gateway.initial : Gateway engine).pipeOf index) := rfl
  have queued := errorsQueued_run start ran
  rw [Nat.zero_add] at queued
  rw [wedged_iff_blocked]
  constructor
  · intro free alive state found ongoing
    rw [found] at queued
    have total := queued ongoing
    by_contra many
    apply free
    refine ⟨alive, state, found, ongoing, ?_⟩
    unfold Blocked
    cases queued : state.errorQueued <;> by_cases here : state.consumer = .reporting <;>
      simp [queued, here] at total ⊢ <;> omega
  · rintro few ⟨alive, state, found, ongoing, here, full⟩
    have bound := few alive state found ongoing
    rw [found] at queued
    have total := queued ongoing
    simp only [here, full, Bool.toNat_true, decide_true] at total
    omega

def firstError : List GatewayAction :=
  [.subscribe (some ⟨none⟩) 1 1, .register 0, .adapter 0, .pipe 0 .poll, .pipe 0 .fetchFails]

theorem not_wedged_after_one : ∃ gateway : Gateway .none,
    (gatewayMachine .none runWiring).run (fun _ _ => True) .initial (firstError ++ [.pipe 0 .report]) = some gateway ∧
    fetchErrors 0 (firstError ++ [.pipe 0 .report]) = 1 ∧ ¬gateway.Wedged runWiring 0 := by
  cases ran : (gatewayMachine .none runWiring).run (fun _ _ => True) .initial (firstError ++ [.pipe 0 .report]) with
  | none =>
    have done : ((gatewayMachine .none runWiring).run (fun _ _ => True) .initial
      (firstError ++ [.pipe 0 .report])).isSome = true := by decide +kernel
    rw [ran] at done
    cases done
  | some gateway =>
    refine ⟨gateway, rfl, by decide, ?_⟩
    apply (not_wedged_iff_one_error runWiring _ ran 0).mpr
    intro _ _ _ _
    decide

/-- After the second one it is wedged, in the gateway as `run()` wires it. -/
theorem wedged_after_two : ∃ gateway : Gateway .none, (gatewayMachine .none runWiring).Reachable gateway ∧
    gateway.Wedged runWiring 0 := by
  obtain ⟨gateway, reached, found⟩ := (gatewayMachine .none runWiring).reaches_of_run (fun _ _ => True) .initial
    (firstError ++ [.pipe 0 .report, .pipe 0 .poll, .pipe 0 .fetchFails])
    (fun gateway => decide (gateway.Alive ∧ ∃ state ∈ gateway.pipeOf 0, ¬state.ctxDone ∧
      state.consumer = .reporting ∧ state.errorQueued = true)) rfl (by decide +kernel)
  obtain ⟨alive, state, there, blocked⟩ := of_decide_eq_true found
  exact ⟨gateway, reached, (wedged_iff_blocked runWiring gateway 0).mpr ⟨alive, state, there, blocked⟩⟩

end EventGateway.Subscription
