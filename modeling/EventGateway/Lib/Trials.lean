import EventGateway.Lib.Jobs
import EventGateway.Lib.Panic

/-! Jobs that may fail or panic. They are put together like effects, but every call of a collaborator is an action of
its own, so that other jobs may come in between. A trial that nothing interrupts is the effect it is written like
(`Performs`); a trial that is interrupted is described by the phases it goes through (`Leads`). -/

namespace EventGateway.Lib

def Trial (σ α : Type) : Type := Job σ (Outcome α)

namespace Trial
variable {σ α β : Type}

protected def pure (value : α) : Trial σ α := Job.done (.returned (.ok value))

def onward (next : α → Trial σ β) : Outcome α → Job σ (Outcome β)
  | .returned (.ok value) => next value
  | .returned (.error err) => .done (.returned (.error err))
  | .panicked => .done .panicked

protected def bind (first : Trial σ α) (next : α → Trial σ β) : Trial σ β := Job.bind first (onward next)

instance : Monad (Trial σ) where
  pure := Trial.pure
  bind := Trial.bind

def fail (err : String) : Trial σ α := Job.done (.returned (.error err))

def crash : Trial σ α := Job.done .panicked

def call (action : Effect σ α) : Trial σ α :=
  Job.act (fun state => (action state).2) (fun state => .done (.returned (action state).1))

def see (action : σ → α × σ) : Trial σ α := call (Effect.observe action)

def note (change : σ → σ) : Trial σ Unit := see (fun state => ((), change state))

def wrap (context : String) (trial : Trial σ α) : Trial σ α :=
  Job.bind trial (fun outcome =>
    match outcome with
    | .returned (.error err) => .done (.returned (.error (context ++ err)))
    | other => .done other)

def eachFrom (body : Nat → α → Trial σ Unit) : Nat → List α → Trial σ Unit
  | _, [] => pure ()
  | start, element :: rest => do
      body start element
      eachFrom body (start + 1) rest

def collectFrom (body : Nat → α → Trial σ β) : Nat → List α → Trial σ (List β)
  | _, [] => pure []
  | start, element :: rest => do
      let result ← body start element
      let results ← collectFrom body (start + 1) rest
      pure (result :: results)

def alone (trial : Trial σ α) : Risky σ α := Job.alone trial

theorem alone_bind (first : Trial σ α) (next : α → Trial σ β) :
    (first >>= next).alone = first.alone >>= fun value => (next value).alone := by
  funext state
  have joined := Job.alone_bind first (onward next) state
  refine joined.trans ?_
  rw [Risky.bind_apply, alone]
  rcases Job.alone first state with ⟨⟨err | value⟩ | -, after⟩
  · rfl
  · rfl
  · rfl

theorem alone_see (action : σ → α × σ) (state : σ) :
    (see action).alone state = (.returned (.ok (action state).1), (action state).2) := rfl

theorem alone_note (change : σ → σ) (state : σ) : (note change).alone state = (.returned (.ok ()), change state) := rfl

theorem alone_fail (err : String) (state : σ) : (fail err : Trial σ α).alone state = (.returned (.error err), state) := rfl

section Performing

def Performs (trial : Trial σ α) (action : Effect σ α) : Prop := trial.alone = Risky.calling action

theorem Performs.pure (value : α) : (Pure.pure value : Trial σ α).Performs (Pure.pure value) := rfl

theorem Performs.fail (err : String) : (fail err : Trial σ α).Performs (Effect.fail err) := rfl

theorem Performs.call (action : Effect σ α) : (call action).Performs action := rfl

theorem Performs.bind {first : Trial σ α} {next : α → Trial σ β} {action : Effect σ α} {rest : α → Effect σ β}
    (head : first.Performs action) (tail : ∀ value, (next value).Performs (rest value)) :
    (first >>= next).Performs (action >>= rest) := by
  unfold Performs
  rw [alone_bind, head, Risky.calling_bind]
  exact congrArg (Risky.calling action >>= ·) (funext tail)

theorem Performs.wrap {trial : Trial σ α} {action : Effect σ α} (performs : trial.Performs action)
    (context : String) : (wrap context trial).Performs (Effect.wrap context action) := by
  funext state
  have same : Job.alone trial state = Risky.calling action state := congrFun performs state
  refine (Job.alone_bind trial _ state).trans ?_
  rw [same]
  unfold Risky.calling Effect.wrap
  rcases action state with ⟨err | value, after⟩
  · rfl
  · rfl

theorem Performs.eachFrom {body : Nat → α → Trial σ Unit} {action : Nat → α → Effect σ Unit}
    (each : ∀ index element, (body index element).Performs (action index element)) (start : Nat) (elements : List α) :
    (eachFrom body start elements).Performs (Effect.eachFrom action start elements) := by
  induction elements generalizing start with
  | nil => exact Performs.pure ()
  | cons element rest ih => exact (each start element).bind (fun _ => ih (start + 1))

end Performing

section Leading
variable {φ : Type} {moves : φ → σ → σ → φ → Prop} {phase : φ} {after : φ → α → Prop}

/-- Whatever comes in between, the trial moves from phase to phase, and a success suits the phase it ends in. -/
def Leads (moves : φ → σ → σ → φ → Prop) (trial : Trial σ α) (phase : φ) (after : φ → α → Prop) : Prop :=
  Job.Follows moves (fun later outcome => ∀ value, outcome = .returned (.ok value) → after later value) trial phase

theorem Leads.pure {value : α} (suits : after phase value) :
    Leads moves (Pure.pure value : Trial σ α) phase after := by
  intro other same
  cases same
  exact suits

theorem Leads.fail (err : String) : Leads moves (fail err : Trial σ α) phase after := by
  intro value same
  cases same

theorem Leads.crash : Leads moves (crash : Trial σ α) phase after := by
  intro value same
  cases same

theorem Leads.mono {trial : Trial σ α} {wider : φ → α → Prop} (leads : trial.Leads moves phase after)
    (weaker : ∀ later value, after later value → wider later value) : trial.Leads moves phase wider :=
  Job.Follows.mono leads (fun later _ suits value same => weaker later value (suits value same))

theorem Leads.bind {first : Trial σ α} {next : α → Trial σ β} {middle : φ → α → Prop} {after : φ → β → Prop}
    (head : first.Leads moves phase middle)
    (tail : ∀ later value, middle later value → (next value).Leads moves later after) :
    Leads moves (first >>= next) phase after := by
  apply Job.Follows.bind head
  rintro later (⟨err | value⟩ | -) suits
  · exact Leads.fail err
  · exact tail later value (suits value rfl)
  · exact Leads.crash

theorem Leads.call {action : Effect σ α}
    (moved : ∀ state, ∃ later, moves phase state (action state).2 later ∧
      ∀ value, (action state).1 = .ok value → after later value) :
    (call action).Leads moves phase after := by
  intro state
  obtain ⟨later, one, suits⟩ := moved state
  refine ⟨later, one, fun value same => suits value ?_⟩
  injection same

theorem Leads.see {action : σ → α × σ}
    (moved : ∀ state, ∃ later, moves phase state (action state).2 later ∧ after later (action state).1) :
    (see action).Leads moves phase after := by
  apply Leads.call
  intro state
  obtain ⟨later, one, suits⟩ := moved state
  refine ⟨later, one, fun value same => ?_⟩
  cases same
  exact suits

theorem Leads.wrap {trial : Trial σ α} (leads : trial.Leads moves phase after) (context : String) :
    (wrap context trial).Leads moves phase after := by
  apply Job.Follows.bind leads
  rintro later (⟨err | value⟩ | -) suits
  · intro value same
    cases same
  · exact suits
  · exact suits

theorem Leads.eachFrom {body : Nat → α → Trial σ Unit} (holds : List α → φ → Prop) (elements : List α)
    (step : ∀ index done element phase, done ++ [element] <+: elements → index = done.length → holds done phase →
      (body index element).Leads moves phase (fun later _ => holds (done ++ [element]) later))
    (begins : holds [] phase) :
    (eachFrom body 0 elements).Leads moves phase (fun later _ => holds elements later) := by
  suffices loop : ∀ rest done phase, done ++ rest = elements → holds done phase →
      (Trial.eachFrom body done.length rest).Leads moves phase (fun later _ => holds elements later) from
    loop elements [] phase rfl begins
  intro rest
  induction rest with
  | nil =>
    intro done phase whole reached
    rw [List.append_nil] at whole
    exact Leads.pure (whole ▸ reached)
  | cons element rest ih =>
    intro done phase whole reached
    have split : (done ++ [element]) ++ rest = elements := by simpa using whole
    apply (step done.length done element phase ⟨rest, split⟩ rfl reached).bind
    intro later _ further
    have next := ih (done ++ [element]) later split further
    rwa [List.length_append] at next

theorem Leads.collectFrom {body : Nat → α → Trial σ β} (related : α → β → Prop) (elements : List α)
    (step : ∀ index element, (body index element).Leads moves phase
      (fun later value => later = phase ∧ related element value)) (start : Nat) :
    (collectFrom body start elements).Leads moves phase
      (fun later values => later = phase ∧ List.Forall₂ related elements values) := by
  induction elements generalizing start with
  | nil => exact .pure ⟨rfl, .nil⟩
  | cons element rest ih =>
    apply (step start element).bind
    rintro _ value ⟨rfl, one⟩
    apply (ih (start + 1)).bind
    rintro _ values ⟨rfl, others⟩
    exact .pure ⟨rfl, .cons one others⟩

end Leading
end Trial
end EventGateway.Lib
