import EventGateway.Lib.Calls
import EventGateway.Lib.Machine
import Mathlib.Data.List.Forall2

/-! Jobs that share a state. A job is done, or it does one atomic thing and goes on with what it saw. A crew is a
number of jobs that run at once, each of them one action at a time.

What a job does is specified by phases: a relation says which actions lead from one phase to another. A job follows
its phases if every action it may take is one of these, whatever the state is when it takes it. The rule of this
library: a crew whose jobs follow their phases goes on like phases that move one at a time, so that an invariant has
to be proved for the moves of one phase only. -/

namespace EventGateway.Lib

inductive Job (σ ρ : Type) where
  | done (result : ρ)
  /-- Changes the state, and goes on with the state that it found. -/
  | act (effect : σ → σ) (next : σ → Job σ ρ)

namespace Job
variable {σ τ α ρ : Type}

protected def bind : Job σ α → (α → Job σ ρ) → Job σ ρ
  | .done result, rest => rest result
  | .act effect next, rest => .act effect (fun state => (next state).bind rest)

def ask (action : σ → ρ × σ) : Job σ ρ := .act (fun state => (action state).2) (fun state => .done (action state).1)

def zoom (get : τ → σ) (set : τ → σ → τ) : Job σ ρ → Job τ ρ
  | .done result => .done result
  | .act effect next =>
    .act (fun state => set state (effect (get state))) (fun state => (next (get state)).zoom get set)

def alone : Job σ ρ → σ → ρ × σ
  | .done result, state => (result, state)
  | .act effect next, state => (next state).alone (effect state)

def result? : Job σ ρ → Option ρ
  | .done result => some result
  | .act _ _ => none

def MayEnd : Job σ ρ → ρ → Prop
  | .done result, ending => ending = result
  | .act _ next, ending => ∃ state, (next state).MayEnd ending

theorem alone_bind (job : Job σ α) (rest : α → Job σ ρ) (state : σ) :
    (job.bind rest).alone state = (rest (job.alone state).1).alone (job.alone state).2 := by
  induction job generalizing state with
  | done result => rfl
  | act effect next ih => exact ih state (effect state)

theorem alone_zoom {get : τ → σ} {set : τ → σ → τ} (job : Job σ ρ) (getSet : ∀ state part, get (set state part) = part)
    (setSet : ∀ state part last, set (set state part) last = set state last) (setGet : ∀ state, set state (get state) = state)
    (state : τ) :
    (job.zoom get set).alone state = ((job.alone (get state)).1, set state (job.alone (get state)).2) := by
  induction job generalizing state with
  | done result => exact congrArg (Prod.mk result) (setGet state).symm
  | act effect next ih =>
    have rest := ih (get state) (set state (effect (get state)))
    rw [getSet, setSet] at rest
    exact rest

variable {φ : Type} (moves : φ → σ → σ → φ → Prop)

/-- Whatever the state is, each action of the job is a move to a phase from which the job goes on like this, and its
result suits the phase in which it ends. -/
def Follows (post : φ → ρ → Prop) : Job σ ρ → φ → Prop
  | .done result, phase => post phase result
  | .act effect next, phase => ∀ state, ∃ later, moves phase state (effect state) later ∧
      (next state).Follows post later

variable {moves} {post : φ → ρ → Prop} {phase : φ}

theorem Follows.mono {job : Job σ ρ} {wider : φ → ρ → Prop} (follows : job.Follows moves post phase)
    (weaker : ∀ phase result, post phase result → wider phase result) : job.Follows moves wider phase := by
  induction job generalizing phase with
  | done result => exact weaker phase result follows
  | act effect next ih =>
    intro state
    obtain ⟨later, moved, rest⟩ := follows state
    exact ⟨later, moved, ih state rest⟩

theorem Follows.ask {action : σ → ρ × σ}
    (moved : ∀ state, ∃ later, moves phase state (action state).2 later ∧ post later (action state).1) :
    (ask action).Follows moves post phase := moved

theorem Follows.bind {job : Job σ α} {rest : α → Job σ ρ} {middle : φ → α → Prop}
    (first : job.Follows moves middle phase)
    (after : ∀ later result, middle later result → (rest result).Follows moves post later) :
    (job.bind rest).Follows moves post phase := by
  induction job generalizing phase with
  | done result => exact after phase result first
  | act effect next ih =>
    intro state
    obtain ⟨later, moved, follows⟩ := first state
    exact ⟨later, moved, ih state follows⟩

/-- A job on a part of the state stays in a phase that permits any change of that part. -/
theorem Follows.zoom {get : τ → σ} {set : τ → σ → τ} {moves : φ → τ → τ → φ → Prop} (job : Job σ ρ)
    (permits : ∀ state part, moves phase state (set state part) phase) :
    (job.zoom get set).Follows moves (fun later result => later = phase ∧ job.MayEnd result) phase := by
  induction job with
  | done result => exact ⟨rfl, rfl⟩
  | act effect next ih =>
    refine fun state => ⟨phase, permits state _, (ih (get state)).mono ?_⟩
    rintro later result ⟨rfl, ends⟩
    exact ⟨rfl, get state, ends⟩

theorem Follows.weaken {job : Job σ ρ} {wider : φ → σ → σ → φ → Prop} (follows : job.Follows moves post phase)
    (weaker : ∀ phase state after later, moves phase state after later → wider phase state after later) :
    job.Follows wider post phase := by
  induction job generalizing phase with
  | done result => exact follows
  | act effect next ih =>
    intro state
    obtain ⟨later, moved, rest⟩ := follows state
    exact ⟨later, weaker _ _ _ _ moved, ih state rest⟩

def Stays (related : σ → σ → Prop) (job : Job σ ρ) : Prop :=
  job.Follows (fun (_ : Unit) state after _ => related state after) (fun _ _ => True) ()

theorem Follows.stays {job : Job σ ρ} {related : σ → σ → Prop} (follows : job.Follows moves post phase)
    (within : ∀ phase state after later, moves phase state after later → related state after) : job.Stays related := by
  induction job generalizing phase with
  | done result => trivial
  | act effect next ih =>
    intro state
    obtain ⟨later, moved, rest⟩ := follows state
    exact ⟨(), within _ _ _ _ moved, ih state rest⟩

end Job

structure Crew (σ ρ : Type) where
  shared : σ
  jobs : List (Job σ ρ)

inductive CrewStep (ι ε : Type) where
  | start (request : ι)
  | advance (index : Nat)
  | disturb (event : ε)
  deriving DecidableEq

section Crews
variable {σ ρ ι ε φ : Type}

namespace Crew

def alive (fatal : ρ → Bool) (crew : Crew σ ρ) : Bool := crew.jobs.all (fun job => !job.result?.any fatal)

def step (spawn : ι → Job σ ρ) (disturb : σ → ε → Option σ) (fatal : ρ → Bool) (crew : Crew σ ρ)
    (label : CrewStep ι ε) : Option (Crew σ ρ) :=
  if crew.alive fatal then
    match label with
    | .start request => some { crew with jobs := crew.jobs ++ [spawn request] }
    | .advance index =>
      match crew.jobs[index]? with
      | some (.act effect next) => some ⟨effect crew.shared, crew.jobs.set index (next crew.shared)⟩
      | _ => none
    | .disturb event => (disturb crew.shared event).map (fun shared => { crew with shared })
  else none

end Crew

def crewMachine (init : σ → Prop) (spawn : ι → Job σ ρ) (disturb : σ → ε → Option σ) (fatal : ρ → Bool) :
    Machine (Crew σ ρ) (CrewStep ι ε) where
  init crew := init crew.shared ∧ crew.jobs = []
  step := Crew.step spawn disturb fatal

inductive Marches (init : σ → Prop) (first : ι → φ) (disturb : σ → ε → Option σ) (moves : φ → σ → σ → φ → Prop) :
    σ → List φ → Prop where
  | start {state : σ} (initial : init state) : Marches init first disturb moves state []
  | join {state : σ} {phases : List φ} (before : Marches init first disturb moves state phases) (request : ι) :
      Marches init first disturb moves state (phases ++ [first request])
  | move {state after : σ} {phases : List φ} {index : Nat} {phase next : φ}
      (before : Marches init first disturb moves state phases) (found : phases[index]? = some phase)
      (moved : moves phase state after next) : Marches init first disturb moves after (phases.set index next)
  | disturb {state after : σ} {phases : List φ} {event : ε} (before : Marches init first disturb moves state phases)
      (disturbed : disturb state event = some after) : Marches init first disturb moves after phases

variable {init : σ → Prop} {spawn : ι → Job σ ρ} {disturb : σ → ε → Option σ} {fatal : ρ → Bool} {first : ι → φ}
  {moves : φ → σ → σ → φ → Prop} {post : φ → ρ → Prop} {crew after : Crew σ ρ}

inductive Crew.Stepped (spawn : ι → Job σ ρ) (disturb : σ → ε → Option σ) (crew : Crew σ ρ) :
    CrewStep ι ε → Crew σ ρ → Prop where
  | start (request : ι) : Stepped spawn disturb crew (.start request) ⟨crew.shared, crew.jobs ++ [spawn request]⟩
  | advance (index : Nat) (effect : σ → σ) (next : σ → Job σ ρ) (found : crew.jobs[index]? = some (.act effect next)) :
      Stepped spawn disturb crew (.advance index) ⟨effect crew.shared, crew.jobs.set index (next crew.shared)⟩
  | disturb (event : ε) (shared : σ) (disturbed : disturb crew.shared event = some shared) :
      Stepped spawn disturb crew (.disturb event) ⟨shared, crew.jobs⟩

theorem Crew.step_cases {label : CrewStep ι ε} (stepped : crew.step spawn disturb fatal label = some after) :
    Crew.Stepped spawn disturb crew label after := by
  unfold Crew.step at stepped
  split at stepped
  next =>
    cases label with
    | start request =>
      cases stepped
      exact .start request
    | advance index =>
      simp only at stepped
      split at stepped
      next effect next found =>
        cases stepped
        exact .advance index effect next found
      next => cases stepped
    | disturb event =>
      obtain ⟨shared, disturbed, same⟩ := Option.map_eq_some_iff.mp stepped
      cases same
      exact .disturb event shared disturbed
  next => cases stepped

theorem alive_append (lively : crew.alive fatal = true) (effect : σ → σ) (next : σ → Job σ ρ) (shared : σ) :
    Crew.alive fatal ⟨shared, crew.jobs ++ [.act effect next]⟩ = true := by
  rw [Crew.alive, List.all_append, Bool.and_eq_true]
  exact ⟨lively, rfl⟩

theorem reaches_alone {admits : Crew σ ρ → CrewStep ι ε → Prop} (lively : crew.alive fatal = true)
    (goes : ∀ crew index, admits crew (.advance index)) (job : Job σ ρ) :
    ((crewMachine init spawn disturb fatal).startingAt ⟨crew.shared, crew.jobs ++ [job]⟩).Reaches admits
      ⟨(job.alone crew.shared).2, crew.jobs ++ [.done (job.alone crew.shared).1]⟩ := by
  generalize from_here : (crewMachine init spawn disturb fatal).startingAt ⟨crew.shared, crew.jobs ++ [job]⟩ = machine
  have started : machine.Reaches admits ⟨crew.shared, crew.jobs ++ [job]⟩ := from_here ▸ .start rfl
  have steps : machine.step = Crew.step spawn disturb fatal := from_here ▸ rfl
  clear from_here
  generalize crew.shared = state at started
  induction job generalizing state with
  | done result => exact started
  | act effect next ih =>
    have last : (crew.jobs ++ [Job.act effect next])[crew.jobs.length]? = some (.act effect next) :=
      List.getElem?_concat_length
    have stepped : machine.step ⟨state, crew.jobs ++ [.act effect next]⟩ (.advance crew.jobs.length) =
        some ⟨effect state, crew.jobs ++ [next state]⟩ := by
      simp only [steps, Crew.step, alive_append lively, if_true, last]
      simp
    exact ih state (effect state) (started.next (goes _ _) stepped)

theorem reachable_alone (reached : (crewMachine init spawn disturb fatal).Reachable crew)
    (lively : crew.alive fatal = true) (request : ι) :
    (crewMachine init spawn disturb fatal).Reachable
      ⟨((spawn request).alone crew.shared).2, crew.jobs ++ [.done ((spawn request).alone crew.shared).1]⟩ := by
  have stepped : (crewMachine init spawn disturb fatal).step crew (.start request) =
    some ⟨crew.shared, crew.jobs ++ [spawn request]⟩ := if_pos lively
  exact (reached.next trivial stepped).trans (reaches_alone lively (fun _ _ => trivial) _)

theorem forall₂_set {α β : Type*} {related : α → β → Prop} {lefts : List α} {rights : List β}
    (matched : List.Forall₂ related lefts rights) (index : Nat) {left : α} {right : β} (pair : related left right) :
    List.Forall₂ related (lefts.set index left) (rights.set index right) := by
  induction matched generalizing index with
  | nil => exact .nil
  | cons one rest ih =>
    cases index with
    | zero => exact .cons pair rest
    | succ index => exact .cons one (ih index)

theorem marches_of_reachable (follows : ∀ request, (spawn request).Follows moves post (first request))
    (reached : (crewMachine init spawn disturb fatal).Reachable crew) :
    ∃ phases, Marches init first disturb moves crew.shared phases ∧
      List.Forall₂ (fun job phase => job.Follows moves post phase) crew.jobs phases := by
  apply reached.invariant (fun crew => ∃ phases, Marches init first disturb moves crew.shared phases ∧
    List.Forall₂ (fun job phase => job.Follows moves post phase) crew.jobs phases)
  · intro crew initial
    rw [initial.2]
    exact ⟨[], .start initial.1, .nil⟩
  · rintro crew label after - ⟨phases, marched, matched⟩ - stepped
    cases Crew.step_cases stepped with
    | start request =>
      exact ⟨phases ++ [first request], .join marched request,
        List.rel_append matched (.cons (follows request) .nil)⟩
    | advance index effect next found =>
      obtain ⟨inside, here⟩ := List.getElem?_eq_some_iff.mp found
      have there : index < phases.length := matched.length_eq ▸ inside
      have follows : (Job.act effect next).Follows moves post phases[index] := here ▸ matched.get inside there
      obtain ⟨later, moved, rest⟩ := follows crew.shared
      exact ⟨phases.set index later, .move marched (List.getElem?_eq_getElem there) moved,
        forall₂_set matched index rest⟩
    | disturb event shared disturbed => exact ⟨phases, .disturb marched disturbed, matched⟩

theorem post_of_done {jobs : List (Job σ ρ)} {phases : List φ}
    (matched : List.Forall₂ (fun job phase => job.Follows moves post phase) jobs phases) {result : ρ}
    (done : .done result ∈ jobs) : ∃ phase ∈ phases, post phase result := by
  induction matched with
  | nil => cases done
  | cons one rest ih =>
    rcases List.mem_cons.mp done with rfl | later
    · exact ⟨_, List.mem_cons_self, one⟩
    · obtain ⟨phase, member, suits⟩ := ih later
      exact ⟨phase, List.mem_cons_of_mem _ member, suits⟩

section Tracking
variable {related : σ → σ → Prop} {holds : φ → σ → Prop} {admits : Crew σ ρ → CrewStep ι ε → Prop}
  {index : Nat} {job : Job σ ρ} {phase : φ}

end Tracking

end Crews
end EventGateway.Lib
