import EventGateway.Server.Admission

/-! What the metrics say about the handlers, and that no panic gets out of them. -/

namespace EventGateway.Server
open Lib Lib.Calls Auth RateLimit

namespace Phase

def called : Phase → Bool
  | .inside _ | .counted _ | .observed _ _ => true
  | _ => false

def failed : Phase → Bool
  | .counted _ | .observed _ true => true
  | _ => false

def recorded : Phase → Bool
  | .observed _ _ => true
  | _ => false

end Phase

structure Tallied {τ : Type} (gate : Gate τ) (phases : List Phase) : Prop where
  entered : gate.entered.length = phases.countP Phase.called
  errors : gate.errors.length = phases.countP Phase.failed
  durations : gate.durations.length = phases.countP Phase.recorded

section Invariants
variable {τ ι : Type} {checks : Checks} {rateLimiter : Option Config} {first : ι → Phase}
  {gate after : Gate τ} {phase next : Phase} {phases : List Phase} {index : Nat}

theorem called_asking (ctx : Context) (call : AllowAt) : (Phase.asking ctx call).called = false ∧
    (Phase.asking ctx call).failed = false ∧ (Phase.asking ctx call).recorded = false := by
  match call with
  | .returned (.ok true) | .returned (.ok false) | .returned (.error _) => exact ⟨rfl, rfl, rfl⟩
  | .loading _ | .storing _ _ | .asking _ _ | .taking _ _ _ | .granted _ | .recording _ _ => exact ⟨rfl, rfl, rfl⟩

theorem Moves.tallied (moved : Moves checks rateLimiter phase gate after next) :
    after.entered.length + phase.called.toNat = gate.entered.length + next.called.toNat ∧
      after.errors.length + phase.failed.toNat = gate.errors.length + next.failed.toNat ∧
      after.durations.length + phase.recorded.toNat = gate.durations.length + next.recorded.toNat := by
  cases moved with
  | authenticate =>
    cases rateLimiter with
    | _ => exact ⟨rfl, rfl, rfl⟩
  | @operate gate config on ctx call answer limiter step =>
    obtain ⟨called, failed, recorded⟩ := called_asking (ctx.stamped call) answer
    rw [called, failed, recorded]
    exact ⟨rfl, rfl, rfl⟩
  | _ => exact ⟨rfl, rfl, rfl⟩

theorem countP_set_toNat {counts : Phase → Bool} (found : phases[index]? = some phase) :
    (phases.set index next).countP counts + (counts phase).toNat = phases.countP counts + (counts next).toNat := by
  have moved := @countP_set_of_found _ _ _ _ next counts found
  cases one : counts phase <;> cases two : counts next <;> simpa [one, two] using moved

theorem tallied_of_marches (begins : ∀ request, (first request).called = false)
    (marched : Marches Gate.Fresh first (Gate.disturb rateLimiter) (Moves checks rateLimiter) gate phases) :
    Tallied gate phases := by
  induction marched with
  | start fresh => exact ⟨by rw [fresh.entered]; rfl, by rw [fresh.errors]; rfl, by rw [fresh.durations]; rfl⟩
  | @join gate phases _ request ih =>
    have none : (first request).failed = false ∧ (first request).recorded = false := by
      have begins := begins request
      cases is : first request with
      | counted | observed =>
        rw [is] at begins
        cases begins
      | _ => exact ⟨rfl, rfl⟩
    have kept {counts : Phase → Bool} (new : counts (first request) = false) :
        (phases ++ [first request]).countP counts = phases.countP counts := by
      rw [List.countP_append, List.countP_singleton, new]
      rfl
    exact ⟨(kept (begins request)).symm ▸ ih.entered, (kept none.1).symm ▸ ih.errors,
      (kept none.2).symm ▸ ih.durations⟩
  | @move gate after phases index phase next _ found moved ih =>
    obtain ⟨entered, errors, durations⟩ := moved.tallied
    have calls := @countP_set_toNat phase next phases index Phase.called found
    have failures := @countP_set_toNat phase next phases index Phase.failed found
    have records := @countP_set_toNat phase next phases index Phase.recorded found
    have before := ih.entered
    have before' := ih.errors
    have before'' := ih.durations
    exact ⟨by omega, by omega, by omega⟩
  | disturb _ disturbed ih =>
    obtain ⟨-, entered, errors, durations, -⟩ := disturb_cases disturbed
    exact ⟨entered ▸ ih.entered, errors ▸ ih.errors, durations ▸ ih.durations⟩

end Invariants

section Servers
variable {τ ρ : Type}

def succeeded (job : Job (Gate τ) (Ending ρ)) : Bool :=
  match job with
  | .done (.returned (.ok _)) => true
  | _ => false

theorem first_called (parts : Parts) (metadata : Option Metadata) : (parts.first metadata).called = false := by
  unfold Parts.first identified
  cases parts.jwtAuth with
  | none => cases parts.rateLimiter with
    | _ => rfl
  | some ja => rfl

/-- A request that is done has been refused, or its duration was recorded, and its failure counted if it failed. -/
theorem ends_cases {checks : Checks} {outcome : Context → Ending ρ → Prop} {phase : Phase} {ending : Ending ρ}
    (ends : Ends checks true outcome phase ending) :
    phase.called = phase.recorded ∧
      phase.failed.toNat + (succeeded (.done ending : Job (Gate τ) (Ending ρ))).toNat = phase.recorded.toNat := by
  cases phase with
  | arrived =>
    obtain ⟨status, rfl, -⟩ := ends
    exact ⟨rfl, rfl⟩
  | refused status =>
    cases (ends : ending = _)
    exact ⟨rfl, rfl⟩
  | inside ctx => cases ends.1
  | observed ctx failed =>
    obtain ⟨reply, rfl, rfl, -⟩ := ends
    cases reply with
    | _ => exact ⟨rfl, rfl⟩
  | limiting | admitted | counted => exact ends.elim

theorem countP_cons_toNat {α : Type*} (counts : α → Bool) (first : α) (rest : List α) :
    (first :: rest).countP counts = rest.countP counts + (counts first).toNat := by
  rw [List.countP_cons]
  cases counts first <;> rfl

/-- When all requests are done, the phases in which they ended tell their answers. -/
theorem counts_of_done {checks : Checks} {rateLimiter : Option Config} {outcome : Context → Ending ρ → Prop}
    {jobs : List (Job (Gate τ) (Ending ρ))} {phases : List Phase}
    (matched : List.Forall₂ (fun job phase => job.Follows (Moves checks rateLimiter) (Ends checks true outcome) phase) jobs
      phases)
    (done : ∀ job ∈ jobs, job.result?.isSome) :
    phases.countP Phase.called = phases.countP Phase.recorded ∧
      phases.countP Phase.failed + jobs.countP succeeded = phases.countP Phase.recorded := by
  induction matched with
  | nil => exact ⟨rfl, rfl⟩
  | @cons job phase jobs phases one _ ih =>
    obtain ⟨calls, failures⟩ := ih (fun other member => done other (List.mem_cons_of_mem _ member))
    cases job with
    | act effect next => cases done _ List.mem_cons_self
    | done ending =>
      have ends : phase.called = phase.recorded ∧
        phase.failed.toNat + (succeeded (.done ending : Job (Gate τ) (Ending ρ))).toNat = phase.recorded.toNat :=
        ends_cases one
      simp only [countP_cons_toNat, ends.1]
      omega

/-- However requests are interleaved and whatever their handlers do, panics included: the process goes on. When all
requests are answered, the metrics have one duration for every call of a handler, and an error for every one of them that
did not succeed. -/
theorem requests_accounted (parts : Parts) (collected : parts.metricsCollector = true) (server : GRPCServer τ ρ)
    (made : newGRPCServer true true parts = .ok server) (crew : Crew (Gate τ) (Ending ρ))
    (reached : (serverMachine parts.rateLimiter server).Reachable crew) :
    crew.alive Ending.fatal = true ∧ ((∀ job ∈ crew.jobs, job.result?.isSome) →
      crew.shared.durations.length = crew.shared.entered.length ∧
      crew.shared.errors.length + crew.jobs.countP succeeded = crew.shared.entered.length) := by
  refine ⟨server_alive made reached, fun done => ?_⟩
  obtain ⟨phases, marched, matched⟩ := marches_of_reachable (serve_follows_anyone made) reached
  rw [collected] at matched
  have tallied := tallied_of_marches (fun request : Request τ ρ => first_called parts request.metadata) marched
  obtain ⟨calls, failures⟩ := counts_of_done matched done
  have entered := tallied.entered
  have errors := tallied.errors
  have durations := tallied.durations
  omega

end Servers

theorem panic_accounted : ∃ crew : Crew (Gate Unit) (Ending Unit),
    (serverMachine sampleParts.rateLimiter sampleServer).Reachable crew ∧ crew.alive Ending.fatal = true ∧
    crew.shared.entered.length = 1 ∧ crew.shared.durations.length = 1 ∧ crew.shared.errors.length = 1 := by
  obtain ⟨ctx, ends, entered, reached⟩ := sample_served (fun _ => .done .panicked)
  obtain ⟨lively, accounts⟩ := requests_accounted sampleParts rfl sampleServer sample_made _ reached
  obtain ⟨durations, errors⟩ := accounts (by simp [Job.result?])
  have once := congrArg List.length entered
  have failed : succeeded (.done ((sampleServer.serve (publisherRequest (fun _ => .done .panicked))).alone newGate).1 :
      Job (Gate Unit) (Ending Unit)) = false := by
    rw [ends]
    rfl
  refine ⟨_, reached, lively, once, durations.trans once, ?_⟩
  simpa [failed, once] using errors

end EventGateway.Server
