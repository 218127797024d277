import EventGateway.Server.Passage

/-! A request among others. Whatever they do, it comes to a decision that the checks explain at some time between its
coming and its end. -/

namespace EventGateway.Server
open Lib Auth RateLimit

namespace Phase

def context : Phase → Option Context
  | .limiting ctx _ | .admitted ctx => some ctx
  | .arrived | .inside _ | .counted _ | .observed _ _ | .refused _ => none

def handled : Phase → Option Context
  | .inside ctx | .counted ctx | .observed ctx _ => some ctx
  | .arrived | .limiting _ _ | .admitted _ | .refused _ => none

def status : Phase → Option Status
  | .refused status => some status
  | .arrived | .limiting _ _ | .admitted _ | .inside _ | .counted _ | .observed _ _ => none

end Phase

section Moves
variable {τ : Type} {checks : Checks} {rateLimiter : Option Config} {phase next : Phase} {gate after : Gate τ}
  {start : Time}

theorem disturb_cases {event : Disturbance} (disturbed : gate.disturb rateLimiter event = some after) :
    gate.clock ≤ after.clock ∧ after.entered = gate.entered ∧ after.errors = gate.errors ∧
      after.durations = gate.durations ∧ after.limiter.granted = gate.limiter.granted := by
  cases event with
  | tick now =>
    obtain ⟨late, same⟩ := Option.ite_none_right_eq_some.mp disturbed
    cases same
    exact ⟨late, rfl, rfl, rfl, rfl⟩
  | cleanup label =>
    obtain ⟨config, -, rest⟩ := Option.bind_eq_some_iff.mp disturbed
    obtain ⟨limiter, swept, same⟩ := Option.bind_eq_some_iff.mp rest
    cases same
    obtain ⟨clock, granted⟩ := sweep_kept swept
    exact ⟨clock.ge, rfl, rfl, rfl, granted⟩

def Grows (gate after : Gate τ) : Prop := gate.clock ≤ after.clock ∧ gate.entered <:+ after.entered

theorem Moves.clock (moved : Moves checks rateLimiter phase gate after next) : after.clock = gate.clock := by
  cases moved with
  | operate gate on ctx step => exact step.kept.1
  | _ => rfl

theorem Moves.grows (moved : Moves checks rateLimiter phase gate after next) : Grows gate after := by
  refine ⟨moved.clock.ge, ?_⟩
  cases moved with
  | enter gate ctx => exact List.suffix_cons _ _
  | _ => exact List.suffix_refl _

def Vouched (checks : Checks) (start finish : Time) (ctx : Context) : Prop :=
  ∃ time, start ≤ time ∧ time ≤ finish ∧ checks.ident time ctx

def Turned (checks : Checks) (rateLimiter : Option Config) (start finish : Time) (status : Status) : Prop :=
  (rateLimiter.isSome = true ∧ status = limitExceeded) ∨
    ∃ time, start ≤ time ∧ time ≤ finish ∧ checks.turns time status

structure Fate (checks : Checks) (rateLimiter : Option Config) (start : Time) (phase : Phase) (gate : Gate τ) :
    Prop where
  begun : start ≤ gate.clock
  passing : ∀ ctx ∈ phase.context, Vouched checks start gate.clock ctx
  handled : ∀ ctx ∈ phase.handled, ctx ∈ gate.entered ∧ Vouched checks start gate.clock ctx
  turned : ∀ status ∈ phase.status, Turned checks rateLimiter start gate.clock status

theorem Fate.grows (fate : Fate checks rateLimiter start phase gate) (grows : Grows gate after) :
    Fate checks rateLimiter start phase after := by
  obtain ⟨late, kept⟩ := grows
  have older {ctx : Context} : Vouched checks start gate.clock ctx → Vouched checks start after.clock ctx :=
    fun ⟨time, since, past, valid⟩ => ⟨time, since, past.trans late, valid⟩
  refine ⟨fate.begun.trans late, fun ctx has => older (fate.passing ctx has), fun ctx has => ?_, fun status has => ?_⟩
  · obtain ⟨member, vouched⟩ := fate.handled ctx has
    exact ⟨kept.subset member, older vouched⟩
  · rcases fate.turned status has with limited | ⟨time, since, past, because⟩
    · exact .inl limited
    · exact .inr ⟨time, since, past.trans late, because⟩

theorem context_identified (ctx : Context) : (identified rateLimiter ctx).context = some ctx ∧
    (identified rateLimiter ctx).handled = none ∧ (identified rateLimiter ctx).status = none := by
  cases rateLimiter with
  | _ => exact ⟨rfl, rfl, rfl⟩

theorem context_asking (ctx : Context) (call : AllowAt) : (∀ last ∈ (Phase.asking ctx call).context, last = ctx) ∧
    (Phase.asking ctx call).handled = none ∧ ∀ status ∈ (Phase.asking ctx call).status, status = limitExceeded := by
  match call with
  | .returned (.ok true) => exact ⟨fun _ same => (Option.some.inj same).symm, rfl, fun _ none => (by cases none)⟩
  | .returned (.ok false) | .returned (.error _) =>
    exact ⟨fun _ none => (by cases none), rfl, fun _ same => (Option.some.inj same).symm⟩
  | .loading _ | .storing _ _ | .asking _ _ | .taking _ _ _ | .granted _ | .recording _ _ =>
    exact ⟨fun _ same => (Option.some.inj same).symm, rfl, fun _ none => (by cases none)⟩

theorem Fate.move (fate : Fate checks rateLimiter start phase gate)
    (stable : ∀ now ctx ticket, checks.ident now ctx → checks.ident now { ctx with ticket })
    (moved : Moves checks rateLimiter phase gate after next) : Fate checks rateLimiter start next after := by
  have grown := fate.grows moved.grows
  cases moved with
  | aside => exact grown
  | @authenticate gate ctx valid =>
    obtain ⟨context, handled, status⟩ := @context_identified rateLimiter ctx
    refine ⟨fate.begun, ?_, ?_, ?_⟩
    · rw [context]
      rintro _ ⟨⟩
      exact ⟨gate.clock, fate.begun, le_rfl, valid⟩
    · rw [handled]
      exact fun _ none => (by cases none)
    · rw [status]
      exact fun _ none => (by cases none)
  | @reject gate status because =>
    refine ⟨fate.begun, fun _ none => (by cases none), fun _ none => (by cases none), ?_⟩
    rintro _ ⟨⟩
    exact .inr ⟨gate.clock, fate.begun, le_rfl, because⟩
  | @operate gate config on ctx call answer limiter step =>
    obtain ⟨context, handled, status⟩ := context_asking (ctx.stamped call) answer
    refine ⟨grown.begun, fun last has => ?_, ?_, fun told has => .inl ⟨by rw [on]; rfl, status told has⟩⟩
    · obtain ⟨ticket, stamped⟩ := stamped_eq ctx call
      obtain ⟨time, since, past, valid⟩ := grown.passing ctx rfl
      rw [context last has, stamped]
      exact ⟨time, since, past, stable _ _ _ valid⟩
    · rw [handled]
      exact fun _ none => (by cases none)
  | lose gate on ctx under lost =>
    refine ⟨fate.begun, fun _ none => (by cases none), fun _ none => (by cases none), ?_⟩
    rintro _ ⟨⟩
    exact .inl ⟨by rw [on]; rfl, rfl⟩
  | enter gate ctx =>
    refine ⟨fate.begun, fun _ none => (by cases none), ?_, fun _ none => (by cases none)⟩
    rintro _ ⟨⟩
    exact ⟨List.mem_cons_self, fate.passing ctx rfl⟩
  | work | count | observe | observeFailure =>
    exact ⟨grown.begun, fun _ none => (by cases none), grown.handled, fun _ none => (by cases none)⟩

end Moves

section Servers
variable {τ ρ : Type} {server : GRPCServer τ ρ} {rateLimiter : Option Config} {checks : Option Metadata → Checks}
  {post : Request τ ρ → Phase → Ending ρ → Prop} {first : Option Metadata → Phase}
  {admits : Crew (Gate τ) (Ending ρ) → CrewStep (Request τ ρ) Disturbance → Prop} {crew later : Crew (Gate τ) (Ending ρ)}

variable
  (stable : ∀ metadata now ctx ticket, (checks metadata).ident now ctx → (checks metadata).ident now { ctx with ticket })
  (begins : ∀ metadata (gate : Gate τ), Fate (checks metadata) rateLimiter gate.clock (first metadata) gate)
  (reached : (serverMachine rateLimiter server).Reachable crew) (request : Request τ ρ)
  (went : ((serverMachine rateLimiter server).startingAt (server.opened crew request)).Reaches admits later)
include stable begins reached went

end Servers
end EventGateway.Server
