import EventGateway.Server.Service

/-! Who gets to a handler, and how often, when any number of requests pass a server at once. -/

namespace EventGateway.Server
open Lib Lib.Calls Lib.TokenBucket Auth RateLimit

namespace Phase

/-- Whether the limiter let the request through in this interval and it has still to get to its handler. -/
def pending (start finish : Time) : Phase → Nat
  | .limiting ctx (.granted _) | .limiting ctx (.recording _ _) | .admitted ctx => grantsWithin start finish ctx.ticket.toList
  | _ => 0

def Stamped : Phase → Prop
  | .limiting ctx (.granted _) | .limiting ctx (.recording _ _) | .admitted ctx => ctx.ticket.isSome = true
  | _ => True

end Phase

def tickets (entered : List Context) : List Time := entered.flatMap (fun ctx => ctx.ticket.toList)

section Invariants
variable {τ ι : Type} {checks : Checks} {rateLimiter : Option Config} {first : ι → Phase} {gate after : Gate τ}
  {phase next : Phase} {phases : List Phase} {index : Nat}

/-! ### Identity -/

def Known (checks : Checks) (now : Time) (ctx : Context) : Prop := ∃ time ≤ now, checks.ident time ctx

structure Vetted (checks : Checks) (gate : Gate τ) (phases : List Phase) : Prop where
  passing : ∀ phase ∈ phases, ∀ ctx ∈ phase.context, Known checks gate.clock ctx
  entered : ∀ ctx ∈ gate.entered, Known checks gate.clock ctx

/-- One move: the context that goes on is in order if the one before was, and so is one that gets to a handler. -/
theorem Moves.known (moved : Moves checks rateLimiter phase gate after next)
    (stable : ∀ now ctx ticket, checks.ident now ctx → checks.ident now { ctx with ticket })
    (before : ∀ ctx ∈ phase.context, Known checks gate.clock ctx) :
    (∀ ctx ∈ next.context, Known checks gate.clock ctx) ∧
      ∀ ctx ∈ after.entered, ctx ∈ gate.entered ∨ Known checks gate.clock ctx := by
  cases moved with
  | aside => exact ⟨before, fun _ => .inl⟩
  | @authenticate gate ctx valid =>
    rw [(context_identified ctx).1]
    exact ⟨fun other same => Option.some.inj same ▸ ⟨gate.clock, le_rfl, valid⟩, fun _ => .inl⟩
  | @operate gate config on ctx call answer limiter step =>
    obtain ⟨ticket, stamped⟩ := stamped_eq ctx call
    obtain ⟨time, past, valid⟩ := before ctx rfl
    refine ⟨fun last has => ?_, fun _ => .inl⟩
    rw [(context_asking _ _).1 last has, stamped]
    exact ⟨time, past, stable _ _ _ valid⟩
  | enter gate ctx =>
    refine ⟨fun _ none => (by cases none), fun other member => ?_⟩
    rcases List.mem_cons.mp member with rfl | old
    · exact .inr (before other rfl)
    · exact .inl old
  | reject | lose | work | count | observe | observeFailure => exact ⟨fun _ none => (by cases none), fun _ => .inl⟩

theorem vetted_of_marches (stable : ∀ now ctx ticket, checks.ident now ctx → checks.ident now { ctx with ticket })
    (begins : ∀ request now, ∀ ctx ∈ (first request).context, checks.ident now ctx)
    (marched : Marches Gate.Fresh first (Gate.disturb rateLimiter) (Moves checks rateLimiter) gate phases) :
    Vetted checks gate phases := by
  induction marched with
  | start fresh => exact ⟨fun _ member => (by cases member), fun _ member => (by rw [fresh.entered] at member; cases member)⟩
  | @join gate phases _ request ih =>
    refine ⟨fun phase member ctx has => ?_, ih.entered⟩
    rcases List.mem_append.mp member with old | new
    · exact ih.passing phase old ctx has
    · cases List.mem_singleton.mp new
      exact ⟨gate.clock, le_rfl, begins request _ ctx has⟩
  | move _ found moved ih =>
    obtain ⟨goes, enters⟩ := moved.known stable (ih.passing _ (List.mem_of_getElem? found))
    constructor
    · intro phase member ctx has
      rw [moved.clock]
      rcases List.mem_or_eq_of_mem_set member with old | rfl
      · exact ih.passing phase old ctx has
      · exact goes ctx has
    · intro ctx member
      rw [moved.clock]
      exact (enters ctx member).elim (ih.entered ctx) id
  | disturb _ disturbed ih =>
    obtain ⟨late, entered, -⟩ := disturb_cases disturbed
    have older {ctx : Context} : Known checks _ ctx → Known checks _ ctx :=
      fun ⟨time, past, valid⟩ => ⟨time, past.trans late, valid⟩
    exact ⟨fun phase member ctx has => older (ih.passing phase member ctx has),
      fun ctx member => older (ih.entered ctx (entered ▸ member))⟩

/-! ### Rate -/

def Phase.Keyed (phase : Phase) : Prop := ∀ key ∈ phase.call.key, key = "default"

structure Limited (gate : Gate τ) (phases : List Phase) : Prop where
  counted : ∀ start finish, grantsWithin start finish (tickets gate.entered) +
    (phases.map (Phase.pending start finish)).sum = grantsWithin start finish (timesOf "default" gate.limiter.granted)
  ticketed : ∀ ctx ∈ gate.entered, ctx.ticket.isSome
  stamped : ∀ phase ∈ phases, phase.Stamped
  keyed : ∀ phase ∈ phases, phase.Keyed

variable {config : Config} {call answer : AllowAt} {limiter : Racing} {ctx : Context} {start finish : Time}

theorem counted_of_step (step : AllowMove config gate.limiter call limiter answer)
    (keyed : (Phase.limiting ctx call).Keyed) (stamped : (Phase.limiting ctx call).Stamped) (start finish : Time) :
    (Phase.asking (ctx.stamped call) answer).pending start finish +
        grantsWithin start finish (timesOf "default" gate.limiter.granted) =
      (Phase.limiting ctx call).pending start finish + grantsWithin start finish (timesOf "default" limiter.granted) ∧
    (Phase.asking (ctx.stamped call) answer).Stamped ∧ (Phase.asking (ctx.stamped call) answer).Keyed := by
  cases step with
  | load | make | lose | store | ask => exact ⟨rfl, trivial, keyed⟩
  | grant key place now cell there granted =>
    obtain rfl := keyed key rfl
    refine ⟨?_, rfl, keyed⟩
    rw [timesOf_cons, if_pos rfl]
    show grantsWithin start finish [now] + _ = 0 + grantsWithin start finish (now :: _)
    rw [Nat.zero_add]
    exact (@List.countP_append _ _ [now] _).symm
  | deny => exact ⟨rfl, trivial, fun _ none => (by cases none)⟩
  | stamp => exact ⟨rfl, stamped, keyed⟩
  | record => exact ⟨rfl, stamped, fun _ none => (by cases none)⟩

theorem Moves.counted (moved : Moves checks (some config) phase gate after next) (keyed : phase.Keyed)
    (stamped : phase.Stamped) (start finish : Time) :
    (grantsWithin start finish (tickets after.entered) + next.pending start finish +
        grantsWithin start finish (timesOf "default" gate.limiter.granted) =
      grantsWithin start finish (tickets gate.entered) + phase.pending start finish +
        grantsWithin start finish (timesOf "default" after.limiter.granted)) ∧ next.Stamped ∧ next.Keyed ∧
    ∀ ctx ∈ after.entered, ctx ∈ gate.entered ∨ ctx.ticket.isSome := by
  cases moved with
  | aside => exact ⟨rfl, stamped, keyed, fun _ => .inl⟩
  | authenticate => exact ⟨rfl, trivial, fun _ same => (Option.some.inj same).symm, fun _ => .inl⟩
  | @operate gate _ on ctx call answer limiter step =>
    cases on
    obtain ⟨balance, stamped, keyed⟩ := counted_of_step step keyed stamped start finish
    refine ⟨?_, stamped, keyed, fun _ => .inl⟩
    show grantsWithin start finish (tickets gate.entered) + _ + _ = _
    rw [Nat.add_assoc, balance, Nat.add_assoc]
  | @lose gate _ on ctx call under lost =>
    have idle : (Phase.limiting ctx call).pending start finish = 0 := by
      cases call with
      | granted | recording => cases lost
      | _ => rfl
    rw [idle]
    exact ⟨rfl, trivial, fun _ none => (by cases none), fun _ => .inl⟩
  | enter gate ctx =>
    refine ⟨?_, trivial, keyed, fun other member => ?_⟩
    · have one : grantsWithin start finish (tickets (ctx :: gate.entered)) =
        grantsWithin start finish ctx.ticket.toList + grantsWithin start finish (tickets gate.entered) :=
        List.countP_append
      show grantsWithin start finish (tickets (ctx :: gate.entered)) + 0 +
        grantsWithin start finish (timesOf "default" gate.limiter.granted) =
          _ + grantsWithin start finish ctx.ticket.toList +
            grantsWithin start finish (timesOf "default" gate.limiter.granted)
      rw [one]
      omega
    · rcases List.mem_cons.mp member with rfl | old
      · exact .inr stamped
      · exact .inl old
  | reject | work | count | observe | observeFailure =>
    exact ⟨rfl, trivial, fun _ none => (by cases none), fun _ => .inl⟩

theorem limited_of_marches (begins : ∀ request, (∀ start finish, (first request).pending start finish = 0) ∧
      (first request).Stamped ∧ (first request).Keyed)
    (marched : Marches Gate.Fresh first (Gate.disturb (some config)) (Moves checks (some config)) gate phases) :
    Limited gate phases := by
  induction marched with
  | start fresh =>
    refine ⟨?_, ?_, fun _ member => (by cases member), fun _ member => (by cases member)⟩
    · rw [fresh.entered, fresh.limiter]
      exact fun _ _ => rfl
    · rw [fresh.entered]
      exact fun _ member => by cases member
  | @join gate phases _ request ih =>
    obtain ⟨idle, stamped, keyed⟩ := begins request
    have either {holds : Phase → Prop} (old : ∀ phase ∈ phases, holds phase) (new : holds (first request)) :
        ∀ phase ∈ phases ++ [first request], holds phase := by
      intro phase member
      rcases List.mem_append.mp member with before | last
      · exact old phase before
      · exact List.mem_singleton.mp last ▸ new
    refine ⟨fun start finish => ?_, ih.ticketed, either ih.stamped stamped, either ih.keyed keyed⟩
    rw [List.map_append, List.sum_append, List.map_singleton, List.sum_singleton, idle]
    exact ih.counted start finish
  | @move gate after phases index phase next _ found moved ih =>
    have member := List.mem_of_getElem? found
    have counted := moved.counted (ih.keyed _ member) (ih.stamped _ member)
    have either {holds : Phase → Prop} (old : ∀ phase ∈ phases, holds phase) (new : holds next) :
        ∀ phase ∈ phases.set index next, holds phase := by
      intro phase member
      rcases List.mem_or_eq_of_mem_set member with before | rfl
      · exact old phase before
      · exact new
    refine ⟨fun start finish => ?_, fun ctx member => ?_, either ih.stamped (counted 0 0).2.1,
      either ih.keyed (counted 0 0).2.2.1⟩
    · have before := ih.counted start finish
      have sums := @sum_map_set_of_found _ _ _ _ next (Phase.pending start finish) found
      have balance := (counted start finish).1
      omega
    · exact ((counted 0 0).2.2.2 ctx member).elim (ih.ticketed ctx) id
  | disturb _ disturbed ih =>
    obtain ⟨-, entered, -, -, granted⟩ := disturb_cases disturbed
    exact ⟨granted ▸ entered ▸ ih.counted, entered ▸ ih.ticketed, ih.stamped, ih.keyed⟩

end Invariants

section Servers
variable {τ ρ : Type}

theorem anyone_stable (parts : Parts) (now : Time) (ctx : Context) (ticket : Option Time)
    (shown : parts.anyone.ident now ctx) : parts.anyone.ident now { ctx with ticket } := shown

theorem anyone_first (parts : Parts) (request : Request τ ρ) (now : Time) :
    ∀ ctx ∈ (parts.first request.metadata).context, parts.anyone.ident now ctx := by
  unfold Parts.first Parts.anyone
  cases parts.jwtAuth with
  | none => exact fun _ _ _ none => by cases none
  | some ja => exact fun _ none => by cases none

theorem limited_first {parts : Parts} {config : Config} (on : parts.rateLimiter = some config) (request : Request τ ρ) :
    (∀ start finish, (parts.first request.metadata).pending start finish = 0) ∧
      (parts.first request.metadata).Stamped ∧ (parts.first request.metadata).Keyed := by
  unfold Parts.first identified
  rw [on]
  cases parts.jwtAuth with
  | none => exact ⟨fun _ _ => rfl, trivial, fun _ same => (Option.some.inj same).symm⟩
  | some ja => exact ⟨fun _ _ => rfl, trivial, fun _ none => by cases none⟩

theorem length_tickets {entered : List Context} (all : ∀ ctx ∈ entered, ctx.ticket.isSome) :
    (tickets entered).length = entered.length := by
  induction entered with
  | nil => rfl
  | cons ctx rest ih =>
    obtain ⟨time, has⟩ := Option.isSome_iff_exists.mp (all ctx List.mem_cons_self)
    have rest := ih (fun other member => all other (List.mem_cons_of_mem _ member))
    simp only [tickets, List.flatMap_cons, has, Option.toList_some, List.length_append, List.length_cons,
      List.length_nil] at rest ⊢
    omega

/-- However the requests to a server of `NewGRPCServer` are interleaved, operation by operation, with each other and
with the cleanup of the limiter: a handler is called only with the claims of a token in the request's own metadata
that was valid when it was checked. And in every interval all callers together are let through at most with the burst
and the rate of the limiter, as often again as the cleanup has deleted it, and with what it gained for the times by
which overtaken calls have set it back. -/
theorem server_admits (parts : Parts) (server : GRPCServer τ ρ) (made : newGRPCServer true true parts = .ok server)
    (crew : Crew (Gate τ) (Ending ρ)) (reached : (serverMachine parts.rateLimiter server).Reachable crew) :
    (∀ ja ∈ parts.jwtAuth, ∀ ctx ∈ crew.shared.entered,
      ∃ time ≤ crew.shared.clock, Certified ja parts.jwt time ctx) ∧
    ∀ config ∈ parts.rateLimiter, 0 ≤ config.burstSize →
      (tickets crew.shared.entered).length = crew.shared.entered.length ∧ ∀ (start length : Time), 0 ≤ length →
        grantsWithin start (start + length) (tickets crew.shared.entered) * second ≤
          (crew.shared.limiter.deleted.count "default" + 1) *
              (config.burstSize * second + config.requestsPerSecond * length) +
            config.requestsPerSecond * setback "default" crew.shared.limiter.cells := by
  obtain ⟨phases, marched, -⟩ := marches_of_reachable (serve_follows_anyone made) reached
  constructor
  · intro ja on ctx member
    obtain ⟨time, past, valid⟩ := (vetted_of_marches (anyone_stable parts) (anyone_first parts) marched).entered ctx member
    exact ⟨time, past, valid ja on⟩
  · intro config on burst
    rw [on] at marched
    have limited := limited_of_marches (limited_first on) marched
    have sound := sound_of_marches (mul_nonneg burst (by decide))
      (fun request : Request τ ρ => free_first parts request.metadata) marched
    refine ⟨length_tickets limited.ticketed, fun start length span => ?_⟩
    have counted := limited.counted start (start + length)
    have bound := sound.rate_bounded burst "default" start length span
    have fewer : (grantsWithin start (start + length) (tickets crew.shared.entered) : Int) * second ≤
        grantsWithin start (start + length) (timesOf "default" crew.shared.limiter.granted) * second := by
      apply mul_le_mul_of_nonneg_right _ (by decide)
      omega
    exact fewer.trans bound

end Servers

theorem publisher_admitted : ∃ (crew : Crew (Gate Unit) (Ending Unit)) (ctx : Context),
    (serverMachine sampleParts.rateLimiter sampleServer).Reachable crew ∧ crew.shared.entered = [ctx] ∧
    (∃ time ≤ crew.shared.clock, Certified hourly Jwt.strokes time ctx) ∧
    grantsWithin 0 (0 + 0) (tickets crew.shared.entered) * second ≤
      (crew.shared.limiter.deleted.count "default" + 1) * (1 * second + 1 * 0) +
        1 * setback "default" crew.shared.limiter.cells := by
  obtain ⟨ctx, -, entered, reached⟩ := sample_served (fun _ => .done (.returned (.ok ())))
  have admitted := server_admits sampleParts sampleServer sample_made _ reached
  exact ⟨_, ctx, reached, entered, admitted.1 hourly rfl ctx (entered ▸ List.mem_cons_self),
    (admitted.2 onePerSecond rfl (by decide)).2 0 0 le_rfl⟩

end EventGateway.Server
