import EventGateway.Server.Decision
import EventGateway.Server.Limiting

/-! What becomes of a request: whatever the others do, it comes to a decision that the checks explain, and if nothing
stands in its way, its handler answers. -/

namespace EventGateway.Server
open Lib Auth RateLimit

section Requests
variable {τ ρ : Type}

def Gate.handled (gate : Gate τ) (handler : Context → Job τ (Ending ρ)) (ctx : Context) : Ending ρ × Gate τ :=
  (((handler ctx).alone gate.app).1,
    { gate with entered := ctx :: gate.entered, app := ((handler ctx).alone gate.app).2 })

structure Scene (τ : Type) where
  limiter : Racing
  app : τ
  entered : List Context

def Gate.scene (gate : Gate τ) : Scene τ := ⟨gate.limiter, gate.app, gate.entered⟩

def Answers (handler : Handler τ ρ) (ctx : Context) (scene : Scene τ) (ending : Ending ρ) (entered : List Context) : Prop :=
  ∀ gate, gate.scene = scene → ((handler ctx).alone gate).1 = ending ∧ ((handler ctx).alone gate).2.entered = entered

variable {handler : Handler τ ρ} {ctx : Context} {scene : Scene τ} {ending : Ending ρ} {entered : List Context}

theorem alone_entering (handler : Context → Job τ (Ending ρ)) (ctx : Context) (gate : Gate τ) :
    (entering handler ctx).alone gate = gate.handled handler ctx :=
  @Job.alone_zoom τ (Gate τ) _ Gate.app (fun gate app => { gate with app }) (handler ctx) (fun _ _ => rfl)
    (fun _ _ _ => rfl) (fun _ => rfl) { gate with entered := ctx :: gate.entered }

theorem entering_answers (handler : Context → Job τ (Ending ρ)) (ctx : Context) (scene : Scene τ) :
    Answers (entering handler) ctx scene ((handler ctx).alone scene.app).1 (ctx :: scene.entered) := by
  rintro gate rfl
  rw [alone_entering]
  exact ⟨rfl, rfl⟩

theorem recovery_answers (message : String) (inner : Answers handler ctx scene ending entered) :
    Answers (recoveryInterceptor message handler) ctx scene ending.recovered entered := by
  intro gate same
  obtain ⟨ends, enters⟩ := inner gate same
  rw [recoveryInterceptor, Job.alone_bind, ends]
  cases ending with
  | returned reply => exact ⟨rfl, enters⟩
  | panicked => exact ⟨rfl, enters⟩

/-- What comes after a call that returned neither changes its answer nor calls a handler. -/
theorem andThen_answers {call : Job (Gate τ) (Ending ρ)} {after : Except Status ρ → Job (Gate τ) (Ending ρ)} {gate : Gate τ}
    {reply : Except Status ρ} (ends : (call.alone gate).1 = .returned reply) (enters : (call.alone gate).2.entered = entered)
    (rest : ∀ gate, ((after reply).alone gate).1 = .returned reply ∧ ((after reply).alone gate).2.entered = gate.entered) :
    ((andThen call after).alone gate).1 = .returned reply ∧ ((andThen call after).alone gate).2.entered = entered := by
  rw [andThen, Job.alone_bind, ends]
  obtain ⟨same, kept⟩ := rest (call.alone gate).2
  exact ⟨same, kept.trans enters⟩

variable {reply : Except Status ρ}

theorem metrics_answers (component : String) (inner : Answers handler ctx scene (.returned reply) entered) :
    Answers (metricsInterceptor component handler) ctx scene (.returned reply) entered := by
  intro gate same
  obtain ⟨ends, enters⟩ := inner gate same
  apply andThen_answers ends enters
  intro later
  cases reply with
  | _ => exact ⟨rfl, rfl⟩

theorem logging_answers (started failed completed : String)
    (inner : Answers handler ctx scene (.returned reply) entered) :
    Answers (loggingInterceptor started failed completed handler) ctx scene (.returned reply) entered := by
  intro gate same
  obtain ⟨ends, enters⟩ := inner (gate.log .debug started) same
  apply andThen_answers ends enters
  intro later
  cases reply with
  | _ => exact ⟨rfl, rfl⟩

theorem rbacAuthorization_answers (inner : Answers handler ctx scene ending entered) :
    Answers (rbacAuthorizationInterceptor handler) ctx scene ending entered := by
  intro gate same
  unfold rbacAuthorizationInterceptor
  split
  next => exact inner (gate.log .debug "failed to extract claims") same
  next => exact inner (gate.log .debug "RBAC check") same

theorem limiting_alone {config : Config} {racing last : Racing} {call : AllowAt} {answer : Except String Bool}
    (alone : Alone config racing call last answer) (handler : Handler τ ρ) (ctx : Context) (operations : Nat)
    (enough : call.operations ≤ operations) (ticket : Option Time) :
    ∃ time, ∀ gate : Gate τ, gate.limiter = racing →
      (limiting config handler operations call { ctx with ticket }).alone gate =
        (limited handler answer { ctx with ticket := time }).alone { gate with limiter := last } := by
  induction alone generalizing operations ticket with
  | returned racing answer =>
    refine ⟨ticket, ?_⟩
    rintro gate rfl
    cases operations with
    | _ => rfl
  | @perform racing after last call next answer performed rest ih =>
    have moved := perform_cases performed
    have under (result : Except String Bool) : call ≠ .returned result := by
      rintro rfl
      cases performed
    obtain ⟨fewer, rfl⟩ : ∃ fewer, operations = fewer + 1 :=
      Nat.exists_eq_succ_of_ne_zero (by have := moved.operations_lt; omega)
    have less : next.operations ≤ fewer := Nat.le_of_lt_succ (moved.operations_lt.trans_le enough)
    obtain ⟨stamp, stamped⟩ := stamped_eq { ctx with ticket } call
    obtain ⟨time, rest⟩ := ih fewer less stamp
    refine ⟨time, ?_⟩
    rintro gate rfl
    rw [limiting_succ config handler fewer under]
    simp only [Job.alone, Gate.perform, performed, stamped]
    exact rest { gate with limiter := after } rfl

theorem rateLimiting_answers {config : Config} (wired : scene.limiter.Wired)
    (affordable : (config.policy.take (scene.limiter.bucket config "default") scene.limiter.clock).1 = true)
    (handler : Handler τ ρ) (ctx : Context) : ∃ ticket limiter, ∀ ending entered,
      Answers handler { ctx with ticket } { scene with limiter } ending entered →
        Answers (rateLimitingInterceptor config handler) ctx scene ending entered := by
  obtain ⟨last, alone⟩ := granted_alone config wired (by decide) affordable
  obtain ⟨ticket, same⟩ := limiting_alone alone handler ctx _ le_rfl ctx.ticket
  refine ⟨ticket, last, fun ending entered inner => ?_⟩
  rintro gate rfl
  have answers := inner { gate with limiter := last } rfl
  exact same gate rfl ▸ answers

theorem alone_authenticate (ja : JWTAuthenticator) (jwt : Jwt) (gate : Gate τ) :
    (authenticate ja jwt handler ctx).alone gate =
      match verdict ja jwt ctx.incoming gate.clock with
      | .error status => (.returned (.error status), gate)
      | .ok claims => (handler { ctx with claims := some claims }).alone gate := by
  unfold authenticate verdict
  cases came : ctx.incoming with
  | none => rfl
  | some md =>
    dsimp only
    cases md.get "authorization" with
    | nil => rfl
    | cons value rest =>
      simp only [Job.alone, id]
      cases ja.validateToken jwt gate.clock (bearerToken value) with
      | error err => rfl
      | ok claims => rfl

theorem authenticate_answers {ja : JWTAuthenticator} {jwt : Jwt} {claims : TokenClaims}
    (valid : verdict ja jwt ctx.incoming scene.limiter.clock = .ok claims)
    (inner : Answers handler { ctx with claims := some claims } scene ending entered) :
    Answers (authenticate ja jwt handler) ctx scene ending entered := by
  rintro gate rfl
  have accepted : verdict ja jwt ctx.incoming gate.clock = .ok claims := valid
  rw [alone_authenticate, accepted]
  exact inner gate rfl

/-! ### Servers of `NewGRPCServer` -/

variable {parts : Parts} {kind : Kind}

theorem observed_answers (handler : Context → Job τ (Ending ρ)) (ctx : Context) (scene : Scene τ) :
    Answers (chain ((if parts.metricsCollector then [metricsOf kind] else []) ++ [recoveryOf kind]) (entering handler)) ctx
      scene ((handler ctx).alone scene.app).1.recovered (ctx :: scene.entered) := by
  have recovered : Answers (recoveryOf kind (entering handler)) ctx scene ((handler ctx).alone scene.app).1.recovered
      (ctx :: scene.entered) := by
    cases kind with
    | _ => exact recovery_answers _ (entering_answers handler ctx scene)
  obtain ⟨reply, is⟩ := recovered_returned ((handler ctx).alone scene.app).1
  rw [is] at recovered ⊢
  split
  next =>
    cases kind with
    | _ => exact metrics_answers _ recovered
  next => exact recovered

def Parts.Affords (parts : Parts) (limiter : Racing) : Prop :=
  ∀ config ∈ parts.rateLimiter, (config.policy.take (limiter.bucket config "default") limiter.clock).1 = true

def Parts.Accepts (parts : Parts) (metadata : Option Metadata) (now : Time) : Prop :=
  ∀ ja ∈ parts.jwtAuth, ∃ claims, verdict ja parts.jwt metadata now = .ok claims

/-- With a token for the limiter the handler is called, and its answer is the answer. -/
theorem core_answers (kind : Kind) (scene : Scene τ) (wired : ∀ config ∈ parts.rateLimiter, scene.limiter.Wired)
    (affords : parts.Affords scene.limiter) (handler : Context → Job τ (Ending ρ)) (ctx : Context) :
    ∃ last : Context, last.incoming = ctx.incoming ∧ Answers (chain (parts.core kind) (entering handler)) ctx scene
      ((handler last).alone scene.app).1.recovered (last :: scene.entered) := by
  unfold Parts.core
  cases on : parts.rateLimiter with
  | none => exact ⟨ctx, rfl, observed_answers handler ctx scene⟩
  | some config =>
    obtain ⟨ticket, limiter, answers⟩ := rateLimiting_answers (wired config on) (affords config on)
      (chain ((if parts.metricsCollector then [metricsOf kind] else []) ++ [recoveryOf kind]) (entering handler)) ctx
    exact ⟨{ ctx with ticket }, rfl, answers _ _ (observed_answers handler _ _)⟩

theorem serve_answers {server : GRPCServer τ ρ} (made : newGRPCServer true true parts = .ok server)
    (request : Request τ ρ) {gate : Gate τ} (wired : ∀ config ∈ parts.rateLimiter, gate.limiter.Wired)
    (accepts : parts.Accepts request.metadata gate.clock) (affords : parts.Affords gate.limiter) :
    ∃ last : Context, last.incoming = request.metadata ∧
      ((server.serve request).alone gate).1 = ((request.handler last).alone gate.app).1.recovered ∧
      ((server.serve request).alone gate).2.entered = last :: gate.entered := by
  obtain ⟨kind, metadata, handler⟩ := request
  unfold GRPCServer.serve
  rw [newGRPCServer_interceptors made]
  have authorized (ctx : Context) : ∃ last : Context, last.incoming = ctx.incoming ∧
      Answers (chain ((if parts.rbacAuth then [rbacAuthorizationInterceptor] else []) ++ parts.core kind)
        (entering handler)) ctx gate.scene ((handler last).alone gate.app).1.recovered (last :: gate.entered) := by
    obtain ⟨last, came, answers⟩ := core_answers kind gate.scene wired affords handler ctx
    refine ⟨last, came, ?_⟩
    split
    next => exact rbacAuthorization_answers answers
    next => exact answers
  have authenticated : ∃ last : Context, last.incoming = metadata ∧
      Answers (chain (parts.jwtAuth.toList.map (fun ja => authenticate ja parts.jwt) ++
        ((if parts.rbacAuth then [rbacAuthorizationInterceptor] else []) ++ parts.core kind)) (entering handler))
        (.ofMetadata metadata) gate.scene ((handler last).alone gate.app).1.recovered (last :: gate.entered) := by
    cases on : parts.jwtAuth with
    | none => exact authorized (.ofMetadata metadata)
    | some ja =>
      obtain ⟨claims, valid⟩ := accepts ja on
      obtain ⟨last, same, answers⟩ := authorized { Context.ofMetadata metadata with claims := some claims }
      exact ⟨last, same, authenticate_answers valid answers⟩
  obtain ⟨last, came, answers⟩ := authenticated
  obtain ⟨reply, is⟩ := recovered_returned ((handler last).alone gate.app).1
  rw [is] at answers
  refine ⟨last, came, ?_⟩
  rw [is]
  cases kind with
  | _ => exact logging_answers _ _ _ answers gate rfl

theorem ends_returned {checks : Checks} {metricsCollector : Bool} {phase : Phase} {ending : Ending ρ}
    (ends : Ends checks metricsCollector (fun _ ending => ending.fatal = false) phase ending) : ending.fatal = false := by
  cases phase with
  | arrived | observed =>
    obtain ⟨_, told, -⟩ := ends
    rw [told]
    rfl
  | refused status =>
    cases (ends : ending = _)
    rfl
  | inside ctx => exact ends.2
  | limiting | admitted | counted => exact ends.elim

theorem server_alive {server : GRPCServer τ ρ} (made : newGRPCServer true true parts = .ok server)
    {crew : Crew (Gate τ) (Ending ρ)} (reached : (serverMachine parts.rateLimiter server).Reachable crew) :
    crew.alive Ending.fatal = true := by
  obtain ⟨phases, -, matched⟩ := marches_of_reachable (serve_follows_anyone made) reached
  apply List.all_eq_true.mpr
  intro job member
  cases job with
  | act effect next => rfl
  | done ending =>
    obtain ⟨phase, -, ends⟩ := post_of_done matched member
    simp [Job.result?, ends_returned ends]

theorem free_first (parts : Parts) (metadata : Option Metadata) (cells : List Cell) :
    (parts.first metadata).call.Holds cells := by
  unfold Parts.first identified
  cases parts.jwtAuth with
  | some ja => trivial
  | none => cases parts.rateLimiter with
    | _ => trivial

theorem server_wired {server : GRPCServer τ ρ} (made : newGRPCServer true true parts = .ok server)
    {crew : Crew (Gate τ) (Ending ρ)} (reached : (serverMachine parts.rateLimiter server).Reachable crew)
    (affords : parts.Affords crew.shared.limiter) : ∀ config ∈ parts.rateLimiter, crew.shared.limiter.Wired := by
  intro config on
  obtain ⟨phases, marched, -⟩ := marches_of_reachable (serve_follows_anyone made) reached
  have positive : 0 ≤ config.policy.capacity := by
    have cost : (0 : Int) < config.policy.cost := config.policy.cost_pos
    have enough := config.policy.affordable (affords config on)
    have most := config.policy.level_le (crew.shared.limiter.bucket config "default") crew.shared.limiter.clock
    lia
  rw [on] at marched
  exact (sound_of_marches positive (fun request : Request τ ρ => free_first parts request.metadata) marched).mapped

end Requests

section Sample

def hourly : JWTAuthenticator := ⟨"secret", "gateway", 3600000000000⟩

noncomputable def publisherToken : String :=
  Jwt.strokes.signedString "secret" (hourly.claimsOf Jwt.strokes 0 "user" ["publisher"])

noncomputable def publisherRequest (handler : Context → Job Unit (Ending Unit)) : Request Unit Unit where
  kind := .unary
  metadata := some (Finmap.insert "authorization" ["Bearer " ++ publisherToken] ∅)
  handler := handler

def newGate : Gate Unit := ⟨.new 0, 0, [], [], [], (), []⟩

noncomputable def sampleParts : Parts := ⟨Jwt.strokes, some hourly, true, some onePerSecond, true⟩

noncomputable def sampleServer : GRPCServer Unit Unit :=
  match newGRPCServer true true sampleParts with
  | .ok server => server
  | .error _ => ⟨⟨[], []⟩, 0⟩

theorem sample_made : newGRPCServer true true sampleParts = .ok sampleServer := rfl

theorem sample_initial : (serverMachine sampleParts.rateLimiter sampleServer).init ⟨newGate, []⟩ :=
  ⟨⟨rfl, rfl, rfl, rfl⟩, rfl⟩

theorem publisher_valid (handler : Context → Job Unit (Ending Unit)) :
    verdict hourly Jwt.strokes (publisherRequest handler).metadata 0 =
      .ok (hourly.claimsOf Jwt.strokes 0 "user" ["publisher"]) := by
  have generated : hourly.generateToken Jwt.strokes 0 "user" ["publisher"] = .ok publisherToken := rfl
  have early : (0 : Time) < hourly.expiry Jwt.strokes 0 := by decide
  have valid := validate_generated rfl generated early
  have bearer : bearerToken ("Bearer " ++ publisherToken) = publisherToken := bearerToken_generated generated (.inr rfl)
  have header : Metadata.get (Finmap.insert "authorization" ["Bearer " ++ publisherToken] ∅) "authorization" =
    ["Bearer " ++ publisherToken] := rfl
  simp only [verdict, publisherRequest, header, bearer, valid]

theorem sample_accepts (handler : Context → Job Unit (Ending Unit)) :
    sampleParts.Accepts (publisherRequest handler).metadata 0 := by
  rintro ja ⟨⟩
  exact ⟨_, publisher_valid handler⟩

theorem sample_affords : sampleParts.Affords newGate.limiter := by
  rintro config ⟨⟩
  decide

theorem sample_served (handler : Context → Job Unit (Ending Unit)) :
    ∃ ctx : Context, ((sampleServer.serve (publisherRequest handler)).alone newGate).1 =
        ((handler ctx).alone ()).1.recovered ∧
      ((sampleServer.serve (publisherRequest handler)).alone newGate).2.entered = [ctx] ∧
      (serverMachine sampleParts.rateLimiter sampleServer).Reachable
        ⟨((sampleServer.serve (publisherRequest handler)).alone newGate).2,
          [.done ((sampleServer.serve (publisherRequest handler)).alone newGate).1]⟩ := by
  have reached : (serverMachine sampleParts.rateLimiter sampleServer).Reachable ⟨newGate, []⟩ := .start sample_initial
  obtain ⟨ctx, -, ends, enters⟩ := serve_answers sample_made (publisherRequest handler)
    (server_wired sample_made reached sample_affords) (sample_accepts handler) sample_affords
  exact ⟨ctx, ends, enters, reachable_alone reached (server_alive sample_made reached) (publisherRequest handler)⟩

end Sample
end EventGateway.Server
