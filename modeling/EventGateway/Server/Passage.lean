import EventGateway.RateLimit.RateBound
import EventGateway.Server.Interceptors

/-! The way of a request through a server, in phases. What a request needs to be identified, and why one is turned away,
is left open: it is a property of its context or of the answer at the time of the check. Each interceptor has one lemma:
if what it calls follows its phases, so does the interceptor. -/

namespace EventGateway.Server
open Lib Auth RateLimit

/-- How far a request has come: it has to authenticate, it is asking the limiter, it may go on, its handler was
called, a failure was counted, its duration was recorded, or it was refused. -/
inductive Phase where
  | arrived
  | limiting (ctx : Context) (call : AllowAt)
  | admitted (ctx : Context)
  | inside (ctx : Context)
  | counted (ctx : Context)
  | observed (ctx : Context) (failed : Bool)
  | refused (status : Status)

def identified (rateLimiter : Option Config) (ctx : Context) : Phase :=
  match rateLimiter with
  | some _ => .limiting ctx (.loading "default")
  | none => .admitted ctx

def limitExceeded : Status := ⟨.resourceExhausted, "rate limit exceeded"⟩

def Phase.asking (ctx : Context) : AllowAt → Phase
  | .returned (.ok true) => .admitted ctx
  | .returned _ => .refused limitExceeded
  | call => .limiting ctx call

/-- What the checks of a server find at a time: that a context is in order, or a reason to turn a request away. -/
structure Checks where
  ident : Time → Context → Prop
  turns : Time → Status → Prop

section Phases
variable {τ ρ : Type}

inductive Moves (checks : Checks) (rateLimiter : Option Config) : Phase → Gate τ → Gate τ → Phase → Prop where
  | aside (phase : Phase) (gate : Gate τ) (lines : List Line) (uuids : Nat) :
      Moves checks rateLimiter phase gate { gate with lines, uuids } phase
  | authenticate (gate : Gate τ) {ctx : Context} (valid : checks.ident gate.clock ctx) :
      Moves checks rateLimiter .arrived gate gate (identified rateLimiter ctx)
  | reject (gate : Gate τ) {status : Status} (turned : checks.turns gate.clock status) :
      Moves checks rateLimiter .arrived gate gate (.refused status)
  | operate (gate : Gate τ) {config : Config} (on : rateLimiter = some config) (ctx : Context) {call next : AllowAt}
      {limiter : Racing} (moved : AllowMove config gate.limiter call limiter next) :
      Moves checks rateLimiter (.limiting ctx call) gate { gate with limiter } (.asking (ctx.stamped call) next)
  | lose (gate : Gate τ) {config : Config} (on : rateLimiter = some config) (ctx : Context) {call : AllowAt}
      (under : ∀ answer, call ≠ .returned answer) (lost : gate.limiter.perform config call = none) :
      Moves checks rateLimiter (.limiting ctx call) gate gate (.refused limitExceeded)
  | enter (gate : Gate τ) (ctx : Context) :
      Moves checks rateLimiter (.admitted ctx) gate { gate with entered := ctx :: gate.entered } (.inside ctx)
  | work (gate : Gate τ) (ctx : Context) (app : τ) : Moves checks rateLimiter (.inside ctx) gate { gate with app } (.inside ctx)
  | count (gate : Gate τ) (ctx : Context) (label : String × String) :
      Moves checks rateLimiter (.inside ctx) gate { gate with errors := label :: gate.errors } (.counted ctx)
  | observe (gate : Gate τ) (ctx : Context) (duration : Duration) :
      Moves checks rateLimiter (.inside ctx) gate { gate with durations := duration :: gate.durations }
        (.observed ctx false)
  | observeFailure (gate : Gate τ) (ctx : Context) (duration : Duration) :
      Moves checks rateLimiter (.counted ctx) gate { gate with durations := duration :: gate.durations }
        (.observed ctx true)

/-- How a request may end that a server with or without metrics has served, if a handler that was called with a context
may end like this. -/
def Ends (checks : Checks) (metricsCollector : Bool) (outcome : Context → Ending ρ → Prop) (phase : Phase)
    (ending : Ending ρ) : Prop :=
  match phase with
  | .arrived => ∃ status, ending = .returned (.error status) ∧ ∀ now, checks.turns now status
  | .refused status => ending = .returned (.error status)
  | .inside ctx => metricsCollector = false ∧ outcome ctx ending
  | .observed ctx failed => ∃ reply, ending = .returned reply ∧ failed = !reply.isOk ∧ outcome ctx ending
  | .limiting _ _ | .admitted _ | .counted _ => False

def Ending.recovered : Ending ρ → Ending ρ
  | .returned reply => .returned reply
  | .panicked => .returned (.error ⟨.internal, "internal server error"⟩)

theorem recovered_returned (ending : Ending ρ) : ∃ reply, ending.recovered = .returned reply := by
  cases ending with
  | _ => exact ⟨_, rfl⟩

def recoveredOutcome (handler : Context → Job τ (Ending ρ)) (ctx : Context) (ending : Ending ρ) : Prop :=
  ∃ answer, (handler ctx).MayEnd answer ∧ ending = answer.recovered

variable {checks : Checks} {rateLimiter : Option Config} {handler : Handler τ ρ} {phase : Phase} {ctx last : Context}
  {post : Phase → Ending ρ → Prop}

theorem entering_follows (handler : Context → Job τ (Ending ρ)) (ctx : Context) :
    (entering handler ctx).Follows (Moves checks rateLimiter)
      (fun later ending => later = .inside ctx ∧ (handler ctx).MayEnd ending) (.admitted ctx) :=
  fun gate => ⟨.inside ctx, .enter gate ctx, Job.Follows.zoom _ (fun gate app => .work gate ctx app)⟩

theorem recovery_follows (message : String) {method : Context → Job τ (Ending ρ)}
    (inner : (handler ctx).Follows (Moves checks rateLimiter)
      (fun later ending => later = .inside last ∧ (method last).MayEnd ending) phase) :
    (recoveryInterceptor message handler ctx).Follows (Moves checks rateLimiter)
      (fun later ending => later = .inside last ∧ recoveredOutcome method last ending) phase := by
  apply inner.bind
  rintro later ending ⟨rfl, ends⟩
  cases ending with
  | returned reply => exact ⟨rfl, _, ends, rfl⟩
  | panicked => exact fun gate => ⟨.inside last, .aside _ gate _ _, rfl, _, ends, rfl⟩

theorem metrics_follows (component : String) {method : Context → Job τ (Ending ρ)}
    (inner : (handler ctx).Follows (Moves checks rateLimiter)
      (fun later ending => later = .inside last ∧ recoveredOutcome method last ending) phase) :
    (metricsInterceptor component handler ctx).Follows (Moves checks rateLimiter)
      (Ends checks true (recoveredOutcome method)) phase := by
  refine fun before => ⟨phase, .aside phase before before.lines before.uuids, inner.bind ?_⟩
  rintro later ending ⟨rfl, answer, ends, rfl⟩
  obtain ⟨reply, is⟩ := recovered_returned answer
  rw [is]
  refine fun after => ⟨.inside last, .aside _ after after.lines after.uuids, ?_⟩
  cases reply with
  | error status =>
    exact fun gate => ⟨.counted last, .count gate last _, fun gate =>
      ⟨.observed last true, .observeFailure gate last _, _, rfl, rfl, answer, ends, is.symm⟩⟩
  | ok value =>
    exact fun gate => ⟨.observed last false, .observe gate last _, _, rfl, rfl, answer, ends, is.symm⟩

theorem limiting_succ (config : Config) (handler : Handler τ ρ) (operations : Nat) {call : AllowAt}
    (under : ∀ answer, call ≠ .returned answer) (ctx : Context) :
    limiting config handler (operations + 1) call ctx = .act (Gate.perform config call) (fun gate =>
      match gate.limiter.perform config call with
      | some (_, next) => limiting config handler operations next (ctx.stamped call)
      | none => refuse .resourceExhausted "rate limit exceeded") := by
  cases call with
  | returned answer => exact absurd rfl (under answer)
  | _ => rfl

theorem stamped_eq (ctx : Context) (call : AllowAt) : ∃ ticket, ctx.stamped call = { ctx with ticket } := by
  cases call with
  | taking key limiter now => exact ⟨some now, rfl⟩
  | _ => exact ⟨ctx.ticket, rfl⟩

theorem limiting_follows {config : Config} (on : rateLimiter = some config)
    (inner : ∀ ticket, (handler { ctx with ticket }).Follows (Moves checks rateLimiter) post
      (.admitted { ctx with ticket }))
    (refused : post (.refused limitExceeded) (.returned (.error limitExceeded))) (operations : Nat) (call : AllowAt)
    (enough : call.operations ≤ operations) (ticket : Option Time) :
    (limiting config handler operations call { ctx with ticket }).Follows (Moves checks rateLimiter) post
      (.asking { ctx with ticket } call) := by
  have answered (time : Option Time) (answer : Except String Bool) :
      (limited handler answer { ctx with ticket := time }).Follows (Moves checks rateLimiter) post
        (.asking { ctx with ticket := time } (.returned answer)) := by
    match answer with
    | .ok true => exact inner time
    | .ok false => exact refused
    | .error err => exact fun gate => ⟨.refused limitExceeded, .aside _ gate _ _, refused⟩
  induction operations generalizing call ticket with
  | zero =>
    cases call with
    | returned answer => exact answered ticket answer
    | _ => cases enough
  | succ operations ih =>
    have goes (under : ∀ answer, call ≠ .returned answer) :
        (limiting config handler (operations + 1) call { ctx with ticket }).Follows (Moves checks rateLimiter) post
          (.limiting { ctx with ticket } call) := by
      rw [limiting_succ config handler operations under]
      intro gate
      cases performed : gate.limiter.perform config call with
      | none =>
        refine ⟨.refused limitExceeded, ?_, ?_⟩
        · rw [Gate.perform, performed]
          exact .lose gate on _ under performed
        · simp only [performed]
          exact refused
      | some result =>
        obtain ⟨limiter, next⟩ := result
        have moved := perform_cases performed
        have fewer : next.operations ≤ operations := Nat.le_of_lt_succ (moved.operations_lt.trans_le enough)
        refine ⟨.asking (Context.stamped { ctx with ticket } call) next, ?_, ?_⟩
        · rw [Gate.perform, performed]
          exact .operate gate on _ moved
        · obtain ⟨time, stamped⟩ := stamped_eq { ctx with ticket } call
          simp only [performed, stamped]
          exact ih next fewer time
    cases call with
    | returned answer => exact answered ticket answer
    | _ => exact goes (fun _ same => by cases same)

theorem rateLimiting_follows {config : Config} (on : rateLimiter = some config)
    (inner : ∀ ticket, (handler { ctx with ticket }).Follows (Moves checks rateLimiter) post
      (.admitted { ctx with ticket }))
    (refused : post (.refused limitExceeded) (.returned (.error limitExceeded))) :
    (rateLimitingInterceptor config handler ctx).Follows (Moves checks rateLimiter) post
      (.limiting ctx (.loading "default")) :=
  limiting_follows on inner refused _ _ le_rfl ctx.ticket

def verdict (ja : JWTAuthenticator) (jwt : Jwt) (incoming : Option Metadata) (now : Time) : Except Status TokenClaims :=
  match incoming with
  | none => .error ⟨.unauthenticated, "missing metadata"⟩
  | some md =>
    match md.get "authorization" with
    | [] => .error ⟨.unauthenticated, "missing authorization token"⟩
    | tokenString :: _ =>
      match ja.validateToken jwt now (bearerToken tokenString) with
      | .error err => .error ⟨.unauthenticated, "invalid token: " ++ err⟩
      | .ok claims => .ok claims

/-- The context carries the claims of the token in its metadata, which an authenticator accepted at this time. -/
def Certified (ja : JWTAuthenticator) (jwt : Jwt) (now : Time) (ctx : Context) : Prop :=
  ∃ md value rest claims, ctx.incoming = some md ∧ md.get "authorization" = value :: rest ∧ ctx.claims = some claims ∧
    ja.validateToken jwt now (bearerToken value) = .ok claims

theorem certified_of_verdict {ja : JWTAuthenticator} {jwt : Jwt} {now : Time} {claims : TokenClaims}
    (accepted : verdict ja jwt ctx.incoming now = .ok claims) : Certified ja jwt now { ctx with claims := some claims } := by
  unfold verdict at accepted
  split at accepted
  next => cases accepted
  next md came =>
    split at accepted
    next => cases accepted
    next value rest header =>
      split at accepted
      next => cases accepted
      next valid =>
        cases accepted
        exact ⟨md, value, rest, claims, came, header, rfl, valid⟩

theorem authenticate_follows {ja : JWTAuthenticator} {jwt : Jwt}
    (accepted : ∀ (gate : Gate τ) claims, verdict ja jwt ctx.incoming gate.clock = .ok claims →
      ∃ later, Moves checks rateLimiter .arrived gate gate later ∧
        (handler { ctx with claims := some claims }).Follows (Moves checks rateLimiter) post later)
    (turned : ∀ now status, verdict ja jwt ctx.incoming now = .error status → checks.turns now status)
    (bare : ∀ status, (∀ now, checks.turns now status) → post .arrived (.returned (.error status)))
    (refused : ∀ status, post (.refused status) (.returned (.error status))) :
    (authenticate ja jwt handler ctx).Follows (Moves checks rateLimiter) post .arrived := by
  unfold authenticate
  split
  next missing => exact bare _ (fun now => turned now _ (by simp only [verdict, missing]))
  next md came =>
    split
    next none => exact bare _ (fun now => turned now _ (by simp only [verdict, came, none]))
    next value rest header =>
      intro gate
      have asked : verdict ja jwt ctx.incoming gate.clock =
          match ja.validateToken jwt gate.clock (bearerToken value) with
          | .error err => .error ⟨.unauthenticated, "invalid token: " ++ err⟩
          | .ok claims => .ok claims := by
        simp only [verdict, came, header]
      cases answer : ja.validateToken jwt gate.clock (bearerToken value) with
      | error err =>
        rw [answer] at asked
        refine ⟨_, .reject gate (turned _ _ asked), ?_⟩
        simp only [answer]
        exact refused _
      | ok claims =>
        rw [answer] at asked
        obtain ⟨later, moved, follows⟩ := accepted gate claims asked
        refine ⟨later, moved, ?_⟩
        simp only [answer]
        exact follows

theorem rbacAuthorization_follows (inner : (handler ctx).Follows (Moves checks rateLimiter) post phase) :
    (rbacAuthorizationInterceptor handler ctx).Follows (Moves checks rateLimiter) post phase := by
  unfold rbacAuthorizationInterceptor
  split
  next => exact fun gate => ⟨phase, .aside phase gate _ _, inner⟩
  next => exact fun gate => ⟨phase, .aside phase gate _ _, inner⟩

theorem logging_follows (started failed completed : String)
    (inner : (handler ctx).Follows (Moves checks rateLimiter) post phase) :
    (loggingInterceptor started failed completed handler ctx).Follows (Moves checks rateLimiter) post phase := by
  refine fun gate => ⟨phase, .aside phase gate _ _, inner.bind ?_⟩
  intro later ending suits
  cases ending with
  | panicked => exact suits
  | returned reply =>
    cases reply with
    | error status => exact fun gate => ⟨later, .aside later gate _ _, suits⟩
    | ok value => exact fun gate => ⟨later, .aside later gate _ _, suits⟩

/-! ### The chain of `NewGRPCServer` -/

def loggingOf : Kind → Interceptor τ ρ
  | .unary => loggingUnaryInterceptor
  | .stream => loggingStreamInterceptor

def metricsOf : Kind → Interceptor τ ρ
  | .unary => metricsUnaryInterceptor
  | .stream => metricsStreamInterceptor

def recoveryOf : Kind → Interceptor τ ρ
  | .unary => recoveryUnaryInterceptor
  | .stream => recoveryStreamInterceptor

def Parts.core (parts : Parts) (kind : Kind) : List (Interceptor τ ρ) :=
  parts.rateLimiter.toList.map rateLimitingInterceptor ++
    ((if parts.metricsCollector then [metricsOf kind] else []) ++ [recoveryOf kind])

def Parts.interceptors (parts : Parts) (kind : Kind) : List (Interceptor τ ρ) :=
  loggingOf kind :: (parts.jwtAuth.toList.map (fun ja => authenticate ja parts.jwt) ++
    ((if parts.rbacAuth then [rbacAuthorizationInterceptor] else []) ++ parts.core kind))

/-- What a request with this metadata has to show if there is an authenticator, and why it is turned away. -/
def Parts.demands (parts : Parts) (metadata : Option Metadata) : Checks where
  ident now ctx := ctx.incoming = metadata ∧ ∀ ja ∈ parts.jwtAuth, Certified ja parts.jwt now ctx
  turns now status := ∃ ja ∈ parts.jwtAuth, verdict ja parts.jwt metadata now = .error status

def Parts.first (parts : Parts) (metadata : Option Metadata) : Phase :=
  match parts.jwtAuth with
  | some _ => .arrived
  | none => identified parts.rateLimiter (.ofMetadata metadata)

variable {parts : Parts}

theorem newGRPCServer_interceptors {server : GRPCServer τ ρ} (made : newGRPCServer true true parts = .ok server)
    (kind : Kind) : server.interceptorChain.interceptors kind = parts.interceptors kind := by
  obtain ⟨jwt, jwtAuth, rbacAuth, rateLimiter, metricsCollector⟩ := parts
  cases jwtAuth <;> cases rbacAuth <;> cases rateLimiter <;> cases metricsCollector <;> cases made <;> cases kind <;> rfl

theorem observed_follows (kind : Kind) (handler : Context → Job τ (Ending ρ)) (ctx : Context) :
    (chain ((if parts.metricsCollector then [metricsOf kind] else []) ++ [recoveryOf kind]) (entering handler)
      ctx).Follows (Moves checks rateLimiter) (Ends checks parts.metricsCollector (recoveredOutcome handler))
      (.admitted ctx) := by
  have recovered : (recoveryOf kind (entering handler) ctx).Follows (Moves checks rateLimiter)
      (fun later ending => later = .inside ctx ∧ recoveredOutcome handler ctx ending) (.admitted ctx) := by
    cases kind with
    | _ => exact recovery_follows _ (entering_follows handler ctx)
  cases parts.metricsCollector with
  | true =>
    cases kind with
    | _ => exact metrics_follows _ recovered
  | false =>
    apply recovered.mono
    rintro later ending ⟨rfl, outcome⟩
    exact ⟨rfl, outcome⟩

theorem core_follows (kind : Kind) (handler : Context → Job τ (Ending ρ)) (ctx : Context) :
    (chain (parts.core kind) (entering handler) ctx).Follows (Moves checks parts.rateLimiter)
      (Ends checks parts.metricsCollector (recoveredOutcome handler)) (identified parts.rateLimiter ctx) := by
  unfold Parts.core identified
  cases on : parts.rateLimiter with
  | none => exact observed_follows kind handler ctx
  | some config => exact rateLimiting_follows rfl (fun ticket => observed_follows kind handler _) rfl

theorem serve_follows {server : GRPCServer τ ρ} (made : newGRPCServer true true parts = .ok server)
    (request : Request τ ρ) :
    (server.serve request).Follows (Moves (parts.demands request.metadata) parts.rateLimiter)
      (Ends (parts.demands request.metadata) parts.metricsCollector (recoveredOutcome request.handler))
      (parts.first request.metadata) := by
  obtain ⟨kind, metadata, handler⟩ := request
  unfold GRPCServer.serve
  rw [newGRPCServer_interceptors made]
  have authorized (ctx : Context) :
      (chain ((if parts.rbacAuth then [rbacAuthorizationInterceptor] else []) ++ parts.core kind) (entering handler)
        ctx).Follows (Moves (parts.demands metadata) parts.rateLimiter)
        (Ends (parts.demands metadata) parts.metricsCollector (recoveredOutcome handler))
        (identified parts.rateLimiter ctx) := by
    split
    next => exact rbacAuthorization_follows (core_follows kind handler ctx)
    next => exact core_follows kind handler ctx
  have authenticated : (chain (parts.jwtAuth.toList.map (fun ja => authenticate ja parts.jwt) ++
      ((if parts.rbacAuth then [rbacAuthorizationInterceptor] else []) ++ parts.core kind)) (entering handler)
      (.ofMetadata metadata)).Follows (Moves (parts.demands metadata) parts.rateLimiter)
      (Ends (parts.demands metadata) parts.metricsCollector (recoveredOutcome handler)) (parts.first metadata) := by
    unfold Parts.first
    cases on : parts.jwtAuth with
    | none => exact authorized _
    | some ja =>
      apply authenticate_follows
      · intro gate claims accepted
        refine ⟨_, .authenticate gate ⟨rfl, fun other found => ?_⟩, authorized _⟩
        cases on.symm.trans found
        exact certified_of_verdict accepted
      · exact fun now status turned => ⟨ja, on, turned⟩
      · exact fun status always => ⟨status, rfl, always⟩
      · exact fun status => rfl
  cases kind with
  | _ => exact logging_follows _ _ _ authenticated

def Parts.anyone (parts : Parts) : Checks where
  ident now ctx := ∀ ja ∈ parts.jwtAuth, Certified ja parts.jwt now ctx
  turns _ _ := True

theorem Moves.weaken {wider : Checks} {gate after : Gate τ} {next : Phase}
    (ident : ∀ now ctx, checks.ident now ctx → wider.ident now ctx)
    (turns : ∀ now status, checks.turns now status → wider.turns now status)
    (moved : Moves checks rateLimiter phase gate after next) : Moves wider rateLimiter phase gate after next := by
  cases moved with
  | aside phase gate lines uuids => exact .aside phase gate lines uuids
  | authenticate gate valid => exact .authenticate gate (ident _ _ valid)
  | reject gate turned => exact .reject gate (turns _ _ turned)
  | operate gate on ctx moved => exact .operate gate on ctx moved
  | lose gate on ctx under lost => exact .lose gate on ctx under lost
  | enter gate ctx => exact .enter gate ctx
  | work gate ctx app => exact .work gate ctx app
  | count gate ctx label => exact .count gate ctx label
  | observe gate ctx duration => exact .observe gate ctx duration
  | observeFailure gate ctx duration => exact .observeFailure gate ctx duration

theorem Ends.weaken {wider : Checks} {metricsCollector : Bool} {outcome wide : Context → Ending ρ → Prop}
    {ending : Ending ρ} (turns : ∀ now status, checks.turns now status → wider.turns now status)
    (outcomes : ∀ ctx, outcome ctx ending → wide ctx ending) (ends : Ends checks metricsCollector outcome phase ending) :
    Ends wider metricsCollector wide phase ending := by
  cases phase with
  | arrived =>
    obtain ⟨status, told, always⟩ := ends
    exact ⟨status, told, fun now => turns now status (always now)⟩
  | inside ctx => exact ⟨ends.1, outcomes ctx ends.2⟩
  | observed ctx failed =>
    obtain ⟨reply, told, failure, outcome⟩ := ends
    exact ⟨reply, told, failure, outcomes ctx outcome⟩
  | refused | limiting | admitted | counted => exact ends

theorem serve_follows_anyone {server : GRPCServer τ ρ} (made : newGRPCServer true true parts = .ok server)
    (request : Request τ ρ) : (server.serve request).Follows (Moves parts.anyone parts.rateLimiter)
      (Ends parts.anyone parts.metricsCollector (fun _ ending => ending.fatal = false)) (parts.first request.metadata) := by
  have moves : (server.serve request).Follows (Moves parts.anyone parts.rateLimiter) _ _ :=
    (serve_follows made request).weaken
      (fun _ _ _ _ => Moves.weaken (fun _ _ shown => shown.2) (fun _ _ _ => trivial))
  apply moves.mono
  intro later ending
  apply Ends.weaken (fun _ _ _ => trivial)
  rintro ctx ⟨answer, -, rfl⟩
  obtain ⟨reply, is⟩ := recovered_returned answer
  rw [is]
  rfl

end Phases
end EventGateway.Server
