import EventGateway.Auth.Token
import EventGateway.Lib.Jobs
import EventGateway.Lib.Outcome
import EventGateway.RateLimit.Racing

/-! The interceptors of the gRPC servers. A handler is a job, since many requests are served at once: each operation on
the limiter, the metrics, the log or the clock is one action, and in between other requests go on. A panic skips
everything up to a deferred `recover`. The interceptors for unary calls and for streams differ in their texts; a stream
carries its context with it, which is the same as being given one. -/

namespace EventGateway.Server
open Lib Auth RateLimit

abbrev Metadata := Finmap (fun _ : String => List String)

def Metadata.get (md : Metadata) (key : String) : List String := (md.lookup key).getD []

/-- The values of a context. `ticket` is a record: when the rate limiter let the request pass. -/
structure Context where
  incoming : Option Metadata
  outgoing : Option Metadata
  correlationID : Option String
  claims : Option TokenClaims
  ticket : Option Time

def Context.ofMetadata (incoming : Option Metadata) : Context := ⟨incoming, none, none, none, none⟩

inductive Ending (ρ : Type) where
  | returned (reply : Except Status ρ)
  | panicked
  deriving DecidableEq

inductive Level where
  | debug | warn | error
  deriving DecidableEq

structure Line where
  level : Level
  message : String
  deriving DecidableEq

/-- What the requests share: the rate limiter with the clock, the supply of UUIDs, the log, the metrics, and what the
handlers work on. `entered` is a record: the contexts with which handlers were called. -/
structure Gate (τ : Type) where
  limiter : Racing
  uuids : Nat
  lines : List Line
  errors : List (String × String)
  durations : List Duration
  app : τ
  entered : List Context

def Gate.clock {τ : Type} (gate : Gate τ) : Time := gate.limiter.clock

def Gate.log {τ : Type} (level : Level) (message : String) (gate : Gate τ) : Gate τ :=
  { gate with lines := ⟨level, message⟩ :: gate.lines }

abbrev Handler (τ ρ : Type) := Context → Job (Gate τ) (Ending ρ)

abbrev Interceptor (τ ρ : Type) := Handler τ ρ → Handler τ ρ

def chain {τ ρ : Type} (interceptors : List (Interceptor τ ρ)) (handler : Handler τ ρ) : Handler τ ρ :=
  interceptors.foldr (fun interceptor handler => interceptor handler) handler

section Interceptors
variable {τ ρ : Type}

def refuse (code : StatusCode) (message : String) : Job (Gate τ) (Ending ρ) :=
  .done (.returned (.error ⟨code, message⟩))

def andThen (call : Job (Gate τ) (Ending ρ)) (rest : Except Status ρ → Job (Gate τ) (Ending ρ)) :
    Job (Gate τ) (Ending ρ) :=
  call.bind (fun ending =>
    match ending with
    | .returned reply => rest reply
    | .panicked => .done .panicked)

/-! ### Logging, metrics and recovery -/

def loggingInterceptor (started failed completed : String) : Interceptor τ ρ := fun handler ctx =>
  .act (Gate.log .debug started) (fun _ => andThen (handler ctx) (fun reply =>
    match reply with
    | .error _ => .act (Gate.log .error failed) (fun _ => .done (.returned reply))
    | .ok _ => .act (Gate.log .debug completed) (fun _ => .done (.returned reply))))

def loggingUnaryInterceptor : Interceptor τ ρ :=
  loggingInterceptor "unary RPC call started" "unary RPC call failed" "unary RPC call completed"

def loggingStreamInterceptor : Interceptor τ ρ :=
  loggingInterceptor "stream RPC call started" "stream RPC call failed" "stream RPC call completed"

def metricsInterceptor (component : String) : Interceptor τ ρ := fun handler ctx =>
  .act id (fun before => andThen (handler ctx) (fun reply => .act id (fun after =>
    let record : Job (Gate τ) (Ending ρ) :=
      .act (fun gate => { gate with durations := since after.clock before.clock :: gate.durations })
        (fun _ => .done (.returned reply))
    match reply with
    | .error _ =>
      .act (fun gate => { gate with errors := (component, "handler_error") :: gate.errors }) (fun _ => record)
    | .ok _ => record)))

def metricsUnaryInterceptor : Interceptor τ ρ := metricsInterceptor "grpc_unary"

def metricsStreamInterceptor : Interceptor τ ρ := metricsInterceptor "grpc_stream"

def recoveryInterceptor (message : String) : Interceptor τ ρ := fun handler ctx =>
  (handler ctx).bind (fun ending =>
    match ending with
    | .returned reply => .done (.returned reply)
    | .panicked => .act (Gate.log .error message) (fun _ => refuse .internal "internal server error"))

def recoveryUnaryInterceptor : Interceptor τ ρ := recoveryInterceptor "panic in RPC handler"

def recoveryStreamInterceptor : Interceptor τ ρ := recoveryInterceptor "panic in stream RPC handler"

/-! ### Rate limiting -/

def Gate.perform (config : Config) (call : AllowAt) (gate : Gate τ) : Gate τ :=
  match gate.limiter.perform config call with
  | some (limiter, _) => { gate with limiter }
  | none => gate

def Context.stamped (ctx : Context) : AllowAt → Context
  | .taking _ _ now => { ctx with ticket := some now }
  | _ => ctx

def limited (handler : Handler τ ρ) (answer : Except String Bool) : Handler τ ρ := fun ctx =>
  match answer with
  | .ok true => handler ctx
  | .ok false => refuse .resourceExhausted "rate limit exceeded"
  | .error _ => .act (Gate.log .warn "rate limiter error") (fun _ => refuse .resourceExhausted "rate limit exceeded")

/-- A call of `Allow` from here on, which comes to its answer within this many operations. A limiter is never missing
from the memory. -/
def limiting (config : Config) (handler : Handler τ ρ) : Nat → AllowAt → Handler τ ρ
  | _, .returned answer, ctx => limited handler answer ctx
  | 0, _, _ => refuse .resourceExhausted "rate limit exceeded"
  | operations + 1, call, ctx => .act (Gate.perform config call) (fun gate =>
    match gate.limiter.perform config call with
    | some (_, next) => limiting config handler operations next (ctx.stamped call)
    | none => refuse .resourceExhausted "rate limit exceeded")

def rateLimitingInterceptor (config : Config) : Interceptor τ ρ := fun handler ctx =>
  limiting config handler (AllowAt.operations (.loading "default")) (.loading "default") ctx

def rateLimitingUnaryInterceptor (config : Config) : Interceptor τ ρ := rateLimitingInterceptor config

def rateLimitingStreamInterceptor (config : Config) : Interceptor τ ρ := rateLimitingInterceptor config

/-! ### Authentication and authorization -/

/-- `UnaryInterceptor` and `StreamInterceptor` of the authenticator. -/
def authenticate (ja : JWTAuthenticator) (jwt : Jwt) : Interceptor τ ρ := fun handler ctx =>
  match ctx.incoming with
  | none => refuse .unauthenticated "missing metadata"
  | some md =>
    match md.get "authorization" with
    | [] => refuse .unauthenticated "missing authorization token"
    | tokenString :: _ => .act id (fun gate =>
      match ja.validateToken jwt gate.clock (bearerToken tokenString) with
      | .error err => refuse .unauthenticated ("invalid token: " ++ err)
      | .ok claims => handler { ctx with claims := some claims })

/-- The interceptors of `NewGRPCServer` that only log what an authorizer would be asked. -/
def rbacAuthorizationInterceptor : Interceptor τ ρ := fun handler ctx =>
  match ctx.claims with
  | none => .act (Gate.log .debug "failed to extract claims") (fun _ => handler ctx)
  | some _ => .act (Gate.log .debug "RBAC check") (fun _ => handler ctx)

/-- `UnaryInterceptor` and `StreamInterceptor` of the authorizer. Its map has no lock, so that it must not change while
requests are served. -/
def authorize (ra : PermissionMap) (requiredPermission : Permission) : Interceptor τ ρ := fun handler ctx =>
  match ctx.claims with
  | none => refuse .unauthenticated "claims not found in context"
  | some claims =>
    if ra.hasPermission (some claims.toClaims) requiredPermission then handler ctx
    else refuse .permissionDenied ("user does not have required permission: " ++ requiredPermission)

/-! ### Correlation -/

inductive Kind where
  | unary | stream
  deriving DecidableEq

structure Parts where
  jwt : Jwt
  jwtAuth : Option JWTAuthenticator
  rbacAuth : Bool
  rateLimiter : Option Config
  metricsCollector : Bool

structure InterceptorChain (τ ρ : Type) where
  unaryInterceptors : List (Interceptor τ ρ)
  streamInterceptors : List (Interceptor τ ρ)

namespace InterceptorChain

def addUnaryInterceptor (ic : InterceptorChain τ ρ) (interceptor : Interceptor τ ρ) : InterceptorChain τ ρ :=
  { ic with unaryInterceptors := ic.unaryInterceptors ++ [interceptor] }

def addStreamInterceptor (ic : InterceptorChain τ ρ) (interceptor : Interceptor τ ρ) : InterceptorChain τ ρ :=
  { ic with streamInterceptors := ic.streamInterceptors ++ [interceptor] }

def interceptors (ic : InterceptorChain τ ρ) : Kind → List (Interceptor τ ρ)
  | .unary => ic.unaryInterceptors
  | .stream => ic.streamInterceptors

end InterceptorChain

/-- The options of a server that say whose requests get to a handler. `maxConcurrentStreams` is for each connection. -/
structure GRPCServer (τ ρ : Type) where
  interceptorChain : InterceptorChain τ ρ
  maxConcurrentStreams : Nat

def newGRPCServer (cfg logger : Bool) (parts : Parts) : Except String (GRPCServer τ ρ) := do
  if !cfg then throw "config is required"
  if !logger then throw "logger is required"
  let mut ic : InterceptorChain τ ρ := ⟨[], []⟩
  ic := (ic.addUnaryInterceptor loggingUnaryInterceptor).addStreamInterceptor loggingStreamInterceptor
  if let some ja := parts.jwtAuth then
    ic := (ic.addUnaryInterceptor (authenticate ja parts.jwt)).addStreamInterceptor (authenticate ja parts.jwt)
  if parts.rbacAuth then
    ic := (ic.addUnaryInterceptor rbacAuthorizationInterceptor).addStreamInterceptor rbacAuthorizationInterceptor
  if let some config := parts.rateLimiter then
    ic := (ic.addUnaryInterceptor (rateLimitingUnaryInterceptor config)).addStreamInterceptor
      (rateLimitingStreamInterceptor config)
  if parts.metricsCollector then
    ic := (ic.addUnaryInterceptor metricsUnaryInterceptor).addStreamInterceptor metricsStreamInterceptor
  ic := (ic.addUnaryInterceptor recoveryUnaryInterceptor).addStreamInterceptor recoveryStreamInterceptor
  return ⟨ic, 10000⟩

structure Request (τ ρ : Type) where
  kind : Kind
  metadata : Option Metadata
  handler : Context → Job τ (Ending ρ)

def entering (handler : Context → Job τ (Ending ρ)) : Handler τ ρ := fun ctx =>
  .act (fun gate => { gate with entered := ctx :: gate.entered })
    (fun _ => (handler ctx).zoom Gate.app (fun gate app => { gate with app }))

def GRPCServer.serve (server : GRPCServer τ ρ) (request : Request τ ρ) : Job (Gate τ) (Ending ρ) :=
  chain (server.interceptorChain.interceptors request.kind) (entering request.handler) (.ofMetadata request.metadata)

def GRPCServer.opened (server : GRPCServer τ ρ) (crew : Crew (Gate τ) (Ending ρ)) (request : Request τ ρ) :
    Crew (Gate τ) (Ending ρ) := { crew with jobs := crew.jobs ++ [server.serve request] }

inductive Disturbance where
  | tick (now : Time)
  | cleanup (label : RacingStep)

def Gate.disturb (rateLimiter : Option Config) (gate : Gate τ) : Disturbance → Option (Gate τ)
  | .tick now => if gate.clock ≤ now then some { gate with limiter := { gate.limiter with clock := now } } else none
  | .cleanup label => do
    let config ← rateLimiter
    let limiter ← gate.limiter.sweep config label
    pure { gate with limiter }

structure Gate.Fresh (gate : Gate τ) : Prop where
  limiter : gate.limiter = .new gate.clock
  errors : gate.errors = []
  durations : gate.durations = []
  entered : gate.entered = []

def Ending.fatal : Ending ρ → Bool
  | .returned _ => false
  | .panicked => true

def serverMachine (rateLimiter : Option Config) (server : GRPCServer τ ρ) :
    Machine (Crew (Gate τ) (Ending ρ)) (CrewStep (Request τ ρ) Disturbance) :=
  crewMachine Gate.Fresh server.serve (Gate.disturb rateLimiter) Ending.fatal

end Interceptors
end EventGateway.Server
