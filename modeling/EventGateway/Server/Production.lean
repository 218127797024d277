import EventGateway.Server.Admission

/-! The server that `run` starts. Its chain has the correlation ID and the token, and no limiter, no metrics and no
recovery. -/

namespace EventGateway.Server
open Lib Auth RateLimit

section Production
variable {τ ρ : Type} {ja : JWTAuthenticator} {jwt : Jwt} {uuids : Uuids}

end Production

end EventGateway.Server
