import EventGateway.Server.Service

/-! A token from its issue to its end, behind the interceptors that authenticate and authorize. The map of an authorizer
has no lock, so that its updates are made before the requests come. -/

namespace EventGateway.Server
open Lib Auth RateLimit

section Sessions
variable {τ ρ : Type}

/-- A server whose methods require a permission, as `RBACAuthorizer.UnaryInterceptor` asks for it. -/
def Guarded (server : GRPCServer τ ρ) (ja : JWTAuthenticator) (jwt : Jwt) (ra : PermissionMap)
    (permission : Permission) : Prop :=
  ∀ kind, server.interceptorChain.interceptors kind = [authenticate ja jwt, authorize ra permission]

def denied (permission : Permission) : Status :=
  ⟨.permissionDenied, "user does not have required permission: " ++ permission⟩

variable {server : GRPCServer τ ρ} {ja issuing : JWTAuthenticator} {jwt : Jwt} {ra : PermissionMap}
  {permission : Permission}

end Sessions

section Sample

end Sample
end EventGateway.Server
