import Mathlib.Tactic.Common

/-! How a call ends: the statuses of gRPC, and when a chain of fallible steps succeeds. -/

namespace EventGateway.Lib

inductive StatusCode where
  | canceled | unknown | invalidArgument | deadlineExceeded | notFound | alreadyExists | permissionDenied
  | resourceExhausted | failedPrecondition | aborted | outOfRange | unimplemented | internal | unavailable | dataLoss
  | unauthenticated
  deriving DecidableEq

structure Status where
  code : StatusCode
  message : String
  deriving DecidableEq

namespace Outcome
variable {ε ε' α β : Type} {outcome : Except ε α}

theorem bind_eq_ok {next : α → Except ε β} {result : β} :
    (outcome >>= next) = .ok result ↔ ∃ value, outcome = .ok value ∧ next value = .ok result := by
  cases outcome with
  | error err => simp [bind, Except.bind]
  | ok value => simp [bind, Except.bind]

theorem andThen_ok {first rest : Except ε Unit} :
    (first >>= fun _ => rest) = .ok () ↔ first = .ok () ∧ rest = .ok () := by
  rw [bind_eq_ok]
  exact ⟨fun ⟨_, passed, last⟩ => ⟨passed, last⟩, fun ⟨passed, last⟩ => ⟨(), passed, last⟩⟩

theorem mapError_eq_ok {rename : ε → ε'} {value : α} : outcome.mapError rename = .ok value ↔ outcome = .ok value := by
  cases outcome with
  | error err => simp [Except.mapError]
  | ok value => simp [Except.mapError]

end Outcome
end EventGateway.Lib
