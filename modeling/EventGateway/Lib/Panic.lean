import EventGateway.Lib.Effect

/-! Effects that may also panic. A panic is the last thing that happens; it is told apart
from an error, which a caller can handle. -/

namespace EventGateway.Lib

inductive Outcome (α : Type) where
  | returned (result : Except String α)
  | panicked

def Risky (σ α : Type) : Type := σ → Outcome α × σ

namespace Risky
variable {σ α β : Type}

protected def pure (value : α) : Risky σ α := fun state => (.returned (.ok value), state)

protected def bind (first : Risky σ α) (next : α → Risky σ β) : Risky σ β := fun state =>
  match first state with
  | (.returned (.ok value), after) => next value after
  | (.returned (.error err), after) => (.returned (.error err), after)
  | (.panicked, after) => (.panicked, after)

instance : Monad (Risky σ) where
  pure := Risky.pure
  bind := Risky.bind

def crash : Risky σ α := fun state => (.panicked, state)

def calling (action : Effect σ α) : Risky σ α := fun state => (.returned (action state).1, (action state).2)

theorem bind_apply (first : Risky σ α) (next : α → Risky σ β) (state : σ) :
    (first >>= next) state = match first state with
      | (.returned (.ok value), after) => next value after
      | (.returned (.error err), after) => (.returned (.error err), after)
      | (.panicked, after) => (.panicked, after) := rfl

theorem bind_ok {first : Risky σ α} {next : α → Risky σ β} {state after : σ} {value : α}
    (ran : first state = (.returned (.ok value), after)) : (first >>= next) state = next value after := by
  change Risky.bind first next state = _
  rw [Risky.bind, ran]

theorem bind_panicked {first : Risky σ α} {next : α → Risky σ β} {state : σ}
    (ran : (first state).1 = .panicked) : ((first >>= next) state).1 = .panicked := by
  change (Risky.bind first next state).1 = _
  unfold Risky.bind
  split
  next same => cases (congrArg Prod.fst same).symm.trans ran
  next same => cases (congrArg Prod.fst same).symm.trans ran
  next => rfl

theorem calling_pure (value : α) : calling (pure value : Effect σ α) = pure value := rfl

theorem calling_bind (first : Effect σ α) (next : α → Effect σ β) :
    calling (first >>= next) = calling first >>= fun value => calling (next value) := by
  funext state
  change (Outcome.returned (Effect.bind first next state).1, (Effect.bind first next state).2) =
    Risky.bind (calling first) _ state
  simp only [Effect.bind, Risky.bind, calling]
  rcases first state with ⟨err | value, after⟩ <;> rfl

theorem calling_ok {action : Effect σ α} {state after : σ} {value : α} (ran : action state = (.ok value, after)) :
    calling action state = (.returned (.ok value), after) := by
  rw [calling, ran]

def Spec (action : Risky σ α) (after : α → Prop) (panics : Prop) : Prop :=
  ∀ state, match (action state).1 with
    | .returned (.ok value) => after value
    | .returned (.error _) => True
    | .panicked => panics

variable {panics : Prop} {after : α → Prop}

theorem Spec.pure {value : α} (holds : after value) : Spec (Pure.pure value : Risky σ α) after panics :=
  fun _ => holds

theorem Spec.crash (holds : panics) : Spec (crash : Risky σ α) after panics :=
  fun _ => holds

theorem Spec.calling {action : Effect σ α}
    (triple : Effect.Triple (fun _ => True) action (fun value _ => after value) (fun _ => True)) :
    Spec (calling action) after panics := by
  intro state
  have result := triple state trivial
  revert result
  simp only [Risky.calling]
  rcases action state with ⟨err | value, final⟩
  · exact id
  · exact id

theorem Spec.bind {first : Risky σ α} {next : α → Risky σ β} {final : β → Prop}
    (head : Spec first after panics) (tail : ∀ value, after value → Spec (next value) final panics) :
    Spec (first >>= next) final panics := by
  intro state
  have result := head state
  change match (Risky.bind first next state).1 with
    | .returned (.ok value) => final value
    | .returned (.error _) => True
    | .panicked => panics
  unfold Risky.bind
  rcases ran : first state with ⟨⟨err | value⟩ | -, middle⟩
  · trivial
  · rw [ran] at result
    exact tail value result middle
  · rw [ran] at result
    exact result

theorem Spec.weaken {action : Risky σ α} {wider : α → Prop} {panics' : Prop} (spec : Spec action after panics)
    (success : ∀ value, after value → wider value) (panic : panics → panics') : Spec action wider panics' := by
  intro state
  have result := spec state
  revert result
  rcases (action state).1 with ⟨err | value⟩ | -
  · exact id
  · exact success value
  · exact panic

end Risky
end EventGateway.Lib
