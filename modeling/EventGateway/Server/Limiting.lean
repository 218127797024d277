import EventGateway.Server.Passage

/-! The limiter of a server, with the calls of all requests that pass it at once. -/

namespace EventGateway.Server
open Lib Lib.Calls RateLimit

def Phase.call : Phase → AllowAt
  | .limiting _ call => call
  | .refused _ => .returned (.ok false)
  | .arrived | .admitted _ | .inside _ | .counted _ | .observed _ _ => .returned (.ok true)

def Gate.racing {τ : Type} (gate : Gate τ) (phases : List Phase) : Racing :=
  { gate.limiter with calls := phases.map Phase.call }

section Limiter
variable {τ ι : Type} {checks : Checks} {config : Config} {first : ι → Phase} {gate after : Gate τ} {phase next : Phase}
  {phases : List Phase} {index : Nat}

theorem call_asking {racing moved : Racing} {call answer : AllowAt} (step : AllowMove config racing call moved answer)
    (ctx : Context) : (Phase.asking ctx answer).call = answer := by
  cases step with
  | _ => rfl

theorem sound_set (sound : Sound config (gate.racing phases)) (limiter : after.limiter = gate.limiter)
    (free : ∀ cells, next.call.Holds cells) : Sound config (after.racing (phases.set index next)) := by
  unfold Gate.racing at sound ⊢
  rw [limiter]
  refine sound.with_calls (fun call member => ?_)
  rw [List.map_set] at member
  rcases List.mem_or_eq_of_mem_set member with old | rfl
  · exact .inl old
  · exact .inr free

theorem sound_move (positive : 0 ≤ config.policy.capacity) (sound : Sound config (gate.racing phases))
    (found : phases[index]? = some phase) (moved : Moves checks (some config) phase gate after next) :
    Sound config (after.racing (phases.set index next)) := by
  cases moved with
  | aside phase gate lines uuids =>
    rw [set_of_found found]
    exact sound
  | @operate gate _ on ctx call answer limiter step =>
    cases on
    have here : (gate.racing phases).calls[index]? = some call := by
      show (phases.map Phase.call)[index]? = _
      rw [List.getElem?_map, found]
      rfl
    have advanced := sound.advance positive here (step.with_calls _)
    unfold Gate.racing at advanced ⊢
    rw [List.map_set, call_asking step]
    exact advanced
  | authenticate | reject | lose | enter | work | count | observe | observeFailure =>
    exact sound_set sound rfl (fun _ => trivial)

theorem sound_disturb (positive : 0 ≤ config.policy.capacity) (sound : Sound config (gate.racing phases))
    {event : Disturbance} (disturbed : gate.disturb (some config) event = some after) :
    Sound config (after.racing phases) := by
  cases event with
  | tick now =>
    simp only [Gate.disturb] at disturbed
    split at disturbed
    next late =>
      cases disturbed
      have ticked : (gate.racing phases).step config (.tick now) = some { gate.racing phases with clock := now } :=
        if_pos late
      exact sound.step positive ticked
    next => cases disturbed
  | cleanup label =>
    obtain ⟨limiter, swept, same⟩ := Option.bind_eq_some_iff.mp disturbed
    cases same
    exact sound.step positive (step_of_sweep swept _)

theorem sound_of_marches (positive : 0 ≤ config.policy.capacity)
    (begins : ∀ request cells, (first request).call.Holds cells)
    (marched : Marches Gate.Fresh first (Gate.disturb (some config)) (Moves checks (some config)) gate phases) :
    Sound config (gate.racing phases) := by
  induction marched with
  | @start gate fresh =>
    rw [Gate.racing, fresh.limiter]
    exact .new config _
  | join _ request ih =>
    refine Sound.with_calls ih (fun call member => ?_)
    rw [List.map_append] at member
    rcases List.mem_append.mp member with old | new
    · exact .inl old
    · exact .inr (List.mem_singleton.mp new ▸ begins request)
  | move _ found moved ih => exact sound_move positive ih found moved
  | disturb _ disturbed ih => exact sound_disturb positive ih disturbed

end Limiter
end EventGateway.Server
