import Mathlib.Data.List.Chain

/-! Trails: lists of moves, each of which leads from one place to another, in which every move starts
where the one before it ended. -/

namespace EventGateway.Lib
variable {α ε : Type*} {source target : ε → α} {start middle stop : α}

structure Trail (source target : ε → α) (start : α) (moves : List ε) (stop : α) : Prop where
  first : ∀ move ∈ moves.head?, source move = start
  linked : moves.IsChain (fun earlier later => source later = target earlier)
  last : (moves.getLast?.map target).getD start = stop

namespace Trail

theorem nil (place : α) : Trail source target place [] place := ⟨nofun, .nil, rfl⟩

theorem single (move : ε) : Trail source target (source move) [move] (target move) where
  first := fun _ same => congrArg source (Option.some.inj same).symm
  linked := .singleton move
  last := rfl

theorem append {one two : List ε} (before : Trail source target start one middle)
    (after : Trail source target middle two stop) : Trail source target start (one ++ two) stop := by
  cases ending : one.getLast? with
  | none =>
    obtain rfl := List.getLast?_eq_none_iff.mp ending
    have same : start = middle := before.last
    subst same
    exact after
  | some final =>
    have joint : target final = middle := by simpa [ending] using before.last
    refine ⟨?_, ?_, ?_⟩
    · cases one with
      | nil => cases ending
      | cons move rest => exact before.first
    · rw [List.isChain_append]
      refine ⟨before.linked, after.linked, fun earlier found later next => ?_⟩
      cases ending.symm.trans found
      exact (after.first later next).trans joint.symm
    · rw [List.getLast?_append, ending, ← after.last, ← joint]
      cases two.getLast? with
      | none => rfl
      | some last => rfl

end Trail
end EventGateway.Lib
