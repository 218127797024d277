import Mathlib.Data.List.Infix

/-! Conduits: one stage of a relay, which takes items in at one end and passes them on at
the other. The rules say how a stage evolves when an item enters, leaves, or the stage is
shut, and that stages in a row form a stage again. -/

namespace EventGateway.Lib
variable {α : Type*}

/-- What went through a stage. While it is running, all that entered has left or is held,
in order; once shut it has passed on an initial segment. -/
structure Conduit (running : Prop) (entered held left : List α) : Prop where
  ordered : left <+: entered
  whole : running → entered = left ++ held

namespace Conduit
variable {running running' : Prop} {entered middle held held' left : List α} {item : α}

theorem empty : Conduit running ([] : List α) [] [] := ⟨List.prefix_rfl, fun _ => rfl⟩

theorem mono (stage : Conduit running entered held left) (still : running' → running) :
    Conduit running' entered held left :=
  ⟨stage.ordered, fun now => stage.whole (still now)⟩

theorem enter (stage : Conduit running entered held left) (still : running' → running) (item : α) :
    Conduit running' (entered ++ [item]) (held ++ [item]) left := by
  constructor
  · exact stage.ordered.trans (List.prefix_append _ _)
  · intro now
    rw [stage.whole (still now), List.append_assoc]

theorem leave (stage : Conduit running entered (item :: held) left) (now : running) :
    Conduit running' entered held (left ++ [item]) := by
  have split : entered = (left ++ [item]) ++ held := by
    rw [stage.whole now, List.append_assoc, List.singleton_append]
  exact ⟨⟨held, split.symm⟩, fun _ => split⟩

theorem shut (stage : Conduit running entered held left) (ended : ¬running') :
    Conduit running' entered held' left :=
  ⟨stage.ordered, fun now => absurd now ended⟩

theorem comp (first : Conduit running entered held middle) (second : Conduit running' middle held' left) :
    Conduit (running ∧ running') entered (held' ++ held) left := by
  constructor
  · exact second.ordered.trans first.ordered
  · intro now
    rw [first.whole now.1, second.whole now.2, List.append_assoc]

end Conduit
end EventGateway.Lib
