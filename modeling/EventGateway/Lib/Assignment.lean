import Mathlib.Data.List.Basic

/-! Operations of which some assign the part of the state that is looked at and the others leave it
alone: after any number of them, that part is what the last assignment gave it. -/

namespace EventGateway.Lib
variable {σ α β : Type*}

def lastAssigned (assigns : α → Option β) (operations : List α) : Option β :=
  operations.reverse.findSome? assigns

theorem lastAssigned_cons (assigns : α → Option β) (operation : α) (rest : List α) :
    lastAssigned assigns (operation :: rest) = (lastAssigned assigns rest).or (assigns operation) := by
  simp [lastAssigned, List.findSome?_append]

theorem lastAssigned_concat (assigns : α → Option β) (operations : List α) (last : α) :
    lastAssigned assigns (operations ++ [last]) = (assigns last).or (lastAssigned assigns operations) := by
  rw [lastAssigned, List.reverse_concat, List.findSome?_cons]
  cases assigns last with
  | none => rfl
  | some value => rfl

theorem lastAssigned_eq_some {assigns : α → Option β} {operations : List α} {value : β} :
    lastAssigned assigns operations = some value ↔
      ∃ before operation after, operations = before ++ operation :: after ∧ assigns operation = some value ∧
        ∀ later ∈ after, assigns later = none := by
  rw [lastAssigned, List.findSome?_eq_some_iff]
  constructor
  · rintro ⟨after, operation, before, order, assigned, none⟩
    refine ⟨before.reverse, operation, after.reverse, ?_, assigned, fun later member => ?_⟩
    · rw [← List.reverse_reverse operations, order]
      simp
    · exact none later (List.mem_reverse.mp member)
  · rintro ⟨before, operation, after, rfl, assigned, none⟩
    refine ⟨after.reverse, operation, before.reverse, by simp, assigned, fun later member => ?_⟩
    exact none later (List.mem_reverse.mp member)

theorem lastAssigned_eq_none {assigns : α → Option β} {operations : List α} :
    lastAssigned assigns operations = none ↔ ∀ operation ∈ operations, assigns operation = none := by
  simp [lastAssigned]

/-- What is observed after the operations is the last assignment, or what was there before. -/
theorem observe_foldl (step : σ → α → σ) (observe : σ → β) {assigns : α → Option β}
    (observed : ∀ state operation, observe (step state operation) = (assigns operation).getD (observe state))
    (operations : List α) (state : σ) :
    observe (operations.foldl step state) = (lastAssigned assigns operations).getD (observe state) := by
  induction operations generalizing state with
  | nil => rfl
  | cons operation rest ih =>
    rw [List.foldl_cons, ih, observed, lastAssigned_cons]
    cases lastAssigned assigns rest with
    | none => rfl
    | some value => rfl

end EventGateway.Lib
