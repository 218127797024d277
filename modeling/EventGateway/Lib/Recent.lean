import Mathlib.Data.List.Basic

/-! Histories that are kept newest first, and how often something has happened in one
since the last entry of some kind. -/

namespace EventGateway.Lib
variable {α : Type*}

def countSince (boundary counted : α → Bool) (log : List α) : Nat :=
  (log.takeWhile (fun entry => !boundary entry)).countP counted

theorem countSince_boundary {boundary : α → Bool} (counted : α → Bool) {entry : α} (ends : boundary entry)
    (log : List α) : countSince boundary counted (entry :: log) = 0 := by
  simp [countSince, ends]

theorem countSince_counted {boundary counted : α → Bool} {entry : α} (inside : boundary entry = false)
    (counts : counted entry) (log : List α) :
    countSince boundary counted (entry :: log) = countSince boundary counted log + 1 := by
  simp [countSince, inside, counts]

theorem countSince_other {boundary counted : α → Bool} {entry : α} (inside : boundary entry = false)
    (other : counted entry = false) (log : List α) :
    countSince boundary counted (entry :: log) = countSince boundary counted log := by
  simp [countSince, inside, other]

end EventGateway.Lib
