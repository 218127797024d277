import EventGateway.Lib.Calls

/-! A readers-writer lock among calls in progress. The place of a call says what it holds, so that the
lock has no state of its own: whether it can be taken is read off the places of all calls. -/

namespace EventGateway.Lib.RWMutex
open Calls

inductive Hold where
  | read
  | write
  deriving DecidableEq

variable {κ : Type*} {hold : κ → Option Hold} {calls : List κ} {index : Nat} {call next : κ}

def CanLock (hold : κ → Option Hold) (calls : List κ) : Prop := ∀ call ∈ calls, hold call = none

def CanRLock (hold : κ → Option Hold) (calls : List κ) : Prop := ∀ call ∈ calls, hold call ≠ some .write

instance : Decidable (CanLock hold calls) := inferInstanceAs (Decidable (∀ _ ∈ _, _))

instance : Decidable (CanRLock hold calls) := inferInstanceAs (Decidable (∀ _ ∈ _, _))

def Exclusive (hold : κ → Option Hold) (calls : List κ) : Prop :=
  ∀ (one other : Nat) (writer another : κ), one ≠ other → calls[one]? = some writer → calls[other]? = some another →
    hold writer = some .write → hold another = none

inductive Change (hold : κ → Option Hold) (calls : List κ) : Option Hold → Option Hold → Prop where
  | keeps (held : Option Hold) : Change hold calls held held
  | unlocks (held : Option Hold) : Change hold calls held none
  | locks (free : CanLock hold calls) : Change hold calls none (some .write)
  | rLocks (free : CanRLock hold calls) : Change hold calls none (some .read)

namespace Exclusive

theorem nil : Exclusive hold ([] : List κ) := by
  intro one other writer another _ there
  cases there

theorem set (exclusive : Exclusive hold calls) (found : calls[index]? = some call)
    (change : Change hold calls (hold call) (hold next)) : Exclusive hold (calls.set index next) := by
  intro one other writer another apart first second writes
  rcases found_set found first with ⟨rfl, rfl⟩ | ⟨-, writing⟩
  · rcases found_set found second with ⟨here, -⟩ | ⟨-, waiting⟩
    · exact absurd here.symm apart
    · rw [writes] at change
      generalize same : hold call = held at change
      cases change with
      | keeps => exact exclusive _ _ _ _ apart found waiting same
      | locks free => exact free another (List.mem_of_getElem? waiting)
  · rcases found_set found second with ⟨rfl, rfl⟩ | ⟨-, waiting⟩
    · rw [exclusive _ _ _ _ apart writing found writes] at change
      generalize hold another = held at change
      cases change with
      | keeps => rfl
      | unlocks => rfl
      | locks free => cases (free writer (List.mem_of_getElem? writing)).symm.trans writes
      | rLocks free => exact absurd writes (free writer (List.mem_of_getElem? writing))
    · exact exclusive _ _ _ _ apart writing waiting writes

theorem append (exclusive : Exclusive hold calls) (outside : hold next = none) : Exclusive hold (calls ++ [next]) := by
  intro one other writer another apart first second writes
  rcases found_append first with ⟨-, rfl⟩ | first
  · cases outside.symm.trans writes
  rcases found_append second with ⟨-, rfl⟩ | second
  · exact outside
  · exact exclusive _ _ _ _ apart first second writes

theorem outside (exclusive : Exclusive hold calls) (found : calls[index]? = some call) (writes : hold call = some .write)
    {other : κ} (member : other ∈ calls) (apart : other ≠ call) : hold other = none := by
  obtain ⟨place, there⟩ := List.mem_iff_getElem?.mp member
  have elsewhere : index ≠ place := by
    rintro rfl
    exact apart (Option.some.inj (there.symm.trans found))
  exact exclusive _ _ _ _ elsewhere found there writes

end Exclusive
end EventGateway.Lib.RWMutex
