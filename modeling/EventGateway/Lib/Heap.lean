import Mathlib.Data.List.Basic

/-! Cells in memory that are reached by reference. A new cell is none of those that were there, so that
whoever writes only to cells of their own allocation leaves all earlier ones alone. -/

namespace EventGateway.Lib
variable {α : Type*}

structure Heap (α : Type*) where
  cells : List α

namespace Heap

def read (heap : Heap α) (ref : Nat) : Option α := heap.cells[ref]?

def fresh (heap : Heap α) : Nat := heap.cells.length

def allocate (heap : Heap α) (value : α) : Heap α := ⟨heap.cells ++ [value]⟩

def update (heap : Heap α) (ref : Nat) (change : α → α) : Heap α := ⟨heap.cells.modify ref change⟩

def Extends (before after : Heap α) : Prop := ∀ ref value, before.read ref = some value → after.read ref = some value

variable {heap before after : Heap α} {ref other : Nat} {value : α}

theorem read_fresh (heap : Heap α) : heap.read heap.fresh = none := List.getElem?_eq_none (Nat.le_refl _)

theorem read_allocated (heap : Heap α) (value : α) : (heap.allocate value).read heap.fresh = some value :=
  List.getElem?_concat_length

theorem read_update (heap : Heap α) (ref : Nat) (change : α → α) :
    (heap.update ref change).read ref = (heap.read ref).map change := by
  simp [read, update]

theorem Extends.refl (heap : Heap α) : heap.Extends heap := fun _ _ found => found

theorem Extends.trans {third : Heap α} (one : before.Extends after) (two : after.Extends third) :
    before.Extends third := fun ref value found => two ref value (one ref value found)

theorem extends_allocate (heap : Heap α) (value : α) : heap.Extends (heap.allocate value) := by
  intro ref held found
  have inside : ref < heap.cells.length := (List.getElem?_eq_some_iff.mp found).1
  rw [read, allocate, List.getElem?_append_left inside]
  exact found

theorem Extends.update (grown : before.Extends after) (new : before.read ref = none) (change : α → α) :
    before.Extends (after.update ref change) := by
  intro other held found
  have apart : ref ≠ other := by
    rintro rfl
    cases new.symm.trans found
  rw [read, Heap.update, List.getElem?_modify_ne _ _ apart]
  exact grown other held found

end Heap
end EventGateway.Lib
