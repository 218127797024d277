import Mathlib.Data.List.Basic

/-! Slices of Go. A slice names the first entries of an array in memory; arrays are shared, so
that a write through one slice shows in all slices of the same array and in no other. -/

namespace EventGateway.Lib.Slices
variable {α : Type*}

structure Memory (α : Type*) where
  arrays : List (List α)

structure Slice where
  array : Nat
  length : Nat

def Slice.upTo (slice : Slice) (length : Nat) : Slice := { slice with length }

namespace Memory

def read (memory : Memory α) (slice : Slice) : List α :=
  (memory.arrays[slice.array]?.getD []).take slice.length

def allocate (memory : Memory α) (entries : List α) : Slice × Memory α :=
  (⟨memory.arrays.length, entries.length⟩, ⟨memory.arrays ++ [entries]⟩)

def write (memory : Memory α) (slice : Slice) (entries : List α) : Memory α :=
  ⟨memory.arrays.modify slice.array (fun array => entries.take slice.length ++ array.drop slice.length)⟩

end Memory

def Slice.Within (slice : Slice) (memory : Memory α) : Prop :=
  ∃ array, memory.arrays[slice.array]? = some array ∧ slice.length ≤ array.length

section Reading
variable {memory : Memory α} {slice other : Slice} {entries : List α}

theorem Slice.Within.array_lt (within : slice.Within memory) : slice.array < memory.arrays.length := by
  obtain ⟨array, there, -⟩ := within
  exact (List.getElem?_eq_some_iff.mp there).1

theorem Slice.Within.length_read (within : slice.Within memory) : (memory.read slice).length = slice.length := by
  obtain ⟨array, there, fits⟩ := within
  rw [Memory.read, there, Option.getD_some, List.length_take]
  exact Nat.min_eq_left fits

namespace Memory

theorem getElem?_allocate (entries : List α) (within : slice.Within memory) :
    (memory.allocate entries).2.arrays[slice.array]? = memory.arrays[slice.array]? :=
  List.getElem?_append_left within.array_lt

theorem read_allocate (entries : List α) (within : slice.Within memory) :
    (memory.allocate entries).2.read slice = memory.read slice := by
  rw [read, getElem?_allocate entries within, read]

theorem within_allocate (entries : List α) (within : slice.Within memory) :
    slice.Within (memory.allocate entries).2 := by
  have same := getElem?_allocate entries within
  obtain ⟨array, there, fits⟩ := within
  exact ⟨array, same.trans there, fits⟩

theorem getElem?_allocated (memory : Memory α) (entries : List α) :
    (memory.allocate entries).2.arrays[(memory.allocate entries).1.array]? = some entries :=
  List.getElem?_concat_length

theorem read_allocated (memory : Memory α) (entries : List α) :
    (memory.allocate entries).2.read (memory.allocate entries).1 = entries := by
  rw [read, getElem?_allocated, Option.getD_some]
  exact List.take_length

theorem within_allocated (memory : Memory α) (entries : List α) :
    (memory.allocate entries).1.Within (memory.allocate entries).2 :=
  ⟨entries, getElem?_allocated memory entries, Nat.le_refl _⟩

theorem read_write_other (entries : List α) (apart : slice.array ≠ other.array) :
    (memory.write slice entries).read other = memory.read other := by
  dsimp only [read, write]
  rw [List.getElem?_modify_ne _ _ apart]

/-- What was written over a whole slice is read from each of its initial segments. -/
theorem read_write (within : slice.Within memory) (whole : entries.length = slice.length) {length : Nat}
    (inside : length ≤ slice.length) : (memory.write slice entries).read (slice.upTo length) = entries.take length := by
  obtain ⟨array, there, -⟩ := within
  have written : (memory.write slice entries).arrays[slice.array]? = some (entries ++ array.drop slice.length) := by
    rw [write, List.getElem?_modify_eq, there, ← whole, List.take_length]
    rfl
  change ((memory.write slice entries).arrays[slice.array]?.getD []).take length = entries.take length
  rw [written, Option.getD_some]
  exact List.take_append_of_le_length (whole ▸ inside)

end Memory
end Reading

end EventGateway.Lib.Slices
