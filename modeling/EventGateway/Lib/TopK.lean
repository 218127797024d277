import Mathlib.Data.List.Sort
import Mathlib.Order.Basic

/-! The greatest entries of a list by a key. They are not unique where keys are equal; sorting
in any way that the order allows and cutting off the rest finds some of them. -/

namespace EventGateway.Lib.TopK
variable {α κ : Type*}

structure Weak (before : α → α → Bool) : Prop where
  asymm : ∀ first second, before first second = true → before second first = false
  cotrans : ∀ first second third, before first third = true →
    before first second = true ∨ before second third = true

/-- A sort of which only the result is known: the entries in an order in which none belongs before one that it
follows. Ties may come out in any order. -/
structure SortBy (α : Type*) where
  sort : (α → α → Bool) → List α → List α
  perm : ∀ before listed, (sort before listed).Perm listed
  ordered : ∀ before listed, Weak before →
    (sort before listed).Pairwise (fun first second => before second first = false)

/-- `taken` are so many entries of the list, in falling order of the key, and nothing that is left out has a
greater key than any of them. -/
structure Greatest [LE κ] (key : α → κ) (count : Nat) (listed taken : List α) : Prop where
  part : ∃ rest, (taken ++ rest).Perm listed ∧ ∀ kept ∈ taken, ∀ left ∈ rest, key left ≤ key kept
  length : taken.length = count
  falling : taken.Pairwise (fun first second => key second ≤ key first)

variable [LinearOrder κ]

def later (key : α → κ) (first second : α) : Bool := key second < key first

theorem weak_later (key : α → κ) : Weak (later key) where
  asymm first second := by
    simp only [later, decide_eq_true_eq, decide_eq_false_iff_not, not_lt]
    exact le_of_lt
  cotrans first second third := by
    simp only [later, decide_eq_true_eq]
    intro apart
    exact (lt_or_ge (key second) (key first)).imp id (lt_of_lt_of_le apart)

theorem greatest_take (key : α → κ) (sorting : SortBy α) (listed : List α) {count : Nat}
    (enough : count ≤ listed.length) : Greatest key count listed ((sorting.sort (later key) listed).take count) := by
  have perm := sorting.perm (later key) listed
  have falling : (sorting.sort (later key) listed).Pairwise (fun first second => key second ≤ key first) := by
    apply (sorting.ordered (later key) listed (weak_later key)).imp
    intro first second ordered
    simpa [later] using ordered
  generalize sorting.sort (later key) listed = sorted at perm falling ⊢
  refine ⟨⟨sorted.drop count, ?_, ?_⟩, ?_, falling.take⟩
  · rw [List.take_append_drop]
    exact perm
  · rw [← List.take_append_drop count sorted, List.pairwise_append] at falling
    exact falling.2.2
  · rw [List.length_take, perm.length_eq]
    exact Nat.min_eq_left enough

section Merge
variable {before : α → α → Bool}

def notAfter (before : α → α → Bool) (first second : α) : Bool := !before second first

theorem Weak.notAfter_trans (weak : Weak before) (first second third : α) (one : notAfter before first second = true)
    (two : notAfter before second third = true) : notAfter before first third = true := by
  simp only [notAfter, Bool.not_eq_true'] at one two ⊢
  by_contra apart
  rcases weak.cotrans third second first (Bool.not_eq_false _ ▸ apart) with found | found
  · exact Bool.false_ne_true (two.symm.trans found)
  · exact Bool.false_ne_true (one.symm.trans found)

theorem Weak.notAfter_total (weak : Weak before) (first second : α) :
    (notAfter before first second || notAfter before second first) = true := by
  cases ordered : before second first with
  | false => simp [notAfter, ordered]
  | true => simp [notAfter, weak.asymm second first ordered]

def mergeSorting (α : Type*) : SortBy α where
  sort before listed := listed.mergeSort (notAfter before)
  perm before listed := List.mergeSort_perm listed (notAfter before)
  ordered before listed weak := by
    apply (List.pairwise_mergeSort weak.notAfter_trans weak.notAfter_total listed).imp
    intro first second ordered
    simpa [notAfter] using ordered

end Merge

end EventGateway.Lib.TopK
