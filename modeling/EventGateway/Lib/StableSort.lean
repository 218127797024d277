import Mathlib.Data.Int.ConditionallyCompleteOrder
import Mathlib.Data.Int.Range
import Mathlib.Data.List.Sort
import Mathlib.Order.ConditionallyCompleteLattice.Basic

/-! Sorting by an integer key, stably. To go through the keys of a range in order and take the
entries of each key as they come is the stable sort of the entries by that key. -/

namespace EventGateway.Lib.StableSort
variable {α : Type*} {key : α → Int} {listed : List α} {low high : Int}

def byKey (key : α → Int) (first second : α) : Bool := key first ≤ key second

def withKey (key : α → Int) (listed : List α) (value : Int) : List α :=
  listed.filter (fun entry => key entry = value)

theorem byKey_trans (first second third : α) (one : byKey key first second = true)
    (two : byKey key second third = true) : byKey key first third = true := by
  simp only [byKey, decide_eq_true_eq] at one two ⊢
  omega

theorem byKey_total (first second : α) : (byKey key first second || byKey key second first) = true := by
  simp only [byKey, Bool.or_eq_true, decide_eq_true_eq]
  omega

theorem withKey_mergeSort (listed : List α) (value : Int) :
    withKey key (listed.mergeSort (byKey key)) value = withKey key listed value := by
  have alike : (withKey key listed value).Pairwise (fun first second => byKey key first second = true) := by
    apply List.Pairwise.imp_of_mem (R := fun _ _ => True) _ (List.pairwise_of_forall (fun _ _ => trivial))
    intro first second one two _
    simp only [withKey, List.mem_filter, decide_eq_true_eq] at one two
    simp only [byKey, one.2, two.2, le_refl, decide_true]
  have inside : (withKey key listed value).Sublist (listed.mergeSort (byKey key)) :=
    List.sublist_mergeSort byKey_trans byKey_total alike List.filter_sublist
  have same : withKey key (withKey key listed value) value = withKey key listed value := by
    simp only [withKey, List.filter_filter, Bool.and_self]
  have sublist : (withKey key listed value).Sublist (withKey key (listed.mergeSort (byKey key)) value) := by
    rw [← same]
    exact inside.filter _
  have size : (withKey key listed value).length = (withKey key (listed.mergeSort (byKey key)) value).length :=
    ((List.mergeSort_perm listed (byKey key)).filter _).length_eq.symm
  exact (sublist.eq_of_length size).symm

theorem withKey_append_rest (sorted : listed.Pairwise (fun first second => key first ≤ key second))
    (least : ∀ entry ∈ listed, low ≤ key entry) :
    withKey key listed low ++ listed.filter (fun entry => low + 1 ≤ key entry) = listed := by
  induction listed with
  | nil => rfl
  | cons first rest ih =>
    obtain ⟨before, tail⟩ := List.pairwise_cons.mp sorted
    have bound := least first List.mem_cons_self
    have later := ih tail (fun entry member => least entry (List.mem_cons_of_mem _ member))
    by_cases here : key first = low
    · have skipped : ¬low + 1 ≤ key first := by omega
      rw [withKey, List.filter_cons_of_pos (by simpa using here), List.filter_cons_of_neg (by simpa using skipped)]
      exact congrArg (first :: ·) later
    · have beyond : ∀ entry ∈ first :: rest, low + 1 ≤ key entry := by
        intro entry member
        rcases List.mem_cons.mp member with rfl | member
        · omega
        · have := before entry member
          omega
      have none : withKey key (first :: rest) low = [] := by
        rw [withKey, List.filter_eq_nil_iff]
        intro entry member
        have := beyond entry member
        simp only [decide_eq_true_eq]
        omega
      have all : (first :: rest).filter (fun entry => low + 1 ≤ key entry) = first :: rest := by
        rw [List.filter_eq_self]
        intro entry member
        simpa using beyond entry member
      rw [none, all, List.nil_append]

theorem range_cons (less : low < high) : Int.range low high = low :: Int.range (low + 1) high := by
  have size : (high - low).toNat = (high - (low + 1)).toNat + 1 := by omega
  unfold Int.range
  rw [size, List.range_succ_eq_map, List.map_cons, List.map_map]
  congr 1
  · exact Int.add_zero low
  · apply List.map_congr_left
    intro turn _
    show low + ((turn + 1 : Nat) : Int) = low + 1 + (turn : Int)
    omega

theorem range_nil (empty : high ≤ low) : Int.range low high = [] := by
  have size : (high - low).toNat = 0 := by omega
  unfold Int.range
  rw [size]
  rfl

theorem flatMap_withKey_of_sorted (sorted : listed.Pairwise (fun first second => key first ≤ key second))
    (inside : ∀ entry ∈ listed, low ≤ key entry ∧ key entry < high) :
    (Int.range low high).flatMap (withKey key listed) = listed := by
  obtain ⟨size, fits⟩ : ∃ size : Nat, (high - low).toNat = size := ⟨_, rfl⟩
  induction size generalizing low listed with
  | zero =>
    cases listed with
    | nil => simp [withKey]
    | cons first rest =>
      have := inside first List.mem_cons_self
      omega
  | succ size ih =>
    rw [range_cons (by omega), List.flatMap_cons]
    have rest := ih (sorted.filter (fun entry => low + 1 ≤ key entry)) (by
      intro entry member
      simp only [List.mem_filter, decide_eq_true_eq] at member
      exact ⟨member.2, (inside entry member.1).2⟩) (by omega)
    have same : (Int.range (low + 1) high).flatMap (withKey key listed) =
        (Int.range (low + 1) high).flatMap (withKey key (listed.filter (fun entry => low + 1 ≤ key entry))) := by
      apply List.flatMap_congr
      intro value member
      have bound := (Int.mem_range_iff.mp member).1
      rw [withKey, withKey, List.filter_filter]
      apply List.filter_congr
      intro entry _
      by_cases here : key entry = value
      · simp [here, bound]
      · simp [here]
    rw [same, rest]
    exact withKey_append_rest sorted (fun entry member => (inside entry member).1)

theorem flatMap_withKey (inside : ∀ entry ∈ listed, low ≤ key entry ∧ key entry < high) :
    (Int.range low high).flatMap (withKey key listed) = listed.mergeSort (byKey key) := by
  have sorted : (listed.mergeSort (byKey key)).Pairwise (fun first second => key first ≤ key second) :=
    (List.pairwise_mergeSort byKey_trans byKey_total listed).imp (fun ordered => by simpa [byKey] using ordered)
  have same : withKey key (listed.mergeSort (byKey key)) = withKey key listed :=
    funext (withKey_mergeSort listed)
  rw [← flatMap_withKey_of_sorted sorted (fun entry member => inside entry (List.mem_mergeSort.mp member)), same]

theorem mergeSort_of_mono {τ : Type*} [Preorder τ] {time : α → τ} {bucket : τ → Int} (monotone : Monotone bucket)
    (sorted : listed.Pairwise (fun first second => time first ≤ time second)) :
    listed.mergeSort (byKey (bucket ∘ time)) = listed := by
  apply List.mergeSort_of_pairwise
  exact sorted.imp (fun ordered => by simpa [byKey] using monotone ordered)

end EventGateway.Lib.StableSort
