import Mathlib.Data.List.Basic
import Mathlib.Algebra.Order.Group.Nat

/-! Cutting a list into pages of one size. -/

namespace EventGateway.Lib.Pages
variable {α : Type*} {size index : Nat} {listed : List α}

def page (size : Nat) (listed : List α) (index : Nat) : List α := (listed.drop (index * size)).take size

def pageCount (size length : Nat) : Nat := (length + size - 1) / size

theorem lt_pageCount (positive : 0 < size) {length : Nat} : index < pageCount size length ↔ index * size < length := by
  unfold pageCount
  rw [Nat.lt_iff_add_one_le, Nat.le_div_iff_mul_le positive, Nat.add_one_mul]
  omega

theorem flatMap_page_range (size : Nat) (listed : List α) (count : Nat) :
    (List.range count).flatMap (page size listed) = listed.take (count * size) := by
  induction count with
  | zero => simp
  | succ count ih =>
    rw [List.range_succ, List.flatMap_append, ih, List.flatMap_singleton, Nat.add_one_mul, List.take_add]
    rfl

theorem flatMap_page (positive : 0 < size) (listed : List α) :
    (List.range (pageCount size listed.length)).flatMap (page size listed) = listed := by
  rw [flatMap_page_range]
  apply List.take_of_length_le
  have past : ¬pageCount size listed.length < pageCount size listed.length := lt_irrefl _
  rw [lt_pageCount positive] at past
  omega

theorem length_page (positive : 0 < size) (before : index + 1 < pageCount size listed.length) :
    (page size listed index).length = size := by
  rw [lt_pageCount positive, Nat.add_one_mul] at before
  rw [page, List.length_take, List.length_drop]
  omega

theorem page_ne_nil (positive : 0 < size) (inside : index < pageCount size listed.length) :
    page size listed index ≠ [] := by
  rw [lt_pageCount positive] at inside
  apply List.ne_nil_of_length_pos
  rw [page, List.length_take, List.length_drop]
  omega

def pages (size : Nat) (listed : List α) : List (List α) :=
  (List.range (pageCount size listed.length)).map (page size listed)

theorem flatten_pages (positive : 0 < size) (listed : List α) : (pages size listed).flatten = listed := by
  rw [pages, ← List.flatMap_def]
  exact flatMap_page positive listed

theorem pages_nil (positive : 0 < size) : pages size ([] : List α) = [] := by
  have none : pageCount size 0 = 0 := Nat.div_eq_of_lt (by omega)
  rw [pages, List.length_nil, none, List.range_zero, List.map_nil]

theorem pages_short (nonempty : listed ≠ []) (short : listed.length ≤ size) : pages size listed = [listed] := by
  have positive : 0 < listed.length := List.length_pos_iff.mpr nonempty
  have one : pageCount size listed.length = 1 := by
    unfold pageCount
    rw [Nat.div_eq_iff (by omega)]
    omega
  rw [pages, one, List.range_one, List.map_singleton, page, Nat.zero_mul, List.drop_zero,
    List.take_of_length_le short]

theorem pages_append {block : List α} (positive : 0 < size) (full : block.length = size) (rest : List α) :
    pages size (block ++ rest) = block :: pages size rest := by
  have count : pageCount size (block ++ rest).length = pageCount size rest.length + 1 := by
    unfold pageCount
    rw [List.length_append, full, ← Nat.add_div_right _ positive]
    congr 1
    omega
  have later (index : Nat) : page size (block ++ rest) (index + 1) = page size rest index := by
    rw [page, Nat.add_one_mul, Nat.add_comm, ← full, List.drop_length_add_append, full, page]
  rw [pages, count, List.range_succ_eq_map, List.map_cons, List.map_map]
  congr 1
  · rw [page, Nat.zero_mul, List.drop_zero, ← full, List.take_left]
  · exact List.map_congr_left (fun index _ => later index)

def pageLengths (size length : Nat) : List Nat :=
  List.replicate (length / size) size ++ if length % size = 0 then [] else [length % size]

theorem map_length_pages (positive : 0 < size) (listed : List α) :
    (pages size listed).map List.length = pageLengths size listed.length := by
  induction total : listed.length using Nat.strong_induction_on generalizing listed with
  | _ length ih =>
    subst total
    by_cases short : listed.length < size
    · rw [pageLengths, Nat.div_eq_of_lt short, Nat.mod_eq_of_lt short, List.replicate_zero, List.nil_append]
      by_cases empty : listed = []
      · rw [empty, pages_nil positive, List.length_nil, if_pos rfl, List.map_nil]
      · rw [pages_short empty short.le, if_neg (mt List.length_eq_zero_iff.mp empty), List.map_singleton]
    · have full : (listed.take size).length = size := List.length_take_of_le (not_lt.mp short)
      have fewer : (listed.drop size).length = listed.length - size := List.length_drop
      have rest := ih (listed.drop size).length (by omega) (listed.drop size) rfl
      have cut : listed.length = (listed.drop size).length + size := by omega
      rw [cut, pageLengths, Nat.add_div_right _ positive, Nat.add_mod_right, List.replicate_succ, List.cons_append]
      nth_rewrite 1 [← List.take_append_drop size listed]
      rw [pages_append positive full, List.map_cons, full, rest, pageLengths]

theorem eq_pages {blocks : List (List α)} (positive : 0 < size)
    (lengths : blocks.map List.length = pageLengths size blocks.flatten.length) :
    blocks = pages size blocks.flatten := by
  rw [List.eq_iff_flatten_eq, flatten_pages positive, map_length_pages positive]
  exact ⟨rfl, lengths⟩

theorem getElem_pages (positive : 0 < size) (listed : List α) (position : Nat) :
    ((pages size listed)[position / size]?).bind (·[position % size]?) = listed[position]? := by
  have offset : position / size * size + position % size = position := Nat.div_add_mod' position size
  have below : position % size < size := Nat.mod_lt position positive
  by_cases inside : position / size < pageCount size listed.length
  · rw [pages, List.getElem?_map, List.getElem?_range inside, Option.map_some, Option.bind_some, page,
      List.getElem?_take_of_lt below, List.getElem?_drop, offset]
  · rw [pages, List.getElem?_map, List.getElem?_eq_none (by simpa using inside), Option.map_none, Option.bind_none,
      List.getElem?_eq_none]
    rw [lt_pageCount positive] at inside
    omega

theorem length_of_pages_append (positive : 0 < size) {before later : List (List α)} {next : List α}
    (split : pages size listed = before ++ next :: later) {block : List α} (member : block ∈ before) :
    block.length = size := by
  obtain ⟨index, inside, rfl⟩ := List.getElem_of_mem member
  have total : (pages size listed).length = pageCount size listed.length := by
    rw [pages, List.length_map, List.length_range]
  have within : index + 1 < pageCount size listed.length := by
    rw [← total, split, List.length_append, List.length_cons]
    omega
  have found : (pages size listed)[index]? = some before[index] := by
    rw [split, List.getElem?_append_left inside, List.getElem?_eq_getElem inside]
  rw [pages, List.getElem?_map, List.getElem?_range (by omega), Option.map_some, Option.some.injEq] at found
  rw [← found]
  exact length_page positive within

end EventGateway.Lib.Pages
