import Mathlib.Data.List.Basic
import Mathlib.Order.Lattice

/-! Finite maps as lists of entries with increasing keys: the order in which
a map with ordered keys is written out. -/

namespace EventGateway.Lib

@[ext]
structure SortedMap (κ α : Type*) [LinearOrder κ] where
  entries : List (κ × α)
  sorted : entries.Pairwise (fun first second => first.1 < second.1)

namespace SortedMap
variable {κ α : Type*} [LinearOrder κ]

def insertEntry (key : κ) (value : α) : List (κ × α) → List (κ × α)
  | [] => [(key, value)]
  | entry :: rest =>
      if key < entry.1 then (key, value) :: entry :: rest
      else if key = entry.1 then (key, value) :: rest
      else entry :: insertEntry key value rest

theorem mem_insertEntry {key : κ} {value : α} {entries : List (κ × α)} {entry : κ × α}
    (member : entry ∈ insertEntry key value entries) : entry = (key, value) ∨ entry ∈ entries := by
  induction entries with
  | nil => exact .inl (List.mem_singleton.mp member)
  | cons first rest ih =>
    unfold insertEntry at member
    split at member
    next => exact List.mem_cons.mp member
    next =>
      split at member
      next => exact (List.mem_cons.mp member).imp_right (List.mem_cons_of_mem first)
      next =>
        rcases List.mem_cons.mp member with rfl | later
        · exact .inr List.mem_cons_self
        · exact (ih later).imp_right (List.mem_cons_of_mem first)

theorem sorted_insertEntry (key : κ) (value : α) {entries : List (κ × α)}
    (sorted : entries.Pairwise (fun first second => first.1 < second.1)) :
    (insertEntry key value entries).Pairwise (fun first second => first.1 < second.1) := by
  induction entries with
  | nil => exact List.pairwise_singleton _ _
  | cons first rest ih =>
    obtain ⟨before, tail⟩ := List.pairwise_cons.mp sorted
    unfold insertEntry
    split
    next less =>
      refine List.pairwise_cons.mpr ⟨fun entry member => ?_, sorted⟩
      rcases List.mem_cons.mp member with rfl | later
      · exact less
      · exact less.trans (before entry later)
    next notLess =>
      split
      next same => exact List.pairwise_cons.mpr ⟨fun entry member => same ▸ before entry member, tail⟩
      next other =>
        refine List.pairwise_cons.mpr ⟨fun entry member => ?_, ih tail⟩
        rcases mem_insertEntry member with rfl | later
        · exact lt_of_le_of_ne (not_lt.mp notLess) (Ne.symm other)
        · exact before entry later

def empty : SortedMap κ α := ⟨[], .nil⟩

def insert (map : SortedMap κ α) (key : κ) (value : α) : SortedMap κ α :=
  ⟨insertEntry key value map.entries, sorted_insertEntry key value map.sorted⟩

def lookup (map : SortedMap κ α) (key : κ) : Option α :=
  (map.entries.find? (fun entry => entry.1 = key)).map Prod.snd

def ofList (entries : List (κ × α)) : SortedMap κ α :=
  entries.foldl (fun map entry => map.insert entry.1 entry.2) empty

variable {map : SortedMap κ α} {key other : κ} {value : α}

theorem find?_insertEntry (key : κ) (value : α) (entries : List (κ × α)) (other : κ) :
    (insertEntry key value entries).find? (fun entry => entry.1 = other) =
      if other = key then some (key, value) else entries.find? (fun entry => entry.1 = other) := by
  induction entries with
  | nil =>
    by_cases same : other = key
    · simp [insertEntry, same]
    · simp [insertEntry, same, Ne.symm same]
  | cons first rest ih =>
    unfold insertEntry
    split
    next =>
      by_cases same : other = key
      · simp [same]
      · simp [same, Ne.symm same]
    next =>
      split
      next replaced =>
        by_cases same : other = key
        · simp [same]
        · have apart : first.1 ≠ other := fun here => same (here.symm.trans replaced.symm)
          simp [same, Ne.symm same, apart]
      next kept =>
        by_cases here : first.1 = other
        · have apart : other ≠ key := fun same => kept (same.symm.trans here.symm)
          simp [here, apart]
        · simp only [List.find?_cons, here, decide_false, ih]

theorem lookup_insert (map : SortedMap κ α) (key : κ) (value : α) (other : κ) :
    (map.insert key value).lookup other = if other = key then some value else map.lookup other := by
  simp only [lookup, insert, find?_insertEntry]
  split
  next => rfl
  next => rfl

theorem mem_of_lookup (found : map.lookup key = some value) : (key, value) ∈ map.entries := by
  obtain ⟨entry, here, rfl⟩ := Option.map_eq_some_iff.mp found
  have same : entry.1 = key := by simpa using List.find?_some here
  exact same ▸ List.mem_of_find?_eq_some here

theorem split_of_lookup (found : map.lookup key = some value) :
    ∃ before after, map.entries = before ++ (key, value) :: after ∧
      (∀ entry ∈ before, entry.1 < key) ∧ ∀ entry ∈ after, key < entry.1 := by
  obtain ⟨before, after, split⟩ := List.append_of_mem (mem_of_lookup found)
  have sorted := map.sorted
  rw [split, List.pairwise_append] at sorted
  refine ⟨before, after, split, fun entry member => ?_, (List.pairwise_cons.mp sorted.2.1).1⟩
  exact sorted.2.2 entry member _ List.mem_cons_self

theorem mem_foldl_insert {entry : κ × α} (rest : List (κ × α)) {map : SortedMap κ α}
    (member : entry ∈ (rest.foldl (fun map entry => map.insert entry.1 entry.2) map).entries) :
    entry ∈ map.entries ∨ entry ∈ rest := by
  induction rest generalizing map with
  | nil => exact .inl member
  | cons first rest ih =>
    rcases ih member with here | later
    · rcases mem_insertEntry here with rfl | before
      · exact .inr List.mem_cons_self
      · exact .inl before
    · exact .inr (List.mem_cons_of_mem first later)

theorem mem_ofList {entries : List (κ × α)} {entry : κ × α} (member : entry ∈ (ofList entries).entries) :
    entry ∈ entries :=
  (mem_foldl_insert entries member).resolve_left List.not_mem_nil

theorem foldl_insert {β : Type*} {f : β → κ × α → β} (ignored : ∀ acc value, f acc (key, value) = acc)
    (map : SortedMap κ α) (value : α) (acc : β) :
    (map.insert key value).entries.foldl f acc = map.entries.foldl f acc := by
  show (insertEntry key value map.entries).foldl f acc = map.entries.foldl f acc
  generalize map.entries = entries
  induction entries generalizing acc with
  | nil => exact ignored acc value
  | cons first rest ih =>
    unfold insertEntry
    split
    next => rw [List.foldl_cons, ignored]
    next =>
      split
      next same =>
        obtain ⟨_, here⟩ := first
        cases same
        rw [List.foldl_cons, List.foldl_cons, ignored, ignored]
      next => rw [List.foldl_cons, List.foldl_cons, ih]

theorem insertEntry_last {entries : List (κ × α)} (greatest : ∀ entry ∈ entries, entry.1 < key) :
    insertEntry key value entries = entries ++ [(key, value)] := by
  induction entries with
  | nil => rfl
  | cons first rest ih =>
    have less := greatest first List.mem_cons_self
    rw [insertEntry, if_neg (not_lt.mpr less.le), if_neg less.ne', List.cons_append,
      ih (fun entry member => greatest entry (List.mem_cons_of_mem first member))]

theorem foldl_insert_sorted (rest : List (κ × α)) (map : SortedMap κ α)
    (sorted : (map.entries ++ rest).Pairwise (fun first second => first.1 < second.1)) :
    (rest.foldl (fun map entry => map.insert entry.1 entry.2) map).entries = map.entries ++ rest := by
  induction rest generalizing map with
  | nil => exact (List.append_nil _).symm
  | cons first rest ih =>
    have greatest : ∀ entry ∈ map.entries, entry.1 < first.1 := fun entry member =>
      (List.pairwise_append.mp sorted).2.2 entry member first List.mem_cons_self
    have grown : (map.insert first.1 first.2).entries = map.entries ++ [first] := insertEntry_last greatest
    rw [List.append_cons, ← grown] at sorted
    rw [List.foldl_cons, ih _ sorted, grown, List.append_assoc]
    rfl

theorem ofList_entries (map : SortedMap κ α) : ofList map.entries = map :=
  SortedMap.ext (foldl_insert_sorted map.entries empty map.sorted)

end SortedMap
end EventGateway.Lib
