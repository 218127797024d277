import EventGateway.Lib.Assignment
import Mathlib.Data.Finmap
import Mathlib.Data.Finset.Card

/-! Maps with finitely many keys: one key changes at a time, a map whose values are the places of a list, and
loops over the entries of a map, which come in no particular order. -/

namespace EventGateway.Lib.FiniteMap
variable {α β κ : Type*} [DecidableEq α] (entries : Finmap (fun _ : α => β)) (key other : α)

theorem lookup_insert (value : β) :
    (entries.insert key value).lookup other = if other = key then some value else entries.lookup other := by
  split
  next same => rw [same, Finmap.lookup_insert]
  next apart => exact Finmap.lookup_insert_of_ne entries apart

theorem lookup_erase : (entries.erase key).lookup other = if other = key then none else entries.lookup other := by
  split
  next same => rw [same, Finmap.lookup_erase]
  next apart => exact Finmap.lookup_erase_ne apart

theorem exists_lookup_bind {γ : Type*} (image : β → Option γ) :
    ∃ images : Finmap (fun _ : α => γ), ∀ key, images.lookup key = (entries.lookup key).bind image := by
  have some_keys (keys : Finset α) : ∃ images : Finmap (fun _ : α => γ), ∀ key,
      images.lookup key = if key ∈ keys then (entries.lookup key).bind image else none := by
    induction keys using Finset.induction_on with
    | empty => exact ⟨∅, fun _ => rfl⟩
    | insert first keys new ih =>
      obtain ⟨images, found⟩ := ih
      cases taken : (entries.lookup first).bind image with
      | none =>
        refine ⟨images, fun key => ?_⟩
        rw [found]
        by_cases same : key = first
        · subst same
          rw [if_neg new, if_pos (Finset.mem_insert_self _ _), taken]
        · simp only [Finset.mem_insert, same, false_or]
      | some value =>
        refine ⟨images.insert first value, fun key => ?_⟩
        rw [lookup_insert, found]
        by_cases same : key = first
        · subst same
          rw [if_pos rfl, if_pos (Finset.mem_insert_self _ _), taken]
        · simp only [Finset.mem_insert, same, false_or, if_false]
  obtain ⟨images, found⟩ := some_keys entries.keys
  refine ⟨images, fun key => ?_⟩
  rw [found]
  split
  next => rfl
  next missing =>
    rw [Finmap.mem_keys, ← Finmap.lookup_eq_none] at missing
    rw [missing, Option.bind_none]

/-- A map from the names of the chosen items of a list to their places has one key for each of them. -/
theorem card_keys_eq_countP {places : Finmap (fun _ : α => Nat)} {items : List κ} {name : κ → α} {chosen : κ → Bool}
    (owner : ∀ key place, places.lookup key = some place → ∃ item, items[place]? = some item ∧ name item = key)
    (listed : ∀ (place : Nat) (item : κ), items[place]? = some item →
      (places.lookup (name item) = some place ↔ chosen item = true)) :
    places.keys.card = items.countP chosen := by
  have names : places.keys = ((items.filter chosen).map name).toFinset := by
    ext key
    simp only [Finmap.mem_keys, List.mem_toFinset, List.mem_map, List.mem_filter]
    constructor
    · intro member
      obtain ⟨place, found⟩ := Finmap.mem_iff.mp member
      obtain ⟨item, there, rfl⟩ := owner key place found
      exact ⟨item, ⟨List.mem_of_getElem? there, (listed place item there).mp found⟩, rfl⟩
    · rintro ⟨item, ⟨member, picked⟩, rfl⟩
      obtain ⟨place, there⟩ := List.mem_iff_getElem?.mp member
      exact Finmap.mem_of_lookup_eq_some ((listed place item there).mpr picked)
  have apart : ((items.filter chosen).map name).Nodup := by
    rw [List.Nodup, List.pairwise_map, List.pairwise_filter, List.pairwise_iff_getElem]
    intro first second inside inside' before picked picked' same
    have found := (listed first _ (List.getElem?_eq_getElem inside)).mpr picked
    have found' := (listed second _ (List.getElem?_eq_getElem inside')).mpr picked'
    rw [same, found', Option.some.injEq] at found
    omega
  rw [names, List.toFinset_card_of_nodup apart, List.length_map, List.countP_eq_length_filter]

structure RangeOrder (α β : Type*) [DecidableEq α] where
  entries : Finmap (fun _ : α => β) → List (α × β)
  mem_entries : ∀ map key value, (key, value) ∈ entries map ↔ map.lookup key = some value

noncomputable def RangeOrder.any : RangeOrder α β where
  entries := fun map => map.entries.toList.map (fun entry => (entry.1, entry.2))
  mem_entries := by
    intro map key value
    rw [Finmap.lookup_eq_some_iff, List.mem_map]
    constructor
    · rintro ⟨⟨first, second⟩, visited, same⟩
      cases same
      exact Multiset.mem_toList.mp visited
    · exact fun known => ⟨⟨key, value⟩, Multiset.mem_toList.mpr known, rfl⟩

/-- A loop that sets the visited entries merges the map into another one, in whatever order. -/
theorem foldl_insert_entries (order : RangeOrder α β) (map base : Finmap (fun _ : α => β)) :
    (order.entries map).foldl (fun merged entry => merged.insert entry.1 entry.2) base = map ∪ base := by
  apply Finmap.ext_lookup
  intro key
  let assigns : α × β → Option (Option β) := fun entry => if key = entry.1 then some (some entry.2) else none
  have set (merged : Finmap (fun _ : α => β)) (entry : α × β) :
      (merged.insert entry.1 entry.2).lookup key = (assigns entry).getD (merged.lookup key) := by
    rw [lookup_insert]
    dsimp only [assigns]
    split <;> rfl
  have last := observe_foldl _ (fun merged : Finmap (fun _ : α => β) => merged.lookup key) set
    (order.entries map) base
  rw [last]
  cases found : lastAssigned assigns (order.entries map) with
  | none =>
    have missing : map.lookup key = none := by
      rw [Option.eq_none_iff_forall_not_mem]
      intro value known
      have passed := lastAssigned_eq_none.mp found (key, value) ((order.mem_entries map key value).mpr known)
      simp [assigns] at passed
    rw [Finmap.lookup_union_right (Finmap.lookup_eq_none.mp missing)]
    rfl
  | some assigned =>
    obtain ⟨before, entry, after, split, assigned_eq, -⟩ := lastAssigned_eq_some.mp found
    have visited : entry ∈ order.entries map := by simp [split]
    have known := (order.mem_entries map entry.1 entry.2).mp visited
    by_cases own : key = entry.1
    · simp only [assigns, if_pos own, Option.some.injEq] at assigned_eq
      rw [← own] at known
      rw [Finmap.lookup_union_left (Finmap.mem_of_lookup_eq_some known), known, ← assigned_eq]
      rfl
    · simp [assigns, own] at assigned_eq

end EventGateway.Lib.FiniteMap
