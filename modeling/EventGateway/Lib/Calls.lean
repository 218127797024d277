import Mathlib.Algebra.GroupWithZero.Nat
import Mathlib.Data.List.Basic

/-! Calls in progress, kept in a list in the order in which they began. A call is
named by its index: one call moves by `List.set`, a new one is appended. -/

namespace EventGateway.Lib.Calls
variable {κ : Type*} {calls : List κ} {index other : Nat} {call next : κ}

theorem getElem?_set_of_found (found : calls[index]? = some call) (other : Nat) :
    (calls.set index next)[other]? = if other = index then some next else calls[other]? := by
  have bound : index < calls.length := (List.getElem?_eq_some_iff.mp found).1
  simp only [List.getElem?_set, bound, if_true, eq_comm]

theorem set_of_found (found : calls[index]? = some call) : calls.set index call = calls := by
  obtain ⟨inside, rfl⟩ := List.getElem?_eq_some_iff.mp found
  exact List.set_getElem_self inside

theorem found_set (found : calls[index]? = some call) {after : κ}
    (there : (calls.set index next)[other]? = some after) :
    other = index ∧ after = next ∨ other ≠ index ∧ calls[other]? = some after := by
  rw [getElem?_set_of_found found] at there
  split at there
  next here => exact .inl ⟨here, (Option.some.inj there).symm⟩
  next elsewhere => exact .inr ⟨elsewhere, there⟩

theorem found_append {after : κ} (there : (calls ++ [next])[other]? = some after) :
    other = calls.length ∧ after = next ∨ calls[other]? = some after := by
  by_cases old : other < calls.length
  · rw [List.getElem?_append_left old] at there
    exact .inr there
  · rw [List.getElem?_append_right (by omega)] at there
    obtain ⟨bound, same⟩ := List.getElem?_eq_some_iff.mp there
    simp only [List.length_singleton] at bound
    simp only [List.getElem_singleton] at same
    exact .inl ⟨by omega, same.symm⟩

theorem getElem?_append_of_found (found : calls[index]? = some call) :
    (calls ++ [next])[index]? = some call := by
  rw [List.getElem?_append_left (List.getElem?_eq_some_iff.mp found).1]
  exact found

theorem mem_set_of_ne (found : calls[index]? = some call) {kept : κ} (apart : kept ≠ call) (member : kept ∈ calls) :
    kept ∈ calls.set index next := by
  obtain ⟨place, there⟩ := List.mem_iff_getElem?.mp member
  have elsewhere : place ≠ index := by
    rintro rfl
    exact apart (Option.some.inj (there.symm.trans found))
  apply List.mem_of_getElem? (i := place)
  rw [getElem?_set_of_found found, if_neg elsewhere]
  exact there

/-- A call that is there after one has moved is that one, or it is at another place. -/
theorem elsewhere_of_mem_set (found : calls[index]? = some call) {kept : κ} (member : kept ∈ calls.set index next) :
    kept = next ∨ ∃ other, other ≠ index ∧ calls[other]? = some kept := by
  obtain ⟨place, there⟩ := List.mem_iff_getElem?.mp member
  rcases found_set found there with ⟨-, moved⟩ | ⟨apart, before⟩
  · exact .inl moved
  · exact .inr ⟨place, apart, before⟩

/-- What is owed by some call is still owed by one after a step of one call, if that one did not pay. -/
theorem owed_set {due dueAfter : Prop} {owes : κ → Prop} (owed : due → ∃ debtor ∈ calls, owes debtor)
    (found : calls[index]? = some call) (kept : dueAfter → owes next ∨ due ∧ (owes call → owes next)) :
    dueAfter → ∃ debtor ∈ calls.set index next, owes debtor := by
  intro late
  have bound : index < calls.length := (List.getElem?_eq_some_iff.mp found).1
  rcases kept late with owing | ⟨before, same⟩
  · exact ⟨next, List.mem_set bound next, owing⟩
  · obtain ⟨debtor, member, owing⟩ := owed before
    by_cases moved : debtor = call
    · exact ⟨next, List.mem_set bound next, same (moved ▸ owing)⟩
    · exact ⟨debtor, mem_set_of_ne found moved member, owing⟩

theorem owed_append {due dueAfter : Prop} {owes : κ → Prop} (owed : due → ∃ debtor ∈ calls, owes debtor)
    (kept : dueAfter → owes next ∨ due) : dueAfter → ∃ debtor ∈ calls ++ [next], owes debtor := by
  intro late
  rcases kept late with owing | before
  · exact ⟨next, List.mem_append_right _ List.mem_cons_self, owing⟩
  · obtain ⟨debtor, member, owing⟩ := owed before
    exact ⟨debtor, List.mem_append_left _ member, owing⟩

theorem map_set_of_found {β : Type*} {view : κ → β} (found : calls[index]? = some call) (kept : view next = view call) :
    (calls.set index next).map view = calls.map view := by
  apply List.ext_getElem?
  intro other
  rw [List.getElem?_map, List.getElem?_map, getElem?_set_of_found found]
  split
  next here => rw [here, found, Option.map_some, Option.map_some, kept]
  next => rfl

theorem countP_set_of_found {counts : κ → Bool} (found : calls[index]? = some call) :
    (calls.set index next).countP counts + (if counts call then 1 else 0) =
      calls.countP counts + if counts next then 1 else 0 := by
  obtain ⟨bound, here⟩ := List.getElem?_eq_some_iff.mp found
  have once : (if counts call then 1 else 0) ≤ calls.countP counts := by
    split
    next counted => exact List.countP_pos_iff.mpr ⟨call, List.mem_of_getElem? found, counted⟩
    next => exact Nat.zero_le _
  rw [List.countP_set bound, here]
  omega

theorem countP_set_of_kept {counts : κ → Bool} (found : calls[index]? = some call) (kept : counts next = counts call) :
    (calls.set index next).countP counts = calls.countP counts := by
  have moved := @countP_set_of_found _ _ _ _ next counts found
  rw [kept] at moved
  exact Nat.add_right_cancel moved

theorem filter_set_of_found {selects : κ → Bool} (found : calls[index]? = some call) : ∃ before after,
    calls.filter selects = before ++ [call].filter selects ++ after ∧
      (calls.set index next).filter selects = before ++ [next].filter selects ++ after := by
  obtain ⟨bound, here⟩ := List.getElem?_eq_some_iff.mp found
  refine ⟨(calls.take index).filter selects, (calls.drop (index + 1)).filter selects, ?_, ?_⟩
  · have split : calls = calls.take index ++ [call] ++ calls.drop (index + 1) := by
      rw [← here, List.append_assoc, List.singleton_append, List.getElem_cons_drop, List.take_append_drop]
    rw [← List.filter_append, ← List.filter_append, ← split]
  · rw [List.set_eq_take_append_cons_drop, if_pos bound, ← List.filter_append, ← List.filter_append, List.append_assoc,
      List.singleton_append]

theorem sum_map_set_of_found {weight : κ → Nat} (found : calls[index]? = some call) :
    ((calls.set index next).map weight).sum + weight call = (calls.map weight).sum + weight next := by
  induction calls generalizing index with
  | nil => cases found
  | cons first rest ih =>
    cases index with
    | zero =>
      cases found
      simp only [List.set_cons_zero, List.map_cons, List.sum_cons]
      omega
    | succ index =>
      have moved := ih found
      simp only [List.set_cons_succ, List.map_cons, List.sum_cons]
      omega

theorem countP_eq_one_iff {counts : κ → Bool} : calls.countP counts = 1 ↔
    ∃ (index : Nat) (call : κ), calls[index]? = some call ∧ counts call = true ∧
      ∀ (other : Nat) (another : κ), other ≠ index → calls[other]? = some another → counts another = false := by
  induction calls with
  | nil => simp
  | cons first rest ih =>
    by_cases here : counts first = true
    · rw [List.countP_cons_of_pos here]
      constructor
      · intro once
        have none : rest.countP counts = 0 := by omega
        refine ⟨0, first, rfl, here, fun other another apart there => ?_⟩
        obtain ⟨later, rfl⟩ := Nat.exists_eq_succ_of_ne_zero apart
        exact Bool.not_eq_true _ ▸ List.countP_eq_zero.mp none another (List.mem_of_getElem? there)
      · rintro ⟨index, call, there, counted, others⟩
        have zero : index = 0 := by
          by_contra apart
          rw [others 0 first (Ne.symm apart) rfl] at here
          cases here
        have none : rest.countP counts = 0 := by
          rw [List.countP_eq_zero]
          intro another member
          obtain ⟨place, found⟩ := List.mem_iff_getElem?.mp member
          rw [others (place + 1) another (by omega) found]
          decide
        rw [none]
    · rw [List.countP_cons_of_neg here, ih]
      constructor
      · rintro ⟨index, call, there, counted, others⟩
        refine ⟨index + 1, call, there, counted, fun other another apart found => ?_⟩
        cases other with
        | zero =>
          cases found
          exact Bool.not_eq_true _ ▸ here
        | succ other => exact others other another (by omega) found
      · rintro ⟨index, call, there, counted, others⟩
        cases index with
        | zero =>
          cases there
          exact absurd counted here
        | succ index => exact ⟨index, call, there, counted, fun other another apart found =>
            others (other + 1) another (by omega) found⟩

theorem index_unique (apart : calls.Nodup) (one : calls[index]? = some call) (two : calls[other]? = some call) :
    index = other :=
  (List.getElem?_inj (List.getElem?_eq_some_iff.mp one).1 apart).mp (one.trans two.symm)

end EventGateway.Lib.Calls
