import EventGateway.Lib.Pages
import EventGateway.Lib.Panic
import EventGateway.Replay.Store

/-! `QueryWithPagination` on integers of 64 bits. A page is cut out of the whole result by
slice bounds that are a product and a sum of the caller's numbers. The pages of a result are
safe to ask for; past the end the product may wrap to an index inside it or below it. -/

namespace EventGateway.Replay
open Lib Lib.Pages InMemoryEventStore

/-- `events[low:high]`, which panics if the bounds are out of order or outside. -/
def slice (events : List Event) (low high : Int64) : Option (List Event) :=
  if 0 ≤ low.toInt ∧ low.toInt ≤ high.toInt ∧ high.toInt ≤ events.length then
    some ((events.drop low.toInt.toNat).take (high.toInt - low.toInt).toNat)
  else none

def startIndex (pageSize pageNumber : Int64) : Int64 := (pageNumber - 1) * pageSize

def endIndex (pageSize pageNumber : Int64) : Int64 := startIndex pageSize pageNumber + pageSize

def paginate (events : List Event) (pageSize pageNumber : Int64) : Outcome (List Event × Int64) :=
  let totalCount := Int64.ofNat events.length
  let startIdx := startIndex pageSize pageNumber
  if totalCount ≤ startIdx then .returned (.ok ([], totalCount))
  else
    let endIdx := if totalCount < endIndex pageSize pageNumber then totalCount else endIndex pageSize pageNumber
    match slice events startIdx endIdx with
    | some page => .returned (.ok (page, totalCount))
    | none => .panicked

def InMemoryEventStore.queryWithPagination (ies : InMemoryEventStore) (startTime endTime : Time)
    (filter : Option (Event → Bool)) (pageSize pageNumber : Int64) : Outcome (List Event × Int64) :=
  if pageSize < 1 then .returned (.error "page size must be at least 1")
  else if pageNumber < 1 then .returned (.error "page number must be at least 1")
  else match ies.queryByTime startTime endTime filter with
    | .error err => .returned (.error err)
    | .ok allEvents => paginate allEvents pageSize pageNumber

section Call
variable (ies : InMemoryEventStore) {startTime endTime : Time} {filter : Option (Event → Bool)}
  {pageSize pageNumber : Int64}

theorem queryWithPagination_error (large : 1 ≤ pageSize) (counted : 1 ≤ pageNumber) {err : String}
    (answered : ies.queryByTime startTime endTime filter = .error err) :
    ies.queryWithPagination startTime endTime filter pageSize pageNumber = .returned (.error err) := by
  rw [queryWithPagination, if_neg (Int64.not_lt.mpr large), if_neg (Int64.not_lt.mpr counted), answered]

theorem queryWithPagination_ok (large : 1 ≤ pageSize) (counted : 1 ≤ pageNumber) {events : List Event}
    (answered : ies.queryByTime startTime endTime filter = .ok events) :
    ies.queryWithPagination startTime endTime filter pageSize pageNumber = paginate events pageSize pageNumber := by
  rw [queryWithPagination, if_neg (Int64.not_lt.mpr large), if_neg (Int64.not_lt.mpr counted), answered]

end Call

def Addressable (events : List Event) : Prop := 8 * events.length ≤ 2 ^ 63

instance (events : List Event) : Decidable (Addressable events) := inferInstanceAs (Decidable (_ ≤ _))

section Page
variable {events : List Event} {pageSize : Int64} {size index : Nat}

/-- The lower bound of a page that begins inside the result is computed without overflow. -/
theorem toInt_startIndex (sized : pageSize.toInt = size) (positive : 0 < size) (fits : Addressable events)
    (inside : index * size < events.length) :
    (startIndex pageSize (Int64.ofNat (index + 1))).toInt = (index * size : Nat) := by
  unfold Addressable at fits
  have small : index ≤ index * size := Nat.le_mul_of_pos_right index positive
  have one : (1 : Int64).toInt = 1 := rfl
  have number : (Int64.ofNat (index + 1)).toInt = (index + 1 : Nat) := Int64.toInt_ofNat_of_lt (by omega)
  have before : (Int64.ofNat (index + 1) - 1).toInt = (index : Int) := by
    have back : ((index + 1 : Nat) : Int) - 1 = index := by omega
    rw [Int64.toInt_sub, number, one, back]
    exact Int.bmod_eq_of_le (by omega) (by omega)
  rw [startIndex, Int64.toInt_mul, before, sized, ← Int.natCast_mul]
  exact Int.bmod_eq_of_le (by omega) (by omega)

theorem toInt_endIndex (sized : pageSize.toInt = size) (positive : 0 < size) (fits : Addressable events)
    (inside : index * size < events.length) :
    (endIndex pageSize (Int64.ofNat (index + 1))).toInt = (index * size + size : Nat) := by
  have bound : size < 2 ^ 63 := by
    have := pageSize.toInt_lt
    omega
  have start := toInt_startIndex sized positive fits inside
  unfold Addressable at fits
  rw [endIndex, Int64.toInt_add, start, sized, ← Int.natCast_add]
  cases index with
  | zero => exact Int.bmod_eq_of_le (by omega) (by omega)
  | succ index =>
    have first : size ≤ (index + 1) * size := Nat.le_mul_of_pos_left size (Nat.succ_pos index)
    exact Int.bmod_eq_of_le (by omega) (by omega)

theorem slice_page (inside : index * size < events.length) {low high : Int64}
    (lower : low.toInt = (index * size : Nat))
    (upper : high.toInt = (min events.length (index * size + size) : Nat)) :
    slice events low high = some (page size events index) := by
  have ordered : 0 ≤ low.toInt ∧ low.toInt ≤ high.toInt ∧ high.toInt ≤ events.length := by omega
  have width : (high.toInt - low.toInt).toNat = min size (events.length - index * size) := by omega
  rw [slice, if_pos ordered, width, lower, Int.toNat_natCast, page]
  congr 1
  rw [List.take_eq_take_iff, List.length_drop]
  omega

theorem paginate_page (sized : pageSize.toInt = size) (positive : 0 < size) (fits : Addressable events)
    (inside : index * size < events.length) :
    paginate events pageSize (Int64.ofNat (index + 1)) =
      .returned (.ok (page size events index, Int64.ofNat events.length)) := by
  have start := toInt_startIndex sized positive fits inside
  have stop := toInt_endIndex sized positive fits inside
  unfold Addressable at fits
  have total : (Int64.ofNat events.length).toInt = events.length := Int64.toInt_ofNat_of_lt (by omega)
  have begun : ¬Int64.ofNat events.length ≤ startIndex pageSize (Int64.ofNat (index + 1)) := by
    rw [Int64.le_iff_toInt_le, total, start]
    omega
  have clipped : (if Int64.ofNat events.length < endIndex pageSize (Int64.ofNat (index + 1))
      then Int64.ofNat events.length else endIndex pageSize (Int64.ofNat (index + 1))).toInt =
        (min events.length (index * size + size) : Nat) := by
    split
    next past =>
      rw [Int64.lt_iff_toInt_lt] at past
      omega
    next whole =>
      rw [Int64.lt_iff_toInt_lt] at whole
      omega
  simp only [paginate, if_neg begun, slice_page inside start clipped]

end Page

/-- The pages of a result, for any page size: together they are the result, all but the last are full and the last
is not empty, each call reports the number of events, and no bound overflows. -/
theorem pages_partition (ies : InMemoryEventStore) (startTime endTime : Time) (filter : Option (Event → Bool))
    (pageSize : Int64) (size : Nat) (sized : pageSize.toInt = size) (positive : 1 ≤ size) (events : List Event)
    (answered : ies.queryByTime startTime endTime filter = .ok events) (fits : Addressable events) :
    let count := pageCount size events.length
    let pageNumber : Nat → Int64 := fun index => Int64.ofNat (index + 1)
    ∃ pages : Nat → List Event,
      (∀ index < count, ∃ total : Int64, total.toInt = events.length ∧
        ies.queryWithPagination startTime endTime filter pageSize (pageNumber index) =
          .returned (.ok (pages index, total))) ∧
      (List.range count).flatMap pages = events ∧
      (∀ index, index + 1 < count → (pages index).length = size) ∧
      (∀ index, index + 1 = count → pages index ≠ []) ∧
      (∀ index < count, (pageNumber index).toInt = index + 1 ∧
        (startIndex pageSize (pageNumber index)).toInt = index * size ∧
        (endIndex pageSize (pageNumber index)).toInt = index * size + size) := by
  intro count pageNumber
  have begins {index : Nat} (known : index < count) : index * size < events.length := (lt_pageCount positive).mp known
  have bound : events.length < 2 ^ 63 := by
    unfold Addressable at fits
    omega
  have number {index : Nat} (known : index < count) : (pageNumber index).toInt = index + 1 := by
    have := begins known
    have small : index ≤ index * size := Nat.le_mul_of_pos_right index positive
    exact Int64.toInt_ofNat_of_lt (by omega)
  refine ⟨page size events, ?_, flatMap_page positive events, ?_, ?_, ?_⟩
  · intro index known
    have large : 1 ≤ pageSize := by
      rw [Int64.le_iff_toInt_le, sized]
      exact Int.ofNat_le.mpr positive
    have counted : 1 ≤ pageNumber index := by
      rw [Int64.le_iff_toInt_le, number known]
      exact Int.le_add_of_nonneg_left (Int.natCast_nonneg index)
    refine ⟨Int64.ofNat events.length, Int64.toInt_ofNat_of_lt bound, ?_⟩
    rw [queryWithPagination_ok ies large counted answered]
    exact paginate_page sized positive fits (begins known)
  · intro index before
    exact length_page positive before
  · intro index last
    have known : index < count := by omega
    exact page_ne_nil positive known
  · intro index known
    have start := toInt_startIndex sized positive fits (begins known)
    have stop := toInt_endIndex sized positive fits (begins known)
    rw [Int.natCast_mul] at start
    rw [Int.natCast_add, Int.natCast_mul] at stop
    exact ⟨number known, start, stop⟩

def threeStored : InMemoryEventStore :=
  (((newInMemoryEventStore 0 0).add (e1 1)).add (e2 2)).add (e3 3)

theorem pages_partition_three :
    threeStored.queryByTime 0 10 none = .ok [.sample "e1" 1, .sample "e2" 2, .sample "e3" 3] ∧
    ∃ pages : Nat → List Event, (List.range 2).flatMap pages = [.sample "e1" 1, .sample "e2" 2, .sample "e3" 3] ∧
      (pages 0).length = 2 ∧ pages 1 ≠ [] := by
  have answered : threeStored.queryByTime 0 10 none = .ok [.sample "e1" 1, .sample "e2" 2, .sample "e3" 3] := rfl
  obtain ⟨pages, -, whole, full, last, -⟩ :=
    pages_partition threeStored 0 10 none 2 2 rfl (by decide) _ answered (by decide)
  exact ⟨answered, pages, whole, full 0 (by decide), last 1 (by decide)⟩

section PastEnd
variable {events : List Event} {pageSize pageNumber : Int64}

def exactStart (pageSize pageNumber : Int64) : Int := (pageNumber.toInt - 1) * pageSize.toInt

/-- A call never slices out of range, and past the end of the result it returns an empty page and the number
of events. -/
structure SafePastEnd (ies : InMemoryEventStore) (startTime endTime : Time) (filter : Option (Event → Bool))
    (pageSize pageNumber : Int64) : Prop where
  inRange : ies.queryWithPagination startTime endTime filter pageSize pageNumber ≠ .panicked
  pastEnd : ∀ events, ies.queryByTime startTime endTime filter = .ok events →
    events.length ≤ exactStart pageSize pageNumber → ∃ total : Int64, total.toInt = events.length ∧
      ies.queryWithPagination startTime endTime filter pageSize pageNumber = .returned (.ok ([], total))

theorem startIndex_wraps (counted : 1 ≤ pageNumber) :
    (startIndex pageSize pageNumber).toInt = (exactStart pageSize pageNumber).bmod (2 ^ 64) := by
  have one : (1 : Int64).toInt = 1 := rfl
  have low := Int64.le_iff_toInt_le.mp counted
  have high := pageNumber.toInt_lt
  have before : (pageNumber - 1).toInt = pageNumber.toInt - 1 := by
    rw [Int64.toInt_sub, one]
    exact Int.bmod_eq_of_le (by omega) (by omega)
  rw [startIndex, Int64.toInt_mul, before, exactStart]

theorem paginate_past (past : Int64.ofNat events.length ≤ startIndex pageSize pageNumber) :
    paginate events pageSize pageNumber = .returned (.ok ([], Int64.ofNat events.length)) := by
  rw [paginate, if_pos past]

theorem paginate_inside (large : 1 ≤ pageSize) (counted : 1 ≤ pageNumber) (fits : Addressable events)
    (inside : exactStart pageSize pageNumber < events.length) :
    ∃ page, paginate events pageSize pageNumber = .returned (.ok (page, Int64.ofNat events.length)) := by
  have size := Int64.le_iff_toInt_le.mp large
  have number := Int64.le_iff_toInt_le.mp counted
  have one : (1 : Int64).toInt = 1 := rfl
  obtain ⟨size, sized⟩ := Int.eq_ofNat_of_zero_le (by omega : 0 ≤ pageSize.toInt)
  obtain ⟨index, indexed⟩ := Int.eq_ofNat_of_zero_le (by omega : 0 ≤ pageNumber.toInt - 1)
  have begins : index * size < events.length := by
    rw [exactStart, indexed, sized] at inside
    exact_mod_cast inside
  have same : pageNumber = Int64.ofNat (index + 1) := by
    have bound := pageNumber.toInt_lt
    apply Int64.toInt_inj.mp
    rw [Int64.toInt_ofNat_of_lt (by omega)]
    omega
  rw [same]
  exact ⟨_, paginate_page sized (by omega) fits begins⟩

/-- What is cut out from an index inside the result is empty only between equal bounds. -/
theorem slice_nil {low high : Int64} (inside : low.toInt < events.length) (cut : slice events low high = some []) :
    low.toInt = high.toInt := by
  unfold slice at cut
  split at cut
  next ordered =>
    have nothing := List.length_eq_zero_iff.mpr (Option.some.inj cut)
    rw [List.length_take, List.length_drop] at nothing
    omega
  next => cases cut

theorem paginate_wrapped (large : 1 ≤ pageSize) (total : (Int64.ofNat events.length).toInt = events.length)
    (wrapped : ¬Int64.ofNat events.length ≤ startIndex pageSize pageNumber) (count : Int64) :
    paginate events pageSize pageNumber ≠ .returned (.ok ([], count)) := by
  intro returned
  have inside : (startIndex pageSize pageNumber).toInt < events.length := by
    rw [Int64.le_iff_toInt_le, total] at wrapped
    exact not_le.mp wrapped
  have apart : (endIndex pageSize pageNumber).toInt ≠ (startIndex pageSize pageNumber).toInt := by
    have one : (1 : Int64).toInt = 1 := rfl
    have size := Int64.le_iff_toInt_le.mp large
    have bound := pageSize.toInt_lt
    have low := (startIndex pageSize pageNumber).le_toInt
    have high := (startIndex pageSize pageNumber).toInt_lt
    rw [endIndex, Int64.toInt_add, Int.bmod_def]
    omega
  simp only [paginate, if_neg wrapped] at returned
  split at returned
  next page cut =>
    cases returned
    have same := slice_nil inside cut
    split at same
    next => omega
    next => exact apart same.symm
  next => cases returned

end PastEnd

/-- A call is safe exactly if its page begins inside the result, over the integers, or the index at which it begins
is past the end also after it was wrapped to 64 bits. -/
theorem safePastEnd_iff (ies : InMemoryEventStore) (startTime endTime : Time) (filter : Option (Event → Bool))
    (pageSize pageNumber : Int64) (large : 1 ≤ pageSize) (counted : 1 ≤ pageNumber)
    (fits : ∀ events, ies.queryByTime startTime endTime filter = .ok events → Addressable events) :
    SafePastEnd ies startTime endTime filter pageSize pageNumber ↔
      ∀ events, ies.queryByTime startTime endTime filter = .ok events →
        exactStart pageSize pageNumber < events.length ∨
          events.length ≤ (exactStart pageSize pageNumber).bmod (2 ^ 64) := by
  cases answered : ies.queryByTime startTime endTime filter with
  | error err =>
    have returned := queryWithPagination_error ies large counted answered
    refine iff_of_true ⟨?_, fun events same => ?_⟩ nofun
    · rw [returned]
      nofun
    · cases answered.symm.trans same
  | ok events =>
    have call := queryWithPagination_ok ies large counted answered
    have fits := fits events answered
    have total : (Int64.ofNat events.length).toInt = events.length :=
      Int64.toInt_ofNat_of_lt (by unfold Addressable at fits; omega)
    have past : Int64.ofNat events.length ≤ startIndex pageSize pageNumber ↔
        events.length ≤ (exactStart pageSize pageNumber).bmod (2 ^ 64) := by
      rw [Int64.le_iff_toInt_le, total, startIndex_wraps counted]
    constructor
    · rintro safe _ ⟨⟩
      by_contra unsafely
      rw [not_or, not_lt] at unsafely
      obtain ⟨count, -, returned⟩ := safe.pastEnd events answered unsafely.1
      exact paginate_wrapped large total (past.not.mpr unsafely.2) count (call.symm.trans returned)
    · intro condition
      rcases condition events rfl with inside | outside
      · obtain ⟨page, returned⟩ := paginate_inside large counted fits inside
        refine ⟨?_, ?_⟩
        · rw [call.trans returned]
          nofun
        · rintro others same beyond
          cases answered.symm.trans same
          exact absurd inside (not_lt.mpr beyond)
      · have returned := call.trans (paginate_past (past.mpr outside))
        refine ⟨?_, ?_⟩
        · rw [returned]
          nofun
        · rintro others same -
          cases answered.symm.trans same
          exact ⟨_, total, returned⟩

theorem safePastEnd_tenth : SafePastEnd threeStored 0 10 none 2 10 := by
  refine (safePastEnd_iff threeStored 0 10 none 2 10 (by decide) (by decide) ?_).mpr ?_
  · rintro events answered
    cases answered
    decide
  · rintro events answered
    cases answered
    decide

/-- A page size of `2^62`: the third page panics, with nothing in the store, and the fifth is the first once more. -/
theorem past_end_wraps :
    (newInMemoryEventStore 0 0).queryWithPagination 0 10 none 4611686018427387904 3 = .panicked ∧
    threeStored.queryWithPagination 0 10 none 4611686018427387904 5 =
      .returned (.ok ([.sample "e1" 1, .sample "e2" 2, .sample "e3" 3], 3)) ∧
    ¬SafePastEnd (newInMemoryEventStore 0 0) 0 10 none 4611686018427387904 3 ∧
    ¬SafePastEnd threeStored 0 10 none 4611686018427387904 5 := by
  have panics : (newInMemoryEventStore 0 0).queryWithPagination 0 10 none 4611686018427387904 3 = .panicked := rfl
  have first : threeStored.queryWithPagination 0 10 none 4611686018427387904 5 =
      .returned (.ok ([.sample "e1" 1, .sample "e2" 2, .sample "e3" 3], 3)) := rfl
  refine ⟨panics, first, fun safe => safe.inRange panics, fun safe => ?_⟩
  obtain ⟨total, -, empty⟩ := safe.pastEnd _ rfl (by decide)
  cases first.symm.trans empty

end EventGateway.Replay
