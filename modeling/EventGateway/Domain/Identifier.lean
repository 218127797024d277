import EventGateway.Domain.Event
import Mathlib

/-! Generated IDs. An ID is two readings of the clock, one of them modulo 1000, so that it is as good as
the clock is: nothing else tells two calls of `generateID` apart. -/

namespace EventGateway

section Text

theorem append_separator_inj {α : Type*} [DecidableEq α] {separator : α} {one other rest rest' : List α}
    (clear : separator ∉ one) (clear' : separator ∉ other)
    (same : one ++ separator :: rest = other ++ separator :: rest') : one = other ∧ rest = rest' := by
  have cut : ∀ {front back : List α}, separator ∉ front →
      (front ++ separator :: back).takeWhile (· ≠ separator) = front := by
    intro front back clear
    rw [List.takeWhile_append_of_pos]
    · simp
    · intro item member
      simp only [ne_eq, decide_eq_true_iff]
      rintro rfl
      exact clear member
  have fronts : one = other := by rw [← cut clear, same, cut clear']
  subst fronts
  exact ⟨rfl, by simpa using same⟩

theorem repr_cut (number : Int) : ∃ head tail, number.repr.toList = head :: tail ∧ '-' ∉ tail := by
  have digits : ∀ natural : Nat, '-' ∉ natural.repr.toList := by
    intro natural member
    rw [Nat.repr_eq_ofList_toDigits, String.toList_ofList] at member
    have digit := Nat.isDigit_of_mem_toDigits (by decide) (by decide) member
    exact absurd digit (by decide)
  rw [Int.repr_eq_if]
  split
  next =>
    cases text : number.toNat.repr.toList with
    | nil => exact absurd (String.toList_eq_nil_iff.mp text) Nat.repr_ne_empty
    | cons head tail =>
      refine ⟨head, tail, rfl, ?_⟩
      intro member
      exact digits number.toNat (text ▸ List.mem_cons_of_mem head member)
  next => exact ⟨'-', (-number).toNat.repr.toList, String.toList_append, digits _⟩

end Text

/-- Two IDs are the same exactly if they were made from the same readings, up to thousands in the second one. -/
theorem idText_eq_iff (first second first' second' : Time) :
    idText first second = idText first' second' ↔ first = first' ∧ second.tmod 1000 = second'.tmod 1000 := by
  constructor
  · intro same
    obtain ⟨head, tail, text, clear⟩ := repr_cut first
    obtain ⟨head', tail', text', clear'⟩ := repr_cut first'
    have separator : (toString "-").toList = ['-'] := by decide
    have lists := congrArg String.toList same
    simp only [idText, String.toList_append, Int.toString_eq_repr, text, text', separator, List.append_assoc,
      List.cons_append, List.nil_append, List.cons.injEq] at lists
    obtain ⟨heads, tails⟩ := lists
    obtain ⟨tails, rest⟩ := append_separator_inj clear clear' tails
    constructor
    · apply Int.repr_inj.mp
      apply String.toList_inj.mp
      rw [text, text', heads, tails]
    · exact Int.repr_inj.mp (String.toList_inj.mp rest)
  · rintro ⟨rfl, rest⟩
    rw [idText, idText, rest]

/-- The ID that `generateID` makes when its two readings are number `place` and the next one. -/
def idAt (readings : Nat → Time) (place : Nat) : String := idText (readings place) (readings (place + 1))

/-- Calls of `generateID` that do not overlap never find the same readings, up to thousands in the second one. -/
def Separates (readings : Nat → Time) : Prop :=
  ∀ place later, place + 2 ≤ later → readings place = readings later →
    (readings (place + 1)).tmod 1000 ≠ (readings (later + 1)).tmod 1000

section Separation
variable {readings : Nat → Time}

theorem separates_of_strictMono (ticking : StrictMono readings) : Separates readings := by
  intro place later apart same
  have before : readings place < readings later := ticking (by omega)
  exact absurd same before.ne

theorem idAt_ne (separates : Separates readings) {place later : Nat} (apart : place + 2 ≤ later) :
    idAt readings place ≠ idAt readings later := by
  intro same
  obtain ⟨first, second⟩ := (idText_eq_iff _ _ _ _).mp same
  exact separates place later apart first second

end Separation

/-- Each pair of readings is one that a call of `generateID` took, and no two of these calls overlap. -/
def Drawn (readings : Nat → Time) (draws : List (Time × Time)) : Prop :=
  ∃ places : List Nat, places.Pairwise (fun place other => place + 2 ≤ other ∨ other + 2 ≤ place) ∧
    draws = places.map (fun place => (readings place, readings (place + 1)))

def idTexts (draws : List (Time × Time)) : List String := draws.map (fun draw => idText draw.1 draw.2)

theorem idTexts_filterMap_cons {α : Type*} (draw : α → Option (Time × Time)) (label : α) (rest : List α) :
    idTexts ((label :: rest).filterMap draw) = idTexts (draw label).toList ++ idTexts (rest.filterMap draw) := by
  cases drawn : draw label with
  | none => simp [idTexts, drawn]
  | some pair => simp [idTexts, drawn]

theorem idTexts_nodup {readings : Nat → Time} {draws : List (Time × Time)} (separates : Separates readings)
    (drawn : Drawn readings draws) : (idTexts draws).Nodup := by
  obtain ⟨places, apart, rfl⟩ := drawn
  rw [idTexts, List.map_map, List.Nodup, List.pairwise_map]
  apply apart.imp
  rintro place other (before | after)
  · exact idAt_ne separates before
  · exact (idAt_ne separates after).symm

end EventGateway
