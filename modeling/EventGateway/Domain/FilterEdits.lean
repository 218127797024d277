import EventGateway.Domain.Filter
import EventGateway.Lib.Assignment
import EventGateway.Lib.FiniteMap

/-! The two methods that change the metadata part of a filter, and what a filter means after any
number of their calls. -/

namespace EventGateway
open Lib

namespace EventFilter
variable {engine : RegexpEngine}

def addMetadataFilter (filter : EventFilter engine) (key value : String) : EventFilter engine :=
  { filter with metadataFilters := filter.metadataFilters.insert key value }

def removeMetadataFilter (filter : EventFilter engine) (key : String) : EventFilter engine :=
  if filter.metadataFilters = ∅ then filter
  else { filter with metadataFilters := filter.metadataFilters.erase key }

end EventFilter

inductive FilterEdit where
  | addMetadataFilter (key value : String)
  | removeMetadataFilter (key : String)
  deriving DecidableEq

namespace FilterEdit

def key : FilterEdit → String
  | .addMetadataFilter key _ => key
  | .removeMetadataFilter key => key

def assigns (wanted : String) : FilterEdit → Option (Option String)
  | .addMetadataFilter key value => if wanted = key then some (some value) else none
  | .removeMetadataFilter key => if wanted = key then some none else none

theorem assigns_eq_none {wanted : String} {edit : FilterEdit} : edit.assigns wanted = none ↔ edit.key ≠ wanted := by
  cases edit with
  | addMetadataFilter key value => simp [assigns, FilterEdit.key, eq_comm]
  | removeMetadataFilter key => simp [assigns, FilterEdit.key, eq_comm]

theorem assigns_eq_value {wanted value : String} {edit : FilterEdit} :
    edit.assigns wanted = some (some value) ↔ edit = .addMetadataFilter wanted value := by
  cases edit with
  | addMetadataFilter key other => simp [assigns, eq_comm]
  | removeMetadataFilter key => simp [assigns]

end FilterEdit

namespace EventFilter
variable {engine : RegexpEngine}

def edit (filter : EventFilter engine) : FilterEdit → EventFilter engine
  | .addMetadataFilter key value => filter.addMetadataFilter key value
  | .removeMetadataFilter key => filter.removeMetadataFilter key

def editAll (filter : EventFilter engine) (edits : List FilterEdit) : EventFilter engine :=
  edits.foldl edit filter

/-- The map that remains of the given one: the last call for a key decides, and a key without a
call keeps its entry. -/
def Net (given : StringMap) (edits : List FilterEdit) (key value : String) : Prop :=
  (∃ before after, edits = before ++ .addMetadataFilter key value :: after ∧ ∀ later ∈ after, later.key ≠ key) ∨
    given.lookup key = some value ∧ ∀ edit ∈ edits, edit.key ≠ key

def criteria (filter : EventFilter engine) : String × String × String × Priority :=
  (filter.sourcePattern, filter.typePattern, filter.subjectPattern, filter.minPriority)

theorem criteria_edit (filter : EventFilter engine) (edit : FilterEdit) :
    (filter.edit edit).criteria = filter.criteria := by
  cases edit with
  | addMetadataFilter key value => rfl
  | removeMetadataFilter key =>
    simp only [EventFilter.edit, removeMetadataFilter]
    split
    next => rfl
    next => rfl

theorem criteria_editAll (filter : EventFilter engine) (edits : List FilterEdit) :
    (filter.editAll edits).criteria = filter.criteria := by
  induction edits generalizing filter with
  | nil => rfl
  | cons edit rest ih => exact (ih (filter.edit edit)).trans (criteria_edit filter edit)

theorem lookup_edit (wanted : String) (filter : EventFilter engine) (edit : FilterEdit) :
    (filter.edit edit).metadataFilters.lookup wanted =
      (edit.assigns wanted).getD (filter.metadataFilters.lookup wanted) := by
  cases edit with
  | addMetadataFilter key value =>
    simp only [EventFilter.edit, addMetadataFilter, FiniteMap.lookup_insert, FilterEdit.assigns]
    split
    next => rfl
    next => rfl
  | removeMetadataFilter key =>
    have erased : (filter.removeMetadataFilter key).metadataFilters = filter.metadataFilters.erase key := by
      unfold removeMetadataFilter
      split
      next empty =>
        apply Finmap.ext_lookup
        intro other
        rw [FiniteMap.lookup_erase, empty]
        split <;> rfl
      next => rfl
    simp only [EventFilter.edit, erased, FiniteMap.lookup_erase, FilterEdit.assigns]
    split
    next => rfl
    next => rfl

theorem lookup_editAll (filter : EventFilter engine) (edits : List FilterEdit) (key : String) :
    (filter.editAll edits).metadataFilters.lookup key =
      (lastAssigned (FilterEdit.assigns key) edits).getD (filter.metadataFilters.lookup key) :=
  observe_foldl edit (fun filter => filter.metadataFilters.lookup key) (lookup_edit key) edits filter

theorem lookup_editAll_iff (filter : EventFilter engine) (edits : List FilterEdit) (key value : String) :
    (filter.editAll edits).metadataFilters.lookup key = some value ↔
      Net filter.metadataFilters edits key value := by
  rw [lookup_editAll, Option.getD_eq_iff, lastAssigned_eq_some, lastAssigned_eq_none]
  simp only [FilterEdit.assigns_eq_value, FilterEdit.assigns_eq_none, Net]
  constructor
  · rintro (⟨before, operation, after, order, rfl, untouched⟩ | ⟨untouched, given⟩)
    · exact .inl ⟨before, after, order, untouched⟩
    · exact .inr ⟨given, untouched⟩
  · rintro (⟨before, after, order, untouched⟩ | ⟨given, untouched⟩)
    · exact .inl ⟨before, _, after, order, rfl, untouched⟩
    · exact .inr ⟨untouched, given⟩

/-- A filter that asks for fewer entries and is otherwise the same accepts at least as much. -/
theorem matchesEvent_mono {strict loose : EventFilter engine} (same : loose.criteria = strict.criteria)
    (fewer : ∀ key value, loose.metadataFilters.lookup key = some value →
      strict.metadataFilters.lookup key = some value) {event : Event} (passed : strict.matchesEvent event = true) :
    loose.matchesEvent event = true := by
  simp only [criteria, Prod.mk.injEq] at same
  obtain ⟨sourcePattern, typePattern, subjectPattern, minPriority⟩ := same
  rw [matchesEvent_iff] at passed ⊢
  rw [sourcePattern, typePattern, subjectPattern, minPriority]
  obtain ⟨source, type, subject, priority, metadata⟩ := passed
  exact ⟨source, type, subject, priority, fun key value asked => metadata key value (fewer key value asked)⟩

theorem lookup_remove (filter : EventFilter engine) (key other : String) :
    (filter.removeMetadataFilter key).metadataFilters.lookup other =
      if other = key then none else filter.metadataFilters.lookup other := by
  have edited := lookup_edit other filter (.removeMetadataFilter key)
  simp only [EventFilter.edit, FilterEdit.assigns] at edited
  rw [edited]
  split
  next => rfl
  next => rfl

theorem matchesEvent_of_add (filter : EventFilter engine) {key : String}
    (free : filter.metadataFilters.lookup key = none) {value : String} {event : Event}
    (passed : (filter.addMetadataFilter key value).matchesEvent event = true) : filter.matchesEvent event = true := by
  have same : (filter.addMetadataFilter key value).criteria = filter.criteria :=
    criteria_edit filter (.addMetadataFilter key value)
  refine matchesEvent_mono same.symm ?_ passed
  intro other expected asked
  have apart : other ≠ key := by
    rintro rfl
    cases free.symm.trans asked
  rw [addMetadataFilter, FiniteMap.lookup_insert, if_neg apart, asked]

theorem matchesEvent_remove (filter : EventFilter engine) (key : String) {event : Event}
    (passed : filter.matchesEvent event = true) : (filter.removeMetadataFilter key).matchesEvent event = true := by
  have same : (filter.removeMetadataFilter key).criteria = filter.criteria :=
    criteria_edit filter (.removeMetadataFilter key)
  refine matchesEvent_mono same ?_ passed
  intro other expected asked
  rw [lookup_remove] at asked
  split at asked
  next => cases asked
  next => exact asked

theorem matchesEvent_remove_add (filter : EventFilter engine) (key value : String) (event : Event) :
    ((filter.addMetadataFilter key value).removeMetadataFilter key).matchesEvent event =
      (filter.removeMetadataFilter key).matchesEvent event := by
  have criteria : ((filter.addMetadataFilter key value).removeMetadataFilter key).criteria =
      (filter.removeMetadataFilter key).criteria :=
    calc
      _ = (filter.addMetadataFilter key value).criteria := criteria_edit _ (.removeMetadataFilter key)
      _ = filter.criteria := criteria_edit filter (.addMetadataFilter key value)
      _ = _ := (criteria_edit filter (.removeMetadataFilter key)).symm
  have entries (other : String) :
      ((filter.addMetadataFilter key value).removeMetadataFilter key).metadataFilters.lookup other =
        (filter.removeMetadataFilter key).metadataFilters.lookup other := by
    rw [lookup_remove, lookup_remove]
    split
    next => rfl
    next apart => rw [addMetadataFilter, FiniteMap.lookup_insert, if_neg apart]
  rw [Bool.eq_iff_iff]
  constructor
  · exact matchesEvent_mono criteria.symm (fun other _ asked => (entries other).trans asked)
  · exact matchesEvent_mono criteria (fun other _ asked => (entries other).symm.trans asked)

theorem newEventFilter_criteria {sourcePattern typePattern subjectPattern : String} {metadataFilters : StringMap}
    {minPriority : Priority} {filter : EventFilter engine}
    (built : newEventFilter engine sourcePattern typePattern subjectPattern metadataFilters minPriority = .ok filter) :
    filter.criteria = (sourcePattern, typePattern, subjectPattern, minPriority) ∧
      filter.metadataFilters = metadataFilters := by
  unfold newEventFilter at built
  split at built
  next => cases built
  next =>
    split at built
    next => cases built
    next =>
      split at built
      next => cases built
      next =>
        cases built
        exact ⟨rfl, rfl⟩

/-- A filter from `NewEventFilter` after any edits means its patterns, its least priority and what remains
of its metadata entries; a new criterion narrows it, a removal widens it, and a removal undoes an addition. -/
theorem matches_editAll {sourcePattern typePattern subjectPattern : String} {metadataFilters : StringMap}
    {minPriority : Priority} {filter : EventFilter engine}
    (built : newEventFilter engine sourcePattern typePattern subjectPattern metadataFilters minPriority = .ok filter)
    (edits : List FilterEdit) (event : Event) :
    ((filter.editAll edits).matchesEvent event = true ↔
      engine.Describes sourcePattern event.source ∧ engine.Describes typePattern event.eventType ∧
        engine.Describes subjectPattern event.subject ∧ minPriority ≤ event.priority ∧
        ∀ key value, Net metadataFilters edits key value → event.metadata.lookup key = some value) ∧
    (∀ key value, (∀ present, ¬Net metadataFilters edits key present) →
      ((filter.editAll edits).addMetadataFilter key value).matchesEvent event = true →
        (filter.editAll edits).matchesEvent event = true) ∧
    (∀ key, (filter.editAll edits).matchesEvent event = true →
      ((filter.editAll edits).removeMetadataFilter key).matchesEvent event = true) ∧
    ∀ key value, (((filter.editAll edits).addMetadataFilter key value).removeMetadataFilter key).matchesEvent event =
      ((filter.editAll edits).removeMetadataFilter key).matchesEvent event := by
  obtain ⟨criteria, given⟩ := newEventFilter_criteria built
  have kept := (criteria_editAll filter edits).trans criteria
  simp only [EventFilter.criteria, Prod.mk.injEq] at kept
  obtain ⟨source, type, subject, priority⟩ := kept
  have net (key value : String) := lookup_editAll_iff filter edits key value
  rw [given] at net
  refine ⟨?_, fun key value free => ?_, fun key => matchesEvent_remove _ key,
    fun key value => matchesEvent_remove_add _ key value event⟩
  · simp only [matchesEvent_iff, source, type, subject, priority, net]
  · apply matchesEvent_of_add
    rw [Option.eq_none_iff_forall_not_mem]
    exact fun present found => free present ((net key present).mp found)

theorem matches_editAll_tenant :
    let edited := (matchAll .none).editAll [.addMetadataFilter "tenant" "a", .addMetadataFilter "region" "eu",
      .addMetadataFilter "tenant" "b", .removeMetadataFilter "region"]
    let event := (Event.sample "order-1" 0).withMetadata (Finmap.singleton "tenant" "b")
    edited.matchesEvent event = true ∧ (edited.removeMetadataFilter "tenant").matchesEvent event = true := by
  intro edited event
  have built : newEventFilter .none "" "" "" ∅ priorityUnspecified = .ok (matchAll .none) := by rfl
  have passed : edited.matchesEvent event = true := by decide +kernel
  exact ⟨passed, (matches_editAll built _ event).2.2.1 "tenant" passed⟩

end EventFilter
end EventGateway
