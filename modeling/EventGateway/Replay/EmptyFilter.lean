import EventGateway.Replay.Store

/-! The shortcut of `Query`: a filter that calls itself empty is not asked about the events. -/

namespace EventGateway.Replay
variable {engine : RegexpEngine}

def queryPredicate (filter : EventFilter engine) (event : Event) : Bool :=
  if filter.empty then true else filter.matchesEvent event

theorem query_eq (ies : InMemoryEventStore) (filter : EventFilter engine) (timeRange : Option TimeRange)
    (now : Time) : ies.query filter timeRange now =
      match timeRange with
      | some range => ies.queryByTime range.start range.stop (some (queryPredicate filter))
      | none => ies.queryByTime InMemoryEventStore.zeroTime now (some (queryPredicate filter)) := rfl

def Restricts (filter : EventFilter engine) : Prop :=
  filter.sourcePattern ≠ "" ∨ filter.typePattern ≠ "" ∨ filter.subjectPattern ≠ "" ∨
    filter.metadataFilters ≠ ∅ ∨ filter.minPriority ≠ priorityUnspecified

theorem empty_iff (filter : EventFilter engine) : filter.empty = true ↔ ¬Restricts filter := by
  simp only [EventFilter.empty, Restricts, Bool.and_eq_true, beq_iff_eq, decide_eq_true_eq, not_or, not_not, and_assoc]

theorem matchesEvent_unrestricted {filter : EventFilter engine} (free : ¬Restricts filter) (event : Event) :
    filter.matchesEvent event = true ↔ 0 ≤ event.priority := by
  simp only [Restricts, not_or, not_not] at free
  obtain ⟨source, type, subject, metadata, priority⟩ := free
  have described (text : String) : engine.Describes "" text := .inl rfl
  simp [EventFilter.matchesEvent_iff, source, type, subject, metadata, priority, described, priorityUnspecified]

/-- The shortcut gives the answer of `Matches` if there is a criterion or the event's priority is not negative,
and only then. -/
theorem queryPredicate_agrees_iff (filter : EventFilter engine) (event : Event) :
    queryPredicate filter event = filter.matchesEvent event ↔ Restricts filter ∨ 0 ≤ event.priority := by
  unfold queryPredicate
  by_cases restricted : Restricts filter
  · have inUse : filter.empty ≠ true := fun empty => (empty_iff filter).mp empty restricted
    simp [inUse, restricted]
  · have empty := (empty_iff filter).mpr restricted
    rw [if_pos empty, or_iff_right restricted, eq_comm]
    exact matchesEvent_unrestricted restricted event

/-- An event of priority -1 passes the query with no criterion but does not match its filter. -/
theorem queryPredicate_passes_negative :
    ∃ (filter : EventFilter .none) (start : Event),
      EventFilter.newEventFilter .none "" "" "" ∅ priorityUnspecified = .ok filter ∧
      Event.newEvent "order-1" "orders" "order.created" "/orders/1" [0x31] "application/json" 0 0 = .ok start ∧
      filter.empty = true ∧ queryPredicate filter (start.withPriority (-1)) = true ∧
      filter.matchesEvent (start.withPriority (-1)) = false :=
  ⟨.matchAll .none, .sample "order-1" 0, by rfl, by rfl, by decide, by decide, by decide⟩

end EventGateway.Replay
