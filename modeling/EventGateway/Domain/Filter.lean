import EventGateway.Domain.Event

/-! The event filter value object. Go's `regexp` package is a parameter: a way to
compile a pattern and a way to match a string. A filter carries the fact that its
compiled expressions come from its patterns, an empty pattern having none. -/

namespace EventGateway

/-- The two entry points of Go's `regexp` that the filter uses. -/
structure RegexpEngine where
  Regexp : Type
  compile : String → Except String Regexp
  matchString : Regexp → String → Bool

def RegexpEngine.compilePattern (engine : RegexpEngine) (pattern : String) :
    Except String (Option engine.Regexp) :=
  if pattern = "" then .ok none else (engine.compile pattern).map some

def RegexpEngine.Describes (engine : RegexpEngine) (pattern text : String) : Prop :=
  pattern = "" ∨ ∃ regex, engine.compile pattern = .ok regex ∧ engine.matchString regex text = true

def RegexpEngine.none : RegexpEngine := ⟨Unit, fun _ => .error "missing argument", fun _ _ => false⟩

structure EventFilter (engine : RegexpEngine) where
  sourcePattern : String
  typePattern : String
  subjectPattern : String
  metadataFilters : StringMap
  minPriority : Priority
  sourceRegex : Option engine.Regexp
  typeRegex : Option engine.Regexp
  subjectRegex : Option engine.Regexp
  sourceCompiled : engine.compilePattern sourcePattern = .ok sourceRegex
  typeCompiled : engine.compilePattern typePattern = .ok typeRegex
  subjectCompiled : engine.compilePattern subjectPattern = .ok subjectRegex

namespace EventFilter
variable {engine : RegexpEngine}

def newEventFilter (engine : RegexpEngine) (sourcePattern typePattern subjectPattern : String)
    (metadataFilters : StringMap) (minPriority : Priority) : Except String (EventFilter engine) :=
  match sourceCompiled : engine.compilePattern sourcePattern with
  | .error err => .error err
  | .ok sourceRegex =>
    match typeCompiled : engine.compilePattern typePattern with
    | .error err => .error err
    | .ok typeRegex =>
      match subjectCompiled : engine.compilePattern subjectPattern with
      | .error err => .error err
      | .ok subjectRegex => .ok {
          sourcePattern, typePattern, subjectPattern, metadataFilters, minPriority
          sourceRegex, typeRegex, subjectRegex, sourceCompiled, typeCompiled, subjectCompiled }

def accepts (regex : Option engine.Regexp) (text : String) : Bool :=
  match regex with
  | none => true
  | some compiled => engine.matchString compiled text

def matchesEvent (filter : EventFilter engine) (event : Event) : Bool :=
  accepts filter.sourceRegex event.source &&
    accepts filter.typeRegex event.eventType &&
    accepts filter.subjectRegex event.subject &&
    !decide (event.priority < filter.minPriority) &&
    filter.metadataFilters.all (fun key expected => event.metadata.lookup key == some expected)

def empty (filter : EventFilter engine) : Bool :=
  filter.sourcePattern == "" && filter.typePattern == "" && filter.subjectPattern == "" &&
    decide (filter.metadataFilters = ∅) && decide (filter.minPriority = priorityUnspecified)

/-- The filter that `NewEventFilter` returns when no criterion is given. -/
def matchAll (engine : RegexpEngine) : EventFilter engine where
  sourcePattern := ""
  typePattern := ""
  subjectPattern := ""
  metadataFilters := ∅
  minPriority := priorityUnspecified
  sourceRegex := none
  typeRegex := none
  subjectRegex := none
  sourceCompiled := rfl
  typeCompiled := rfl
  subjectCompiled := rfl

theorem accepts_iff {pattern text : String} {regex : Option engine.Regexp}
    (compiled : engine.compilePattern pattern = .ok regex) :
    accepts regex text = true ↔ engine.Describes pattern text := by
  unfold RegexpEngine.compilePattern at compiled
  split at compiled
  next empty =>
    cases compiled
    exact iff_of_true rfl (.inl empty)
  next named =>
    simp only [RegexpEngine.Describes, named, false_or]
    cases known : engine.compile pattern with
    | error err =>
      rw [known] at compiled
      cases compiled
    | ok regex =>
      rw [known] at compiled
      cases compiled
      simp [accepts]

theorem metadata_all {filters : StringMap} {found : String → String → Bool} :
    filters.all found = true ↔ ∀ key expected, filters.lookup key = some expected → found key expected = true := by
  have folded (entries : List (Sigma fun _ : String => String)) (start : Bool) :
      entries.foldl (fun holds entry => holds && found entry.1 entry.2) start =
        (start && entries.all (fun entry => found entry.1 entry.2)) := by
    induction entries generalizing start with
    | nil => simp
    | cons entry rest ih => simp [ih, Bool.and_assoc]
  simp only [Finmap.lookup_eq_some_iff]
  obtain ⟨⟨entries⟩, nodup⟩ := filters
  change entries.foldl (fun holds entry => holds && found entry.1 entry.2) true = true ↔
    ∀ key expected, ⟨key, expected⟩ ∈ Multiset.ofList entries → found key expected = true
  simp only [folded, Bool.true_and, List.all_eq_true, Multiset.mem_coe, Sigma.forall]

/-- An event passes if its fields are described by the patterns, its priority is not below the
least one, and it has every metadata entry that is asked for. -/
theorem matchesEvent_iff (filter : EventFilter engine) (event : Event) :
    filter.matchesEvent event = true ↔
      engine.Describes filter.sourcePattern event.source ∧
      engine.Describes filter.typePattern event.eventType ∧
      engine.Describes filter.subjectPattern event.subject ∧
      filter.minPriority ≤ event.priority ∧
      ∀ key expected, filter.metadataFilters.lookup key = some expected →
        event.metadata.lookup key = some expected := by
  simp only [matchesEvent, Bool.and_eq_true, accepts_iff filter.sourceCompiled, accepts_iff filter.typeCompiled,
    accepts_iff filter.subjectCompiled, metadata_all, Bool.not_eq_true', decide_eq_false_iff_not, Int64.not_lt,
    beq_iff_eq, and_assoc]

def Compiles (engine : RegexpEngine) (pattern : String) : Prop :=
  ∃ regex, engine.compilePattern pattern = .ok regex

end EventFilter
end EventGateway
