import EventGateway.Lib.Memo
import EventGateway.Transform.Decode

/-! `TransformationEngine`: scripts in three languages, compiled once and kept, and the event
that is built from what a script returns. -/

namespace EventGateway.Transform
open Lib Lib.Json Kafka

inductive CELError where
  /-- `failed to create CEL environment: %w` -/
  | environment (cause : String)
  /-- `failed to compile CEL script: %w` -/
  | compile (cause : String)
  /-- `failed to create CEL program: %w` -/
  | program (cause : String)
  deriving DecidableEq

inductive TransformError where
  /-- `event cannot be nil` -/
  | nilEvent
  /-- `transformation script exceeds maximum size of %d bytes` -/
  | scriptSize (maximum : Int)
  /-- `unknown transformation type: %s` -/
  | unknownType (name : String)
  /-- `failed to parse JQ script: %w` -/
  | parseJQ (cause : String)
  /-- `JQ execution error: %w` -/
  | executeJQ (cause : String)
  /-- `JQ transformation produced no results` -/
  | noResults
  | cel (cause : CELError)
  /-- `CEL execution error: %w` -/
  | executeCEL (cause : String)
  /-- `failed to parse template: %w` -/
  | parseTemplate (cause : String)
  /-- `template execution error: %w` -/
  | executeTemplate (cause : String)
  /-- `failed to parse template result as JSON: %w` -/
  | templateResult (cause : JsonError)
  /-- `failed to marshal event: %w` -/
  | marshalEvent (cause : JsonError)
  /-- `failed to unmarshal event: %w` -/
  | unmarshalEvent (cause : JsonError)
  /-- `failed to marshal transformation result: %w` -/
  | marshalResult (cause : String)
  /-- `failed to unmarshal transformed event: %w` -/
  | unmarshalResult (cause : JsonError)
  /-- `failed to parse transformed event: %w` -/
  | parseEvent (cause : JsonError)
  /-- `failed to create transformed event: %w` -/
  | createEvent (cause : String)
  deriving DecidableEq

/-- What the engine rests on: `gojq`, `cel-go` and `text/template`, the texts of times, and
`json.Marshal` on what a script returns. A `World` is all that a script may look at besides its
input; a query yields a list, as its iterator comes to an end. -/
structure Scripting (floats : Floats) where
  rfc3339 : Time → String
  timeString : Time → String
  World : Type
  Value : Type
  ofMap : MapVar floats → Value
  marshal : Value → Except String Text
  marshal_ofMap : ∀ map, marshal (ofMap map) = .ok (marshalMap map)
  Query : Type
  parse : String → Except String Query
  run : Query → World → MapVar floats → List (Except String Value)
  Program : Type
  compile : String → Except CELError Program
  eval : Program → World → MapVar floats → Except String Value
  Template : Type
  parseTemplate : String → Except String Template
  execute : Template → World → Event → Except String Text

inductive TransformationType where
  | jq
  | cel
  | template
  | none
  | other (name : String) (foreign : name ∉ ["jq", "cel", "template", "none"])
  deriving DecidableEq

structure Transformation where
  type : TransformationType
  script : String

structure TransformationEngine {floats : Floats} (scripting : Scripting floats) where
  maxScriptSize : Int
  celPrograms : Finmap (fun _ : String => scripting.Program)
  jqQueries : Finmap (fun _ : String => scripting.Query)
  templates : Finmap (fun _ : String => scripting.Template)

structure Clock where
  timestamp : Time
  createdAt : Time

inductive Result where
  | returned (result : Except TransformError Event)
  | panicked
  deriving DecidableEq

section Engine
variable {floats : Floats} {scripting : Scripting floats}

def newTransformationEngine (scripting : Scripting floats) (maxScriptSize : Int) : TransformationEngine scripting where
  maxScriptSize := maxScriptSize
  celPrograms := ∅
  jqQueries := ∅
  templates := ∅

def clearCache (te : TransformationEngine scripting) : TransformationEngine scripting :=
  { te with celPrograms := ∅, jqQueries := ∅, templates := ∅ }

def isMissing : Option (Tree floats) → Bool
  | none => true
  | some (.str value) => value = ""
  | some _ => false

def setMissing (map : SortedMap String (Tree floats)) (key value : String) : SortedMap String (Tree floats) :=
  if isMissing (map.lookup key) then map.insert key (.str value) else map

def preserve (scripting : Scripting floats) (event : Event) (map : SortedMap String (Tree floats)) :
    SortedMap String (Tree floats) :=
  setMissing (setMissing map "id" event.id) "timestamp" (scripting.timeString event.timestamp)

def newTransformedEvent (dto : EventDeserializationDTO) (clock : Clock) : Except TransformError Event :=
  match Event.newEvent dto.id dto.source dto.type dto.subject dto.data dto.dataContentType
    clock.timestamp clock.createdAt with
  | .error cause => .error (.createEvent cause)
  | .ok event => .ok (((((event.withSchemaURL dto.schemaURL).withMetadata dto.metadata).withCorrelation
      dto.correlationID dto.causationID).withPartitionKey dto.partitionKey).withPriority dto.priority)

/-- The statements that `buildTransformedEvent` and `transformTemplate` both end in. In a nil map the ID
is missing, and writing to it panics. -/
def finish (scripting : Scripting floats) (event : Event) (clock : Clock) : MapVar floats → Result
  | none => .panicked
  | some map => .returned <|
    match unmarshal (marshalMap (some (preserve scripting event map))) with
    | .error cause => .error (.parseEvent cause)
    | .ok dto => newTransformedEvent dto clock

def eventToMap (scripting : Scripting floats) (event : Event) : Except TransformError (MapVar floats) :=
  match (marshalJSON scripting.rfc3339 event).bind compact with
  | none => .error (.marshalEvent .malformed)
  | some text => (unmarshalMap text).mapError .unmarshalEvent

def resultMap (value : scripting.Value) : Except TransformError (MapVar floats) :=
  match scripting.marshal value with
  | .error cause => .error (.marshalResult cause)
  | .ok text => (unmarshalMap text).mapError .unmarshalResult

def buildTransformedEvent (event : Event) (clock : Clock) (value : scripting.Value) : Result :=
  match resultMap value with
  | .error cause => .returned (.error cause)
  | .ok map => finish scripting event clock map

def collect {α : Type} : List α → List (Except String α) → Except String (List α)
  | results, [] => .ok results
  | _, .error cause :: _ => .error cause
  | results, .ok value :: rest => collect (results ++ [value]) rest

def runQuery (query : scripting.Query) (world : scripting.World) (event : Event) :
    Except TransformError scripting.Value :=
  match eventToMap scripting event with
  | .error cause => .error cause
  | .ok map => match collect [] (scripting.run query world map) with
    | .error cause => .error (.executeJQ cause)
    | .ok [] => .error .noResults
    | .ok (first :: _) => .ok first

def evalProgram (program : scripting.Program) (world : scripting.World) (event : Event) :
    Except TransformError scripting.Value :=
  match eventToMap scripting event with
  | .error cause => .error cause
  | .ok map => (scripting.eval program world map).mapError .executeCEL

def executeTemplate (template : scripting.Template) (world : scripting.World) (event : Event) :
    Except TransformError (MapVar floats) :=
  match scripting.execute template world event with
  | .error cause => .error (.executeTemplate cause)
  | .ok text => (unmarshalMap text).mapError .templateResult

def transformJQ (te : TransformationEngine scripting) (event : Event) (script : String) (world : scripting.World)
    (clock : Clock) : Result × TransformationEngine scripting :=
  let found := Memo.get te.jqQueries scripting.parse script
  let te := { te with jqQueries := found.2 }
  match found.1 with
  | .error cause => (.returned (.error (.parseJQ cause)), te)
  | .ok query => match runQuery query world event with
    | .error cause => (.returned (.error cause), te)
    | .ok value => (buildTransformedEvent event clock value, te)

def transformCEL (te : TransformationEngine scripting) (event : Event) (script : String) (world : scripting.World)
    (clock : Clock) : Result × TransformationEngine scripting :=
  let found := Memo.get te.celPrograms scripting.compile script
  let te := { te with celPrograms := found.2 }
  match found.1 with
  | .error cause => (.returned (.error (.cel cause)), te)
  | .ok program => match evalProgram program world event with
    | .error cause => (.returned (.error cause), te)
    | .ok value => (buildTransformedEvent event clock value, te)

def transformTemplate (te : TransformationEngine scripting) (event : Event) (script : String)
    (world : scripting.World) (clock : Clock) : Result × TransformationEngine scripting :=
  let found := Memo.get te.templates scripting.parseTemplate script
  let te := { te with templates := found.2 }
  match found.1 with
  | .error cause => (.returned (.error (.parseTemplate cause)), te)
  | .ok template => match executeTemplate template world event with
    | .error cause => (.returned (.error cause), te)
    | .ok map => (finish scripting event clock map, te)

def transform (te : TransformationEngine scripting) (event : Option Event) (transformation : Option Transformation)
    (world : scripting.World) (clock : Clock) : Result × TransformationEngine scripting :=
  match event, transformation with
  | none, _ => (.returned (.error .nilEvent), te)
  | some event, none => (.returned (.ok event), te)
  | some event, some transformation =>
    if transformation.type = .none then (.returned (.ok event), te)
    else if te.maxScriptSize < transformation.script.utf8ByteSize then
      (.returned (.error (.scriptSize te.maxScriptSize)), te)
    else match transformation.type with
    | .jq => transformJQ te event transformation.script world clock
    | .cel => transformCEL te event transformation.script world clock
    | .template => transformTemplate te event transformation.script world clock
    | .none => (.returned (.ok event), te)
    | .other name _ => (.returned (.error (.unknownType name)), te)

/-! What a call comes to, apart from the caches: a script is run to a map, and the map is finished. -/

def attemptJQ (te : TransformationEngine scripting) (event : Event) (script : String) (world : scripting.World) :
    Except TransformError (MapVar floats) := do
  let query ← (Memo.get te.jqQueries scripting.parse script).1.mapError .parseJQ
  resultMap (← runQuery query world event)

def attemptCEL (te : TransformationEngine scripting) (event : Event) (script : String) (world : scripting.World) :
    Except TransformError (MapVar floats) := do
  let program ← (Memo.get te.celPrograms scripting.compile script).1.mapError .cel
  resultMap (← evalProgram program world event)

def attemptTemplate (te : TransformationEngine scripting) (event : Event) (script : String) (world : scripting.World) :
    Except TransformError (MapVar floats) := do
  let template ← (Memo.get te.templates scripting.parseTemplate script).1.mapError .parseTemplate
  executeTemplate template world event

def sized (te : TransformationEngine scripting) (script : String) (body : Except TransformError (MapVar floats)) :
    Except TransformError (MapVar floats) :=
  if te.maxScriptSize < script.utf8ByteSize then .error (.scriptSize te.maxScriptSize) else body

/-- The map that the result of a script is read into; `none` if there is no script. The nil map stands
for the result `null`. -/
def attempt (te : TransformationEngine scripting) (event : Event) (transformation : Option Transformation)
    (world : scripting.World) : Option (Except TransformError (MapVar floats)) :=
  match transformation with
  | none | some ⟨.none, _⟩ => none
  | some ⟨.jq, script⟩ => some (sized te script (attemptJQ te event script world))
  | some ⟨.cel, script⟩ => some (sized te script (attemptCEL te event script world))
  | some ⟨.template, script⟩ => some (sized te script (attemptTemplate te event script world))
  | some ⟨.other name _, script⟩ => some (sized te script (.error (.unknownType name)))

def settle (scripting : Scripting floats) (event : Event) (clock : Clock) :
    Except TransformError (MapVar floats) → Result
  | .error cause => .returned (.error cause)
  | .ok map => finish scripting event clock map

theorem buildTransformedEvent_eq (event : Event) (clock : Clock) (value : scripting.Value) :
    buildTransformedEvent event clock value = settle scripting event clock (resultMap value) := by
  unfold buildTransformedEvent
  cases resultMap value with
  | error cause => rfl
  | ok map => rfl

theorem transformJQ_eq (te : TransformationEngine scripting) (event : Event) (script : String)
    (world : scripting.World) (clock : Clock) :
    transformJQ te event script world clock = (settle scripting event clock (attemptJQ te event script world),
      { te with jqQueries := (Memo.get te.jqQueries scripting.parse script).2 }) := by
  dsimp only [transformJQ, attemptJQ]
  cases (Memo.get te.jqQueries scripting.parse script).1 with
  | error cause => rfl
  | ok query =>
    dsimp only [Except.mapError, bind, Except.bind]
    cases runQuery query world event with
    | error cause => rfl
    | ok value => exact congrArg (·, _) (buildTransformedEvent_eq event clock value)

theorem transformCEL_eq (te : TransformationEngine scripting) (event : Event) (script : String)
    (world : scripting.World) (clock : Clock) :
    transformCEL te event script world clock = (settle scripting event clock (attemptCEL te event script world),
      { te with celPrograms := (Memo.get te.celPrograms scripting.compile script).2 }) := by
  dsimp only [transformCEL, attemptCEL]
  cases (Memo.get te.celPrograms scripting.compile script).1 with
  | error cause => rfl
  | ok program =>
    dsimp only [Except.mapError, bind, Except.bind]
    cases evalProgram program world event with
    | error cause => rfl
    | ok value => exact congrArg (·, _) (buildTransformedEvent_eq event clock value)

theorem transformTemplate_eq (te : TransformationEngine scripting) (event : Event) (script : String)
    (world : scripting.World) (clock : Clock) :
    transformTemplate te event script world clock =
      (settle scripting event clock (attemptTemplate te event script world),
        { te with templates := (Memo.get te.templates scripting.parseTemplate script).2 }) := by
  dsimp only [transformTemplate, attemptTemplate]
  cases (Memo.get te.templates scripting.parseTemplate script).1 with
  | error cause => rfl
  | ok template =>
    dsimp only [Except.mapError, bind, Except.bind]
    cases executeTemplate template world event with
    | error cause => rfl
    | ok map => rfl

theorem transform_eq (te : TransformationEngine scripting) (event : Event) (transformation : Option Transformation)
    (world : scripting.World) (clock : Clock) :
    (transform te (some event) transformation world clock).1 =
      match attempt te event transformation world with
      | none => .returned (.ok event)
      | some made => settle scripting event clock made := by
  match transformation with
  | none => rfl
  | some ⟨.none, script⟩ => rfl
  | some ⟨.jq, script⟩ =>
    simp only [transform, attempt, sized, reduceCtorEq, if_false]
    split
    next => rfl
    next => rw [transformJQ_eq]
  | some ⟨.cel, script⟩ =>
    simp only [transform, attempt, sized, reduceCtorEq, if_false]
    split
    next => rfl
    next => rw [transformCEL_eq]
  | some ⟨.template, script⟩ =>
    simp only [transform, attempt, sized, reduceCtorEq, if_false]
    split
    next => rfl
    next => rw [transformTemplate_eq]
  | some ⟨.other name foreign, script⟩ =>
    simp only [transform, attempt, sized, reduceCtorEq, if_false]
    split
    next => rfl
    next => rfl

theorem settle_panicked (event : Event) (clock : Clock) (made : Except TransformError (MapVar floats)) :
    settle scripting event clock made = .panicked ↔ made = .ok none := by
  cases made with
  | error cause => simp [settle]
  | ok map =>
    cases map with
    | none => simp [settle, finish]
    | some map => simp [settle, finish]

/-- A call returns an event or an error exactly when no script comes to `null`. -/
theorem transform_returns_iff (te : TransformationEngine scripting) (event : Event)
    (transformation : Option Transformation) (world : scripting.World) (clock : Clock) :
    (∃ result, (transform te (some event) transformation world clock).1 = .returned result) ↔
      attempt te event transformation world ≠ some (.ok none) := by
  have returned (result : Result) : (∃ value, result = .returned value) ↔ result ≠ .panicked := by
    cases result with
    | returned value => simp
    | panicked => simp
  rw [returned, transform_eq]
  cases attempt te event transformation world with
  | none => simp
  | some made => simp [settle_panicked]

end Engine

abbrev integers : Floats where
  Number := Int64
  parse := parseInt
  format := encodeInt
  value_format := value_encodeInt
  format_head := fun n => by
    obtain ⟨c, rest, written, -, number⟩ := encodeInt_head n
    exact ⟨c, rest, written, number⟩
  parse_format := parseInt_encodeInt

abbrev plainScripts : Scripting integers where
  rfc3339 := fun _ => "1970-01-01T00:00:00Z"
  timeString := fun _ => "1970-01-01 00:00:00 +0000 UTC"
  World := Unit
  Value := MapVar integers
  ofMap := id
  marshal := fun map => .ok (marshalMap map)
  marshal_ofMap := fun _ => rfl
  Query := Unit
  parse := fun script => if script = "." then .ok () else .error "unexpected token"
  run := fun _ _ map => [.ok map]
  Program := Unit
  compile := fun script => if script = "event" then .ok () else .error (.compile "undeclared reference")
  eval := fun _ _ map => .ok map
  Template := Text
  parseTemplate := fun script => .ok (script.toList.flatMap String.utf8EncodeChar)
  execute := fun text _ _ => .ok text

/-- A template that comes to `null` makes the call panic. -/
theorem null_template_panics :
    (transform (newTransformationEngine plainScripts 1024) (some (Event.sample "order-1" 0))
      (some ⟨.template, "null"⟩) () ⟨0, 0⟩).1 = .panicked := by
  decide +kernel

end EventGateway.Transform
