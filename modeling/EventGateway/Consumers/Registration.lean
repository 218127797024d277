import EventGateway.Domain.Consumer
import EventGateway.Subscription.Request

/-! Consumer registration: the gRPC handler, its conversion of the message, the service and the
in-memory repository. The message has no consumer group, which the service insists on, and its transformation
type is an open enumeration that the conversion turns into a text the service does not know. -/

namespace EventGateway.Consumers
open Lib Lib.Outcome Subscription EventFilter

abbrev Repository (engine : RegexpEngine) := Finmap (fun _ : String => Consumer engine)

namespace Repository
variable {engine : RegexpEngine}

def save (consumers : Repository engine) (consumer : Consumer engine) : Except String (Repository engine) :=
  .ok (consumers.insert consumer.id consumer)

def get (consumers : Repository engine) (id : String) : Except String (Consumer engine) :=
  match consumers.lookup id with
  | some consumer => .ok consumer
  | none => .error "consumer not found"

def delete (consumers : Repository engine) (id : String) : Except String (Repository engine) :=
  .ok (consumers.erase id)

end Repository

structure TransformationConfigDTO where
  type : String
  expression : String

namespace TransformationConfigDTO

/-- The switch of `ToValueObject`: an unknown type is read as none. -/
def transformationType (type : String) : TransformationType :=
  if type = "JQ" then .jq
  else if type = "CEL" then .cel
  else if type = "Template" then .template
  else .none

def toValueObject (t : TransformationConfigDTO) : Except String Transformation :=
  Transformation.newTransformation (transformationType t.type) t.expression

end TransformationConfigDTO

structure RegisterConsumerRequest where
  name : String
  groupID : String
  filterConfig : Option EventFilterDTO
  transformConfig : Option TransformationConfigDTO

namespace RegisterConsumerRequest

def buildFilter (engine : RegexpEngine) (request : RegisterConsumerRequest) : Except String (EventFilter engine) :=
  match request.filterConfig with
  | some config => (config.toValueObject engine).mapError ("invalid filter configuration: " ++ ·)
  | none => (newEventFilter engine "" "" "" ∅ priorityUnspecified).mapError ("invalid default filter: " ++ ·)

def buildTransformation (request : RegisterConsumerRequest) : Except String Transformation :=
  match request.transformConfig with
  | some config => config.toValueObject.mapError ("invalid transformation configuration: " ++ ·)
  | none =>
    (Transformation.newTransformation .none "").mapError ("invalid default transformation: " ++ ·)

end RegisterConsumerRequest

structure Readings where
  first : Time
  second : Time
  created : Time
  activated : Time

section Service
variable {engine : RegexpEngine}

/-- The consumer that `ConsumerService.Register` is about to save. -/
def activeConsumer (engine : RegexpEngine) (request : RegisterConsumerRequest) (clock : Readings) :
    Except String (Consumer engine) := do
  let filter ← request.buildFilter engine
  let transformation ← request.buildTransformation
  let consumer ← (Consumer.newConsumer (idText clock.first clock.second) request.name request.groupID filter
    transformation clock.created).mapError ("invalid consumer configuration: " ++ ·)
  (consumer.activate clock.activated).mapError ("failed to activate consumer: " ++ ·)

def register (request : RegisterConsumerRequest) (clock : Readings) (consumers : Repository engine) :
    Except String String × Repository engine :=
  match activeConsumer engine request clock with
  | .error err => (.error err, consumers)
  | .ok consumer =>
    match consumers.save consumer with
    | .error err => (.error ("failed to register consumer: " ++ err), consumers)
    | .ok consumers => (.ok (idText clock.first clock.second), consumers)

def deregister (consumerID : String) (consumers : Repository engine) : Except String Unit × Repository engine :=
  match consumers.get consumerID with
  | .error err => (.error ("consumer not found: " ++ err), consumers)
  | .ok _ =>
    match consumers.delete consumerID with
    | .error err => (.error ("failed to deregister consumer: " ++ err), consumers)
    | .ok consumers => (.ok (), consumers)

end Service

/-- The `TransformationType` of the API, an open enumeration. -/
abbrev ProtoTransformationType := Int32

def ProtoTransformationType.string (type : ProtoTransformationType) : String :=
  if type = 0 then "TRANSFORMATION_TYPE_UNSPECIFIED"
  else if type = 1 then "TRANSFORMATION_TYPE_NONE"
  else if type = 2 then "TRANSFORMATION_TYPE_JQ"
  else if type = 3 then "TRANSFORMATION_TYPE_CEL"
  else if type = 4 then "TRANSFORMATION_TYPE_TEMPLATE"
  else toString type.toInt

structure ProtoTransformationConfig where
  type : ProtoTransformationType
  expression : String

structure ProtoRoutingRule where
  filter : Option ProtoEventFilter
  transformation : Option ProtoTransformationConfig

structure ProtoConsumer where
  name : String
  routingRules : List (Option ProtoRoutingRule)

structure ProtoRegisterConsumerRequest where
  consumer : Option ProtoConsumer

def transformConfig (rule : ProtoRoutingRule) : TransformationConfigDTO :=
  match rule.transformation with
  | some config => ⟨config.type.string, config.expression⟩
  | none => ⟨"", ""⟩

def consumerProtoToDTO : Option ProtoRegisterConsumerRequest → Option RegisterConsumerRequest
  | none => none
  | some protoReq =>
    match protoReq.consumer with
    | none => some ⟨"", "", some ⟨"", "", "", ∅, 0⟩, some ⟨"", ""⟩⟩
    | some consumer =>
      match consumer.routingRules with
      | some rule :: _ => some {
          name := consumer.name
          groupID := ""
          filterConfig := some (filterProtoToDTO rule.filter)
          transformConfig := some (transformConfig rule) }
      | _ => some ⟨consumer.name, "", some (filterProtoToDTO none), some ⟨"", ""⟩⟩

def registerConsumer {engine : RegexpEngine} (req : Option ProtoRegisterConsumerRequest) (clock : Readings)
    (consumers : Repository engine) : Except Status String × Repository engine :=
  match req.bind ProtoRegisterConsumerRequest.consumer with
  | none => (.error ⟨.invalidArgument, "consumer and consumer name are required"⟩, consumers)
  | some consumer =>
    if consumer.name = "" then (.error ⟨.invalidArgument, "consumer and consumer name are required"⟩, consumers)
    else match consumerProtoToDTO req with
    | none => (.error ⟨.invalidArgument, "failed to convert request"⟩, consumers)
    | some dtoReq =>
      match register dtoReq clock consumers with
      | (.error _, after) => (.error ⟨.internal, "failed to register consumer"⟩, after)
      | (.ok consumerID, after) => (.ok consumerID, after)

def describes (engine : RegexpEngine) (rule : ProtoRoutingRule) (event : Event) : Prop :=
  let filter := rule.filter.getD ⟨"", "", "", ∅, 0⟩
  engine.Describes filter.sourcePattern event.source ∧ engine.Describes filter.typePattern event.eventType ∧
    engine.Describes filter.subjectPattern event.subject ∧ filter.priorityFilter.toInt64 ≤ event.priority ∧
    ∀ key expected, filter.metadataFilters.lookup key = some expected → event.metadata.lookup key = some expected

def domainType (type : ProtoTransformationType) : TransformationType :=
  if type = 2 then .jq else if type = 3 then .cel else if type = 4 then .template else .none

def asksFor (rule : ProtoRoutingRule) : Transformation :=
  match rule.transformation with
  | some config => ⟨domainType config.type, config.expression⟩
  | none => ⟨.none, ""⟩

/-- A rule whose patterns compile, and whose transformation has a known type and an expression
exactly if the type is not `NONE` or `UNSPECIFIED`. -/
structure WellFormed (engine : RegexpEngine) (rule : ProtoRoutingRule) : Prop where
  patterns : ∀ filter ∈ rule.filter, Compiles engine filter.sourcePattern ∧
    Compiles engine filter.typePattern ∧ Compiles engine filter.subjectPattern
  transformation : ∀ config ∈ rule.transformation,
    (config.type = 0 ∨ config.type = 1) ∧ config.expression = "" ∨
      (config.type = 2 ∨ config.type = 3 ∨ config.type = 4) ∧ config.expression ≠ ""

/-- Whatever the repository holds, the registration succeeds, and the consumer stored under the
returned ID is what the message asks for. -/
def Faithful (engine : RegexpEngine) (name : String) (rule : ProtoRoutingRule) : Prop :=
  ∀ (clock : Readings) (consumers : Repository engine), ∃ consumerID after consumer,
    registerConsumer (some ⟨some ⟨name, [some rule]⟩⟩) clock consumers = (.ok consumerID, after) ∧
    after.get consumerID = .ok consumer ∧ consumer.name = name ∧ consumer.status = .active ∧
    (∀ event, consumer.filter.matchesEvent event = true ↔ describes engine rule event) ∧
    consumer.transformation = asksFor rule

section Service
variable {engine : RegexpEngine} {request : RegisterConsumerRequest} {clock : Readings}

theorem activeConsumer_fields {consumer : Consumer engine}
    (built : activeConsumer engine request clock = .ok consumer) :
    consumer.id = idText clock.first clock.second ∧ consumer.groupID = request.groupID ∧
      request.buildTransformation = .ok consumer.transformation := by
  simp only [activeConsumer, bind_eq_ok, mapError_eq_ok] at built
  obtain ⟨filter, -, transformation, transformed, inactive, made, activated⟩ := built
  obtain ⟨id, groupID, rfl⟩ := Consumer.newConsumer_fields made
  unfold Consumer.activate at activated
  split at activated
  next => cases activated
  next =>
    cases activated
    exact ⟨id, groupID, transformed⟩

theorem activeConsumer_ok (named : request.name ≠ "") (grouped : request.groupID ≠ "") {filter : EventFilter engine}
    (filtered : request.buildFilter engine = .ok filter) {transformation : Transformation}
    (transformed : request.buildTransformation = .ok transformation)
    (sound : transformation.validate = .ok ()) (clock : Readings) :
    ∃ consumer, activeConsumer engine request clock = .ok consumer ∧ consumer.name = request.name ∧
      consumer.filter = filter ∧ consumer.transformation = transformation ∧ consumer.status = .active := by
  obtain ⟨inactive, made, -, name, filterKept, transformationKept, status⟩ :=
    Consumer.newConsumer_ok (idText_ne clock.first clock.second) named grouped sound filter clock.created
  let active : Consumer engine := { inactive with status := .active, updatedAt := clock.activated }
  have activated : inactive.activate clock.activated = .ok active := by
    rw [Consumer.activate, status]
    rfl
  refine ⟨active, ?_, name, filterKept, transformationKept, rfl⟩
  simp only [activeConsumer, bind_eq_ok, mapError_eq_ok]
  exact ⟨filter, filtered, transformation, transformed, inactive, made, activated⟩

theorem register_ok {consumers after : Repository engine} {consumerID : String} :
    register request clock consumers = (.ok consumerID, after) ↔
      ∃ consumer, activeConsumer engine request clock = .ok consumer ∧ consumer.id = consumerID ∧
        consumers.insert consumerID consumer = after := by
  unfold register
  cases built : activeConsumer engine request clock with
  | error err => simp
  | ok consumer =>
    rw [← (activeConsumer_fields built).1]
    simp only [Repository.save, Prod.mk.injEq, Except.ok.injEq, exists_eq_left']
    constructor
    · rintro ⟨rfl, rfl⟩
      exact ⟨rfl, rfl⟩
    · rintro ⟨rfl, rfl⟩
      exact ⟨rfl, rfl⟩

end Service

theorem consumerProtoToDTO_groupID {req : Option ProtoRegisterConsumerRequest} {dtoReq : RegisterConsumerRequest}
    (converted : consumerProtoToDTO req = some dtoReq) : dtoReq.groupID = "" := by
  unfold consumerProtoToDTO at converted
  split at converted
  next => cases converted
  next =>
    split at converted
    next => exact Option.some.inj converted ▸ rfl
    next =>
      split at converted
      next => exact Option.some.inj converted ▸ rfl
      next => exact Option.some.inj converted ▸ rfl

/-- A service that is asked for a consumer without a group refuses, and leaves the repository as it is. -/
theorem register_ungrouped {engine : RegexpEngine} {request : RegisterConsumerRequest} (ungrouped : request.groupID = "")
    (clock : Readings) (consumers : Repository engine) :
    ∃ err, register request clock consumers = (.error err, consumers) := by
  unfold register
  cases built : activeConsumer engine request clock with
  | error err => exact ⟨err, rfl⟩
  | ok consumer => exact absurd ((activeConsumer_fields built).2.1.trans ungrouped) consumer.groupID_ne

/-- No registration ever succeeds: every request is turned down with nothing stored, also a well-formed one. -/
theorem registration_never_faithful (engine : RegexpEngine) :
    (∀ (req : Option ProtoRegisterConsumerRequest) (clock : Readings) (consumers : Repository engine),
      ∃ status, registerConsumer req clock consumers = (.error status, consumers)) ∧
    ∀ name rule, ¬Faithful engine name rule := by
  have refused (req : Option ProtoRegisterConsumerRequest) (clock : Readings) (consumers : Repository engine) :
      ∃ status, registerConsumer req clock consumers = (.error status, consumers) := by
    unfold registerConsumer
    split
    next => exact ⟨_, rfl⟩
    next =>
      split
      next => exact ⟨_, rfl⟩
      next =>
        split
        next => exact ⟨_, rfl⟩
        next dtoReq converted =>
          obtain ⟨err, ran⟩ := register_ungrouped (consumerProtoToDTO_groupID converted) clock consumers
          rw [ran]
          exact ⟨_, rfl⟩
  refine ⟨refused, fun name rule faithful => ?_⟩
  obtain ⟨consumerID, after, consumer, ran, -⟩ := faithful ⟨0, 0, 0, 0⟩ ∅
  obtain ⟨status, failed⟩ := refused (some ⟨some ⟨name, [some rule]⟩⟩) ⟨0, 0, 0, 0⟩ ∅
  cases congrArg Prod.fst (ran.symm.trans failed)

def billingRule : ProtoRoutingRule := ⟨none, some ⟨2, ".amount"⟩⟩

theorem billingRule_wellFormed : WellFormed .none billingRule := by
  refine ⟨fun _ absent => (by cases absent), fun config asked => ?_⟩
  cases asked
  exact .inr ⟨.inl rfl, by decide⟩

/-- The service turns the plainest registration down for want of a group, and so does the handler. With a group it
would still turn a transformation in `jq` down, because it reads the type's name as none. -/
theorem registration_refused :
    let plain : ProtoRoutingRule := ⟨none, none⟩
    let clock : Readings := ⟨0, 0, 0, 0⟩
    let consumers : Repository .none := ∅
    WellFormed .none plain ∧ WellFormed .none billingRule ∧
    (registerConsumer (some ⟨some ⟨"billing", [some plain]⟩⟩) clock consumers).1 =
      .error ⟨.internal, "failed to register consumer"⟩ ∧
    (consumerProtoToDTO (some ⟨some ⟨"billing", [some plain]⟩⟩)).map (fun dto => (register dto clock consumers).1) =
      some (.error "invalid consumer configuration: consumer group ID cannot be empty") ∧
    (consumerProtoToDTO (some ⟨some ⟨"billing", [some billingRule]⟩⟩)).map (fun dto =>
        (register { dto with groupID := "default" } clock consumers).1) =
      some (.error "invalid transformation configuration: transformation type None must have empty expression") ∧
    ¬Faithful .none "billing" plain ∧ ¬Faithful .none "billing" billingRule := by
  have plain : WellFormed .none ⟨none, none⟩ :=
    ⟨fun _ absent => (by cases absent), fun _ absent => (by cases absent)⟩
  refine ⟨plain, billingRule_wellFormed, rfl, rfl, rfl, ?_, ?_⟩
  · intro faithful
    obtain ⟨consumerID, after, consumer, ran, -⟩ := faithful ⟨0, 0, 0, 0⟩ ∅
    cases congrArg Prod.fst ran
  · intro faithful
    obtain ⟨consumerID, after, consumer, ran, -⟩ := faithful ⟨0, 0, 0, 0⟩ ∅
    cases congrArg Prod.fst ran

end EventGateway.Consumers
