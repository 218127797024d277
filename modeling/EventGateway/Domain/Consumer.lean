import EventGateway.Domain.Filter

/-! The transformation value object and the consumer entity. A transformation has exported fields,
so it may be invalid; the outcome of the checks in `NewConsumer` is a field of the consumer. -/

namespace EventGateway

inductive TransformationType where
  | none
  | jq
  | cel
  | template
  deriving DecidableEq

def TransformationType.string : TransformationType → String
  | .none => "None"
  | .jq => "JQ"
  | .cel => "CEL"
  | .template => "Template"

structure Transformation where
  type : TransformationType
  expression : String
  deriving DecidableEq

namespace Transformation

def validate (t : Transformation) : Except String Unit :=
  if t.type = .none then
    if t.expression ≠ "" then .error "transformation type None must have empty expression" else .ok ()
  else if t.expression = "" then .error ("transformation expression cannot be empty for type " ++ t.type.string)
  else .ok ()

def newTransformation (type : TransformationType) (expression : String) : Except String Transformation :=
  match validate ⟨type, expression⟩ with
  | .error err => .error err
  | .ok () => .ok ⟨type, expression⟩

theorem validate_ok {t : Transformation} : t.validate = .ok () ↔ (t.type = .none ↔ t.expression = "") := by
  unfold validate
  by_cases plain : t.type = .none
  · by_cases empty : t.expression = ""
    · simp [plain, empty]
    · simp [plain, empty]
  · by_cases empty : t.expression = ""
    · simp [plain, empty]
    · simp [plain, empty]

end Transformation

inductive ConsumerStatus where
  | active
  | inactive
  | draining
  deriving DecidableEq

def validateConsumerFields (id name groupID : String) (transformation : Transformation) : Except String Unit :=
  if id = "" then .error "consumer ID cannot be empty"
  else if name = "" then .error "consumer name cannot be empty"
  else if groupID = "" then .error "consumer group ID cannot be empty"
  else transformation.validate.mapError ("invalid transformation: " ++ ·)

theorem validateConsumerFields_ok {id name groupID : String} {transformation : Transformation} :
    validateConsumerFields id name groupID transformation = .ok () ↔
      id ≠ "" ∧ name ≠ "" ∧ groupID ≠ "" ∧ transformation.validate = .ok () := by
  unfold validateConsumerFields
  cases transformation.validate with
  | error err => split_ifs <;> simp_all [Except.mapError]
  | ok => split_ifs <;> simp_all [Except.mapError]

structure Consumer (engine : RegexpEngine) where
  id : String
  name : String
  groupID : String
  filter : EventFilter engine
  transformation : Transformation
  status : ConsumerStatus
  createdAt : Time
  updatedAt : Time
  valid : validateConsumerFields id name groupID transformation = .ok ()

namespace Consumer
variable {engine : RegexpEngine}

def newConsumer (id name groupID : String) (filter : EventFilter engine) (transformation : Transformation)
    (now : Time) : Except String (Consumer engine) :=
  match checked : validateConsumerFields id name groupID transformation with
  | .error err => .error err
  | .ok () => .ok {
      id, name, groupID, filter, transformation
      status := .inactive, createdAt := now, updatedAt := now, valid := checked }

def activate (consumer : Consumer engine) (now : Time) : Except String (Consumer engine) :=
  if consumer.status = .draining then .error "cannot activate a draining consumer"
  else .ok { consumer with status := .active, updatedAt := now }

theorem groupID_ne (consumer : Consumer engine) : consumer.groupID ≠ "" :=
  (validateConsumerFields_ok.mp consumer.valid).2.2.1

theorem newConsumer_fields {id name groupID : String} {filter : EventFilter engine}
    {transformation : Transformation} {now : Time} {consumer : Consumer engine}
    (built : newConsumer id name groupID filter transformation now = .ok consumer) :
    consumer.id = id ∧ consumer.groupID = groupID ∧ consumer.transformation = transformation := by
  unfold newConsumer at built
  split at built
  next => cases built
  next =>
    cases built
    exact ⟨rfl, rfl, rfl⟩

theorem newConsumer_ok {id name groupID : String} (named : id ≠ "") (titled : name ≠ "") (grouped : groupID ≠ "")
    {transformation : Transformation} (sound : transformation.validate = .ok ()) (filter : EventFilter engine)
    (now : Time) :
    ∃ consumer, newConsumer id name groupID filter transformation now = .ok consumer ∧ consumer.id = id ∧
      consumer.name = name ∧ consumer.filter = filter ∧ consumer.transformation = transformation ∧
      consumer.status = .inactive := by
  have checked : validateConsumerFields id name groupID transformation = .ok () :=
    validateConsumerFields_ok.mpr ⟨named, titled, grouped, sound⟩
  unfold newConsumer
  split
  next failed => cases checked.symm.trans failed
  next => exact ⟨_, rfl, rfl, rfl, rfl, rfl, rfl⟩

end Consumer
end EventGateway
