import Mathlib.Data.Finmap

/-! The event entity. Its Go fields are private and every constructor validates,
so the record carries the outcome of `validate` as a field. Times are counted in
nanoseconds from the Unix epoch; the readings of `time.Now` are arguments. -/

namespace EventGateway

abbrev Bytes := List UInt8
abbrev Time := Int
abbrev Duration := Int64
abbrev StringMap := Finmap (fun _ : String => String)

def unix (time : Time) : Int := time / 1000000000

def idText (first second : Time) : String := s!"{first}-{second.tmod 1000}"

theorem idText_ne (first second : Time) : idText first second ≠ "" := by
  intro empty
  simp only [idText, String.append_eq_empty_iff] at empty
  exact absurd empty.1.2 (by decide)

abbrev Priority := Int64

def priorityUnspecified : Priority := 0
def priorityLow : Priority := 1
def priorityMedium : Priority := 2
def priorityHigh : Priority := 3
def priorityCritical : Priority := 4

/-- The checks of `Event.Validate`, on the five fields that it reads. -/
def validateFields (id source eventType : String) (data : Bytes) (dataContentType : String) :
    Except String Unit :=
  if id = "" then .error "event ID cannot be empty"
  else if source = "" then .error "event source cannot be empty"
  else if eventType = "" then .error "event type cannot be empty"
  else if data = [] then .error "event data cannot be empty"
  else if dataContentType = "" then .error "event data content type cannot be empty"
  else .ok ()

structure Event where
  id : String
  source : String
  eventType : String
  subject : String
  data : Bytes
  dataContentType : String
  schemaURL : String
  timestamp : Time
  metadata : StringMap
  correlationID : String
  causationID : String
  partitionKey : String
  priority : Priority
  createdAt : Time
  valid : validateFields id source eventType data dataContentType = .ok ()
  deriving DecidableEq

theorem validateFields_ok {id source eventType : String} {data : Bytes} {dataContentType : String} :
    validateFields id source eventType data dataContentType = .ok () ↔
      id ≠ "" ∧ source ≠ "" ∧ eventType ≠ "" ∧ data ≠ [] ∧ dataContentType ≠ "" := by
  unfold validateFields
  split_ifs <;> simp_all

namespace Event

def validate (e : Event) : Except String Unit :=
  validateFields e.id e.source e.eventType e.data e.dataContentType

def newEvent (id source eventType subject : String) (data : Bytes) (dataContentType : String)
    (timestamp createdAt : Time) : Except String Event :=
  match checked : validateFields id source eventType data dataContentType with
  | .error err => .error err
  | .ok () => .ok {
      id, source, eventType, subject, data, dataContentType, timestamp, createdAt
      schemaURL := ""
      metadata := ∅
      correlationID := ""
      causationID := ""
      partitionKey := ""
      priority := priorityMedium
      valid := checked }

def withMetadata (e : Event) (metadata : StringMap) : Event :=
  { e with metadata := metadata ∪ e.metadata }

def withCorrelation (e : Event) (correlationID causationID : String) : Event :=
  { e with correlationID, causationID }

def withPriority (e : Event) (priority : Priority) : Event :=
  { e with priority }

def withPartitionKey (e : Event) (partitionKey : String) : Event :=
  { e with partitionKey }

def withSchemaURL (e : Event) (schemaURL : String) : Event :=
  { e with schemaURL }

theorem id_ne (e : Event) : e.id ≠ "" :=
  (validateFields_ok.mp e.valid).1

theorem data_ne (e : Event) : e.data ≠ [] :=
  (validateFields_ok.mp e.valid).2.2.2.1

theorem newEvent_ok {id source eventType subject : String} {data : Bytes} {dataContentType : String}
    (timestamp createdAt : Time)
    (checked : validateFields id source eventType data dataContentType = .ok ()) :
    newEvent id source eventType subject data dataContentType timestamp createdAt = .ok {
      id, source, eventType, subject, data, dataContentType, timestamp, createdAt
      schemaURL := ""
      metadata := ∅
      correlationID := ""
      causationID := ""
      partitionKey := ""
      priority := priorityMedium
      valid := checked } := by
  unfold newEvent
  split
  next err failed => rw [checked] at failed; cases failed
  next => rfl

theorem newEvent_error {id source eventType subject : String} {data : Bytes} {dataContentType : String}
    (timestamp createdAt : Time) {err : String}
    (checked : validateFields id source eventType data dataContentType = .error err) :
    newEvent id source eventType subject data dataContentType timestamp createdAt = .error err := by
  unfold newEvent
  split
  next other failed => rw [checked] at failed; cases failed; rfl
  next passed => rw [checked] at passed; cases passed

section Defaults
variable {e : Event}

/-! A builder call that is skipped for the field's default is one that changes nothing. -/

theorem withSchemaURL_unless (unset : e.schemaURL = "") (schemaURL : String) :
    (if schemaURL ≠ "" then e.withSchemaURL schemaURL else e) = e.withSchemaURL schemaURL := by
  split
  next => rfl
  next skipped => rw [not_not.mp skipped, withSchemaURL, ← unset]

theorem withMetadata_unless (metadata : StringMap) :
    (if metadata ≠ ∅ then e.withMetadata metadata else e) = e.withMetadata metadata := by
  split
  next => rfl
  next skipped => rw [not_not.mp skipped, withMetadata, Finmap.empty_union]

theorem withCorrelation_unless (unset : e.correlationID = "") (unset' : e.causationID = "")
    (correlationID causationID : String) :
    (if correlationID ≠ "" ∨ causationID ≠ "" then e.withCorrelation correlationID causationID else e) =
      e.withCorrelation correlationID causationID := by
  split
  next => rfl
  next skipped =>
    obtain ⟨none, none'⟩ := not_or.mp skipped
    rw [not_not.mp none, not_not.mp none', withCorrelation]
    cases e
    cases unset
    cases unset'
    rfl

theorem withPartitionKey_unless (unset : e.partitionKey = "") (partitionKey : String) :
    (if partitionKey ≠ "" then e.withPartitionKey partitionKey else e) = e.withPartitionKey partitionKey := by
  split
  next => rfl
  next skipped => rw [not_not.mp skipped, withPartitionKey, ← unset]

end Defaults

/-- An event as `NewEvent` returns it for the payload `1`, for use in concrete runs. -/
def sample (id : String) (timestamp : Time) (named : id ≠ "" := by decide) : Event where
  id := id
  source := "orders"
  eventType := "order.created"
  subject := "/orders/1"
  data := [0x31]
  dataContentType := "application/json"
  schemaURL := ""
  timestamp := timestamp
  metadata := ∅
  correlationID := ""
  causationID := ""
  partitionKey := ""
  priority := priorityMedium
  createdAt := timestamp
  valid := validateFields_ok.mpr ⟨named, by decide, by decide, by decide, by decide⟩

end Event
end EventGateway
