import EventGateway.Domain.Event
import EventGateway.Lib.Json.Object
import Mathlib.Data.Finset.Sort
import Mathlib.Data.String.Basic

/-! The JSON format of events on Kafka: `Event.MarshalJSON` with `JSONSerializer.Serialize`
on one side and `JSONSerializer.Deserialize` on the other. The text of a time in RFC 3339
is a parameter, as the reader never looks at it. -/

namespace EventGateway.Kafka
open Lib.Json

/-- Why `encoding/json` gives up: the text is not JSON, or a value has the wrong type. -/
inductive JsonError where
  | malformed
  | mismatch
  deriving DecidableEq

inductive SerializerError where
  /-- `event cannot be nil` -/
  | nilEvent
  /-- `failed to marshal event: %w` -/
  | marshal (cause : JsonError)
  /-- `data cannot be empty` -/
  | emptyData
  /-- `failed to unmarshal event: %w` -/
  | unmarshal (cause : JsonError)
  /-- `failed to create event entity: %w` -/
  | createEntity (cause : String)
  deriving DecidableEq

def omitEmpty (name : String) (present : Prop) [Decidable present] (value : Text) : List Member :=
  if present then [(name, value)] else []

def sortedEntries (entries : StringMap) : List (String × String) :=
  (entries.keys.sort (· ≤ ·)).map (fun key => (key, (entries.lookup key).getD ""))

def encodeMap (entries : StringMap) : Text :=
  encodeObject ((sortedEntries entries).map (fun entry => (entry.1, encodeString entry.2)))

def dataMember (data : Bytes) : Option (List Member) :=
  if data = [] then some [] else (compact data).map (fun data => [("data", data)])

/-- The members of the struct that `MarshalJSON` fills in, in its order. -/
def eventMembers (rfc3339 : Time → String) (e : Event) (data : List Member) : List Member :=
  [("id", encodeString e.id), ("source", encodeString e.source), ("type", encodeString e.eventType),
    ("subject", encodeString e.subject)] ++ data ++
  [("dataContentType", encodeString e.dataContentType)] ++
  omitEmpty "schemaUrl" (e.schemaURL ≠ "") (encodeString e.schemaURL) ++
  [("timestamp", encodeString (rfc3339 e.timestamp))] ++
  omitEmpty "metadata" (e.metadata ≠ ∅) (encodeMap e.metadata) ++
  omitEmpty "correlationId" (e.correlationID ≠ "") (encodeString e.correlationID) ++
  omitEmpty "causationId" (e.causationID ≠ "") (encodeString e.causationID) ++
  omitEmpty "partitionKey" (e.partitionKey ≠ "") (encodeString e.partitionKey) ++
  [("priority", encodeInt e.priority)]

def marshalJSON (rfc3339 : Time → String) (e : Event) : Option Text :=
  (dataMember e.data).map (fun data => encodeObject (eventMembers rfc3339 e data))

def serialize (rfc3339 : Time → String) (event : Option Event) : Except SerializerError Text :=
  match event with
  | none => .error .nilEvent
  | some e => match (marshalJSON rfc3339 e).bind compact with
    | some text => .ok text
    | none => .error (.marshal .malformed)

structure EventDeserializationDTO where
  id : String := ""
  source : String := ""
  type : String := ""
  subject : String := ""
  data : Bytes := []
  dataContentType : String := ""
  schemaURL : String := ""
  timestamp : String := ""
  metadata : StringMap := ∅
  correlationID : String := ""
  causationID : String := ""
  partitionKey : String := ""
  priority : Int64 := 0

inductive Field where
  | id | source | type | subject | data | dataContentType | schemaURL | timestamp | metadata
  | correlationID | causationID | partitionKey | priority
  deriving DecidableEq

def Field.tag : Field → String
  | .id => "id"
  | .source => "source"
  | .type => "type"
  | .subject => "subject"
  | .data => "data"
  | .dataContentType => "dataContentType"
  | .schemaURL => "schemaUrl"
  | .timestamp => "timestamp"
  | .metadata => "metadata"
  | .correlationID => "correlationId"
  | .causationID => "causationId"
  | .partitionKey => "partitionKey"
  | .priority => "priority"

def Field.all : List Field :=
  [.id, .source, .type, .subject, .data, .dataContentType, .schemaURL, .timestamp, .metadata,
    .correlationID, .causationID, .partitionKey, .priority]

/-- Case folding, as far as it can lead to an ASCII letter: U+017F folds to `S` and
U+212A to `K`. -/
def foldChar (c : Char) : Char :=
  if c = Char.ofNat 0x17F then Char.ofNat 0x53
  else if c = Char.ofNat 0x212A then Char.ofNat 0x4B
  else c.toUpper

def foldName (name : String) : List Char := name.toList.map foldChar

def fieldNamed (name : String) : Option Field :=
  match Field.all.find? (fun field => field.tag = name) with
  | some field => some field
  | none => Field.all.find? (fun field => foldName field.tag = foldName name)

def decodeText (current : String) (raw : Text) : Except JsonError String :=
  match raw.head? with
  | some 0x6E => .ok current
  | some 0x22 => match unquote raw with
    | some text => .ok text
    | none => .error .malformed
  | _ => .error .mismatch

def decodeInt (current : Int64) (raw : Text) : Except JsonError Int64 :=
  match raw.head? with
  | some 0x6E => .ok current
  | some c => if c = minus ∨ isDigit c then
      match parseInt raw with
      | some n => .ok n
      | none => .error .mismatch
    else .error .mismatch
  | none => .error .mismatch

/-- One entry of a map; a `null` value is the empty string. -/
def decodeEntry (entries : StringMap) (member : Text × Text) : Except JsonError StringMap :=
  match unquote member.1 with
  | some key => (decodeText "" member.2).map (fun value => entries.insert key value)
  | none => .error .malformed

/-- Read a map into the entries that are there; `null` clears them. -/
def decodeMap (current : StringMap) (raw : Text) : Except JsonError StringMap :=
  match raw.head? with
  | some 0x6E => .ok ∅
  | some 0x7B => (members raw).foldlM decodeEntry current
  | _ => .error .mismatch

def storeField (dto : EventDeserializationDTO) (field : Field) (raw : Text) :
    Except JsonError EventDeserializationDTO :=
  match field with
  | .id => (decodeText dto.id raw).map (fun id => { dto with id })
  | .source => (decodeText dto.source raw).map (fun source => { dto with source })
  | .type => (decodeText dto.type raw).map (fun type => { dto with type })
  | .subject => (decodeText dto.subject raw).map (fun subject => { dto with subject })
  | .data => .ok { dto with data := raw }
  | .dataContentType =>
    (decodeText dto.dataContentType raw).map (fun dataContentType => { dto with dataContentType })
  | .schemaURL => (decodeText dto.schemaURL raw).map (fun schemaURL => { dto with schemaURL })
  | .timestamp => (decodeText dto.timestamp raw).map (fun timestamp => { dto with timestamp })
  | .metadata => (decodeMap dto.metadata raw).map (fun metadata => { dto with metadata })
  | .correlationID => (decodeText dto.correlationID raw).map (fun correlationID => { dto with correlationID })
  | .causationID => (decodeText dto.causationID raw).map (fun causationID => { dto with causationID })
  | .partitionKey => (decodeText dto.partitionKey raw).map (fun partitionKey => { dto with partitionKey })
  | .priority => (decodeInt dto.priority raw).map (fun priority => { dto with priority })

section Struct
variable (store : EventDeserializationDTO → Field → Text → Except JsonError EventDeserializationDTO)

def storeMember (dto : EventDeserializationDTO) (member : Text × Text) :
    Except JsonError EventDeserializationDTO :=
  match unquote member.1 with
  | some name => match fieldNamed name with
    | some field => store dto field member.2
    | none => .ok dto
  | none => .error .malformed

/-- `json.Unmarshal` into the fields of a DTO, given what stores the value of a field. -/
def unmarshalFields (text : Text) : Except JsonError EventDeserializationDTO :=
  if valid text then
    match (text.dropWhile isSpace).head? with
    | some 0x7B => (members text).foldlM (storeMember store) {}
    | some 0x6E => .ok {}
    | _ => .error .mismatch
  else .error .malformed

theorem unmarshalFields_encodeObject {all : List Member} (values : ∀ member ∈ all, Value member.2) :
    unmarshalFields store (encodeObject all) =
      if depth (encodeObject all) ≤ maxNestingDepth then
        (all.map (fun member => (encodeString member.1, member.2))).foldlM (storeMember store) {}
      else .error .malformed := by
  obtain ⟨rest, written⟩ := encodeObject_eq all
  have head : ((encodeObject all).dropWhile isSpace).head? = some 0x7B := by
    rw [written]
    rfl
  simp only [unmarshalFields, (value_encodeObject values).valid_iff, head, members_encodeObject values]

end Struct

def unmarshal (text : Text) : Except JsonError EventDeserializationDTO := unmarshalFields storeField text

/-- The optional fields, applied in the order of `Deserialize`. The timestamp is not
among them. -/
def applyOptional (dto : EventDeserializationDTO) (event : Event) : Event :=
  let event := if dto.schemaURL ≠ "" then event.withSchemaURL dto.schemaURL else event
  let event := if dto.correlationID ≠ "" ∨ dto.causationID ≠ "" then
    event.withCorrelation dto.correlationID dto.causationID else event
  let event := if dto.metadata ≠ ∅ then event.withMetadata dto.metadata else event
  let event := if 0 < dto.priority then event.withPriority dto.priority else event
  if dto.partitionKey ≠ "" then event.withPartitionKey dto.partitionKey else event

def deserialize (text : Text) (timestamp createdAt : Time) : Except SerializerError Event :=
  if text = [] then .error .emptyData
  else match unmarshal text with
  | .error cause => .error (.unmarshal cause)
  | .ok dto =>
    match Event.newEvent dto.id dto.source dto.type dto.subject dto.data dto.dataContentType
      timestamp createdAt with
    | .error cause => .error (.createEntity cause)
    | .ok event => .ok (applyOptional dto event)

theorem decodeText_encodeString (current text : String) :
    decodeText current (encodeString text) = .ok text := by
  have read := unquote_encodeString text
  obtain ⟨body, written⟩ := encodeString_eq text
  rw [written] at read ⊢
  simp only [decodeText, List.head?_cons, read]

theorem encodeInt_head (n : Int64) :
    ∃ c rest, encodeInt n = c :: rest ∧ c ≠ 0x6E ∧ (c = minus ∨ isDigit c = true) := by
  obtain ⟨digits, written, nonempty, bound, -⟩ := encodeNat_digits n.toInt.natAbs
  unfold encodeInt
  split
  next => exact ⟨minus, _, rfl, by decide, .inl rfl⟩
  next =>
    cases digits with
    | nil => exact absurd rfl nonempty
    | cons d rest =>
      have digit := digitByte_isDigit d (bound d List.mem_cons_self)
      refine ⟨digitByte d, rest.map digitByte, written, fun same => ?_, .inr digit⟩
      rw [same] at digit
      exact absurd digit (by decide)

theorem decodeInt_encodeInt (current n : Int64) : decodeInt current (encodeInt n) = .ok n := by
  have read := parseInt_encodeInt n
  obtain ⟨c, rest, written, other, number⟩ := encodeInt_head n
  rw [written] at read ⊢
  unfold decodeInt
  split
  next same => exact absurd (Option.some.inj same) other
  next d _ same =>
    cases Option.some.inj same
    simp only [number, if_true, read]
  next same => cases same

theorem decodeEntry_fold (entries : List (String × String)) (start : StringMap) :
    (entries.map (fun entry => (encodeString entry.1, encodeString entry.2))).foldlM decodeEntry start =
      .ok (entries.foldl (fun entries entry => entries.insert entry.1 entry.2) start) := by
  induction entries generalizing start with
  | nil => rfl
  | cons entry rest ih =>
    have read : decodeEntry start (encodeString entry.1, encodeString entry.2) =
        .ok (start.insert entry.1 entry.2) := by
      simp only [decodeEntry, unquote_encodeString, decodeText_encodeString, Except.map]
    rw [List.map_cons, List.foldlM_cons, read]
    exact ih _

theorem lookup_insert_all (entries : StringMap) (keys : List String) (start : StringMap) (key : String) :
    ((keys.map (fun key => (key, (entries.lookup key).getD ""))).foldl
      (fun entries entry => entries.insert entry.1 entry.2) start).lookup key =
      if key ∈ keys then some ((entries.lookup key).getD "") else start.lookup key := by
  induction keys generalizing start with
  | nil => simp
  | cons first rest ih =>
    rw [List.map_cons, List.foldl_cons, ih]
    by_cases later : key ∈ rest
    · simp [later]
    · by_cases same : key = first
      · subst same
        simp [later]
      · simp [later, same, Finmap.lookup_insert_of_ne]

theorem insert_sortedEntries (entries : StringMap) :
    (sortedEntries entries).foldl (fun entries entry => entries.insert entry.1 entry.2) ∅ = entries := by
  apply Finmap.ext_lookup
  intro key
  rw [sortedEntries, lookup_insert_all]
  by_cases known : key ∈ entries
  · obtain ⟨value, found⟩ := Finmap.mem_iff.mp known
    simp [Finset.mem_sort, Finmap.mem_keys, known, found]
  · simp [Finset.mem_sort, Finmap.mem_keys, known, Finmap.lookup_eq_none.mpr known]

theorem value_encodeMap (entries : StringMap) : Value (encodeMap entries) := by
  apply value_encodeObject
  intro member known
  obtain ⟨entry, -, rfl⟩ := List.mem_map.mp known
  exact value_encodeString entry.2

theorem decodeMap_encodeMap (entries : StringMap) : decodeMap ∅ (encodeMap entries) = .ok entries := by
  have read : members (encodeMap entries) =
      (sortedEntries entries).map (fun entry => (encodeString entry.1, encodeString entry.2)) := by
    rw [encodeMap, members_encodeObject, List.map_map]
    · rfl
    · intro member known
      obtain ⟨entry, -, rfl⟩ := List.mem_map.mp known
      exact value_encodeString entry.2
  have head : (encodeMap entries).head? = some 0x7B := by
    obtain ⟨rest, written⟩ := encodeObject_eq _
    rw [encodeMap, written]
    rfl
  simp only [decodeMap, head, read, decodeEntry_fold, insert_sortedEntries]

theorem fieldNamed_tag (field : Field) : fieldNamed field.tag = some field := by
  cases field <;> decide

def EventDeserializationDTO.setText (dto : EventDeserializationDTO) (field : Field) (value : String) :
    EventDeserializationDTO :=
  match field with
  | .id => { dto with id := value }
  | .source => { dto with source := value }
  | .type => { dto with type := value }
  | .subject => { dto with subject := value }
  | .dataContentType => { dto with dataContentType := value }
  | .schemaURL => { dto with schemaURL := value }
  | .timestamp => { dto with timestamp := value }
  | .correlationID => { dto with correlationID := value }
  | .causationID => { dto with causationID := value }
  | .partitionKey => { dto with partitionKey := value }
  | .data | .metadata | .priority => dto

theorem storeField_text (dto : EventDeserializationDTO) {field : Field}
    (textual : field ∉ [Field.data, .metadata, .priority]) (value : String) :
    storeField dto field (encodeString value) = .ok (dto.setText field value) := by
  cases field <;> simp_all [storeField, decodeText_encodeString, Except.map, EventDeserializationDTO.setText]

def Reads (before : EventDeserializationDTO) (all : List Member) (after : EventDeserializationDTO) : Prop :=
  (all.map (fun member => (encodeString member.1, member.2))).foldlM (storeMember storeField) before = .ok after

namespace Reads
variable {before middle after : EventDeserializationDTO}

theorem append {first second : List Member} (head : Reads before first middle)
    (tail : Reads middle second after) : Reads before (first ++ second) after := by
  unfold Reads at head tail ⊢
  rw [List.map_append, List.foldlM_append, head]
  exact tail

theorem cons {member : Member} {rest : List Member} (head : Reads before [member] middle)
    (tail : Reads middle rest after) : Reads before (member :: rest) after :=
  head.append tail

theorem one (field : Field) {value : Text} (stored : storeField before field value = .ok after) :
    Reads before [(field.tag, value)] after := by
  unfold Reads
  rw [List.map_singleton, List.foldlM_cons]
  simp only [storeMember, unquote_encodeString, fieldNamed_tag, stored]
  rfl

theorem text (field : Field) (value : String) (textual : field ∉ [Field.data, .metadata, .priority]) :
    Reads before [(field.tag, encodeString value)] (before.setText field value) :=
  one field (storeField_text before textual value)

theorem omitEmpty (field : Field) {present : Prop} [Decidable present] {value : Text}
    (stored : storeField before field value = .ok after) (same : ¬present → before = after) :
    Reads before (Kafka.omitEmpty field.tag present value) after := by
  unfold Kafka.omitEmpty
  split
  next => exact one field stored
  next absent =>
    rw [same absent]
    rfl

theorem metadata (entries : StringMap) (unset : before.metadata = ∅) :
    Reads before (Kafka.omitEmpty "metadata" (entries ≠ ∅) (encodeMap entries))
      { before with metadata := entries } := by
  refine omitEmpty .metadata ?_ ?_
  · simp only [storeField, unset, decodeMap_encodeMap, Except.map]
  · intro empty
    rw [not_not.mp empty, ← unset]

theorem omitText (field : Field) (value : String) (textual : field ∉ [Field.data, .metadata, .priority])
    (unset : before = before.setText field "") :
    Reads before (Kafka.omitEmpty field.tag (value ≠ "") (encodeString value)) (before.setText field value) :=
  omitEmpty field (storeField_text before textual value) (fun empty => by rw [not_not.mp empty, ← unset])

end Reads

/-- The record that is read from a written event: all its fields but `createdAt`, the
timestamp as text. -/
def readBack (rfc3339 : Time → String) (e : Event) : EventDeserializationDTO where
  id := e.id
  source := e.source
  type := e.eventType
  subject := e.subject
  data := e.data
  dataContentType := e.dataContentType
  schemaURL := e.schemaURL
  timestamp := rfc3339 e.timestamp
  metadata := e.metadata
  correlationID := e.correlationID
  causationID := e.causationID
  partitionKey := e.partitionKey
  priority := e.priority

theorem reads_eventMembers (rfc3339 : Time → String) (e : Event) :
    Reads {} (eventMembers rfc3339 e [("data", e.data)]) (readBack rfc3339 e) := by
  have id : Reads {} [_] _ := .text .id e.id (by decide)
  have required := id.cons ((Reads.text .source e.source (by decide)).cons
    ((Reads.text .type e.eventType (by decide)).cons (Reads.text .subject e.subject (by decide))))
  have payload := (required.append (.one .data (rfl : storeField _ .data e.data = _))).append
    (.text .dataContentType e.dataContentType (by decide))
  have stamped := (payload.append (.omitText .schemaURL e.schemaURL (by decide) rfl)).append
    (.text .timestamp (rfc3339 e.timestamp) (by decide))
  have annotated := stamped.append (.metadata e.metadata rfl)
  have linked := (annotated.append (.omitText .correlationID e.correlationID (by decide) rfl)).append
    (.omitText .causationID e.causationID (by decide) rfl)
  have keyed := linked.append (.omitText .partitionKey e.partitionKey (by decide) rfl)
  refine keyed.append (.one .priority ?_)
  simp only [storeField, decodeInt_encodeInt, Except.map]
  rfl

theorem value_eventMembers (rfc3339 : Time → String) (e : Event) {data : Text} (payload : Value data) :
    ∀ member ∈ eventMembers rfc3339 e [("data", data)], Value member.2 := by
  have optional (name : String) (present : Prop) [Decidable present] {value : Text} (known : Value value) :
      ∀ member ∈ omitEmpty name present value, Value member.2 := by
    unfold omitEmpty
    split
    next => simpa using known
    next => simp
  have texts (name : String) (value : String) := optional name (value ≠ "") (value_encodeString value)
  simp only [eventMembers, List.forall_mem_append, List.forall_mem_cons, List.not_mem_nil, false_implies,
    implies_true, and_true, value_encodeString, value_encodeInt, payload, true_and]
  exact ⟨⟨⟨⟨texts _ _, optional _ _ (value_encodeMap e.metadata)⟩, texts _ _⟩, texts _ _⟩, texts _ _⟩

theorem depth_encodeMap_le (entries : StringMap) : depth (encodeMap entries) ≤ 1 := by
  have strings : ∀ member ∈ (sortedEntries entries).map (fun entry => (entry.1, encodeString entry.2)),
      Value member.2 ∧ depth member.2 ≤ 0 := by
    intro member known
    obtain ⟨entry, -, rfl⟩ := List.mem_map.mp known
    exact ⟨value_encodeString entry.2, (depth_encodeString entry.2).le⟩
  exact (depth_encodeObject_le (fun member known => (strings member known).1)).mpr
    (fun member known => (strings member known).2)

theorem depth_event_le (rfc3339 : Time → String) (e : Event) {data : Text} (payload : Value data) :
    depth (encodeObject (eventMembers rfc3339 e [("data", data)])) ≤ maxNestingDepth ↔
      depth data < maxNestingDepth := by
  have optional (name : String) (present : Prop) [Decidable present] {value : Text} (shallow : depth value ≤ 1) :
      ∀ member ∈ omitEmpty name present value, depth member.2 ≤ 9999 := by
    unfold omitEmpty
    split
    next => simpa using shallow.trans (by decide)
    next => simp
  have texts (name : String) (value : String) :=
    optional name (value ≠ "") ((depth_encodeString value).le.trans zero_le_one)
  have mapped := optional "metadata" (e.metadata ≠ ∅) (depth_encodeMap_le e.metadata)
  rw [show maxNestingDepth = 9999 + 1 from rfl, depth_encodeObject_le (value_eventMembers rfc3339 e payload),
    Nat.lt_succ_iff]
  simp only [eventMembers, List.forall_mem_append, List.forall_mem_cons, List.not_mem_nil, false_implies,
    implies_true, and_true, depth_encodeString, depth_encodeInt, Nat.zero_le, true_and]
  exact ⟨fun all => all.1.1.1.1.1,
    fun shallow => ⟨⟨⟨⟨⟨shallow, texts _ _⟩, mapped⟩, texts _ _⟩, texts _ _⟩, texts _ _⟩⟩

theorem unmarshal_encodeObject {all : List Member} (values : ∀ member ∈ all, Value member.2)
    (shallow : depth (encodeObject all) ≤ maxNestingDepth) {after : EventDeserializationDTO}
    (reads : Reads {} all after) : unmarshal (encodeObject all) = .ok after := by
  rw [unmarshal, unmarshalFields_encodeObject _ values, if_pos shallow]
  exact reads

theorem applyOptional_new (dto : EventDeserializationDTO) {event : Event} (noSchema : event.schemaURL = "")
    (noCorrelation : event.correlationID = "") (noCausation : event.causationID = "")
    (noKey : event.partitionKey = "") : applyOptional dto event =
      ((((event.withSchemaURL dto.schemaURL).withCorrelation dto.correlationID dto.causationID).withMetadata
        dto.metadata).withPriority (if 0 < dto.priority then dto.priority else event.priority)).withPartitionKey
        dto.partitionKey := by
  have ranked (e : Event) : (if 0 < dto.priority then e.withPriority dto.priority else e) =
      e.withPriority (if 0 < dto.priority then dto.priority else e.priority) := by
    split <;> rfl
  simp only [applyOptional]
  rw [Event.withSchemaURL_unless noSchema, Event.withCorrelation_unless, Event.withMetadata_unless, ranked,
    Event.withPartitionKey_unless]
  · rfl
  · exact noKey
  · exact noCorrelation
  · exact noCausation

/-- The event is one level of nesting on top of its data. -/
theorem serialize_settled (rfc3339 : Time → String) {e : Event} (settled : Settled e.data) :
    serialize rfc3339 (some e) =
      if depth e.data < maxNestingDepth then .ok (encodeObject (eventMembers rfc3339 e [("data", e.data)]))
      else .error (.marshal .malformed) := by
  have payload := settled.toValue
  have values := value_eventMembers rfc3339 e payload
  have raw : dataMember e.data = some [("data", e.data)] := by
    rw [dataMember, if_neg e.data_ne, payload.compact (payload.valid_iff.mp settled.valid)]
    rfl
  simp only [serialize, marshalJSON, raw, Option.map_some, Option.bind_some]
  split_ifs with shallow
  · rw [(value_encodeObject values).compact ((depth_event_le rfc3339 e payload).mpr shallow)]
  · have refused : ¬valid (encodeObject (eventMembers rfc3339 e [("data", e.data)])) = true :=
      fun whole => shallow ((depth_event_le rfc3339 e payload).mp ((value_encodeObject values).valid_iff.mp whole))
    have failed : compact (encodeObject (eventMembers rfc3339 e [("data", e.data)])) = none := if_neg refused
    rw [failed]

/-- Valid events are written and read back; the reading of the clock takes the place of
the timestamp, and a priority that is not positive becomes the default one. -/
theorem deserialize_serialize (rfc3339 : Time → String) {e : Event} (settled : Settled e.data)
    (shallow : depth e.data < maxNestingDepth) (timestamp createdAt : Time) :
    ∃ text, serialize rfc3339 (some e) = .ok text ∧
      deserialize text timestamp createdAt = .ok { e with
        timestamp, createdAt
        priority := if 0 < e.priority then e.priority else priorityMedium } := by
  have payload := settled.toValue
  have written := serialize_settled rfc3339 settled
  rw [if_pos shallow] at written
  have read := unmarshal_encodeObject (value_eventMembers rfc3339 e payload)
    ((depth_event_le rfc3339 e payload).mpr shallow) (reads_eventMembers rfc3339 e)
  obtain ⟨rest, shape⟩ := encodeObject_eq (eventMembers rfc3339 e [("data", e.data)])
  have nonempty : encodeObject (eventMembers rfc3339 e [("data", e.data)]) ≠ [] := by
    rw [shape]
    exact List.cons_ne_nil _ _
  refine ⟨_, written, ?_⟩
  simp only [deserialize, if_neg nonempty, read, readBack, Event.newEvent_ok timestamp createdAt e.valid]
  rw [applyOptional_new _ rfl rfl rfl rfl]
  simp only [Event.withSchemaURL, Event.withCorrelation, Event.withMetadata, Event.withPriority,
    Event.withPartitionKey, Finmap.union_empty]

structure SameFields (e e' : Event) : Prop where
  id : e'.id = e.id
  source : e'.source = e.source
  eventType : e'.eventType = e.eventType
  subject : e'.subject = e.subject
  data : e'.data = e.data
  dataContentType : e'.dataContentType = e.dataContentType
  schemaURL : e'.schemaURL = e.schemaURL
  timestamp : e'.timestamp = e.timestamp
  metadata : e'.metadata = e.metadata
  correlationID : e'.correlationID = e.correlationID
  causationID : e'.causationID = e.causationID
  partitionKey : e'.partitionKey = e.partitionKey
  priority : e'.priority = e.priority

def RoundTrips (rfc3339 : Time → String) (e : Event) (timestamp createdAt : Time) : Prop :=
  ∃ text e', serialize rfc3339 (some e) = .ok text ∧ deserialize text timestamp createdAt = .ok e' ∧
    SameFields e e'

theorem roundTrips_fields (rfc3339 : Time → String) {e : Event} (settled : Settled e.data)
    (shallow : depth e.data < maxNestingDepth) (timestamp createdAt : Time) :
    RoundTrips rfc3339 e timestamp createdAt ↔ timestamp = e.timestamp ∧
      (if 0 < e.priority then e.priority else priorityMedium) = e.priority := by
  obtain ⟨text, written, read⟩ := deserialize_serialize rfc3339 settled shallow timestamp createdAt
  constructor
  · rintro ⟨text', e', written', read', same⟩
    rw [written] at written'
    cases written'
    rw [read] at read'
    cases read'
    exact ⟨same.timestamp, same.priority⟩
  · rintro ⟨sameTime, samePriority⟩
    exact ⟨text, _, written, read, ⟨rfl, rfl, rfl, rfl, rfl, rfl, rfl, sameTime, rfl, rfl, rfl, rfl, samePriority⟩⟩

theorem RoundTrips.shallow {rfc3339 : Time → String} {e : Event} (settled : Settled e.data)
    {timestamp createdAt : Time} (kept : RoundTrips rfc3339 e timestamp createdAt) :
    depth e.data < maxNestingDepth := by
  obtain ⟨text, -, written, -, -⟩ := kept
  rw [serialize_settled rfc3339 settled] at written
  by_contra deep
  rw [if_neg deep] at written
  cases written

/-- An event with settled data comes back in all its fields exactly when its priority is positive, the clock at the
reader shows the event's own timestamp, and the data leaves room for one more level of nesting. -/
theorem roundTrips_iff (rfc3339 : Time → String) (e : Event) (settled : Settled e.data)
    (timestamp createdAt : Time) :
    RoundTrips rfc3339 e timestamp createdAt ↔
      0 < e.priority ∧ timestamp = e.timestamp ∧ depth e.data < maxNestingDepth := by
  constructor
  · intro kept
    have shallow := kept.shallow settled
    obtain ⟨sameTime, samePriority⟩ := (roundTrips_fields rfc3339 settled shallow timestamp createdAt).mp kept
    refine ⟨?_, sameTime, shallow⟩
    by_contra low
    rw [if_neg low] at samePriority
    rw [← samePriority] at low
    exact low (by decide)
  · rintro ⟨positive, sameTime, shallow⟩
    exact (roundTrips_fields rfc3339 settled shallow timestamp createdAt).mpr ⟨sameTime, if_pos positive⟩

theorem settled_sample : Settled (Event.sample "order-1" 0).data := ⟨by decide, by decide, by decide⟩

theorem roundTrips_at_once : RoundTrips (fun _ => "1970-01-01T00:00:00Z") (Event.sample "order-1" 0) 0 1 :=
  (roundTrips_iff _ _ settled_sample 0 1).mpr ⟨by decide, rfl, by decide⟩

/-- An event read one second after it was written comes back with a new timestamp, and
an event of unspecified priority comes back with the default one. -/
theorem roundTrip_loses_timestamp_and_priority :
    let rfc3339 : Time → String := fun _ => "1970-01-01T00:00:00Z"
    let unranked := (Event.sample "order-1" 0).withPriority priorityUnspecified
    Settled (Event.sample "order-1" 0).data ∧
      ¬RoundTrips rfc3339 (Event.sample "order-1" 0) 1000000000 1000000000 ∧
      ¬RoundTrips rfc3339 unranked 0 0 := by
  have same : Settled ((Event.sample "order-1" 0).withPriority priorityUnspecified).data := settled_sample
  refine ⟨settled_sample, ?_, ?_⟩
  · rw [roundTrips_fields _ settled_sample (by decide)]
    decide
  · rw [roundTrips_fields _ same (by decide)]
    decide

end EventGateway.Kafka
