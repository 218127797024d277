import EventGateway.Kafka.Serializer
import EventGateway.Lib.Json.Compact

/-! Messages of other producers. Whatever `Deserialize` accepts is an event that the format can carry: its data is
valid JSON and its priority is positive, so that writing it and reading it again changes nothing but the form of the
data. -/

namespace EventGateway.Kafka
open Lib.Json

theorem storeField_data {dto after : EventDeserializationDTO} {field : Field} {raw : Text}
    (stored : storeField dto field raw = .ok after) : after.data = dto.data ∨ after.data = raw := by
  have kept {α : Type} {read : Except JsonError α} {set : α → EventDeserializationDTO}
      (stored : read.map set = .ok after) (same : ∀ value, (set value).data = dto.data) : after.data = dto.data := by
    cases read with
    | error => cases stored
    | ok value =>
      cases stored
      exact same value
  cases field with
  | data =>
    cases stored
    exact .inr rfl
  | _ => exact .inl (kept stored (fun _ => rfl))

def Nests (data : Text) : Prop := valid data = true ∧ depth data < maxNestingDepth

def EventDeserializationDTO.Sound (dto : EventDeserializationDTO) : Prop := dto.data = [] ∨ Nests dto.data

theorem storeMember_sound {dto after : EventDeserializationDTO} {member : Text × Text} (sound : dto.Sound)
    (whole : Nests member.2) (stored : storeMember storeField dto member = .ok after) : after.Sound := by
  unfold storeMember at stored
  split at stored
  next name _ =>
    split at stored
    next field _ =>
      rcases storeField_data stored with same | same
      · unfold EventDeserializationDTO.Sound
        rw [same]
        exact sound
      · exact .inr (same ▸ whole)
    next =>
      cases stored
      exact sound
  next => cases stored

theorem storeMembers_sound {all : List (Text × Text)} (whole : ∀ member ∈ all, Nests member.2)
    {dto after : EventDeserializationDTO} (sound : dto.Sound)
    (stored : all.foldlM (storeMember storeField) dto = .ok after) : after.Sound := by
  induction all generalizing dto with
  | nil =>
    cases stored
    exact sound
  | cons member rest ih =>
    rw [List.foldlM_cons] at stored
    cases first : storeMember storeField dto member with
    | error =>
      rw [first] at stored
      cases stored
    | ok middle =>
      rw [first] at stored
      have middleSound := storeMember_sound sound (whole member List.mem_cons_self) first
      exact ih (fun other known => whole other (List.mem_cons_of_mem member known)) middleSound stored

theorem unmarshal_sound {text : Text} {dto : EventDeserializationDTO} (read : unmarshal text = .ok dto) :
    dto.Sound := by
  unfold unmarshal unmarshalFields at read
  split_ifs at read with whole
  split at read
  next opens => exact storeMembers_sound (fun member known => valid_of_mem_members whole opens known) (.inl rfl) read
  next =>
    cases read
    exact .inl rfl
  next => cases read

theorem deserialize_sound {text : Text} {timestamp createdAt : Time} {e : Event}
    (accepted : deserialize text timestamp createdAt = .ok e) : Nests e.data ∧ 0 < e.priority := by
  unfold deserialize at accepted
  split_ifs at accepted
  split at accepted
  next => cases accepted
  next dto read =>
    cases checked : validateFields dto.id dto.source dto.type dto.data dto.dataContentType with
    | error err =>
      rw [Event.newEvent_error timestamp createdAt checked] at accepted
      cases accepted
    | ok =>
      rw [Event.newEvent_ok timestamp createdAt checked] at accepted
      cases accepted
      rw [applyOptional_new dto rfl rfl rfl rfl]
      refine ⟨(unmarshal_sound read).resolve_left (validateFields_ok.mp checked).2.2.2.1, ?_⟩
      change 0 < if 0 < dto.priority then dto.priority else priorityMedium
      split
      next positive => exact positive
      next => decide

structure Reencoded (e e' : Event) : Prop where
  id : e'.id = e.id
  source : e'.source = e.source
  eventType : e'.eventType = e.eventType
  subject : e'.subject = e.subject
  data : compact e.data = some e'.data
  dataContentType : e'.dataContentType = e.dataContentType
  schemaURL : e'.schemaURL = e.schemaURL
  metadata : e'.metadata = e.metadata
  correlationID : e'.correlationID = e.correlationID
  causationID : e'.causationID = e.causationID
  partitionKey : e'.partitionKey = e.partitionKey
  priority : e'.priority = e.priority

def replaceData (e : Event) (data : Bytes) (present : data ≠ []) : Event :=
  { e with
    data
    valid := by
      obtain ⟨named, sourced, typed, -, described⟩ := validateFields_ok.mp e.valid
      exact validateFields_ok.mpr ⟨named, sourced, typed, present, described⟩ }

theorem serialize_replaceData (rfc3339 : Time → String) {e : Event} (whole : valid e.data = true) :
    ∃ data, ∃ present : data ≠ [], compact e.data = some data ∧ Settled data ∧ depth data ≤ depth e.data ∧
      serialize rfc3339 (some e) = serialize rfc3339 (some (replaceData e data present)) := by
  obtain ⟨data, compacted, value, shallower⟩ := exists_compact whole
  obtain ⟨-, -, -, shallow⟩ := valid_iff.mp whole
  have settled := value.settled (shallower.trans shallow)
  have present : data ≠ [] := by
    rintro rfl
    exact absurd settled.valid (by decide)
  have raw : dataMember e.data = dataMember data := by
    rw [dataMember, dataMember, if_neg e.data_ne, if_neg present, compacted, value.compact (shallower.trans shallow)]
  have same : marshalJSON rfc3339 e = marshalJSON rfc3339 (replaceData e data present) := by
    unfold marshalJSON
    rw [raw]
    rfl
  refine ⟨data, present, compacted, settled, shallower, ?_⟩
  simp only [serialize, same]

/-- Every accepted message gives an event that is written without an error and read back the same, with its data
compacted and escaped. -/
theorem reencoding_stable (rfc3339 : Time → String) (text : Text) (timestamp createdAt : Time) (e : Event)
    (accepted : deserialize text timestamp createdAt = .ok e) (timestamp' createdAt' : Time) :
    ∃ written e', serialize rfc3339 (some e) = .ok written ∧
      deserialize written timestamp' createdAt' = .ok e' ∧ Reencoded e e' := by
  obtain ⟨⟨whole, deep⟩, positive⟩ := deserialize_sound accepted
  obtain ⟨data, present, compacted, settled, shallower, same⟩ := serialize_replaceData rfc3339 whole
  have settled : Settled (replaceData e data present).data := settled
  obtain ⟨written, wrote, read⟩ :=
    deserialize_serialize rfc3339 settled (shallower.trans_lt deep) timestamp' createdAt'
  exact ⟨written, _, same.trans wrote, read,
    ⟨rfl, rfl, rfl, rfl, compacted, rfl, rfl, rfl, rfl, rfl, rfl, if_pos positive⟩⟩

def ascii (text : String) : Text := text.toList.map (fun c => UInt8.ofNat c.toNat)

/-- A message of another producer: white space, a name in capitals, a field it does not know, no priority that
counts, and data that is set twice and that HTML would read. -/
def foreignMessage : Text :=
  ascii (" \x7b\"TYPE\": \"t\", \"data\": null, \"data\": [ \"<\" ], \"id\": \"i\", \"source\": \"s\", " ++
    "\"priority\": -3, \"dataContentType\": \"c\", \"extra\": \x7b\x7d\x7d")

def foreignEvent : Event :=
  { replaceData (Event.sample "i" 0) (ascii "[ \"<\" ]") (by decide) with
    source := "s"
    eventType := "t"
    subject := ""
    dataContentType := "c"
    valid := by decide }

theorem reencoding_stable_foreign : deserialize foreignMessage 0 0 = .ok foreignEvent ∧
    ∃ written e', serialize (fun _ => "") (some foreignEvent) = .ok written ∧ deserialize written 1 1 = .ok e' ∧
      Reencoded foreignEvent e' ∧ e'.data = ascii "[\"\\u003c\"]" := by
  have accepted : deserialize foreignMessage 0 0 = .ok foreignEvent := by decide +kernel
  have form : compact foreignEvent.data = some (ascii "[\"\\u003c\"]") := by decide +kernel
  obtain ⟨written, e', wrote, read, same⟩ :=
    reencoding_stable (fun _ => "") foreignMessage 0 0 foreignEvent accepted 1 1
  exact ⟨accepted, written, e', wrote, read, same, Option.some.inj (same.data.symm.trans form)⟩

end EventGateway.Kafka
