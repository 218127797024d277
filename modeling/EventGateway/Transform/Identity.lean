import EventGateway.Transform.Fields

/-! Scripts that leave their input as it is. An event is written with its data as it stands, and
read with its data as Base64 or as an array of numbers; what is read that way is shorter than
what was written. -/

namespace EventGateway.Transform
open Lib Lib.Json Kafka

section Bytes
variable {floats : Floats}

theorem length_decodeElements {current bytes : Bytes} {raws : List Text}
    (read : decodeElements current raws = .ok bytes) : bytes.length = raws.length := by
  induction raws generalizing current bytes with
  | nil =>
    cases read
    rfl
  | cons raw rest ih =>
    rw [decodeElements] at read
    cases first : decodeByte (current.headD 0) raw with
    | error cause =>
      rw [first] at read
      cases read
    | ok byte =>
      cases others : decodeElements current.tail rest with
      | error cause =>
        rw [first, others] at read
        cases read
      | ok later =>
        rw [first, others] at read
        cases read
        rw [List.length_cons, List.length_cons, ih others]

theorem decodeBytes_encodeTree {current bytes : Bytes} {tree : Tree floats}
    (read : decodeBytes current (encodeTree tree) = .ok bytes) :
    bytes = [] ∨ (∃ value, tree = .str value ∧ bytes.length ≤ value.toList.length) ∨
      ∃ items, tree = .arr items ∧ bytes.length = items.length := by
  cases tree with
  | null => exact .inl (Except.ok.inj read).symm
  | bool flag => cases flag <;> cases read
  | num number =>
    obtain ⟨c, rest, written, digit⟩ := floats.format_head number
    rw [encodeTree, written] at read
    unfold decodeBytes at read
    split at read
    next same =>
      cases same
      exact absurd digit (by decide)
    next same =>
      cases same
      exact absurd digit (by decide)
    next same =>
      cases same
      exact absurd digit (by decide)
    next => cases read
  | str value =>
    refine .inr (.inl ⟨value, rfl, ?_⟩)
    have literal := unquote_encodeString value
    obtain ⟨body, written⟩ := encodeString_eq value
    rw [encodeTree, written] at read
    rw [written] at literal
    simp only [decodeBytes, List.head?_cons, literal] at read
    split at read
    next decoded =>
      cases read
      exact Base64.length_decode decoded
    next => cases read
  | arr items =>
    refine .inr (.inr ⟨items, rfl, ?_⟩)
    have head : (encodeArray (encodeTrees items)).head? = some 0x5B := by cases items <;> rfl
    rw [encodeTree] at read
    simp only [decodeBytes, head, elements_encodeArray (value_encodeTrees items)] at read
    rw [length_decodeElements read, encodeTrees_eq, List.length_map]
  | obj entries => cases entries <;> cases read

/-- Compact JSON that is read as bytes, after it was written into an event and out of a map, gives
fewer bytes than it has. -/
theorem decodeBytes_shorter {data : Text} (whole : valid data = true) (same : Scanner.start.strip data = data)
    {depth : Nat} {tree : Tree floats} (decoded : decodeTree depth (escapeHTML data) = some tree)
    {current bytes : Bytes} (read : decodeBytes current (encodeTree tree) = .ok bytes) :
    bytes.length < data.length := by
  have fits := fits_of_decodeTree decoded
  rcases decodeBytes_encodeTree read with rfl | ⟨value, rfl, fewer⟩ | ⟨items, rfl, count⟩
  · apply List.length_pos_iff.mpr
    rintro rfl
    cases whole
  · have head := head_escapeHTML (by decide) fits.1
    obtain ⟨rest, rfl⟩ := List.head?_eq_some_iff.mp head
    have literal := fits.2
    rw [unquote_escapeHTML whole same] at literal
    exact lt_of_le_of_lt fewer (length_unquote literal)
  · have head := head_escapeHTML (by decide) fits.1
    obtain ⟨rest, rfl⟩ := List.head?_eq_some_iff.mp head
    have bound := length_elements_escapeHTML rest
    rw [count, fits.2, List.length_cons]
    omega

/-- If whatever is read as data is shorter than a bound, so is the data of the record. -/
theorem foldlM_data {bound : Nat} {entries : List (String × Tree floats)}
    (shorter : ∀ entry ∈ entries, fieldNamed entry.1 = some .data → ∀ current bytes,
      decodeBytes current (encodeTree entry.2) = .ok bytes → bytes.length < bound)
    {dto after : EventDeserializationDTO} (start : dto.data.length < bound)
    (read : entries.foldlM storeEntry dto = .ok after) : after.data.length < bound := by
  induction entries generalizing dto with
  | nil =>
    cases read
    exact start
  | cons entry rest ih =>
    obtain ⟨next, stored, later⟩ := foldlM_cons_ok read
    refine ih (fun other member => shorter other (List.mem_cons_of_mem entry member)) ?_ later
    unfold storeEntry at stored
    split at stored
    next field named =>
      by_cases payload : field = .data
      · subst payload
        obtain ⟨bytes, decoded, rfl⟩ := of_map_ok stored
        exact shorter entry List.mem_cons_self named _ bytes decoded
      · rw [(storeField_frame stored).2 payload]
        exact start
    next =>
      cases stored
      exact start

end Bytes

section Identity
variable {floats : Floats} {scripting : Scripting floats} {event : Event}

theorem data_of_eventMembers (rfc3339 : Time → String) (e : Event) (data : Text) :
    ∀ member ∈ eventMembers rfc3339 e [("data", data)], fieldNamed member.1 = some .data → member.2 = data := by
  have other (field : Field) (apart : field ≠ .data) {value : Text} :
      fieldNamed field.tag = some .data → value = data := by
    rw [fieldNamed_tag]
    exact fun same => absurd (Option.some.inj same) apart
  have optional (field : Field) (apart : field ≠ .data) {present : Prop} [Decidable present] {value : Text} :
      ∀ member ∈ omitEmpty field.tag present value, fieldNamed member.1 = some .data → member.2 = data := by
    unfold omitEmpty
    split
    next => simpa using other field apart
    next => simp
  have named : ∀ member ∈ [("data", data)], fieldNamed member.1 = some .data → member.2 = data := by simp
  have required : ∀ member ∈ [("id", encodeString e.id), ("source", encodeString e.source),
      ("type", encodeString e.eventType), ("subject", encodeString e.subject)],
      fieldNamed member.1 = some .data → member.2 = data := by
    simp only [List.forall_mem_cons, List.not_mem_nil, false_implies, implies_true, and_true]
    exact ⟨other .id (by decide), other .source (by decide), other .type (by decide), other .subject (by decide)⟩
  have single (field : Field) (apart : field ≠ .data) {value : Text} :
      ∀ member ∈ [(field.tag, value)], fieldNamed member.1 = some .data → member.2 = data := by
    simpa using other field apart
  simp only [eventMembers, List.forall_mem_append]
  exact ⟨⟨⟨⟨⟨⟨⟨⟨⟨required, named⟩, single .dataContentType (by decide)⟩, optional .schemaURL (by decide)⟩,
    single .timestamp (by decide)⟩, optional .metadata (by decide)⟩, optional .correlationID (by decide)⟩,
    optional .causationID (by decide)⟩, optional .partitionKey (by decide)⟩, single .priority (by decide)⟩

theorem marshal_event (rfc3339 : Time → String) (whole : valid event.data = true)
    (same : Scanner.start.strip event.data = event.data) :
    (marshalJSON rfc3339 event).bind compact =
      compact (encodeObject (eventMembers rfc3339 event [("data", escapeHTML event.data)])) := by
  have raw : dataMember event.data = some [("data", escapeHTML event.data)] := by
    rw [dataMember, if_neg event.data_ne, compact, if_pos whole, same]
    rfl
  rw [marshalJSON, raw, Option.map_some, Option.bind_some]

/-- Where an event becomes a map, the map has the event's data, decoded, and no other data. -/
theorem of_eventToMap (whole : valid event.data = true) (same : Scanner.start.strip event.data = event.data)
    {map : MapVar floats} (mapped : eventToMap scripting event = .ok map) :
    ∃ entries : SortedMap String (Tree floats), map = some entries ∧ ∀ entry ∈ entries.entries,
      fieldNamed entry.1 = some .data → decodeTree (maxNestingDepth - 1) (escapeHTML event.data) = some entry.2 := by
  have values := value_eventMembers scripting.rfc3339 event (value_escapeHTML whole same).1
  rw [eventToMap, marshal_event _ whole same] at mapped
  split at mapped
  next => cases mapped
  next text compacted =>
  obtain ⟨rfl, shallow⟩ := (value_encodeObject values).of_compact compacted
  rw [unmarshalMap_encodeObject values, if_pos shallow] at mapped
  split at mapped
  next entries read =>
    cases mapped
    refine ⟨SortedMap.ofList entries, rfl, fun entry member named => ?_⟩
    obtain ⟨source, known, found⟩ := exists_of_mapM read (SortedMap.mem_ofList member)
    obtain ⟨tree, decoded, rfl⟩ := Option.map_eq_some_iff.mp found
    rw [← data_of_eventMembers _ _ _ source known named]
    exact decoded
  next => cases mapped

theorem eventToMap_read {map : MapVar floats} (mapped : eventToMap scripting event = .ok map) :
    ∃ text, unmarshalMap text = .ok map := by
  unfold eventToMap at mapped
  split at mapped
  next => cases mapped
  next text _ =>
    cases read : (unmarshalMap text : Except JsonError (MapVar floats)) with
    | error cause =>
      rw [read] at mapped
      cases mapped
    | ok found =>
      rw [read] at mapped
      cases mapped
      exact ⟨text, read⟩

theorem resultMap_ofMap {map : MapVar floats} (mapped : eventToMap scripting event = .ok map) :
    resultMap (scripting.ofMap map) = .ok map := by
  obtain ⟨text, read⟩ := eventToMap_read mapped
  rw [resultMap, scripting.marshal_ofMap]
  dsimp only
  rw [unmarshalMap_marshalMap read]
  rfl

def IsIdentity (te : TransformationEngine scripting) (transformation : Transformation) : Prop :=
  match transformation.type with
  | .jq => ∃ query, (Memo.get te.jqQueries scripting.parse transformation.script).1 = .ok query ∧
      ∀ world map, scripting.run query world map = [.ok (scripting.ofMap map)]
  | .cel => ∃ program, (Memo.get te.celPrograms scripting.compile transformation.script).1 = .ok program ∧
      ∀ world map, scripting.eval program world map = .ok (scripting.ofMap map)
  | _ => False

theorem attempt_identity {te : TransformationEngine scripting} {transformation : Transformation}
    (identity : IsIdentity te transformation) (event : Event) (world : scripting.World) :
    attempt te event (some transformation) world =
      some (sized te transformation.script (eventToMap scripting event)) := by
  obtain ⟨type, script⟩ := transformation
  cases type with
  | jq =>
    obtain ⟨query, found, runs⟩ := identity
    have same : attemptJQ te event script world = eventToMap scripting event := by
      rw [attemptJQ, found]
      dsimp only [Except.mapError, bind, Except.bind, runQuery]
      cases mapped : eventToMap scripting event with
      | error cause => rfl
      | ok map =>
        simp only [runs, collect, List.nil_append]
        exact resultMap_ofMap mapped
    rw [attempt, same]
  | cel =>
    obtain ⟨program, found, evaluates⟩ := identity
    have same : attemptCEL te event script world = eventToMap scripting event := by
      rw [attemptCEL, found]
      dsimp only [Except.mapError, bind, Except.bind, evalProgram]
      cases mapped : eventToMap scripting event with
      | error cause => rfl
      | ok map =>
        simp only [evaluates]
        exact resultMap_ofMap mapped
    rw [attempt, same]
  | template => exact identity.elim
  | none => exact identity.elim
  | other name foreign => exact identity.elim

theorem mem_setMissing {map : SortedMap String (Tree floats)} {key value : String} {entry : String × Tree floats}
    (member : entry ∈ (setMissing map key value).entries) : entry.1 = key ∨ entry ∈ map.entries := by
  unfold setMissing at member
  split at member
  next => exact (SortedMap.mem_insertEntry member).imp_left (congrArg Prod.fst)
  next => exact .inr member

theorem identity_shortens {te : TransformationEngine scripting} {transformation : Transformation}
    (identity : IsIdentity te transformation) (whole : valid event.data = true)
    (same : Scanner.start.strip event.data = event.data) {world : scripting.World} {clock : Clock} {result : Event}
    (succeeded : (transform te (some event) (some transformation) world clock).1 = .returned (.ok result)) :
    result.data.length < event.data.length := by
  rw [transform_eq, attempt_identity identity] at succeeded
  dsimp only [sized] at succeeded
  split at succeeded
  next => cases succeeded
  next =>
    cases mapped : eventToMap scripting event with
    | error cause =>
      rw [mapped] at succeeded
      cases succeeded
    | ok map =>
      obtain ⟨entries, rfl, written⟩ := of_eventToMap whole same mapped
      rw [mapped] at succeeded
      have finished : finish scripting event clock (some entries) = .returned (.ok result) := succeeded
      obtain ⟨dto, read, -, payload, -⟩ := of_finish finished
      rw [payload]
      refine foldlM_data (fun entry member named current bytes decoded => ?_) ?_ read
      · have kept : entry ∈ entries.entries := by
          rcases mem_setMissing member with time | member
          · rw [time] at named
            exact absurd named (by decide)
          · rcases mem_setMissing member with id | member
            · rw [id] at named
              exact absurd named (by decide)
            · exact member
        exact decodeBytes_shorter whole same (written entry kept named) decoded
      · exact List.length_pos_iff.mpr event.data_ne

def Carried (e e' : Event) : Prop := SameFields { e with timestamp := e'.timestamp } e'

/-- The identity never returns an event with the fields of its input. -/
theorem identity_not_carried (te : TransformationEngine scripting) (event : Event) (whole : valid event.data = true)
    (same : Scanner.start.strip event.data = event.data) (transformation : Transformation)
    (identity : IsIdentity te transformation) (world : scripting.World) (clock : Clock) :
    ¬∃ result, (transform te (some event) (some transformation) world clock).1 = .returned (.ok result) ∧
      Carried event result := by
  rintro ⟨result, succeeded, carried⟩
  have shorter := identity_shortens identity whole same succeeded
  rw [carried.data] at shorter
  exact absurd shorter (lt_irrefl _)

end Identity

theorem isIdentity_dot : IsIdentity (newTransformationEngine plainScripts 1024) ⟨.jq, "."⟩ :=
  ⟨(), rfl, fun _ _ => rfl⟩

theorem identity_not_carried_dot :
    IsIdentity (newTransformationEngine plainScripts 1024) ⟨.jq, "."⟩ ∧
      ¬∃ result, (transform (newTransformationEngine plainScripts 1024) (some (Event.sample "order-1" 0))
          (some ⟨.jq, "."⟩) () ⟨0, 0⟩).1 = .returned (.ok result) ∧ Carried (Event.sample "order-1" 0) result :=
  ⟨isIdentity_dot, identity_not_carried _ _ settled_sample.valid settled_sample.compact _ isIdentity_dot _ _⟩

theorem eventToMap_sample : eventToMap plainScripts (Event.sample "order-1" 0) =
    .ok (some (.ofList [("id", .str "order-1"), ("source", .str "orders"), ("type", .str "order.created"),
      ("subject", .str "/orders/1"), ("data", .num 1), ("dataContentType", .str "application/json"),
      ("timestamp", .str "1970-01-01T00:00:00Z"), ("priority", .num 2)])) := by
  have payload := (value_escapeHTML settled_sample.valid settled_sample.compact).1
  have values := value_eventMembers plainScripts.rfc3339 (Event.sample "order-1" 0) payload
  have shallow := (depth_event_le plainScripts.rfc3339 (Event.sample "order-1" 0) payload).mpr (by decide)
  rw [eventToMap, marshal_event _ settled_sample.valid settled_sample.compact,
    (value_encodeObject values).compact shallow]
  dsimp only
  rw [unmarshalMap_encodeObject values, if_pos shallow]
  rfl

/-- A number as data is compact JSON, and the identity fails on it: a number is no `[]byte`. -/
theorem identity_fails_on_number :
    let event := Event.sample "order-1" 0
    Settled event.data ∧ IsIdentity (newTransformationEngine plainScripts 1024) ⟨.jq, "."⟩ ∧
      (transform (newTransformationEngine plainScripts 1024) (some event) (some ⟨.jq, "."⟩) () ⟨0, 0⟩).1 =
        .returned (.error (.parseEvent .mismatch)) := by
  refine ⟨settled_sample, isIdentity_dot, ?_⟩
  rw [transform_eq, attempt_identity isIdentity_dot, eventToMap_sample, sized, if_neg (by decide)]
  dsimp only [settle]
  rw [finish, unmarshal_marshalMap, if_pos (by decide +kernel)]
  rfl

end EventGateway.Transform
