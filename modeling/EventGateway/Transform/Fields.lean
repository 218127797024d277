import EventGateway.Transform.Engine

/-! What becomes of the ID and of the timestamp of an event on their way through a script: the
entries of the result are read one after the other, under any spelling of their names. -/

namespace EventGateway.Transform
open Lib Lib.Json Kafka

section Reading
variable {floats : Floats}

def storeEntry (dto : EventDeserializationDTO) (entry : String × Tree floats) :
    Except JsonError EventDeserializationDTO :=
  match fieldNamed entry.1 with
  | some field => storeField dto field (encodeTree entry.2)
  | none => .ok dto

theorem unmarshal_marshalMap (map : SortedMap String (Tree floats)) :
    unmarshal (marshalMap (some map)) =
      if depth (marshalMap (some map)) ≤ maxNestingDepth then map.entries.foldlM storeEntry {}
      else .error .malformed := by
  rw [marshalMap, encodeTree, unmarshal, unmarshalFields_encodeObject _ (value_encodeEntries map.entries)]
  congr 1
  rw [encodeEntries_eq, List.map_map, List.foldlM_map]
  congr 1
  funext dto entry
  cases named : fieldNamed entry.1 with
  | none => simp only [Function.comp_apply, storeMember, unquote_encodeString, storeEntry, named]
  | some field => simp only [Function.comp_apply, storeMember, unquote_encodeString, storeEntry, named]

theorem of_map_ok {ε α β : Type} {f : α → β} {result : Except ε α} {value : β} (mapped : result.map f = .ok value) :
    ∃ inner, result = .ok inner ∧ f inner = value := by
  cases result with
  | error cause => cases mapped
  | ok inner => exact ⟨inner, rfl, Except.ok.inj mapped⟩

theorem decodeText_encodeTree {current value : String} {tree : Tree floats}
    (read : decodeText current (encodeTree tree) = .ok value) :
    tree = .null ∧ value = current ∨ tree = .str value := by
  cases tree with
  | null => exact .inl ⟨rfl, (Except.ok.inj read).symm⟩
  | bool flag => cases flag <;> cases read
  | num number =>
    obtain ⟨c, rest, written, digit⟩ := floats.format_head number
    rw [encodeTree, written] at read
    unfold decodeText at read
    split at read
    next same =>
      cases same
      exact absurd digit (by decide)
    next same =>
      cases same
      exact absurd digit (by decide)
    next => cases read
  | str text =>
    rw [encodeTree, decodeText_encodeString] at read
    exact .inr (congrArg Tree.str (Except.ok.inj read))
  | arr items => cases items <;> cases read
  | obj entries => cases entries <;> cases read

theorem storeField_frame {dto after : EventDeserializationDTO} {field : Field} {raw : Text}
    (stored : storeField dto field raw = .ok after) :
    (field ≠ .id → after.id = dto.id) ∧ (field ≠ .data → after.data = dto.data) := by
  cases field
  all_goals
    obtain ⟨value, -, rfl⟩ := of_map_ok stored
    simp

theorem foldlM_cons_ok {dto after : EventDeserializationDTO} {entry : String × Tree floats}
    {rest : List (String × Tree floats)} (read : (entry :: rest).foldlM storeEntry dto = .ok after) :
    ∃ next, storeEntry dto entry = .ok next ∧ rest.foldlM storeEntry next = .ok after := by
  rw [List.foldlM_cons] at read
  cases stored : storeEntry dto entry with
  | error cause =>
    rw [stored] at read
    cases read
  | ok next =>
    rw [stored] at read
    exact ⟨next, rfl, read⟩

def readID (id : String) (entry : String × Tree floats) : String :=
  match fieldNamed entry.1, entry.2 with
  | some .id, .str value => value
  | _, _ => id

def spelledID (map : SortedMap String (Tree floats)) : String := map.entries.foldl readID ""

theorem readID_other {id : String} {entry : String × Tree floats} (other : fieldNamed entry.1 ≠ some .id) :
    readID id entry = id := by
  unfold readID
  split
  next named _ => exact absurd named other
  next => rfl

theorem storeEntry_id {dto after : EventDeserializationDTO} {entry : String × Tree floats}
    (stored : storeEntry dto entry = .ok after) :
    after.id = readID dto.id entry ∧
      (fieldNamed entry.1 = some .id → entry.2 = .null ∨ ∃ value, entry.2 = .str value) := by
  obtain ⟨name, tree⟩ := entry
  unfold storeEntry at stored
  split at stored
  next field named =>
    by_cases same : field = .id
    · subst same
      obtain ⟨id, read, rfl⟩ := of_map_ok stored
      rcases decodeText_encodeTree read with ⟨rfl, rfl⟩ | rfl
      · exact ⟨by simp [readID, named], fun _ => .inl rfl⟩
      · exact ⟨by simp [readID, named], fun _ => .inr ⟨id, rfl⟩⟩
    · have other : fieldNamed name ≠ some .id := by simpa [named] using same
      rw [readID_other other, (storeField_frame stored).1 same]
      exact ⟨rfl, fun known => absurd known other⟩
  next unknown =>
    cases stored
    have other : fieldNamed name ≠ some .id := by simp [unknown]
    exact ⟨(readID_other other).symm, fun known => absurd known other⟩

theorem foldlM_id {entries : List (String × Tree floats)} {dto after : EventDeserializationDTO}
    (read : entries.foldlM storeEntry dto = .ok after) :
    after.id = entries.foldl readID dto.id ∧
      ∀ entry ∈ entries, fieldNamed entry.1 = some .id → entry.2 = .null ∨ ∃ value, entry.2 = .str value := by
  induction entries generalizing dto with
  | nil =>
    cases read
    exact ⟨rfl, nofun⟩
  | cons entry rest ih =>
    obtain ⟨next, stored, later⟩ := foldlM_cons_ok read
    obtain ⟨same, shape⟩ := storeEntry_id stored
    obtain ⟨final, shapes⟩ := ih later
    rw [List.foldl_cons, ← same]
    exact ⟨final, List.forall_mem_cons.mpr ⟨shape, shapes⟩⟩

theorem toUpper_eq {c : Char} {n : Nat} (upper : c.toUpper.toNat = n) : c.toNat = n ∨ c.toNat = n + 32 := by
  unfold Char.toUpper at upper
  split at upper
  next range =>
    have low : 97 ≤ c.val.toNat := range.1
    have high : c.val.toNat ≤ 122 := range.2
    have shift : ('A'.val - 'a'.val).toNat = 2 ^ 32 - 32 := by decide
    simp only [Char.toNat, UInt32.toNat_add, shift] at upper ⊢
    omega
  next => exact .inl upper

theorem foldChar_eq {c : Char} {n : Nat} (folded : (foldChar c).toNat = n) (other : n ≠ 0x53 ∧ n ≠ 0x4B) :
    c = Char.ofNat n ∨ c = Char.ofNat (n + 32) := by
  have named {m : Nat} (same : c.toNat = m) : c = Char.ofNat m := by
    rw [← same, Char.ofNat_toNat]
  unfold foldChar at folded
  split at folded
  next => exact absurd folded.symm other.1
  next =>
    split at folded
    next => exact absurd folded.symm other.2
    next => exact (toUpper_eq folded).imp named named

theorem foldName_of_fieldNamed {name : String} {field : Field} (named : fieldNamed name = some field) :
    foldName name = foldName field.tag := by
  unfold fieldNamed at named
  split at named
  next found exact =>
    have same : found.tag = name := by simpa using List.find?_some exact
    rw [← Option.some.inj named, same]
  next =>
    have same : foldName field.tag = foldName name := by simpa using List.find?_some named
    exact same.symm

theorem le_of_fieldNamed {name : String} (named : fieldNamed name = some .id) : name ≤ "id" := by
  have folded : name.toList.map foldChar = [Char.ofNat 73, Char.ofNat 68] := foldName_of_fieldNamed named
  obtain ⟨first, others, split, one, rest⟩ := List.map_eq_cons_iff.mp folded
  obtain ⟨second, none, rfl, two, rest⟩ := List.map_eq_cons_iff.mp rest
  rw [List.map_eq_nil_iff] at rest
  subst rest
  have spelled : name = String.ofList [first, second] := by rw [← split, String.ofList_toList]
  rcases foldChar_eq (congrArg Char.toNat one) (by decide) with rfl | rfl <;>
    rcases foldChar_eq (congrArg Char.toNat two) (by decide) with rfl | rfl <;>
    rw [spelled] <;> decide

theorem spelledID_of_lookup {map : SortedMap String (Tree floats)} {value : String}
    (found : map.lookup "id" = some (.str value)) : spelledID map = value := by
  obtain ⟨before, after, split, -, later⟩ := SortedMap.split_of_lookup found
  have passed (id : String) : after.foldl readID id = id := by
    clear split
    induction after generalizing id with
    | nil => rfl
    | cons entry rest ih =>
      have other : fieldNamed entry.1 ≠ some .id := fun named =>
        absurd (later entry List.mem_cons_self) (not_lt.mpr (le_of_fieldNamed named))
      rw [List.foldl_cons, readID_other other]
      exact ih (fun entry member => later entry (List.mem_cons_of_mem _ member)) id
  rw [spelledID, split, List.foldl_append, List.foldl_cons, passed]
  rfl

theorem spelledID_insert {key : String} (other : fieldNamed key ≠ some .id) (map : SortedMap String (Tree floats))
    (tree : Tree floats) : spelledID (map.insert key tree) = spelledID map :=
  SortedMap.foldl_insert (fun _ _ => readID_other other) map tree ""

theorem spelledID_setMissing {key : String} (other : fieldNamed key ≠ some .id) (map : SortedMap String (Tree floats))
    (value : String) : spelledID (setMissing map key value) = spelledID map := by
  unfold setMissing
  split
  next => exact spelledID_insert other map (.str value)
  next => rfl

theorem lookup_setMissing (map : SortedMap String (Tree floats)) (key value other : String) :
    (setMissing map key value).lookup other =
      if other = key ∧ isMissing (map.lookup key) = true then some (.str value) else map.lookup other := by
  unfold setMissing
  by_cases missing : isMissing (map.lookup key) = true
  · rw [if_pos missing, SortedMap.lookup_insert]
    simp only [missing, and_true]
  · rw [if_neg missing, if_neg (fun both => missing both.2)]

end Reading

section Results
variable {floats : Floats} {scripting : Scripting floats} {event result : Event} {clock : Clock}

/-- An event that is built from a record has its ID and data, and the time of the clock. -/
theorem of_newTransformedEvent {dto : EventDeserializationDTO} (built : newTransformedEvent dto clock = .ok result) :
    result.id = dto.id ∧ result.data = dto.data ∧ result.timestamp = clock.timestamp := by
  unfold newTransformedEvent at built
  cases checked : validateFields dto.id dto.source dto.type dto.data dto.dataContentType with
  | error cause =>
    rw [Event.newEvent_error _ _ checked] at built
    cases built
  | ok passed =>
    rw [Event.newEvent_ok _ _ checked] at built
    cases built
    exact ⟨rfl, rfl, rfl⟩

theorem of_finish {map : SortedMap String (Tree floats)}
    (finished : finish scripting event clock (some map) = .returned (.ok result)) :
    ∃ dto, (preserve scripting event map).entries.foldlM storeEntry {} = .ok dto ∧
      result.id = dto.id ∧ result.data = dto.data ∧ result.timestamp = clock.timestamp := by
  rw [finish, unmarshal_marshalMap] at finished
  split_ifs at finished
  swap
  · cases finished
  cases read : (preserve scripting event map).entries.foldlM storeEntry {} with
  | error cause =>
    rw [read] at finished
    cases finished
  | ok dto =>
    rw [read] at finished
    exact ⟨dto, rfl, of_newTransformedEvent (Result.returned.inj finished)⟩

def expectedID (event : Event) (map : SortedMap String (Tree floats)) : String :=
  match map.lookup "id" with
  | some (.str value) => if value = "" then event.id else value
  | _ => event.id

structure Survives (event : Event) (map : SortedMap String (Tree floats)) (result : Event) : Prop where
  id : result.id = expectedID event map
  timestamp : isMissing (map.lookup "timestamp") = true → result.timestamp = event.timestamp

theorem expectedID_missing {map : SortedMap String (Tree floats)} (missing : isMissing (map.lookup "id") = true) :
    expectedID event map = event.id := by
  unfold expectedID
  split
  next value found =>
    have empty : value = "" := by simpa [found, isMissing] using missing
    rw [if_pos empty]
  next => rfl

/-- The ID of a result: the one that it should have, unless the object's is `null`. -/
theorem id_of_finish {map : SortedMap String (Tree floats)}
    (finished : finish scripting event clock (some map) = .returned (.ok result)) :
    map.lookup "id" = some .null ∧ result.id = spelledID map ∨
      map.lookup "id" ≠ some .null ∧ result.id = expectedID event map := by
  obtain ⟨dto, read, same, -, -⟩ := of_finish finished
  obtain ⟨spelled, shapes⟩ := foldlM_id read
  have same : result.id = spelledID (preserve scripting event map) := same.trans spelled
  have found : (preserve scripting event map).lookup "id" = (setMissing map "id" event.id).lookup "id" := by
    rw [preserve, lookup_setMissing, if_neg (fun both => absurd both.1 (by decide))]
  rw [lookup_setMissing] at found
  by_cases missing : isMissing (map.lookup "id") = true
  · rw [if_pos ⟨rfl, missing⟩] at found
    refine .inr ⟨fun null => ?_, ?_⟩
    · rw [null] at missing
      cases missing
    · rw [same, spelledID_of_lookup found, expectedID_missing missing]
  · rw [if_neg (fun both => missing both.2)] at found
    cases here : map.lookup "id" with
    | none => exact absurd (by rw [here]; rfl) missing
    | some tree =>
      rw [here] at found
      rcases shapes _ (SortedMap.mem_of_lookup found) (fieldNamed_tag .id) with rfl | ⟨value, rfl⟩
      · refine .inl ⟨rfl, ?_⟩
        rw [same, preserve, spelledID_setMissing (by decide), setMissing, if_neg missing]
      · have nonempty : value ≠ "" := by simpa [here, isMissing] using missing
        refine .inr ⟨nofun, ?_⟩
        rw [same, spelledID_of_lookup found]
        simp only [expectedID, here, if_neg nonempty]

/-- Where a script's result is an object and the call succeeds, ID and time survive exactly when the
other spellings of an ID that is `null` come to the event's, and when the clock shows the event's
timestamp in case the object has none. -/
theorem survives_iff (te : TransformationEngine scripting) (event : Event) (transformation : Option Transformation)
    (world : scripting.World) (clock : Clock) {map : SortedMap String (Tree floats)} {result : Event}
    (made : attempt te event transformation world = some (.ok (some map)))
    (succeeded : (transform te (some event) transformation world clock).1 = .returned (.ok result)) :
    Survives event map result ↔ (map.lookup "id" = some .null → spelledID map = event.id) ∧
      (isMissing (map.lookup "timestamp") = true → clock.timestamp = event.timestamp) := by
  rw [transform_eq, made] at succeeded
  have finished : finish scripting event clock (some map) = .returned (.ok result) := succeeded
  obtain ⟨dto, -, -, -, time⟩ := of_finish finished
  have identity : result.id = expectedID event map ↔ (map.lookup "id" = some .null → spelledID map = event.id) := by
    rcases id_of_finish finished with ⟨null, same⟩ | ⟨other, same⟩
    · have expected : expectedID event map = event.id := by
        unfold expectedID
        rw [null]
      rw [same, expected]
      simp only [null, forall_const]
    · simp only [same, other, false_implies]
  rw [← time, ← identity]
  exact ⟨fun survives => ⟨survives.id, survives.timestamp⟩, fun both => ⟨both.1, both.2⟩⟩

end Results

theorem attempt_plain {script : String} (fits : ¬(1024 : Int) < script.utf8ByteSize) (event : Event) :
    attempt (newTransformationEngine plainScripts 1024) event (some ⟨.template, script⟩) () =
      some ((unmarshalMap (script.toList.flatMap String.utf8EncodeChar)).mapError .templateResult) := by
  have sizes : sized (newTransformationEngine plainScripts 1024) script
      (attemptTemplate (newTransformationEngine plainScripts 1024) event script ()) =
        attemptTemplate (newTransformationEngine plainScripts 1024) event script () := if_neg fits
  exact congrArg some sizes

/-- A template that gives an ID under another spelling, and `null` under its own. -/
def misspelt : String :=
  "\x7b\"ID\":\"order-2\",\"id\":null,\"source\":\"s\",\"type\":\"t\",\"data\":\"aGk=\",\"dataContentType\":\"c\"\x7d"

def misspeltEntries : List (String × Tree integers) :=
  [("ID", .str "order-2"), ("id", .null), ("source", .str "s"), ("type", .str "t"), ("data", .str "aGk="),
    ("dataContentType", .str "c")]

def misspeltMap : SortedMap String (Tree integers) := .ofList misspeltEntries

def misspeltEvent (clock : Clock) : Event where
  id := "order-2"
  source := "s"
  eventType := "t"
  subject := ""
  data := [0x68, 0x69]
  dataContentType := "c"
  schemaURL := ""
  timestamp := clock.timestamp
  metadata := ∅
  correlationID := ""
  causationID := ""
  partitionKey := ""
  priority := priorityUnspecified
  createdAt := clock.createdAt
  valid := rfl

theorem misspelt_made (event : Event) :
    attempt (newTransformationEngine plainScripts 1024) event (some ⟨.template, misspelt⟩) () =
      some (.ok (some misspeltMap)) := by
  have written : misspelt.toList.flatMap String.utf8EncodeChar = encodeObject (encodeEntries misspeltEntries) := by
    decide +kernel
  rw [attempt_plain (by decide), written, unmarshalMap_encodeObject (value_encodeEntries misspeltEntries),
    if_pos (by decide +kernel)]
  rfl

theorem misspelt_result (event : Event) (clock : Clock) :
    (transform (newTransformationEngine plainScripts 1024) (some event) (some ⟨.template, misspelt⟩) () clock).1 =
      .returned (.ok (misspeltEvent clock)) := by
  rw [transform_eq, misspelt_made]
  show finish plainScripts event clock (some misspeltMap) = _
  have sorted : (preserve plainScripts event misspeltMap).entries =
      [("ID", .str "order-2"), ("data", .str "aGk="), ("dataContentType", .str "c"), ("id", .null),
        ("source", .str "s"), ("timestamp", .str "1970-01-01 00:00:00 +0000 UTC"), ("type", .str "t")] := by
    rfl
  have read : (preserve plainScripts event misspeltMap).entries.foldlM storeEntry {} = .ok {
      id := "order-2", source := "s", type := "t", data := [0x68, 0x69], dataContentType := "c"
      timestamp := "1970-01-01 00:00:00 +0000 UTC" } := by
    rw [sorted]
    rfl
  have checked : validateFields "order-2" "s" "t" [0x68, 0x69] "c" = .ok () := rfl
  have shallow : depth (marshalMap (some (preserve plainScripts event misspeltMap))) ≤ maxNestingDepth := by
    rw [marshalMap, sorted]
    decide +kernel
  rw [finish, unmarshal_marshalMap, if_pos shallow, read]
  simp only [newTransformedEvent, Event.newEvent_ok _ _ checked, Event.withSchemaURL, Event.withMetadata,
    Event.withCorrelation, Event.withPartitionKey, Event.withPriority, Finmap.union_empty]
  rfl

theorem survives_misspelt :
    attempt (newTransformationEngine plainScripts 1024) (Event.sample "order-2" 0) (some ⟨.template, misspelt⟩) () =
        some (.ok (some misspeltMap)) ∧
      Survives (Event.sample "order-2" 0) misspeltMap (misspeltEvent ⟨0, 0⟩) :=
  ⟨misspelt_made _, (survives_iff _ _ _ _ _ (misspelt_made _) (misspelt_result _ _)).mpr ⟨fun _ => rfl, fun _ => rfl⟩⟩

/-- The ID comes from another spelling than `id`, and the time from the clock. -/
theorem misspelt_loses_id_and_time :
    let event := Event.sample "order-1" 0
    attempt (newTransformationEngine plainScripts 1024) event (some ⟨.template, misspelt⟩) () =
        some (.ok (some misspeltMap)) ∧
      (transform (newTransformationEngine plainScripts 1024) (some event) (some ⟨.template, misspelt⟩) ()
          ⟨1000000000, 1000000000⟩).1 =
        .returned (.ok (misspeltEvent ⟨1000000000, 1000000000⟩)) ∧
      (misspeltEvent ⟨1000000000, 1000000000⟩).id ≠ expectedID event misspeltMap ∧
      isMissing (misspeltMap.lookup "timestamp") = true ∧
      (misspeltEvent ⟨1000000000, 1000000000⟩).timestamp ≠ event.timestamp := by
  refine ⟨misspelt_made _, misspelt_result _ _, ?_, rfl, ?_⟩
  · decide
  · decide

end EventGateway.Transform
