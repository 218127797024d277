import EventGateway.Kafka.Serializer
import EventGateway.Lib.Base64
import EventGateway.Lib.Json.Tree

/-! The JSON passes of the transformer: an event becomes a map, the result of a script becomes
a map, and the map that is left becomes a record again. That record is not the one of the Kafka
reader: its data is a `[]byte`, which `encoding/json` reads from Base64 or from an array of
numbers. -/

namespace EventGateway.Transform
open Lib Lib.Json Kafka

variable {floats : Floats}

/-- A variable of type `map[string]interface{}`; `none` is the nil map. -/
abbrev MapVar (floats : Floats) := Option (SortedMap String (Tree floats))

def unmarshalMap (text : Text) : Except JsonError (MapVar floats) :=
  if valid text then
    match decodeTree maxNestingDepth (Scanner.start.strip text) with
    | some .null => .ok none
    | some (.obj entries) => .ok (some (SortedMap.ofList entries))
    | _ => .error .mismatch
  else .error .malformed

def marshalMap : MapVar floats → Text
  | none => encodeTree (.null : Tree floats)
  | some map => encodeTree (.obj map.entries)

/-- An element of an array of bytes; `null` leaves what is there. -/
def decodeByte (current : UInt8) (raw : Text) : Except JsonError UInt8 :=
  match raw.head? with
  | some 0x6E => .ok current
  | _ => match parseNat raw with
    | some n => if n < 256 then .ok (UInt8.ofNat n) else .error .mismatch
    | none => .error .mismatch

def decodeElements : Bytes → List Text → Except JsonError Bytes
  | _, [] => .ok []
  | current, raw :: rest => do
    let byte ← decodeByte (current.headD 0) raw
    let others ← decodeElements current.tail rest
    pure (byte :: others)

/-- Read a `[]byte`: Base64 in a string, or an array of numbers; `null` is nil. -/
def decodeBytes (current : Bytes) (raw : Text) : Except JsonError Bytes :=
  match raw.head? with
  | some 0x6E => .ok []
  | some 0x22 => match unquote raw with
    | some text => match Base64.decode text.toList with
      | some bytes => .ok bytes
      | none => .error .mismatch
    | none => .error .malformed
  | some 0x5B => decodeElements current (elements raw)
  | _ => .error .mismatch

def storeField (dto : EventDeserializationDTO) (field : Field) (raw : Text) :
    Except JsonError EventDeserializationDTO :=
  match field with
  | .data => (decodeBytes dto.data raw).map (fun data => { dto with data })
  | field => Kafka.storeField dto field raw

def unmarshal (text : Text) : Except JsonError EventDeserializationDTO := unmarshalFields storeField text

theorem unmarshalMap_encodeObject {all : List Member} (values : ∀ member ∈ all, Value member.2) :
    unmarshalMap (encodeObject all) =
      if depth (encodeObject all) ≤ maxNestingDepth then
        match all.mapM (decodeNamed (maxNestingDepth - 1)) with
        | some entries => .ok (some (SortedMap.ofList (entries : List (String × Tree floats))))
        | none => .error .mismatch
      else .error .malformed := by
  have value := value_encodeObject values
  have decoded : decodeTree maxNestingDepth (encodeObject all) =
      (all.mapM (decodeNamed (maxNestingDepth - 1))).map
        (fun (entries : List (String × Tree floats)) => .obj (SortedMap.ofList entries).entries) :=
    decodeTree_object values
  simp only [unmarshalMap, value.valid_iff, value.strip, decoded]
  congr 1
  cases all.mapM (decodeNamed (maxNestingDepth - 1)) with
  | none => rfl
  | some entries => exact congrArg (fun map => Except.ok (some map)) (SortedMap.ofList_entries _)

theorem of_unmarshalMap {text : Text} {map : MapVar floats} (read : unmarshalMap text = .ok map) :
    (map = none ∧ decodeTree maxNestingDepth (Scanner.start.strip text) = some (.null : Tree floats)) ∨
    ∃ entries : SortedMap String (Tree floats), map = some entries ∧
      decodeTree maxNestingDepth (Scanner.start.strip text) = some (.obj entries.entries) := by
  unfold unmarshalMap at read
  split at read
  next =>
    split at read
    next decoded =>
      cases read
      exact .inl ⟨rfl, decoded⟩
    next entries decoded =>
      cases read
      refine .inr ⟨SortedMap.ofList entries, rfl, ?_⟩
      have sorted : (SortedMap.ofList entries).entries = entries := fits_of_decodeTree decoded
      rw [sorted]
      exact decoded
    next => cases read
  next => cases read

theorem unmarshalMap_marshalMap {text : Text} {map : MapVar floats} (read : unmarshalMap text = .ok map) :
    unmarshalMap (marshalMap map) = .ok map := by
  rcases of_unmarshalMap read with ⟨rfl, decoded⟩ | ⟨entries, rfl, decoded⟩
  · have value := value_encodeTree (.null : Tree floats)
    have whole := value.valid_iff.mpr (depth_encodeTree_le decoded)
    rw [marshalMap, unmarshalMap, if_pos whole, value.strip, decodeTree_encodeTree decoded]
  · have value := value_encodeTree (.obj entries.entries : Tree floats)
    have whole := value.valid_iff.mpr (depth_encodeTree_le decoded)
    rw [marshalMap, unmarshalMap, if_pos whole, value.strip, decodeTree_encodeTree decoded]
    exact congrArg (fun entries => Except.ok (some entries)) entries.ofList_entries

end EventGateway.Transform
