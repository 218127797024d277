import EventGateway.Lib.Outcome
import EventGateway.Registry.Register

/-! The gRPC schema handler: `RegisterSchema` in front of the service's `Register`, and `GetSchema`
over the same repository. The format of a schema goes from the API's enumeration to its name, to the
domain's format and its name, and back to the enumeration. -/

namespace EventGateway.Registry
open Lib Lib.Calls

abbrev ProtoSchemaFormat := Int32

namespace ProtoSchemaFormat

def jsonSchema : ProtoSchemaFormat := 1
def avro : ProtoSchemaFormat := 2
def protobuf : ProtoSchemaFormat := 3

def string (format : ProtoSchemaFormat) : String :=
  if format = 0 then "SCHEMA_FORMAT_UNSPECIFIED"
  else if format = jsonSchema then "SCHEMA_FORMAT_JSON_SCHEMA"
  else if format = avro then "SCHEMA_FORMAT_AVRO"
  else if format = protobuf then "SCHEMA_FORMAT_PROTOBUF"
  else toString format.toInt

end ProtoSchemaFormat

structure ProtoRegisterSchemaRequest where
  name : String
  format : ProtoSchemaFormat
  definition : String

structure ProtoSchema where
  id : String
  name : String
  version : Int32
  format : ProtoSchemaFormat
  definition : String
  deriving DecidableEq

/-- The identifier of a `GetSchemaRequest`. A reference by name and version is not looked at. -/
inductive SchemaIdentifier where
  | schemaId (id : String)
  | schemaRef

structure ProtoGetSchemaRequest where
  identifier : Option SchemaIdentifier

structure SchemaResponse where
  id : String
  name : String
  version : String
  format : String
  definition : String
  createdAt : Time

def fromEntitySchema (schema : Schema) : SchemaResponse where
  id := schema.id
  name := schema.name
  version := schema.version
  format := schema.format.string
  definition := schema.definition
  createdAt := schema.createdAt

def schemaProtoToDTO : Option ProtoRegisterSchemaRequest → Option RegisterSchemaRequest
  | none => none
  | some protoReq => some {
      name := protoReq.name
      version := "1.0"
      format := ProtoSchemaFormat.string protoReq.format
      definition := protoReq.definition }

def schemaDTOToProto (s : SchemaResponse) : ProtoSchema where
  id := s.id
  name := s.name
  version := 1
  format := ProtoSchemaFormat.jsonSchema
  definition := s.definition

def registerSchema : Option ProtoRegisterSchemaRequest → Except Status RegisterSchemaRequest
  | none => .error ⟨.invalidArgument, "schema name and definition are required"⟩
  | some req =>
    if req.name = "" ∨ req.definition = "" then
      .error ⟨.invalidArgument, "schema name and definition are required"⟩
    else match schemaProtoToDTO (some req) with
    | none => .error ⟨.invalidArgument, "failed to convert request"⟩
    | some dtoReq => .ok dtoReq

def registerSchemaResponse (result : Except String String) : Except Status String :=
  result.mapError (fun _ => ⟨.internal, "failed to register schema"⟩)

def get (schemas : Repository) (schemaID : String) : Except String SchemaResponse :=
  match schemas.get schemaID with
  | .error err => .error ("schema not found: " ++ err)
  | .ok schema => .ok (fromEntitySchema schema)

def getSchema (req : Option ProtoGetSchemaRequest) (schemas : Repository) : Except Status ProtoSchema :=
  match req with
  | none => .error ⟨.invalidArgument, "request is required"⟩
  | some req =>
    match req.identifier with
    | some (.schemaId schemaID) =>
      if schemaID = "" then .error ⟨.invalidArgument, "schema ID cannot be empty"⟩
      else match get schemas schemaID with
      | .error _ => .error ⟨.notFound, "schema not found"⟩
      | .ok schemaDTO => .ok (schemaDTOToProto schemaDTO)
    | _ => .error ⟨.invalidArgument, "schema ID is required"⟩

/-- `RegisterSchema` accepted the message in this call of the service, with this ID. -/
def Accepted (req : ProtoRegisterSchemaRequest) (call : RegisterCall) (schemaID : String) : Prop :=
  registerSchema (some req) = .ok call.request ∧
    ∃ result, call.stage = .returned result ∧ registerSchemaResponse result = .ok schemaID

/-- `GetSchema` answers with the name, the format and the definition that were registered. -/
def RoundTrips (req : ProtoRegisterSchemaRequest) (schemaID : String) (schemas : Repository) : Prop :=
  ∃ schema, getSchema (some ⟨some (.schemaId schemaID)⟩) schemas = .ok schema ∧
    schema.name = req.name ∧ schema.format = req.format ∧ schema.definition = req.definition

section Keeping
variable {state after : State} {index : Nat} {call next : RegisterCall}

def IsFor (request : RegisterSchemaRequest) (schema : Schema) : Prop :=
  schema.name = request.name ∧ schema.definition = request.definition

/-- A call has built the schema it was asked for, and once it has returned an ID, the repository
has such a schema under it. -/
def Keeps (schemas : Repository) (call : RegisterCall) : Prop :=
  match call.stage with
  | .checking schema => IsFor call.request schema
  | .saving schema => IsFor call.request schema
  | .returned (.error _) => True
  | .returned (.ok schemaID) =>
      ∃ schema, schemas.lookup schemaID = some schema ∧ schema.id = schemaID ∧ IsFor call.request schema

theorem Keeps.insert {schemas : Repository} {schema : Schema} (kept : Keeps schemas call)
    (fresh : schema.id ∉ schemas) : Keeps (schemas.insert schema.id schema) call := by
  unfold Keeps at kept ⊢
  split
  next stage => simpa only [stage] using kept
  next stage => simpa only [stage] using kept
  next => trivial
  next schemaID stage =>
    simp only [stage] at kept
    obtain ⟨stored, found, same⟩ := kept
    refine ⟨stored, ?_, same⟩
    rw [Finmap.lookup_insert_of_ne _ _, found]
    intro clash
    exact fresh (clash ▸ Finmap.mem_of_lookup_eq_some found)

theorem keeps_step {action : Action} (kept : ∀ call ∈ state.calls, Keeps state.schemas call)
    (fresh : FreshIDs state action) (stepped : step state action = some after) :
    ∀ call ∈ after.calls, Keeps after.schemas call := by
  intro call member
  cases step_cases stepped with
  | refused request _ _ _ err =>
    rcases List.mem_append.mp member with old | here
    · exact kept call old
    · cases List.mem_singleton.mp here
      trivial
  | register request _ _ _ schema built =>
    rcases List.mem_append.mp member with old | here
    · exact kept call old
    · cases List.mem_singleton.mp here
      obtain ⟨-, name, -, -, definition⟩ := RegisterSchemaRequest.toEntity_ok built
      exact ⟨name, definition⟩
  | duplicate index request schema err found =>
    rcases List.mem_or_eq_of_mem_set member with old | rfl
    · exact kept call old
    · trivial
  | check index request schema found absent =>
    rcases List.mem_or_eq_of_mem_set member with old | rfl
    · exact kept call old
    · have own := kept _ (List.mem_of_getElem? found)
      exact own
  | save index request schema found =>
    rcases List.mem_or_eq_of_mem_set member with old | rfl
    · exact (kept call old).insert (fresh _ found schema rfl)
    · exact ⟨schema, Finmap.lookup_insert _, rfl, kept _ (List.mem_of_getElem? found)⟩

theorem keeps_of_reaches (reached : machine.Reaches FreshIDs state) :
    ∀ call ∈ state.calls, Keeps state.schemas call := by
  apply reached.invariant (fun state => ∀ call ∈ state.calls, Keeps state.schemas call)
  · rintro _ rfl call member
    cases member
  · exact fun _ _ _ _ kept fresh stepped => keeps_step kept fresh stepped

end Keeping

theorem getSchema_found {schemas : Repository} {schemaID : String} {schema : Schema} (named : schemaID ≠ "")
    (found : schemas.lookup schemaID = some schema) :
    getSchema (some ⟨some (.schemaId schemaID)⟩) schemas = .ok (schemaDTOToProto (fromEntitySchema schema)) := by
  simp only [getSchema, if_neg named, get, Repository.get, found]

theorem converted_fields {req : ProtoRegisterSchemaRequest} {request : RegisterSchemaRequest}
    (converted : registerSchema (some req) = .ok request) :
    request.name = req.name ∧ request.definition = req.definition := by
  simp only [registerSchema, schemaProtoToDTO] at converted
  split at converted
  next => cases converted
  next =>
    cases converted
    exact ⟨rfl, rfl⟩

/-- However many schemas are registered, and whenever, an accepted registration comes back from `GetSchema`
exactly if its format is `JSON_SCHEMA`. -/
theorem schema_roundTrips_iff {state : State} (reached : machine.Reaches FreshIDs state)
    {req : ProtoRegisterSchemaRequest} {call : RegisterCall} (member : call ∈ state.calls) {schemaID : String}
    (accepted : Accepted req call schemaID) :
    RoundTrips req schemaID state.schemas ↔ req.format = ProtoSchemaFormat.jsonSchema := by
  obtain ⟨converted, result, returned, answered⟩ := accepted
  have kept := keeps_of_reaches reached call member
  cases result with
  | error err => cases answered
  | ok id =>
    cases answered
    simp only [Keeps, returned] at kept
    obtain ⟨schema, found, rfl, name, definition⟩ := kept
    have answer := getSchema_found schema.id_ne found
    have request := converted_fields converted
    constructor
    · rintro ⟨reply, got, -, format, -⟩
      rw [answer] at got
      cases got
      exact format.symm
    · intro format
      exact ⟨_, answer, name.trans request.1, format.symm, definition.trans request.2⟩

def plainSchema (name : String) (format : ProtoSchemaFormat) : ProtoRegisterSchemaRequest := ⟨name, format, "true"⟩

def plainRequest (name : String) (format : ProtoSchemaFormat) : RegisterSchemaRequest :=
  ⟨name, "1.0", ProtoSchemaFormat.string format, "true"⟩

theorem plainSchema_accepted {name : String} (named : name ≠ "") (format : ProtoSchemaFormat) (schemaID : String) :
    Accepted (plainSchema name format) ⟨plainRequest name format, .returned (.ok schemaID)⟩ schemaID := by
  refine ⟨?_, .ok schemaID, rfl, rfl⟩
  simp [registerSchema, plainSchema, plainRequest, schemaProtoToDTO, named]

theorem schema_roundTrips_json : ∃ state, machine.Reaches FreshIDs state ∧
    RoundTrips (plainSchema "orders" ProtoSchemaFormat.jsonSchema) "1000-1" state.schemas := by
  let orders := plainRequest "orders" ProtoSchemaFormat.jsonSchema
  obtain ⟨state, reached, outcome⟩ := machine.reaches_of_run FreshIDs .initial
    [.register orders 1000 1001 1002, .check 0, .save 0,
      .register (plainRequest "bills" ProtoSchemaFormat.avro) 2000 2001 2002, .check 1, .save 1]
    (fun state => ⟨orders, .returned (.ok "1000-1")⟩ ∈ state.calls) rfl (by decide +kernel)
  have accepted := plainSchema_accepted (by decide : "orders" ≠ "") ProtoSchemaFormat.jsonSchema "1000-1"
  exact ⟨state, reached, (schema_roundTrips_iff reached (of_decide_eq_true outcome) accepted).mpr rfl⟩

/-- An `AVRO` schema comes back as `JSON_SCHEMA`. With two IDs from the same clock readings, one schema comes back
in the place of the other. -/
theorem schema_not_returned :
    (∃ state, machine.Reaches FreshIDs state ∧
      ⟨plainRequest "orders" ProtoSchemaFormat.avro, .returned (.ok "1000-1")⟩ ∈ state.calls ∧
      getSchema (some ⟨some (.schemaId "1000-1")⟩) state.schemas =
        .ok ⟨"1000-1", "orders", 1, ProtoSchemaFormat.jsonSchema, "true"⟩) ∧
    ∃ state, machine.Reachable state ∧
      ⟨plainRequest "orders" ProtoSchemaFormat.jsonSchema, .returned (.ok "1000-1")⟩ ∈ state.calls ∧
      getSchema (some ⟨some (.schemaId "1000-1")⟩) state.schemas =
        .ok ⟨"1000-1", "bills", 1, ProtoSchemaFormat.jsonSchema, "true"⟩ := by
  constructor
  · obtain ⟨state, reached, outcome⟩ := machine.reaches_of_run FreshIDs .initial
      [.register (plainRequest "orders" ProtoSchemaFormat.avro) 1000 1001 1002, .check 0, .save 0]
      (fun state => ⟨plainRequest "orders" ProtoSchemaFormat.avro, .returned (.ok "1000-1")⟩ ∈ state.calls ∧
        getSchema (some ⟨some (.schemaId "1000-1")⟩) state.schemas =
          .ok ⟨"1000-1", "orders", 1, ProtoSchemaFormat.jsonSchema, "true"⟩) rfl (by decide +kernel)
    exact ⟨state, reached, of_decide_eq_true outcome⟩
  · obtain ⟨state, reached, outcome⟩ := machine.reaches_of_run (fun _ _ => True) .initial
      [.register (plainRequest "orders" ProtoSchemaFormat.jsonSchema) 1000 1001 1002, .check 0, .save 0,
        .register (plainRequest "bills" ProtoSchemaFormat.jsonSchema) 1000 1001 1002, .check 1, .save 1]
      (fun state => ⟨plainRequest "orders" ProtoSchemaFormat.jsonSchema, .returned (.ok "1000-1")⟩ ∈ state.calls ∧
        getSchema (some ⟨some (.schemaId "1000-1")⟩) state.schemas =
          .ok ⟨"1000-1", "bills", 1, ProtoSchemaFormat.jsonSchema, "true"⟩) rfl (by decide +kernel)
    exact ⟨state, reached, of_decide_eq_true outcome⟩

end EventGateway.Registry
