import EventGateway.Domain.Event

/-! The schema entity and the request that creates it. As with events, the outcome of
`validate` is a field of the record, so that every schema has passed it. -/

namespace EventGateway

inductive SchemaFormat where
  | jsonSchema
  | avro
  | protobuf
  deriving DecidableEq

def SchemaFormat.string : SchemaFormat → String
  | .avro => "Avro"
  | .protobuf => "Protobuf"
  | .jsonSchema => "JSONSchema"

/-- The checks of `Schema.validate`, on the four fields that it reads. -/
def validateSchemaFields (id name version definition : String) : Except String Unit :=
  if id = "" then .error "schema ID cannot be empty"
  else if name = "" then .error "schema name cannot be empty"
  else if version = "" then .error "schema version cannot be empty"
  else if definition = "" then .error "schema definition cannot be empty"
  else .ok ()

structure Schema where
  id : String
  name : String
  version : String
  format : SchemaFormat
  definition : String
  createdAt : Time
  valid : validateSchemaFields id name version definition = .ok ()
  deriving DecidableEq

def Schema.newSchema (id name version : String) (format : SchemaFormat) (definition : String)
    (createdAt : Time) : Except String Schema :=
  match checked : validateSchemaFields id name version definition with
  | .error err => .error err
  | .ok () => .ok { id, name, version, format, definition, createdAt, valid := checked }

theorem Schema.id_ne (schema : Schema) : schema.id ≠ "" := by
  intro empty
  have valid := schema.valid
  simp [validateSchemaFields, empty] at valid

structure RegisterSchemaRequest where
  name : String
  version : String
  format : String
  definition : String
  deriving DecidableEq

namespace RegisterSchemaRequest

/-- The switch of `ToEntity`: an unknown format is read as JSON Schema. -/
def schemaFormat (r : RegisterSchemaRequest) : SchemaFormat :=
  if r.format = "Avro" then .avro
  else if r.format = "Protobuf" then .protobuf
  else .jsonSchema

def toEntity (r : RegisterSchemaRequest) (id : String) (createdAt : Time) : Except String Schema :=
  Schema.newSchema id r.name r.version r.schemaFormat r.definition createdAt

theorem toEntity_ok {r : RegisterSchemaRequest} {id : String} {createdAt : Time} {schema : Schema}
    (built : r.toEntity id createdAt = .ok schema) :
    schema.id = id ∧ schema.name = r.name ∧ schema.version = r.version ∧
      schema.format = r.schemaFormat ∧ schema.definition = r.definition := by
  unfold toEntity Schema.newSchema at built
  split at built
  next => cases built
  next =>
    cases built
    exact ⟨rfl, rfl, rfl, rfl, rfl⟩

end RegisterSchemaRequest
end EventGateway
