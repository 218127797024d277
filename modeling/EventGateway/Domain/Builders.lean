import EventGateway.Domain.Event
import EventGateway.Lib.Assignment

/-! Chains of the event's builder methods. Each of them assigns one field, or two, and the last
assignment of a field is the one that counts. -/

namespace EventGateway
open Lib

/-- A call of a builder, with its argument; `μ` is what stands for a map of metadata. -/
inductive Builder (μ : Type) where
  | withMetadata (metadata : μ)
  | withCorrelation (correlationID causationID : String)
  | withPriority (priority : Priority)
  | withPartitionKey (partitionKey : String)
  | withSchemaURL (schemaURL : String)

inductive BuilderMethod where
  | withMetadata
  | withCorrelation
  | withPriority
  | withPartitionKey
  | withSchemaURL
  deriving DecidableEq

namespace Builder
variable {μ ν : Type}

def method : Builder μ → BuilderMethod
  | .withMetadata _ => .withMetadata
  | .withCorrelation _ _ => .withCorrelation
  | .withPriority _ => .withPriority
  | .withPartitionKey _ => .withPartitionKey
  | .withSchemaURL _ => .withSchemaURL

def map (change : μ → ν) : Builder μ → Builder ν
  | .withMetadata metadata => .withMetadata (change metadata)
  | .withCorrelation correlationID causationID => .withCorrelation correlationID causationID
  | .withPriority priority => .withPriority priority
  | .withPartitionKey partitionKey => .withPartitionKey partitionKey
  | .withSchemaURL schemaURL => .withSchemaURL schemaURL

/-! What a call assigns, if anything, to each of the fields that there are builders for. -/

def correlation? : Builder μ → Option (String × String)
  | .withCorrelation correlationID causationID => some (correlationID, causationID)
  | _ => none

def priority? : Builder μ → Option Priority
  | .withPriority priority => some priority
  | _ => none

def partitionKey? : Builder μ → Option String
  | .withPartitionKey partitionKey => some partitionKey
  | _ => none

def schemaURL? : Builder μ → Option String
  | .withSchemaURL schemaURL => some schemaURL
  | _ => none

def entry? (key : String) : Builder StringMap → Option String
  | .withMetadata metadata => metadata.lookup key
  | _ => none

end Builder

namespace Event

def apply (e : Event) : Builder StringMap → Event
  | .withMetadata metadata => e.withMetadata metadata
  | .withCorrelation correlationID causationID => e.withCorrelation correlationID causationID
  | .withPriority priority => e.withPriority priority
  | .withPartitionKey partitionKey => e.withPartitionKey partitionKey
  | .withSchemaURL schemaURL => e.withSchemaURL schemaURL

def build (e : Event) (builders : List (Builder StringMap)) : Event := builders.foldl apply e

/-- What a chain makes of an event: eight fields are kept, each of the others has its last assigned value or
the one it had, and a key of the metadata has its value from the last map that contains it. -/
structure NormalForm (start : Event) (builders : List (Builder StringMap)) (result : Event) : Prop where
  id : result.id = start.id
  source : result.source = start.source
  eventType : result.eventType = start.eventType
  subject : result.subject = start.subject
  data : result.data = start.data
  dataContentType : result.dataContentType = start.dataContentType
  timestamp : result.timestamp = start.timestamp
  createdAt : result.createdAt = start.createdAt
  correlation : (result.correlationID, result.causationID) =
    (lastAssigned Builder.correlation? builders).getD (start.correlationID, start.causationID)
  priority : result.priority = (lastAssigned Builder.priority? builders).getD start.priority
  partitionKey : result.partitionKey = (lastAssigned Builder.partitionKey? builders).getD start.partitionKey
  schemaURL : result.schemaURL = (lastAssigned Builder.schemaURL? builders).getD start.schemaURL
  metadata : ∀ key, result.metadata.lookup key =
    (lastAssigned (Builder.entry? key) builders).or (start.metadata.lookup key)

def core (e : Event) : String × String × String × String × Bytes × String × Time × Time :=
  (e.id, e.source, e.eventType, e.subject, e.data, e.dataContentType, e.timestamp, e.createdAt)

theorem core_build (e : Event) (builders : List (Builder StringMap)) : (e.build builders).core = e.core := by
  induction builders generalizing e with
  | nil => rfl
  | cons builder rest ih =>
    have kept : (e.apply builder).core = e.core := by cases builder <;> rfl
    exact (ih (e.apply builder)).trans kept

theorem lookup_apply (key : String) (e : Event) (builder : Builder StringMap) :
    (e.apply builder).metadata.lookup key = (builder.entry? key).or (e.metadata.lookup key) := by
  cases builder with
  | withMetadata metadata =>
    simp only [apply, withMetadata, Builder.entry?]
    cases known : metadata.lookup key with
    | none => simp [Finmap.lookup_union_right (Finmap.lookup_eq_none.mp known)]
    | some value =>
      simp [Finmap.lookup_union_left (Finmap.mem_of_lookup_eq_some known), known]
  | withCorrelation | withPriority | withPartitionKey | withSchemaURL => rfl

theorem lookup_build (key : String) (e : Event) (builders : List (Builder StringMap)) :
    (e.build builders).metadata.lookup key =
      (lastAssigned (Builder.entry? key) builders).or (e.metadata.lookup key) := by
  induction builders generalizing e with
  | nil => rfl
  | cons builder rest ih =>
    rw [build, List.foldl_cons, ← build, ih, lookup_apply, lastAssigned_cons, Option.or_assoc]

theorem build_normalForm (e : Event) (builders : List (Builder StringMap)) :
    NormalForm e builders (e.build builders) := by
  have core := core_build e builders
  simp only [Event.core, Prod.mk.injEq] at core
  obtain ⟨id, source, eventType, subject, data, dataContentType, timestamp, createdAt⟩ := core
  refine ⟨id, source, eventType, subject, data, dataContentType, timestamp, createdAt, ?_, ?_, ?_, ?_,
    fun key => lookup_build key e builders⟩
  · exact observe_foldl apply (fun e => (e.correlationID, e.causationID))
      (fun e builder => by cases builder <;> rfl) builders e
  · exact observe_foldl apply Event.priority (fun e builder => by cases builder <;> rfl) builders e
  · exact observe_foldl apply Event.partitionKey (fun e builder => by cases builder <;> rfl) builders e
  · exact observe_foldl apply Event.schemaURL (fun e builder => by cases builder <;> rfl) builders e

theorem apply_comm (e : Event) {one two : Builder StringMap} (different : one.method ≠ two.method) :
    (e.apply one).apply two = (e.apply two).apply one := by
  cases one <;> cases two <;> first | rfl | exact absurd rfl different

theorem build_swap (e : Event) (before after : List (Builder StringMap)) {one two : Builder StringMap}
    (different : one.method ≠ two.method) :
    e.build (before ++ one :: two :: after) = e.build (before ++ two :: one :: after) := by
  simp only [build, List.foldl_append, List.foldl_cons, apply_comm _ different]

end Event
end EventGateway
