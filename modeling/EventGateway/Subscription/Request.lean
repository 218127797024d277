import EventGateway.Domain.Filter
import EventGateway.Lib.Outcome

/-! The way of a subscription's filter from the API to the value object. A nil map reads as
an empty one, so both are the empty map here; the buffer size of the request is never read. -/

namespace EventGateway.Subscription
open Lib

/-- The `EventFilter` message; its priority is a 32-bit enumeration. -/
structure ProtoEventFilter where
  sourcePattern : String
  typePattern : String
  subjectPattern : String
  metadataFilters : StringMap
  priorityFilter : Int32

structure ProtoSubscribeRequest where
  filter : Option ProtoEventFilter

structure EventFilterDTO where
  sourcePattern : String
  typePattern : String
  subjectPattern : String
  metadataFilters : StringMap
  minPriority : Int64

structure SubscribeRequest where
  filter : Option EventFilterDTO
  groupID : String
  consumerID : String

def filterProtoToDTO : Option ProtoEventFilter → EventFilterDTO
  | none => ⟨"", "", "", ∅, 0⟩
  | some filter => {
      sourcePattern := filter.sourcePattern
      typePattern := filter.typePattern
      subjectPattern := filter.subjectPattern
      metadataFilters := filter.metadataFilters
      minPriority := filter.priorityFilter.toInt64 }

def subscribeRequestProtoToDTO : Option ProtoSubscribeRequest → Option SubscribeRequest
  | none => none
  | some protoReq => some { filter := some (filterProtoToDTO protoReq.filter), groupID := "", consumerID := "" }

def EventFilterDTO.toValueObject (engine : RegexpEngine) (f : EventFilterDTO) :
    Except String (EventFilter engine) :=
  EventFilter.newEventFilter engine f.sourcePattern f.typePattern f.subjectPattern f.metadataFilters f.minPriority

/-- The filter that `SubscriptionService.Subscribe` builds before anything else. -/
def SubscribeRequest.buildFilter (engine : RegexpEngine) (request : SubscribeRequest) :
    Except String (EventFilter engine) :=
  match request.filter with
  | some filter => (filter.toValueObject engine).mapError ("invalid filter: " ++ ·)
  | none =>
    (EventFilter.newEventFilter engine "" "" "" ∅ priorityUnspecified).mapError ("invalid default filter: " ++ ·)

def subscribeEvents (engine : RegexpEngine) (req : Option ProtoSubscribeRequest) :
    Except Status (EventFilter engine) :=
  if req.isNone then .error ⟨.invalidArgument, "request cannot be nil"⟩
  else match subscribeRequestProtoToDTO req with
  | none => .error ⟨.invalidArgument, "converted request is nil"⟩
  | some dtoReq => (dtoReq.buildFilter engine).mapError (fun _ => ⟨.internal, "failed to subscribe to events"⟩)

/-- The filter that a client asks for: the converted message as a value object, if its
patterns compile. -/
def requestedFilter (engine : RegexpEngine) (request : ProtoSubscribeRequest) : Option (EventFilter engine) := do
  let dtoReq ← subscribeRequestProtoToDTO (some request)
  let filter ← dtoReq.filter
  (filter.toValueObject engine).toOption

/-- A subscription is set up exactly when the requested filter can be built, and with it. -/
theorem subscribeEvents_ok {engine : RegexpEngine} {request : ProtoSubscribeRequest}
    {filter : EventFilter engine} :
    subscribeEvents engine (some request) = .ok filter ↔ requestedFilter engine request = some filter := by
  have built : requestedFilter engine request =
      ((filterProtoToDTO request.filter).toValueObject engine).toOption := rfl
  rw [built]
  simp only [subscribeEvents, subscribeRequestProtoToDTO, SubscribeRequest.buildFilter, Option.isNone_some,
    Bool.false_eq_true, if_false]
  cases (filterProtoToDTO request.filter).toValueObject engine with
  | error err => simp [Except.mapError, Except.toOption]
  | ok filter => simp [Except.mapError, Except.toOption]

end EventGateway.Subscription
