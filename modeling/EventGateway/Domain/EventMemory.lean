import EventGateway.Domain.Builders
import EventGateway.Lib.FiniteMap
import EventGateway.Lib.Heap

/-! The event entity behind its pointer. An event is an object in memory whose metadata is a reference to
a map, and `Metadata` hands out that reference. A builder copies the object and the map, entry by entry, and
then assigns to its copy. The payload is a value here, as no method writes to it. -/

namespace EventGateway
open Lib Lib.FiniteMap

abbrev MapOrder := RangeOrder String String

structure EventObject where
  id : String
  source : String
  eventType : String
  subject : String
  data : Bytes
  dataContentType : String
  schemaURL : String
  timestamp : Time
  metadata : Nat
  correlationID : String
  causationID : String
  partitionKey : String
  priority : Priority
  createdAt : Time

def EventObject.validate (e : EventObject) : Except String Unit :=
  validateFields e.id e.source e.eventType e.data e.dataContentType

structure EventMemory where
  objects : Heap EventObject
  maps : Heap StringMap

/-- A builder call, the map being given by a reference or nil, and the orders in which its loops go over
the receiver's map and the given one. -/
structure BuilderCall where
  builder : Builder (Option Nat)
  copying : MapOrder
  merging : MapOrder

namespace EventMemory

def contents (memory : EventMemory) : Option Nat → StringMap
  | none => ∅
  | some ref => (memory.maps.read ref).getD ∅

def setEntries (maps : Heap StringMap) (target : Nat) (entries : List (String × String)) : Heap StringMap :=
  entries.foldl (fun maps entry => maps.update target (fun map => map.insert entry.1 entry.2)) maps

def newEvent (memory : EventMemory) (id source eventType subject : String) (data : Bytes)
    (dataContentType : String) (timestamp createdAt : Time) : Except String Nat × EventMemory :=
  let e : EventObject := {
    id, source, eventType, subject, data, dataContentType, timestamp, createdAt
    schemaURL := ""
    metadata := memory.maps.fresh
    correlationID := ""
    causationID := ""
    partitionKey := ""
    priority := priorityMedium }
  let after : EventMemory := ⟨memory.objects.allocate e, memory.maps.allocate ∅⟩
  match e.validate with
  | .error err => (.error err, after)
  | .ok () => (.ok memory.objects.fresh, after)

def copy (memory : EventMemory) (order : MapOrder) (e : Nat) : Option (Nat × EventMemory) :=
  (memory.objects.read e).map (fun object =>
    let map := memory.maps.fresh
    let newEvent : EventObject := {
      id := object.id
      source := object.source
      eventType := object.eventType
      subject := object.subject
      data := object.data
      dataContentType := object.dataContentType
      schemaURL := object.schemaURL
      timestamp := object.timestamp
      correlationID := object.correlationID
      causationID := object.causationID
      partitionKey := object.partitionKey
      priority := object.priority
      createdAt := object.createdAt
      metadata := map }
    (memory.objects.fresh,
      ⟨memory.objects.allocate newEvent,
        setEntries (memory.maps.allocate ∅) map (order.entries (memory.contents (some object.metadata)))⟩))

def assign (memory : EventMemory) (e : Nat) (change : EventObject → EventObject) : EventMemory :=
  { memory with objects := memory.objects.update e change }

def merge (memory : EventMemory) (order : MapOrder) (e : Nat) (metadata : Option Nat) : EventMemory :=
  match memory.objects.read e with
  | some object =>
    { memory with maps := setEntries memory.maps object.metadata (order.entries (memory.contents metadata)) }
  | none => memory

def assignTo (memory : EventMemory) (newEvent : Nat) (call : BuilderCall) : EventMemory :=
  match call.builder with
  | .withMetadata metadata => memory.merge call.merging newEvent metadata
  | .withCorrelation correlationID causationID =>
      memory.assign newEvent (fun object => { object with correlationID, causationID })
  | .withPriority priority => memory.assign newEvent (fun object => { object with priority })
  | .withPartitionKey partitionKey => memory.assign newEvent (fun object => { object with partitionKey })
  | .withSchemaURL schemaURL => memory.assign newEvent (fun object => { object with schemaURL })

def apply (memory : EventMemory) (e : Nat) (call : BuilderCall) : Option (Nat × EventMemory) :=
  (memory.copy call.copying e).map (fun (newEvent, memory) => (newEvent, memory.assignTo newEvent call))

def build (memory : EventMemory) (e : Nat) :
    List BuilderCall → Option (List (Builder StringMap) × Nat × EventMemory)
  | [] => some ([], e, memory)
  | call :: rest => (memory.apply e call).bind (fun (newEvent, after) =>
      (after.build newEvent rest).map (fun (builders, last, final) =>
        (call.builder.map memory.contents :: builders, last, final)))

end EventMemory

def Event.object (e : Event) (metadata : Nat) : EventObject where
  id := e.id
  source := e.source
  eventType := e.eventType
  subject := e.subject
  data := e.data
  dataContentType := e.dataContentType
  schemaURL := e.schemaURL
  timestamp := e.timestamp
  metadata := metadata
  correlationID := e.correlationID
  causationID := e.causationID
  partitionKey := e.partitionKey
  priority := e.priority
  createdAt := e.createdAt

namespace EventMemory

def Holds (memory : EventMemory) (e : Nat) (event : Event) : Prop :=
  ∃ map, memory.objects.read e = some (event.object map) ∧ memory.maps.read map = some event.metadata

structure Extends (before after : EventMemory) : Prop where
  objects : before.objects.Extends after.objects
  maps : before.maps.Extends after.maps

theorem Extends.trans {first second third : EventMemory} (one : first.Extends second)
    (two : second.Extends third) : first.Extends third :=
  ⟨one.objects.trans two.objects, one.maps.trans two.maps⟩

theorem Holds.mono {before after : EventMemory} {e : Nat} {event : Event} (held : before.Holds e event)
    (grown : before.Extends after) : after.Holds e event := by
  obtain ⟨map, object, metadata⟩ := held
  exact ⟨map, grown.objects _ _ object, grown.maps _ _ metadata⟩

section Entries
variable {maps before : Heap StringMap} {target : Nat} {base : StringMap}

theorem read_setEntries (found : maps.read target = some base) (entries : List (String × String)) :
    (setEntries maps target entries).read target =
      some (entries.foldl (fun merged entry => merged.insert entry.1 entry.2) base) := by
  induction entries generalizing maps base with
  | nil => exact found
  | cons entry rest ih =>
    apply ih
    rw [Heap.read_update, found]
    rfl

theorem extends_setEntries (grown : before.Extends maps) (new : before.read target = none)
    (entries : List (String × String)) : before.Extends (setEntries maps target entries) := by
  induction entries generalizing maps with
  | nil => exact grown
  | cons entry rest ih => exact ih (grown.update new _)

end Entries

structure Copied (before : EventMemory) (event : Event) (newEvent map : Nat) (after : EventMemory) : Prop where
  object : after.objects.read newEvent = some (event.object map)
  metadata : after.maps.read map = some event.metadata
  newObject : before.objects.read newEvent = none
  newMap : before.maps.read map = none
  kept : before.Extends after

section Builders
variable {memory after : EventMemory} {e newEvent map : Nat} {event : Event}

theorem copy_copied (held : memory.Holds e event) (order : MapOrder) :
    ∃ newEvent map after, memory.copy order e = some (newEvent, after) ∧
      Copied memory event newEvent map after := by
  obtain ⟨own, object, metadata⟩ := held
  let maps := setEntries (memory.maps.allocate ∅) memory.maps.fresh (order.entries (memory.contents (some own)))
  refine ⟨memory.objects.fresh, memory.maps.fresh,
    ⟨memory.objects.allocate (event.object memory.maps.fresh), maps⟩, ?_, ?_⟩
  · rw [copy, object]
    rfl
  · have entries : memory.contents (some own) = event.metadata := by rw [contents, metadata, Option.getD_some]
    refine ⟨Heap.read_allocated _ _, ?_, Heap.read_fresh _, Heap.read_fresh _, Heap.extends_allocate _ _, ?_⟩
    · dsimp only [maps]
      rw [entries, read_setEntries (Heap.read_allocated _ _), foldl_insert_entries, Finmap.union_empty]
    · exact extends_setEntries (Heap.extends_allocate _ _) (Heap.read_fresh _) _

theorem Copied.assign (copied : Copied memory event newEvent map after) {change : EventObject → EventObject}
    {changed : Event} (assigned : change (event.object map) = changed.object map)
    (same : changed.metadata = event.metadata) :
    (after.assign newEvent change).Holds newEvent changed ∧ memory.Extends (after.assign newEvent change) := by
  refine ⟨⟨map, ?_, ?_⟩, copied.kept.objects.update copied.newObject change, copied.kept.maps⟩
  · rw [EventMemory.assign, Heap.read_update, copied.object, Option.map_some, assigned]
  · rw [same]
    exact copied.metadata

theorem Copied.merge (copied : Copied memory event newEvent map after) (order : MapOrder) (metadata : Option Nat) :
    (after.merge order newEvent metadata).Holds newEvent (event.withMetadata (after.contents metadata)) ∧
      memory.Extends (after.merge order newEvent metadata) := by
  have merged : after.merge order newEvent metadata =
      { after with maps := setEntries after.maps map (order.entries (after.contents metadata)) } := by
    rw [EventMemory.merge, copied.object]
    rfl
  rw [merged]
  refine ⟨⟨map, copied.object, ?_⟩, copied.kept.objects, ?_⟩
  · rw [read_setEntries copied.metadata, foldl_insert_entries]
    rfl
  · exact extends_setEntries copied.kept.maps copied.newMap _

end Builders

def Leads (memory : EventMemory) (call : BuilderCall) : Prop :=
  ∀ ref, call.builder = .withMetadata (some ref) → (memory.maps.read ref).isSome

def AllLead (memory : EventMemory) (e : Nat) : List BuilderCall → Prop
  | [] => True
  | call :: rest => memory.Leads call ∧
      ∀ newEvent after, memory.apply e call = some (newEvent, after) → after.AllLead newEvent rest

theorem contents_kept {before after : EventMemory} (kept : before.Extends after) {ref : Nat}
    (found : (before.maps.read ref).isSome) : after.contents (some ref) = before.contents (some ref) := by
  obtain ⟨map, found⟩ := Option.isSome_iff_exists.mp found
  rw [contents, contents, found, kept.maps ref map found]

theorem Copied.assignTo {memory after : EventMemory} {newEvent map : Nat} {event : Event}
    (copied : Copied memory event newEvent map after) {call : BuilderCall} (leads : memory.Leads call) :
    (after.assignTo newEvent call).Holds newEvent (event.apply (call.builder.map memory.contents)) ∧
      memory.Extends (after.assignTo newEvent call) := by
  unfold EventMemory.assignTo
  cases builder : call.builder with
  | withMetadata metadata =>
    have same : after.contents metadata = memory.contents metadata := by
      cases metadata with
      | none => rfl
      | some ref => exact contents_kept copied.kept (leads ref builder)
    rw [Builder.map, Event.apply, ← same]
    exact copied.merge call.merging metadata
  | withCorrelation | withPriority | withPartitionKey | withSchemaURL => exact copied.assign rfl rfl

/-- A call gives the event that the builder makes of the receiver, and leaves everything else alone, the
receiver included. -/
theorem apply_holds {memory : EventMemory} {e : Nat} {event : Event} (held : memory.Holds e event)
    {call : BuilderCall} (leads : memory.Leads call) :
    ∃ newEvent after, memory.apply e call = some (newEvent, after) ∧
      after.Holds newEvent (event.apply (call.builder.map memory.contents)) ∧ memory.Extends after := by
  obtain ⟨newEvent, map, copy, made, copied⟩ := copy_copied held call.copying
  exact ⟨newEvent, copy.assignTo newEvent call, by rw [apply, made]; rfl, copied.assignTo leads⟩

theorem build_holds {memory : EventMemory} {e : Nat} {event : Event} (held : memory.Holds e event)
    {calls : List BuilderCall} (lead : memory.AllLead e calls) :
    ∃ builders last final, memory.build e calls = some (builders, last, final) ∧
      builders.map Builder.method = calls.map (fun call => call.builder.method) ∧
      final.Holds last (event.build builders) ∧ memory.Extends final := by
  induction calls generalizing memory e event with
  | nil => exact ⟨[], e, memory, rfl, rfl, held, Heap.Extends.refl _, Heap.Extends.refl _⟩
  | cons call rest ih =>
    obtain ⟨leads, later⟩ := lead
    obtain ⟨newEvent, after, applied, made, kept⟩ := apply_holds held leads
    obtain ⟨builders, last, final, built, methods, result, keptLater⟩ := ih made (later newEvent after applied)
    refine ⟨call.builder.map memory.contents :: builders, last, final, ?_, ?_, result, kept.trans keptLater⟩
    · simp only [build, applied, Option.bind_some, built, Option.map_some]
    · rw [List.map_cons, List.map_cons, methods]
      cases call.builder <;> rfl

theorem newEvent_holds {memory after : EventMemory} {id source eventType subject : String} {data : Bytes}
    {dataContentType : String} {timestamp createdAt : Time} {e : Nat}
    (made : memory.newEvent id source eventType subject data dataContentType timestamp createdAt = (.ok e, after)) :
    ∃ start, Event.newEvent id source eventType subject data dataContentType timestamp createdAt = .ok start ∧
      after.Holds e start := by
  unfold newEvent at made
  dsimp only at made
  split at made
  next => cases made
  next checked =>
    cases made
    exact ⟨_, Event.newEvent_ok timestamp createdAt checked, memory.maps.fresh, Heap.read_allocated _ _,
      Heap.read_allocated _ _⟩

/-- Whatever a call in the chain had as its receiver is in the end as the call found it. -/
theorem receiver_kept {memory final : EventMemory} {e last : Nat} {event : Event} {front back : List BuilderCall}
    {builders : List (Builder StringMap)} (held : memory.Holds e event) (lead : memory.AllLead e (front ++ back))
    (built : memory.build e (front ++ back) = some (builders, last, final)) :
    ∃ earlier receiver middle found, memory.build e front = some (earlier, receiver, middle) ∧
      middle.Holds receiver found ∧ final.Holds receiver found := by
  induction front generalizing memory e event builders with
  | nil =>
    obtain ⟨_, _, _, same, -, -, kept⟩ := build_holds held lead
    cases built.symm.trans same
    exact ⟨[], e, memory, event, rfl, held, held.mono kept⟩
  | cons call rest ih =>
    obtain ⟨leads, later⟩ := lead
    obtain ⟨newEvent, after, applied, made, -⟩ := apply_holds held leads
    simp only [List.cons_append, build, applied, Option.bind_some, Option.map_eq_some_iff] at built
    obtain ⟨⟨others, end', memory'⟩, continued, same⟩ := built
    cases same
    obtain ⟨earlier, receiver, middle, found, reached, before, afterwards⟩ :=
      ih made (later newEvent after applied) continued
    refine ⟨call.builder.map memory.contents :: earlier, receiver, middle, found, ?_, before, afterwards⟩
    simp only [build, applied, Option.bind_some, reached, Option.map_some]

theorem validate_of_holds {memory : EventMemory} {e : Nat} {event : Event} (held : memory.Holds e event)
    {object : EventObject} (found : memory.objects.read e = some object) : object.validate = .ok () := by
  obtain ⟨map, own, -⟩ := held
  cases found.symm.trans own
  exact event.valid

/-- A chain of builders on an event from `NewEvent`, in memory: it comes to its end, its result is valid and in
the normal form of the calls, different builders can change places, and no receiver has changed. -/
theorem builders_normal_form {memory created : EventMemory} {id source eventType subject : String} {data : Bytes}
    {dataContentType : String} {timestamp createdAt : Time} {e : Nat}
    (made : memory.newEvent id source eventType subject data dataContentType timestamp createdAt = (.ok e, created))
    {calls : List BuilderCall} (lead : created.AllLead e calls) :
    ∃ start builders last final, created.Holds e start ∧
      Event.newEvent id source eventType subject data dataContentType timestamp createdAt = .ok start ∧
      created.build e calls = some (builders, last, final) ∧
      builders.map Builder.method = calls.map (fun call => call.builder.method) ∧
      (∃ result, final.Holds last result ∧ start.NormalForm builders result ∧ result = start.build builders) ∧
      (∀ object, final.objects.read last = some object → object.validate = .ok ()) ∧
      (∀ before one two after, one.method ≠ two.method →
        start.build (before ++ one :: two :: after) = start.build (before ++ two :: one :: after)) ∧
      ∀ front call back, calls = front ++ call :: back → ∃ earlier receiver middle found,
        created.build e front = some (earlier, receiver, middle) ∧ middle.Holds receiver found ∧
          final.Holds receiver found := by
  obtain ⟨start, new, held⟩ := newEvent_holds made
  obtain ⟨builders, last, final, built, methods, result, -⟩ := build_holds held lead
  refine ⟨start, builders, last, final, held, new, built, methods,
    ⟨start.build builders, result, start.build_normalForm builders, rfl⟩,
    fun object found => validate_of_holds result found,
    fun before one two after different => start.build_swap before after different, ?_⟩
  rintro front call back rfl
  exact receiver_kept held lead built

theorem builders_normal_form_own_map :
    let calls : List BuilderCall := [⟨.withPriority 3, .any, .any⟩, ⟨.withMetadata (some 0), .any, .any⟩]
    ∃ created builders last final result, (⟨⟨[]⟩, ⟨[]⟩⟩ : EventMemory).newEvent "order-1" "orders" "order.created"
        "/orders/1" [0x31] "application/json" 0 0 = (.ok 0, created) ∧
      created.build 0 calls = some (builders, last, final) ∧ final.Holds last result ∧ result.id = "order-1" := by
  intro calls
  obtain ⟨created, made⟩ : ∃ created, (⟨⟨[]⟩, ⟨[]⟩⟩ : EventMemory).newEvent "order-1" "orders" "order.created"
      "/orders/1" [0x31] "application/json" 0 0 = (.ok 0, created) := ⟨_, rfl⟩
  obtain ⟨start, -, held⟩ := newEvent_holds made
  have first : (created.maps.read 0).isSome := by
    cases made
    rfl
  have leads : created.Leads ⟨.withPriority 3, .any, .any⟩ := nofun
  have lead : created.AllLead 0 calls := by
    refine ⟨leads, fun newEvent after applied => ⟨fun ref same => ?_, fun _ _ _ => trivial⟩⟩
    cases same
    obtain ⟨_, _, same, -, kept⟩ := apply_holds held leads
    cases applied.symm.trans same
    obtain ⟨map, found⟩ := Option.isSome_iff_exists.mp first
    rw [kept.maps 0 map found]
    rfl
  obtain ⟨start, builders, last, final, -, new, built, -, ⟨result, final_holds, normal, -⟩, -⟩ :=
    builders_normal_form made lead
  refine ⟨created, builders, last, final, result, made, built, final_holds, normal.id.trans ?_⟩
  cases new
  rfl

end EventMemory
end EventGateway
