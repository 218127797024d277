import EventGateway.Domain.Schema
import EventGateway.Lib.Calls
import EventGateway.Lib.FiniteMap
import EventGateway.Lib.Machine

/-! `SchemaService.Register` over the in-memory repository. Each access to the repository
takes its lock, so it is one step; between the duplicate check and the save of one call
any number of steps of other calls may come. Reads by other methods change nothing. -/

namespace EventGateway.Registry
open Lib Lib.Calls

abbrev Repository := Finmap (fun _ : String => Schema)

namespace Repository

def save (schemas : Repository) (schema : Schema) : Except String Repository :=
  .ok (schemas.insert schema.id schema)

def get (schemas : Repository) (id : String) : Except String Schema :=
  match schemas.lookup id with
  | some schema => .ok schema
  | none => .error "schema not found"

/-- Whether `GetByNameVersion` finds a schema. Which of several it would return depends on the
order of the map, and `Register` does not look at it. -/
def getByNameVersion (schemas : Repository) (name version : String) : Bool :=
  @decide (∃ entry ∈ schemas.entries, entry.2.name = name ∧ entry.2.version = version)
    Multiset.decidableExistsMultiset

theorem getByNameVersion_iff {schemas : Repository} {name version : String} :
    schemas.getByNameVersion name version = true ↔
      ∃ id schema, schemas.lookup id = some schema ∧ schema.name = name ∧ schema.version = version := by
  simp only [getByNameVersion, decide_eq_true_eq, Finmap.lookup_eq_some_iff]
  constructor
  · rintro ⟨⟨id, schema⟩, member, same⟩
    exact ⟨id, schema, member, same⟩
  · rintro ⟨id, schema, member, same⟩
    exact ⟨⟨id, schema⟩, member, same⟩

end Repository

/-- Where a call of `Register` is: before its duplicate check, before its save, or done. -/
inductive RegisterAt where
  | checking (schema : Schema)
  | saving (schema : Schema)
  | returned (result : Except String String)
  deriving DecidableEq

structure RegisterCall where
  request : RegisterSchemaRequest
  stage : RegisterAt
  deriving DecidableEq

structure State where
  schemas : Repository
  calls : List RegisterCall

namespace State

def initial : State := ⟨∅, []⟩

def setCall (state : State) (index : Nat) (call : RegisterCall) : State :=
  { state with calls := state.calls.set index call }

end State

/-- A label of `register` carries the clock readings of `generateID` and of `NewSchema`. -/
inductive Action where
  | register (request : RegisterSchemaRequest) (first second createdAt : Time)
  | check (index : Nat)
  | save (index : Nat)
  deriving DecidableEq

def begin (request : RegisterSchemaRequest) (first second createdAt : Time) : RegisterAt :=
  match request.toEntity (idText first second) createdAt with
  | .error err => .returned (.error ("invalid schema configuration: " ++ err))
  | .ok schema => .checking schema

def check (schemas : Repository) (request : RegisterSchemaRequest) (schema : Schema) : RegisterAt :=
  if schemas.getByNameVersion request.name request.version then
    .returned (.error s!"schema {request.name} v{request.version} already exists")
  else .saving schema

def step (state : State) : Action → Option State
  | .register request first second createdAt =>
      some { state with calls := state.calls ++ [⟨request, begin request first second createdAt⟩] }
  | .check index =>
      match state.calls[index]? with
      | some ⟨request, .checking schema⟩ =>
          some (state.setCall index ⟨request, check state.schemas request schema⟩)
      | _ => none
  | .save index =>
      match state.calls[index]? with
      | some ⟨request, .saving schema⟩ =>
          match state.schemas.save schema with
          | .error err =>
              some (state.setCall index ⟨request, .returned (.error ("failed to register schema: " ++ err))⟩)
          | .ok schemas =>
              some { state.setCall index ⟨request, .returned (.ok schema.id)⟩ with schemas }
      | _ => none

def machine : Machine State Action where
  init := (· = .initial)
  step := step

inductive Move (state : State) : Action → State → Prop where
  | refused (request : RegisterSchemaRequest) (first second createdAt : Time) (err : String) :
      Move state (.register request first second createdAt)
        { state with calls := state.calls ++ [⟨request, .returned (.error err)⟩] }
  | register (request : RegisterSchemaRequest) (first second createdAt : Time) (schema : Schema)
      (built : request.toEntity (idText first second) createdAt = .ok schema) :
      Move state (.register request first second createdAt)
        { state with calls := state.calls ++ [⟨request, .checking schema⟩] }
  | duplicate (index : Nat) (request : RegisterSchemaRequest) (schema : Schema) (err : String)
      (found : state.calls[index]? = some ⟨request, .checking schema⟩) :
      Move state (.check index) (state.setCall index ⟨request, .returned (.error err)⟩)
  | check (index : Nat) (request : RegisterSchemaRequest) (schema : Schema)
      (found : state.calls[index]? = some ⟨request, .checking schema⟩)
      (absent : state.schemas.getByNameVersion request.name request.version = false) :
      Move state (.check index) (state.setCall index ⟨request, .saving schema⟩)
  | save (index : Nat) (request : RegisterSchemaRequest) (schema : Schema)
      (found : state.calls[index]? = some ⟨request, .saving schema⟩) :
      Move state (.save index)
        { state.setCall index ⟨request, .returned (.ok schema.id)⟩ with
          schemas := state.schemas.insert schema.id schema }

theorem step_cases {state after : State} {action : Action} (stepped : step state action = some after) :
    Move state action after := by
  cases action with
  | register request first second createdAt =>
    simp only [step, begin, Option.some.injEq] at stepped
    subst stepped
    split
    next err _ => exact .refused request first second createdAt _
    next schema built => exact .register request first second createdAt schema built
  | check index =>
    simp only [step] at stepped
    split at stepped
    next request schema found =>
      simp only [check, Option.some.injEq] at stepped
      subst stepped
      split
      next => exact .duplicate index request schema _ found
      next absent => exact .check index request schema found (by simpa using absent)
    next => cases stepped
  | save index =>
    simp only [step] at stepped
    split at stepped
    next request schema found =>
      simp only [Repository.save, Option.some.injEq] at stepped
      subst stepped
      exact .save index request schema found
    next => cases stepped

namespace RegisterCall

def Rivals (one other : RegisterCall) : Prop :=
  one.request.name = other.request.name ∧ one.request.version = other.request.version

instance (one other : RegisterCall) : Decidable (one.Rivals other) :=
  inferInstanceAs (Decidable (_ ∧ _))

def pending (call : RegisterCall) : Option Schema :=
  match call.stage with
  | .saving schema => some schema
  | _ => none

def succeeded (call : RegisterCall) : Bool :=
  match call.stage with
  | .returned (.ok _) => true
  | _ => false

end RegisterCall

/-- Each name and version is registered at most once: in the repository, and among the
calls that returned no error. -/
structure AtMostOnce (state : State) : Prop where
  stored : ∀ id id' schema schema', state.schemas.lookup id = some schema →
    state.schemas.lookup id' = some schema' → schema.name = schema'.name →
    schema.version = schema'.version → id = id'
  returned : ∀ (index index' : Nat) (call call' : RegisterCall), state.calls[index]? = some call →
    state.calls[index']? = some call' → call.succeeded → call'.succeeded → call.Rivals call' →
    index = index'

def Unrivalled (state : State) (call : RegisterCall) : Prop :=
  ∀ other ∈ state.calls, other.pending.isSome → ¬call.Rivals other

instance (state : State) (call : RegisterCall) : Decidable (Unrivalled state call) :=
  inferInstanceAs (Decidable (∀ _ ∈ _, _ → ¬_))

/-- No save meets an ID that is already in use. -/
def FreshIDs (state : State) : Action → Prop
  | .save index => ∀ call ∈ state.calls[index]?, ∀ schema ∈ call.pending, schema.id ∉ state.schemas
  | .register .. | .check _ => True

instance (state : State) (action : Action) : Decidable (FreshIDs state action) :=
  match action with
  | .save index => inferInstanceAs (Decidable (∀ call ∈ state.calls[index]?, ∀ schema ∈ call.pending,
      schema.id ∉ state.schemas))
  | .register .. | .check _ => inferInstanceAs (Decidable True)

/-- Steps with fresh IDs in which calls for one name and version do not overlap between check and save. -/
def Spaced (state : State) : Action → Prop
  | .check index => ∀ call ∈ state.calls[index]?, Unrivalled state call
  | action => FreshIDs state action

instance (state : State) (action : Action) : Decidable (Spaced state action) :=
  match action with
  | .check index => inferInstanceAs (Decidable (∀ call ∈ state.calls[index]?, Unrivalled state call))
  | .save index => inferInstanceAs (Decidable (FreshIDs state (.save index)))
  | .register .. => inferInstanceAs (Decidable True)

section Safety
variable {state after : State} {index : Nat} {call next : RegisterCall}

def RegisterCall.holder (call : RegisterCall) : Bool := call.pending.isSome || call.succeeded

def Exclusive (calls : List RegisterCall) : Prop :=
  ∀ (index index' : Nat) (call call' : RegisterCall), calls[index]? = some call →
    calls[index']? = some call' → call.holder → call'.holder → call.Rivals call' → index = index'

theorem Exclusive.append {calls : List RegisterCall} (exclusive : Exclusive calls)
    (idle : next.holder = false) : Exclusive (calls ++ [next]) := by
  intro one other call call' found found' holds holds' rivals
  rcases found_append found with ⟨-, rfl⟩ | old
  · simp [idle] at holds
  rcases found_append found' with ⟨-, rfl⟩ | old'
  · simp [idle] at holds'
  exact exclusive one other call call' old old' holds holds' rivals

theorem Exclusive.set {calls : List RegisterCall} (exclusive : Exclusive calls)
    (found : calls[index]? = some call)
    (free : next.holder → ∀ other call', other ≠ index → calls[other]? = some call' → call'.holder →
      ¬next.Rivals call') : Exclusive (calls.set index next) := by
  intro one other call₁ call₂ found₁ found₂ holds₁ holds₂ rivals
  rcases found_set found found₁ with ⟨rfl, rfl⟩ | ⟨away₁, old₁⟩ <;>
    rcases found_set found found₂ with ⟨rfl, rfl⟩ | ⟨away₂, old₂⟩
  · rfl
  · exact absurd rivals (free holds₁ other call₂ away₂ old₂ holds₂)
  · exact absurd ⟨rivals.1.symm, rivals.2.symm⟩ (free holds₂ one call₁ away₁ old₁ holds₁)
  · exact exclusive one other call₁ call₂ old₁ old₂ holds₁ holds₂ rivals

def Names (request : RegisterSchemaRequest) (schema : Schema) : Prop :=
  schema.name = request.name ∧ schema.version = request.version

def RegisterCall.built (call : RegisterCall) : Option Schema :=
  match call.stage with
  | .checking schema => some schema
  | .saving schema => some schema
  | .returned _ => none

/-- What holds along a run of spaced steps: holders are exclusive, and the repository has
exactly the schemas of the calls that succeeded, under the IDs that these returned. -/
structure Orderly (state : State) : Prop where
  exclusive : Exclusive state.calls
  built : ∀ call ∈ state.calls, ∀ schema, call.built = some schema → Names call.request schema
  kept : ∀ call ∈ state.calls, ∀ id, call.stage = .returned (.ok id) →
    ∃ schema, state.schemas.lookup id = some schema ∧ Names call.request schema
  source : ∀ id schema, state.schemas.lookup id = some schema →
    ∃ (index : Nat) (call : RegisterCall), state.calls[index]? = some call ∧
      call.stage = .returned (.ok id) ∧ Names call.request schema

theorem Orderly.initial : Orderly .initial where
  exclusive := fun _ _ _ _ found => by simp [State.initial] at found
  built := fun _ member => absurd member List.not_mem_nil
  kept := fun _ member => absurd member List.not_mem_nil
  source := fun _ _ found => by simp [State.initial] at found

theorem Orderly.begun (orderly : Orderly state) (new : next.holder = false)
    (names : ∀ schema, next.built = some schema → Names next.request schema) :
    Orderly { state with calls := state.calls ++ [next] } := by
  constructor
  · exact orderly.exclusive.append new
  · intro call member schema carried
    rcases List.mem_append.mp member with old | here
    · exact orderly.built call old schema carried
    · cases List.mem_singleton.mp here
      exact names schema carried
  · intro call member id done
    rcases List.mem_append.mp member with old | here
    · exact orderly.kept call old id done
    · cases List.mem_singleton.mp here
      simp [RegisterCall.holder, RegisterCall.succeeded, done] at new
  · intro id schema stored
    obtain ⟨index, call, found, done, names⟩ := orderly.source id schema stored
    exact ⟨index, call, getElem?_append_of_found found, done, names⟩

theorem Orderly.moved (orderly : Orderly state) (found : state.calls[index]? = some call)
    (before : call.succeeded = false) (later : next.succeeded = false)
    (names : ∀ schema, next.built = some schema → Names next.request schema)
    (free : next.holder → ∀ other call', other ≠ index → state.calls[other]? = some call' →
      call'.holder → ¬next.Rivals call') :
    Orderly (state.setCall index next) := by
  constructor
  · exact orderly.exclusive.set found free
  · intro call' member schema carried
    rcases List.mem_or_eq_of_mem_set member with old | rfl
    · exact orderly.built call' old schema carried
    · exact names schema carried
  · intro call' member id done
    rcases List.mem_or_eq_of_mem_set member with old | rfl
    · exact orderly.kept call' old id done
    · simp [RegisterCall.succeeded, done] at later
  · intro id schema stored
    obtain ⟨other, call', there, done, names⟩ := orderly.source id schema stored
    refine ⟨other, call', ?_, done, names⟩
    rw [State.setCall, getElem?_set_of_found found, if_neg, there]
    rintro rfl
    cases found.symm.trans there
    simp [RegisterCall.succeeded, done] at before

theorem Orderly.not_succeeded (orderly : Orderly state) {rival : RegisterCall} (member : rival ∈ state.calls)
    (rivals : call.Rivals rival)
    (absent : state.schemas.getByNameVersion call.request.name call.request.version = false) :
    rival.succeeded = false := by
  cases stage : rival.stage with
  | checking | saving => simp [RegisterCall.succeeded, stage]
  | returned result =>
    cases result with
    | error err => simp [RegisterCall.succeeded, stage]
    | ok id =>
      obtain ⟨schema, stored, name, version⟩ := orderly.kept rival member id stage
      have present := Repository.getByNameVersion_iff.mpr
        ⟨id, schema, stored, name.trans rivals.1.symm, version.trans rivals.2.symm⟩
      rw [absent] at present
      cases present

theorem Orderly.saved (orderly : Orderly state) {request : RegisterSchemaRequest} {schema : Schema}
    (found : state.calls[index]? = some ⟨request, .saving schema⟩) (fresh : schema.id ∉ state.schemas) :
    Orderly { state.setCall index ⟨request, .returned (.ok schema.id)⟩ with
      schemas := state.schemas.insert schema.id schema } := by
  have names : Names request schema := orderly.built _ (List.mem_of_getElem? found) schema rfl
  have other : ∀ id schema', state.schemas.lookup id = some schema' → id ≠ schema.id := by
    rintro id schema' stored rfl
    exact fresh (Finmap.mem_of_lookup_eq_some stored)
  constructor
  · apply orderly.exclusive.set found
    intro _ other call' away there holds rivals
    exact away (orderly.exclusive other index call' _ there found holds rfl ⟨rivals.1.symm, rivals.2.symm⟩)
  · intro call' member schema' carried
    rcases List.mem_or_eq_of_mem_set member with old | rfl
    · exact orderly.built call' old schema' carried
    · cases carried
  · intro call' member id done
    rcases List.mem_or_eq_of_mem_set member with old | rfl
    · obtain ⟨schema', stored, names'⟩ := orderly.kept call' old id done
      exact ⟨schema', by rw [Finmap.lookup_insert_of_ne _ (other id schema' stored), stored], names'⟩
    · cases done
      exact ⟨schema, Finmap.lookup_insert _, names⟩
  · intro id schema' stored
    rw [FiniteMap.lookup_insert] at stored
    split at stored
    next here =>
      subst here
      cases stored
      refine ⟨index, ⟨request, .returned (.ok schema.id)⟩, ?_, rfl, names⟩
      rw [State.setCall, getElem?_set_of_found found, if_pos rfl]
    next =>
      obtain ⟨other, call', there, done, names'⟩ := orderly.source id schema' stored
      refine ⟨other, call', ?_, done, names'⟩
      rw [State.setCall, getElem?_set_of_found found, if_neg, there]
      rintro rfl
      cases found.symm.trans there
      cases done

theorem Orderly.step {action : Action} (orderly : Orderly state) (spaced : Spaced state action)
    (stepped : step state action = some after) : Orderly after := by
  cases step_cases stepped with
  | refused request _ _ _ err => exact orderly.begun rfl (fun _ carried => by cases carried)
  | register request _ _ _ schema built =>
    obtain ⟨-, name, version, -⟩ := RegisterSchemaRequest.toEntity_ok built
    refine orderly.begun rfl (fun _ carried => ?_)
    cases carried
    exact ⟨name, version⟩
  | duplicate index request schema err found =>
    exact orderly.moved found rfl rfl (fun _ carried => by cases carried) (fun holds => by cases holds)
  | check index request schema found absent =>
    refine orderly.moved found rfl rfl (fun _ carried => ?_) ?_
    · cases carried
      exact orderly.built _ (List.mem_of_getElem? found) schema rfl
    · intro _ other call' _ there holds rivals
      have member := List.mem_of_getElem? there
      have idle : ¬call'.pending.isSome := fun busy => spaced _ found call' member busy rivals
      have failed := orderly.not_succeeded member rivals absent
      simp [RegisterCall.holder, failed, idle] at holds
  | save index request schema found =>
    exact orderly.saved found (spaced _ found schema rfl)

theorem Orderly.atMostOnce (orderly : Orderly state) : AtMostOnce state := by
  have holds : ∀ call : RegisterCall, call.succeeded → call.holder := by
    intro call done
    simp [RegisterCall.holder, done]
  constructor
  · intro id id' schema schema' stored stored' name version
    obtain ⟨index, call, found, done, names⟩ := orderly.source id schema stored
    obtain ⟨index', call', found', done', names'⟩ := orderly.source id' schema' stored'
    have rivals : call.Rivals call' :=
      ⟨names.1.symm.trans (name.trans names'.1), names.2.symm.trans (version.trans names'.2)⟩
    have same := orderly.exclusive index index' call call' found found'
      (holds call (by simp [RegisterCall.succeeded, done]))
      (holds call' (by simp [RegisterCall.succeeded, done'])) rivals
    subst same
    cases found.symm.trans found'
    cases done.symm.trans done'
    rfl
  · intro index index' call call' found found' done done' rivals
    exact orderly.exclusive index index' call call' found found' (holds call done) (holds call' done') rivals

end Safety

/-- As long as calls for one name and version do not overlap between check and save, and
generated IDs do not collide, every reachable state has each pair at most once. -/
theorem registered_at_most_once {state : State} (reached : machine.Reaches Spaced state) :
    AtMostOnce state := by
  have orderly : Orderly state := by
    apply reached.invariant Orderly
    · rintro state rfl
      exact Orderly.initial
    · intro state action after _ orderly spaced stepped
      exact orderly.step spaced stepped
  exact orderly.atMostOnce

def ordersRequest : RegisterSchemaRequest := ⟨"orders", "1", "JSONSchema", "orders.json"⟩

theorem registered_at_most_once_twice : ∃ state, machine.Reaches Spaced state ∧ AtMostOnce state ∧
    state.calls.map RegisterCall.succeeded = [true, false] := by
  obtain ⟨state, reached, outcome⟩ := machine.reaches_of_run Spaced .initial
    [.register ordersRequest 1000 1001 1002, .check 0, .save 0,
      .register ordersRequest 2000 2001 2002, .check 1]
    (fun state => state.calls.map RegisterCall.succeeded = [true, false]) rfl (by decide +kernel)
  exact ⟨state, reached, registered_at_most_once reached, by simpa using outcome⟩

/-- Two calls that check before either saves both succeed, and the repository then
holds two schemas for one name and version. -/
theorem registered_twice : ∃ state, machine.Reachable state ∧ ¬AtMostOnce state := by
  obtain ⟨state, reached, outcome⟩ := machine.reaches_of_run (fun _ _ => True) .initial
    [.register ordersRequest 1000 1001 1002, .register ordersRequest 2000 2001 2002,
      .check 0, .check 1, .save 0, .save 1]
    (fun state => state.calls = [⟨ordersRequest, .returned (.ok "1000-1")⟩,
      ⟨ordersRequest, .returned (.ok "2000-1")⟩]) rfl (by decide +kernel)
  refine ⟨state, reached, fun once => ?_⟩
  have both := of_decide_eq_true outcome
  have first : state.calls[0]? = some ⟨ordersRequest, .returned (.ok "1000-1")⟩ := by rw [both]; rfl
  have second : state.calls[1]? = some ⟨ordersRequest, .returned (.ok "2000-1")⟩ := by rw [both]; rfl
  have same := once.returned 0 1 _ _ first second rfl rfl ⟨rfl, rfl⟩
  cases same

end EventGateway.Registry
