import EventGateway.Domain.Clock
import EventGateway.Lib.Calls
import EventGateway.Lib.Machine

/-! The schema validator with its two maps. `GetSchema` reads under one lock, decides
outside any lock and deletes under a second one, so that a call of it is up to three
steps; every other critical section is one step. -/

namespace EventGateway.Registry
open Lib Lib.Calls

/-- What the validator takes from its libraries: the compiler and the check of
`jsonschema`, `json.Unmarshal` and the quotation of `%q`. -/
structure SchemaLibrary (κ δ : Type) where
  compile : String → Except String κ
  parse : Bytes → Except String δ
  validate : κ → δ → Except String Unit
  quote : String → String

structure SchemaValidator (κ : Type) where
  schemas : String → Option κ
  cache : String → Option Time
  cacheTTL : Duration

variable {κ δ : Type}

/-- Where a call of `GetSchema` is: past its read section with what it read, before its
delete section, or done. -/
inductive ReaderAt (κ : Type) where
  | deciding (schemaID : String) (schema : κ) (cacheTime : Option Time)
  | deleting (schemaID : String)
  | returned (result : Except String κ)
  deriving DecidableEq

namespace SchemaValidator

def newSchemaValidator (cacheTTL : Duration) : SchemaValidator κ where
  schemas := fun _ => none
  cache := fun _ => none
  cacheTTL := cacheTTL

def write (sv : SchemaValidator κ) (schemaID : String) (schema : κ) (now : Time) : SchemaValidator κ :=
  { sv with
    schemas := Function.update sv.schemas schemaID (some schema)
    cache := Function.update sv.cache schemaID (some now) }

/-- The two deletions that `GetSchema` and `UnregisterSchema` make. -/
def remove (sv : SchemaValidator κ) (schemaID : String) : SchemaValidator κ :=
  { sv with
    schemas := Function.update sv.schemas schemaID none
    cache := Function.update sv.cache schemaID none }

def registerSchema (sv : SchemaValidator κ) (library : SchemaLibrary κ δ) (schemaID schemaJSON : String)
    (now : Time) : Except String (SchemaValidator κ) :=
  if schemaID = "" then .error "schema ID cannot be empty"
  else if schemaJSON = "" then .error "schema JSON cannot be empty"
  else match library.compile schemaJSON with
    | .error err => .error ("failed to compile schema: " ++ err)
    | .ok schema => .ok (sv.write schemaID schema now)

def read (sv : SchemaValidator κ) (library : SchemaLibrary κ δ) (schemaID : String) : ReaderAt κ :=
  if schemaID = "" then .returned (.error "schema ID cannot be empty")
  else match sv.schemas schemaID with
    | none => .returned (.error ("schema " ++ library.quote schemaID ++ " not found"))
    | some schema => .deciding schemaID schema (sv.cache schemaID)

def expired (cacheTTL : Duration) (now : Time) : Option Time → Bool
  | none => false
  | some cacheTime => decide (cacheTTL < since now cacheTime)

/-- What `GetSchema` does after its read section, with its reading of the clock. -/
def settle (sv : SchemaValidator κ) (schemaID : String) (schema : κ) (cacheTime : Option Time) (now : Time) :
    ReaderAt κ :=
  if expired sv.cacheTTL now cacheTime then .deleting schemaID else .returned (.ok schema)

def cacheExpired (library : SchemaLibrary κ δ) (schemaID : String) : Except String κ :=
  .error ("schema " ++ library.quote schemaID ++ " cache expired")

def getSchema (sv : SchemaValidator κ) (library : SchemaLibrary κ δ) (schemaID : String) (now : Time) :
    Except String κ × SchemaValidator κ :=
  match sv.read library schemaID with
  | .deciding schemaID schema cacheTime =>
      match sv.settle schemaID schema cacheTime now with
      | .returned result => (result, sv)
      | _ => (cacheExpired library schemaID, sv.remove schemaID)
  | .deleting schemaID => (cacheExpired library schemaID, sv.remove schemaID)
  | .returned result => (result, sv)

def validate (sv : SchemaValidator κ) (library : SchemaLibrary κ δ) (schemaID : String) (data : Bytes)
    (now : Time) : Except String Unit × SchemaValidator κ :=
  if schemaID = "" then (.error "schema ID cannot be empty", sv)
  else if data = [] then (.error "data cannot be empty", sv)
  else match sv.getSchema library schemaID now with
    | (.error err, after) => (.error err, after)
    | (.ok schema, after) =>
      match library.parse data with
      | .error err => (.error ("failed to parse JSON data: " ++ err), after)
      | .ok value =>
        match library.validate schema value with
        | .error err => (.error ("validation failed: " ++ err), after)
        | .ok () => (.ok (), after)

def unregisterSchema (sv : SchemaValidator κ) (library : SchemaLibrary κ δ) (schemaID : String) :
    Except String Unit × SchemaValidator κ :=
  if schemaID = "" then (.error "schema ID cannot be empty", sv)
  else match sv.schemas schemaID with
    | none => (.error ("schema " ++ library.quote schemaID ++ " not found"), sv)
    | some _ => (.ok (), sv.remove schemaID)

/-- Deletes every ID whose time in `cache` is too old from both maps. -/
def clearCache (sv : SchemaValidator κ) (now : Time) : SchemaValidator κ :=
  { sv with
    schemas := fun id => if expired sv.cacheTTL now (sv.cache id) then none else sv.schemas id
    cache := fun id => if expired sv.cacheTTL now (sv.cache id) then none else sv.cache id }

def Present (sv : SchemaValidator κ) (schemaID : String) : Prop :=
  (sv.schemas schemaID).isSome ∧ (sv.cache schemaID).isSome

instance (sv : SchemaValidator κ) (schemaID : String) : Decidable (sv.Present schemaID) :=
  inferInstanceAs (Decidable (_ ∧ _))

end SchemaValidator

structure ValidatorState (κ : Type) where
  validator : SchemaValidator κ
  readers : List (ReaderAt κ)
  clock : Time

inductive ValidatorAction where
  | tick (now : Time)
  | registerSchema (schemaID schemaJSON : String)
  | getSchema (schemaID : String)
  | settle (index : Nat)
  | delete (index : Nat)
  | unregisterSchema (schemaID : String)
  | clearCache
  deriving DecidableEq

namespace ValidatorState

def setReader (state : ValidatorState κ) (index : Nat) (reader : ReaderAt κ) : ValidatorState κ :=
  { state with readers := state.readers.set index reader }

def step (library : SchemaLibrary κ δ) (state : ValidatorState κ) : ValidatorAction → Option (ValidatorState κ)
  | .tick now => if state.clock ≤ now then some { state with clock := now } else none
  | .registerSchema schemaID schemaJSON =>
      match state.validator.registerSchema library schemaID schemaJSON state.clock with
      | .error _ => some state
      | .ok validator => some { state with validator }
  | .getSchema schemaID =>
      some { state with readers := state.readers ++ [state.validator.read library schemaID] }
  | .settle index =>
      match state.readers[index]? with
      | some (.deciding schemaID schema cacheTime) =>
          some (state.setReader index (state.validator.settle schemaID schema cacheTime state.clock))
      | _ => none
  | .delete index =>
      match state.readers[index]? with
      | some (.deleting schemaID) =>
          some { state.setReader index (.returned (SchemaValidator.cacheExpired library schemaID)) with
            validator := state.validator.remove schemaID }
      | _ => none
  | .unregisterSchema schemaID =>
      some { state with validator := (state.validator.unregisterSchema library schemaID).2 }
  | .clearCache => some { state with validator := state.validator.clearCache state.clock }

end ValidatorState

/-- The validator from `NewSchemaValidator` on, at any time. -/
def validatorMachine (library : SchemaLibrary κ δ) (cacheTTL : Duration) :
    Machine (ValidatorState κ) ValidatorAction where
  init := fun state => state.validator = .newSchemaValidator cacheTTL ∧ state.readers = []
  step := ValidatorState.step library

inductive ValidatorMove (library : SchemaLibrary κ δ) (state : ValidatorState κ) :
    ValidatorAction → ValidatorState κ → Prop where
  | idle (action : ValidatorAction) : ValidatorMove library state action state
  | tick (now : Time) (later : state.clock ≤ now) :
      ValidatorMove library state (.tick now) { state with clock := now }
  | write (schemaID schemaJSON : String) (schema : κ) :
      ValidatorMove library state (.registerSchema schemaID schemaJSON)
        { state with validator := state.validator.write schemaID schema state.clock }
  | read (schemaID : String) :
      ValidatorMove library state (.getSchema schemaID)
        { state with readers := state.readers ++ [state.validator.read library schemaID] }
  | settle (index : Nat) (schemaID : String) (schema : κ) (cacheTime : Option Time)
      (found : state.readers[index]? = some (.deciding schemaID schema cacheTime)) :
      ValidatorMove library state (.settle index)
        (state.setReader index (state.validator.settle schemaID schema cacheTime state.clock))
  | delete (index : Nat) (schemaID : String) (found : state.readers[index]? = some (.deleting schemaID)) :
      ValidatorMove library state (.delete index)
        { state.setReader index (.returned (SchemaValidator.cacheExpired library schemaID)) with
          validator := state.validator.remove schemaID }
  | unregister (schemaID : String) :
      ValidatorMove library state (.unregisterSchema schemaID)
        { state with validator := state.validator.remove schemaID }
  | clear : ValidatorMove library state .clearCache
      { state with validator := state.validator.clearCache state.clock }

theorem registerSchema_ok {sv after : SchemaValidator κ} {library : SchemaLibrary κ δ}
    {schemaID schemaJSON : String} {now : Time}
    (registered : sv.registerSchema library schemaID schemaJSON now = .ok after) :
    ∃ schema, library.compile schemaJSON = .ok schema ∧ after = sv.write schemaID schema now := by
  unfold SchemaValidator.registerSchema at registered
  split at registered
  next => cases registered
  split at registered
  next => cases registered
  split at registered
  next => cases registered
  next schema compiled => exact ⟨schema, compiled, (Except.ok.inj registered).symm⟩

theorem validatorStep_cases {library : SchemaLibrary κ δ} {state after : ValidatorState κ}
    {action : ValidatorAction} (stepped : state.step library action = some after) :
    ValidatorMove library state action after := by
  cases action with
  | tick now =>
    simp only [ValidatorState.step] at stepped
    split at stepped
    next later =>
      cases stepped
      exact .tick now later
    next => cases stepped
  | registerSchema schemaID schemaJSON =>
    simp only [ValidatorState.step] at stepped
    split at stepped
    next =>
      cases stepped
      exact .idle _
    next validator registered =>
      cases stepped
      obtain ⟨schema, -, rfl⟩ := registerSchema_ok registered
      exact .write schemaID schemaJSON schema
  | getSchema schemaID =>
    cases stepped
    exact .read schemaID
  | settle index =>
    simp only [ValidatorState.step] at stepped
    split at stepped
    next schemaID schema cacheTime found =>
      cases stepped
      exact .settle index schemaID schema cacheTime found
    next => cases stepped
  | delete index =>
    simp only [ValidatorState.step] at stepped
    split at stepped
    next schemaID found =>
      cases stepped
      exact .delete index schemaID found
    next => cases stepped
  | unregisterSchema schemaID =>
    simp only [ValidatorState.step, SchemaValidator.unregisterSchema, Option.some.injEq] at stepped
    subst stepped
    split
    next => exact .idle _
    split
    next => exact .idle _
    next => exact .unregister schemaID
  | clearCache =>
    cases stepped
    exact .clear

/-- A reader that deletes the ID, or will delete it if it looks at the clock at the end of the
lifetime of an entry written at this time. -/
def ReaderAt.Outdated (reader : ReaderAt κ) (schemaID : String) (cacheTTL : Duration) (written : Time) : Prop :=
  match reader with
  | .deciding id _ cacheTime =>
      id = schemaID ∧ SchemaValidator.expired cacheTTL (written + cacheTTL.toInt) cacheTime
  | .deleting id => id = schemaID
  | .returned _ => False

/-- States that can follow this one before any `UnregisterSchema` of this ID. -/
def Follows (library : SchemaLibrary κ δ) (schemaID : String) (start : ValidatorState κ) :
    ValidatorState κ → Prop :=
  ((validatorMachine library start.validator.cacheTTL).startingAt start).Reaches
    (fun _ action => action ≠ .unregisterSchema schemaID)

/-- From here on, until an `UnregisterSchema` of this ID, the ID is in both maps as long as
the time since this state is at most the TTL. -/
def Retained (library : SchemaLibrary κ δ) (schemaID : String) (written : ValidatorState κ) : Prop :=
  ∀ after, Follows library schemaID written after →
    after.clock - written.clock ≤ written.validator.cacheTTL.toInt → after.validator.Present schemaID

section Retention
variable {library : SchemaLibrary κ δ} {schemaID : String} {cacheTTL : Duration} {written now later : Time}
  {state after start : ValidatorState κ}

theorem Follows.refl (state : ValidatorState κ) : Follows library schemaID state state :=
  Machine.Reaches.start rfl

theorem Follows.next {action : ValidatorAction} (before : Follows library schemaID start state)
    (kept : action ≠ .unregisterSchema schemaID) (stepped : state.step library action = some after) :
    Follows library schemaID start after :=
  Machine.Reaches.next before kept stepped

namespace SchemaValidator

theorem expired_mono {cacheTime : Option Time} (order : now ≤ later)
    (old : expired cacheTTL now cacheTime) : expired cacheTTL later cacheTime := by
  cases cacheTime with
  | none => cases old
  | some time =>
    simp only [expired, decide_eq_true_eq, lt_since] at old ⊢
    lia

theorem not_expired {cacheTime : Time} (recent : now - cacheTime ≤ cacheTTL.toInt) :
    expired cacheTTL now (some cacheTime) = false := by
  simp only [expired, decide_eq_false_iff_not, lt_since]
  lia

structure Fresh (sv : SchemaValidator κ) (schemaID : String) (written : Time) : Prop where
  schema : (sv.schemas schemaID).isSome
  time : ∃ cacheTime, sv.cache schemaID = some cacheTime ∧ written ≤ cacheTime

variable {sv : SchemaValidator κ}

theorem Fresh.present (fresh : sv.Fresh schemaID written) : sv.Present schemaID := by
  obtain ⟨cacheTime, cached, -⟩ := fresh.time
  exact ⟨fresh.schema, by rw [cached]; rfl⟩

theorem fresh_write (schema : κ) (order : written ≤ now) :
    (sv.write schemaID schema now).Fresh schemaID written where
  schema := by simp [write]
  time := ⟨now, by simp [write], order⟩

theorem Fresh.write {id : String} (fresh : sv.Fresh schemaID written) (schema : κ) (order : written ≤ now) :
    (sv.write id schema now).Fresh schemaID written := by
  by_cases same : schemaID = id
  · subst same
    exact fresh_write schema order
  · constructor
    · simpa [SchemaValidator.write, same] using fresh.schema
    · simpa [SchemaValidator.write, same] using fresh.time

theorem Fresh.remove {id : String} (fresh : sv.Fresh schemaID written) (other : id ≠ schemaID) :
    (sv.remove id).Fresh schemaID written where
  schema := by simpa [SchemaValidator.remove, other.symm] using fresh.schema
  time := by simpa [SchemaValidator.remove, other.symm] using fresh.time

theorem Fresh.clearCache (fresh : sv.Fresh schemaID written) (within : now - written ≤ sv.cacheTTL.toInt) :
    (sv.clearCache now).Fresh schemaID written := by
  obtain ⟨cacheTime, cached, order⟩ := fresh.time
  have young : expired sv.cacheTTL now (sv.cache schemaID) = false := by
    rw [cached]
    exact not_expired (by lia)
  constructor
  · simpa [SchemaValidator.clearCache, young] using fresh.schema
  · simpa [SchemaValidator.clearCache, young] using fresh.time

theorem Fresh.read {id : String} (fresh : sv.Fresh schemaID written) :
    ¬(sv.read library id).Outdated schemaID cacheTTL written := by
  unfold SchemaValidator.read
  split
  next => exact not_false
  split
  next => exact not_false
  next schema found =>
    rintro ⟨rfl, old⟩
    obtain ⟨cacheTime, cached, order⟩ := fresh.time
    rw [cached, not_expired (by lia)] at old
    cases old

end SchemaValidator

structure Guarded (schemaID : String) (written : Time) (state : ValidatorState κ) : Prop where
  fresh : state.validator.Fresh schemaID written
  readers : ∀ reader ∈ state.readers, ¬reader.Outdated schemaID state.validator.cacheTTL written

structure Living (schemaID : String) (cacheTTL : Duration) (written : Time) (state : ValidatorState κ) :
    Prop where
  same : state.validator.cacheTTL = cacheTTL
  later : written ≤ state.clock
  guarded : state.clock - written ≤ cacheTTL.toInt → Guarded schemaID written state

/-- A reader found within the lifetime of a fresh entry does not go on to delete it. -/
theorem settle_not_outdated {sv : SchemaValidator κ} {id : String} {schema : κ} {cacheTime : Option Time}
    (within : now - written ≤ sv.cacheTTL.toInt)
    (good : ¬(ReaderAt.deciding id schema cacheTime).Outdated schemaID sv.cacheTTL written) :
    ¬(sv.settle id schema cacheTime now).Outdated schemaID sv.cacheTTL written := by
  unfold SchemaValidator.settle
  split
  next old =>
    intro same
    exact good ⟨same, SchemaValidator.expired_mono (by lia) old⟩
  next => exact not_false

theorem Living.step {action : ValidatorAction} (living : Living schemaID cacheTTL written state)
    (kept : action ≠ .unregisterSchema schemaID) (stepped : state.step library action = some after) :
    Living schemaID cacheTTL written after := by
  obtain ⟨same, later, guarded⟩ := living
  subst same
  cases validatorStep_cases stepped with
  | idle => exact ⟨rfl, later, guarded⟩
  | tick now order =>
    refine ⟨rfl, later.trans order, fun within => ?_⟩
    have before := guarded (by simp only at within; lia)
    exact ⟨before.fresh, before.readers⟩
  | write id json schema =>
    refine ⟨rfl, later, fun within => ?_⟩
    exact ⟨(guarded within).fresh.write schema later, (guarded within).readers⟩
  | read id =>
    refine ⟨rfl, later, fun within => ⟨(guarded within).fresh, fun reader member => ?_⟩⟩
    rcases List.mem_append.mp member with old | new
    · exact (guarded within).readers reader old
    · cases List.mem_singleton.mp new
      exact (guarded within).fresh.read
  | settle index id schema cacheTime found =>
    refine ⟨rfl, later, fun within => ⟨(guarded within).fresh, fun reader member => ?_⟩⟩
    rcases List.mem_or_eq_of_mem_set member with old | rfl
    · exact (guarded within).readers reader old
    · exact settle_not_outdated within ((guarded within).readers _ (List.mem_of_getElem? found))
  | delete index id found =>
    refine ⟨rfl, later, fun within => ⟨?_, fun reader member => ?_⟩⟩
    · exact (guarded within).fresh.remove ((guarded within).readers _ (List.mem_of_getElem? found))
    · rcases List.mem_or_eq_of_mem_set member with old | rfl
      · exact (guarded within).readers reader old
      · exact not_false
  | unregister id =>
    refine ⟨rfl, later, fun within => ⟨(guarded within).fresh.remove ?_, (guarded within).readers⟩⟩
    rintro rfl
    exact kept rfl
  | clear =>
    refine ⟨rfl, later, fun within => ⟨(guarded within).fresh.clearCache within, (guarded within).readers⟩⟩

theorem retained_of_guarded (guarded : 0 ≤ state.validator.cacheTTL.toInt → Guarded schemaID state.clock state) :
    Retained library schemaID state := by
  intro after reached within
  have living : Living schemaID state.validator.cacheTTL state.clock after := by
    apply Machine.Reaches.invariant _ _ _ reached
    · rintro _ rfl
      exact ⟨rfl, le_rfl, fun within => guarded (by lia)⟩
    · intro before action next _ living kept stepped
      exact living.step kept stepped
  exact (living.guarded within).fresh.present

theorem not_retained_of_deleting {index : Nat} (reached : Follows library schemaID start state)
    (within : state.clock - start.clock ≤ start.validator.cacheTTL.toInt)
    (found : state.readers[index]? = some (.deleting schemaID)) : ¬Retained library schemaID start := by
  intro retained
  have deleted : state.step library (.delete index) = some
      { state.setReader index (.returned (SchemaValidator.cacheExpired library schemaID)) with
        validator := state.validator.remove schemaID } := by
    simp only [ValidatorState.step, found]
  have present := retained _ (reached.next (by simp) deleted) within
  simp [SchemaValidator.Present, SchemaValidator.remove] at present

theorem not_retained_of_outdated {reader : ReaderAt κ} (lifetime : 0 ≤ state.validator.cacheTTL.toInt)
    (member : reader ∈ state.readers)
    (outdated : reader.Outdated schemaID state.validator.cacheTTL state.clock) :
    ¬Retained library schemaID state := by
  obtain ⟨index, found⟩ := List.mem_iff_getElem?.mp member
  cases reader with
  | returned result => exact outdated.elim
  | deleting id =>
    cases outdated
    exact not_retained_of_deleting (.refl state) (by lia) found
  | deciding id schema cacheTime =>
    obtain ⟨rfl, old⟩ := outdated
    have ticked : state.step library (.tick (state.clock + state.validator.cacheTTL.toInt)) =
        some { state with clock := state.clock + state.validator.cacheTTL.toInt } := by
      simp only [ValidatorState.step, ite_eq_left_iff]
      lia
    have settled : ValidatorState.step library { state with clock := state.clock + state.validator.cacheTTL.toInt }
        (.settle index) = some { state with
          clock := state.clock + state.validator.cacheTTL.toInt
          readers := state.readers.set index (.deleting id) } := by
      simp only [ValidatorState.step, found, SchemaValidator.settle, old, if_true, ValidatorState.setReader]
    have reached : Follows library id state _ :=
      ((Follows.refl state).next (by simp) ticked).next (by simp) settled
    apply not_retained_of_deleting reached (by simp only; lia)
    rw [getElem?_set_of_found found, if_pos rfl]

end Retention

/-- A registration is kept for the TTL exactly if, at its write, no `GetSchema` of the same ID
is under way that read an entry which is too old within that time. -/
theorem registration_retained_iff (library : SchemaLibrary κ δ) (state : ValidatorState κ)
    (schemaID schemaJSON : String) (validator : SchemaValidator κ)
    (registered : state.validator.registerSchema library schemaID schemaJSON state.clock = .ok validator) :
    Retained library schemaID { state with validator } ↔
      validator.cacheTTL < 0 ∨
        ∀ reader ∈ state.readers, ¬reader.Outdated schemaID validator.cacheTTL state.clock := by
  obtain ⟨schema, -, rfl⟩ := registerSchema_ok registered
  rw [Int64.lt_iff_toInt_lt, Int64.toInt_zero]
  constructor
  · intro retained
    by_contra failing
    obtain ⟨lifetime, reader, member, outdated⟩ := by simpa using failing
    have lost : ¬Retained library schemaID { state with
        validator := state.validator.write schemaID schema state.clock } :=
      not_retained_of_outdated lifetime member outdated
    exact lost retained
  · rintro (ended | safe)
    · exact retained_of_guarded (fun lifetime => absurd ended (not_lt.mpr lifetime))
    · exact retained_of_guarded (fun _ => ⟨SchemaValidator.fresh_write schema le_rfl, safe⟩)

/-- The schema that accepts everything, in one file: `Compile` takes a path, and `1` is the only text that parses. -/
def orderSchemas : SchemaLibrary Unit Unit where
  compile path := if path = "orders.json" then .ok () else .error "no such file or directory"
  parse data := if data = [0x31] then .ok () else .error "invalid character"
  validate _ _ := .ok ()
  quote name := "\"" ++ name ++ "\""

def fiveMinutes : Duration := 5 * 60 * 1000000000

/-- Under way at the write are a reader of the same ID, which has read an entry of the same time, and one that is about
to delete another ID. -/
theorem registration_retained_read : Retained orderSchemas "orders"
    { validator := SchemaValidator.write (.newSchemaValidator fiveMinutes) "orders" () 7
      readers := [.deciding "orders" () (some 7), .deleting "users"]
      clock := 7 } := by
  apply (registration_retained_iff orderSchemas ⟨.newSchemaValidator fiveMinutes, _, 7⟩ "orders" "orders.json" _ rfl).mpr
  right
  simp only [List.forall_mem_cons, List.not_mem_nil, false_implies, implies_true, and_true]
  have other : "users" ≠ "orders" := by decide
  exact ⟨fun outdated => absurd outdated.2 (by decide), other⟩

/-- A reader that found the entry expired deletes what was registered again in the meantime. -/
theorem registration_lost : ∃ state validator,
    (validatorMachine orderSchemas fiveMinutes).Reachable state ∧
      state.validator.registerSchema orderSchemas "orders" "orders.json" state.clock = .ok validator ∧
      ¬Retained orderSchemas "orders" { state with validator } := by
  obtain ⟨state, reached, outcome⟩ := (validatorMachine orderSchemas fiveMinutes).reaches_of_run
    (fun _ _ => True) ⟨.newSchemaValidator fiveMinutes, [], 0⟩
    [.registerSchema "orders" "orders.json", .tick 300000000001, .getSchema "orders", .settle 0]
    (fun state => state.readers = [.deleting "orders"] ∧ 0 ≤ state.validator.cacheTTL.toInt) ⟨rfl, rfl⟩
    (by decide +kernel)
  obtain ⟨stale, lifetime⟩ := of_decide_eq_true outcome
  refine ⟨state, state.validator.write "orders" () state.clock, reached, rfl, ?_⟩
  have deleting : state.readers[0]? = some (.deleting "orders") := by rw [stale]; rfl
  exact not_retained_of_deleting (.refl _) (by simpa [SchemaValidator.write] using lifetime) deleting

end EventGateway.Registry
