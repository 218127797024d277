import EventGateway.Lib.Assignment
import EventGateway.Lib.Expiry
import EventGateway.Registry.Validator
import Mathlib.Data.Int.ConditionallyCompleteOrder
import Mathlib.Order.ConditionallyCompleteLattice.Basic

/-! The schema cache under calls that come one after the other. An entry leaves the maps by
`UnregisterSchema`, by a read that finds it too old, or by `ClearCache`; what can be read is nevertheless what
was registered last and neither taken back nor outlived its time. -/

namespace EventGateway.Registry
open Lib Lib.Expiry
variable {κ δ : Type}

inductive SchemaCall where
  | registerSchema (schemaID schemaJSON : String)
  | unregisterSchema (schemaID : String)
  | getSchema (schemaID : String)
  | validate (schemaID : String) (data : Bytes)
  | clearCache
  deriving DecidableEq

inductive SchemaResult (κ : Type) where
  | registered (result : Except String Unit)
  | unregistered (result : Except String Unit)
  | found (result : Except String κ)
  | validated (result : Except String Unit)
  | cleared

def SchemaValidator.perform (sv : SchemaValidator κ) (library : SchemaLibrary κ δ) (now : Time) :
    SchemaCall → SchemaResult κ × SchemaValidator κ
  | .registerSchema schemaID schemaJSON =>
      match sv.registerSchema library schemaID schemaJSON now with
      | .error err => (.registered (.error err), sv)
      | .ok after => (.registered (.ok ()), after)
  | .unregisterSchema schemaID =>
      (.unregistered (sv.unregisterSchema library schemaID).1, (sv.unregisterSchema library schemaID).2)
  | .getSchema schemaID => (.found (sv.getSchema library schemaID now).1, (sv.getSchema library schemaID now).2)
  | .validate schemaID data =>
      (.validated (sv.validate library schemaID data now).1, (sv.validate library schemaID data now).2)
  | .clearCache => (.cleared, sv.clearCache now)

structure SchemaEntry (κ : Type) where
  call : SchemaCall
  time : Time
  result : SchemaResult κ

structure SchemaHistory (κ : Type) where
  validator : SchemaValidator κ
  clock : Time
  log : List (SchemaEntry κ)

def SchemaHistory.step (library : SchemaLibrary κ δ) (history : SchemaHistory κ) (label : SchemaCall × Time) :
    Option (SchemaHistory κ) :=
  if history.clock ≤ label.2 then
    let outcome := history.validator.perform library label.2 label.1
    some ⟨outcome.2, label.2, history.log ++ [⟨label.1, label.2, outcome.1⟩]⟩
  else none

def schemaMachine (library : SchemaLibrary κ δ) (cacheTTL : Duration) :
    Machine (SchemaHistory κ) (SchemaCall × Time) where
  init := fun history => history.validator = .newSchemaValidator cacheTTL ∧ history.log = []
  step := SchemaHistory.step library

namespace SchemaValidator

def entry (sv : SchemaValidator κ) (schemaID : String) : Option (Time × κ) :=
  (sv.cache schemaID).bind (fun time => (sv.schemas schemaID).map (fun schema => (time, schema)))

def outdated (cacheTTL : Duration) (now : Time) (registration : Time × κ) : Bool :=
  expired cacheTTL now (some registration.1)

structure Paired (sv : SchemaValidator κ) : Prop where
  keys : ∀ schemaID, (sv.schemas schemaID).isSome = (sv.cache schemaID).isSome
  unnamed : sv.schemas "" = none

theorem final_outdated (cacheTTL : Duration) : Final (outdated cacheTTL : Time → Time × κ → Bool) :=
  fun _ _ _ order old => expired_mono order old

section Maps
variable {sv : SchemaValidator κ} {schemaID : String}

theorem entry_write (sv : SchemaValidator κ) (schemaID : String) (schema : κ) (now : Time) (other : String) :
    (sv.write schemaID schema now).entry other = if other = schemaID then some (now, schema) else sv.entry other := by
  by_cases same : other = schemaID
  · simp [entry, write, same]
  · simp [entry, write, same]

theorem entry_remove (sv : SchemaValidator κ) (schemaID other : String) :
    (sv.remove schemaID).entry other = if other = schemaID then none else sv.entry other := by
  by_cases same : other = schemaID
  · simp [entry, remove, same]
  · simp [entry, remove, same]

theorem entry_clearCache (sv : SchemaValidator κ) (now : Time) (schemaID : String) :
    (sv.clearCache now).entry schemaID = live (outdated sv.cacheTTL) now (sv.entry schemaID) := by
  simp only [entry, clearCache]
  cases sv.cache schemaID with
  | none => rfl
  | some time =>
    by_cases late : expired sv.cacheTTL now (some time) = true
    · cases sv.schemas schemaID <;> simp [late, live_some, outdated]
    · cases sv.schemas schemaID <;> simp [late, live_some, outdated]

theorem Paired.new (cacheTTL : Duration) : (newSchemaValidator cacheTTL : SchemaValidator κ).Paired :=
  ⟨fun _ => rfl, rfl⟩

theorem Paired.write (paired : sv.Paired) (named : schemaID ≠ "") (schema : κ) (now : Time) :
    (sv.write schemaID schema now).Paired := by
  constructor
  · intro other
    by_cases same : other = schemaID
    · simp [SchemaValidator.write, same]
    · simpa [SchemaValidator.write, same] using paired.keys other
  · simpa [SchemaValidator.write, named.symm] using paired.unnamed

theorem Paired.remove (paired : sv.Paired) (schemaID : String) : (sv.remove schemaID).Paired := by
  have keys (other : String) :
      ((sv.remove schemaID).schemas other).isSome = ((sv.remove schemaID).cache other).isSome := by
    by_cases same : other = schemaID
    · simp [SchemaValidator.remove, same]
    · simpa [SchemaValidator.remove, same] using paired.keys other
  refine ⟨keys, ?_⟩
  by_cases same : "" = schemaID
  · simp [SchemaValidator.remove, same]
  · simpa [SchemaValidator.remove, same] using paired.unnamed

theorem Paired.clearCache (paired : sv.Paired) (now : Time) : (sv.clearCache now).Paired := by
  constructor
  · intro other
    simp only [SchemaValidator.clearCache]
    split
    next => rfl
    next => exact paired.keys other
  · simp [SchemaValidator.clearCache, paired.unnamed]

theorem Paired.entry_none (paired : sv.Paired) : sv.entry schemaID = none ↔ sv.schemas schemaID = none := by
  have same := paired.keys schemaID
  unfold entry
  cases known : sv.schemas schemaID with
  | none => simp
  | some schema =>
    rw [known, Option.isSome_some] at same
    obtain ⟨time, cached⟩ := Option.isSome_iff_exists.mp same.symm
    simp [cached]

theorem entry_some {time : Time} {schema : κ} :
    sv.entry schemaID = some (time, schema) ↔ sv.cache schemaID = some time ∧ sv.schemas schemaID = some schema := by
  simp only [entry, Option.bind_eq_some_iff, Option.map_eq_some_iff, Prod.mk.injEq]
  constructor
  · rintro ⟨_, cached, _, known, rfl, rfl⟩
    exact ⟨cached, known⟩
  · rintro ⟨cached, known⟩
    exact ⟨time, cached, schema, known, rfl, rfl⟩

end Maps

inductive Lookup (library : SchemaLibrary κ δ) (sv : SchemaValidator κ) (schemaID : String) (now : Time) :
    Except String κ × SchemaValidator κ → Prop where
  | unnamed (empty : schemaID = "") : Lookup library sv schemaID now (.error "schema ID cannot be empty", sv)
  | missing (named : schemaID ≠ "") (absent : sv.entry schemaID = none) :
      Lookup library sv schemaID now (.error ("schema " ++ library.quote schemaID ++ " not found"), sv)
  | old (named : schemaID ≠ "") (held : Time × κ) (present : sv.entry schemaID = some held)
      (late : outdated sv.cacheTTL now held = true) :
      Lookup library sv schemaID now (cacheExpired library schemaID, sv.remove schemaID)
  | current (named : schemaID ≠ "") (held : Time × κ) (present : sv.entry schemaID = some held)
      (early : outdated sv.cacheTTL now held = false) : Lookup library sv schemaID now (.ok held.2, sv)

theorem getSchema_cases (library : SchemaLibrary κ δ) {sv : SchemaValidator κ} (paired : sv.Paired)
    (schemaID : String) (now : Time) : Lookup library sv schemaID now (sv.getSchema library schemaID now) := by
  by_cases empty : schemaID = ""
  · have read : sv.getSchema library schemaID now = (.error "schema ID cannot be empty", sv) := by
      simp [getSchema, SchemaValidator.read, empty]
    rw [read]
    exact .unnamed empty
  · cases held : sv.entry schemaID with
    | none =>
      have absent := paired.entry_none.mp held
      simp only [getSchema, SchemaValidator.read, if_neg empty, absent]
      exact .missing empty held
    | some registration =>
      obtain ⟨time, schema⟩ := registration
      obtain ⟨cached, known⟩ := entry_some.mp held
      simp only [getSchema, SchemaValidator.read, if_neg empty, known, cached, SchemaValidator.settle]
      cases late : expired sv.cacheTTL now (some time) with
      | true => exact .old empty (time, schema) held late
      | false => exact .current empty (time, schema) held late

structure Evicts (sv : SchemaValidator κ) (now : Time) (after : SchemaValidator κ) : Prop where
  paired : after.Paired
  cacheTTL : after.cacheTTL = sv.cacheTTL
  entries : ∀ schemaID, after.entry schemaID = sv.entry schemaID ∨
    after.entry schemaID = live (outdated sv.cacheTTL) now (sv.entry schemaID)

section Eviction
variable {library : SchemaLibrary κ δ} {sv after : SchemaValidator κ} {schemaID : String} {now : Time}

theorem Evicts.refl (paired : sv.Paired) (now : Time) : sv.Evicts now sv := ⟨paired, rfl, fun _ => .inl rfl⟩

theorem Evicts.alike (evicts : sv.Evicts now after) (schemaID : String) :
    Alike (outdated sv.cacheTTL) now (after.entry schemaID) (sv.entry schemaID) := by
  rcases evicts.entries schemaID with same | evicted
  · rw [same]
    exact .refl _
  · rw [evicted]
    exact alike_live (final_outdated sv.cacheTTL) now _

theorem Paired.evicts_clearCache (paired : sv.Paired) (now : Time) : sv.Evicts now (sv.clearCache now) :=
  ⟨paired.clearCache now, rfl, fun schemaID => .inr (entry_clearCache sv now schemaID)⟩

theorem Lookup.evicts (paired : sv.Paired) {outcome : Except String κ × SchemaValidator κ}
    (found : Lookup library sv schemaID now outcome) : sv.Evicts now outcome.2 := by
  cases found with
  | unnamed => exact .refl paired now
  | missing => exact .refl paired now
  | current => exact .refl paired now
  | old named held present late =>
    refine ⟨paired.remove schemaID, rfl, fun other => ?_⟩
    rw [entry_remove]
    by_cases same : other = schemaID
    · right
      rw [if_pos same, same, present, live_some, if_pos late]
    · exact .inl (if_neg same)

theorem Lookup.ok_iff (paired : sv.Paired) {outcome : Except String κ × SchemaValidator κ}
    (found : Lookup library sv schemaID now outcome) (schema : κ) :
    outcome.1 = .ok schema ↔ ∃ time, live (outdated sv.cacheTTL) now (sv.entry schemaID) = some (time, schema) := by
  cases found with
  | unnamed empty =>
    rw [empty, paired.entry_none.mpr paired.unnamed]
    simp
  | missing named absent => simp [absent]
  | old named held present late => simp [cacheExpired, present, live_some, late]
  | current named held present early =>
    obtain ⟨time, own⟩ := held
    simp [present, live_some, early]

theorem evicts_validate (library : SchemaLibrary κ δ) (paired : sv.Paired) (schemaID : String) (data : Bytes)
    (now : Time) : sv.Evicts now (sv.validate library schemaID data now).2 := by
  have lookup := (getSchema_cases library paired schemaID now).evicts paired
  unfold validate
  split
  next => exact .refl paired now
  split
  next => exact .refl paired now
  split
  next err after read =>
    rw [read] at lookup
    exact lookup
  next schema after read =>
    rw [read] at lookup
    split
    next => exact lookup
    next => split <;> exact lookup

end Eviction

/-- The checks of `RegisterSchema` and the schema that it goes on to write. -/
def accepted (library : SchemaLibrary κ δ) (schemaID schemaJSON : String) : Except String κ :=
  if schemaID = "" then .error "schema ID cannot be empty"
  else if schemaJSON = "" then .error "schema JSON cannot be empty"
  else (library.compile schemaJSON).mapError ("failed to compile schema: " ++ ·)

theorem registerSchema_eq (library : SchemaLibrary κ δ) (sv : SchemaValidator κ) (schemaID schemaJSON : String)
    (now : Time) : sv.registerSchema library schemaID schemaJSON now =
      (accepted library schemaID schemaJSON).map (fun schema => sv.write schemaID schema now) := by
  unfold registerSchema accepted
  split
  next => rfl
  split
  next => rfl
  cases library.compile schemaJSON with
  | error err => rfl
  | ok schema => rfl

theorem accepted_ok {library : SchemaLibrary κ δ} {schemaID schemaJSON : String} {schema : κ}
    (ok : accepted library schemaID schemaJSON = .ok schema) :
    schemaID ≠ "" ∧ library.compile schemaJSON = .ok schema := by
  unfold accepted at ok
  split at ok
  next => cases ok
  next named =>
    split at ok
    next => cases ok
    next =>
      cases compiled : library.compile schemaJSON with
      | error err =>
        rw [compiled] at ok
        cases ok
      | ok other =>
        rw [compiled] at ok
        cases ok
        exact ⟨named, rfl⟩

inductive Effect (library : SchemaLibrary κ δ) (sv : SchemaValidator κ) (now : Time) :
    SchemaCall → SchemaResult κ × SchemaValidator κ → Prop where
  | registered (schemaID schemaJSON : String) (schema : κ) (ok : accepted library schemaID schemaJSON = .ok schema) :
      Effect library sv now (.registerSchema schemaID schemaJSON)
        (.registered (.ok ()), sv.write schemaID schema now)
  | refused (schemaID schemaJSON err : String) (failed : accepted library schemaID schemaJSON = .error err) :
      Effect library sv now (.registerSchema schemaID schemaJSON) (.registered (.error err), sv)
  | unregistered (schemaID : String) :
      Effect library sv now (.unregisterSchema schemaID) (.unregistered (.ok ()), sv.remove schemaID)
  | unknown (schemaID err : String) (absent : sv.entry schemaID = none) :
      Effect library sv now (.unregisterSchema schemaID) (.unregistered (.error err), sv)
  | found (schemaID : String) (result : Except String κ) (after : SchemaValidator κ) (evicts : sv.Evicts now after) :
      Effect library sv now (.getSchema schemaID) (.found result, after)
  | validated (schemaID : String) (data : Bytes) (result : Except String Unit) (after : SchemaValidator κ)
      (evicts : sv.Evicts now after) : Effect library sv now (.validate schemaID data) (.validated result, after)
  | cleared (after : SchemaValidator κ) (evicts : sv.Evicts now after) :
      Effect library sv now .clearCache (.cleared, after)

theorem perform_cases (library : SchemaLibrary κ δ) {sv : SchemaValidator κ} (paired : sv.Paired) (now : Time)
    (call : SchemaCall) : Effect library sv now call (sv.perform library now call) := by
  cases call with
  | registerSchema schemaID schemaJSON =>
    simp only [perform, registerSchema_eq]
    cases outcome : accepted library schemaID schemaJSON with
    | error err => exact .refused schemaID schemaJSON err outcome
    | ok schema => exact .registered schemaID schemaJSON schema outcome
  | unregisterSchema schemaID =>
    simp only [perform, unregisterSchema]
    split
    next empty => exact .unknown schemaID _ (empty ▸ paired.entry_none.mpr paired.unnamed)
    split
    next absent => exact .unknown schemaID _ (paired.entry_none.mpr absent)
    next => exact .unregistered schemaID
  | getSchema schemaID =>
    exact .found schemaID _ _ ((getSchema_cases library paired schemaID now).evicts paired)
  | validate schemaID data => exact .validated schemaID data _ _ (evicts_validate library paired schemaID data now)
  | clearCache => exact .cleared _ (paired.evicts_clearCache now)

theorem Effect.paired {library : SchemaLibrary κ δ} {sv : SchemaValidator κ} {now : Time} {call : SchemaCall}
    {outcome : SchemaResult κ × SchemaValidator κ} (paired : sv.Paired)
    (effect : Effect library sv now call outcome) : outcome.2.Paired ∧ outcome.2.cacheTTL = sv.cacheTTL := by
  cases effect with
  | registered schemaID schemaJSON schema ok => exact ⟨paired.write (accepted_ok ok).1 schema now, rfl⟩
  | refused => exact ⟨paired, rfl⟩
  | unregistered schemaID => exact ⟨paired.remove schemaID, rfl⟩
  | unknown => exact ⟨paired, rfl⟩
  | found _ _ after evicts | validated _ _ _ after evicts | cleared after evicts =>
    exact ⟨evicts.paired, evicts.cacheTTL⟩

/-- What a call is for: it sets or takes back the registration under its ID. A read and a sweep are for nothing
of the kind. -/
def next (library : SchemaLibrary κ δ) (now : Time) (call : SchemaCall) (schemaID : String)
    (held : Option (Time × κ)) : Option (Time × κ) :=
  match call with
  | .registerSchema other schemaJSON =>
      match accepted library other schemaJSON with
      | .ok schema => if schemaID = other then some (now, schema) else held
      | .error _ => held
  | .unregisterSchema other => if schemaID = other then none else held
  | .getSchema _ | .validate _ _ | .clearCache => held

theorem next_alike {cacheTTL : Duration} (library : SchemaLibrary κ δ) {now : Time} (call : SchemaCall)
    (schemaID : String) {one two : Option (Time × κ)} (alike : Alike (outdated cacheTTL) now one two) :
    Alike (outdated cacheTTL) now (next library now call schemaID one) (next library now call schemaID two) := by
  cases call with
  | registerSchema other schemaJSON =>
    simp only [next]
    split
    next =>
      split
      next => exact .refl _
      next => exact alike
    next => exact alike
  | unregisterSchema other =>
    simp only [next]
    split
    next => exact .refl _
    next => exact alike
  | getSchema | validate | clearCache => exact alike

theorem Effect.next {library : SchemaLibrary κ δ} {sv : SchemaValidator κ} {now : Time} {call : SchemaCall}
    {outcome : SchemaResult κ × SchemaValidator κ} (effect : Effect library sv now call outcome) (schemaID : String) :
    Alike (outdated sv.cacheTTL) now (outcome.2.entry schemaID)
      (SchemaValidator.next library now call schemaID (sv.entry schemaID)) := by
  cases effect with
  | registered other schemaJSON schema ok =>
    simp only [SchemaValidator.next, ok, entry_write]
    exact .refl _
  | refused other schemaJSON err failed =>
    simp only [SchemaValidator.next, failed]
    exact .refl _
  | unregistered other =>
    simp only [SchemaValidator.next, entry_remove]
    exact .refl _
  | unknown other err absent =>
    simp only [SchemaValidator.next]
    split
    next same =>
      rw [same, absent]
      exact .refl _
    next => exact .refl _
  | found _ _ after evicts | validated _ _ _ after evicts | cleared after evicts => exact evicts.alike schemaID

end SchemaValidator

namespace SchemaEntry

def Settles (entry : SchemaEntry κ) (schemaID : String) : Prop :=
  (∃ schemaJSON, entry.call = .registerSchema schemaID schemaJSON ∧ entry.result = .registered (.ok ())) ∨
    entry.call = .unregisterSchema schemaID ∧ entry.result = .unregistered (.ok ())

def assigns (library : SchemaLibrary κ δ) (schemaID : String) (entry : SchemaEntry κ) : Option (Option (Time × κ)) :=
  match entry.call, entry.result with
  | .registerSchema other schemaJSON, .registered (.ok ()) =>
      if other = schemaID then some ((library.compile schemaJSON).toOption.map (fun schema => (entry.time, schema)))
      else none
  | .unregisterSchema other, .unregistered (.ok ()) => if other = schemaID then some none else none
  | _, _ => none

theorem assigns_eq_none {library : SchemaLibrary κ δ} {schemaID : String} {entry : SchemaEntry κ} :
    entry.assigns library schemaID = none ↔ ¬entry.Settles schemaID := by
  obtain ⟨call, time, result⟩ := entry
  unfold assigns Settles
  split
  next other schemaJSON sameCall sameResult =>
    subst sameCall sameResult
    simp
  next other sameCall sameResult =>
    subst sameCall sameResult
    simp
  next notRegistered notRemoved =>
    simp only [true_iff, not_or, not_exists, not_and]
    exact ⟨fun schemaJSON made ok => notRegistered schemaID schemaJSON made ok,
      fun made ok => notRemoved schemaID made ok⟩

theorem assigns_eq_some {library : SchemaLibrary κ δ} {schemaID : String} {entry : SchemaEntry κ} {time : Time}
    {schema : κ} : entry.assigns library schemaID = some (some (time, schema)) ↔
      ∃ schemaJSON, entry = ⟨.registerSchema schemaID schemaJSON, time, .registered (.ok ())⟩ ∧
        library.compile schemaJSON = .ok schema := by
  obtain ⟨call, stamp, result⟩ := entry
  unfold assigns
  split
  next other schemaJSON sameCall sameResult =>
    subst sameCall sameResult
    cases compiled : library.compile schemaJSON with
    | error err => simp [Except.toOption, compiled]
    | ok schema => simp [Except.toOption, compiled, and_assoc]
  next other sameCall sameResult =>
    subst sameCall sameResult
    simp
  next notRegistered notRemoved =>
    simp only [reduceCtorEq, mk.injEq, false_iff, not_exists, not_and]
    exact fun schemaJSON same => absurd same.2.2 (notRegistered schemaID schemaJSON same.1)

end SchemaEntry

def registration (library : SchemaLibrary κ δ) (log : List (SchemaEntry κ)) (schemaID : String) : Option (Time × κ) :=
  (lastAssigned (SchemaEntry.assigns library schemaID) log).join

/-- The last successful `RegisterSchema` of the ID was at this time with this schema, and no successful
`UnregisterSchema` of it has followed. -/
def LastRegistered (library : SchemaLibrary κ δ) (log : List (SchemaEntry κ)) (schemaID : String) (time : Time)
    (schema : κ) : Prop :=
  ∃ before schemaJSON after,
    log = before ++ ⟨.registerSchema schemaID schemaJSON, time, .registered (.ok ())⟩ :: after ∧
      library.compile schemaJSON = .ok schema ∧ ∀ later ∈ after, ¬later.Settles schemaID

/-- A registration of this time has not outlived the TTL. A difference of times is at most the largest
duration, so that this TTL is never exceeded. -/
def Within (cacheTTL : Duration) (time now : Time) : Prop :=
  now - time ≤ cacheTTL.toInt ∨ cacheTTL = Int64.maxValue

theorem registration_eq_some {library : SchemaLibrary κ δ} {log : List (SchemaEntry κ)} {schemaID : String}
    {time : Time} {schema : κ} :
    registration library log schemaID = some (time, schema) ↔ LastRegistered library log schemaID time schema := by
  rw [registration, Option.join_eq_some_iff, lastAssigned_eq_some]
  simp only [SchemaEntry.assigns_eq_some, SchemaEntry.assigns_eq_none, LastRegistered]
  constructor
  · rintro ⟨before, _, after, order, ⟨schemaJSON, rfl, compiled⟩, unsettled⟩
    exact ⟨before, schemaJSON, after, order, compiled, unsettled⟩
  · rintro ⟨before, schemaJSON, after, order, compiled, unsettled⟩
    exact ⟨before, _, after, order, ⟨schemaJSON, rfl, compiled⟩, unsettled⟩

theorem registration_concat (library : SchemaLibrary κ δ) (log : List (SchemaEntry κ)) (last : SchemaEntry κ)
    (schemaID : String) : registration library (log ++ [last]) schemaID =
      (last.assigns library schemaID).getD (registration library log schemaID) := by
  rw [registration, lastAssigned_concat]
  cases last.assigns library schemaID with
  | none => rfl
  | some assigned => rfl

theorem not_outdated_iff {cacheTTL : Duration} {now time : Time} {schema : κ} :
    SchemaValidator.outdated cacheTTL now (time, schema) = false ↔ Within cacheTTL time now := by
  have largest : cacheTTL = Int64.maxValue ↔ (2 ^ 63 - 1 : Int) ≤ cacheTTL.toInt := by
    rw [← Int64.toInt_inj]
    have high := cacheTTL.toInt_lt
    have most : Int64.maxValue.toInt = 2 ^ 63 - 1 := by decide
    omega
  simp only [SchemaValidator.outdated, SchemaValidator.expired, decide_eq_false_iff_not, lt_since, Within, largest]
  lia

namespace SchemaHistory
variable {library : SchemaLibrary κ δ} {cacheTTL : Duration}

structure Recorded (library : SchemaLibrary κ δ) (cacheTTL : Duration) (history : SchemaHistory κ) : Prop where
  paired : history.validator.Paired
  ttl : history.validator.cacheTTL = cacheTTL
  entries : ∀ schemaID, Alike (SchemaValidator.outdated cacheTTL) history.clock (history.validator.entry schemaID)
    (registration library history.log schemaID)

theorem step_cases {history after : SchemaHistory κ} {label : SchemaCall × Time}
    (stepped : history.step library label = some after) :
    history.clock ≤ label.2 ∧ after = ⟨(history.validator.perform library label.2 label.1).2, label.2,
      history.log ++ [⟨label.1, label.2, (history.validator.perform library label.2 label.1).1⟩]⟩ := by
  unfold step at stepped
  split at stepped
  next later => exact ⟨later, (Option.some.inj stepped).symm⟩
  next => cases stepped

theorem Recorded.step {history after : SchemaHistory κ} {label : SchemaCall × Time}
    (recorded : history.Recorded library cacheTTL) (stepped : history.step library label = some after) :
    after.Recorded library cacheTTL := by
  obtain ⟨later, rfl⟩ := step_cases stepped
  obtain ⟨call, now⟩ := label
  have effect := SchemaValidator.perform_cases library recorded.paired now call
  have kept := effect.paired recorded.paired
  refine ⟨kept.1, kept.2.trans recorded.ttl, fun schemaID => ?_⟩
  have before := (recorded.entries schemaID).mono later
  rw [registration_concat]
  dsimp only at later before ⊢
  generalize history.validator.perform library now call = outcome at effect kept
  have evicted {after : SchemaValidator κ} (evicts : history.validator.Evicts now after) :
      Alike (SchemaValidator.outdated cacheTTL) now (after.entry schemaID)
        (registration library history.log schemaID) :=
    (recorded.ttl ▸ evicts.alike schemaID).trans before
  have assigned (id : String) (value : Option (Time × κ)) :
      Alike (SchemaValidator.outdated cacheTTL) now
        (if schemaID = id then value else history.validator.entry schemaID)
        ((if id = schemaID then some value else none).getD (registration library history.log schemaID)) := by
    by_cases same : schemaID = id
    · rw [if_pos same, if_pos same.symm]
      exact .refl _
    · rw [if_neg same, if_neg (Ne.symm same)]
      exact before
  cases effect with
  | registered id schemaJSON schema ok =>
    obtain ⟨-, compiled⟩ := SchemaValidator.accepted_ok ok
    simp only [SchemaEntry.assigns, compiled, Except.toOption, SchemaValidator.entry_write]
    exact assigned id _
  | refused => exact before
  | unregistered id =>
    simp only [SchemaEntry.assigns, SchemaValidator.entry_remove]
    exact assigned id _
  | unknown => exact before
  | found _ _ after evicts | validated _ _ _ after evicts | cleared after evicts => exact evicted evicts

theorem recorded_new {history : SchemaHistory κ} (new : (schemaMachine library cacheTTL).init history) :
    history.Recorded library cacheTTL := by
  obtain ⟨validator, log⟩ := new
  refine ⟨validator ▸ .new cacheTTL, validator ▸ rfl, fun schemaID => ?_⟩
  rw [validator, log]
  exact .refl _

/-- `GetSchema` succeeds exactly with what was registered last, while it is within the TTL. -/
theorem Recorded.getSchema_iff {history : SchemaHistory κ} (recorded : history.Recorded library cacheTTL)
    (schemaID : String) {now : Time} (later : history.clock ≤ now) (schema : κ) :
    (history.validator.getSchema library schemaID now).1 = .ok schema ↔
      ∃ time, LastRegistered library history.log schemaID time schema ∧ Within cacheTTL time now := by
  rw [(SchemaValidator.getSchema_cases library recorded.paired schemaID now).ok_iff recorded.paired,
    recorded.ttl, recorded.entries schemaID now later]
  simp only [live_eq_some, registration_eq_some, not_outdated_iff]

end SchemaHistory

/-! Two texts tell of an ID that cannot be read: one if the entry is still there and outdated, one if it is
gone. In what follows the first is read as the second. -/

def notFound (library : SchemaLibrary κ δ) (schemaID : String) : String :=
  "schema " ++ library.quote schemaID ++ " not found"

def unifyText (library : SchemaLibrary κ δ) (schemaID err : String) : String :=
  if err = "schema " ++ library.quote schemaID ++ " cache expired" then notFound library schemaID else err

/-- The result of a `GetSchema` or a `Validate`, with the call. -/
def SchemaEntry.answer (library : SchemaLibrary κ δ) (entry : SchemaEntry κ) :
    Option (SchemaCall × Time × SchemaResult κ) :=
  match entry.call, entry.result with
  | .getSchema schemaID, .found result =>
      some (entry.call, entry.time, .found (result.mapError (unifyText library schemaID)))
  | .validate schemaID _, .validated result =>
      some (entry.call, entry.time, .validated (result.mapError (unifyText library schemaID)))
  | _, _ => none

def answers (library : SchemaLibrary κ δ) (log : List (SchemaEntry κ)) : List (SchemaCall × Time × SchemaResult κ) :=
  log.filterMap (SchemaEntry.answer library)

def withoutClears (calls : List (SchemaCall × Time)) : List (SchemaCall × Time) :=
  calls.filter (fun label => label.1 ≠ .clearCache)

namespace SchemaValidator
variable {library : SchemaLibrary κ δ} {sv other : SchemaValidator κ} {schemaID : String} {now : Time}

/-- With the texts unified, the result depends on what is left of the entry alone. -/
theorem Lookup.unified {outcome : Except String κ × SchemaValidator κ}
    (found : Lookup library sv schemaID now outcome) :
    outcome.1.mapError (unifyText library schemaID) =
      if schemaID = "" then .error (unifyText library schemaID "schema ID cannot be empty")
      else match live (outdated sv.cacheTTL) now (sv.entry schemaID) with
        | none => .error (notFound library schemaID)
        | some held => .ok held.2 := by
  cases found with
  | unnamed empty =>
    rw [if_pos empty]
    rfl
  | missing named absent =>
    rw [if_neg named, absent]
    have fixed : unifyText library schemaID (notFound library schemaID) = notFound library schemaID := ite_self _
    exact congrArg Except.error fixed
  | old named held present late =>
    rw [if_neg named, present, live_some, if_pos late]
    exact congrArg Except.error (if_pos rfl)
  | current named held present early =>
    rw [if_neg named, present, live_some, early]
    rfl

/-- What `Validate` makes of the result of its `GetSchema`. -/
def judge (library : SchemaLibrary κ δ) (schemaID : String) (data : Bytes) (found : Except String κ) :
    Except String Unit :=
  if schemaID = "" then .error "schema ID cannot be empty"
  else if data = [] then .error "data cannot be empty"
  else match found with
    | .error err => .error err
    | .ok schema =>
      match library.parse data with
      | .error err => .error ("failed to parse JSON data: " ++ err)
      | .ok value =>
        match library.validate schema value with
        | .error err => .error ("validation failed: " ++ err)
        | .ok () => .ok ()

theorem validate_eq_judge (data : Bytes) : (sv.validate library schemaID data now).1 =
    judge library schemaID data (sv.getSchema library schemaID now).1 := by
  unfold validate judge
  split
  next => rfl
  split
  next => rfl
  split
  next err after read => rw [read]
  next schema after read =>
    rw [read]
    cases library.parse data with
    | error err => rfl
    | ok value =>
      dsimp only
      cases library.validate schema value with
      | error err => rfl
      | ok => rfl

theorem judge_unified {found found' : Except String κ} (data : Bytes)
    (same : found.mapError (unifyText library schemaID) = found'.mapError (unifyText library schemaID)) :
    (judge library schemaID data found).mapError (unifyText library schemaID) =
      (judge library schemaID data found').mapError (unifyText library schemaID) := by
  cases found with
  | error err =>
    cases found' with
    | error err' =>
      have texts : unifyText library schemaID err = unifyText library schemaID err' := Except.error.inj same
      unfold judge
      split
      next => rfl
      split
      next => rfl
      exact congrArg Except.error texts
    | ok schema => cases same
  | ok schema =>
    cases found' with
    | error err => cases same
    | ok schema' => rw [Except.ok.inj same]

end SchemaValidator

structure Mirrors (library : SchemaLibrary κ δ) (swept plain : SchemaHistory κ) : Prop where
  paired : swept.validator.Paired
  paired' : plain.validator.Paired
  ttl : plain.validator.cacheTTL = swept.validator.cacheTTL
  clock : plain.clock ≤ swept.clock
  entries : ∀ schemaID, Alike (SchemaValidator.outdated swept.validator.cacheTTL) swept.clock
    (swept.validator.entry schemaID) (plain.validator.entry schemaID)
  answers : answers library swept.log = answers library plain.log

section Mirroring
variable {library : SchemaLibrary κ δ} {swept after plain : SchemaHistory κ} {call : SchemaCall} {now : Time}

theorem answers_concat (log : List (SchemaEntry κ)) (last : SchemaEntry κ) :
    answers library (log ++ [last]) = answers library log ++ (last.answer library).toList := by
  rw [answers, List.filterMap_append]
  cases answered : last.answer library with
  | none => simp [answers, answered]
  | some answer => simp [answers, answered]

theorem Mirrors.clear (mirrors : Mirrors library swept plain)
    (stepped : swept.step library (.clearCache, now) = some after) : Mirrors library after plain := by
  obtain ⟨later, rfl⟩ := SchemaHistory.step_cases stepped
  have evicts := mirrors.paired.evicts_clearCache now
  refine ⟨evicts.paired, mirrors.paired', mirrors.ttl, mirrors.clock.trans later, fun schemaID => ?_, ?_⟩
  · exact (evicts.alike schemaID).trans ((mirrors.entries schemaID).mono later)
  · rw [answers_concat, mirrors.answers]
    exact List.append_nil _

theorem Mirrors.entries_perform (mirrors : Mirrors library swept plain) (later : swept.clock ≤ now)
    (call : SchemaCall) (schemaID : String) :
    Alike (SchemaValidator.outdated swept.validator.cacheTTL) now
      ((swept.validator.perform library now call).2.entry schemaID)
      ((plain.validator.perform library now call).2.entry schemaID) := by
  have effect := (SchemaValidator.perform_cases library mirrors.paired now call).next schemaID
  have effect' := (SchemaValidator.perform_cases library mirrors.paired' now call).next schemaID
  rw [mirrors.ttl] at effect'
  have both := SchemaValidator.next_alike library call schemaID ((mirrors.entries schemaID).mono later)
  exact effect.trans (both.trans effect'.symm)

theorem Mirrors.answer_perform (mirrors : Mirrors library swept plain) (later : swept.clock ≤ now) (call : SchemaCall) :
    SchemaEntry.answer library ⟨call, now, (swept.validator.perform library now call).1⟩ =
      SchemaEntry.answer library ⟨call, now, (plain.validator.perform library now call).1⟩ := by
  have read (schemaID : String) :
      (swept.validator.getSchema library schemaID now).1.mapError (unifyText library schemaID) =
        (plain.validator.getSchema library schemaID now).1.mapError (unifyText library schemaID) := by
    rw [(SchemaValidator.getSchema_cases library mirrors.paired schemaID now).unified,
      (SchemaValidator.getSchema_cases library mirrors.paired' schemaID now).unified, mirrors.ttl,
      mirrors.entries schemaID now later]
  cases call with
  | registerSchema schemaID schemaJSON =>
    simp only [SchemaValidator.perform]
    split <;> split <;> rfl
  | unregisterSchema schemaID => simp only [SchemaEntry.answer]
  | getSchema schemaID => simp only [SchemaValidator.perform, SchemaEntry.answer, read]
  | validate schemaID data =>
    simp only [SchemaValidator.perform, SchemaEntry.answer, SchemaValidator.validate_eq_judge,
      SchemaValidator.judge_unified data (read schemaID)]
  | clearCache => rfl

theorem Mirrors.step (mirrors : Mirrors library swept plain) (stepped : swept.step library (call, now) = some after) :
    ∃ after', plain.step library (call, now) = some after' ∧ Mirrors library after after' := by
  obtain ⟨later, rfl⟩ := SchemaHistory.step_cases stepped
  have kept := (SchemaValidator.perform_cases library mirrors.paired now call).paired mirrors.paired
  have kept' := (SchemaValidator.perform_cases library mirrors.paired' now call).paired mirrors.paired'
  refine ⟨_, if_pos (mirrors.clock.trans later), kept.1, kept'.1, ?_, le_rfl, fun schemaID => ?_, ?_⟩
  · exact kept'.2.trans (mirrors.ttl.trans kept.2.symm)
  · rw [kept.2]
    exact mirrors.entries_perform later call schemaID
  · rw [answers_concat, answers_concat, mirrors.answers, mirrors.answer_perform later call]

theorem Mirrors.run {cacheTTL : Duration} (mirrors : Mirrors library swept plain) {calls : List (SchemaCall × Time)}
    (ran : (schemaMachine library cacheTTL).run (fun _ _ => True) swept calls = some after) :
    ∃ after', (schemaMachine library cacheTTL).run (fun _ _ => True) plain (withoutClears calls) = some after' ∧
      Mirrors library after after' := by
  induction calls generalizing swept plain with
  | nil =>
    cases ran
    exact ⟨plain, rfl, mirrors⟩
  | cons label rest ih =>
    obtain ⟨next, -, stepped, later⟩ := Machine.run_cons ran
    obtain ⟨call, now⟩ := label
    by_cases sweep : call = .clearCache
    · subst sweep
      exact ih (mirrors.clear stepped) later
    · obtain ⟨next', stepped', mirrors'⟩ := mirrors.step stepped
      obtain ⟨after', ran', last⟩ := ih mirrors' later
      have kept : withoutClears ((call, now) :: rest) = (call, now) :: withoutClears rest := by
        simp [withoutClears, sweep]
      refine ⟨after', ?_, last⟩
      rw [kept]
      simp only [Machine.run, if_true]
      exact (congrArg (Option.bind · _) stepped').trans ran'

end Mirroring

theorem SchemaHistory.recorded_run {library : SchemaLibrary κ δ} {cacheTTL : Duration} {start final : SchemaHistory κ}
    {calls : List (SchemaCall × Time)} (new : (schemaMachine library cacheTTL).init start)
    (ran : (schemaMachine library cacheTTL).run (fun _ _ => True) start calls = some final) :
    final.Recorded library cacheTTL := by
  have reached := Machine.Reaches.run calls (.start new) ran
  apply reached.invariant (SchemaHistory.Recorded library cacheTTL)
  · exact fun _ new => recorded_new new
  · exact fun _ _ _ _ recorded _ stepped => recorded.step stepped

/-- After every sequence of complete calls: the maps have the same keys, `GetSchema` gives what was registered last
unless it was taken back or is too old, and `ClearCache` changes no answer but one text for an ID that cannot be read
into the other. -/
theorem schema_lifetime (library : SchemaLibrary κ δ) (cacheTTL : Duration) {start final : SchemaHistory κ}
    {calls : List (SchemaCall × Time)} (new : (schemaMachine library cacheTTL).init start)
    (ran : (schemaMachine library cacheTTL).run (fun _ _ => True) start calls = some final) :
    (∀ schemaID, (final.validator.schemas schemaID).isSome = (final.validator.cache schemaID).isSome) ∧
    (∀ schemaID now schema, final.clock ≤ now →
      ((final.validator.getSchema library schemaID now).1 = .ok schema ↔
        ∃ time, LastRegistered library final.log schemaID time schema ∧ Within cacheTTL time now)) ∧
    ∀ calls' final', (schemaMachine library cacheTTL).run (fun _ _ => True) start calls' = some final' →
      withoutClears calls = withoutClears calls' → answers library final.log = answers library final'.log := by
  have recorded := SchemaHistory.recorded_run new ran
  have initial := SchemaHistory.recorded_new new
  have mirrors : Mirrors library start start :=
    ⟨initial.paired, initial.paired, rfl, le_rfl, fun _ => .refl _, rfl⟩
  refine ⟨recorded.paired.keys, fun schemaID now schema later => recorded.getSchema_iff schemaID later schema, ?_⟩
  intro calls' final' ran' same
  obtain ⟨plain, run, one⟩ := mirrors.run ran
  obtain ⟨plain', run', two⟩ := mirrors.run ran'
  rw [same, run'] at run
  cases run
  exact one.answers.trans two.answers.symm

/-- The text of the error tells whether `ClearCache` ran before the read of a schema that had outlived its time; and
under the largest TTL no schema outlives it, as the difference of two times is never more. -/
theorem schema_lifetime_exceptions :
    let start (cacheTTL : Duration) : SchemaHistory Unit := ⟨.newSchemaValidator cacheTTL, 0, []⟩
    let register : SchemaCall × Time := (.registerSchema "orders" "orders.json", 0)
    let plain := [register, (.getSchema "orders", 20)]
    let swept := [register, (.clearCache, 15), (.getSchema "orders", 20)]
    (withoutClears plain = withoutClears swept ∧
      ∃ one two, (schemaMachine orderSchemas 10).run (fun _ _ => True) (start 10) plain = some one ∧
        (schemaMachine orderSchemas 10).run (fun _ _ => True) (start 10) swept = some two ∧
        one.log.getLast?.map SchemaEntry.result = some (.found (.error "schema \"orders\" cache expired")) ∧
        two.log.getLast?.map SchemaEntry.result = some (.found (.error "schema \"orders\" not found"))) ∧
      ∃ late final, Int64.maxValue.toInt < late - 0 ∧
        (schemaMachine orderSchemas Int64.maxValue).run (fun _ _ => True) (start Int64.maxValue)
          [register, (.getSchema "orders", late)] = some final ∧
        final.log.getLast?.map SchemaEntry.result = some (.found (.ok ())) :=
  ⟨⟨by decide, _, _, rfl, rfl, rfl, rfl⟩, 9223372036854775808, _, by decide, rfl, rfl⟩

theorem schema_lifetime_renewed :
    ∃ final, (schemaMachine orderSchemas 10).run (fun _ _ => True) ⟨.newSchemaValidator 10, 0, []⟩
        [(.registerSchema "orders" "orders.json", 0), (.getSchema "orders", 20),
          (.registerSchema "orders" "orders.json", 30)] = some final ∧
      ∃ time, LastRegistered orderSchemas final.log "orders" time () ∧ Within 10 time 35 := by
  obtain ⟨final, ran, read⟩ : ∃ final, (schemaMachine orderSchemas 10).run (fun _ _ => True)
      ⟨.newSchemaValidator 10, 0, []⟩ [(.registerSchema "orders" "orders.json", 0), (.getSchema "orders", 20),
        (.registerSchema "orders" "orders.json", 30)] = some final ∧ final.clock ≤ 35 ∧
      (final.validator.getSchema orderSchemas "orders" 35).1 = .ok () := ⟨_, rfl, by decide, rfl⟩
  exact ⟨final, ran, ((schema_lifetime orderSchemas 10 ⟨rfl, rfl⟩ ran).2.1 "orders" 35 () read.1).mp read.2⟩

end EventGateway.Registry
