import EventGateway.Lib.Machine
import EventGateway.Transform.Engine

/-! The caches of the transformer over whole histories of calls. Each holds the compilations
of its keys in its own language, so that no call can tell a used engine from a fresh one. -/

namespace EventGateway.Transform
open Lib Lib.Json Kafka

section Cache
variable {floats : Floats} {scripting : Scripting floats}

structure Compiled (te : TransformationEngine scripting) : Prop where
  jqQueries : Memo.Sound te.jqQueries scripting.parse
  celPrograms : Memo.Sound te.celPrograms scripting.compile
  templates : Memo.Sound te.templates scripting.parseTemplate

theorem compiled_new (maxScriptSize : Int) : Compiled (newTransformationEngine scripting maxScriptSize) :=
  ⟨Memo.sound_empty, Memo.sound_empty, Memo.sound_empty⟩

theorem compiled_transform {te : TransformationEngine scripting} (compiled : Compiled te) (event : Option Event)
    (transformation : Option Transformation) (world : scripting.World) (clock : Clock) :
    Compiled (transform te event transformation world clock).2 := by
  match event, transformation with
  | none, _ => exact compiled
  | some event, none => exact compiled
  | some event, some ⟨type, script⟩ =>
    dsimp only [transform]
    split
    next => exact compiled
    next =>
      split
      next => exact compiled
      next =>
        cases type with
        | jq =>
          rw [transformJQ_eq]
          exact { compiled with jqQueries := (Memo.get_eq compiled.jqQueries script).2 }
        | cel =>
          rw [transformCEL_eq]
          exact { compiled with celPrograms := (Memo.get_eq compiled.celPrograms script).2 }
        | template =>
          rw [transformTemplate_eq]
          exact { compiled with templates := (Memo.get_eq compiled.templates script).2 }
        | none => exact compiled
        | other name foreign => exact compiled

variable (scripting) in
inductive EngineCall where
  | transform (event : Option Event) (transformation : Option Transformation) (world : scripting.World) (clock : Clock)
  | clearCache

variable (scripting) in
def engineMachine : Machine (TransformationEngine scripting) (EngineCall scripting) where
  init := fun te => ∃ maxScriptSize, te = newTransformationEngine scripting maxScriptSize
  step := fun te call => some <|
    match call with
    | .transform event transformation world clock => (transform te event transformation world clock).2
    | .clearCache => clearCache te

theorem compiled_of_reachable {te : TransformationEngine scripting}
    (reached : (engineMachine scripting).Reachable te) : Compiled te := by
  refine reached.invariant Compiled ?_ ?_
  · rintro te ⟨maxScriptSize, rfl⟩
    exact compiled_new maxScriptSize
  · intro te call after _ compiled _ stepped
    cases stepped
    cases call with
    | transform event transformation world clock => exact compiled_transform compiled event transformation world clock
    | clearCache => exact compiled_new te.maxScriptSize

theorem attempt_fresh {te : TransformationEngine scripting} (compiled : Compiled te) (event : Event)
    (transformation : Option Transformation) (world : scripting.World) :
    attempt te event transformation world =
      attempt (newTransformationEngine scripting te.maxScriptSize) event transformation world := by
  have fresh : Compiled (newTransformationEngine scripting te.maxScriptSize) := compiled_new te.maxScriptSize
  match transformation with
  | none => rfl
  | some ⟨.none, script⟩ => rfl
  | some ⟨.other name foreign, script⟩ => rfl
  | some ⟨.jq, script⟩ =>
    have same := (Memo.get_eq compiled.jqQueries script).1.trans (Memo.get_eq fresh.jqQueries script).1.symm
    simp only [attempt, attemptJQ, same]
    rfl
  | some ⟨.cel, script⟩ =>
    have same := (Memo.get_eq compiled.celPrograms script).1.trans (Memo.get_eq fresh.celPrograms script).1.symm
    simp only [attempt, attemptCEL, same]
    rfl
  | some ⟨.template, script⟩ =>
    have same := (Memo.get_eq compiled.templates script).1.trans (Memo.get_eq fresh.templates script).1.symm
    simp only [attempt, attemptTemplate, same]
    rfl

theorem transform_fresh {te : TransformationEngine scripting} (compiled : Compiled te) (event : Option Event)
    (transformation : Option Transformation) (world : scripting.World) (clock : Clock) :
    (transform te event transformation world clock).1 =
      (transform (newTransformationEngine scripting te.maxScriptSize) event transformation world clock).1 := by
  cases event with
  | none => rfl
  | some event => rw [transform_eq, transform_eq, attempt_fresh compiled]

def Result.timeless : Result → Result
  | .returned (.ok event) => .returned (.ok { event with timestamp := 0, createdAt := 0 })
  | result => result

theorem timeless_finish (event : Event) (map : MapVar floats) (clock clock' : Clock) :
    (finish scripting event clock map).timeless = (finish scripting event clock' map).timeless := by
  cases map with
  | none => rfl
  | some map =>
    dsimp only [finish]
    cases unmarshal (marshalMap (some (preserve scripting event map))) with
    | error cause => rfl
    | ok dto =>
      dsimp only [newTransformedEvent]
      cases checked : validateFields dto.id dto.source dto.type dto.data dto.dataContentType with
      | error cause => rw [Event.newEvent_error _ _ checked, Event.newEvent_error _ _ checked]
      | ok passed =>
        rw [Event.newEvent_ok _ _ checked, Event.newEvent_ok _ _ checked]
        rfl

/-- The clock readings of a call show in the clock values of its event and nowhere else. -/
theorem timeless_transform (te : TransformationEngine scripting) (event : Option Event)
    (transformation : Option Transformation) (world : scripting.World) (clock clock' : Clock) :
    (transform te event transformation world clock).1.timeless =
      (transform te event transformation world clock').1.timeless := by
  cases event with
  | none => rfl
  | some event =>
    rw [transform_eq, transform_eq]
    cases attempt te event transformation world with
    | none => rfl
    | some made =>
      cases made with
      | error cause => rfl
      | ok map => exact timeless_finish event map clock clock'

/-- After any history of calls the caches hold compilations of their keys, and a call gives what it gives
on a fresh engine: the same result at the same clock, and at another clock the same up to clock values. -/
theorem cache_transparent {te : TransformationEngine scripting} (reached : (engineMachine scripting).Reachable te) :
    Compiled te ∧ ∀ event transformation world clock clock',
      let fresh := newTransformationEngine scripting te.maxScriptSize
      (transform te event transformation world clock).1 = (transform fresh event transformation world clock).1 ∧
        (transform te event transformation world clock).1.timeless =
          (transform fresh event transformation world clock').1.timeless := by
  have compiled := compiled_of_reachable reached
  refine ⟨compiled, fun event transformation world clock clock' => ?_⟩
  have same := transform_fresh compiled event transformation world clock
  refine ⟨same, ?_⟩
  rw [same]
  exact timeless_transform _ event transformation world clock clock'

end Cache

theorem cache_transparent_two_languages :
    ∃ te, (engineMachine plainScripts).Reachable te ∧
      ((te.jqQueries.lookup ".").isSome && (te.celPrograms.lookup ".").isNone) = true ∧ Compiled te ∧
      ∀ event transformation world clock clock',
        let fresh := newTransformationEngine plainScripts te.maxScriptSize
        (transform te event transformation world clock).1 = (transform fresh event transformation world clock).1 ∧
          (transform te event transformation world clock).1.timeless =
            (transform fresh event transformation world clock').1.timeless := by
  let event := Event.sample "order-1" 0
  have ran := (engineMachine plainScripts).reaches_of_run (fun _ _ => True) (newTransformationEngine plainScripts 1024)
    [.transform (some event) (some ⟨.jq, "."⟩) () ⟨0, 0⟩, .transform (some event) (some ⟨.cel, "."⟩) () ⟨0, 0⟩]
    (fun te => (te.jqQueries.lookup ".").isSome && (te.celPrograms.lookup ".").isNone) ⟨1024, rfl⟩ (by decide +kernel)
  obtain ⟨te, reached, cached⟩ := ran
  exact ⟨te, reached, cached, cache_transparent reached⟩

end EventGateway.Transform
