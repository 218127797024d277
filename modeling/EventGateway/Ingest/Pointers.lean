import EventGateway.Ingest.Agreement
import EventGateway.Lib.Panic

/-! Batch ingestion as the source has it, on pointers to requests. `IngestEventBatch` reads a
field of the first one, and `ToEntity` reads the fields of each one in turn, without asking
whether it is nil. Where none is nil this is the batch ingestion on requests. -/

namespace EventGateway.Ingest
open Lib Lib.Effect

namespace Ports
variable {σ : Type}

/-- One turn of the loop in `prepareBatchEvents`: the ID is generated before the pointer is used. -/
def preparePointer (ports : Ports σ) (correlationID : String) (index : Nat) :
    Option IngestEventRequest → Risky σ (Event × String)
  | none => do
      let _ ← Risky.calling ports.generateID
      Risky.crash
  | some request => Risky.calling (ports.prepareBatchEvent correlationID index request)

def preparePointersFrom (ports : Ports σ) (correlationID : String) :
    Nat → List (Option IngestEventRequest) → Risky σ (List (Event × String))
  | _, [] => pure []
  | start, pointer :: rest => do
      let made ← ports.preparePointer correlationID start pointer
      let others ← ports.preparePointersFrom correlationID (start + 1) rest
      pure (made :: others)

def finishBatch (ports : Ports σ) (prepared : List (Event × String)) : Effect σ (List String) := do
  ports.storeBatchEvents (prepared.map Prod.fst)
  ports.publishBatchEvents (prepared.map Prod.fst)
  pure (prepared.map Prod.snd)

def ingestPointers (ports : Ports σ) (pointers : List (Option IngestEventRequest)) : Risky σ (List String) :=
  match pointers with
  | [] => pure []
  | none :: _ => Risky.crash
  | some first :: _ => do
      let correlationID ← Risky.calling (ports.correlationOr first.correlationID)
      let prepared ← ports.preparePointersFrom correlationID 0 pointers
      Risky.calling (ports.finishBatch prepared)

theorem preparePointersFrom_present (ports : Ports σ) (correlationID : String) (start : Nat)
    (requests : List IngestEventRequest) : ports.preparePointersFrom correlationID start (requests.map some) =
      Risky.calling (collectFrom (ports.prepareBatchEvent correlationID) start requests) := by
  induction requests generalizing start with
  | nil => rfl
  | cons request rest ih =>
    simp only [List.map_cons, preparePointersFrom, preparePointer, ih, collectFrom, Risky.calling_bind,
      Risky.calling_pure]

theorem ingestEventBatch_finish (ports : Ports σ) (first : IngestEventRequest) (rest : List IngestEventRequest) :
    ports.ingestEventBatch (first :: rest) = (do
      let correlationID ← ports.correlationOr first.correlationID
      let prepared ← collectFrom (ports.prepareBatchEvent correlationID) 0 (first :: rest)
      ports.finishBatch prepared) := by
  funext state
  simp only [ingestEventBatch, prepareBatchEvents, bind_apply]
  rcases ports.correlationOr first.correlationID state with ⟨err | correlationID, after⟩
  · rfl
  · dsimp only
    rcases collectFrom (ports.prepareBatchEvent correlationID) 0 (first :: rest) after with ⟨err | prepared, final⟩
    · rfl
    · rfl

theorem ingestPointers_present (ports : Ports σ) (requests : List IngestEventRequest) :
    ports.ingestPointers (requests.map some) = Risky.calling (ports.ingestEventBatch requests) := by
  cases requests with
  | nil => rfl
  | cons first rest =>
    rw [ingestEventBatch_finish]
    simp only [Risky.calling_bind, ← preparePointersFrom_present, List.map_cons, ingestPointers]

end Ports

section Order
variable {batch later : List (Option IngestEventRequest)} {request : IngestEventRequest}

def Guarded (pointers : List (Option IngestEventRequest)) : Prop :=
  ∀ before after, pointers = before ++ none :: after → ∃ request, some request ∈ before ∧ ¬request.Valid

def Whole (pointers : List (Option IngestEventRequest)) : Prop :=
  ∀ pointer ∈ pointers, ∃ request, pointer = some request ∧ request.Valid

theorem guarded_nil : Guarded [] := by
  intro before after same
  simp at same

theorem not_guarded_none (later : List (Option IngestEventRequest)) : ¬Guarded (none :: later) := by
  intro guarded
  obtain ⟨request, member, -⟩ := guarded [] later rfl
  exact absurd member List.not_mem_nil

theorem guarded_some : Guarded (some request :: later) ↔ ¬request.Valid ∨ Guarded later := by
  constructor
  · intro guarded
    by_cases valid : request.Valid
    · right
      intro before after same
      obtain ⟨other, member, invalid⟩ := guarded (some request :: before) after (by rw [same, List.cons_append])
      rcases List.mem_cons.mp member with first | found
      · cases first
        exact absurd valid invalid
      · exact ⟨other, found, invalid⟩
    · exact .inl valid
  · intro condition before after same
    cases before with
    | nil => cases same
    | cons head before =>
      rw [List.cons_append, List.cons.injEq] at same
      obtain ⟨rfl, tail⟩ := same
      rcases condition with invalid | guarded
      · exact ⟨request, List.mem_cons_self, invalid⟩
      · obtain ⟨other, member, invalid⟩ := guarded before after tail
        exact ⟨other, List.mem_cons_of_mem _ member, invalid⟩

theorem whole_some (valid : request.Valid) (whole : Whole later) : Whole (some request :: later) := by
  intro pointer member
  rcases List.mem_cons.mp member with rfl | old
  · exact ⟨request, rfl, valid⟩
  · exact whole pointer old

theorem Guarded.left (guarded : Guarded (batch ++ later)) : Guarded batch := by
  intro before after same
  exact guarded before (after ++ later) (by rw [same, List.append_assoc, List.cons_append])

theorem Whole.guarded_append (whole : Whole batch) : Guarded (batch ++ later) ↔ Guarded later := by
  induction batch with
  | nil => rfl
  | cons pointer rest ih =>
    obtain ⟨request, rfl, valid⟩ := whole pointer List.mem_cons_self
    have tail := ih (fun other member => whole other (List.mem_cons_of_mem _ member))
    simp only [List.cons_append, guarded_some, tail, valid, not_true_eq_false, false_or]

/-- A batch that is guarded itself and does not guard what follows has only valid requests. -/
theorem Guarded.whole (guarded : Guarded batch) (unguarded : ¬Guarded (batch ++ later)) : Whole batch := by
  induction batch with
  | nil => nofun
  | cons pointer rest ih =>
    cases pointer with
    | none => exact absurd guarded (not_guarded_none rest)
    | some request =>
      simp only [List.cons_append, guarded_some, not_or, not_not] at unguarded
      have tail := (guarded_some.mp guarded).resolve_left (not_not.mpr unguarded.1)
      exact whole_some unguarded.1 (ih tail unguarded.2)

theorem Whole.requests (whole : Whole batch) :
    ∃ requests : List IngestEventRequest, batch = requests.map some ∧ ∀ request ∈ requests, request.Valid := by
  induction batch with
  | nil => exact ⟨[], rfl, nofun⟩
  | cons pointer rest ih =>
    obtain ⟨request, rfl, valid⟩ := whole pointer List.mem_cons_self
    obtain ⟨requests, rfl, all⟩ := ih (fun other member => whole other (List.mem_cons_of_mem _ member))
    refine ⟨request :: requests, rfl, ?_⟩
    intro other member
    rcases List.mem_cons.mp member with rfl | old
    · exact valid
    · exact all other old

end Order

section Panics
variable {σ : Type} (ports : Ports σ)

theorem keeps_true : ports.Keeps (fun _ => True) where
  now _ _ := trivial
  validate _ _ := Triple.of_final (fun _ _ => trivial)
  store _ := Triple.of_final (fun _ _ => trivial)
  publish _ _ := Triple.of_final (fun _ _ => trivial)

theorem preparePointersFrom_spec (correlationID : String) (start : Nat) (pointers : List (Option IngestEventRequest)) :
    (ports.preparePointersFrom correlationID start pointers).Spec (fun _ => Whole pointers) (¬Guarded pointers) := by
  induction pointers generalizing start with
  | nil => exact Risky.Spec.pure nofun
  | cons pointer rest ih =>
    cases pointer with
    | none =>
      have crashed : (ports.preparePointer correlationID start none).Spec (fun _ => False)
          (¬Guarded (none :: rest)) := by
        have called : (Risky.calling ports.generateID).Spec (fun _ => True) (¬Guarded (none :: rest)) :=
          .calling (Triple.of_final (fun _ _ => trivial))
        exact called.bind (fun _ _ => .crash (not_guarded_none rest))
      exact crashed.bind (fun _ impossible => impossible.elim)
    | some request =>
      have first : (ports.preparePointer correlationID start (some request)).Spec (fun _ => request.Valid)
          (¬Guarded (some request :: rest)) := by
        apply Risky.Spec.calling
        exact ((keeps_true ports).account.prepareBatchEvent_spec correlationID start request).weaken
          (fun _ _ made => made.1.1.valid) (fun _ _ => trivial)
      apply first.bind
      intro made valid
      have same : ¬Guarded rest → ¬Guarded (some request :: rest) := by
        rw [guarded_some, not_or, not_not]
        exact fun unguarded => ⟨valid, unguarded⟩
      have others := (ih (start + 1)).weaken (fun _ whole => whole_some valid whole) same
      exact others.bind (fun _ whole => .pure whole)

/-- A batch succeeds only on valid requests, and panics only if a nil pointer is not guarded. -/
theorem ingestPointers_spec (pointers : List (Option IngestEventRequest)) :
    (ports.ingestPointers pointers).Spec (fun _ => Whole pointers) (¬Guarded pointers) := by
  match pointers with
  | [] => exact Risky.Spec.pure nofun
  | none :: rest => exact .crash (not_guarded_none rest)
  | some first :: rest =>
    have chosen : (Risky.calling (ports.correlationOr first.correlationID)).Spec (fun _ => True)
        (¬Guarded (some first :: rest)) := .calling (Triple.of_final (fun _ _ => trivial))
    apply chosen.bind
    intro correlationID _
    apply (preparePointersFrom_spec ports correlationID 0 (some first :: rest)).bind
    intro prepared whole
    exact .calling ((Triple.of_final (fun _ _ => trivial)).weaken (fun _ _ _ => whole) (fun _ => id))

end Panics

section Willing
variable {pointers : List (Option IngestEventRequest)}

def willing (clock : Time) : Account (constantPorts clock) where
  done _ _ _ := True
  refused _ _ _ _ _ := False
  unstored _ _ _ := False
  unpublished _ _ _ _ := False
  now _ _ _ _ := trivial
  validate _ _ _ _ := Triple.pure (fun _ _ => trivial)
  store _ _ _ := Triple.pure (fun _ _ => trivial)
  publish _ _ _ _ := Triple.pure (fun _ _ => trivial)

theorem willing_rejected {clock : Time} {request : IngestEventRequest} (valid : request.Valid) {state : Unit}
    (rejected : (willing clock).Rejected request [] [] state) : False := by
  rcases rejected with ⟨invalid, -⟩ | ⟨-, refused⟩
  · exact invalid valid
  · exact refused

theorem willing_succeeds {α : Type} {action : Effect Unit α} {after : α → Unit → Prop}
    (steady : Triple (fun _ => True) action after (fun _ => False)) : ∃ value, action () = (.ok value, ()) := by
  obtain ⟨value, final, ran, -⟩ := @Triple.succeeds _ _ _ _ _ steady () trivial
  exact ⟨value, ran⟩

theorem ingestPointers_whole (clock : Time) (whole : Whole pointers) :
    ∃ eventIDs, (constantPorts clock).ingestPointers pointers () = (.returned (.ok eventIDs), ()) := by
  obtain ⟨requests, rfl, valid⟩ := whole.requests
  have never : ∀ state, (willing clock).BatchFailed requests state → False := by
    intro state failed
    cases failed with
    | invalid request member rejected => exact willing_rejected (valid request member) rejected
    | unstored _ _ _ _ _ _ failed => exact failed
    | unpublished _ _ _ _ _ _ failed => exact failed
  obtain ⟨eventIDs, ran⟩ := willing_succeeds (((willing clock).ingestEventBatch_spec requests).failing never)
  rw [Ports.ingestPointers_present]
  exact ⟨eventIDs, Risky.calling_ok ran⟩

theorem preparePointersFrom_panics (clock : Time) (correlationID : String) (start : Nat)
    (unguarded : ¬Guarded pointers) :
    ((constantPorts clock).preparePointersFrom correlationID start pointers ()).1 = .panicked := by
  induction pointers generalizing start with
  | nil => exact absurd guarded_nil unguarded
  | cons pointer rest ih =>
    cases pointer with
    | none => rfl
    | some request =>
      rw [guarded_some, not_or, not_not] at unguarded
      have one := (willing clock).prepareBatchEvent_spec correlationID start request
      obtain ⟨made, ran⟩ := willing_succeeds (one.failing (fun _ => willing_rejected unguarded.1))
      have first : (constantPorts clock).preparePointer correlationID start (some request) () =
          (.returned (.ok made), ()) := Risky.calling_ok ran
      rw [Ports.preparePointersFrom, Risky.bind_ok first]
      exact Risky.bind_panicked (ih (start + 1) unguarded.2)

theorem ingestPointers_panics (clock : Time) (unguarded : ¬Guarded pointers) :
    ((constantPorts clock).ingestPointers pointers ()).1 = .panicked := by
  match pointers with
  | [] => exact absurd guarded_nil unguarded
  | none :: rest => rfl
  | some first :: rest =>
    have chosen : ∃ correlationID, (constantPorts clock).correlationOr first.correlationID () =
        (.ok correlationID, ()) := by
      unfold Ports.correlationOr
      split
      next => exact ⟨_, rfl⟩
      next => exact ⟨_, rfl⟩
    obtain ⟨correlationID, ran⟩ := chosen
    rw [Ports.ingestPointers, Risky.bind_ok (Risky.calling_ok ran)]
    exact Risky.bind_panicked (preparePointersFrom_panics clock correlationID 0 unguarded)

end Willing
end EventGateway.Ingest
