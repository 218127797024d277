import EventGateway.Ingest.Service

/-! What ingestion stores and publishes. A journal beside the state of the ports records
every successful store and publish, without changing what the service does. -/

namespace EventGateway.Ingest
open Lib Lib.Effect

/-- The state of the ports with the stores and publishes that succeeded so far, and
whether the schema validator has turned data down. -/
structure Journal (σ : Type) where
  env : σ
  stored : List Event
  published : List (Event × String)
  rejected : Bool

namespace Journal
variable {σ : Type}

def start (env : σ) : Journal σ := ⟨env, [], [], false⟩

def noting (action : Effect σ Unit) (success failure : Journal σ → Journal σ) :
    Effect (Journal σ) Unit := fun journal =>
  match action journal.env with
  | (.ok (), env) => (.ok (), success { journal with env })
  | (.error err, env) => (.error err, failure { journal with env })

end Journal

namespace Ports
variable {σ τ : Type}

def journal (ports : Ports σ) : Ports (Journal σ) where
  now journal := ((ports.now journal.env).1, { journal with env := (ports.now journal.env).2 })
  store event := Journal.noting (ports.store event)
    (fun journal => { journal with stored := journal.stored ++ [event] }) id
  publish event topic := Journal.noting (ports.publish event topic)
    (fun journal => { journal with published := journal.published ++ [(event, topic)] }) id
  validate schemaURL data := Journal.noting (ports.validate schemaURL data) id
    (fun journal => { journal with rejected := true })

/-- Seen through `view`, the first ports behave as the second. -/
structure Mirrors (view : σ → τ) (fine : Ports σ) (coarse : Ports τ) : Prop where
  now : ∀ state, coarse.now (view state) = ((fine.now state).1, view (fine.now state).2)
  store : ∀ event, Effect.Mirrors view (fine.store event) (coarse.store event)
  publish : ∀ event topic, Effect.Mirrors view (fine.publish event topic) (coarse.publish event topic)
  validate : ∀ schemaURL data, Effect.Mirrors view (fine.validate schemaURL data) (coarse.validate schemaURL data)

namespace Mirrors
variable {view : σ → τ} {fine : Ports σ} {coarse : Ports τ} (same : Mirrors view fine coarse)
include same

theorem generateID : Effect.Mirrors view fine.generateID coarse.generateID :=
  (Effect.Mirrors.observe same.now).bind (fun _ =>
    (Effect.Mirrors.observe same.now).bind (fun _ => Effect.Mirrors.pure _))

theorem correlationOr (given : String) :
    Effect.Mirrors view (fine.correlationOr given) (coarse.correlationOr given) := by
  unfold Ports.correlationOr
  split
  · exact same.generateID
  · exact Effect.Mirrors.pure given

theorem validateAndEnrichEvent (request : IngestEventRequest) (eventID correlationID : String) :
    Effect.Mirrors view (fine.validateAndEnrichEvent request eventID correlationID)
      (coarse.validateAndEnrichEvent request eventID correlationID) := by
  refine (Effect.Mirrors.observe same.now).bind (fun timestamp => ?_)
  refine (Effect.Mirrors.observe same.now).bind (fun createdAt => ?_)
  cases request.toEntity eventID timestamp createdAt with
  | error err => exact Effect.Mirrors.fail _
  | ok start =>
    dsimp only
    split
    · exact ((same.validate _ _).wrap _).bind (fun _ => Effect.Mirrors.pure _)
    · exact Effect.Mirrors.pure _

theorem ingestEvent (request : IngestEventRequest) :
    Effect.Mirrors view (fine.ingestEvent request) (coarse.ingestEvent request) := by
  refine same.generateID.bind (fun eventID => ?_)
  refine (same.correlationOr _).bind (fun correlationID => ?_)
  refine (same.validateAndEnrichEvent request eventID correlationID).bind (fun event => ?_)
  have kept := ((same.store event).wrap "failed to store event: ").bind (fun _ =>
    ((same.publish event ("events." ++ request.type)).wrap "failed to publish event: ").bind
      (fun _ => Effect.Mirrors.pure event))
  exact Effect.Mirrors.bind kept (fun _ => Effect.Mirrors.pure eventID)

theorem ingestEventBatch (requests : List IngestEventRequest) :
    Effect.Mirrors view (fine.ingestEventBatch requests) (coarse.ingestEventBatch requests) := by
  cases requests with
  | nil => exact Effect.Mirrors.pure []
  | cons first rest =>
    refine (same.correlationOr _).bind (fun correlationID => ?_)
    have turn (index : Nat) (request : IngestEventRequest) :
        Effect.Mirrors view (fine.prepareBatchEvent correlationID index request)
          (coarse.prepareBatchEvent correlationID index request) :=
      same.generateID.bind (fun eventID =>
        ((same.validateAndEnrichEvent request eventID correlationID).wrap _).bind
          (fun _ => Effect.Mirrors.pure _))
    have prepared := (Effect.Mirrors.collectFrom turn (first :: rest) 0).bind
      (fun made => Effect.Mirrors.pure (made.map Prod.fst, made.map Prod.snd))
    refine Effect.Mirrors.bind prepared (fun made => ?_)
    have kept := Effect.Mirrors.eachFrom (fun index event => (same.store event).wrap
      s!"failed to store event at index {index}: ") made.1 0
    refine Effect.Mirrors.bind kept (fun _ => ?_)
    have sent := Effect.Mirrors.eachFrom (fun index event =>
      (same.publish event ("events." ++ event.eventType)).wrap
        s!"failed to publish event at index {index}: ") made.1 0
    exact Effect.Mirrors.bind sent (fun _ => Effect.Mirrors.pure made.2)

end Mirrors

theorem noting_mirrors (action : Effect σ Unit) {success failure : Journal σ → Journal σ}
    (kept : ∀ journal, (success journal).env = journal.env)
    (kept' : ∀ journal, (failure journal).env = journal.env) :
    Effect.Mirrors Journal.env (Journal.noting action success failure) action := by
  intro journal
  unfold Journal.noting
  rcases action journal.env with ⟨err | _, env⟩
  · simp only [kept']
  · simp only [kept]

theorem journal_mirrors (ports : Ports σ) : Mirrors Journal.env ports.journal ports where
  now _ := rfl
  store _ := noting_mirrors _ (fun _ => rfl) (fun _ => rfl)
  publish _ _ := noting_mirrors _ (fun _ => rfl) (fun _ => rfl)
  validate _ _ := noting_mirrors _ (fun _ => rfl) (fun _ => rfl)

end Ports

theorem Journal.noting_spec {σ : Type} {action : Effect σ Unit} {success failure : Journal σ → Journal σ}
    {before after failed : Journal σ → Prop}
    (succeeds : ∀ journal env, before journal → after (success { journal with env }))
    (fails : ∀ journal err env, action journal.env = (.error err, env) → before journal →
      failed (failure { journal with env })) :
    Triple before (Journal.noting action success failure) (fun _ => after) failed := by
  intro journal reached
  unfold Journal.noting
  rcases ran : action journal.env with ⟨err | _, env⟩
  · exact fails journal err env ran reached
  · exact succeeds journal env reached

def Journal.Shows {σ : Type} (stored : List Event) (published : List (Event × String))
    (journal : Journal σ) : Prop :=
  journal.stored = stored ∧ journal.published = published ∧ journal.rejected = false

def journalAccount {σ : Type} (ports : Ports σ) : Account ports.journal where
  done := Journal.Shows
  refused stored published _ _ journal := journal.stored = stored ∧ journal.published = published
  unstored := Journal.Shows
  unpublished stored published _ := Journal.Shows stored published
  now _ _ _ reached := reached
  validate stored published schemaURL data := by
    simp only [Ports.journal]
    apply Journal.noting_spec
    · exact fun journal env reached => reached
    · exact fun journal _ env _ reached => ⟨reached.1, reached.2.1⟩
  store stored published event := by
    simp only [Ports.journal]
    apply Journal.noting_spec
    · exact fun journal env reached => ⟨congrArg (· ++ [event]) reached.1, reached.2⟩
    · exact fun journal _ env _ reached => reached
  publish stored published event topic := by
    simp only [Ports.journal]
    apply Journal.noting_spec
    · exact fun journal env reached =>
        ⟨reached.1, congrArg (· ++ [(event, topic)]) reached.2.1, reached.2.2⟩
    · exact fun journal _ env _ reached => reached

theorem valid_of_built {correlationID : String} {requests : List IngestEventRequest}
    {events : List Event} (built : List.Forall₂ (BuiltFrom correlationID) requests events) :
    ∀ request ∈ requests, request.Valid := by
  induction built with
  | nil => simp
  | cons own _ ih =>
    intro request member
    rcases List.mem_cons.mp member with rfl | later
    · exact own.valid
    · exact ih request later

theorem not_rejected {σ : Type} {correlationID : String} {requests : List IngestEventRequest}
    {events : List Event} (built : List.Forall₂ (BuiltFrom correlationID) requests events)
    {stored : List Event} {published : List (Event × String)} {journal : Journal σ}
    (shown : journal.Shows stored published) :
    ¬((∃ request ∈ requests, ¬request.Valid) ∨ journal.rejected = true) := by
  rintro (⟨request, member, invalid⟩ | rejected)
  · exact invalid (valid_of_built built request member)
  · rw [shown.2.2] at rejected
    cases rejected

/-- Batch ingestion goes phase by phase: whatever the ports do, the published events are
a prefix of the stored ones, these a prefix of the events built from the requests in
order. An invalid request keeps both empty, and success is the complete sequence. -/
theorem ingestEventBatch_phases {σ : Type} (ports : Ports σ) (requests : List IngestEventRequest)
    (env : σ) :
    let run := ports.journal.ingestEventBatch requests (Journal.start env)
    ports.ingestEventBatch requests env = (run.1, run.2.env) ∧
    ∃ correlationID built,
      List.Forall₂ (BuiltFrom correlationID) (requests.take built.length) built ∧
      run.2.stored <+: built ∧
      run.2.published <+: run.2.stored.map publication ∧
      ((∃ request ∈ requests, ¬request.Valid) ∨ run.2.rejected = true →
        run.2.stored = [] ∧ run.2.published = []) ∧
      ((∃ eventIDs, run.1 = .ok eventIDs) ↔ built.length = requests.length ∧
        run.2.stored = built ∧ run.2.published = built.map publication) ∧
      ∀ eventIDs, run.1 = .ok eventIDs →
        eventIDs = built.map Event.id ∧ eventIDs.length = requests.length := by
  intro run
  refine ⟨ports.journal_mirrors.ingestEventBatch requests (Journal.start env), ?_⟩
  have spec := (journalAccount ports).ingestEventBatch_spec requests
  have fresh : (journalAccount ports).done [] [] (Journal.start env) := ⟨rfl, rfl, rfl⟩
  rcases ran : run with ⟨err | eventIDs, after⟩
  · cases spec.error fresh ran with
    | invalid request member rejected =>
      have empty : after.stored = [] ∧ after.published = [] := by
        rcases rejected with ⟨-, shown⟩ | ⟨-, shown⟩
        · exact ⟨shown.1, shown.2.1⟩
        · exact shown
      have some : requests.length ≠ 0 := (List.length_pos_of_mem member).ne'
      refine ⟨"", [], by simp, by simp [empty.1], by simp [empty.2], fun _ => empty, ?_, by simp⟩
      simp only [reduceCtorEq, exists_false, List.length_nil, false_iff, not_and]
      exact fun none => absurd none.symm some
    | unstored correlationID events done built part short shown =>
      have whole : events.length = requests.length := built.length_eq.symm
      refine ⟨correlationID, events, by rwa [whole, List.take_length], ?_, ?_,
        fun rejected => absurd rejected (not_rejected built shown), ?_, by simp⟩
      · rwa [shown.1]
      · simp [shown.2.1]
      · simp only [reduceCtorEq, exists_false, false_iff, shown.1]
        rintro ⟨-, rfl, -⟩
        omega
    | unpublished correlationID events done event built part shown =>
      have whole : events.length = requests.length := built.length_eq.symm
      refine ⟨correlationID, events, by rwa [whole, List.take_length], ?_, ?_,
        fun rejected => absurd rejected (not_rejected built shown), ?_, by simp⟩
      · rw [shown.1]
      · rw [shown.1, shown.2.1]
        exact ((List.prefix_append done [event]).trans part).map publication
      · simp only [reduceCtorEq, exists_false, false_iff, shown.1, shown.2.1]
        rintro ⟨-, -, same⟩
        have lengths := congrArg List.length same
        have bound := part.length_le
        simp only [List.length_map, List.length_append, List.length_singleton] at lengths bound
        omega
  · obtain ⟨correlationID, events, -, built, ids, shown⟩ := spec.ok fresh ran
    have whole : events.length = requests.length := built.length_eq.symm
    refine ⟨correlationID, events, by rwa [whole, List.take_length], ?_, ?_,
      fun rejected => absurd rejected (not_rejected built shown), ?_, ?_⟩
    · rw [shown.1]
    · rw [shown.1, shown.2.1]
    · exact ⟨fun _ => ⟨whole, shown.1, shown.2.1⟩, fun _ => ⟨eventIDs, rfl⟩⟩
    · intro returned same
      cases same
      exact ⟨ids, by rw [ids, List.length_map, whole]⟩

end EventGateway.Ingest
